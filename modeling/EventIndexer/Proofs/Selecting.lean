import EventIndexer.CommandLine.Command
import EventIndexer.Proofs.Readback

/-! Selections by recipient.  Options that are spelled out, each with its value behind it, are read
as they stand, and an address is read alike in whatever case its letters are. -/

namespace EventIndexer

/-! ### Letter case -/

namespace Hex

/-- Only capitals change when letters are lowered. -/
theorem toLower_eq_or (c : Char) : c.toLower = c ∨ ∃ i < 26, c = Char.ofNat (65 + i) := by
  by_cases h : 65 ≤ c.toNat ∧ c.toNat ≤ 90
  · exact .inr ⟨c.toNat - 65, by omega, by rw [Nat.add_sub_cancel' h.1, Char.ofNat_toNat]⟩
  · exact .inl (dif_neg h)

theorem digit?_toLower (c : Char) : digit? c.toLower = digit? c := by
  rcases toLower_eq_or c with h | ⟨i, hi, rfl⟩
  · rw [h]
  · revert i
    decide

theorem number?_map_toLower (digits : List Char) (read : Nat) :
    number? (digits.map Char.toLower) read = number? digits read := by
  induction digits generalizing read with
  | nil => rfl
  | cons c digits ih => simp only [List.map_cons, number?, digit?_toLower, ih]

theorem unprefixed_cons_cons (c d : Char) (rest : List Char) :
    unprefixed (c :: d :: rest) =
      if c = '0' ∧ (d = 'x' ∨ d = 'X') then rest else c :: d :: rest := by
  unfold unprefixed
  split <;> simp_all

theorem unprefixed_map_toLower (text : List Char) :
    unprefixed (text.map Char.toLower) = (unprefixed text).map Char.toLower := by
  have hzero (c : Char) : c.toLower = '0' ↔ c = '0' := by
    rcases toLower_eq_or c with h | ⟨i, hi, rfl⟩
    · rw [h]
    · revert i
      decide
  have hmark (c : Char) : c.toLower = 'x' ∨ c.toLower = 'X' ↔ c = 'x' ∨ c = 'X' := by
    rcases toLower_eq_or c with h | ⟨i, hi, rfl⟩
    · rw [h]
    · revert i
      decide
  match text with
  | [] => rfl
  | [c] => simp [unprefixed]
  | c :: d :: rest =>
    simp only [List.map_cons, unprefixed_cons_cons, hzero, hmark]
    split <;> rfl

end Hex

namespace Address

/-- Letter case makes no difference to the address that a text stands for. -/
theorem parse?_of_toLower {text other : String}
    (h : text.toList.map Char.toLower = other.toList) :
    Address.parse? text = Address.parse? other := by
  rw [Address.parse?, Address.parse?, ← h, Hex.unprefixed_map_toLower, Hex.number?_map_toLower,
    List.length_map]

theorem parse?_text (address : Address) : Address.parse? address.text = some address := by
  have hlt : address.toNat < 16 ^ 40 := address.isLt
  rw [Address.parse?, Address.text, Hex.unprefixed_toList, digits, Hex.number?_digits_of_lt hlt,
    Hex.guard_length_digits]
  simp

theorem checksum_inj {a b : Address} : a.checksum = b.checksum ↔ a = b := by
  refine ⟨fun h => ?_, congrArg checksum⟩
  have hread : some a = some b := by rw [← parse?_checksum a, ← parse?_checksum b, h]
  exact Option.some.inj hread

end Address

/-! ### Options spelled out -/

theorem Split.first_of_notMem {separator : Char} {text : List Char} (h : separator ∉ text) :
    Split.first separator text = (text, none) := by
  induction text with
  | nil => rfl
  | cons c rest ih =>
    obtain ⟨hne, hrest⟩ := List.ne_and_not_mem_of_not_mem_cons h
    simp [Split.first, Ne.symm hne, ih hrest]

namespace CommandLine

variable {specs : List OptionSpec} {spec : OptionSpec} {given : Given} {text : String}

/-- Whether an option is one of some options and takes a value from the argument behind it. -/
structure OptionSpec.Takes (specs : List OptionSpec) (spec : OptionSpec) : Prop where
  found : specs.find? (·.name == spec.name) = some spec
  arity : spec.arity ≠ .flag
  name : '=' ∉ spec.name.toList ∧ spec.name ≠ ""

/-- The arguments that give options a value each. -/
def spelled (values : List (OptionSpec × String)) : List String :=
  values.flatMap fun (spec, text) => ["--" ++ spec.name, text]

theorem argument_name (h : spec.Takes specs) (reading : Reading) :
    reading.argument specs ("--" ++ spec.name) = do
      return { given := ← reading.settle, pending := some (spec, none) } := by
  have hname : ("--" ++ spec.name).toList = '-' :: '-' :: spec.name.toList := by simp
  unfold Reading.argument
  simp only [hname, Split.first_of_notMem h.name.1, String.ofList_toList, h.found, Option.map_none]
  rw [Reading.option, if_neg h.arity]

theorem argument_value (htext : text.toList.head? ≠ some '-') :
    Reading.argument specs { given, pending := some (spec, none) } text =
      .ok { given, pending := some (spec, some text) } := by
  unfold Reading.argument
  split <;> simp_all

theorem arguments_cons (htext : text ≠ "--") (reading : Reading) (rest : List String) :
    reading.arguments specs (text :: rest) =
      (do (← reading.argument specs text).arguments specs rest) := by
  rw [Reading.arguments]
  exact htext

/-- Options that are spelled out are accepted from left to right. -/
theorem arguments_spelled {values : List (OptionSpec × String)}
    (hspecs : ∀ value ∈ values, value.1.Takes specs)
    (htexts : ∀ value ∈ values, value.2.toList.head? ≠ some '-') (reading : Reading) :
    reading.arguments specs (spelled values) = (do
      let given ← reading.settle
      values.foldlM (fun given value => accept given value.1 (some value.2)) given) := by
  induction values generalizing reading with
  | nil => cases h : reading.settle <;> simp [spelled, Reading.arguments, h]
  | cons value rest ih =>
    obtain ⟨spec, text⟩ := value
    obtain ⟨hspec, hspecs⟩ := List.forall_mem_cons.mp hspecs
    obtain ⟨htext, htexts⟩ := List.forall_mem_cons.mp htexts
    have hname : "--" ++ spec.name ≠ "--" := fun h => hspec.name.2 (by simpa using h)
    have hvalue : text ≠ "--" := by
      rintro rfl
      exact htext (by simp)
    have hcons : spelled ((spec, text) :: rest) = ("--" ++ spec.name) :: text :: spelled rest := rfl
    rw [hcons, arguments_cons hname, argument_name hspec]
    cases hsettle : reading.settle with
    | error refusal => rfl
    | ok given =>
      simp only [bind, Except.bind, pure, Except.pure, List.foldlM_cons]
      rw [arguments_cons hvalue, argument_value htext]
      exact ih hspecs htexts _

/-- What options were given, each a value. -/
def asGiven (values : List (OptionSpec × String)) : Given :=
  values.map fun (spec, text) => (spec.name, [text])

theorem any_asGiven {values : List (OptionSpec × String)} {name : String} :
    (asGiven values).any (·.1 == name) = true ↔ name ∈ values.map (·.1.name) := by
  rw [asGiven, List.any_map, List.any_eq_true, List.mem_map]
  exact exists_congr fun value => and_congr_right fun _ => beq_iff_eq

/-- Options of one value are all accepted, if they differ and none of the values is refused. -/
theorem accept_all {front values : List (OptionSpec × String)}
    (hsingle : ∀ value ∈ values, value.1.arity = .single ∧ value.1.value.refusal value.2 = none)
    (hnodup : ((front ++ values).map (·.1.name)).Nodup) :
    values.foldlM (fun given value => accept given value.1 (some value.2)) (asGiven front) =
      .ok (asGiven (front ++ values)) := by
  induction values generalizing front with
  | nil => simp; rfl
  | cons value rest ih =>
    obtain ⟨⟨harity, hvalue⟩, hrest⟩ := List.forall_mem_cons.mp hsingle
    have hnew : (asGiven front).any (·.1 == value.1.name) = false := by
      rw [Bool.eq_false_iff, ne_eq, any_asGiven]
      intro hmem
      rw [List.map_append, List.nodup_append] at hnodup
      exact hnodup.2.2 _ hmem _ (by simp) rfl
    have haccept : accept (asGiven front) value.1 (some value.2) =
        .ok (asGiven (front ++ [value])) := by
      have hmore : asGiven (front ++ [value]) = asGiven front ++ [(value.1.name, [value.2])] := by
        simp [asGiven]
      simp [accept, harity, hnew, hvalue, hmore]
    rw [List.foldlM_cons, haccept]
    have happend : front ++ value :: rest = front ++ [value] ++ rest := by simp
    rw [happend] at hnodup ⊢
    exact ih hrest hnodup

/-- Nothing is taken from the environment for options that are given or have no variable. -/
theorem fromEnvironment_of_given {environment : String → Option String}
    (h : ∀ spec ∈ specs, spec.envVar = none ∨ given.any (·.1 == spec.name) = true) :
    fromEnvironment environment specs given = .ok given := by
  induction specs with
  | nil => rfl
  | cons spec rest ih =>
    obtain ⟨hspec, hrest⟩ := List.forall_mem_cons.mp h
    rw [fromEnvironment]
    rcases hspec with hnone | hgiven
    · simp [hnone, ih hrest]
    · simp [hgiven, ih hrest]

theorem value?_asGiven {values : List (OptionSpec × String)} {name : String} :
    (asGiven values).value? name = (values.find? (·.1.name == name)).map (·.2) := by
  induction values with
  | nil => rfl
  | cons value rest ih =>
    unfold Given.value? Given.values asGiven at ih ⊢
    rw [List.map_cons, List.filter_cons, List.find?_cons]
    cases h : value.1.name == name <;> simp [ih]

/-- A command line with a value for each required option, spelled out, is read as it stands. -/
theorem readOptions_spelled {values : List (OptionSpec × String)}
    {environment : String → Option String} (hspecs : ∀ value ∈ values, value.1.Takes specs)
    (htexts : ∀ value ∈ values, value.2.toList.head? ≠ some '-')
    (hsingle : ∀ value ∈ values, value.1.arity = .single ∧ value.1.value.refusal value.2 = none)
    (hnodup : (values.map (·.1.name)).Nodup)
    (hgiven : ∀ spec ∈ specs, (spec.required = true ∨ spec.envVar ≠ none) →
      spec.name ∈ values.map (·.1.name)) :
    readOptions specs environment (spelled values) = .ok (asGiven values) := by
  have hread : Reading.arguments specs {} (spelled values) = .ok (asGiven values) := by
    rw [arguments_spelled hspecs htexts]
    have hempty : asGiven [] = [] := rfl
    have haccepted := accept_all hsingle (by rwa [List.nil_append])
    rwa [hempty, List.nil_append] at haccepted
  have henvironment : fromEnvironment environment specs (asGiven values) = .ok (asGiven values) :=
    fromEnvironment_of_given fun spec hmem => or_iff_not_imp_left.mpr fun hvar =>
      any_asGiven.mpr (hgiven spec hmem (.inr hvar))
  have hrequired : (specs.any fun spec =>
      spec.required && ((asGiven values).value? spec.name).isNone) = false := by
    rw [List.any_eq_false]
    intro spec hmem hmissing
    obtain ⟨hrequired, hnone⟩ := Bool.and_eq_true_iff.mp hmissing
    obtain ⟨value, hvalue, hname⟩ := List.mem_map.mp (hgiven spec hmem (.inl hrequired))
    rw [value?_asGiven, Option.isNone_map, Option.isNone_iff_eq_none, List.find?_eq_none] at hnone
    exact hnone value hvalue (by simp [hname])
  simp [readOptions, hread, henvironment, hrequired, bind, Except.bind, pure, Except.pure]

/-! ### The command line of a selection -/

/-- A database, and a recipient whose rewards are added. -/
def selection (url text : String) : List (OptionSpec × String) :=
  [(selectOptions[0], url), (selectOptions[1], Entity.rewardsSum.word), (selectOptions[3], text)]

theorem takes_selectOptions : ∀ spec ∈ selectOptions, spec.Takes selectOptions := by
  intro spec hmem
  simp only [selectOptions, List.mem_cons, List.not_mem_nil, or_false] at hmem
  rcases hmem with rfl | rfl | rfl | rfl <;> exact ⟨rfl, by decide, by decide⟩

theorem names_selection (url text : String) :
    (selection url text).map (·.1.name) = ["db-url", "entity", "referral"] := rfl

theorem readOptions_selection {url text : String} (hurl : url.toList.head? ≠ some '-')
    (htext : text.toList.head? ≠ some '-') (haddress : isAddress text = true)
    (environment : String → Option String) :
    readOptions selectOptions environment (spelled (selection url text)) =
      .ok (asGiven (selection url text)) := by
  refine readOptions_spelled ?_ ?_ ?_ (by rw [names_selection]; decide) ?_
  · simp [selection, takes_selectOptions]
  · simpa [selection, hurl, htext] using by decide
  · simp [selection, selectOptions, Value.refusal, haddress]
    decide
  · rw [names_selection]
    decide

theorem parse_selection {url text : String} {address : Address}
    (hurl : url.toList.head? ≠ some '-')
    (htext : text.toList.map Char.toLower = address.text.toList)
    (environment : String → Option String) :
    parse ["select", "--db-url", url, "--entity", "rewards-sum", "--referral", text] environment =
      .ok (.select { databaseUrl := url, entity := .rewardsSum, referral := some address }) := by
  have hread : Address.parse? text = some address := by
    rw [Address.parse?_of_toLower htext, Address.parse?_text]
  have hhead : text.toList.head? ≠ some '-' := by
    intro h
    have hlower := congrArg List.head? htext
    rw [List.head?_map, h] at hlower
    simp [Address.text] at hlower
  have hgiven := readOptions_selection hurl hhead (by simp [isAddress, hread]) environment
  have hspelled : spelled (selection url text) =
      ["--db-url", url, "--entity", "rewards-sum", "--referral", text] := rfl
  rw [hspelled] at hgiven
  have hentity : Entity.all.find? (·.word == Entity.rewardsSum.word) = some .rewardsSum := by decide
  simp only [parse, hgiven, bind, Except.bind, pure, Except.pure, readQuery, value?_asGiven]
  simp [selection, selectOptions, hread, hentity]

end CommandLine

end EventIndexer
