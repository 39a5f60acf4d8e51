import EventIndexer.CommandLine.Command
import EventIndexer.Proofs.Owners
import Mathlib.Data.List.Destutter
import Mathlib.Data.List.Sort

/-! The kinds that a command line selects.  Whatever the order of a selection and however often it
names a kind, the kinds that are followed are in the order of their declaration and each of them is
there once, so a selection counts as the set of its kinds. -/

namespace EventIndexer

namespace Kind

/-- Whether a kind comes no later than another one in the order of declaration. -/
def NotAfter (a b : Kind) : Prop := a.rank ≤ b.rank

instance : DecidableRel NotAfter := fun a b => inferInstanceAs (Decidable (a.rank ≤ b.rank))

instance : Std.Total NotAfter where
  total a b := Nat.le_total a.rank b.rank

instance : IsTrans Kind NotAfter where
  trans _ _ _ hab hbc := Nat.le_trans hab hbc

instance : Std.Antisymm NotAfter where
  antisymm a b hab hba := by
    have hrank : a.rank = b.rank := Nat.le_antisymm hab hba
    cases a <;> cases b <;> first | rfl | exact absurd hrank (by decide)

theorem mem_all (kind : Kind) : kind ∈ all := by cases kind <;> decide

theorem nodup_all : all.Nodup := by decide

theorem pairwise_all : all.Pairwise NotAfter := by decide

end Kind

namespace CommandLine

variable {kind : Kind} {kinds selected : List Kind}

/-! ### Sorting -/

theorem insertKind_eq (kind : Kind) (kinds : List Kind) :
    insertKind kind kinds = kinds.orderedInsert Kind.NotAfter kind := by
  induction kinds with
  | nil => rfl
  | cons next rest ih =>
    rw [insertKind, List.orderedInsert_cons, ih]
    rfl

theorem foldr_insertKind (kinds : List Kind) :
    kinds.foldr insertKind [] = kinds.insertionSort Kind.NotAfter := by
  have hinsert : insertKind = List.orderedInsert Kind.NotAfter := funext₂ insertKind_eq
  rw [hinsert]
  rfl

theorem dropRepeats_eq (kinds : List Kind) : dropRepeats kinds = kinds.destutter (· ≠ ·) := by
  fun_induction dropRepeats kinds with
  | case1 | case2 => rfl
  | case3 first rest ih =>
    rw [ih, List.destutter_cons_cons, if_neg (not_not_intro rfl), List.destutter_cons']
  | case4 first second rest hne ih =>
    rw [ih, List.destutter_cons_cons, if_pos hne, List.destutter_cons']

/-- Repeats are all adjacent once a selection is sorted, so dropping those leaves no other. -/
theorem eventKinds_of_ne_nil (h : selected ≠ []) :
    eventKinds selected = (selected.insertionSort Kind.NotAfter).dedup := by
  have hsorted := List.pairwise_insertionSort Kind.NotAfter selected
  rw [eventKinds, if_neg (by simpa using h), foldr_insertKind, dropRepeats_eq,
    hsorted.destutter_eq_dedup]

theorem nodup_eventKinds (selected : List Kind) : (eventKinds selected).Nodup := by
  by_cases h : selected = []
  · subst h
    exact Kind.nodup_all
  · rw [eventKinds_of_ne_nil h]
    exact List.nodup_dedup _

theorem pairwise_eventKinds (selected : List Kind) :
    (eventKinds selected).Pairwise Kind.NotAfter := by
  by_cases h : selected = []
  · subst h
    exact Kind.pairwise_all
  · rw [eventKinds_of_ne_nil h]
    exact (List.pairwise_insertionSort _ _).sublist (List.dedup_sublist _)

theorem mem_eventKinds : kind ∈ eventKinds selected ↔ selected = [] ∨ kind ∈ selected := by
  by_cases h : selected = []
  · subst h
    exact iff_of_true kind.mem_all (.inl rfl)
  · rw [eventKinds_of_ne_nil h, List.mem_dedup, List.mem_insertionSort, or_iff_right h]

theorem eventKinds_ne_nil (selected : List Kind) : eventKinds selected ≠ [] := by
  cases selected with
  | nil => decide
  | cons kind rest => exact List.ne_nil_of_mem (mem_eventKinds.mpr (.inr List.mem_cons_self))

/-- A list of kinds that are in order and all different is told by its members. -/
theorem eq_of_mem_iff {a b : List Kind} (ha : a.Nodup) (hb : b.Nodup)
    (hsorted : a.Pairwise Kind.NotAfter) (hother : b.Pairwise Kind.NotAfter)
    (h : ∀ kind, kind ∈ a ↔ kind ∈ b) : a = b :=
  ((List.perm_ext_iff_of_nodup ha hb).mpr h).eq_of_pairwise' hsorted hother

/-- The kinds that are followed are the selected ones of all kinds. -/
theorem eventKinds_eq_filter (selected : List Kind) :
    eventKinds selected = Kind.all.filter fun kind => selected = [] ∨ kind ∈ selected := by
  refine eq_of_mem_iff (nodup_eventKinds selected) (Kind.nodup_all.filter _)
    (pairwise_eventKinds selected) (Kind.pairwise_all.filter _) fun kind => ?_
  simp [mem_eventKinds, kind.mem_all]

/-! ### Settings -/

theorem find?_word (kind : Kind) : Kind.all.find? (·.word == kind.word) = some kind := by
  cases kind <;> decide

/-- The words of a selection are read as the kinds that they stand for. -/
theorem events_readSettings {given : Given} (h : given.values "events" = selected.map Kind.word) :
    (readSettings given).events = eventKinds selected := by
  have hread : (selected.map Kind.word).filterMap (fun word => Kind.all.find? (·.word == word)) =
      selected := by
    simp only [List.filterMap_map, Function.comp_def, find?_word, List.filterMap_some]
  rw [readSettings, h, hread]

end CommandLine

namespace Settings

theorem validate_ne_of_events {settings : Settings} (h : settings.events ≠ []) :
    settings.validate ≠
      .error (Cause.configuration "at least one event kind must be tracked") := by
  unfold validate
  rw [if_neg h]
  split_ifs <;> simp

end Settings

namespace CommandLine

/-- A selection of kinds counts as the set of its kinds.  The kinds that are followed are those of
the selection, all of them if it is empty, each once and in the order of declaration; so another
selection of the same kinds makes no difference.  A command line that names the selection sets the
engine to follow them.  Whatever else is set, it is not refused for a lack of kinds, and its
watchers, with one cursor a kind if there is one for each, share no cursor. -/
theorem eventKinds_canonical (selected : List Kind) :
    let kinds := eventKinds selected
    kinds.Nodup ∧ kinds.Sublist Kind.all ∧
    (∀ kind, kind ∈ kinds ↔ selected = [] ∨ kind ∈ selected) ∧
    (selected = [] → kinds = Kind.all) ∧
    (∀ others, (∀ kind, kind ∈ others ↔ kind ∈ selected) → eventKinds others = kinds) ∧
    (∀ given : Given, given.values "events" = selected.map Kind.word →
      (readSettings given).events = kinds) ∧
    ∀ settings : Settings, settings.events = kinds →
      settings.validate ≠
        .error (Cause.configuration "at least one event kind must be tracked") ∧
      (settings.watcherPerEvent = true →
        settings.watchers.map (·.key) = kinds.map (watcherKey settings.cursorKey)) ∧
      (settings.watchers.map (·.key)).Nodup := by
  intro kinds
  refine ⟨nodup_eventKinds selected, ?_, fun kind => mem_eventKinds, ?_, fun others hsame => ?_,
    fun given => events_readSettings, fun settings hevents => ⟨?_, fun hper => ?_, ?_⟩⟩
  · show (eventKinds selected).Sublist Kind.all
    rw [eventKinds_eq_filter]
    exact List.filter_sublist
  · rintro rfl
    rfl
  · have hempty : others = [] ↔ selected = [] := by
      simp only [List.eq_nil_iff_forall_not_mem, hsame]
    show eventKinds others = eventKinds selected
    simp only [eventKinds_eq_filter, hempty, hsame]
  · exact Settings.validate_ne_of_events (hevents ▸ eventKinds_ne_nil selected)
  · rw [← hevents]
    exact settings.keys_of_perEvent hper
  · exact settings.nodup_keys_iff.mpr fun _ => hevents ▸ nodup_eventKinds selected

example : eventKinds [.unstake, .transfer, .unstake] = [.transfer, .unstake] := by decide

end CommandLine

end EventIndexer
