import EventIndexer.Store.Rewards
import Mathlib.Algebra.BigOperators.Group.Multiset.Basic
import Mathlib.Data.List.Perm.Basic
import Mathlib.Data.Prod.Lex
import Mathlib.Data.String.Basic

/-! Totals of rewards.  Rewards are a multiset, each in the group of its recipient and level.  The
sums of a database are a summary of its rewards: the groups in ascending order, each with the exact
total of its amounts.  A total that does not fit is found in whatever order rewards are added, as
totals only grow. -/

namespace EventIndexer

/-- A reward that has been read back from a row. -/
structure Reward where
  referral : String
  level : Int
  amount : Nat
  deriving DecidableEq, Repr

/-- The reward that an event stands for; none if it is of another kind or has no amount. -/
def Event.reward? (event : Event) : Option Reward :=
  match event.details with
  | .rewardReferral _ referral level text =>
    (Amount.parse? text).map fun amount => { referral, level, amount }
  | _ => none

/-- A recipient and a level.  Groups are compared by recipient first. -/
abbrev Group := String ×ₗ Int

def Reward.group (reward : Reward) : Group := toLex (reward.referral, reward.level)

def RewardSum.group (sum : RewardSum) : Group := toLex (sum.referral, sum.level)

theorem Amount.bound_eq : Amount.bound = 2 ^ 256 := by decide

theorem RewardSum.eq_of_group {a b : RewardSum} (hgroup : a.group = b.group)
    (htotal : a.total = b.total) : a = b := by
  obtain ⟨referral, level, total⟩ := a
  obtain ⟨otherReferral, otherLevel, otherTotal⟩ := b
  simp_all [RewardSum.group]

namespace Rewards

/-- What the rewards of a group come to. -/
def due (rewards : Multiset Reward) (group : Group) : Nat :=
  ((rewards.filter (·.group = group)).map Reward.amount).sum

/-- Whether sums are those of some rewards: one for each group that has a reward, in ascending
order, with the exact total. -/
structure Summary (rewards : Multiset Reward) (sums : List RewardSum) : Prop where
  ascending : sums.Pairwise fun a b => a.group < b.group
  groups : ∀ group, (∃ sum ∈ sums, sum.group = group) ↔ ∃ reward ∈ rewards, reward.group = group
  exact : ∀ sum ∈ sums, sum.total = due rewards sum.group

/-- Whether a result is what adding up some rewards must give: sums exactly if every total is an
amount. -/
structure Answers (rewards : Multiset Reward) (result : Except Failure (List RewardSum)) :
    Prop where
  succeeds : (∃ sums, result = .ok sums) ↔ ∀ group, due rewards group < 2 ^ 256
  summary : ∀ sums, result = .ok sums → Summary rewards sums

variable {rewards : Multiset Reward} {reward : Reward} {sums : List RewardSum} {sum : RewardSum}
  {group : Group} {referral : String} {level : Int} {amount : Nat}

/-! ### Exact totals -/

@[simp] theorem due_zero (group : Group) : due 0 group = 0 := rfl

theorem due_cons (reward : Reward) (rewards : Multiset Reward) (group : Group) :
    due (reward ::ₘ rewards) group =
      due rewards group + if reward.group = group then reward.amount else 0 := by
  unfold due
  by_cases h : reward.group = group
  · simp [h, Nat.add_comm]
  · simp [h]

/-- Totals only grow. -/
theorem due_mono {other : Multiset Reward} (h : rewards ≤ other) (group : Group) :
    due rewards group ≤ due other group := by
  obtain ⟨rest, rfl⟩ := Multiset.le_iff_exists_add.mp h
  simp [due]

theorem due_eq_zero (h : ¬∃ reward ∈ rewards, reward.group = group) : due rewards group = 0 := by
  have hnone : rewards.filter (·.group = group) = 0 :=
    Multiset.filter_eq_nil.mpr fun reward hmem hgroup => h ⟨reward, hmem, hgroup⟩
  simp [due, hnone]

/-- A group has all that is due to it among the rewards of its recipient. -/
theorem due_filter_referral (rewards : Multiset Reward) (group : Group) :
    due (rewards.filter (·.referral = (ofLex group).1)) group = due rewards group := by
  unfold due
  rw [Multiset.filter_filter]
  congr 2
  refine Multiset.filter_congr fun reward _ => and_iff_left_iff_imp.mpr ?_
  rintro rfl
  rfl

/-! ### Summaries -/

namespace Summary

theorem nil : Summary 0 [] := ⟨.nil, by simp, nofun⟩

theorem mem_iff (h : Summary rewards sums) : sum ∈ sums ↔
    (∃ reward ∈ rewards, reward.group = sum.group) ∧ sum.total = due rewards sum.group := by
  refine ⟨fun hmem => ⟨(h.groups _).mp ⟨sum, hmem, rfl⟩, h.exact sum hmem⟩, ?_⟩
  rintro ⟨hpresent, htotal⟩
  obtain ⟨other, hmem, hgroup⟩ := (h.groups _).mpr hpresent
  have hsame : other.total = sum.total := by rw [h.exact other hmem, hgroup, htotal]
  rwa [← RewardSum.eq_of_group hgroup hsame]

/-- Rewards have one summary. -/
theorem unique {other : List RewardSum} (h : Summary rewards sums)
    (hother : Summary rewards other) : sums = other := by
  have hnodup {list : List RewardSum} (h : Summary rewards list) : list.Nodup :=
    h.ascending.imp fun hlt heq => by simp [heq] at hlt
  have hperm : sums.Perm other :=
    (List.perm_ext_iff_of_nodup (hnodup h) (hnodup hother)).mpr fun sum => by
      rw [h.mem_iff, hother.mem_iff]
  exact hperm.eq_of_pairwise (fun _ _ _ _ hab hba => absurd hba hab.asymm) h.ascending
    hother.ascending

/-- The sums of one recipient, among all sums. -/
theorem filter_referral (h : Summary rewards sums) (referral : String) :
    Summary (rewards.filter (·.referral = referral)) (sums.filter (·.referral = referral)) where
  ascending := h.ascending.filter _
  groups group := by
    simp only [List.mem_filter, decide_eq_true_eq, Multiset.mem_filter]
    constructor
    · rintro ⟨sum, ⟨hmem, rfl⟩, rfl⟩
      obtain ⟨reward, hreward, hsame⟩ := (h.groups _).mp ⟨sum, hmem, rfl⟩
      exact ⟨reward, ⟨hreward, congrArg (fun group => (ofLex group).1) hsame⟩, hsame⟩
    · rintro ⟨reward, ⟨hmem, rfl⟩, rfl⟩
      obtain ⟨sum, hsum, hsame⟩ := (h.groups _).mpr ⟨reward, hmem, rfl⟩
      exact ⟨sum, ⟨hsum, congrArg (fun group => (ofLex group).1) hsame⟩, hsame⟩
  exact sum hmem := by
    obtain ⟨hfound, hkept⟩ := List.mem_filter.mp hmem
    obtain rfl := of_decide_eq_true hkept
    rw [h.exact sum hfound]
    exact (due_filter_referral rewards sum.group).symm

end Summary

/-! ### Answers -/

namespace Answers

variable {result other : Except Failure (List RewardSum)}

/-- Rewards have one answer, but for the reason given where they have no sums. -/
theorem toOption_eq (h : Answers rewards result) (hother : Answers rewards other) :
    result.toOption = other.toOption := by
  cases result with
  | ok sums =>
    obtain ⟨others, rfl⟩ := hother.succeeds.mpr (h.succeeds.mp ⟨sums, rfl⟩)
    exact congrArg some ((h.summary sums rfl).unique (hother.summary others rfl))
  | error failure =>
    cases other with
    | error otherFailure => rfl
    | ok sums =>
      obtain ⟨others, hok⟩ := h.succeeds.mpr (hother.succeeds.mp ⟨sums, rfl⟩)
      cases hok

theorem eq_ok (h : Answers rewards result) (hfits : ∀ group, due rewards group < 2 ^ 256)
    (hsummary : Summary rewards sums) : result = .ok sums := by
  obtain ⟨found, hfound⟩ := h.succeeds.mpr hfits
  rw [hfound, (h.summary found hfound).unique hsummary]

/-- Where all sums are found, those of one recipient are among them. -/
theorem filter_referral (h : Answers rewards (.ok sums)) {referral : String}
    (hone : Answers (rewards.filter (·.referral = referral)) result) :
    result = .ok (sums.filter (·.referral = referral)) :=
  hone.eq_ok
    (fun group => Nat.lt_of_le_of_lt (due_mono (Multiset.filter_le _ _) group)
      (h.succeeds.mp ⟨sums, rfl⟩ group))
    ((h.summary sums rfl).filter_referral referral)

theorem eq_nil (h : Answers 0 result) : result = .ok [] := h.eq_ok (by simp) Summary.nil

end Answers

/-! ### Adding an amount -/

theorem before_iff : before referral level sum = true ↔ toLex (referral, level) < sum.group := by
  simp [before, RewardSum.group, Prod.Lex.toLex_lt_toLex]

theorem group_eq_iff :
    (referral = sum.referral ∧ level = sum.level) ↔ sum.group = toLex (referral, level) := by
  simp [RewardSum.group, eq_comm]

/-- The total of a group is looked up in its sum. -/
theorem total_cons (referral : String) (level : Int) (sum : RewardSum) (sums : List RewardSum) :
    total referral level (sum :: sums) =
      if sum.group = toLex (referral, level) then sum.total else total referral level sums := by
  unfold total
  rw [List.find?_cons]
  by_cases h : referral = sum.referral ∧ level = sum.level
  · simp [h, group_eq_iff.mp h]
  · have hne : (referral == sum.referral && level == sum.level) = false := by simpa using h
    rw [if_neg fun hgroup => h (group_eq_iff.mpr hgroup)]
    simp [hne]

theorem total_of_forall_ne (h : ∀ sum ∈ sums, sum.group ≠ toLex (referral, level)) :
    total referral level sums = 0 := by
  induction sums with
  | nil => rfl
  | cons sum sums ih =>
    rw [total_cons, if_neg (h sum List.mem_cons_self)]
    exact ih fun other hmem => h other (List.mem_cons_of_mem _ hmem)

/-- Adding changes the sum of its group only, and makes one where there is none. -/
theorem mem_add (h : sums.Pairwise fun a b => a.group < b.group) (referral : String) (level : Int)
    (amount : Nat) (sum : RewardSum) : sum ∈ add referral level amount sums ↔
      sum ∈ sums ∧ sum.group ≠ toLex (referral, level) ∨
        sum = { referral, level, total := total referral level sums + amount } := by
  induction sums with
  | nil => simp [add, total]
  | cons first rest ih =>
    obtain ⟨hfirst, hrest⟩ := List.pairwise_cons.mp h
    rw [add, total_cons]
    split
    · next hsame =>
      have hgroup := group_eq_iff.mp hsame
      have hlater : sum ∈ rest → sum.group ≠ toLex (referral, level) := fun hmem heq =>
        absurd (hfirst sum hmem) (by simp [hgroup, heq])
      obtain ⟨rfl, rfl⟩ := hsame
      simp only [List.mem_cons, if_pos hgroup]
      grind
    · next hother =>
      have hne : first.group ≠ toLex (referral, level) := fun heq =>
        hother (group_eq_iff.mpr heq)
      rw [if_neg hne]
      split
      · next hbefore =>
        have hlt := before_iff.mp hbefore
        have hlater : ∀ other ∈ rest, other.group ≠ toLex (referral, level) := fun other hmem =>
          (hlt.trans (hfirst other hmem)).ne'
        rw [total_of_forall_ne hlater]
        simp only [List.mem_cons]
        grind
      · simp only [List.mem_cons, ih hrest]
        grind

theorem ascending_add (h : sums.Pairwise fun a b => a.group < b.group) (referral : String)
    (level : Int) (amount : Nat) :
    (add referral level amount sums).Pairwise fun a b => a.group < b.group := by
  induction sums with
  | nil => simp [add]
  | cons first rest ih =>
    obtain ⟨hfirst, hrest⟩ := List.pairwise_cons.mp h
    rw [add]
    split
    · exact List.pairwise_cons.mpr ⟨hfirst, hrest⟩
    · next hother =>
      split
      · next hbefore =>
        have hlt := before_iff.mp hbefore
        refine List.pairwise_cons.mpr ⟨fun other hmem => ?_, h⟩
        rcases List.mem_cons.mp hmem with rfl | hmem
        · exact hlt
        · exact hlt.trans (hfirst other hmem)
      · next hnot =>
        -- A group that neither is the first nor comes before it comes after it.
        have hlt : first.group < toLex (referral, level) :=
          lt_of_le_of_ne (not_lt.mp fun hlt => hnot (before_iff.mpr hlt)) fun heq =>
            hother (group_eq_iff.mpr heq)
        refine List.pairwise_cons.mpr ⟨fun other hmem => ?_, ih hrest⟩
        rcases (mem_add hrest referral level amount other).mp hmem with ⟨hmem, -⟩ | rfl
        · exact hfirst other hmem
        · exact hlt

/-- The total that is looked up is that of the sum of the group. -/
theorem total_of_mem (h : sums.Pairwise fun a b => a.group < b.group) (hmem : sum ∈ sums) :
    total sum.referral sum.level sums = sum.total := by
  induction sums with
  | nil => cases hmem
  | cons first rest ih =>
    obtain ⟨hfirst, hrest⟩ := List.pairwise_cons.mp h
    rw [total_cons]
    rcases List.mem_cons.mp hmem with rfl | hmem
    · exact if_pos rfl
    · have hne : first.group ≠ toLex (sum.referral, sum.level) := (hfirst sum hmem).ne
      rw [if_neg hne, ih hrest hmem]

theorem Summary.total_eq (h : Summary rewards sums) (referral : String) (level : Int) :
    total referral level sums = due rewards (toLex (referral, level)) := by
  by_cases hpresent : ∃ sum ∈ sums, sum.group = toLex (referral, level)
  · obtain ⟨sum, hmem, hgroup⟩ := hpresent
    obtain ⟨rfl, rfl⟩ := group_eq_iff.mpr hgroup
    rw [total_of_mem h.ascending hmem, h.exact sum hmem, hgroup]
  · rw [due_eq_zero ((h.groups _).not.mp hpresent)]
    exact total_of_forall_ne fun sum hmem hgroup => hpresent ⟨sum, hmem, hgroup⟩

/-- One more reward, added to the sums of those before it. -/
theorem Summary.add (h : Summary rewards sums) (reward : Reward) :
    Summary (reward ::ₘ rewards) (add reward.referral reward.level reward.amount sums) where
  ascending := ascending_add h.ascending _ _ _
  groups group := by
    simp only [mem_add h.ascending, Multiset.mem_cons, exists_eq_or_imp, ← h.groups]
    constructor
    · rintro ⟨sum, ⟨hmem, -⟩ | rfl, hgroup⟩
      · exact .inr ⟨sum, hmem, hgroup⟩
      · exact .inl hgroup
    · rintro (hgroup | ⟨sum, hmem, hgroup⟩)
      · exact ⟨_, .inr rfl, hgroup⟩
      · by_cases hsame : sum.group = toLex (reward.referral, reward.level)
        · exact ⟨_, .inr rfl, hsame.symm.trans hgroup⟩
        · exact ⟨sum, .inl ⟨hmem, hsame⟩, hgroup⟩
  exact sum hmem := by
    rw [due_cons]
    rcases (mem_add h.ascending _ _ _ sum).mp hmem with ⟨hmem, hne⟩ | rfl
    · rw [if_neg (fun hgroup => hne hgroup.symm), Nat.add_zero, h.exact sum hmem]
    · simp [h.total_eq, RewardSum.group, Reward.group]

/-! ### Adding events -/

variable {event : Event} {events : List Event}

theorem addEvent_reward (h : event.reward? = some reward) (sums : List RewardSum) :
    addEvent sums event =
      if Amount.bound ≤ total reward.referral reward.level sums + reward.amount then
        .error (Cause.other
          s!"reward total of {reward.referral} at level {reward.level} overflows")
      else .ok (add reward.referral reward.level reward.amount sums) := by
  unfold Event.reward? at h
  split at h
  · next trader referral level text hdetails =>
    obtain ⟨amount, hamount, rfl⟩ := Option.map_eq_some_iff.mp h
    simp only [addEvent, hdetails, hamount]
  · cases h

/-- A reward is added to a summary exactly if its group still fits. -/
theorem Summary.addEvent (h : Summary rewards sums) (hreward : event.reward? = some reward) :
    (∃ after, addEvent sums event = .ok after ∧ Summary (reward ::ₘ rewards) after ∧
        due (reward ::ₘ rewards) reward.group < 2 ^ 256) ∨
      ∃ failure, addEvent sums event = .error failure ∧
        2 ^ 256 ≤ due (reward ::ₘ rewards) reward.group := by
  have hdue : due (reward ::ₘ rewards) reward.group =
      total reward.referral reward.level sums + reward.amount := by
    rw [due_cons, if_pos rfl, h.total_eq]
    rfl
  rw [addEvent_reward hreward, hdue, Amount.bound_eq]
  split
  · next hover => exact .inr ⟨_, rfl, hover⟩
  · next hfits => exact .inl ⟨_, rfl, h.add reward, Nat.lt_of_not_le hfits⟩

/-- Events added to a summary one after another.  Since totals only grow, one that is too large when
it is reached is too large in the end, whatever comes later. -/
theorem Summary.foldlM_addEvent (h : Summary rewards sums)
    (hfits : ∀ group, due rewards group < 2 ^ 256)
    (hread : ∀ event ∈ events, ∃ reward, event.reward? = some reward) :
    Answers (rewards + events.filterMap Event.reward?) (events.foldlM Rewards.addEvent sums) := by
  induction events generalizing rewards sums with
  | nil => simpa using ⟨⟨fun _ => hfits, fun _ => ⟨sums, rfl⟩⟩, by rintro _ ⟨⟩; exact h⟩
  | cons event rest ih =>
    obtain ⟨hfirst, hrest⟩ := List.forall_mem_cons.mp hread
    obtain ⟨reward, hreward⟩ := hfirst
    have hall : rewards + ↑((event :: rest).filterMap Event.reward?) =
        (reward ::ₘ rewards) + ↑(rest.filterMap Event.reward?) := by
      simp [hreward, ← Multiset.cons_coe]
    rw [hall, List.foldlM_cons]
    rcases h.addEvent hreward with ⟨after, hadded, hsummary, hlt⟩ | ⟨failure, hfailed, hover⟩
    · rw [hadded]
      refine ih hsummary (fun group => ?_) hrest
      by_cases hgroup : reward.group = group
      · rwa [← hgroup]
      · rw [due_cons, if_neg hgroup]
        exact hfits group
    · rw [hfailed]
      refine ⟨iff_of_false (by rintro ⟨sums, ⟨⟩⟩) fun hlt => ?_, by rintro sums ⟨⟩⟩
      exact absurd (hlt reward.group)
        (Nat.not_lt.mpr (hover.trans (due_mono (Multiset.le_add_right _ _) _)))

end Rewards

/-! ### The sums of a database -/

def Reward.goesTo (recipient : Option String) (reward : Reward) : Bool :=
  recipient.all (reward.referral == ·)

theorem Event.kind_of_reward {event : Event} {reward : Reward} (h : event.reward? = some reward) :
    event.kind = .rewardReferral := by
  unfold Event.reward? at h
  split at h
  · next trader referral level text hdetails => simp [Event.kind, hdetails, Details.kind]
  · cases h

theorem Event.goesTo_of_reward {event : Event} {reward : Reward} (h : event.reward? = some reward)
    (recipient : Option String) : Rewards.goesTo recipient event = reward.goesTo recipient := by
  unfold Event.reward? at h
  split at h
  · next trader referral level text hdetails =>
    obtain ⟨amount, -, rfl⟩ := Option.map_eq_some_iff.mp h
    cases recipient <;> simp [Rewards.goesTo, hdetails, Reward.goesTo]
  · cases h

theorem Event.kind_of_goesTo {event : Event} {recipient : Option String}
    (h : Rewards.goesTo recipient event = true) : event.kind = .rewardReferral := by
  unfold Rewards.goesTo at h
  split at h
  all_goals simp_all [Event.kind, Details.kind]

open Rewards in
/-- The sums of a database answer for the rewards in it, where each has an amount. -/
theorem Database.rewardSums_answers {database : Database} (hopen : database.closed = false)
    (hread : ∀ event ∈ database.events, event.kind = .rewardReferral →
      ∃ reward, event.reward? = some reward) (recipient : Option String) :
    Answers ((Multiset.ofList (database.events.filterMap Event.reward?)).filter
      (·.goesTo recipient)) (database.rewardSums recipient) := by
  have hrewards : (database.events.filterMap Event.reward?).filter (·.goesTo recipient) =
      (database.events.filter (Rewards.goesTo recipient)).filterMap Event.reward? := by
    rw [List.filter_filterMap, List.filterMap_filter]
    refine List.filterMap_congr fun event hmem => ?_
    cases hreward : event.reward? with
    | some reward => simp [Event.goesTo_of_reward hreward, Option.filter]
    | none => simp
  have hall : database.rewardSums recipient =
      (database.events.filter (Rewards.goesTo recipient)).foldlM Rewards.addEvent [] := by
    simp [rewardSums, open?, hopen, bind, Except.bind]
  rw [Multiset.filter_coe]
  simp only [Bool.decide_eq_true]
  rw [hrewards, hall, ← Multiset.zero_add (Multiset.ofList _)]
  refine Summary.nil.foldlM_addEvent (by simp) fun event hmem => ?_
  obtain ⟨hmem, hgoes⟩ := List.mem_filter.mp hmem
  exact hread event hmem (Event.kind_of_goesTo hgoes)

end EventIndexer
