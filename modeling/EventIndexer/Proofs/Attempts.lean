import EventIndexer.Retry

/-! What a run of calls comes to, for every script of attempts.  `Starts` says when each attempt
starts and `Ends` when and how it ends.  A run is over with an attempt that succeeds or that fails
after the deadline, and there is always such an attempt, one interval after the deadline at the
latest.  A cancellation cuts a run where it falls, and changes nothing before. -/

namespace EventIndexer

variable {α : Type}

/-- Whether an attempt that starts at a time ends by itself: by the deadline, or without delay. -/
def Attempt.InTime (attempt : Attempt α) (deadline start : Nat) : Prop :=
  start + attempt.after ≤ deadline ∨ attempt.after = 0

/-- Whether an attempt that starts at a time gives a value: it succeeds by the deadline, or without
delay. -/
def Attempt.Succeeds (attempt : Attempt α) (deadline start : Nat) (value : α) : Prop :=
  attempt.ending = some (.ok value) ∧ attempt.InTime deadline start

namespace Retry

/-- When an attempt that starts at a time ends, and how. -/
inductive Ends (deadline start : Nat) (attempt : Attempt α) :
    (time : Nat) → Except Failure α → Prop
  | itself {ending : Except Failure α} :
    attempt.ending = some ending → attempt.InTime deadline start →
      Ends deadline start attempt (start + attempt.after) ending
  | cutOff :
    (∀ ending, attempt.ending = some ending → ¬attempt.InTime deadline start) →
      Ends deadline start attempt (max start deadline)
        (.error (Cause.other "attempt still pending at the deadline"))

/-- When the attempts of a run start: the first at once, and each other one an interval after the
failure of the one before, unless that is seen after the deadline. -/
inductive Starts (deadline interval : Nat) (attempts : Nat → Attempt α) :
    (i start : Nat) → Prop
  | first : Starts deadline interval attempts 0 0
  | again {i start time : Nat} {failure : Failure} :
    Starts deadline interval attempts i start →
      Ends deadline start (attempts i) time (.error failure) → time ≤ deadline →
        Starts deadline interval attempts (i + 1) (time + interval)

/-- Whether a run is over with an attempt that ends at a time. -/
def Final (deadline time : Nat) : Except Failure α → Prop
  | .ok _ => True
  | .error _ => deadline < time

/-- The outcome of a run that is over with an attempt. -/
def verdict (i time : Nat) : Except Failure α → Outcome α
  | .ok value => { result := .ok value, calls := i + 1, begun := i + 1, elapsed := time }
  | .error failure =>
    { result := .error (Cause.deadlineExceeded (i + 1) (time * 1000000) failure.line)
      calls := i + 1
      begun := i + 1
      elapsed := time }

/-- The outcome of a run that is cancelled at a time, with so many attempts started. -/
def cutAt (time count : Nat) : Outcome α :=
  { result := .error Cause.cancelled, calls := count, begun := count, elapsed := time }

/-! ### Ends of attempts -/

section

variable {deadline start time other : Nat} {attempt : Attempt α} {ending another : Except Failure α}

theorem ends_settle (deadline start : Nat) (attempt : Attempt α) :
    Ends deadline start attempt (settle deadline start attempt).1
      (settle deadline start attempt).2 := by
  unfold settle
  cases hending : attempt.ending with
  | none => exact .cutOff fun _ hsome => nomatch hending.symm.trans hsome
  | some ending =>
    dsimp only
    split
    · next h => exact .itself hending h.symm
    · next h => exact .cutOff fun _ _ htime => h htime.symm

theorem Ends.settle_eq (h : Ends deadline start attempt time ending) :
    settle deadline start attempt = (time, ending) := by
  unfold settle
  cases h with
  | itself hending htime => simp only [hending, if_pos htime.symm]
  | cutOff hlate =>
    cases hending : attempt.ending with
    | none => rfl
    | some ending =>
      have hnot : ¬(attempt.after = 0 ∨ start + attempt.after ≤ deadline) :=
        fun htime => hlate ending hending htime.symm
      simp only [if_neg hnot]
      rfl

theorem Ends.unique (h : Ends deadline start attempt time ending)
    (h' : Ends deadline start attempt other another) : time = other ∧ ending = another :=
  Prod.mk.inj (h.settle_eq.symm.trans h'.settle_eq)

theorem Ends.le (h : Ends deadline start attempt time ending) : start ≤ time := by
  cases h with
  | itself => exact Nat.le_add_right _ _
  | cutOff => exact Nat.le_max_left _ _

theorem Ends.le_max (h : Ends deadline start attempt time ending) : time ≤ max start deadline := by
  cases h with
  | itself _ htime =>
    rcases htime with htime | htime <;> omega
  | cutOff => exact Nat.le_refl _

end

/-! ### Starts of attempts -/

section

variable {deadline interval : Nat} {attempts : Nat → Attempt α} {i j start other time : Nat}
  {ending : Except Failure α}

theorem Starts.unique (h : Starts deadline interval attempts i start)
    (h' : Starts deadline interval attempts i other) : start = other := by
  induction h generalizing other with
  | first =>
    cases h'
    rfl
  | again _ hends _ ih =>
    cases h' with
    | again hother hends' _ =>
      obtain rfl := ih hother
      rw [(hends.unique hends').1]

/-- Attempts that come before one that starts have started before it. -/
theorem Starts.before (h : Starts deadline interval attempts i start) (hle : j ≤ i) :
    ∃ earlier ≤ start, Starts deadline interval attempts j earlier := by
  induction h with
  | first =>
    obtain rfl := Nat.le_zero.mp hle
    exact ⟨0, Nat.le_refl 0, .first⟩
  | @again i start time failure hstart hends htime ih =>
    rcases Nat.lt_or_eq_of_le hle with hlt | rfl
    · obtain ⟨earlier, hearlier, hj⟩ := ih (Nat.le_of_lt_succ hlt)
      have hends := hends.le
      exact ⟨earlier, by omega, hj⟩
    · exact ⟨_, Nat.le_refl _, .again hstart hends htime⟩

theorem Starts.le (h : Starts deadline interval attempts i start) :
    start ≤ deadline + interval := by
  cases h with
  | first => exact Nat.zero_le _
  | again _ _ htime => exact Nat.add_le_add_right htime interval

/-- Attempts start an interval apart, at least. -/
theorem Starts.mul_le (h : Starts deadline interval attempts i start) : i * interval ≤ start := by
  induction h with
  | first => exact Nat.le_of_eq (Nat.zero_mul interval)
  | again _ hends _ ih =>
    have hends := hends.le
    rw [Nat.succ_mul]
    omega

theorem Starts.count_le (h : Starts deadline interval attempts i start) (hinterval : 0 < interval) :
    i ≤ deadline / interval + 1 := by
  cases h with
  | first => exact Nat.zero_le _
  | again hstart hends htime =>
    refine Nat.succ_le_succ ((Nat.le_div_iff_mul_le hinterval).mpr ?_)
    exact Nat.le_trans hstart.mul_le (Nat.le_trans hends.le htime)

/-- After an attempt with which a run is over, no other one starts. -/
theorem Starts.le_final (h : Starts deadline interval attempts i start)
    (hends : Ends deadline start (attempts i) time ending) (hfinal : Final deadline time ending)
    (hj : Starts deadline interval attempts j other) : j ≤ i := by
  rcases Nat.lt_or_ge i j with hlt | hle
  · obtain ⟨next, -, hnext⟩ := hj.before hlt
    cases hnext with
    | again hstart hfails htime =>
      obtain rfl := h.unique hstart
      obtain ⟨rfl, rfl⟩ := hends.unique hfails
      exact absurd htime (Nat.not_le.mpr hfinal)
  · exact hle

end

/-! ### The loop -/

section

variable {deadline interval : Nat} {attempts : Nat → Attempt α} {cancelAt : Option Nat}
  {limit made now time cancel : Nat} {ending : Except Failure α} {failure : Failure}
  {outcome : Outcome α}

theorem not_cancelledBy_of_le {earlier later : Nat} (h : cancelledBy cancelAt later = false)
    (hle : earlier ≤ later) : cancelledBy cancelAt earlier = false := by
  cases cancelAt with
  | none => rfl
  | some cancel =>
    simp only [cancelledBy, Option.any_some, decide_eq_false_iff_not, Nat.not_le] at h ⊢
    omega

theorem cancelledBy_some (cancel time : Nat) :
    cancelledBy (some cancel) time = decide (cancel ≤ time) := rfl

theorem loop_last (hends : Ends deadline now (attempts made) time ending)
    (hfinal : Final deadline time ending) (hnot : cancelledBy cancelAt time = false) :
    loop deadline interval attempts cancelAt (limit + 1) made now =
      some (verdict made time ending) := by
  have hnow := not_cancelledBy_of_le hnot hends.le
  rw [loop]
  simp only [hnow, hnot, hends.settle_eq, Bool.false_eq_true, if_false]
  cases ending with
  | ok value => rfl
  | error failure =>
    have hlate : deadline < time := hfinal
    simp only [if_pos hlate]
    rfl

theorem loop_again (hends : Ends deadline now (attempts made) time (.error failure))
    (htime : time ≤ deadline) (hnot : cancelledBy cancelAt (time + interval) = false) :
    loop deadline interval attempts cancelAt (limit + 1) made now =
      loop deadline interval attempts cancelAt limit (made + 1) (time + interval) := by
  have hended := not_cancelledBy_of_le hnot (Nat.le_add_right time interval)
  have hnow := not_cancelledBy_of_le hended hends.le
  rw [loop]
  simp only [hnow, hended, hnot, hends.settle_eq, Bool.false_eq_true, if_false,
    if_neg (Nat.not_lt.mpr htime)]

/-- A cancellation is seen while an attempt is running, or in the pause behind it. -/
theorem loop_cut (hnow : now < cancel) (hends : Ends deadline now (attempts made) time ending)
    (hcut : cancel ≤ time ∨ ¬Final deadline time ending ∧ cancel ≤ time + interval) :
    loop deadline interval attempts (some cancel) (limit + 1) made now =
      some (cutAt cancel (made + 1)) := by
  have helapsed : max now cancel = cancel := Nat.max_eq_right (Nat.le_of_lt hnow)
  rw [loop]
  simp only [cancelledBy_some, decide_eq_true_eq, if_neg (Nat.not_le.mpr hnow), hends.settle_eq,
    Option.getD_some, helapsed]
  by_cases hrunning : cancel ≤ time
  · rw [if_pos hrunning]
    rfl
  · obtain ⟨hmore, hpause⟩ := hcut.resolve_left hrunning
    rw [if_neg hrunning]
    cases ending with
    | ok value => exact absurd trivial hmore
    | error failure =>
      have htime : ¬deadline < time := hmore
      simp only [if_neg htime, if_pos hpause]
      rfl

variable (deadline interval attempts cancelAt made now outcome) in
/-- Whether a run comes to an outcome from an attempt on, given enough calls. -/
def RunsTo : Prop :=
  ∀ limit, deadline / interval + 2 ≤ made + limit →
    loop deadline interval attempts cancelAt limit made now = some outcome

/-- A limit that is large enough leaves another call to each attempt that starts. -/
theorem Starts.limit_succ (h : Starts deadline interval attempts made now)
    (hinterval : 0 < interval) (hlimit : deadline / interval + 2 ≤ made + limit) :
    ∃ rest, limit = rest + 1 ∧ deadline / interval + 2 ≤ made + 1 + rest := by
  have hcount := h.count_le hinterval
  exact ⟨limit - 1, by omega, by omega⟩

namespace RunsTo

theorem last (hinterval : 0 < interval) (hstart : Starts deadline interval attempts made now)
    (hends : Ends deadline now (attempts made) time ending)
    (hfinal : Final deadline time ending) (hnot : cancelledBy cancelAt time = false) :
    RunsTo deadline interval attempts cancelAt made now (verdict made time ending) := by
  intro limit hlimit
  obtain ⟨rest, rfl, -⟩ := hstart.limit_succ hinterval hlimit
  exact loop_last hends hfinal hnot

theorem again (hinterval : 0 < interval) (hstart : Starts deadline interval attempts made now)
    (hends : Ends deadline now (attempts made) time (.error failure))
    (htime : time ≤ deadline) (hnot : cancelledBy cancelAt (time + interval) = false)
    (h : RunsTo deadline interval attempts cancelAt (made + 1) (time + interval) outcome) :
    RunsTo deadline interval attempts cancelAt made now outcome := by
  intro limit hlimit
  obtain ⟨rest, rfl, hrest⟩ := hstart.limit_succ hinterval hlimit
  rw [loop_again hends htime hnot]
  exact h rest hrest

theorem cut (hinterval : 0 < interval) (hstart : Starts deadline interval attempts made now)
    (hnow : now < cancel) (hends : Ends deadline now (attempts made) time ending)
    (hcut : cancel ≤ time ∨ ¬Final deadline time ending ∧ cancel ≤ time + interval) :
    RunsTo deadline interval attempts (some cancel) made now (cutAt cancel (made + 1)) := by
  intro limit hlimit
  obtain ⟨rest, rfl, -⟩ := hstart.limit_succ hinterval hlimit
  exact loop_cut hnow hends hcut

end RunsTo

/-! ### The attempt with which a run is over -/

/-- What holds of an attempt with which a run is over, and of any other one if it holds of the next,
holds of every attempt that starts. -/
@[elab_as_elim]
theorem Starts.rounds {motive : (made now : Nat) → Prop} (hinterval : 0 < interval)
    (last : ∀ {made now time : Nat} {ending : Except Failure α},
      Starts deadline interval attempts made now →
        Ends deadline now (attempts made) time ending → Final deadline time ending →
          motive made now)
    (again : ∀ {made now time : Nat} {failure : Failure},
      Starts deadline interval attempts made now →
        Ends deadline now (attempts made) time (.error failure) → time ≤ deadline →
          motive (made + 1) (time + interval) → motive made now)
    (h : Starts deadline interval attempts made now) : motive made now := by
  generalize hleft : deadline / interval + 2 - made = left
  induction left generalizing made now with
  | zero =>
    have hcount := h.count_le hinterval
    omega
  | succ left ih =>
    obtain ⟨time, ending, hends⟩ : ∃ time ending, Ends deadline now (attempts made) time ending :=
      ⟨_, _, ends_settle deadline now (attempts made)⟩
    by_cases hfinal : Final deadline time ending
    · exact last h hends hfinal
    · cases ending with
      | ok value => exact absurd trivial hfinal
      | error failure =>
        have htime : time ≤ deadline := Nat.le_of_not_lt hfinal
        exact again h hends htime (ih (.again h hends htime) (by omega))

variable (deadline interval attempts) in
/-- An attempt with which a run is over that is not cancelled. -/
structure Last (i start time : Nat) (ending : Except Failure α) : Prop where
  starts : Starts deadline interval attempts i start
  ends : Ends deadline start (attempts i) time ending
  final : Final deadline time ending

variable {i start : Nat}

theorem Starts.exists_last (h : Starts deadline interval attempts made now)
    (hinterval : 0 < interval) :
    ∃ i start time ending, Last deadline interval attempts i start time ending ∧ now ≤ time ∧
      RunsTo deadline interval attempts none made now (verdict i time ending) := by
  refine Starts.rounds hinterval (fun hstart hends hfinal => ?_)
    (fun hstart hends htime ih => ?_) h
  · exact ⟨_, _, _, _, ⟨hstart, hends, hfinal⟩, hends.le, .last hinterval hstart hends hfinal rfl⟩
  · obtain ⟨i, start, last, ending, hlast, hle, hruns⟩ := ih
    have hlater := hends.le
    exact ⟨i, start, last, ending, hlast, by omega, hruns.again hinterval hstart hends htime rfl⟩

end

/-! ### Without a cancellation -/

section

variable (i time : Nat) (ending : Except Failure α)

@[simp] theorem calls_verdict : (verdict i time ending).calls = i + 1 := by
  cases ending <;> rfl

@[simp] theorem elapsed_verdict : (verdict i time ending).elapsed = time := by
  cases ending <;> rfl

theorem result_verdict_ok {value : α} :
    (verdict i time ending).result = .ok value ↔ ending = .ok value := by
  cases ending <;> simp [verdict]

end

section

variable {deadline interval : Nat} {attempts : Nat → Attempt α} {i j start other time : Nat}
  {ending : Except Failure α} {value : α}

/-- An attempt that gives a value ends with it. -/
theorem ends_of_succeeds {attempt : Attempt α} (h : attempt.Succeeds deadline start value) :
    Ends deadline start attempt (start + attempt.after) (.ok value) :=
  .itself h.1 h.2

theorem Ends.succeeds {attempt : Attempt α}
    (h : Ends deadline start attempt time (.ok value)) : attempt.Succeeds deadline start value := by
  cases h with
  | itself hending htime => exact ⟨hending, htime⟩

namespace Last

/-- The attempts that start are the last one and those before it. -/
theorem lt_iff (h : Last deadline interval attempts i start time ending) :
    j < i + 1 ↔ ∃ start, Starts deadline interval attempts j start := by
  constructor
  · intro hj
    obtain ⟨earlier, -, hstart⟩ := h.starts.before (Nat.le_of_lt_succ hj)
    exact ⟨earlier, hstart⟩
  · rintro ⟨other, hother⟩
    exact Nat.lt_succ_of_le (h.starts.le_final h.ends h.final hother)

theorem time_le (h : Last deadline interval attempts i start time ending) :
    time ≤ deadline + interval := by
  have hstart := h.starts.le
  have htime := h.ends.le_max
  omega

/-- No attempt succeeds before the last one. -/
theorem eq_of_succeeds (h : Last deadline interval attempts i start time ending)
    (hstart : Starts deadline interval attempts j other)
    (hsucceeds : (attempts j).Succeeds deadline other value) : j = i ∧ ending = .ok value := by
  have hends := ends_of_succeeds hsucceeds
  have hle := hstart.le_final hends trivial h.starts
  have hge := h.starts.le_final h.ends h.final hstart
  obtain rfl := Nat.le_antisymm hge hle
  obtain rfl := h.starts.unique hstart
  exact ⟨rfl, (h.ends.unique hends).2⟩

/-- A run that ends with a failure ends right at the start of its last attempt, for that start comes
after the deadline. -/
theorem late {failure : Failure}
    (h : Last deadline interval attempts i start time (.error failure)) :
    start = time ∧ deadline < time ∧ 0 < i := by
  have hlate : deadline < time := h.final
  have hmax := h.ends.le_max
  have hle := h.ends.le
  have hstart : start = time := by omega
  refine ⟨hstart, hlate, Nat.pos_of_ne_zero ?_⟩
  rintro rfl
  have hfirst := h.starts.unique .first
  omega

end Last

end

/-- A run that is not cancelled ends, whatever its attempts are, and neither early nor late.  It
makes at most two attempts more than intervals fit into the time up to the deadline, and ends an
interval after the deadline at the latest.  It gives a value if and only if an attempt that starts
succeeds by the deadline, or without delay, and the value is that of the first such attempt.  If
there is none, the run ends after the deadline and after two attempts at least, and reports how many
there were, the time, and the failure of the last one. -/
theorem retries_until_deadline (deadline : Nat) {interval : Nat} (hinterval : 0 < interval)
    (attempts : Nat → Attempt α) :
    ∃ outcome : Outcome α,
      (∀ limit, deadline / interval + 2 ≤ limit →
        run deadline interval attempts none limit = some outcome) ∧
      outcome.calls ≤ deadline / interval + 2 ∧
      outcome.elapsed ≤ deadline + interval ∧
      (∀ i, i < outcome.calls ↔ ∃ start, Starts deadline interval attempts i start) ∧
      (∀ value, outcome.result = .ok value ↔
        ∃ i start, Starts deadline interval attempts i start ∧
          (attempts i).Succeeds deadline start value ∧
          ∀ j < i, ∀ earlier other, Starts deadline interval attempts j earlier →
            ¬(attempts j).Succeeds deadline earlier other) ∧
      ((∀ i start value, Starts deadline interval attempts i start →
          ¬(attempts i).Succeeds deadline start value) →
        deadline < outcome.elapsed ∧ 2 ≤ outcome.calls ∧
        ∃ last failure, outcome.calls = last + 1 ∧
          Starts deadline interval attempts last outcome.elapsed ∧
          Ends deadline outcome.elapsed (attempts last) outcome.elapsed (.error failure) ∧
          outcome.result = .error (Cause.deadlineExceeded outcome.calls
            (outcome.elapsed * 1000000) failure.line)) := by
  have hfirst : Starts deadline interval attempts 0 0 := .first
  obtain ⟨i, start, time, ending, hlast, -, hruns⟩ := hfirst.exists_last hinterval
  refine ⟨verdict i time ending, fun limit hlimit => hruns limit (by omega), ?_, ?_, fun j => ?_,
    fun value => ?_, fun hnone => ?_⟩
  · rw [calls_verdict]
    exact Nat.succ_le_succ (hlast.starts.count_le hinterval)
  · rw [elapsed_verdict]
    exact hlast.time_le
  · rw [calls_verdict]
    exact hlast.lt_iff
  · rw [result_verdict_ok]
    constructor
    · rintro rfl
      refine ⟨i, start, hlast.starts, hlast.ends.succeeds,
        fun j hj earlier other hstart hother => ?_⟩
      obtain ⟨rfl, -⟩ := hlast.eq_of_succeeds hstart hother
      exact Nat.lt_irrefl _ hj
    · rintro ⟨j, other, hstart, hsucceeds, -⟩
      exact (hlast.eq_of_succeeds hstart hsucceeds).2
  · cases ending with
    | ok value => exact absurd hlast.ends.succeeds (hnone i start value hlast.starts)
    | error failure =>
      obtain ⟨rfl, hlate, hi⟩ := hlast.late
      exact ⟨hlate, Nat.succ_le_succ hi, i, failure, rfl, hlast.starts, hlast.ends, rfl⟩

/-- A failure, an attempt without an end, and successes without delay. -/
def lateSuccess : Nat → Attempt Nat
  | 0 => { after := 3, ending := some (.error (Cause.network "connection reset")) }
  | 1 => { after := 0, ending := none }
  | _ => { after := 0, ending := some (.ok 7) }

theorem ends_lateSuccess :
    Ends 10 0 (lateSuccess 0) 3 (.error (Cause.network "connection reset")) ∧
      Ends 10 7 (lateSuccess 1) 10
        (.error (Cause.other "attempt still pending at the deadline")) ∧
      Ends 10 14 (lateSuccess 2) 14 (.ok 7) :=
  ⟨.itself rfl (.inl (by decide)), .cutOff nofun, .itself rfl (.inr rfl)⟩

theorem starts_lateSuccess : Starts 10 4 lateSuccess 1 7 ∧ Starts 10 4 lateSuccess 2 14 := by
  obtain ⟨hfirst, hsecond, -⟩ := ends_lateSuccess
  have hstart : Starts 10 4 lateSuccess 1 7 := .again .first hfirst (by decide)
  exact ⟨hstart, .again hstart hsecond (by decide)⟩

/-- The attempt after the one that the deadline cuts off starts after the deadline, and its success
counts. -/
theorem retries_until_deadline_late : 0 < 4 ∧ ∃ outcome,
    run 10 4 lateSuccess none 4 = some outcome ∧ outcome.calls ≤ 4 ∧ outcome.elapsed ≤ 14 ∧
      outcome.result = .ok 7 := by
  obtain ⟨outcome, hrun, hcalls, helapsed, -, hok, -⟩ :=
    retries_until_deadline 10 (show 0 < 4 by decide) lateSuccess
  refine ⟨by decide, outcome, hrun 4 (by decide), hcalls, helapsed,
    (hok 7).mpr ⟨2, 14, starts_lateSuccess.2, ⟨rfl, .inr rfl⟩, ?_⟩⟩
  rintro j hj earlier other - ⟨hending, -⟩
  match j with
  | 0 => cases hending
  | 1 => cases hending

/-! ### With a cancellation -/

/-- Whether an attempt ends at a time, or the pause behind one. -/
def Instant (deadline interval : Nat) (attempts : Nat → Attempt α) (time : Nat) : Prop :=
  ∃ i start ended ending, Starts deadline interval attempts i start ∧
    Ends deadline start (attempts i) ended ending ∧
      (time = ended ∨ ¬Final deadline ended ending ∧ time = ended + interval)

section

variable {deadline interval cancel made now : Nat} {attempts : Nat → Attempt α}

/-- The attempts up to one that starts before a time are those that start before it, if the next
one does not. -/
theorem Starts.lt_succ_iff (h : Starts deadline interval attempts made now) (hnow : now < cancel)
    (hnext : ∀ next, Starts deadline interval attempts (made + 1) next → cancel ≤ next) (i : Nat) :
    i < made + 1 ↔ ∃ start < cancel, Starts deadline interval attempts i start := by
  constructor
  · intro hi
    obtain ⟨start, hle, hstart⟩ := h.before (Nat.le_of_lt_succ hi)
    exact ⟨start, Nat.lt_of_le_of_lt hle hnow, hstart⟩
  · rintro ⟨start, hlt, hstart⟩
    rcases Nat.lt_or_ge i (made + 1) with hi | hi
    · exact hi
    · obtain ⟨next, hle, hstarts⟩ := hstart.before hi
      have hcancel := hnext next hstarts
      omega

/-- From an attempt on that starts before a cancellation, a run either is over before it or is cut
by it. -/
theorem Starts.exists_cut (h : Starts deadline interval attempts made now)
    (hinterval : 0 < interval) (hinstant : ¬Instant deadline interval attempts cancel) :
    now < cancel → ∃ i start time ending, Last deadline interval attempts i start time ending ∧
      RunsTo deadline interval attempts none made now (verdict i time ending) ∧
      (time < cancel ∧
          RunsTo deadline interval attempts (some cancel) made now (verdict i time ending) ∨
        cancel < time ∧ ∃ count,
          RunsTo deadline interval attempts (some cancel) made now (cutAt cancel count) ∧
          ∀ j, j < count ↔ ∃ start < cancel, Starts deadline interval attempts j start) := by
  refine Starts.rounds hinterval (fun {made now time ending} hstart hends hfinal hnow => ?_)
    (fun {made now time failure} hstart hends htime ih hnow => ?_) h
  · have hlast : Last deadline interval attempts made now time ending := ⟨hstart, hends, hfinal⟩
    refine ⟨made, now, time, ending, hlast, .last hinterval hstart hends hfinal rfl, ?_⟩
    have hne : cancel ≠ time := fun heq =>
      hinstant ⟨made, now, time, ending, hstart, hends, .inl heq⟩
    rcases Nat.lt_or_gt_of_ne hne with hlt | hlt
    · refine .inr ⟨hlt, made + 1, .cut hinterval hstart hnow hends (.inl (Nat.le_of_lt hlt)),
        hstart.lt_succ_iff hnow fun next hnext => ?_⟩
      exact absurd (hlast.lt_iff.mpr ⟨next, hnext⟩) (Nat.lt_irrefl _)
    · exact .inl ⟨hlt, .last hinterval hstart hends hfinal (decide_eq_false (Nat.not_le.mpr hlt))⟩
  · have hmore : ¬Final deadline time (.error failure : Except Failure α) := Nat.not_lt.mpr htime
    have hne : cancel ≠ time + interval := fun heq =>
      hinstant ⟨made, now, time, _, hstart, hends, .inr ⟨hmore, heq⟩⟩
    rcases Nat.lt_or_gt_of_ne hne with hlt | hlt
    · -- The attempt or the pause is cut; whatever comes of the run otherwise comes later.
      obtain ⟨i, start, last, ending, hlast, hle, hruns⟩ :=
        (hstart.again hends htime).exists_last hinterval
      refine ⟨i, start, last, ending, hlast, hruns.again hinterval hstart hends htime rfl,
        .inr ⟨by omega, made + 1,
          .cut hinterval hstart hnow hends (.inr ⟨hmore, Nat.le_of_lt hlt⟩),
          hstart.lt_succ_iff hnow fun next hnext => ?_⟩⟩
      rw [hnext.unique (hstart.again hends htime)]
      exact Nat.le_of_lt hlt
    · have hnot : cancelledBy (some cancel) (time + interval) = false :=
        decide_eq_false (Nat.not_le.mpr hlt)
      obtain ⟨i, start, last, ending, hlast, hruns, hcase⟩ := ih hlt
      refine ⟨i, start, last, ending, hlast, hruns.again hinterval hstart hends htime rfl, ?_⟩
      rcases hcase with ⟨hover, hsame⟩ | ⟨hcut, count, hcuts, hcount⟩
      · exact .inl ⟨hover, hsame.again hinterval hstart hends htime hnot⟩
      · exact .inr ⟨hcut, count, hcuts.again hinterval hstart hends htime hnot, hcount⟩

end

/-- A cancellation cuts a run where it falls.  At a time at which no attempt and no pause ends, a
run that is over before the cancellation is what it is without one.  Any other run ends right at the
cancellation, and has started the attempts that it starts before that time without one, whether an
attempt was running, if only for ever, or a pause. -/
theorem cancellation_cuts {deadline interval cancel : Nat} {attempts : Nat → Attempt α}
    (hinterval : 0 < interval) (hcancel : 0 < cancel)
    (hinstant : ¬Instant deadline interval attempts cancel) :
    ∃ whole : Outcome α,
      (∀ limit, deadline / interval + 2 ≤ limit →
        run deadline interval attempts none limit = some whole) ∧
      (whole.elapsed < cancel → ∀ limit, deadline / interval + 2 ≤ limit →
        run deadline interval attempts (some cancel) limit = some whole) ∧
      (cancel ≤ whole.elapsed → ∃ cut : Outcome α,
        (∀ limit, deadline / interval + 2 ≤ limit →
          run deadline interval attempts (some cancel) limit = some cut) ∧
        cut.result = .error Cause.cancelled ∧ cut.elapsed = cancel ∧ cut.begun = cut.calls ∧
        ∀ i, i < cut.calls ↔ ∃ start < cancel, Starts deadline interval attempts i start) := by
  obtain ⟨i, start, time, ending, -, hruns, hcase⟩ :=
    Starts.first.exists_cut hinterval hinstant hcancel
  refine ⟨verdict i time ending, fun limit hlimit => hruns limit (by omega), fun hover => ?_,
    fun hcut => ?_⟩
  · rw [elapsed_verdict] at hover
    rcases hcase with ⟨-, hsame⟩ | ⟨hlater, -⟩
    · exact fun limit hlimit => hsame limit (by omega)
    · omega
  · rw [elapsed_verdict] at hcut
    rcases hcase with ⟨hbefore, -⟩ | ⟨-, count, hcuts, hcount⟩
    · omega
    · exact ⟨cutAt cancel count, fun limit hlimit => hcuts limit (by omega), rfl, rfl, rfl, hcount⟩

theorem not_instant_lateSuccess : ¬Instant 10 4 lateSuccess 8 := by
  rintro ⟨i, start, ended, ending, hstart, hends, htime⟩
  obtain ⟨hfirst, hsecond, hthird⟩ := ends_lateSuccess
  have hle : i ≤ 2 := starts_lateSuccess.2.le_final hthird trivial hstart
  have hended : ended = 3 ∨ ended = 10 ∨ ended = 14 := by
    match i with
    | 0 =>
      obtain rfl := hstart.unique .first
      exact .inl (hends.unique hfirst).1
    | 1 =>
      obtain rfl := hstart.unique starts_lateSuccess.1
      exact .inr (.inl (hends.unique hsecond).1)
    | 2 =>
      obtain rfl := hstart.unique starts_lateSuccess.2
      exact .inr (.inr (hends.unique hthird).1)
  rcases htime with htime | ⟨-, htime⟩ <;> omega

/-- The run is cancelled while its second attempt is running, which would never end. -/
theorem cancellation_cuts_pending : 0 < 4 ∧ 0 < 8 ∧ ¬Instant 10 4 lateSuccess 8 ∧ ∃ cut,
    run 10 4 lateSuccess (some 8) 4 = some cut ∧ cut.result = .error Cause.cancelled ∧
      cut.elapsed = 8 ∧ 1 < cut.calls ∧ ¬2 < cut.calls := by
  obtain ⟨whole, hwhole, -, hcut⟩ :=
    cancellation_cuts (show 0 < 4 by decide) (show 0 < 8 by decide) not_instant_lateSuccess
  have helapsed : whole.elapsed = 14 := by
    have hrun : run 10 4 lateSuccess none 4 = some (verdict 2 14 (.ok 7)) := rfl
    rw [← Option.some.inj (hrun.symm.trans (hwhole 4 (by decide)))]
    rfl
  obtain ⟨cut, hrun, hresult, hcancelled, -, hcalls⟩ := hcut (by omega)
  refine ⟨by decide, by decide, not_instant_lateSuccess, cut, hrun 4 (by decide), hresult,
    hcancelled, (hcalls 1).mpr ⟨7, by decide, starts_lateSuccess.1⟩, fun hthird => ?_⟩
  obtain ⟨start, hlt, hstart⟩ := (hcalls 2).mp hthird
  have hlate := hstart.unique starts_lateSuccess.2
  omega

end Retry

end EventIndexer
