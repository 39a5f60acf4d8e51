import EventIndexer.Proofs.Frank
import EventIndexer.Proofs.Runs

/-! How a tracker ends.  A task ends only once the group's token has fired, which either the caller
has done or a task that failed; and a failure is passed over only where the caller's token has fired
and all that the failure says is that a wait was interrupted. -/

namespace EventIndexer

namespace Tracker

variable {settings : Settings} {real : Failure → Prop} {cancelled : Bool}
  {database later : Database} {tracker after : Tracker}

/-- Whether a watcher could not be started, or one of its tasks has ended, with a failure. -/
def Fails (tracker : Tracker) (failure : Failure) : Prop :=
  tracker.startFailure = some failure ∨ ∃ tasks ∈ tracker.tasks, tasks.Fails failure

def broken (tracker : Tracker) : Bool := tracker.startFailure.isSome || tracker.failure.isSome

theorem started_iff : tracker.started = true ↔
    tracker.waiting = [] ∧ ∀ tasks ∈ tracker.tasks, tasks.producer ≠ none := by
  simp [started, opening]

/-- Whether the database, and a stream that is opened, fail in some ways only. -/
def Step.Blames (real : Failure → Prop) : Step → Prop
  | .opened reply => Reports real reply
  | .consume _ (.perform fault) => ∀ failure ∈ fault, real failure
  | _ => True

theorem Step.blames_any (step : Step) : step.Blames fun _ => True := by
  unfold Blames
  split
  · exact fun _ _ => trivial
  · exact fun _ _ => trivial
  · trivial

/-- What is always so of a tracker. -/
structure Supervised (real : Failure → Prop) (cancelled : Bool) (tracker : Tracker) : Prop where
  governed : ∀ tasks ∈ tracker.tasks,
    tasks.Governed real (cancelled || tracker.fired) (cancelled || tracker.broken)
  cause : tracker.fired = true →
    cancelled = true ∨ ∃ failure, real failure ∧ tracker.Fails failure
  start : ∀ failure, tracker.startFailure = some failure → real failure
  kept : ∀ failure, tracker.failure = some failure →
    tracker.Fails failure ∧ ∃ genuine, real genuine ∧ tracker.Fails genuine
  /-- Nothing is kept before every watcher has its tasks. -/
  started : tracker.broken = true → tracker.started = true
  watched : tracker.waiting = [] → tracker.tasks ≠ []

namespace Supervised

theorem cancel (h : tracker.Supervised real cancelled) : tracker.Supervised real true where
  governed tasks hmem := (h.governed tasks hmem).mono (fun _ => rfl) fun _ => rfl
  cause _ := .inl rfl
  start := h.start
  kept := h.kept
  started := h.started
  watched := h.watched

theorem first {starts : List (Watcher × Nat)} (h : starts ≠ []) :
    Supervised real cancelled { waiting := starts } where
  governed _ hmem := absurd hmem List.not_mem_nil
  cause := nofun
  start := nofun
  kept := nofun
  started hsome := absurd hsome Bool.false_ne_true
  watched hnone := absurd hnone h

/-- Until every watcher has its tasks nothing is kept. -/
theorem unkept (h : tracker.Supervised real cancelled) (hstarted : tracker.started = false) :
    tracker.startFailure = none ∧ tracker.failure = none := by
  have hsound : tracker.broken = false :=
    Bool.eq_false_iff.mpr fun hbroken => by simp [h.started hbroken] at hstarted
  simpa [broken] using hsound

/-- The tasks of one watcher move or are joined; all else stays as it is, or a failure is kept. -/
theorem set {i : Nat} {tasks moved : WatcherTasks} (h : tracker.Supervised real cancelled)
    (hi : tracker.tasks[i]? = some tasks) (htasks : after.tasks = tracker.tasks.set i moved)
    (hwaiting : after.waiting = tracker.waiting)
    (hstart : after.startFailure = tracker.startFailure)
    (hfired : tracker.fired = true → after.fired = true)
    (hfailure : tracker.failure.isSome = true → after.failure.isSome = true)
    (hmoved : moved.Governed real (cancelled || after.fired) (cancelled || after.broken))
    (hfails : ∀ failure, tasks.Fails failure → moved.Fails failure)
    (hproducer : moved.producer = none → tasks.producer = none)
    (hcause : after.fired = true → tracker.fired = true ∨ cancelled = true ∨
      ∃ failure, real failure ∧ moved.Fails failure)
    (hkept : ∀ failure, after.failure = some failure → tracker.failure = some failure ∨
      tracker.started = true ∧ tasks.Fails failure ∧
        (real failure ∨ cancelled = false ∧ tracker.fired = true)) :
    after.Supervised real cancelled := by
  have hmem : tasks ∈ tracker.tasks := List.mem_of_getElem? hi
  have hmem' : moved ∈ after.tasks := by
    rw [htasks]
    exact List.mem_set (List.getElem?_eq_some_iff.mp hi).1 moved
  have hall : ∀ failure, tracker.Fails failure → after.Fails failure := by
    rintro failure (hstarted | ⟨other, hother, hfailed⟩)
    · exact .inl (hstart.trans hstarted)
    · obtain ⟨j, hj⟩ := List.mem_iff_getElem?.mp hother
      by_cases hsame : i = j
      · subst hsame
        cases hi.symm.trans hj
        exact .inr ⟨moved, hmem', hfails failure hfailed⟩
      · refine .inr ⟨other, List.mem_of_getElem? (i := j) ?_, hfailed⟩
        rwa [htasks, List.getElem?_set_ne hsame]
  have hstarted : tracker.started = true → after.started = true := by
    simp only [started_iff, hwaiting, htasks]
    refine And.imp_right fun hproducers other hother => ?_
    rcases List.mem_or_eq_of_mem_set hother with hother | rfl
    · exact hproducers other hother
    · exact fun hnone => hproducers tasks hmem (hproducer hnone)
  have hcaused : after.fired = true →
      cancelled = true ∨ ∃ failure, real failure ∧ after.Fails failure := by
    intro hlater
    rcases hcause hlater with hbefore | hcancelled | ⟨failure, hreal, hfailed⟩
    · exact (h.cause hbefore).imp_right fun ⟨failure, hreal, hfailed⟩ =>
        ⟨failure, hreal, hall failure hfailed⟩
    · exact .inl hcancelled
    · exact .inr ⟨failure, hreal, .inr ⟨moved, hmem', hfailed⟩⟩
  refine ⟨fun other hother => ?_, hcaused, fun failure hfailed => ?_, fun failure hfailed => ?_,
    fun hsome => ?_, fun hnone => ?_⟩
  · rw [htasks] at hother
    rcases List.mem_or_eq_of_mem_set hother with hother | rfl
    · refine (h.governed other hother).mono (fun hbefore => ?_) fun hbefore => ?_
      · simp only [Bool.or_eq_true] at hbefore ⊢
        exact hbefore.imp_right hfired
      · simp only [broken, Bool.or_eq_true, hstart] at hbefore ⊢
        exact hbefore.imp_right (Or.imp_right hfailure)
    · exact hmoved
  · exact h.start failure (hstart ▸ hfailed)
  · rcases hkept failure hfailed with hbefore | ⟨-, hfails', hwhy⟩
    · obtain ⟨hself, genuine, hreal, hgenuine⟩ := h.kept failure hbefore
      exact ⟨hall _ hself, genuine, hreal, hall _ hgenuine⟩
    · have hself : after.Fails failure := .inr ⟨moved, hmem', hfails failure hfails'⟩
      refine ⟨hself, ?_⟩
      rcases hwhy with hreal | ⟨hlive, hbefore⟩
      · exact ⟨failure, hreal, hself⟩
      · obtain ⟨genuine, hreal, hgenuine⟩ := (h.cause hbefore).resolve_left (by simp [hlive])
        exact ⟨genuine, hreal, hall _ hgenuine⟩
  · rw [broken, Bool.or_eq_true, hstart] at hsome
    rcases hsome with hsome | hsome
    · exact hstarted (h.started (by simp [broken, hsome]))
    · obtain ⟨failure, hfailed⟩ := Option.isSome_iff_exists.mp hsome
      rcases hkept failure hfailed with hbefore | ⟨hready, -⟩
      · exact hstarted (h.started (by simp [broken, hbefore]))
      · exact hstarted hready
  · rw [htasks]
    have htracked := h.watched (hwaiting ▸ hnone)
    simpa using htracked

theorem spawn {start : Watcher × Nat} {rest : List (Watcher × Nat)}
    (h : tracker.Supervised real cancelled) (hwaiting : tracker.waiting = start :: rest) :
    Supervised real cancelled
      { tracker with
        waiting := rest
        tasks := tracker.tasks ++ [firstTasks settings start.1 start.2] } := by
  obtain ⟨hstart, hfailure⟩ := h.unkept (by simp [Tracker.started, hwaiting])
  refine ⟨fun tasks hmem => ?_, fun hfired => (h.cause hfired).imp_right ?_, h.start,
    fun failure hfailed => ?_, fun hbroken => ?_, fun _ => by simp⟩
  · rcases List.mem_append.mp hmem with hmem | hmem
    · exact h.governed tasks hmem
    · rw [List.mem_singleton.mp hmem]
      exact .first _ _
  · rintro ⟨failure, hreal, hstarted | ⟨tasks, hmem, hfails⟩⟩
    · exact ⟨failure, hreal, .inl hstarted⟩
    · exact ⟨failure, hreal, .inr ⟨tasks, List.mem_append_left _ hmem, hfails⟩⟩
  · cases hfailure.symm.trans hfailed
  · simp [broken, hstart, hfailure] at hbroken

theorem opened (h : tracker.Supervised real cancelled) (hopening : tracker.opening = true) :
    Supervised real cancelled
      { tracker with tasks := tracker.tasks.map (afterOpening (.ok ())) } := by
  obtain ⟨hstart, hfailure⟩ := h.unkept (by simp [Tracker.started, hopening])
  refine ⟨fun tasks hmem => ?_, fun hfired => (h.cause hfired).imp_right ?_, h.start,
    fun failure hfailed => ?_, fun hbroken => ?_, fun hnone => by simpa using h.watched hnone⟩
  · obtain ⟨before, hbefore, rfl⟩ := List.mem_map.mp hmem
    exact (h.governed before hbefore).afterOpening nofun
  · rintro ⟨failure, hreal, hstarted | ⟨tasks, hmem, hfails⟩⟩
    · exact ⟨failure, hreal, .inl hstarted⟩
    · have hfails := WatcherTasks.Governed.fails_afterOpening hfails (.ok ())
      exact ⟨failure, hreal, .inr ⟨_, List.mem_map_of_mem hmem, hfails⟩⟩
  · cases hfailure.symm.trans hfailed
  · simp [broken, hstart, hfailure] at hbroken

/-- A stream that cannot be opened fires the token, and no more watchers are started. -/
theorem unopened {failure : Failure} (h : tracker.Supervised real cancelled)
    (hopening : tracker.opening = true) (hreal : real failure) :
    Supervised real cancelled
      { tracker with
        waiting := []
        tasks := tracker.tasks.map (afterOpening (.error failure))
        fired := true
        startFailure := some failure } := by
  obtain ⟨hstart, hfailure⟩ := h.unkept (by simp [Tracker.started, hopening])
  refine ⟨fun tasks hmem => ?_, fun _ => .inr ⟨failure, hreal, .inl rfl⟩, fun found hfound => ?_,
    fun found hfound => ?_, fun _ => started_iff.mpr ⟨rfl, fun tasks hmem => ?_⟩, fun _ hnone => ?_⟩
  · obtain ⟨before, hbefore, rfl⟩ := List.mem_map.mp hmem
    refine ((h.governed before hbefore).mono ?_ ?_).afterOpening fun _ _ => Bool.or_true _
    · exact fun _ => Bool.or_true _
    · exact fun _ => by simp [broken]
  · cases hfound
    exact hreal
  · cases hfailure.symm.trans hfound
  · obtain ⟨before, -, rfl⟩ := List.mem_map.mp hmem
    unfold afterOpening
    split <;> simp_all
  · obtain ⟨tasks, hmem, -⟩ := List.any_eq_true.mp hopening
    simp [List.map_eq_nil_iff.mp hnone] at hmem

theorem move {i : Nat} {tasks moved : WatcherTasks} {fired : Bool}
    (h : tracker.Supervised real cancelled) (hi : tracker.tasks[i]? = some tasks)
    (hgoverned : moved.Governed real fired (cancelled || tracker.broken))
    (honward : tasks.Onward real (cancelled || tracker.fired) fired moved)
    (hproducer : moved.producer = none → tasks.producer = none) (locked : Bool) :
    Supervised real cancelled
      { tracker with
        tasks := tracker.tasks.set i moved
        fired := tracker.fired || fired && !cancelled
        locked } := by
  refine h.set hi rfl rfl rfl (fun hfired => by simp [hfired]) id (hgoverned.mono ?_ id)
    honward.fails hproducer (fun hfired => ?_) fun _ hfailed => .inl hfailed
  · intro hfired
    cases cancelled <;> simp [hfired]
  · rcases Bool.or_eq_true_iff.mp hfired with hfired | hfired
    · exact .inl hfired
    · rcases honward.cause (Bool.and_eq_true_iff.mp hfired).1 with hbefore | hfailed
      · exact (Bool.or_eq_true_iff.mp hbefore).symm.imp_right .inl
      · exact .inr (.inr hfailed)

theorem notice_spec (tracker : Tracker) (cancelled : Bool) (result : Except Failure Unit) :
    (tracker.notice cancelled result).startFailure = tracker.startFailure ∧
    (tracker.fired = true → (tracker.notice cancelled result).fired = true) ∧
    (tracker.failure.isSome = true → (tracker.notice cancelled result).failure.isSome = true) ∧
    (result = .ok () ∨ (cancelled || (tracker.notice cancelled result).broken) = true) ∧
    ∀ failure, (tracker.notice cancelled result).failure = some failure →
      tracker.failure = some failure ∨
        result = .error failure ∧ (cancelled = true → failure.isCancellation = false) := by
  cases result with
  | ok _ => exact ⟨rfl, id, id, .inl rfl, fun _ => .inl⟩
  | error found =>
    simp only [Tracker.notice]
    split
    · next hstart => exact ⟨rfl, id, id, .inr (by simp [broken, hstart]), fun _ => .inl⟩
    · split
      · next hpassed =>
        obtain ⟨hcancelled, -⟩ := Bool.and_eq_true_iff.mp hpassed
        exact ⟨rfl, fun _ => rfl, id, .inr (by simp [hcancelled]), fun _ => .inl⟩
      · next hpassed =>
        cases hfailure : tracker.failure with
        | some first => exact ⟨rfl, fun _ => rfl, id, .inr (by simp [broken]), fun _ => .inl⟩
        | none =>
          refine ⟨rfl, fun _ => rfl, nofun, .inr (by simp [broken]), fun failure hkept => ?_⟩
          cases hkept
          exact .inr ⟨rfl, fun hcancelled => by simpa [hcancelled] using hpassed⟩

theorem notice {i : Nat} {tasks joined : WatcherTasks} {result : Except Failure Unit}
    (hreal : ∀ failure, failure.isCancellation = false → real failure)
    (h : tracker.Supervised real cancelled) (hi : tracker.tasks[i]? = some tasks)
    (hstarted : tracker.started = true)
    (hfired : (cancelled || tracker.fired) = true)
    (hfails : ∀ failure, result = .error failure → tasks.Fails failure)
    (hjoined : ∀ fired settled, tasks.Governed real fired settled →
      settled = true ∨ result = .ok () → joined.Governed real fired settled)
    (hsame : ∀ failure, tasks.Fails failure → joined.Fails failure)
    (hproducer : joined.producer = tasks.producer) :
    Supervised real cancelled
      { tracker.notice cancelled result with tasks := tracker.tasks.set i joined } := by
  obtain ⟨hstart, hlater, hfailure, hsettled, hkept⟩ := notice_spec tracker cancelled result
  refine h.set hi rfl (notice_waiting ..) hstart hlater hfailure ?_ hsame (hproducer ▸ id)
    (fun _ => (Bool.or_eq_true_iff.mp hfired).symm.imp_right .inl) fun failure hfailed => ?_
  · refine hjoined _ _ ((h.governed tasks (List.mem_of_getElem? hi)).mono ?_ ?_) hsettled.symm
    · simp only [Bool.or_eq_true]
      exact Or.imp_right hlater
    · simp only [broken, Bool.or_eq_true, hstart]
      exact Or.imp_right (Or.imp_right hfailure)
  · refine (hkept failure hfailed).imp_right fun ⟨herror, hgenuine⟩ =>
      ⟨hstarted, hfails failure herror, ?_⟩
    cases cancelled with
    | true => exact .inl (hreal failure (hgenuine rfl))
    | false => exact .inr ⟨rfl, hfired⟩

theorem step {step : Step} (hreal : ∀ failure, failure.isCancellation = false → real failure)
    (h : tracker.Supervised real cancelled) (hblames : step.Blames real)
    (hstep : tracker.step settings cancelled database step = some (later, after)) :
    after.Supervised real cancelled := by
  cases step with
  | spawn =>
    simp only [Tracker.step] at hstep
    split at hstep
    · cases hstep
    · next watcher cursor rest hwaiting =>
      split at hstep
      · cases hstep
      · cases hstep
        exact h.spawn hwaiting
  | opened reply =>
    simp only [Tracker.step] at hstep
    split at hstep
    · cases hstep
    · next hopening =>
      have hopening : tracker.opening = true := by simpa using hopening
      cases reply with
      | ok _ =>
        cases hstep
        exact h.opened hopening
      | error failure =>
        cases hstep
        exact h.unopened hopening (hblames failure rfl)
  | produce i move =>
    simp only [Tracker.step, Option.bind_eq_bind] at hstep
    rw [Option.bind_eq_some_iff] at hstep
    obtain ⟨tasks, htasks, hstep⟩ := hstep
    rw [Option.bind_eq_some_iff] at hstep
    obtain ⟨⟨fired, moved⟩, hproduce, hstep⟩ := hstep
    cases hstep
    have hproduces := WatcherTasks.produces_of_produce hproduce
    obtain ⟨hmoved, honward⟩ := (h.governed tasks (List.mem_of_getElem? htasks)).produces hreal
      hproduces
    exact h.move htasks hmoved honward (by cases hproduces <;> intro hnone <;> cases hnone)
      tracker.locked
  | consume i move =>
    simp only [Tracker.step, Option.bind_eq_bind] at hstep
    rw [Option.bind_eq_some_iff] at hstep
    obtain ⟨tasks, htasks, hstep⟩ := hstep
    rw [Option.bind_eq_some_iff] at hstep
    obtain ⟨⟨shared, fired, moved⟩, hconsume, hstep⟩ := hstep
    cases hstep
    have hconsumes := WatcherTasks.consumes_of_consume hconsume
    have hfault : ∀ fault, move = .perform fault → ∀ failure ∈ fault, real failure := by
      rintro fault rfl
      exact hblames
    obtain ⟨hmoved, honward⟩ :=
      (h.governed tasks (List.mem_of_getElem? htasks)).consumes hreal hfault hconsumes
    exact h.move htasks hmoved honward (by cases hconsumes <;> exact id) shared.locked
  | joinProducer i =>
    simp only [Tracker.step, Option.bind_eq_bind] at hstep
    rw [Option.bind_eq_some_iff] at hstep
    obtain ⟨tasks, htasks, hstep⟩ := hstep
    split at hstep
    · next result hended =>
      split at hstep
      · next hready =>
        cases hstep
        have hgoverned := h.governed tasks (List.mem_of_getElem? htasks)
        exact h.notice hreal htasks (Bool.and_eq_true_iff.mp hready).1 (hgoverned.stopped _ hended)
          (fun failure herror => .inl (herror ▸ hended))
          (fun _ _ hmoved => hmoved.joinProducer hended) (fun _ => id) rfl
      · cases hstep
    · cases hstep
  | joinConsumer i =>
    simp only [Tracker.step, Option.bind_eq_bind] at hstep
    rw [Option.bind_eq_some_iff] at hstep
    obtain ⟨tasks, htasks, hstep⟩ := hstep
    split at hstep
    · next result hended =>
      split at hstep
      · next hready =>
        cases hstep
        have hgoverned := h.governed tasks (List.mem_of_getElem? htasks)
        exact h.notice hreal htasks (Bool.and_eq_true_iff.mp hready).1 (hgoverned.quit _ hended)
          (fun failure herror => .inr (herror ▸ hended))
          (fun _ _ hmoved => hmoved.joinConsumer hended) (fun _ => id) rfl
      · cases hstep
    · cases hstep

/-! ### The end -/

section

variable {result : Except Failure Unit}

theorem joined_of_result (hresult : tracker.result? = some result) :
    tracker.started = true ∧ ∀ tasks ∈ tracker.tasks, tasks.joined = true := by
  unfold result? at hresult
  split at hresult
  · next hall =>
    simpa using hall
  · cases hresult

theorem ended (h : tracker.Supervised real cancelled) (hresult : tracker.result? = some result) :
    ∀ tasks ∈ tracker.tasks, tasks.Over := by
  intro tasks hmem
  have hjoined := Bool.and_eq_true_iff.mp ((joined_of_result hresult).2 tasks hmem)
  have hgoverned := h.governed tasks hmem
  obtain ⟨result, hproducer, -⟩ := hgoverned.producerJoined hjoined.1
  obtain ⟨result', hconsumer, -⟩ := hgoverned.consumerJoined hjoined.2
  exact ⟨⟨result, hproducer⟩, result', hconsumer⟩

theorem cancelled_of_ok (h : tracker.Supervised real cancelled)
    (hresult : tracker.result? = some (.ok ())) : cancelled = true := by
  obtain ⟨hstarted, hjoined⟩ := joined_of_result hresult
  have hsound : tracker.broken = false := by
    unfold result? at hresult
    split at hresult
    · cases hstart : tracker.startFailure <;> cases hfailure : tracker.failure <;>
        simp_all [broken]
    · cases hresult
  -- Some task has ended, so the token has fired; and had a failure fired it, it would be kept.
  obtain ⟨tasks, hmem⟩ := List.exists_mem_of_ne_nil _ (h.watched (started_iff.mp hstarted).1)
  obtain ⟨⟨found, hproducer⟩, -⟩ := h.ended hresult tasks hmem
  have hstopped := (h.governed tasks hmem).stopped found hproducer
  rcases Bool.or_eq_true_iff.mp hstopped with hdone | hfired
  · exact hdone
  · rcases h.cause hfired with hdone | ⟨failure, -, hstart | ⟨tasks, hmem, hfails⟩⟩
    · exact hdone
    · simp [broken, hstart] at hsound
    · have hgoverned := h.governed tasks hmem
      have hboth := Bool.and_eq_true_iff.mp (hjoined tasks hmem)
      rw [hsound, Bool.or_false] at hgoverned
      rcases hfails with hfails | hfails
      · obtain ⟨ended, hended, hpassed⟩ := hgoverned.producerJoined hboth.1
        cases hfails.symm.trans hended
        exact hpassed.resolve_right nofun
      · obtain ⟨ended, hended, hpassed⟩ := hgoverned.consumerJoined hboth.2
        cases hfails.symm.trans hended
        exact hpassed.resolve_right nofun

theorem genuine_of_error {failure : Failure} (h : tracker.Supervised real cancelled)
    (hresult : tracker.result? = some (.error failure)) :
    tracker.Fails failure ∧ ∃ genuine, real genuine ∧ tracker.Fails genuine := by
  unfold result? at hresult
  split at hresult
  · split at hresult
    · next found hkept =>
      cases hresult
      cases hstart : tracker.startFailure with
      | some _ =>
        simp only [hstart] at hkept
        cases hkept
        exact ⟨.inl hstart, _, h.start _ hstart, .inl hstart⟩
      | none =>
        simp only [hstart] at hkept
        exact h.kept _ hkept
    · cases hresult
  · cases hresult

end


end Supervised

/-- The trackers that become of some watchers, with whether the caller's token has fired: it may at
any time.  Neither the database nor a stream says that a wait was interrupted. -/
inductive Runs (settings : Settings) (starts : List (Watcher × Nat)) :
    Bool → Database → Tracker → Prop
  | start (cancelled : Bool) (database : Database) :
    Runs settings starts cancelled database { waiting := starts }
  | cancel {cancelled : Bool} {database : Database} {tracker : Tracker} :
    Runs settings starts cancelled database tracker → Runs settings starts true database tracker
  | step {cancelled : Bool} {database later : Database} {tracker after : Tracker} :
    Runs settings starts cancelled database tracker → ∀ step : Step,
      step.Blames (·.isCancellation = false) →
        tracker.step settings cancelled database step = some (later, after) →
          Runs settings starts cancelled later after

namespace Runs

variable {starts : List (Watcher × Nat)} {result : Except Failure Unit}

theorem supervised (hstarts : starts ≠ []) (h : Runs settings starts cancelled database tracker) :
    tracker.Supervised (·.isCancellation = false) cancelled := by
  induction h with
  | start => exact .first hstarts
  | cancel _ ih => exact ih.cancel
  | step _ step hblames hstep ih => exact ih.step (fun _ => id) hblames hstep

/-- A tracker returns only after all of its tasks have ended.  It succeeds only if the caller's
token has fired.  A failure that it returns is that of one of its watchers, and something has then
failed for another reason than that a wait was interrupted. -/
theorem ends_as_unit (hstarts : starts ≠ []) (h : Runs settings starts cancelled database tracker)
    (hresult : tracker.result? = some result) :
    (∀ tasks ∈ tracker.tasks, tasks.Over) ∧ (result = .ok () → cancelled = true) ∧
      ∀ failure, result = .error failure → tracker.Fails failure ∧
        ∃ genuine, genuine.isCancellation = false ∧ tracker.Fails genuine := by
  have hsupervised := supervised hstarts h
  refine ⟨hsupervised.ended hresult, fun hok => ?_, fun failure herror => ?_⟩
  · subst hok
    exact hsupervised.cancelled_of_ok hresult
  · subst herror
    exact hsupervised.genuine_of_error hresult

theorem steps {steps : List Step} (h : Runs settings starts cancelled database tracker)
    (hblames : ∀ step ∈ steps, step.Blames (·.isCancellation = false))
    (hsteps : steps.foldlM
      (fun (state : Database × Tracker) => state.2.step settings cancelled state.1)
      (database, tracker) = some (later, after)) :
    Runs settings starts cancelled later after :=
  preserved_by_foldlM (fun state => Runs settings starts cancelled state.1 state.2)
    (fun _ _ step hmem hnow hstep => hnow.step step (hblames step hmem) hstep) h hsteps

/-- What a chain whose head is at 1 and that has no logs tells. -/
def barrenChain : (request : Request) → request.Reply
  | .head .. => .ok 1
  | .chunk _ => .ok []
  | _ => .error Cause.cancelled

/-- A poll of one block at a time. -/
def narrow : Settings := { address := 0, maxRangeWidth := 1 }

/-- The consumer fails at the first range, while the producer asks for the head again. -/
def maskingSteps (failure : Failure) : List Step :=
  [.spawn, .produce 0 .call, .produce 0 (.reply barrenChain), .produce 0 (.reply barrenChain),
    .produce 0 .finish, .produce 0 .send, .produce 0 .call, .consume 0 .take,
    .consume 0 (.perform (some failure)), .consume 0 .finish,
    .produce 0 (.reply fun _ => .error Cause.cancelled), .produce 0 .finish]

def maskedTasks (watcher : Watcher) (failure : Failure) : WatcherTasks :=
  { watcher
    feed := { progress := { next := 2, checkpoint := 1 } }
    channel := { capacity := 16, senderGone := true, receiverGone := true }
    producer := some (.ended (.error Cause.cancelled))
    consumer := .ended (.error failure) }

/-- The failure that is returned need not be the one that came first.  When a consumer fails while
its producer asks for the head, the producer is told of an interruption; and if its end is noticed
before the consumer's, that is what is returned, though the caller's token has not fired. -/
theorem interruption_masks {failure : Failure} (hgenuine : failure.isCancellation = false)
    (watcher : Watcher) (database : Database) :
    ∃ later tracker, Runs narrow [(watcher, 0)] false later tracker ∧
      tracker.Fails failure ∧ tracker.result? = some (.error Cause.cancelled) := by
  have hblames : ∀ step ∈ maskingSteps failure, step.Blames (·.isCancellation = false) := by
    simp [maskingSteps, Step.Blames, hgenuine]
  have hmasked : Runs narrow [(watcher, 0)] false database
      { waiting := [], tasks := [maskedTasks watcher failure], fired := true } :=
    (start false database).steps hblames rfl
  have hproducer := hmasked.step (.joinProducer 0) trivial rfl
  have hconsumer := hproducer.step (.joinConsumer 0) trivial rfl
  exact ⟨_, _, hconsumer, .inr ⟨_, List.mem_singleton_self _, .inr rfl⟩, rfl⟩

end Runs

end Tracker

/-! ### Engines -/

theorem Routine.Safe.anyway {α : Type} {node : (request : Request) → request.Reply → Prop}
    {ends : Except Failure α → Unit → Prop} (h : ∀ result, ends result ()) (routine : Routine α) :
    routine.Safe (.told node) ends () := by
  induction routine with
  | done result => exact fun _ _ => h result
  | ask request next ih => exact fun _ _ reply _ _ => ⟨trivial, ih reply⟩

/-- Where there is a watcher, there is a start. -/
theorem Tracker.keeps_starts (handoff : Nat) {watchers : List Watcher} (h : watchers ≠ []) :
    (Tracker.seed handoff watchers).Safe (.told fun _ _ => True)
      (fun result _ => ∀ starts, result = .ok starts → starts ≠ []) () := by
  cases watchers with
  | nil => exact absurd rfl h
  | cons watcher rest =>
    have hany : ∀ {α : Type} (routine : Routine α),
        routine.Safe (.told fun _ _ => True) (fun _ _ => True) () :=
      Routine.Safe.anyway fun _ => trivial
    have hrest : ∀ cursor, (seed handoff rest >>= fun starts =>
        (return (watcher, cursor) :: starts : Routine (List (Watcher × Nat)))).Safe
          (.told fun _ _ => True)
          (fun result _ => ∀ starts, result = .ok starts → starts ≠ []) () := by
      refine fun cursor => (hany _).bind (fun starts _ _ _ _ found hfound => ?_)
        fun _ _ _ _ => nofun
      cases hfound
      exact List.cons_ne_nil _ _
    refine (hany _).bind (fun stored _ _ => ?_) fun _ _ _ _ => nofun
    dsimp only
    split
    · exact (hany _).bind (fun _ _ _ => hrest _) fun _ _ _ _ => nofun
    · exact hrest _

namespace Engine

def Overseen (engine : Engine) : Prop :=
  match engine.stage with
  | .backfilling routine =>
    engine.settings.events = [] → ∃ failure, routine = .done (.error failure)
  | .seeding routine => routine.Safe (.told fun _ _ => True)
      (fun result _ => ∀ starts, result = .ok starts → starts ≠ []) ()
  | .tracking tracker => tracker.Supervised (fun _ => True) engine.cancelled
  | .ended result => result = .ok () → engine.cancelled = true

variable {engine after : Engine}

theorem overseen_start (settings : Settings) (database : Database) :
    (start settings database).Overseen := by
  intro hnone
  unfold Backfill.run
  cases hvalid : settings.validate with
  | ok _ => exact absurd hnone (Settings.events_of_validate hvalid)
  | error failure => exact ⟨failure, rfl⟩

theorem Overseen.step {step : Step} (h : engine.Overseen) (hstep : engine.step step = some after) :
    after.Overseen := by
  unfold Overseen at h
  unfold Engine.step at hstep
  split at hstep
  · cases hstep
    cases hstage : engine.stage with
    | backfilling routine => simpa [Overseen, hstage] using h
    | seeding routine => simpa [Overseen, hstage] using h
    | tracking tracker =>
      rw [hstage] at h
      simpa [Overseen, hstage] using h.cancel
    | ended result => simp [Overseen]
  · next answer request next hstage =>
    rw [hstage] at h
    dsimp only at hstep
    rw [Option.ite_none_left_eq_some] at hstep
    cases hstep.2
    exact fun hnone => nomatch h hnone
  · next fault request next hstage =>
    rw [hstage] at h
    rw [Option.bind_eq_bind, Option.bind_eq_some_iff] at hstep
    obtain ⟨⟨reply, database⟩, -, hstep⟩ := hstep
    cases hstep
    exact fun hnone => nomatch h hnone
  · next fault request next hstage =>
    rw [hstage] at h
    rw [Option.bind_eq_bind, Option.bind_eq_some_iff] at hstep
    obtain ⟨⟨reply, database⟩, -, hstep⟩ := hstep
    cases hstep
    exact (h () trivial reply () trivial).2
  · next routine hstage =>
    split at hstep
    · next hcancelled =>
      cases hstep
      exact fun _ => hcancelled
    · cases hstep
  · next result hstage =>
    rw [hstage] at h
    cases hstep
    cases result with
    | ok report =>
      have hevents : engine.settings.events ≠ [] := fun hnone => nomatch h hnone
      exact Tracker.keeps_starts report.cursor (Settings.watchers_ne_nil hevents)
    | error failure =>
      cases hpassed : engine.cancelled && failure.isCancellation with
      | true =>
        obtain ⟨hcancelled, hinterrupted⟩ := Bool.and_eq_true_iff.mp hpassed
        simp [Overseen, afterBackfill, hcancelled, hinterrupted]
      | false => simp [Overseen, afterBackfill, hpassed]
  · next starts hstage =>
    rw [hstage] at h
    cases hstep
    exact .first (h.ends_now starts rfl)
  · next failure hstage =>
    cases hstep
    exact nofun
  · next tracker hstage =>
    rw [hstage] at h
    rw [Option.bind_eq_bind, Option.bind_eq_some_iff] at hstep
    obtain ⟨result, hresult, hstep⟩ := hstep
    cases hstep
    intro hok
    subst hok
    exact h.cancelled_of_ok hresult
  · next step tracker hstage =>
    rw [hstage] at h
    rw [Option.bind_eq_bind, Option.bind_eq_some_iff] at hstep
    obtain ⟨⟨database, after⟩, hmove, hstep⟩ := hstep
    cases hstep
    exact h.step (fun _ _ => trivial) (Tracker.Step.blames_any step) hmove
  · cases hstep

/-- An engine ends well only if its token has fired. -/
theorem cancelled_of_ended_ok {settings : Settings} {database : Database}
    (h : (start settings database).Becomes engine) (hended : engine.stage = .ended (.ok ())) :
    engine.cancelled = true := by
  have hoverseen : engine.Overseen := by
    clear hended
    induction h with
    | refl => exact overseen_start settings database
    | step _ step hstep ih => exact ih.step hstep
  unfold Overseen at hoverseen
  rw [hended] at hoverseen
  exact hoverseen rfl

end Engine

end EventIndexer
