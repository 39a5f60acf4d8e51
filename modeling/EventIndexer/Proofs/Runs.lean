import EventIndexer.Engine
import EventIndexer.Proofs.Moves

/-! The steps of an engine, read backwards, and the watchers of a configuration: each owns a cursor
of its own, and the shared cursor is no watcher's own. -/

namespace EventIndexer

/-! ### Watchers -/

theorem Kind.name_injective {a b : Kind} (h : a.name = b.name) : a = b := by
  cases a <;> cases b <;> first | rfl | exact absurd h (by decide)

theorem watcherKey_injective {key : String} {a b : Kind} (h : watcherKey key a = watcherKey key b) :
    a = b := by
  unfold watcherKey at h
  exact Kind.name_injective ((String.append_right_inj _).mp h)

theorem watcherKey_ne (key : String) (kind : Kind) : watcherKey key kind ≠ key := by
  intro h
  have hlength := congrArg String.length h
  have hcolon : ":".length = 1 := rfl
  simp only [watcherKey, String.length_append, hcolon] at hlength
  omega

namespace Settings

variable {settings : Settings} {watcher : Watcher}

/-- The key that a watcher over some kinds moves is the shared one if it is the only watcher, and
one of its own if there is one a kind. -/
theorem mem_watchers (h : watcher ∈ settings.watchers) :
    (settings.watcherPerEvent = false ∧ watcher =
      { kinds := settings.events, key := settings.cursorKey, watermark := none }) ∨
    (settings.watcherPerEvent = true ∧ ∃ kind ∈ settings.events, watcher =
      { kinds := [kind], key := watcherKey settings.cursorKey kind
        watermark := some
          { shared := settings.cursorKey
            members := settings.events.map (watcherKey settings.cursorKey) } }) := by
  unfold watchers at h
  cases hper : settings.watcherPerEvent with
  | false =>
    simp only [hper, Bool.false_eq_true, if_false, List.mem_singleton] at h
    exact .inl ⟨rfl, h⟩
  | true =>
    simp only [hper, if_true, List.mem_map] at h
    obtain ⟨kind, hkind, rfl⟩ := h
    exact .inr ⟨rfl, kind, hkind, rfl⟩

theorem watchers_ne_nil (h : settings.events ≠ []) : settings.watchers ≠ [] := by
  unfold watchers
  split
  · simpa using h
  · simp

theorem exists_watcher (hper : settings.watcherPerEvent = true) {kind : Kind}
    (hkind : kind ∈ settings.events) :
    ∃ watcher ∈ settings.watchers, watcher.key = watcherKey settings.cursorKey kind := by
  unfold watchers
  rw [if_pos hper]
  exact ⟨_, List.mem_map_of_mem hkind, rfl⟩

/-- A cursor that is shared is no watcher's own. -/
theorem shared_ne_key {other : Watcher} (h : watcher ∈ settings.watchers)
    (h' : other ∈ settings.watchers) : watcher.watermark.map (·.shared) ≠ some other.key := by
  rcases mem_watchers h with ⟨-, rfl⟩ | ⟨hper, kind, -, rfl⟩
  · nofun
  · rcases mem_watchers h' with ⟨hnot, -⟩ | ⟨-, own, -, rfl⟩
    · rw [hper] at hnot
      cases hnot
    · exact fun hsame => watcherKey_ne _ _ (Option.some.inj hsame).symm

/-- The watchers of kinds that are all different own no cursor in common, nor does a single one. -/
theorem watchers_apart (hnodup : settings.watcherPerEvent = true → settings.events.Nodup)
    (i j : Nat) (a b : Watcher) (ha : settings.watchers[i]? = some a)
    (hb : settings.watchers[j]? = some b) (hne : i ≠ j) :
    (Actor.ofWatcher i a).Apart (Actor.ofWatcher j b) := by
  unfold watchers at ha hb
  cases hper : settings.watcherPerEvent with
  | false =>
    simp only [hper, Bool.false_eq_true, if_false, List.getElem?_singleton] at ha hb
    split at ha
    · split at hb
      · omega
      · cases hb
    · cases ha
  | true =>
    simp only [hper, if_true, List.getElem?_map, Option.map_eq_some_iff] at ha hb
    obtain ⟨kind, hkind, rfl⟩ := ha
    obtain ⟨other, hother, rfl⟩ := hb
    have hkinds : kind ≠ other := fun hsame => by
      subst hsame
      exact hne ((List.getElem?_inj (List.getElem?_eq_some_iff.mp hkind).1 (hnodup hper)).mp
        (hkind.trans hother.symm))
    refine ⟨hne, fun key hkey hmem => ?_, fun key hkey hmem => ?_, fun key hkey hmem => ?_⟩
    · rw [List.mem_singleton.mp hkey] at hmem
      exact hkinds (watcherKey_injective (List.mem_singleton.mp hmem))
    · cases hkey
      exact watcherKey_ne _ _ (List.mem_singleton.mp hmem).symm
    · cases hkey
      exact watcherKey_ne _ _ (List.mem_singleton.mp hmem).symm

end Settings

/-! ### Engines -/

/-- What every step of a list preserves holds after all of them. -/
theorem preserved_by_foldlM {σ ι : Type} {f : σ → ι → Option σ} {steps : List ι} {first last : σ}
    (P : σ → Prop)
    (hstep : ∀ before after, ∀ step ∈ steps, P before → f before step = some after → P after)
    (hfirst : P first) (h : steps.foldlM f first = some last) : P last := by
  induction steps generalizing first with
  | nil =>
    cases h
    exact hfirst
  | cons step rest ih =>
    rw [List.foldlM_cons, Option.bind_eq_bind, Option.bind_eq_some_iff] at h
    obtain ⟨next, hnext, hrest⟩ := h
    have hsecond := hstep first next step List.mem_cons_self hfirst hnext
    exact ih (fun before after other hmem =>
      hstep before after other (List.mem_cons_of_mem _ hmem)) hsecond hrest

namespace Engine

theorem replied_of_performed {database after : Database} {fault : Option Failure}
    {request : Request} {reply : request.Reply}
    (h : performed database fault request = some (reply, after))
    (node : (request : Request) → request.Reply → Prop) (index : Nat) (holder : Option Nat) :
    World.Replied node index request { database, holder } reply { database := after, holder } := by
  unfold performed at h
  rw [Option.map_eq_some_iff] at h
  obtain ⟨answered, hanswer, hreply⟩ := h
  cases fault with
  | none =>
    dsimp only at hreply
    subst hreply
    exact .performed hanswer
  | some failure =>
    cases hreply
    refine .failed failure (fun hlock => ?_) fun hunlock => ?_
    · subst hlock
      cases hanswer
    · subst hunlock
      cases hanswer

/-- A step of an engine, by the stage that it is taken in. -/
inductive Moves (engine : Engine) : Step → Engine → Prop
  | cancel : Moves engine .cancel { engine with cancelled := true }
  /-- The node or the clock replies to the backfill. -/
  | told {answer : (request : Request) → request.Reply} {request : Request}
      {next : request.Reply → Routine Backfill.Report} :
    engine.stage = .backfilling (.ask request next) → engine.database.answer request = none →
      Moves engine (.reply answer) { engine with stage := .backfilling (next (answer request)) }
  | filled {fault : Option Failure} {request : Request}
      {next : request.Reply → Routine Backfill.Report} {reply : request.Reply}
      {database : Database} :
    engine.stage = .backfilling (.ask request next) →
      performed engine.database fault request = some (reply, database) →
        Moves engine (.perform fault) { engine with database, stage := .backfilling (next reply) }
  | backfilled {report : Backfill.Report} :
    engine.stage = .backfilling (.done (.ok report)) →
      Moves engine .advance
        { engine with stage := .seeding (Tracker.seed report.cursor engine.settings.watchers) }
  | seeding {fault : Option Failure} {request : Request}
      {next : request.Reply → Routine (List (Watcher × Nat))} {reply : request.Reply}
      {database : Database} :
    engine.stage = .seeding (.ask request next) →
      performed engine.database fault request = some (reply, database) →
        Moves engine (.perform fault) { engine with database, stage := .seeding (next reply) }
  | seeded {starts : List (Watcher × Nat)} :
    engine.stage = .seeding (.done (.ok starts)) →
      Moves engine .advance { engine with stage := .tracking { waiting := starts } }
  | track {tracker after : Tracker} {step : Tracker.Step} {database : Database} :
    engine.stage = .tracking tracker →
      tracker.step engine.settings engine.cancelled engine.database step = some (database, after) →
        Moves engine (.track step) { engine with database, stage := .tracking after }
  | tracked {tracker : Tracker} {result : Except Failure Unit} :
    engine.stage = .tracking tracker → Moves engine .advance { engine with stage := .ended result }
  /-- The engine ends before the watchers' cursors are seeded. -/
  | broken {step : Step} {result : Except Failure Unit} :
    (∀ starts, engine.stage ≠ .seeding (.done (.ok starts))) →
      (∀ tracker, engine.stage ≠ .tracking tracker) →
        Moves engine step { engine with stage := .ended result }

theorem moves_of_step {engine after : Engine} {step : Step} (h : engine.step step = some after) :
    engine.Moves step after := by
  unfold Engine.step at h
  split at h
  · cases h
    exact .cancel
  · next answer request next hstage =>
    dsimp only at h
    rw [Option.ite_none_left_eq_some] at h
    obtain ⟨hnone, h⟩ := h
    cases h
    refine .told hstage ?_
    cases hanswer : engine.database.answer request with
    | none => rfl
    | some answered => simp [hanswer] at hnone
  · next fault request next hstage =>
    rw [Option.bind_eq_bind, Option.bind_eq_some_iff] at h
    obtain ⟨⟨reply, database⟩, hperformed, h⟩ := h
    cases h
    exact .filled hstage hperformed
  · next fault request next hstage =>
    rw [Option.bind_eq_bind, Option.bind_eq_some_iff] at h
    obtain ⟨⟨reply, database⟩, hperformed, h⟩ := h
    cases h
    exact .seeding hstage hperformed
  · next routine hstage =>
    split at h
    · cases h
      exact .broken (by simp [hstage]) (by simp [hstage])
    · cases h
  · next result hstage =>
    cases h
    cases result with
    | ok report => exact .backfilled hstage
    | error failure =>
      unfold afterBackfill
      dsimp only
      split
      · exact .broken (by simp [hstage]) (by simp [hstage])
      · exact .broken (by simp [hstage]) (by simp [hstage])
  · next starts hstage =>
    cases h
    exact .seeded hstage
  · next failure hstage =>
    cases h
    exact .broken (by simp [hstage]) (by simp [hstage])
  · next tracker hstage =>
    rw [Option.bind_eq_bind, Option.bind_eq_some_iff] at h
    obtain ⟨result, hresult, h⟩ := h
    cases h
    exact .tracked hstage
  · next step tracker hstage =>
    rw [Option.bind_eq_bind, Option.bind_eq_some_iff] at h
    obtain ⟨⟨database, after⟩, hstep, h⟩ := h
    cases h
    exact .track hstage hstep
  · cases h

theorem Moves.settings {engine after : Engine} {step : Step} (h : engine.Moves step after) :
    after.settings = engine.settings := by
  cases h <;> rfl

/-- While the tracker runs, an engine is cancelled, its tracker takes a step, or it ends. -/
theorem Moves.of_tracking {engine after : Engine} {step : Step} {tracker : Tracker}
    (h : engine.Moves step after) (hstage : engine.stage = .tracking tracker) :
    (step = .cancel ∧ after = { engine with cancelled := true }) ∨
      (∃ result, step = .advance ∧ after = { engine with stage := .ended result }) ∨
      ∃ move database next, step = .track move ∧
        tracker.step engine.settings engine.cancelled engine.database move = some (database, next) ∧
        after = { engine with database, stage := .tracking next } := by
  cases h with
  | cancel => exact .inl ⟨rfl, rfl⟩
  | tracked => exact .inr (.inl ⟨_, rfl, rfl⟩)
  | track hother hstep =>
    rw [hother] at hstage
    cases hstage
    exact .inr (.inr ⟨_, _, _, rfl, hstep, rfl⟩)
  | broken _ hnot => exact absurd hstage (hnot tracker)
  | told hother | filled hother | backfilled hother | seeding hother | seeded hother =>
    rw [hother] at hstage
    cases hstage

/-- A tracker that was not running begins with what the seeding returned. -/
theorem Moves.to_tracking {engine after : Engine} {step : Step} {tracker : Tracker}
    (h : engine.Moves step after) (hnot : ∀ tracker, engine.stage ≠ .tracking tracker)
    (hstage : after.stage = .tracking tracker) :
    ∃ starts, engine.stage = .seeding (.done (.ok starts)) ∧ tracker = { waiting := starts } ∧
      after.database = engine.database := by
  cases h with
  | cancel => exact absurd hstage (hnot tracker)
  | track hother => exact absurd hother (hnot _)
  | seeded hseeded =>
    cases hstage
    exact ⟨_, hseeded, rfl, rfl⟩
  | told | filled | backfilled | seeding | tracked | broken => cases hstage

/-- The engines that an engine becomes, step by step. -/
inductive Becomes (engine : Engine) : Engine → Prop
  | refl : Becomes engine engine
  | step {before after : Engine} : Becomes engine before → ∀ step,
    before.step step = some after → Becomes engine after

theorem Becomes.trans {engine middle after : Engine} (h : engine.Becomes middle)
    (hmore : middle.Becomes after) : engine.Becomes after := by
  induction hmore with
  | refl => exact h
  | step _ step hstep ih => exact ih.step step hstep

/-! ### Steps in a row -/

/-- The engine after steps that are taken one after another. -/
theorem becomes_of_foldlM {engine after : Engine} {steps : List Step}
    (h : steps.foldlM Engine.step engine = some after) : engine.Becomes after :=
  preserved_by_foldlM engine.Becomes
    (fun _ _ step _ hbefore hstep => hbefore.step step hstep) .refl h

/-- The producer of a watcher makes one call, in which it is told of a head and queries a range, and
hands over what it found. -/
def fetch (i : Nat) (answer : (request : Request) → request.Reply) : List Step :=
  let told := Step.track (.produce i (.reply answer))
  [.track (.produce i .call), told, told, .track (.produce i .finish), .track (.produce i .send)]

def take (i : Nat) : Step := .track (.consume i .take)

/-- The consumer of a watcher has its next request performed. -/
def perform (i : Nat) : Step := .track (.consume i (.perform none))

/-! ### Before the tracker -/

/-- What an engine keeps to before its tracker starts: an invariant of the backfill, and one of the
seeding, which may speak of the height that was handed over. -/
structure Plan (settings : Settings) where
  filling : Database → Prop
  seeding : Nat → Database → Prop
  /-- What the node may reply to the backfill. -/
  node : (request : Request) → request.Reply → Prop
  fillable : Fillable filling node settings
  handed : ∀ database (cursor : Nat), filling database →
    database.row settings.cursorKey = some (cursor : Int) → seeding cursor database
  seedable : ∀ watcher ∈ settings.watchers, ∀ handoff database, seeding handoff database →
    Allows (seeding handoff) watcher.key handoff database

namespace Plan

variable {settings : Settings} (plan : Plan settings)

def backfill (settings : Settings) : Actor := { keys := [settings.cursorKey] }

def seed (settings : Settings) : Actor := { keys := settings.watchers.map (·.key) }

/-- Whether an engine that has not started its tracker keeps to the plan. -/
def Kept (engine : Engine) : Prop :=
  match engine.stage with
  | .backfilling routine => plan.filling engine.database ∧ ∃ start : World,
      routine.Safe ((backfill settings).rules plan.filling plan.node)
        ((backfill settings).Ends plan.filling start fun report later =>
          later.database.row settings.cursorKey = some (report.cursor : Int) ∧
            report.head ≤ report.cursor) { database := engine.database }
  | .seeding routine => ∃ handoff, plan.seeding handoff engine.database ∧ ∃ start : World,
      routine.Safe ((seed settings).rules (plan.seeding handoff) Actor.unasked)
        ((seed settings).Ends (plan.seeding handoff) start fun starts later =>
          starts.map (·.1) = settings.watchers ∧ ∀ start ∈ starts,
            handoff ≤ start.2 ∧ later.database.Reaches start.1.key start.2)
        { database := engine.database }
  | _ => True

variable {plan} {engine after : Engine}

theorem kept_start {database : Database} (h : plan.filling database) :
    plan.Kept (Engine.start settings database) :=
  ⟨h, { database }, (Actor.keeps_backfill plan.fillable List.mem_cons_self h).mono
    fun _ _ _ hreport => ⟨hreport.1, hreport.2.1⟩⟩

theorem kept_startTracker {handoff : Nat} {database : Database}
    (h : plan.seeding handoff database) :
    plan.Kept (Engine.startTracker settings handoff database) :=
  ⟨handoff, h, { database }, Actor.keeps_seed _ (fun _ hmem => List.mem_map_of_mem hmem)
    fun watcher hmem => plan.seedable watcher hmem _ _ h⟩

theorem backfilled (h : plan.Kept engine) {report : Backfill.Report}
    (hstage : engine.stage = .backfilling (.done (.ok report))) :
    plan.filling engine.database ∧
      engine.database.row settings.cursorKey = some (report.cursor : Int) ∧
        report.head ≤ report.cursor := by
  unfold Kept at h
  rw [hstage] at h
  obtain ⟨hfilling, start, hsafe⟩ := h
  exact ⟨hfilling, hsafe.ends_now.2⟩

theorem seeded (h : plan.Kept engine) {starts : List (Watcher × Nat)}
    (hstage : engine.stage = .seeding (.done (.ok starts))) :
    ∃ handoff, plan.seeding handoff engine.database ∧ starts.map (·.1) = settings.watchers ∧
      ∀ start ∈ starts, handoff ≤ start.2 ∧ engine.database.Reaches start.1.key start.2 := by
  unfold Kept at h
  rw [hstage] at h
  obtain ⟨handoff, hseeding, start, hsafe⟩ := h
  exact ⟨handoff, hseeding, hsafe.ends_now.2⟩

/-- Every step before the tracker starts keeps to the plan, if the node replies as it may. -/
theorem step {step : Step} (h : plan.Kept engine) (hsettings : engine.settings = settings)
    (hmove : engine.Moves step after)
    (hnode : ∀ answer request next, step = .reply answer →
      engine.stage = .backfilling (.ask request next) → plan.node request (answer request))
    (htracker : ∀ tracker, engine.stage ≠ .tracking tracker) :
    engine.database.Grows after.database ∧ plan.Kept after := by
  unfold Kept at h
  cases hmove with
  | cancel => exact ⟨.refl _, h⟩
  | @told answer request next hstage hnone =>
    rw [hstage] at h
    obtain ⟨hfilling, start, hsafe⟩ := h
    have hreplied : World.Replied plan.node 0 request { database := engine.database }
        (answer request) { database := engine.database } :=
      .told hnone (hnode answer request next rfl hstage)
    obtain ⟨hown, hnext⟩ := hsafe _ (Actor.Others.refl _) _ _ hreplied
    exact ⟨.refl _, hfilling, start, hnext⟩
  | @filled fault request next reply database hstage hperformed =>
    rw [hstage] at h
    obtain ⟨hfilling, start, hsafe⟩ := h
    obtain ⟨hown, hnext⟩ := hsafe _ (Actor.Others.refl _) reply _
      (replied_of_performed hperformed plan.node 0 none)
    exact ⟨hown.grows, hown.kept hfilling, start, hnext⟩
  | backfilled hstage =>
    rw [hstage] at h
    obtain ⟨hfilling, start, hsafe⟩ := h
    have hrow := hsafe.ends_now.2.1
    have hseeding := plan.handed _ _ hfilling hrow
    subst hsettings
    exact ⟨.refl _, kept_startTracker hseeding⟩
  | @seeding fault request next reply database hstage hperformed =>
    rw [hstage] at h
    obtain ⟨handoff, hseeding, start, hsafe⟩ := h
    obtain ⟨hown, hnext⟩ := hsafe _ (Actor.Others.refl _) reply _
      (replied_of_performed hperformed Actor.unasked 0 none)
    exact ⟨hown.grows, handoff, hown.kept hseeding, start, hnext⟩
  | seeded | tracked | broken => exact ⟨.refl _, trivial⟩
  | track hstage => exact absurd hstage (htracker _)

end Plan

end Engine

end EventIndexer
