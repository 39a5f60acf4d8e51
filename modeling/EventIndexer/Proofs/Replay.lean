import EventIndexer.Proofs.Filled
import EventIndexer.Proofs.History
import EventIndexer.Proofs.Undisturbed

/-! Interrupted ingestion equals uninterrupted ingestion.  A history that ends with a complete
backfill has stored exactly the events that are due, each once, and so has one backfill that nothing
disturbs on an empty database. -/

namespace EventIndexer

namespace Scope

variable {scope : Scope} {settings : Settings} {database after : Database} {head cursor last : Nat}

/-- What an undisturbed backfill leaves at a cursor. -/
structure Clean (scope : Scope) (database : Database) (cursor : Nat) : Prop where
  willing : database.Willing
  row : database.row scope.key = some (cursor : Int)
  consistent : scope.Consistent database
  below : ∀ event ∈ database.events, event.height ≤ cursor

/-- A backfill that is told of no head above a height stores no event above it. -/
theorem fillable_clean (hserves : settings.Serves scope) (hbound : head < columnBound) :
    Fillable (fun database => scope.Consistent database ∧
      ∀ event ∈ database.events, event.height ≤ max scope.seed head)
        (scope.chain.Answers head) settings := by
  have hcolumn : columnBound ≤ maxHeight := by decide
  have hnode : ∀ filter logs, scope.chain.Answers head (.chunk filter) (.ok logs) →
    scope.node (.chunk filter) (.ok logs) := fun _ _ hlogs => ⟨{}, .chunk hlogs⟩
  have htold : ∀ deadline interval (found : Nat), found ≤ head →
    scope.node (.head deadline interval) (.ok found) :=
    fun deadline interval found hle => ⟨{}, .head (Nat.zero_le _) (by omega)⟩
  have hset : ∀ {key height} {later after : Database},
      later.setCursor key height = (.ok (), after) → after.events = later.events :=
    fun h => (Database.setCursor_ok h).2.1
  have hfill := fillable hserves
  constructor
  · exact fun database h => hfill.bounded database h.1
  · intro database h hnone later after hgrows hlater hbelow h'
    refine ⟨hfill.seeded database h.1 hnone later after hgrows hlater.1 hbelow h', ?_⟩
    rw [hset h']
    exact hlater.2
  · intro found cursor last logs hfound hlast hlogs database h hrow later after rows hlater happend
    refine ⟨hfill.storable found cursor last logs (htold _ _ _ hfound) hlast (hnode _ _ hlogs)
      database h.1 hrow later after rows hlater.1 happend, fun event hmem => ?_⟩
    obtain ⟨⟨fresh, rfl, hfresh⟩, -⟩ := Database.append_ok happend
    rcases List.mem_append.mp hmem with hmem | hmem
    · exact hlater.2 event hmem
    · have hdue := (mem_range hserves hlogs).mp (hfresh event hmem)
      obtain ⟨-, -, hle⟩ := Chain.bounds_of_mem_due hdue
      have hfound : found ≤ head := hfound
      omega
  · intro found cursor last logs hfound hlast hle hlogs database h hrow hheld later after hgrows
      hlater hbelow h'
    refine ⟨hfill.allowed found cursor last logs (htold _ _ _ hfound) hlast hle (hnode _ _ hlogs)
      database h.1 hrow hheld later after hgrows hlater.1 hbelow h', ?_⟩
    rw [hset h']
    exact hlater.2

/-- A backfill on an empty database brings the cursor to the head, unless the seed lies above. -/
theorem completes_backfill (head : Nat) (hserves : settings.Serves scope)
    (hseed : scope.seed < columnBound) (hbound : head < columnBound) :
    scope.chain.Completes head (Backfill.run settings) {} fun report after =>
      scope.Clean after (max scope.seed head) ∧ report.head = head := by
  have hempty : scope.Consistent ({} : Database) := .of_empty rfl rfl
  have hcompletes := Chain.Completes.backfill (fillable_clean hserves hbound) hserves.valid
    (Nat.le_refl head) (fun _ => .refl _) hbound ⟨rfl, rfl⟩ ⟨hempty, nofun⟩
    (.inr ⟨rfl, hserves.cursorSeed, hseed⟩)
  refine hcompletes.mono fun report after hends => ?_
  obtain ⟨⟨hconsistent, hbelow⟩, hwilling, hrow, -, hhead⟩ := hends
  exact ⟨⟨hwilling, hserves.cursorKey ▸ hrow, hconsistent, hbelow⟩, hhead⟩

/-! ### Rows -/

/-- Up to a height that the main cursor has reached, the stored events are those that are due. -/
theorem Consistent.rows_perm (h : scope.Consistent database) (hseparate : scope.chain.Separate)
    (hrow : database.row scope.key = some (cursor : Int)) (hlast : last ≤ cursor) :
    (database.events.filter (·.height ≤ last)).Perm
      (scope.chain.due scope.address scope.kinds scope.seed last) := by
  -- Both sides hold every event once, so it is enough that they have the same members.
  have hnodup := h.distinct.nodup.filter (·.height ≤ last)
  refine (List.perm_ext_iff_of_nodup hnodup hseparate.nodup_due).mpr fun event => ?_
  rw [List.mem_filter, decide_eq_true_eq]
  constructor
  · rintro ⟨hmem, hle⟩
    have hauthentic := h.authentic event hmem
    obtain ⟨hkind, habove, -⟩ := Chain.bounds_of_mem_due hauthentic
    exact Chain.mem_due_of_bounds hauthentic hkind habove hle
  · intro hdue
    obtain ⟨hkind, habove, hle⟩ := Chain.bounds_of_mem_due hdue
    have hbehind := Chain.mem_due_of_bounds hdue hkind habove (Nat.le_trans hle hlast)
    exact ⟨h.mem_events hseparate hdue (h.holds_due hrow hbehind), hle⟩

/-- However often the engine was left and started anew, once a backfill has ended, the stored events
up to its head are those that are due, each once; and an undisturbed backfill on an empty database,
with any settings that serve, succeeds and stores the same. -/
theorem History.interrupted_eq_uninterrupted {session : Session} {report : Backfill.Report}
    (hnodup : scope.kinds.Nodup) (hseparate : scope.chain.Separate) (h : scope.History session)
    (hended : session.engine.stage = .backfilling (.done (.ok report))) :
    (session.engine.database.events.filter (·.height ≤ report.head)).Perm
        (scope.chain.due scope.address scope.kinds scope.seed report.head) ∧
      (scope.chain.due scope.address scope.kinds scope.seed report.head).Nodup ∧
      ∀ settings : Settings, settings.Serves scope → ∃ undisturbed after,
        (Backfill.run settings).run (scope.chain.serve report.head) {} = (.ok undisturbed, after) ∧
          undisturbed.head = report.head ∧
          after.events.Perm (session.engine.database.events.filter (·.height ≤ report.head)) := by
  obtain ⟨current, hserves, hsound⟩ := h.sound hnodup
  obtain ⟨hconsistent, hrow, hhead⟩ := Engine.Plan.backfilled hsound.plan hended
  rw [hserves.cursorKey] at hrow
  obtain ⟨own, hown⟩ := hserves.exists_kind
  obtain ⟨cursor, hcursor, hbound, hseed, -⟩ :=
    hconsistent.complete scope.key own ⟨hown, .inl rfl⟩ _ hrow
  have hrows := hconsistent.rows_perm hseparate hrow hhead
  refine ⟨hrows, hseparate.nodup_due, fun settings hother => ?_⟩
  obtain ⟨undisturbed, after, hrun, hclean, hsame⟩ := completes_backfill report.head
    hother (by omega) (by omega)
  refine ⟨undisturbed, after, hrun, hsame, ?_⟩
  have hall : after.events.filter (·.height ≤ report.head) = after.events := by
    refine List.filter_eq_self.mpr fun event hmem => decide_eq_true ?_
    have hbelow := hclean.below event hmem
    obtain ⟨-, habove, -⟩ :=
      Chain.bounds_of_mem_due (hclean.consistent.authentic event hmem)
    omega
  rw [← hall]
  exact (hclean.consistent.rows_perm hseparate hclean.row (Nat.le_max_right _ _)).trans hrows.symm

/-- What two engines have stored, the first of them left before it moved the cursor, is what one
stores on an empty database. -/
theorem interrupted_eq_uninterrupted_stakes : stakeScope.kinds.Nodup ∧ stakeScope.chain.Separate ∧
    stakeScope.History { engine := stakesResumed } ∧
    (∃ report, stakesResumed.stage = .backfilling (.done (.ok report)) ∧ report.head = 2) ∧
    stakesResumed.database.events.length = 2 ∧
    (stakesResumed.database.events.filter (·.height ≤ 2)).Perm
      (stakeScope.chain.due 0 [.stake, .unstake] 0 2) ∧
    (stakeScope.chain.due 0 [.stake, .unstake] 0 2).Nodup ∧
    ∃ undisturbed after,
      (Backfill.run stakeFollower).run (stakeScope.chain.serve 2) {} = (.ok undisturbed, after) ∧
      after.events.Perm (stakesResumed.database.events.filter (·.height ≤ 2)) := by
  have hnodup : stakeScope.kinds.Nodup := by decide
  obtain ⟨hperm, hdistinct, hclean⟩ :=
    history_resumed.interrupted_eq_uninterrupted hnodup separate_stakes rfl
  obtain ⟨undisturbed, after, hrun, -, hsame⟩ := hclean stakeFollower serves_follower
  exact ⟨hnodup, separate_stakes, history_resumed, ⟨_, rfl, rfl⟩, rfl, hperm, hdistinct,
    undisturbed, after, hrun, hsame⟩

end Scope

end EventIndexer
