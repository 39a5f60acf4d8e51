import EventIndexer.Proofs.Places
import EventIndexer.Proofs.Runs

/-! What an indexer is to store, and what its database says of that.  A database is consistent with
a scope if every cursor that is stored at a height has all events up to that height behind it.
Storing events that are due keeps a database consistent, and so does setting a cursor to a height up
to which nothing is missing. -/

namespace EventIndexer

/-- The events of some kinds, of one contract on a chain, above a seed; and the key of the main
cursor. -/
structure Scope where
  chain : Chain
  address : Address
  kinds : List Kind
  key : String
  seed : Nat

/-- Whether an engine with some settings stores the events of a scope. -/
structure Settings.Serves (settings : Settings) (scope : Scope) : Prop where
  address : settings.address = scope.address
  events : settings.events.Perm scope.kinds
  cursorKey : settings.cursorKey = scope.key
  cursorSeed : settings.cursorSeed = scope.seed
  valid : settings.validate = .ok ()

namespace Scope

variable (scope : Scope)

def due (kind : Kind) (height : Nat) : List Event :=
  scope.chain.due scope.address [kind] scope.seed height

def Reached (database : Database) (kind : Kind) (height : Nat) : Prop :=
  scope.seed ≤ height ∧ ∀ event ∈ scope.due kind height, database.Holds event

/-- Whether a cursor counts the events of a kind: the main one and the kind's own do. -/
def Counts (key : String) (kind : Kind) : Prop :=
  kind ∈ scope.kinds ∧ (key = scope.key ∨ key = watcherKey scope.key kind)

/-- Whether an event may be stored at all. -/
def Authentic (event : Event) : Prop :=
  event ∈ scope.chain.due scope.address scope.kinds scope.seed event.height

structure Consistent (database : Database) : Prop where
  complete : ∀ key kind, scope.Counts key kind → ∀ stored, database.row key = some stored →
    ∃ height : Nat, stored = height ∧ height < columnBound ∧ scope.Reached database kind height
  authentic : ∀ event ∈ database.events, scope.Authentic event
  distinct : database.Distinct

variable {scope} {database after : Database} {kind : Kind} {key : String} {height : Nat}
  {event : Event} {events : List Event} {rows : Nat} {settings : Settings}

theorem Reached.of_grows (h : scope.Reached database kind height)
    (hgrows : database.Grows after) : scope.Reached after kind height :=
  ⟨h.1, fun event hmem => hgrows.holds (h.2 event hmem)⟩

theorem Reached.of_setCursor (h : scope.Reached database kind height) {set : Nat}
    (hset : database.setCursor key set = (.ok (), after)) : scope.Reached after kind height :=
  ⟨h.1, fun event hmem => (Database.holds_of_setCursor hset).mpr (h.2 event hmem)⟩

theorem Reached.of_le {low : Nat} (h : scope.Reached database kind height)
    (hseed : scope.seed ≤ low) (hle : low ≤ height) : scope.Reached database kind low := by
  refine ⟨hseed, fun event hmem => h.2 event ?_⟩
  obtain ⟨hkind, habove, hbelow⟩ := Chain.bounds_of_mem_due hmem
  exact Chain.mem_due_of_bounds hmem hkind habove (Nat.le_trans hbelow hle)

theorem reached_seed (database : Database) (kind : Kind) :
    scope.Reached database kind scope.seed := by
  refine ⟨Nat.le_refl _, fun event hmem => ?_⟩
  rw [due, Chain.due_self _ _ _ (Nat.le_refl _)] at hmem
  cases hmem

/-- Events that are held above a height extend what was held up to it. -/
theorem Reached.extend {low : Nat} (h : scope.Reached database kind low) (hle : low ≤ height)
    (hheld : ∀ event ∈ scope.chain.due scope.address [kind] low height, database.Holds event) :
    scope.Reached database kind height := by
  refine ⟨Nat.le_trans h.1 hle, fun event hmem => ?_⟩
  obtain ⟨hkind, habove, hbelow⟩ := Chain.bounds_of_mem_due hmem
  by_cases hlow : event.height ≤ low
  · exact h.2 event (Chain.mem_due_of_bounds hmem hkind habove hlow)
  · exact hheld event (Chain.mem_due_of_bounds hmem hkind (Nat.lt_of_not_le hlow) hbelow)

theorem Consistent.of_empty (hevents : database.events = []) (hcursors : database.cursors = []) :
    scope.Consistent database where
  complete := fun key kind _ stored hrow => by simp [Database.row, hcursors] at hrow
  authentic := fun event hmem => by simp [hevents] at hmem
  distinct := by
    rw [Database.Distinct, hevents]
    exact .nil

theorem Consistent.congr (h : scope.Consistent database) (hevents : after.events = database.events)
    (hcursors : after.cursors = database.cursors) : scope.Consistent after := by
  have hrow : ∀ key, after.row key = database.row key := fun key => by
    rw [Database.row, hcursors, Database.row]
  have hholds : ∀ event, database.Holds event → after.Holds event := fun event hheld => by
    unfold Database.Holds at hheld ⊢
    rwa [hevents]
  refine ⟨fun key kind hcounts stored hstored => ?_, hevents ▸ h.authentic, ?_⟩
  · rw [hrow] at hstored
    obtain ⟨height, hheight, hbound, hseed, hheld⟩ := h.complete key kind hcounts stored hstored
    exact ⟨height, hheight, hbound, hseed, fun event hmem => hholds event (hheld event hmem)⟩
  · rw [Database.Distinct, hevents]
    exact h.distinct

theorem Consistent.append (h : scope.Consistent database)
    (hauthentic : ∀ event ∈ events, scope.Authentic event)
    (happend : database.append events = (.ok rows, after)) : scope.Consistent after := by
  have hgrows := Database.grows_of_append happend
  obtain ⟨⟨fresh, hafter, hfresh⟩, -, hdistinct⟩ := Database.append_ok happend
  refine ⟨fun key kind hcounts stored hrow => ?_, fun event hmem => ?_, hdistinct h.distinct⟩
  · rw [Database.row_of_append happend] at hrow
    obtain ⟨height, hheight, hbound, hreached⟩ := h.complete key kind hcounts stored hrow
    exact ⟨height, hheight, hbound, hreached.of_grows hgrows⟩
  · rw [hafter] at hmem
    rcases List.mem_append.mp hmem with hmem | hmem
    · exact h.authentic event hmem
    · exact hauthentic event (hfresh event hmem)

/-- A cursor may be set to a height that all the kinds it counts have reached. -/
theorem Consistent.setCursor (h : scope.Consistent database)
    (hset : database.setCursor key height = (.ok (), after))
    (hreached : ∀ kind, scope.Counts key kind → scope.Reached database kind height) :
    scope.Consistent after := by
  obtain ⟨hbound, hevents, hrow, hother⟩ := Database.setCursor_ok hset
  refine ⟨fun other kind hcounts stored hstored => ?_, hevents ▸ h.authentic, ?_⟩
  · by_cases hkey : other = key
    · subst hkey
      rw [hrow] at hstored
      cases hstored
      exact ⟨height, rfl, hbound, (hreached kind hcounts).of_setCursor hset⟩
    · rw [hother other hkey] at hstored
      obtain ⟨found, hfound, hlt, hbefore⟩ := h.complete other kind hcounts stored hstored
      exact ⟨found, hfound, hlt, hbefore.of_setCursor hset⟩
  · rw [Database.Distinct, hevents]
    exact h.distinct

theorem Consistent.reached (h : scope.Consistent database) (hcounts : scope.Counts key kind)
    (hrow : database.row key = some (height : Int)) : scope.Reached database kind height := by
  obtain ⟨found, hfound, -, hreached⟩ := h.complete key kind hcounts _ hrow
  obtain rfl : found = height := by omega
  exact hreached

theorem Consistent.reached_of_reaches (h : scope.Consistent database)
    (hcounts : scope.Counts key kind) (hrow : database.Reaches key height)
    (hseed : scope.seed ≤ height) : scope.Reached database kind height := by
  obtain ⟨high, hhigh, hle⟩ := hrow
  obtain ⟨found, hfound, -, hreached⟩ := h.complete key kind hcounts high hhigh
  exact hreached.of_le hseed (by omega)

theorem Consistent.holds_due (h : scope.Consistent database)
    (hrow : database.row scope.key = some (height : Int))
    (hmem : event ∈ scope.chain.due scope.address scope.kinds scope.seed height) :
    database.Holds event := by
  obtain ⟨hkind, habove, hbelow⟩ := Chain.bounds_of_mem_due hmem
  have hreached := h.reached ⟨hkind, .inl rfl⟩ hrow
  exact hreached.2 event (Chain.mem_due_of_bounds hmem List.mem_cons_self habove hbelow)

/-- Where rows belong to one event each, an event that is due and held is stored itself. -/
theorem Consistent.mem_events (h : scope.Consistent database) (hseparate : scope.chain.Separate)
    (hdue : event ∈ scope.chain.due scope.address scope.kinds scope.seed height)
    (hheld : database.Holds event) : event ∈ database.events := by
  obtain ⟨stored, hstored, hrow⟩ := hheld
  obtain ⟨a, ha, -, hevent, -⟩ := Chain.mem_due.mp hdue
  obtain ⟨b, hb, -, hfound, -⟩ := Chain.mem_due.mp (h.authentic stored hstored)
  rw [hseparate.eq_of_sameRow ha hb hevent hfound hrow]
  exact hstored

end Scope

/-! ### Configurations -/

namespace Settings.Serves

variable {settings : Settings} {scope : Scope} {watcher : Watcher} {kind : Kind}

theorem events_ne_nil (h : settings.Serves scope) : settings.events ≠ [] :=
  events_of_validate h.valid

theorem mem_events (h : settings.Serves scope) : kind ∈ settings.events ↔ kind ∈ scope.kinds :=
  h.events.mem_iff

theorem exists_kind (h : settings.Serves scope) : ∃ kind, kind ∈ scope.kinds := by
  obtain ⟨kind, hmem⟩ := List.exists_mem_of_ne_nil _ h.events_ne_nil
  exact ⟨kind, h.mem_events.mp hmem⟩

/-- A watcher follows the kinds that its cursor counts. -/
theorem mem_kinds (h : settings.Serves scope) (hwatcher : watcher ∈ settings.watchers) :
    kind ∈ watcher.kinds ↔ scope.Counts watcher.key kind := by
  rcases mem_watchers hwatcher with ⟨-, rfl⟩ | ⟨-, own, hown, rfl⟩
  · show kind ∈ settings.events ↔ scope.Counts settings.cursorKey kind
    rw [h.mem_events, h.cursorKey]
    exact ⟨fun hmem => ⟨hmem, .inl rfl⟩, fun hcounts => hcounts.1⟩
  · show kind ∈ [own] ↔ scope.Counts (watcherKey settings.cursorKey own) kind
    rw [List.mem_singleton, h.cursorKey]
    constructor
    · rintro rfl
      exact ⟨h.mem_events.mp hown, .inr rfl⟩
    · rintro ⟨-, hkey | hkey⟩
      · exact absurd hkey (watcherKey_ne _ _)
      · exact (watcherKey_injective hkey).symm

theorem exists_watched (h : settings.Serves scope) (hwatcher : watcher ∈ settings.watchers) :
    ∃ kind, kind ∈ watcher.kinds := by
  rcases mem_watchers hwatcher with ⟨-, rfl⟩ | ⟨-, own, -, rfl⟩
  · exact List.exists_mem_of_ne_nil _ h.events_ne_nil
  · exact ⟨own, List.mem_cons_self⟩

end Settings.Serves

namespace Scope

variable {scope : Scope} {settings : Settings} {database : Database} {logs : List Log}
  {cursor last height : Nat}

/-! ### Ranges -/

/-- How the node may reply to a backfill. -/
def node (scope : Scope) (request : Request) (reply : request.Reply) : Prop :=
  ∃ after, scope.chain.Replies request {} reply after

theorem logs_of_node {filter : ChunkFilter} (h : scope.node (.chunk filter) (.ok logs)) :
    logs.Perm (scope.chain.wanted filter) := by
  obtain ⟨after, hreplies⟩ := h
  cases hreplies with
  | chunk hlogs => exact hlogs

/-- The events of a range right above a cursor are those due between the cursor and its end. -/
theorem mem_range (hserves : settings.Serves scope)
    (hlogs : logs.Perm (scope.chain.wanted
      { address := settings.address, kinds := settings.events, first := cursor + 1, last }))
    {event : Event} : event ∈ (decodeAll logs).1 ↔
      event ∈ scope.chain.due scope.address scope.kinds cursor last := by
  rw [Chain.mem_events hlogs, Chain.mem_due, Chain.mem_due, hserves.address]
  simp only [hserves.mem_events]

theorem authentic_of_mem_due {event : Event} (hseed : scope.seed ≤ cursor)
    (h : event ∈ scope.chain.due scope.address scope.kinds cursor last) :
    scope.Authentic event := by
  obtain ⟨hkind, habove, -⟩ := Chain.bounds_of_mem_due h
  exact Chain.mem_due_of_bounds h hkind (Nat.lt_of_le_of_lt hseed habove) (Nat.le_refl _)

theorem Reached.range {kind : Kind} (h : scope.Reached database kind cursor)
    (hserves : settings.Serves scope) (hkind : kind ∈ scope.kinds) (hle : cursor ≤ last)
    (hlogs : logs.Perm (scope.chain.wanted
      { address := settings.address, kinds := settings.events, first := cursor + 1, last }))
    (hheld : ∀ event ∈ (decodeAll logs).1, database.Holds event) :
    scope.Reached database kind last :=
  h.extend hle fun event hmem =>
    hheld event ((mem_range hserves hlogs).mpr (Chain.mem_due_of_kind hkind hmem))

theorem fillable (hserves : settings.Serves scope) :
    Fillable scope.Consistent scope.node settings where
  bounded := by
    intro database hconsistent low hrow
    obtain ⟨kind, hkind⟩ := hserves.exists_kind
    rw [hserves.cursorKey] at hrow
    obtain ⟨height, hheight, hbound, -⟩ :=
      hconsistent.complete scope.key kind ⟨hkind, .inl rfl⟩ low hrow
    omega
  seeded := by
    intro database _ _ later after _ hconsistent _ hset
    refine hconsistent.setCursor hset fun kind _ => ?_
    rw [hserves.cursorSeed]
    exact reached_seed later kind
  storable := by
    intro head cursor last logs _ _ hnode database hconsistent hrow later after rows hlater happend
    obtain ⟨kind, hkind⟩ := hserves.exists_kind
    rw [hserves.cursorKey] at hrow
    have hreached := hconsistent.reached ⟨hkind, .inl rfl⟩ hrow
    refine hlater.append (fun event hmem => ?_) happend
    exact authentic_of_mem_due hreached.1 ((mem_range hserves (logs_of_node hnode)).mp hmem)
  allowed := by
    intro head cursor last logs _ _ hle hnode database hconsistent hrow hheld later after hgrows
      hlater _ hset
    rw [hserves.cursorKey] at hrow hset
    refine hlater.setCursor hset fun kind hcounts => ?_
    have hreached := hconsistent.reached ⟨hcounts.1, .inl rfl⟩ hrow
    exact (hreached.range hserves hcounts.1 hle (logs_of_node hnode) hheld).of_grows hgrows

/-! ### Tracking -/

/-- What holds once a backfill has ended: the main cursor is stored. -/
structure Tracked (scope : Scope) (database : Database) : Prop where
  consistent : scope.Consistent database
  stored : ∃ low, database.row scope.key = some low

theorem Tracked.of_grows {after : Database} (h : scope.Tracked database)
    (hgrows : database.Grows after) (hconsistent : scope.Consistent after) :
    scope.Tracked after := by
  obtain ⟨low, hlow⟩ := h.stored
  obtain ⟨high, hhigh, -⟩ := hgrows.rows scope.key low hlow
  exact ⟨hconsistent, high, hhigh⟩

theorem storable_tracked {events : List Event}
    (hauthentic : ∀ event ∈ events, scope.Authentic event) : Storable scope.Tracked events :=
  fun _ _ _ htracked happend => htracked.of_grows (Database.grows_of_append happend)
    (htracked.consistent.append hauthentic happend)

theorem allows_tracked {key : String}
    (hreached : ∀ kind, scope.Counts key kind → scope.Reached database kind height) :
    Allows scope.Tracked key height database := by
  intro later after hgrows htracked hbelow hset
  refine htracked.of_grows (Database.grows_of_setCursor hset hbelow) ?_
  exact htracked.consistent.setCursor hset fun kind hcounts =>
    (hreached kind hcounts).of_grows hgrows

/-- The main cursor may follow its members, since each has all events of its kind behind it. -/
theorem allowed_tracked (hserves : settings.Serves scope) {watcher : Watcher}
    (hwatcher : watcher ∈ settings.watchers) :
    ∀ watermark ∈ watcher.watermark, watermark.Allowed scope.Tracked := by
  intro watermark hwatermark database height hmembers later after hgrows htracked hbelow hset
  rcases Settings.mem_watchers hwatcher with ⟨-, rfl⟩ | ⟨-, own, -, rfl⟩
  · cases hwatermark
  · cases hwatermark
    rw [hserves.cursorKey] at hset hbelow hmembers
    refine htracked.of_grows (Database.grows_of_setCursor hset hbelow) ?_
    -- The members do not say that the height reaches the seed; the main cursor, which is never
    -- lowered, does.
    refine htracked.consistent.setCursor hset fun kind hcounts => ?_
    obtain ⟨low, hlow⟩ := htracked.stored
    obtain ⟨found, hfound, -, hseed, -⟩ :=
      htracked.consistent.complete scope.key kind ⟨hcounts.1, .inl rfl⟩ low hlow
    have hle := hbelow low hlow
    have hmember := hgrows.reaches
      (hmembers _ (List.mem_map_of_mem (hserves.mem_events.mpr hcounts.1)))
    exact htracked.consistent.reached_of_reaches ⟨hcounts.1, .inr rfl⟩ hmember (by omega)

/-- What holds while the watchers' cursors are brought up to a height. -/
structure Handed (scope : Scope) (handoff : Nat) (database : Database) : Prop where
  tracked : scope.Tracked database
  reached : ∀ kind ∈ scope.kinds, scope.Reached database kind handoff

def plan (hserves : settings.Serves scope) : Engine.Plan settings where
  filling := scope.Consistent
  seeding := scope.Handed
  node := scope.node
  fillable := fillable hserves
  handed := by
    intro database cursor hconsistent hrow
    rw [hserves.cursorKey] at hrow
    exact ⟨⟨hconsistent, cursor, hrow⟩, fun kind hkind =>
      hconsistent.reached ⟨hkind, .inl rfl⟩ hrow⟩
  seedable := by
    intro watcher _ handoff database hhanded later after hgrows hlater hbelow hset
    have hafter := Database.grows_of_setCursor hset hbelow
    refine ⟨?_, fun kind hkind => (hlater.reached kind hkind).of_grows hafter⟩
    exact allows_tracked (fun kind hcounts => hhanded.reached kind hcounts.1) later after hgrows
      hlater.tracked hbelow hset

/-- What is known of a watcher that begins at a cursor. -/
structure Begins (scope : Scope) (watcher : Watcher) (cursor : Nat) (database : Database) :
    Prop where
  bound : cursor < columnBound
  reached : ∀ kind ∈ watcher.kinds, scope.Reached database kind cursor

theorem Begins.of_grows {watcher : Watcher} {after : Database}
    (h : scope.Begins watcher cursor database) (hgrows : database.Grows after) :
    scope.Begins watcher cursor after :=
  ⟨h.bound, fun kind hkind => (h.reached kind hkind).of_grows hgrows⟩

theorem Handed.begins (hserves : settings.Serves scope) {handoff : Nat} {watcher : Watcher}
    (h : scope.Handed handoff database) (hwatcher : watcher ∈ settings.watchers)
    (hle : handoff ≤ cursor) (hrow : database.Reaches watcher.key cursor) :
    scope.Begins watcher cursor database := by
  have hconsistent := h.tracked.consistent
  refine ⟨?_, fun kind hkind => ?_⟩
  · obtain ⟨kind, hkind⟩ := hserves.exists_watched hwatcher
    obtain ⟨high, hhigh, hbelow⟩ := hrow
    obtain ⟨found, hfound, hbound, -⟩ := hconsistent.complete watcher.key kind
      ((hserves.mem_kinds hwatcher).mp hkind) high hhigh
    omega
  · have hcounts := (hserves.mem_kinds hwatcher).mp hkind
    have hseed := (h.reached kind hcounts.1).1
    exact hconsistent.reached_of_reaches hcounts hrow (Nat.le_trans hseed hle)

end Scope

end EventIndexer
