import EventIndexer.Proofs.Scope

/-! What an engine leaves behind that is told of no head above a height.  It begins with some events
in its database and adds only events that are due, so once its main cursor has come to the end, what
is stored depends on what was stored before and on the chain alone. -/

namespace EventIndexer

/-- How a node may reply whose head is at some height or below.  Every request may fail. -/
def Chain.Answers (chain : Chain) (top : Nat) : (request : Request) → request.Reply → Prop
  | .head .., .ok height => height ≤ top
  | .chunk filter, .ok logs => logs.Perm (chain.wanted filter)
  | _, _ => True

/-- Whether a cursor is one that the engine moves. -/
def Settings.Minds (settings : Settings) (key : String) : Prop :=
  key = settings.cursorKey ∨ ∃ watcher ∈ settings.watchers, key = watcher.key

namespace Scope

/-- Whether an engine stores the events of a scope, wherever it would begin by itself. -/
abbrev Follows (scope : Scope) (settings : Settings) : Prop :=
  Settings.Serves { settings with cursorSeed := scope.seed } scope

/-- Whether the events of a database are those of a base and some that are due up to a height, and
no cursor that the engine moves has passed an event that is not held. -/
structure Filled (scope : Scope) (settings : Settings) (base : List Event) (top : Nat)
    (database : Database) : Prop where
  events : ∃ fresh, database.events = base ++ fresh ∧
    ∀ event ∈ fresh, event ∈ scope.chain.due scope.address scope.kinds scope.seed top
  distinct : database.Distinct
  cursors : ∀ key kind, settings.Minds key → scope.Counts key kind → ∀ stored,
    database.row key = some stored → ∃ height : Nat, stored = height ∧
      height ≤ max scope.seed top ∧ scope.Reached database kind height

variable {scope : Scope} {settings other : Settings} {base events : List Event} {top height : Nat}
  {database after : Database} {key : String} {kind : Kind} {event : Event} {rows : Nat}

namespace Filled

theorem append (h : scope.Filled settings base top database)
    (hdue : ∀ event ∈ events, event ∈ scope.chain.due scope.address scope.kinds scope.seed top)
    (happend : database.append events = (.ok rows, after)) :
    scope.Filled settings base top after := by
  have hgrows := Database.grows_of_append happend
  obtain ⟨⟨added, hafter, hadded⟩, -, hdistinct⟩ := Database.append_ok happend
  obtain ⟨fresh, hevents, hfresh⟩ := h.events
  refine ⟨⟨fresh ++ added, ?_, fun event hmem => ?_⟩, hdistinct h.distinct, ?_⟩
  · rw [hafter]
    simp only [hevents, List.append_assoc]
  · rcases List.mem_append.mp hmem with hmem | hmem
    · exact hfresh event hmem
    · exact hdue event (hadded event hmem)
  · intro key kind hminds hcounts stored hrow
    rw [Database.row_of_append happend] at hrow
    obtain ⟨height, hheight, hcap, hreached⟩ := h.cursors key kind hminds hcounts stored hrow
    exact ⟨height, hheight, hcap, hreached.of_grows hgrows⟩

/-- A cursor may be set to a height that all the kinds it counts have reached. -/
theorem setCursor (h : scope.Filled settings base top database)
    (hset : database.setCursor key height = (.ok (), after)) (hcap : height ≤ max scope.seed top)
    (hreached : ∀ kind, scope.Counts key kind → scope.Reached database kind height) :
    scope.Filled settings base top after := by
  obtain ⟨-, hevents, hrow, hother⟩ := Database.setCursor_ok hset
  refine ⟨hevents ▸ h.events, ?_, fun found kind hminds hcounts stored hstored => ?_⟩
  · rw [Database.Distinct, hevents]
    exact h.distinct
  · by_cases hkey : found = key
    · subst hkey
      rw [hrow] at hstored
      cases hstored
      exact ⟨height, rfl, hcap, (hreached kind hcounts).of_setCursor hset⟩
    · rw [hother found hkey] at hstored
      obtain ⟨low, hlow, hbelow, hbefore⟩ := h.cursors found kind hminds hcounts stored hstored
      exact ⟨low, hlow, hbelow, hbefore.of_setCursor hset⟩

theorem reached_of_reaches (h : scope.Filled settings base top database)
    (hminds : settings.Minds key) (hcounts : scope.Counts key kind)
    (hrow : database.Reaches key height) (hseed : scope.seed ≤ height) :
    scope.Reached database kind height ∧ height ≤ max scope.seed top := by
  obtain ⟨high, hhigh, hle⟩ := hrow
  obtain ⟨found, hfound, hcap, hreached⟩ := h.cursors key kind hminds hcounts high hhigh
  exact ⟨hreached.of_le hseed (by omega), by omega⟩

/-- Once the main cursor has come to the end, every event that is due is held. -/
theorem holds_due (h : scope.Filled settings base top database)
    (hkey : settings.cursorKey = scope.key)
    (hrow : database.Reaches scope.key (max scope.seed top))
    (hdue : event ∈ scope.chain.due scope.address scope.kinds scope.seed top) :
    database.Holds event := by
  obtain ⟨hkind, habove, hbelow⟩ := Chain.bounds_of_mem_due hdue
  obtain ⟨hreached, -⟩ := h.reached_of_reaches (.inl hkey.symm) ⟨hkind, .inl rfl⟩ hrow (by omega)
  exact hreached.2 event (Chain.mem_due_of_bounds hdue List.mem_cons_self habove (by omega))

/-- What was added to the base is what is due and was not held there. -/
theorem mem_fresh (h : scope.Filled settings base top database) (hseparate : scope.chain.Separate)
    (hheld : ∀ event ∈ scope.chain.due scope.address scope.kinds scope.seed top,
      database.Holds event) {fresh : List Event} (hevents : database.events = base ++ fresh)
    (hfresh : ∀ event ∈ fresh,
      event ∈ scope.chain.due scope.address scope.kinds scope.seed top) :
    event ∈ fresh ↔ event ∈ scope.chain.due scope.address scope.kinds scope.seed top ∧
      ∀ stored ∈ base, event.sameRow stored = false := by
  have hdistinct := h.distinct
  rw [Database.Distinct, hevents, List.pairwise_append] at hdistinct
  constructor
  · intro hmem
    refine ⟨hfresh event hmem, fun stored hstored => ?_⟩
    rw [Bool.eq_false_iff]
    intro hsame
    have hdifferent := hdistinct.2.2 stored hstored event hmem
    rw [Event.sameRow_symm hsame] at hdifferent
    cases hdifferent
  · rintro ⟨hdue, hnew⟩
    obtain ⟨stored, hstored, hsame⟩ := hheld event hdue
    rw [hevents, List.mem_append] at hstored
    rcases hstored with hstored | hstored
    · rw [hnew stored hstored] at hsame
      cases hsame
    · obtain ⟨a, ha, -, hevent, -⟩ := Chain.mem_due.mp hdue
      obtain ⟨b, hb, -, hfound, -⟩ := Chain.mem_due.mp (hfresh stored hstored)
      rw [hseparate.eq_of_sameRow ha hb hevent hfound hsame]
      exact hstored

/-- Two databases that began with the same events, and whose main cursors have come to the end,
store the same. -/
theorem perm (h : scope.Filled settings base top database)
    (h' : scope.Filled other base top after) (hseparate : scope.chain.Separate)
    (hkey : settings.cursorKey = scope.key) (hkey' : other.cursorKey = scope.key)
    (hrow : database.Reaches scope.key (max scope.seed top))
    (hrow' : after.Reaches scope.key (max scope.seed top)) :
    database.events.Perm after.events := by
  obtain ⟨fresh, hevents, hfresh⟩ := h.events
  obtain ⟨fresh', hevents', hfresh'⟩ := h'.events
  have hnodup : fresh.Nodup := by
    have hall := h.distinct.nodup
    rw [hevents, List.nodup_append] at hall
    exact hall.2.1
  have hnodup' : fresh'.Nodup := by
    have hall := h'.distinct.nodup
    rw [hevents', List.nodup_append] at hall
    exact hall.2.1
  rw [hevents, hevents']
  refine List.Perm.append_left base
    ((List.perm_ext_iff_of_nodup hnodup hnodup').mpr fun event => ?_)
  rw [h.mem_fresh hseparate (fun _ => h.holds_due hkey hrow) hevents hfresh,
    h'.mem_fresh hseparate (fun _ => h'.holds_due hkey' hrow') hevents' hfresh']

end Filled

/-! ### Backfills -/

/-- What a backfill keeps to.  The cursors of watchers that have one of their own are not stored
yet. -/
structure Filling (scope : Scope) (settings : Settings) (base : List Event) (top : Nat)
    (database : Database) : Prop where
  filled : scope.Filled settings base top database
  seeded : database.row settings.cursorKey = none → settings.cursorSeed = scope.seed
  unset : ∀ watcher ∈ settings.watchers, watcher.key ≠ settings.cursorKey →
    database.row watcher.key = none

theorem Filling.congr (h : scope.Filling settings base top database)
    (hkey : other.cursorKey = settings.cursorKey) (hseed : other.cursorSeed = settings.cursorSeed)
    (hwatchers : other.watchers = settings.watchers) : scope.Filling other base top database := by
  refine ⟨⟨h.filled.events, h.filled.distinct, fun key kind hminds => ?_⟩, ?_, ?_⟩
  · unfold Settings.Minds at hminds
    rw [hkey, hwatchers] at hminds
    exact h.filled.cursors key kind hminds
  · rw [hkey, hseed]
    exact h.seeded
  · rw [hkey, hwatchers]
    exact h.unset

theorem Filling.first (hdistinct : database.Distinct)
    (hcursor : database.row settings.cursorKey = some (scope.seed : Int) ∨
      database.row settings.cursorKey = none ∧ settings.cursorSeed = scope.seed)
    (hunset : ∀ watcher ∈ settings.watchers, watcher.key ≠ settings.cursorKey →
      database.row watcher.key = none) :
    scope.Filling settings database.events top database := by
  have hmain : ∀ stored, database.row settings.cursorKey = some stored → stored = scope.seed := by
    intro stored hstored
    rcases hcursor with hrow | ⟨hnone, -⟩
    · rw [hstored] at hrow
      exact Option.some.inj hrow
    · rw [hstored] at hnone
      cases hnone
  refine ⟨⟨⟨[], by simp, nofun⟩, hdistinct, fun key kind hminds _ stored hstored => ?_⟩,
    fun hnone => ?_, hunset⟩
  · refine ⟨scope.seed, ?_, Nat.le_max_left _ _, reached_seed database kind⟩
    by_cases hkey : key = settings.cursorKey
    · exact hmain stored (hkey ▸ hstored)
    · rcases hminds with hsame | ⟨watcher, hwatcher, rfl⟩
      · exact absurd hsame hkey
      · rw [hunset watcher hwatcher hkey] at hstored
        cases hstored
  · rcases hcursor with hrow | ⟨-, hseed⟩
    · rw [hnone] at hrow
      cases hrow
    · exact hseed

theorem Filling.append (h : scope.Filling settings base top database)
    (hdue : ∀ event ∈ events, event ∈ scope.chain.due scope.address scope.kinds scope.seed top)
    (happend : database.append events = (.ok rows, after)) :
    scope.Filling settings base top after := by
  refine ⟨h.filled.append hdue happend, ?_, fun watcher hwatcher hne => ?_⟩
  · rw [Database.row_of_append happend]
    exact h.seeded
  · rw [Database.row_of_append happend]
    exact h.unset watcher hwatcher hne

theorem Filling.setCursor (h : scope.Filling settings base top database)
    (hset : database.setCursor settings.cursorKey height = (.ok (), after))
    (hcap : height ≤ max scope.seed top)
    (hreached : ∀ kind ∈ scope.kinds, scope.Reached database kind height) :
    scope.Filling settings base top after := by
  obtain ⟨-, -, hrow, hother⟩ := Database.setCursor_ok hset
  refine ⟨h.filled.setCursor hset hcap fun kind hcounts => hreached kind hcounts.1,
    fun hnone => ?_, fun watcher hwatcher hne => ?_⟩
  · rw [hrow] at hnone
    cases hnone
  · rw [hother _ hne]
    exact h.unset watcher hwatcher hne

theorem Filling.reached (h : scope.Filling settings base top database)
    (hfollows : scope.Follows settings) {cursor : Nat}
    (hrow : database.row settings.cursorKey = some (cursor : Int)) :
    cursor ≤ max scope.seed top ∧ scope.seed ≤ cursor ∧
      ∀ kind ∈ scope.kinds, scope.Reached database kind cursor := by
  have hfound : ∀ kind ∈ scope.kinds,
      cursor ≤ max scope.seed top ∧ scope.Reached database kind cursor := by
    intro kind hkind
    obtain ⟨found, hfound, hcap, hreached⟩ :=
      h.filled.cursors settings.cursorKey kind (.inl rfl) ⟨hkind, .inl hfollows.cursorKey⟩ _ hrow
    obtain rfl : found = cursor := by omega
    exact ⟨hcap, hreached⟩
  obtain ⟨kind, hkind⟩ := hfollows.exists_kind
  obtain ⟨hcap, hreached⟩ := hfound kind hkind
  exact ⟨hcap, hreached.1, fun kind hkind => (hfound kind hkind).2⟩

theorem fillable_of_follows (hfollows : scope.Follows settings)
    (hbound : max scope.seed top < columnBound) :
    Fillable (scope.Filling settings base top) (scope.chain.Answers top) settings where
  bounded := by
    intro database h low hrow
    obtain ⟨kind, hkind⟩ := hfollows.exists_kind
    obtain ⟨height, hheight, hcap, -⟩ := h.filled.cursors settings.cursorKey kind (.inl rfl)
      ⟨hkind, .inl hfollows.cursorKey⟩ low hrow
    omega
  seeded := by
    intro database h hnone later after _ hlater _ hset
    rw [h.seeded hnone] at hset
    exact hlater.setCursor hset (Nat.le_max_left _ _) fun kind _ => reached_seed later kind
  storable := by
    intro head cursor last logs hhead hlast hnode database h hrow later after rows hlater happend
    have hle : head ≤ top := hhead
    obtain ⟨-, hseed, -⟩ := h.reached hfollows hrow
    refine hlater.append (fun event hmem => ?_) happend
    have hdue := (mem_range hfollows hnode).mp hmem
    obtain ⟨hkind, habove, hbelow⟩ := Chain.bounds_of_mem_due hdue
    exact Chain.mem_due_of_bounds hdue hkind (by omega) (by omega)
  allowed := by
    intro head cursor last logs hhead hlast hle hnode database h hrow hheld later after hgrows
      hlater _ hset
    have htop : head ≤ top := hhead
    obtain ⟨-, -, hreached⟩ := h.reached hfollows hrow
    refine hlater.setCursor hset (by omega) fun kind hkind => ?_
    exact ((hreached kind hkind).range hfollows hkind hle hnode hheld).of_grows
      hgrows

/-! ### Trackers -/

/-- What the seeding of the watchers' cursors keeps to. -/
structure Aligning (scope : Scope) (settings : Settings) (base : List Event) (top handoff : Nat)
    (database : Database) : Prop where
  filled : scope.Filled settings base top database
  seed_le : scope.seed ≤ handoff
  main : database.Reaches settings.cursorKey handoff
  members : ∀ watcher ∈ settings.watchers, ∀ stored, database.row watcher.key = some stored →
    stored ≤ handoff

/-- What the watchers keep to. -/
structure Following (scope : Scope) (settings : Settings) (base : List Event) (top : Nat)
    (database : Database) : Prop where
  filled : scope.Filled settings base top database
  stored : ∃ low, database.row settings.cursorKey = some low

theorem Following.of_grows (h : scope.Following settings base top database)
    (hgrows : database.Grows after) (hfilled : scope.Filled settings base top after) :
    scope.Following settings base top after := by
  obtain ⟨low, hlow⟩ := h.stored
  obtain ⟨high, hhigh, -⟩ := hgrows.rows _ low hlow
  exact ⟨hfilled, high, hhigh⟩

theorem storable_following
    (hdue : ∀ event ∈ events, event ∈ scope.chain.due scope.address scope.kinds scope.seed top) :
    Storable (scope.Following settings base top) events :=
  fun _ _ _ h happend =>
    h.of_grows (Database.grows_of_append happend) (h.filled.append hdue happend)

theorem allows_following (hcap : height ≤ max scope.seed top)
    (hreached : ∀ kind, scope.Counts key kind → scope.Reached database kind height) :
    Allows (scope.Following settings base top) key height database := by
  intro later after hgrows h hbelow hset
  refine h.of_grows (Database.grows_of_setCursor hset hbelow) ?_
  exact h.filled.setCursor hset hcap fun kind hcounts => (hreached kind hcounts).of_grows hgrows

/-- The main cursor may follow its members. -/
theorem allowed_following (hfollows : scope.Follows settings) {watcher : Watcher}
    (hwatcher : watcher ∈ settings.watchers) :
    ∀ watermark ∈ watcher.watermark,
      watermark.Allowed (scope.Following settings base top) := by
  intro watermark hwatermark database height hmembers later after hgrows h hbelow hset
  rcases Settings.mem_watchers hwatcher with ⟨-, rfl⟩ | ⟨hper, own, hown, rfl⟩
  · cases hwatermark
  · cases hwatermark
    obtain ⟨low, hlow⟩ := h.stored
    have hle := hbelow low hlow
    have hmember : ∀ kind ∈ scope.kinds, scope.Reached later kind height ∧
        height ≤ max scope.seed top := by
      intro kind hkind
      have hevent : kind ∈ settings.events := hfollows.mem_events.mpr hkind
      -- The members do not say that the height reaches the seed; the main cursor does.
      obtain ⟨found, hfound, -, hseed, -⟩ := h.filled.cursors settings.cursorKey kind (.inl rfl)
        ⟨hkind, .inl hfollows.cursorKey⟩ low hlow
      have hreaches := hgrows.reaches (hmembers _ (List.mem_map_of_mem hevent))
      have hminds : settings.Minds (watcherKey settings.cursorKey kind) := by
        obtain ⟨watcher, hwatcher, hkey⟩ := Settings.exists_watcher hper hevent
        exact .inr ⟨watcher, hwatcher, hkey.symm⟩
      have hkey : settings.cursorKey = scope.key := hfollows.cursorKey
      exact h.filled.reached_of_reaches hminds ⟨hkind, .inr (by rw [hkey])⟩ hreaches (by omega)
    have hcap := (hmember own (hfollows.mem_events.mp hown)).2
    refine h.of_grows (Database.grows_of_setCursor hset hbelow) ?_
    exact h.filled.setCursor hset hcap fun kind hcounts => (hmember kind hcounts.1).1

/-- An engine that begins with a base is told of no head above the top. -/
def fillingPlan (hfollows : scope.Follows settings) (base : List Event)
    (hbound : max scope.seed top < columnBound) : Engine.Plan settings where
  filling := scope.Filling settings base top
  seeding := scope.Aligning settings base top
  node := scope.chain.Answers top
  fillable := fillable_of_follows hfollows hbound
  handed := by
    intro database cursor h hrow
    obtain ⟨-, hseed, -⟩ := h.reached hfollows hrow
    refine ⟨h.filled, hseed, ⟨cursor, hrow, Int.le_refl _⟩, ?_⟩
    intro watcher hwatcher stored hstored
    by_cases hkey : watcher.key = settings.cursorKey
    · rw [hkey, hrow] at hstored
      cases hstored
      exact Int.le_refl _
    · rw [h.unset watcher hwatcher hkey] at hstored
      cases hstored
  seedable := by
    intro watcher hwatcher handoff database h later after hgrows hlater hbelow hset
    have hafter := Database.grows_of_setCursor hset hbelow
    obtain ⟨-, -, hrow, hother⟩ := Database.setCursor_ok hset
    have hreached : ∀ kind ∈ scope.kinds, scope.Reached later kind handoff ∧
        handoff ≤ max scope.seed top := fun kind hkind =>
      hlater.filled.reached_of_reaches (.inl rfl) ⟨hkind, .inl hfollows.cursorKey⟩ hlater.main
        hlater.seed_le
    obtain ⟨kind, hkind⟩ := hfollows.exists_kind
    refine ⟨hlater.filled.setCursor hset (hreached kind hkind).2 fun kind hcounts =>
      (hreached kind hcounts.1).1, hlater.seed_le, hafter.reaches hlater.main, ?_⟩
    intro other hother_mem stored hstored
    by_cases hkey : other.key = watcher.key
    · rw [hkey, hrow] at hstored
      cases hstored
      exact Int.le_refl _
    · rw [hother _ hkey] at hstored
      exact hlater.members other hother_mem stored hstored

end Scope

end EventIndexer
