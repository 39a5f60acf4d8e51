import EventIndexer.Cursor
import EventIndexer.Proofs.Interference
import EventIndexer.Proofs.Rows

/-! Who moves which cursor.  An actor is a task of the engine: some cursors are moved by it alone,
and the shared cursor only while it holds the lock.  From that follows what each operation on
cursors does, whatever the other actors do in between. -/

namespace EventIndexer

/-- What the tasks of an engine share. -/
structure World where
  database : Database
  /-- The task that moves the shared cursor. -/
  holder : Option Nat := none

/-- A task, by its number, and the cursors that it moves. -/
structure Actor where
  index : Nat := 0
  /-- The cursors that only this task moves. -/
  keys : List String
  /-- The cursor that it moves while it holds the lock. -/
  shared : Option String := none

/-- How a request of the task of a number may be replied to.  A request that is not one of the
database is answered as `node` allows. -/
inductive World.Replied (node : (request : Request) → request.Reply → Prop) (index : Nat) :
    (request : Request) → World → request.Reply → World → Prop
  | performed {request : Request} {world : World} {reply : request.Reply} {database : Database} :
    world.database.answer request = some (reply, database) →
      Replied node index request world reply { world with database }
  | failed {request : Request} {world : World} (failure : Failure) :
    request ≠ .lock → request ≠ .unlock → Replied node index request world (.error failure) world
  | locked {world : World} : world.holder = none →
    Replied node index .lock world (.ok ()) { world with holder := some index }
  | unlocked {world : World} :
    Replied node index .unlock world (.ok ()) { world with holder := none }
  | told {request : Request} {world : World} {reply : request.Reply} :
    world.database.answer request = none → node request reply →
      Replied node index request world reply world

namespace Actor

variable (actor : Actor) (inv : Database → Prop)

/-- Whether no one else moves a cursor for now. -/
def Owns (world : World) (key : String) : Prop :=
  key ∈ actor.keys ∨ (world.holder = some actor.index ∧ actor.shared = some key)

/-- What others do while the actor pauses: they add events and raise cursors that it does not own.
-/
structure Others (before after : World) : Prop where
  grows : before.database.Grows after.database
  rows : ∀ key, actor.Owns before key → after.database.row key = before.database.row key
  holder : after.holder = some actor.index ↔ before.holder = some actor.index
  kept : inv before.database → inv after.database

/-- What one request of the actor does: it adds events or raises a cursor that it owns. -/
structure Own (before after : World) : Prop where
  grows : before.database.Grows after.database
  rows : ∀ key, ¬actor.Owns before key → after.database.row key = before.database.row key
  holder : ∀ index, index ≠ actor.index → (after.holder = some index ↔ before.holder = some index)
  kept : inv before.database → inv after.database

/-- What may have happened since some moment, by the actor or by others, while the actor held the
lock or did not. -/
structure Since (before after : World) : Prop where
  grows : before.database.Grows after.database
  holder : after.holder = some actor.index ↔ before.holder = some actor.index
  kept : inv before.database → inv after.database

def Still (before after : World) : Prop :=
  ∀ key, actor.Owns before key → after.database.row key = before.database.row key

variable {actor : Actor} {inv : Database → Prop} {a b c : World} {key : String}

theorem Others.refl (world : World) : actor.Others inv world world :=
  ⟨.refl _, fun _ _ => rfl, Iff.rfl, id⟩

theorem Others.owns (h : actor.Others inv a b) : actor.Owns b key ↔ actor.Owns a key := by
  unfold Owns
  rw [h.holder]

theorem Others.trans (hab : actor.Others inv a b) (hbc : actor.Others inv b c) :
    actor.Others inv a c :=
  ⟨hab.grows.trans hbc.grows,
    fun key howns => (hbc.rows key (hab.owns.mpr howns)).trans (hab.rows key howns),
    hbc.holder.trans hab.holder, fun h => hbc.kept (hab.kept h)⟩

theorem Others.since (h : actor.Others inv a b) : actor.Since inv a b := ⟨h.grows, h.holder, h.kept⟩

theorem Own.refl (world : World) : actor.Own inv world world :=
  ⟨.refl _, fun _ _ => rfl, fun _ _ => Iff.rfl, id⟩

/-- The lock passes between the actor and no one. -/
theorem Own.of_holder {holder : Option Nat}
    (hbefore : ∀ index, index ≠ actor.index → a.holder ≠ some index)
    (hafter : ∀ index, index ≠ actor.index → holder ≠ some index) :
    actor.Own inv a { a with holder } :=
  ⟨.refl _, fun _ _ => rfl,
    fun index hne => iff_of_false (hafter index hne) (hbefore index hne), id⟩

theorem Own.since {database : Database} (h : actor.Own inv a { a with database }) :
    actor.Since inv a { a with database } := ⟨h.grows, Iff.rfl, h.kept⟩

theorem Since.refl (world : World) : actor.Since inv world world := ⟨.refl _, Iff.rfl, id⟩

theorem Since.trans (hab : actor.Since inv a b) (hbc : actor.Since inv b c) :
    actor.Since inv a c :=
  ⟨hab.grows.trans hbc.grows, hbc.holder.trans hab.holder, fun h => hbc.kept (hab.kept h)⟩

theorem Since.owns (h : actor.Since inv a b) : actor.Owns b key ↔ actor.Owns a key := by
  unfold Owns
  rw [h.holder]

/-- A request that changes no row leaves the actor's own rows still, whatever others do around
it. -/
theorem Still.around {d : World} (hab : actor.Others inv a b) (hbc : actor.Since inv b c)
    (hrows : ∀ key, c.database.row key = b.database.row key) (hcd : actor.Others inv c d) :
    actor.Still a d := by
  intro key howns
  have hb : actor.Owns b key := hab.owns.mpr howns
  have hc : actor.Owns c key := hbc.owns.mpr hb
  rw [hcd.rows key hc, hrows key, hab.rows key howns]

/-- Two actors that own no cursor in common. -/
structure Apart (actor other : Actor) : Prop where
  index : actor.index ≠ other.index
  keys : ∀ key ∈ actor.keys, key ∉ other.keys
  shared : ∀ key ∈ actor.shared, key ∉ other.keys
  shared' : ∀ key ∈ other.shared, key ∉ actor.keys

/-- What an actor does is what the others of another actor may do. -/
theorem Own.others {other : Actor} (h : actor.Own inv a b) (hapart : actor.Apart other) :
    other.Others inv a b := by
  refine ⟨h.grows, fun key howns => h.rows key fun hown => ?_,
    h.holder _ (Ne.symm hapart.index), h.kept⟩
  rcases hown with hkey | ⟨hholder, hshared⟩
  · rcases howns with hother | ⟨-, hother⟩
    · exact hapart.keys key hkey hother
    · exact hapart.shared' key hother hkey
  · rcases howns with hother | ⟨hother, -⟩
    · exact hapart.shared key hshared hother
    · rw [hholder] at hother
      exact hapart.index (Option.some.inj hother)

variable (actor : Actor) (inv : Database → Prop)

def rules (node : (request : Request) → request.Reply → Prop) : Rules World where
  replied := World.Replied node actor.index
  others := actor.Others inv
  own := actor.Own inv
  others_refl := Others.refl
  others_trans := Others.trans

/-- The lock is as it was at some moment, and a result is as promised. -/
def Ends {α : Type} (start : World) (post : α → World → Prop) :
    Except Failure α → World → Prop
  | .ok value, later => actor.Since inv start later ∧ post value later
  | .error _, later => actor.Since inv start later

variable {actor : Actor} {inv : Database → Prop} {α β : Type} {start world later : World}
  {node : (request : Request) → request.Reply → Prop}

theorem Ends.since {post : α → World → Prop} {result : Except Failure α}
    (h : actor.Ends inv start post result later) : actor.Since inv start later := by
  cases result with
  | ok value => exact h.1
  | error failure => exact h

theorem Ends.of_since {post : α → World → Prop} {result : Except Failure α}
    (h : actor.Ends inv world post result later) (hsince : actor.Since inv start world) :
    actor.Ends inv start post result later := by
  cases result with
  | ok value => exact ⟨hsince.trans h.1, h.2⟩
  | error failure => exact hsince.trans h

/-- A routine is safe with a promise; the promise of its result is one that others cannot break. -/
abbrev Keeps (actor : Actor) (inv : Database → Prop)
    (node : (request : Request) → request.Reply → Prop) (routine : Routine α) (world : World)
    (post : α → World → Prop) : Prop :=
  routine.Safe (actor.rules inv node) (actor.Ends inv world post) world

theorem Keeps.bind {first : Routine β} {next : β → Routine α} {middle : β → World → Prop}
    {post : α → World → Prop} (h : actor.Keeps inv node first world middle)
    (hnext : ∀ value later, actor.Since inv world later → middle value later →
      actor.Keeps inv node (next value) later post) :
    actor.Keeps inv node (first >>= next) world post := by
  -- The second routine promises from where it begins; `of_since` moves that back to `world`.
  refine Routine.Safe.bind h (fun value later hmiddle => ?_) fun failure later hmiddle => hmiddle
  obtain ⟨hsince, hvalue⟩ := hmiddle
  exact (hnext value later hsince hvalue).mono fun result last hends => hends.of_since hsince

theorem Keeps.mono {routine : Routine α} {middle post : α → World → Prop}
    (h : actor.Keeps inv node routine world middle)
    (himp : ∀ value later, actor.Since inv world later → middle value later → post value later) :
    actor.Keeps inv node routine world post := by
  refine Routine.Safe.mono h fun result later hends => ?_
  cases result with
  | ok value => exact ⟨hends.1, himp value later hends.1 hends.2⟩
  | error failure => exact hends

theorem Keeps.and {routine : Routine α} {post post' : α → World → Prop}
    (h : actor.Keeps inv node routine world post) (h' : actor.Keeps inv node routine world post') :
    actor.Keeps inv node routine world fun value later => post value later ∧ post' value later := by
  refine Routine.Safe.mono (Routine.Safe.and h h') fun result later hends => ?_
  cases result with
  | ok value => exact ⟨hends.1.1, hends.1.2, hends.2.2⟩
  | error failure => exact hends.1

theorem Keeps.pure {value : α} {post : α → World → Prop}
    (h : ∀ later, actor.Others inv world later → post value later) :
    actor.Keeps inv node (Pure.pure value) world post :=
  fun later hothers => ⟨hothers.since, h later hothers⟩

theorem Keeps.fail {failure : Failure} {post : α → World → Prop} :
    actor.Keeps inv node (.done (.error failure)) world post :=
  fun _ hothers => hothers.since

theorem Keeps.within {routine : Routine α} {context : String} {post : α → World → Prop}
    (h : actor.Keeps inv node routine world post) :
    actor.Keeps inv node (routine.within context) world post :=
  Routine.Safe.within h fun _ _ hends => hends

theorem Keeps.request {request : Request} {post : request.Answer → World → Prop}
    (h : ∀ now, actor.Others inv world now → ∀ reply after,
      World.Replied node actor.index request now reply after →
        actor.Own inv now after ∧ actor.Since inv now after ∧
          ∀ answer, reply = .ok answer → ∀ later, actor.Others inv after later →
            post answer later) :
    actor.Keeps inv node (Routine.request request) world post := by
  refine Routine.Safe.request fun now hnow reply after hreplied => ?_
  obtain ⟨hown, hsince, hpost⟩ := h now hnow reply after hreplied
  refine ⟨hown, fun later hlater => ?_⟩
  have hall : actor.Since inv world later := (hnow.since.trans hsince).trans hlater.since
  cases reply with
  | ok answer => exact ⟨hall, hpost answer rfl later hlater⟩
  | error failure => exact hall

theorem Keeps.statement {request : Request} {post : request.Answer → World → Prop}
    (hstatement : ∀ database : Database, database.answer request ≠ none)
    (h : ∀ now, actor.Others inv world now → ∀ reply database,
      now.database.answer request = some (reply, database) →
        actor.Own inv now { now with database } ∧
          ∀ answer, reply = .ok answer → ∀ later, actor.Others inv { now with database } later →
            post answer later) :
    actor.Keeps inv node (Routine.request request) world post := by
  refine Keeps.request fun now hnow reply after hreplied => ?_
  cases hreplied with
  | performed hanswer =>
    obtain ⟨hown, hpost⟩ := h now hnow _ _ hanswer
    exact ⟨hown, hown.since, hpost⟩
  | failed failure => exact ⟨.refl _, .refl _, fun answer h => nomatch h⟩
  | locked | unlocked => exact absurd rfl (hstatement now.database)
  | told hnone => exact absurd hnone (hstatement _)

/-- What is not asked of the database is answered as the node may, and changes nothing. -/
theorem keeps_ask {request : Request}
    (hnone : ∀ database : Database, database.answer request = none)
    (hlock : request ≠ .lock) (hunlock : request ≠ .unlock) :
    actor.Keeps inv node (Routine.request request) world fun answer later =>
      node request (.ok answer) ∧ actor.Still world later := by
  refine Keeps.request fun now hnow reply after hreplied => ?_
  cases hreplied with
  | performed hanswer =>
    rw [hnone] at hanswer
    cases hanswer
  | failed failure => exact ⟨.refl _, .refl _, fun answer h => nomatch h⟩
  | locked => exact absurd rfl hlock
  | unlocked => exact absurd rfl hunlock
  | told _ hnode =>
    refine ⟨.refl _, .refl _, fun answer hok later hlater => ⟨hok ▸ hnode, ?_⟩⟩
    exact Still.around hnow (.refl _) (fun _ => rfl) hlater

end Actor

/-! ### Cursors -/

/-- Whether a cursor may be set to a height it does not lie above, now and later. -/
def Allows (inv : Database → Prop) (key : String) (height : Nat) (database : Database) : Prop :=
  ∀ later after, database.Grows later → inv later →
    (∀ low, later.row key = some low → low ≤ height) →
      later.setCursor key height = (.ok (), after) → inv after

theorem Allows.of_grows {inv : Database → Prop} {key : String} {height : Nat}
    {database later : Database} (h : Allows inv key height database)
    (hgrows : database.Grows later) : Allows inv key height later :=
  fun last after hlast => h last after (hgrows.trans hlast)

def raised (row : Option Int) (height : Nat) : Int := row.elim height (max · height)

theorem le_raised (row : Option Int) (height : Nat) : (height : Int) ≤ raised row height := by
  cases row with
  | none => exact Int.le_refl _
  | some low => exact Int.le_max_right _ _

namespace Actor

variable {actor : Actor} {inv : Database → Prop} {world : World} {key : String} {height : Nat}
  {node : (request : Request) → request.Reply → Prop}

theorem keeps_read : actor.Keeps inv node (Cursor.read key) world fun found later =>
    (∀ height, found = some height → later.database.Reaches key height) ∧
      (actor.Owns world key → world.database.row key = found.map Int.ofNat ∧
        later.database.row key = world.database.row key) := by
  refine Keeps.statement (fun _ h => nomatch h) fun now hnow reply database hanswer => ?_
  simp only [Database.answer, Option.some.injEq, Prod.mk.injEq] at hanswer
  obtain ⟨hcursor, rfl⟩ := hanswer
  refine ⟨.refl _, fun found hfound later hlater => ?_⟩
  have hrow : now.database.row key = found.map Int.ofNat :=
    Database.cursor_ok (hcursor.trans hfound)
  refine ⟨fun height hheight => ?_, fun howns => ?_⟩
  · subst hheight
    exact hlater.grows.reaches ⟨_, hrow, Int.le_refl _⟩
  · have hsame : now.database.row key = world.database.row key := hnow.rows key howns
    have hlast : later.database.row key = now.database.row key :=
      hlater.rows key (hnow.owns.mpr howns)
    exact ⟨hsame.symm.trans hrow, hlast.trans hsame⟩

/-- A cursor that has reached a height is found at that height or past it. -/
theorem keeps_read_reached : actor.Keeps inv node (Cursor.read key) world fun found _ =>
    ∀ height, world.database.Reaches key height → ∃ high, found = some high ∧ height ≤ high := by
  refine Keeps.statement (fun _ h => nomatch h) fun now hnow reply database hanswer => ?_
  simp only [Database.answer, Option.some.injEq, Prod.mk.injEq] at hanswer
  obtain ⟨hcursor, rfl⟩ := hanswer
  refine ⟨.refl _, fun found hfound later _ height hreached => ?_⟩
  have hrow : now.database.row key = found.map Int.ofNat :=
    Database.cursor_ok (hcursor.trans hfound)
  obtain ⟨stored, hstored, hle⟩ := hnow.grows.reaches hreached
  rw [hrow] at hstored
  obtain ⟨high, hhigh, rfl⟩ := Option.map_eq_some_iff.mp hstored
  exact ⟨high, hhigh, Int.ofNat_le.mp hle⟩

theorem keeps_write (howns : actor.Owns world key)
    (hle : ∀ low, world.database.row key = some low → low ≤ height)
    (hallows : Allows inv key height world.database) :
    actor.Keeps inv node (Cursor.write key height) world fun _ later =>
      later.database.row key = some (height : Int) := by
  refine Keeps.statement (fun _ h => nomatch h) fun now hnow reply database hanswer => ?_
  simp only [Database.answer, Option.some.injEq] at hanswer
  cases reply with
  | error failure =>
    obtain rfl := Database.setCursor_error hanswer
    exact ⟨.refl _, fun answer h => nomatch h⟩
  | ok _ =>
    have hnow_le : ∀ low, now.database.row key = some low → low ≤ height := by
      rw [hnow.rows key howns]
      exact hle
    obtain ⟨-, -, hrow, hother⟩ := Database.setCursor_ok hanswer
    refine ⟨⟨Database.grows_of_setCursor hanswer hnow_le, fun other hnot => hother other ?_,
      fun _ _ => Iff.rfl, fun hinv => hallows _ _ hnow.grows hinv hnow_le hanswer⟩,
      fun _ _ later hlater => ?_⟩
    · intro hsame
      subst hsame
      exact hnot (hnow.owns.mpr howns)
    · have hown : actor.Owns { now with database } key := hnow.owns.mpr howns
      rw [hlater.rows key hown]
      exact hrow

theorem keeps_checkpoint (howns : actor.Owns world key)
    (hallows : Allows inv key height world.database) :
    actor.Keeps inv node (Cursor.checkpoint key height) world fun _ later =>
      later.database.row key = some (raised (world.database.row key) height) := by
  refine keeps_read.bind fun found now hnow hfound => ?_
  obtain ⟨hrow, hsame⟩ := hfound.2 howns
  have hnow_owns : actor.Owns now key := hnow.owns.mpr howns
  have hnow_allows : Allows inv key height now.database := hallows.of_grows hnow.grows
  cases found with
  | none =>
    rw [hrow] at hsame ⊢
    refine keeps_write hnow_owns (fun low hlow => ?_) hnow_allows
    rw [hsame] at hlow
    cases hlow
  | some current =>
    have hcurrent : now.database.row key = some (current : Int) := hsame.trans hrow
    rw [hrow]
    by_cases hle : height ≤ current
    · simp only [hle, if_true]
      refine Keeps.pure fun later hlater => ?_
      rw [hlater.rows key hnow_owns, hcurrent]
      exact congrArg some (Int.max_eq_left (Int.ofNat_le.mpr hle)).symm
    · have hlt : (current : Int) ≤ height := Int.ofNat_le.mpr (Nat.le_of_not_le hle)
      simp only [hle, if_false]
      refine (keeps_write hnow_owns (fun low hlow => ?_) hnow_allows).mono fun _ later _ hset => ?_
      · rw [hcurrent] at hlow
        cases hlow
        exact hlt
      · rw [hset]
        exact congrArg some (Int.max_eq_right hlt).symm

theorem keeps_loadOrSeed {seed : Nat} (howns : actor.Owns world key)
    (hallows : world.database.row key = none → Allows inv key seed world.database) :
    actor.Keeps inv node (Cursor.loadOrSeed key seed) world fun stored later =>
      later.database.row key = some (stored : Int) := by
  refine keeps_read.bind fun found now hnow hfound => ?_
  obtain ⟨hrow, hsame⟩ := hfound.2 howns
  have hnow_owns : actor.Owns now key := hnow.owns.mpr howns
  cases found with
  | some height =>
    refine Keeps.pure fun later hlater => ?_
    rw [hlater.rows key hnow_owns, hsame, hrow]
    rfl
  | none =>
    refine (keeps_write hnow_owns (fun low hlow => ?_) ((hallows hrow).of_grows hnow.grows)).bind
      fun _ last hlast hset => Keeps.pure fun later hlater => ?_
    · rw [hsame, hrow] at hlow
      cases hlow
    · rw [hlater.rows key (hlast.owns.mpr hnow_owns), hset]

/-- The lowest of some heights read is one that every member has reached by now. -/
theorem keeps_lowest (members : List String) (low : Option Nat) :
    actor.Keeps inv node (Watermark.lowest members low) world fun found later =>
      ∀ height, found = some height → (∀ least ∈ low, height ≤ least) ∧
        ∀ member ∈ members, later.database.Reaches member height := by
  -- Others may raise a member that was read before, so what is carried on is that it was reached.
  induction members generalizing low world with
  | nil =>
    refine Keeps.pure fun later _ height hheight => ⟨fun least hleast => ?_, fun _ h => nomatch h⟩
    rw [hheight] at hleast
    cases hleast
    exact Nat.le_refl _
  | cons member rest ih =>
    refine keeps_read.bind fun found now hnow hfound => ?_
    cases found with
    | none => exact Keeps.pure fun later _ height hheight => nomatch hheight
    | some first =>
      refine (ih _).mono fun result later hlater hresult height hheight => ?_
      obtain ⟨hleast, hrest⟩ := hresult height hheight
      have hle := hleast _ rfl
      have hreached : later.database.Reaches member first :=
        hlater.grows.reaches (hfound.1 first rfl)
      cases low with
      | none =>
        refine ⟨fun _ h => (nomatch h), fun other hother => ?_⟩
        rcases List.mem_cons.mp hother with rfl | hother
        · exact hreached.of_le hle
        · exact hrest other hother
      | some least =>
        have hmin : height ≤ min least first := hle
        refine ⟨fun _ h => ?_, fun other hother => ?_⟩
        · cases h
          omega
        · rcases List.mem_cons.mp hother with rfl | hother
          · exact hreached.of_le (by omega)
          · exact hrest other hother

/-- A height that every member has reached bounds the lowest of them from below. -/
theorem keeps_lowest_reached (members : List String) (low : Option Nat)
    (hmembers : ∀ member ∈ members, world.database.Reaches member height)
    (hlow : ∀ least ∈ low, height ≤ least) (hsome : low = none → members ≠ []) :
    actor.Keeps inv node (Watermark.lowest members low) world fun found _ =>
      ∃ high, found = some high ∧ height ≤ high := by
  induction members generalizing low world with
  | nil =>
    refine Keeps.pure fun later _ => ?_
    cases low with
    | none => exact absurd rfl (hsome rfl)
    | some least => exact ⟨least, rfl, hlow least rfl⟩
  | cons member rest ih =>
    refine keeps_read_reached.bind fun found now hnow hfound => ?_
    obtain ⟨first, rfl, hfirst⟩ := hfound height (hmembers member List.mem_cons_self)
    refine ih (some (low.elim first (min · first))) (fun other hother => ?_)
      (fun least hleast => ?_) nofun
    · exact hnow.grows.reaches (hmembers other (List.mem_cons_of_mem _ hother))
    · cases low with
      | none =>
        cases hleast
        exact hfirst
      | some before =>
        cases hleast
        exact Nat.le_min.mpr ⟨hlow before rfl, hfirst⟩

end Actor

/-- Whether a shared cursor may be raised to every height that all its members have reached. -/
def Watermark.Allowed (watermark : Watermark) (inv : Database → Prop) : Prop :=
  ∀ database height, (∀ member ∈ watermark.members, database.Reaches member height) →
    Allows inv watermark.shared height database

namespace Actor

variable {actor : Actor} {inv : Database → Prop} {world : World} {watermark : Watermark}

def unasked (request : Request) (_ : request.Reply) : Prop := False

/-- A routine that runs under the lock is safe if it is so while the actor holds the lock.  What it
promises must last, since others go on once the lock is free. -/
theorem keeps_locked {α : Type} {routine : Routine α} {post : α → World → Prop}
    (hfree : world.holder ≠ some actor.index)
    (hlasts : ∀ value before after, before.database.Grows after.database → post value before →
      post value after)
    (hbody : ∀ now : World, now.holder = some actor.index → world.database.Grows now.database →
      actor.Keeps inv unasked routine now post) :
    actor.Keeps inv unasked (Routine.request .lock >>= fun _ => routine.ending .unlock) world
      post := by
  refine Routine.Safe.ask fun now hnow reply after hreplied => ?_
  cases hreplied with
  | performed hanswer => cases hanswer
  | failed failure hlock => exact absurd rfl hlock
  | told _ hnode => cases hnode
  | locked hnone =>
    refine ⟨.of_holder (by simp [hnone]) fun index hne h => hne (Option.some.inj h).symm, ?_⟩
    refine Routine.Safe.ending (hbody { now with holder := some actor.index } rfl hnow.grows)
      fun result middle hends reply after hreplied => ?_
    have hsince := hends.since
    have hheld : middle.holder = some actor.index := hsince.holder.mpr rfl
    cases hreplied with
    | performed hanswer => cases hanswer
    | failed failure _ hunlock => exact absurd rfl hunlock
    | told _ hnode => cases hnode
    | unlocked =>
      refine ⟨.of_holder (fun index hne h => hne ?_) (by simp), fun later hlater => ?_⟩
      · rw [hheld] at h
        exact (Option.some.inj h).symm
      · have hlater_free : later.holder ≠ some actor.index := fun h =>
          nomatch hlater.holder.mp h
        -- The actor held the lock in between, so the moments before and after do not compose.
        have hall : actor.Since inv world later :=
          ⟨(hnow.grows.trans hsince.grows).trans hlater.grows, iff_of_false hlater_free hfree,
            fun h => hlater.kept (hsince.kept (hnow.kept h))⟩
        cases result with
        | ok value => exact ⟨hall, hlasts value middle later hlater.grows hends.2⟩
        | error failure => exact hall

/-- An actor that does not hold the lock takes it, moves the shared cursor, and lets it go.  A
height that every member had reached before is one that the shared cursor has reached afterwards. -/
theorem keeps_refresh (height : Nat) (hfree : world.holder ≠ some actor.index)
    (hshared : actor.shared = some watermark.shared) (hallowed : watermark.Allowed inv) :
    actor.Keeps inv unasked watermark.refresh world fun _ later =>
      watermark.members ≠ [] →
        (∀ member ∈ watermark.members, world.database.Reaches member height) →
          later.database.Reaches watermark.shared height := by
  unfold Watermark.refresh
  refine keeps_locked hfree (fun _ before after hgrows hpost hsome hmembers =>
    hgrows.reaches (hpost hsome hmembers)) fun now hholder hgrows => ?_
  have hlowest : actor.Keeps inv unasked (Watermark.lowest watermark.members none) now
      fun found _ => watermark.members ≠ [] →
        (∀ member ∈ watermark.members, world.database.Reaches member height) →
          ∃ high, found = some high ∧ height ≤ high := by
    by_cases hmembers : ∀ member ∈ watermark.members, world.database.Reaches member height
    · by_cases hsome : watermark.members ≠ []
      · exact (keeps_lowest_reached watermark.members none
          (fun member hmem => hgrows.reaches (hmembers member hmem)) nofun fun _ => hsome).mono
            fun _ _ _ hfound _ _ => hfound
      · exact (keeps_lowest watermark.members none).mono fun _ _ _ _ h => absurd h hsome
    · exact (keeps_lowest watermark.members none).mono fun _ _ _ _ _ h => absurd h hmembers
  refine ((keeps_lowest watermark.members none).and hlowest).bind fun found next hnext hfound => ?_
  obtain ⟨hfound, hbound⟩ := hfound
  cases found with
  | none =>
    refine Keeps.pure fun _ _ hsome hmembers => ?_
    obtain ⟨high, hhigh, -⟩ := hbound hsome hmembers
    cases hhigh
  | some low =>
    have howns : actor.Owns next watermark.shared := .inr ⟨hnext.holder.mpr hholder, hshared⟩
    refine (keeps_checkpoint howns (hallowed _ _ (hfound low rfl).2)).bind
      fun _ set hset hrow => Keeps.pure fun later hlater hsome hmembers => ?_
    obtain ⟨high, hhigh, hle⟩ := hbound hsome hmembers
    cases hhigh
    refine hlater.grows.reaches ⟨_, hrow, ?_⟩
    have hraised := le_raised (next.database.row watermark.shared) low
    omega

end Actor

end EventIndexer
