import EventIndexer.Routine

/-! Routines that run among others.  Between two of its requests a routine may find the world
changed, as far as the rules let others change it, and each of its own requests must change no more
than the rules let it.  `Safe` says that a routine keeps to the rules and what it ends with. -/

namespace EventIndexer

/-- Who may change what while a routine runs. -/
structure Rules (σ : Type) where
  /-- How a request may be replied to, and the world that it leaves. -/
  replied : (request : Request) → σ → request.Reply → σ → Prop
  /-- What others may do between two requests. -/
  others : σ → σ → Prop
  /-- What the routine may do with one request. -/
  own : σ → σ → Prop
  others_refl : ∀ world, others world world
  others_trans : ∀ {a b c}, others a b → others b c → others a c

/-- The rules of a routine that shares nothing with others: its requests are replied to as `node`
allows. -/
def Rules.told (node : (request : Request) → request.Reply → Prop) : Rules Unit where
  replied request _ reply _ := node request reply
  others _ _ := True
  own _ _ := True
  others_refl _ := trivial
  others_trans _ _ := trivial

namespace Routine

variable {σ α β : Type} {rules : Rules σ} {world later : σ}

/-- Whatever others do, every request of the routine keeps to the rules, and its result is as
promised, for as long as the rules let others do as they please. -/
def Safe (rules : Rules σ) (ends : Except Failure α → σ → Prop) : Routine α → σ → Prop
  | done result, world => ∀ later, rules.others world later → ends result later
  | ask request next, world => ∀ later, rules.others world later → ∀ reply after,
      rules.replied request later reply after →
        rules.own later after ∧ Safe rules ends (next reply) after

namespace Safe

variable {ends promised : Except Failure α → σ → Prop} {routine : Routine α}

theorem of_others (h : Safe rules ends routine world) (hothers : rules.others world later) :
    Safe rules ends routine later := by
  cases routine with
  | done result =>
    intro last hlast
    exact h last (rules.others_trans hothers hlast)
  | ask request next =>
    intro last hlast
    exact h last (rules.others_trans hothers hlast)

theorem mono (h : Safe rules promised routine world)
    (himp : ∀ result later, promised result later → ends result later) :
    Safe rules ends routine world := by
  induction routine generalizing world with
  | done result =>
    intro last hlast
    exact himp result last (h last hlast)
  | ask request next ih =>
    intro last hlast reply after hreplied
    obtain ⟨hown, hnext⟩ := h last hlast reply after hreplied
    exact ⟨hown, ih reply hnext⟩

theorem and (h : Safe rules promised routine world) (h' : Safe rules ends routine world) :
    Safe rules (fun result later => promised result later ∧ ends result later) routine world := by
  induction routine generalizing world with
  | done result =>
    intro last hlast
    exact ⟨h last hlast, h' last hlast⟩
  | ask request next ih =>
    intro last hlast reply after hreplied
    obtain ⟨hown, hnext⟩ := h last hlast reply after hreplied
    exact ⟨hown, ih reply hnext (h' last hlast reply after hreplied).2⟩

theorem ends_now {result : Except Failure α} (h : Safe rules ends (.done result) world) :
    ends result world :=
  h world (rules.others_refl world)

theorem ask {request : Request} {next : request.Reply → Routine α}
    (h : ∀ later, rules.others world later → ∀ reply after,
      rules.replied request later reply after →
        rules.own later after ∧ Safe rules ends (next reply) after) :
    Safe rules ends (.ask request next) world := h

/-- A routine followed by another is safe if the second is safe wherever the first succeeds, and the
failures of the first are allowed. -/
theorem bind {next : β → Routine α} {first : Routine β}
    {middle : Except Failure β → σ → Prop} (h : Safe rules middle first world)
    (hnext : ∀ value later, middle (.ok value) later → Safe rules ends (next value) later)
    (hfail : ∀ failure later, middle (.error failure) later → ends (.error failure) later) :
    Safe rules ends (first >>= next) world := by
  induction first generalizing world with
  | done result =>
    cases result with
    | ok value => exact hnext value world h.ends_now
    | error failure =>
      intro last hlast
      exact hfail failure last (h last hlast)
  | ask request rest ih =>
    intro last hlast reply after hreplied
    obtain ⟨hown, hrest⟩ := h last hlast reply after hreplied
    exact ⟨hown, ih reply hrest⟩

theorem request {request : Request} {ends : request.Reply → σ → Prop}
    (h : ∀ later, rules.others world later → ∀ reply after,
      rules.replied request later reply after →
        rules.own later after ∧ ∀ last, rules.others after last → ends reply last) :
    Safe rules ends (Routine.request request) world := h

theorem told {node : (request : Request) → request.Reply → Prop} (request : Request) :
    Safe (.told node) (fun reply _ => node request reply) (Routine.request request) () :=
  fun _ _ _ _ hreplied => ⟨trivial, fun _ _ => hreplied⟩

theorem within {context : String} (h : Safe rules ends routine world)
    (hfail : ∀ failure later, ends (.error failure) later →
      ends (.error (failure.within context)) later) :
    Safe rules ends (routine.within context) world := by
  induction routine generalizing world with
  | done result =>
    cases result with
    | ok value => exact h
    | error failure =>
      intro last hlast
      exact hfail failure last (h last hlast)
  | ask request next ih =>
    intro last hlast reply after hreplied
    obtain ⟨hown, hnext⟩ := h last hlast reply after hreplied
    exact ⟨hown, ih reply hnext⟩

theorem ending {last : Request} {middle : Except Failure α → σ → Prop}
    (h : Safe rules middle routine world)
    (hlast : ∀ result world, middle result world → ∀ reply after,
      rules.replied last world reply after →
        rules.own world after ∧ ∀ later, rules.others after later → ends result later) :
    Safe rules ends (routine.ending last) world := by
  induction routine generalizing world with
  | done result =>
    intro now hnow reply after hreplied
    exact hlast result now (h now hnow) reply after hreplied
  | ask request next ih =>
    intro now hnow reply after hreplied
    obtain ⟨hown, hnext⟩ := h now hnow reply after hreplied
    exact ⟨hown, ih reply hnext⟩

end Safe

end Routine

end EventIndexer
