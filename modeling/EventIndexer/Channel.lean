import EventIndexer.Failure

/-! A bounded channel with one sender and one receiver, and the two loops at its ends.  The producer
calls and sends, the consumer receives and handles; both stop at a shared token, and a failing call
of either fires it.  Each loop is given by its steps: what it does between two points at which it
can be made to wait. -/

namespace EventIndexer

structure Channel (μ : Type) where
  capacity : Nat
  queue : List μ := []
  /-- Nothing more is sent. -/
  senderGone : Bool := false
  /-- Nothing more is received. -/
  receiverGone : Bool := false
  deriving Repr

namespace Channel

variable {μ : Type}

def hasRoom (channel : Channel μ) : Bool := channel.queue.length < channel.capacity

/-- The first message, and the channel without it. -/
def take? (channel : Channel μ) : Option (μ × Channel μ) :=
  match channel.queue with
  | [] => none
  | message :: rest => some (message, { channel with queue := rest })

end Channel

structure Link (μ : Type) where
  /-- Whether the token has fired. -/
  cancelled : Bool := false
  channel : Channel μ
  deriving Repr

namespace Link

variable {μ : Type}

/-- The link once its sender has ended. -/
def withoutSender (link : Link μ) : Link μ :=
  { link with channel := { link.channel with senderGone := true } }

/-- The link once its receiver has ended: what is queued is never received. -/
def withoutReceiver (link : Link μ) : Link μ :=
  { link with channel := { link.channel with receiverGone := true } }

end Link

/-! ### The producer -/

namespace Producer

/-- Where a producer stands; `κ` is the state of a call, `μ` the messages. -/
inductive Phase (κ μ : Type)
  | ready
  | calling (call : κ)
  /-- The message waits for room in the channel. -/
  | sending (message : μ)
  | ended (result : Except Failure Unit)

inductive Step (κ μ : Type)
  /-- The token is found unfired, and a call begins. -/
  | call (call : κ)
  | work (call : κ)
  | finish (result : Except Failure μ)
  /-- The token is found fired, between two calls or during one: the call is dropped. -/
  | stop
  /-- The message enters the channel, or the receiver is found gone. -/
  | send

variable {κ μ : Type}

/-- The link and the phase after a step; none where the step cannot be taken.  Sending is not
interrupted by the token. -/
def step (link : Link μ) : Phase κ μ → Step κ μ → Option (Link μ × Phase κ μ)
  | .ready, .call call => if link.cancelled then none else some (link, .calling call)
  | .calling _, .work call => some (link, .calling call)
  | .calling _, .finish (.ok message) => some (link, .sending message)
  | .calling _, .finish (.error failure) =>
    some ({ link with cancelled := true }.withoutSender, .ended (.error failure))
  | .ready, .stop | .calling _, .stop =>
    if link.cancelled then some (link.withoutSender, .ended (.ok ())) else none
  | .sending message, .send =>
    if link.channel.receiverGone then some (link.withoutSender, .ended (.ok ()))
    else if link.channel.hasRoom then
      some ({ link with
        channel := { link.channel with queue := link.channel.queue ++ [message] } }, .ready)
    else none
  | _, _ => none

end Producer

/-! ### The consumer -/

namespace Consumer

/-- Where a consumer stands; `κ` is the state of a call. -/
inductive Phase (κ : Type)
  | ready
  | handling (call : κ)
  | ended (result : Except Failure Unit)

inductive Step (κ : Type)
  /-- The token is found unfired, and the first message is taken. -/
  | take
  | work (call : κ)
  | finish (result : Except Failure Unit)
  /-- The token is found fired between two messages. -/
  | stop
  /-- The channel is found empty and without a sender. -/
  | drained

variable {κ μ : Type}

/-- The link and the phase after a step; none where the step cannot be taken.  A call once begun is
carried to its end, whatever becomes of the token. -/
def step (start : μ → κ) (link : Link μ) : Phase κ → Step κ → Option (Link μ × Phase κ)
  | .ready, .take =>
    if link.cancelled then none
    else link.channel.take?.map fun (message, channel) =>
      ({ link with channel }, .handling (start message))
  | .handling _, .work call => some (link, .handling call)
  | .handling _, .finish (.ok ()) => some (link, .ready)
  | .handling _, .finish (.error failure) =>
    some ({ link with cancelled := true }.withoutReceiver, .ended (.error failure))
  | .ready, .stop =>
    if link.cancelled then some (link.withoutReceiver, .ended (.ok ())) else none
  | .ready, .drained =>
    if link.channel.queue.isEmpty && link.channel.senderGone then
      some (link.withoutReceiver, .ended (.ok ()))
    else none
  | _, _ => none

end Consumer

end EventIndexer
