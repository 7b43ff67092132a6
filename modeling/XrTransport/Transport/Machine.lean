import Mathlib.Logic.Function.Basic
import XrTransport.Foundation.Transition
import XrTransport.Transport.Frame

/-!
# The transport

`TransportImpl` as a machine: its threads, the recursive message mutex, the objects that hold it,
the stream in both directions, the queue between the producer and whoever takes messages, and the
status. A step is what one thread does between two points where another thread can come in; which
step comes next is not determined. User threads and handlers may call the library in any order.
-/
namespace XrTransport.Transport

/-- `xrtp_TransportStatus`. -/
inductive Status where
  /-- `XRTP_STATUS_CREATED`. -/
  | created
  /-- `XRTP_STATUS_OPEN`. -/
  | opened
  /-- `XRTP_STATUS_WRITE_CLOSED`. -/
  | writeClosed
  /-- `XRTP_STATUS_CLOSED`. -/
  | closed
deriving DecidableEq, Repr

/-- The threads that can own the message mutex. -/
inductive Party where
  /-- The thread of `consumer_loop`. -/
  | consumer
  /-- A thread of the application. -/
  | user (number : Nat)
deriving DecidableEq, Repr

/-- The calls that go through `lock_message_mutex`. -/
inductive Request where
  /-- `start_message`. -/
  | startMessage (header : UInt16)
  /-- `await_message`. -/
  | awaitMessage (header : UInt16)
  /-- `handle_message`. -/
  | handleMessage (header : UInt16)
  /-- `register_handler`. -/
  | registerHandler (header : UInt16)
  /-- `unregister_handler`. -/
  | unregisterHandler (header : UInt16)
  /-- `clear_handlers`. -/
  | clearHandlers
  /-- `acquire_message_lock`. -/
  | acquireMessageLock
deriving DecidableEq, Repr

/-- The checks before the lock is taken; a call that fails one throws and has no effect. -/
def Request.passes (status : Status) : Request → Bool
  | .startMessage _ => status = .opened
  | .awaitMessage header => status ≠ .created && header ≠ shutdown
  | .handleMessage _ => status ≠ .created
  | _ => true

/-- `MessageLockOutImpl`, without its lock. -/
structure MessageOut where
  /-- `header.header`. -/
  header : UInt16
  /-- The bytes of the `SendBuffer`. -/
  buffer : List UInt8
deriving DecidableEq, Repr

namespace MessageOut

/-- The constructor saves space for the header. -/
def opened (header : UInt16) : MessageOut := { header, buffer := headerBytes header 0 }

/-- The message the buffer holds behind the space for the header. -/
def message (m : MessageOut) : MessageIn := ⟨m.header, m.buffer.drop headerSize⟩

/-- The bytes `flush` hands to the stream: the header, with the size of the rest in 32 bits, is
copied over the beginning of the buffer. -/
def framed (m : MessageOut) : List UInt8 :=
  (headerBytes m.header (m.buffer.length + 2 ^ 32 - headerSize) ++
    m.buffer.drop headerSize).take m.buffer.length

end MessageOut

/-- How far `dispatch_to_handler` is with a shutdown message. -/
inductive Stage where
  /-- The message has been taken from the queue. -/
  | popped
  /-- The status was found open, so the shutdown is to be answered. -/
  | answering
  /-- The answer has been started. -/
  | sending
  /-- Sending the answer has thrown. -/
  | unwinding
deriving DecidableEq, Repr

/-- How far an iteration of `consumer_loop` is. -/
inductive Iteration where
  /-- The message lock is taken. -/
  | locked
  /-- No user thread was waiting for it. -/
  | checked
  /-- A message has been taken from the queue and dispatched. -/
  | dispatched
deriving DecidableEq, Repr

/-- What holds a lock on the message mutex: objects of the running code and library functions on
the call stack. -/
inductive Hold where
  /-- A `MessageLockOutImpl`. -/
  | out (message : MessageOut)
  /-- A `MessageLockInImpl` that `await_message` has returned. -/
  | received (message : MessageIn)
  /-- A `MessageLockImpl`. -/
  | lock
  /-- The loop of `await_message`. -/
  | await (header : UInt16)
  /-- The loop of `handle_message`, and whether the message has been handled. -/
  | handle (header : UInt16) (handled : Bool)
  /-- `dispatch_to_handler` running a handler. -/
  | handler (message : MessageIn)
  /-- `dispatch_to_handler` with a shutdown message. -/
  | shutdown (stage : Stage)
  /-- `consumer_loop`. -/
  | consumer (iteration : Iteration)
deriving DecidableEq, Repr

/-- Objects belong to the running code; the others are functions that run something. -/
def Hold.isObject : Hold → Bool
  | .out _ | .received _ | .lock => true
  | _ => false

/-- What a thread is doing besides running code or a loop. -/
inductive Phase where
  /-- Nothing else. -/
  | running
  /-- A call has passed its checks. -/
  | called (request : Request)
  /-- It counts in `num_waiting` and waits for the message mutex. -/
  | waiting (request : Request)
  /-- It is in `asio::write` for one of its messages, with the bytes that are left, from `flush` or
  implicitly from a destructor. -/
  | writing (index : Nat) (rest : List UInt8) (implicit : Bool)
deriving DecidableEq, Repr

/-- A thread. -/
structure Thread where
  /-- What it is doing. -/
  phase : Phase := .running
  /-- Its locks on the message mutex, innermost first. -/
  held : List Hold := []
deriving DecidableEq, Repr

namespace Thread

/-- The objects of the function that is running. -/
def locals (t : Thread) : List Hold := t.held.takeWhile Hold.isObject

/-- The innermost library function on the call stack. -/
def frame (t : Thread) : Option Hold := (t.held.dropWhile Hold.isObject).head?

/-- An outgoing message of the function that is running. -/
def outgoing (t : Thread) (index : Nat) : Option MessageOut :=
  match t.locals[index]? with
  | some (.out m) => some m
  | _ => none

/-- The thread runs code of the application: its own, or that of a handler. -/
def runsCode (t : Thread) (p : Party) : Bool :=
  t.phase = .running &&
    match t.frame with
    | none => p ≠ .consumer
    | some (.handler _) => true
    | _ => false

/-- The thread is answering a shutdown. -/
def answers (t : Thread) (stage : Stage) : Bool :=
  t.phase = .running && t.frame = some (.shutdown stage)

end Thread

/-- An exception leaves the block in which a shutdown is answered; elsewhere the code decides. -/
def unwind : List Hold → List Hold
  | .shutdown .sending :: rest => .shutdown .unwinding :: rest
  | hold :: rest => if hold.isObject then hold :: unwind rest else hold :: rest
  | [] => []

/-- What became of a message taken from the queue. -/
inductive Fate where
  /-- `await_message` returned it. -/
  | returned
  /-- It was passed to its handler. -/
  | handled
  /-- "No handler registered". -/
  | dropped
  /-- It is a shutdown message. -/
  | shutdown
deriving DecidableEq, Repr

/-- A message taken from the queue. -/
structure Taken where
  /-- The message. -/
  message : MessageIn
  /-- The thread that took it. -/
  taker : Party
  /-- What became of it. -/
  fate : Fate
  /-- The headers with a handler at that moment. -/
  handlers : List UInt16
deriving DecidableEq, Repr

/-- The thread of `producer_loop`. -/
inductive Producer where
  /-- It has not been started. -/
  | idle
  /-- Before the check of the status. -/
  | checking
  /-- Reading a `MessageHeader`, with the bytes read so far. -/
  | readingHeader (read : List UInt8)
  /-- Reading a payload, with the bytes of the header and those read so far. -/
  | readingPayload (header read : List UInt8)
  /-- It has returned. -/
  | finished
deriving DecidableEq, Repr

/-- The way in: the stream up to the queue. -/
structure Inbox where
  /-- All bytes that have arrived. -/
  arrived : List UInt8 := []
  /-- Those not read yet. -/
  incoming : List UInt8 := []
  /-- The thread that reads them. -/
  producer : Producer := .idle
  /-- All messages that have been put into the queue. -/
  enqueued : List MessageIn := []
  /-- `queue`. -/
  queue : List MessageIn := []
deriving DecidableEq, Repr

/-- The way out. -/
structure Link where
  /-- Writing has failed; an error of the stream is final. -/
  broken : Bool := false
  /-- All bytes the stream has taken. -/
  written : List UInt8 := []
  /-- The messages whose bytes it has taken completely. -/
  flushed : List MessageIn := []
  /-- The bytes it has taken of a message it has not taken completely. -/
  unfinished : List UInt8 := []
deriving DecidableEq, Repr

/-- `TransportImpl` and its threads. -/
structure State where
  /-- `status`. -/
  status : Status := .created
  /-- The owner of `message_mutex`. -/
  owner : Option Party := none
  /-- `num_waiting`. -/
  numWaiting : Nat := 0
  /-- The threads, but for the producer. -/
  threads : Party → Thread := fun _ => {}
  /-- The keys of `handlers`. -/
  handlers : List UInt16 := []
  /-- The way in. -/
  inbox : Inbox := {}
  /-- The messages taken from the queue. -/
  taken : List Taken := []
  /-- The way out. -/
  link : Link := {}
  /-- An exception has left a destructor, which ends the process. -/
  escaped : Bool := false

namespace State

variable (s : State) (p : Party)

/-- A thread goes on to something else. -/
def setPhase (phase : Phase) : State :=
  { s with threads := Function.update s.threads p { s.threads p with phase } }

/-- A thread that may own the message mutex changes its locks. Without any it does not own it. -/
def setHeld (held : List Hold) : State :=
  { s with
    threads := Function.update s.threads p { s.threads p with held }
    owner := if held = [] then none else some p }

/-- What a call does once it has the message mutex. -/
def grant : Request → State
  | .startMessage header => s.setHeld p (.out (.opened header) :: (s.threads p).held)
  | .awaitMessage header => s.setHeld p (.await header :: (s.threads p).held)
  | .handleMessage header => s.setHeld p (.handle header false :: (s.threads p).held)
  | .acquireMessageLock => s.setHeld p (.lock :: (s.threads p).held)
  | .registerHandler header => { s with handlers := header :: s.handlers }
  | .unregisterHandler header => { s with handlers := s.handlers.filter (· ≠ header) }
  | .clearHandlers => { s with handlers := [] }

/-- The stream takes some bytes of a message. -/
def write (index : Nat) (rest : List UInt8) (implicit : Bool) (count : Nat) : State :=
  let link := { s.link with written := s.link.written ++ rest.take count }
  let s := s.setPhase p (.writing index (rest.drop count) implicit)
  match (s.threads p).outgoing index with
  | some m =>
    if count = rest.length then
      { s with link := { link with unfinished := [], flushed := link.flushed ++ [m.message] } }
    else { s with link := { link with unfinished := link.unfinished ++ rest.take count } }
  | none => s

/-- `dispatch_to_handler`, with the locks of the thread that calls it. -/
def dispatch (held : List Hold) (m : MessageIn) : State × Fate :=
  if m.header = Transport.shutdown then (s.setHeld p (.shutdown .popped :: held), .shutdown)
  else if m.header ∈ s.handlers then (s.setHeld p (.handler m :: held), .handled)
  else (s.setHeld p held, .dropped)

/-- What the loop that takes a message does with it. -/
def deliver (m : MessageIn) : List Hold → Option (State × Fate)
  | .await header :: rest =>
    if m.header = header then some (s.setHeld p (.received m :: rest), .returned)
    else some (s.dispatch p (.await header :: rest) m)
  | .handle header false :: rest =>
    some (s.dispatch p (.handle header (m.header = header) :: rest) m)
  | .consumer .checked :: rest => some (s.dispatch p (.consumer .dispatched :: rest) m)
  | _ => none

/-- `dispatch_to_handler` goes on with a shutdown message. Taking the lock for the answer has no
effect that another thread could see, since the thread has the lock already. -/
def proceed : List Hold → Option State
  | .shutdown .popped :: rest =>
    if s.status = .opened then some (s.setHeld p (.shutdown .answering :: rest))
    else some { s.setHeld p rest with status := .closed }
  | .shutdown .answering :: rest =>
    if s.status = .opened then
      some (s.setHeld p (.out (.opened Transport.shutdown) :: .shutdown .sending :: rest))
    else some (s.setHeld p rest)
  | .shutdown .sending :: rest => some { s.setHeld p rest with status := .closed }
  | _ => none

end State

/-- The bytes the producer goes on to read: the first ones, if it may read as many. -/
def Inbox.receive (inbox : Inbox) (count : Nat) : Option Inbox :=
  if 0 < count ∧ count ≤ inbox.incoming.length then
    let incoming := inbox.incoming.drop count
    match inbox.producer with
    | .readingHeader read =>
      let read := read ++ inbox.incoming.take count
      if read.length < headerSize then
        some { inbox with incoming, producer := .readingHeader read }
      else if read.length = headerSize then
        some { inbox with incoming, producer := .readingPayload read [] }
      else none
    | .readingPayload header read =>
      let read := read ++ inbox.incoming.take count
      if read.length ≤ sizeOf header then
        some { inbox with incoming, producer := .readingPayload header read }
      else none
    | _ => none
  else none

/-- The producer puts a message it has read into the queue, and reads on unless it is a shutdown. -/
def Inbox.enqueue (inbox : Inbox) : Option Inbox :=
  match inbox.producer with
  | .readingPayload header read =>
    if read.length = sizeOf header then
      let m : MessageIn := ⟨kindOf header, read⟩
      some { inbox with
        queue := inbox.queue ++ [m]
        enqueued := inbox.enqueued ++ [m]
        producer := if m.header = shutdown then .finished else .checking }
    else none
  | _ => none

/-- A step of one thread, or of the other end of the stream. -/
inductive Action where
  /-- `start`. -/
  | start
  /-- A call passes its checks. -/
  | call (p : Party) (request : Request)
  /-- `lock_message_mutex` counts the caller in `num_waiting`. -/
  | announce (p : Party)
  /-- It gets the message mutex, and the call goes on. -/
  | acquire (p : Party)
  /-- `write_some` of a `SendBuffer`. -/
  | append (p : Party) (index : Nat) (bytes : List UInt8)
  /-- `flush`, up to the call of `asio::write`. -/
  | flush (p : Party) (index : Nat)
  /-- The destructor of an outgoing message, up to the call of `asio::write`. `~MessageLockOut`
  flushes through the C API before it deletes the object, which then finds an empty buffer. -/
  | destroy (p : Party) (index : Nat)
  /-- The stream takes some bytes. -/
  | write (p : Party) (count : Nat)
  /-- `asio::write` returns. -/
  | wrote (p : Party)
  /-- `asio::write` throws. -/
  | writeFailed (p : Party)
  /-- The destructor of an incoming message or of a plain lock. -/
  | release (p : Party) (index : Nat)
  /-- A loop takes a message from the queue. -/
  | take (p : Party)
  /-- `await_any_message` throws because the transport is closed. -/
  | interrupt (p : Party)
  /-- A handler, `handle_message`, an iteration of `consumer_loop` or a failed answer to a shutdown
  returns. -/
  | finish (p : Party)
  /-- `dispatch_to_handler` goes on with a shutdown message. -/
  | proceed (p : Party)
  /-- `shutdown` sets the status after it has flushed its message. -/
  | writeClose (p : Party) (index : Nat)
  /-- `close`. -/
  | close
  /-- `consumer_loop` takes the message lock. -/
  | lock
  /-- It looks whether a user thread is waiting, and gives way to it. -/
  | check
  /-- It finds nothing to do. -/
  | rest
  /-- Bytes arrive. -/
  | arrive (bytes : List UInt8)
  /-- `producer_loop` looks at the status. -/
  | poll
  /-- `asio::read` reads some bytes. -/
  | receive (count : Nat)
  /-- A message goes into the queue. -/
  | enqueue
  /-- `asio::read` throws, which closes the transport. -/
  | receiveFailed
deriving DecidableEq, Repr

/-- The state after a step, if it is possible. -/
def perform (s : State) : Action → Option State
  | .start =>
    if s.status = .created then
      some { s with status := .opened, inbox := { s.inbox with producer := .checking } }
    else none
  | .call p request =>
    if (s.threads p).runsCode p && request.passes s.status then
      some (s.setPhase p (.called request))
    else none
  | .announce p =>
    match (s.threads p).phase with
    | .called request =>
      some { s.setPhase p (.waiting request) with numWaiting := s.numWaiting + 1 }
    | _ => none
  | .acquire p =>
    match (s.threads p).phase with
    | .waiting request =>
      if s.owner.all (· = p) then
        some (State.grant { s.setPhase p .running with numWaiting := s.numWaiting - 1 } p request)
      else none
    | _ => none
  | .append p index bytes =>
    match (s.threads p).outgoing index with
    | some m =>
      if (s.threads p).runsCode p then
        some (s.setHeld p
          ((s.threads p).held.set index (.out { m with buffer := m.buffer ++ bytes })))
      else none
    | none => none
  | .flush p index =>
    match (s.threads p).outgoing index with
    | some m =>
      if (s.threads p).runsCode p || (s.threads p).answers .sending then
        if m.buffer = [] then some s
        else if s.status = .opened then some (s.setPhase p (.writing index m.framed false))
        else some (s.setHeld p (unwind (s.threads p).held))
      else none
    | none => none
  | .destroy p index =>
    match (s.threads p).outgoing index with
    | some m =>
      if (s.threads p).runsCode p || (s.threads p).answers .unwinding ||
          ((s.threads p).answers .sending && m.buffer = []) then
        if m.buffer = [] then some (s.setHeld p ((s.threads p).held.eraseIdx index))
        else if s.status = .opened then some (s.setPhase p (.writing index m.framed true))
        else some { s with escaped := true }
      else none
    | none => none
  | .write p count =>
    match (s.threads p).phase with
    | .writing index rest implicit =>
      if 0 < count ∧ count ≤ rest.length ∧ s.link.broken = false then
        some (s.write p index rest implicit count)
      else none
    | _ => none
  | .wrote p =>
    match (s.threads p).phase with
    | .writing index [] true =>
      some ((s.setPhase p .running).setHeld p ((s.threads p).held.eraseIdx index))
    | .writing index [] false =>
      match (s.threads p).outgoing index with
      | some m =>
        some ((s.setPhase p .running).setHeld p
          ((s.threads p).held.set index (.out { m with buffer := [] })))
      | none => none
    | _ => none
  | .writeFailed p =>
    match (s.threads p).phase with
    | .writing _ (_ :: _) true =>
      some { s.setPhase p .running with
        link := { s.link with broken := true }
        escaped := true }
    | .writing _ (_ :: _) false =>
      some { (s.setPhase p .running).setHeld p (unwind (s.threads p).held) with
        link := { s.link with broken := true } }
    | _ => none
  | .release p index =>
    match (s.threads p).locals[index]? with
    | some (.received _) | some .lock =>
      if (s.threads p).runsCode p then
        some (s.setHeld p ((s.threads p).held.eraseIdx index))
      else none
    | _ => none
  | .take p =>
    match s.inbox.queue with
    | m :: queue =>
      if (s.threads p).phase = .running ∧ s.status ≠ .closed then
        (s.deliver p m (s.threads p).held).map fun result =>
          { result.1 with
            inbox := { s.inbox with queue }
            taken := s.taken ++ [⟨m, p, result.2, s.handlers⟩] }
      else none
    | [] => none
  | .interrupt p =>
    if (s.threads p).phase = .running ∧ s.status = .closed then
      match (s.threads p).held with
      | .await _ :: rest | .handle _ false :: rest => some (s.setHeld p rest)
      | _ => none
    else none
  | .finish p =>
    if (s.threads p).phase = .running then
      match (s.threads p).held with
      | .handler _ :: rest | .handle _ true :: rest | .shutdown .unwinding :: rest
      | .consumer .dispatched :: rest => some (s.setHeld p rest)
      | _ => none
    else none
  | .proceed p =>
    if (s.threads p).phase = .running then s.proceed p (s.threads p).held else none
  | .writeClose p index =>
    match (s.threads p).outgoing index with
    | some m =>
      if (s.threads p).runsCode p ∧ m.header = shutdown ∧ m.buffer = [] then
        some { s with status := .writeClosed }
      else none
    | none => none
  | .close => some { s with status := .closed }
  | .lock =>
    if s.status ≠ .created ∧ s.owner = none ∧ (s.threads .consumer).phase = .running then
      some (s.setHeld .consumer [.consumer .locked])
    else none
  | .check =>
    match s.threads .consumer with
    | ⟨.running, [.consumer .locked]⟩ =>
      if 0 < s.numWaiting then some (s.setHeld .consumer [])
      else some (s.setHeld .consumer [.consumer .checked])
    | _ => none
  | .rest =>
    match s.threads .consumer with
    | ⟨.running, [.consumer .checked]⟩ =>
      if s.inbox.queue = [] ∨ s.status = .closed then some (s.setHeld .consumer []) else none
    | _ => none
  | .arrive bytes =>
    some { s with
      inbox := { s.inbox with
        arrived := s.inbox.arrived ++ bytes
        incoming := s.inbox.incoming ++ bytes } }
  | .poll =>
    if s.inbox.producer = .checking then
      some { s with
        inbox := { s.inbox with
          producer := if s.status = .closed then .finished else .readingHeader [] } }
    else none
  | .receive count => (s.inbox.receive count).map fun inbox => { s with inbox }
  | .enqueue => s.inbox.enqueue.map fun inbox => { s with inbox }
  | .receiveFailed =>
    match s.inbox.producer with
    | .readingHeader _ | .readingPayload _ _ =>
      some { s with status := .closed, inbox := { s.inbox with producer := .finished } }
    | _ => none

/-- `TransportImpl`. After an exception has left a destructor there are no more steps. -/
def transport : System State Action where
  init := {}
  step s action := if s.escaped then none else perform s action

end XrTransport.Transport
