import Mathlib.Logic.Function.Basic
import XrTransport.Foundation.Transition
import XrTransport.Transport.Machine

/-!
# The status of a transport

`TransportImpl` seen from its status: every read and every write of the status is a step of its own,
in `start`, `shutdown`, `close`, `start_message`, flushing, `dispatch_to_handler` and the two worker
threads, and so is every way in which one of them throws. Messages travel as a whole here. Running
code, of the application or of a handler, may make any call at any time.
-/
namespace XrTransport.Transport.Lifecycle

/-- What a message is sent for. -/
inductive Purpose where
  /-- `shutdown` announces the end. -/
  | call
  /-- `dispatch_to_handler` answers a shutdown that an awaiting call has taken from the queue, or
  else `consumer_loop`. -/
  | answer (nested : Bool)
  /-- Running code sends a message of its own. -/
  | own
deriving DecidableEq, Repr

/-- Where a thread is. -/
inductive Phase where
  /-- In running code; for the consumer, in a handler. -/
  | code
  /-- `start` has found the status `CREATED`. -/
  | starting
  /-- `start` has written the status. -/
  | spawning
  /-- At the beginning of `start_message`. -/
  | entering (purpose : Purpose)
  /-- `start_message` has not found the status `CREATED`. -/
  | known (purpose : Purpose)
  /-- `start_message` has found the status `OPEN` and takes the message lock. -/
  | allowed (purpose : Purpose)
  /-- The shutdown message is there. -/
  | started (purpose : Purpose)
  /-- `flush_to_stream`, called by `flush`, has found the status `OPEN`. -/
  | writing (purpose : Purpose) (m : MessageIn)
  /-- The same, called by the destructor. -/
  | rewriting (purpose : Purpose) (m : MessageIn)
  /-- Flushing the shutdown message has thrown. -/
  | unwinding (purpose : Purpose)
  /-- The shutdown message is flushed. -/
  | flushed (purpose : Purpose)
  /-- `shutdown` has written the status. -/
  | leaving
  /-- `dispatch_to_handler` with a shutdown message. -/
  | dispatching (nested : Bool)
  /-- `stop_threads`, called by `dispatch_to_handler`. -/
  | stopping (nested : Bool)
  /-- The thread of `consumer_loop` has not begun. -/
  | idle
  /-- `consumer_loop` before its test of the status. -/
  | testing
  /-- `consumer_loop` takes the message lock. -/
  | locking
  /-- `consumer_loop` looks whether another thread waits for the message lock. -/
  | counting
  /-- `consumer_loop` looks into the queue. -/
  | taking
  /-- `consumer_loop` has returned. -/
  | returned
deriving DecidableEq, Repr

/-- A thread that can own the message mutex. -/
structure Thread where
  /-- Where it is. -/
  phase : Phase
  /-- How many locks it has on the message mutex. -/
  held : Nat := 0
  /-- How many of them belong to messages of running code that have not been flushed. -/
  unsent : Nat := 0
  /-- The status has been set to `WRITE_CLOSED` or `CLOSED` since the thread last compared it with
  the status it needs, which for `start` is `CREATED` and elsewhere `OPEN`. -/
  overtaken : Bool := false
deriving DecidableEq, Repr

/-- Where the thread of `producer_loop` is. -/
inductive Producer where
  /-- It has not been started. -/
  | idle
  /-- Before the test of the status. -/
  | testing
  /-- Reading a message. -/
  | reading
  /-- Reading has thrown. -/
  | failing
  /-- It has stopped the threads and closes the stream. -/
  | closing
  /-- It has returned, after an error or not. -/
  | returned (failed : Bool)
deriving DecidableEq, Repr

/-- How the process ends before its time. -/
inductive Ending where
  /-- An exception leaves a worker's thread function, or a destructor that a worker runs. -/
  | worker
  /-- An exception leaves a destructor that another thread runs, or a running thread is replaced. -/
  | application
deriving DecidableEq, Repr

/-- `TransportImpl` and its threads. -/
structure State where
  /-- `status`. -/
  status : Status := .created
  /-- The owner of `message_mutex`. -/
  owner : Option Party := none
  /-- The threads, but for the producer. -/
  threads : Party → Thread :=
    fun p => { phase := match p with | .consumer => .idle | .user _ => .code }
  /-- The thread of `producer_loop`. -/
  producer : Producer := .idle
  /-- `queue`. -/
  queue : List MessageIn := []
  /-- The messages taken from the queue. -/
  taken : List MessageIn := []
  /-- The messages flushed to the stream. -/
  flushed : List MessageIn := []
  /-- The process has ended. -/
  ended : Option Ending := none

/-- The order `CREATED`, `OPEN`, `WRITE_CLOSED`, `CLOSED`. -/
def rank : Status → Nat
  | .created => 0
  | .opened => 1
  | .writeClosed => 2
  | .closed => 3

/-- The message of `shutdown` and of its answer. -/
def shutdownMessage : MessageIn := ⟨shutdown, []⟩

namespace State

variable (s : State) (p : Party)

/-- A thread changes. With locks it is the owner of the message mutex, without it is not. -/
def put (t : Thread) : State :=
  { s with
    threads := Function.update s.threads p t
    owner := if 0 < t.held then some p else if s.owner = some p then none else s.owner }

/-- The status is written in a way that other threads may miss. -/
def overtake (status : Status) : State :=
  { s with status, threads := fun q => { s.threads q with overtaken := true } }

/-- The process ends. -/
def abort : State :=
  { s with ended := some (if p = .consumer then .worker else .application) }

/-- An exception leaves the code that sends a message. Running code and the `try` around handlers
catch it, `consumer_loop` does not. -/
def throw (t : Thread) (purpose : Purpose) : State :=
  if purpose = .answer false then s.abort p else s.put p { t with phase := .code }

/-- An exception leaves the destructor of a message. When refusing to flush counts as returning an
error, the message is destroyed all the same. -/
def refuse (fatal : Bool) (t : Thread) (purpose : Purpose) : State :=
  if fatal then s.abort p else s.throw p { t with held := t.held - 1 } purpose

/-- The message mutex is free, or the thread has it. -/
def available : Prop := s.owner = none ∨ s.owner = some p

/-- Whether the mutex is available is decided by its owner. -/
instance decidableAvailable : Decidable (s.available p) :=
  inferInstanceAs (Decidable (_ ∨ _))

end State

/-- A step. -/
inductive Label where
  /-- `start` finds the status `CREATED`. -/
  | startCheck (p : Party)
  /-- `start` writes the status. -/
  | startWrite (p : Party)
  /-- `start` creates the threads. -/
  | spawn (p : Party)
  /-- `shutdown` finds the status `OPEN`. -/
  | shutdownCheck (p : Party)
  /-- Running code calls `start_message`. -/
  | startMessage (p : Party)
  /-- The first test of `start_message`. -/
  | checkCreated (p : Party) (purpose : Purpose)
  /-- The second test of `start_message`. -/
  | checkOpen (p : Party) (purpose : Purpose)
  /-- `start_message` takes the message lock and returns. -/
  | enter (p : Party) (purpose : Purpose)
  /-- The shutdown message is flushed, up to `asio::write`. -/
  | flush (p : Party) (purpose : Purpose)
  /-- Running code flushes a message, up to `asio::write`. -/
  | flushOwn (p : Party) (m : MessageIn)
  /-- The destructor of the shutdown message, up to `asio::write`. -/
  | destroy (p : Party) (purpose : Purpose)
  /-- The destructor of a message of running code, up to `asio::write`. -/
  | destroyOwn (p : Party) (m : MessageIn)
  /-- `flush` returns. -/
  | wrote (p : Party) (purpose : Purpose) (m : MessageIn)
  /-- `asio::write` throws in `flush`. -/
  | writeFails (p : Party) (purpose : Purpose) (m : MessageIn)
  /-- The destructor returns. -/
  | rewrote (p : Party) (purpose : Purpose) (m : MessageIn)
  /-- `asio::write` throws in the destructor. -/
  | rewriteFails (p : Party) (purpose : Purpose) (m : MessageIn)
  /-- `shutdown` writes the status. -/
  | writeClose (p : Party)
  /-- `shutdown` returns. -/
  | leave (p : Party)
  /-- The answer to a shutdown is destroyed. -/
  | answered (p : Party) (nested : Bool)
  /-- Running code, or an awaiting call, takes the message lock. -/
  | acquire (p : Party)
  /-- It gives up a lock. -/
  | release (p : Party)
  /-- An awaiting call takes a message from the queue. -/
  | await (p : Party) (m : MessageIn)
  /-- `dispatch_to_handler` looks at the status. -/
  | dispatch (p : Party) (nested : Bool)
  /-- `dispatch_to_handler` stops the threads. -/
  | stop (p : Party) (nested : Bool)
  /-- `close`, up to closing the stream. -/
  | close (p : Party)
  /-- `consumer_loop` begins. -/
  | begin
  /-- Its test of the status. -/
  | test
  /-- It takes the message lock. -/
  | lock
  /-- It looks for waiting threads, and gives way to them. -/
  | count (yields : Bool)
  /-- It finds the status `CLOSED` and returns. -/
  | break
  /-- It finds nothing to do. -/
  | rest
  /-- It takes a message from the queue, and runs the handler if there is one. -/
  | take (m : MessageIn) (handled : Bool)
  /-- A handler has returned to `consumer_loop`, or thrown. -/
  | finish
  /-- The test of `producer_loop`. -/
  | poll
  /-- `producer_loop` puts a message into the queue. -/
  | read (m : MessageIn)
  /-- Reading throws. -/
  | readFails
  /-- `producer_loop` stops the threads. -/
  | stopReading
  /-- It closes the stream, which may throw. -/
  | closeStream (fails : Bool)
deriving DecidableEq, Repr

/-- When a step is possible. -/
def enabled (s : State) : Label → Prop
  | .startCheck p => (s.threads p).phase = .code ∧ s.status = .created
  | .startWrite p => (s.threads p).phase = .starting
  | .spawn p => (s.threads p).phase = .spawning
  | .shutdownCheck p => (s.threads p).phase = .code ∧ s.status = .opened
  | .startMessage p => (s.threads p).phase = .code
  | .checkCreated p purpose => (s.threads p).phase = .entering purpose
  | .checkOpen p purpose => (s.threads p).phase = .known purpose
  | .enter p purpose => (s.threads p).phase = .allowed purpose ∧ s.available p
  | .flush p purpose => (s.threads p).phase = .started purpose
  | .flushOwn p _ => (s.threads p).phase = .code ∧ 0 < (s.threads p).unsent
  | .destroy p purpose => (s.threads p).phase = .unwinding purpose
  | .destroyOwn p _ => (s.threads p).phase = .code ∧ 0 < (s.threads p).unsent
  | .wrote p purpose m => (s.threads p).phase = .writing purpose m
  | .writeFails p purpose m => (s.threads p).phase = .writing purpose m
  | .rewrote p purpose m => (s.threads p).phase = .rewriting purpose m
  | .rewriteFails p purpose m => (s.threads p).phase = .rewriting purpose m
  | .writeClose p => (s.threads p).phase = .flushed .call
  | .leave p => (s.threads p).phase = .leaving
  | .answered p nested => (s.threads p).phase = .flushed (.answer nested)
  | .acquire p => (s.threads p).phase = .code ∧ s.available p
  | .release p =>
    (s.threads p).phase = .code ∧
      (s.threads p).unsent + (if p = .consumer then 1 else 0) < (s.threads p).held
  | .await p m =>
    (s.threads p).phase = .code ∧ 0 < (s.threads p).held ∧ s.status ≠ .closed ∧
      s.queue.head? = some m
  | .dispatch p nested => (s.threads p).phase = .dispatching nested
  | .stop p nested => (s.threads p).phase = .stopping nested
  | .close p => (s.threads p).phase = .code
  | .begin => (s.threads .consumer).phase = .idle ∧ s.producer ≠ .idle
  | .test => (s.threads .consumer).phase = .testing
  | .lock => (s.threads .consumer).phase = .locking ∧ s.owner = none
  | .count _ => (s.threads .consumer).phase = .counting
  | .break => (s.threads .consumer).phase = .taking ∧ s.status = .closed
  | .rest => (s.threads .consumer).phase = .taking ∧ s.status ≠ .closed ∧ s.queue = []
  | .take m _ =>
    (s.threads .consumer).phase = .taking ∧ s.status ≠ .closed ∧ s.queue.head? = some m
  | .finish =>
    (s.threads .consumer).phase = .code ∧ (s.threads .consumer).held = 1 ∧
      (s.threads .consumer).unsent = 0
  | .poll => s.producer = .testing
  | .read _ => s.producer = .reading
  | .readFails => s.producer = .reading
  | .stopReading => s.producer = .failing
  | .closeStream _ => s.producer = .closing

/-- Whether a step is possible is decided from the state. -/
instance decidableEnabled (s : State) : ∀ label, Decidable (enabled s label)
  | .startWrite _ | .spawn _ | .startMessage _ | .checkCreated _ _ | .checkOpen _ _ | .flush _ _
  | .destroy _ _ | .wrote _ _ _ | .writeFails _ _ _ | .rewrote _ _ _ | .rewriteFails _ _ _
  | .writeClose _ | .leave _ | .answered _ _ | .dispatch _ _ | .stop _ _ | .close _ | .test
  | .count _ | .poll | .read _ | .readFails | .stopReading | .closeStream _ =>
    inferInstanceAs (Decidable (_ = _))
  | .startCheck _ | .shutdownCheck _ | .enter _ _ | .flushOwn _ _ | .destroyOwn _ _ | .acquire _
  | .release _ | .begin | .lock | .break =>
    inferInstanceAs (Decidable (_ ∧ _))
  | .rest | .take _ _ | .finish => inferInstanceAs (Decidable (_ ∧ _ ∧ _))
  | .await _ _ => inferInstanceAs (Decidable (_ ∧ _ ∧ _ ∧ _))

/-- The state after a step. -/
def effect (fatal : Bool) (s : State) : Label → State
  | .startCheck p => s.put p { s.threads p with phase := .starting, overtaken := false }
  | .startWrite p => { s.put p { s.threads p with phase := .spawning } with status := .opened }
  | .spawn p =>
    if s.producer = .idle then
      { s.put p { s.threads p with phase := .code } with producer := .testing }
    else s.abort p
  | .shutdownCheck p =>
    s.put p { s.threads p with phase := .entering .call, overtaken := false }
  | .startMessage p => s.put p { s.threads p with phase := .entering .own }
  | .checkCreated p purpose =>
    if s.status = .created then s.throw p (s.threads p) purpose
    else s.put p { s.threads p with phase := .known purpose }
  | .checkOpen p purpose =>
    let t := { s.threads p with overtaken := false }
    if s.status = .opened then s.put p { t with phase := .allowed purpose }
    else s.throw p t purpose
  | .enter p purpose =>
    let t := { s.threads p with held := (s.threads p).held + 1 }
    if purpose = .own then s.put p { t with phase := .code, unsent := t.unsent + 1 }
    else s.put p { t with phase := .started purpose }
  | .flush p purpose =>
    let t := { s.threads p with overtaken := false }
    if s.status = .opened then s.put p { t with phase := .writing purpose shutdownMessage }
    else s.put p { t with phase := .unwinding purpose }
  | .flushOwn p m =>
    let t := { s.threads p with overtaken := false }
    if s.status = .opened then s.put p { t with phase := .writing .own m } else s.put p t
  | .destroy p purpose =>
    let t := { s.threads p with overtaken := false }
    if s.status = .opened then s.put p { t with phase := .rewriting purpose shutdownMessage }
    else s.refuse p fatal t purpose
  | .destroyOwn p m =>
    let t := { s.threads p with overtaken := false }
    if s.status = .opened then s.put p { t with phase := .rewriting .own m }
    else s.refuse p fatal { t with unsent := t.unsent - 1 } .own
  | .wrote p purpose m =>
    let t := s.threads p
    let s := { s with flushed := s.flushed ++ [m] }
    if purpose = .own then s.put p { t with phase := .code, unsent := t.unsent - 1 }
    else s.put p { t with phase := .flushed purpose }
  | .writeFails p purpose _ =>
    if purpose = .own then s.put p { s.threads p with phase := .code }
    else s.put p { s.threads p with phase := .unwinding purpose }
  | .rewrote p purpose m =>
    let t := { s.threads p with held := (s.threads p).held - 1 }
    let s := { s with flushed := s.flushed ++ [m] }
    if purpose = .own then s.put p { t with phase := .code, unsent := t.unsent - 1 }
    else s.throw p t purpose
  | .rewriteFails p _ _ => s.abort p
  | .writeClose p =>
    (s.put p { s.threads p with phase := .leaving }).overtake .writeClosed
  | .leave p => s.put p { s.threads p with phase := .code, held := (s.threads p).held - 1 }
  | .answered p nested =>
    s.put p { s.threads p with phase := .stopping nested, held := (s.threads p).held - 1 }
  | .acquire p => s.put p { s.threads p with held := (s.threads p).held + 1 }
  | .release p => s.put p { s.threads p with held := (s.threads p).held - 1 }
  | .await p m =>
    let s := { s with queue := s.queue.tail, taken := s.taken ++ [m] }
    if m.header = shutdown then s.put p { s.threads p with phase := .dispatching true } else s
  | .dispatch p nested =>
    let t := { s.threads p with overtaken := false }
    if s.status = .opened then s.put p { t with phase := .entering (.answer nested) }
    else s.put p { t with phase := .stopping nested }
  | .stop p nested =>
    let t := s.threads p
    let t := if nested then { t with phase := .code }
      else { t with phase := .testing, held := t.held - 1 }
    (s.put p t).overtake .closed
  | .close _ => s.overtake .closed
  | .begin => s.put .consumer { s.threads .consumer with phase := .testing }
  | .test =>
    s.put .consumer { s.threads .consumer with
      phase := if s.status = .closed then .returned else .locking }
  | .lock => s.put .consumer { s.threads .consumer with phase := .counting, held := 1 }
  | .count yields =>
    if yields then s.put .consumer { s.threads .consumer with phase := .testing, held := 0 }
    else s.put .consumer { s.threads .consumer with phase := .taking }
  | .break => s.put .consumer { s.threads .consumer with phase := .returned, held := 0 }
  | .rest => s.put .consumer { s.threads .consumer with phase := .testing, held := 0 }
  | .take m handled =>
    let s := { s with queue := s.queue.tail, taken := s.taken ++ [m] }
    if m.header = shutdown then
      s.put .consumer { s.threads .consumer with phase := .dispatching false }
    else if handled then s.put .consumer { s.threads .consumer with phase := .code }
    else s.put .consumer { s.threads .consumer with phase := .testing, held := 0 }
  | .finish => s.put .consumer { s.threads .consumer with phase := .testing, held := 0 }
  | .poll =>
    { s with producer := if s.status = .closed then .returned false else .reading }
  | .read m =>
    { s with
      queue := s.queue ++ [m]
      producer := if m.header = shutdown then .returned false else .testing }
  | .readFails => { s with producer := .failing }
  | .stopReading => { s.overtake .closed with producer := .closing }
  | .closeStream fails =>
    if fails then { s with ended := some .worker } else { s with producer := .returned true }

/-- `TransportImpl` with its threads. Refusing to flush is `fatal` in a destructor, which must not
throw, unless it is taken to return an error. -/
def lifecycle (fatal : Bool) : System State Label where
  init := {}
  step s label := if s.ended = none ∧ enabled s label then some (effect fatal s label) else none

/-- A step was possible and has its effect. -/
theorem of_step {fatal : Bool} {s s' : State} {label : Label}
    (taken : (lifecycle fatal).step s label = some s') :
    s.ended = none ∧ enabled s label ∧ s' = effect fatal s label := by
  simp only [lifecycle, Option.ite_none_right_eq_some, Option.some.injEq] at taken
  obtain ⟨⟨alive, possible⟩, rfl⟩ := taken
  exact ⟨alive, possible, rfl⟩

end XrTransport.Transport.Lifecycle
