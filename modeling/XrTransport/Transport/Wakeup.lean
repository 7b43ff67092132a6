import Mathlib.Algebra.BigOperators.Group.Finset.Basic
import Mathlib.Data.Fintype.BigOperators
import Mathlib.Tactic.DeriveFintype
import XrTransport.Foundation.Transition
import XrTransport.Transport.Machine

/-!
# Waiting and waking up

The three mutexes and two condition variables of `TransportImpl`, with any number of user threads.
A step is one section under a mutex, one entry into a wait, one notification, or the acquisition or
release of the message mutex. What user code and handlers do in between is not fixed: they may lock
the message mutex, await a message while they own it, and stop the threads, in any order.
-/
namespace XrTransport.Transport.Wakeup

/-- The threads of a transport. -/
inductive Thread (n : Nat) where
  /-- `producer_thread`. -/
  | producer
  /-- `consumer_thread`. -/
  | consumer
  /-- A thread of the application. -/
  | user (index : Fin n)
deriving DecidableEq, Fintype

/-- A message in the queue. -/
inductive Message where
  /-- `XRTP_MSG_SHUTDOWN`. -/
  | shutdown
  /-- Any other message. -/
  | other
deriving DecidableEq, Repr

/-- Where a thread is. -/
inductive Phase where
  /-- The thread has not been spawned. -/
  | notStarted
  /-- The thread function has returned. -/
  | done
  /-- User code, or `dispatch_to_handler` on the consumer. -/
  | code
  /-- `lock_message_mutex` between the increment and the lock. -/
  | waiting
  /-- `lock_message_mutex` between the lock and the decrement. -/
  | locked
  /-- `lock_message_mutex` before `num_waiting_cv.notify_one`. -/
  | notifyOne
  /-- `await_any_message` before it has the queue mutex. -/
  | awaitCheck
  /-- `await_any_message` with the queue mutex, before it waits. -/
  | awaitWait
  /-- `await_any_message` asleep on `queue_cv`. -/
  | awaitAsleep
  /-- `stop_threads` before `queue_cv.notify_all`. -/
  | notifyAll
  /-- `producer_loop` at the test of its loop. -/
  | producerTest
  /-- `producer_loop` reading from the stream. -/
  | producerRead
  /-- `producer_loop` with a message, before it has the queue mutex. -/
  | producerEnqueue (message : Message)
  /-- `producer_loop` before `queue_cv.notify_all`. -/
  | producerNotify (message : Message)
  /-- `producer_loop` in a handler of an exception, before `close`. -/
  | producerClose
  /-- `consumer_loop` at the test of its loop. -/
  | consumerTest
  /-- `consumer_loop` before it has the message mutex. -/
  | consumerLock
  /-- `consumer_loop` with the message mutex, before it looks at `num_waiting`. -/
  | countCheck
  /-- `consumer_loop` with `num_waiting_mutex`, before it waits. -/
  | countWait
  /-- `consumer_loop` asleep on `num_waiting_cv`. -/
  | countAsleep
  /-- `consumer_loop` returning from that wait. -/
  | countAwake
  /-- `consumer_loop` with the message mutex, before it looks at the queue. -/
  | queueCheck
  /-- `consumer_loop` with the queue mutex, before it waits. -/
  | queueWait
  /-- `consumer_loop` asleep on `queue_cv`. -/
  | queueAsleep
  /-- `consumer_loop` returning from that wait. -/
  | queueAwake
deriving DecidableEq, Repr

namespace Phase

/-- Between the increment and the decrement of `lock_message_mutex`. -/
def between (phase : Phase) : Bool := phase == .waiting || phase == .locked

/-- Asleep on `queue_cv`. -/
def asleep (phase : Phase) : Bool := phase == .awaitAsleep || phase == .queueAsleep

/-- About to fall asleep on `queue_cv`, with the queue mutex. -/
def settling (phase : Phase) : Bool := phase == .awaitWait || phase == .queueWait

/-- A notification of `queue_cv` is still to be issued. -/
def notifying (phase : Phase) : Bool :=
  phase == .notifyAll || phase == .producerNotify .shutdown || phase == .producerNotify .other

/-- The consumer has a message and is in `dispatch_to_handler`. -/
def dispatching (phase : Phase) : Bool :=
  phase == .code || phase == .waiting || phase == .locked || phase == .notifyOne ||
    phase == .awaitCheck || phase == .awaitWait || phase == .awaitAsleep || phase == .notifyAll

/-- What waking up on `queue_cv` does. -/
def awoken (phase : Phase) : Phase :=
  if phase = .awaitAsleep then .awaitCheck
  else if phase = .queueAsleep then .queueAwake
  else phase

end Phase

/-- A transport with `n` user threads. -/
structure State (n : Nat) where
  /-- `status`. -/
  status : Status := .created
  /-- The thread that owns `message_mutex`. -/
  owner : Option (Thread n) := none
  /-- How often it has locked it. -/
  depth : Nat := 0
  /-- `num_waiting`, which never exceeds the number of threads. -/
  numWaiting : Nat := 0
  /-- The thread that keeps `num_waiting_mutex` from one step to the next. -/
  numWaitingOwner : Option (Thread n) := none
  /-- The thread that keeps `queue_mutex` from one step to the next. -/
  queueOwner : Option (Thread n) := none
  /-- `queue`. -/
  queue : List Message := []
  /-- Where the threads are. -/
  phases : Thread n → Phase
  /-- What the consumer has read from `num_waiting` since it has the message mutex. -/
  seen : Option Nat := none

/-- A step. -/
inductive Label (n : Nat) where
  /-- `start` or `shutdown` writes the status. -/
  | setStatus (status : Status)
  /-- `start` spawns a thread. -/
  | spawn (thread : Thread n)
  /-- `lock_message_mutex` increments. -/
  | increment (thread : Thread n)
  /-- `lock_message_mutex` gets the message mutex. -/
  | acquire (thread : Thread n)
  /-- `lock_message_mutex` decrements. -/
  | decrement (thread : Thread n)
  /-- `lock_message_mutex` notifies. -/
  | notifyOne (thread : Thread n)
  /-- A lock on the message mutex is destroyed. -/
  | release (thread : Thread n)
  /-- `await_any_message` is called. -/
  | await (thread : Thread n)
  /-- `await_any_message` looks at the queue. -/
  | awaitCheck (thread : Thread n)
  /-- `await_any_message` waits. -/
  | awaitWait (thread : Thread n)
  /-- `stop_threads` writes the status. -/
  | stop (thread : Thread n)
  /-- `stop_threads` notifies. -/
  | notifyAll (thread : Thread n)
  /-- `producer_loop` tests the status. -/
  | producerTest
  /-- `producer_loop` reads a message. -/
  | producerRead (message : Message)
  /-- `producer_loop` catches an exception. -/
  | producerFail
  /-- `producer_loop` appends the message to the queue. -/
  | enqueue (message : Message)
  /-- `producer_loop` notifies. -/
  | producerNotify (message : Message)
  /-- `consumer_loop` tests the status. -/
  | consumerTest
  /-- `consumer_loop` gets the message mutex. -/
  | consumerLock
  /-- `consumer_loop` looks at `num_waiting`. -/
  | countCheck
  /-- `consumer_loop` waits on `num_waiting_cv`. -/
  | countWait
  /-- `consumer_loop` goes on after that wait. -/
  | countReturn
  /-- `consumer_loop` looks at the queue. -/
  | queueCheck
  /-- `consumer_loop` waits on `queue_cv`. -/
  | queueWait
  /-- `consumer_loop` goes on after that wait. -/
  | queueReturn
  /-- `dispatch_to_handler` returns to `consumer_loop`. -/
  | dispatched
  /-- A wait ends without a notification. -/
  | spurious (thread : Thread n)
deriving DecidableEq

namespace State

variable {n : Nat}

/-- A thread moves on. -/
def put (s : State n) (thread : Thread n) (phase : Phase) : State n :=
  { s with phases := fun other => if other = thread then phase else s.phases other }

/-- `queue_cv.notify_all`. -/
def wakeAll (s : State n) : State n :=
  { s with phases := fun thread => (s.phases thread).awoken }

/-- `num_waiting_cv.notify_one`, or a spurious wake-up: only the consumer waits there. -/
def wakeCount (s : State n) : State n :=
  { s with phases := fun thread =>
    if thread = .consumer ∧ s.phases .consumer = .countAsleep then .countAwake
    else s.phases thread }

/-- The message mutex is released by its owner. -/
def unlock (s : State n) : State n := { s with owner := none, depth := 0, seen := none }

/-- The number of threads between their increment and their decrement. -/
def between (s : State n) : Nat := ∑ thread, if (s.phases thread).between then 1 else 0

/-- How often `consumer_loop` itself has locked the message mutex during a dispatch. -/
def base (thread : Thread n) : Nat := if thread = .consumer then 1 else 0

end State

variable {n : Nat}

/-- When a step is possible. -/
def enabled (s : State n) : Label n → Prop
  | .setStatus status => status ≠ .closed
  | .spawn thread => s.phases thread = .notStarted
  | .increment thread => s.phases thread = .code ∧ s.numWaitingOwner = none
  | .acquire thread =>
    s.phases thread = .waiting ∧ (s.owner = none ∨ s.owner = some thread)
  | .decrement thread => s.phases thread = .locked ∧ s.numWaitingOwner = none
  | .notifyOne thread => s.phases thread = .notifyOne
  | .release thread =>
    s.phases thread = .code ∧ s.owner = some thread ∧ State.base thread < s.depth
  | .await thread => s.phases thread = .code ∧ s.owner = some thread
  | .awaitCheck thread => s.phases thread = .awaitCheck ∧ s.queueOwner = none
  | .awaitWait thread => s.phases thread = .awaitWait
  | .stop thread =>
    (s.phases thread = .code ∨ thread = .producer ∧ s.phases thread = .producerClose) ∧
      s.queueOwner = none
  | .notifyAll thread => s.phases thread = .notifyAll
  | .producerTest => s.phases .producer = .producerTest
  | .producerRead _ | .producerFail => s.phases .producer = .producerRead
  | .enqueue message => s.phases .producer = .producerEnqueue message ∧ s.queueOwner = none
  | .producerNotify message => s.phases .producer = .producerNotify message
  | .consumerTest => s.phases .consumer = .consumerTest
  | .consumerLock => s.phases .consumer = .consumerLock ∧ s.owner = none
  | .countCheck => s.phases .consumer = .countCheck ∧ s.numWaitingOwner = none
  | .countWait => s.phases .consumer = .countWait
  | .countReturn => s.phases .consumer = .countAwake ∧ s.numWaitingOwner = none
  | .queueCheck => s.phases .consumer = .queueCheck ∧ s.queueOwner = none
  | .queueWait => s.phases .consumer = .queueWait
  | .queueReturn => s.phases .consumer = .queueAwake ∧ s.queueOwner = none
  | .dispatched =>
    s.phases .consumer = .code ∧ s.owner = some .consumer ∧ s.depth = 1
  | .spurious _ => True

/-- The state after a step. -/
def effect (s : State n) : Label n → State n
  | .setStatus status => { s with status := status }
  | .spawn thread => s.put thread (if thread = .producer then .producerTest else .consumerTest)
  | .increment thread => { s.put thread .waiting with numWaiting := s.numWaiting + 1 }
  | .acquire thread =>
    { s.put thread .locked with owner := some thread, depth := s.depth + 1 }
  | .decrement thread =>
    { s.put thread (if s.numWaiting - 1 = 0 then .notifyOne else .code) with
      numWaiting := s.numWaiting - 1 }
  | .notifyOne thread => (s.put thread .code).wakeCount
  | .release _ => if s.depth = 1 then s.unlock else { s with depth := s.depth - 1 }
  | .await thread => s.put thread .awaitCheck
  | .awaitCheck thread =>
    if s.status = .closed then s.put thread .code
    else if s.queue = [] then { s.put thread .awaitWait with queueOwner := some thread }
    else { s.put thread .code with queue := s.queue.tail }
  | .awaitWait thread => { s.put thread .awaitAsleep with queueOwner := none }
  | .stop thread => { s.put thread .notifyAll with status := .closed }
  | .notifyAll thread => (s.put thread (if thread = .producer then .done else .code)).wakeAll
  | .producerTest => s.put .producer (if s.status = .closed then .done else .producerRead)
  | .producerRead message => s.put .producer (.producerEnqueue message)
  | .producerFail => s.put .producer .producerClose
  | .enqueue message =>
    { s.put .producer (.producerNotify message) with queue := s.queue ++ [message] }
  | .producerNotify message =>
    (s.put .producer (if message = .shutdown then .done else .producerTest)).wakeAll
  | .consumerTest => s.put .consumer (if s.status = .closed then .done else .consumerLock)
  | .consumerLock => { s.put .consumer .countCheck with owner := some .consumer, depth := 1 }
  | .countCheck =>
    if 0 < s.numWaiting then
      { (s.put .consumer .countWait).unlock with numWaitingOwner := some .consumer }
    else { s.put .consumer .queueCheck with seen := some s.numWaiting }
  | .countWait => { s.put .consumer .countAsleep with numWaitingOwner := none }
  | .countReturn => s.put .consumer .consumerTest
  | .queueCheck =>
    if s.status = .closed then (s.put .consumer .done).unlock
    else if s.queue = [] then
      { (s.put .consumer .queueWait).unlock with queueOwner := some .consumer }
    -- `dispatch_to_handler` takes a lock of its own, which its caller's outlives
    else { s.put .consumer .code with queue := s.queue.tail }
  | .queueWait => { s.put .consumer .queueAsleep with queueOwner := none }
  | .queueReturn => s.put .consumer .consumerTest
  | .dispatched => (s.put .consumer .consumerTest).unlock
  | .spurious thread => (s.put thread (s.phases thread).awoken).wakeCount

instance (s : State n) (label : Label n) : Decidable (enabled s label) := by
  cases label <;> unfold enabled <;> infer_instance

/-- The transport before `start`. -/
def wakeup (n : Nat) : System (State n) (Label n) where
  init := { phases := fun thread =>
    if thread = .producer ∨ thread = .consumer then .notStarted else .code }
  step s label := if enabled s label then some (effect s label) else none

/-- A step has been possible and has had its effect. -/
theorem of_step {s s' : State n} {label : Label n} (taken : (wakeup n).step s label = some s') :
    enabled s label ∧ s' = effect s label := by
  simp only [wakeup, Option.ite_none_right_eq_some, Option.some.injEq] at taken
  exact ⟨taken.1, taken.2.symm⟩

end XrTransport.Transport.Wakeup
