import XrTransport.Transport.Wakeup

/-!
# No lost wake-up

Who waits has checked its condition under the mutex it gives up by waiting, and who makes a
condition true does so under the same mutex and notifies afterwards. `Sound` says this for both
condition variables, together with the count of `num_waiting` and what the consumer has seen of it.
-/
namespace XrTransport.Transport.Wakeup

variable {n : Nat}

/-- The number of threads in the section after one thread has moved. -/
theorem State.between_put (s : State n) (thread : Thread n) (phase : Phase) :
    (s.put thread phase).between + (if (s.phases thread).between then 1 else 0) =
      s.between + if phase.between then 1 else 0 := by
  have rest : ∀ other ∈ Finset.univ.erase thread,
      (if ((s.put thread phase).phases other).between then 1 else 0) =
        if (s.phases other).between then 1 else 0 := by
    intro other member
    have apart : other ≠ thread := Finset.ne_of_mem_erase member
    simp [State.put, apart]
  have after := Finset.add_sum_erase Finset.univ
    (fun other => if ((s.put thread phase).phases other).between then 1 else 0)
    (Finset.mem_univ thread)
  have before := Finset.add_sum_erase Finset.univ
    (fun other => if (s.phases other).between then 1 else 0) (Finset.mem_univ thread)
  have sums := Finset.sum_congr rfl rest
  simp only [State.put, if_true] at after sums
  simp only [State.between, State.put]
  omega

/-- Waking up leaves a thread in or out of the section. -/
@[simp] theorem Phase.between_awoken (phase : Phase) : phase.awoken.between = phase.between := by
  cases phase <;> rfl

/-- A notification of `queue_cv` moves nobody into the section. -/
@[simp] theorem State.between_wakeAll (s : State n) : s.wakeAll.between = s.between := by
  simp [State.between, State.wakeAll]

/-- Nor does one of `num_waiting_cv`. -/
@[simp] theorem State.between_wakeCount (s : State n) : s.wakeCount.between = s.between := by
  refine Finset.sum_congr rfl fun thread _ => ?_
  simp only [State.wakeCount]
  split
  next asleep => rw [asleep.1, asleep.2]; rfl
  · rfl

/-- A thread that stays in or out of the section leaves the number as it is. -/
theorem State.between_put_same {s : State n} {thread : Thread n} {phase : Phase}
    (same : phase.between = (s.phases thread).between) :
    (s.put thread phase).between = s.between := by
  have moved := s.between_put thread phase
  rw [same] at moved
  omega

/-- A step that neither enters nor leaves the section keeps count. -/
theorem between_after {s : State n} {label : Label n} (possible : enabled s label)
    (entering : ∀ thread, label ≠ .increment thread)
    (leaving : ∀ thread, label ≠ .decrement thread) :
    (effect s label).numWaiting = s.numWaiting ∧ (effect s label).between = s.between := by
  have same (thread : Thread n) (phase : Phase)
      (kept : phase.between = (s.phases thread).between) :
      State.between (s.put thread phase) = s.between := State.between_put_same kept
  cases label with
  | increment thread => exact absurd rfl (entering thread)
  | decrement thread => exact absurd rfl (leaving thread)
  | setStatus status => exact ⟨rfl, rfl⟩
  | spawn thread =>
    refine ⟨rfl, same thread _ ?_⟩
    rw [show s.phases thread = _ from possible]
    split <;> rfl
  | acquire thread => exact ⟨rfl, same thread _ (by rw [possible.1]; rfl)⟩
  | notifyOne thread =>
    have kept := same thread .code (by rw [show s.phases thread = _ from possible]; rfl)
    exact ⟨rfl, by simpa [effect] using kept⟩
  | release thread =>
    simp only [effect]
    split <;> exact ⟨rfl, rfl⟩
  | await thread => exact ⟨rfl, same thread _ (by rw [possible.1]; rfl)⟩
  | awaitCheck thread =>
    have kept (phase : Phase) (out : phase.between = false) :=
      same thread phase (by rw [possible.1, out]; rfl)
    simp only [effect]
    split
    · exact ⟨rfl, kept .code rfl⟩
    split
    · exact ⟨rfl, kept .awaitWait rfl⟩
    · exact ⟨rfl, kept .code rfl⟩
  | awaitWait thread =>
    exact ⟨rfl, same thread _ (by rw [show s.phases thread = _ from possible]; rfl)⟩
  | stop thread =>
    refine ⟨rfl, same thread _ ?_⟩
    rcases possible.1 with running | closing
    · rw [running]
      rfl
    · rw [closing.2]
      rfl
  | notifyAll thread =>
    have kept := same thread (if thread = .producer then .done else .code)
      (by rw [show s.phases thread = _ from possible]; split <;> rfl)
    exact ⟨rfl, by simpa [effect] using kept⟩
  | producerTest =>
    refine ⟨rfl, same .producer _ ?_⟩
    rw [show s.phases .producer = _ from possible]
    split <;> rfl
  | producerRead message =>
    exact ⟨rfl, same .producer _ (by rw [show s.phases .producer = _ from possible]; rfl)⟩
  | producerFail =>
    exact ⟨rfl, same .producer _ (by rw [show s.phases .producer = _ from possible]; rfl)⟩
  | enqueue message => exact ⟨rfl, same .producer _ (by rw [possible.1]; rfl)⟩
  | producerNotify message =>
    have kept := same .producer (if message = .shutdown then .done else .producerTest)
      (by rw [show s.phases .producer = _ from possible]; split <;> rfl)
    exact ⟨rfl, by simpa [effect] using kept⟩
  | consumerTest =>
    refine ⟨rfl, same .consumer _ ?_⟩
    rw [show s.phases .consumer = _ from possible]
    split <;> rfl
  | consumerLock => exact ⟨rfl, same .consumer _ (by rw [possible.1]; rfl)⟩
  | countCheck =>
    have kept (phase : Phase) (out : phase.between = false) :=
      same .consumer phase (by rw [possible.1, out]; rfl)
    simp only [effect]
    split
    · exact ⟨rfl, kept .countWait rfl⟩
    · exact ⟨rfl, kept .queueCheck rfl⟩
  | countWait =>
    exact ⟨rfl, same .consumer _ (by rw [show s.phases .consumer = _ from possible]; rfl)⟩
  | countReturn => exact ⟨rfl, same .consumer _ (by rw [possible.1]; rfl)⟩
  | queueCheck =>
    have kept (phase : Phase) (out : phase.between = false) :=
      same .consumer phase (by rw [possible.1, out]; rfl)
    simp only [effect]
    split
    · exact ⟨rfl, kept .done rfl⟩
    split
    · exact ⟨rfl, kept .queueWait rfl⟩
    · exact ⟨rfl, kept .code rfl⟩
  | queueWait =>
    exact ⟨rfl, same .consumer _ (by rw [show s.phases .consumer = _ from possible]; rfl)⟩
  | queueReturn => exact ⟨rfl, same .consumer _ (by rw [possible.1]; rfl)⟩
  | dispatched => exact ⟨rfl, same .consumer _ (by rw [possible.1]; rfl)⟩
  | spurious thread =>
    have kept := same thread (s.phases thread).awoken (by simp)
    exact ⟨rfl, by simpa [effect] using kept⟩

/-- `num_waiting` counts the threads between their increment and their decrement. -/
theorem counted_after {s : State n} {label : Label n} (counted : s.numWaiting = s.between)
    (possible : enabled s label) :
    (effect s label).numWaiting = (effect s label).between := by
  by_cases entering : ∃ thread, label = .increment thread
  · obtain ⟨thread, rfl⟩ := entering
    have moved := s.between_put thread .waiting
    rw [possible.1] at moved
    simp only [Phase.between] at moved
    show s.numWaiting + 1 = (s.put thread .waiting).between
    simp at moved
    omega
  by_cases leaving : ∃ thread, label = .decrement thread
  · obtain ⟨thread, rfl⟩ := leaving
    have moved := s.between_put thread (if s.numWaiting - 1 = 0 then .notifyOne else .code)
    have out : Phase.between (if s.numWaiting - 1 = 0 then .notifyOne else .code) = false := by
      split <;> rfl
    rw [possible.1, out] at moved
    simp only [Phase.between] at moved
    show s.numWaiting - 1 =
      (s.put thread (if s.numWaiting - 1 = 0 then .notifyOne else .code)).between
    simp at moved
    omega
  · have kept := between_after possible (fun thread same => entering ⟨thread, same⟩)
      fun thread same => leaving ⟨thread, same⟩
    rw [kept.1, kept.2]
    exact counted

/-- The consumer has looked at `num_waiting` and goes on with the message mutex. -/
def Phase.decided (phase : Phase) : Bool := phase == .queueCheck || phase.dispatching

/-- Waking up on `queue_cv` changes nothing about that. -/
@[simp] theorem Phase.decided_awoken (phase : Phase) : phase.awoken.decided = phase.decided := by
  cases phase <;> rfl

/-- What holds between the steps of every run. -/
structure Sound (s : State n) : Prop where
  /-- `num_waiting` is the number of threads in the section. -/
  counted : s.numWaiting = s.between
  /-- Who is about to wait for `num_waiting` keeps its mutex. -/
  counting : s.phases .consumer = .countWait →
    0 < s.numWaiting ∧ s.numWaitingOwner = some .consumer
  /-- Who waits for `num_waiting` will be notified once it is zero. -/
  waiting : s.phases .consumer = .countAsleep →
    0 < s.numWaiting ∨ ∃ thread, s.phases thread = .notifyOne
  /-- Who is about to wait for the queue keeps its mutex. -/
  settling : ∀ thread, (s.phases thread).settling = true →
    s.queueOwner = some thread ∧ s.queue = [] ∧ s.status ≠ .closed
  /-- Who waits for the queue will be notified once there is something to do. -/
  sleeping : ∀ thread, (s.phases thread).asleep = true →
    (s.queue = [] ∧ s.status ≠ .closed) ∨ ∃ other, (s.phases other).notifying = true
  /-- The consumer keeps the message mutex while it checks. -/
  holding : s.phases .consumer = .countCheck → s.owner = some .consumer
  /-- A dispatching consumer has seen that no thread was waiting. -/
  zero : (s.phases .consumer).decided = true → s.owner = some .consumer ∧ s.seen = some 0

namespace Sound

variable {s : State n} {label : Label n}

/-- The mutex of `num_waiting` is kept until the wait begins. -/
theorem counting_after (sound : Sound s) (possible : enabled s label) :
    (effect s label).phases .consumer = .countWait →
      0 < (effect s label).numWaiting ∧ (effect s label).numWaitingOwner = some .consumer := by
  have counting := sound.counting
  cases label <;> simp only [enabled] at possible <;>
    simp only [effect, State.put, State.wakeAll, State.wakeCount, State.unlock] <;>
    grind -linarith [Phase.awoken]

/-- A thread that is to notify the consumer stays so until it does. -/
theorem notifyOne_stays {thread : Thread n} (pending : s.phases thread = .notifyOne)
    (possible : enabled s label) (other : label ≠ .notifyOne thread) :
    (effect s label).phases thread = .notifyOne := by
  cases label <;> simp only [enabled] at possible <;>
    simp only [effect, State.put, State.wakeAll, State.wakeCount, State.unlock] <;>
    grind -linarith [Phase.awoken]

/-- Only the last thread to leave the section makes `num_waiting` zero, and it is to notify. -/
theorem positive_after (positive : 0 < s.numWaiting) (possible : enabled s label) :
    0 < (effect s label).numWaiting ∨ ∃ thread, (effect s label).phases thread = .notifyOne := by
  by_cases leaving : ∃ thread, label = .decrement thread
  · obtain ⟨thread, rfl⟩ := leaving
    by_cases last : s.numWaiting - 1 = 0
    · exact .inr ⟨thread, by simp [effect, State.put, last]⟩
    · exact .inl (Nat.pos_of_ne_zero last)
  · left
    cases label <;> simp only [enabled] at possible <;>
      simp only [effect, State.put, State.wakeAll, State.wakeCount, State.unlock] <;>
      grind -linarith

/-- The consumer falls asleep on `num_waiting_cv` in one way. -/
theorem countAsleep_before (asleep : (effect s label).phases .consumer = .countAsleep)
    (possible : enabled s label) :
    s.phases .consumer = .countAsleep ∨ label = .countWait := by
  cases label <;> simp only [enabled] at possible <;>
    simp only [effect, State.put, State.wakeAll, State.wakeCount, State.unlock] at asleep <;>
    grind -linarith [Phase.awoken]

/-- The wait for `num_waiting` begins while it is positive and its end is announced. -/
theorem waiting_after (sound : Sound s) (possible : enabled s label)
    (asleep : (effect s label).phases .consumer = .countAsleep) :
    0 < (effect s label).numWaiting ∨ ∃ thread, (effect s label).phases thread = .notifyOne := by
  rcases countAsleep_before asleep possible with before | rfl
  · rcases sound.waiting before with positive | ⟨thread, pending⟩
    · exact positive_after positive possible
    · by_cases notifies : label = .notifyOne thread
      · subst notifies
        have awake : (effect s (.notifyOne thread)).phases .consumer ≠ .countAsleep := by
          simp only [effect, State.put, State.wakeCount]
          grind -linarith
        exact absurd asleep awake
      · exact .inr ⟨thread, notifyOne_stays pending possible notifies⟩
  · exact .inl (sound.counting possible).1

/-- The mutex of the queue is kept until the wait begins. -/
theorem settling_after (sound : Sound s) (possible : enabled s label) (thread : Thread n) :
    ((effect s label).phases thread).settling = true →
      (effect s label).queueOwner = some thread ∧ (effect s label).queue = [] ∧
        (effect s label).status ≠ .closed := by
  have settling := sound.settling
  cases label <;> simp only [enabled] at possible <;>
    simp only [effect, State.put, State.wakeAll, State.wakeCount, State.unlock] <;>
    grind -linarith [Phase.awoken, Phase.settling]

/-- A thread that is to notify the waiters of the queue stays so until it does. -/
theorem notifying_stays {thread : Thread n} (pending : (s.phases thread).notifying = true)
    (possible : enabled s label) (all : ∀ other, label ≠ .notifyAll other)
    (produced : ∀ message, label ≠ .producerNotify message) :
    ((effect s label).phases thread).notifying = true := by
  cases label <;> simp only [enabled] at possible <;>
    simp only [effect, State.put, State.wakeAll, State.wakeCount, State.unlock] <;>
    grind -linarith [Phase.awoken, Phase.notifying]

/-- Who fills the queue or closes the transport is to notify. -/
theorem idle_after (empty : s.queue = []) (running : s.status ≠ .closed)
    (possible : enabled s label) :
    ((effect s label).queue = [] ∧ (effect s label).status ≠ .closed) ∨
      ∃ thread, ((effect s label).phases thread).notifying = true := by
  by_cases filling : ∃ message, label = .enqueue message
  · obtain ⟨message, rfl⟩ := filling
    refine .inr ⟨.producer, ?_⟩
    cases message <;> rfl
  by_cases closing : ∃ thread, label = .stop thread
  · obtain ⟨thread, rfl⟩ := closing
    exact .inr ⟨thread, by simp [effect, State.put, Phase.notifying]⟩
  · left
    cases label <;> simp only [enabled] at possible <;>
      simp only [effect, State.put, State.wakeAll, State.wakeCount, State.unlock] <;>
      grind -linarith

/-- A thread falls asleep on `queue_cv` in two ways. -/
theorem asleep_before {thread : Thread n}
    (asleep : ((effect s label).phases thread).asleep = true) (possible : enabled s label) :
    (s.phases thread).asleep = true ∨ (s.phases thread).settling = true := by
  cases label <;> simp only [enabled] at possible <;>
    simp only [effect, State.put, State.wakeAll, State.wakeCount, State.unlock] at asleep <;>
    grind -linarith [Phase.awoken, Phase.asleep, Phase.settling]

/-- After a notification of `queue_cv` nobody is asleep on it. -/
theorem awake_after (notified : (∃ other, label = .notifyAll other) ∨
    ∃ message, label = .producerNotify message) (thread : Thread n) :
    ((effect s label).phases thread).asleep = false := by
  have woken (phase : Phase) : phase.awoken.asleep = false := by
    cases phase <;> rfl
  rcases notified with ⟨other, rfl⟩ | ⟨message, rfl⟩
  · exact woken _
  · exact woken _

/-- The wait for the queue begins while there is nothing to do and its end is announced. -/
theorem sleeping_after (sound : Sound s) (possible : enabled s label) (thread : Thread n)
    (asleep : ((effect s label).phases thread).asleep = true) :
    ((effect s label).queue = [] ∧ (effect s label).status ≠ .closed) ∨
      ∃ other, ((effect s label).phases other).notifying = true := by
  have quiet : ¬((∃ other, label = .notifyAll other) ∨
      ∃ message, label = .producerNotify message) := by
    intro notified
    rw [awake_after notified thread] at asleep
    contradiction
  have before : (s.queue = [] ∧ s.status ≠ .closed) ∨
      ∃ other, (s.phases other).notifying = true := by
    rcases asleep_before asleep possible with slept | settled
    · exact sound.sleeping thread slept
    · exact .inl (sound.settling thread settled).2
  rcases before with ⟨empty, running⟩ | ⟨other, pending⟩
  · exact idle_after empty running possible
  · refine .inr ⟨other, notifying_stays pending possible ?_ ?_⟩
    · exact fun waker same => quiet (.inl ⟨waker, same⟩)
    · exact fun message same => quiet (.inr ⟨message, same⟩)

/-- Only the consumer itself gives the message mutex up. -/
theorem holding_after (sound : Sound s) (possible : enabled s label) :
    (effect s label).phases .consumer = .countCheck →
      (effect s label).owner = some .consumer := by
  have holding := sound.holding
  cases label <;> simp only [enabled] at possible <;>
    simp only [effect, State.put, State.wakeAll, State.wakeCount, State.unlock] <;>
    grind -linarith [Phase.awoken]

/-- The consumer looks at the queue only after it has seen nobody waiting, and dispatches under the
same lock. -/
theorem zero_after (sound : Sound s) (possible : enabled s label) :
    ((effect s label).phases .consumer).decided = true →
      (effect s label).owner = some .consumer ∧ (effect s label).seen = some 0 := by
  have holding := sound.holding
  have zero := sound.zero
  by_cases woken : ∃ thread, label = .spurious thread
  · obtain ⟨thread, rfl⟩ := woken
    have kept : ((effect s (.spurious thread)).phases .consumer).decided =
        (s.phases .consumer).decided := by
      by_cases consumer : Thread.consumer = thread
      · subst consumer
        cases phase : s.phases .consumer <;> simp [effect, State.put, State.wakeCount, phase,
          Phase.awoken, Phase.decided, Phase.dispatching]
        all_goals rfl
      · cases phase : s.phases .consumer <;> simp [effect, State.put, State.wakeCount, phase,
          consumer, Phase.decided, Phase.dispatching]
        all_goals rfl
    rw [kept]
    exact zero
  cases label <;> simp only [enabled] at possible <;>
    simp only [effect, State.put, State.wakeAll, State.wakeCount, State.unlock,
      Phase.decided_awoken] <;>
    grind -linarith [Phase.decided, Phase.dispatching, State.base]

/-- A step keeps the invariant. -/
theorem step (sound : Sound s) (possible : enabled s label) : Sound (effect s label) where
  counted := counted_after sound.counted possible
  counting := sound.counting_after possible
  waiting := sound.waiting_after possible
  settling := sound.settling_after possible
  sleeping := sound.sleeping_after possible
  holding := sound.holding_after possible
  zero := sound.zero_after possible

/-- Before `start` nobody waits. -/
theorem init (n : Nat) : Sound (wakeup n).init where
  counted := by
    refine (Finset.sum_eq_zero fun thread _ => ?_).symm
    simp only [wakeup]
    split <;> rfl
  counting := by simp [wakeup]
  waiting := by simp [wakeup]
  settling := by
    intro thread
    simp only [wakeup]
    split <;> simp [Phase.settling]
  sleeping := by
    intro thread
    simp only [wakeup]
    split <;> simp [Phase.asleep]
  holding := by simp [wakeup]
  zero := by simp [wakeup, Phase.decided, Phase.dispatching]

end Sound

/-- In every reachable state, with any number of user threads: `num_waiting` is the number of
threads, the consumer among them, between their increment and their decrement; who is asleep on
`num_waiting_cv` with no notification to come waits for a positive number; who is asleep on
`queue_cv` with no notification to come waits at an empty queue of a transport that is not closed;
and a consumer that looks at the queue or dispatches owns the message mutex and has seen zero since
it has it. -/
theorem no_lost_wakeup {n : Nat} {s : State n}
    (reachable : (wakeup n).Reachable (fun _ _ => True) s) :
    s.numWaiting = s.between ∧
    (s.phases .consumer = .countAsleep → (∀ thread, s.phases thread ≠ .notifyOne) →
      0 < s.numWaiting) ∧
    (∀ thread, (s.phases thread).asleep = true →
      (∀ other, (s.phases other).notifying = false) → s.queue = [] ∧ s.status ≠ .closed) ∧
    ((s.phases .consumer).decided = true → s.owner = some .consumer ∧ s.seen = some 0) := by
  have sound : Sound s := reachable.invariant Sound (.init n) fun _ _ _ sound _ taken => by
    obtain ⟨possible, rfl⟩ := of_step taken
    exact sound.step possible
  refine ⟨sound.counted, ?_, ?_, sound.zero⟩
  · intro asleep quiet
    rcases sound.waiting asleep with positive | ⟨thread, pending⟩
    · exact positive
    · exact absurd pending (quiet thread)
  · intro thread asleep quiet
    rcases sound.sleeping thread asleep with idle | ⟨other, pending⟩
    · exact idle
    · rw [quiet other] at pending
      contradiction

/-- A user thread waits for the message mutex of another one, which leaves a message to the
consumer. -/
def handOver : List (Label 2) :=
  [.setStatus .opened, .spawn .consumer, .consumerTest, .increment (.user 0), .acquire (.user 0),
    .decrement (.user 0), .notifyOne (.user 0), .increment (.user 1), .release (.user 0),
    .consumerLock, .countCheck, .countWait]

/-- The consumer is asleep for the sake of that thread. -/
theorem no_lost_wakeup_handOver :
    ∃ s, (wakeup 2).run (wakeup 2).init handOver = some s ∧ s.phases .consumer = .countAsleep ∧
      s.numWaiting = s.between ∧ 0 < s.numWaiting := by
  have ran : ((wakeup 2).run (wakeup 2).init handOver).map (fun s =>
      (s.phases .consumer, decide (∀ thread, s.phases thread ≠ .notifyOne))) =
      some (.countAsleep, true) := by
    decide
  obtain ⟨s, ran, seen⟩ := Option.map_eq_some_iff.mp ran
  simp only [Prod.mk.injEq, decide_eq_true_eq] at seen
  have sound := no_lost_wakeup (System.reachable_of_run ran)
  exact ⟨s, ran, seen.1, sound.1, sound.2.1 seen.1 seen.2⟩

/-- A handler on the consumer starts a message. -/
def handlerSends : List (Label 1) :=
  [.setStatus .opened, .spawn .producer, .spawn .consumer, .producerTest, .producerRead .other,
    .enqueue .other, .producerNotify .other, .consumerTest, .consumerLock, .countCheck, .queueCheck,
    .increment .consumer]

/-- `num_waiting` is one although no user thread is in the section. -/
theorem handlerSends_counts_consumer :
    ¬∀ (n : Nat) (labels : List (Label n)) (s : State n),
      (wakeup n).run (wakeup n).init labels = some s →
      s.numWaiting = ∑ index, if (s.phases (.user index)).between then 1 else 0 := by
  intro always
  have ran : ((wakeup 1).run (wakeup 1).init handlerSends).map (fun s =>
      decide (s.numWaiting = ∑ index, if (s.phases (.user index)).between then 1 else 0)) =
      some false := by
    decide
  obtain ⟨s, ran, differs⟩ := Option.map_eq_some_iff.mp ran
  exact of_decide_eq_false differs (always _ _ _ ran)

end XrTransport.Transport.Wakeup
