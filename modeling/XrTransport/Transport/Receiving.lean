import XrTransport.Transport.Mutex

/-!
# Receiving

The producer puts what it reads into the queue, message by message, up to the first shutdown, after
which it reads no more. What has been taken from the queue is the beginning of what has been put
into it.
-/
namespace XrTransport.Transport

/-- The messages up to and with the first shutdown. -/
def throughShutdown : List MessageIn → List MessageIn
  | [] => []
  | m :: rest => if m.header = shutdown then [m] else m :: throughShutdown rest

/-- Nothing comes after the first shutdown. -/
theorem throughShutdown_append {messages rest : List MessageIn}
    (some : ∃ m ∈ messages, m.header = shutdown) :
    throughShutdown (messages ++ rest) = throughShutdown messages := by
  induction messages with
  | nil => simp at some
  | cons m messages ih =>
    rw [List.cons_append, throughShutdown, throughShutdown]
    by_cases here : m.header = shutdown
    · rw [if_pos here, if_pos here]
    · obtain ⟨x, member, there⟩ := some
      have later : x ∈ messages := by
        obtain rfl | later := List.mem_cons.mp member
        · exact absurd there here
        · exact later
      rw [if_neg here, if_neg here, ih ⟨x, later, there⟩]

/-- A shutdown at the end is the first one when there is none before. -/
theorem throughShutdown_snoc {messages : List MessageIn}
    (none : ∀ m ∈ messages, m.header ≠ shutdown) (last : MessageIn) :
    throughShutdown (messages ++ [last]) = messages ++ [last] := by
  induction messages with
  | nil =>
    by_cases here : last.header = shutdown <;> simp [throughShutdown, here]
  | cons m rest ih =>
    have others := ih fun x member => none x (by simp [member])
    rw [List.cons_append, throughShutdown, if_neg (none m (by simp)), others]

/-- The beginning of messages with no shutdown but at its end goes no further than the first. -/
theorem prefix_throughShutdown {first messages : List MessageIn} (start : first <+: messages)
    (closed : throughShutdown first = first) : first <+: throughShutdown messages := by
  obtain ⟨rest, rfl⟩ := start
  by_cases some : ∃ m ∈ first, m.header = shutdown
  · rw [throughShutdown_append some, closed]
  · have none : ∀ m ∈ first, m.header ≠ shutdown := fun m member here => some ⟨m, member, here⟩
    clear some closed
    induction first with
    | nil => exact List.nil_prefix
    | cons m first ih =>
      rw [List.cons_append, throughShutdown, if_neg (none m (by simp))]
      exact (List.prefix_cons_inj m).mpr (ih fun x member => none x (by simp [member]))

/-- The bytes the producer has read of a message it has not put into the queue. -/
def Producer.Reads (producer : Producer) (part : List UInt8) : Prop :=
  match producer with
  | .idle | .checking => part = []
  | .readingHeader read => part = read ∧ read.length < headerSize
  | .readingPayload header read =>
    part = header ++ read ∧ header.length = headerSize
  | .finished => True

/-- The producer is between two messages. -/
def Producer.between : Producer → Bool
  | .checking | .readingHeader [] => true
  | _ => false

/-- The queue has got what the bytes say, and nothing after a shutdown. -/
structure Inbox.Sound (inbox : Inbox) : Prop where
  /-- The bytes read so far are those of the messages and a part of another one. -/
  framed : ∃ read part, inbox.arrived = read ++ part ++ inbox.incoming ∧
    Framed read inbox.enqueued ∧ inbox.producer.Reads part
  /-- A shutdown is the last message. -/
  closed : throughShutdown inbox.enqueued = inbox.enqueued
  /-- The producer does not go on after one. -/
  going : inbox.producer ≠ .finished → ∀ m ∈ inbox.enqueued, m.header ≠ shutdown

/-- The producer reads from what has arrived. -/
theorem Inbox.receive_arrived {inbox inbox' : Inbox} {count : Nat}
    (read : inbox.receive count = some inbox') : inbox'.arrived = inbox.arrived := by
  unfold Inbox.receive at read
  grind

/-- A message in the queue is one of what has arrived. -/
theorem Inbox.enqueue_arrived {inbox inbox' : Inbox} (put : inbox.enqueue = some inbox') :
    inbox'.arrived = inbox.arrived := by
  unfold Inbox.enqueue at put
  grind

namespace Inbox.Sound

variable {inbox inbox' : Inbox}

/-- Bytes that arrive wait to be read. -/
theorem arrive (sound : inbox.Sound) (bytes : List UInt8) :
    Inbox.Sound { inbox with
      arrived := inbox.arrived ++ bytes
      incoming := inbox.incoming ++ bytes } := by
  obtain ⟨read, part, whole, framed, reads⟩ := sound.framed
  refine ⟨⟨read, part, ?_, framed, reads⟩, sound.closed, sound.going⟩
  simp [whole]

/-- The producer goes on to something for which it has read the same bytes. -/
theorem producer (sound : inbox.Sound) {producer : Producer}
    (same : ∀ part, inbox.producer.Reads part → producer.Reads part)
    (going : producer ≠ .finished → inbox.producer ≠ .finished) :
    Inbox.Sound { inbox with producer } := by
  obtain ⟨read, part, whole, framed, reads⟩ := sound.framed
  exact ⟨⟨read, part, whole, framed, same part reads⟩, sound.closed,
    fun more => sound.going (going more)⟩

/-- The producer reads bytes. -/
theorem receive (sound : inbox.Sound) {count : Nat} (read : inbox.receive count = some inbox') :
    inbox'.Sound ∧ inbox'.enqueued = inbox.enqueued ∧ inbox'.queue = inbox.queue := by
  obtain ⟨before, part, whole, framed, reads⟩ := sound.framed
  unfold Inbox.receive at read
  split at read
  · have rest := List.take_append_drop count inbox.incoming
    dsimp only at read
    split at read
    · rename_i got producer
      obtain ⟨rfl, _⟩ : part = got ∧ got.length < headerSize := by
        simpa [producer, Producer.Reads] using reads
      have none := sound.going (by simp [producer])
      split at read
      · rename_i short
        obtain rfl := Option.some.inj read
        refine ⟨⟨⟨before, _, ?_, framed, rfl, short⟩, sound.closed, fun _ => none⟩, rfl, rfl⟩
        simp [whole]
      · split at read
        · rename_i complete
          obtain rfl := Option.some.inj read
          refine ⟨⟨⟨before, _, ?_, framed, rfl, complete⟩, sound.closed, fun _ => none⟩, rfl, rfl⟩
          simp [whole]
        · contradiction
    · rename_i header got producer
      obtain ⟨rfl, sized⟩ : part = header ++ got ∧ header.length = headerSize := by
        simpa [producer, Producer.Reads] using reads
      have none := sound.going (by simp [producer])
      split at read
      · obtain rfl := Option.some.inj read
        refine ⟨⟨⟨before, _, ?_, framed, rfl, sized⟩, sound.closed, fun _ => none⟩, rfl, rfl⟩
        simp [whole]
      · contradiction
    · contradiction
  · contradiction

/-- The producer puts a message into the queue. -/
theorem enqueue (sound : inbox.Sound) (put : inbox.enqueue = some inbox') :
    inbox'.Sound ∧ ∃ m, inbox'.enqueued = inbox.enqueued ++ [m] ∧
      inbox'.queue = inbox.queue ++ [m] := by
  obtain ⟨before, part, whole, framed, reads⟩ := sound.framed
  unfold Inbox.enqueue at put
  split at put
  · rename_i header got producer
    obtain ⟨rfl, sized⟩ : part = header ++ got ∧ header.length = headerSize := by
      simpa [producer, Producer.Reads] using reads
    have none := sound.going (by simp [producer])
    split at put
    · rename_i complete
      obtain rfl := Option.some.inj put
      refine ⟨⟨⟨before ++ header ++ got, [], ?_, framed.snoc sized complete, ?_⟩,
        throughShutdown_snoc none _, ?_⟩, _, rfl, rfl⟩
      · simp [whole]
      · by_cases last : kindOf header = shutdown <;> simp [last, Producer.Reads]
      · intro more m member
        by_cases last : kindOf header = shutdown
        · simp [last] at more
        · obtain old | new := List.mem_append.mp member
          · exact none m old
          · obtain rfl := List.mem_singleton.mp new
            exact last
    · contradiction
  · contradiction

end Inbox.Sound

/-- Bytes arrive from the other end only. -/
theorem Step.arrived_eq {s s' : State} {action : Action} (step : Step s action s')
    (own : ∀ bytes, action ≠ .arrive bytes) : s'.inbox.arrived = s.inbox.arrived := by
  cases step with
  | @acquire p request _ _ =>
    obtain ⟨hold, same, _⟩ | ⟨handlers, same⟩ := State.grant_eq
      { s.setPhase p .running with numWaiting := s.numWaiting - 1 } p request
    · rw [same]
      rfl
    · rw [same]
      rfl
  | @write p index count rest implicit _ _ _ _ =>
    obtain ⟨link, same⟩ := s.write_eq p index rest implicit count
    rw [same]
    rfl
  | @proceed p _ _ goes =>
    obtain ⟨held', status, same, _⟩ := State.proceed_eq goes
    rw [same]
    rfl
  | arrive bytes => exact absurd rfl (own bytes)
  | receive read => exact Inbox.receive_arrived read
  | enqueue complete => exact Inbox.enqueue_arrived complete
  | _ => rfl

/-- The way of the messages from the stream to whoever takes them. -/
structure Received (s : State) : Prop where
  /-- Up to the queue. -/
  inbox : s.inbox.Sound
  /-- From the queue. -/
  queue : s.inbox.enqueued = s.taken.map Taken.message ++ s.inbox.queue
  /-- The producer is not running before the start. -/
  idle : s.status = .created → s.inbox.producer = .idle

namespace Received

variable {s s' : State}

/-- A step that does not touch the way in. -/
theorem congr (received : Received s) (inbox : s'.inbox = s.inbox) (taken : s'.taken = s.taken)
    (status : s'.status = .created → s.status = .created) : Received s' := by
  constructor
  · rw [inbox]
    exact received.inbox
  · rw [inbox, taken]
    exact received.queue
  · rw [inbox]
    exact fun created => received.idle (status created)

/-- A step of the producer or of the stream. -/
theorem setInbox (received : Received s) {inbox : Inbox} (sound : inbox.Sound)
    (grown : ∃ more, inbox.enqueued = s.inbox.enqueued ++ more ∧
      inbox.queue = s.inbox.queue ++ more)
    (idle : s.status = .created → inbox.producer = .idle) : Received { s with inbox } := by
  refine ⟨sound, ?_, idle⟩
  obtain ⟨more, enqueued, queue⟩ := grown
  rw [enqueued, queue, received.queue, List.append_assoc]

/-- Every step keeps the messages in order. -/
theorem step {action : Action} (received : Received s) (step : Step s action s') :
    Received s' := by
  cases step with
  | start created =>
    have producer := received.idle created
    refine ⟨received.inbox.producer ?_ ?_, received.queue, ?_⟩
    · intro part reads
      simpa [producer, Producer.Reads] using reads
    · simp [producer]
    · simp
  | @acquire p request _ _ =>
    obtain ⟨hold, same, _⟩ | ⟨handlers, same⟩ := State.grant_eq
      { s.setPhase p .running with numWaiting := s.numWaiting - 1 } p request
    · rw [same]
      exact received.congr rfl rfl id
    · rw [same]
      exact received.congr rfl rfl id
  | @write p index count rest implicit _ _ _ _ =>
    obtain ⟨link, same⟩ := s.write_eq p index rest implicit count
    rw [same]
    exact received.congr rfl rfl id
  | @take p m queue result first _ _ delivered =>
    obtain ⟨held', same, _⟩ := State.deliver_eq delivered
    refine ⟨⟨received.inbox.framed, received.inbox.closed, received.inbox.going⟩, ?_, ?_⟩
    · have order := received.queue
      rw [first] at order
      simp [order]
    · rw [same]
      exact received.idle
  | @proceed p _ _ goes =>
    obtain ⟨held', status, same, _, _, unchanged | ⟨closed, _⟩⟩ := State.proceed_eq goes
    · rw [same]
      refine received.congr rfl rfl fun created => ?_
      rw [← unchanged]
      exact created
    · rw [same, closed]
      exact received.congr rfl rfl fun created => by simp at created
  | writeClose => exact received.congr rfl rfl fun created => by simp at created
  | close => exact received.congr rfl rfl fun created => by simp at created
  | arrive bytes =>
    exact received.setInbox (received.inbox.arrive bytes) ⟨[], by simp, by simp⟩ received.idle
  | poll checking =>
    refine received.setInbox (received.inbox.producer ?_ ?_) ⟨[], by simp, by simp⟩ ?_
    · intro part reads
      by_cases closed : s.status = .closed
      · simp [closed, Producer.Reads]
      · simpa [closed, checking, Producer.Reads, headerSize] using reads
    · simp [checking]
    · intro created
      have idle := received.idle created
      rw [checking] at idle
      contradiction
  | @receive count inbox read =>
    obtain ⟨sound, enqueued, queue⟩ := received.inbox.receive read
    refine received.setInbox sound ⟨[], by simp [enqueued], by simp [queue]⟩ ?_
    intro created
    have idle := received.idle created
    simp [Inbox.receive, idle] at read
  | enqueue complete =>
    obtain ⟨sound, m, enqueued, queue⟩ := received.inbox.enqueue complete
    refine received.setInbox sound ⟨[m], enqueued, queue⟩ ?_
    intro created
    have idle := received.idle created
    simp [Inbox.enqueue, idle] at complete
  | receiveFailed =>
    refine ⟨received.inbox.producer ?_ ?_, received.queue, ?_⟩
    · intro _ _
      trivial
    · intro going
      exact absurd rfl going
    · simp
  | _ => exact received.congr rfl rfl id

end Received

/-- At first nothing has arrived. -/
theorem received_init : Received transport.init := by
  refine ⟨⟨⟨[], [], rfl, .nil, rfl⟩, rfl, ?_⟩, rfl, fun _ => rfl⟩
  intro _ m member
  simp [transport] at member

end XrTransport.Transport
