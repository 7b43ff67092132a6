import XrTransport.Foundation.Simulation
import XrTransport.Transport.Receiving
import XrTransport.Transport.Sending
import XrTransport.Transport.Taking

/-!
# Delivery

Two transports at the ends of a stream. The receiver's queue gets what the sender's threads have
flushed, in that order and up to the first shutdown message; and every message that was put into
the queue is taken from it once, in the same order, by a step that delivers it.
-/
namespace XrTransport.Transport

/-- Two transports at the ends of a stream, seen in one direction. -/
structure Connection where
  /-- The end that writes. -/
  sender : State
  /-- The end that reads. -/
  receiver : State

/-- A step of one of the ends, or of the stream between them. -/
inductive Movement where
  /-- A step of the sender. -/
  | send (action : Action)
  /-- A step of the receiver. -/
  | receive (action : Action)
  /-- The stream brings some of the bytes it has taken. -/
  | transfer (count : Nat)
deriving DecidableEq, Repr

/-- A connection. Only what the sender has written arrives at the receiver. -/
def connection : System Connection Movement where
  init := ⟨transport.init, transport.init⟩
  step c
    | .send action => (transport.step c.sender action).map fun sender => { c with sender }
    | .receive (.arrive _) => none
    | .receive action => (transport.step c.receiver action).map fun receiver => { c with receiver }
    | .transfer count =>
      let coming := c.sender.link.written.drop c.receiver.inbox.arrived.length
      (transport.step c.receiver (.arrive (coming.take count))).map fun receiver =>
        { c with receiver }

/-- The sender's threads keep to the rules. -/
def Keeps (c : Connection) : Movement → Prop
  | .send action => Sends c.sender action
  | _ => True

/-- The rules concern the sender. -/
instance decidableKeeps (c : Connection) : ∀ movement, Decidable (Keeps c movement)
  | .send action => inferInstanceAs (Decidable (Sends c.sender action))
  | .receive _ | .transfer _ => inferInstanceAs (Decidable True)

/-- Nothing is left for the producer: it has read a shutdown, or it is between two messages and
there are no more bytes. -/
def Inbox.Done (inbox : Inbox) : Prop :=
  (∃ m ∈ inbox.enqueued, m.header = shutdown) ∨
    (inbox.producer.between = true ∧ inbox.incoming = [])

/-- The stream keeps what it has taken. -/
theorem Step.written_prefix {s s' : State} {action : Action} (step : Step s action s') :
    s.link.written <+: s'.link.written := by
  cases step with
  | @acquire p request _ _ =>
    obtain ⟨hold, same, _⟩ | ⟨handlers, same⟩ := State.grant_eq
      { s.setPhase p .running with numWaiting := s.numWaiting - 1 } p request
    · rw [same]
      exact List.prefix_rfl
    · rw [same]
      exact List.prefix_rfl
  | @write p index count rest implicit _ _ _ _ =>
    unfold State.write
    dsimp only
    split
    · split
      · exact List.prefix_append _ _
      · exact List.prefix_append _ _
    · exact List.prefix_rfl
  | @take p m queue result _ _ _ delivered =>
    obtain ⟨held', same, _⟩ := State.deliver_eq delivered
    rw [same]
    exact List.prefix_rfl
  | @proceed p _ _ goes =>
    obtain ⟨held', status, same, _⟩ := State.proceed_eq goes
    rw [same]
    exact List.prefix_rfl
  | _ => exact List.prefix_rfl

/-- What holds of a connection at any time. -/
structure Connected (c : Connection) : Prop where
  /-- The sender's threads take turns. -/
  locked : Locked c.sender
  /-- The sender writes frames. -/
  sent : Sent c.sender
  /-- The receiver reads frames. -/
  received : Received c.receiver
  /-- The stream brings the bytes in the order it took them. -/
  channel : c.receiver.inbox.arrived <+: c.sender.link.written

namespace Connected

variable {c c' : Connection}

/-- Every step keeps a connection in order. -/
theorem step {movement : Movement} (connected : Connected c) (keeps : Keeps c movement)
    (taken : connection.step c movement = some c') : Connected c' := by
  cases movement with
  | send action =>
    obtain ⟨sender, moved, rfl⟩ := Option.map_eq_some_iff.mp taken
    have step := step_of_transport moved
    exact ⟨connected.locked.step step, connected.sent.step connected.locked keeps step,
      connected.received, connected.channel.trans step.written_prefix⟩
  | receive action =>
    have own : ∀ bytes, action ≠ .arrive bytes := by
      rintro bytes rfl
      simp [connection] at taken
    have next : (transport.step c.receiver action).map (fun receiver => { c with receiver }) =
        some c' := by
      rw [← taken]
      cases action with
      | arrive bytes => exact absurd rfl (own bytes)
      | _ => rfl
    obtain ⟨receiver, moved, rfl⟩ := Option.map_eq_some_iff.mp next
    have step := step_of_transport moved
    refine ⟨connected.locked, connected.sent, connected.received.step step, ?_⟩
    change receiver.inbox.arrived <+: _
    rw [step.arrived_eq own]
    exact connected.channel
  | transfer count =>
    obtain ⟨receiver, moved, rfl⟩ := Option.map_eq_some_iff.mp taken
    have step := step_of_transport moved
    refine ⟨connected.locked, connected.sent, connected.received.step step, ?_⟩
    cases step with
    | arrive bytes =>
      obtain ⟨coming, whole⟩ := connected.channel
      have next : c.sender.link.written.drop c.receiver.inbox.arrived.length = coming := by
        rw [← whole, List.drop_left]
      change c.receiver.inbox.arrived ++ (c.sender.link.written.drop _).take count <+: _
      rw [next, ← whole]
      exact (List.prefix_append_right_inj _).mpr (List.take_prefix count coming)

/-- The receiver's queue has got the first of the flushed messages, from exactly their bytes. -/
theorem enqueued_prefix (connected : Connected c) :
    c.receiver.inbox.enqueued <+: c.sender.link.flushed ∧
      ∃ part, c.receiver.inbox.arrived =
        MessageIn.stream c.receiver.inbox.enqueued ++ part ++ c.receiver.inbox.incoming ∧
        c.receiver.inbox.producer.Reads part := by
  obtain ⟨read, part, whole, framed, reads⟩ := connected.received.inbox.framed
  have start : read <+: MessageIn.stream c.sender.link.flushed ++ c.sender.link.unfinished := by
    rw [← connected.sent.written]
    refine List.IsPrefix.trans ⟨part ++ c.receiver.inbox.incoming, ?_⟩ connected.channel
    rw [whole, List.append_assoc]
  obtain nothing | ⟨m, small, first, shorter⟩ := connected.sent.part
  · rw [nothing, List.append_nil] at start
    obtain ⟨order, rfl⟩ := framed.prefix_of_stream connected.sent.small start
    exact ⟨order, part, whole, reads⟩
  · have longer : read <+: MessageIn.stream (c.sender.link.flushed ++ [m]) := by
      refine start.trans ?_
      rw [MessageIn.stream_append, MessageIn.stream_cons, MessageIn.stream_nil, List.append_nil]
      exact (List.prefix_append_right_inj _).mpr first
    have allSmall : ∀ x ∈ c.sender.link.flushed ++ [m], x.Small := by
      intro x member
      obtain old | new := List.mem_append.mp member
      · exact connected.sent.small x old
      · obtain rfl := List.mem_singleton.mp new
        exact small
    obtain ⟨order, rfl⟩ := framed.prefix_of_stream allSmall longer
    refine ⟨?_, part, whole, reads⟩
    obtain all | order := List.prefix_concat_iff.mp order
    · have length := start.length_le
      rw [all, MessageIn.stream_append, List.length_append, List.length_append,
        MessageIn.stream_cons, MessageIn.stream_nil, List.append_nil] at length
      omega
    · exact order

end Connected

/-- A connection is in order in every reachable state. -/
theorem connected_of_reachable {c : Connection} (reachable : connection.Reachable Keeps c) :
    Connected c := by
  refine reachable.invariant Connected ⟨locked_init, sent_init, received_init, ?_⟩ ?_
  · exact List.prefix_rfl
  · exact fun c movement c' connected keeps taken => connected.step keeps taken

/-- What a movement does to the receiver: nothing, or a step of its own. -/
theorem Movement.receiver_eq {c c' : Connection} {movement : Movement}
    (moved : connection.step c movement = some c') :
    c'.receiver = c.receiver ∨ ∃ action, Step c.receiver action c'.receiver ∧
      ∀ p, action = .take p → movement = .receive (.take p) := by
  cases movement with
  | send action =>
    obtain ⟨sender, _, rfl⟩ := Option.map_eq_some_iff.mp moved
    exact .inl rfl
  | receive action =>
    have next : (transport.step c.receiver action).map (fun receiver => { c with receiver }) =
        some c' := by
      cases action with
      | arrive bytes => exact absurd moved (by simp [connection])
      | _ => exact moved
    obtain ⟨receiver, step, rfl⟩ := Option.map_eq_some_iff.mp next
    exact .inr ⟨action, step_of_transport step, fun p same => by rw [same]⟩
  | transfer count =>
    obtain ⟨receiver, step, rfl⟩ := Option.map_eq_some_iff.mp moved
    exact .inr ⟨_, step_of_transport step, fun p same => by contradiction⟩

/-- What has been taken grows by one message at a time, and the step delivers it. -/
theorem Movement.delivered {c c' : Connection} {movement : Movement}
    (moved : connection.step c movement = some c') :
    c'.receiver.taken = c.receiver.taken ∧
      (∀ p, (c'.receiver.threads p).deliveries.Sublist (c.receiver.threads p).deliveries) ∨
    ∃ entry : Taken, movement = .receive (.take entry.taker) ∧
      c'.receiver.taken = c.receiver.taken ++ [entry] ∧ entry.Delivered c.receiver c'.receiver := by
  obtain same | ⟨action, step, named⟩ := Movement.receiver_eq moved
  · rw [same]
    exact .inl ⟨rfl, fun p => List.Sublist.refl _⟩
  · by_cases takes : ∃ p, action = .take p
    · obtain ⟨p, rfl⟩ := takes
      obtain ⟨entry, rfl, taken, delivered⟩ := step.delivered
      exact .inr ⟨entry, named _ rfl, taken, delivered⟩
    · have other : ∀ p, action ≠ .take p := fun p same => takes ⟨p, same⟩
      exact .inl ⟨step.taken_eq other, step.deliveries_sublist other⟩

/-- In every run in which the sender's threads keep to the rules: the receiver's queue has got a
beginning of the flushed messages through the first shutdown; all of them once everything written
has arrived and the producer has nothing left to do; what was put into the queue has been taken in
that order, each message once, or is in the queue; each message that has been taken was delivered by
one step of the run, which took it from the front of the queue; and no other step delivers any. -/
theorem delivery {movements : List Movement} {c : Connection}
    (keeps : connection.Along Keeps connection.init movements)
    (ran : connection.run connection.init movements = some c) :
    c.receiver.inbox.enqueued <+: throughShutdown c.sender.link.flushed ∧
      (c.receiver.inbox.arrived = c.sender.link.written → c.receiver.inbox.Done →
        c.receiver.inbox.enqueued = throughShutdown c.sender.link.flushed) ∧
      c.receiver.inbox.enqueued = c.receiver.taken.map Taken.message ++ c.receiver.inbox.queue ∧
      (∀ earlier entry later, c.receiver.taken = earlier ++ entry :: later →
        ∃ front back before after,
          movements = front ++ .receive (.take entry.taker) :: back ∧
          connection.run connection.init front = some before ∧
          connection.step before (.receive (.take entry.taker)) = some after ∧
          before.receiver.taken = earlier ∧ after.receiver.taken = earlier ++ [entry] ∧
          entry.Delivered before.receiver after.receiver) ∧
      ∀ front movement back before after, movements = front ++ movement :: back →
        connection.run connection.init front = some before →
        connection.step before movement = some after →
        after.receiver.taken = before.receiver.taken →
        ∀ p, (after.receiver.threads p).deliveries.Sublist
          (before.receiver.threads p).deliveries := by
  have connected : Connected c := connected_of_reachable (.run .init keeps ran)
  obtain ⟨order, part, whole, reads⟩ := connected.enqueued_prefix
  have closed := connected.received.inbox.closed
  refine ⟨prefix_throughShutdown order closed, ?_, connected.received.queue, ?_, ?_⟩
  · rintro arrived (last | ⟨between, none⟩)
    · obtain ⟨rest, flushed⟩ := order
      rw [← flushed, throughShutdown_append last, closed]
    · have nothing : part = [] := by
        unfold Producer.between at between
        split at between
        · rename_i producer
          simpa [producer, Producer.Reads] using reads
        · rename_i producer
          simp only [producer, Producer.Reads] at reads
          exact reads.1
        · contradiction
      obtain ⟨rest, flushed⟩ := order
      have bytes : MessageIn.stream rest ++ c.sender.link.unfinished = [] := by
        rw [nothing, none, List.append_nil, List.append_nil, arrived, connected.sent.written,
          ← flushed, MessageIn.stream_append, List.append_assoc] at whole
        exact List.append_right_eq_self.mp whole
      have all : rest = [] := MessageIn.stream_eq_nil (List.append_eq_nil_iff.mp bytes).1
      rw [← flushed, all, List.append_nil, closed]
  · intro earlier entry later logged
    have grows : ∀ c movement c', connection.step c movement = some c' →
        c'.receiver.taken = c.receiver.taken ∨
          ∃ entry, c'.receiver.taken = c.receiver.taken ++ [entry] := by
      intro c movement c' moved
      obtain ⟨same, _⟩ | ⟨entry, _, grown, _⟩ := Movement.delivered moved
      · exact .inl same
      · exact .inr ⟨entry, grown⟩
    obtain ⟨front, movement, back, before, after, split, first, moved, old, new⟩ :=
      System.exists_step_of_logged grows rfl ran logged
    obtain ⟨same, _⟩ | ⟨entry', rfl, grown, delivered⟩ := Movement.delivered moved
    · rw [new, old] at same
      simp at same
    · rw [new, old] at grown
      obtain rfl := List.singleton_inj.mp (List.append_cancel_left grown)
      exact ⟨front, back, before, after, split, first, moved, old, new, delivered⟩
  · intro front movement back before after _ _ moved still p
    obtain ⟨_, fewer⟩ | ⟨entry, _, grown, _⟩ := Movement.delivered moved
    · exact fewer p
    · rw [still] at grown
      simp at grown

/-- A thread of the sender sends an empty message. -/
def sendEmpty (header : UInt16) : List Movement :=
  [.send (.call (.user 0) (.startMessage header)), .send (.announce (.user 0)),
    .send (.acquire (.user 0)), .send (.flush (.user 0) 0), .send (.write (.user 0) 3),
    .send (.write (.user 0) 5), .send (.wrote (.user 0)), .send (.destroy (.user 0) 0)]

/-- A message arrives in two pieces, is read, and put into the queue. -/
def receiveEmpty : List Movement :=
  [.transfer 6, .receive .poll, .receive (.receive 4), .receive (.receive 2), .transfer 2,
    .receive (.receive 2), .receive .enqueue]

/-- A thread of the receiver awaits it and takes it. -/
def awaitEmpty (header : UInt16) : List Movement :=
  [.receive (.call (.user 0) (.awaitMessage header)), .receive (.announce (.user 0)),
    .receive (.acquire (.user 0)), .receive (.take (.user 0))]

/-- An empty message goes from one end to the other and is awaited there. -/
def oneMessage : List Movement :=
  [Movement.send .start, .receive .start] ++ sendEmpty 100 ++ receiveEmpty ++
    [Movement.receive .poll] ++ awaitEmpty 100

/-- It is delivered, and the call that awaits it returns it. -/
theorem delivery_oneMessage :
    ∃ c, connection.run connection.init oneMessage = some c ∧
      c.receiver.inbox.enqueued = [⟨100, []⟩] ∧
      ∃ before after : Connection,
        connection.step before (.receive (.take (.user 0))) = some after ∧
        Taken.Delivered ⟨⟨100, []⟩, .user 0, .returned, []⟩ before.receiver after.receiver := by
  have ran : (connection.run connection.init oneMessage).map (fun c =>
      (c.sender.link.flushed, c.sender.link.written, c.receiver.inbox.arrived,
        c.receiver.inbox.producer, c.receiver.inbox.incoming, c.receiver.taken)) =
      some ([⟨100, []⟩], MessageIn.frame ⟨100, []⟩, MessageIn.frame ⟨100, []⟩,
        .readingHeader [], [], [⟨⟨100, []⟩, .user 0, .returned, []⟩]) := rfl
  obtain ⟨c, ran, seen⟩ := Option.map_eq_some_iff.mp ran
  simp only [Prod.mk.injEq] at seen
  obtain ⟨flushed, written, arrived, producer, incoming, taken⟩ := seen
  have keeps : connection.Along Keeps connection.init oneMessage := by decide
  obtain ⟨_, all, _, each, _⟩ := delivery keeps ran
  have enqueued := all (by rw [arrived, written]) (.inr ⟨by rw [producer]; rfl, incoming⟩)
  obtain ⟨_, _, before, after, _, _, step, _, _, delivered⟩ := each [] _ [] taken
  refine ⟨c, ran, ?_, before, after, step, delivered⟩
  rw [enqueued, flushed]
  rfl

/-- Two messages are sent, the first of them a shutdown, and arrive. -/
def shutdownFirst : List Movement :=
  [Movement.send .start, .receive .start] ++ sendEmpty 99 ++ sendEmpty 100 ++ receiveEmpty ++
    [Movement.transfer 8]

/-- The message behind the shutdown is not put into the queue, although the receiver is open. -/
theorem shutdownFirst_skips :
    ¬∀ c, connection.Reachable Keeps c → c.receiver.status ≠ .closed →
      c.receiver.inbox.arrived = c.sender.link.written → c.receiver.inbox.Done →
      c.receiver.inbox.enqueued = c.sender.link.flushed := by
  intro never
  have ran : (connection.run connection.init shutdownFirst).map (fun c =>
      (c.receiver.status, c.receiver.inbox.arrived, c.sender.link.written,
        c.receiver.inbox.enqueued, c.sender.link.flushed)) =
      some (.opened, MessageIn.stream [⟨99, []⟩, ⟨100, []⟩],
        MessageIn.stream [⟨99, []⟩, ⟨100, []⟩], [⟨99, []⟩], [⟨99, []⟩, ⟨100, []⟩]) := rfl
  obtain ⟨c, ran, seen⟩ := Option.map_eq_some_iff.mp ran
  simp only [Prod.mk.injEq] at seen
  obtain ⟨status, arrived, written, enqueued, flushed⟩ := seen
  have keeps : connection.Along Keeps connection.init shutdownFirst := by decide
  have same := never c (.run .init keeps ran) (by rw [status]; decide)
    (by rw [arrived, written])
    (.inl ⟨⟨99, []⟩, by rw [enqueued]; decide, rfl⟩)
  rw [enqueued, flushed] at same
  contradiction

end XrTransport.Transport
