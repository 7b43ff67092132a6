import XrTransport.Transport.Machine

/-!
# Remote procedure calls

The client of the generated stubs: its transport, how far each thread is with its stub, and the
peer. A stub starts a `FUNCTION_CALL`, serializes into it, flushes it, and awaits the
`FUNCTION_RETURN` while it still has its message, all in this order. Outside of stubs, and in
handlers, threads use the transport as they like, but neither start a `FUNCTION_CALL` nor await a
`FUNCTION_RETURN`: a handler that calls a stub itself is left out. The peer answers each call, in
the order the calls were made, with one `FUNCTION_RETURN`, and sends other messages at any time.
-/
namespace XrTransport.Transport

/-- How far a thread is with a stub. -/
inductive Stub where
  /-- Not in a stub. -/
  | idle
  /-- In `start_message`. -/
  | entering
  /-- Serializing and flushing. -/
  | building
  /-- The call has been sent; it is the one of that number. -/
  | sent (call : MessageIn) (number : Nat)
  /-- In `await_message`. -/
  | awaiting (call : MessageIn) (number : Nat)
  /-- `await_message` has returned or thrown; the objects are destroyed. -/
  | leaving
  /-- Serializing or flushing has thrown; the message is destroyed. -/
  | unwinding
deriving DecidableEq, Repr

/-- What `await_message` has returned to a stub. -/
structure Exchange where
  /-- The thread. -/
  caller : Party
  /-- The number of the stub's call. -/
  number : Nat
  /-- The call. -/
  call : MessageIn
  /-- The message returned. -/
  reply : MessageIn
deriving DecidableEq, Repr

/-- The client and its peer. -/
structure Client where
  /-- The client's transport. -/
  transport : State
  /-- The stubs. -/
  stub : Party → Stub := fun _ => .idle
  /-- The messages the peer has sent. -/
  peer : List MessageIn := []
  /-- The replies stubs have got. -/
  exchanges : List Exchange := []

/-- The calls that have been sent. -/
def calls (s : State) : List MessageIn :=
  s.link.flushed.filter fun m => m.header = functionCall

/-- The replies among messages. -/
def returns (messages : List MessageIn) : List MessageIn :=
  messages.filter fun m => m.header = functionReturn

/-- The thread a step belongs to. -/
def Action.party : Action → Option Party
  | .call p _ | .announce p | .acquire p | .append p _ _ | .flush p _ | .destroy p _ | .write p _
  | .wrote p | .writeFailed p | .release p _ | .take p | .interrupt p | .finish p | .proceed p
  | .writeClose p _ => some p
  | .lock | .check | .rest => some .consumer
  | .start | .close | .arrive _ | .poll | .receive _ | .enqueue | .receiveFailed => none

/-- The message whose last bytes a thread hands to the stream. -/
def State.completes (s : State) (p : Party) (count : Nat) : Option MessageIn :=
  match (s.threads p).phase with
  | .writing index rest _ =>
    if count = rest.length then ((s.threads p).outgoing index).map MessageOut.message else none
  | _ => none

/-- The thread is in the loop of a stub's `await_message`, not in a handler that runs in it. -/
def Thread.awaitsReturn (t : Thread) : Bool :=
  match t.held with
  | .await header :: _ => header = functionReturn
  | _ => false

/-- The next message in the queue is a reply. -/
def State.returnNext (s : State) : Bool :=
  match s.inbox.queue with
  | m :: _ => m.header = functionReturn
  | [] => false

/-- Where a thread is after a step of its own. Steps that the code does not take have none. -/
@[simp]
def Stub.follow (s : State) (p : Party) : Stub → Action → Option Stub
  | .idle, .call _ (.startMessage header) =>
    if header ≠ functionCall then some .idle
    else if (s.threads p).frame = none then some .entering else none
  | .idle, .call _ (.awaitMessage header) => if header ≠ functionReturn then some .idle else none
  | .idle, _ => some .idle
  | .entering, .announce _ => some .entering
  | .entering, .acquire _ => some .building
  | .building, .append _ 0 _ => some .building
  | .building, .flush _ 0 => if s.status = .opened then some .building else some .unwinding
  | .building, .write _ count =>
    match s.completes p count with
    | some call => some (.sent call (calls s).length)
    | none => some .building
  | .building, .writeFailed _ => some .unwinding
  | .sent call number, .wrote _ => some (.sent call number)
  | .sent call number, .call _ (.awaitMessage header) =>
    if header = functionReturn then some (.awaiting call number) else none
  | .awaiting call number, .call _ (.startMessage header) =>
    if header ≠ functionCall then some (.awaiting call number) else none
  | .awaiting call number, .call _ (.awaitMessage header) =>
    if header ≠ functionReturn then some (.awaiting call number) else none
  | .awaiting call number, .take _ =>
    if (s.threads p).awaitsReturn && s.returnNext then some .leaving
    else some (.awaiting call number)
  | .awaiting call number, .interrupt _ =>
    if (s.threads p).awaitsReturn then some .leaving else some (.awaiting call number)
  | .awaiting call number, _ => some (.awaiting call number)
  | .leaving, .release _ 0 => some .leaving
  | .leaving, .destroy _ 0 => some .idle
  | .unwinding, .destroy _ 0 => some .unwinding
  | .unwinding, .write _ _ => some .unwinding
  | .unwinding, .wrote _ => some .idle
  | .unwinding, .writeFailed _ => some .unwinding
  | _, _ => none

/-- What a stub gets from its `await_message`. -/
def Stub.gets (s : State) (p : Party) : Stub → Action → List Exchange
  | .awaiting call number, .take _ =>
    match (s.threads p).awaitsReturn && s.returnNext, s.inbox.queue with
    | true, reply :: _ => [⟨p, number, call, reply⟩]
    | _, _ => []
  | _, _ => []

/-- A step of the client, the peer, or the stream between them. -/
inductive ClientAction where
  /-- A step of the client's transport. -/
  | step (action : Action)
  /-- Serializing an argument throws. -/
  | raise (p : Party)
  /-- The peer answers the next call. -/
  | reply
  /-- The peer sends something else. -/
  | send (m : MessageIn)
  /-- Some of what the peer has sent arrives. -/
  | transfer (count : Nat)
deriving DecidableEq, Repr

/-- The client with a peer that answers the call of a number with a payload. -/
def client (answer : Nat → MessageIn → List UInt8) : System Client ClientAction where
  init := { transport := transport.init }
  step c
    | .step (.arrive _) => none
    | .step action =>
      (transport.step c.transport action).bind fun s =>
        match action.party with
        | none => some { c with transport := s }
        | some p =>
          ((c.stub p).follow c.transport p action).map fun stub =>
            { c with
              transport := s
              stub := Function.update c.stub p stub
              exchanges := c.exchanges ++ (c.stub p).gets c.transport p action }
    | .raise p =>
      if c.stub p = .building ∧ (c.transport.threads p).phase = .running then
        some { c with stub := Function.update c.stub p .unwinding }
      else none
    | .reply =>
      let number := (returns c.peer).length
      match (calls c.transport)[number]? with
      | some call =>
        let m : MessageIn := ⟨functionReturn, answer number call⟩
        if m.payload.length < 2 ^ 32 then some { c with peer := c.peer ++ [m] } else none
      | none => none
    | .send m =>
      if m.header ≠ functionReturn ∧ m.payload.length < 2 ^ 32 then
        some { c with peer := c.peer ++ [m] }
      else none
    | .transfer count =>
      let coming := (MessageIn.stream c.peer).drop c.transport.inbox.arrived.length
      (transport.step c.transport (.arrive (coming.take count))).map fun s =>
        { c with transport := s }

/-- No stub throws between starting its message and flushing it. -/
def Serializes (_ : Client) (action : ClientAction) : Prop := ∀ p, action ≠ .raise p

end XrTransport.Transport
