import XrTransport.HandleExchange.Sockets

/-!
# Handles in exchange

Both sides write and read handles over one pair of sockets, in any interleaving. A handle that is
written is closed by the writer; the kernel keeps what it stands for until the reader has a
descriptor for it. So every handle arrives once, in the order of the writes, unless `sendmsg` fails
or the reader has no descriptor left.
-/
namespace XrTransport.HandleExchange

/-- The two processes. -/
inductive Party where
  /-- The server. -/
  | server
  /-- The client. -/
  | client
  deriving DecidableEq

/-- The other process. -/
def Party.other : Party → Party
  | .server => .client
  | .client => .server

/-- When `xrtp_write_handle` refuses: the server also when `socket_fd` is zero. -/
def Party.refuses : Party → Int → Bool
  | .server => fun socketFd => decide (socketFd ≤ 0)
  | .client => fun socketFd => decide (socketFd < 0)

/-- Both processes and what is under way between them. -/
structure Pair where
  /-- The processes. -/
  sides : Party → Side
  /-- What is under way to each of them, the oldest first. -/
  inFlight : Party → List Nat

/-- What happens while handles are exchanged. -/
inductive ExchangeEvent where
  /-- `xrtp_write_handle`, and whether `sendmsg` succeeds if the descriptor is open. -/
  | write (party : Party) (fd : Nat) (sent : Bool)
  /-- `xrtp_read_handle`, and whether the kernel has a descriptor for what arrives. -/
  | read (party : Party) (installed : Bool)
  /-- Other code opens something. -/
  | opened (party : Party) (handle : Nat)
  /-- Other code closes a descriptor. -/
  | closed (party : Party) (fd : Nat)
  deriving DecidableEq

/-- A process with other descriptors. -/
def Side.withFiles (s : Side) (files : Descriptors Resource) : Side := { s with files := files }

/-- The handle that a descriptor stands for. -/
def standsFor : Option Resource → List Nat
  | some (.foreign handle) => [handle]
  | _ => []

namespace Pair

/-- What a write sends. -/
def sends (s : Pair) (party : Party) (fd : Nat) (sent : Bool) : List Nat :=
  if party.refuses (s.sides party).socketFd = false ∧ sent then
    standsFor ((s.sides party).files.get fd)
  else []

/-- What a read finds. -/
def arrives (s : Pair) (party : Party) (installed : Bool) : Side.Arrival :=
  match s.inFlight party with
  | [] => .error
  | handle :: _ => if installed then .handle handle else .invalid

/-- What a read takes, whether the kernel has a descriptor for it or not. -/
def takes (s : Pair) (party : Party) : List Nat :=
  if (s.sides party).socketFd < 0 then [] else (s.inFlight party).take 1

/-- The state of one process after a step. -/
def withSide (s : Pair) (party : Party) (side : Side) : Pair :=
  { s with sides := Function.update s.sides party side }

/-- What is under way to one process after a step. -/
def withFlight (s : Pair) (party : Party) (handles : List Nat) : Pair :=
  { s with inFlight := Function.update s.inFlight party handles }

/-- The exchange from a state on. A read with nothing under way does not return. -/
def system (start : Pair) : System Pair ExchangeEvent where
  init := start
  step s
    | .write party fd sent =>
      some ((s.withSide party ((s.sides party).writeHandle party.refuses fd)).withFlight party.other
        (s.inFlight party.other ++ s.sends party fd sent))
    | .read party installed =>
      if (s.sides party).socketFd ≥ 0 ∧ s.inFlight party = [] then none
      else
        some ((s.withSide party
          ((s.sides party).readHandle (s.arrives party installed)).2).withFlight
          party ((s.inFlight party).drop (s.takes party).length))
    | .opened party handle =>
      some (s.withSide party ((s.sides party).withFiles
        ((s.sides party).files.opened (.foreign handle))))
    | .closed party fd =>
      some (s.withSide party ((s.sides party).withFiles ((s.sides party).files.closed fd)))

/-- The handles that an event sends to one process. -/
def written (party : Party) (s : Pair) : ExchangeEvent → List Nat
  | .write writer fd sent => if writer.other = party then s.sends writer fd sent else []
  | _ => []

/-- The handles that an event gives to one process: what the number that is returned stands for
then. What the kernel has no descriptor for is dropped. -/
def given (party : Party) (s : Pair) : ExchangeEvent → List Nat
  | .read reader installed =>
    if reader = party then
      if installed ∧ s.takes reader ≠ [] then
        let read := (s.sides reader).readHandle (s.arrives reader installed)
        standsFor (read.2.files.get read.1)
      else s.takes reader
    else []
  | _ => []

/-- Other code touches only what is its own. -/
def allowed (s : Pair) : ExchangeEvent → Prop
  | .write party fd _ => ((s.sides party).files.get fd).any Resource.isForeign
  | .closed party fd => ((s.sides party).files.get fd).any Resource.isForeign
  | _ => True

/-- How many more references there are to a handle: other code opens and closes it, and it is closed
although `sendmsg` failed, or dropped because the reader has no descriptor left. -/
def change (handle : Nat) (s : Pair) : ExchangeEvent → Int
  | .write party fd sent =>
    if party.refuses (s.sides party).socketFd = false ∧ sent = false ∧
      (s.sides party).files.get fd = some (.foreign handle) then -1 else 0
  | .read party installed => if installed = false ∧ s.takes party = [handle] then -1 else 0
  | .opened _ opened => if opened = handle then 1 else 0
  | .closed party fd => if (s.sides party).files.get fd = some (.foreign handle) then -1 else 0

/-- The references to a handle: the descriptors of both processes and what is under way. -/
def total (handle : Nat) (s : Pair) : Nat :=
  (s.sides .server).files.refs (.foreign handle) + (s.sides .client).files.refs (.foreign handle) +
    (s.inFlight .server).count handle + (s.inFlight .client).count handle

variable {s : Pair} {party : Party}

/-- The process that is replaced, and the other one. -/
@[simp]
theorem sides_withSide (side : Side) (other : Party) :
    (s.withSide party side).sides other = if other = party then side else s.sides other :=
  Function.update_apply _ _ _ _

/-- What is under way stays when a process is replaced. -/
@[simp]
theorem inFlight_withSide (side : Side) : (s.withSide party side).inFlight = s.inFlight :=
  rfl

/-- The processes stay when what is under way is replaced. -/
@[simp]
theorem sides_withFlight (handles : List Nat) : (s.withFlight party handles).sides = s.sides :=
  rfl

/-- What is under way to the one process, and to the other one. -/
@[simp]
theorem inFlight_withFlight (handles : List Nat) (other : Party) :
    (s.withFlight party handles).inFlight other =
      if other = party then handles else s.inFlight other :=
  Function.update_apply _ _ _ _

/-- A process that is replaced takes its references with it. -/
theorem total_withSide (s : Pair) (party : Party) (handle : Nat) (side : Side) :
    (s.withSide party side).total handle + (s.sides party).files.refs (.foreign handle) =
      s.total handle + side.files.refs (.foreign handle) := by
  rw [total, total]
  cases party with
  | server =>
    simp only [sides_withSide, inFlight_withSide, if_true, reduceCtorEq, if_false]
    omega
  | client =>
    simp only [sides_withSide, inFlight_withSide, if_true, reduceCtorEq, if_false]
    omega

/-- What is under way takes its references with it. -/
theorem total_withFlight (s : Pair) (party : Party) (handle : Nat) (handles : List Nat) :
    (s.withFlight party handles).total handle + (s.inFlight party).count handle =
      s.total handle + handles.count handle := by
  rw [total, total]
  cases party with
  | server =>
    simp only [sides_withFlight, inFlight_withFlight, if_true, reduceCtorEq, if_false]
    omega
  | client =>
    simp only [sides_withFlight, inFlight_withFlight, if_true, reduceCtorEq, if_false]
    omega

/-- With a socket and something under way, the number that is returned stands for it. -/
theorem read_next {handle : Nat} {rest : List Nat} (connected : ¬(s.sides party).socketFd < 0)
    (next : s.inFlight party = handle :: rest) :
    s.takes party = [handle] ∧
      (s.sides party).readHandle (s.arrives party true) =
        ((s.sides party).files.lowest, { s.sides party with
          files := (s.sides party).files.opened (.foreign handle) }) := by
  constructor
  · rw [takes, if_neg connected, next]
    rfl
  · rw [arrives, next]
    exact Side.readHandle_of_connected connected handle

/-- Every step keeps the order of what is under way. -/
theorem step_queues (party : Party) {start s' : Pair} {event : ExchangeEvent}
    (step : (system start).step s event = some s') :
    s.inFlight party ++ s.written party event = s.given party event ++ s'.inFlight party := by
  cases event with
  | write writer fd sent =>
    obtain rfl := Option.some.inj step
    have none : s.given party (.write writer fd sent) = [] := rfl
    rw [written, none, inFlight_withFlight, inFlight_withSide, List.nil_append]
    by_cases here : writer.other = party
    · rw [if_pos here, if_pos here.symm, here]
    · rw [if_neg here, if_neg (Ne.symm here), List.append_nil]
  | read reader installed =>
    obtain ⟨waits, step⟩ := Option.ite_none_left_eq_some.mp step
    obtain rfl := Option.some.inj step
    have none : s.written party (.read reader installed) = [] := rfl
    rw [none, List.append_nil, given, inFlight_withFlight, inFlight_withSide]
    by_cases here : reader = party
    · subst here
      rw [if_pos rfl, if_pos rfl]
      by_cases shut : (s.sides reader).socketFd < 0
      · have none : s.takes reader = [] := if_pos shut
        rw [none, if_neg (fun both => both.2 rfl)]
        rfl
      · cases next : s.inFlight reader with
        | nil => exact absurd ⟨Int.not_lt.mp shut, next⟩ waits
        | cons handle rest =>
          obtain ⟨taken, read⟩ := read_next shut next
          rw [taken]
          cases installed with
          | false =>
            rw [if_neg (fun both => Bool.noConfusion both.1)]
            rfl
          | true =>
            have some : [handle] ≠ [] := List.cons_ne_nil _ _
            rw [if_pos ⟨rfl, some⟩, read]
            dsimp only
            rw [Descriptors.get_opened, if_pos rfl]
            rfl
    · rw [if_neg here, if_neg (Ne.symm here)]
      rfl
  | opened party handle =>
    obtain rfl := Option.some.inj step
    exact List.append_nil _
  | closed party fd =>
    obtain rfl := Option.some.inj step
    exact List.append_nil _

/-- A descriptor more is a reference more. -/
theorem total_opened (s : Pair) (party : Party) (handle more : Nat) :
    (s.withSide party ((s.sides party).withFiles
      ((s.sides party).files.opened (.foreign more)))).total handle =
        s.total handle + if more = handle then 1 else 0 := by
  have moved := s.total_withSide party handle ((s.sides party).withFiles
    ((s.sides party).files.opened (.foreign more)))
  have entered := Descriptors.refs_opened (s.sides party).files (.foreign more)
    (.foreign handle)
  simp only [Resource.foreign.injEq] at entered
  rw [Side.withFiles] at moved ⊢
  dsimp only at moved
  rw [entered] at moved
  omega

/-- A descriptor less is a reference less. -/
theorem total_closed {fd closed : Nat}
    (standing : (s.sides party).files.get fd = some (.foreign closed)) (handle : Nat) :
    (s.withSide party ((s.sides party).withFiles ((s.sides party).files.closed fd))).total handle +
      (if closed = handle then 1 else 0) = s.total handle := by
  have moved := s.total_withSide party handle ((s.sides party).withFiles
    ((s.sides party).files.closed fd))
  have fewer := Descriptors.refs_closed standing (.foreign handle)
  simp only [Resource.foreign.injEq] at fewer
  rw [Side.withFiles] at moved ⊢
  dsimp only at moved
  omega

/-- What other code has opened is a handle. -/
theorem foreign_of_any {resource : Option Resource} (other : resource.any Resource.isForeign) :
    ∃ handle, resource = some (.foreign handle) := by
  obtain ⟨kind, standing, foreign⟩ := (Option.any_eq_true _ _).mp other
  cases kind with
  | listener => exact absurd foreign (by decide)
  | connection => exact absurd foreign (by decide)
  | foreign handle => exact ⟨handle, standing⟩

/-- A step changes the references to a handle as it says. -/
theorem step_total {start s' : Pair} {event : ExchangeEvent} (fine : s.allowed event)
    (step : (system start).step s event = some s') (handle : Nat) :
    (s'.total handle : Int) = s.total handle + s.change handle event := by
  cases event with
  | write writer fd sent =>
    obtain rfl := Option.some.inj step
    obtain ⟨closed, standing⟩ := foreign_of_any fine
    have moved := (s.withSide writer
      ((s.sides writer).writeHandle writer.refuses fd)).total_withFlight writer.other handle
      (s.inFlight writer.other ++ s.sends writer fd sent)
    rw [inFlight_withSide, List.count_append] at moved
    rw [change, standing]
    simp only [Option.some.injEq, Resource.foreign.injEq]
    by_cases accepts : writer.refuses (s.sides writer).socketFd = false
    · have fewer := s.total_closed standing handle
      have closes : (s.sides writer).writeHandle writer.refuses fd =
          (s.sides writer).withFiles ((s.sides writer).files.closed fd) := by
        rw [Side.writeHandle, accepts]
        rfl
      rw [closes] at moved ⊢
      cases sent with
      | true =>
        have sending : s.sends writer fd true = [closed] := by
          rw [sends, if_pos ⟨accepts, rfl⟩, standing]
          rfl
        have none : ¬(writer.refuses (s.sides writer).socketFd = false ∧ true = false ∧
            closed = handle) := fun all => Bool.noConfusion all.2.1
        rw [sending, List.count_singleton] at moved
        simp only [beq_iff_eq] at moved
        rw [if_neg none, sending]
        omega
      | false =>
        have sending : s.sends writer fd false = [] := if_neg fun both => Bool.noConfusion both.2
        rw [sending, List.count_nil] at moved
        rw [sending]
        simp only [accepts, true_and]
        split at fewer <;> omega
    · have same : (s.sides writer).writeHandle writer.refuses fd = s.sides writer := by
        rw [Side.writeHandle, (Bool.not_eq_false _).mp accepts]
        rfl
      have sending : s.sends writer fd sent = [] := if_neg fun both => accepts both.1
      have kept := s.total_withSide writer handle (s.sides writer)
      rw [same, sending, List.count_nil] at moved
      rw [same, sending, if_neg fun all => accepts all.1]
      omega
  | read reader installed =>
    obtain ⟨waits, step⟩ := Option.ite_none_left_eq_some.mp step
    obtain rfl := Option.some.inj step
    have moved := (s.withSide reader
      ((s.sides reader).readHandle (s.arrives reader installed)).2).total_withFlight
        reader handle ((s.inFlight reader).drop (s.takes reader).length)
    have kept := s.total_withSide reader handle (s.sides reader)
    rw [inFlight_withSide] at moved
    rw [change]
    by_cases shut : (s.sides reader).socketFd < 0
    · have none : s.takes reader = [] := if_pos shut
      have empty : ¬([] : List Nat) = [handle] := (List.cons_ne_nil _ _).symm
      rw [Side.readHandle_of_shut shut, none, List.length_nil, List.drop_zero] at moved ⊢
      rw [if_neg fun both => empty both.2]
      dsimp only at moved ⊢
      omega
    · cases next : s.inFlight reader with
      | nil => exact absurd ⟨Int.not_lt.mp shut, next⟩ waits
      | cons taken rest =>
        obtain ⟨one, read⟩ := read_next shut next
        have onward : (taken :: rest).drop [taken].length = rest := rfl
        rw [one, next, onward, List.count_cons] at moved
        simp only [beq_iff_eq] at moved
        rw [one, onward]
        cases installed with
        | true =>
          have none : ¬(true = false ∧ [taken] = [handle]) := fun both => Bool.noConfusion both.1
          have entered := s.total_opened reader handle taken
          rw [read] at moved ⊢
          rw [if_neg none]
          rw [Side.withFiles] at entered
          dsimp only at moved ⊢
          omega
        | false =>
          have failure : ∀ received, s.arrives reader false ≠ .handle received := by
            intro received
            rw [arrives, next]
            exact Side.Arrival.noConfusion
          rw [Side.readHandle_of_failure _ failure] at moved ⊢
          simp only [true_and, List.cons.injEq, and_true]
          dsimp only at moved
          split at moved <;> omega
  | opened party more =>
    obtain rfl := Option.some.inj step
    rw [total_opened, change]
    split <;> omega
  | closed party fd =>
    obtain rfl := Option.some.inj step
    obtain ⟨closed, standing⟩ := foreign_of_any fine
    have fewer := s.total_closed standing handle
    rw [change, standing]
    simp only [Option.some.injEq, Resource.foreign.injEq]
    split at fewer <;> omega

/-- Both sides with a socket, and a handle that the server has opened. -/
def connectedPair : Pair where
  sides party := if party = .server then ⟨⟨[none, some .connection, some (.foreign 9)]⟩, 1⟩
    else ⟨⟨[none, some .connection]⟩, 1⟩
  inFlight _ := []

end Pair

end XrTransport.HandleExchange
