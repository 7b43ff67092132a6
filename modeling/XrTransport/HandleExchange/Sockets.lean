import Mathlib.Algebra.Group.Int.Defs
import Mathlib.Algebra.Group.Nat.Defs
import XrTransport.Foundation.Descriptors
import XrTransport.Foundation.Simulation

/-!
# The sockets of the handle exchange

The two sides of `handle_exchange_linux` keep their sockets in global variables. The server closes
what it has before it listens again, and when the instance or the module goes. It does not close a
socket before it accepts another one, and the client closes nothing: exactly what is overwritten so
stays open. Descriptors of other code are never closed by either side, except handles that were
written.
-/
namespace XrTransport.HandleExchange

/-- What a descriptor of a process stands for. -/
inductive Resource where
  /-- A socket that listens for the client. -/
  | listener
  /-- A connected socket. -/
  | connection
  /-- Something that other code has opened: a handle that may be exchanged. -/
  | foreign (handle : Nat)
  deriving DecidableEq

/-- Whether something is a handle of other code. -/
def Resource.isForeign : Resource → Bool
  | .foreign _ => true
  | _ => false

/-- A process with one of the two modules. -/
structure Side where
  /-- The open descriptors of the process. -/
  files : Descriptors Resource
  /-- `socket_fd`. -/
  socketFd : Int
  deriving DecidableEq

/-- The process of the server. -/
structure ServerSide extends Side where
  /-- `server_fd`. -/
  serverFd : Int
  deriving DecidableEq

/-- How far the server gets when it starts listening. -/
inductive Listening where
  /-- `XRTP_SERVER_FD_EXCHANGE_PATH` is not set. -/
  | noPath
  /-- `socket` fails. -/
  | noSocket
  /-- `bind` fails. -/
  | noBind
  /-- `listen` fails. -/
  | noListen
  /-- It listens. -/
  | listens
  deriving DecidableEq

namespace ServerSide

/-- Close `server_fd` if it is open. -/
def closeServer (s : ServerSide) : ServerSide :=
  if s.serverFd ≥ 0 then { s with files := s.files.closed s.serverFd.toNat, serverFd := -1 } else s

/-- Close `socket_fd` if it is open. -/
def closeSocket (s : ServerSide) : ServerSide :=
  if s.socketFd ≥ 0 then { s with files := s.files.closed s.socketFd.toNat, socketFd := -1 } else s

/-- `on_instance`. -/
def onInstance (outcome : Listening) (s : ServerSide) : ServerSide :=
  if outcome = .noPath then s
  else
    let s := s.closeServer.closeSocket
    if outcome = .noSocket then { s with serverFd := -1 }
    else
      let s := { s with files := s.files.opened .listener, serverFd := s.files.lowest }
      if outcome = .listens then s
      else { s with files := s.files.closed s.serverFd.toNat, serverFd := -1 }

/-- The handler of `CLIENT_CONNECTING`; `accept` fails without a listening socket. -/
def clientConnecting (accepted : Bool) (s : ServerSide) : ServerSide :=
  if accepted ∧ s.serverFd ≥ 0 then
    { s with files := s.files.opened .connection, socketFd := s.files.lowest }
  else { s with socketFd := -1 }

/-- `on_instance_destroy`. -/
def onInstanceDestroy (s : ServerSide) : ServerSide := s.closeServer.closeSocket

/-- `~HandleExchangeServerModule`. -/
def destructor (s : ServerSide) : ServerSide := s.closeServer.closeSocket

end ServerSide

namespace Side

/-- `on_instance` of the client, from `socket` on. `connect` may fail afterwards. -/
def clientOnInstance (created : Bool) (s : Side) : Side :=
  if created then { files := s.files.opened .connection, socketFd := s.files.lowest }
  else { s with socketFd := -1 }

/-- What arrives at a socket. -/
inductive Arrival where
  /-- `recvmsg` fails. -/
  | error
  /-- There is no control message, or not the expected one. -/
  | invalid
  /-- A handle that the other side has written. -/
  | handle (handle : Nat)
  deriving DecidableEq

/-- `xrtp_read_handle` of both sides. -/
def readHandle (arrival : Arrival) (s : Side) : Nat × Side :=
  if s.socketFd < 0 then (0, s)
  else
    match arrival with
    | .error => (0, s)
    | .invalid => (0, s)
    | .handle handle => (s.files.lowest, { s with files := s.files.opened (.foreign handle) })

/-- Without a socket nothing is read. -/
theorem readHandle_of_shut {s : Side} (shut : s.socketFd < 0) (arrival : Arrival) :
    s.readHandle arrival = (0, s) :=
  if_pos shut

/-- With a socket what arrives is read. -/
theorem readHandle_of_connected {s : Side} (connected : ¬s.socketFd < 0) (handle : Nat) :
    s.readHandle (.handle handle) =
      (s.files.lowest, { s with files := s.files.opened (.foreign handle) }) :=
  if_neg connected

/-- What is not a handle opens nothing. -/
theorem readHandle_of_failure (s : Side) {arrival : Arrival}
    (failure : ∀ handle, arrival ≠ .handle handle) : s.readHandle arrival = (0, s) := by
  cases arrival with
  | error => exact ite_self _
  | invalid => exact ite_self _
  | handle handle => exact absurd rfl (failure handle)

/-- What `xrtp_write_handle` of both sides does unless it refuses: the handle is closed whether it
was sent or not. -/
def writeHandle (refuses : Int → Bool) (handle : Nat) (s : Side) : Side :=
  if refuses s.socketFd then s else { s with files := s.files.closed handle }

/-- `xrtp_write_handle` of the server. -/
def serverWriteHandle (handle : Nat) (s : Side) : Side :=
  s.writeHandle (fun socketFd => decide (socketFd ≤ 0)) handle

/-- `xrtp_write_handle` of the client. -/
def clientWriteHandle (handle : Nat) (s : Side) : Side :=
  s.writeHandle (fun socketFd => decide (socketFd < 0)) handle

end Side

/-! ## Runs of the server -/

/-- What happens in the process of the server. -/
inductive ServerEvent where
  /-- `on_instance`. -/
  | onInstance (outcome : Listening)
  /-- `CLIENT_CONNECTING` arrives. -/
  | clientConnecting (accepted : Bool)
  /-- `on_instance_destroy`. -/
  | onInstanceDestroy
  /-- The module is destroyed. -/
  | destructor
  /-- Other code opens something. -/
  | opened (handle : Nat)
  /-- Other code closes a descriptor. -/
  | closed (fd : Nat)
  /-- A handle is written. -/
  | writeHandle (fd : Nat)
  /-- A handle is read. -/
  | readHandle (arrival : Side.Arrival)
  deriving DecidableEq

namespace ServerSide

/-- The state after an event. -/
def after (s : ServerSide) : ServerEvent → ServerSide
  | .onInstance outcome => s.onInstance outcome
  | .clientConnecting accepted => s.clientConnecting accepted
  | .onInstanceDestroy => s.onInstanceDestroy
  | .destructor => s.destructor
  | .opened handle => { s with files := s.files.opened (.foreign handle) }
  | .closed fd => { s with files := s.files.closed fd }
  | .writeHandle fd => { s with toSide := s.toSide.serverWriteHandle fd }
  | .readHandle arrival => { s with toSide := (s.toSide.readHandle arrival).2 }

/-- Other code touches only what is its own. -/
def allowed (s : ServerSide) : ServerEvent → Prop
  | .closed fd => (s.files.get fd).any Resource.isForeign
  | .writeHandle fd => (s.files.get fd).any Resource.isForeign
  | _ => True

/-- The process, from no open sockets on. -/
def system (files : Descriptors Resource) : System ServerSide ServerEvent where
  init := ⟨⟨files, -1⟩, -1⟩
  step s event := some (s.after event)

/-- How many sockets an event overwrites. -/
def overwritten (s : ServerSide) : ServerEvent → Nat
  | .clientConnecting _ => if s.socketFd ≥ 0 then 1 else 0
  | _ => 0

/-- How many more descriptors there are for a handle of other code. A handle that is written is
closed, except when `socket_fd` is not positive. -/
def change (handle : Nat) (s : ServerSide) : ServerEvent → Int
  | .opened opened => if opened = handle then 1 else 0
  | .closed fd => if s.files.get fd = some (.foreign handle) then -1 else 0
  | .writeHandle fd => if s.socketFd > 0 ∧ s.files.get fd = some (.foreign handle) then -1 else 0
  | .readHandle arrival => if s.socketFd ≥ 0 ∧ arrival = .handle handle then 1 else 0
  | _ => 0

/-- Both variables stand for what the module has opened, and the sockets that are open otherwise
have been overwritten. -/
structure Sound (lost : Nat) (s : ServerSide) : Prop where
  /-- `server_fd` listens. -/
  server : s.serverFd ≥ 0 → s.files.get s.serverFd.toNat = some .listener
  /-- `socket_fd` is connected. -/
  socket : s.socketFd ≥ 0 → s.files.get s.socketFd.toNat = some .connection
  /-- Nothing else listens. -/
  listeners : s.files.refs .listener = if s.serverFd ≥ 0 then 1 else 0
  /-- Every other connection has been overwritten. -/
  connections : s.files.refs .connection = (if s.socketFd ≥ 0 then 1 else 0) + lost

namespace Sound

variable {lost : Nat} {s : ServerSide}

/-- Closing `server_fd` closes the listening socket and nothing else. -/
theorem closeServer (sound : Sound lost s) :
    Sound lost s.closeServer ∧ s.closeServer.serverFd < 0 ∧
      s.closeServer.socketFd = s.socketFd ∧
      ∀ handle, s.closeServer.files.refs (.foreign handle) = s.files.refs (.foreign handle) := by
  rw [ServerSide.closeServer]
  split
  next opened =>
    have standing := sound.server opened
    have fewer := Descriptors.refs_closed standing
    have one := sound.listeners
    have shut : (-1 : Int) < 0 := by decide
    refine ⟨⟨fun still => absurd still (Int.not_le.mpr shut), ?_, ?_, ?_⟩, shut, rfl, ?_⟩
    · intro connected
      have other := sound.socket connected
      have apart : s.socketFd.toNat ≠ s.serverFd.toNat := by
        intro same
        rw [same, standing] at other
        exact absurd other (by decide)
      rw [Descriptors.get_closed, if_neg apart]
      exact other
    · have less := fewer .listener
      rw [if_pos rfl, one, if_pos opened] at less
      rw [if_neg (Int.not_le.mpr shut)]
      exact Nat.succ.inj less
    · have same := fewer .connection
      rw [if_neg (by decide), Nat.add_zero] at same
      exact same.trans sound.connections
    · intro handle
      have same := fewer (.foreign handle)
      rw [if_neg Resource.noConfusion, Nat.add_zero] at same
      exact same
  next shut =>
    exact ⟨sound, by omega, rfl, fun _ => rfl⟩

/-- Closing `socket_fd` closes the connection and nothing else. -/
theorem closeSocket (sound : Sound lost s) :
    Sound lost s.closeSocket ∧ s.closeSocket.socketFd < 0 ∧
      s.closeSocket.serverFd = s.serverFd ∧
      ∀ handle, s.closeSocket.files.refs (.foreign handle) = s.files.refs (.foreign handle) := by
  rw [ServerSide.closeSocket]
  split
  next opened =>
    have standing := sound.socket opened
    have fewer := Descriptors.refs_closed standing
    have one := sound.connections
    have shut : (-1 : Int) < 0 := by decide
    refine ⟨⟨?_, fun still => absurd still (Int.not_le.mpr shut), ?_, ?_⟩, shut, rfl, ?_⟩
    · intro listening
      have other := sound.server listening
      have apart : s.serverFd.toNat ≠ s.socketFd.toNat := by
        intro same
        rw [same, standing] at other
        exact absurd other (by decide)
      rw [Descriptors.get_closed, if_neg apart]
      exact other
    · have same := fewer .listener
      rw [if_neg (by decide), Nat.add_zero] at same
      exact same.trans sound.listeners
    · have less := fewer .connection
      rw [if_pos rfl, one, if_pos opened, Nat.add_comm 1 lost] at less
      rw [if_neg (Int.not_le.mpr shut), Nat.zero_add]
      exact Nat.succ.inj less
    · intro handle
      have same := fewer (.foreign handle)
      rw [if_neg Resource.noConfusion, Nat.add_zero] at same
      exact same
  next shut =>
    exact ⟨sound, by omega, rfl, fun _ => rfl⟩

/-- What stands for something stands for it after something else was opened. -/
theorem elsewhere {files : Descriptors Resource} {fd : Nat} {standing resource : Resource}
    (before : files.get fd = some standing) : (files.opened resource).get fd = some standing := by
  have free := Descriptors.get_lowest files
  have apart : fd ≠ files.lowest := by
    rintro rfl
    rw [free] at before
    exact absurd before (Option.some_ne_none _).symm
  rw [Descriptors.get_opened, if_neg apart]
  exact before

/-- What other code opens leaves the variables alone. -/
theorem opened (sound : Sound lost s) (handle : Nat) :
    Sound lost { s with files := s.files.opened (.foreign handle) } := by
  have more := Descriptors.refs_opened s.files (.foreign handle)
  refine ⟨fun listening => elsewhere (sound.server listening),
    fun connected => elsewhere (sound.socket connected), ?_, ?_⟩
  · rw [more, if_neg Resource.noConfusion]
    exact sound.listeners
  · rw [more, if_neg Resource.noConfusion]
    exact sound.connections

/-- What other code closes leaves the variables alone. -/
theorem closed (sound : Sound lost s) {fd : Nat}
    (other : (s.files.get fd).any Resource.isForeign) :
    Sound lost { s with files := s.files.closed fd } := by
  obtain ⟨resource, standing, foreign⟩ := (Option.any_eq_true _ _).mp other
  have fewer := Descriptors.refs_closed standing
  have elsewhere : ∀ {fd' : Nat} {kind : Resource}, kind.isForeign = false →
      s.files.get fd' = some kind → (s.files.closed fd).get fd' = some kind := by
    intro fd' kind own before
    have apart : fd' ≠ fd := by
      rintro rfl
      rw [standing] at before
      rw [Option.some.inj before, own] at foreign
      exact Bool.noConfusion foreign
    rw [Descriptors.get_closed, if_neg apart]
    exact before
  refine ⟨fun listening => elsewhere rfl (sound.server listening),
    fun connected => elsewhere rfl (sound.socket connected), ?_, ?_⟩
  · have same := fewer .listener
    have apart : resource ≠ .listener := by
      rintro rfl
      exact Bool.noConfusion foreign
    rw [if_neg apart, Nat.add_zero] at same
    exact same.trans sound.listeners
  · have same := fewer .connection
    have apart : resource ≠ .connection := by
      rintro rfl
      exact Bool.noConfusion foreign
    rw [if_neg apart, Nat.add_zero] at same
    exact same.trans sound.connections

/-- A socket is opened to listen. -/
theorem listening (sound : Sound lost s) (shut : s.serverFd < 0) :
    Sound lost { s with files := s.files.opened .listener, serverFd := s.files.lowest } := by
  have more := Descriptors.refs_opened s.files .listener
  have natural : (s.files.lowest : Int) ≥ 0 := Int.natCast_nonneg _
  refine ⟨?_, fun connected => elsewhere (sound.socket connected), ?_, ?_⟩
  · intro _
    rw [Int.toNat_natCast, Descriptors.get_opened, if_pos rfl]
  · rw [more, if_pos rfl, sound.listeners, if_neg (Int.not_le.mpr shut), if_pos natural]
  · rw [more, if_neg (by decide)]
    exact sound.connections

/-- Nothing is connected any more as far as the module knows. -/
theorem disconnected (sound : Sound lost s) :
    Sound (lost + if s.socketFd ≥ 0 then 1 else 0) { s with socketFd := -1 } := by
  have shut : (-1 : Int) < 0 := by decide
  refine ⟨sound.server, fun still => absurd still (Int.not_le.mpr shut), sound.listeners, ?_⟩
  rw [if_neg (Int.not_le.mpr shut), Nat.zero_add, Nat.add_comm lost]
  exact sound.connections

/-- A connection is accepted. -/
theorem connected (sound : Sound lost s) :
    Sound (lost + if s.socketFd ≥ 0 then 1 else 0)
      { s with files := s.files.opened .connection, socketFd := s.files.lowest } := by
  have more := Descriptors.refs_opened s.files .connection
  have natural : (s.files.lowest : Int) ≥ 0 := Int.natCast_nonneg _
  refine ⟨fun listening => elsewhere (sound.server listening), ?_, ?_, ?_⟩
  · intro _
    rw [Int.toNat_natCast, Descriptors.get_opened, if_pos rfl]
  · rw [more, if_neg (by decide)]
    exact sound.listeners
  · rw [more, if_pos rfl, sound.connections, if_pos natural]
    omega

/-- Closing both leaves no variable set. -/
theorem destructor (sound : Sound lost s) :
    Sound lost s.destructor ∧ s.destructor.serverFd < 0 ∧ s.destructor.socketFd < 0 ∧
      ∀ handle, s.destructor.files.refs (.foreign handle) = s.files.refs (.foreign handle) := by
  obtain ⟨first, shut, _, same⟩ := sound.closeServer
  obtain ⟨second, disconnected, kept, same'⟩ := first.closeSocket
  refine ⟨second, ?_, disconnected, fun handle => (same' handle).trans (same handle)⟩
  exact lt_of_eq_of_lt kept shut

/-- `on_instance` closes what was open before it listens, also when it fails. -/
theorem onInstance (sound : Sound lost s) (outcome : Listening) :
    Sound lost (s.onInstance outcome) ∧
      ∀ handle, (s.onInstance outcome).files.refs (.foreign handle) =
        s.files.refs (.foreign handle) := by
  obtain ⟨closed, shut, disconnected, same⟩ := sound.destructor
  rw [ServerSide.onInstance]
  split
  · exact ⟨sound, fun _ => rfl⟩
  split
  · have negative : (-1 : Int) < 0 := by decide
    refine ⟨⟨fun still => absurd still (Int.not_le.mpr negative), closed.socket, ?_,
      closed.connections⟩, same⟩
    have none := closed.listeners
    rw [if_neg (Int.not_le.mpr shut)] at none
    rw [if_neg (Int.not_le.mpr negative)]
    exact none
  have listens := closed.listening shut
  have more : ∀ handle, (s.destructor.files.opened .listener).refs (.foreign handle) =
      s.files.refs (.foreign handle) := by
    intro handle
    rw [Descriptors.refs_opened, if_neg Resource.noConfusion]
    exact same handle
  split
  · exact ⟨listens, more⟩
  · obtain ⟨again, _, _, same'⟩ := listens.closeServer
    have natural : (s.destructor.files.lowest : Int) ≥ 0 := Int.natCast_nonneg _
    rw [ServerSide.closeServer, if_pos natural] at again same'
    exact ⟨again, fun handle => (same' handle).trans (more handle)⟩

/-- The handler of `CLIENT_CONNECTING` overwrites what `socket_fd` stands for. -/
theorem clientConnecting (sound : Sound lost s) (accepted : Bool) :
    Sound (lost + if s.socketFd ≥ 0 then 1 else 0) (s.clientConnecting accepted) ∧
      ∀ handle, (s.clientConnecting accepted).files.refs (.foreign handle) =
        s.files.refs (.foreign handle) := by
  rw [ServerSide.clientConnecting]
  by_cases possible : accepted ∧ s.serverFd ≥ 0
  · rw [if_pos possible]
    refine ⟨sound.connected, ?_⟩
    intro handle
    rw [Descriptors.refs_opened, if_neg Resource.noConfusion, Nat.add_zero]
  · rw [if_neg possible]
    exact ⟨sound.disconnected, fun _ => rfl⟩

/-- Every event keeps the variables in step with what is open. -/
theorem after (sound : Sound lost s) (event : ServerEvent) (fine : s.allowed event) :
    Sound (lost + s.overwritten event) (s.after event) := by
  cases event with
  | onInstance outcome => exact (sound.onInstance outcome).1
  | clientConnecting accepted => exact (sound.clientConnecting accepted).1
  | onInstanceDestroy => exact sound.destructor.1
  | destructor => exact sound.destructor.1
  | opened handle => exact sound.opened handle
  | closed fd => exact sound.closed fine
  | writeHandle fd =>
    rw [ServerSide.after, Side.serverWriteHandle, Side.writeHandle]
    split
    · exact sound
    · exact sound.closed fine
  | readHandle arrival =>
    cases arrival with
    | error =>
      rw [ServerSide.after, Side.readHandle_of_failure _ fun _ => Side.Arrival.noConfusion]
      exact sound
    | invalid =>
      rw [ServerSide.after, Side.readHandle_of_failure _ fun _ => Side.Arrival.noConfusion]
      exact sound
    | handle handle =>
      by_cases shut : s.socketFd < 0
      · rw [ServerSide.after, Side.readHandle_of_shut shut]
        exact sound
      · rw [ServerSide.after, Side.readHandle_of_connected shut]
        exact sound.opened handle

end Sound

/-- Only other code, and the handles that are exchanged, change what is open for other code. -/
theorem refs_after {lost : Nat} {s : ServerSide} (sound : Sound lost s) (event : ServerEvent)
    (fine : s.allowed event) (handle : Nat) :
    ((s.after event).files.refs (.foreign handle) : Int) =
      s.files.refs (.foreign handle) + s.change handle event := by
  have none : ∀ {s' : ServerSide},
      s'.files.refs (.foreign handle) = s.files.refs (.foreign handle) →
      (s'.files.refs (.foreign handle) : Int) = s.files.refs (.foreign handle) + 0 := by
    intro s' same
    rw [same, Int.add_zero]
  have entered : ∀ more, ((s.files.opened (.foreign more)).refs (.foreign handle) : Int) =
      s.files.refs (.foreign handle) + if more = handle then 1 else 0 := by
    intro more
    rw [Descriptors.refs_opened]
    simp only [Resource.foreign.injEq]
    split
    · rfl
    · rfl
  have removed : ∀ {fd : Nat}, (s.files.get fd).any Resource.isForeign →
      ((s.files.closed fd).refs (.foreign handle) : Int) =
        s.files.refs (.foreign handle) +
          if s.files.get fd = some (.foreign handle) then -1 else 0 := by
    intro fd other
    obtain ⟨resource, standing, _⟩ := (Option.any_eq_true _ _).mp other
    have fewer := Descriptors.refs_closed standing (.foreign handle)
    rw [standing]
    simp only [Option.some.injEq]
    split at fewer
    next same =>
      rw [if_pos same]
      omega
    next different =>
      rw [if_neg different]
      omega
  cases event with
  | onInstance outcome => exact none ((sound.onInstance outcome).2 handle)
  | clientConnecting accepted => exact none ((sound.clientConnecting accepted).2 handle)
  | onInstanceDestroy => exact none (sound.destructor.2.2.2 handle)
  | destructor => exact none (sound.destructor.2.2.2 handle)
  | opened more => exact entered more
  | closed fd => exact removed fine
  | writeHandle fd =>
    rw [after, Side.serverWriteHandle, Side.writeHandle, change]
    by_cases refused : s.socketFd ≤ 0
    · have zero : ¬(s.socketFd > 0 ∧ s.files.get fd = some (.foreign handle)) :=
        fun both => absurd both.1 (Int.not_lt.mpr refused)
      rw [if_pos (decide_eq_true refused), if_neg zero, Int.add_zero]
    · have positive : s.socketFd > 0 := Int.not_le.mp refused
      rw [if_neg (fun yes => refused (of_decide_eq_true yes))]
      simp only [positive, true_and]
      exact removed fine
  | readHandle arrival =>
    rw [after, change]
    by_cases arrives : ∃ received, arrival = .handle received
    · obtain ⟨received, rfl⟩ := arrives
      by_cases shut : s.socketFd < 0
      · have zero : ¬(s.socketFd ≥ 0 ∧ Side.Arrival.handle received = .handle handle) :=
          fun both => absurd both.1 (Int.not_le.mpr shut)
        rw [Side.readHandle_of_shut shut, if_neg zero, Int.add_zero]
      · have connected : s.socketFd ≥ 0 := Int.not_lt.mp shut
        rw [Side.readHandle_of_connected shut]
        simp only [connected, true_and, Side.Arrival.handle.injEq]
        exact entered received
    · have failure : ∀ received, arrival ≠ .handle received :=
        fun received same => arrives ⟨received, same⟩
      have zero : ¬(s.socketFd ≥ 0 ∧ arrival = .handle handle) := fun both => failure _ both.2
      rw [Side.readHandle_of_failure _ failure, if_neg zero, Int.add_zero]

/-- Whatever happens, `server_fd` and `socket_fd` stand for sockets of the module when they are not
negative, nothing else listens, and the other connections that are open are exactly those that
`CLIENT_CONNECTING` has overwritten; the destructor leaves these alone open. What is open for other
code changes only with what that code does and with the handles that are exchanged. -/
theorem sockets_accounted (files : Descriptors Resource) (noListener : files.refs .listener = 0)
    (noConnection : files.refs .connection = 0) (events : List ServerEvent) {s : ServerSide}
    (fine : (system files).Along allowed (system files).init events)
    (ran : (system files).run (system files).init events = some s) :
    (s.serverFd ≥ 0 → s.files.get s.serverFd.toNat = some .listener) ∧
    (s.socketFd ≥ 0 → s.files.get s.socketFd.toNat = some .connection) ∧
    s.files.refs .listener = (if s.serverFd ≥ 0 then 1 else 0) ∧
    s.files.refs .connection = (if s.socketFd ≥ 0 then 1 else 0) +
      (system files).tally overwritten (system files).init events ∧
    s.destructor.files.refs .listener = 0 ∧
    s.destructor.files.refs .connection =
      (system files).tally overwritten (system files).init events ∧
    ∀ handle, (s.files.refs (.foreign handle) : Int) =
      files.refs (.foreign handle) +
        (system files).tally (change handle) (system files).init events := by
  have shut : (-1 : Int) < 0 := by decide
  have start : Sound 0 (system files).init := by
    refine ⟨fun still => absurd still (Int.not_le.mpr shut),
      fun still => absurd still (Int.not_le.mpr shut), ?_, ?_⟩
    · exact noListener
    · exact noConnection
  have sound : Sound (0 + (system files).tally overwritten (system files).init events) s := by
    apply System.run_counts Sound _ start fine ran
    intro lost t event t' sound fine step
    obtain rfl := Option.some.inj step
    exact sound.after event fine
  rw [Nat.zero_add] at sound
  obtain ⟨closed, noServer, noSocket, _⟩ := sound.destructor
  refine ⟨sound.server, sound.socket, sound.listeners, sound.connections, ?_, ?_, ?_⟩
  · have none := closed.listeners
    rw [if_neg (Int.not_le.mpr noServer)] at none
    exact none
  · have few := closed.connections
    rw [if_neg (Int.not_le.mpr noSocket), Nat.zero_add] at few
    exact few
  · intro handle
    have counted : (∃ lost, Sound lost s) ∧ (s.files.refs (.foreign handle) : Int) =
        files.refs (.foreign handle) +
          (0 + (system files).tally (change handle) (system files).init events) := by
      apply System.run_counts
        (fun count t => (∃ lost, Sound lost t) ∧ (t.files.refs (.foreign handle) : Int) =
          files.refs (.foreign handle) + count) _ ⟨⟨0, start⟩, (Int.add_zero _).symm⟩ fine ran
      rintro count t event t' ⟨⟨lost, sound⟩, before⟩ fine step
      obtain rfl := Option.some.inj step
      refine ⟨⟨_, sound.after event fine⟩, ?_⟩
      rw [refs_after sound event fine handle, before, Int.add_assoc]
    rw [Int.zero_add] at counted
    exact counted.2

/-- A second connection without a new instance leaves the first open after the destructor. -/
theorem second_connection_leaks :
    (ServerSide.mk ⟨⟨[some .listener, some .connection, some .connection]⟩, 2⟩
      0).destructor.files.refs
      .connection = 1 :=
  (sockets_accounted ⟨[]⟩ rfl rfl
    [.onInstance .listens, .clientConnecting true, .clientConnecting true]
    ⟨trivial, trivial, trivial, trivial⟩ rfl).2.2.2.2.2.1

end ServerSide

/-! ## Runs of the client -/

/-- What happens in the process of the client. -/
inductive ClientEvent where
  /-- `on_instance`. -/
  | onInstance (created : Bool)
  /-- Other code opens something. -/
  | opened (handle : Nat)
  /-- Other code closes a descriptor. -/
  | closed (fd : Nat)
  /-- A handle is written. -/
  | writeHandle (fd : Nat)
  /-- A handle is read. -/
  | readHandle (arrival : Side.Arrival)
  deriving DecidableEq

namespace Side

/-- The state after an event. -/
def afterClient (s : Side) : ClientEvent → Side
  | .onInstance created => s.clientOnInstance created
  | .opened handle => { s with files := s.files.opened (.foreign handle) }
  | .closed fd => { s with files := s.files.closed fd }
  | .writeHandle fd => s.clientWriteHandle fd
  | .readHandle arrival => (s.readHandle arrival).2

/-- Other code touches only what is its own. -/
def clientAllowed (s : Side) : ClientEvent → Prop
  | .closed fd => (s.files.get fd).any Resource.isForeign
  | .writeHandle fd => (s.files.get fd).any Resource.isForeign
  | _ => True

/-- The process, from no open sockets on. -/
def clientSystem (files : Descriptors Resource) : System Side ClientEvent where
  init := ⟨files, -1⟩
  step s event := some (s.afterClient event)

/-- How many sockets an event creates. -/
def creates (_ : Side) : ClientEvent → Nat
  | .onInstance created => if created then 1 else 0
  | _ => 0

/-- So many connections are open, and `socket_fd` is one of them if it is not negative. -/
structure Holding (count : Nat) (s : Side) : Prop where
  /-- `socket_fd` is open. -/
  socket : s.socketFd ≥ 0 → s.files.get s.socketFd.toNat = some .connection
  /-- The connections. -/
  connections : s.files.refs .connection = count

namespace Holding

variable {count : Nat} {s : Side}

/-- What other code opens is no connection. -/
theorem opened (holding : Holding count s) (handle : Nat) :
    Holding count { s with files := s.files.opened (.foreign handle) } := by
  refine ⟨fun connected => ServerSide.Sound.elsewhere (holding.socket connected), ?_⟩
  rw [Descriptors.refs_opened, if_neg Resource.noConfusion]
  exact holding.connections

/-- What other code closes is no connection. -/
theorem closed (holding : Holding count s) {fd : Nat}
    (other : (s.files.get fd).any Resource.isForeign) :
    Holding count { s with files := s.files.closed fd } := by
  obtain ⟨resource, standing, foreign⟩ := (Option.any_eq_true _ _).mp other
  have apart : resource ≠ .connection := by
    rintro rfl
    exact Bool.noConfusion foreign
  constructor
  · intro connected
    have before := holding.socket connected
    have elsewhere : s.socketFd.toNat ≠ fd := by
      intro same
      rw [same, standing] at before
      exact apart (Option.some.inj before)
    rw [Descriptors.get_closed, if_neg elsewhere]
    exact before
  · have fewer := Descriptors.refs_closed standing .connection
    rw [if_neg apart, Nat.add_zero] at fewer
    exact fewer.trans holding.connections

/-- Every event leaves the connections open. -/
theorem after (holding : Holding count s) (event : ClientEvent) (fine : s.clientAllowed event) :
    Holding (count + s.creates event) (s.afterClient event) := by
  have shut : (-1 : Int) < 0 := by decide
  cases event with
  | onInstance created =>
    cases created with
    | true =>
      refine ⟨fun _ => ?_, ?_⟩
      · show (s.files.opened .connection).get (s.files.lowest : Int).toNat = some .connection
        rw [Int.toNat_natCast, Descriptors.get_opened, if_pos rfl]
      · show (s.files.opened .connection).refs .connection = count + 1
        rw [Descriptors.refs_opened, if_pos rfl, holding.connections]
    | false => exact ⟨fun still => absurd still (Int.not_le.mpr shut), holding.connections⟩
  | opened handle => exact holding.opened handle
  | closed fd => exact holding.closed fine
  | writeHandle fd =>
    rw [afterClient, clientWriteHandle, writeHandle]
    split
    · exact holding
    · exact holding.closed fine
  | readHandle arrival =>
    rw [afterClient]
    by_cases arrives : ∃ handle, arrival = .handle handle
    · obtain ⟨handle, rfl⟩ := arrives
      by_cases none : s.socketFd < 0
      · rw [readHandle_of_shut none]
        exact holding
      · rw [readHandle_of_connected none]
        exact holding.opened handle
    · rw [readHandle_of_failure s fun handle same => arrives ⟨handle, same⟩]
      exact holding

end Holding

/-- Whatever happens, every socket that the client has created stays open, and `socket_fd` is one of
them when it is not negative. -/
theorem client_closes_no_socket (files : Descriptors Resource)
    (noConnection : files.refs .connection = 0) (events : List ClientEvent) {s : Side}
    (fine : (clientSystem files).Along clientAllowed (clientSystem files).init events)
    (ran : (clientSystem files).run (clientSystem files).init events = some s) :
    s.files.refs .connection = (clientSystem files).tally creates (clientSystem files).init events ∧
    (s.socketFd ≥ 0 → s.files.get s.socketFd.toNat = some .connection) := by
  have shut : (-1 : Int) < 0 := by decide
  have start : Holding 0 (clientSystem files).init :=
    ⟨fun still => absurd still (Int.not_le.mpr shut), noConnection⟩
  have holding : Holding (0 + (clientSystem files).tally creates (clientSystem files).init events)
      s := by
    apply System.run_counts Holding _ start fine ran
    intro count t event t' holding fine step
    obtain rfl := Option.some.inj step
    exact holding.after event fine
  rw [Nat.zero_add] at holding
  exact ⟨holding.connections, holding.socket⟩

/-- After two instances two sockets are open. -/
theorem two_instances_two_sockets :
    (Side.mk ⟨[some .connection, some .connection]⟩ 1).files.refs .connection = 2 :=
  (client_closes_no_socket ⟨[]⟩ rfl [.onInstance true, .onInstance true]
    ⟨trivial, trivial, trivial⟩ rfl).1

end Side

end XrTransport.HandleExchange
