import XrTransport.HandleExchange.Sockets

/-!
# Connecting the handle exchange

What the client and the server say to each other until the sockets of the handle exchange are
connected, over any number of clients. The server listens before the client hears that there is an
instance, and waits in `accept` once the client has announced itself. The sockets of both sides then
belong together. A client that announces itself to a listening server and does not connect keeps the
server waiting for good, so that no later client is served.
-/
namespace XrTransport.HandleExchange

/-- What the client asks for. -/
inductive Request where
  /-- `xrCreateInstance`. -/
  | createInstance
  /-- `GET_PATH`. -/
  | getPath
  /-- `CLIENT_CONNECTING`, which is not answered. -/
  | clientConnecting
  /-- `xrDestroyInstance`. -/
  | destroyInstance
  deriving DecidableEq

/-- What the server answers. -/
inductive Reply where
  /-- The result of `xrCreateInstance`. -/
  | created (succeeded : Bool)
  /-- `RETURN_PATH`. -/
  | path
  /-- The result of `xrDestroyInstance`. -/
  | destroyed
  deriving DecidableEq

/-- How far a client has come. Its process creates one instance only. -/
inductive ClientPhase where
  /-- It has no instance. -/
  | fresh
  /-- It waits for the result of `xrCreateInstance`. -/
  | creating
  /-- `on_instance` waits for the path. -/
  | asking
  /-- `on_instance` is about to call `connect`. -/
  | connecting
  /-- `xrCreateInstance` has returned. -/
  | running
  /-- It waits for the result of `xrDestroyInstance`. -/
  | destroying
  /-- `xrDestroyInstance` has returned. -/
  | ended
  deriving DecidableEq

/-- What the process of the server does. -/
inductive ServerPhase where
  /-- `main` waits for a client. -/
  | waiting
  /-- The handlers run. -/
  | serving
  /-- The handler of `CLIENT_CONNECTING` waits in `accept`. -/
  | accepting
  deriving DecidableEq

/-- The server, its client, and what is under way between them. -/
structure Exchange where
  /-- The sockets of the server. -/
  server : ServerSide
  /-- The socket of the client. -/
  client : Side
  /-- What the server does. -/
  serverPhase : ServerPhase
  /-- How far the client has come. -/
  clientPhase : ClientPhase
  /-- The client has ended, or has never been there. -/
  left : Bool
  /-- `connect` of the client has succeeded. -/
  connected : Bool
  /-- How many clients there have been. -/
  number : Nat
  /-- What the server has not handled yet. -/
  requests : List Request
  /-- What the client has not taken yet. -/
  replies : List Reply
  /-- The clients whose connections wait at the listening socket. -/
  backlog : List Nat
  /-- The client whose connection the server has accepted. -/
  peer : Option Nat
  deriving DecidableEq

/-- What happens. -/
inductive Move where
  /-- A client arrives. -/
  | arrive (files : Descriptors Resource)
  /-- The client calls `xrCreateInstance`. -/
  | create
  /-- The client takes an answer; `socket` may fail. -/
  | take (socketCreated : Bool)
  /-- The client calls `connect`, which may not reach the socket of the server. -/
  | connect (reaches : Bool)
  /-- The client calls `xrDestroyInstance`. -/
  | destroy
  /-- The client ends. -/
  | leave
  /-- The server handles a request. -/
  | handle (succeeds : Bool) (outcome : Listening)
  /-- `accept` returns. -/
  | accept (accepted : Bool)
  /-- The connection to a client that has ended is closed, with the modules that served it. -/
  | close
  deriving DecidableEq

namespace ServerSide

/-- A socket that is closed is closed. -/
theorem closeServer_shut (s : ServerSide) :
    s.closeServer.serverFd < 0 ∧ s.closeServer.socketFd = s.socketFd := by
  have negative : (-1 : Int) < 0 := by decide
  rw [closeServer]
  split
  · exact ⟨negative, rfl⟩
  · exact ⟨by omega, rfl⟩

/-- A connection that is closed is closed. -/
theorem closeSocket_shut (s : ServerSide) :
    s.closeSocket.socketFd < 0 ∧ s.closeSocket.serverFd = s.serverFd := by
  have negative : (-1 : Int) < 0 := by decide
  rw [closeSocket]
  split
  · exact ⟨negative, rfl⟩
  · exact ⟨by omega, rfl⟩

/-- The destructor closes both sockets. -/
theorem destructor_shut (s : ServerSide) :
    s.destructor.serverFd < 0 ∧ s.destructor.socketFd < 0 := by
  have first := s.closeServer_shut
  have second := s.closeServer.closeSocket_shut
  rw [destructor]
  omega

/-- When the server listens for a new instance it is not connected. -/
theorem onInstance_shut (s : ServerSide) {outcome : Listening} (path : outcome ≠ .noPath) :
    (s.onInstance outcome).socketFd < 0 := by
  have shut := s.destructor_shut.2
  rw [onInstance, if_neg path]
  split
  · exact shut
  · split
    · exact shut
    · exact shut

end ServerSide

namespace Exchange

/-- The server has a listening socket. -/
def listens (s : Exchange) : Prop := s.server.serverFd ≥ 0

/-- Whether it has one can be decided. -/
instance (s : Exchange) : Decidable s.listens := inferInstanceAs (Decidable (s.server.serverFd ≥ 0))

/-- The client takes an answer. -/
def taken (socketCreated : Bool) (s : Exchange) : Option Exchange :=
  match s.clientPhase, s.replies with
  | .creating, .created succeeded :: replies =>
    if succeeded then
      some { s with clientPhase := .asking, replies, requests := s.requests ++ [.getPath] }
    else some { s with clientPhase := .fresh, replies }
  | .asking, .path :: replies =>
    if socketCreated then
      some { s with
        client := s.client.clientOnInstance true
        clientPhase := .connecting
        replies
        requests := s.requests ++ [.clientConnecting] }
    else
      -- Without a socket the client does not announce itself.
      some { s with client := s.client.clientOnInstance false, clientPhase := .running, replies }
  | .destroying, .destroyed :: replies => some { s with clientPhase := .ended, replies }
  | _, _ => none

/-- The server handles a request. -/
def handled (succeeds : Bool) (outcome : Listening) (s : Exchange) : Option Exchange :=
  match s.requests with
  | [] => none
  | .createInstance :: requests =>
    if succeeds then
      -- A socket that is closed takes its connections with it.
      some { s with
        server := s.server.onInstance outcome
        requests
        replies := s.replies ++ [.created true]
        backlog := if outcome = .noPath then s.backlog else []
        peer := if outcome = .noPath then s.peer else none }
    else some { s with requests, replies := s.replies ++ [.created false] }
  | .getPath :: requests => some { s with requests, replies := s.replies ++ [.path] }
  | .clientConnecting :: requests =>
    if s.listens then some { s with requests, serverPhase := .accepting }
    else some { s with server := s.server.clientConnecting false, requests, peer := none }
  | .destroyInstance :: requests =>
    some { s with
      server := s.server.onInstanceDestroy
      requests
      replies := s.replies ++ [.destroyed]
      backlog := []
      peer := none }

/-- The state after a move, if it is possible. -/
def after (s : Exchange) : Move → Option Exchange
  | .arrive files =>
    if s.serverPhase = .waiting then
      some { s with
        client := ⟨files, -1⟩
        serverPhase := .serving
        clientPhase := .fresh
        left := false
        connected := false
        number := s.number + 1 }
    else none
  | .create =>
    if s.left = false ∧ s.clientPhase = .fresh then
      some { s with clientPhase := .creating, requests := s.requests ++ [.createInstance] }
    else none
  | .take socketCreated => if s.left then none else s.taken socketCreated
  | .connect reaches =>
    if s.left = false ∧ s.clientPhase = .connecting then
      if reaches ∧ s.listens then
        some { s with
          clientPhase := .running
          connected := true
          backlog := s.backlog ++ [s.number] }
      else some { s with clientPhase := .running }
    else none
  | .destroy =>
    if s.left = false ∧ s.clientPhase = .running then
      some { s with clientPhase := .destroying, requests := s.requests ++ [.destroyInstance] }
    else none
  | .leave => if s.left then none else some { s with left := true }
  | .handle succeeds outcome =>
    if s.serverPhase = .serving then s.handled succeeds outcome else none
  | .accept accepted =>
    if s.serverPhase = .accepting then
      if accepted then
        match s.backlog with
        | [] => none
        | number :: backlog =>
          some { s with
            server := s.server.clientConnecting true
            serverPhase := .serving
            backlog
            peer := some number }
      else
        some { s with
          server := s.server.clientConnecting false
          serverPhase := .serving
          peer := none }
    else none
  | .close =>
    if s.left ∧ s.serverPhase = .serving then
      some { s with
        server := s.server.destructor
        serverPhase := .waiting
        requests := []
        replies := []
        backlog := []
        peer := none }
    else none

/-- The process of the server, before its first client. -/
def system (files : Descriptors Resource) : System Exchange Move where
  init :=
    { server := ⟨⟨files, -1⟩, -1⟩
      client := ⟨⟨[]⟩, -1⟩
      serverPhase := .waiting
      clientPhase := .fresh
      left := true
      connected := false
      number := 0
      requests := []
      replies := []
      backlog := []
      peer := none }
  step := after

/-- The server waits in `accept`, nothing is there to be accepted, and the client is not about to
connect. -/
def Blocked (s : Exchange) : Prop :=
  s.serverPhase = .accepting ∧ s.backlog = [] ∧ ¬(s.clientPhase = .connecting ∧ s.left = false)

/-- A client that has announced itself to a listening server connects before it ends. -/
def Connects (s : Exchange) : Move → Prop
  | .connect reaches => s.listens → reaches
  | .leave => s.clientPhase = .connecting → ¬s.listens
  | _ => True

/-- `accept` does not fail. -/
def Accepts : Move → Prop
  | .accept accepted => accepted
  | _ => True

/-! ## What every run keeps -/

/-- How far the connection has come, when these requests are ahead of others. -/
structure Exchanged (s : Exchange) (ahead : List Request) : Prop where
  /-- The server has still to hear of the client, or has heard of it. -/
  announced : ahead = [.clientConnecting] ∧ s.serverPhase = .serving ∨ ahead = []
  /-- Nothing can be accepted before the client connects. -/
  unconnected : s.connected = false → s.backlog = [] ∧ s.peer = none
  /-- The connection waits, or has been accepted. -/
  connected : s.connected = true → s.backlog = [s.number] ∧ s.peer = none ∨
    s.backlog = [] ∧ s.peer = some s.number ∧ ahead = [] ∧ s.serverPhase = .serving

/-- There is no connection, and the server does not wait for one. -/
structure Unmet (s : Exchange) : Prop where
  /-- The client has not connected. -/
  unconnected : s.connected = false
  /-- No connection waits. -/
  backlog : s.backlog = []
  /-- No connection has been accepted. -/
  peer : s.peer = none
  /-- The handlers run. -/
  serving : s.serverPhase = .serving

/-- The client has announced itself or has gone on without, and these requests are the first. -/
structure Late (s : Exchange) (ahead : List Request) : Prop where
  /-- Nothing is answered. -/
  replies : s.replies = []
  /-- How far the connection has come. -/
  exchanged : s.Exchanged ahead
  /-- Only a request to destroy the instance may follow. -/
  phase : s.clientPhase = .connecting ∧ s.connected = false ∧ s.requests = ahead ∨
    s.clientPhase = .running ∧ s.requests = ahead ∨
    s.clientPhase = .destroying ∧ s.requests = ahead ++ [.destroyInstance]

/-- What is under way, by how far the client has come. -/
def Orderly (s : Exchange) : Prop :=
  match s.clientPhase with
  | .fresh => s.requests = [] ∧ s.replies = [] ∧ s.Unmet
  | .creating => s.Unmet ∧ (s.requests = [.createInstance] ∧ s.replies = [] ∨
      s.requests = [] ∧ ∃ succeeded, s.replies = [.created succeeded])
  | .asking => s.Unmet ∧ (s.requests = [.getPath] ∧ s.replies = [] ∨
      s.requests = [] ∧ s.replies = [.path])
  | .connecting => s.replies = [] ∧ s.connected = false ∧ s.Exchanged s.requests
  | .running => s.replies = [] ∧ s.Exchanged s.requests
  | .destroying =>
    (s.replies = [] ∧ ∃ ahead, s.requests = ahead ++ [.destroyInstance] ∧ s.Exchanged ahead) ∨
    (s.requests = [] ∧ s.replies = [.destroyed] ∧ s.serverPhase = .serving)
  | .ended => s.requests = [] ∧ s.replies = [] ∧ s.serverPhase = .serving

/-- What holds in every state. -/
structure Sound (s : Exchange) : Prop where
  /-- Between two clients nothing is left of the first. -/
  reset : s.serverPhase = .waiting →
    s.left = true ∧ s.requests = [] ∧ s.replies = [] ∧ s.backlog = [] ∧ s.peer = none
  /-- While there is a client, what is under way is in order. -/
  orderly : s.serverPhase ≠ .waiting → s.Orderly
  /-- `socket_fd` of the server is a connection that was accepted. -/
  paired : s.peer.isSome ↔ s.server.socketFd ≥ 0
  /-- The server waits for connections only where it listens. -/
  listening : s.serverPhase = .accepting → s.listens
  /-- Connections wait only where the server listens. -/
  standing : s.backlog ≠ [] → s.listens

namespace Sound

variable {s s' : Exchange}

/-- A client that has not left is served. -/
theorem served (sound : s.Sound) (stays : s.left = false) : s.serverPhase ≠ .waiting := by
  intro waiting
  have left := (sound.reset waiting).1
  rw [stays] at left
  exact Bool.noConfusion left

/-- A client arrives. -/
theorem arrive (sound : s.Sound) {files : Descriptors Resource}
    (step : s.after (.arrive files) = some s') : s'.Sound := by
  obtain ⟨waiting, same⟩ := Option.ite_none_right_eq_some.mp step
  obtain rfl := Option.some.inj same
  obtain ⟨_, requests, replies, backlog, peer⟩ := sound.reset waiting
  refine ⟨fun again => absurd again (by simp),
    fun _ => ⟨requests, replies, rfl, backlog, peer, rfl⟩,
    sound.paired, fun accepting => absurd accepting (by simp), sound.standing⟩

/-- The client calls `xrCreateInstance`. -/
theorem create (sound : s.Sound) (step : s.after .create = some s') : s'.Sound := by
  obtain ⟨⟨stays, fresh⟩, same⟩ := Option.ite_none_right_eq_some.mp step
  obtain rfl := Option.some.inj same
  have served := sound.served stays
  have orderly := sound.orderly served
  rw [Orderly, fresh] at orderly
  obtain ⟨requests, replies, unmet⟩ := orderly
  refine ⟨fun waiting => absurd waiting served,
    fun _ => ⟨⟨unmet.1, unmet.2, unmet.3, unmet.4⟩, .inl ⟨?_, replies⟩⟩,
    sound.paired, sound.listening, sound.standing⟩
  show s.requests ++ _ = _
  rw [requests]
  rfl

/-- The client takes an answer. -/
theorem take (sound : s.Sound) {socketCreated : Bool}
    (step : s.after (.take socketCreated) = some s') : s'.Sound := by
  obtain ⟨stays, same⟩ := Option.ite_none_left_eq_some.mp step
  have served := sound.served (Bool.eq_false_iff.mpr stays)
  have orderly := sound.orderly served
  rw [taken] at same
  cases phase : s.clientPhase with
  | creating =>
    rw [Orderly, phase] at orderly
    obtain ⟨unmet, ⟨_, none⟩ | ⟨requests, succeeded, answered⟩⟩ := orderly
    · rw [phase, none] at same
      exact absurd same (Option.some_ne_none _).symm
    · rw [phase, answered] at same
      cases succeeded with
      | true =>
        obtain rfl := Option.some.inj same
        refine ⟨fun waiting => absurd waiting served,
          fun _ => ⟨⟨unmet.1, unmet.2, unmet.3, unmet.4⟩, .inl ⟨?_, rfl⟩⟩,
          sound.paired, sound.listening, sound.standing⟩
        show s.requests ++ _ = _
        rw [requests]
        rfl
      | false =>
        obtain rfl := Option.some.inj same
        exact ⟨fun waiting => absurd waiting served,
          fun _ => ⟨requests, rfl, unmet.1, unmet.2, unmet.3, unmet.4⟩,
          sound.paired, sound.listening, sound.standing⟩
  | asking =>
    rw [Orderly, phase] at orderly
    obtain ⟨unmet, ⟨_, none⟩ | ⟨requests, answered⟩⟩ := orderly
    · rw [phase, none] at same
      exact absurd same (Option.some_ne_none _).symm
    · rw [phase, answered] at same
      have no : ¬s.connected = true := by
        rw [unmet.unconnected]
        exact Bool.false_ne_true
      cases socketCreated with
      | true =>
        obtain rfl := Option.some.inj same
        refine ⟨fun waiting => absurd waiting served,
          fun _ => ⟨rfl, unmet.1, .inl ⟨?_, unmet.4⟩, fun _ => ⟨unmet.2, unmet.3⟩,
            fun connected => absurd connected no⟩,
          sound.paired, sound.listening, sound.standing⟩
        show s.requests ++ _ = _
        rw [requests]
        rfl
      | false =>
        obtain rfl := Option.some.inj same
        exact ⟨fun waiting => absurd waiting served,
          fun _ => ⟨rfl, .inr requests, fun _ => ⟨unmet.2, unmet.3⟩,
            fun connected => absurd connected no⟩,
          sound.paired, sound.listening, sound.standing⟩
  | destroying =>
    rw [Orderly, phase] at orderly
    obtain ⟨none, _⟩ | ⟨requests, answered, serving⟩ := orderly
    · rw [phase, none] at same
      exact absurd same (Option.some_ne_none _).symm
    · rw [phase, answered] at same
      obtain rfl := Option.some.inj same
      exact ⟨fun waiting => absurd waiting served, fun _ => ⟨requests, rfl, serving⟩,
        sound.paired, sound.listening, sound.standing⟩
  | fresh =>
    rw [phase] at same
    exact absurd same (Option.some_ne_none _).symm
  | connecting =>
    rw [phase] at same
    exact absurd same (Option.some_ne_none _).symm
  | running =>
    rw [phase] at same
    exact absurd same (Option.some_ne_none _).symm
  | ended =>
    rw [phase] at same
    exact absurd same (Option.some_ne_none _).symm

/-- The client calls `connect`. -/
theorem connect (sound : s.Sound) {reaches : Bool}
    (step : s.after (.connect reaches) = some s') : s'.Sound := by
  obtain ⟨⟨stays, phase⟩, same⟩ := Option.ite_none_right_eq_some.mp step
  have served := sound.served stays
  have orderly := sound.orderly served
  rw [Orderly, phase] at orderly
  obtain ⟨replies, alone, exchanged⟩ := orderly
  obtain ⟨backlog, peer⟩ := exchanged.unconnected alone
  split at same
  case isTrue reached =>
    obtain rfl := Option.some.inj same
    have waits : s.backlog ++ [s.number] = [s.number] := by rw [backlog, List.nil_append]
    exact ⟨fun waiting => absurd waiting served,
      fun _ => ⟨replies, exchanged.announced, fun no => absurd no Bool.noConfusion,
        fun _ => .inl ⟨waits, peer⟩⟩,
      sound.paired, sound.listening, fun _ => reached.2⟩
  case isFalse refused =>
    obtain rfl := Option.some.inj same
    exact ⟨fun waiting => absurd waiting served,
      fun _ => ⟨replies, exchanged.announced, exchanged.unconnected, exchanged.connected⟩,
      sound.paired, sound.listening, sound.standing⟩

/-- The client calls `xrDestroyInstance`. -/
theorem destroy (sound : s.Sound) (step : s.after .destroy = some s') : s'.Sound := by
  obtain ⟨⟨stays, phase⟩, same⟩ := Option.ite_none_right_eq_some.mp step
  obtain rfl := Option.some.inj same
  have served := sound.served stays
  have orderly := sound.orderly served
  rw [Orderly, phase] at orderly
  obtain ⟨replies, exchanged⟩ := orderly
  exact ⟨fun waiting => absurd waiting served,
    fun _ => .inl ⟨replies, s.requests, rfl, exchanged.announced, exchanged.unconnected,
      exchanged.connected⟩,
    sound.paired, sound.listening, sound.standing⟩

/-- What is under way does not depend on whether the client has left. -/
theorem orderly_left (orderly : s.Orderly) (left : Bool) : { s with left }.Orderly := by
  rw [Orderly] at orderly ⊢
  dsimp only
  cases phase : s.clientPhase with
  | fresh =>
    rw [phase] at orderly
    exact ⟨orderly.1, orderly.2.1, orderly.2.2.1, orderly.2.2.2, orderly.2.2.3, orderly.2.2.4⟩
  | creating =>
    rw [phase] at orderly
    exact ⟨⟨orderly.1.1, orderly.1.2, orderly.1.3, orderly.1.4⟩, orderly.2⟩
  | asking =>
    rw [phase] at orderly
    exact ⟨⟨orderly.1.1, orderly.1.2, orderly.1.3, orderly.1.4⟩, orderly.2⟩
  | connecting =>
    rw [phase] at orderly
    exact ⟨orderly.1, orderly.2.1, orderly.2.2.1, orderly.2.2.2, orderly.2.2.3⟩
  | running =>
    rw [phase] at orderly
    exact ⟨orderly.1, orderly.2.1, orderly.2.2, orderly.2.3⟩
  | destroying =>
    rw [phase] at orderly
    rcases orderly with ⟨replies, ahead, requests, exchanged⟩ | answered
    · exact .inl ⟨replies, ahead, requests, exchanged.1, exchanged.2, exchanged.3⟩
    · exact .inr answered
  | ended =>
    rw [phase] at orderly
    exact orderly

/-- The client ends. -/
theorem leave (sound : s.Sound) (step : s.after .leave = some s') : s'.Sound := by
  obtain ⟨_, same⟩ := Option.ite_none_left_eq_some.mp step
  obtain rfl := Option.some.inj same
  exact ⟨fun waiting => ⟨rfl, (sound.reset waiting).2⟩,
    fun served => orderly_left (sound.orderly served) true,
    sound.paired, sound.listening, sound.standing⟩

/-- The connection to the client is closed. -/
theorem close (step : s.after .close = some s') : s'.Sound := by
  obtain ⟨⟨left, _⟩, same⟩ := Option.ite_none_right_eq_some.mp step
  obtain rfl := Option.some.inj same
  refine ⟨fun _ => ⟨left, rfl, rfl, rfl, rfl⟩, fun served => absurd rfl served, ?_,
    fun accepting => absurd accepting (by simp), fun some => absurd rfl some⟩
  have shut := s.server.destructor_shut.2
  exact ⟨fun some => absurd some Bool.false_ne_true,
    fun opened => absurd opened (Int.not_le.mpr shut)⟩

/-- What comes late is in order. -/
theorem orderly_of_late {ahead : List Request} (late : s.Late ahead) : s.Orderly := by
  rw [Orderly]
  rcases late.phase with ⟨phase, alone, requests⟩ | ⟨phase, requests⟩ | ⟨phase, requests⟩
  · rw [phase, requests]
    exact ⟨late.replies, alone, late.exchanged⟩
  · rw [phase, requests]
    exact ⟨late.replies, late.exchanged⟩
  · rw [phase]
    exact .inl ⟨late.replies, ahead, requests, late.exchanged⟩

/-- While the server waits for a connection it has taken the announcement. -/
theorem late_of_accepting (orderly : s.Orderly) (accepting : s.serverPhase = .accepting) :
    s.Late [] := by
  have busy : ∀ {claim : Prop}, s.serverPhase = .serving → claim := by
    intro claim serving
    rw [accepting] at serving
    exact ServerPhase.noConfusion serving
  rw [Orderly] at orderly
  cases phase : s.clientPhase with
  | fresh =>
    rw [phase] at orderly
    exact busy orderly.2.2.serving
  | creating =>
    rw [phase] at orderly
    exact busy orderly.1.serving
  | asking =>
    rw [phase] at orderly
    exact busy orderly.1.serving
  | connecting =>
    rw [phase] at orderly
    obtain ⟨replies, alone, exchanged⟩ := orderly
    rcases exchanged.announced with ⟨_, serving⟩ | none
    · exact busy serving
    · rw [none] at exchanged
      exact ⟨replies, exchanged, .inl ⟨phase, alone, none⟩⟩
  | running =>
    rw [phase] at orderly
    obtain ⟨replies, exchanged⟩ := orderly
    rcases exchanged.announced with ⟨_, serving⟩ | none
    · exact busy serving
    · rw [none] at exchanged
      exact ⟨replies, exchanged, .inr (.inl ⟨phase, none⟩)⟩
  | destroying =>
    rw [phase] at orderly
    obtain ⟨replies, ahead, requests, exchanged⟩ | ⟨_, _, serving⟩ := orderly
    · rcases exchanged.announced with ⟨_, serving⟩ | rfl
      · exact busy serving
      · exact ⟨replies, exchanged, .inr (.inr ⟨phase, requests⟩)⟩
    · exact busy serving
  | ended =>
    rw [phase] at orderly
    exact busy orderly.2.2

/-- What can be accepted is the connection of the client. -/
theorem own_connection (late : s.Late []) (accepting : s.serverPhase = .accepting) {number : Nat}
    {backlog : List Nat} (queue : s.backlog = number :: backlog) :
    s.connected = true ∧ number = s.number ∧ backlog = [] := by
  have connected : s.connected = true := by
    by_contra alone
    have none := (late.exchanged.unconnected (Bool.eq_false_iff.mpr alone)).1
    rw [queue] at none
    exact absurd none (List.cons_ne_nil _ _)
  rcases late.exchanged.connected connected with ⟨only, _⟩ | ⟨_, _, _, serving⟩
  · rw [queue] at only
    exact ⟨connected, List.cons.inj only⟩
  · rw [accepting] at serving
    exact ServerPhase.noConfusion serving

/-- What the server may have to handle next, and how far the client has come then. -/
inductive Next (s : Exchange) : Request → List Request → Prop where
  /-- The client waits for its instance. -/
  | createInstance (phase : s.clientPhase = .creating) (replies : s.replies = [])
    (unmet : s.Unmet) :
    Next s .createInstance []
  /-- The client waits for the path. -/
  | getPath (phase : s.clientPhase = .asking) (replies : s.replies = []) (unmet : s.Unmet) :
    Next s .getPath []
  /-- The client has announced itself. -/
  | clientConnecting {rest : List Request} (late : s.Late [.clientConnecting])
    (requests : s.requests = .clientConnecting :: rest) : Next s .clientConnecting rest
  /-- Only this is still to be done for the client. -/
  | destroyInstance (phase : s.clientPhase = .destroying) (replies : s.replies = [])
    (exchanged : s.Exchanged []) : Next s .destroyInstance []

/-- An order determines what is handled next. -/
theorem next_of_orderly (orderly : s.Orderly) {request : Request} {rest : List Request}
    (requests : s.requests = request :: rest) : Next s request rest := by
  rw [Orderly] at orderly
  cases phase : s.clientPhase with
  | fresh =>
    rw [phase, requests] at orderly
    exact absurd orderly.1 (List.cons_ne_nil _ _)
  | creating =>
    rw [phase, requests] at orderly
    obtain ⟨unmet, ⟨only, replies⟩ | ⟨none, _⟩⟩ := orderly
    · obtain ⟨rfl, rfl⟩ := List.cons.inj only
      exact .createInstance phase replies unmet
    · exact absurd none (List.cons_ne_nil _ _)
  | asking =>
    rw [phase, requests] at orderly
    obtain ⟨unmet, ⟨only, replies⟩ | ⟨none, _⟩⟩ := orderly
    · obtain ⟨rfl, rfl⟩ := List.cons.inj only
      exact .getPath phase replies unmet
    · exact absurd none (List.cons_ne_nil _ _)
  | connecting =>
    rw [phase] at orderly
    obtain ⟨replies, alone, exchanged⟩ := orderly
    rw [requests] at exchanged
    rcases exchanged.announced with ⟨only, _⟩ | none
    · obtain ⟨rfl, rfl⟩ := List.cons.inj only
      exact .clientConnecting ⟨replies, exchanged, .inl ⟨phase, alone, requests⟩⟩ requests
    · exact absurd none (List.cons_ne_nil _ _)
  | running =>
    rw [phase] at orderly
    obtain ⟨replies, exchanged⟩ := orderly
    rw [requests] at exchanged
    rcases exchanged.announced with ⟨only, _⟩ | none
    · obtain ⟨rfl, rfl⟩ := List.cons.inj only
      exact .clientConnecting ⟨replies, exchanged, .inr (.inl ⟨phase, requests⟩)⟩ requests
    · exact absurd none (List.cons_ne_nil _ _)
  | destroying =>
    rw [phase] at orderly
    obtain ⟨replies, ahead, order, exchanged⟩ | ⟨none, _⟩ := orderly
    · rw [requests] at order
      rcases exchanged.announced with ⟨rfl, _⟩ | rfl
      · obtain ⟨rfl, rfl⟩ := List.cons.inj order
        exact .clientConnecting ⟨replies, exchanged, .inr (.inr ⟨phase, requests⟩)⟩ requests
      · obtain ⟨rfl, rfl⟩ := List.cons.inj order
        exact .destroyInstance phase replies exchanged
    · rw [requests] at none
      exact absurd none (List.cons_ne_nil _ _)
  | ended =>
    rw [phase, requests] at orderly
    exact absurd orderly.1 (List.cons_ne_nil _ _)

/-- The server handles a request. -/
theorem handle (sound : s.Sound) {succeeds : Bool} {outcome : Listening}
    (step : s.after (.handle succeeds outcome) = some s') : s'.Sound := by
  obtain ⟨serving, same⟩ := Option.ite_none_right_eq_some.mp step
  have served : s.serverPhase ≠ .waiting := by
    rw [serving]
    exact ServerPhase.noConfusion
  have resting : s.serverPhase ≠ .accepting := by
    rw [serving]
    exact ServerPhase.noConfusion
  have orderly := sound.orderly served
  rw [handled] at same
  cases requests : s.requests with
  | nil =>
    rw [requests] at same
    exact absurd same (Option.some_ne_none _).symm
  | cons request rest =>
    rw [requests] at same
    cases next_of_orderly orderly requests with
    | createInstance phase replies unmet =>
      have answered : ∀ reply, s.replies ++ [reply] = [reply] := by
        intro reply
        rw [replies, List.nil_append]
      have none : ∀ backlog, (backlog = s.backlog ∨ backlog = []) → backlog = [] := by
        intro backlog either
        rcases either with rfl | rfl
        · exact unmet.backlog
        · rfl
      cases succeeds with
      | true =>
        obtain rfl := Option.some.inj same
        have backlog : (if outcome = .noPath then s.backlog else []) = [] := by
          rw [unmet.backlog, ite_self]
        have peer : (if outcome = .noPath then s.peer else Option.none) = Option.none := by
          rw [unmet.peer, ite_self]
        refine ⟨fun waiting => absurd waiting served, fun _ => ?_, ?_,
          fun accepting => absurd accepting resting, fun some => absurd backlog some⟩
        · rw [Orderly]
          dsimp only
          rw [phase]
          exact ⟨⟨unmet.1, backlog, peer, serving⟩, .inr ⟨rfl, true, answered _⟩⟩
        · dsimp only
          rw [peer]
          by_cases path : outcome = .noPath
          · rw [← unmet.peer, ServerSide.onInstance, if_pos path]
            exact sound.paired
          · have shut := s.server.onInstance_shut path
            exact ⟨fun some => absurd some Bool.false_ne_true,
              fun opened => absurd opened (Int.not_le.mpr shut)⟩
      | false =>
        obtain rfl := Option.some.inj same
        refine ⟨fun waiting => absurd waiting served, fun _ => ?_, sound.paired,
          fun accepting => absurd accepting resting, sound.standing⟩
        rw [Orderly]
        dsimp only
        rw [phase]
        exact ⟨⟨unmet.1, unmet.2, unmet.3, unmet.4⟩, .inr ⟨rfl, false, answered _⟩⟩
    | getPath phase replies unmet =>
      obtain rfl := Option.some.inj same
      refine ⟨fun waiting => absurd waiting served, fun _ => ?_, sound.paired,
        fun accepting => absurd accepting resting, sound.standing⟩
      rw [Orderly]
      dsimp only
      rw [phase]
      refine ⟨⟨unmet.1, unmet.2, unmet.3, unmet.4⟩, .inr ⟨rfl, ?_⟩⟩
      rw [replies, List.nil_append]
    | clientConnecting late _ =>
      have waits : s.connected = true → s.backlog = [s.number] := by
        intro connected
        rcases late.exchanged.connected connected with ⟨backlog, _⟩ | ⟨_, _, none, _⟩
        · exact backlog
        · exact absurd none (List.cons_ne_nil _ _)
      have rests : s.clientPhase = .connecting ∧ s.connected = false ∧ rest = [] ∨
          s.clientPhase = .running ∧ rest = [] ∨
          s.clientPhase = .destroying ∧ rest = [] ++ [.destroyInstance] := by
        rcases late.phase with ⟨phase, alone, only⟩ | ⟨phase, only⟩ | ⟨phase, only⟩
        · rw [requests] at only
          exact .inl ⟨phase, alone, (List.cons.inj only).2⟩
        · rw [requests] at only
          exact .inr (.inl ⟨phase, (List.cons.inj only).2⟩)
        · rw [requests] at only
          exact .inr (.inr ⟨phase, (List.cons.inj only).2⟩)
      dsimp only at same
      split at same
      case isTrue listens =>
        obtain rfl := Option.some.inj same
        have heard : ({ s with requests := rest, serverPhase := .accepting } : Exchange).Late [] :=
          ⟨late.replies, ⟨.inr rfl, late.exchanged.unconnected, fun connected =>
            .inl ⟨waits connected, ((late.exchanged.connected connected).elim (·.2) fun taken =>
              absurd taken.2.2.1 (List.cons_ne_nil _ _))⟩⟩, rests⟩
        exact ⟨fun waiting => absurd waiting ServerPhase.noConfusion,
          fun _ => orderly_of_late heard, sound.paired, fun _ => listens, sound.standing⟩
      case isFalse shut =>
        obtain rfl := Option.some.inj same
        have negative : ¬(s.server.clientConnecting false).socketFd ≥ 0 := by
          have fails : (s.server.clientConnecting false).socketFd = -1 := rfl
          rw [fails]
          decide
        have heard : ({ s with
            server := s.server.clientConnecting false
            requests := rest
            peer := none } : Exchange).Late [] :=
          ⟨late.replies, ⟨.inr rfl, fun alone => ⟨(late.exchanged.unconnected alone).1, rfl⟩,
            fun connected => .inl ⟨waits connected, rfl⟩⟩, rests⟩
        exact ⟨fun waiting => absurd waiting served, fun _ => orderly_of_late heard,
          ⟨fun some => absurd some Bool.false_ne_true, fun opened => absurd opened negative⟩,
          fun accepting => absurd accepting resting, sound.standing⟩
    | destroyInstance phase replies exchanged =>
      obtain rfl := Option.some.inj same
      have shut := s.server.destructor_shut.2
      refine ⟨fun waiting => absurd waiting served, fun _ => ?_, ?_,
        fun accepting => absurd accepting resting, fun some => absurd rfl some⟩
      · rw [Orderly]
        dsimp only
        rw [phase]
        refine .inr ⟨rfl, ?_, serving⟩
        rw [replies, List.nil_append]
      · exact ⟨fun some => absurd some Bool.false_ne_true,
          fun opened => absurd opened (Int.not_le.mpr shut)⟩

/-- `accept` returns. -/
theorem accept (sound : s.Sound) {accepted : Bool}
    (step : s.after (.accept accepted) = some s') : s'.Sound := by
  obtain ⟨accepting, same⟩ := Option.ite_none_right_eq_some.mp step
  have served : s.serverPhase ≠ .waiting := by
    rw [accepting]
    exact ServerPhase.noConfusion
  have late := late_of_accepting (sound.orderly served) accepting
  have listens : s.server.serverFd ≥ 0 := sound.listening accepting
  have waits : s.connected = true → s.backlog = [s.number] := by
    intro connected
    rcases late.exchanged.connected connected with ⟨backlog, _⟩ | ⟨_, _, _, serving⟩
    · exact backlog
    · rw [accepting] at serving
      exact ServerPhase.noConfusion serving
  cases accepted with
  | true =>
    rw [if_pos rfl] at same
    cases queue : s.backlog with
    | nil =>
      rw [queue] at same
      exact absurd same (Option.some_ne_none _).symm
    | cons number backlog =>
      rw [queue] at same
      obtain rfl := Option.some.inj same
      obtain ⟨connected, own, empty⟩ := own_connection late accepting queue
      have opens : s.server.clientConnecting true =
          { s.server with toSide := ⟨s.server.files.opened .connection, s.server.files.lowest⟩ } :=
        if_pos ⟨rfl, listens⟩
      have positive : (s.server.clientConnecting true).socketFd ≥ 0 := by
        rw [opens]
        exact Int.natCast_nonneg _
      have heard : ({ s with
          server := s.server.clientConnecting true
          serverPhase := .serving
          backlog
          peer := some number } : Exchange).Late [] :=
        ⟨late.replies, ⟨.inr rfl, fun alone => absurd (alone.symm.trans connected)
          Bool.false_ne_true, fun _ => .inr ⟨empty, congrArg some own, rfl, rfl⟩⟩, late.phase⟩
      exact ⟨fun waiting => absurd waiting ServerPhase.noConfusion,
        fun _ => orderly_of_late heard, ⟨fun _ => positive, fun _ => rfl⟩,
        fun accepting => absurd accepting ServerPhase.noConfusion,
        fun some => absurd empty some⟩
  | false =>
    rw [if_neg Bool.false_ne_true] at same
    obtain rfl := Option.some.inj same
    have negative : ¬(s.server.clientConnecting false).socketFd ≥ 0 := by
      have fails : (s.server.clientConnecting false).socketFd = -1 := rfl
      rw [fails]
      decide
    have heard : ({ s with
        server := s.server.clientConnecting false
        serverPhase := .serving
        peer := none } : Exchange).Late [] :=
      ⟨late.replies, ⟨.inr rfl, fun alone => ⟨(late.exchanged.unconnected alone).1, rfl⟩,
        fun connected => .inl ⟨waits connected, rfl⟩⟩, late.phase⟩
    exact ⟨fun waiting => absurd waiting ServerPhase.noConfusion, fun _ => orderly_of_late heard,
      ⟨fun some => absurd some Bool.false_ne_true, fun opened => absurd opened negative⟩,
      fun accepting => absurd accepting ServerPhase.noConfusion, sound.standing⟩

/-- Every move keeps what holds. -/
theorem step (sound : s.Sound) {move : Move} (step : s.after move = some s') : s'.Sound := by
  cases move with
  | arrive files => exact sound.arrive step
  | create => exact sound.create step
  | take socketCreated => exact sound.take step
  | connect reaches => exact sound.connect step
  | destroy => exact sound.destroy step
  | leave => exact sound.leave step
  | handle succeeds outcome => exact sound.handle step
  | accept accepted => exact sound.accept step
  | close => exact close step

/-- It holds at first. -/
theorem init (files : Descriptors Resource) : (system files).init.Sound := by
  refine ⟨fun _ => ⟨rfl, rfl, rfl, rfl, rfl⟩, fun served => absurd rfl served, ?_,
    fun accepting => absurd accepting ServerPhase.noConfusion, fun some => absurd rfl some⟩
  have negative : ¬(-1 : Int) ≥ 0 := by decide
  exact ⟨fun some => absurd some Bool.false_ne_true, fun opened => absurd opened negative⟩

end Sound

/-! ## Main results -/

variable {s s' : Exchange} {files : Descriptors Resource}

/-- Every state that is reached is sound. -/
theorem sound_of_reachable {allowed : Exchange → Move → Prop}
    (reachable : (system files).Reachable allowed s) : s.Sound :=
  reachable.invariant Sound (Sound.init files) fun _ _ _ sound _ taken => sound.step taken

/-- A connection is awaited, as long as `accept` does not fail. -/
structure Met (s : Exchange) : Prop where
  /-- A client that is about to connect is awaited, unless the server does not listen. -/
  refused : s.clientPhase = .connecting →
    s.requests ≠ [] ∨ s.serverPhase = .accepting ∨ ¬s.listens
  /-- A connection that waits is awaited. -/
  awaited : s.backlog ≠ [] → s.requests ≠ [] ∨ s.serverPhase = .accepting

/-- A move keeps connections awaited. -/
theorem Met.step (met : s.Met) (sound : s.Sound) {move : Move} (accepts : Accepts move)
    (step : s.after move = some s') : s'.Met := by
  cases move with
  | arrive files =>
    obtain ⟨waiting, same⟩ := Option.ite_none_right_eq_some.mp step
    obtain rfl := Option.some.inj same
    exact ⟨fun phase => absurd phase ClientPhase.noConfusion,
      fun some => absurd (sound.reset waiting).2.2.2.1 some⟩
  | create =>
    obtain ⟨_, same⟩ := Option.ite_none_right_eq_some.mp step
    obtain rfl := Option.some.inj same
    exact ⟨fun phase => absurd phase ClientPhase.noConfusion,
      fun _ => .inl (List.append_ne_nil_of_right_ne_nil _ (List.cons_ne_nil _ _))⟩
  | take socketCreated =>
    have more : ∀ request, s.requests ++ [request] ≠ [] := fun request =>
      List.append_ne_nil_of_right_ne_nil _ (List.cons_ne_nil request [])
    obtain ⟨_, same⟩ := Option.ite_none_left_eq_some.mp step
    rw [taken] at same
    split at same
    · split at same
      · obtain rfl := Option.some.inj same
        exact ⟨fun phase => absurd phase ClientPhase.noConfusion, fun _ => .inl (more _)⟩
      · obtain rfl := Option.some.inj same
        exact ⟨fun phase => absurd phase ClientPhase.noConfusion, met.awaited⟩
    · split at same
      · obtain rfl := Option.some.inj same
        exact ⟨fun _ => .inl (more _), fun _ => .inl (more _)⟩
      · obtain rfl := Option.some.inj same
        exact ⟨fun phase => absurd phase ClientPhase.noConfusion, met.awaited⟩
    · obtain rfl := Option.some.inj same
      exact ⟨fun phase => absurd phase ClientPhase.noConfusion, met.awaited⟩
    · exact absurd same (Option.some_ne_none _).symm
  | connect reaches =>
    obtain ⟨⟨_, phase⟩, same⟩ := Option.ite_none_right_eq_some.mp step
    split at same
    case isTrue reached =>
      obtain rfl := Option.some.inj same
      refine ⟨fun phase => absurd phase ClientPhase.noConfusion, fun _ => ?_⟩
      rcases met.refused phase with some | accepting | shut
      · exact .inl some
      · exact .inr accepting
      · exact absurd reached.2 shut
    case isFalse refused =>
      obtain rfl := Option.some.inj same
      exact ⟨fun phase => absurd phase ClientPhase.noConfusion, met.awaited⟩
  | destroy =>
    obtain ⟨_, same⟩ := Option.ite_none_right_eq_some.mp step
    obtain rfl := Option.some.inj same
    exact ⟨fun phase => absurd phase ClientPhase.noConfusion,
      fun _ => .inl (List.append_ne_nil_of_right_ne_nil _ (List.cons_ne_nil _ _))⟩
  | leave =>
    obtain ⟨_, same⟩ := Option.ite_none_left_eq_some.mp step
    obtain rfl := Option.some.inj same
    exact ⟨met.refused, met.awaited⟩
  | handle succeeds outcome =>
    obtain ⟨serving, same⟩ := Option.ite_none_right_eq_some.mp step
    have served : s.serverPhase ≠ .waiting := by
      rw [serving]
      exact ServerPhase.noConfusion
    rw [handled] at same
    cases requests : s.requests with
    | nil =>
      rw [requests] at same
      exact absurd same (Option.some_ne_none _).symm
    | cons request rest =>
      rw [requests] at same
      cases Sound.next_of_orderly (sound.orderly served) requests with
      | createInstance phase _ unmet =>
        have elsewhere : s.clientPhase ≠ .connecting := by
          rw [phase]
          exact ClientPhase.noConfusion
        cases succeeds with
        | true =>
          obtain rfl := Option.some.inj same
          refine ⟨fun phase => absurd phase elsewhere, fun some => absurd ?_ some⟩
          dsimp only
          rw [unmet.backlog, ite_self]
        | false =>
          obtain rfl := Option.some.inj same
          exact ⟨fun phase => absurd phase elsewhere, fun some => absurd unmet.backlog some⟩
      | getPath phase _ unmet =>
        obtain rfl := Option.some.inj same
        have elsewhere : s.clientPhase ≠ .connecting := by
          rw [phase]
          exact ClientPhase.noConfusion
        exact ⟨fun phase => absurd phase elsewhere, fun some => absurd unmet.backlog some⟩
      | clientConnecting late _ =>
        dsimp only at same
        split at same
        case isTrue listens =>
          obtain rfl := Option.some.inj same
          exact ⟨fun _ => .inr (.inl rfl), fun _ => .inr rfl⟩
        case isFalse shut =>
          obtain rfl := Option.some.inj same
          exact ⟨fun _ => .inr (.inr shut), fun some => absurd (sound.standing some) shut⟩
      | destroyInstance phase _ _ =>
        obtain rfl := Option.some.inj same
        have elsewhere : s.clientPhase ≠ .connecting := by
          rw [phase]
          exact ClientPhase.noConfusion
        exact ⟨fun phase => absurd phase elsewhere, fun some => absurd rfl some⟩
  | accept accepted =>
    obtain ⟨accepting, same⟩ := Option.ite_none_right_eq_some.mp step
    have served : s.serverPhase ≠ .waiting := by
      rw [accepting]
      exact ServerPhase.noConfusion
    have late := Sound.late_of_accepting (sound.orderly served) accepting
    have succeeded : accepted = true := accepts
    rw [if_pos succeeded] at same
    cases queue : s.backlog with
    | nil =>
      rw [queue] at same
      exact absurd same (Option.some_ne_none _).symm
    | cons number backlog =>
      rw [queue] at same
      obtain rfl := Option.some.inj same
      obtain ⟨connected, _, empty⟩ := Sound.own_connection late accepting queue
      constructor
      · intro phase
        rcases late.phase with ⟨_, alone, _⟩ | ⟨other, _⟩ | ⟨other, _⟩
        · exact absurd (alone.symm.trans connected) Bool.false_ne_true
        · exact absurd (phase.symm.trans other) ClientPhase.noConfusion
        · exact absurd (phase.symm.trans other) ClientPhase.noConfusion
      · exact fun some => absurd empty some
  | close =>
    obtain ⟨_, same⟩ := Option.ite_none_right_eq_some.mp step
    obtain rfl := Option.some.inj same
    have shut := s.server.destructor_shut.1
    exact ⟨fun _ => .inr (.inr (Int.not_le.mpr shut)), fun some => absurd rfl some⟩

/-- When `xrCreateInstance` has returned and the server has nothing left to handle, the socket of
the client is connected exactly if the server has a connection, and it is the connection of this
client, unless `accept` has failed. -/
theorem sockets_belong_together
    (reachable : (system files).Reachable (fun _ move => Accepts move) s)
    (running : s.clientPhase = .running) (idle : s.requests = [])
    (serving : s.serverPhase = .serving) :
    (s.connected = true ↔ s.server.socketFd ≥ 0) ∧
      (s.server.socketFd ≥ 0 → s.peer = some s.number) := by
  have sound := sound_of_reachable reachable
  have met : s.Sound ∧ s.Met := by
    refine reachable.invariant (fun s => s.Sound ∧ s.Met) ⟨Sound.init files, ?_, ?_⟩
      fun _ _ _ both accepts taken => ⟨both.1.step taken, both.2.step both.1 accepts taken⟩
    · exact fun phase => absurd phase ClientPhase.noConfusion
    · exact fun some => absurd rfl some
  have served : s.serverPhase ≠ .waiting := by
    rw [serving]
    exact ServerPhase.noConfusion
  have orderly := sound.orderly served
  rw [Orderly, running] at orderly
  have exchanged := orderly.2
  have none : s.backlog = [] := by
    by_contra some
    rcases met.2.awaited some with more | accepting
    · exact more idle
    · exact absurd (serving.symm.trans accepting) ServerPhase.noConfusion
  have own : s.connected = true → s.peer = some s.number := by
    intro connected
    rcases exchanged.connected connected with ⟨waits, _⟩ | ⟨_, peer, _⟩
    · rw [none] at waits
      exact absurd waits.symm (List.cons_ne_nil _ _)
    · exact peer
  have accepted : s.server.socketFd ≥ 0 → s.connected = true := by
    intro opened
    by_contra alone
    have peer := (exchanged.unconnected (Bool.eq_false_iff.mpr alone)).2
    have some := sound.paired.mpr opened
    rw [peer] at some
    exact Bool.false_ne_true some
  refine ⟨⟨fun connected => ?_, accepted⟩, fun opened => own (accepted opened)⟩
  apply sound.paired.mp
  rw [own connected]
  rfl

/-- A client creates its instance while the server listens, up to its announcement. -/
def announcement : List Move :=
  [.arrive ⟨[]⟩, .create, .handle true .listens, .take true, .handle true .listens, .take true,
    .handle true .listens]

/-- The server accepts the connection of its first client. -/
theorem first_client_accepted :
    ∃ s, (system ⟨[]⟩).run (system ⟨[]⟩).init (announcement ++ [.connect true, .accept true]) =
      some s ∧ s.peer = some s.number := by
  have accepts : (system ⟨[]⟩).Along (fun _ move => Accepts move) (system ⟨[]⟩).init
      (announcement ++ [.connect true, .accept true]) :=
    ⟨trivial, trivial, trivial, trivial, trivial, trivial, trivial, trivial, rfl, trivial⟩
  have reached := System.Reachable.run .init accepts rfl
  exact ⟨_, rfl, (sockets_belong_together reached rfl rfl rfl).2 (by decide)⟩

/-- If a client has announced itself to a listening server, a connection is there or to come. -/
def Expected (s : Exchange) : Prop :=
  (s.serverPhase = .accepting ∨ .clientConnecting ∈ s.requests ∧ s.listens) →
    s.backlog ≠ [] ∨ s.clientPhase = .connecting ∧ s.left = false

/-- Nothing is expected where nothing was announced. -/
theorem expected_of_quiet (serving : s.serverPhase ≠ .accepting)
    (quiet : .clientConnecting ∉ s.requests) : s.Expected := by
  rintro (accepting | ⟨announced, _⟩)
  · exact absurd accepting serving
  · exact absurd announced quiet

/-- A move keeps up the expectation, if clients that have announced themselves connect. -/
theorem Expected.step (expected : s.Expected) (sound : s.Sound) {move : Move}
    (connects : Connects s move) (step : s.after move = some s') : s'.Expected := by
  cases move with
  | arrive files =>
    obtain ⟨waiting, same⟩ := Option.ite_none_right_eq_some.mp step
    obtain rfl := Option.some.inj same
    apply expected_of_quiet ServerPhase.noConfusion
    dsimp only
    rw [(sound.reset waiting).2.1]
    exact List.not_mem_nil
  | create =>
    obtain ⟨⟨stays, phase⟩, same⟩ := Option.ite_none_right_eq_some.mp step
    obtain rfl := Option.some.inj same
    have orderly := sound.orderly (sound.served stays)
    rw [Orderly, phase] at orderly
    obtain ⟨requests, _, unmet⟩ := orderly
    apply expected_of_quiet
    · dsimp only
      rw [unmet.serving]
      exact ServerPhase.noConfusion
    · dsimp only
      rw [requests]
      decide
  | take socketCreated =>
    obtain ⟨stays, same⟩ := Option.ite_none_left_eq_some.mp step
    have orderly := sound.orderly (sound.served (Bool.eq_false_iff.mpr stays))
    rw [taken] at same
    split at same
    case h_1 phase answered =>
      rw [Orderly, phase] at orderly
      obtain ⟨unmet, ⟨_, none⟩ | ⟨requests, _⟩⟩ := orderly
      · rw [answered] at none
        exact absurd none (List.cons_ne_nil _ _)
      · have resting : s.serverPhase ≠ .accepting := by
          rw [unmet.serving]
          exact ServerPhase.noConfusion
        split at same
        · obtain rfl := Option.some.inj same
          refine expected_of_quiet ?_ ?_
          · exact resting
          · dsimp only
            rw [requests]
            decide
        · obtain rfl := Option.some.inj same
          refine expected_of_quiet ?_ ?_
          · exact resting
          · dsimp only
            rw [requests]
            exact List.not_mem_nil
    case h_2 phase answered =>
      rw [Orderly, phase] at orderly
      obtain ⟨unmet, ⟨_, none⟩ | ⟨requests, _⟩⟩ := orderly
      · rw [answered] at none
        exact absurd none (List.cons_ne_nil _ _)
      · split at same
        · obtain rfl := Option.some.inj same
          exact fun _ => .inr ⟨rfl, Bool.eq_false_iff.mpr stays⟩
        · obtain rfl := Option.some.inj same
          apply expected_of_quiet
          · dsimp only
            rw [unmet.serving]
            exact ServerPhase.noConfusion
          · dsimp only
            rw [requests]
            exact List.not_mem_nil
    case h_3 phase answered =>
      rw [Orderly, phase] at orderly
      obtain ⟨none, _⟩ | ⟨requests, _, serving⟩ := orderly
      · rw [answered] at none
        exact absurd none (List.cons_ne_nil _ _)
      · obtain rfl := Option.some.inj same
        apply expected_of_quiet
        · dsimp only
          rw [serving]
          exact ServerPhase.noConfusion
        · dsimp only
          rw [requests]
          exact List.not_mem_nil
    case h_4 => exact absurd same (Option.some_ne_none _).symm
  | connect reaches =>
    obtain ⟨_, same⟩ := Option.ite_none_right_eq_some.mp step
    split at same
    case isTrue reached =>
      obtain rfl := Option.some.inj same
      exact fun _ => .inl (List.append_ne_nil_of_right_ne_nil _ (List.cons_ne_nil _ _))
    case isFalse refused =>
      obtain rfl := Option.some.inj same
      have shut : ¬s.listens := fun listens => refused ⟨connects listens, listens⟩
      rintro (accepting | ⟨_, listens⟩)
      · exact absurd (sound.listening accepting) shut
      · exact absurd listens shut
  | destroy =>
    obtain ⟨⟨_, phase⟩, same⟩ := Option.ite_none_right_eq_some.mp step
    obtain rfl := Option.some.inj same
    have before : (s.serverPhase = .accepting ∨ .clientConnecting ∈ s.requests ∧ s.listens) →
        s.backlog ≠ [] := by
      intro announced
      rcases expected announced with some | ⟨connecting, _⟩
      · exact some
      · exact absurd (phase.symm.trans connecting) ClientPhase.noConfusion
    rintro (accepting | ⟨announced, listens⟩)
    · exact .inl (before (.inl accepting))
    · rcases List.mem_append.mp announced with earlier | last
      · exact .inl (before (.inr ⟨earlier, listens⟩))
      · exact absurd (List.mem_singleton.mp last) Request.noConfusion
  | leave =>
    obtain ⟨_, same⟩ := Option.ite_none_left_eq_some.mp step
    obtain rfl := Option.some.inj same
    intro announced
    rcases expected announced with some | ⟨connecting, _⟩
    · exact .inl some
    · have shut := connects connecting
      rcases announced with accepting | ⟨_, listens⟩
      · exact absurd (sound.listening accepting) shut
      · exact absurd listens shut
  | handle succeeds outcome =>
    obtain ⟨serving, same⟩ := Option.ite_none_right_eq_some.mp step
    have served : s.serverPhase ≠ .waiting := by
      rw [serving]
      exact ServerPhase.noConfusion
    have resting : s.serverPhase ≠ .accepting := by
      rw [serving]
      exact ServerPhase.noConfusion
    rw [handled] at same
    cases requests : s.requests with
    | nil =>
      rw [requests] at same
      exact absurd same (Option.some_ne_none _).symm
    | cons request rest =>
      rw [requests] at same
      cases Sound.next_of_orderly (sound.orderly served) requests with
      | createInstance _ _ _ =>
        cases succeeds with
        | true =>
          obtain rfl := Option.some.inj same
          exact expected_of_quiet resting List.not_mem_nil
        | false =>
          obtain rfl := Option.some.inj same
          exact expected_of_quiet resting List.not_mem_nil
      | getPath _ _ _ =>
        obtain rfl := Option.some.inj same
        exact expected_of_quiet resting List.not_mem_nil
      | clientConnecting _ _ =>
        dsimp only at same
        split at same
        case isTrue listens =>
          obtain rfl := Option.some.inj same
          have announced : .clientConnecting ∈ s.requests := by
            rw [requests]
            exact List.mem_cons_self
          exact fun _ => expected (.inr ⟨announced, listens⟩)
        case isFalse shut =>
          obtain rfl := Option.some.inj same
          rintro (accepting | ⟨_, listens⟩)
          · exact absurd accepting resting
          · exact absurd listens shut
      | destroyInstance _ _ _ =>
        obtain rfl := Option.some.inj same
        exact expected_of_quiet resting List.not_mem_nil
  | accept accepted =>
    obtain ⟨accepting, same⟩ := Option.ite_none_right_eq_some.mp step
    have served : s.serverPhase ≠ .waiting := by
      rw [accepting]
      exact ServerPhase.noConfusion
    have quiet : .clientConnecting ∉ s.requests := by
      rcases (Sound.late_of_accepting (sound.orderly served) accepting).phase with
        ⟨_, _, requests⟩ | ⟨_, requests⟩ | ⟨_, requests⟩
      · rw [requests]
        exact List.not_mem_nil
      · rw [requests]
        exact List.not_mem_nil
      · rw [requests]
        decide
    split at same
    · split at same
      · exact absurd same (Option.some_ne_none _).symm
      · obtain rfl := Option.some.inj same
        exact expected_of_quiet ServerPhase.noConfusion quiet
    · obtain rfl := Option.some.inj same
      exact expected_of_quiet ServerPhase.noConfusion quiet
  | close =>
    obtain ⟨_, same⟩ := Option.ite_none_right_eq_some.mp step
    obtain rfl := Option.some.inj same
    exact expected_of_quiet ServerPhase.noConfusion List.not_mem_nil

/-- The client waits for an answer. -/
def ClientPhase.waits : ClientPhase → Bool
  | .creating => true
  | .asking => true
  | .destroying => true
  | _ => false

/-- A request is handled whatever it is. -/
theorem handles (serving : s.serverPhase = .serving) (more : s.requests ≠ []) :
    ∃ s', s.after (.handle true .listens) = some s' := by
  rw [after, if_pos serving, handled]
  cases requests : s.requests with
  | nil => exact absurd requests more
  | cons request rest =>
    cases request with
    | createInstance => exact ⟨_, rfl⟩
    | getPath => exact ⟨_, rfl⟩
    | clientConnecting =>
      dsimp only
      split
      · exact ⟨_, rfl⟩
      · exact ⟨_, rfl⟩
    | destroyInstance => exact ⟨_, rfl⟩

/-- A server that waits in vain does not do anything else, and serves no other client. -/
theorem Blocked.step (blocked : s.Blocked) (sound : s.Sound) {move : Move} (accepts : Accepts move)
    (step : s.after move = some s') : s'.Blocked ∧ s'.number = s.number := by
  obtain ⟨accepting, none, elsewhere⟩ := blocked
  have served : s.serverPhase ≠ .waiting := by
    rw [accepting]
    exact ServerPhase.noConfusion
  have busy : s.serverPhase ≠ .serving := by
    rw [accepting]
    exact ServerPhase.noConfusion
  have late := Sound.late_of_accepting (sound.orderly served) accepting
  have phases : s.clientPhase = .connecting ∨ s.clientPhase = .running ∨
      s.clientPhase = .destroying := by
    rcases late.phase with ⟨phase, _⟩ | ⟨phase, _⟩ | ⟨phase, _⟩
    · exact .inl phase
    · exact .inr (.inl phase)
    · exact .inr (.inr phase)
  cases move with
  | arrive files =>
    obtain ⟨waiting, _⟩ := Option.ite_none_right_eq_some.mp step
    exact absurd waiting served
  | create =>
    obtain ⟨⟨_, phase⟩, _⟩ := Option.ite_none_right_eq_some.mp step
    rw [phase] at phases
    exact absurd phases (by decide)
  | take socketCreated =>
    obtain ⟨_, same⟩ := Option.ite_none_left_eq_some.mp step
    have none := late.replies
    rw [taken] at same
    split at same
    case h_1 answered =>
      rw [answered] at none
      exact absurd none (List.cons_ne_nil _ _)
    case h_2 answered =>
      rw [answered] at none
      exact absurd none (List.cons_ne_nil _ _)
    case h_3 answered =>
      rw [answered] at none
      exact absurd none (List.cons_ne_nil _ _)
    case h_4 => exact absurd same (Option.some_ne_none _).symm
  | connect reaches =>
    obtain ⟨⟨stays, phase⟩, _⟩ := Option.ite_none_right_eq_some.mp step
    exact absurd ⟨phase, stays⟩ elsewhere
  | destroy =>
    obtain ⟨_, same⟩ := Option.ite_none_right_eq_some.mp step
    obtain rfl := Option.some.inj same
    exact ⟨⟨accepting, none, fun connecting => ClientPhase.noConfusion connecting.1⟩, rfl⟩
  | leave =>
    obtain ⟨_, same⟩ := Option.ite_none_left_eq_some.mp step
    obtain rfl := Option.some.inj same
    exact ⟨⟨accepting, none, fun connecting => Bool.noConfusion connecting.2⟩, rfl⟩
  | handle succeeds outcome =>
    obtain ⟨serving, _⟩ := Option.ite_none_right_eq_some.mp step
    exact absurd serving busy
  | accept accepted =>
    obtain ⟨_, same⟩ := Option.ite_none_right_eq_some.mp step
    have succeeded : accepted = true := accepts
    rw [if_pos succeeded, none] at same
    exact absurd same (Option.some_ne_none _).symm
  | close =>
    obtain ⟨⟨_, serving⟩, _⟩ := Option.ite_none_right_eq_some.mp step
    exact absurd serving busy

/-- Once the server waits in vain it does so for good, as long as `accept` does not fail: no other
client is ever served. -/
theorem blocked_forever (reachable : (system files).Reachable (fun _ _ => True) s)
    (blocked : s.Blocked) {moves : List Move}
    (accepts : (system files).Along (fun _ move => Accepts move) s moves)
    (ran : (system files).run s moves = some s') : s'.Blocked ∧ s'.number = s.number := by
  induction moves generalizing s with
  | nil =>
    obtain rfl := Option.some.inj ran
    exact ⟨blocked, rfl⟩
  | cons move rest ih =>
    obtain ⟨middle, taken, ran⟩ := Option.bind_eq_some_iff.mp ran
    rw [System.Along, taken] at accepts
    have once := blocked.step (sound_of_reachable reachable) accepts.1 taken
    have onward := ih (reachable.step trivial taken) once.1 accepts.2 ran
    exact ⟨onward.1, onward.2.trans once.2⟩

/-- The first client does not reach the server and ends. The server is not done with it. -/
theorem first_client_waited_for :
    ∃ s s', (system ⟨[]⟩).run (system ⟨[]⟩).init (announcement ++ [.connect false]) = some s ∧
      (system ⟨[]⟩).run s [.destroy, .leave] = some s' ∧ s'.Blocked ∧ s'.number = s.number := by
  refine ⟨_, _, rfl, rfl, ?_⟩
  have reached : (system ⟨[]⟩).Reachable (fun _ _ => True) _ :=
    System.reachable_of_run (rfl : (system ⟨[]⟩).run _ (announcement ++ [.connect false]) = some _)
  have accepts : ∀ s, (system ⟨[]⟩).Along (fun _ move => Accepts move) s [.destroy, .leave] := by
    apply System.along_of_forall
    intro s move member
    rcases List.mem_pair.mp member with rfl | rfl
    · trivial
    · trivial
  exact blocked_forever reached ⟨rfl, rfl, by decide⟩ (accepts _) rfl

end Exchange

end XrTransport.HandleExchange
