import XrTransport.Foundation.Dialogue
import XrTransport.Transport.Frame

/-!
# The handshake

`do_handshake` of the client and of the server. Both exchange the magic value, the two version
numbers, and whether they agree; they return true on both sides or on none.
-/
namespace XrTransport.Transport.Handshake

/-- The constants a side has been compiled with. -/
structure Constants where
  /-- `XRTRANSPORT_MAGIC`. -/
  magic : UInt32
  /-- `XR_CURRENT_API_VERSION`. -/
  xrApiVersion : UInt64
  /-- `XRTRANSPORT_PROTOCOL_VERSION`. -/
  protocolVersion : UInt32
deriving DecidableEq

namespace Constants

/-- The bytes of `XRTRANSPORT_MAGIC`. -/
def magicBytes (own : Constants) : List UInt8 := toBytes 4 own.magic.toNat

/-- The bytes of `XR_CURRENT_API_VERSION`. -/
def apiBytes (own : Constants) : List UInt8 := toBytes 8 own.xrApiVersion.toNat

/-- The bytes of `XRTRANSPORT_PROTOCOL_VERSION`. -/
def protocolBytes (own : Constants) : List UInt8 := toBytes 4 own.protocolVersion.toNat

/-- `client_ok` and `server_ok`: for now, only an exact match. -/
def ok (own : Constants) (api protocol : List UInt8) : Nat :=
  if own.xrApiVersion.toNat = ofBytes api ∧ own.protocolVersion.toNat = ofBytes protocol then 1
  else 0

end Constants

/-- `do_handshake` of the client. -/
def Client.doHandshake (own : Constants) : Talk Bool :=
  .write own.magicBytes <|
  .read 4 fun serverMagic =>
  if own.magic.toNat ≠ ofBytes serverMagic then .close (.finished false)
  else
    .write own.apiBytes <|
    .write own.protocolBytes <|
    .read 8 fun serverApi =>
    .read 4 fun serverProtocol =>
    .write (toBytes 4 (own.ok serverApi serverProtocol)) <|
    if own.ok serverApi serverProtocol = 0 then .close (.finished false)
    else
      .read 4 fun serverOk =>
      if ofBytes serverOk = 0 then .close (.finished false)
      else .finished true

/-- `Server::do_handshake`. -/
def Server.doHandshake (own : Constants) : Talk Bool :=
  .read 4 fun clientMagic =>
  if own.magic.toNat ≠ ofBytes clientMagic then .close (.finished false)
  else
    .write own.magicBytes <|
    .read 8 fun clientApi =>
    .read 4 fun clientProtocol =>
    .write own.apiBytes <|
    .write own.protocolBytes <|
    .read 4 fun clientOk =>
    if ofBytes clientOk = 0 then .close (.finished false)
    else
      .write (toBytes 4 (own.ok clientApi clientProtocol)) <|
      if own.ok clientApi clientProtocol = 0 then .close (.finished false)
      else .finished true

/-- The two programs. -/
def doHandshake (constants : Side → Constants) : Side → Talk Bool
  | .client => Client.doHandshake (constants .client)
  | .server => Server.doHandshake (constants .server)

namespace Constants

variable (own : Constants)

/-- The bytes of all constants. -/
def bytes : List UInt8 := own.magicBytes ++ (own.apiBytes ++ own.protocolBytes)

/-- All that a side writes if the constants agree. -/
def script : List UInt8 := own.magicBytes ++ (own.apiBytes ++ (own.protocolBytes ++ toBytes 4 1))

/-- The magic value has four bytes. -/
@[simp] theorem length_magicBytes : own.magicBytes.length = 4 := length_toBytes _ _

/-- The version of OpenXR has eight bytes. -/
@[simp] theorem length_apiBytes : own.apiBytes.length = 8 := length_toBytes _ _

/-- The version of the protocol has four bytes. -/
@[simp] theorem length_protocolBytes : own.protocolBytes.length = 4 := length_toBytes _ _

variable {own}

/-- Four bytes that are read as the magic value are its bytes. -/
theorem magicBytes_eq {read : List UInt8} (length : read.length = 4) :
    own.magic.toNat = ofBytes read ↔ own.magicBytes = read := by
  constructor
  · intro same
    rw [magicBytes, same, ← length]
    exact toBytes_ofBytes read
  · rintro rfl
    exact (ofBytes_toBytes own.magic.toNat_lt).symm

/-- So it is for the version of OpenXR. -/
theorem apiBytes_eq {read : List UInt8} (length : read.length = 8) :
    own.xrApiVersion.toNat = ofBytes read ↔ own.apiBytes = read := by
  constructor
  · intro same
    rw [apiBytes, same, ← length]
    exact toBytes_ofBytes read
  · rintro rfl
    exact (ofBytes_toBytes own.xrApiVersion.toNat_lt).symm

/-- So it is for the version of the protocol. -/
theorem protocolBytes_eq {read : List UInt8} (length : read.length = 4) :
    own.protocolVersion.toNat = ofBytes read ↔ own.protocolBytes = read := by
  constructor
  · intro same
    rw [protocolBytes, same, ← length]
    exact toBytes_ofBytes read
  · rintro rfl
    exact (ofBytes_toBytes own.protocolVersion.toNat_lt).symm

/-- A side is content with its own versions only. -/
theorem ok_ne_zero {api protocol : List UInt8} (apiLength : api.length = 8)
    (protocolLength : protocol.length = 4) :
    own.ok api protocol ≠ 0 ↔ own.apiBytes = api ∧ own.protocolBytes = protocol := by
  rw [← apiBytes_eq apiLength, ← protocolBytes_eq protocolLength, ok]
  split <;> simp [*]

/-- It says so with a one. -/
theorem ok_self : own.ok own.apiBytes own.protocolBytes = 1 := by
  have api := (own.apiBytes_eq own.length_apiBytes).mpr rfl
  have protocol := (own.protocolBytes_eq own.length_protocolBytes).mpr rfl
  rw [ok, if_pos ⟨api, protocol⟩]

/-- Constants with the same bytes are the same. -/
theorem eq_of_bytes {other : Constants} (same : own.bytes = other.bytes) : own = other := by
  obtain ⟨magic, rest⟩ := List.append_inj same (by simp)
  obtain ⟨api, protocol⟩ := List.append_inj rest (by simp)
  have magic := (own.magicBytes_eq other.length_magicBytes).mpr magic
  have api := (own.apiBytes_eq other.length_apiBytes).mpr api
  have protocol := (own.protocolBytes_eq other.length_protocolBytes).mpr protocol
  rw [magicBytes, ofBytes_toBytes other.magic.toNat_lt] at magic
  rw [apiBytes, ofBytes_toBytes other.xrApiVersion.toNat_lt] at api
  rw [protocolBytes, ofBytes_toBytes other.protocolVersion.toNat_lt] at protocol
  cases own
  cases other
  simp only [UInt32.toNat_inj, UInt64.toNat_inj] at magic api protocol
  rw [magic, api, protocol]

end Constants

/-- What holds of a side, whatever the other one sends. -/
structure Facts (own : Constants) (waits : Nat → Nat → Prop) (input output : List UInt8)
    (now : Option (Talk Bool)) : Prop where
  /-- It writes its constants first. -/
  opening : ∃ tail, output <+: own.bytes ++ tail
  /-- It returns true only if it has read its own constants. -/
  returned : now = some (.finished true) →
    own.bytes <+: input ∧ input.length = 20 ∧ output.length = 20
  /-- It waits only at certain numbers of bytes read and written. -/
  reading : ∀ count next, now = some (.read (count + 1) next) → waits input.length output.length

/-- A side that writes or has raised an exception neither has returned nor waits. -/
theorem Facts.writing {own : Constants} {waits : Nat → Nat → Prop} {input output : List UInt8}
    {now : Option (Talk Bool)} {rest : List UInt8} {next : Talk Bool}
    (at_ : now = some (.write rest next) ∨ now = none)
    (opening : ∃ tail, output <+: own.bytes ++ tail) : Facts own waits input output now where
  opening := opening
  returned returned := by rcases at_ with rfl | rfl <;> simp at returned
  reading count next reading := by rcases at_ with rfl | rfl <;> simp at reading

/-- A side that reads has not returned, and waits only if bytes are missing. -/
theorem Facts.awaiting {own : Constants} {waits : Nat → Nat → Prop} {input output : List UInt8}
    {now : Option (Talk Bool)} {left : Nat} {next : List UInt8 → Talk Bool}
    (at_ : now = some (.read left next) ∨ now = none)
    (opening : ∃ tail, output <+: own.bytes ++ tail)
    (waiting : left ≠ 0 → waits input.length output.length) :
    Facts own waits input output now where
  opening := opening
  returned returned := by rcases at_ with rfl | rfl <;> simp at returned
  reading count next reading := by
    rcases at_ with rfl | rfl
    · obtain ⟨rfl, -⟩ := Talk.read.inj (Option.some.inj reading)
      exact waiting (Nat.succ_ne_zero count)
    · contradiction

/-- A side that gives up neither has returned true nor waits. -/
theorem Facts.refusing {own : Constants} {waits : Nat → Nat → Prop} {input output : List UInt8}
    {now : Option (Talk Bool)}
    (at_ : now = some (.close (.finished false)) ∨ now = some (.finished false))
    (opening : ∃ tail, output <+: own.bytes ++ tail) : Facts own waits input output now where
  opening := opening
  returned returned := by rcases at_ with rfl | rfl <;> simp at returned
  reading count next reading := by rcases at_ with rfl | rfl <;> simp at reading

/-- The numbers of bytes read and written at which the client waits. -/
def Client.Waits (read written : Nat) : Prop :=
  read < 4 ∧ written = 4 ∨ 4 ≤ read ∧ read < 16 ∧ written = 16 ∨
    16 ≤ read ∧ read < 20 ∧ written = 20

/-- The numbers of bytes read and written at which the server waits. -/
def Server.Waits (read written : Nat) : Prop :=
  read < 4 ∧ written = 0 ∨ 4 ≤ read ∧ read < 16 ∧ written = 4 ∨
    16 ≤ read ∧ read < 20 ∧ written = 16

/-- The client, whatever it reads. -/
theorem Client.facts (own : Constants) : (Client.doHandshake own).Ensures (Facts own Waits) := by
  apply Talk.Ensures.write
  · intro before rest now split at_
    exact .writing at_ ⟨[], by simp [Constants.bytes, split]⟩
  apply Talk.Ensures.read
  · intro got left now counted at_
    refine .awaiting at_ ⟨[], by simp [Constants.bytes]⟩ fun missing => .inl ?_
    simp
    omega
  intro magic magicLength
  apply Talk.Ensures.ite
  · intro differs
    have opening : ∃ tail, own.magicBytes ++ [] <+: own.bytes ++ tail :=
      ⟨[], by simp [Constants.bytes]⟩
    exact .close (.refusing (.inl rfl) opening) (.finished (.refusing (.inr rfl) opening))
  intro magicSame
  apply Talk.Ensures.write
  · intro before rest now split at_
    exact .writing at_ ⟨[], by simp [Constants.bytes, split]⟩
  apply Talk.Ensures.write
  · intro before rest now split at_
    exact .writing at_ ⟨[], by simp [Constants.bytes, split]⟩
  apply Talk.Ensures.read
  · intro got left now counted at_
    refine .awaiting at_ ⟨[], by simp [Constants.bytes]⟩ fun missing => .inr (.inl ?_)
    simp
    omega
  intro api apiLength
  apply Talk.Ensures.read
  · intro got left now counted at_
    refine .awaiting at_ ⟨[], by simp [Constants.bytes]⟩ fun missing => .inr (.inl ?_)
    simp
    omega
  intro protocol protocolLength
  apply Talk.Ensures.write
  · intro before rest now split at_
    exact .writing at_ ⟨before, by simp [Constants.bytes]⟩
  have opening : ∃ tail, own.magicBytes ++ (own.apiBytes ++ (own.protocolBytes ++
      (toBytes 4 (own.ok api protocol) ++ []))) <+: own.bytes ++ tail :=
    ⟨toBytes 4 (own.ok api protocol), by simp [Constants.bytes]⟩
  apply Talk.Ensures.ite
  · intro zero
    exact .close (.refusing (.inl rfl) opening) (.finished (.refusing (.inr rfl) opening))
  intro agrees
  apply Talk.Ensures.read
  · intro got left now counted at_
    refine .awaiting at_ opening fun missing => .inr (.inr ?_)
    simp
    omega
  intro serverOk okLength
  apply Talk.Ensures.ite
  · intro zero
    exact .close (.refusing (.inl rfl) opening) (.finished (.refusing (.inr rfl) opening))
  intro accepted
  have same := (Constants.ok_ne_zero apiLength protocolLength).mp agrees
  have magicSame := (Constants.magicBytes_eq magicLength).mp (not_not.mp magicSame)
  refine .finished ⟨opening, fun _ => ⟨?_, ?_, ?_⟩, fun _ _ reading => by simp at reading⟩
  · simp [Constants.bytes, magicSame, same.1, same.2]
  · simp
    omega
  · simp

/-- The server, whatever it reads. -/
theorem Server.facts (own : Constants) : (Server.doHandshake own).Ensures (Facts own Waits) := by
  apply Talk.Ensures.read
  · intro got left now counted at_
    refine .awaiting at_ ⟨[], by simp⟩ fun missing => .inl ?_
    simp
    omega
  intro magic magicLength
  apply Talk.Ensures.ite
  · intro differs
    have opening : ∃ tail, [] <+: own.bytes ++ tail := ⟨[], List.nil_prefix⟩
    exact .close (.refusing (.inl rfl) opening) (.finished (.refusing (.inr rfl) opening))
  intro magicSame
  apply Talk.Ensures.write
  · intro before rest now split at_
    exact .writing at_ ⟨[], by simp [Constants.bytes, split]⟩
  apply Talk.Ensures.read
  · intro got left now counted at_
    refine .awaiting at_ ⟨[], by simp [Constants.bytes]⟩ fun missing => .inr (.inl ?_)
    simp
    omega
  intro api apiLength
  apply Talk.Ensures.read
  · intro got left now counted at_
    refine .awaiting at_ ⟨[], by simp [Constants.bytes]⟩ fun missing => .inr (.inl ?_)
    simp
    omega
  intro protocol protocolLength
  apply Talk.Ensures.write
  · intro before rest now split at_
    exact .writing at_ ⟨[], by simp [Constants.bytes, split]⟩
  apply Talk.Ensures.write
  · intro before rest now split at_
    exact .writing at_ ⟨[], by simp [Constants.bytes, split]⟩
  have opening : ∃ tail, own.magicBytes ++ (own.apiBytes ++ (own.protocolBytes ++ [])) <+:
      own.bytes ++ tail := ⟨[], by simp [Constants.bytes]⟩
  apply Talk.Ensures.read
  · intro got left now counted at_
    refine .awaiting at_ opening fun missing => .inr (.inr ?_)
    simp
    omega
  intro clientOk okLength
  apply Talk.Ensures.ite
  · intro zero
    exact .close (.refusing (.inl rfl) opening) (.finished (.refusing (.inr rfl) opening))
  intro accepted
  apply Talk.Ensures.write
  · intro before rest now split at_
    exact .writing at_ ⟨before, by simp [Constants.bytes]⟩
  have opening : ∃ tail, own.magicBytes ++ (own.apiBytes ++ (own.protocolBytes ++
      (toBytes 4 (own.ok api protocol) ++ []))) <+: own.bytes ++ tail :=
    ⟨toBytes 4 (own.ok api protocol), by simp [Constants.bytes]⟩
  apply Talk.Ensures.ite
  · intro zero
    exact .close (.refusing (.inl rfl) opening) (.finished (.refusing (.inr rfl) opening))
  intro agrees
  have same := (Constants.ok_ne_zero apiLength protocolLength).mp agrees
  have magicSame := (Constants.magicBytes_eq magicLength).mp (not_not.mp magicSame)
  refine .finished ⟨opening, fun _ => ⟨?_, ?_, ?_⟩, fun _ _ reading => by simp at reading⟩
  · simp [Constants.bytes, magicSame, same.1, same.2]
  · simp
    omega
  · simp

/-- The script, word by word. -/
theorem Constants.script_eq (own : Constants) : own.script =
    own.magicBytes ++ (own.apiBytes ++ (own.protocolBytes ++ (toBytes 4 1 ++ []))) := by
  rw [script, List.append_nil]

/-- The client writes the script as long as it reads it. -/
theorem Client.follows (own : Constants) :
    (Client.doHandshake own).Follows own.script own.script true := by
  have magic := (own.magicBytes_eq own.length_magicBytes).mpr rfl
  rw [own.script_eq]
  apply Talk.Follows.write
  apply Talk.Follows.read own.length_magicBytes
  rw [if_neg (not_not.mpr magic)]
  apply Talk.Follows.write
  apply Talk.Follows.write
  apply Talk.Follows.read own.length_apiBytes
  apply Talk.Follows.read own.length_protocolBytes
  rw [Constants.ok_self]
  apply Talk.Follows.write
  rw [if_neg (by decide)]
  apply Talk.Follows.read (length_toBytes 4 1)
  rw [if_neg (by decide)]
  exact .finished

/-- So does the server. -/
theorem Server.follows (own : Constants) :
    (Server.doHandshake own).Follows own.script own.script true := by
  have magic := (own.magicBytes_eq own.length_magicBytes).mpr rfl
  rw [own.script_eq]
  apply Talk.Follows.read own.length_magicBytes
  rw [if_neg (not_not.mpr magic)]
  apply Talk.Follows.write
  apply Talk.Follows.read own.length_apiBytes
  apply Talk.Follows.read own.length_protocolBytes
  apply Talk.Follows.write
  apply Talk.Follows.write
  apply Talk.Follows.read (length_toBytes 4 1)
  rw [if_neg (by decide), Constants.ok_self]
  apply Talk.Follows.write
  rw [if_neg (by decide)]
  exact .finished

/-- The client takes at most 49 steps. -/
theorem Client.within (own : Constants) : (Client.doHandshake own).Within 49 := by
  have refused : (Talk.close (.finished false)).Within 1 := .close 0 (.finished _ 0) (by decide)
  have last : (Talk.close (.finished false)).Within 6 := .close 0 (.finished _ 0) (by decide)
  have first : (Talk.close (.finished false)).Within 39 := .close 0 (.finished _ 0) (by decide)
  apply Talk.Within.write 44 _ (by simp)
  apply Talk.Within.read 39 _ (by decide)
  intro serverMagic
  split
  · exact first
  apply Talk.Within.write 30 _ (by simp)
  apply Talk.Within.write 25 _ (by simp)
  apply Talk.Within.read 16 _ (by decide)
  intro serverApi
  apply Talk.Within.read 11 _ (by decide)
  intro serverProtocol
  apply Talk.Within.write 6 _ (by simp)
  split
  · exact last
  apply Talk.Within.read 1 _ (by decide)
  intro serverOk
  split
  · exact refused
  · exact .finished true 1

/-- So does the server. -/
theorem Server.within (own : Constants) : (Server.doHandshake own).Within 49 := by
  have last : (Talk.close (.finished false)).Within 1 := .close 0 (.finished _ 0) (by decide)
  have refused : (Talk.close (.finished false)).Within 11 := .close 0 (.finished _ 0) (by decide)
  have first : (Talk.close (.finished false)).Within 44 := .close 0 (.finished _ 0) (by decide)
  apply Talk.Within.read 44 _ (by decide)
  intro clientMagic
  split
  · exact first
  apply Talk.Within.write 39 _ (by simp)
  apply Talk.Within.read 30 _ (by decide)
  intro clientApi
  apply Talk.Within.read 25 _ (by decide)
  intro clientProtocol
  apply Talk.Within.write 16 _ (by simp)
  apply Talk.Within.write 11 _ (by simp)
  apply Talk.Within.read 6 _ (by decide)
  intro clientOk
  split
  · exact .close 0 (.finished _ 0) (by decide)
  apply Talk.Within.write 1 _ (by simp)
  split
  · exact last
  · exact .finished true 1

section Agreement

variable {constants : Side → Constants} {s : Dialogue.State Bool}
  {input output : Side → List UInt8}

/-- The facts of the two sides in a reachable state. -/
theorem facts (consistent : Dialogue.Consistent (doHandshake constants) s input output) :
    Facts (constants .client) Client.Waits (input .client) (output .client) (s.code .client) ∧
    Facts (constants .server) Server.Waits (input .server) (output .server) (s.code .server) :=
  ⟨Client.facts _ _ _ _ (consistent.ran .client), Server.facts _ _ _ _ (consistent.ran .server)⟩

/-- A side that has returned true has read its own constants from the other one. -/
theorem same_of_read {own other : Constants} {read written : List UInt8}
    (mine : own.bytes <+: read) (carried : read <+: written)
    (opening : ∃ tail, written <+: other.bytes ++ tail) : own = other := by
  obtain ⟨tail, opening⟩ := opening
  obtain ⟨rest, whole⟩ := (mine.trans carried).trans opening
  have length : own.bytes.length = other.bytes.length := by simp [Constants.bytes]
  exact Constants.eq_of_bytes (List.append_inj whole length).1

/-- What a side has read is the beginning of what the other one has written. -/
theorem carried {start : Side → Talk Bool}
    (consistent : Dialogue.Consistent start s input output) (side : Side) :
    input side <+: output side.other := by
  have split := consistent.carried side.other
  rw [Side.other_other] at split
  exact split ▸ List.prefix_append _ _

/-- A side returns true only if the constants agree. -/
theorem agree_of_returned (consistent : Dialogue.Consistent (doHandshake constants) s input output)
    {side : Side} (returned : s.code side = some (.finished true)) :
    constants .client = constants .server := by
  obtain ⟨client, server⟩ := facts consistent
  cases side with
  | client =>
    have mine := (client.returned returned).1
    exact same_of_read mine (carried consistent .client) server.opening
  | server =>
    have mine := (server.returned returned).1
    exact (same_of_read mine (carried consistent .server) client.opening).symm

/-- The two sides never wait for each other. -/
theorem not_deadlocked (consistent : Dialogue.Consistent (doHandshake constants) s input output) :
    ¬s.Deadlocked := by
  intro deadlocked
  obtain ⟨client, server⟩ := facts consistent
  obtain ⟨⟨_, _, clientAt⟩, clientEmpty, -⟩ := deadlocked .client
  obtain ⟨⟨_, _, serverAt⟩, serverEmpty, -⟩ := deadlocked .server
  have clientWaits := client.reading _ _ clientAt
  have serverWaits := server.reading _ _ serverAt
  have toServer := congrArg List.length (consistent.carried .client)
  have toClient := congrArg List.length (consistent.carried .server)
  simp only [Side.other, serverEmpty, clientEmpty, List.append_nil] at toServer toClient
  simp only [Client.Waits, Server.Waits] at clientWaits serverWaits
  omega

/-- When both sides have returned true, all that was written has been read. -/
theorem empty_of_returned (consistent : Dialogue.Consistent (doHandshake constants) s input output)
    (clientDone : s.code .client = some (.finished true))
    (serverDone : s.code .server = some (.finished true)) (side : Side) :
    s.incoming side = [] := by
  obtain ⟨client, server⟩ := facts consistent
  obtain ⟨-, clientRead, clientWrote⟩ := client.returned clientDone
  obtain ⟨-, serverRead, serverWrote⟩ := server.returned serverDone
  have toServer := congrArg List.length (consistent.carried .client)
  have toClient := congrArg List.length (consistent.carried .server)
  simp only [Side.other, List.length_append] at toServer toClient
  apply List.eq_nil_of_length_eq_zero
  cases side <;> omega

/-- With the same constants both sides follow the script. -/
theorem follows (same : constants .client = constants .server) (side : Side) :
    (doHandshake constants side).Follows (constants .client).script (constants .client).script
      true := by
  cases side with
  | client => exact Client.follows _
  | server =>
    rw [same]
    exact Server.follows _

/-- With the same constants both sides have returned true once nothing can happen any more. -/
theorem returned_of_complete (same : constants .client = constants .server)
    (reachable : (Dialogue.dialogue (doHandshake constants)).Reachable (fun _ _ => True) s)
    (complete : Dialogue.Complete (doHandshake constants) s) (side : Side) :
    s.code side = some (.finished true) := by
  obtain ⟨input, output, on⟩ :=
    @Dialogue.onScript Bool _ s (fun _ => (constants .client).script) true (follows same) reachable
  have consistent := on.consistent
  obtain ⟨client, server⟩ := facts consistent
  have ended (side : Side) : s.code side = some (.finished true) ∨
      s.Reading side ∧ s.incoming side = [] := by
    rcases complete.cases side with ⟨result, done⟩ | ⟨reading, empty, -⟩ | ⟨thrown, -⟩
    · have agreed := (follows same side _ _ _ (consistent.ran side) (on.read side)).2.2 result done
      exact .inl (agreed ▸ done)
    · exact .inr ⟨reading, empty⟩
    · exact absurd thrown (on.running side)
  have toServer := congrArg List.length (consistent.carried .client)
  have toClient := congrArg List.length (consistent.carried .server)
  simp only [Side.other, List.length_append] at toServer toClient
  rcases ended .client with clientDone | ⟨⟨_, _, clientAt⟩, clientEmpty⟩
  · rcases ended .server with serverDone | ⟨⟨_, _, serverAt⟩, serverEmpty⟩
    · cases side <;> assumption
    · obtain ⟨-, clientRead, clientWrote⟩ := client.returned clientDone
      have serverWaits := server.reading _ _ serverAt
      simp only [Server.Waits] at serverWaits
      omega
  · have clientWaits := client.reading _ _ clientAt
    rw [clientEmpty, List.length_nil] at toClient
    rcases ended .server with serverDone | ⟨reading, serverEmpty⟩
    · obtain ⟨-, serverRead, serverWrote⟩ := server.returned serverDone
      simp only [Client.Waits] at clientWaits
      omega
    · have opened := on.opened
      exact (not_deadlocked consistent fun side => by
        cases side
        · exact ⟨⟨_, _, clientAt⟩, clientEmpty, opened _⟩
        · exact ⟨reading, serverEmpty, opened _⟩).elim

end Agreement

/-- In every run of the two handshakes, byte by byte and in any order, with any constants: it has at
most 98 steps; once no step is left, the client has returned true exactly if the server has, and
exactly if the constants agree; the sides never wait for each other; and if both have returned true
no byte is left on the way. -/
theorem handshake_agreement (constants : Side → Constants) {labels : List Dialogue.Label}
    {s : Dialogue.State Bool}
    (ran : (Dialogue.dialogue (doHandshake constants)).run
      (Dialogue.dialogue (doHandshake constants)).init labels = some s) :
    labels.length ≤ 98 ∧
    (Dialogue.Complete (doHandshake constants) s →
      (s.result .client = some true ↔ s.result .server = some true) ∧
      (s.result .client = some true ↔ constants .client = constants .server)) ∧
    ¬s.Deadlocked ∧
    (s.result .client = some true → s.result .server = some true →
      ∀ side, s.incoming side = []) := by
  have reachable := System.reachable_of_run ran
  obtain ⟨input, output, consistent⟩ := Dialogue.consistent_of_reachable reachable
  refine ⟨?_, fun complete => ?_, not_deadlocked consistent, fun client server => ?_⟩
  · have budget : Dialogue.Budget (Dialogue.dialogue (doHandshake constants)).init fun _ => 49 := by
      intro side
      cases side
      · exact Client.within _
      · exact Server.within _
    exact Dialogue.length_le budget ran
  · have agree (side : Side) :
        s.result side = some true ↔ constants .client = constants .server := by
      rw [Dialogue.State.result_eq_some]
      exact ⟨agree_of_returned consistent,
        fun same => returned_of_complete same reachable complete side⟩
    exact ⟨(agree .client).trans (agree .server).symm, agree .client⟩
  · rw [Dialogue.State.result_eq_some] at client server
    exact empty_of_returned consistent client server

/-- Two sides with the same constants take turns. -/
def turns : List Dialogue.Label :=
  List.replicate 5 (Dialogue.Label.advance .client) ++
    List.replicate 10 (Dialogue.Label.advance .server) ++
    List.replicate 19 (Dialogue.Label.advance .client) ++
    List.replicate 28 (Dialogue.Label.advance .server) ++
    List.replicate 19 (Dialogue.Label.advance .client) ++
    List.replicate 10 (Dialogue.Label.advance .server) ++
    List.replicate 5 (Dialogue.Label.advance .client)

/-- Both return true and leave nothing behind. -/
theorem handshake_agreement_turns :
    ∃ s, (Dialogue.dialogue (doHandshake fun _ => ⟨0x50545258, 1, 1⟩)).run
        (Dialogue.dialogue (doHandshake fun _ => ⟨0x50545258, 1, 1⟩)).init turns = some s ∧
      s.result .client = some true ∧ s.result .server = some true ∧
      ∀ side, s.incoming side = [] := by
  have ran : ((Dialogue.dialogue (doHandshake fun _ => ⟨0x50545258, 1, 1⟩)).run
      (Dialogue.dialogue (doHandshake fun _ => ⟨0x50545258, 1, 1⟩)).init turns).map
        (fun s => (s.result .client, s.result .server)) = some (some true, some true) := by
    decide
  obtain ⟨s, ran, results⟩ := Option.map_eq_some_iff.mp ran
  obtain ⟨client, server⟩ := Prod.mk.inj results
  exact ⟨s, ran, client, server, (handshake_agreement _ ran).2.2.2 client server⟩

end XrTransport.Transport.Handshake
