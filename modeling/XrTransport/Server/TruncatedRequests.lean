import Mathlib.Data.List.Nodup
import XrTransport.Serialization.Truncation
import XrTransport.Server.Handlers
import XrTransport.Transport.MessageLockOut

/-!
# Requests that are cut short

When serializing the arguments of a call throws, the destructor of the message sends what has been
written. The handler of the server runs past the end of it while it reads the arguments, before it
calls the runtime.
-/
namespace XrTransport.Server

open Serialization Transport

/-- A function as the generator compiles it into the client and the server. -/
structure GeneratedFunction where
  /-- `function.id`. -/
  id : Nat
  /-- The member of `FunctionLoader` it is called through. -/
  function : Function
  /-- `function.params`. -/
  params : List XrParam
deriving DecidableEq

/-- The parameters of `xrCreateInstance`. -/
def createInstanceParams : List XrParam :=
  [{ qualifier := some "const", type := "XrInstanceCreateInfo", pointer := some "*",
      name := "createInfo" },
    { type := "XrInstance", pointer := some "*", name := "instance" }]

/-- The parameters of `xrDestroyInstance`. -/
def destroyInstanceParams : List XrParam := [{ type := "XrInstance", name := "instance" }]

/-- `FunctionDispatch::handlers`, with what the registry says about the two functions whose
handlers are written by hand. -/
structure FunctionTable (b : Build) where
  /-- The functions. -/
  functions : List GeneratedFunction
  /-- An id is a `uint32_t`. -/
  fits : ∀ f ∈ functions, f.id < 256 ^ 4
  /-- No two functions share an id. -/
  distinct : (functions.map GeneratedFunction.id).Nodup
  /-- `XrInstanceCreateInfo` is not a base struct. -/
  createInfo : b.isHeader "XrInstanceCreateInfo" = false
  /-- `XrInstance` is a handle. -/
  instanceHandle : b.isHeader "XrInstance" = false
  /-- How the registry declares `xrCreateInstance`. -/
  createInstance : ∀ f ∈ functions, f.function = .createInstance → f.params = createInstanceParams
  /-- How the registry declares `xrDestroyInstance`. -/
  destroyInstance :
    ∀ f ∈ functions, f.function = .destroyInstance → f.params = destroyInstanceParams

/-- What the stub of a function writes into its message until it comes to its end or throws. -/
def writeRequest (b : Build) (timeOffset : UInt64) (fuel : Nat) (f : GeneratedFunction)
    (arguments : List Value) : Written Raised :=
  let ctx : SerializeContext := { timeOffset := timeOffset }
  (Written.complete (toBytes 4 f.id)).andThen
    (serializeMembers b ctx (serialize b ctx fuel) f.params arguments f.params arguments)

/-- What is on the stream once the message of a stub has been destroyed. -/
def sentRequest (written : Written Raised) : List UInt8 :=
  (MessageLockOut.useAll functionCall [.writeSome written.bytes]).release.sent

/-- What the receiver takes for the payload of the first message on a stream. -/
def firstPayload (stream : List UInt8) : List UInt8 :=
  (stream.drop headerSize).take (Transport.sizeOf (stream.take headerSize))

section

variable {b : Build} (table : FunctionTable b) (p : Platform) (fuel : Nat)

/-- The id is read and `handlers` is searched for it. -/
def readFunction : Decoder Raised GeneratedFunction := do
  let id ← Decoder.word 4 Raised.endOfFile
  match table.functions.find? fun f => f.id = id with
  | none => .raise (.runtimeError ("Unknown function id in handle_function: " ++ toString id))
  | some f => return f

/-- The parameters, as the handler of the function reads them. -/
def readArguments (b : Build) (p : Platform) (fuel : Nat) (f : GeneratedFunction) :
    Decoder Raised (List Value) :=
  match f.function with
  | .createInstance => do
    let createInfo ← deserializePtr p {} (b.sizeOf "XrInstanceCreateInfo")
      (deserialize b p {} fuel "XrInstanceCreateInfo") .unset
    let created ← deserializePtr p {} (b.sizeOf "XrInstance")
      (deserialize b p {} fuel "XrInstance") .unset
    return [createInfo, created]
  | .destroyInstance => do
    let destroyed ← deserialize b p {} fuel "XrInstance" .unset
    return [destroyed]
  | _ =>
    deserializeMembers b p {} (deserialize b p {} fuel) f.params
      (List.replicate f.params.length .unset)

/-- The request, to the last parameter. -/
def readRequest : Decoder Raised (GeneratedFunction × List Value) := do
  let f ← readFunction table
  let arguments ← readArguments b p fuel f
  return (f, arguments)

/-- What the handlers written by hand look at. -/
def payloadOf (function : Function) (arguments : List Value) : Payload :=
  match function, arguments with
  | .createInstance, [createInfo, created] => {
      decodes := true
      createInfo := createInfo matches .block _
      instanceOut := created matches .block _
      handle := match created with
        | .block (.plain handle :: _) => handle
        | _ => 0 }
  | .destroyInstance, [.plain handle] => { decodes := true, handle := handle }
  | _, _ => { decodes := true }

/-- The handler of `XRTP_MSG_FUNCTION_CALL`. -/
def handleFunctionCall (answers : Answers) (payload : List UInt8) : Handler Unit :=
  match readFunction table payload with
  | .stopped _ => Program.throw
  | .done f rest =>
    match readArguments b p fuel f rest with
    | .done arguments _ =>
      handleFunction answers (payloadOf f.function arguments) (some f.function)
    | .stopped (.raised _) => handleFunction answers { decodes := false } (some f.function)
    | .stopped _ => do
      ensureFunctionLoaded answers (.member f.function)
      crash

end

section

variable {b : Build} {table : FunctionTable b} {p : Platform} {fuel : Nat}

/-- A function of the table is found under its id. -/
theorem find_function {f : GeneratedFunction} (member : f ∈ table.functions) :
    (table.functions.find? fun other => other.id = f.id) = some f := by
  have unique := List.inj_on_of_nodup_map table.distinct
  cases found : table.functions.find? fun other => other.id = f.id with
  | none =>
    have absent := List.find?_eq_none.mp found f member
    simp at absent
  | some other =>
    have same : other.id = f.id := by simpa using List.find?_some found
    rw [unique (List.mem_of_find?_eq_some found) member same]

/-- The id that a stub writes is read as its function. -/
theorem readFunction_id {f : GeneratedFunction} (member : f ∈ table.functions)
    (rest : List UInt8) : readFunction table (toBytes 4 f.id ++ rest) = .done f rest := by
  have read := Decoder.Yields.word Raised.endOfFile (table.fits f member) rest
  rw [readFunction, Decoder.bind_done read, find_function member]
  rfl

/-- A pointer parameter without a count, to values of a type that is no base struct. -/
theorem deserializeMember_ptr (recur : String → Value → Decoder Raised Value) {member : XrParam}
    (kind : memberKind b member = some (.ptr .one)) (place : Value) :
    deserializeMember b p {} recur member place =
      deserializePtr p {} (b.sizeOf member.type) (recur member.type) place := by
  rw [deserializeMember, kind]

/-- The handlers written by hand read their parameters as the generated ones do. -/
theorem readArguments_eq {f : GeneratedFunction} (member : f ∈ table.functions) :
    readArguments b p fuel f = deserializeMembers b p {} (deserialize b p {} fuel) f.params
      (List.replicate f.params.length .unset) := by
  unfold readArguments
  split
  next create =>
    have createInfo : memberKind b createInstanceParams[0] = some (.ptr .one) := by
      simp [createInstanceParams, memberKind, table.createInfo]
    have created : memberKind b createInstanceParams[1] = some (.ptr .one) := by
      simp [createInstanceParams, memberKind, table.instanceHandle]
    rw [table.createInstance f member create]
    simp only [createInstanceParams, List.getElem_cons_zero,
      List.getElem_cons_succ] at createInfo created
    simp only [createInstanceParams, deserializeMembers, deserializeMember_ptr _ createInfo,
      deserializeMember_ptr _ created, Decoder.bind_assoc, Decoder.returned_bind]
    rfl
  next destroy =>
    have destroyed : memberKind b destroyInstanceParams[0] = some .value := by
      simp [destroyInstanceParams, memberKind, table.instanceHandle]
    rw [table.destroyInstance f member destroy]
    simp only [destroyInstanceParams, List.getElem_cons_zero] at destroyed
    simp only [destroyInstanceParams, deserializeMembers, deserializeMember, destroyed,
      Decoder.returned_bind]
    rfl
  · rfl

/-- Nothing but the cached pointers has changed. -/
def Idle (s s' : State) : Prop :=
  s'.calls = s.calls ∧ s'.replies = s.replies ∧ s'.crashed = s.crashed

/-- When the parameters cannot be read, the handler throws before it calls or sends anything. -/
theorem unread_throws (answers : Answers) (slot : Slot) (next : Handler Unit) (s : State) :
    ∃ s', (do ensureFunctionLoaded answers slot; attempt false; next) s = (none, s') ∧
      Idle s s' := by
  rw [Program.bind_apply, Program.andThen]
  by_cases cached : (s.pointers slot).isSome
  · have loaded : ensureFunctionLoaded answers slot s = (some (), s) := by
      simp [ensureFunctionLoaded, cached]
    rw [loaded]
    exact ⟨s, rfl, rfl, rfl, rfl⟩
  · by_cases granted : answers.grants slot.function
    · have loaded : ensureFunctionLoaded answers slot s = (some (), s.cache slot) := by
        simp [ensureFunctionLoaded, cached, granted]
      rw [loaded]
      exact ⟨s.cache slot, rfl, rfl, rfl, rfl⟩
    · have failed : ensureFunctionLoaded answers slot s = (none, s) := by
        simp [ensureFunctionLoaded, cached, granted]
      rw [failed]
      exact ⟨s, rfl, rfl, rfl, rfl⟩

/-- So do the handlers of all functions. -/
theorem handleFunction_unread (answers : Answers) (function : Function) (s : State) :
    ∃ s', handleFunction answers { decodes := false } (some function) s = (none, s') ∧
      Idle s s' := by
  cases function with
  | createInstance => exact unread_throws answers (.member .createInstance) _ s
  | destroyInstance => exact unread_throws answers (.member .destroyInstance) _ s
  | _ => exact unread_throws answers _ _ s

/-- A request that ends before its last parameter is not executed. -/
theorem handleFunctionCall_unread {payload : List UInt8}
    (short : readRequest table p fuel payload = .stopped (.raised .endOfFile))
    (answers : Answers) (s : State) :
    ∃ s', handleFunctionCall table p fuel answers payload s = (none, s') ∧ Idle s s' := by
  cases named : readFunction table payload with
  | stopped reason =>
    have thrown : handleFunctionCall table p fuel answers payload = Program.throw := by
      simp only [handleFunctionCall, named]
    rw [thrown]
    exact ⟨s, rfl, rfl, rfl, rfl⟩
  | done f rest =>
    rw [readRequest, Decoder.bind_done named] at short
    cases read : readArguments b p fuel f rest with
    | done arguments left =>
      rw [Decoder.bind_done read] at short
      contradiction
    | stopped reason =>
      rw [Decoder.bind_stopped read, Outcome.stopped.injEq] at short
      have unread : handleFunctionCall table p fuel answers payload =
          handleFunction answers { decodes := false } (some f.function) := by
        simp only [handleFunctionCall, named, read, short]
      rw [unread]
      exact handleFunction_unread answers f.function s

/-- The id is read as a whole or not at all. -/
theorem scans_readFunction : (readFunction table).Scans Raised.endOfFile := by
  refine (Decoder.Scans.word 4).bind fun id => ?_
  cases table.functions.find? fun f => f.id = id with
  | none => exact Decoder.Scans.stop _
  | some f => exact Decoder.Scans.pure f

/-- The parameters of a function are scanned. -/
theorem scans_readArguments (f : GeneratedFunction) :
    (readArguments b p fuel f).Scans Raised.endOfFile := by
  have each := scans_deserialize b p {} fuel
  unfold readArguments
  split
  · refine (scans_ptr (each _) _ _).bind fun _ => ?_
    exact (scans_ptr (each _) _ _).bind fun _ => Decoder.Scans.pure _
  · exact (each _ _).bind fun _ => Decoder.Scans.pure _
  · exact scans_members each _ _

/-- A request is scanned. -/
theorem scans_readRequest : (readRequest table p fuel).Scans Raised.endOfFile :=
  scans_readFunction.bind fun f =>
    (scans_readArguments f).bind fun arguments => Decoder.Scans.pure (f, arguments)

/-- The arguments of a function are well formed, with values that nest no deeper than the index. -/
def WellFormedArguments (b : Build) (depth : Nat) (f : GeneratedFunction)
    (arguments : List Value) : Prop :=
  WellFormedMembers b (WellFormed b depth) f.params arguments f.params arguments

/-- Well-formed arguments are written completely, and what arrives of them is read. -/
theorem arguments_arrive (granted : ∀ size, p.malloc size = true) {f : GeneratedFunction}
    {depth : Nat} (enough : depth ≤ fuel) {arguments : List Value}
    (wf : WellFormedArguments b depth f arguments) (timeOffset : UInt64) :
    ∃ bytes, writeRequest b timeOffset fuel f arguments = .complete (toBytes 4 f.id ++ bytes) ∧
      deserializeMembers b p {} (deserialize b p {} fuel) f.params
          (List.replicate f.params.length .unset) bytes =
        .done (receivedMembers b timeOffset 0 (received b timeOffset 0 depth) f.params arguments)
          [] := by
  have carry := carries (b := b) (p := p) {} { timeOffset := timeOffset } granted depth fuel enough
    fuel enough
  obtain ⟨bytes, wrote, read⟩ := travels_members { timeOffset := timeOffset } granted carry f.params
    arguments wf
  have sized : (receivedMembers b timeOffset 0 (received b timeOffset 0 depth) f.params
      arguments).length = f.params.length :=
    length_receivedMembers timeOffset 0 f.params arguments wf
  have fresh : DeserializeContext.AcceptsAll {} (List.replicate f.params.length .unset)
      (receivedMembers b timeOffset 0 (received b timeOffset 0 depth) f.params arguments) := by
    rw [← sized]
    exact DeserializeContext.acceptsAll_unset rfl _
  have whole := read _ fresh
  rw [← sized, overlayAll_unset, sized] at whole
  have all := whole []
  rw [List.append_nil] at all
  refine ⟨bytes, ?_, all⟩
  rw [writeRequest, wrote, Written.complete_andThen]

/-- The arguments of a well-formed request are written completely and read to their end. -/
theorem arguments_travel (granted : ∀ size, p.malloc size = true) {f : GeneratedFunction}
    (member : f ∈ table.functions) {depth : Nat} (enough : depth ≤ fuel) {arguments : List Value}
    (wf : WellFormedArguments b depth f arguments) (timeOffset : UInt64) :
    ∃ bytes values,
      writeRequest b timeOffset fuel f arguments = .complete (toBytes 4 f.id ++ bytes) ∧
      readArguments b p fuel f bytes = .done values [] := by
  obtain ⟨bytes, wrote, read⟩ := arguments_arrive granted enough wf timeOffset
  refine ⟨bytes, receivedMembers b timeOffset 0 (received b timeOffset 0 depth) f.params arguments,
    wrote, ?_⟩
  rw [readArguments_eq member]
  exact read

/-- The payload of the message that the destructor sends begins what has been written. -/
theorem firstPayload_prefix (written : Written Raised) :
    firstPayload (sentRequest written) <+: written.bytes := by
  have sent : sentRequest written =
      headerBytes functionCall (written.bytes.length % 2 ^ 32) ++ written.bytes := by
    rw [← MessageLockOut.overwrite_reserved, sentRequest, MessageLockOut.release_eq]
    simp [MessageLockOut.useAll, MessageLockOut.use, MessageLockOut.writeSome,
      MessageLockOut.construct, MessageLockOut.flush, headerSize]
  have header : (headerBytes functionCall (written.bytes.length % 2 ^ 32) ++
      written.bytes).take headerSize = headerBytes functionCall (written.bytes.length % 2 ^ 32) :=
    List.take_left' (length_headerBytes _ _)
  rw [firstPayload, sent, header, List.drop_left' (length_headerBytes _ _)]
  exact List.take_prefix _ _

/-- A truncated request is never executed. For every function and all arguments that are well formed
but for structs of types without a serializer: when serializing them throws, the server reads past
the end of what has been sent, calls nothing and sends nothing. No strict prefix of the encoding of
well-formed arguments can be read. -/
theorem truncated_request_rejected (table : FunctionTable b)
    (granted : ∀ size, p.malloc size = true) {f : GeneratedFunction}
    (member : f ∈ table.functions) {depth : Nat} (enough : depth ≤ fuel) (timeOffset : UInt64) :
    (∀ arguments, WellFormedArguments b depth f (onlyListedAll b arguments) →
      ∀ what, (writeRequest b timeOffset fuel f arguments).stop =
        some (.raised (.unknownXrStructureType what)) →
      let payload := firstPayload (sentRequest (writeRequest b timeOffset fuel f arguments))
      readRequest table p fuel payload = .stopped (.raised .endOfFile) ∧
        ∀ answers s, ∃ s', handleFunctionCall table p fuel answers payload s = (none, s') ∧
          Idle s s') ∧
    (∀ arguments, WellFormedArguments b depth f arguments →
      ∃ bytes, writeRequest b timeOffset fuel f arguments = .complete (toBytes 4 f.id ++ bytes) ∧
        ∀ front back, bytes = front ++ back → back ≠ [] →
          readArguments b p fuel f front = .stopped (.raised .endOfFile)) := by
  constructor
  · intro arguments wf what threw
    have strict : ({ timeOffset := timeOffset } : SerializeContext).skipUnknownStructs = false :=
      rfl
    have cut := isCut_members strict (isCut_serialize (b := b) strict fuel) f.params arguments
      f.params
      arguments
    rw [← onlyListedAll_eq_map] at cut
    have request : (writeRequest b timeOffset fuel f arguments).CutOf
        (writeRequest b timeOffset fuel f (onlyListedAll b arguments)) :=
      Written.CutOf.andThen (.complete _) cut
    obtain ⟨bytes, values, wrote, read⟩ := arguments_travel granted member enough wf timeOffset
    simp only [Written.CutOf, threw, wrote] at request
    obtain ⟨more, some, split⟩ := request rfl
    obtain ⟨rest, payload⟩ := firstPayload_prefix (writeRequest b timeOffset fuel f arguments)
    have whole : readRequest table p fuel (toBytes 4 f.id ++ bytes) = .done (f, values) [] := by
      rw [readRequest, Decoder.bind_done (readFunction_id member bytes), Decoder.bind_done read]
      rfl
    have parts : toBytes 4 f.id ++ bytes =
        firstPayload (sentRequest (writeRequest b timeOffset fuel f arguments)) ++
          (rest ++ more) := by
      rw [← List.append_assoc, payload]
      exact split
    have short := scans_readRequest.strictPrefix whole parts (by simp [some])
    exact ⟨short, handleFunctionCall_unread short⟩
  · intro arguments wf
    obtain ⟨bytes, values, wrote, read⟩ := arguments_travel granted member enough wf timeOffset
    exact ⟨bytes, wrote, fun front back split more =>
      (scans_readArguments f).strictPrefix read split more⟩

end

/-- `xrEndFrame`. -/
def endFrame : GeneratedFunction where
  id := 23
  function := .other 23
  params := [
    { type := "XrSession", name := "session" },
    { qualifier := some "const", type := "XrFrameEndInfo", pointer := some "*",
      name := "frameEndInfo" }]

/-- A table of one function. -/
def endFrameTable : FunctionTable frameEndBuild where
  functions := [endFrame]
  fits := by simp [endFrame]
  distinct := by simp
  createInfo := by simp [Build.isHeader, Build.findStruct, frameEndBuild, frameEndInfo]
  instanceHandle := by simp [Build.isHeader, Build.findStruct, frameEndBuild, frameEndInfo]
  createInstance := by simp [endFrame]
  destroyInstance := by simp [endFrame]

/-- A frame with a struct of an unlisted type in its chain. -/
def extendedFrame : List Value :=
  [.plain 5, .block [.aggregate [.plain 12, .chained "XrUnlisted" (.aggregate [.plain 77]),
    .plain 1000, .plain 1, .plain 0, .null]]]

/-- Without its chain it is the frame without layers, which is well formed. -/
theorem wellFormed_extendedFrame :
    WellFormedArguments frameEndBuild 2 endFrame (onlyListedAll frameEndBuild extendedFrame) := by
  have listed : onlyListedAll frameEndBuild extendedFrame = [.plain 5, .block [emptyFrame]] := rfl
  have session : WellFormed frameEndBuild 2 "XrSession" (.plain 5) := by
    show (5 : Nat) < 256 ^ 4
    decide
  have frame := wellFormed_emptyFrame
  rw [listed]
  refine ⟨?_, ?_, trivial⟩
  · exact session
  · refine ⟨rfl, by decide, ?_⟩
    intro x member
    rw [List.mem_singleton.mp member]
    exact frame

/-- A frame with a struct of an unlisted type is sent in part and rejected; so is every strict
prefix of a frame without layers. -/
theorem extendedFrame_rejected :
    (readRequest endFrameTable plentiful 2
        (firstPayload (sentRequest (writeRequest frameEndBuild 300 2 endFrame extendedFrame))) =
      .stopped (.raised .endOfFile)) ∧
    ∀ front back, [5, 0, 0, 0, 1, 0, 0, 0, 12, 0, 0, 0, 0, 0, 0, 0, 188, 2, 0, 0, 0, 0, 0, 0, 1, 0,
        0, 0, 0, 0, 0, 0] = front ++ back → back ≠ [] →
      readArguments frameEndBuild plentiful 2 endFrame front = .stopped (.raised .endOfFile) := by
  obtain ⟨truncated, prefixes⟩ := truncated_request_rejected endFrameTable (p := plentiful)
    (fun _ => rfl) (f := endFrame) (by simp [endFrameTable]) (Nat.le_refl 2) 300
  refine ⟨(truncated extendedFrame wellFormed_extendedFrame _ rfl).1, ?_⟩
  have frame : WellFormedArguments frameEndBuild 2 endFrame [.plain 5, .block [emptyFrame]] :=
    wellFormed_extendedFrame
  obtain ⟨bytes, wrote, short⟩ := prefixes _ frame
  have written : writeRequest frameEndBuild 300 2 endFrame [.plain 5, .block [emptyFrame]] =
      .complete (toBytes 4 23 ++ [5, 0, 0, 0, 1, 0, 0, 0, 12, 0, 0, 0, 0, 0, 0, 0, 188, 2, 0, 0, 0,
        0, 0, 0, 1, 0, 0, 0, 0, 0, 0, 0]) := by
    decide
  rw [written, Written.complete, Written.complete, Written.mk.injEq] at wrote
  rw [List.append_cancel_left wrote.1]
  exact short

end XrTransport.Server
