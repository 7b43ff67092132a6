import XrTransport.CodeGeneration.BindingValues
import XrTransport.OpenXr
import XrTransport.Serialization.CleanupReceived
import XrTransport.Serialization.Spots
import XrTransport.Server.TruncatedRequests

/-!
# Remote calls

A stub sends its arguments, the handler calls the runtime with what has arrived and sends back what
the bindings denote there, and the stub reads it in place. The three views of a counted pointer
(that of the application, the server's copy and the bytes in between) agree unless the pointer is
not null and its count is zero.
-/
namespace XrTransport.Client

open CodeGeneration Serialization Server

/-- A result on the wire. -/
def resultWord (result : XrResult) : Nat := (BitVec.ofInt 32 result.code).toNat

/-- The result that a word stands for. -/
def wordResult (word : Nat) : XrResult := ⟨(BitVec.ofNat 32 word).toInt⟩

section Code

variable (b : Build) (p : Serialization.Platform) (fuel : Nat)

/-- What the handler of a function writes once the runtime has returned. -/
def writeReturn (bindings : List Binding) (params : Scope) (result : XrResult)
    (runtimeDuration : UInt64) : Written Raised :=
  (Written.complete (toBytes 4 (resultWord result) ++ toBytes 8 runtimeDuration.toNat)).andThen
    (.all (bindings.map (params.serializeBinding b fuel)))

/-- The bindings in order, as the stub reads them. -/
def readBindings (ctx : DeserializeContext) (params : Scope) :
    List Binding → Decoder Raised (List Value)
  | [] => pure []
  | binding :: rest => do
    let values ← params.deserializeBinding b p ctx fuel binding
    let others ← readBindings ctx params rest
    pure (values ++ others)

/-- What a stub reads into its arguments: the result, and what is left at the places that the
bindings denote. -/
def readReturn (timeOffset : UInt64) (bindings : List Binding) (params : Scope) :
    Decoder Raised (XrResult × List Value) := do
  let result ← Decoder.word 4 Raised.endOfFile
  let _runtimeDuration ← Decoder.word 8 Raised.endOfFile
  let outputs ← readBindings b p fuel { inPlace := true, timeOffset := timeOffset } params bindings
  return (wordResult result, outputs)

/-- How a stub ends. -/
inductive Ending where
  /-- It returns the result that it has read. -/
  | returned (result : XrResult) (outputs : List Value)
  /-- It catches an exception. -/
  | caught (error : Raised)
  /-- It goes beyond its arguments. -/
  | crashed

/-- The function try block of a stub. -/
def ending : Outcome Raised (XrResult × List Value) → Ending
  | .done (result, outputs) _ => .returned result outputs
  | .stopped (.raised error) => .caught error
  | .stopped _ => .crashed

/-- What the application gets. -/
def Ending.result : Ending → Option XrResult
  | .returned result _ => some result
  | .caught _ => some .runtimeFailure
  | .crashed => none

end Code

/-- A variable that a binding denotes. -/
structure Output where
  /-- The type of the binding. -/
  type : BindingType
  /-- Its declaration. -/
  param : XrParam
  /-- What it holds. -/
  value : Value

/-- The variables that bindings denote, if all their expressions lead somewhere. -/
def outputs (b : Build) (bindings : List Binding) (params : Scope) : Option (List Output) :=
  (bindings.mapM fun binding =>
    (params.operands b binding).map fun operands =>
      operands.map fun operand => ⟨binding.type, operand.1, operand.2⟩).map List.flatten

/-- What should arrive of an output: what the runtime wrote, with its times by value shifted. -/
def Output.arriving (b : Build) (depth : Nat) (timeOffset : UInt64) (output : Output) : Value :=
  let recur := received b 0 timeOffset depth
  match output.type with
  | .xrArray => receivedXrArray recur output.value
  | .xr => receivedXr recur output.value
  | .sizedPtr | .ptr | .array => receivedPtr (recur output.param.type) output.value

/-- The times and counted pointers in an output. -/
def Output.spots (b : Build) (depth : Nat) (output : Output) : List Spot :=
  let recur := Serialization.spots b depth
  match output.type with
  | .xrArray => spotsXrArray recur output.value
  | .xr => spotsXr recur output.value
  | .sizedPtr | .ptr | .array => spotsPtr (recur output.param.type) output.value

/-- What the registry and the generator make of a function. -/
structure Declared (b : Build) (f : GeneratedFunction) (bindings : List Binding) : Prop where
  /-- No struct contains itself. -/
  acyclic : ∃ rank, Acyclic b rank
  /-- No two parameters have one name. -/
  different : (f.params.map XrParam.name).Nodup
  /-- Its handler is generated. -/
  generated : f.function ≠ .createInstance ∧ f.function ≠ .destroyInstance
  /-- Its bindings are what the generator collects. -/
  collected : ∃ least, ∀ fuel ≥ least, collectModifiableBindings b fuel f.params = some bindings
  /-- Arrays have elements, and their extents fit into 32 bits. -/
  extents : ∀ extent, 0 < b.extent extent ∧ b.extent extent < wordLimit
  /-- No binding leads through a struct whose functions are written by hand. -/
  custom : ∀ path, Saved b f.params path → ∀ step ∈ path.steps,
    step.1.type ≠ instanceCreateInfoName ∧ step.1.type ≠ frameEndInfoName
  /-- No loop is bounded by a time. -/
  counts : ∀ binding ∈ bindings, ∀ loop ∈ binding.loops, ∀ text, loop.bound = .name text →
    ∀ q ∈ f.params, q.name = text → q.type ≠ "XrTime"

/-- The request of a stub has been read by the handler, which calls the runtime with this. -/
def Called (b : Build) (p : Serialization.Platform) (fuel : Nat) (timeOffset : UInt64)
    (f : GeneratedFunction) (arguments decoded : List Value) : Prop :=
  ∃ bytes rest, writeRequest b timeOffset fuel f arguments = .complete (toBytes 4 f.id ++ bytes) ∧
    readArguments b p fuel f bytes = .done decoded rest

/-- The runtime has changed only contents: no pointers, no counts, and no parameter passed by value.
-/
structure Returned (b : Build) (depth : Nat) (f : GeneratedFunction) (decoded after : List Value) :
    Prop where
  /-- The same pointers. -/
  form : SameForms decoded after
  /-- The counts are still those of the elements. -/
  wellFormed : WellFormedArguments b depth f after
  /-- A number passed by value is what it was. -/
  numbers : ∀ name count, sibling f.params decoded name = some (.plain count) →
    sibling f.params after name = some (.plain count)

/-- The stub returns what the runtime has returned, and every output holds what the runtime wrote,
with its times by value shifted by the offset. -/
def Transparent (b : Build) (p : Serialization.Platform) (fuel depth : Nat) (timeOffset : UInt64)
    (f : GeneratedFunction) (bindings : List Binding) (arguments after : List Value)
    (result : XrResult) (runtimeDuration : UInt64) : Prop :=
  ∃ bytes left written,
    writeReturn b fuel bindings ⟨f.params, after⟩ result runtimeDuration = .complete bytes ∧
    outputs b bindings ⟨f.params, after⟩ = some written ∧
    ending (readReturn b p fuel timeOffset bindings ⟨f.params, arguments⟩ bytes) =
      .returned result left ∧
    List.Forall₂ (fun value output => value.SameContent (output.arriving b depth timeOffset)) left
      written

/-- All expressions of the bindings lead somewhere, and no counted pointer in what they denote is
hollow. -/
def Returnable (b : Build) (depth : Nat) (bindings : List Binding) (params : Scope) : Prop :=
  ∀ binding ∈ bindings, ∃ envs, params.rounds b binding.loops [] = some envs ∧
    ∀ env ∈ envs, ∃ param value, params.operand b binding env = some (param, value) ∧
      (∀ len, binding.len = some len → (params.lengthOf b env len).isSome) ∧
      hollow ∉ (⟨binding.type, param, value⟩ : Output).spots b depth

section Transfer

variable {b : Build} {p : Serialization.Platform} {fuel depth : Nat} {timeOffset : UInt64}

/-- What should arrive of a list of outputs. -/
def arrivingAll (b : Build) (depth : Nat) (timeOffset : UInt64) (outs : List Output) : List Value :=
  outs.map (Output.arriving b depth timeOffset)

/-- Lists laid over lists of their lengths are laid part by part. -/
theorem overlayAll_append {places places' values values' : List Value}
    (sized : places.length = values.length) :
    overlayAll (places ++ places') (values ++ values') =
      (overlayAll places values).bind fun first =>
        (overlayAll places' values').map (first ++ ·) := by
  induction places generalizing values with
  | nil =>
    obtain rfl := List.length_eq_zero_iff.mp sized.symm
    simp [overlayAll]
  | cons place places ih =>
    cases values with
    | nil => contradiction
    | cons value values =>
      simp only [List.cons_append, overlayAll, ih (Nat.succ.inj sized)]
      cases place.overlay value with
      | none => rfl
      | some head =>
        cases overlayAll places values with
        | none => rfl
        | some tail =>
          cases overlayAll places' values' with
          | none => rfl
          | some rest => rfl

/-- Outputs are written completely, and the reader lays what should arrive of them over places of
their form, which succeeds exactly if the places are firm. -/
def Transfers (b : Build) (depth : Nat) (timeOffset : UInt64) (written : Written Raised)
    (reader : Decoder Raised (List Value)) (outs : List Output) (firm : Prop) : Prop :=
  ∃ bytes places, written = .complete bytes ∧
    SameForms places (arrivingAll b depth timeOffset outs) ∧
    reader.Yields bytes (overlayAll places (arrivingAll b depth timeOffset outs)) ∧
    ((overlayAll places (arrivingAll b depth timeOffset outs)).isSome ↔ firm)

/-- No outputs are transferred by writing and reading nothing. -/
theorem Transfers.nil : Transfers b depth timeOffset (.complete []) (pure []) [] True :=
  ⟨[], [], rfl, trivial, Decoder.Yields.pure [], by simp [arrivingAll, overlayAll]⟩

/-- A condition may be spelled in another way. -/
theorem Transfers.congr {written : Written Raised} {reader : Decoder Raised (List Value)}
    {outs : List Output} {firm firm' : Prop}
    (transfers : Transfers b depth timeOffset written reader outs firm) (same : firm ↔ firm') :
    Transfers b depth timeOffset written reader outs firm' := by
  obtain ⟨bytes, places, wrote, form, read, laid⟩ := transfers
  exact ⟨bytes, places, wrote, form, read, laid.trans same⟩

/-- Outputs after others are transferred by writing and reading them after the others. -/
theorem Transfers.append {written written' : Written Raised}
    {reader reader' : Decoder Raised (List Value)} {outs outs' : List Output} {firm firm' : Prop}
    (head : Transfers b depth timeOffset written reader outs firm)
    (tail : Transfers b depth timeOffset written' reader' outs' firm') :
    Transfers b depth timeOffset (written.andThen written')
      (reader >>= fun values => reader' >>= fun others => pure (values ++ others)) (outs ++ outs')
      (firm ∧ firm') := by
  obtain ⟨bytes, places, rfl, form, read, laid⟩ := head
  obtain ⟨bytes', places', rfl, form', read', laid'⟩ := tail
  have sized := form.length_eq
  have parts : overlayAll (places ++ places') (arrivingAll b depth timeOffset (outs ++ outs')) =
      (overlayAll places (arrivingAll b depth timeOffset outs)).bind fun first =>
        (overlayAll places' (arrivingAll b depth timeOffset outs')).map (first ++ ·) := by
    rw [arrivingAll, List.map_append]
    exact overlayAll_append sized
  refine ⟨bytes ++ bytes', places ++ places', Written.complete_andThen _ _, ?_, ?_, ?_⟩
  · rw [arrivingAll, List.map_append, SameForms, resemblesAll_iff]
    exact List.rel_append (resemblesAll_iff.mp form) (resemblesAll_iff.mp form')
  · rw [parts]
    exact Decoder.Yields.bind read fun values _ => Decoder.Yields.map (values ++ ·) read'
  · rw [parts, ← laid, ← laid']
    cases overlayAll places (arrivingAll b depth timeOffset outs) with
    | none => simp
    | some first => simp

/-- One output before others. -/
theorem Transfers.cons {written written' : Written Raised} {reader : Decoder Raised Value}
    {reader' : Decoder Raised (List Value)} {output : Output} {outs : List Output}
    {firm firm' : Prop}
    (head : Transfers b depth timeOffset written (List.singleton <$> reader) [output] firm)
    (tail : Transfers b depth timeOffset written' reader' outs firm') :
    Transfers b depth timeOffset (written.andThen written')
      (reader >>= fun value => reader' >>= fun others => pure (value :: others)) (output :: outs)
      (firm ∧ firm') := by
  have both := head.append tail
  have same : ((List.singleton <$> reader) >>= fun values =>
      reader' >>= fun others => pure (values ++ others)) =
      reader >>= fun value => reader' >>= fun others => pure (value :: others) := by
    funext bytes
    simp only [Decoder.bind_apply, Decoder.map_apply]
    cases reader bytes with
    | done value rest => rfl
    | stopped reason => rfl
  rw [same] at both
  exact both

/-- One value is transferred as an output. -/
theorem Transfers.single {written : Written Raised} {reader : Value → Decoder Raised Value}
    {output : Output} {place : Value} {firm : Prop}
    (travels : Travels { inPlace := true, timeOffset := timeOffset } written reader
      (output.arriving b depth timeOffset))
    (form : place.SameForm (output.arriving b depth timeOffset))
    (laid : (place.overlay (output.arriving b depth timeOffset)).isSome ↔ firm) :
    Transfers b depth timeOffset written (List.singleton <$> reader place) [output] firm := by
  obtain ⟨bytes, rfl, read⟩ := travels
  have accepted : DeserializeContext.Accepts { inPlace := true, timeOffset := timeOffset } place
      (output.arriving b depth timeOffset) := DeserializeContext.accepts_fits rfl form.fits
  have alone : overlayAll [place] (arrivingAll b depth timeOffset [output]) =
      (place.overlay (output.arriving b depth timeOffset)).map List.singleton := by
    simp only [arrivingAll, List.map_cons, List.map_nil, overlayAll, Option.map_eq_bind]
    rfl
  refine ⟨bytes, [place], rfl, ⟨form, trivial⟩, ?_, ?_⟩
  · rw [alone]
    exact Decoder.Yields.map List.singleton (read place accepted)
  · rw [alone, Option.isSome_map]
    exact laid

variable (granted : ∀ size, p.malloc size = true) (enough : depth ≤ fuel) {arguments after : Scope}
  {binding : Binding} {env : Env} {param : XrParam} {place value : Value}

include granted enough

/-- A call of a binding transfers its variable. -/
theorem call_transfers (here : arguments.operand b binding env = some (param, place))
    (there : after.operand b binding env = some (param, value)) (form : place.SameForm value)
    (typed : Scope.TypedCall b depth binding.type param
      (binding.len.bind (after.lengthOf b env)) value) :
    Transfers b depth timeOffset (after.serializeCall b fuel binding env)
      (List.singleton <$> arguments.deserializeCall b p
        { inPlace := true, timeOffset := timeOffset } fuel binding env)
      [⟨binding.type, param, value⟩]
      (hollow ∉ (⟨binding.type, param, place⟩ : Output).spots b depth) := by
  have carry := carries (b := b) (p := p) { inPlace := true, timeOffset := timeOffset } {} granted
    depth fuel enough fuel enough
  have keeps := fun type x (wf : WellFormed b depth type x) => sameForm_received 0 timeOffset wf
  have lays := laid_received 0 timeOffset b depth
  have ptr {len : Nat} (wf : WellFormedPtr (WellFormed b depth param.type) (some len) value) :
      Transfers b depth timeOffset (serializePtr (serialize b {} fuel param.type) len value)
        (List.singleton <$> deserializePtr p { inPlace := true, timeOffset := timeOffset }
          (b.sizeOf param.type)
          (deserialize b p { inPlace := true, timeOffset := timeOffset } fuel param.type) place)
        [⟨.ptr, param, value⟩]
        (hollow ∉ (⟨.ptr, param, place⟩ : Output).spots b depth) := by
    obtain ⟨len', counted, travels⟩ := travels_ptr granted wf fun x wf => carry param.type x wf
    obtain rfl := Option.some.inj counted
    exact .single travels (form.trans (sameForm_ptr (keeps param.type) wf))
      (laid_ptr (lays param.type) place value wf form)
  unfold Scope.serializeCall Scope.deserializeCall
  rw [here, there]
  unfold Scope.TypedCall at typed
  dsimp only
  cases called : binding.type with
  | xrArray =>
    simp only [called] at typed ⊢
    obtain ⟨len, counted, travels⟩ := travels_xrArray {} granted carry typed
    rw [counted]
    exact .single travels (form.trans (sameForm_xrArray keeps typed))
      (laid_xrArray lays place value typed form)
  | xr =>
    simp only [called] at typed ⊢
    exact .single (travels_xr {} granted carry _ typed) (form.trans (sameForm_xr keeps typed))
      (laid_xr lays place value typed form)
  | ptr =>
    simp only [called] at typed ⊢
    exact ptr typed
  | sizedPtr =>
    simp only [called] at typed ⊢
    obtain ⟨len, counted⟩ := Option.isSome_iff_exists.mp typed.counted
    rw [counted] at typed ⊢
    exact ptr typed
  | array =>
    simp only [called] at typed ⊢
    obtain ⟨len, counted⟩ := Option.isSome_iff_exists.mp typed.counted
    rw [counted] at typed ⊢
    exact ptr typed

end Transfer

/-- In a round, the call of a binding is about one variable on both sides, of one form, and the
server's is well formed. -/
def Meets (b : Build) (depth : Nat) (arguments after : Scope) (binding : Binding) (env : Env) :
    Prop :=
  ∃ param place value, arguments.operand b binding env = some (param, place) ∧
    after.operand b binding env = some (param, value) ∧ place.SameForm value ∧
    Scope.TypedCall b depth binding.type param (binding.len.bind (after.lengthOf b env)) value

/-- In a round, no counted pointer in what the call is about is hollow. -/
def Firm (b : Build) (depth : Nat) (params : Scope) (binding : Binding) (env : Env) : Prop :=
  ∀ param place, params.operand b binding env = some (param, place) →
    hollow ∉ (⟨binding.type, param, place⟩ : Output).spots b depth

section Rounds

variable {b : Build} {p : Serialization.Platform} {fuel depth : Nat} {timeOffset : UInt64}
  (granted : ∀ size, p.malloc size = true) (enough : depth ≤ fuel) {arguments after : Scope}

include granted enough

/-- The rounds of a binding transfer its variables. -/
theorem calls_transfer {binding : Binding} {envs : List Env}
    (meet : ∀ env ∈ envs, Meets b depth arguments after binding env) :
    ∃ found, envs.mapM (after.operand b binding) = some found ∧
      Transfers b depth timeOffset (.all (envs.map (after.serializeCall b fuel binding)))
        (Scope.deserializeCalls (arguments.deserializeCall b p
          { inPlace := true, timeOffset := timeOffset } fuel binding) envs)
        (found.map fun operand => ⟨binding.type, operand.1, operand.2⟩)
        (∀ env ∈ envs, Firm b depth arguments binding env) := by
  induction envs with
  | nil => exact ⟨[], rfl, Transfers.nil.congr (by simp)⟩
  | cons env rest ih =>
    obtain ⟨param, place, value, here, there, form, typed⟩ := meet env List.mem_cons_self
    obtain ⟨found, others, tail⟩ := ih fun env member => meet env (List.mem_cons_of_mem _ member)
    have head : Transfers b depth timeOffset (after.serializeCall b fuel binding env)
        (List.singleton <$> arguments.deserializeCall b p
          { inPlace := true, timeOffset := timeOffset } fuel binding env)
        [⟨binding.type, param, value⟩]
        (hollow ∉ (⟨binding.type, param, place⟩ : Output).spots b depth) :=
      call_transfers granted enough here there form typed
    refine ⟨(param, value) :: found, by simp [List.mapM_cons, there, others], ?_⟩
    refine (head.cons tail).congr ?_
    rw [List.forall_mem_cons, Firm]
    refine and_congr_left fun _ => ⟨fun clear param' place' here' => ?_, fun clear => ?_⟩
    · obtain ⟨rfl, rfl⟩ := Prod.mk.inj (Option.some.inj (here.symm.trans here'))
      exact clear
    · exact clear param place here

/-- The bindings of a function transfer what they denote. -/
theorem bindings_transfer {bindings : List Binding}
    (meet : ∀ binding ∈ bindings, ∃ envs, arguments.rounds b binding.loops [] = some envs ∧
      after.rounds b binding.loops [] = some envs ∧
      ∀ env ∈ envs, Meets b depth arguments after binding env) :
    ∃ written, outputs b bindings after = some written ∧
      Transfers b depth timeOffset (.all (bindings.map (after.serializeBinding b fuel)))
        (readBindings b p fuel { inPlace := true, timeOffset := timeOffset } arguments bindings)
        written (∀ binding ∈ bindings, ∀ envs, arguments.rounds b binding.loops [] = some envs →
          ∀ env ∈ envs, Firm b depth arguments binding env) := by
  induction bindings with
  | nil => exact ⟨[], rfl, Transfers.nil.congr (by simp)⟩
  | cons binding rest ih =>
    obtain ⟨envs, rounds, rounds', meets⟩ := meet binding List.mem_cons_self
    obtain ⟨written, others, tail⟩ :=
      ih fun binding member => meet binding (List.mem_cons_of_mem _ member)
    obtain ⟨found, denoted, head⟩ :=
      @calls_transfer b p fuel depth timeOffset granted enough arguments after binding envs meets
    obtain ⟨lists, collected, rfl⟩ := Option.map_eq_some_iff.mp others
    have operands : after.operands b binding = some found := by
      rw [Scope.operands, rounds', Option.bind_some, denoted]
    have serialized : after.serializeBinding b fuel binding =
        .all (envs.map (after.serializeCall b fuel binding)) := by
      rw [Scope.serializeBinding, rounds']
    have deserialized : arguments.deserializeBinding b p
          { inPlace := true, timeOffset := timeOffset } fuel binding =
        Scope.deserializeCalls (arguments.deserializeCall b p
          { inPlace := true, timeOffset := timeOffset } fuel binding) envs := by
      rw [Scope.deserializeBinding, rounds]
    refine ⟨(found.map fun operand => ⟨binding.type, operand.1, operand.2⟩) ++ lists.flatten,
      ?_, ?_⟩
    · rw [outputs, List.mapM_cons, operands, collected]
      rfl
    · rw [List.map_cons, Written.all, readBindings, serialized, deserialized]
      refine (head.append tail).congr ?_
      rw [List.forall_mem_cons]
      refine and_congr_left fun _ => ⟨fun firm envs' same => ?_, fun firm => firm envs rounds⟩
      obtain rfl := Option.some.inj (rounds.symm.trans same)
      exact firm

end Rounds

/-- A result that fits its 32 bits is read as it was written. -/
theorem wordResult_resultWord {result : XrResult}
    (fits : -2 ^ 31 ≤ result.code ∧ result.code < 2 ^ 31) :
    wordResult (resultWord result) = result := by
  obtain ⟨code⟩ := result
  simp only [wordResult, resultWord, BitVec.ofNat_toNat, BitVec.setWidth_eq, XrResult.mk.injEq]
  rw [BitVec.toInt_ofInt, Int.bmod_eq_of_le]
  · have low := fits.1
    dsimp only at low
    omega
  · have high := fits.2
    dsimp only at high
    omega

/-- A stub reads the result and goes on with the bindings. -/
theorem readReturn_yields {b : Build} {p : Serialization.Platform} {fuel : Nat}
    {timeOffset : UInt64} {bindings : List Binding} {params : Scope} {bytes : List UInt8}
    {found : Option (List Value)}
    {result : XrResult} (fits : -2 ^ 31 ≤ result.code ∧ result.code < 2 ^ 31)
    (runtimeDuration : UInt64)
    (read : (readBindings b p fuel { inPlace := true, timeOffset := timeOffset } params
      bindings).Yields bytes found) :
    (readReturn b p fuel timeOffset bindings params).Yields
      (toBytes 4 (resultWord result) ++ toBytes 8 runtimeDuration.toNat ++ bytes)
      (found.map (result, ·)) := by
  have small : resultWord result < 256 ^ 4 := BitVec.isLt _
  have short : runtimeDuration.toNat < 256 ^ 8 := UInt64.toNat_lt _
  rw [List.append_assoc]
  refine Decoder.Yields.afterWord Raised.endOfFile small ?_
  refine Decoder.Yields.afterWord Raised.endOfFile short ?_
  rw [wordResult_resultWord fits]
  exact Decoder.Yields.map (result, ·) read

/-- The expressions of a binding lead somewhere. -/
def Evaluates (b : Build) (params : Scope) (binding : Binding) (env : Env) : Prop :=
  (params.operand b binding env).isSome ∧
    ∀ len, binding.len = some len → (params.lengthOf b env len).isSome

/-- They do on one side if they do on the other. -/
theorem Evaluates.alike {b : Build} {params params' : Scope} (alike : params.Alike params')
    {binding : Binding} {env : Env} :
    Evaluates b params binding env ↔ Evaluates b params' binding env := by
  have operands : (params.operand b binding env).isSome = (params'.operand b binding env).isSome :=
    isSome_of_rel (Scope.operand_alike alike binding)
  have lengths (len : BindingLength) :
      (params.lengthOf b env len).isSome = (params'.lengthOf b env len).isSome :=
    Scope.lengthOf_alike alike len
  unfold Evaluates
  simp only [operands, lengths]

section Calls

variable {b : Build} {p : Serialization.Platform} {fuel depth : Nat} {timeOffset : UInt64}
  {f : GeneratedFunction} {bindings : List Binding} {arguments decoded after : List Value}

/-- The bindings of a function are those of the access paths to what the generator saves. -/
theorem Declared.paths (declared : Declared b f bindings) :
    ∀ binding ∈ bindings, ∃ path, Saved b f.params path ∧ binding = render b [] [] path := by
  obtain ⟨rank, acyclic⟩ := declared.acyclic
  obtain ⟨least, collected⟩ := declared.collected
  obtain ⟨paths, least', collected', -, listed⟩ :=
    collectModifiableBindings_eq acyclic declared.different
  have same : some bindings = some (paths.map (render b [] [])) := by
    rw [← collected (max least least') (Nat.le_max_left _ _),
      collected' (max least least') (Nat.le_max_right _ _)]
  obtain rfl := Option.some.inj same
  intro binding member
  obtain ⟨path, there, rfl⟩ := List.mem_map.mp member
  exact ⟨path, (listed path).mp there, rfl⟩

/-- The handler calls the runtime with what arrives of the arguments. -/
theorem Called.decoded_eq (granted : ∀ size, p.malloc size = true) (enough : depth ≤ fuel)
    (generated : f.function ≠ .createInstance ∧ f.function ≠ .destroyInstance)
    (wf : WellFormedArguments b depth f arguments)
    (called : Called b p fuel timeOffset f arguments decoded) :
    decoded =
      receivedMembers b timeOffset 0 (received b timeOffset 0 depth) f.params arguments := by
  obtain ⟨bytes, rest, wrote, read⟩ := called
  obtain ⟨bytes', wrote', read'⟩ := arguments_arrive (p := p) granted enough wf timeOffset
  rw [wrote', Written.complete, Written.complete, Written.mk.injEq] at wrote
  obtain rfl := List.append_cancel_left wrote.1
  have plain : readArguments b p fuel f = deserializeMembers b p {} (deserialize b p {} fuel)
      f.params (List.replicate f.params.length .unset) := by
    unfold readArguments
    split
    next create => exact absurd create generated.1
    next destroy => exact absurd destroy generated.2
    next => rfl
  rw [plain, read', Outcome.done.injEq] at read
  exact read.1.symm

section

variable (declared : Declared b f bindings) (granted : ∀ size, p.malloc size = true)
  (enough : depth ≤ fuel) (wf : WellFormedArguments b depth f arguments)
  (called : Called b p fuel timeOffset f arguments decoded)
  (returned : Returned b depth f decoded after)

include declared granted enough wf called returned

/-- What the runtime leaves has the form of the arguments. -/
theorem alike_after :
    (⟨f.params, arguments⟩ : Scope).Alike ⟨f.params, after⟩ := by
  have arrived : SameForms arguments decoded := by
    rw [called.decoded_eq granted enough declared.generated wf]
    exact sameForms_members timeOffset 0 (fun _ _ wf => sameForm_received timeOffset 0 wf) f.params
      arguments wf
  exact ⟨rfl, arrived.trans returned.form⟩

/-- A number that bounds a loop is the same on both sides. -/
theorem number_after {text : String}
    (number : ∀ q ∈ f.params, q.name = text → q.type ≠ "XrTime") :
    (⟨f.params, arguments⟩ : Scope).number text = (⟨f.params, after⟩ : Scope).number text := by
  have found := Scope.find_alike (alike_after declared granted enough wf called returned) text
  unfold Scope.number
  cases one : (⟨f.params, arguments⟩ : Scope).find text with
  | none =>
    rw [one] at found
    have none : (⟨f.params, after⟩ : Scope).find text = none :=
      Option.not_isSome_iff_eq_none.mp (by simp [← isSome_of_rel found])
    rw [none]
  | some entry =>
    obtain ⟨q, value⟩ := entry
    rw [one] at found
    cases other : (⟨f.params, after⟩ : Scope).find text with
    | none =>
      rw [other] at found
      cases found
    | some entry' =>
      obtain ⟨q', value'⟩ := entry'
      rw [other] at found
      obtain ⟨⟨-, form⟩⟩ := found
      cases value with
      | plain count =>
        have here : sibling f.params arguments text = some (.plain count) := by
          rw [sibling, show ((f.params.zip arguments).find? fun entry => entry.1.name = text) =
            some (q, .plain count) from one]
          rfl
        have sent : sibling f.params decoded text = some (.plain count) := by
          rw [called.decoded_eq granted enough declared.generated wf]
          exact sibling_received timeOffset 0 (received_plain timeOffset 0 depth) number here
        have there := returned.numbers text count sent
        rw [sibling, show ((f.params.zip after).find? fun entry => entry.1.name = text) =
          some (q', value') from other] at there
        obtain rfl : value' = .plain count := Option.some.inj there
        rfl
      | _ =>
        cases value' with
        | plain count => exact form.elim
        | _ => rfl

/-- The loops of a binding run through the same rounds on both sides. -/
theorem rounds_after {binding : Binding} (member : binding ∈ bindings) :
    (⟨f.params, arguments⟩ : Scope).rounds b binding.loops [] =
      (⟨f.params, after⟩ : Scope).rounds b binding.loops [] := by
  refine Scope.rounds_eq (fun loop inside text named => ?_) []
  exact number_after declared granted enough wf called returned
    (declared.counts binding member loop inside text named)

/-- Where the expressions of a binding lead somewhere, its calls meet. -/
theorem meets_of_evaluates {binding : Binding} (member : binding ∈ bindings) {env : Env}
    (evaluates : Evaluates b ⟨f.params, arguments⟩ binding env) :
    Meets b depth ⟨f.params, arguments⟩ ⟨f.params, after⟩ binding env := by
  have alike := alike_after declared granted enough wf called returned
  obtain ⟨path, saved, rfl⟩ := declared.paths binding member
  obtain ⟨q, root, leads, kept⟩ := saved
  have there := (Evaluates.alike alike).mp evaluates
  obtain ⟨⟨param, place⟩, here⟩ := Option.isSome_iff_exists.mp evaluates.1
  obtain ⟨⟨param', value⟩, operand⟩ := Option.isSome_iff_exists.mp there.1
  have related : Option.Rel Scope.AlikeEntries
      (Scope.operand b ⟨f.params, arguments⟩ (render b [] [] path) env)
      (Scope.operand b ⟨f.params, after⟩ (render b [] [] path) env) :=
    Scope.operand_alike alike (render b [] [] path)
  rw [here, operand] at related
  obtain ⟨⟨rfl, form⟩⟩ := related
  have typed : Scope.Typed b depth ⟨f.params, after⟩ := ⟨declared.different, returned.wellFormed⟩
  exact ⟨param, place, value, here, operand, form,
    Scope.operand_typed typed declared.extents root leads kept
      (declared.custom path ⟨q, root, leads, kept⟩) operand there.2⟩

end

/-- A saved binding has a length exactly where its call is given one. -/
theorem saved_len {path : BindingPrefix} {q : XrParam} {loops : List BindingLoop} :
    ((saved b path q loops).type = .xr ∨ (saved b path q loops).type = .ptr) →
      (saved b path q loops).len = none := by
  unfold saved
  dsimp only
  split
  · split
    · simp
    · simp
  · split
    · simp
    · simp
    · simp

/-- A call that comes to its end has evaluated its expressions. -/
theorem evaluates_of_complete (declared : Declared b f bindings) {binding : Binding}
    (member : binding ∈ bindings) {params : Scope} {env : Env} {bytes : List UInt8}
    (wrote : params.serializeCall b fuel binding env = .complete bytes) :
    Evaluates b params binding env := by
  obtain ⟨path, -, rendered⟩ := declared.paths binding member
  have unsized (short : binding.type = .xr ∨ binding.type = .ptr) : binding.len = none := by
    rw [rendered, render_eq] at short ⊢
    exact saved_len short
  have stops : (Written.stopped .fault : Written Raised) ≠ .complete bytes := by
    simp [Written.stopped, Written.complete]
  unfold Scope.serializeCall at wrote
  unfold Evaluates
  cases operand : params.operand b binding env with
  | none =>
    rw [operand] at wrote
    exact absurd wrote stops
  | some found =>
    refine ⟨rfl, fun len there => ?_⟩
    simp only [operand, there, Option.bind_some] at wrote
    cases counted : params.lengthOf b env len with
    | some count => rfl
    | none =>
      simp only [counted] at wrote
      cases called : binding.type with
      | xr => simp [unsized (.inl called)] at there
      | ptr => simp [unsized (.inr called)] at there
      | _ =>
        simp only [called] at wrote
        exact absurd wrote stops

/-- All expressions of the bindings lead somewhere. -/
def AllEvaluate (b : Build) (bindings : List Binding) (params : Scope) : Prop :=
  ∀ binding ∈ bindings, ∃ envs, params.rounds b binding.loops [] = some envs ∧
    ∀ env ∈ envs, Evaluates b params binding env

/-- A reply that comes to its end has evaluated all expressions. -/
theorem allEvaluate_of_complete (declared : Declared b f bindings) {params : Scope}
    {result : XrResult} {runtimeDuration : UInt64} {bytes : List UInt8}
    (wrote : writeReturn b fuel bindings params result runtimeDuration = .complete bytes) :
    AllEvaluate b bindings params := by
  obtain ⟨-, body, -, whole, -⟩ := Written.andThen_eq_complete wrote
  intro binding member
  obtain ⟨part, serialized⟩ := Written.all_eq_complete whole _ (List.mem_map_of_mem member)
  unfold Scope.serializeBinding at serialized
  cases rounds : params.rounds b binding.loops [] with
  | none => simp [rounds, Written.stopped, Written.complete] at serialized
  | some envs =>
    simp only [rounds] at serialized
    refine ⟨envs, rfl, fun env inside => ?_⟩
    obtain ⟨call, complete⟩ := Written.all_eq_complete serialized _ (List.mem_map_of_mem inside)
    exact evaluates_of_complete declared member complete

section

variable (declared : Declared b f bindings) (granted : ∀ size, p.malloc size = true)
  (enough : depth ≤ fuel) (wf : WellFormedArguments b depth f arguments)
  (called : Called b p fuel timeOffset f arguments decoded)
  (returned : Returned b depth f decoded after)

include declared granted enough wf called returned

/-- All expressions lead somewhere on one side if they do on the other. -/
theorem allEvaluate_after :
    AllEvaluate b bindings ⟨f.params, arguments⟩ ↔ AllEvaluate b bindings ⟨f.params, after⟩ := by
  have alike := alike_after declared granted enough wf called returned
  refine forall₂_congr fun binding member => ?_
  rw [rounds_after declared granted enough wf called returned member]
  simp only [Evaluates.alike alike]

/-- Where all expressions lead somewhere, the reply is written completely, and the stub lays it over
its arguments, which succeeds exactly if these are firm. -/
theorem return_transfers (evaluate : AllEvaluate b bindings ⟨f.params, arguments⟩)
    {result : XrResult} (fits : -2 ^ 31 ≤ result.code ∧ result.code < 2 ^ 31)
    (runtimeDuration : UInt64) :
    ∃ bytes written places,
      writeReturn b fuel bindings ⟨f.params, after⟩ result runtimeDuration = .complete bytes ∧
      outputs b bindings ⟨f.params, after⟩ = some written ∧
      SameForms places (arrivingAll b depth timeOffset written) ∧
      (readReturn b p fuel timeOffset bindings ⟨f.params, arguments⟩).Yields bytes
        ((overlayAll places (arrivingAll b depth timeOffset written)).map (result, ·)) ∧
      ((overlayAll places (arrivingAll b depth timeOffset written)).isSome ↔
        ∀ binding ∈ bindings, ∀ envs,
          (⟨f.params, arguments⟩ : Scope).rounds b binding.loops [] = some envs →
          ∀ env ∈ envs, Firm b depth ⟨f.params, arguments⟩ binding env) := by
  have meet : ∀ binding ∈ bindings, ∃ envs,
      (⟨f.params, arguments⟩ : Scope).rounds b binding.loops [] = some envs ∧
      (⟨f.params, after⟩ : Scope).rounds b binding.loops [] = some envs ∧
      ∀ env ∈ envs, Meets b depth ⟨f.params, arguments⟩ ⟨f.params, after⟩ binding env := by
    intro binding member
    obtain ⟨envs, rounds, each⟩ := evaluate binding member
    have rounds' := rounds_after declared granted enough wf called returned member
    exact ⟨envs, rounds, rounds'.symm.trans rounds, fun env inside =>
      meets_of_evaluates declared granted enough wf called returned member (each env inside)⟩
  obtain ⟨written, denoted, body, places, wrote, form, read, laid⟩ :=
    @bindings_transfer b p fuel depth timeOffset granted enough _ _ bindings meet
  refine ⟨_, written, places, ?_, denoted, form, readReturn_yields fits runtimeDuration read, laid⟩
  rw [writeReturn, wrote, Written.complete_andThen]

/-- A reply that is written completely is read as what should arrive of the outputs, laid over the
places in the arguments. -/
theorem transfers_of_complete {result : XrResult}
    (fits : -2 ^ 31 ≤ result.code ∧ result.code < 2 ^ 31) {runtimeDuration : UInt64}
    {bytes : List UInt8}
    (wrote : writeReturn b fuel bindings ⟨f.params, after⟩ result runtimeDuration =
      .complete bytes) :
    AllEvaluate b bindings ⟨f.params, arguments⟩ ∧ ∃ written places,
      outputs b bindings ⟨f.params, after⟩ = some written ∧
      SameForms places (arrivingAll b depth timeOffset written) ∧
      (readReturn b p fuel timeOffset bindings ⟨f.params, arguments⟩).Yields bytes
        ((overlayAll places (arrivingAll b depth timeOffset written)).map (result, ·)) ∧
      ((overlayAll places (arrivingAll b depth timeOffset written)).isSome ↔
        ∀ binding ∈ bindings, ∀ envs,
          (⟨f.params, arguments⟩ : Scope).rounds b binding.loops [] = some envs →
          ∀ env ∈ envs, Firm b depth ⟨f.params, arguments⟩ binding env) := by
  have evaluate := (allEvaluate_after declared granted enough wf called returned).mpr
    (allEvaluate_of_complete declared wrote)
  obtain ⟨bytes', written, places, wrote', denoted, form, read, laid⟩ :=
    return_transfers declared granted enough wf called returned evaluate fits runtimeDuration
  obtain rfl : bytes' = bytes := by
    rw [wrote', Written.complete, Written.complete, Written.mk.injEq] at wrote
    exact wrote.1
  exact ⟨evaluate, written, places, denoted, form, read, laid⟩

/-- What a stub that returns leaves in its arguments is what should arrive of the outputs. -/
theorem left_sameContent {result result' : XrResult}
    (fits : -2 ^ 31 ≤ result.code ∧ result.code < 2 ^ 31) {runtimeDuration : UInt64}
    {bytes : List UInt8} {written : List Output} {left : List Value}
    (wrote : writeReturn b fuel bindings ⟨f.params, after⟩ result runtimeDuration =
      .complete bytes)
    (denoted : outputs b bindings ⟨f.params, after⟩ = some written)
    (ended : ending (readReturn b p fuel timeOffset bindings ⟨f.params, arguments⟩ bytes) =
      .returned result' left) :
    List.Forall₂ (fun value output => value.SameContent (output.arriving b depth timeOffset)) left
      written := by
  obtain ⟨-, written', places, denoted', form, read, -⟩ :=
    transfers_of_complete declared granted enough wf called returned fits wrote
  obtain rfl : written' = written := Option.some.inj (denoted'.symm.trans denoted)
  cases overlaid : overlayAll places (arrivingAll b depth timeOffset written') with
  | none =>
    rw [overlaid] at read
    obtain ⟨error, raised⟩ := read []
    rw [List.append_nil] at raised
    rw [raised] at ended
    cases ended
  | some values =>
    rw [overlaid] at read
    have whole := read []
    rw [List.append_nil] at whole
    rw [whole] at ended
    cases ended
    have same := resemblesAll_iff.mp (overlayAll_sameContent form overlaid)
    exact List.forall₂_map_right_iff.mp same

end

/-- A remote call is transparent exactly if all expressions of the function's bindings lead
somewhere on its arguments and no counted pointer in what they denote is hollow: not null with a
count of zero. -/
theorem transparent_iff (declared : Declared b f bindings)
    (granted : ∀ size, p.malloc size = true) (enough : depth ≤ fuel)
    (wf : WellFormedArguments b depth f arguments)
    (called : Called b p fuel timeOffset f arguments decoded)
    (returned : Returned b depth f decoded after) {result : XrResult}
    (fits : -2 ^ 31 ≤ result.code ∧ result.code < 2 ^ 31) (runtimeDuration : UInt64) :
    Transparent b p fuel depth timeOffset f bindings arguments after result runtimeDuration ↔
      Returnable b depth bindings ⟨f.params, arguments⟩ := by
  constructor
  · rintro ⟨bytes, left, written, wrote, -, ended, -⟩
    obtain ⟨evaluate, written', places, -, -, read, laid⟩ :=
      transfers_of_complete declared granted enough wf called returned fits wrote
    -- A refused overlay would have been caught.
    have accepted : (overlayAll places (arrivingAll b depth timeOffset written')).isSome := by
      cases refused : overlayAll places (arrivingAll b depth timeOffset written') with
      | some _ => rfl
      | none =>
        rw [refused] at read
        obtain ⟨error, raised⟩ := read []
        rw [List.append_nil] at raised
        rw [raised] at ended
        cases ended
    intro binding member
    obtain ⟨envs, rounds, each⟩ := evaluate binding member
    refine ⟨envs, rounds, fun env inside => ?_⟩
    obtain ⟨operand, lengths⟩ := each env inside
    obtain ⟨⟨param, value⟩, here⟩ := Option.isSome_iff_exists.mp operand
    exact ⟨param, value, here, lengths,
      laid.mp accepted binding member envs rounds env inside param value here⟩
  · intro returnable
    have evaluate : AllEvaluate b bindings ⟨f.params, arguments⟩ := by
      intro binding member
      obtain ⟨envs, rounds, each⟩ := returnable binding member
      refine ⟨envs, rounds, fun env inside => ?_⟩
      obtain ⟨param, value, here, lengths, -⟩ := each env inside
      exact ⟨by rw [here]; rfl, lengths⟩
    obtain ⟨bytes, written, places, wrote, denoted, form, read, laid⟩ :=
      return_transfers declared granted enough wf called returned evaluate fits runtimeDuration
    have accepted := laid.mpr fun binding member envs rounds env inside param place here => by
      obtain ⟨envs', rounds', each⟩ := returnable binding member
      obtain rfl := Option.some.inj (rounds.symm.trans rounds')
      obtain ⟨param', place', here', -, clear⟩ := each env inside
      obtain ⟨rfl, rfl⟩ := Prod.mk.inj (Option.some.inj (here.symm.trans here'))
      exact clear
    obtain ⟨left, overlaid⟩ := Option.isSome_iff_exists.mp accepted
    rw [overlaid] at read
    have whole := read []
    rw [List.append_nil] at whole
    refine ⟨bytes, left, written, wrote, denoted, by rw [whole]; rfl, ?_⟩
    have same := resemblesAll_iff.mp (overlayAll_sameContent form overlaid)
    exact List.forall₂_map_right_iff.mp same

end Calls

/-- Without structs and loops, a function is declared as soon as its bindings are collected. -/
theorem declared_of_no_structs {b : Build} {f : GeneratedFunction} {bindings : List Binding}
    (flat : b.structs = []) (different : (f.params.map XrParam.name).Nodup)
    (generated : f.function ≠ .createInstance ∧ f.function ≠ .destroyInstance)
    (collected : ∃ least, ∀ fuel ≥ least,
      collectModifiableBindings b fuel f.params = some bindings)
    (extents : ∀ extent, 0 < b.extent extent ∧ b.extent extent < wordLimit)
    (straight : ∀ binding ∈ bindings, binding.loops = []) : Declared b f bindings where
  acyclic := by
    refine ⟨fun _ => 0, fun struct member => ?_⟩
    rw [flat] at member
    exact absurd member List.not_mem_nil
  different := different
  generated := generated
  collected := collected
  extents := extents
  custom := by
    rintro path ⟨p, -, leads, -⟩ step inside
    cases leads with
    | here => exact absurd inside List.not_mem_nil
    | through _ found =>
      rw [Build.findStruct, flat] at found
      cases found
  counts := by
    intro binding member loop inside
    rw [straight binding member] at inside
    exact absurd inside List.not_mem_nil

/-- A registry without structs. -/
def handleBuild : Build where
  structs := []
  extensions := []
  enabled _ := false
  sizeOf type := if type = "XrSession" then 8 else 4
  extent _ := 1
  nesting _ := 0
  nested := by simp
  distinct := by simp
  typed := by simp

/-- `xrEnumerateReferenceSpaces`. -/
def enumerateReferenceSpaces : GeneratedFunction where
  id := 25
  function := .other 25
  params := [
    { type := "XrSession", name := "session" },
    { type := "uint32_t", name := "spaceCapacityInput" },
    { type := "uint32_t", pointer := some "*", name := "spaceCountOutput" },
    { type := "XrReferenceSpaceType", pointer := some "*", name := "spaces"
      len := some "spaceCapacityInput" }]

/-- Its bindings. -/
def spacesBindings : List Binding := [
  { type := .ptr
    expression := { name := "spaceCountOutput" }
    param := { type := "uint32_t", pointer := some "*", name := "spaceCountOutput" } },
  { type := .sizedPtr
    expression := { name := "spaces" }
    param := { type := "XrReferenceSpaceType", pointer := some "*", name := "spaces"
               len := some "spaceCapacityInput" }
    len := some (.member { name := "spaceCapacityInput" }) }]

/-- They are what the generator makes of the function. -/
theorem enumerateReferenceSpaces_declared :
    Declared handleBuild enumerateReferenceSpaces spacesBindings := by
  refine declared_of_no_structs rfl (by decide) (by decide) ⟨1, fun fuel enough => ?_⟩
    (fun _ => ⟨Nat.one_pos, (by decide : 1 < wordLimit)⟩) ?_
  · obtain ⟨fuel, rfl⟩ := Nat.exists_eq_succ_of_ne_zero (Nat.ne_of_gt enough)
    rfl
  · intro binding member
    simp only [spacesBindings, List.mem_cons, List.not_mem_nil, or_false] at member
    rcases member with rfl | rfl
    · rfl
    · rfl

/-- The arguments of an application that asks for as many spaces as it has room for. -/
def spacesArguments (capacity count : Nat) (spaces : Value) : List Value :=
  [.plain 5, .plain capacity, .block [.plain count], spaces]

/-- They are well formed if there is room for as many. -/
theorem wellFormed_spaces {capacity count : Nat} {spaces : Value} (few : capacity < 256 ^ 4)
    (small : count < 256 ^ 4)
    (wf : WellFormedPtr (WellFormedPlain 4) (some capacity) spaces) :
    WellFormedArguments handleBuild 1 enumerateReferenceSpaces
      (spacesArguments capacity count spaces) := by
  have session : WellFormed handleBuild 1 "XrSession" (.plain 5) := by
    show (5 : Nat) < 256 ^ 8
    decide
  have room : WellFormed handleBuild 1 "uint32_t" (.plain capacity) := few
  have counted : WellFormed handleBuild 1 "uint32_t" (.plain count) := small
  refine ⟨session, room, ⟨rfl, (by decide : 1 < wordLimit), ?_⟩, wf, trivial⟩
  intro x member
  rw [List.mem_singleton.mp member]
  exact counted

/-- A runtime that writes a count and some spaces returns as it should. -/
theorem returned_spaces {capacity count count' : Nat} {spaces spaces' : Value}
    (form : spaces.SameForm spaces') (pointer : ∀ number, spaces ≠ .plain number)
    (wf : WellFormedArguments handleBuild 1 enumerateReferenceSpaces
      (spacesArguments capacity count' spaces')) :
    Returned handleBuild 1 enumerateReferenceSpaces (spacesArguments capacity count spaces)
      (spacesArguments capacity count' spaces') := by
  refine ⟨⟨trivial, trivial, ⟨trivial, trivial⟩, form, trivial⟩, wf, ?_⟩
  intro name number there
  by_cases session : "session" = name
  · subst session
    exact there
  · by_cases capacity : "spaceCapacityInput" = name
    · subst capacity
      exact there
    · -- The other parameters are pointers.
      by_cases counter : "spaceCountOutput" = name
      · subst counter
        cases there
      · by_cases buffer : "spaces" = name
        · subst buffer
          exact absurd (Option.some.inj there) (pointer number)
        · simp [sibling, spacesArguments, enumerateReferenceSpaces, session, capacity, counter,
            buffer] at there

/-- With room for two spaces they reach the application. -/
theorem two_spaces_transparent :
    Transparent handleBuild plentiful 1 1 300 enumerateReferenceSpaces spacesBindings
      (spacesArguments 2 0 (.block [.plain 0, .plain 0]))
      (spacesArguments 2 2 (.block [.plain 1, .plain 2])) .success 7 := by
  have wf (count one two : Nat) (small : count < 256 ^ 4 ∧ one < 256 ^ 4 ∧ two < 256 ^ 4) :
      WellFormedArguments handleBuild 1 enumerateReferenceSpaces
        (spacesArguments 2 count (.block [.plain one, .plain two])) := by
    refine wellFormed_spaces (by decide) small.1 ⟨rfl, (by decide : 2 < wordLimit), ?_⟩
    intro x member
    rcases List.mem_pair.mp member with rfl | rfl
    · exact small.2.1
    · exact small.2.2
  have called : Called handleBuild plentiful 1 300 enumerateReferenceSpaces
      (spacesArguments 2 0 (.block [.plain 0, .plain 0]))
      (spacesArguments 2 0 (.block [.plain 0, .plain 0])) :=
    ⟨toBytes 8 5 ++ toBytes 4 2 ++ toBytes 4 1 ++ toBytes 4 0 ++ toBytes 4 2 ++ toBytes 4 0 ++
      toBytes 4 0, [], by rfl, by rfl⟩
  have returned : Returned handleBuild 1 enumerateReferenceSpaces
      (spacesArguments 2 0 (.block [.plain 0, .plain 0]))
      (spacesArguments 2 2 (.block [.plain 1, .plain 2])) :=
    returned_spaces ⟨trivial, trivial, trivial⟩ nofun (wf 2 1 2 (by decide))
  refine (transparent_iff enumerateReferenceSpaces_declared (fun _ => rfl) (Nat.le_refl 1)
    (wf 0 0 0 (by decide)) called returned (by decide) 7).mpr ?_
  intro binding member
  simp only [spacesBindings, List.mem_cons, List.not_mem_nil, or_false] at member
  rcases member with rfl | rfl
  · refine ⟨[[]], rfl, ?_⟩
    intro env inside
    obtain rfl := List.mem_singleton.mp inside
    refine ⟨enumerateReferenceSpaces.params[2], .block [.plain 0], rfl, nofun, ?_⟩
    show hollow ∉ [Spot.pointer (some 1)]
    decide
  · refine ⟨[[]], rfl, ?_⟩
    intro env inside
    obtain rfl := List.mem_singleton.mp inside
    refine ⟨enumerateReferenceSpaces.params[3], .block [.plain 0, .plain 0], rfl, ?_, ?_⟩
    · intro len there
      cases there
      rfl
    · show hollow ∉ [Spot.pointer (some 2)]
      decide

/-- An application that asks for the number of spaces with room for none, but with a pointer, gets
an error in place of the runtime's success. -/
theorem no_room_fails :
    let arguments := spacesArguments 0 0 (.block [])
    let decoded := spacesArguments 0 0 .null
    let after := spacesArguments 0 3 .null
    Declared handleBuild enumerateReferenceSpaces spacesBindings ∧
      WellFormedArguments handleBuild 1 enumerateReferenceSpaces arguments ∧
      Called handleBuild plentiful 1 300 enumerateReferenceSpaces arguments decoded ∧
      Returned handleBuild 1 enumerateReferenceSpaces decoded after ∧
      (∃ bytes, writeReturn handleBuild 1 spacesBindings ⟨enumerateReferenceSpaces.params, after⟩
          .success 7 = .complete bytes ∧
        (ending (readReturn handleBuild plentiful 1 300 spacesBindings
          ⟨enumerateReferenceSpaces.params, arguments⟩ bytes)).result = some .runtimeFailure) ∧
      ¬Transparent handleBuild plentiful 1 1 300 enumerateReferenceSpaces spacesBindings arguments
        after .success 7 := by
  intro arguments decoded after
  have reply : writeReturn handleBuild 1 spacesBindings ⟨enumerateReferenceSpaces.params, after⟩
      .success 7 = .complete (toBytes 4 0 ++ toBytes 8 7 ++ (toBytes 4 1 ++ toBytes 4 3) ++
        toBytes 4 0) := rfl
  have caught : ending (readReturn handleBuild plentiful 1 300 spacesBindings
      ⟨enumerateReferenceSpaces.params, arguments⟩ (toBytes 4 0 ++ toBytes 8 7 ++
        (toBytes 4 1 ++ toBytes 4 3) ++ toBytes 4 0)) = .caught nullptrIntoPointer := rfl
  refine ⟨enumerateReferenceSpaces_declared, ?_, ?_, ?_, ?_, ?_⟩
  · exact wellFormed_spaces (by decide) (by decide) ⟨rfl, by decide, nofun⟩
  · exact ⟨toBytes 8 5 ++ toBytes 4 0 ++ toBytes 4 1 ++ toBytes 4 0 ++ toBytes 4 0, [], by rfl,
      by rfl⟩
  · exact returned_spaces trivial nofun (wellFormed_spaces (by decide) (by decide) rfl)
  · exact ⟨_, reply, by rw [caught]; rfl⟩
  · rintro ⟨bytes, left, written, wrote, -, ended, -⟩
    rw [reply, Written.complete, Written.complete, Written.mk.injEq] at wrote
    rw [← wrote.1, caught] at ended
    cases ended

end XrTransport.Client
