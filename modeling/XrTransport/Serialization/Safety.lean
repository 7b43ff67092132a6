import XrTransport.Foundation.Survey
import XrTransport.Serialization.RoundTrip
import XrTransport.Serialization.Termination

/-!
# What a payload demands of its receiver

The deserializer follows the structure types and the counts it reads without checking most of them.
`demands` walks over a payload the way its format says and lists what reading it relies on: that a
structure type is registered, that the destination holds the struct it names, that there is a place
for what arrives. Decoding is safe exactly when every demand on the list is met.
-/
namespace XrTransport.Serialization

/-- What reading a payload may rely on. -/
inductive Demand where
  /-- Bytes or a pointer arrive for a place, which must exist. -/
  | storage (place : Value)
  /-- A count arrives for a place, which must hold a counted pointer. -/
  | counted (place : Value)
  /-- A structure type arrives for a place, which must hold a chain pointer. -/
  | chain (place : Value)
  /-- Structs arrive for a place, which must hold a pointer to structs. -/
  | array (place : Value)
  /-- A struct of a type arrives, which must be registered. -/
  | registered (type : Nat)
  /-- A struct of a type arrives for a struct, which must be the one registered. -/
  | same (struct : String) (type : Nat)
  /-- A pointer is null where the other one is not, and an assertion says that it never is. -/
  | assertion
  /-- A member arrives the generator has no code for. -/
  | generated (member : XrParam)
deriving Repr

/-- Whether the receiver's memory and tables are as demanded. -/
def Build.meets (b : Build) : Demand → Bool
  | .storage .outside => false
  | .storage _ => true
  | .counted .null => true
  | .counted (.block _) => true
  | .counted _ => false
  | .chain .nullStruct => true
  | .chain (.chained _ _) => true
  | .chain _ => false
  | .array .nullStruct => true
  | .array (.chainedArray _ _) => true
  | .array _ => false
  | .registered type => (b.lookup type).isSome
  | .same struct type => (b.lookup type).any fun s => s.name = struct
  | .assertion => false
  | .generated member => (memberKind b member).isSome

section

variable (b : Build) (p : Platform) (ctx : DeserializeContext)

/-- Make a demand of the receiver. -/
def ask (d : Demand) : Surveyor Demand := .demand b.meets d

/-- A value of a type that is no struct: nothing is written when nothing is left. -/
def surveyPlain (size : Nat) (place : Value) (next : Nat → Surveyor Demand) : Surveyor Demand :=
  fun bytes =>
    match size, bytes with
    | _ + 1, _ :: _ => (ask b (.storage place)).andThen (.word size next) bytes
    | _, _ => Surveyor.word size next bytes

/-- A time. -/
def surveyTime (place : Value) : Surveyor Demand := .word 8 fun _ => ask b (.storage place)

/-- Elements, at their places and then behind the last one. -/
def surveyArray (element : Value → Surveyor Demand) : Nat → List Value → Surveyor Demand
  | 0, _ => .nothing
  | len + 1, place :: rest => (element place).andThen (surveyArray element len rest)
  | len + 1, [] => (element .outside).andThen (surveyArray element len [])

/-- A counted pointer. -/
def surveyPtr (size : Nat) (element : Value → Surveyor Demand) (place : Value) :
    Surveyor Demand :=
  .word 4 fun len =>
    if ctx.inPlace then
      (ask b (.counted place)).andThen
        (match place, len with
          | .block elements, len + 1 => surveyArray element (len + 1) elements
          | .null, 0 => .nothing
          | _, _ => .refuse)
    else if len ≠ 0 then
      (surveyArray element len (allocate (p.malloc (size * len)) len)).andThen
        (ask b (.storage place))
    else ask b (.storage place)

/-- An array of pointers of a hand-written struct. -/
def surveyEach (element : Value → Surveyor Demand) (len : Nat) (place : Value) :
    Surveyor Demand :=
  if ctx.inPlace then
    (ask b (.counted place)).andThen
      (match place with
        | .block elements => surveyArray element len elements
        | _ => surveyArray element len [])
  else
    (ask b (.storage place)).andThen
      (surveyArray element len (allocate (p.malloc (len * b.sizeOf "void*")) len))

/-- A string of a hand-written struct. -/
def surveyName (place : Value) : Surveyor Demand :=
  surveyPtr b p ctx 1 (fun place => surveyPlain b 1 place fun _ => .nothing) place

/-- A struct of a type that must be registered. -/
def surveyRegistered (type : Nat) (next : XrStruct → Surveyor Demand) : Surveyor Demand :=
  (ask b (.registered type)).andThen
    (match b.lookup type with
      | none => .refuse
      | some struct => next struct)

variable (recur : String → Value → Surveyor Demand)

/-- A struct of a type over a chain pointer. -/
def surveyXrInto (isConst : Bool) (type : Nat) (place : Value) : Surveyor Demand :=
  match place with
  | .nullStruct =>
    if isConst then .refuse
    else if p.ndebug then surveyRegistered b type fun struct => recur struct.name .outside
    else ask b .assertion
  | .chained name object => (ask b (.same name type)).andThen (recur name object)
  | _ => ask b (.chain place)

/-- No struct over a chain pointer. -/
def surveyNoXrInto (isConst : Bool) (place : Value) : Surveyor Demand :=
  match place with
  | .nullStruct => .nothing
  | .chained _ _ =>
    if isConst then .refuse else if p.ndebug then .nothing else ask b .assertion
  | _ => ask b (.chain place)

/-- A chained struct. -/
def surveyXr (isConst : Bool) (place : Value) : Surveyor Demand :=
  .word 4 fun type =>
    if type ≠ typeUnknown then
      if ctx.inPlace then surveyXrInto b p recur isConst type place
      else
        surveyRegistered b type fun struct =>
          (recur struct.name (if p.malloc (b.sizeLookup type) then .unset else .outside)).andThen
            (ask b (.storage place))
    else if ctx.inPlace then surveyNoXrInto b p isConst place
    else ask b (.storage place)

/-- Structs of a type over a pointer to structs. -/
def surveyXrArrayInto (count type : Nat) (place : Value) : Surveyor Demand :=
  match place with
  | .nullStruct => surveyRegistered b type fun struct => surveyArray (recur struct.name) count []
  | .chainedArray name elements =>
    (ask b (.same name type)).andThen (surveyArray (recur name) count elements)
  | _ => ask b (.array place)

/-- Structs behind a base struct. -/
def surveyXrArray (place : Value) : Surveyor Demand :=
  .word 4 fun count =>
    if count ≠ 0 then
      .word 4 fun type =>
        if ctx.inPlace then surveyXrArrayInto b recur count type place
        else
          (ask b (.storage place)).andThen
            (surveyRegistered b type fun struct =>
              surveyArray (recur struct.name) count
                (allocate (p.malloc (b.sizeLookup type * count)) count))
    else ask b (.storage place)

/-- A member. -/
def surveyMember (member : XrParam) (place : Value) : Surveyor Demand :=
  match memberKind b member with
  | none => ask b (.generated member)
  | some (.xrArray _) => surveyXrArray b p ctx recur place
  | some .xr => surveyXr b p ctx recur (member.qualifier = some "const") place
  | some (.ptr _) => surveyPtr b p ctx (b.sizeOf member.type) (recur member.type) place
  | some (.array extent) =>
    surveyArray (recur member.type) (b.extent extent) (place.places (b.extent extent))
  | some .time => surveyTime b place
  | some .value => recur member.type place

/-- Members in order, each at its own place. -/
def surveyMembers : List XrParam → List Value → Surveyor Demand
  | [], _ => .nothing
  | member :: rest, places =>
    (surveyMember b p ctx recur member (Value.part 0 places)).andThen
      (surveyMembers rest places.tail)

/-- An `XrInstanceCreateInfo`. -/
def surveyInstanceCreateInfo (places : List Value) : Surveyor Demand :=
  surveyPlain b 4 (Value.part 0 places) fun _ =>
    (surveyXr b p ctx recur true (Value.part 1 places)).andThen <|
    surveyPlain b 8 (Value.part 2 places) fun _ =>
    (recur "XrApplicationInfo" (Value.part 3 places)).andThen <|
    surveyPlain b 4 (Value.part 4 places) fun apiLayerCount =>
    (surveyEach b p ctx (surveyName b p ctx) apiLayerCount (Value.part 5 places)).andThen <|
    surveyPlain b 4 (Value.part 6 places) fun extensionCount =>
    surveyEach b p ctx (surveyName b p ctx) extensionCount (Value.part 7 places)

/-- An `XrFrameEndInfo`. -/
def surveyFrameEndInfo (places : List Value) : Surveyor Demand :=
  surveyPlain b 4 (Value.part 0 places) fun _ =>
    (surveyXr b p ctx recur true (Value.part 1 places)).andThen <|
    (surveyTime b (Value.part 2 places)).andThen <|
    surveyPlain b 4 (Value.part 3 places) fun _ =>
    surveyPlain b 4 (Value.part 4 places) fun layerCount =>
    surveyEach b p ctx (surveyXr b p ctx recur true) layerCount (Value.part 5 places)

/-- A struct. -/
def surveyStruct (struct : XrStruct) (place : Value) : Surveyor Demand :=
  if struct.name = instanceCreateInfoName then
    surveyInstanceCreateInfo b p ctx recur (place.places 8)
  else if struct.name = frameEndInfoName then surveyFrameEndInfo b p ctx recur (place.places 6)
  else surveyMembers b p ctx recur struct.members (place.places struct.members.length)

/-- A value of a C type. -/
def surveyType (type : String) (place : Value) : Surveyor Demand :=
  match b.findStruct type with
  | none => surveyPlain b (b.sizeOf type) place fun _ => .nothing
  | some struct => surveyStruct b p ctx recur struct place

end

/-- A value of a C type, with calls nested no deeper than the fuel. -/
def survey (b : Build) (p : Platform) (ctx : DeserializeContext) :
    Nat → String → Value → Surveyor Demand
  | 0 => fun _ _ => .refuse
  | fuel + 1 => surveyType b p ctx (survey b p ctx fuel)

/-- What a payload for a value of a C type demands of its receiver. -/
def demands (b : Build) (p : Platform) (ctx : DeserializeContext) (type : String) (place : Value)
    (bytes : List UInt8) : List Demand :=
  (survey b p ctx (b.fuelFor bytes) type place bytes).1

variable {b : Build} {p : Platform} {ctx : DeserializeContext}

/-- Writing demands a place. -/
theorem mirrors_store (place value : Value) :
    Mirrors b.meets (store place value) (ask b (.storage place)) := by
  cases place with
  | outside => exact Mirrors.demandFault rfl
  | _ => exact Mirrors.demandMet value rfl

/-- A value of a type that is no struct, and what follows it. -/
theorem mirrors_plainThen (size : Nat) (place : Value) {next : Value → Decoder Raised Value}
    {surveyor : Nat → Surveyor Demand}
    (tail : ∀ bits, Mirrors b.meets (next (.plain bits)) (surveyor bits)) :
    Mirrors b.meets (deserializePlain size place >>= next) (surveyPlain b size place surveyor) := by
  intro bytes
  have word : Mirrors b.meets
      (Decoder.word size Raised.endOfFile >>= fun bits => next (.plain bits))
      (.word size surveyor) := Mirrors.word _ tail
  have same : ((Value.plain <$> Decoder.word size Raised.endOfFile) >>= next) bytes =
      (Decoder.word size Raised.endOfFile >>= fun bits => next (.plain bits)) bytes := by
    simp only [Decoder.bind_apply, Decoder.map_apply]
    cases Decoder.word size Raised.endOfFile bytes with
    | done bits rest => rfl
    | stopped reason => rfl
  have read : (deserializePlain size place bytes =
        (Value.plain <$> Decoder.word size Raised.endOfFile) bytes) →
      (deserializePlain size place >>= next) bytes =
        (Decoder.word size Raised.endOfFile >>= fun bits => next (.plain bits)) bytes := by
    intro plain
    rw [← same, Decoder.bind_apply, plain, Decoder.bind_apply]
  cases size with
  | zero =>
    rw [read (by cases place <;> rfl)]
    exact word bytes
  | succ size =>
    cases bytes with
    | nil =>
      rw [read (by cases place <;> rfl)]
      exact word []
    | cons head rest =>
      cases place with
      | outside => exact Mirrors.fault _ rfl _
      | _ =>
        rw [read rfl]
        exact Mirrors.afterMet rfl word _

/-- A value of a type that is no struct. -/
theorem mirrors_plain (size : Nat) (place : Value) :
    Mirrors b.meets (deserializePlain size place)
      (surveyPlain b size place fun _ => .nothing) := by
  rw [← Decoder.bind_returned (deserializePlain size place)]
  exact mirrors_plainThen size place fun bits => Mirrors.pure (Value.plain bits)

/-- A time. -/
theorem mirrors_time (place : Value) :
    Mirrors b.meets (deserializeTime ctx place) (surveyTime b place) :=
  Mirrors.word _ fun _ => mirrors_store _ _

/-- Elements mirror when one does. -/
theorem mirrors_array {element : Value → Decoder Raised Value}
    {surveyor : Value → Surveyor Demand}
    (each : ∀ place, Mirrors b.meets (element place) (surveyor place)) (len : Nat)
    (places : List Value) :
    Mirrors b.meets (deserializeArray element len places) (surveyArray surveyor len places) := by
  induction len generalizing places with
  | zero => exact Mirrors.pure places
  | succ len ih =>
    cases places with
    | nil => exact (each .outside).bind fun _ => ih []
    | cons place rest =>
      exact (each place).bind fun value => (ih rest).map (value :: ·)

/-- A counted pointer mirrors when one element does. -/
theorem mirrors_ptr {element : Value → Decoder Raised Value}
    {surveyor : Value → Surveyor Demand}
    (each : ∀ place, Mirrors b.meets (element place) (surveyor place)) (size : Nat)
    (place : Value) :
    Mirrors b.meets (deserializePtr p ctx size element place)
      (surveyPtr b p ctx size surveyor place) := by
  refine Mirrors.word _ fun len => ?_
  cases mode : ctx.inPlace with
  | true =>
    simp only [if_true]
    cases len with
    | zero =>
      simp only [ne_eq, not_true_eq_false, if_false]
      cases place with
      | null => exact Mirrors.afterMet rfl (Mirrors.pure _)
      | block elements => exact Mirrors.afterMet rfl (Mirrors.raise _)
      | _ => exact Mirrors.fault _ rfl
    | succ len =>
      simp only [ne_eq, Nat.succ_ne_zero, not_false_eq_true, if_true]
      cases place with
      | null => exact Mirrors.afterMet rfl (Mirrors.raise _)
      | block elements =>
        exact Mirrors.afterMet rfl ((mirrors_array each _ _).map Value.block)
      | _ => exact Mirrors.fault _ rfl
  | false =>
    simp only [Bool.false_eq_true, if_false]
    by_cases some : len ≠ 0
    · simp only [some, ne_eq, not_false_eq_true, if_true]
      exact (mirrors_array each _ _).bind fun _ => mirrors_store _ _
    · simp only [some, if_false]
      exact mirrors_store _ _

/-- An array of pointers of a hand-written struct mirrors when one element does. -/
theorem mirrors_each {element : Value → Decoder Raised Value}
    {surveyor : Value → Surveyor Demand}
    (each : ∀ place, Mirrors b.meets (element place) (surveyor place)) (len : Nat)
    (place : Value) :
    Mirrors b.meets (deserializeEach b p ctx element (.plain len) place)
      (surveyEach b p ctx surveyor len place) := by
  unfold deserializeEach surveyEach
  cases mode : ctx.inPlace with
  | true =>
    simp only [if_true]
    cases place with
    | null =>
      exact Mirrors.afterMet rfl ((mirrors_array each _ _).map fun _ => Value.null)
    | block elements =>
      exact Mirrors.afterMet rfl ((mirrors_array each _ _).map Value.block)
    | _ => exact Mirrors.fault _ rfl
  | false =>
    simp only [Bool.false_eq_true, if_false]
    exact (mirrors_store _ _).bind fun _ => (mirrors_array each _ _).map _

/-- A string of a hand-written struct mirrors. -/
theorem mirrors_name (place : Value) :
    Mirrors b.meets (deserializeName p ctx place) (surveyName b p ctx place) :=
  mirrors_ptr (mirrors_plain 1) 1 place

/-- A struct that must be registered mirrors when every registered one does. -/
theorem mirrors_registered {α : Type} {reader : XrStruct → Decoder Raised α}
    {surveyor : XrStruct → Surveyor Demand} (type : Nat)
    (known : ∀ struct, Mirrors b.meets (reader struct) (surveyor struct)) :
    Mirrors b.meets
      (match b.lookup type with
        | none => .stop .fault
        | some struct => reader struct)
      (surveyRegistered b type surveyor) := by
  unfold surveyRegistered
  cases found : b.lookup type with
  | none => exact Mirrors.fault _ (by simp [Build.meets, found])
  | some struct => exact Mirrors.afterMet (by simp [Build.meets, found]) (known struct)

section

variable {recur : String → Value → Decoder Raised Value}
variable {surveyor : String → Value → Surveyor Demand}
variable (each : ∀ type place, Mirrors b.meets (recur type place) (surveyor type place))

include each

/-- A struct over a chain pointer mirrors when structs do. -/
theorem mirrors_xrInto (isConst : Bool) (type : Nat) (place : Value) :
    Mirrors b.meets (deserializeXrInto b p recur isConst type place)
      (surveyXrInto b p surveyor isConst type place) := by
  cases place with
  | nullStruct =>
    unfold deserializeXrInto surveyXrInto
    cases isConst with
    | true => exact Mirrors.raise _
    | false =>
      simp only [Bool.false_eq_true, if_false]
      by_cases ndebug : p.ndebug
      · simp only [ndebug, if_true]
        exact mirrors_registered type fun struct =>
          (each struct.name .outside).map fun _ => Value.nullStruct
      · simp only [ndebug]
        exact Mirrors.demandFault rfl
  | chained name object =>
    unfold deserializeXrInto surveyXrInto
    cases found : b.lookup type with
    | none => exact Mirrors.fault _ (by simp [Build.meets, found])
    | some struct =>
      by_cases same : struct.name = name
      · simp only [same, if_true]
        refine Mirrors.afterMet (by simp [Build.meets, found, same]) ?_
        exact (each name object).map (Value.chained name)
      · simp only [same, if_false]
        exact Mirrors.fault _ (by simp [Build.meets, found, same])
  | _ => exact Mirrors.demandFault rfl

omit each in
/-- No struct over a chain pointer mirrors. -/
theorem mirrors_noXrInto (isConst : Bool) (place : Value) :
    Mirrors b.meets (deserializeNoXrInto p isConst place) (surveyNoXrInto b p isConst place) := by
  cases place with
  | nullStruct => exact Mirrors.pure _
  | chained name object =>
    unfold deserializeNoXrInto surveyNoXrInto
    cases isConst with
    | true => exact Mirrors.raise _
    | false =>
      simp only [Bool.false_eq_true, if_false]
      by_cases ndebug : p.ndebug
      · simp only [ndebug, if_true]
        exact Mirrors.pure _
      · simp only [ndebug]
        exact Mirrors.demandFault rfl
  | _ => exact Mirrors.demandFault rfl

/-- A chained struct mirrors when structs do. -/
theorem mirrors_xr (isConst : Bool) (place : Value) :
    Mirrors b.meets (deserializeXr b p ctx recur isConst place)
      (surveyXr b p ctx surveyor isConst place) := by
  refine Mirrors.word _ fun type => ?_
  by_cases some : type ≠ typeUnknown
  · simp only [some, ne_eq, not_false_eq_true, if_true]
    cases mode : ctx.inPlace with
    | true => exact mirrors_xrInto each isConst type place
    | false =>
      simp only [Bool.false_eq_true, if_false]
      exact mirrors_registered type fun struct =>
        (each struct.name _).bind fun _ => mirrors_store _ _
  · simp only [some, if_false]
    cases mode : ctx.inPlace with
    | true => exact mirrors_noXrInto isConst place
    | false => exact mirrors_store _ _

/-- Structs over a pointer to structs mirror when structs do. -/
theorem mirrors_xrArrayInto (count type : Nat) (place : Value) :
    Mirrors b.meets (deserializeXrArrayInto b recur count type place)
      (surveyXrArrayInto b surveyor count type place) := by
  unfold deserializeXrArrayInto surveyXrArrayInto
  cases place with
  | nullStruct =>
    unfold surveyRegistered
    cases found : b.lookup type with
    | none => exact Mirrors.fault _ (by simp [Build.meets, found])
    | some struct =>
      refine Mirrors.afterMet (by simp [Build.meets, found]) ?_
      exact (mirrors_array (each struct.name) _ _).map fun _ => Value.nullStruct
  | chainedArray name elements =>
    cases found : b.lookup type with
    | none => exact Mirrors.fault _ (by simp [Build.meets, found])
    | some struct =>
      by_cases same : struct.name = name
      · simp only [same, if_true]
        refine Mirrors.afterMet (by simp [Build.meets, found, same]) ?_
        exact (mirrors_array (each name) _ _).map (Value.chainedArray name)
      · simp only [same, if_false]
        exact Mirrors.fault _ (by simp [Build.meets, found, same])
  | _ => exact Mirrors.demandFault rfl

/-- Structs behind a base struct mirror when structs do. -/
theorem mirrors_xrArray (place : Value) :
    Mirrors b.meets (deserializeXrArray b p ctx recur place)
      (surveyXrArray b p ctx surveyor place) := by
  refine Mirrors.word _ fun count => ?_
  by_cases some : count ≠ 0
  · simp only [some, ne_eq, not_false_eq_true, if_true]
    refine Mirrors.word _ fun type => ?_
    cases mode : ctx.inPlace with
    | true => exact mirrors_xrArrayInto each count type place
    | false =>
      simp only [Bool.false_eq_true, if_false]
      refine (mirrors_store _ _).bind fun _ => ?_
      exact mirrors_registered type fun struct =>
        (mirrors_array (each struct.name) _ _).map _
  · simp only [some, if_false]
    exact mirrors_store _ _

/-- A member mirrors when values do. -/
theorem mirrors_member (member : XrParam) (place : Value) :
    Mirrors b.meets (deserializeMember b p ctx recur member place)
      (surveyMember b p ctx surveyor member place) := by
  unfold deserializeMember surveyMember
  cases known : memberKind b member with
  | none => exact Mirrors.demandFault (by simp [Build.meets, known])
  | some kind =>
    cases kind with
    | xrArray len => exact mirrors_xrArray each place
    | xr => exact mirrors_xr each _ place
    | ptr count => exact mirrors_ptr (each member.type) _ place
    | array extent => exact (mirrors_array (each member.type) _ _).map Value.aggregate
    | time => exact mirrors_time place
    | value => exact each member.type place

/-- Members mirror when values do. -/
theorem mirrors_members (members : List XrParam) (places : List Value) :
    Mirrors b.meets (deserializeMembers b p ctx recur members places)
      (surveyMembers b p ctx surveyor members places) := by
  induction members generalizing places with
  | nil => exact Mirrors.pure _
  | cons member rest ih =>
    exact (mirrors_member each member _).bind fun value => (ih places.tail).map (value :: ·)

/-- An `XrInstanceCreateInfo` mirrors when values do. -/
theorem mirrors_instanceCreateInfo (places : List Value) :
    Mirrors b.meets (deserializeInstanceCreateInfo b p ctx recur places)
      (surveyInstanceCreateInfo b p ctx surveyor places) := by
  refine mirrors_plainThen _ _ fun _ => ?_
  refine (mirrors_xr each _ _).bind fun _ => ?_
  refine mirrors_plainThen _ _ fun _ => ?_
  refine (each _ _).bind fun _ => ?_
  refine mirrors_plainThen _ _ fun _ => ?_
  refine (mirrors_each mirrors_name _ _).bind fun _ => ?_
  refine mirrors_plainThen _ _ fun _ => ?_
  exact (mirrors_each mirrors_name _ _).map _

/-- An `XrFrameEndInfo` mirrors when values do. -/
theorem mirrors_frameEndInfo (places : List Value) :
    Mirrors b.meets (deserializeFrameEndInfo b p ctx recur places)
      (surveyFrameEndInfo b p ctx surveyor places) := by
  refine mirrors_plainThen _ _ fun _ => ?_
  refine (mirrors_xr each _ _).bind fun _ => ?_
  refine (mirrors_time _).bind fun _ => ?_
  refine mirrors_plainThen _ _ fun _ => ?_
  refine mirrors_plainThen _ _ fun _ => ?_
  exact (mirrors_each (mirrors_xr each true) _ _).map _

/-- A struct mirrors when values do. -/
theorem mirrors_struct (struct : XrStruct) (place : Value) :
    Mirrors b.meets (deserializeStruct b p ctx recur struct place)
      (surveyStruct b p ctx surveyor struct place) := by
  unfold deserializeStruct surveyStruct
  split
  · exact mirrors_instanceCreateInfo each _
  · split
    · exact mirrors_frameEndInfo each _
    · exact (mirrors_members each _ _).map Value.aggregate

end

/-- Decoding mirrors the survey of the same depth. -/
theorem mirrors_deserialize (b : Build) (p : Platform) (ctx : DeserializeContext) (fuel : Nat) :
    ∀ type place, Mirrors b.meets (deserialize b p ctx fuel type place)
      (survey b p ctx fuel type place) := by
  induction fuel with
  | zero => exact fun _ _ => Mirrors.exhausted
  | succ fuel ih =>
    intro type place
    change Mirrors b.meets (deserializeType b p ctx (deserialize b p ctx fuel) type place)
      (surveyType b p ctx (survey b p ctx fuel) type place)
    unfold deserializeType surveyType
    cases b.findStruct type with
    | none => exact mirrors_plain _ place
    | some struct => exact mirrors_struct ih struct place

/-- Decoding any payload, in either mode and over any destination, returns or raises an error
exactly when everything the payload demands of the receiver is met. -/
theorem decoding_safe_iff (b : Build) (p : Platform) (ctx : DeserializeContext) (type : String)
    (place : Value) (bytes : List UInt8) :
    ((∃ value rest, deserialize b p ctx (b.fuelFor bytes) type place bytes = .done value rest) ∨
        ∃ error, deserialize b p ctx (b.fuelFor bytes) type place bytes =
          .stopped (.raised error)) ↔
      ∀ d ∈ demands b p ctx type place bytes, b.meets d := by
  have terminates := deserialize_terminates b p ctx type place bytes (Nat.le_refl _)
  have mirrors := mirrors_deserialize b p ctx (b.fuelFor bytes) type place
  rw [demands, ← mirrors.safe_iff]
  cases ended : deserialize b p ctx (b.fuelFor bytes) type place bytes with
  | done value rest => simp
  | stopped reason =>
    cases reason with
    | raised error => simp
    | fault => simp
    | exhausted => exact absurd ended terminates

/-- A frame whose chain claims to go on with a struct of an unregistered type. -/
def strangeChain : List UInt8 := toBytes 4 12 ++ toBytes 4 9999

/-- The unregistered struct is decoded through a null pointer. -/
theorem strangeChain_unsafe :
    ¬((∃ value rest, deserialize frameEndBuild plentiful {} (frameEndBuild.fuelFor strangeChain)
          "XrFrameEndInfo" .unset strangeChain = .done value rest) ∨
        ∃ error, deserialize frameEndBuild plentiful {} (frameEndBuild.fuelFor strangeChain)
          "XrFrameEndInfo" .unset strangeChain = .stopped (.raised error)) := by
  have fault : deserialize frameEndBuild plentiful {} (frameEndBuild.fuelFor strangeChain)
      "XrFrameEndInfo" .unset strangeChain = .stopped .fault := rfl
  simp [fault]

end XrTransport.Serialization
