import XrTransport.Serialization.Resemblance

/-!
# Times and counted pointers in a value

What a value of a C type holds at any depth, in the order in which it is written: its times, and its
counted pointers with the number of elements behind them. Times by value are translated on the way,
times behind pointers and in arrays are not; a pointer to no elements arrives as null, and cannot be
read over in place.
-/
namespace XrTransport.Serialization

/-- Something in a value that the wire format treats in a way of its own. -/
inductive Spot where
  /-- An `XrTime`, by value or as an element behind a pointer or in an array. -/
  | time (byValue : Bool) (instant : UInt64)
  /-- A counted pointer, null or to that many elements. -/
  | pointer (elements : Option Nat)
deriving DecidableEq, Repr

/-- A counted pointer that is not null although its count is zero. -/
def hollow : Spot := .pointer (some 0)

/-- What arrives of it. -/
def Spot.arriving (sender receiver : UInt64) : Spot → Spot
  | .time true instant => .time true (instant - sender + receiver)
  | .pointer (some 0) => .pointer none
  | spot => spot

/-- The time in a spot, and whether it is there by value. -/
def Spot.time? : Spot → Option (Bool × UInt64)
  | .time byValue instant => some (byValue, instant)
  | .pointer _ => none

/-- The times among some spots. -/
def timesOf (spots : List Spot) : List (Bool × UInt64) := spots.filterMap Spot.time?

section

variable (b : Build) (recur : String → Value → List Spot)

/-- A counted pointer and what is behind it. -/
def spotsPtr (element : Value → List Spot) : Value → List Spot
  | .null => [.pointer none]
  | .block elements => .pointer (some elements.length) :: elements.flatMap element
  | _ => []

/-- A chained struct. -/
def spotsXr : Value → List Spot
  | .chained name object => recur name object
  | _ => []

/-- An array of structs behind a base struct. -/
def spotsXrArray : Value → List Spot
  | .chainedArray name elements => elements.flatMap (recur name)
  | _ => []

/-- An array of pointers of a hand-written struct, which is allocated in any case. -/
def spotsEach (element : Value → List Spot) : Value → List Spot
  | .block elements => elements.flatMap element
  | _ => []

/-- A time by value, or as an element. -/
def spotsTime (byValue : Bool) : Value → List Spot
  | .plain time => [.time byValue (UInt64.ofNat time)]
  | _ => []

/-- A fixed array. -/
def spotsArray (element : Value → List Spot) : Value → List Spot
  | .aggregate elements => elements.flatMap element
  | _ => []

/-- A member. -/
def spotsMember (member : XrParam) (value : Value) : List Spot :=
  match memberKind b member with
  | none => []
  | some (.xrArray _) => spotsXrArray recur value
  | some .xr => spotsXr recur value
  | some (.ptr _) => spotsPtr (recur member.type) value
  | some (.array _) => spotsArray (recur member.type) value
  | some .time => spotsTime true value
  | some .value => recur member.type value

/-- Members in order. -/
def spotsMembers : List XrParam → List Value → List Spot
  | member :: rest, value :: others => spotsMember b recur member value ++ spotsMembers rest others
  | _, _ => []

/-- A string of a hand-written struct. -/
def spotsName : Value → List Spot := spotsPtr fun _ => []

/-- An `XrInstanceCreateInfo`. -/
def spotsInstanceCreateInfo : List Value → List Spot
  | [_, next, _, applicationInfo, _, enabledApiLayerNames, _, enabledExtensionNames] =>
    spotsXr recur next ++ (recur "XrApplicationInfo" applicationInfo ++
      (spotsEach spotsName enabledApiLayerNames ++ spotsEach spotsName enabledExtensionNames))
  | _ => []

/-- An `XrFrameEndInfo`. -/
def spotsFrameEndInfo : List Value → List Spot
  | [_, next, displayTime, _, _, layers] =>
    spotsXr recur next ++ (spotsTime true displayTime ++ spotsEach (spotsXr recur) layers)
  | _ => []

/-- A struct. -/
def spotsStruct (struct : XrStruct) : Value → List Spot
  | .aggregate values =>
    if struct.name = instanceCreateInfoName then spotsInstanceCreateInfo recur values
    else if struct.name = frameEndInfoName then spotsFrameEndInfo recur values
    else spotsMembers b recur struct.members values
  | _ => []

/-- A value of a C type. -/
def spotsType (type : String) (value : Value) : List Spot :=
  match b.findStruct type with
  | none => if type = "XrTime" then spotsTime false value else []
  | some struct => spotsStruct b recur struct value

end

/-- The spots of a value of a C type that nests no deeper than the index. -/
def spots (b : Build) : Nat → String → Value → List Spot
  | 0 => fun _ _ => []
  | depth + 1 => spotsType b (spots b depth)

section Arriving

variable {sender receiver : UInt64}

/-- What arrives of a list has the spots that arrive of its elements. -/
theorem flatMap_arriving {element : Value → List Spot} {arrive : Value → Value}
    (each : ∀ x, element (arrive x) = (element x).map (Spot.arriving sender receiver))
    (elements : List Value) :
    (elements.map arrive).flatMap element =
      (elements.flatMap element).map (Spot.arriving sender receiver) := by
  rw [List.flatMap_map, List.map_flatMap]
  exact List.flatMap_congr fun x _ => each x

/-- So has a counted pointer, but for the pointer itself. -/
theorem spotsPtr_received {element : Value → List Spot} {arrive : Value → Value}
    (each : ∀ x, element (arrive x) = (element x).map (Spot.arriving sender receiver))
    (value : Value) :
    spotsPtr element (receivedPtr arrive value) =
      (spotsPtr element value).map (Spot.arriving sender receiver) := by
  cases value with
  | block elements =>
    cases elements with
    | nil => rfl
    | cons first rest =>
      have behind := flatMap_arriving each (first :: rest)
      show Spot.pointer (some ((first :: rest).map arrive).length) ::
          ((first :: rest).map arrive).flatMap element = _
      rw [behind, List.length_map]
      rfl
  | _ => rfl

/-- So has an array of pointers of a hand-written struct. -/
theorem spotsEach_received {element : Value → List Spot} {arrive : Value → Value}
    (each : ∀ x, element (arrive x) = (element x).map (Spot.arriving sender receiver))
    (value : Value) :
    spotsEach element (receivedEach arrive value) =
      (spotsEach element value).map (Spot.arriving sender receiver) := by
  cases value with
  | block elements => exact flatMap_arriving each elements
  | _ => rfl

/-- So has a fixed array. -/
theorem spotsArray_received {element : Value → List Spot} {arrive : Value → Value}
    (each : ∀ x, element (arrive x) = (element x).map (Spot.arriving sender receiver))
    (value : Value) :
    spotsArray element (receivedArray arrive value) =
      (spotsArray element value).map (Spot.arriving sender receiver) := by
  cases value with
  | aggregate elements => exact flatMap_arriving each elements
  | _ => rfl

/-- A time by value arrives translated. -/
theorem spotsTime_received (value : Value) :
    spotsTime true (receivedTime sender receiver value) =
      (spotsTime true value).map (Spot.arriving sender receiver) := by
  cases value with
  | plain time =>
    show [Spot.time true (UInt64.ofNat (UInt64.ofNat time - sender + receiver).toNat)] = _
    rw [UInt64.ofNat_toNat]
    rfl
  | _ => rfl

/-- A string arrives as a counted pointer. -/
theorem spotsName_received (name : Value) :
    spotsName (receivedPtr id name) = (spotsName name).map (Spot.arriving sender receiver) :=
  spotsPtr_received (fun _ => rfl) name

variable {b : Build} {recur : String → Value → List Spot} {arriving : String → Value → Value}
  (carry : ∀ type x, recur type (arriving type x) =
    (recur type x).map (Spot.arriving sender receiver))

include carry

/-- A chained struct arrives with the spots that arrive of it. -/
theorem spotsXr_received (value : Value) :
    spotsXr recur (receivedXr arriving value) =
      (spotsXr recur value).map (Spot.arriving sender receiver) := by
  cases value with
  | chained name object => exact carry name object
  | _ => rfl

/-- So does an array of structs behind a base struct. -/
theorem spotsXrArray_received (value : Value) :
    spotsXrArray recur (receivedXrArray arriving value) =
      (spotsXrArray recur value).map (Spot.arriving sender receiver) := by
  cases value with
  | chainedArray name elements => exact flatMap_arriving (carry name) elements
  | _ => rfl

/-- So does every kind of member. -/
theorem spotsMember_received (member : XrParam) (value : Value) :
    spotsMember b recur member (receivedMember b sender receiver arriving member value) =
      (spotsMember b recur member value).map (Spot.arriving sender receiver) := by
  unfold spotsMember receivedMember
  cases memberKind b member with
  | none => rfl
  | some kind =>
    cases kind with
    | xrArray len => exact spotsXrArray_received carry value
    | xr => exact spotsXr_received carry value
    | ptr count => exact spotsPtr_received (carry member.type) value
    | array extent => exact spotsArray_received (carry member.type) value
    | time => exact spotsTime_received value
    | value => exact carry member.type value

/-- So do all members. -/
theorem spotsMembers_received (members : List XrParam) (values : List Value) :
    spotsMembers b recur members (receivedMembers b sender receiver arriving members values) =
      (spotsMembers b recur members values).map (Spot.arriving sender receiver) := by
  induction members generalizing values with
  | nil => rfl
  | cons member rest ih =>
    cases values with
    | nil => rfl
    | cons value others =>
      rw [receivedMembers, spotsMembers, spotsMembers, spotsMember_received carry, ih,
        List.map_append]

/-- So does an `XrInstanceCreateInfo`. -/
theorem spotsInstanceCreateInfo_received (values : List Value) :
    spotsInstanceCreateInfo recur (receivedInstanceCreateInfo arriving values) =
      (spotsInstanceCreateInfo recur values).map (Spot.arriving sender receiver) := by
  have names (value : Value) : spotsEach spotsName (receivedEach (receivedPtr id) value) =
      (spotsEach spotsName value).map (Spot.arriving sender receiver) :=
    spotsEach_received spotsName_received value
  unfold receivedInstanceCreateInfo
  split
  · simp only [spotsInstanceCreateInfo, List.map_append, spotsXr_received carry, carry, names]
  next other =>
    unfold spotsInstanceCreateInfo
    split
    · exact (other _ _ _ _ _ _ _ _ rfl).elim
    · rfl

/-- So does an `XrFrameEndInfo`. -/
theorem spotsFrameEndInfo_received (values : List Value) :
    spotsFrameEndInfo recur (receivedFrameEndInfo sender receiver arriving values) =
      (spotsFrameEndInfo recur values).map (Spot.arriving sender receiver) := by
  unfold receivedFrameEndInfo
  split
  · simp only [spotsFrameEndInfo, List.map_append, spotsXr_received carry, spotsTime_received,
      spotsEach_received (spotsXr_received carry)]
  next other =>
    unfold spotsFrameEndInfo
    split
    · exact (other _ _ _ _ _ _ rfl).elim
    · rfl

/-- So does a struct. -/
theorem spotsStruct_received (struct : XrStruct) (value : Value) :
    spotsStruct b recur struct (receivedStruct b sender receiver arriving struct value) =
      (spotsStruct b recur struct value).map (Spot.arriving sender receiver) := by
  cases value with
  | aggregate values =>
    unfold receivedStruct spotsStruct
    dsimp only
    split
    · exact spotsInstanceCreateInfo_received carry values
    · split
      · exact spotsFrameEndInfo_received carry values
      · exact spotsMembers_received carry struct.members values
  | _ => rfl

end Arriving

/-- What arrives of a value has the spots that arrive of its spots. -/
theorem spots_received (b : Build) (sender receiver : UInt64) (depth : Nat) (type : String)
    (value : Value) :
    spots b depth type (received b sender receiver depth type value) =
      (spots b depth type value).map (Spot.arriving sender receiver) := by
  induction depth generalizing type value with
  | zero => rfl
  | succ depth ih =>
    show spotsType b (spots b depth) type
        (receivedType b sender receiver (received b sender receiver depth) type value) =
      (spotsType b (spots b depth) type value).map (Spot.arriving sender receiver)
    unfold spotsType receivedType
    cases b.findStruct type with
    | none =>
      dsimp only
      split
      · cases value <;> rfl
      · rfl
    | some struct => exact spotsStruct_received ih struct value

/-- The times of two lists of spots. -/
theorem timesOf_append (first second : List Spot) :
    timesOf (first ++ second) = timesOf first ++ timesOf second := List.filterMap_append

section SameContent

/-- Elements of the same content hold the same times. -/
theorem timesOf_flatMap {element : Value → List Spot}
    (each : ∀ x y : Value, x.SameContent y → timesOf (element x) = timesOf (element y))
    {elements elements' : List Value} (same : ResemblesAll Eq elements elements') :
    timesOf (elements.flatMap element) = timesOf (elements'.flatMap element) := by
  have pairs := resemblesAll_iff.mp same
  induction pairs with
  | nil => rfl
  | cons head tail ih =>
    rw [List.flatMap_cons, List.flatMap_cons, timesOf_append, timesOf_append, each _ _ head,
      ih (resemblesAll_iff.mpr tail)]

/-- So do counted pointers, whether null or to no elements. -/
theorem timesOf_ptr {element : Value → List Spot}
    (each : ∀ x y : Value, x.SameContent y → timesOf (element x) = timesOf (element y))
    {x y : Value} (same : x.SameContent y) :
    timesOf (spotsPtr element x) = timesOf (spotsPtr element y) := by
  induction x, y, same using Value.Resembles.cases with
  | block elements elements' same => exact timesOf_flatMap each same
  | _ => rfl

/-- So do arrays of pointers of the hand-written structs. -/
theorem timesOf_each {element : Value → List Spot}
    (each : ∀ x y : Value, x.SameContent y → timesOf (element x) = timesOf (element y))
    {x y : Value} (same : x.SameContent y) :
    timesOf (spotsEach element x) = timesOf (spotsEach element y) := by
  induction x, y, same using Value.Resembles.cases with
  | block elements elements' same => exact timesOf_flatMap each same
  | _ => rfl

/-- So do fixed arrays. -/
theorem timesOf_array {element : Value → List Spot}
    (each : ∀ x y : Value, x.SameContent y → timesOf (element x) = timesOf (element y))
    {x y : Value} (same : x.SameContent y) :
    timesOf (spotsArray element x) = timesOf (spotsArray element y) := by
  induction x, y, same using Value.Resembles.cases with
  | aggregate elements elements' same => exact timesOf_flatMap each same
  | _ => rfl

/-- Times of the same content are the same time. -/
theorem timesOf_time (byValue : Bool) {x y : Value} (same : x.SameContent y) :
    timesOf (spotsTime byValue x) = timesOf (spotsTime byValue y) := by
  induction x, y, same using Value.Resembles.cases with
  | plain bits bits' same =>
    obtain rfl : bits = bits' := same
    rfl
  | _ => rfl

/-- Strings hold no times. -/
theorem timesOf_name {x y : Value} (same : x.SameContent y) :
    timesOf (spotsName x) = timesOf (spotsName y) :=
  timesOf_ptr (fun _ _ _ => rfl) same

variable {b : Build} {recur : String → Value → List Spot}
  (carry : ∀ type (x y : Value), x.SameContent y → timesOf (recur type x) = timesOf (recur type y))

include carry

/-- Chained structs of the same content hold the same times. -/
theorem timesOf_xr {x y : Value} (same : x.SameContent y) :
    timesOf (spotsXr recur x) = timesOf (spotsXr recur y) := by
  induction x, y, same using Value.Resembles.cases with
  | chained name object object' inner => exact carry name object object' inner
  | _ => rfl

/-- So do arrays of structs behind a base struct. -/
theorem timesOf_xrArray {x y : Value} (same : x.SameContent y) :
    timesOf (spotsXrArray recur x) = timesOf (spotsXrArray recur y) := by
  induction x, y, same using Value.Resembles.cases with
  | chainedArray name elements elements' inner => exact timesOf_flatMap (carry name) inner
  | _ => rfl

/-- So does every kind of member. -/
theorem timesOf_member (member : XrParam) {x y : Value} (same : x.SameContent y) :
    timesOf (spotsMember b recur member x) = timesOf (spotsMember b recur member y) := by
  unfold spotsMember
  cases memberKind b member with
  | none => rfl
  | some kind =>
    cases kind with
    | xrArray len => exact timesOf_xrArray carry same
    | xr => exact timesOf_xr carry same
    | ptr count => exact timesOf_ptr (carry member.type) same
    | array extent => exact timesOf_array (carry member.type) same
    | time => exact timesOf_time true same
    | value => exact carry member.type x y same

/-- So do all members. -/
theorem timesOf_members (members : List XrParam) {values values' : List Value}
    (same : ResemblesAll Eq values values') :
    timesOf (spotsMembers b recur members values) =
      timesOf (spotsMembers b recur members values') := by
  induction members generalizing values values' with
  | nil => rfl
  | cons member rest ih =>
    match values, values', same with
    | [], [], _ => rfl
    | value :: others, value' :: others', same =>
      rw [spotsMembers, spotsMembers, timesOf_append, timesOf_append,
        timesOf_member carry member same.1, ih same.2]

/-- So does an `XrInstanceCreateInfo`. -/
theorem timesOf_instanceCreateInfo {values values' : List Value}
    (same : ResemblesAll Eq values values') :
    timesOf (spotsInstanceCreateInfo recur values) =
      timesOf (spotsInstanceCreateInfo recur values') := by
  unfold spotsInstanceCreateInfo
  split
  next next _ application _ layers _ extensions =>
    match values', same with
    | [_, _, _, _, _, _, _, _], ⟨_, chain, _, inner, _, layers', _, extensions', _⟩ =>
      have named := fun x y (same : Value.SameContent x y) => timesOf_name same
      simp only [timesOf_append, timesOf_xr carry chain, carry _ _ _ inner,
        timesOf_each named layers', timesOf_each named extensions']
  next other =>
    split
    next =>
      match values, same with
      | [_, _, _, _, _, _, _, _], _ => exact (other _ _ _ _ _ _ _ _ rfl).elim
    next => rfl

/-- So does an `XrFrameEndInfo`. -/
theorem timesOf_frameEndInfo {values values' : List Value}
    (same : ResemblesAll Eq values values') :
    timesOf (spotsFrameEndInfo recur values) = timesOf (spotsFrameEndInfo recur values') := by
  unfold spotsFrameEndInfo
  split
  next next displayTime _ _ layers =>
    match values', same with
    | [_, _, _, _, _, _], ⟨_, chain, time, _, _, layers', _⟩ =>
      have chained := fun x y (same : Value.SameContent x y) => timesOf_xr carry same
      simp only [timesOf_append, timesOf_xr carry chain, timesOf_time true time,
        timesOf_each chained layers']
  next other =>
    split
    next =>
      match values, same with
      | [_, _, _, _, _, _], _ => exact (other _ _ _ _ _ _ rfl).elim
    next => rfl

/-- So does a struct. -/
theorem timesOf_struct (struct : XrStruct) {x y : Value} (same : x.SameContent y) :
    timesOf (spotsStruct b recur struct x) = timesOf (spotsStruct b recur struct y) := by
  match x, y, same with
  | .aggregate values, .aggregate values', same =>
    have parts : ResemblesAll Eq values values' := same
    unfold spotsStruct
    dsimp only
    split
    · exact timesOf_instanceCreateInfo carry parts
    · split
      · exact timesOf_frameEndInfo carry parts
      · exact timesOf_members carry struct.members parts
  | .null, .null, _ => rfl
  | .null, .block _, _ => rfl
  | .block _, .null, _ => rfl
  | .block _, .block _, _ => rfl
  | .plain _, .plain _, _ => rfl
  | .nullStruct, .nullStruct, _ => rfl
  | .chained _ _, .chained _ _, _ => rfl
  | .chainedArray _ _, .chainedArray _ _, _ => rfl

omit carry in
/-- Values of the same content hold the same times. -/
theorem timesOf_sameContent (b : Build) (depth : Nat) (type : String) {x y : Value}
    (same : x.SameContent y) : timesOf (spots b depth type x) = timesOf (spots b depth type y) := by
  induction depth generalizing type x y with
  | zero => rfl
  | succ depth ih =>
    show timesOf (spotsType b (spots b depth) type x) =
      timesOf (spotsType b (spots b depth) type y)
    unfold spotsType
    cases b.findStruct type with
    | none =>
      dsimp only
      split
      · exact timesOf_time false same
      · rfl
    | some struct => exact timesOf_struct (fun type x y same => ih type same) struct same

end SameContent

section Laying

/-- A list is laid over a list when its head and its tail are. -/
theorem overlayAll_cons_isSome {place value : Value} {places values : List Value} :
    (overlayAll (place :: places) (value :: values)).isSome ↔
      (place.overlay value).isSome ∧ (overlayAll places values).isSome := by
  rw [overlayAll]
  cases place.overlay value with
  | none => simp
  | some head => simp

/-- A value that arrives can be laid over every place of its form without hollow pointers. -/
def Laid (wellFormed : Value → Prop) (arrive : Value → Value) (spots : Value → List Spot) : Prop :=
  ∀ place value, wellFormed value → place.SameForm value →
    ((place.overlay (arrive value)).isSome ↔ hollow ∉ spots place)

section

variable {element : Value → Prop} {arrive : Value → Value} {inside : Value → List Spot}
  (each : Laid element arrive inside)

include each

/-- Elements can be laid over places without hollow pointers. -/
theorem laid_elements {places values : List Value} (wf : ∀ x ∈ values, element x)
    (form : SameForms places values) :
    (overlayAll places (values.map arrive)).isSome ↔ hollow ∉ places.flatMap inside := by
  induction values generalizing places with
  | nil =>
    cases places with
    | nil => simp [overlayAll]
    | cons place places => exact form.elim
  | cons value values ih =>
    cases places with
    | nil => exact form.elim
    | cons place places =>
      have head := each place value (wf value List.mem_cons_self) form.1
      have tail := ih (fun x member => wf x (List.mem_cons_of_mem _ member)) form.2
      rw [List.map_cons, overlayAll_cons_isSome, head, tail, List.flatMap_cons, List.mem_append,
        not_or]

/-- So can a counted pointer, unless it is hollow itself. -/
theorem laid_ptr {count : Option Nat} :
    Laid (WellFormedPtr element count) (receivedPtr arrive) (spotsPtr inside) := by
  intro place value wf form
  cases value with
  | null =>
    cases place with
    | null => simp [receivedPtr, Value.overlay, spotsPtr, hollow]
    | block places =>
      obtain rfl : places = [] := form
      simp [receivedPtr, Value.overlay, spotsPtr, hollow]
    | _ => exact form.elim
  | block values =>
    cases place with
    | null =>
      obtain rfl : values = [] := form
      simp [receivedPtr, Value.overlay, spotsPtr, hollow]
    | block places =>
      cases places with
      | nil =>
        obtain rfl := List.length_eq_zero_iff.mp (ResemblesAll.length_eq form).symm
        simp [receivedPtr, Value.overlay, spotsPtr, hollow]
      | cons first places =>
        cases values with
        | nil => exact form.elim
        | cons value values =>
          have behind := laid_elements each wf.2.2 form
          have filled : hollow ≠ .pointer (some (first :: places).length) := by simp [hollow]
          show ((overlayAll (first :: places) ((value :: values).map arrive)).map
            Value.block).isSome ↔ _
          rw [Option.isSome_map, behind, spotsPtr, List.mem_cons, not_or]
          exact ⟨fun clear => ⟨filled, clear⟩, And.right⟩
    | _ => exact form.elim
  | _ => exact wf.elim

/-- So can an array of pointers of a hand-written struct. -/
theorem laid_each {count : Value} :
    Laid (WellFormedEach element count) (receivedEach arrive) (spotsEach inside) := by
  intro place value wf form
  cases count with
  | plain len =>
    cases value with
    | null =>
      cases place with
      | null => simp [receivedEach, Value.overlay, spotsEach]
      | block places =>
        obtain rfl : places = [] := form
        simp [receivedEach, Value.overlay, overlayAll, spotsEach]
      | _ => exact form.elim
    | block values =>
      cases place with
      | null =>
        obtain rfl : values = [] := form
        simp [receivedEach, Value.overlay, spotsEach]
      | block places =>
        have behind := laid_elements each wf.2 form
        show ((overlayAll places (values.map arrive)).map Value.block).isSome ↔ _
        rw [Option.isSome_map, behind, spotsEach]
      | _ => exact form.elim
    | _ => exact wf.elim
  | _ => exact wf.elim

/-- So can a fixed array. -/
theorem laid_array {extent : Nat} :
    Laid (WellFormedArray element extent) (receivedArray arrive) (spotsArray inside) := by
  intro place value wf form
  cases value with
  | aggregate values =>
    cases place with
    | aggregate places =>
      have behind := laid_elements each wf.2 form
      show ((overlayAll places (values.map arrive)).map Value.aggregate).isSome ↔ _
      rw [Option.isSome_map, behind, spotsArray]
    | _ => exact form.elim
  | _ => exact wf.elim

end

/-- A number can be laid over a number. -/
theorem overlay_plain_isSome {size : Nat} {place value : Value} (wf : WellFormedPlain size value)
    (form : place.SameForm value) :
    (place.overlay value).isSome ∧ ∃ bits, place = .plain bits := by
  cases value with
  | plain bits =>
    cases place with
    | plain bits' => exact ⟨rfl, bits', rfl⟩
    | _ => exact form.elim
  | _ => exact wf.elim

/-- So can a time over a time. -/
theorem laid_time (sender receiver : UInt64) :
    Laid WellFormedTime (receivedTime sender receiver) (spotsTime true) := by
  intro place value wf form
  cases value with
  | plain time =>
    cases place with
    | plain bits => simp [receivedTime, Value.overlay, spotsTime, hollow]
    | _ => exact form.elim
  | _ => exact wf.elim

/-- Numbers hold no pointers. -/
theorem laid_plain {size : Nat} {inside : Value → List Spot}
    (flat : ∀ bits, hollow ∉ inside (.plain bits)) : Laid (WellFormedPlain size) id inside := by
  intro place value wf form
  obtain ⟨laid, bits, rfl⟩ := overlay_plain_isSome wf form
  exact iff_of_true laid (flat bits)

/-- So can a string. -/
theorem laid_name : Laid WellFormedName (receivedPtr id) spotsName :=
  fun place name wf form =>
    laid_ptr (laid_plain fun _ => List.not_mem_nil) place name wf form

variable {b : Build} {typed : String → Value → Prop} {arriving : String → Value → Value}
  {recur : String → Value → List Spot} (sender receiver : UInt64)
  (carry : ∀ type, Laid (typed type) (arriving type) (recur type))

include carry

/-- So can a chained struct. -/
theorem laid_xr : Laid (WellFormedXr b typed) (receivedXr arriving) (spotsXr recur) := by
  intro place value wf form
  cases value with
  | nullStruct =>
    cases place with
    | nullStruct => simp [receivedXr, Value.overlay, spotsXr]
    | _ => exact form.elim
  | chained name value =>
    cases place with
    | chained name' place =>
      obtain ⟨rfl, inner⟩ := form
      obtain ⟨type, struct, -, -, -, -, wellTyped⟩ := wf
      show ((place.overlay (arriving name' value)).map (Value.chained name')).isSome ↔ _
      rw [Option.isSome_map, carry name' place value wellTyped inner, spotsXr]
    | _ => exact form.elim
  | _ => exact wf.elim

/-- So can an array of structs behind a base struct. -/
theorem laid_xrArray {count : Option Nat} :
    Laid (WellFormedXrArray b typed count) (receivedXrArray arriving) (spotsXrArray recur) := by
  intro place value wf form
  cases value with
  | nullStruct =>
    cases place with
    | nullStruct => simp [receivedXrArray, Value.overlay, spotsXrArray]
    | _ => exact form.elim
  | chainedArray name values =>
    cases place with
    | chainedArray name' places =>
      obtain ⟨rfl, inner⟩ := form
      obtain ⟨-, -, -, type, struct, -, -, -, each⟩ := wf
      have behind := laid_elements (carry name') (fun x member => (each x member).2) inner
      show ((overlayAll places (values.map (arriving name'))).map
        (Value.chainedArray name')).isSome ↔ _
      rw [Option.isSome_map, behind, spotsXrArray]
    | _ => exact form.elim
  | _ => exact wf.elim

/-- So can every kind of member. -/
theorem laid_member (members : List XrParam) (values : List Value) (member : XrParam)
    {place value : Value} (wf : WellFormedMember b typed members values member value)
    (form : place.SameForm value) :
    (place.overlay (receivedMember b sender receiver arriving member value)).isSome ↔
      hollow ∉ spotsMember b recur member place := by
  unfold WellFormedMember at wf
  unfold receivedMember spotsMember
  cases known : memberKind b member with
  | none => simp [known] at wf
  | some kind =>
    simp only [known] at wf ⊢
    cases kind with
    | xrArray len => exact laid_xrArray carry place value wf form
    | xr => exact laid_xr carry place value wf form
    | ptr count => exact laid_ptr (carry member.type) place value wf form
    | array extent => exact laid_array (carry member.type) place value wf form
    | time => exact laid_time sender receiver place value wf form
    | value => exact carry member.type place value wf form

/-- So can all members. -/
theorem laid_members {members : List XrParam} {values : List Value} (rest : List XrParam)
    {places others : List Value} (wf : WellFormedMembers b typed members values rest others)
    (form : SameForms places others) :
    (overlayAll places (receivedMembers b sender receiver arriving rest others)).isSome ↔
      hollow ∉ spotsMembers b recur rest places := by
  induction rest generalizing places others with
  | nil =>
    cases others with
    | nil =>
      obtain rfl := List.length_eq_zero_iff.mp (ResemblesAll.length_eq form)
      simp [receivedMembers, overlayAll, spotsMembers]
    | cons value others => exact wf.elim
  | cons member rest ih =>
    cases others with
    | nil => exact wf.elim
    | cons value others =>
      cases places with
      | nil => exact form.elim
      | cons place places =>
        rw [receivedMembers, overlayAll_cons_isSome, spotsMembers, List.mem_append, not_or,
          laid_member sender receiver carry members values member wf.1 form.1, ih wf.2 form.2]

/-- So can an `XrInstanceCreateInfo`. -/
theorem laid_instanceCreateInfo {places values : List Value}
    (wf : WellFormedInstanceCreateInfo b typed values) (form : SameForms places values) :
    (overlayAll places (receivedInstanceCreateInfo arriving values)).isSome ↔
      hollow ∉ spotsInstanceCreateInfo recur places := by
  unfold WellFormedInstanceCreateInfo at wf
  split at wf
  · obtain ⟨type, next, createFlags, application, layerCount, layers, extensionCount,
      extensions⟩ := wf
    have ended : (overlayAll [] []).isSome := rfl
    match places, form with
    | [_, _, _, _, _, _, _, _], ⟨f₀, f₁, f₂, f₃, f₄, f₅, f₆, f₇, _⟩ =>
      simp only [receivedInstanceCreateInfo, overlayAll_cons_isSome,
        (overlay_plain_isSome type f₀).1, laid_xr carry _ _ next f₁,
        (overlay_plain_isSome createFlags f₂).1, carry _ _ _ application f₃,
        (overlay_plain_isSome layerCount f₄).1, laid_each laid_name _ _ layers f₅,
        (overlay_plain_isSome extensionCount f₆).1, laid_each laid_name _ _ extensions f₇,
        spotsInstanceCreateInfo, List.mem_append, not_or, ended, true_and, and_true]
  · exact wf.elim

/-- So can an `XrFrameEndInfo`. -/
theorem laid_frameEndInfo {places values : List Value}
    (wf : WellFormedFrameEndInfo b typed values) (form : SameForms places values) :
    (overlayAll places (receivedFrameEndInfo sender receiver arriving values)).isSome ↔
      hollow ∉ spotsFrameEndInfo recur places := by
  unfold WellFormedFrameEndInfo at wf
  split at wf
  · obtain ⟨type, next, displayTime, blendMode, layerCount, layers⟩ := wf
    have ended : (overlayAll [] []).isSome := rfl
    match places, form with
    | [_, _, _, _, _, _], ⟨f₀, f₁, f₂, f₃, f₄, f₅, _⟩ =>
      simp only [receivedFrameEndInfo, overlayAll_cons_isSome, (overlay_plain_isSome type f₀).1,
        laid_xr carry _ _ next f₁, laid_time sender receiver _ _ displayTime f₂,
        (overlay_plain_isSome blendMode f₃).1, (overlay_plain_isSome layerCount f₄).1,
        laid_each (laid_xr carry) _ _ layers f₅, spotsFrameEndInfo, List.mem_append, not_or, ended,
        true_and, and_true]
  · exact wf.elim

/-- So can a struct. -/
theorem laid_struct (struct : XrStruct) :
    Laid (WellFormedStruct b typed struct) (receivedStruct b sender receiver arriving struct)
      (spotsStruct b recur struct) := by
  intro place value wf form
  cases value with
  | aggregate values =>
    cases place with
    | aggregate places =>
      have parts : SameForms places values := form
      obtain ⟨-, wf⟩ := wf
      simp only [receivedStruct, spotsStruct, Value.overlay, Option.isSome_map]
      by_cases instanceCreate : struct.name = instanceCreateInfoName
      · simp only [instanceCreate, if_true] at wf ⊢
        exact laid_instanceCreateInfo carry wf parts
      · simp only [instanceCreate, if_false] at wf ⊢
        by_cases frameEnd : struct.name = frameEndInfoName
        · simp only [frameEnd, if_true] at wf ⊢
          exact laid_frameEndInfo sender receiver carry wf parts
        · simp only [frameEnd, if_false] at wf ⊢
          exact laid_members sender receiver carry struct.members wf parts
    | _ => exact form.elim
  | _ => exact wf.elim

omit carry in
/-- What arrives of a well-formed value can be laid over a place of its form exactly if no counted
pointer in the place is hollow. -/
theorem laid_received (b : Build) (depth : Nat) (type : String) :
    Laid (WellFormed b depth type) (received b sender receiver depth type)
      (spots b depth type) := by
  induction depth generalizing type with
  | zero => exact fun _ _ wf _ => wf.elim
  | succ depth ih =>
    intro place value wf form
    have wf : WellFormedType b (WellFormed b depth) type value := wf
    show (place.overlay
        (receivedType b sender receiver (received b sender receiver depth) type value)).isSome ↔
      hollow ∉ spotsType b (spots b depth) type place
    unfold WellFormedType at wf
    unfold receivedType spotsType
    cases found : b.findStruct type with
    | none =>
      rw [found] at wf
      obtain ⟨laid, bits, rfl⟩ := overlay_plain_isSome wf form
      refine iff_of_true laid ?_
      dsimp only
      split
      · simp [spotsTime, hollow]
      · exact List.not_mem_nil
    | some struct =>
      rw [found] at wf
      exact laid_struct sender receiver ih struct place value wf form

end Laying

end XrTransport.Serialization
