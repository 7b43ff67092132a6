import XrTransport.Client.AvailableExtensions
import XrTransport.Foundation.Slots
import XrTransport.Vulkan.Client.Registry

/-!
# The two-call idiom

A function that returns a list is called twice, with a capacity of zero for the number of items and
then with an array for the items. The client answers three such calls without the server.
-/
namespace XrTransport.TwoCall

open Client (Extensions ExtensionInfo)
open Slots (Filled fillFrom fillFrom_isSome filled_of_fillFrom)
open Vulkan.Client (Handle)
open Vulkan.Client.Registry (OwnedImage)

/-- What the output pointers of a call point to. -/
structure Outputs (Slot : Type) where
  /-- The count; a null pointer is `none`. -/
  count : Option UInt32
  /-- The array; a null pointer is `none`. -/
  slots : Option (List Slot)
deriving DecidableEq, Repr

namespace Outputs

variable {Slot : Type}

/-- A write through the pointer to the count. -/
def setCount (out : Outputs Slot) (count : UInt32) : Option (Outputs Slot) :=
  out.count.map fun _ => { out with count := some count }

/-- A loop over the array. A null pointer has no slots. -/
def fill (out : Outputs Slot) (loop : List Slot → Option (List Slot)) : Option (Outputs Slot) := do
  let filled ← loop (out.slots.getD [])
  return { out with slots := out.slots.map fun _ => filled }

/-- The pointers are not null and the array has as many slots as the capacity says; with a capacity
of zero there need not be an array. -/
structure Sized (out : Outputs Slot) (capacity : UInt32) : Prop where
  /-- There is a count. -/
  counted : ∃ count, out.count = some count
  /-- There is an array. -/
  room : capacity ≠ 0 → ∃ slots, out.slots = some slots ∧ capacity.toNat ≤ slots.length

end Outputs

/-- A call returns a result and leaves outputs as the idiom demands. -/
structure Contract {Item Slot : Type} (Holds : Slot → Item → Prop) (items : List Item)
    (capacity : UInt32) (before : Outputs Slot) (result : XrResult) (after : Outputs Slot) :
    Prop where
  /-- The count is the number of items, always. -/
  counted : after.count.map UInt32.toNat = some items.length
  /-- A capacity of zero asks for the count only. -/
  sized : capacity = 0 → result = .success ∧ after.slots = before.slots
  /-- An array that is too short stays untouched. -/
  refused : capacity ≠ 0 → capacity.toNat < items.length →
    result = .sizeInsufficient ∧ after.slots = before.slots
  /-- An array that is long enough is filled. -/
  listed : capacity ≠ 0 → items.length ≤ capacity.toNat →
    result = .success ∧ ∃ slots filled, before.slots = some slots ∧ after.slots = some filled ∧
      Filled Holds items slots filled

/-- The call is defined, which `none` is not, and keeps the contract. -/
def Obeys {Item Slot : Type} (Holds : Slot → Item → Prop) (items : List Item) (capacity : UInt32)
    (before : Outputs Slot) (answer : Option (XrResult × Outputs Slot)) : Prop :=
  ∃ result after, answer = some (result, after) ∧
    Contract Holds items capacity before result after

/-- A caller that asks for the count and then for the items, with an array of that many slots, and
reads as many of them as the second call has counted. -/
def enumerate {Slot : Type} (call : UInt32 → Outputs Slot → Option (XrResult × Outputs Slot))
    (count count' : UInt32) (blank : Slot) : Option (List Slot) := do
  let (_, sized) ← call 0 { count := some count, slots := none }
  let capacity ← sized.count
  let (_, listed) ← call capacity
    { count := some count', slots := some (List.replicate capacity.toNat blank) }
  let read ← listed.count
  return (listed.slots.getD []).take read.toNat

/-! ### `entry.cpp` -/

/-- `XR_MAX_EXTENSION_NAME_SIZE`. -/
def maxExtensionNameSize : Nat := 128

/-- `XrExtensionProperties`. -/
structure PropertiesSlot where
  /-- `type`. -/
  type : Nat
  /-- `next`. -/
  next : Nat
  /-- `extensionName`. -/
  extensionName : Vector UInt8 maxExtensionNameSize
  /-- `extensionVersion`. -/
  extensionVersion : Nat
deriving DecidableEq, Repr

/-- An entry of `available_extensions`. -/
abbrev Entry := Sigma fun _ : String => ExtensionInfo

/-- `c_str()`, with the null character. -/
def cStr (name : String) : List UInt8 := name.toUTF8.data.toList ++ [0]

/-- `memcpy` to the beginning of an array, which is undefined if the array is too small. -/
def copyTo {size : Nat} (bytes : List UInt8) (chars : Vector UInt8 size) :
    Option (Vector UInt8 size) :=
  if fits : bytes.length ≤ size then
    some ⟨(bytes ++ chars.toList.drop bytes.length).toArray, by simp; omega⟩
  else none

/-- The body of the loop of `xrEnumerateInstanceExtensionPropertiesImpl`. -/
def fillProperties (extOut : PropertiesSlot) (entry : Entry) : Option PropertiesSlot := do
  let extensionName ← copyTo (cStr entry.1) extOut.extensionName
  return { extOut with extensionName, extensionVersion := entry.2.version }

/-- `INT_MAX`. -/
def intMax : Nat := 2 ^ 31 - 1

/-- The loop. Its index is an `int`, and increasing it must not overflow. -/
def listProperties : List Entry → Nat → List PropertiesSlot → Option (List PropertiesSlot)
  | [], _, properties => some properties
  | entry :: rest, i, properties =>
    if i = intMax then none
    else do
      let extOut ← properties[i]?
      let filled ← fillProperties extOut entry
      listProperties rest (i + 1) (properties.set i filled)

/-- `xrEnumerateInstanceExtensionPropertiesImpl`. -/
def xrEnumerateInstanceExtensionProperties (available : Extensions) (layerName : Option String)
    (propertyCapacityInput : UInt32) (out : Outputs PropertiesSlot) :
    Option (XrResult × Outputs PropertiesSlot) :=
  if layerName.isSome then do
    let out ← out.setCount 0
    return (.success, out)
  else
    let extensionCount := UInt32.ofNat available.entries.length
    if propertyCapacityInput ≠ 0 ∧ propertyCapacityInput < extensionCount then do
      let out ← out.setCount extensionCount
      return (.sizeInsufficient, out)
    else if propertyCapacityInput = 0 then do
      let out ← out.setCount extensionCount
      return (.success, out)
    else do
      let out ← out.fill (listProperties available.entries 0)
      return (.success, out)

/-! ### `vulkan_core.cpp` -/

/-- `XrSwapchainImageVulkan2KHR`. -/
structure ImageSlot where
  /-- `type`. -/
  type : Nat
  /-- `next`. -/
  next : Nat
  /-- `image`. -/
  image : Handle
deriving DecidableEq, Repr

/-- `XR_TYPE_SWAPCHAIN_IMAGE_VULKAN2_KHR`. -/
def swapchainImageType : Nat := 1000025001

/-- `SwapchainImage::image`, as `create_image` initializes it. -/
def imageOf (image : OwnedImage) : ImageSlot := ⟨swapchainImageType, 0, image.image⟩

/-- `xrEnumerateSwapchainImagesImpl`. The function of the next layer, if there is one, is `next`. -/
def xrEnumerateSwapchainImages
    (next : Option (Handle → UInt32 → Outputs ImageSlot → Option (XrResult × Outputs ImageSlot)))
    (state : Vulkan.Client.Registry.State) (swapchain : Handle) (imageCapacityInput : UInt32)
    (out : Outputs ImageSlot) : Option (XrResult × Outputs ImageSlot) :=
  match state.swapchainStates.lookup swapchain with
  | none =>
    match next with
    | some next => next swapchain imageCapacityInput out
    | none => some (.handleInvalid, out)
  | some swapchainState =>
    let numImages := UInt32.ofNat swapchainState.images.length
    if imageCapacityInput = 0 then do
      let out ← out.setCount numImages
      return (.success, out)
    else if imageCapacityInput < numImages then some (.sizeInsufficient, out)
    else do
      let out ← out.setCount numImages
      let images := (swapchainState.images.map imageOf).take numImages.toNat
      let out ← out.fill (fillFrom (fun _ image => some image) images 0)
      return (.success, out)

/-! ### `vulkan_client_module.cpp` -/

/-- `return_string_buffer`. -/
def returnStringBuffer (buffer : List UInt8) (capacityIn : UInt32) (out : Outputs UInt8) :
    Option (XrResult × Outputs UInt8) :=
  let bufferSizeInt := UInt32.ofNat buffer.length
  match out.setCount bufferSizeInt with
  | none => some (.validationFailure, out)
  | some out =>
    if capacityIn = 0 then some (.success, out)
    else if capacityIn < bufferSizeInt then some (.sizeInsufficient, out)
    else if out.slots = none then some (.validationFailure, out)
    else do
      -- the whole buffer is copied, not the truncated size
      let out ← out.fill (fillFrom (fun _ char => some char) buffer 0)
      return (.success, out)

/-! ### The contract -/

section Contract

variable {Item Slot : Type} {Holds : Slot → Item → Prop} {items : List Item} {capacity : UInt32}
  {before after : Outputs Slot}

/-- A call that is defined keeps the contract or does not. -/
theorem obeys_some {result : XrResult} :
    Obeys Holds items capacity before (some (result, after)) ↔
      Contract Holds items capacity before result after := by
  simp [Obeys]

/-- The count has 32 bits. -/
theorem Obeys.length_lt {answer : Option (XrResult × Outputs Slot)}
    (obeys : Obeys Holds items capacity before answer) : items.length < 2 ^ 32 := by
  obtain ⟨result, after, -, contract⟩ := obeys
  obtain ⟨count, -, equal⟩ := Option.map_eq_some_iff.mp contract.counted
  rw [← equal]
  exact count.toNat_lt

/-- With a capacity of zero, a call that returns success and leaves the array has only to count. -/
theorem obeys_sized (zero : capacity = 0) (untouched : after.slots = before.slots) :
    Obeys Holds items capacity before (some (.success, after)) ↔
      after.count.map UInt32.toNat = some items.length := by
  rw [obeys_some]
  constructor
  · exact Contract.counted
  · intro counted
    exact ⟨counted, fun _ => ⟨rfl, untouched⟩, fun nonzero => absurd zero nonzero,
      fun nonzero => absurd zero nonzero⟩

/-- With a capacity that is too small, a call that refuses has only to count. -/
theorem obeys_refused (nonzero : capacity ≠ 0) (short : capacity.toNat < items.length)
    (untouched : after.slots = before.slots) :
    Obeys Holds items capacity before (some (.sizeInsufficient, after)) ↔
      after.count.map UInt32.toNat = some items.length := by
  rw [obeys_some]
  constructor
  · exact Contract.counted
  · intro counted
    exact ⟨counted, fun zero => absurd zero nonzero, fun _ _ => ⟨rfl, untouched⟩,
      fun _ enough => absurd enough (by omega)⟩

/-- With a capacity that is large enough, a call that fills the array has only to count. -/
theorem obeys_listed (nonzero : capacity ≠ 0) (enough : items.length ≤ capacity.toNat)
    {slots filled : List Slot} (given : before.slots = some slots)
    (written : after.slots = some filled) (fills : Filled Holds items slots filled) :
    Obeys Holds items capacity before (some (.success, after)) ↔
      after.count.map UInt32.toNat = some items.length := by
  rw [obeys_some]
  constructor
  · exact Contract.counted
  · intro counted
    exact ⟨counted, fun zero => absurd zero nonzero, fun _ short => absurd short (by omega),
      fun _ _ => ⟨rfl, slots, filled, given, written, fills⟩⟩

/-- Where calls keep the contract, the caller reads exactly the items. -/
theorem enumerate_reads {call : UInt32 → Outputs Slot → Option (XrResult × Outputs Slot)}
    (obeys : ∀ capacity out, out.Sized capacity →
      Obeys Holds items capacity out (call capacity out))
    (count count' : UInt32) (blank : Slot) :
    ∃ read, enumerate call count count' blank = some read ∧ List.Forall₂ Holds read items := by
  obtain ⟨_, sized, first, asked⟩ := obeys 0 ⟨some count, none⟩
    ⟨⟨count, rfl⟩, fun nonzero => absurd rfl nonzero⟩
  obtain ⟨capacity, counted, length⟩ := Option.map_eq_some_iff.mp asked.counted
  obtain ⟨_, listed, second, filled⟩ := obeys capacity
    ⟨some count', some (List.replicate capacity.toNat blank)⟩
    ⟨⟨count', rfl⟩, fun _ => ⟨_, rfl, by rw [List.length_replicate]⟩⟩
  obtain ⟨read, recounted, same⟩ := Option.map_eq_some_iff.mp filled.counted
  refine ⟨(listed.slots.getD []).take read.toNat, ?_, ?_⟩
  · simp [enumerate, first, counted, second, recounted]
  · rw [same]
    by_cases zero : capacity = 0
    · have none : items = [] := List.length_eq_zero_iff.mp (by rw [← length, zero]; rfl)
      simp [none]
    · obtain ⟨-, slots, written, -, there, fills⟩ := filled.listed zero (by omega)
      rw [there]
      exact fills.held

end Contract

/-! ### The three calls -/

/-- A number of items that has 32 bits is not changed by the conversion. -/
theorem toNat_ofNat {n : Nat} (small : n < 2 ^ 32) : (UInt32.ofNat n).toNat = n := by
  rw [UInt32.toNat_ofNat']
  exact Nat.mod_eq_of_lt small

/-- The capacity is compared with it. -/
theorem lt_ofNat_iff {n : Nat} (small : n < 2 ^ 32) {capacity : UInt32} :
    capacity < UInt32.ofNat n ↔ capacity.toNat < n := by
  rw [UInt32.lt_iff_toNat_lt, toNat_ofNat small]

/-- The loop over an array that is there. -/
theorem fill_some {Slot : Type} {out : Outputs Slot} {slots : List Slot}
    (given : out.slots = some slots) (loop : List Slot → Option (List Slot)) :
    out.fill loop = (loop slots).map fun filled => { out with slots := some filled } := by
  cases written : loop slots <;> simp [Outputs.fill, given, written]

/-- What a write to the count leaves there. -/
theorem setCount_count {Slot : Type} {out after : Outputs Slot} {count : UInt32}
    (written : out.setCount count = some after) : after.count = some count := by
  obtain ⟨_, -, rfl⟩ := Option.map_eq_some_iff.mp written
  rfl

/-- A loop over the array leaves the count. -/
theorem fill_count {Slot : Type} {out after : Outputs Slot} {loop : List Slot → Option (List Slot)}
    (filled : out.fill loop = some after) : after.count = out.count := by
  obtain ⟨_, -, rest⟩ := Option.bind_eq_some_iff.mp filled
  obtain rfl := Option.some.inj rest
  rfl

section Extensions

/-- An array of characters takes what is not longer. -/
theorem copyTo_isSome {size : Nat} {bytes : List UInt8} {chars : Vector UInt8 size} :
    (copyTo bytes chars).isSome ↔ bytes.length ≤ size := by
  simp only [copyTo]
  split <;> simp_all

/-- It then begins with it. -/
theorem take_copyTo {size : Nat} {bytes : List UInt8} {chars copied : Vector UInt8 size}
    (copy : copyTo bytes chars = some copied) : copied.toList.take bytes.length = bytes := by
  simp only [copyTo] at copy
  split at copy
  · obtain rfl := Option.some.inj copy
    simp [Vector.toList]
  · contradiction

/-- The properties are those of an extension: the name with its null character, and the version. -/
def Describes (properties : PropertiesSlot) (entry : Entry) : Prop :=
  properties.extensionName.toList.take (cStr entry.1).length = cStr entry.1 ∧
    properties.extensionVersion = entry.2.version

/-- What the body of the loop writes. -/
theorem describes_of_fill {extOut filled : PropertiesSlot} {entry : Entry}
    (fill : fillProperties extOut entry = some filled) : Describes filled entry := by
  simp only [fillProperties, Option.bind_eq_bind, Option.bind_eq_some_iff] at fill
  obtain ⟨extensionName, copy, written⟩ := fill
  obtain rfl := Option.some.inj written
  exact ⟨take_copyTo copy, rfl⟩

/-- The body is defined for a name that fits. -/
theorem fillProperties_isSome {extOut : PropertiesSlot} {entry : Entry} :
    (fillProperties extOut entry).isSome ↔ (cStr entry.1).length ≤ maxExtensionNameSize := by
  rw [← @copyTo_isSome _ _ extOut.extensionName]
  cases copied : copyTo (cStr entry.1) extOut.extensionName <;> simp [fillProperties, copied]

/-- The loop fills the array as long as its index does not overflow. -/
theorem listProperties_eq {entries : List Entry} {i : Nat} (bounded : i ≤ intMax)
    (properties : List PropertiesSlot) :
    listProperties entries i properties =
      if i + entries.length ≤ intMax then fillFrom fillProperties entries i properties
      else none := by
  induction entries generalizing i properties with
  | nil => simp [listProperties, fillFrom, bounded]
  | cons entry rest ih =>
    by_cases last : i = intMax
    · rw [listProperties, if_pos last, if_neg (by rw [List.length_cons]; omega)]
    · have next := @ih (i + 1) (by omega)
      simp only [listProperties, if_neg last, fillFrom, next, List.length_cons, Nat.add_assoc,
        Nat.add_comm 1]
      split
      · rfl
      · simp only [Option.bind_eq_bind, Option.bind_fun_none]

/-- `xrEnumerateInstanceExtensionPropertiesImpl` keeps the contract exactly if the extensions can be
counted and, where it lists them, they can be listed and the count is right already. -/
theorem extensions_obey_iff {available : Extensions} {capacity : UInt32}
    {out : Outputs PropertiesSlot} (sized : out.Sized capacity) :
    Obeys Describes available.entries capacity out
        (xrEnumerateInstanceExtensionProperties available none capacity out) ↔
      available.entries.length < 2 ^ 32 ∧
        (capacity = 0 ∨ capacity.toNat < available.entries.length ∨
          available.entries.length ≤ intMax ∧
          (∀ entry ∈ available.entries, (cStr entry.1).length ≤ maxExtensionNameSize) ∧
          out.count.map UInt32.toNat = some available.entries.length) := by
  by_cases small : available.entries.length < 2 ^ 32
  case neg =>
    exact iff_of_false (fun obeys => small obeys.length_lt) (fun condition => small condition.1)
  obtain ⟨count, counted⟩ := sized.counted
  have countable : some (UInt32.ofNat available.entries.length).toNat =
      some available.entries.length := congrArg some (toNat_ofNat small)
  rw [and_iff_right small]
  simp only [xrEnumerateInstanceExtensionProperties, Option.isSome_none, Bool.false_eq_true,
    if_false, lt_ofNat_iff small, Outputs.setCount, counted, Option.map_some, Option.bind_eq_bind,
    Option.bind_some, Option.pure_def]
  by_cases zero : capacity = 0
  · rw [if_neg (fun both => both.1 zero), if_pos zero]
    exact iff_of_true ((obeys_sized zero (by rfl)).mpr (by exact countable)) (.inl zero)
  by_cases short : capacity.toNat < available.entries.length
  · rw [if_pos ⟨zero, short⟩]
    exact iff_of_true ((obeys_refused zero short (by rfl)).mpr (by exact countable))
      (.inr (.inl short))
  obtain ⟨slots, given, room⟩ := sized.room zero
  have fits : (fillFrom fillProperties available.entries 0 slots).isSome ↔
      ∀ entry ∈ available.entries, (cStr entry.1).length ≤ maxExtensionNameSize :=
    fillFrom_isSome (fun _ _ => fillProperties_isSome) (by omega)
  rw [if_neg (fun both => short both.2), if_neg zero, fill_some given,
    listProperties_eq (Nat.zero_le _), Nat.zero_add, ← fits]
  simp only [zero, short, false_or]
  by_cases bounded : available.entries.length ≤ intMax
  case neg => simp [Obeys, bounded]
  rw [if_pos bounded]
  cases listed : fillFrom fillProperties available.entries 0 slots with
  | none => simp [Obeys]
  | some properties =>
    have filled : Filled Describes available.entries slots properties :=
      filled_of_fillFrom (fun _ _ _ fill => describes_of_fill fill) listed
    rw [Option.map_some, Option.bind_some,
      obeys_listed zero (Nat.not_lt.mp short) given rfl filled]
    simp [bounded, counted]

/-- What the call returns and counts is what `enumerateInstanceExtensionProperties` says. -/
theorem xrEnumerateInstanceExtensionProperties_spec {available : Extensions}
    {layerName : Option String} {capacity : UInt32} {out after : Outputs PropertiesSlot}
    {result : XrResult} (small : available.entries.length < 2 ^ 32)
    (answer : xrEnumerateInstanceExtensionProperties available layerName capacity out =
      some (result, after)) :
    let enumerated :=
      Client.enumerateInstanceExtensionProperties available layerName capacity.toNat
    enumerated.result = result ∧
      after.count.map UInt32.toNat =
        enumerated.count.or (out.count.map UInt32.toNat) := by
  have nonzero : capacity ≠ 0 ↔ capacity.toNat ≠ 0 := not_congr UInt32.toNat_inj.symm
  simp only [xrEnumerateInstanceExtensionProperties, lt_ofNat_iff small, nonzero,
    Option.bind_eq_bind] at answer
  simp only [Client.enumerateInstanceExtensionProperties]
  split at answer
  next layer =>
    obtain ⟨counted, written, same⟩ := Option.bind_eq_some_iff.mp answer
    obtain ⟨rfl, rfl⟩ := Prod.mk.inj (Option.some.inj same)
    rw [if_pos layer, setCount_count written]
    exact ⟨rfl, rfl⟩
  next noLayer =>
    rw [if_neg noLayer]
    split at answer
    next short =>
      obtain ⟨counted, written, same⟩ := Option.bind_eq_some_iff.mp answer
      obtain ⟨rfl, rfl⟩ := Prod.mk.inj (Option.some.inj same)
      rw [if_pos short, setCount_count written]
      exact ⟨rfl, congrArg some (toNat_ofNat small)⟩
    next enough =>
      rw [if_neg enough]
      split at answer
      next zero =>
        obtain ⟨counted, written, same⟩ := Option.bind_eq_some_iff.mp answer
        obtain ⟨rfl, rfl⟩ := Prod.mk.inj (Option.some.inj same)
        rw [if_pos (by rw [zero]; rfl), setCount_count written]
        exact ⟨rfl, congrArg some (toNat_ofNat small)⟩
      next listed =>
        obtain ⟨filled, written, same⟩ := Option.bind_eq_some_iff.mp answer
        obtain ⟨rfl, rfl⟩ := Prod.mk.inj (Option.some.inj same)
        rw [if_neg (nonzero.mp listed), fill_count written]
        exact ⟨rfl, rfl⟩

end Extensions

/-- `xrEnumerateSwapchainImagesImpl` keeps the contract for a stored swapchain exactly if the images
can be counted and, where it refuses, the count is right already. -/
theorem images_obey_iff
    {next : Option (Handle → UInt32 → Outputs ImageSlot → Option (XrResult × Outputs ImageSlot))}
    {state : Vulkan.Client.Registry.State} {handle : Handle}
    {swapchain : Vulkan.Client.Registry.Swapchain} {capacity : UInt32} {out : Outputs ImageSlot}
    (stored : state.swapchainStates.lookup handle = some swapchain) (sized : out.Sized capacity) :
    Obeys Eq (swapchain.images.map imageOf) capacity out
        (xrEnumerateSwapchainImages next state handle capacity out) ↔
      swapchain.images.length < 2 ^ 32 ∧
        (capacity = 0 ∨ swapchain.images.length ≤ capacity.toNat ∨
          out.count.map UInt32.toNat = some swapchain.images.length) := by
  have length : (swapchain.images.map imageOf).length = swapchain.images.length :=
    List.length_map imageOf
  by_cases small : swapchain.images.length < 2 ^ 32
  case neg =>
    refine iff_of_false (fun obeys => small ?_) (fun condition => small condition.1)
    exact length ▸ obeys.length_lt
  obtain ⟨count, counted⟩ := sized.counted
  have countable : some (UInt32.ofNat swapchain.images.length).toNat =
      some (swapchain.images.map imageOf).length :=
    congrArg some ((toNat_ofNat small).trans length.symm)
  rw [and_iff_right small]
  simp only [xrEnumerateSwapchainImages, stored, lt_ofNat_iff small, Outputs.setCount, counted,
    Option.map_some, Option.bind_eq_bind, Option.bind_some, Option.pure_def]
  by_cases zero : capacity = 0
  · rw [if_pos zero]
    exact iff_of_true ((obeys_sized zero (by rfl)).mpr (by exact countable)) (.inl zero)
  rw [if_neg zero]
  by_cases short : capacity.toNat < swapchain.images.length
  · rw [if_pos short, obeys_refused zero (length.symm ▸ short) rfl, length, counted]
    simp [zero, Nat.not_le.mpr short]
  · obtain ⟨slots, given, room⟩ := sized.room zero
    have all : (swapchain.images.map imageOf).take (UInt32.ofNat swapchain.images.length).toNat =
        swapchain.images.map imageOf := by
      rw [toNat_ofNat small, ← length, List.take_length]
    have fits :
        (fillFrom (fun _ image => some image) (swapchain.images.map imageOf) 0 slots).isSome :=
      (fillFrom_isSome (fun _ _ => iff_of_true rfl trivial) (by omega)).mpr fun _ _ => trivial
    obtain ⟨images, listed⟩ := Option.isSome_iff_exists.mp fits
    have filled : Filled Eq (swapchain.images.map imageOf) slots images :=
      filled_of_fillFrom (fun _ _ _ same => (Option.some.inj same).symm) listed
    rw [if_neg short, fill_some (by exact given), all, listed]
    refine iff_of_true ?_ (.inr (.inl (Nat.not_lt.mp short)))
    exact (obeys_listed zero (by omega) given (by rfl) filled).mpr (by exact countable)

/-- `return_string_buffer` keeps the contract exactly if the characters can be counted. -/
theorem string_obeys_iff {buffer : List UInt8} {capacity : UInt32} {out : Outputs UInt8}
    (sized : out.Sized capacity) :
    Obeys Eq buffer capacity out (returnStringBuffer buffer capacity out) ↔
      buffer.length < 2 ^ 32 := by
  refine ⟨Obeys.length_lt, fun small => ?_⟩
  obtain ⟨count, counted⟩ := sized.counted
  have countable : some (UInt32.ofNat buffer.length).toNat = some buffer.length :=
    congrArg some (toNat_ofNat small)
  simp only [returnStringBuffer, lt_ofNat_iff small, Outputs.setCount, counted, Option.map_some]
  by_cases zero : capacity = 0
  · rw [if_pos zero]
    exact (obeys_sized zero (by rfl)).mpr (by exact countable)
  rw [if_neg zero]
  by_cases short : capacity.toNat < buffer.length
  · rw [if_pos short]
    exact (obeys_refused zero short (by rfl)).mpr (by exact countable)
  · obtain ⟨slots, given, room⟩ := sized.room zero
    have fits : (fillFrom (fun _ char => some char) buffer 0 slots).isSome :=
      (fillFrom_isSome (fun _ _ => iff_of_true rfl trivial) (by omega)).mpr fun _ _ => trivial
    obtain ⟨chars, listed⟩ := Option.isSome_iff_exists.mp fits
    have filled : Filled Eq buffer slots chars :=
      filled_of_fillFrom (fun _ _ _ same => (Option.some.inj same).symm) listed
    rw [if_neg short, if_neg (by rw [given]; exact Option.some_ne_none slots),
      fill_some (by exact given), listed]
    exact (obeys_listed zero (Nat.not_lt.mp short) given (by rfl) filled).mpr (by exact countable)

/-- When each of the three calls keeps the contract; where a call always does, its caller reads
exactly the items. -/
theorem two_call_idiom_iff {available : Extensions} {properties : Outputs PropertiesSlot}
    {next : Option (Handle → UInt32 → Outputs ImageSlot → Option (XrResult × Outputs ImageSlot))}
    {state : Vulkan.Client.Registry.State} {handle : Handle}
    {swapchain : Vulkan.Client.Registry.Swapchain} {images : Outputs ImageSlot}
    {buffer : List UInt8} {chars : Outputs UInt8} {capacity : UInt32}
    (properties_sized : properties.Sized capacity)
    (stored : state.swapchainStates.lookup handle = some swapchain)
    (images_sized : images.Sized capacity) (chars_sized : chars.Sized capacity) :
    (Obeys Describes available.entries capacity properties
        (xrEnumerateInstanceExtensionProperties available none capacity properties) ↔
      available.entries.length < 2 ^ 32 ∧
        (capacity = 0 ∨ capacity.toNat < available.entries.length ∨
          available.entries.length ≤ intMax ∧
          (∀ entry ∈ available.entries, (cStr entry.1).length ≤ maxExtensionNameSize) ∧
          properties.count.map UInt32.toNat = some available.entries.length)) ∧
    (Obeys Eq (swapchain.images.map imageOf) capacity images
        (xrEnumerateSwapchainImages next state handle capacity images) ↔
      swapchain.images.length < 2 ^ 32 ∧
        (capacity = 0 ∨ swapchain.images.length ≤ capacity.toNat ∨
          images.count.map UInt32.toNat = some swapchain.images.length)) ∧
    (Obeys Eq buffer capacity chars (returnStringBuffer buffer capacity chars) ↔
      buffer.length < 2 ^ 32) ∧
    (∀ {Item Slot : Type} (Holds : Slot → Item → Prop) (items : List Item)
      (call : UInt32 → Outputs Slot → Option (XrResult × Outputs Slot)),
      (∀ capacity out, out.Sized capacity →
        Obeys Holds items capacity out (call capacity out)) →
      ∀ count count' blank,
        ∃ read, enumerate call count count' blank = some read ∧ List.Forall₂ Holds read items) :=
  ⟨extensions_obey_iff properties_sized, images_obey_iff stored images_sized,
    string_obeys_iff chars_sized, fun _ _ _ => enumerate_reads⟩

/-- One extension. -/
def oneAvailable : Extensions := AList.singleton "XR_KHR_vulkan_enable2" ⟨2, []⟩

/-- Two slots that nothing was written to, behind a count. -/
def blankProperties (count : UInt32) : Outputs PropertiesSlot where
  count := some count
  slots := some (List.replicate 2 ⟨2, 0, Vector.replicate maxExtensionNameSize 0, 0⟩)

/-- An image of a swapchain. -/
def someImage (image : Handle) : OwnedImage where
  renderingDone := 11
  copyingDone := 12
  copyingDoneFence := 13
  acquireCommandBuffer := 14
  releaseCommandBuffer := 15
  image := image
  memory := 16
  handles := ⟨21, 22, 23⟩

/-- A swapchain with two images. -/
def twoImages : Vulkan.Client.Registry.Swapchain where
  handle := 7
  parentHandle := 3
  images := [someImage 31, someImage 32]
  width := 64
  height := 64
  isStatic := false
  imageType := .color

/-- A client with that swapchain. -/
def twoImagesStored : Vulkan.Client.Registry.State where
  swapchainStates := AList.singleton 7 twoImages
  savedXrInstance := 1
  graphicsRequirementsCalled := true

/-- With a count that is right already and two slots each, all three calls keep the contract. -/
theorem two_call_idiom_iff_two :
    Obeys Describes oneAvailable.entries 2 (blankProperties 1)
      (xrEnumerateInstanceExtensionProperties oneAvailable none 2 (blankProperties 1)) ∧
    Obeys Eq [imageOf (someImage 31), imageOf (someImage 32)] 2
      ⟨some 0, some [⟨0, 0, 0⟩, ⟨0, 0, 0⟩]⟩
      (xrEnumerateSwapchainImages none twoImagesStored 7 2
        ⟨some 0, some [⟨0, 0, 0⟩, ⟨0, 0, 0⟩]⟩) ∧
    Obeys Eq [65, 0] 2 ⟨some 0, some [1, 1]⟩
      (returnStringBuffer [65, 0] 2 ⟨some 0, some [1, 1]⟩) := by
  obtain ⟨extensions, images, string, -⟩ := @two_call_idiom_iff oneAvailable (blankProperties 1)
    none twoImagesStored 7 twoImages ⟨some 0, some [⟨0, 0, 0⟩, ⟨0, 0, 0⟩]⟩ [65, 0]
    ⟨some 0, some [1, 1]⟩ 2 ⟨⟨1, rfl⟩, fun _ => ⟨_, rfl, by decide⟩⟩ (by decide)
    ⟨⟨0, rfl⟩, fun _ => ⟨_, rfl, by decide⟩⟩ ⟨⟨0, rfl⟩, fun _ => ⟨_, rfl, by decide⟩⟩
  exact ⟨extensions.mpr (by decide), images.mpr (by decide), string.mpr (by decide)⟩

/-- A caller with a larger array and a fresh count is told of no extension, and one with too small
an array is not told how many images there are. -/
theorem fresh_count_stays :
    ¬Obeys Describes oneAvailable.entries 2 (blankProperties 0)
      (xrEnumerateInstanceExtensionProperties oneAvailable none 2 (blankProperties 0)) ∧
    ¬Obeys Eq [imageOf (someImage 31), imageOf (someImage 32)] 1 ⟨some 0, some [⟨0, 0, 0⟩]⟩
      (xrEnumerateSwapchainImages none twoImagesStored 7 1 ⟨some 0, some [⟨0, 0, 0⟩]⟩) := by
  constructor
  · rw [extensions_obey_iff ⟨⟨0, rfl⟩, fun _ => ⟨_, rfl, by decide⟩⟩]
    decide
  · have stored : twoImagesStored.swapchainStates.lookup 7 = some twoImages := by decide
    exact mt (images_obey_iff stored ⟨⟨0, rfl⟩, fun _ => ⟨_, rfl, by decide⟩⟩).mp (by decide)

end XrTransport.TwoCall
