import XrTransport.Serialization.Spec

/-!
# Values in memory

What a struct, a parameter or the storage for one holds. A pointer carries what it points to, so a
value is a finite tree; storage that has not been written and places outside of any storage are
values too, since decoding may be asked to read or write there.
-/
namespace XrTransport.Serialization

/-- The content of a place in memory. -/
inductive Value where
  /-- A number, handle or other value of a type that is no struct, as the number its bytes spell. -/
  | plain (bits : Nat)
  /-- Parts stored in place: the members of a struct or the elements of a fixed array. -/
  | aggregate (parts : List Value)
  /-- A null pointer to values of a known type. -/
  | null
  /-- A pointer to a block of elements. -/
  | block (elements : List Value)
  /-- A `next` pointer or a pointer to a base struct, with the struct that is really there. -/
  | chained (struct : String) (object : Value)
  /-- A pointer to an array behind a pointer to a base struct, with the struct really there. -/
  | chainedArray (struct : String) (elements : List Value)
  /-- A null `next` pointer, or a null pointer to base structs. -/
  | nullStruct
  /-- Storage nothing has been written to. -/
  | unset
  /-- A place beyond the storage there is. -/
  | outside
deriving Repr, Inhabited

namespace Value

/-- The places of the parts of an object, of which fresh storage has as many as asked for. -/
def places (count : Nat) : Value → List Value
  | aggregate parts => parts
  | unset => List.replicate count unset
  | _ => []

/-- The place of a part; what the object does not have lies outside. -/
def part (index : Nat) (parts : List Value) : Value := parts.getD index outside

/-- The structure type an object starts with. -/
def structureType : Value → Option Nat
  | aggregate (plain type :: _) => some type
  | _ => none

/-- The elements of fresh storage are fresh. -/
@[simp]
theorem places_unset (count : Nat) : unset.places count = List.replicate count unset := rfl

/-- The places of an object are its parts. -/
@[simp]
theorem places_aggregate (count : Nat) (parts : List Value) :
    (aggregate parts).places count = parts := rfl

/-- An object with a structure type starts with it. -/
theorem structureType_eq_some {object : Value} {type : Nat}
    (tagged : object.structureType = some type) :
    ∃ rest, object = aggregate (plain type :: rest) := by
  unfold structureType at tagged
  split at tagged
  · obtain rfl := Option.some.inj tagged
    exact ⟨_, rfl⟩
  · contradiction

end Value

/-- The named member of the struct or parameter list at hand, `s->name`. -/
def sibling (members : List XrParam) (values : List Value) (name : String) : Option Value :=
  ((members.zip values).find? fun entry => entry.1.name = name).map Prod.snd

/-- The elements of a string up to and with its terminator; `none` when it runs past its end. -/
def terminated : List Value → Option Nat
  | [] => none
  | .plain 0 :: _ => some 1
  | .plain _ :: rest => (terminated rest).map (· + 1)
  | _ => none

/-- `count_null_terminated`. -/
def countNullTerminated : Value → Option Nat
  | .null => some 0
  | .block elements => terminated elements
  | _ => none

/-- The count expression the template passes for a pointer member; `none` where evaluating it
reads what is not there. -/
def countOf (members : List XrParam) (values : List Value) (pointer : Value) : Count → Option Nat
  | .one => some 1
  | .nullTerminated => countNullTerminated pointer
  | .sibling name =>
    match sibling members values name with
    | some (.plain count) => some count
    | _ => none

/-- The errors the serialization code raises. -/
inductive Raised where
  /-- `asio::error::eof`, from reading past the end of the payload. -/
  | endOfFile
  /-- `UnknownXrStructureTypeException`. -/
  | unknownXrStructureType (what : String)
  /-- `std::runtime_error`. -/
  | runtimeError (what : String)
deriving DecidableEq, Repr

/-- `std::to_string` of a structure type, which is a signed 32-bit enumeration. -/
def structureTypeText (type : Nat) : String := toString (BitVec.ofNat 32 type).toInt

end XrTransport.Serialization
