import XrTransport.Serialization.Spec

/-!
# Modifiable bindings

`bindings.py` walks over the members reachable from a function's parameters and collects an
expression for every pointer that is not const, with the loops that run over the elements of the
arrays on the way. The generated code sends what these expressions denote back to the caller.
-/
namespace XrTransport.CodeGeneration

open Serialization

/-- How an expression gets from a variable to the object whose member comes next. -/
inductive Accessor where
  /-- `->`: the object a pointer points to. -/
  | arrow
  /-- `.`: the object itself. -/
  | dot
  /-- `[i0].`: the element of an array at the variable of a loop. -/
  | element (loop : Nat)
deriving DecidableEq, Repr

/-- A prefix of an expression, such as `member1->member2[i0].`. -/
abbrev BindingPrefix := List (String × Accessor)

/-- A variable reached through a prefix, such as `member1->member2[i0].member3`. -/
structure Expression where
  /-- What comes before the last name. -/
  path : BindingPrefix := []
  /-- The last name. -/
  name : String
deriving DecidableEq, Repr

/-- The prefix for the members of what a variable denotes. -/
def Expression.followedBy (e : Expression) (accessor : Accessor) : BindingPrefix :=
  e.path ++ [(e.name, accessor)]

/-- The `end` of a loop: the `len` of a pointer as it stands, or the extent of an array. -/
inductive LoopBound where
  /-- `param.len`. -/
  | name (text : String)
  /-- `param.array`. -/
  | extent (text : String)
deriving DecidableEq, Repr

/-- `BindingLoop`: the variable `i{var}` runs from the base up to a bound. -/
structure BindingLoop where
  /-- `base`. -/
  base : Nat
  /-- `end`. -/
  bound : LoopBound
  /-- The number in the name of the variable. -/
  var : Nat
deriving DecidableEq, Repr

/-- The `type` of a binding. -/
inductive BindingType where
  /-- `xr_array`. -/
  | xrArray
  /-- `xr`. -/
  | xr
  /-- `sized_ptr`. -/
  | sizedPtr
  /-- `ptr`. -/
  | ptr
  /-- `array`. -/
  | array
deriving DecidableEq, Repr

/-- The `len` of a binding: a sibling of the pointer, or the extent of an array. -/
inductive BindingLength where
  /-- `binding_prefix + param.len`. -/
  | member (e : Expression)
  /-- `param.array`. -/
  | extent (text : String)
deriving DecidableEq, Repr

/-- `Binding`. -/
structure Binding where
  /-- `type`. -/
  type : BindingType
  /-- `binding_str`. -/
  expression : Expression
  /-- `param`. -/
  param : XrParam
  /-- `loops`. -/
  loops : List BindingLoop := []
  /-- `len`. -/
  len : Option BindingLength := none
deriving DecidableEq, Repr

/-- Whether the generator treats a member as a `next` pointer. -/
def isNextPtr (param : XrParam) : Bool :=
  param.type = "void" && param.pointer = some "*" && param.name = "next"

/-- `_collect_modifiable_bindings`. It ends without a result when the fuel does not suffice. -/
def collectFrom (b : Build) : Nat → Expression → XrParam → List BindingLoop → Bool →
    Option (List Binding)
  | 0, _, _, _, _ => none
  | fuel + 1, binding, param, loops, decayArray =>
    let modifiable := param.qualifier ≠ some "const"
    let members (bindingPrefix : BindingPrefix) (loops : List BindingLoop) :=
      match b.findStruct param.type with
      | none => some []
      | some struct =>
        (struct.members.mapM fun member =>
          collectFrom b fuel { path := bindingPrefix, name := member.name } member loops
            false).map List.flatten
    let element := Accessor.element loops.length
    if isNextPtr param || b.isHeader param.type then
      match param.pointer, param.len, b.isHeader param.type with
      | some _, some len, true =>
        if modifiable then
          some [{
            type := .xrArray
            expression := binding
            param := param
            loops := loops
            len := some (.member { binding with name := len }) }]
        else some []
      | _, _, _ =>
        if modifiable then
          some [{ type := .xr, expression := binding, param := param, loops := loops }]
        else some []
    else
      match param.pointer, param.len, param.array with
      | some _, some len, _ =>
        if modifiable then
          some [{
            type := .sizedPtr
            expression := binding
            param := param
            loops := loops
            len := some (.member { binding with name := len }) }]
        else
          members (binding.followedBy element)
            (loops ++ [{ base := 0, bound := .name len, var := loops.length }])
      | some _, none, _ =>
        if modifiable then
          some [{ type := .ptr, expression := binding, param := param, loops := loops }]
        else members (binding.followedBy .arrow) loops
      | none, _, some extent =>
        if decayArray && modifiable then
          some [{
            type := .array
            expression := binding
            param := param
            loops := loops
            len := some (.extent extent) }]
        else
          members (binding.followedBy element)
            (loops ++ [{ base := 0, bound := .extent extent, var := loops.length }])
      | none, _, none => members (binding.followedBy .dot) loops

/-- `apply_modifiable_bindings`: the bindings of all parameters of a function. -/
def collectModifiableBindings (b : Build) (fuel : Nat) (params : List XrParam) :
    Option (List Binding) :=
  (params.mapM fun param => collectFrom b fuel { name := param.name } param [] true).map
    List.flatten

end XrTransport.CodeGeneration
