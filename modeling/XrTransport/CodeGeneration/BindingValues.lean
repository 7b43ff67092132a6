import XrTransport.CodeGeneration.BindingsExact
import XrTransport.Serialization.Resemblance

/-!
# Bindings over the arguments of a call

`serialize_binding` and `deserialize_binding` as the server and the client run them: loops around
one library call on an expression, over what the parameters hold. The two sides evaluate the same
expressions over arguments of one form, so they make the same calls.
-/
namespace XrTransport.CodeGeneration

open Serialization

/-- Related results go on to related results. -/
theorem rel_bind {α β γ δ : Type} {related : α → β → Prop} {related' : γ → δ → Prop}
    {first : Option α} {first' : Option β} {next : α → Option γ} {next' : β → Option δ}
    (head : Option.Rel related first first')
    (tail : ∀ x y, related x y → Option.Rel related' (next x) (next' y)) :
    Option.Rel related' (first.bind next) (first'.bind next') := by
  cases head with
  | none => exact .none
  | some here => exact tail _ _ here

/-- Of related results, both are there or none. -/
theorem isSome_of_rel {α β : Type} {related : α → β → Prop} {first : Option α} {second : Option β}
    (both : Option.Rel related first second) : first.isSome = second.isSome := by
  cases both with
  | none => rfl
  | some _ => rfl

/-- The parameters of a function or the members of an object, with what they hold. -/
structure Scope where
  /-- As they are declared. -/
  members : List XrParam
  /-- What they hold. -/
  values : List Value

namespace Scope

section Code

variable (b : Build)

/-- What a name stands for. -/
def find (scope : Scope) (name : String) : Option (XrParam × Value) :=
  (scope.members.zip scope.values).find? fun entry => entry.1.name = name

/-- The number that a name stands for. -/
def number (scope : Scope) (name : String) : Option Nat :=
  match scope.find name with
  | some (_, .plain count) => some count
  | _ => none

/-- The object that an accessor leads to. A null pointer and an index beyond the end lead nowhere.
-/
def access (env : Env) : Accessor → Value → Option Value
  | .arrow, .block (object :: _) => some object
  | .dot, .aggregate parts => some (.aggregate parts)
  | .element loop, .block elements | .element loop, .aggregate elements =>
    (env.lookup loop).bind fun index => elements[index]?
  | _, _ => none

/-- The object that a prefix denotes. -/
def evalPrefix (env : Env) : Scope → BindingPrefix → Option Scope
  | scope, [] => some scope
  | scope, (name, accessor) :: rest =>
    (scope.find name).bind fun (p, value) =>
      (access env accessor value).bind fun object =>
        match object, b.findStruct p.type with
        | .aggregate parts, some struct => evalPrefix env ⟨struct.members, parts⟩ rest
        | _, _ => none

/-- What an expression denotes. The variable of a loop hides a parameter of its name. -/
def locate (params : Scope) (env : Env) (e : Expression) : Option (XrParam × Value) :=
  if ∃ entry ∈ env, loopName entry.1 = e.root then none
  else (evalPrefix b env params e.path).bind fun scope => scope.find e.name

/-- The value of the bound of a loop. -/
def boundValue (params : Scope) (env : Env) : LoopBound → Option Nat
  | .name text =>
    match env.find? fun entry => loopName entry.1 = text with
    | some entry => some entry.2
    | none => params.number text
  | .extent text => some (b.extent text)

/-- The variables in each round of the loops. -/
def rounds (params : Scope) : List BindingLoop → Env → Option (List Env)
  | [], env => some [env]
  | loop :: rest, env =>
    match boundValue b params ((loop.var, loop.base) :: env) loop.bound with
    | none => none
    | some bound =>
      ((List.range' loop.base (bound - loop.base)).mapM fun value =>
        rounds params rest ((loop.var, value) :: env)).map List.flatten

/-- What the call is given: an array decays to a pointer to its elements. -/
def argument (type : BindingType) (value : Value) : Value :=
  match type, value with
  | .array, .aggregate elements => .block elements
  | _, value => value

/-- The variable that the call of a binding is about, in one round. -/
def operand (params : Scope) (binding : Binding) (env : Env) : Option (XrParam × Value) :=
  (locate b params env binding.expression).map fun found =>
    (found.1, argument binding.type found.2)

/-- The `len` of a binding. `s->null-terminated` is no expression that a compiler accepts. -/
def lengthOf (params : Scope) (env : Env) : BindingLength → Option Nat
  | .member e =>
    if e.name = "null-terminated" then none
    else
      match locate b params env e with
      | some (_, .plain count) => some count
      | _ => none
  | .extent text => some (b.extent text)

/-- The call that `serialize_binding` emits. -/
def serializeCall (fuel : Nat) (params : Scope) (binding : Binding) (env : Env) : Written Raised :=
  match operand b params binding env with
  | none => .stopped .fault
  | some (p, value) =>
    match binding.type, binding.len.bind (lengthOf b params env) with
    | .xrArray, some len => serializeXrArray b {} (serialize b {} fuel) len value
    | .xr, _ => serializeXr b {} (serialize b {} fuel) value
    | .sizedPtr, some len | .array, some len => serializePtr (serialize b {} fuel p.type) len value
    | .ptr, _ => serializePtr (serialize b {} fuel p.type) 1 value
    | _, none => .stopped .fault

/-- `serialize_binding`. -/
def serializeBinding (fuel : Nat) (params : Scope) (binding : Binding) : Written Raised :=
  match rounds b params binding.loops [] with
  | none => .stopped .fault
  | some envs => .all (envs.map (serializeCall b fuel params binding))

/-- The call that `deserialize_binding` emits, with what it leaves at its place. -/
def deserializeCall (p : Platform) (ctx : DeserializeContext) (fuel : Nat) (params : Scope)
    (binding : Binding) (env : Env) : Decoder Raised Value :=
  match operand b params binding env with
  | none => .stop .fault
  | some (param, place) =>
    match binding.type with
    | .xrArray => deserializeXrArray b p ctx (deserialize b p ctx fuel) place
    | .xr => deserializeXr b p ctx (deserialize b p ctx fuel) (param.qualifier = some "const") place
    | .sizedPtr | .ptr | .array =>
      deserializePtr p ctx (b.sizeOf param.type) (deserialize b p ctx fuel param.type) place

/-- Calls in order. -/
def deserializeCalls (call : Env → Decoder Raised Value) : List Env → Decoder Raised (List Value)
  | [] => pure []
  | env :: rest => do
    let value ← call env
    let values ← deserializeCalls call rest
    pure (value :: values)

/-- `deserialize_binding`, with what its calls leave at their places. No call is given a place that
another one writes to. -/
def deserializeBinding (p : Platform) (ctx : DeserializeContext) (fuel : Nat) (params : Scope)
    (binding : Binding) : Decoder Raised (List Value) :=
  match rounds b params binding.loops [] with
  | none => .stop .fault
  | some envs => deserializeCalls (deserializeCall b p ctx fuel params binding) envs

/-- The variables that the calls of a binding are about, if all expressions lead somewhere. -/
def operands (params : Scope) (binding : Binding) : Option (List (XrParam × Value)) :=
  (rounds b params binding.loops []).bind fun envs => envs.mapM (operand b params binding)

end Code

section Alike

variable {b : Build} {env : Env}

/-- Two variables declared alike hold values of one form. -/
def AlikeEntries (entry entry' : XrParam × Value) : Prop :=
  entry.1 = entry'.1 ∧ entry.2.SameForm entry'.2

/-- Two scopes of the same declarations hold values of one form. -/
def Alike (scope scope' : Scope) : Prop :=
  scope.members = scope'.members ∧ SameForms scope.values scope'.values

/-- A name stands for variables that are alike. -/
theorem find_alike {scope scope' : Scope} (alike : scope.Alike scope') (name : String) :
    Option.Rel AlikeEntries (scope.find name) (scope'.find name) := by
  obtain ⟨members, values⟩ := scope
  obtain ⟨members', values'⟩ := scope'
  obtain ⟨rfl, form⟩ := alike
  simp only [find]
  induction members generalizing values values' with
  | nil => exact .none
  | cons member rest ih =>
    match values, values', form with
    | [], [], _ => exact .none
    | value :: others, value' :: others', form =>
      by_cases named : member.name = name
      · simp only [List.zip_cons_cons, List.find?_cons, named, decide_true]
        exact .some ⟨rfl, form.1⟩
      · simp only [List.zip_cons_cons, List.find?_cons, named, decide_false]
        exact ih others others' form.2

/-- The elements of lists of one form are of one form. -/
theorem getElem?_alike {values values' : List Value} (form : SameForms values values')
    (index : Nat) : Option.Rel Value.SameForm values[index]? values'[index]? := by
  induction values generalizing values' index with
  | nil =>
    cases values' with
    | nil => exact .none
    | cons value' others' => exact form.elim
  | cons value others ih =>
    cases values' with
    | nil => exact form.elim
    | cons value' others' =>
      cases index with
      | zero => exact .some form.1
      | succ index => exact ih form.2 index

/-- Accessors lead to objects of one form. -/
theorem access_alike (env : Env) (accessor : Accessor) {value value' : Value}
    (form : value.SameForm value') :
    Option.Rel Value.SameForm (access env accessor value) (access env accessor value') := by
  have elements {values values' : List Value} (form : SameForms values values') (loop : Nat) :
      Option.Rel Value.SameForm ((env.lookup loop).bind fun index => values[index]?)
        ((env.lookup loop).bind fun index => values'[index]?) := by
    cases env.lookup loop with
    | none => exact .none
    | some index => exact getElem?_alike form index
  have empty (loop : Nat) :
      ((env.lookup loop).bind fun index => ([] : List Value)[index]?) = none := by
    cases env.lookup loop <;> rfl
  induction value, value', form using Value.Resembles.cases with
  | aggregate parts parts' form =>
    cases accessor with
    | arrow => exact .none
    | dot => exact .some form
    | element loop => exact elements form loop
  | nullEmpty | emptyNull =>
    cases accessor with
    | element loop =>
      simp only [access, empty]
      exact .none
    | _ => exact .none
  | block values values' form =>
    cases accessor with
    | arrow =>
      cases values with
      | nil =>
        obtain rfl := List.length_eq_zero_iff.mp (ResemblesAll.length_eq form).symm
        exact .none
      | cons first rest =>
        cases values' with
        | nil => exact form.elim
        | cons first' rest' => exact .some form.1
    | dot => exact .none
    | element loop => exact elements form loop
  | _ => cases accessor <;> exact .none

/-- Prefixes denote objects that are alike. -/
theorem evalPrefix_alike {path : BindingPrefix} {scope scope' : Scope}
    (alike : scope.Alike scope') :
    Option.Rel Alike (evalPrefix b env scope path) (evalPrefix b env scope' path) := by
  induction path generalizing scope scope' with
  | nil => exact .some alike
  | cons entry rest ih =>
    obtain ⟨name, accessor⟩ := entry
    refine rel_bind (find_alike alike name) ?_
    rintro ⟨p, value⟩ ⟨p', value'⟩ ⟨rfl, form⟩
    refine rel_bind (access_alike env accessor form) ?_
    intro object object' form
    cases b.findStruct p.type with
    | none => cases object <;> cases object' <;> exact .none
    | some struct =>
      induction object, object', form using Value.Resembles.cases with
      | aggregate parts parts' form => exact ih ⟨rfl, form⟩
      | _ => exact .none

/-- Expressions denote variables that are alike. -/
theorem locate_alike {params params' : Scope} (alike : params.Alike params') (e : Expression) :
    Option.Rel AlikeEntries (locate b params env e) (locate b params' env e) := by
  unfold locate
  split
  · exact .none
  · exact rel_bind (evalPrefix_alike alike) fun _ _ alike => find_alike alike e.name

/-- The calls of a binding are about variables that are alike. -/
theorem operand_alike {params params' : Scope} (alike : params.Alike params') (binding : Binding) :
    Option.Rel AlikeEntries (operand b params binding env) (operand b params' binding env) := by
  have decays (value value' : Value) (form : value.SameForm value') :
      (argument binding.type value).SameForm (argument binding.type value') := by
    unfold argument
    cases binding.type with
    | array =>
      induction value, value', form using Value.Resembles.cases with
      | aggregate parts parts' form => exact form
      | nullEmpty | emptyNull => exact rfl
      | block elements elements' form => exact form
      | chained name object object' form => exact ⟨rfl, form⟩
      | chainedArray name elements elements' form => exact ⟨rfl, form⟩
      | _ => exact trivial
    | _ => exact form
  unfold operand
  rw [Option.map_eq_bind, Option.map_eq_bind]
  refine rel_bind (locate_alike alike binding.expression) ?_
  rintro ⟨p, value⟩ ⟨p', value'⟩ ⟨rfl, form⟩
  exact .some ⟨rfl, decays value value' form⟩

/-- A length can be evaluated on both sides or on neither. -/
theorem lengthOf_alike {params params' : Scope} (alike : params.Alike params')
    (len : BindingLength) :
    (lengthOf b params env len).isSome = (lengthOf b params' env len).isSome := by
  cases len with
  | extent text => rfl
  | member e =>
    unfold lengthOf
    dsimp only
    split
    · rfl
    · have located : Option.Rel AlikeEntries (locate b params env e) (locate b params' env e) :=
        locate_alike alike e
      cases one : locate b params env e with
      | none =>
        rw [one] at located
        cases other : locate b params' env e with
        | none => rfl
        | some _ =>
          rw [other] at located
          cases located
      | some found =>
        rw [one] at located
        cases other : locate b params' env e with
        | none =>
          rw [other] at located
          cases located
        | some found' =>
          rw [other] at located
          obtain ⟨p, value⟩ := found
          obtain ⟨p', value'⟩ := found'
          obtain ⟨⟨-, form⟩⟩ := located
          cases value <;> cases value' <;> first | rfl | exact form.elim

/-- Loops run through the same rounds where the numbers that bound them are the same. -/
theorem rounds_eq {params params' : Scope} {loops : List BindingLoop}
    (same : ∀ loop ∈ loops, ∀ text, loop.bound = .name text →
      params.number text = params'.number text) (env : Env) :
    rounds b params loops env = rounds b params' loops env := by
  induction loops generalizing env with
  | nil => rfl
  | cons loop rest ih =>
    have below := fun env => ih (fun loop member => same loop (List.mem_cons_of_mem _ member)) env
    have bound : boundValue b params ((loop.var, loop.base) :: env) loop.bound =
        boundValue b params' ((loop.var, loop.base) :: env) loop.bound := by
      cases named : loop.bound with
      | extent text => rfl
      | name text =>
        unfold boundValue
        dsimp only
        rw [same loop List.mem_cons_self text named]
    simp only [rounds, bound, below]

end Alike

section Typed

variable {b : Build} {env : Env} {depth : Nat}

/-- The members of a scope have different names and hold well-formed values, which nest no deeper
than the index. -/
structure Typed (b : Build) (depth : Nat) (scope : Scope) : Prop where
  /-- The names are different. -/
  different : (scope.members.map XrParam.name).Nodup
  /-- The values are well formed. -/
  values : WellFormedMembers b (WellFormed b depth) scope.members scope.values scope.members
    scope.values

/-- A member is found under its name, with a well-formed value. -/
theorem Typed.find {scope : Scope} (typed : scope.Typed b depth) {p : XrParam}
    (member : p ∈ scope.members) :
    ∃ value, scope.find p.name = some (p, value) ∧
      WellFormedMember b (WellFormed b depth) scope.members scope.values p value := by
  obtain ⟨different, wf⟩ := typed
  have search (rest : List XrParam) (others : List Value)
      (different : (rest.map XrParam.name).Nodup)
      (wf : WellFormedMembers b (WellFormed b depth) scope.members scope.values rest others)
      (member : p ∈ rest) :
      ∃ value, (rest.zip others).find? (fun entry => entry.1.name = p.name) = some (p, value) ∧
        WellFormedMember b (WellFormed b depth) scope.members scope.values p value := by
    induction rest generalizing others with
    | nil => exact (List.not_mem_nil member).elim
    | cons first rest ih =>
      cases others with
      | nil => exact wf.elim
      | cons value others =>
        rw [List.map_cons, List.nodup_cons] at different
        rcases List.mem_cons.mp member with rfl | later
        · exact ⟨value, by simp, wf.1⟩
        · have other : first.name ≠ p.name := by
            intro same
            exact different.1 (same ▸ List.mem_map_of_mem later)
          obtain ⟨value, found, wf⟩ := ih others different.2 wf.2 later
          exact ⟨value, by simpa [other] using found, wf⟩
  exact search scope.members scope.values different wf member

/-- Only a member with an extent is a fixed array, and only one without, and without a pointer, is a
value. -/
theorem memberKind_shape {p : XrParam} {kind : MemberKind} (known : memberKind b p = some kind) :
    (∀ extent, kind = .array extent → p.pointer = none ∧ p.array = some extent) ∧
      (kind = .value → p.pointer = none ∧ p.array = none) := by
  have single (inline : kind = .value ∨ ∃ extent, kind = .array extent) : p.pointer = none :=
    memberKind_inline known inline
  constructor
  · rintro extent rfl
    have pointer := single (.inr ⟨extent, rfl⟩)
    refine ⟨pointer, ?_⟩
    simp only [memberKind, pointer] at known
    grind
  · rintro rfl
    have pointer := single (.inl rfl)
    refine ⟨pointer, ?_⟩
    simp only [memberKind, pointer] at known
    grind

/-- A step leads to an object of the type of its member. -/
theorem access_typed {const : XrParam → Bool} {top : Bool} {p : XrParam} {step : Step}
    {loops : Nat} {members : List XrParam} {values : List Value} {value object : Value}
    (wf : WellFormedMember b (WellFormed b depth) members values p value)
    (followed : follow b const top p = some step)
    (reached : access env (step.accessor loops) value = some object) :
    WellFormed b depth p.type object := by
  have shape := follow_shape followed
  unfold WellFormedMember at wf
  cases known : memberKind b p with
  | none => simp [known] at wf
  | some kind =>
    obtain ⟨arrays, plain⟩ := memberKind_shape known
    simp only [known] at wf
    cases kind with
    | xrArray len =>
      cases value with
      | nullStruct => cases step <;> contradiction
      | chainedArray name elements => cases step <;> contradiction
      | _ => exact wf.elim
    | xr =>
      cases value with
      | nullStruct => cases step <;> contradiction
      | chained name inner => cases step <;> contradiction
      | _ => exact wf.elim
    | ptr count =>
      cases value with
      | null => cases step <;> contradiction
      | block elements =>
        obtain ⟨-, -, each⟩ := wf
        have indexed {loop : Nat}
            (reached : access env (.element loop) (.block elements) = some object) :
            WellFormed b depth p.type object := by
          obtain ⟨index, -, found⟩ := Option.bind_eq_some_iff.mp reached
          exact each object (List.mem_of_getElem? found)
        cases step with
        | arrow =>
          cases elements with
          | nil => contradiction
          | cons first rest =>
            obtain rfl := Option.some.inj reached
            exact each first List.mem_cons_self
        | counted len => exact indexed reached
        | fixed extent => exact indexed reached
        | dot => contradiction
      | _ => exact wf.elim
    | array extent =>
      obtain ⟨single, extended⟩ := arrays extent rfl
      cases value with
      | aggregate elements =>
        obtain ⟨-, each⟩ := wf
        cases step with
        | fixed text =>
          obtain ⟨index, -, found⟩ := Option.bind_eq_some_iff.mp reached
          exact each object (List.mem_of_getElem? found)
        | arrow => simp [single] at shape
        | counted len => simp [single] at shape
        | dot => simp [extended] at shape
      | _ => exact wf.elim
    | time =>
      cases value with
      | plain bits => cases step <;> contradiction
      | _ => exact wf.elim
    | value =>
      obtain ⟨single, unextended⟩ := plain rfl
      cases step with
      | dot =>
        cases value with
        | aggregate parts =>
          obtain rfl := Option.some.inj reached
          exact wf
        | _ => contradiction
      | arrow => simp [single] at shape
      | counted len => simp [single] at shape
      | fixed extent => simp [unextended] at shape

/-- The members of a well-formed struct are a typed scope, unless its functions are written by hand.
-/
theorem typed_members {type : String} {struct : XrStruct} {parts : List Value}
    (wf : WellFormed b depth type (.aggregate parts)) (found : b.findStruct type = some struct)
    (generated : type ≠ instanceCreateInfoName ∧ type ≠ frameEndInfoName) :
    Typed b depth ⟨struct.members, parts⟩ := by
  cases depth with
  | zero => exact wf.elim
  | succ depth =>
    have wf : WellFormedType b (WellFormed b depth) type (.aggregate parts) := wf
    obtain ⟨-, named⟩ := b.findStruct_mem found
    unfold WellFormedType at wf
    simp only [found] at wf
    obtain ⟨-, wf⟩ := wf
    rw [named, if_neg generated.1, if_neg generated.2] at wf
    exact ⟨members_names found, wf.mono fun _ _ wf => wellFormed_mono (Nat.le_succ depth) wf⟩

/-- The object at the end of an access path is typed. -/
theorem evalPrefix_typed {const : XrParam → Bool} {top : Bool} {p : XrParam} {path : Access}
    (leads : Leads b const top p path) {scope target : Scope} {loops : Nat}
    (member : p ∈ scope.members) (typed : scope.Typed b depth)
    (generated : ∀ step ∈ path.steps,
      step.1.type ≠ instanceCreateInfoName ∧ step.1.type ≠ frameEndInfoName)
    (reached : evalPrefix b env scope (prefixFrom loops path.steps) = some target) :
    target.Typed b depth ∧ path.target ∈ target.members := by
  induction leads generalizing scope loops with
  | here top p =>
    obtain rfl := Option.some.inj reached
    exact ⟨typed, member⟩
  | @through top p child step struct path followed found child_mem below ih =>
    obtain ⟨value, there, wf⟩ := typed.find member
    rw [show (path.after (p, step)).steps = (p, step) :: path.steps from rfl, prefixFrom,
      evalPrefix, there, Option.bind_some] at reached
    obtain ⟨object, entered, reached⟩ := Option.bind_eq_some_iff.mp reached
    have inner := access_typed wf followed entered
    rw [found] at reached
    cases object with
    | aggregate parts =>
      have members := typed_members inner found (generated (p, step) List.mem_cons_self)
      exact ih child_mem members (fun step member => generated step (List.mem_cons_of_mem _ member))
        reached
    | _ => contradiction

/-- What the calls of a binding of some type have to be given. -/
def TypedCall (b : Build) (depth : Nat) (type : BindingType) (p : XrParam) (len : Option Nat)
    (value : Value) : Prop :=
  match type with
  | .xrArray => WellFormedXrArray b (WellFormed b depth) len value
  | .xr => WellFormedXr b (WellFormed b depth) value
  | .ptr => WellFormedPtr (WellFormed b depth p.type) (some 1) value
  | .sizedPtr | .array => WellFormedPtr (WellFormed b depth p.type) len value

/-- A name that is evaluated in a scope stands for the count that it names there. -/
theorem countOf_lengthOf {params target : Scope} {path : BindingPrefix} {name : String}
    {count : Nat}
    (reached : evalPrefix b env params path = some target)
    (counted : lengthOf b params env (.member { path := path, name := name }) = some count) :
    name ≠ "null-terminated" ∧
      ∀ pointer, countOf target.members target.values pointer (.sibling name) = some count := by
  unfold lengthOf at counted
  dsimp only at counted
  split at counted
  · contradiction
  next named =>
    refine ⟨named, fun pointer => ?_⟩
    split at counted
    next q number located =>
      obtain rfl := Option.some.inj counted
      unfold locate at located
      split at located
      · contradiction
      · rw [reached, Option.bind_some] at located
        have here : sibling target.members target.values name = some (.plain number) := by
          unfold sibling
          rw [show ((target.members.zip target.values).find? fun entry => entry.1.name = name) =
            some (q, .plain number) from located]
          rfl
        simp only [countOf, here]
    · contradiction

/-- The binding that is saved for a well-formed member makes typed calls. -/
theorem saved_typed {params target : Scope} {path : BindingPrefix} {loops : List BindingLoop}
    {top : Bool} {p : XrParam} {value : Value}
    (extents : ∀ extent, 0 < b.extent extent ∧ b.extent extent < wordLimit)
    (reached : evalPrefix b env params path = some target)
    (wf : WellFormedMember b (WellFormed b depth) target.members target.values p value)
    (kept : saves b top p = true)
    (counted : ∀ len, (saved b path p loops).len = some len →
      (lengthOf b params env len).isSome) :
    TypedCall b depth (saved b path p loops).type p
      ((saved b path p loops).len.bind (lengthOf b params env))
      (argument (saved b path p loops).type value) := by
  have sibling (len : String) (evaluates :
      (lengthOf b params env (.member { path := path, name := len })).isSome) :
      len ≠ "null-terminated" ∧ ∀ pointer,
        countOf target.members target.values pointer (.sibling len) =
          lengthOf b params env (.member { path := path, name := len }) := by
    obtain ⟨count, same⟩ := Option.isSome_iff_exists.mp evaluates
    obtain ⟨named, counts⟩ := countOf_lengthOf reached same
    exact ⟨named, fun pointer => (counts pointer).trans same.symm⟩
  unfold WellFormedMember at wf
  cases known : memberKind b p with
  | none => simp [known] at wf
  | some kind =>
    simp only [known] at wf
    unfold memberKind at known
    split at known
    · contradiction
    split at known
    · contradiction
    next starred =>
    split at known
    · contradiction
    cases pointer : p.pointer with
    | none =>
      have notNext : isNextPtr p = false := by simp [isNextPtr, pointer]
      rw [saves, notNext, pointer, Option.isSome_none] at kept
      cases header : b.isHeader p.type with
      | true =>
        simp only [pointer, header, if_true, Option.some.injEq] at known
        subst known
        simp only [saved, notNext, header, pointer, Bool.or_true, if_true]
        exact wf
      | false =>
        cases array : p.array with
        | none => simp [header, array] at kept
        | some extent =>
          simp only [pointer, header, array, Bool.false_eq_true, if_false,
            Option.some.injEq] at known
          subst known
          simp only [saved, notNext, header, pointer, array, Bool.or_false, Bool.false_eq_true,
            if_false]
          cases value with
          | aggregate elements =>
            obtain ⟨sized, each⟩ := wf
            refine ⟨?_, ?_, each⟩
            · rw [sized]
              rfl
            · rw [sized]
              exact (extents extent).2
          | _ => exact wf.elim
    | some text =>
      obtain rfl : text = "*" := by simpa [pointer] using starred
      have isNext : isNextPtr p = decide (p.type = "void" ∧ p.name = "next") := by
        simp [isNextPtr, pointer]
      cases counting : p.len with
      | none =>
        simp only [pointer, counting] at known
        by_cases chained : (p.type = "void" ∧ p.name = "next") ∨ b.isHeader p.type
        · rw [if_pos chained, Option.some.injEq] at known
          subst known
          have either : (isNextPtr p || b.isHeader p.type) = true := by simpa [isNext] using chained
          simp only [saved, either, if_true, pointer, counting]
          exact wf
        · rw [if_neg chained, Option.some.injEq] at known
          subst known
          have neither : (isNextPtr p || b.isHeader p.type) = false := by
            simpa [isNext] using chained
          simp only [saved, neither, Bool.false_eq_true, if_false, pointer, counting]
          exact wf
      | some len =>
        simp only [pointer, counting] at known
        cases header : b.isHeader p.type with
        | true =>
          rw [header, if_pos rfl, Option.some.injEq] at known
          subst known
          simp only [saved, header, Bool.or_true, if_true, pointer, counting] at counted ⊢
          obtain ⟨-, counts⟩ := sibling len (counted _ rfl)
          simp only [counts] at wf
          exact wf
        | false =>
          rw [header, if_neg Bool.false_ne_true] at known
          by_cases next : p.type = "void" ∧ p.name = "next"
          · rw [if_pos next, Option.some.injEq] at known
            subst known
            have either : isNextPtr p = true := by simpa [isNext] using next
            simp only [saved, either, header, Bool.or_false, if_true, pointer, counting]
            exact wf
          · rw [if_neg next] at known
            have neither : isNextPtr p = false := by simpa [isNext] using next
            simp only [saved, neither, header, Bool.or_false, Bool.false_eq_true, if_false, pointer,
              counting] at counted ⊢
            obtain ⟨named, counts⟩ := sibling len (counted _ rfl)
            rw [if_neg named, Option.some.injEq] at known
            subst known
            simp only [counts] at wf
            exact wf

/-- The calls of a generated binding are about the member at the end of its access path, and typed.
-/
theorem operand_typed {params : Scope} {path : Access} {const : XrParam → Bool} {p q : XrParam}
    {value : Value} (typed : params.Typed b depth)
    (extents : ∀ extent, 0 < b.extent extent ∧ b.extent extent < wordLimit)
    (member : p ∈ params.members) (leads : Leads b const true p path)
    (kept : saves b path.steps.isEmpty path.target = true)
    (generated : ∀ step ∈ path.steps,
      step.1.type ≠ instanceCreateInfoName ∧ step.1.type ≠ frameEndInfoName)
    (found : operand b params (render b [] [] path) env = some (q, value))
    (counted : ∀ len, (render b [] [] path).len = some len →
      (lengthOf b params env len).isSome) :
    TypedCall b depth (render b [] [] path).type q
      ((render b [] [] path).len.bind (lengthOf b params env)) value := by
  rw [render_eq] at found counted ⊢
  obtain ⟨⟨q, value⟩, located, same⟩ := Option.map_eq_some_iff.mp found
  obtain ⟨rfl, rfl⟩ := Prod.mk.inj same
  rw [saved_expression] at located
  unfold locate at located
  split at located
  · contradiction
  · obtain ⟨target, reached, there⟩ := Option.bind_eq_some_iff.mp located
    obtain ⟨inside, last⟩ := evalPrefix_typed leads member typed generated reached
    obtain ⟨value', there', wf⟩ := inside.find last
    obtain ⟨rfl, rfl⟩ := Prod.mk.inj (Option.some.inj (there'.symm.trans there))
    exact saved_typed extents reached wf kept counted

end Typed

end Scope

end XrTransport.CodeGeneration
