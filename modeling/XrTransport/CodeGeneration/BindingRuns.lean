import XrTransport.CodeGeneration.AccessPaths

/-!
# What a binding denotes

`serialize_binding` emits nested loops around one call on an expression. Its run is compared with
the elements that lie at an access path in concrete arguments. Objects are named by how they are
reached, so the arguments are what the numbers among them hold and which of the pointers are null.
-/
namespace XrTransport.CodeGeneration

open Serialization

/-- An object, by the names and indices that lead to it. -/
abbrev Place := List (String × Nat)

/-- A parameter, or a member of an object. -/
structure Location where
  /-- The object; none for a parameter. -/
  inside : Place
  /-- The name. -/
  name : String
deriving DecidableEq, Repr

/-- The arguments of a call. -/
structure Arguments where
  /-- What a number holds. -/
  number : Location → Nat
  /-- Whether a pointer is null. -/
  null : Location → Bool

/-- What is at the end of an access path. -/
inductive Amount where
  /-- A struct with its chain. -/
  | chain
  /-- So many elements. -/
  | elements (count : Nat)
deriving DecidableEq, Repr

/-- The variables of the loops around an expression, the innermost first. -/
abbrev Env := List (Nat × Nat)

/-- The name of a loop's variable. -/
def loopName (var : Nat) : String := "i" ++ toString var

variable (b : Build)

section Paths

variable (args : Arguments)

/-- The indices of the objects that a step leads to. -/
def indices (here : Place) (p : XrParam) : Step → List Nat
  | .arrow => if args.null ⟨here, p.name⟩ then [] else [0]
  | .counted len => List.range (args.number ⟨here, len⟩)
  | .fixed extent => List.range (b.extent extent)
  | .dot => [0]

/-- What is at the end of an access path, in an object that holds it. -/
def amount (here : Place) (target : XrParam) : Amount :=
  match target.pointer, target.len, target.array with
  | some _, some len, _ =>
    if isNextPtr target && !b.isHeader target.type then .chain
    else .elements (args.number ⟨here, len⟩)
  | some _, none, _ =>
    if isNextPtr target || b.isHeader target.type then .chain else .elements 1
  | none, _, some extent => .elements (b.extent extent)
  | none, _, none => .elements 1

/-- The elements at an access path, from an object on. -/
def elementsFrom (target : XrParam) : Place → List (XrParam × Step) → List (Location × Amount)
  | here, [] => [(⟨here, target.name⟩, amount b args here target)]
  | here, (p, step) :: rest =>
    (indices b args here p step).flatMap fun index =>
      elementsFrom target (here ++ [(p.name, index)]) rest

end Paths

section Code

variable (params : List XrParam) (args : Arguments)

/-- The value of the bound of a loop. The variable of a loop hides a parameter of its name. -/
def boundValue (env : Env) : LoopBound → Option Nat
  | .name text =>
    match env.find? fun entry => loopName entry.1 = text with
    | some entry => some entry.2
    | none => if text ∈ params.map XrParam.name then some (args.number ⟨[], text⟩) else none
  | .extent text => some (b.extent text)

/-- The loops around a body. -/
def runLoops (body : Env → Option (List (Location × Amount))) :
    List BindingLoop → Env → Option (List (Location × Amount))
  | [], env => body env
  | loop :: rest, env =>
    match boundValue b params args ((loop.var, loop.base) :: env) loop.bound with
    | none => none
    | some bound =>
      ((List.range' loop.base (bound - loop.base)).mapM fun value =>
        runLoops body rest ((loop.var, value) :: env)).map List.flatten

/-- How many elements a pointer or array has. -/
def elementCount (here : Place) (p : XrParam) : Option Nat :=
  match p.pointer, p.len, p.array with
  | some _, some len, _ => some (args.number ⟨here, len⟩)
  | none, _, some extent => some (b.extent extent)
  | _, _, _ => none

/-- The index of the object that an accessor leads to. A null pointer and an index beyond the end
lead nowhere. -/
def accessIndex (env : Env) (here : Place) (p : XrParam) : Accessor → Option Nat
  | .arrow => if p.pointer.isSome && !args.null ⟨here, p.name⟩ then some 0 else none
  | .dot => if p.pointer.isNone && p.array.isNone then some 0 else none
  | .element loop =>
    match env.lookup loop, elementCount b args here p with
    | some index, some count => if index < count then some index else none
    | _, _ => none

/-- The object that a prefix denotes, with its members. -/
def evalPrefix (env : Env) : List XrParam → Place → BindingPrefix → Option (List XrParam × Place)
  | scope, here, [] => some (scope, here)
  | scope, here, (name, accessor) :: rest =>
    match scope.find? fun p => p.name = name with
    | none => none
    | some p =>
      match accessIndex b args env here p accessor, b.findStruct p.type with
      | some index, some struct => evalPrefix env struct.members (here ++ [(name, index)]) rest
      | _, _ => none

/-- The variable that an expression starts with. -/
def Expression.root (e : Expression) : String := (e.path.head?.map Prod.fst).getD e.name

/-- What an expression denotes, if all its names are in scope and it leads somewhere. -/
def locate (env : Env) (e : Expression) : Option Location :=
  if ∃ entry ∈ env, loopName entry.1 = e.root then none
  else
    match evalPrefix b args env params [] e.path with
    | none => none
    | some (scope, here) => if e.name ∈ scope.map XrParam.name then some ⟨here, e.name⟩ else none

/-- The call that `serialize_binding` emits: what is serialized, and how much of it. -/
def serializeCall (binding : Binding) (env : Env) : Option (List (Location × Amount)) :=
  match locate b params args env binding.expression with
  | none => none
  | some location =>
    match binding.type, binding.len with
    | .xr, _ => some [(location, .chain)]
    | .ptr, _ => some [(location, .elements 1)]
    | _, some (.member e) =>
      (locate b params args env e).map fun len => [(location, .elements (args.number len))]
    | _, some (.extent text) => some [(location, .elements (b.extent text))]
    | _, none => none

/-- `serialize_binding`. -/
def serializeBinding (binding : Binding) : Option (List (Location × Amount)) :=
  runLoops b params args (serializeCall b params args binding) binding.loops []

/-- Every loop bound on an access path is in scope and equals the length of the array, which for a
counted pointer is the length member of the object that holds it. -/
def BoundsRight : List BindingLoop → Env → Place → List (XrParam × Step) → Prop
  | _, _, _, [] => True
  | loops, env, here, (p, step) :: rest =>
    match step, loops with
    | .arrow, _ | .dot, _ =>
      ∀ index ∈ indices b args here p step, BoundsRight loops env (here ++ [(p.name, index)]) rest
    | .counted len, loop :: loops =>
      boundValue b params args ((loop.var, loop.base) :: env) loop.bound =
          some (args.number ⟨here, len⟩) ∧
        ∀ index ∈ indices b args here p step,
          BoundsRight loops ((loop.var, index) :: env) (here ++ [(p.name, index)]) rest
    | .fixed extent, loop :: loops =>
      boundValue b params args ((loop.var, loop.base) :: env) loop.bound =
          some (b.extent extent) ∧
        ∀ index ∈ indices b args here p step,
          BoundsRight loops ((loop.var, index) :: env) (here ++ [(p.name, index)]) rest
    | .counted _, [] | .fixed _, [] => False

end Code

/-- The prefix that some steps add. -/
def prefixFrom : Nat → List (XrParam × Step) → BindingPrefix
  | _, [] => []
  | loops, (p, step) :: rest =>
    (p.name, step.accessor loops) :: prefixFrom (loops + (step.loops loops).length) rest

/-- The loops that some steps add. -/
def loopsFrom : Nat → List (XrParam × Step) → List BindingLoop
  | _, [] => []
  | loops, (_, step) :: rest =>
    step.loops loops ++ loopsFrom (loops + (step.loops loops).length) rest

/-- The scope at the end of some steps: the members of the object that they lead to. -/
def scopeAt : List XrParam → List (XrParam × Step) → List XrParam
  | scope, [] => scope
  | _, (p, _) :: rest =>
    match b.findStruct p.type with
    | some struct => scopeAt struct.members rest
    | none => []

/-- No single pointer on an access path is null. -/
def NoneNull (args : Arguments) : Place → List (XrParam × Step) → Prop
  | _, [] => True
  | here, (p, step) :: rest =>
    (step = .arrow → args.null ⟨here, p.name⟩ = false) ∧
      ∀ index ∈ indices b args here p step, NoneNull args (here ++ [(p.name, index)]) rest

variable {b}

/-- Steps taken one after the other add their prefixes and loops. -/
theorem place_eq {path : BindingPrefix} {loops : List BindingLoop}
    {steps : List (XrParam × Step)} :
    place path loops steps =
      (path ++ prefixFrom loops.length steps, loops ++ loopsFrom loops.length steps) := by
  induction steps generalizing path loops with
  | nil => rw [place, prefixFrom, loopsFrom, List.append_nil, List.append_nil]
  | cons first rest ih =>
    obtain ⟨p, step⟩ := first
    rw [place, ih, prefixFrom, loopsFrom, List.length_append, List.append_assoc,
      List.singleton_append, List.append_assoc]

section Evaluation

variable {params : List XrParam} {args : Arguments} {env : Env} {scope : List XrParam}
  {here : Place}

/-- A prefix is evaluated from its start on. -/
theorem evalPrefix_append {first second : BindingPrefix} :
    evalPrefix b args env scope here (first ++ second) =
      (evalPrefix b args env scope here first).bind fun reached =>
        evalPrefix b args env reached.1 reached.2 second := by
  induction first generalizing scope here with
  | nil => rfl
  | cons entry rest ih =>
    obtain ⟨name, accessor⟩ := entry
    simp only [List.cons_append, evalPrefix]
    split
    · rfl
    · split
      · exact ih
      · rfl

/-- The variable of a further loop does not matter to a prefix without it. -/
theorem evalPrefix_fresh {path : BindingPrefix} {loop value : Nat}
    (fresh : ∀ entry ∈ path, entry.2 ≠ .element loop) :
    evalPrefix b args ((loop, value) :: env) scope here path =
      evalPrefix b args env scope here path := by
  induction path generalizing scope here with
  | nil => rfl
  | cons entry rest ih =>
    obtain ⟨name, accessor⟩ := entry
    have same (p : XrParam) : accessIndex b args ((loop, value) :: env) here p accessor =
        accessIndex b args env here p accessor := by
      cases accessor with
      | arrow => rfl
      | dot => rfl
      | element other =>
        have apart : other ≠ loop := fun equal =>
          fresh _ List.mem_cons_self (congrArg Accessor.element equal)
        rw [accessIndex, accessIndex, List.lookup_cons, show (other == loop) = false by simpa]
    simp only [evalPrefix, same]
    split
    · rfl
    · split
      · exact ih fun entry member => fresh entry (List.mem_cons_of_mem _ member)
      · rfl

/-- A parameter is found by its name. -/
theorem find_name {p : XrParam} (different : (scope.map XrParam.name).Nodup) (member : p ∈ scope) :
    scope.find? (fun other => other.name = p.name) = some p := by
  have present : (scope.find? fun other => other.name = p.name).isSome = true := by
    rw [List.find?_isSome]
    exact ⟨p, member, by simp⟩
  obtain ⟨other, found⟩ := Option.isSome_iff_exists.mp present
  have named : other.name = p.name := by simpa using List.find?_some found
  rw [found, List.inj_on_of_nodup_map different (List.mem_of_find?_eq_some found) member named]

/-- One step leads to the object of its index. -/
theorem evalPrefix_step {p : XrParam} {accessor : Accessor} {index : Nat} {struct : XrStruct}
    (different : (scope.map XrParam.name).Nodup) (member : p ∈ scope)
    (leads : accessIndex b args env here p accessor = some index)
    (found : b.findStruct p.type = some struct) :
    evalPrefix b args env scope here [(p.name, accessor)] =
      some (struct.members, here ++ [(p.name, index)]) := by
  simp only [evalPrefix, find_name different member, leads, found]

/-- The members of a struct have different names. -/
theorem members_names {name : String} {struct : XrStruct}
    (found : b.findStruct name = some struct) : (struct.members.map XrParam.name).Nodup :=
  b.distinct struct (b.findStruct_mem found).1

end Evaluation

/-- What an access path follows, by the shape of the parameter or member. -/
theorem follow_shape {const : XrParam → Bool} {top : Bool} {p : XrParam} {step : Step}
    (followed : follow b const top p = some step) :
    match step with
    | .arrow => p.pointer.isSome = true ∧ p.len = none
    | .counted len => p.pointer.isSome = true ∧ p.len = some len
    | .fixed extent => p.pointer = none ∧ p.array = some extent
    | .dot => p.pointer = none ∧ p.array = none := by
  rw [follow] at followed
  split at followed
  · cases followed
  · split at followed
    next pointer counted =>
      split at followed
      · cases followed
        exact ⟨by rw [pointer]; rfl, counted⟩
      · cases followed
    next pointer single =>
      split at followed
      · cases followed
        exact ⟨by rw [pointer]; rfl, single⟩
      · cases followed
    next plain extended =>
      split at followed
      · cases followed
      · cases followed
        exact ⟨plain, extended⟩
    next plain unextended =>
      cases followed
      exact ⟨plain, unextended⟩

section Running

variable {params : List XrParam} {args : Arguments}

/-- A loop whose bound is known runs over what lies below. -/
theorem runLoops_cons {body : Env → Option (List (Location × Amount))} {loop : BindingLoop}
    {rest : List BindingLoop} {env : Env} {bound : Nat} {parts : Nat → List (Location × Amount)}
    (base : loop.base = 0)
    (right : boundValue b params args ((loop.var, loop.base) :: env) loop.bound = some bound)
    (each : ∀ value < bound,
      runLoops b params args body rest ((loop.var, value) :: env) = some (parts value)) :
    runLoops b params args body (loop :: rest) env = some ((List.range bound).flatMap parts) := by
  have values : List.range' loop.base (bound - loop.base) = List.range bound := by
    rw [base, Nat.sub_zero, ← List.range_eq_range']
  simp only [runLoops, right, values]
  rw [mapM_eq_some fun value member => each value (List.mem_range.mp member), Option.map_some,
    ← List.flatMap_def]

/-- Where the loop bounds are right and no single pointer is null, the loops of an access path run
over its elements. -/
theorem runLoops_eq {const : XrParam → Bool} {top : Bool} {p : XrParam} {access : Access}
    (leads : Leads b const top p access) {binding : Binding} {scope : List XrParam} {here : Place}
    {path : BindingPrefix} {env : Env} {loops total : Nat}
    (different : (scope.map XrParam.name).Nodup) (member : p ∈ scope)
    (expression : binding.expression.path = path ++ prefixFrom loops access.steps)
    (evaluated : evalPrefix b args env params [] path = some (scope, here))
    (fresh : ∀ entry ∈ path, ∀ loop ≥ loops, entry.2 ≠ .element loop)
    (vars : ∀ entry ∈ env, entry.1 < loops)
    (all : loops + (loopsFrom loops access.steps).length = total)
    (bounds : BoundsRight b params args (loopsFrom loops access.steps) env here access.steps)
    (solid : NoneNull b args here access.steps)
    (called : ∀ (env : Env) (here : Place), (∀ entry ∈ env, entry.1 < total) →
      evalPrefix b args env params [] binding.expression.path =
          some (scopeAt b scope access.steps, here) →
        serializeCall b params args binding env =
          some [(⟨here, access.target.name⟩, amount b args here access.target)]) :
    runLoops b params args (serializeCall b params args binding) (loopsFrom loops access.steps)
        env =
      some (elementsFrom b args access.target here access.steps) := by
  induction leads generalizing scope here path env loops with
  | here top p =>
    rw [show prefixFrom loops (Access.mk [] p).steps = [] from rfl, List.append_nil] at expression
    have none : (Access.mk [] p).steps = [] := rfl
    rw [none, loopsFrom, List.length_nil, Nat.add_zero] at all
    apply called env here
    · intro entry entry_mem
      rw [← all]
      exact vars entry entry_mem
    · rw [expression]
      exact evaluated
  | @through top p child step struct access followed found child_mem rest ih =>
    have steps : (access.after (p, step)).steps = (p, step) :: access.steps := rfl
    have target : (access.after (p, step)).target = access.target := rfl
    have shape := follow_shape followed
    have within : scopeAt b scope ((p, step) :: access.steps) =
        scopeAt b struct.members access.steps := by
      rw [scopeAt, found]
    rw [steps] at expression all bounds solid called ⊢
    rw [target] at called ⊢
    rw [within] at called
    rw [prefixFrom, ← List.singleton_append, ← List.append_assoc] at expression
    rw [loopsFrom] at all bounds ⊢
    have names := members_names found
    -- The step leads on in the environment in which the rest runs.
    have onward {value : Nat} {env' : Env} {more : Nat}
        (index : accessIndex b args env' here p (step.accessor loops) = some value)
        (same : evalPrefix b args env' params [] path = some (scope, here)) :
        evalPrefix b args env' params [] (path ++ [(p.name, step.accessor loops)]) =
          some (struct.members, here ++ [(p.name, value)]) := by
      rw [evalPrefix_append, same]
      exact evalPrefix_step different member index found
    -- A step to the elements of an array adds a loop over them.
    have looped {loop : BindingLoop} {count : Nat} (adds : step.loops loops = [loop])
        (base : loop.base = 0) (var : loop.var = loops)
        (accessor : step.accessor loops = .element loops)
        (right : boundValue b params args ((loop.var, loop.base) :: env) loop.bound = some count)
        (number : elementCount b args here p = some count)
        (range : indices b args here p step = List.range count)
        (inner : ∀ index ∈ indices b args here p step,
          BoundsRight b params args (loopsFrom (loops + 1) access.steps)
            ((loop.var, index) :: env) (here ++ [(p.name, index)]) access.steps) :
        runLoops b params args (serializeCall b params args binding)
            (step.loops loops ++ loopsFrom (loops + (step.loops loops).length) access.steps) env =
          some (elementsFrom b args access.target here ((p, step) :: access.steps)) := by
      rw [adds] at expression all ⊢
      rw [accessor] at expression onward
      rw [elementsFrom, range]
      apply runLoops_cons base right
      intro value below
      have member_range : value ∈ indices b args here p step := by
        rw [range]
        exact List.mem_range.mpr below
      have same : evalPrefix b args ((loop.var, value) :: env) params [] path =
          some (scope, here) := by
        rw [evalPrefix_fresh, evaluated]
        exact fun entry entry_mem => fresh entry entry_mem loop.var (var ▸ Nat.le_refl _)
      have index : accessIndex b args ((loop.var, value) :: env) here p (.element loops) =
          some value := by
        rw [accessIndex, number, var, List.lookup_cons_self]
        exact if_pos below
      refine @ih struct.members (here ++ [(p.name, value)]) (path ++ [(p.name, .element loops)])
        ((loop.var, value) :: env) (loops + 1) names child_mem expression
        (@onward value _ 0 index same) ?_ ?_ ?_ (inner value member_range)
        (solid.2 value member_range) called
      · intro entry entry_mem other above
        rcases List.mem_append.mp entry_mem with old | new
        · exact fresh entry old other (Nat.le_of_succ_le above)
        · rw [List.mem_singleton.mp new]
          exact fun equal => Nat.ne_of_lt above (Accessor.element.inj equal)
      · intro entry entry_mem
        rcases List.mem_cons.mp entry_mem with rfl | old
        · exact var ▸ Nat.lt_succ_self _
        · exact Nat.lt_succ_of_lt (vars entry old)
      · rw [← all, List.singleton_append, List.length_cons, List.length_singleton]
        omega
    cases step with
    | arrow =>
      obtain ⟨notNull, further⟩ := solid
      have open' : args.null ⟨here, p.name⟩ = false := notNull rfl
      have only : indices b args here p .arrow = [0] := by rw [indices, open']; rfl
      have index : accessIndex b args env here p .arrow = some 0 := by
        rw [accessIndex, shape.1, open']
        rfl
      rw [elementsFrom, only, List.flatMap_singleton]
      refine @ih struct.members (here ++ [(p.name, 0)]) (path ++ [(p.name, .arrow)]) env loops names
        child_mem expression (@onward 0 env 0 index evaluated) ?_ vars all
        (bounds 0 (by rw [only]; exact List.mem_singleton_self 0))
        (further 0 (by rw [only]; exact List.mem_singleton_self 0)) called
      intro entry entry_mem loop above
      rcases List.mem_append.mp entry_mem with old | new
      · exact fresh entry old loop above
      · rw [List.mem_singleton.mp new]
        exact Accessor.noConfusion
    | dot =>
      have only : indices b args here p .dot = [0] := rfl
      have index : accessIndex b args env here p .dot = some 0 := by
        rw [accessIndex, shape.1, shape.2]
        rfl
      rw [elementsFrom, only, List.flatMap_singleton]
      refine @ih struct.members (here ++ [(p.name, 0)]) (path ++ [(p.name, .dot)]) env loops names
        child_mem expression (@onward 0 env 0 index evaluated) ?_ vars all
        (bounds 0 (List.mem_singleton_self 0)) (solid.2 0 (List.mem_singleton_self 0)) called
      intro entry entry_mem loop above
      rcases List.mem_append.mp entry_mem with old | new
      · exact fresh entry old loop above
      · rw [List.mem_singleton.mp new]
        exact Accessor.noConfusion
    | counted len =>
      obtain ⟨right, inner⟩ := bounds
      have number : elementCount b args here p = some (args.number ⟨here, len⟩) := by
        obtain ⟨text, pointer⟩ := Option.isSome_iff_exists.mp shape.1
        rw [elementCount, pointer, shape.2]
      exact looped rfl rfl rfl rfl right number rfl inner
    | fixed extent =>
      obtain ⟨right, inner⟩ := bounds
      have number : elementCount b args here p = some (b.extent extent) := by
        rw [elementCount, shape.1, shape.2]
      exact looped rfl rfl rfl rfl right number rfl inner

end Running

end XrTransport.CodeGeneration
