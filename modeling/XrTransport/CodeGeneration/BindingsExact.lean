import XrTransport.CodeGeneration.BindingRuns

/-!
# Whether the modifiable bindings are complete and exact

The walk of `bindings.py` finds what a function can modify if `const` is spelled as it expects and
no base struct lies in place. The bindings then denote it if the length of every counted pointer on
the way is a parameter, since a loop is bounded by the bare name of the length, and if no single
pointer on the way can be null.
-/
namespace XrTransport.CodeGeneration

open Serialization

/-- Whether a parameter or member is declared const: the word is among its qualifiers. -/
def declaredConst (p : XrParam) : Bool :=
  p.qualifier.any fun text => (text.toList.splitOn ' ').contains "const".toList

/-- A pointer that is not const, or an array parameter that is not const. -/
def modifies (top : Bool) (p : XrParam) : Bool :=
  !declaredConst p && (p.pointer.isSome || (top && p.array.isSome))

variable (b : Build) (params : List XrParam)

/-- What a function can modify: the pointers that are not const, and the arrays, at the end of an
access path from a parameter. -/
def Modifiable (access : Access) : Prop :=
  ∃ p ∈ params, Leads b declaredConst true p access ∧
    modifies access.steps.isEmpty access.target = true

/-- The expression for the end of an access path. -/
def Access.expression (access : Access) : Expression where
  path := prefixFrom 0 access.steps
  name := access.target.name

/-- A binding denotes the elements at an access path. -/
structure Denotes (binding : Binding) (access : Access) : Prop where
  /-- It is the expression for the path. -/
  expression : binding.expression = access.expression
  /-- It is about what lies at its end. -/
  param : binding.param = access.target
  /-- For all arguments, every loop bound is in scope and is the length of its array. -/
  bounds : ∀ args, BoundsRight b params args binding.loops [] [] access.steps
  /-- For all arguments, exactly the elements at the path are serialized. -/
  elements : ∀ args, serializeBinding b params args binding =
    some (elementsFrom b args access.target [] access.steps)

/-- The bindings denote what the function can modify, each once. -/
def Exact (bindings : List Binding) : Prop :=
  ∃ paths : List Access, paths.Nodup ∧ (∀ access, access ∈ paths ↔ Modifiable b params access) ∧
    List.Forall₂ (Denotes b params) bindings paths

/-- `bindings.py` takes a parameter or member for what it is: const is spelled so where it matters,
and a base struct in place is const. -/
structure Consistent (top : Bool) (p : XrParam) : Prop where
  /-- `const` is the whole qualifier. -/
  spelled : (p.pointer.isSome || (top && p.array.isSome)) = true → spelledConst p = declaredConst p
  /-- A base struct that is not behind a pointer is const. -/
  header : p.pointer = none → b.isHeader p.type = true → spelledConst p = true

/-- The loops and names of an access path mean what they should. -/
structure Clear (access : Access) : Prop where
  /-- It follows no single pointer. -/
  plain : ∀ entry ∈ access.steps, entry.2 ≠ .arrow
  /-- It follows no counted pointer but a parameter. -/
  outer : ∀ entry ∈ access.steps.tail, ∀ len, entry.2 ≠ .counted len
  /-- The length of a counted parameter is a parameter, and not named like the first loop. -/
  counted : ∀ entry ∈ access.steps.head?, ∀ len, entry.2 = .counted len →
    len ∈ params.map XrParam.name ∧ loopName 0 ≠ len
  /-- No loop hides the parameter it starts at. -/
  visible : ∀ loop < (loopsFrom 0 access.steps).length, loopName loop ≠ access.root.name
  /-- The length of a counted pointer at its end is next to it. -/
  measured : access.target.pointer.isSome = true → ∀ len ∈ access.target.len,
    (isNextPtr access.target && !b.isHeader access.target.type) = false →
      len ∈ (scopeAt b params access.steps).map XrParam.name

/-- When the bindings are complete and exact. -/
structure Bindable : Prop where
  /-- Everything on an access path is taken for what it is. -/
  consistent : ∀ p ∈ params, ∀ access, Leads b declaredConst true p access →
    Consistent b access.steps.isEmpty access.target
  /-- Every access path to something modifiable means what it should. -/
  clear : ∀ access, Modifiable b params access → Clear b params access

variable {b params}

section Rendering

variable {access : Access} {p : XrParam} {const : XrParam → Bool} {top : Bool}

/-- What is rendered without loops around. -/
theorem render_eq : render b [] [] access =
    saved b (prefixFrom 0 access.steps) access.target (loopsFrom 0 access.steps) := by
  rw [render, place_eq]
  rfl

/-- The expression that is saved. -/
theorem saved_expression {path : BindingPrefix} {loops : List BindingLoop} :
    (saved b path p loops).expression = { path := path, name := p.name } := by
  unfold saved
  dsimp only
  split
  · split
    · rfl
    · rfl
  · split
    · rfl
    · rfl
    · rfl

/-- The loops that are saved. -/
theorem saved_loops {path : BindingPrefix} {loops : List BindingLoop} :
    (saved b path p loops).loops = loops := by
  unfold saved
  dsimp only
  split
  · split
    · rfl
    · rfl
  · split
    · rfl
    · rfl
    · rfl

/-- The parameter or member that is saved. -/
theorem saved_param {path : BindingPrefix} {loops : List BindingLoop} :
    (saved b path p loops).param = p := by
  unfold saved
  dsimp only
  split
  · split
    · rfl
    · rfl
  · split
    · rfl
    · rfl
    · rfl

/-- The expression for an access path starts with its parameter. -/
theorem expression_root : access.expression.root = access.root.name := by
  obtain ⟨steps, target⟩ := access
  cases steps with
  | nil => rfl
  | cons first rest => rfl

/-- The variables of the loops count up. -/
theorem loopsFrom_vars {loops : Nat} {steps : List (XrParam × Step)} :
    (loopsFrom loops steps).map BindingLoop.var =
      List.range' loops (loopsFrom loops steps).length := by
  induction steps generalizing loops with
  | nil => rfl
  | cons first rest ih =>
    obtain ⟨p, step⟩ := first
    have own : (step.loops loops).map BindingLoop.var =
        List.range' loops (step.loops loops).length := by
      cases step with
      | arrow => rfl
      | counted len => rfl
      | fixed extent => rfl
      | dot => rfl
    rw [loopsFrom, List.map_append, ih, own, List.length_append, ← List.range'_append_1]

/-- Without counted pointers all loops run over fixed arrays. -/
theorem loopsFrom_extents {loops : Nat} {steps : List (XrParam × Step)}
    (fixed : ∀ entry ∈ steps, ∀ len, entry.2 ≠ .counted len) :
    ∀ loop ∈ loopsFrom loops steps, loop.base = 0 ∧ ∃ extent, loop.bound = .extent extent := by
  induction steps generalizing loops with
  | nil => exact fun _ member => nomatch member
  | cons first rest ih =>
    obtain ⟨p, step⟩ := first
    intro loop member
    rw [loopsFrom, List.mem_append] at member
    rcases member with own | later
    · cases step with
      | arrow => cases own
      | counted len => exact absurd rfl (fixed _ List.mem_cons_self len)
      | fixed extent =>
        rw [List.mem_singleton.mp own]
        exact ⟨rfl, extent, rfl⟩
      | dot => cases own
    · exact ih (fun entry there => fixed entry (List.mem_cons_of_mem _ there)) loop later

/-- What follows a parameter or member does not depend on the notion of const. -/
theorem follow_unique {other : XrParam → Bool} {top' : Bool} {step step' : Step}
    (followed : follow b const top p = some step)
    (followed' : follow b other top' p = some step') : step = step' := by
  have shape := follow_shape followed
  have shape' := follow_shape followed'
  cases step <;> cases step' <;> simp_all

/-- Access paths with one expression to one parameter or member are the same. -/
theorem Leads.unique {other : XrParam → Bool} {top' : Bool} {q : XrParam} {access' : Access}
    {scope : List XrParam} {loops : Nat} (leads : Leads b const top p access)
    (leads' : Leads b other top' q access') (different : (scope.map XrParam.name).Nodup)
    (member : p ∈ scope) (member' : q ∈ scope)
    (path : prefixFrom loops access.steps = prefixFrom loops access'.steps)
    (target : access.target = access'.target) : access = access' := by
  induction leads generalizing top' q access' scope loops with
  | here top p =>
    cases leads' with
    | here => exact congrArg (Access.mk []) target
    | through => cases path
  | through followed found child_mem rest ih =>
    cases leads' with
    | here => cases path
    | through followed' found' child_mem' rest' =>
      simp only [Access.after, prefixFrom, List.cons.injEq, Prod.mk.injEq] at path
      obtain ⟨⟨name, -⟩, path⟩ := path
      obtain rfl := List.inj_on_of_nodup_map different member member' name
      obtain rfl := follow_unique followed followed'
      obtain rfl := Option.some.inj (found.symm.trans found')
      rw [ih rest' (members_names found) child_mem child_mem' path target]

end Rendering

section Denoting

variable {args : Arguments} {access : Access}

/-- A call on a pointer, or on an array that is no base struct, serializes what is there. -/
theorem serializeCall_eq {path : BindingPrefix} {target : XrParam} {loops : List BindingLoop}
    {env : Env} {scope : List XrParam} {here : Place}
    (evaluated : evalPrefix b args env params [] path = some (scope, here))
    (member : target ∈ scope)
    (visible : ∀ entry ∈ env,
      loopName entry.1 ≠ Expression.root { path := path, name := target.name })
    (outside : path = [] → env = [])
    (kind : target.pointer.isSome = true ∨
      target.array.isSome = true ∧ b.isHeader target.type = false)
    (measured : target.pointer.isSome = true → ∀ len ∈ target.len,
      (isNextPtr target && !b.isHeader target.type) = false → len ∈ scope.map XrParam.name) :
    serializeCall b params args (saved b path target loops) env =
      some [(⟨here, target.name⟩, amount b args here target)] := by
  have located (name : String) (known : name ∈ scope.map XrParam.name)
      (hidden : ∀ entry ∈ env, loopName entry.1 ≠ Expression.root { path := path, name := name }) :
      locate b params args env { path := path, name := name } = some ⟨here, name⟩ := by
    rw [locate, if_neg]
    · simp only [evaluated, if_pos known]
    · rintro ⟨entry, there, same⟩
      exact hidden entry there same
  have itself := located target.name (List.mem_map_of_mem member) visible
  have length (len : String) (known : len ∈ scope.map XrParam.name) :
      locate b params args env { path := path, name := len } = some ⟨here, len⟩ := by
    apply located len known
    intro entry there
    cases path with
    | nil =>
      rw [outside rfl] at there
      cases there
    | cons first rest => exact visible entry there
  rw [serializeCall, saved_expression, itself]
  unfold saved amount
  dsimp only
  cases pointer : target.pointer with
  | none =>
    rw [pointer] at kind
    obtain ⟨array, inner⟩ := kind.resolve_left Bool.noConfusion
    obtain ⟨extent, extended⟩ := Option.isSome_iff_exists.mp array
    have next : isNextPtr target = false := by simp [isNextPtr, pointer]
    rw [inner, next, extended]
    rfl
  | some text =>
    have known := measured (by rw [pointer]; rfl)
    cases counted : target.len with
    | none =>
      by_cases plain : (isNextPtr target || b.isHeader target.type) = true
      · rw [if_pos plain, if_pos plain]
      · rw [if_neg plain, if_neg plain]
    | some len =>
      by_cases header : b.isHeader target.type = true
      · have there := length len (known len counted (by rw [header]; exact Bool.and_false _))
        simp [header, there]
      · by_cases next : isNextPtr target = true
        · simp [next, header]
        · have there := length len (known len counted (by simp [next]))
          simp [next, header, there]

/-- Without counted and single pointers, every loop bound is right and no pointer is null. -/
theorem bounds_of_fixed {steps : List (XrParam × Step)} {loops : Nat} {env : Env} {here : Place}
    (plain : ∀ entry ∈ steps, entry.2 ≠ .arrow)
    (fixed : ∀ entry ∈ steps, ∀ len, entry.2 ≠ .counted len) :
    BoundsRight b params args (loopsFrom loops steps) env here steps ∧
      NoneNull b args here steps := by
  induction steps generalizing loops env here with
  | nil => exact ⟨trivial, trivial⟩
  | cons first rest ih =>
    obtain ⟨p, step⟩ := first
    have later {loops : Nat} {env : Env} {here : Place} := @ih loops env here
      (fun entry there => plain entry (List.mem_cons_of_mem _ there))
      (fun entry there => fixed entry (List.mem_cons_of_mem _ there))
    have solid : NoneNull b args here ((p, step) :: rest) :=
      ⟨fun arrow => absurd arrow (plain _ List.mem_cons_self),
        fun _ _ => (@later loops env _).2⟩
    refine ⟨?_, solid⟩
    cases step with
    | arrow => exact absurd rfl (plain _ List.mem_cons_self)
    | counted len => exact absurd rfl (fixed _ List.mem_cons_self len)
    | fixed extent => exact ⟨rfl, fun _ _ => later.1⟩
    | dot => exact fun _ _ => later.1

/-- So it is where the only counted pointer is a parameter. -/
theorem Clear.bounds (clear : Clear b params access) :
    BoundsRight b params args (loopsFrom 0 access.steps) [] [] access.steps ∧
      NoneNull b args [] access.steps := by
  obtain ⟨steps, target⟩ := access
  cases steps with
  | nil => exact ⟨trivial, trivial⟩
  | cons first rest =>
    obtain ⟨p, step⟩ := first
    have later {loops : Nat} {env : Env} {here : Place} :=
      @bounds_of_fixed b params args rest loops env here
        (fun entry there => clear.plain entry (List.mem_cons_of_mem _ there)) clear.outer
    have solid : NoneNull b args [] ((p, step) :: rest) :=
      ⟨fun arrow => absurd arrow (clear.plain _ List.mem_cons_self),
        fun _ _ => (@later 0 [] _).2⟩
    refine ⟨?_, solid⟩
    cases step with
    | arrow => exact absurd rfl (clear.plain _ List.mem_cons_self)
    | counted len =>
      obtain ⟨known, apart⟩ := clear.counted (p, .counted len) rfl len rfl
      refine ⟨?_, fun _ _ => later.1⟩
      simp [boundValue, apart, known]
    | fixed extent => exact ⟨rfl, fun _ _ => later.1⟩
    | dot => exact fun _ _ => later.1

/-- The end of an access path is in scope there. -/
theorem Leads.target_mem {const : XrParam → Bool} {top : Bool} {p : XrParam} {scope : List XrParam}
    (leads : Leads b const top p access) (member : p ∈ scope) :
    access.target ∈ scopeAt b scope access.steps := by
  induction leads generalizing scope with
  | here top p => exact member
  | through followed found child_mem rest ih =>
    show _ ∈ scopeAt b scope (_ :: _)
    rw [scopeAt, found]
    exact ih child_mem

/-- What is modifiable has a kind that can be serialized, if it is taken for what it is. -/
theorem Consistent.kind {top : Bool} {p : XrParam} (consistent : Consistent b top p)
    (modifiable : modifies top p = true) :
    p.pointer.isSome = true ∨ p.array.isSome = true ∧ b.isHeader p.type = false := by
  rw [modifies, Bool.and_eq_true] at modifiable
  obtain ⟨nonconst, shape⟩ := modifiable
  cases pointer : p.pointer with
  | some text => exact .inl rfl
  | none =>
    right
    have array : p.array.isSome = true := by
      rw [pointer] at shape
      rw [Option.isSome_none, Bool.false_or, Bool.and_eq_true] at shape
      exact shape.2
    refine ⟨array, ?_⟩
    by_contra header
    have const := consistent.header pointer (by simpa using header)
    rw [consistent.spelled shape] at const
    rw [const] at nonconst
    cases nonconst

/-- The binding of a clear access path denotes what lies at it. -/
theorem Clear.denotes (different : (params.map XrParam.name).Nodup) {p : XrParam}
    (member : p ∈ params) (leads : Leads b declaredConst true p access)
    (consistent : Consistent b access.steps.isEmpty access.target)
    (modifiable : modifies access.steps.isEmpty access.target = true)
    (clear : Clear b params access) : Denotes b params (render b [] [] access) access := by
  rw [render_eq]
  constructor
  · exact saved_expression
  · exact saved_param
  · intro args
    rw [saved_loops]
    exact clear.bounds.1
  · intro args
    obtain ⟨bounds, solid⟩ := @Clear.bounds b params args access clear
    have start : evalPrefix b args [] params [] [] = some (params, []) := rfl
    rw [serializeBinding, saved_loops]
    apply runLoops_eq leads different member _ start _ _ (Nat.zero_add _) bounds solid
    · intro env here vars evaluated
      rw [saved_expression] at evaluated
      apply serializeCall_eq evaluated (leads.target_mem member) _ _ (consistent.kind modifiable)
        clear.measured
      · intro entry there
        have root :
            Expression.root { path := prefixFrom 0 access.steps, name := access.target.name } =
            access.root.name := expression_root
        rw [root]
        exact clear.visible entry.1 (vars entry there)
      · intro nothing
        have none : access.steps = [] := by
          cases steps : access.steps with
          | nil => rfl
          | cons first rest =>
            rw [steps] at nothing
            cases nothing
        rw [none] at vars
        exact List.eq_nil_iff_forall_not_mem.mpr fun entry there =>
          Nat.not_lt_zero _ (vars entry there)
    · rw [saved_expression]
      rfl
    · exact fun _ there => nomatch there
    · exact fun _ there => nomatch there

end Denoting

section Finding

variable {access : Access} {p : XrParam} {top : Bool}

/-- What is taken for what it is, is saved exactly if it is modifiable. -/
theorem Consistent.saves_eq (consistent : Consistent b top p) :
    saves b top p = modifies top p := by
  by_cases shape : (p.pointer.isSome || (top && p.array.isSome)) = true
  · rw [saves, modifies, consistent.spelled shape, shape, Bool.or_assoc, shape, Bool.or_true]
  · have plain : p.pointer = none := by
      cases pointer : p.pointer with
      | none => rfl
      | some text => simp [pointer] at shape
    have flat : (p.pointer.isSome || (top && p.array.isSome)) = false := by simpa using shape
    have next : isNextPtr p = false := by simp [isNextPtr, plain]
    rw [saves, modifies, Bool.or_assoc, flat, next, Bool.false_or, Bool.or_false, Bool.and_false]
    cases header : b.isHeader p.type with
    | false => exact Bool.and_false _
    | true => rw [consistent.header plain header]; rfl

/-- Then it is also followed for what it is. -/
theorem Consistent.follow_eq (consistent : Consistent b top p) :
    follow b spelledConst top p = follow b declaredConst top p := by
  rw [follow, follow]
  split
  · rfl
  · cases pointer : p.pointer with
    | some text =>
      have same := consistent.spelled (by rw [pointer]; rfl)
      rw [same]
    | none =>
      cases array : p.array with
      | none => rfl
      | some extent =>
        cases top with
        | false => rfl
        | true =>
          have same := consistent.spelled (by rw [pointer, array]; rfl)
          rw [same]

/-- Where everything is taken for what it is, the access paths are the same. -/
theorem leads_of_consistent (consistent : ∀ access, Leads b declaredConst top p access →
      Consistent b (top && access.steps.isEmpty) access.target) :
    Leads b spelledConst top p access ↔ Leads b declaredConst top p access := by
  have itself {top : Bool} {p : XrParam}
      (consistent : ∀ access, Leads b declaredConst top p access →
      Consistent b (top && access.steps.isEmpty) access.target) : Consistent b top p := by
    have here := consistent _ (.here top p)
    rwa [List.isEmpty_nil, Bool.and_true] at here
  constructor
  · intro leads
    induction leads with
    | here top p => exact .here top p
    | through followed found child_mem rest ih =>
      have declared := (itself consistent).follow_eq.symm.trans followed
      apply Leads.through declared found child_mem
      apply ih
      intro access leads
      rw [Bool.false_and]
      have further := consistent _ (.through declared found child_mem leads)
      rwa [Access.after, List.isEmpty_cons, Bool.and_false] at further
  · intro leads
    induction leads with
    | here top p => exact .here top p
    | through followed found child_mem rest ih =>
      apply Leads.through ((itself consistent).follow_eq.trans followed) found child_mem
      apply ih
      intro access leads
      rw [Bool.false_and]
      have further := consistent _ (.through followed found child_mem leads)
      rwa [Access.after, List.isEmpty_cons, Bool.and_false] at further

/-- The rest of an access path is one from a member. -/
theorem Leads.rest {const : XrParam → Bool} {step : Step} {child : XrParam}
    (leads : Leads b const top p (access.after (p, step))) (root : access.root = child) :
    Leads b const false child access := by
  generalize whole : access.after (p, step) = path at leads
  cases leads with
  | here => cases whole
  | @through _ _ other _ _ tail followed found child_mem rest =>
    obtain ⟨steps, target⟩ := access
    obtain ⟨steps', target'⟩ := tail
    simp only [Access.after, Access.mk.injEq, List.cons.injEq] at whole
    obtain ⟨⟨-, rfl⟩, rfl⟩ := whole
    rw [← root, rest.root]
    exact rest

/-- If the same access paths end at something saved and at something modifiable, then everything on
the way is taken for what it is, but for array parameters of base structs. -/
theorem consistent_of_same (leads : Leads b declaredConst top p access)
    (same : ∀ access, Leads b spelledConst top p access ∧
        saves b (top && access.steps.isEmpty) access.target = true ↔
      Leads b declaredConst top p access ∧
        modifies (top && access.steps.isEmpty) access.target = true)
    (inner : ∀ access, Leads b spelledConst top p access →
      saves b (top && access.steps.isEmpty) access.target = true →
        access.target.pointer = none → b.isHeader access.target.type = false) :
    Consistent b (top && access.steps.isEmpty) access.target := by
  have itself {top : Bool} {p : XrParam}
      (same : ∀ access, Leads b spelledConst top p access ∧
          saves b (top && access.steps.isEmpty) access.target = true ↔
        Leads b declaredConst top p access ∧
          modifies (top && access.steps.isEmpty) access.target = true)
      (inner : ∀ access, Leads b spelledConst top p access →
        saves b (top && access.steps.isEmpty) access.target = true →
          access.target.pointer = none → b.isHeader access.target.type = false) :
      Consistent b top p := by
    have agree := same ⟨[], p⟩
    rw [List.isEmpty_nil, Bool.and_true, and_iff_right (.here top p),
      and_iff_right (.here top p)] at agree
    have proper := inner ⟨[], p⟩ (.here top p)
    rw [List.isEmpty_nil, Bool.and_true] at proper
    constructor
    · intro shape
      have both : saves b top p = !spelledConst p := by
        rw [saves, Bool.or_assoc, shape, Bool.or_true, Bool.and_true]
      have right : modifies top p = !declaredConst p := by
        rw [modifies, shape, Bool.and_true]
      rw [both, right] at agree
      exact Bool.not_inj (Bool.eq_iff_iff.mpr agree)
    · intro plain header
      by_contra other
      have nonconst : spelledConst p = false := by simpa using other
      have kept : saves b top p = true := by
        rw [saves, nonconst, header, Bool.or_true, Bool.true_or, Bool.true_or]
        rfl
      have none := proper kept plain
      rw [none] at header
      cases header
  induction leads with
  | here top p =>
    rw [List.isEmpty_nil, Bool.and_true]
    exact itself same inner
  | @through top p child step struct access followed found child_mem rest ih =>
    have spelled := (itself same inner).follow_eq.trans followed
    rw [Access.after, List.isEmpty_cons, Bool.and_false]
    rw [Bool.false_and] at ih
    apply ih
    · intro other
      have whole := same (other.after (p, step))
      rw [Access.after, List.isEmpty_cons, Bool.and_false] at whole
      rw [Bool.false_and]
      constructor
      · rintro ⟨leads, kept⟩
        obtain ⟨back, modifiable⟩ :=
          whole.mp ⟨.through spelled found child_mem leads, kept⟩
        exact ⟨Leads.rest back leads.root, modifiable⟩
      · rintro ⟨leads, modifiable⟩
        obtain ⟨back, kept⟩ := whole.mpr ⟨.through followed found child_mem leads, modifiable⟩
        exact ⟨Leads.rest back leads.root, kept⟩
    · intro other leads kept
      have whole := inner (other.after (p, step)) (.through spelled found child_mem leads)
      rw [Access.after, List.isEmpty_cons, Bool.and_false] at whole
      rw [Bool.false_and] at kept
      exact whole kept

end Finding

section Needing

variable {args : Arguments} {access : Access} {p : XrParam}

/-- Every object holds `1` for its numbers, every parameter `2`, and no pointer is null. -/
def apartArguments : Arguments where
  number := fun location => if location.inside = [] then 2 else 1
  null := fun _ => false

/-- Every number is `1`. -/
def oneArguments (null : Bool) : Arguments where
  number := fun _ => 1
  null := fun _ => null

/-- Inside an object, no loop of an access path is bounded by a bare name that is right. -/
theorem uncounted_of_bounds (extents : ∀ extent, 0 < b.extent extent)
    {steps : List (XrParam × Step)} {loops : Nat} {env : Env} {here : Place} (inside : here ≠ [])
    (zero : ∀ entry ∈ env, entry.2 = 0)
    (bounds : BoundsRight b params apartArguments (loopsFrom loops steps) env here steps) :
    ∀ entry ∈ steps, ∀ len, entry.2 ≠ .counted len := by
  induction steps generalizing loops env here with
  | nil => exact fun _ there => nomatch there
  | cons first rest ih =>
    obtain ⟨p, step⟩ := first
    have later {loops : Nat} {env : Env} (zero : ∀ entry ∈ env, entry.2 = 0)
        (bounds : BoundsRight b params apartArguments (loopsFrom loops rest) env
          (here ++ [(p.name, 0)]) rest) := ih (by simp) zero bounds
    have zero' : ∀ entry ∈ (loops, 0) :: env, entry.2 = 0 := by
      intro entry there
      rcases List.mem_cons.mp there with rfl | old
      · rfl
      · exact zero entry old
    cases step with
    | arrow =>
      have rest := later zero (bounds 0 (List.mem_singleton_self 0))
      exact List.forall_mem_cons.mpr ⟨fun _ => Step.noConfusion, rest⟩
    | counted len =>
      exfalso
      have right : boundValue b params apartArguments ((loops, 0) :: env) (.name len) =
          some (if here = [] then 2 else 1) := bounds.1
      rw [if_neg inside, boundValue] at right
      split at right
      next entry found =>
        rw [zero' entry (List.mem_of_find?_eq_some found)] at right
        cases right
      · split at right
        · have two : (2 : Nat) = 1 := Option.some.inj right
          cases two
        · cases right
    | fixed extent =>
      have rest := later zero' (bounds.2 0 (List.mem_range.mpr (extents extent)))
      exact List.forall_mem_cons.mpr ⟨fun _ => Step.noConfusion, rest⟩
    | dot =>
      have rest := later zero (bounds 0 (List.mem_singleton_self 0))
      exact List.forall_mem_cons.mpr ⟨fun _ => Step.noConfusion, rest⟩

/-- So only a parameter is followed as a counted pointer. -/
theorem outer_of_bounds (extents : ∀ extent, 0 < b.extent extent)
    {steps : List (XrParam × Step)}
    (bounds : BoundsRight b params apartArguments (loopsFrom 0 steps) [] [] steps) :
    ∀ entry ∈ steps.tail, ∀ len, entry.2 ≠ .counted len := by
  cases steps with
  | nil => exact fun _ there => nomatch there
  | cons first rest =>
    obtain ⟨p, step⟩ := first
    have inside : [] ++ [(p.name, 0)] ≠ ([] : Place) := List.cons_ne_nil _ _
    have zero : ∀ entry ∈ [(0, 0)], (entry : Nat × Nat).2 = 0 := by decide
    have empty : ∀ entry ∈ ([] : Env), entry.2 = 0 := List.forall_mem_nil _
    cases step with
    | arrow =>
      exact uncounted_of_bounds extents inside empty (bounds 0 (List.mem_singleton_self 0))
    | counted len =>
      exact uncounted_of_bounds extents inside zero
        (bounds.2 0 (List.mem_range.mpr Nat.zero_lt_two))
    | fixed extent =>
      exact uncounted_of_bounds extents inside zero
        (bounds.2 0 (List.mem_range.mpr (extents extent)))
    | dot =>
      exact uncounted_of_bounds extents inside empty (bounds 0 (List.mem_singleton_self 0))

/-- The length of a counted parameter has to be in scope. -/
theorem counted_of_bounds {steps : List (XrParam × Step)}
    (bounds : BoundsRight b params apartArguments (loopsFrom 0 steps) [] [] steps) :
    ∀ entry ∈ steps.head?, ∀ len, entry.2 = .counted len →
      len ∈ params.map XrParam.name ∧ loopName 0 ≠ len := by
  cases steps with
  | nil => exact fun _ there => nomatch there
  | cons first rest =>
    rintro ⟨p, step⟩ there len rfl
    obtain rfl := Option.some.inj there
    have right : boundValue b params apartArguments [(0, 0)] (.name len) = some 2 := bounds.1
    rw [boundValue] at right
    split at right
    next entry found =>
      have own : entry = (0, 0) := List.mem_singleton.mp (List.mem_of_find?_eq_some found)
      rw [own] at right
      cases right
    next hidden =>
      split at right
      next known => exact ⟨known, by simpa using hidden⟩
      · cases right

/-- Loops over fixed arrays come to their body. -/
theorem runLoops_reaches (extents : ∀ extent, 0 < b.extent extent)
    {body : Env → Option (List (Location × Amount))} {loops : List BindingLoop} {env : Env}
    {result : List (Location × Amount)}
    (fixed : ∀ loop ∈ loops, loop.base = 0 ∧ ∃ extent, loop.bound = .extent extent)
    (ran : runLoops b params args body loops env = some result) :
    ∃ env', (body env').isSome = true ∧ (∀ entry ∈ env, entry ∈ env') ∧
      ∀ loop ∈ loops, ∃ value, (loop.var, value) ∈ env' := by
  induction loops generalizing env result with
  | nil =>
    rw [runLoops] at ran
    exact ⟨env, by rw [ran]; rfl, fun _ there => there,
      fun _ there => absurd there List.not_mem_nil⟩
  | cons loop rest ih =>
    obtain ⟨⟨base, extent, bound⟩, others⟩ := List.forall_mem_cons.mp fixed
    rw [runLoops, bound] at ran
    simp only [boundValue, base, Nat.sub_zero] at ran
    obtain ⟨count, positive⟩ := Nat.exists_eq_succ_of_ne_zero (Nat.ne_of_gt (extents extent))
    rw [positive, List.range'_succ, List.mapM_cons] at ran
    cases first : runLoops b params args body rest ((loop.var, 0) :: env) with
    | none =>
      rw [first] at ran
      cases ran
    | some part =>
      obtain ⟨env', reached, kept, vars⟩ := ih others first
      refine ⟨env', reached, ?_, ?_⟩
      · exact fun entry there => kept entry (List.mem_cons_of_mem _ there)
      · exact List.forall_mem_cons.mpr ⟨⟨0, kept _ List.mem_cons_self⟩, vars⟩

/-- So do the loops of an access path whose counted pointers are as they should be. -/
theorem runLoops_reaches_path (extents : ∀ extent, 0 < b.extent extent) {null : Bool}
    {body : Env → Option (List (Location × Amount))} {steps : List (XrParam × Step)}
    {result : List (Location × Amount)}
    (outer : ∀ entry ∈ steps.tail, ∀ len, entry.2 ≠ .counted len)
    (counted : ∀ entry ∈ steps.head?, ∀ len, entry.2 = .counted len →
      len ∈ params.map XrParam.name ∧ loopName 0 ≠ len)
    (ran : runLoops b params (oneArguments null) body (loopsFrom 0 steps) [] = some result) :
    ∃ env', (body env').isSome = true ∧
      ∀ loop < (loopsFrom 0 steps).length, ∃ value, (loop, value) ∈ env' := by
  have vars {env' : Env}
      (all : ∀ loop ∈ loopsFrom 0 steps, ∃ value, (loop.var, value) ∈ env') :
      ∀ loop < (loopsFrom 0 steps).length, ∃ value, (loop, value) ∈ env' := by
    intro loop below
    have listed : loop ∈ (loopsFrom 0 steps).map BindingLoop.var := by
      rw [loopsFrom_vars, List.mem_range'_1]
      exact ⟨Nat.zero_le _, by rwa [Nat.zero_add]⟩
    obtain ⟨found, member, rfl⟩ := List.mem_map.mp listed
    exact all found member
  by_cases fixed : ∀ entry ∈ steps, ∀ len, entry.2 ≠ .counted len
  · obtain ⟨env', reached, -, all⟩ := runLoops_reaches extents (loopsFrom_extents fixed) ran
    exact ⟨env', reached, vars all⟩
  · cases steps with
    | nil => exact absurd (fun _ there => nomatch there) fixed
    | cons first rest =>
      obtain ⟨p, step⟩ := first
      cases step with
      | counted len =>
        obtain ⟨known, apart⟩ := counted (p, .counted len) rfl len rfl
        have right : boundValue b params (oneArguments null) [(0, 0)] (.name len) = some 1 := by
          simp [boundValue, apart, known, oneArguments]
        change runLoops b params (oneArguments null) body
          ({ base := 0, bound := .name len, var := 0 } :: loopsFrom 1 rest) [] = some result at ran
        rw [runLoops] at ran
        simp only [right, Nat.sub_zero, List.range'_one] at ran
        rw [List.mapM_cons] at ran
        cases once : runLoops b params (oneArguments null) body (loopsFrom 1 rest) [(0, 0)] with
        | none =>
          rw [once] at ran
          cases ran
        | some part =>
          obtain ⟨env', reached, kept, all⟩ :=
            runLoops_reaches extents (loopsFrom_extents outer) once
          refine ⟨env', reached, vars ?_⟩
          show ∀ loop ∈ { base := 0, bound := .name len, var := 0 } :: loopsFrom 1 rest, _
          exact List.forall_mem_cons.mpr ⟨⟨0, kept _ (List.mem_singleton_self _)⟩, all⟩
      | arrow =>
        exact absurd (List.forall_mem_cons.mpr ⟨fun _ => Step.noConfusion, outer⟩) fixed
      | fixed extent =>
        exact absurd (List.forall_mem_cons.mpr ⟨fun _ => Step.noConfusion, outer⟩) fixed
      | dot =>
        exact absurd (List.forall_mem_cons.mpr ⟨fun _ => Step.noConfusion, outer⟩) fixed

/-- No prefix through a null pointer leads anywhere. -/
theorem evalPrefix_null {path : BindingPrefix} {env : Env} {scope : List XrParam} {here : Place}
    (null : ∀ location, args.null location = true) (arrow : ∃ entry ∈ path, entry.2 = .arrow) :
    evalPrefix b args env scope here path = none := by
  induction path generalizing scope here with
  | nil =>
    obtain ⟨entry, there, -⟩ := arrow
    cases there
  | cons first rest ih =>
    obtain ⟨name, accessor⟩ := first
    rw [evalPrefix]
    split
    · rfl
    next p _ =>
      by_cases here : accessor = .arrow
      · subst here
        have nowhere : accessIndex b args env here p .arrow = none := by
          rw [accessIndex, null, Bool.not_true, Bool.and_false]
          rfl
        rw [nowhere]
      · have later : ∃ entry ∈ rest, entry.2 = .arrow := by
          obtain ⟨entry, there, same⟩ := arrow
          rcases List.mem_cons.mp there with rfl | inRest
          · exact absurd same here
          · exact ⟨entry, inRest, same⟩
        split
        · exact ih later
        · rfl

/-- A single pointer that is followed makes an arrow. -/
theorem arrow_mem_prefixFrom {steps : List (XrParam × Step)} {loops : Nat}
    (arrow : ∃ entry ∈ steps, entry.2 = .arrow) :
    ∃ entry ∈ prefixFrom loops steps, entry.2 = .arrow := by
  induction steps generalizing loops with
  | nil =>
    obtain ⟨entry, there, -⟩ := arrow
    cases there
  | cons first rest ih =>
    obtain ⟨p, step⟩ := first
    obtain ⟨entry, there, same⟩ := arrow
    rcases List.mem_cons.mp there with rfl | inRest
    · cases same
      exact ⟨_, List.mem_cons_self, rfl⟩
    · obtain ⟨entry, there, same⟩ := ih ⟨entry, inRest, same⟩
      exact ⟨entry, List.mem_cons_of_mem _ there, same⟩

/-- The scope at the end of an access path is that of its last step. -/
theorem evalPrefix_scope {const : XrParam → Bool} {top : Bool} {scope scope' : List XrParam}
    {here here' : Place} {env : Env} {loops : Nat} (leads : Leads b const top p access)
    (different : (scope.map XrParam.name).Nodup) (member : p ∈ scope)
    (evaluated : evalPrefix b args env scope here (prefixFrom loops access.steps) =
      some (scope', here')) : scope' = scopeAt b scope access.steps := by
  induction leads generalizing scope here loops with
  | here top p =>
    cases evaluated
    rfl
  | through followed found child_mem rest ih =>
    simp only [Access.after, prefixFrom, evalPrefix, find_name different member, found]
      at evaluated
    split at evaluated
    next index struct indexed same =>
      obtain rfl := Option.some.inj same
      show _ = scopeAt b scope (_ :: _)
      rw [scopeAt, found]
      exact ih (members_names found) child_mem evaluated
    · cases evaluated

end Needing

section Settling

variable {args : Arguments} {access : Access} {p : XrParam}

/-- A call that serializes something has its names in scope. -/
theorem serializeCall_located {path : BindingPrefix} {target : XrParam} {loops : List BindingLoop}
    {env : Env}
    (called : (serializeCall b params args (saved b path target loops) env).isSome = true) :
    ∃ scope here, evalPrefix b args env params [] path = some (scope, here) ∧
      (∀ entry ∈ env, loopName entry.1 ≠ Expression.root { path := path, name := target.name }) ∧
      (target.pointer.isSome = true → ∀ len ∈ target.len,
        (isNextPtr target && !b.isHeader target.type) = false →
          len ∈ scope.map XrParam.name) := by
  have located {e : Expression} {location : Location}
      (found : locate b params args env e = some location) :
      (∀ entry ∈ env, loopName entry.1 ≠ e.root) ∧
        ∃ scope here, evalPrefix b args env params [] e.path = some (scope, here) ∧
          e.name ∈ scope.map XrParam.name := by
    rw [locate] at found
    split at found
    · cases found
    next visible =>
      refine ⟨fun entry there same => visible ⟨entry, there, same⟩, ?_⟩
      split at found
      · cases found
      next scope here evaluated =>
        split at found
        next known => exact ⟨scope, here, evaluated, known⟩
        · cases found
  rw [serializeCall, saved_expression] at called
  cases found : locate b params args env { path := path, name := target.name } with
  | none =>
    rw [found] at called
    cases called
  | some location =>
    obtain ⟨visible, scope, here, evaluated, -⟩ := located found
    refine ⟨scope, here, evaluated, visible, ?_⟩
    intro pointer len counted chained
    obtain ⟨text, pointed⟩ := Option.isSome_iff_exists.mp pointer
    have length : (locate b params args env { path := path, name := len }).isSome = true := by
      rw [found] at called
      unfold saved at called
      dsimp only at called
      rw [pointed, Option.mem_def.mp counted] at called
      cases header : b.isHeader target.type with
      | true => simpa [header] using called
      | false =>
        rw [header, Bool.not_false, Bool.and_true] at chained
        simpa [header, chained] using called
    obtain ⟨place, lengthFound⟩ := Option.isSome_iff_exists.mp length
    obtain ⟨-, scope', here', evaluated', known⟩ := located lengthFound
    rw [evaluated] at evaluated'
    cases evaluated'
    exact known

/-- An access path is clear if its binding denotes what lies at it. -/
theorem Denotes.clear (extents : ∀ extent, 0 < b.extent extent)
    (different : (params.map XrParam.name).Nodup) {const : XrParam → Bool} {top : Bool}
    (member : p ∈ params) (leads : Leads b const top p access)
    (denotes : Denotes b params (render b [] [] access) access) : Clear b params access := by
  rw [render_eq] at denotes
  have bounds := denotes.bounds apartArguments
  rw [saved_loops] at bounds
  have outer := outer_of_bounds extents bounds
  have counted := counted_of_bounds bounds
  have reached (null : Bool) : ∃ env scope here,
      evalPrefix b (oneArguments null) env params [] (prefixFrom 0 access.steps) =
          some (scope, here) ∧
        (∀ entry ∈ env, loopName entry.1 ≠ access.root.name) ∧
        (access.target.pointer.isSome = true → ∀ len ∈ access.target.len,
          (isNextPtr access.target && !b.isHeader access.target.type) = false →
            len ∈ scope.map XrParam.name) ∧
        ∀ loop < (loopsFrom 0 access.steps).length, ∃ value, (loop, value) ∈ env := by
    have ran := denotes.elements (oneArguments null)
    rw [serializeBinding, saved_loops] at ran
    obtain ⟨env, called, vars⟩ := runLoops_reaches_path extents outer counted ran
    obtain ⟨scope, here, evaluated, visible, measured⟩ := serializeCall_located called
    have root : Expression.root { path := prefixFrom 0 access.steps, name := access.target.name } =
        access.root.name := expression_root
    rw [root] at visible
    exact ⟨env, scope, here, evaluated, visible, measured, vars⟩
  constructor
  · intro entry there arrow
    obtain ⟨env, scope, here, evaluated, -⟩ := reached true
    rw [evalPrefix_null (fun _ => rfl) (arrow_mem_prefixFrom ⟨entry, there, arrow⟩)] at evaluated
    cases evaluated
  · exact outer
  · exact counted
  · intro loop below
    obtain ⟨env, scope, here, -, visible, -, vars⟩ := reached false
    obtain ⟨value, there⟩ := vars loop below
    exact visible (loop, value) there
  · obtain ⟨env, scope, here, evaluated, -, measured, -⟩ := reached false
    rw [evalPrefix_scope leads different member evaluated] at measured
    exact measured

/-- The binding of an array parameter of base structs does not denote the array. -/
theorem Denotes.inner (denotes : Denotes b params (render b [] [] access) access)
    (modifiable : modifies access.steps.isEmpty access.target = true)
    (plain : access.target.pointer = none) : b.isHeader access.target.type = false := by
  obtain ⟨steps, target⟩ := access
  rw [modifies, plain, Option.isSome_none, Bool.false_or, Bool.and_eq_true, Bool.and_eq_true]
    at modifiable
  obtain ⟨-, top, array⟩ := modifiable
  obtain rfl := List.isEmpty_iff.mp top
  obtain ⟨extent, extended⟩ := Option.isSome_iff_exists.mp array
  have plain : target.pointer = none := plain
  have extended : target.array = some extent := extended
  by_contra header
  have based : b.isHeader target.type = true := by simpa using header
  have serialized := denotes.elements (oneArguments false)
  rw [render_eq, serializeBinding, saved_loops] at serialized
  have amounts : elementsFrom b (oneArguments false) target [] [] =
      [(⟨[], target.name⟩, .elements (b.extent extent))] := by
    rw [elementsFrom, amount, plain, extended]
  have called : serializeCall b params (oneArguments false) (saved b [] target []) [] =
      some [(⟨[], target.name⟩, .elements (b.extent extent))] := serialized.trans (by rw [amounts])
  rw [serializeCall, saved_expression] at called
  unfold saved at called
  rw [based, plain, Bool.or_true, if_pos rfl] at called
  split at called
  · cases called
  · simp at called

/-- Lists that are related only where they are equal are equal. -/
theorem eq_of_forall₂ {α : Type} {related : α → α → Prop} {first second : List α}
    (pairs : List.Forall₂ related first second)
    (equal : ∀ one ∈ first, ∀ other ∈ second, related one other → one = other) :
    first = second := by
  induction pairs with
  | nil => rfl
  | cons head tail ih =>
    rw [equal _ List.mem_cons_self _ List.mem_cons_self head,
      ih fun one there other there' =>
        equal one (List.mem_cons_of_mem _ there) other (List.mem_cons_of_mem _ there')]

/-- The walk returns what the function can modify and the bindings denote it, exactly if it saves
just that and every binding denotes what lies at its access path. -/
theorem exact_bindings_iff {rank : String → Nat} (acyclic : Acyclic b rank)
    (different : (params.map XrParam.name).Nodup) :
    (∃ bindings, (∃ least, ∀ fuel ≥ least,
        collectModifiableBindings b fuel params = some bindings) ∧ Exact b params bindings) ↔
      (∀ access, Saved b params access ↔ Modifiable b params access) ∧
        ∀ access, Modifiable b params access →
          Denotes b params (render b [] [] access) access := by
  obtain ⟨paths, least, collected, nodup, listed⟩ := collectModifiableBindings_eq acyclic different
  constructor
  · rintro ⟨bindings, ⟨enough, returned⟩, paths', -, listed', denoted⟩
    have same : bindings = paths.map (render b [] []) := by
      have first := returned (max enough least) (Nat.le_max_left _ _)
      rw [collected _ (Nat.le_max_right _ _)] at first
      exact (Option.some.inj first).symm
    rw [same, List.forall₂_map_left_iff] at denoted
    have equal : paths = paths' := by
      apply eq_of_forall₂ denoted
      intro one there other there' denotes
      obtain ⟨p, member, leads, -⟩ := (listed one).mp there
      obtain ⟨q, member', leads', -⟩ := (listed' other).mp there'
      have expression := denotes.expression
      have target := denotes.param
      rw [render_eq, saved_expression] at expression
      rw [render_eq, saved_param] at target
      exact leads.unique leads' different member member'
        (congrArg Expression.path expression) target
    rw [← equal] at denoted listed'
    rw [List.forall₂_same] at denoted
    exact ⟨fun access => (listed access).symm.trans (listed' access),
      fun access modifiable => denoted access ((listed' access).mpr modifiable)⟩
  · rintro ⟨agree, denoted⟩
    refine ⟨paths.map (render b [] []), ⟨least, collected⟩, paths, nodup,
      fun access => (listed access).trans (agree access), ?_⟩
    rw [List.forall₂_map_left_iff, List.forall₂_same]
    intro access there
    exact denoted access ((agree access).mp ((listed access).mp there))

/-- For every acyclic set of struct definitions and every parameter list: the walk returns what the
function can modify, each once, and for all arguments the bindings denote it, exactly if const is
spelled as the walk expects, no base struct lies in place, the way to what can be modified leads
through no single pointer and through no counted pointer that is a member, and the names involved
are in scope. -/
theorem modifiable_bindings_exact_iff {rank : String → Nat} (acyclic : Acyclic b rank)
    (different : (params.map XrParam.name).Nodup) (extents : ∀ extent, 0 < b.extent extent) :
    (∃ bindings, (∃ least, ∀ fuel ≥ least,
        collectModifiableBindings b fuel params = some bindings) ∧ Exact b params bindings) ↔
      Bindable b params := by
  rw [exact_bindings_iff acyclic different]
  constructor
  · rintro ⟨agree, denoted⟩
    constructor
    · intro p member access leads
      have consistent := @consistent_of_same b access p true leads ?_ ?_
      · rwa [Bool.true_and] at consistent
      · intro other
        rw [Bool.true_and]
        constructor
        · rintro ⟨spelled, kept⟩
          obtain ⟨q, member', leads', modifiable⟩ := (agree other).mp ⟨p, member, spelled, kept⟩
          rw [← spelled.root, leads'.root]
          exact ⟨leads', modifiable⟩
        · rintro ⟨declared, modifiable⟩
          obtain ⟨q, member', leads', kept⟩ := (agree other).mpr ⟨p, member, declared, modifiable⟩
          rw [← declared.root, leads'.root]
          exact ⟨leads', kept⟩
      · intro other spelled kept plain
        rw [Bool.true_and] at kept
        have modifiable := (agree other).mp ⟨p, member, spelled, kept⟩
        have ⟨_, _, _, ends⟩ := modifiable
        exact (denoted other modifiable).inner ends plain
    · intro access modifiable
      have ⟨p, member, leads, _⟩ := modifiable
      exact (denoted access modifiable).clear extents different member leads
  · intro bindable
    constructor
    · intro access
      constructor
      · rintro ⟨p, member, leads, kept⟩
        have consistent := bindable.consistent p member
        have same := @leads_of_consistent b access p true (by simpa using consistent)
        have declared := same.mp leads
        rw [(consistent access declared).saves_eq] at kept
        exact ⟨p, member, declared, kept⟩
      · rintro ⟨p, member, leads, modifiable⟩
        have consistent := bindable.consistent p member
        rw [← (consistent access leads).saves_eq] at modifiable
        have same := @leads_of_consistent b access p true (by simpa using consistent)
        exact ⟨p, member, same.mpr leads, modifiable⟩
    · intro access modifiable
      have ⟨p, member, leads, ends⟩ := modifiable
      exact (bindable.clear access modifiable).denotes different member leads
        (bindable.consistent p member access leads) ends

end Settling

section Shapes

/-- A struct with a pointer that is not const. -/
def slotStruct : XrStruct where
  name := "XrSlot"
  members := [{ type := "float", pointer := some "*", name := "value" }]

/-- A struct with an array of slots behind a const pointer. -/
def tableStruct : XrStruct where
  name := "XrTable"
  members := [
    { type := "uint32_t", name := "count" },
    { qualifier := some "const", type := "XrSlot", pointer := some "*", name := "slots"
      len := some "count" }]

/-- A registry of these structs. -/
def tableBuild : Build where
  structs := [slotStruct, tableStruct]
  extensions := [(none, [slotStruct, tableStruct])]
  enabled _ := false
  sizeOf _ := 4
  extent _ := 1
  nesting type := if type = "XrSlot" ∨ type = "XrTable" then 1 else 0
  nested := by decide
  distinct := by simp [slotStruct, tableStruct]
  typed := by simp [slotStruct, tableStruct, typeUnknown]

/-- Slots lie below tables. -/
def tableRank (type : String) : Nat := if type = "XrTable" then 1 else 0

/-- No struct of it contains itself. -/
theorem tableBuild_acyclic : Acyclic tableBuild tableRank := by
  unfold Acyclic
  decide

/-- The parameters of a function that takes slots. -/
def slotParams : List XrParam := [
  { type := "uint32_t", name := "count" },
  { qualifier := some "const", type := "XrSlot", pointer := some "*", name := "slots"
    len := some "count" }]

/-- The parameters of a function that takes a table. -/
def tableParams : List XrParam :=
  [{ qualifier := some "const", type := "XrTable", pointer := some "*", name := "table" }]

/-- The only access path of slots to something modifiable goes through the parameter. -/
theorem leads_slots {access : Access} {p : XrParam} (member : p ∈ slotParams)
    (leads : Leads tableBuild declaredConst true p access) :
    (access.steps = [] ∧ access.target ∈ slotParams) ∨
      access = ⟨[(slotParams[1], .counted "count")], slotStruct.members[0]⟩ := by
  cases leads with
  | here => exact .inl ⟨rfl, member⟩
  | @through _ _ child step struct rest followed found child_mem below =>
    right
    have atSlots : p = slotParams[1] := by
      rcases List.mem_cons.mp member with rfl | inRest
      · cases found
      · exact List.mem_singleton.mp inRest
    subst atSlots
    have counted :
        follow tableBuild declaredConst true slotParams[1] = some (.counted "count") := by
      decide
    have struct_eq : tableBuild.findStruct slotParams[1].type = some slotStruct := by decide
    rw [counted] at followed
    rw [struct_eq] at found
    cases followed
    cases found
    obtain rfl := List.mem_singleton.mp child_mem
    cases below with
    | here => rfl
    | through followed' found' =>
      have nothing : tableBuild.findStruct "float" = none := by decide
      rw [nothing] at found'
      cases found'

/-- The bindings of a function that takes slots are complete and exact. -/
theorem slotParams_exact :
    ∃ bindings, (∃ least, ∀ fuel ≥ least,
        collectModifiableBindings tableBuild fuel slotParams = some bindings) ∧
      Exact tableBuild slotParams bindings := by
  apply (modifiable_bindings_exact_iff tableBuild_acyclic (by decide)
    (fun _ => Nat.one_pos)).mpr
  constructor
  · intro p member access leads
    have each : ∀ q ∈ slotParams, Consistent tableBuild true q := by
      intro q known
      rcases List.mem_cons.mp known with rfl | inRest
      · exact ⟨by decide, by decide⟩
      · obtain rfl := List.mem_singleton.mp inRest
        exact ⟨by decide, by decide⟩
    rcases leads_slots member leads with ⟨ends, known⟩ | rfl
    · rw [ends]
      exact each access.target known
    · exact ⟨by decide, by decide⟩
  · rintro access ⟨p, member, leads, modifiable⟩
    rcases leads_slots member leads with ⟨ends, known⟩ | rfl
    · have unmodified : ∀ q ∈ slotParams, modifies true q = false := by decide
      rw [ends, List.isEmpty_nil, unmodified access.target known] at modifiable
      cases modifiable
    · constructor
      · decide
      · exact fun _ there => nomatch there
      · rintro entry there len counted
        cases there
        cases counted
        decide
      · decide
      · decide

/-- The loop over the slots of a table is bounded by `count`, which is no variable of the function.
-/
theorem nested_bound_out_of_scope :
    ¬∀ (b : Build) (rank : String → Nat) (params : List XrParam), Acyclic b rank →
      (params.map XrParam.name).Nodup → (∀ extent, 0 < b.extent extent) →
      ∃ bindings, (∃ least, ∀ fuel ≥ least,
        collectModifiableBindings b fuel params = some bindings) ∧ Exact b params bindings := by
  intro claim
  have different : (tableParams.map XrParam.name).Nodup := by decide
  have exact' := claim tableBuild tableRank tableParams tableBuild_acyclic different
    fun _ => Nat.one_pos
  obtain ⟨-, denoted⟩ := (exact_bindings_iff tableBuild_acyclic different).mp exact'
  let access : Access :=
    ⟨[(tableParams[0], .arrow), (tableStruct.members[1], .counted "count")], slotStruct.members[0]⟩
  have modifiable : Modifiable tableBuild tableParams access := by
    have slots : Leads tableBuild declaredConst false tableStruct.members[1]
        ⟨[(tableStruct.members[1], .counted "count")], slotStruct.members[0]⟩ :=
      @Leads.through tableBuild declaredConst false _ _ _ slotStruct _ (by decide) (by decide)
        (List.mem_singleton_self _) (.here false _)
    have table : Leads tableBuild declaredConst true tableParams[0] access :=
      @Leads.through tableBuild declaredConst true _ _ _ tableStruct _ (by decide) (by decide)
        (by decide) slots
    exact ⟨tableParams[0], List.mem_singleton_self _, table, by decide⟩
  have bounds := (denoted access modifiable).bounds (oneArguments false)
  rw [render_eq, saved_loops] at bounds
  obtain ⟨bound, -⟩ := bounds 0 (List.mem_singleton_self 0)
  cases bound

end Shapes

end XrTransport.CodeGeneration
