import Mathlib.Algebra.Order.BigOperators.Group.List
import Mathlib.Algebra.Order.Group.Nat
import Mathlib.Data.List.Nodup
import XrTransport.CodeGeneration.Bindings

/-!
# Access paths

What a function can modify lies at the end of an access path: from a parameter through members, by
following const pointers, the elements of arrays, and values in place. The walk of `bindings.py`
goes over exactly the access paths for its own test of `const`, each once, and stops for every set
of struct definitions in which no struct contains itself.
-/
namespace XrTransport.CodeGeneration

open Serialization

/-- How an access path goes on from a parameter or member. -/
inductive Step where
  /-- To the object a const single pointer points to. -/
  | arrow
  /-- To the elements behind a const counted pointer. -/
  | counted (len : String)
  /-- To the elements of a fixed array. -/
  | fixed (extent : String)
  /-- To the members of a value in place. -/
  | dot
deriving DecidableEq, Repr

/-- An access path. -/
structure Access where
  /-- The parameter and the members it goes through. -/
  steps : List (XrParam × Step)
  /-- The parameter or member at its end. -/
  target : XrParam
deriving DecidableEq, Repr

/-- The parameter that an access path starts at. -/
def Access.root (access : Access) : XrParam := (access.steps.head?.map Prod.fst).getD access.target

/-- The access path from one member further up. -/
def Access.after (step : XrParam × Step) (access : Access) : Access :=
  { access with steps := step :: access.steps }

variable (b : Build)

/-- How access paths go on from a parameter (`top`) or member, if they do, for some notion of const:
not from a chain or a base struct, nor from what is modifiable itself. -/
def follow (const : XrParam → Bool) (top : Bool) (p : XrParam) : Option Step :=
  if isNextPtr p || b.isHeader p.type then none
  else
    match p.pointer, p.len, p.array with
    | some _, some len, _ => if const p then some (.counted len) else none
    | some _, none, _ => if const p then some .arrow else none
    | none, _, some extent => if top && !const p then none else some (.fixed extent)
    | none, _, none => some .dot

/-- The access paths from a parameter or member. -/
inductive Leads (const : XrParam → Bool) : Bool → XrParam → Access → Prop where
  /-- It ends there. -/
  | here (top : Bool) (p : XrParam) : Leads const top p ⟨[], p⟩
  /-- It goes on. -/
  | through {top : Bool} {p member : XrParam} {step : Step} {struct : XrStruct} {access : Access}
    (followed : follow b const top p = some step) (found : b.findStruct p.type = some struct)
    (member_mem : member ∈ struct.members) (rest : Leads const false member access) :
    Leads const top p (access.after (p, step))

/-- What `bindings.py` takes for const. -/
def spelledConst (p : XrParam) : Bool := p.qualifier = some "const"

/-- What `bindings.py` saves a binding for. -/
def saves (top : Bool) (p : XrParam) : Bool :=
  !spelledConst p &&
    (isNextPtr p || b.isHeader p.type || p.pointer.isSome || (top && p.array.isSome))

/-- The binding that it saves. -/
def saved (path : BindingPrefix) (p : XrParam) (loops : List BindingLoop) : Binding :=
  let expression : Expression := { path := path, name := p.name }
  let sibling (len : String) := some (BindingLength.member { expression with name := len })
  if isNextPtr p || b.isHeader p.type then
    match p.pointer, p.len, b.isHeader p.type with
    | some _, some len, true =>
      { type := .xrArray, expression := expression, param := p, loops := loops, len := sibling len }
    | _, _, _ => { type := .xr, expression := expression, param := p, loops := loops }
  else
    match p.pointer, p.len, p.array with
    | some _, some len, _ =>
      { type := .sizedPtr, expression := expression, param := p, loops := loops,
        len := sibling len }
    | none, _, some extent =>
      { type := .array, expression := expression, param := p, loops := loops
        len := some (.extent extent) }
    | _, _, _ => { type := .ptr, expression := expression, param := p, loops := loops }

/-- What a step adds to the prefix. -/
def Step.accessor (loops : Nat) : Step → Accessor
  | .arrow => .arrow
  | .counted _ | .fixed _ => .element loops
  | .dot => .dot

/-- The loop that a step adds. -/
def Step.loops (loops : Nat) : Step → List BindingLoop
  | .arrow | .dot => []
  | .counted len => [{ base := 0, bound := .name len, var := loops }]
  | .fixed extent => [{ base := 0, bound := .extent extent, var := loops }]

/-- The prefix and the loops at the end of some steps. -/
def place (path : BindingPrefix) (loops : List BindingLoop) :
    List (XrParam × Step) → BindingPrefix × List BindingLoop
  | [] => (path, loops)
  | (p, step) :: rest =>
    place (path ++ [(p.name, step.accessor loops.length)]) (loops ++ step.loops loops.length) rest

/-- The binding saved at the end of an access path. -/
def render (path : BindingPrefix) (loops : List BindingLoop) (access : Access) : Binding :=
  saved b (place path loops access.steps).1 access.target (place path loops access.steps).2

/-- The access paths at whose end something is saved, from a parameter or member. -/
def savedPaths : Nat → XrParam → Bool → List Access
  | 0, _, _ => []
  | fuel + 1, p, top =>
    if saves b top p then [⟨[], p⟩]
    else
      match follow b spelledConst top p, b.findStruct p.type with
      | some step, some struct =>
        (struct.members.flatMap fun member => savedPaths fuel member false).map
          (Access.after (p, step))
      | _, _ => []

/-- No struct contains itself: a struct that a member refers to ranks below. -/
def Acyclic (rank : String → Nat) : Prop :=
  ∀ struct ∈ b.structs, ∀ member ∈ struct.members, (b.findStruct member.type).isSome = true →
    rank member.type < rank struct.name

/-- How deep the walk goes below a parameter or member. -/
def depth (rank : String → Nat) (p : XrParam) : Nat :=
  if (b.findStruct p.type).isSome then rank p.type + 1 else 0

variable {b}

/-- The walk is less deep below a member. -/
theorem depth_member {rank : String → Nat} (acyclic : Acyclic b rank) {p member : XrParam}
    {struct : XrStruct} (found : b.findStruct p.type = some struct)
    (member_mem : member ∈ struct.members) : depth b rank member < depth b rank p := by
  obtain ⟨listed, named⟩ := b.findStruct_mem found
  rw [depth, depth, found, Option.isSome_some, if_pos rfl, ← named]
  split
  next known => exact Nat.succ_lt_succ (acyclic struct listed member member_mem known)
  next => exact Nat.succ_pos _

/-- A function that succeeds on all elements succeeds on the list. -/
theorem mapM_eq_some {α β : Type} {f : α → Option β} {g : α → β} {items : List α}
    (each : ∀ item ∈ items, f item = some (g item)) : items.mapM f = some (items.map g) := by
  induction items with
  | nil => rfl
  | cons first rest ih =>
    rw [List.mapM_cons, each first List.mem_cons_self,
      ih fun item member => each item (List.mem_cons_of_mem _ member)]
    rfl

/-- One call of the walk saves a binding, or goes on to the members, or ends. -/
theorem collectFrom_succ {fuel : Nat} {path : BindingPrefix} {p : XrParam}
    {loops : List BindingLoop} {top : Bool} :
    collectFrom b (fuel + 1) { path := path, name := p.name } p loops top =
      if saves b top p then some [saved b path p loops]
      else
        match follow b spelledConst top p, b.findStruct p.type with
        | some step, some struct =>
          (struct.members.mapM fun member =>
            collectFrom b fuel
              { path := path ++ [(p.name, step.accessor loops.length)], name := member.name } member
              (loops ++ step.loops loops.length) false).map List.flatten
        | _, _ => some [] := by
  by_cases plain : isNextPtr p || b.isHeader p.type
  · by_cases const : p.qualifier = some "const"
    · have unsaved : saves b top p = false := by simp [saves, spelledConst, const]
      have ended : follow b spelledConst top p = none := by rw [follow, if_pos plain]
      rw [collectFrom, if_pos plain, unsaved, ended]
      simp only [const, ne_eq, not_true_eq_false]
      split
      · rfl
      · rfl
    · have kept : saves b top p = true := by
        rw [Bool.or_eq_true] at plain
        rcases plain with next | header
        · simp [saves, spelledConst, const, next]
        · simp [saves, spelledConst, const, header]
      rw [collectFrom, if_pos plain, kept, saved, if_pos plain]
      simp only [const, ne_eq, not_false_eq_true, if_true]
      cases p.pointer with
      | none => rfl
      | some pointer =>
        cases p.len with
        | none => rfl
        | some len =>
          cases b.isHeader p.type with
          | false => rfl
          | true => rfl
  · have inner : (isNextPtr p || b.isHeader p.type) = false := by simpa using plain
    by_cases const : p.qualifier = some "const"
    · have unsaved : saves b top p = false := by simp [saves, spelledConst, const]
      rw [collectFrom, if_neg plain, unsaved, follow, if_neg plain]
      simp only [const, ne_eq, not_true_eq_false, decide_false, Bool.and_false, spelledConst,
        decide_true, if_true, Bool.not_true, Bool.false_eq_true, if_false,
        Expression.followedBy]
      cases p.pointer with
      | some pointer =>
        cases p.len with
        | some len => cases b.findStruct p.type <;> rfl
        | none =>
          cases b.findStruct p.type with
          | none => rfl
          | some struct => simp [Step.accessor, Step.loops]
      | none =>
        cases p.array with
        | some extent => cases b.findStruct p.type <;> rfl
        | none =>
          cases b.findStruct p.type with
          | none => rfl
          | some struct => simp [Step.accessor, Step.loops]
    · rw [collectFrom, if_neg plain, follow, if_neg plain, saves, inner, saved, if_neg plain]
      simp only [const, ne_eq, not_false_eq_true, decide_true, Bool.and_true, spelledConst,
        decide_false, Bool.not_false, Bool.true_and, Bool.false_or, if_true, Bool.false_eq_true,
        if_false, Expression.followedBy]
      cases p.pointer with
      | some pointer =>
        cases p.len with
        | some len => rfl
        | none => rfl
      | none =>
        cases p.array with
        | some extent =>
          cases top with
          | true => rfl
          | false => cases b.findStruct p.type <;> rfl
        | none =>
          cases top <;> cases b.findStruct p.type with
          | none => rfl
          | some struct => simp [Step.accessor, Step.loops]

/-- With enough fuel the walk saves the bindings at the end of these access paths. -/
theorem collectFrom_eq {rank : String → Nat} (acyclic : Acyclic b rank) {fuel : Nat}
    {path : BindingPrefix} {p : XrParam} {loops : List BindingLoop} {top : Bool}
    (enough : depth b rank p < fuel) :
    collectFrom b fuel { path := path, name := p.name } p loops top =
      some ((savedPaths b fuel p top).map (render b path loops)) := by
  induction fuel generalizing path p loops top with
  | zero => exact absurd enough (Nat.not_lt_zero _)
  | succ fuel ih =>
    rw [collectFrom_succ, savedPaths]
    split
    · rfl
    · split
      next step struct followed found =>
        have each (member : XrParam) (member_mem : member ∈ struct.members) :=
          @ih (path ++ [(p.name, step.accessor loops.length)]) member
            (loops ++ step.loops loops.length) false
            (Nat.lt_of_lt_of_le (depth_member acyclic found member_mem)
              (Nat.le_of_lt_succ enough))
        rw [mapM_eq_some each, Option.map_some, ← List.flatMap_def, List.map_map,
          List.map_flatMap]
        rfl
      · rfl

/-- An access path starts where it leads from. -/
theorem Leads.root {const : XrParam → Bool} {top : Bool} {p : XrParam} {access : Access}
    (leads : Leads b const top p access) : access.root = p := by
  cases leads with
  | here => rfl
  | through => rfl

/-- Every access path in the list leads from the parameter or member to something saved. -/
theorem savedPaths_sound {fuel : Nat} {p : XrParam} {top : Bool} {access : Access}
    (listed : access ∈ savedPaths b fuel p top) :
    Leads b spelledConst top p access ∧
      saves b (top && access.steps.isEmpty) access.target = true := by
  induction fuel generalizing p top access with
  | zero => cases listed
  | succ fuel ih =>
    rw [savedPaths] at listed
    split at listed
    next kept =>
      obtain rfl := List.mem_singleton.mp listed
      exact ⟨.here top p, by rwa [List.isEmpty_nil, Bool.and_true]⟩
    · split at listed
      next step struct followed found =>
        obtain ⟨rest, inMembers, rfl⟩ := List.mem_map.mp listed
        obtain ⟨member, member_mem, inMember⟩ := List.mem_flatMap.mp inMembers
        obtain ⟨leads, kept⟩ := ih inMember
        refine ⟨.through followed found member_mem leads, ?_⟩
        rw [Bool.false_and] at kept
        rw [Access.after, List.isEmpty_cons, Bool.and_false]
        exact kept
      · cases listed

/-- What is saved is not followed. -/
theorem follow_of_saves {top : Bool} {p : XrParam} (kept : saves b top p = true) :
    follow b spelledConst top p = none := by
  rw [saves, Bool.and_eq_true] at kept
  obtain ⟨nonconst, kind⟩ := kept
  rw [follow]
  split
  · rfl
  next inner =>
    have neither : isNextPtr p = false ∧ b.isHeader p.type = false := by simpa using inner
    rw [neither.1, neither.2, Bool.false_or, Bool.false_or, Bool.or_eq_true] at kind
    have modifiable : spelledConst p = false := by simpa using nonconst
    simp only [modifiable, Bool.false_eq_true, if_false, Bool.not_false, Bool.and_true]
    rcases kind with pointer | array
    · obtain ⟨text, pointer⟩ := Option.isSome_iff_exists.mp pointer
      rw [pointer]
      cases p.len with
      | some len => rfl
      | none => rfl
    · rw [Bool.and_eq_true] at array
      obtain ⟨extent, extended⟩ := Option.isSome_iff_exists.mp array.2
      cases p.pointer with
      | some text =>
        cases p.len with
        | some len => rfl
        | none => rfl
      | none => simp [extended, array.1]

/-- Every access path to something saved is in the list. -/
theorem savedPaths_complete {rank : String → Nat} (acyclic : Acyclic b rank) {fuel : Nat}
    {p : XrParam} {top : Bool} {access : Access} (enough : depth b rank p < fuel)
    (leads : Leads b spelledConst top p access)
    (kept : saves b (top && access.steps.isEmpty) access.target = true) :
    access ∈ savedPaths b fuel p top := by
  induction leads generalizing fuel with
  | here top p =>
    cases fuel with
    | zero => exact absurd enough (Nat.not_lt_zero _)
    | succ fuel =>
      rw [List.isEmpty_nil, Bool.and_true] at kept
      rw [savedPaths, if_pos kept]
      exact List.mem_singleton_self _
  | @through top p member step struct access followed found member_mem rest ih =>
    cases fuel with
    | zero => exact absurd enough (Nat.not_lt_zero _)
    | succ fuel =>
      have unsaved : ¬saves b top p = true := by
        intro saved
        rw [follow_of_saves saved] at followed
        cases followed
      rw [Access.after, List.isEmpty_cons, Bool.and_false] at kept
      have below := Nat.lt_of_lt_of_le (depth_member acyclic found member_mem)
        (Nat.le_of_lt_succ enough)
      rw [savedPaths, if_neg unsaved, followed, found]
      exact List.mem_map_of_mem (List.mem_flatMap.mpr ⟨member, member_mem, ih below kept⟩)

/-- Members are different parameters. -/
theorem members_nodup {name : String} {struct : XrStruct}
    (found : b.findStruct name = some struct) :
    struct.members.Nodup :=
  (b.distinct struct (b.findStruct_mem found).1).of_map

/-- Lists of access paths from different parameters have none in common. -/
theorem flatMap_savedPaths_nodup {fuel : Nat} {top : Bool} {params : List XrParam}
    (different : params.Nodup) (each : ∀ p ∈ params, (savedPaths b fuel p top).Nodup) :
    (params.flatMap fun p => savedPaths b fuel p top).Nodup := by
  rw [List.nodup_flatMap]
  refine ⟨each, different.imp ?_⟩
  intro first second apart access inFirst inSecond
  have fromFirst := (savedPaths_sound inFirst).1.root
  have fromSecond := (savedPaths_sound inSecond).1.root
  exact apart (fromFirst.symm.trans fromSecond)

/-- No access path is in the list twice. -/
theorem savedPaths_nodup {fuel : Nat} {p : XrParam} {top : Bool} :
    (savedPaths b fuel p top).Nodup := by
  induction fuel generalizing p top with
  | zero => exact List.nodup_nil
  | succ fuel ih =>
    rw [savedPaths]
    split
    · exact List.nodup_singleton _
    · split
      next step struct followed found =>
        apply List.Nodup.map
        · intro first second same
          cases first
          cases second
          simpa [Access.after] using same
        · exact flatMap_savedPaths_nodup (members_nodup found) fun _ _ => ih
      · exact List.nodup_nil

/-- More fuel than enough changes nothing. -/
theorem savedPaths_enough {rank : String → Nat} (acyclic : Acyclic b rank) {fuel more : Nat}
    {p : XrParam} {top : Bool} (enough : depth b rank p < fuel) (le : fuel ≤ more) :
    savedPaths b more p top = savedPaths b fuel p top := by
  induction fuel generalizing more p top with
  | zero => exact absurd enough (Nat.not_lt_zero _)
  | succ fuel ih =>
    cases more with
    | zero => exact absurd le (Nat.not_succ_le_zero _)
    | succ more =>
      rw [savedPaths, savedPaths]
      split
      · rfl
      · split
        next step struct followed found =>
          congr 1
          apply List.flatMap_congr
          intro member member_mem
          exact ih (Nat.lt_of_lt_of_le (depth_member acyclic found member_mem)
            (Nat.le_of_lt_succ enough)) (Nat.le_of_succ_le_succ le)
        · rfl

/-- The access paths at whose end `bindings.py` saves something. -/
def Saved (b : Build) (params : List XrParam) (access : Access) : Prop :=
  ∃ p ∈ params, Leads b spelledConst true p access ∧
    saves b access.steps.isEmpty access.target = true

/-- For every function, the walk ends and returns the binding of every access path to something
saved, each once. -/
theorem collectModifiableBindings_eq {rank : String → Nat} (acyclic : Acyclic b rank)
    {params : List XrParam} (different : (params.map XrParam.name).Nodup) :
    ∃ paths : List Access, ∃ least : Nat,
      (∀ fuel ≥ least, collectModifiableBindings b fuel params =
        some (paths.map (render b [] []))) ∧
      paths.Nodup ∧ ∀ access, access ∈ paths ↔ Saved b params access := by
  let least := (params.map (depth b rank)).sum + 1
  have enough (p : XrParam) (member : p ∈ params) : depth b rank p < least :=
    Nat.lt_succ_of_le (List.le_sum_of_mem (List.mem_map_of_mem member))
  refine ⟨params.flatMap fun p => savedPaths b least p true, least, ?_, ?_, ?_⟩
  · intro fuel le
    have each (p : XrParam) (member : p ∈ params) :
        collectFrom b fuel { name := p.name } p [] true =
          some ((savedPaths b least p true).map (render b [] [])) := by
      rw [← savedPaths_enough acyclic (enough p member) le]
      exact collectFrom_eq acyclic (Nat.lt_of_lt_of_le (enough p member) le)
    rw [collectModifiableBindings, mapM_eq_some each, Option.map_some, ← List.flatMap_def,
      List.map_flatMap]
  · exact flatMap_savedPaths_nodup different.of_map fun _ _ => savedPaths_nodup
  · intro access
    rw [List.mem_flatMap]
    constructor
    · rintro ⟨p, member, listed⟩
      obtain ⟨leads, kept⟩ := savedPaths_sound listed
      exact ⟨p, member, leads, kept⟩
    · rintro ⟨p, member, leads, kept⟩
      exact ⟨p, member, savedPaths_complete acyclic (enough p member) leads kept⟩

end XrTransport.CodeGeneration
