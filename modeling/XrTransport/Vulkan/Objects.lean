import XrTransport.OpenXr
import XrTransport.Foundation.Ownership
import XrTransport.Foundation.Program

/-!
# The objects that the Vulkan modules create

Both modules create the objects of a swapchain one after another, by Vulkan calls that each may
fail, and throw on the first failure. `vk` gives the result of every call by its number. `Progress`
says how far a creation has come, and `Failed` what it leaves behind when it throws: the objects
created until then, still live and owned by nobody.
-/
namespace XrTransport.Vulkan

/-- The kinds of objects that are created for a swapchain. -/
inductive Kind where
  /-- A `VkImage`. -/
  | image
  /-- A `VkDeviceMemory`. -/
  | memory
  /-- A `VkSemaphore`. -/
  | semaphore
  /-- A `VkFence`. -/
  | fence
  /-- A `VkCommandBuffer`. -/
  | commandBuffer
deriving DecidableEq, Repr

/-- What a module calls: Vulkan and the handle exchange. -/
structure Platform where
  /-- How many Vulkan calls that return a result have been made. -/
  issued : Nat := 0
  /-- The objects. -/
  ledger : Ledger Kind := {}
  /-- The command pool that a command buffer was allocated from. -/
  allocatedFrom : Nat → Nat := fun _ => 0
  /-- What is in the socket of the handle exchange, the first to be read first. A file descriptor
  stands for the server's object that it was exported from. -/
  socket : List Nat := []

/-- `ImageHandles`. -/
structure ImageHandles where
  /-- `memory_handle`. -/
  memoryHandle : Nat
  /-- `rendering_done_handle`. -/
  renderingDoneHandle : Nat
  /-- `copying_done_handle`. -/
  copyingDoneHandle : Nat
deriving DecidableEq, Repr

namespace Platform

/-- A Vulkan call that returns a result; the caller throws unless it is `VK_SUCCESS`. -/
def require (vk : Nat → VkResult) : Program Platform PUnit := fun p =>
  if vk p.issued = .success then (some ⟨⟩, { p with issued := p.issued + 1 })
  else (none, { p with issued := p.issued + 1 })

/-- A Vulkan call that creates an object. -/
def create (vk : Nat → VkResult) (kind : Kind) : Program Platform Nat := fun p =>
  if vk p.issued = .success then
    (some p.ledger.next, { p with issued := p.issued + 1, ledger := p.ledger.create kind })
  else (none, { p with issued := p.issued + 1 })

/-- `AllocateCommandBuffers` of one command buffer. -/
def allocateCommandBuffer (vk : Nat → VkResult) (pool : Nat) : Program Platform Nat := do
  let buffer ← create vk .commandBuffer
  Program.modify fun p =>
    { p with allocatedFrom := Function.update p.allocatedFrom buffer pool }
  return buffer

/-- Calls that destroy objects. -/
def destroy (objects : List (Kind × Nat)) (p : Platform) : Platform :=
  { p with ledger := p.ledger.destroy objects }

/-- The command buffers of a pool that have not been freed. -/
def buffersOf (p : Platform) (pool : Nat) : List (Kind × Nat) :=
  p.ledger.created.filter fun object =>
    object.1 == .commandBuffer && p.allocatedFrom object.2 == pool &&
      !p.ledger.destroyed.contains object

/-- `DestroyCommandPool`: it frees the command buffers of the pool. -/
def destroyCommandPool (pool : Nat) (p : Platform) : Platform := p.destroy (p.buffersOf pool)

/-- `xrtp_read_handle`. In place of a handle that cannot be received it returns the null handle. -/
def readHandle : Program Platform Nat := fun p =>
  match p.socket with
  | [] => (some 0, p)
  | handle :: rest => (some handle, { p with socket := rest })

/-- `xrtp_write_handle`. -/
def writeHandle (handle : Nat) : Program Platform PUnit :=
  Program.modify fun p => { p with socket := p.socket ++ [handle] }

/-- `read_image_handles`. -/
def readImageHandles : Program Platform ImageHandles := do
  let memoryHandle ← readHandle
  let renderingDoneHandle ← readHandle
  let copyingDoneHandle ← readHandle
  return { memoryHandle, renderingDoneHandle, copyingDoneHandle }

/-- `write_image_handles`. -/
def writeImageHandles (handles : ImageHandles) : Program Platform PUnit := do
  writeHandle handles.memoryHandle
  writeHandle handles.renderingDoneHandle
  writeHandle handles.copyingDoneHandle

section Socket

open Program

variable {vk : Nat → VkResult}

/-- A Vulkan call leaves the socket alone. -/
theorem require_socket : Keeps Platform.socket (require vk) := by
  intro p
  unfold require
  split <;> rfl

/-- Also one that creates an object. -/
theorem create_socket {kind : Kind} : Keeps Platform.socket (create vk kind) := by
  intro p
  unfold create
  split <;> rfl

/-- Also one that allocates a command buffer. -/
theorem allocateCommandBuffer_socket {pool : Nat} :
    Keeps Platform.socket (allocateCommandBuffer vk pool) :=
  create_socket.bind fun _ => fun _ => rfl

/-- The handles of an image in the order in which they are written and read. -/
def inOrder (handles : ImageHandles) : List Nat :=
  [handles.memoryHandle, handles.renderingDoneHandle, handles.copyingDoneHandle]

/-- What has been written is read. -/
theorem readImageHandles_inOrder {handles : ImageHandles} {rest : List Nat} {p : Platform}
    (first : p.socket = inOrder handles ++ rest) :
    readImageHandles p = (some handles, { p with socket := rest }) := by
  simp [readImageHandles, readHandle, bind_apply, andThen, first, inOrder]

/-- Writing adds to the end. -/
theorem writeImageHandles_inOrder (handles : ImageHandles) (p : Platform) :
    writeImageHandles handles p =
      (some ⟨⟩, { p with socket := p.socket ++ inOrder handles }) := by
  simp [writeImageHandles, writeHandle, bind_apply, andThen, Program.modify, inOrder]

end Socket

/-- A creation that began with call number `first` has made `made` calls, which have all succeeded,
and `held` are the objects that are then owned or about to be. -/
structure Progress (vk : Nat → VkResult) (first made : Nat) (held : List (Kind × Nat))
    (p : Platform) : Prop where
  /-- Nothing else is live. -/
  balanced : p.ledger.Balanced held
  /-- The calls are counted. -/
  issued : p.issued = first + made
  /-- They have succeeded. -/
  succeeded : ∀ call < made, vk (first + call) = .success

/-- A creation that began with call number `first` has thrown, because it does not succeed. It
leaves objects behind unless that call has failed. -/
structure Failed (vk : Nat → VkResult) (succeeds : Prop) (first : Nat)
    (owned : List (Kind × Nat)) (p : Platform) : Prop where
  /-- It does not succeed. -/
  unsuccessful : ¬succeeds
  /-- What it leaves behind. -/
  leaks : ∃ leaked, p.ledger.Balanced (leaked ++ owned) ∧ (leaked = [] ↔ vk first ≠ .success)

section Rules

open Program

variable {vk : Nat → VkResult} {succeeds : Prop} {first made : Nat}
  {leaked owned : List (Kind × Nat)} {p p' : Platform}

/-- What has been created is held as soon as a call has succeeded. -/
theorem Progress.started (progress : Progress vk first made (leaked ++ owned) p)
    (begun : made = 0 ↔ leaked = []) (ended : made = 0 → vk first ≠ .success) :
    leaked = [] ↔ vk first ≠ .success := by
  constructor
  · intro nothing
    exact ended (begun.mpr nothing)
  · intro failed
    apply begun.mp
    by_contra some
    exact failed (progress.succeeded 0 (Nat.pos_of_ne_zero some))

/-- A call fails and leaves behind what was held. -/
theorem Progress.fail (progress : Progress vk first made (leaked ++ owned) p)
    (begun : made = 0 ↔ leaked = []) (needed : succeeds → vk (first + made) = .success)
    (failed : vk p.issued ≠ .success) (kept : p'.ledger = p.ledger) :
    Failed vk succeeds first owned p' := by
  rw [progress.issued] at failed
  refine ⟨fun succeeds => failed (needed succeeds), leaked, ?_, ?_⟩
  · rw [kept]
    exact progress.balanced
  · refine progress.started begun fun none => ?_
    rw [none] at failed
    exact failed

/-- One more call has succeeded. -/
theorem Progress.succeed {held held' : List (Kind × Nat)}
    (progress : Progress vk first made held p) (called : vk p.issued = .success)
    (counted : p'.issued = p.issued + 1) (balanced : p'.ledger.Balanced held') :
    Progress vk first (made + 1) held' p' := by
  refine ⟨balanced, ?_, fun call before => ?_⟩
  · rw [counted, progress.issued]
    omega
  · rcases Nat.lt_succ_iff_lt_or_eq.mp before with earlier | rfl
    · exact progress.succeeded call earlier
    · rw [← progress.issued]
      exact called

/-- The order of what is held does not matter. -/
theorem Progress.perm {held held' : List (Kind × Nat)} (progress : Progress vk first made held p)
    (same : held.Perm held') : Progress vk first made held' p :=
  ⟨progress.balanced.perm same, progress.issued, progress.succeeded⟩

/-- An exception between two calls leaves behind what was held. -/
theorem throw_meets {α : Type} {returns : α → Platform → Prop} (doomed : ¬succeeds)
    (begun : made = 0 ↔ leaked = []) (some : made ≠ 0) :
    Meets (Progress vk first made (leaked ++ owned)) throw returns
      (Failed vk succeeds first owned) := by
  refine Meets.throw fun p progress => ⟨doomed, leaked, progress.balanced, ?_⟩
  exact progress.started begun fun none => absurd none some

/-- A call that is required takes the creation one call further, or it throws. -/
theorem require_meets (needed : succeeds → vk (first + made) = .success)
    (begun : made = 0 ↔ leaked = []) :
    Meets (Progress vk first made (leaked ++ owned)) (require vk)
      (fun _ => Progress vk first (made + 1) (leaked ++ owned))
      (Failed vk succeeds first owned) := by
  intro p progress
  by_cases called : vk p.issued = .success
  · simp only [require, if_pos called]
    exact progress.succeed called rfl progress.balanced
  · simp only [require, if_neg called]
    exact progress.fail begun needed called rfl

/-- A call that creates an object does too, and the object is held then. -/
theorem create_meets {kind : Kind} (needed : succeeds → vk (first + made) = .success)
    (begun : made = 0 ↔ leaked = []) :
    Meets (Progress vk first made (leaked ++ owned)) (create vk kind)
      (fun name => Progress vk first (made + 1) (((kind, name) :: leaked) ++ owned))
      (Failed vk succeeds first owned) := by
  intro p progress
  by_cases called : vk p.issued = .success
  · simp only [create, if_pos called]
    exact progress.succeed called rfl (progress.balanced.create kind)
  · simp only [create, if_neg called]
    exact progress.fail begun needed called rfl

/-- To allocate a command buffer is to create one. -/
theorem allocateCommandBuffer_meets {pool : Nat}
    (needed : succeeds → vk (first + made) = .success) (begun : made = 0 ↔ leaked = []) :
    Meets (Progress vk first made (leaked ++ owned)) (allocateCommandBuffer vk pool)
      (fun name => Progress vk first (made + 1) (((.commandBuffer, name) :: leaked) ++ owned))
      (Failed vk succeeds first owned) := by
  refine Meets.bind (create_meets needed begun) fun buffer => ?_
  intro p progress
  exact ⟨progress.balanced, progress.issued, progress.succeeded⟩

/-- What has been created for the images so far. -/
theorem begun_images {α : Type} {objects : α → List (Kind × Nat)} {calls : Nat}
    (nonempty : ∀ value, objects value ≠ []) (positive : calls ≠ 0) {values : List α}
    (begun : made = 0 ↔ leaked = []) :
    made + calls * values.length = 0 ↔ values.flatMap objects ++ leaked = [] := by
  cases values with
  | nil => simpa using begun
  | cons value values =>
    have counted : calls * (value :: values).length ≠ 0 :=
      Nat.mul_ne_zero positive (Nat.succ_ne_zero _)
    have holding : (value :: values).flatMap objects ++ leaked ≠ [] := by
      simp [nonempty value]
    exact iff_of_false (by omega) holding

/-- A loop that creates the objects of one image in each round creates them all, or it throws. The
values are related to the elements of the list as each round relates them. -/
theorem collect_meets {ι α : Type} {body : ι → Program Platform α} {related : ι → α → Prop}
    {objects : α → List (Kind × Nat)} {calls : Nat} {items : List ι}
    (nonempty : ∀ value, objects value ≠ []) (positive : calls ≠ 0)
    (begun : made = 0 ↔ leaked = [])
    (each : ∀ earlier item later, items = earlier ++ item :: later → ∀ held : List (Kind × Nat),
      (made + calls * earlier.length = 0 ↔ held = []) →
      Meets (Progress vk first (made + calls * earlier.length) (held ++ owned)) (body item)
        (fun value p => related item value ∧
          Progress vk first (made + calls * earlier.length + calls)
            (objects value ++ (held ++ owned)) p)
        (Failed vk succeeds first owned)) :
    Meets (Progress vk first made (leaked ++ owned)) (collect items body)
      (fun values p => List.Forall₂ related items values ∧
        Progress vk first (made + calls * items.length)
          (values.flatMap objects ++ (leaked ++ owned)) p)
      (Failed vk succeeds first owned) := by
  have loop := @Meets.collect _ _ (Failed vk succeeds first owned) _ body
    (fun earlier values p => List.Forall₂ related earlier values ∧
      Progress vk first (made + calls * earlier.length)
        (values.flatMap objects ++ (leaked ++ owned)) p) items ?_
  · refine loop.consequence (fun p progress => ⟨.nil, ?_⟩) (fun _ _ holds => holds)
      fun _ failed => failed
    simpa using progress
  · intro earlier item later values whole p holds
    obtain ⟨so, progress⟩ := holds
    have counted : earlier.length = values.length := so.length_eq
    have round := each earlier item later whole (values.flatMap objects ++ leaked)
      (by rw [counted]; exact begun_images nonempty positive begun)
    rw [List.append_assoc] at round
    refine round.consequence (fun _ progress => progress) (fun value p' ended => ?_)
      (fun _ failed => failed) p progress
    obtain ⟨fits, further⟩ := ended
    refine ⟨List.rel_append so (.cons fits .nil), ?_⟩
    rw [List.length_append, List.length_singleton, Nat.mul_succ, ← Nat.add_assoc,
      List.flatMap_append, List.flatMap_singleton, List.append_assoc]
    exact further.perm (List.perm_append_comm_assoc _ _ _)

/-- Reading handles changes no object. -/
theorem readImageHandles_meets {held : List (Kind × Nat)} {throws : Platform → Prop} :
    Meets (Progress vk first made held) readImageHandles
      (fun _ => Progress vk first made held) throws := by
  have one : Meets (Progress vk first made held) readHandle
      (fun _ => Progress vk first made held) throws := by
    intro p progress
    cases socket : p.socket with
    | nil =>
      simp only [readHandle, socket]
      exact progress
    | cons handle rest =>
      simp only [readHandle, socket]
      exact ⟨progress.balanced, progress.issued, progress.succeeded⟩
  refine one.bind fun _ => one.bind fun _ => one.bind fun _ => ?_
  exact Meets.pure fun _ progress => progress

end Rules

/-- A program makes so many Vulkan calls that return a result, one after another, unless it throws
because one of them fails. -/
structure Takes {α : Type} (vk : Nat → VkResult) (calls : Nat) (program : Program Platform α) :
    Prop where
  /-- It returns exactly if they succeed. -/
  returns : ∀ p, (program p).1.isSome ↔ ∀ call < calls, vk (p.issued + call) = .success
  /-- It has then made them. -/
  issued : ∀ p, (program p).1.isSome → (program p).2.issued = p.issued + calls

namespace Takes

open Program

variable {α β : Type} {vk : Nat → VkResult} {calls : Nat}

/-- Returning takes no call. -/
theorem pure (value : α) : Takes vk 0 (Pure.pure value) :=
  ⟨fun _ => iff_of_true rfl fun _ none => absurd none (Nat.not_lt_zero _), fun _ _ => rfl⟩

/-- The calls of the first program come before those of the second, whose number may depend on what
the first one returns. -/
theorem bind {first : Program Platform α} {next : α → Program Platform β} {later : Nat}
    (left : Takes vk calls first)
    (right : ∀ value p p', first p = (some value, p') → Takes vk later (next value)) :
    Takes vk (calls + later) (first >>= next) := by
  constructor
  · intro p
    have begins := left.returns p
    have counts := left.issued p
    rw [bind_apply, andThen]
    rcases ended : first p with ⟨_ | value, p'⟩
    · rw [ended] at begins
      refine iff_of_false Bool.false_ne_true fun all => ?_
      exact absurd (begins.mpr fun call less => all call (by omega)) Bool.false_ne_true
    · rw [ended] at begins counts
      have made : p'.issued = p.issued + calls := counts rfl
      rw [(right value p p' ended).returns p', made]
      constructor
      · intro rest call less
        by_cases early : call < calls
        · exact begins.mp rfl call early
        · have after := rest (call - calls) (by omega)
          rwa [show p.issued + calls + (call - calls) = p.issued + call by omega] at after
      · intro all call less
        have later := all (calls + call) (by omega)
        rwa [← Nat.add_assoc] at later
  · intro p
    have counts := left.issued p
    rw [bind_apply, andThen]
    rcases ended : first p with ⟨_ | value, p'⟩
    · exact fun thrown => absurd thrown Bool.false_ne_true
    · rw [ended] at counts
      have made : p'.issued = p.issued + calls := counts rfl
      intro returned
      rw [(right value p p' ended).issued p' returned, made, Nat.add_assoc]

/-- A call that is required. -/
theorem require : Takes vk 1 (require vk) := by
  constructor
  · intro p
    unfold Platform.require
    split
    next called => exact iff_of_true rfl (by simpa using called)
    next failed => exact iff_of_false Bool.false_ne_true (by simpa using failed)
  · intro p
    unfold Platform.require
    split
    · exact fun _ => rfl
    · exact fun thrown => absurd thrown Bool.false_ne_true

/-- A call that creates an object. -/
theorem create (kind : Kind) : Takes vk 1 (create vk kind) := by
  constructor
  · intro p
    unfold Platform.create
    split
    next called => exact iff_of_true rfl (by simpa using called)
    next failed => exact iff_of_false Bool.false_ne_true (by simpa using failed)
  · intro p
    unfold Platform.create
    split
    · exact fun _ => rfl
    · exact fun thrown => absurd thrown Bool.false_ne_true

/-- A call that allocates a command buffer. -/
theorem allocateCommandBuffer (pool : Nat) : Takes vk 1 (allocateCommandBuffer vk pool) :=
  (create .commandBuffer).bind fun _ _ _ _ =>
    ⟨fun _ => iff_of_true rfl fun _ none => absurd none (Nat.not_lt_zero _), fun _ _ => rfl⟩

/-- Reading handles takes none. -/
theorem readImageHandles : Takes vk 0 readImageHandles := by
  have one : Takes vk 0 readHandle := by
    constructor
    · intro p
      refine iff_of_true ?_ fun _ none => absurd none (Nat.not_lt_zero _)
      cases socket : p.socket <;> simp [readHandle, socket]
    · intro p _
      cases socket : p.socket <;> simp [readHandle, socket]
  exact one.bind fun _ _ _ _ => one.bind fun _ _ _ _ => one.bind fun _ _ _ _ => pure _

/-- A loop takes as many calls as its rounds. -/
theorem collect {ι : Type} {body : ι → Program Platform α} (items : List ι)
    (each : ∀ item, Takes vk calls (body item)) :
    Takes vk (calls * items.length) (collect items body) := by
  induction items with
  | nil => exact pure []
  | cons item rest ih =>
    have counted : calls * (item :: rest).length = calls + (calls * rest.length + 0) := by
      rw [List.length_cons, Nat.mul_succ, Nat.add_comm, Nat.add_zero]
    rw [counted]
    exact (each item).bind fun value _ _ _ => ih.bind fun values _ _ _ => pure _

end Takes

end Platform

end XrTransport.Vulkan
