import Mathlib.Data.Nat.ModEq
import XrTransport.Vulkan.Client.CallOrder
import XrTransport.Vulkan.Server.ReleaseImage

/-!
# The semaphores of a shared ring

A client's swapchain and the server's shared images, connected by the synchronous release message.
Each image has two semaphores: the client's release signals `renderingDone` and the server's copy
waits on it; the copy signals `copyingDone` and the client's next acquire of the image waits on it.
-/
namespace XrTransport.Vulkan

open XrTransport.Vulkan.Client (Handle VkCommand SwapchainImage Call ringIndices)
open XrTransport.Vulkan.Server (SharedImage)

/-- What a submission does with a semaphore. -/
inductive Use where
  /-- It signals the semaphore. -/
  | signal
  /-- It waits on the semaphore. -/
  | wait
deriving DecidableEq, Repr

namespace Use

/-- The use that has to come after this one. -/
def next : Use → Use
  | signal => wait
  | wait => signal

/-- The use that has to come after a list of uses, if each came where it had to. -/
def after : Use → List Use → Option Use
  | expected, [] => some expected
  | expected, use :: rest => if use = expected then after expected.next rest else none

/-- Uses in two parts. -/
theorem after_append (expected : Use) (first second : List Use) :
    after expected (first ++ second) = (after expected first).bind fun use => after use second := by
  induction first generalizing expected with
  | nil => rfl
  | cons use rest ih =>
    rw [List.cons_append, after, after]
    by_cases same : use = expected
    · rw [if_pos same, if_pos same, ih]
    · rw [if_neg same, if_neg same]
      rfl

end Use

/-- What a command does with a semaphore. -/
def uses (semaphore : Handle) : VkCommand → List Use
  | .queueSubmit _ wait signal _ =>
    (if wait = some semaphore then [.wait] else []) ++
      if signal = some semaphore then [.signal] else []
  | _ => []

/-- Signals and waits alternate, starting with a signal. -/
def Alternating (semaphore : Handle) (trace : List VkCommand) : Prop :=
  (Use.after .signal (trace.flatMap (uses semaphore))).isSome

/-- Whether they do is decided by the trace. -/
instance decidableAlternating (semaphore : Handle) (trace : List VkCommand) :
    Decidable (Alternating semaphore trace) :=
  inferInstanceAs (Decidable (Option.isSome _ = true))

/-- A client's swapchain with the server's. -/
structure SharedSwapchain where
  /-- The client's side. -/
  client : Client.SwapchainState
  /-- The server's side. -/
  server : Server.SwapchainState
deriving DecidableEq, Repr

/-- The server's part in a call: after a successful release it gets the index of the image. -/
def SharedSwapchain.serve (s : SharedSwapchain) (acquired : Nat) (call : Call)
    (outcome : Client.CallOutcome) : List VkCommand :=
  match call, outcome.index with
  | .release, some index =>
    Server.commands
      (Server.handleReleaseSwapchainImage (.succeeding acquired) s.server index).issued
  | _, _ => []

/-- A call of the application, with the index that the runtime hands out if the server asks for
one: the commands submitted on both sides and what is left. -/
def SharedSwapchain.call (s : SharedSwapchain) (acquired : Nat) (call : Call) :
    Option (List VkCommand × SharedSwapchain) :=
  (s.client.call Client.succeeding call).map fun outcome =>
    (outcome.issued ++ s.serve acquired call outcome, { s with client := outcome.state })

/-- The commands of a list of calls. -/
def SharedSwapchain.trace : SharedSwapchain → List (Call × Nat) → Option (List VkCommand)
  | _, [] => some []
  | s, (call, acquired) :: rest =>
    (s.call acquired call).bind fun next => (next.2.trace rest).map fun more => next.1 ++ more

/-- The semaphores of an image on the client. -/
def clientSemaphores (image : SwapchainImage) : Handle × Handle :=
  (image.renderingDone, image.copyingDone)

/-- The semaphores of an image on the server. -/
def serverSemaphores (image : SharedImage) : Handle × Handle :=
  (image.renderingDone, image.copyingDone)

/-- The semaphores of different images, and the two of one image, are different. -/
structure Distinct (images : List SharedImage) : Prop where
  /-- The first ones. -/
  rendering : (images.map SharedImage.renderingDone).Nodup
  /-- The second ones. -/
  copying : (images.map SharedImage.copyingDone).Nodup
  /-- The first from the second. -/
  kinds : ∀ a ∈ images, ∀ b ∈ images, a.renderingDone ≠ b.copyingDone

/-- Two offsets of a ring that are at the same index are the same. -/
theorem ring_injective {size start first second : Nat} (one : first < size) (two : second < size)
    (same : (start + first) % size = (start + second) % size) : first = second := by
  have cancelled : first ≡ second [MOD size] := Nat.ModEq.add_left_cancel' start same
  rwa [Nat.ModEq, Nat.mod_eq_of_lt one, Nat.mod_eq_of_lt two] at cancelled

/-- A stretch of the ring does not contain the index after its end, unless it is the whole ring. -/
theorem end_not_mem_ringIndices {size start count : Nat} (less : count < size) :
    (start + count) % size ∉ ringIndices size start count := by
  intro member
  obtain ⟨offset, inside, same⟩ := List.mem_map.mp member
  have below : offset < count := List.mem_range.mp inside
  have equal : offset = count := ring_injective (by omega) less same
  omega

/-- The rest of a stretch of the ring does not contain its first index. -/
theorem start_not_mem_ringIndices {size start count : Nat} (less : count < size) :
    start % size ∉ ringIndices size ((start + 1) % size) count := by
  intro member
  obtain ⟨offset, inside, same⟩ := List.mem_map.mp member
  have below : offset < count := List.mem_range.mp inside
  rw [Nat.mod_add_mod, Nat.add_assoc] at same
  have around : (start + (1 + offset)) % size = (start + 0) % size := by rw [same, Nat.add_zero]
  have equal : 1 + offset = 0 := ring_injective (by omega) (by omega) around
  omega

namespace SharedSwapchain

/-- The images that are acquired. -/
def held (s : SharedSwapchain) : List Nat :=
  ringIndices s.client.images.length s.client.releaseHead s.client.numAcquired

/-- What the next submission has to do with the `copyingDone` semaphore of an image. -/
def expects (s : SharedSwapchain) (index : Nat) (image : SwapchainImage) : Use :=
  if image.hasBeenAcquired = true ∧ index ∉ s.held then .wait else .signal

/-- What holds between two calls. -/
structure Shared (s : SharedSwapchain) : Prop where
  /-- Both sides have the same semaphores. -/
  same : s.client.images.map clientSemaphores = s.server.sharedImages.map serverSemaphores
  /-- They are different ones. -/
  apart : Distinct s.server.sharedImages
  /-- At most every image is acquired. -/
  bound : s.client.numAcquired ≤ s.client.images.length
  /-- The release head is an index of the ring, or zero when the ring is empty. -/
  release : s.client.releaseHead < max 1 s.client.images.length
  /-- The acquire head comes after the acquired images. -/
  acquire : s.client.acquireHead =
    (s.client.releaseHead + s.client.numAcquired) % s.client.images.length
  /-- An image that is acquired has been so. -/
  marked : ∀ index image, s.client.images[index]? = some image → index ∈ s.held →
    image.hasBeenAcquired = true

namespace Shared

variable {s : SharedSwapchain}

/-- The server has the semaphores of every image of the client. -/
theorem found (shared : Shared s) {index : Nat} {image : SwapchainImage}
    (here : s.client.images[index]? = some image) :
    ∃ other, s.server.sharedImages[index]? = some other ∧
      other.renderingDone = image.renderingDone ∧ other.copyingDone = image.copyingDone := by
  have both : (s.server.sharedImages.map serverSemaphores)[index]? =
      some (clientSemaphores image) := by
    rw [← shared.same, List.getElem?_map, here]
    rfl
  rw [List.getElem?_map] at both
  obtain ⟨other, there, pair⟩ := Option.map_eq_some_iff.mp both
  rw [serverSemaphores, clientSemaphores, Prod.mk.injEq] at pair
  exact ⟨other, there, pair⟩

/-- Images at different indices have different semaphores. -/
theorem apart_at (shared : Shared s) {first second : Nat} {a b : SwapchainImage}
    (one : s.client.images[first]? = some a) (two : s.client.images[second]? = some b) :
    (a.renderingDone = b.renderingDone ↔ first = second) ∧
      (a.copyingDone = b.copyingDone ↔ first = second) ∧ a.renderingDone ≠ b.copyingDone ∧
      a.copyingDone ≠ b.renderingDone := by
  obtain ⟨x, atFirst, renderX, copyX⟩ := shared.found one
  obtain ⟨y, atSecond, renderY, copyY⟩ := shared.found two
  have memX := List.mem_of_getElem? atFirst
  have memY := List.mem_of_getElem? atSecond
  obtain ⟨inside, _⟩ := List.getElem?_eq_some_iff.mp atFirst
  have equal : first = second → a = b := by
    rintro rfl
    rw [one] at two
    exact Option.some.inj two
  refine ⟨⟨fun same => ?_, fun same => by rw [equal same]⟩,
    ⟨fun same => ?_, fun same => by rw [equal same]⟩, ?_, ?_⟩
  · refine (List.getElem?_inj (by rwa [List.length_map]) shared.apart.rendering).mp ?_
    rw [List.getElem?_map, List.getElem?_map, atFirst, atSecond, Option.map_some, Option.map_some,
      renderX, renderY, same]
  · refine (List.getElem?_inj (by rwa [List.length_map]) shared.apart.copying).mp ?_
    rw [List.getElem?_map, List.getElem?_map, atFirst, atSecond, Option.map_some, Option.map_some,
      copyX, copyY, same]
  · rw [← renderX, ← copyY]
    exact shared.apart.kinds x memX y memY
  · rw [← renderY, ← copyX]
    exact (shared.apart.kinds y memY x memX).symm

/-- A refused call, or a wait, changes nothing that matters. -/
theorem quiet (shared : Shared s) (waitHead : Nat) :
    Shared { s with client := { s.client with waitHead } } :=
  ⟨shared.same, shared.apart, shared.bound, shared.release, shared.acquire, shared.marked⟩

/-- The next image to be acquired is not acquired while there is one that is not. -/
theorem next_free (shared : Shared s) (space : s.client.numAcquired < s.client.images.length) :
    s.client.acquireHead ∉ s.held := by
  rw [shared.acquire]
  exact end_not_mem_ringIndices space

/-- Acquiring an image keeps both sides in order. -/
theorem acquired (shared : Shared s) {image : SwapchainImage}
    (space : s.client.numAcquired < s.client.images.length)
    (here : s.client.images[s.client.acquireHead]? = some image) :
    Shared { s with client := s.client.acquired image } := by
  obtain ⟨inside, at_head⟩ := List.getElem?_eq_some_iff.mp here
  have held : ({ s with client := s.client.acquired image } : SharedSwapchain).held =
      s.held ++ [s.client.acquireHead] := by
    rw [SharedSwapchain.held, SharedSwapchain.held, shared.acquire]
    simp only [Client.SwapchainState.acquired, Client.SwapchainState.marked, List.length_set]
    exact Client.ringIndices_succ _ _ _
  constructor
  · rw [← shared.same]
    simp only [Client.SwapchainState.acquired, Client.SwapchainState.marked, List.map_set]
    have mapped : s.client.acquireHead < (s.client.images.map clientSemaphores).length := by
      rwa [List.length_map]
    have unchanged : clientSemaphores { image with hasBeenAcquired := true } =
        (s.client.images.map clientSemaphores)[s.client.acquireHead] := by
      rw [List.getElem_map, at_head]
      rfl
    rw [unchanged, List.set_getElem_self]
  · exact shared.apart
  · simp only [Client.SwapchainState.acquired, Client.SwapchainState.marked, List.length_set]
    omega
  · simpa only [Client.SwapchainState.acquired, Client.SwapchainState.marked, List.length_set]
      using shared.release
  · simp only [Client.SwapchainState.acquired, Client.SwapchainState.marked, List.length_set,
      shared.acquire, Nat.mod_add_mod, Nat.add_assoc]
  · intro index other there member
    rw [held, List.mem_append, List.mem_singleton] at member
    simp only [Client.SwapchainState.acquired, Client.SwapchainState.marked,
      List.getElem?_set] at there
    by_cases same : s.client.acquireHead = index
    · rw [if_pos same, if_pos inside] at there
      rw [← Option.some.inj there]
    · rw [if_neg same] at there
      obtain before | now := member
      · exact shared.marked index other there before
      · exact absurd now.symm same

/-- The first image to be released is acquired. -/
theorem held_eq (shared : Shared s) (holding : s.client.numAcquired ≠ 0) :
    s.client.releaseHead < s.client.images.length ∧
      s.held = s.client.releaseHead :: ringIndices s.client.images.length
        ((s.client.releaseHead + 1) % s.client.images.length) (s.client.numAcquired - 1) := by
  have bound := shared.bound
  have release := shared.release
  have inside : s.client.releaseHead < s.client.images.length := by omega
  obtain ⟨count, counted⟩ := Nat.exists_eq_succ_of_ne_zero holding
  refine ⟨inside, ?_⟩
  rw [SharedSwapchain.held, counted, Nat.succ_eq_add_one, Client.ringIndices_cons,
    Nat.mod_eq_of_lt inside]
  rfl

/-- Releasing an image keeps both sides in order. -/
theorem released (shared : Shared s) (holding : s.client.numAcquired ≠ 0) :
    Shared { s with client := s.client.released } := by
  obtain ⟨inside, held⟩ := shared.held_eq holding
  have bound := shared.bound
  constructor
  · exact shared.same
  · exact shared.apart
  · simp only [Client.SwapchainState.released]
    omega
  · simp only [Client.SwapchainState.released]
    have below := Nat.mod_lt (s.client.releaseHead + 1) (show 0 < s.client.images.length by omega)
    omega
  · simp only [Client.SwapchainState.released, shared.acquire, Nat.mod_add_mod]
    congr 1
    omega
  · intro index image here member
    refine shared.marked index image here ?_
    rw [held]
    exact List.mem_cons_of_mem _ member

end Shared

/-- The uses of both semaphores of an image by some commands come where they have to, and leave
`copyingDone` to a use of the next state. -/
def Turn (before after : SharedSwapchain) (commands : List VkCommand) : Prop :=
  ∀ index image image', before.client.images[index]? = some image →
    after.client.images[index]? = some image' →
    Use.after .signal (commands.flatMap (uses image.renderingDone)) = some .signal ∧
      Use.after (before.expects index image) (commands.flatMap (uses image.copyingDone)) =
        some (after.expects index image')

/-- Nothing is submitted and nothing that matters changes. -/
theorem turn_quiet {s s' : SharedSwapchain} {commands : List VkCommand}
    (images : s'.client.images = s.client.images) (held : s'.held = s.held)
    (none : ∀ semaphore, commands.flatMap (uses semaphore) = []) : s.Turn s' commands := by
  intro index image image' here there
  rw [images, here] at there
  obtain rfl := Option.some.inj there
  rw [none, none, expects, expects, held]
  exact ⟨rfl, rfl⟩

variable {s : SharedSwapchain}

/-- Acquiring an image waits for its copy, unless there has been none. -/
theorem turn_acquired (shared : Shared s) {image : SwapchainImage}
    (space : s.client.numAcquired < s.client.images.length)
    (here : s.client.images[s.client.acquireHead]? = some image) :
    s.Turn { s with client := s.client.acquired image }
      [Client.SwapchainState.acquireSubmit image] := by
  have free := shared.next_free space
  have after := shared.acquired space here
  obtain ⟨inside, _⟩ := List.getElem?_eq_some_iff.mp here
  have held : ({ s with client := s.client.acquired image } : SharedSwapchain).held =
      s.held ++ [s.client.acquireHead] := by
    rw [SharedSwapchain.held, SharedSwapchain.held, shared.acquire]
    simp only [Client.SwapchainState.acquired, Client.SwapchainState.marked, List.length_set]
    exact Client.ringIndices_succ _ _ _
  intro index other other' one two
  obtain ⟨_, copying, _, kinds⟩ := shared.apart_at here one
  simp only [Client.SwapchainState.acquired, Client.SwapchainState.marked,
    List.getElem?_set] at two
  rw [expects, expects, held]
  simp only [Client.SwapchainState.acquireSubmit, List.flatMap_cons, List.flatMap_nil,
    List.append_nil, uses, reduceCtorEq, if_false]
  by_cases same : s.client.acquireHead = index
  · subst same
    rw [here] at one
    obtain rfl := Option.some.inj one
    by_cases before : image.hasBeenAcquired = true
    · simp [before, kinds, free, Use.after, Use.next]
    · simp [before, Use.after]
  · rw [if_neg same, one] at two
    obtain rfl := Option.some.inj two
    have different : image.copyingDone ≠ other.copyingDone := fun equal => same (copying.mp equal)
    by_cases before : image.hasBeenAcquired = true
    · simp [before, kinds, different, Use.after, Ne.symm same]
    · simp [before, Use.after, Ne.symm same]

/-- Releasing an image signals it, and the server's copy waits for that and signals in turn. -/
theorem turn_released (shared : Shared s) (holding : s.client.numAcquired ≠ 0)
    {image : SwapchainImage} {other : SharedImage}
    (here : s.client.images[s.client.releaseHead]? = some image)
    (rendering : other.renderingDone = image.renderingDone)
    (copying : other.copyingDone = image.copyingDone) (fence fence' : Handle) (timeout : Int) :
    s.Turn { s with client := s.client.released }
      [.resetFences fence, Client.SwapchainState.releaseSubmit image,
        .waitForFences fence' timeout, .resetFences fence', other.copySubmit] := by
  obtain ⟨inside, held⟩ := shared.held_eq holding
  have less : s.client.numAcquired - 1 < s.client.images.length := by
    have bound := shared.bound
    omega
  have gone : s.client.releaseHead ∉ ringIndices s.client.images.length
      ((s.client.releaseHead + 1) % s.client.images.length) (s.client.numAcquired - 1) := by
    have first := @start_not_mem_ringIndices _ s.client.releaseHead _ less
    rwa [Nat.mod_eq_of_lt inside] at first
  have flag : image.hasBeenAcquired = true := by
    refine shared.marked _ _ here ?_
    rw [held]
    exact List.mem_cons_self
  intro index found found' one two
  rw [show found' = found from Option.some.inj (two.symm.trans one)]
  obtain ⟨same_rendering, same_copying, kinds, kinds'⟩ := shared.apart_at here one
  have after : ({ s with client := s.client.released } : SharedSwapchain).held =
      ringIndices s.client.images.length
        ((s.client.releaseHead + 1) % s.client.images.length) (s.client.numAcquired - 1) := rfl
  rw [expects, expects, held, after]
  simp only [Client.SwapchainState.releaseSubmit, SharedImage.copySubmit, List.flatMap_cons,
    List.flatMap_nil, List.append_nil, uses, reduceCtorEq, if_false, List.nil_append, rendering,
    copying, Option.some.injEq]
  by_cases same : s.client.releaseHead = index
  · subst same
    rw [here] at one
    obtain rfl := Option.some.inj one
    simp [kinds, kinds', gone, flag, Use.after, Use.next]
  · have different : image.renderingDone ≠ found.renderingDone :=
      fun equal => same (same_rendering.mp equal)
    have different' : image.copyingDone ≠ found.copyingDone :=
      fun equal => same (same_copying.mp equal)
    simp [kinds, kinds', different, different', Use.after, Ne.symm same]

/-- A call is defined, keeps both sides in order, and uses the semaphores in turn. -/
theorem call_turn (shared : Shared s) {acquired : Nat} (call : Call)
    (runtime : acquired < s.server.runtimeImages.length) :
    ∃ commands s', s.call acquired call = some (commands, s') ∧ Shared s' ∧
      s'.server = s.server ∧ s'.client.images.length = s.client.images.length ∧
      s.Turn s' commands := by
  have refused : ∀ result, s.client.call Client.succeeding call = some (s.client.refuse result) →
      ∃ commands s', s.call acquired call = some (commands, s') ∧ Shared s' ∧
        s'.server = s.server ∧ s'.client.images.length = s.client.images.length ∧
        s.Turn s' commands := by
    intro result answer
    refine ⟨[], s, ?_, shared, rfl, rfl, turn_quiet rfl rfl fun _ => rfl⟩
    rw [SharedSwapchain.call, answer]
    cases call <;> rfl
  have bound := shared.bound
  have release := shared.release
  cases call with
  | acquire =>
    by_cases full : s.client.images.length ≤ s.client.numAcquired
    · exact refused _ (Client.SwapchainState.acquire_full _ full)
    · have space : s.client.numAcquired < s.client.images.length := by omega
      have inside : s.client.acquireHead < s.client.images.length := by
        rw [shared.acquire]
        exact Nat.mod_lt _ (by omega)
      obtain ⟨image, here⟩ : ∃ image, s.client.images[s.client.acquireHead]? = some image :=
        ⟨_, List.getElem?_eq_getElem inside⟩
      by_cases spent : s.client.isStatic = true ∧ image.hasBeenAcquired = true
      · exact refused _ (Client.SwapchainState.acquire_spent _ full here spent)
      · have answer : s.client.call Client.succeeding .acquire = some {
            result := .success
            index := some s.client.acquireHead
            issued := [Client.SwapchainState.acquireSubmit image]
            state := s.client.acquired image } :=
          Client.SwapchainState.acquire_succeeds full here spent rfl
        refine ⟨_, _, ?_, shared.acquired space here, rfl, ?_, turn_acquired shared space here⟩
        · rw [SharedSwapchain.call, answer]
          rfl
        · simp [Client.SwapchainState.acquired, Client.SwapchainState.marked]
  | wait timeout =>
    by_cases order : s.client.numAcquired = 0 ∨ s.client.waitHead ≠ s.client.releaseHead
    · exact refused _ (Client.SwapchainState.wait_refused _ timeout order)
    · rw [not_or, not_not] at order
      obtain ⟨holding, heads⟩ := order
      obtain ⟨inside, _⟩ := shared.held_eq holding
      obtain ⟨image, here⟩ : ∃ image, s.client.images[s.client.waitHead]? = some image :=
        ⟨_, List.getElem?_eq_getElem (heads ▸ inside)⟩
      have answer : s.client.call Client.succeeding (.wait timeout) = some {
          result := .success
          issued := [.waitForFences image.copyingDoneFence timeout]
          state := s.client.waited } :=
        Client.SwapchainState.wait_succeeds timeout holding heads here rfl
      refine ⟨[.waitForFences image.copyingDoneFence timeout],
        { s with client := s.client.waited }, ?_, shared.quiet _, rfl, rfl, turn_quiet rfl rfl ?_⟩
      · rw [SharedSwapchain.call, answer]
        rfl
      · intro semaphore
        rfl
  | release =>
    by_cases order : s.client.numAcquired = 0 ∨
        s.client.waitHead ≠ (s.client.releaseHead + 1) % s.client.images.length
    · exact refused _ (Client.SwapchainState.release_refused _ order)
    · rw [not_or, not_not] at order
      obtain ⟨holding, heads⟩ := order
      obtain ⟨inside, _⟩ := shared.held_eq holding
      obtain ⟨image, here⟩ : ∃ image, s.client.images[s.client.releaseHead]? = some image :=
        ⟨_, List.getElem?_eq_getElem inside⟩
      obtain ⟨other, there, rendering, copying⟩ := shared.found here
      have answer : s.client.call Client.succeeding .release = some {
          result := .success
          index := some s.client.releaseHead
          issued := [.resetFences image.copyingDoneFence,
            Client.SwapchainState.releaseSubmit image]
          state := s.client.released } :=
        Client.SwapchainState.release_succeeds holding heads here rfl rfl
      have served := (Server.handleReleaseSwapchainImage_succeeding there runtime).2
      refine ⟨[.resetFences image.copyingDoneFence, Client.SwapchainState.releaseSubmit image,
          .waitForFences other.commandBufferFence (2 ^ 64 - 1),
          .resetFences other.commandBufferFence, other.copySubmit],
        { s with client := s.client.released }, ?_, shared.released holding, rfl, rfl,
        turn_released shared holding here rendering copying _ _ _⟩
      rw [SharedSwapchain.call, answer]
      simp only [Option.map_some, SharedSwapchain.serve, served]
      rfl

/-- In a list of calls the uses of both semaphores of an image come where they have to. -/
theorem trace_turn (shared : Shared s) (calls : List (Call × Nat))
    (runtime : ∀ step ∈ calls, step.2 < s.server.runtimeImages.length) :
    ∃ trace, s.trace calls = some trace ∧ ∀ index image, s.client.images[index]? = some image →
      (Use.after .signal (trace.flatMap (uses image.renderingDone))).isSome ∧
        (Use.after (s.expects index image) (trace.flatMap (uses image.copyingDone))).isSome := by
  induction calls generalizing s with
  | nil => exact ⟨[], rfl, fun _ _ _ => ⟨rfl, rfl⟩⟩
  | cons step rest ih =>
    obtain ⟨call, acquired⟩ := step
    obtain ⟨commands, s', called, shared', server, length, turn⟩ :=
      call_turn shared call (runtime (call, acquired) (by simp))
    obtain ⟨trace, traced, later⟩ := ih shared' fun step member => by
      rw [server]
      exact runtime step (by simp [member])
    refine ⟨commands ++ trace, ?_, ?_⟩
    · rw [SharedSwapchain.trace, called, Option.bind_some, traced, Option.map_some]
    · intro index image here
      obtain ⟨inside, _⟩ := List.getElem?_eq_some_iff.mp here
      obtain ⟨image', there⟩ : ∃ image', s'.client.images[index]? = some image' :=
        ⟨_, List.getElem?_eq_getElem (by rwa [length])⟩
      obtain ⟨other, found, rendering, copying⟩ := shared.found here
      obtain ⟨other', found', rendering', copying'⟩ := shared'.found there
      rw [server, found] at found'
      obtain rfl := Option.some.inj found'
      obtain ⟨first, second⟩ := turn index image image' here there
      obtain ⟨first', second'⟩ := later index image' there
      rw [List.flatMap_append, List.flatMap_append, Use.after_append, Use.after_append, first,
        second, ← rendering, ← copying, rendering', copying']
      exact ⟨first', second'⟩

end SharedSwapchain

/-- Fresh images of both sides, connected. -/
structure Fresh (images : List SwapchainImage) (shared : List SharedImage) : Prop where
  /-- The client has imported the server's semaphores. -/
  same : images.map clientSemaphores = shared.map serverSemaphores
  /-- The server has created different ones. -/
  apart : Distinct shared
  /-- No image has been acquired. -/
  unused : ∀ image ∈ images, image.hasBeenAcquired = false

/-- From fresh images, in every list of calls during which every Vulkan, runtime and transport call
succeeds, the submissions that signal a semaphore of an image and those that wait on it alternate,
starting with a signal. -/
theorem semaphores_alternate {images : List SwapchainImage} {server : Server.SwapchainState}
    (fresh : Fresh images server.sharedImages) (isStatic : Bool) (calls : List (Call × Nat))
    (runtime : ∀ step ∈ calls, step.2 < server.runtimeImages.length) :
    ∃ trace, SharedSwapchain.trace ⟨.create images isStatic, server⟩ calls = some trace ∧
      ∀ image ∈ images, Alternating image.renderingDone trace ∧
        Alternating image.copyingDone trace := by
  have shared : SharedSwapchain.Shared ⟨.create images isStatic, server⟩ := by
    refine ⟨fresh.same, fresh.apart, Nat.zero_le _, ?_, ?_, ?_⟩
    · simp only [Client.SwapchainState.create]
      omega
    · simp [Client.SwapchainState.create]
    · intro index image _ member
      simp [SharedSwapchain.held, Client.SwapchainState.create, ringIndices] at member
  obtain ⟨trace, traced, alternate⟩ := SharedSwapchain.trace_turn shared calls runtime
  refine ⟨trace, traced, fun image member => ?_⟩
  obtain ⟨index, here⟩ := List.mem_iff_getElem?.mp member
  obtain ⟨rendering, copying⟩ := alternate index image here
  rw [SharedSwapchain.expects, fresh.unused image member] at copying
  exact ⟨rendering, copying⟩

/-- Two images, acquired and released twice each. -/
theorem semaphores_alternate_pair :
    let images : List SwapchainImage := [⟨1, 2, 3, 4, 5, false⟩, ⟨6, 7, 8, 9, 10, false⟩]
    let server : Server.SwapchainState := ⟨[⟨1, 2, 11, 12⟩, ⟨6, 7, 13, 14⟩], [21, 22, 23]⟩
    let round : List (Call × Nat) := [(.acquire, 0), (.wait 0, 0), (.release, 2)]
    ∃ trace, SharedSwapchain.trace ⟨.create images false, server⟩
        (round ++ round ++ round ++ round) = some trace ∧
      ∀ image ∈ images, Alternating image.renderingDone trace ∧
        Alternating image.copyingDone trace := by
  intro images server round
  refine semaphores_alternate ⟨rfl, ⟨by decide, by decide, by decide⟩, by decide⟩ false _ ?_
  decide

end XrTransport.Vulkan
