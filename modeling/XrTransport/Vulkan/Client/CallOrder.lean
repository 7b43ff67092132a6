import Mathlib.Data.List.Basic
import Mathlib.Tactic.Common
import XrTransport.Vulkan.Client.SwapchainState

/-!
# The call-order protocol of a swapchain

`CallOrder` states what an application may call: images are acquired in ring order, waited on
and released oldest first, and every wait is followed by a release. The swapchain state folds
this into three heads modulo the number of images. `Refines` relates the two. With two or more
images the heads tell every protocol state apart; with one image the wait head and its
successor coincide, so an image that has been waited on looks like one that has not.
-/
namespace XrTransport.Vulkan.Client

/-- The protocol's view of one swapchain. -/
structure CallOrder where
  /-- Acquired and not yet released images, oldest first. -/
  acquired : List Nat := []
  /-- The oldest acquired image has been waited on since it was acquired. -/
  waited : Bool := false
  /-- The image the next acquire hands out. -/
  next : Nat := 0
  /-- Images acquired at least once. -/
  used : List Nat := []
deriving DecidableEq, Repr

/-- A call's answer: its result code and the index it wrote. -/
abbrev Answer := XrResult × Option Nat

namespace CallOrder

/-- A call the protocol accepts or refuses. Refused calls change nothing. -/
def call (size : Nat) (isStatic : Bool) (t : CallOrder) : Call → Answer × CallOrder
  | .acquire =>
    if t.acquired.length < size ∧ ¬(isStatic = true ∧ t.next ∈ t.used) then
      ((.success, some t.next),
        { t with
          acquired := t.acquired ++ [t.next]
          next := (t.next + 1) % size
          used := t.next :: t.used })
    else ((.callOrderInvalid, none), t)
  | .wait _ =>
    if t.acquired ≠ [] ∧ t.waited = false then
      ((.success, none), { t with waited := true })
    else ((.callOrderInvalid, none), t)
  | .release =>
    match t.acquired, t.waited with
    | oldest :: rest, true =>
      ((.success, some oldest), { t with acquired := rest, waited := false })
    | _, _ => ((.callOrderInvalid, none), t)

/-- The protocol as a machine that answers every call. -/
def machine (size : Nat) (isStatic : Bool) : Mealy CallOrder Call (Option Answer) where
  step t input := (some (t.call size isStatic input).1, (t.call size isStatic input).2)

/-- Where the heads of a one-image ring mislead: waiting again on the image already waited on,
and releasing it before any wait. -/
def Unambiguous (size : Nat) (t : CallOrder) : Call → Prop
  | .acquire => True
  | .wait _ => 2 ≤ size ∨ t.waited = false
  | .release => 2 ≤ size ∨ t.acquired = [] ∨ t.waited = true

/-- The condition is checked on the protocol state alone. -/
instance decidableUnambiguous (size : Nat) (t : CallOrder) :
    ∀ input, Decidable (t.Unambiguous size input)
  | .acquire => inferInstanceAs (Decidable True)
  | .wait _ => inferInstanceAs (Decidable (2 ≤ size ∨ t.waited = false))
  | .release => inferInstanceAs (Decidable (2 ≤ size ∨ t.acquired = [] ∨ t.waited = true))

end CallOrder

/-- A driver whose every command succeeds. -/
def succeeding : Driver := fun _ => .success

/-- The swapchain state as a machine; `none` is undefined behaviour, which nothing leaves. -/
def SwapchainState.machine (vk : Driver) :
    Mealy (Option SwapchainState) Call (Option Answer) where
  step state input :=
    match state.bind fun s => s.call vk input with
    | some outcome => (some (outcome.result, outcome.index), some outcome.state)
    | none => (none, none)

/-- A ring of `size` images read from `start`: the indices of `count` images in order. -/
def ringIndices (size start count : Nat) : List Nat :=
  (List.range count).map fun offset => (start + offset) % size

/-- One more image at the end of a stretch of the ring. -/
theorem ringIndices_succ (size start count : Nat) :
    ringIndices size start (count + 1) =
      ringIndices size start count ++ [(start + count) % size] := by
  simp [ringIndices, List.range_succ]

/-- A non-empty stretch starts at its start and goes on from the successor of the start. -/
theorem ringIndices_cons (size start count : Nat) :
    ringIndices size start (count + 1) =
      start % size :: ringIndices size ((start + 1) % size) count := by
  simp only [ringIndices, List.range_succ_eq_map, List.map_cons, List.map_map, Nat.add_zero,
    List.cons.injEq, true_and]
  apply List.map_congr_left
  intro offset _
  rw [Function.comp, Nat.mod_add_mod]
  congr 1
  omega

/-- A stretch of the ring has as many indices as it counts. -/
@[simp]
theorem length_ringIndices (size start count : Nat) :
    (ringIndices size start count).length = count := by
  simp [ringIndices]

/-- Only the empty stretch has no index. -/
theorem ringIndices_eq_nil (size start count : Nat) :
    ringIndices size start count = [] ↔ count = 0 := by
  rw [← List.length_eq_zero_iff, length_ringIndices]

/-- The heads and the counter of a swapchain state stand for a protocol state. -/
structure Refines (s : SwapchainState) (t : CallOrder) : Prop where
  /-- At most every image is acquired. -/
  bound : s.numAcquired ≤ s.images.length
  /-- The release head is an index of the ring, or zero when the ring is empty. -/
  release : s.releaseHead < max 1 s.images.length
  /-- The acquired images run from the release head. -/
  acquired : t.acquired = ringIndices s.images.length s.releaseHead s.numAcquired
  /-- The acquire head comes after the acquired images. -/
  acquire : s.acquireHead = (s.releaseHead + s.numAcquired) % s.images.length
  /-- The next image is the one at the acquire head. -/
  next : t.next = s.acquireHead
  /-- The wait head is one image ahead exactly when the oldest image has been waited on. -/
  wait : s.waitHead =
    if t.waited then (s.releaseHead + 1) % s.images.length else s.releaseHead
  /-- Only an acquired image has been waited on. -/
  waited : t.waited = true → 0 < s.numAcquired
  /-- The flags mark the images acquired so far. -/
  used : ∀ index image, s.images[index]? = some image →
    (image.hasBeenAcquired = true ↔ index ∈ t.used)

namespace Refines

variable {s : SwapchainState} {t : CallOrder}

/-- Fresh images with no image acquired stand for the initial protocol state. -/
theorem create (images : List SwapchainImage) (isStatic : Bool)
    (fresh : ∀ image ∈ images, image.hasBeenAcquired = false) :
    Refines (SwapchainState.create images isStatic) {} where
  bound := Nat.zero_le _
  release := by simp only [SwapchainState.create]; omega
  acquired := rfl
  acquire := by simp [SwapchainState.create]
  next := rfl
  wait := rfl
  waited := by simp
  used := by
    intro index image found
    simp [fresh image (List.mem_of_getElem? found)]

/-- An image is acquired exactly when the protocol's queue is not empty. -/
theorem acquired_eq_nil (r : Refines s t) : t.acquired = [] ↔ s.numAcquired = 0 := by
  rw [r.acquired, ringIndices_eq_nil]

/-- With an image acquired the ring is not empty and the release head is one of its indices. -/
theorem releaseHead_lt (r : Refines s t) (held : s.numAcquired ≠ 0) :
    s.releaseHead < s.images.length := by
  have := r.bound
  have := r.release
  omega

/-- With an image acquired, the wait head that the successor of the release head equals tells
that the oldest image has been waited on, or the ring has one image. -/
theorem waitHead_eq_succ (r : Refines s t) (held : s.numAcquired ≠ 0) :
    s.waitHead = (s.releaseHead + 1) % s.images.length ↔
      t.waited = true ∨ s.images.length = 1 := by
  have inside := r.releaseHead_lt held
  rw [r.wait]
  by_cases h : t.waited = true
  · simp [h]
  · simp only [h, Bool.false_eq_true, ↓reduceIte, false_or]
    by_cases wraps : s.releaseHead + 1 = s.images.length
    · rw [wraps, Nat.mod_self]
      omega
    · rw [Nat.mod_eq_of_lt (by omega)]
      omega

/-- With an image acquired, the wait head equals the release head when the oldest image has not
been waited on, or the ring has one image. -/
theorem waitHead_eq (r : Refines s t) (held : s.numAcquired ≠ 0) :
    s.waitHead = s.releaseHead ↔ t.waited = false ∨ s.images.length = 1 := by
  have inside := r.releaseHead_lt held
  rw [r.wait]
  by_cases h : t.waited = true
  · simp only [h, ↓reduceIte, Bool.true_eq_false, false_or]
    by_cases wraps : s.releaseHead + 1 = s.images.length
    · rw [wraps, Nat.mod_self]
      omega
    · rw [Nat.mod_eq_of_lt (by omega)]
      omega
  · simp [h]

/-- The swapchain state after a successful acquire stands for the protocol state after it. -/
theorem acquired_next (r : Refines s t) {image : SwapchainImage}
    (space : s.numAcquired < s.images.length) (found : s.images[s.acquireHead]? = some image) :
    Refines (s.acquired image)
      { t with
        acquired := t.acquired ++ [t.next]
        next := (t.next + 1) % s.images.length
        used := t.next :: t.used } where
  bound := by
    simp only [SwapchainState.acquired, SwapchainState.marked, List.length_set]
    omega
  release := by simpa [SwapchainState.acquired, SwapchainState.marked] using r.release
  acquired := by
    simp only [SwapchainState.acquired, SwapchainState.marked, List.length_set,
      ringIndices_succ, r.acquired, r.next, r.acquire]
  acquire := by
    simp only [SwapchainState.acquired, SwapchainState.marked, List.length_set, r.acquire,
      Nat.mod_add_mod, Nat.add_assoc]
  next := by simp only [SwapchainState.acquired, r.next]
  wait := by simpa [SwapchainState.acquired, SwapchainState.marked] using r.wait
  waited := by simp [SwapchainState.acquired]
  used := by
    intro index other at_index
    simp only [SwapchainState.acquired, SwapchainState.marked, List.getElem?_set] at at_index
    rw [r.next, List.mem_cons]
    by_cases same : s.acquireHead = index
    · subst same
      rw [if_pos rfl, if_pos (List.getElem?_eq_some_iff.mp found).1] at at_index
      obtain rfl := Option.some.inj at_index
      simp
    · rw [if_neg same] at at_index
      rw [r.used index other at_index]
      simp [Ne.symm same]

/-- The swapchain state after a successful release stands for the protocol state after it. -/
theorem released_next (r : Refines s t) {count : Nat} (counted : s.numAcquired = count + 1)
    (waited : t.waited = true) :
    Refines s.released
      { t with
        acquired := ringIndices s.images.length ((s.releaseHead + 1) % s.images.length) count
        waited := false } where
  bound := by
    have := r.bound
    simp only [SwapchainState.released]
    omega
  release := by
    have inside := r.releaseHead_lt (by omega)
    simp only [SwapchainState.released]
    have := Nat.mod_lt (s.releaseHead + 1) (show 0 < s.images.length by omega)
    omega
  acquired := by simp [SwapchainState.released, counted]
  acquire := by
    simp only [SwapchainState.released, r.acquire, Nat.mod_add_mod, counted]
    congr 1
    omega
  next := r.next
  wait := by simp [SwapchainState.released, r.wait, waited]
  waited := by simp
  used := r.used

/-- An acquire is answered as the protocol answers it, and keeps the relation. -/
theorem acquire_agree (r : Refines s t) :
    ∃ outcome, s.acquire succeeding = some outcome ∧
      (outcome.result, outcome.index) = (t.call s.images.length s.isStatic .acquire).1 ∧
      outcome.state.images.length = s.images.length ∧ outcome.state.isStatic = s.isStatic ∧
      Refines outcome.state (t.call s.images.length s.isStatic .acquire).2 := by
  have count : t.acquired.length = s.numAcquired := by rw [r.acquired, length_ringIndices]
  by_cases full : s.images.length ≤ s.numAcquired
  · have refused : ¬(t.acquired.length < s.images.length ∧
        ¬(s.isStatic = true ∧ t.next ∈ t.used)) := fun accepted => by omega
    refine ⟨_, SwapchainState.acquire_full succeeding full, ?_⟩
    simp only [CallOrder.call, if_neg refused]
    exact ⟨rfl, rfl, rfl, r⟩
  · have inside : s.acquireHead < s.images.length := by
      rw [r.acquire]
      exact Nat.mod_lt _ (by omega)
    obtain ⟨image, found⟩ : ∃ image, s.images[s.acquireHead]? = some image :=
      ⟨_, List.getElem?_eq_getElem inside⟩
    have flag := r.used _ _ found
    by_cases spent : s.isStatic = true ∧ image.hasBeenAcquired = true
    · have refused : ¬(t.acquired.length < s.images.length ∧
          ¬(s.isStatic = true ∧ t.next ∈ t.used)) := by
        rw [r.next, ← flag]
        exact fun accepted => accepted.2 spent
      refine ⟨_, SwapchainState.acquire_spent succeeding full found spent, ?_⟩
      simp only [CallOrder.call, if_neg refused]
      exact ⟨rfl, rfl, rfl, r⟩
    · have accepted : t.acquired.length < s.images.length ∧
          ¬(s.isStatic = true ∧ t.next ∈ t.used) := by
        rw [r.next, ← flag]
        exact ⟨by omega, spent⟩
      refine ⟨_, SwapchainState.acquire_succeeds full found spent rfl, ?_⟩
      simp only [CallOrder.call, if_pos accepted]
      refine ⟨by rw [r.next], by simp [SwapchainState.acquired, SwapchainState.marked], rfl, ?_⟩
      exact r.acquired_next (by omega) found

/-- A wait that is not ambiguous is answered as the protocol answers it. -/
theorem wait_agree (r : Refines s t) (timeout : Int)
    (clear : t.Unambiguous s.images.length (.wait timeout)) :
    ∃ outcome, s.wait succeeding timeout = some outcome ∧
      (outcome.result, outcome.index) =
        (t.call s.images.length s.isStatic (.wait timeout)).1 ∧
      outcome.state.images.length = s.images.length ∧ outcome.state.isStatic = s.isStatic ∧
      Refines outcome.state (t.call s.images.length s.isStatic (.wait timeout)).2 := by
  by_cases accepted : t.acquired ≠ [] ∧ t.waited = false
  · have held : s.numAcquired ≠ 0 := fun none => accepted.1 (r.acquired_eq_nil.mpr none)
    have heads := (r.waitHead_eq held).mpr (.inl accepted.2)
    obtain ⟨image, found⟩ : ∃ image, s.images[s.releaseHead]? = some image :=
      ⟨_, List.getElem?_eq_getElem (r.releaseHead_lt held)⟩
    refine ⟨_, SwapchainState.wait_succeeds timeout held heads (heads ▸ found) rfl, ?_⟩
    simp only [CallOrder.call, if_pos accepted]
    refine ⟨trivial, rfl, rfl, { r with wait := ?_, waited := fun _ => Nat.pos_of_ne_zero held }⟩
    simp [SwapchainState.waited, heads]
  · simp only [CallOrder.call, if_neg accepted]
    refine ⟨_, SwapchainState.wait_refused succeeding timeout ?_, rfl, rfl, rfl, r⟩
    by_cases held : s.numAcquired = 0
    · exact .inl held
    · right
      have waited : t.waited = true := by
        have queued : t.acquired ≠ [] := fun none => held (r.acquired_eq_nil.mp none)
        simpa [queued] using accepted
      have many : 2 ≤ s.images.length := by simpa [CallOrder.Unambiguous, waited] using clear
      rw [Ne, r.waitHead_eq held]
      simp only [waited, Bool.true_eq_false, false_or]
      omega

/-- A release that is not ambiguous is answered as the protocol answers it. -/
theorem release_agree (r : Refines s t) (clear : t.Unambiguous s.images.length .release) :
    ∃ outcome, s.release succeeding = some outcome ∧
      (outcome.result, outcome.index) = (t.call s.images.length s.isStatic .release).1 ∧
      outcome.state.images.length = s.images.length ∧ outcome.state.isStatic = s.isStatic ∧
      Refines outcome.state (t.call s.images.length s.isStatic .release).2 := by
  by_cases held : s.numAcquired = 0
  · have empty := r.acquired_eq_nil.mpr held
    refine ⟨_, SwapchainState.release_refused succeeding (.inl held), ?_⟩
    simp only [CallOrder.call, empty]
    exact ⟨rfl, rfl, rfl, r⟩
  · obtain ⟨count, counted⟩ := Nat.exists_eq_succ_of_ne_zero held
    have inside := r.releaseHead_lt held
    have queue : t.acquired = s.releaseHead ::
        ringIndices s.images.length ((s.releaseHead + 1) % s.images.length) count := by
      rw [r.acquired, counted, Nat.succ_eq_add_one, ringIndices_cons, Nat.mod_eq_of_lt inside]
    by_cases waited : t.waited = true
    · have heads := (r.waitHead_eq_succ held).mpr (.inl waited)
      obtain ⟨image, found⟩ : ∃ image, s.images[s.releaseHead]? = some image :=
        ⟨_, List.getElem?_eq_getElem inside⟩
      refine ⟨_, SwapchainState.release_succeeds held heads found rfl rfl, ?_⟩
      simp only [CallOrder.call, queue, waited, true_and]
      exact ⟨rfl, rfl, r.released_next counted waited⟩
    · have many : 2 ≤ s.images.length := by
        simpa [CallOrder.Unambiguous, waited, queue] using clear
      refine ⟨_, SwapchainState.release_refused succeeding (.inr ?_), ?_⟩
      · rw [Ne, r.waitHead_eq_succ held]
        simp only [waited, Bool.false_eq_true, false_or]
        omega
      · simp only [CallOrder.call, queue, waited]
        exact ⟨rfl, rfl, rfl, r⟩

/-- Every unambiguous call is answered as the protocol answers it. -/
theorem call_agree (r : Refines s t) (input : Call)
    (clear : t.Unambiguous s.images.length input) :
    ∃ outcome, s.call succeeding input = some outcome ∧
      (outcome.result, outcome.index) = (t.call s.images.length s.isStatic input).1 ∧
      outcome.state.images.length = s.images.length ∧ outcome.state.isStatic = s.isStatic ∧
      Refines outcome.state (t.call s.images.length s.isStatic input).2 := by
  cases input with
  | acquire => exact r.acquire_agree
  | wait timeout => exact r.wait_agree timeout clear
  | release => exact r.release_agree clear

/-- A second wait on the image of a one-image ring succeeds where the protocol refuses it. -/
theorem wait_differs (r : Refines s t) (timeout : Int)
    (confused : ¬t.Unambiguous s.images.length (.wait timeout)) :
    ∃ outcome, s.wait succeeding timeout = some outcome ∧
      (outcome.result, outcome.index) ≠
        (t.call s.images.length s.isStatic (.wait timeout)).1 := by
  simp only [CallOrder.Unambiguous, not_or, Bool.not_eq_false] at confused
  obtain ⟨few, waited⟩ := confused
  have held : s.numAcquired ≠ 0 := Nat.ne_of_gt (r.waited waited)
  have inside := r.releaseHead_lt held
  have heads := (r.waitHead_eq held).mpr (.inr (by omega))
  obtain ⟨image, found⟩ : ∃ image, s.images[s.releaseHead]? = some image :=
    ⟨_, List.getElem?_eq_getElem inside⟩
  refine ⟨_, SwapchainState.wait_succeeds timeout held heads (heads ▸ found) rfl, ?_⟩
  simp [CallOrder.call, waited, XrResult.success, XrResult.callOrderInvalid]

/-- A release of the image of a one-image ring before any wait succeeds where the protocol
refuses it. -/
theorem release_differs (r : Refines s t)
    (confused : ¬t.Unambiguous s.images.length .release) :
    ∃ outcome, s.release succeeding = some outcome ∧
      (outcome.result, outcome.index) ≠ (t.call s.images.length s.isStatic .release).1 := by
  simp only [CallOrder.Unambiguous, not_or, Bool.not_eq_true] at confused
  obtain ⟨few, queued, unwaited⟩ := confused
  have held : s.numAcquired ≠ 0 := fun none => queued (r.acquired_eq_nil.mpr none)
  have inside := r.releaseHead_lt held
  have heads := (r.waitHead_eq_succ held).mpr (.inr (by omega))
  refine ⟨_, SwapchainState.release_succeeds held heads
    (List.getElem?_eq_getElem inside) rfl rfl, ?_⟩
  simp [CallOrder.call, unwaited, XrResult.success, XrResult.callOrderInvalid]

/-- Every ambiguous call is answered as the protocol does not answer it. -/
theorem call_differs (r : Refines s t) (input : Call)
    (confused : ¬t.Unambiguous s.images.length input) :
    ∃ outcome, s.call succeeding input = some outcome ∧
      (outcome.result, outcome.index) ≠ (t.call s.images.length s.isStatic input).1 := by
  cases input with
  | acquire => exact absurd trivial confused
  | wait timeout => exact r.wait_differs timeout confused
  | release => exact r.release_differs confused

/-- From related states, the two answer a list of calls alike exactly when no call of the list
is ambiguous where the protocol takes it. -/
theorem trace_eq_iff (r : Refines s t) (calls : List Call) :
    (SwapchainState.machine succeeding).trace (some s) calls =
        (CallOrder.machine s.images.length s.isStatic).trace t calls ↔
      (CallOrder.machine s.images.length s.isStatic).Along
        (CallOrder.Unambiguous s.images.length) t calls := by
  apply Mealy.trace_eq_iff _ _
    (fun state t => ∃ next, state = some next ∧ next.images.length = s.images.length ∧
      next.isStatic = s.isStatic ∧ Refines next t)
  case agree =>
    rintro _ t input ⟨next, rfl, size, static, r⟩ clear
    rw [← size] at clear
    obtain ⟨outcome, answered, same, kept, keptStatic, after⟩ := r.call_agree input clear
    rw [size, static] at same after
    simp only [SwapchainState.machine, CallOrder.machine, Option.bind_some, answered, same,
      true_and]
    exact ⟨outcome.state, rfl, kept.trans size, keptStatic.trans static, after⟩
  case differ =>
    rintro _ t input ⟨next, rfl, size, static, r⟩ confused
    rw [← size] at confused
    obtain ⟨outcome, answered, apart⟩ := r.call_differs input confused
    rw [size, static] at apart
    simpa only [SwapchainState.machine, CallOrder.machine, Option.bind_some, answered, ne_eq,
      Option.some.injEq] using apart
  case start => exact ⟨s, rfl, rfl, rfl, r⟩

end Refines

/-- From fresh images, with every Vulkan command succeeding, the swapchain answers a list of
calls as the call-order protocol does exactly when no call of the list is ambiguous. -/
theorem swapchain_follows_callOrder (images : List SwapchainImage) (isStatic : Bool)
    (fresh : ∀ image ∈ images, image.hasBeenAcquired = false) (calls : List Call) :
    (SwapchainState.machine succeeding).trace (some (.create images isStatic)) calls =
        (CallOrder.machine images.length isStatic).trace {} calls ↔
      (CallOrder.machine images.length isStatic).Along
        (CallOrder.Unambiguous images.length) {} calls :=
  (Refines.create images isStatic fresh).trace_eq_iff calls

/-- Two fresh images and a whole round of calls meet the hypothesis. -/
theorem swapchain_follows_callOrder_pair :
    let images : List SwapchainImage := [⟨1, 2, 3, 4, 5, false⟩, ⟨6, 7, 8, 9, 10, false⟩]
    let calls : List Call := [.acquire, .wait 0, .release]
    (SwapchainState.machine succeeding).trace (some (.create images false)) calls =
        (CallOrder.machine 2 false).trace {} calls ↔
      (CallOrder.machine 2 false).Along (CallOrder.Unambiguous 2) {} calls :=
  swapchain_follows_callOrder [⟨1, 2, 3, 4, 5, false⟩, ⟨6, 7, 8, 9, 10, false⟩] false
    (by decide) [.acquire, .wait 0, .release]

/-- A one-image swapchain releases its image before any wait, which the protocol refuses. -/
theorem single_image_releases_unwaited :
    (SwapchainState.machine succeeding).trace
        (some (.create [⟨1, 2, 3, 4, 5, false⟩] false)) [.acquire, .release] ≠
      (CallOrder.machine 1 false).trace {} [.acquire, .release] := by
  decide

/-- With two or more images no call is ambiguous, so the swapchain enforces the protocol on
every list of calls. -/
theorem many_images_follow_callOrder (images : List SwapchainImage) (isStatic : Bool)
    (fresh : ∀ image ∈ images, image.hasBeenAcquired = false) (many : 2 ≤ images.length)
    (calls : List Call) :
    (SwapchainState.machine succeeding).trace (some (.create images isStatic)) calls =
      (CallOrder.machine images.length isStatic).trace {} calls := by
  apply ((Refines.create images isStatic fresh).trace_eq_iff calls).mpr
  apply Mealy.along_of_invariant _ _ (fun _ => True) (fun _ _ _ => trivial) _ _ _ trivial
  rintro t (_ | _ | _) _
  · trivial
  · exact .inl many
  · exact .inl many

end XrTransport.Vulkan.Client
