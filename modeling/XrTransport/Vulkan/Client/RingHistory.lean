import Mathlib.Data.List.Nodup
import Mathlib.Data.Nat.ModEq
import XrTransport.Foundation.Transition
import XrTransport.Vulkan.Client.CallOrder

/-!
# The ring of images over any run

A run is any list of calls, each with its own answers of the driver. Its history remembers the
indices of the images handed out and taken back. Between the two lists lie the acquired images,
which the heads and the counter describe as a stretch of the ring.
-/
namespace XrTransport.Vulkan.Client

/-- A swapchain and the indices its calls have written so far, oldest first. -/
structure History where
  /-- The swapchain. -/
  state : SwapchainState
  /-- The indices written by successful acquires. -/
  acquired : List Nat := []
  /-- The indices written by successful releases. -/
  released : List Nat := []

/-- The divisors of the `%` operations that a call evaluates: a release takes the successor of the
release head once it has seen that an image is acquired, and a call that succeeds moves its head. -/
def SwapchainState.divisors (vk : Driver) (s : SwapchainState) (input : Call) : List Nat :=
  (if input = .release ∧ s.numAcquired ≠ 0 then [s.images.length] else []) ++
    match s.call vk input with
    | some outcome => if outcome.result = .success then [s.images.length] else []
    | none => []

namespace History

/-- The acquired images that have not been released. -/
def held (history : History) : List Nat := history.acquired.drop history.released.length

/-- A call and the answers of the driver during it. -/
def step (history : History) (label : Call × Driver) : Option History :=
  (history.state.call label.2 label.1).map fun outcome =>
    match label.1 with
    | .acquire =>
      { history with
        state := outcome.state
        acquired := history.acquired ++ outcome.index.toList }
    | .wait _ => { history with state := outcome.state }
    | .release =>
      { history with
        state := outcome.state
        released := history.released ++ outcome.index.toList }

/-- The histories of a swapchain, from its creation. -/
def system (images : List SwapchainImage) (isStatic : Bool) : System History (Call × Driver) where
  init := { state := SwapchainState.create images isStatic }
  step := step

end History

/-- What the heads and the counter of a ring of `size` images satisfy. -/
structure RingInvariant (size : Nat) (s : SwapchainState) : Prop where
  /-- The ring keeps its images. -/
  length : s.images.length = size
  /-- At most every image is acquired. -/
  bound : s.numAcquired ≤ size
  /-- The release head is an index of the ring, or zero when the ring is empty. -/
  release : s.releaseHead < max 1 size
  /-- The acquire head comes after the acquired images. -/
  acquire : 0 < size → s.acquireHead = (s.releaseHead + s.numAcquired) % size
  /-- The wait head is the release head or its successor. -/
  wait : s.waitHead = s.releaseHead ∨ 0 < size ∧ s.waitHead = (s.releaseHead + 1) % size

namespace RingInvariant

variable {size : Nat} {s : SwapchainState}

/-- With an image acquired the release head is an index of the ring. -/
theorem releaseHead_lt (ring : RingInvariant size s) (held : s.numAcquired ≠ 0) :
    s.releaseHead < s.images.length := by
  have bound := ring.bound
  have release := ring.release
  have length := ring.length
  omega

/-- With room for one more image the acquire head is an index of the ring. -/
theorem acquireHead_lt (ring : RingInvariant size s) (space : s.numAcquired < s.images.length) :
    s.acquireHead < s.images.length := by
  have positive : 0 < size := by
    have length := ring.length
    omega
  rw [ring.acquire positive, ring.length]
  exact Nat.mod_lt _ positive

/-- With an image acquired the wait head is an index of the ring. -/
theorem waitHead_lt (ring : RingInvariant size s) (held : s.numAcquired ≠ 0) :
    s.waitHead < s.images.length := by
  rcases ring.wait with same | ⟨positive, ahead⟩
  · rw [same]
    exact ring.releaseHead_lt held
  · rw [ahead, ring.length]
    exact Nat.mod_lt _ positive

/-- A new ring. -/
theorem create (images : List SwapchainImage) (isStatic : Bool) :
    RingInvariant images.length (SwapchainState.create images isStatic) where
  length := rfl
  bound := Nat.zero_le _
  release := by
    simp only [SwapchainState.create]
    omega
  acquire := by simp [SwapchainState.create]
  wait := .inl rfl

/-- Setting the flag of an image moves no head. -/
theorem marked (ring : RingInvariant size s) (image : SwapchainImage) :
    RingInvariant size (s.marked image) where
  length := by simp [SwapchainState.marked, ring.length]
  bound := ring.bound
  release := ring.release
  acquire := ring.acquire
  wait := ring.wait

/-- An acquire moves the acquire head and counts the image. -/
theorem acquired (ring : RingInvariant size s) (image : SwapchainImage)
    (space : s.numAcquired < s.images.length) : RingInvariant size (s.acquired image) where
  length := by simp [SwapchainState.acquired, SwapchainState.marked, ring.length]
  bound := by
    have length := ring.length
    simp only [SwapchainState.acquired]
    omega
  release := ring.release
  acquire := by
    intro positive
    simp only [SwapchainState.acquired, SwapchainState.marked, ring.acquire positive, ring.length,
      Nat.mod_add_mod, Nat.add_assoc]
  wait := ring.wait

/-- A wait moves the wait head from the release head. -/
theorem waited (ring : RingInvariant size s) (held : s.numAcquired ≠ 0)
    (heads : s.waitHead = s.releaseHead) : RingInvariant size s.waited where
  length := ring.length
  bound := ring.bound
  release := ring.release
  acquire := ring.acquire
  wait := by
    have bound := ring.bound
    right
    refine ⟨by omega, ?_⟩
    simp only [SwapchainState.waited, heads, ring.length]

/-- A release moves the release head to the wait head. -/
theorem released (ring : RingInvariant size s) (held : s.numAcquired ≠ 0)
    (heads : s.waitHead = (s.releaseHead + 1) % s.images.length) :
    RingInvariant size s.released where
  length := ring.length
  bound := by
    have bound := ring.bound
    simp only [SwapchainState.released]
    omega
  release := by
    have bound := ring.bound
    have inside : (s.releaseHead + 1) % s.images.length < s.images.length :=
      Nat.mod_lt _ (by rw [ring.length]; omega)
    have length := ring.length
    simp only [SwapchainState.released]
    omega
  acquire := by
    intro positive
    have moved : s.releaseHead + 1 + (s.numAcquired - 1) = s.releaseHead + s.numAcquired := by
      omega
    simp only [SwapchainState.released, ring.acquire positive, ring.length, Nat.mod_add_mod, moved]
  wait := .inl heads

end RingInvariant

/-- A stretch of the ring that is not longer than the ring meets no image twice. -/
theorem nodup_ringIndices {size start count : Nat} (fits : count ≤ size) :
    (ringIndices size start count).Nodup := by
  apply List.Nodup.map_on _ List.nodup_range
  intro one oneInside two twoInside same
  rw [List.mem_range] at oneInside twoInside
  have congruent : one % size = two % size := Nat.ModEq.add_left_cancel' start same
  rwa [Nat.mod_eq_of_lt (by omega), Nat.mod_eq_of_lt (by omega)] at congruent

/-- The image after a stretch that leaves room is not of the stretch. -/
theorem next_notMem_ringIndices {size start count : Nat} (space : count < size) :
    (start + count) % size ∉ ringIndices size start count := by
  have distinct : (ringIndices size start (count + 1)).Nodup := nodup_ringIndices space
  rw [ringIndices_succ, List.nodup_append] at distinct
  intro member
  exact distinct.2.2 _ member _ (List.mem_singleton_self _) rfl

/-- A call divides by the number of images, which is positive where an image is acquired or the call
succeeds. -/
theorem RingInvariant.divisors_pos {size : Nat} {s : SwapchainState} (ring : RingInvariant size s)
    {vk : Driver} {input : Call} {outcome : CallOutcome} (answered : s.call vk input = some outcome)
    (moved : outcome.result = .success → 0 < size) :
    ∀ divisor ∈ s.divisors vk input, 0 < divisor := by
  have bound := ring.bound
  intro divisor member
  simp only [SwapchainState.divisors, answered, List.mem_append] at member
  rcases member with compared | moves
  · by_cases held : input = .release ∧ s.numAcquired ≠ 0
    · rw [if_pos held, List.mem_singleton, ring.length] at compared
      omega
    · rw [if_neg held] at compared
      cases compared
  · by_cases success : outcome.result = .success
    · rw [if_pos success, List.mem_singleton, ring.length] at moves
      rw [moves]
      exact moved success
    · rw [if_neg success] at moves
      cases moves

namespace History

/-- The ring invariant, and the acquired images as the stretch of the ring between the heads. -/
structure Sound (size : Nat) (history : History) : Prop where
  /-- The ring invariant. -/
  ring : RingInvariant size history.state
  /-- What has been acquired is what has been released and the stretch after it. -/
  queue : history.acquired = history.released ++
    ringIndices size history.state.releaseHead history.state.numAcquired
  /-- Only indices of the ring have been handed out. -/
  inside : ∀ index ∈ history.acquired, index < size

variable {size : Nat} {history : History}

/-- A new swapchain has no history. -/
theorem sound_init (images : List SwapchainImage) (isStatic : Bool) :
    Sound images.length (system images isStatic).init where
  ring := RingInvariant.create images isStatic
  queue := rfl
  inside := by simp [system]

/-- The held images are the stretch of the ring between the heads. -/
theorem Sound.held_eq (sound : Sound size history) :
    history.held = ringIndices size history.state.releaseHead history.state.numAcquired := by
  rw [held, sound.queue, List.drop_left]

/-- An acquire is answered, and keeps the history sound. -/
theorem Sound.acquire (sound : Sound size history) (vk : Driver) :
    ∃ outcome, history.state.acquire vk = some outcome ∧
      Sound size { history with
        state := outcome.state
        acquired := history.acquired ++ outcome.index.toList } ∧
      (outcome.result = .success → 0 < size) ∧
      ∀ index ∈ outcome.index, index < size ∧ index ∉ history.held := by
  obtain ⟨outcome, answered⟩ := SwapchainState.acquire_answered vk sound.ring.acquireHead_lt
  refine ⟨outcome, answered, ?_⟩
  cases SwapchainState.acquire_cases answered with
  | full | spent =>
    simp only [SwapchainState.refuse, Option.toList_none, List.append_nil]
    exact ⟨⟨sound.ring, sound.queue, sound.inside⟩, (nomatch ·), by simp⟩
  | fails image space found unspent answer =>
    simp only [SwapchainState.refuse, Option.toList_none, List.append_nil]
    exact ⟨⟨sound.ring.marked image, sound.queue, sound.inside⟩, (nomatch ·), by simp⟩
  | succeeds image space found unspent answer =>
    have positive : 0 < size := by
      rw [← sound.ring.length]
      omega
    have head := sound.ring.acquire positive
    have below : history.state.acquireHead < size :=
      sound.ring.length ▸ sound.ring.acquireHead_lt space
    refine ⟨⟨sound.ring.acquired image space, ?_, ?_⟩, fun _ => positive, ?_⟩
    · simp only [SwapchainState.acquired, SwapchainState.marked, Option.toList_some,
        ringIndices_succ, sound.queue, head, List.append_assoc]
    · intro index member
      rcases List.mem_append.mp member with before | now
      · exact sound.inside index before
      · rw [List.mem_singleton.mp now]
        exact below
    · intro index written
      cases written
      refine ⟨below, ?_⟩
      rw [sound.held_eq, head]
      exact next_notMem_ringIndices (by rw [← sound.ring.length]; exact space)

/-- A wait is answered, and keeps the history sound. -/
theorem Sound.wait (sound : Sound size history) (vk : Driver) (timeout : Int) :
    ∃ outcome, history.state.wait vk timeout = some outcome ∧
      Sound size { history with state := outcome.state } ∧
      (outcome.result = .success → 0 < size) := by
  obtain ⟨outcome, answered⟩ := SwapchainState.wait_answered vk timeout sound.ring.waitHead_lt
  refine ⟨outcome, answered, ?_⟩
  cases SwapchainState.wait_cases answered with
  | refused order => exact ⟨⟨sound.ring, sound.queue, sound.inside⟩, (nomatch ·)⟩
  | fails image result held heads found answer failed =>
    exact ⟨⟨sound.ring, sound.queue, sound.inside⟩, fun success => absurd success failed⟩
  | succeeds image held heads found answer =>
    have bound := sound.ring.bound
    exact ⟨⟨sound.ring.waited held heads, sound.queue, sound.inside⟩, fun _ => by omega⟩

/-- A release is answered, and keeps the history sound. -/
theorem Sound.release (sound : Sound size history) (vk : Driver) :
    ∃ outcome, history.state.release vk = some outcome ∧
      Sound size { history with
        state := outcome.state
        released := history.released ++ outcome.index.toList } ∧
      (outcome.result = .success → 0 < size) := by
  obtain ⟨outcome, answered⟩ := SwapchainState.release_answered vk sound.ring.releaseHead_lt
  refine ⟨outcome, answered, ?_⟩
  cases SwapchainState.release_cases answered with
  | refused order =>
    simp only [SwapchainState.refuse, Option.toList_none, List.append_nil]
    exact ⟨⟨sound.ring, sound.queue, sound.inside⟩, (nomatch ·)⟩
  | resetFails image held heads found reset =>
    simp only [SwapchainState.refuse, Option.toList_none, List.append_nil]
    exact ⟨⟨sound.ring, sound.queue, sound.inside⟩, (nomatch ·)⟩
  | submitFails image held heads found reset submit =>
    simp only [SwapchainState.refuse, Option.toList_none, List.append_nil]
    exact ⟨⟨sound.ring, sound.queue, sound.inside⟩, (nomatch ·)⟩
  | succeeds image held heads found reset submit =>
    have bound := sound.ring.bound
    have inside : history.state.releaseHead < size :=
      sound.ring.length ▸ sound.ring.releaseHead_lt held
    have oldest : ringIndices size history.state.releaseHead history.state.numAcquired =
        history.state.releaseHead ::
          ringIndices size ((history.state.releaseHead + 1) % size)
            (history.state.numAcquired - 1) := by
      obtain ⟨count, counted⟩ := Nat.exists_eq_succ_of_ne_zero held
      rw [counted, ringIndices_cons, Nat.mod_eq_of_lt inside, Nat.succ_sub_one]
    refine ⟨⟨sound.ring.released held heads, ?_, sound.inside⟩, fun _ => by omega⟩
    simp only [SwapchainState.released, Option.toList_some, sound.queue, oldest,
      sound.ring.length, List.append_assoc, List.singleton_append]

/-- Every call is answered, keeps the history sound, divides by no zero, and hands out only an index
of the ring that is not held. -/
theorem Sound.step (sound : Sound size history) (input : Call) (vk : Driver) :
    (∃ next, history.step (input, vk) = some next ∧ Sound size next) ∧
      ∃ outcome, history.state.call vk input = some outcome ∧
        (∀ divisor ∈ history.state.divisors vk input, 0 < divisor) ∧
        (input = .acquire → ∀ index ∈ outcome.index, index < size ∧ index ∉ history.held) := by
  cases input with
  | acquire =>
    obtain ⟨outcome, answered, kept, moved, fresh⟩ := sound.acquire vk
    refine ⟨⟨_, ?_, kept⟩, outcome, answered, ?_, fun _ => fresh⟩
    · simp only [History.step, SwapchainState.call, answered, Option.map_some]
    · exact sound.ring.divisors_pos answered moved
  | wait timeout =>
    obtain ⟨outcome, answered, kept, moved⟩ := sound.wait vk timeout
    refine ⟨⟨_, ?_, kept⟩, outcome, answered, ?_, fun acquire => nomatch acquire⟩
    · simp only [History.step, SwapchainState.call, answered, Option.map_some]
    · exact sound.ring.divisors_pos answered moved
  | release =>
    obtain ⟨outcome, answered, kept, moved⟩ := sound.release vk
    refine ⟨⟨_, ?_, kept⟩, outcome, answered, ?_, fun acquire => nomatch acquire⟩
    · simp only [History.step, SwapchainState.call, answered, Option.map_some]
    · exact sound.ring.divisors_pos answered moved

/-- Every list of calls is answered to its end, and leaves a sound history. -/
theorem Sound.run (sound : Sound size history) {images : List SwapchainImage} {isStatic : Bool}
    (calls : List (Call × Driver)) :
    ∃ last, (system images isStatic).run history calls = some last ∧ Sound size last := by
  induction calls generalizing history with
  | nil => exact ⟨history, rfl, sound⟩
  | cons label rest ih =>
    obtain ⟨⟨next, taken, kept⟩, _⟩ := sound.step label.1 label.2
    obtain ⟨last, ran, soundLast⟩ := ih kept
    refine ⟨last, ?_, soundLast⟩
    have first : (system images isStatic).step history label = some next := taken
    rw [System.run, first, Option.bind_some, ran]

end History

/-- Whatever the driver answers, every list of calls is answered to its end without an index or a
divisor out of range. After it the heads and the counter describe a stretch of the ring, images have
been released in the order they were acquired, and the next acquire hands out no image that is
held. -/
theorem ring_first_in_first_out (images : List SwapchainImage) (isStatic : Bool)
    (calls : List (Call × Driver)) :
    ∃ history, (History.system images isStatic).run (History.system images isStatic).init calls =
        some history ∧
      RingInvariant images.length history.state ∧
      (∀ index ∈ history.acquired, index < images.length) ∧
      history.released <+: history.acquired ∧
      history.held.Nodup ∧
      ∀ input vk, ∃ outcome, history.state.call vk input = some outcome ∧
        (∀ divisor ∈ history.state.divisors vk input, 0 < divisor) ∧
        (input = .acquire →
          ∀ index ∈ outcome.index, index < images.length ∧ index ∉ history.held) := by
  obtain ⟨history, ran, sound⟩ :=
    @History.Sound.run _ _ (History.sound_init images isStatic) images isStatic calls
  refine ⟨history, ran, sound.ring, sound.inside, ?_, ?_, fun input vk => (sound.step input vk).2⟩
  · rw [sound.queue]
    exact List.prefix_append _ _
  · rw [sound.held_eq]
    exact nodup_ringIndices sound.ring.bound

end XrTransport.Vulkan.Client
