import Mathlib.Data.List.Nodup
import XrTransport.Foundation.LinkedList
import XrTransport.OpenXr

/-!
# Events in the application's buffer

`xrPollEventImpl` receives a chain of structs on the heap, copies it struct by struct into the
`XrEventDataBuffer` of the application, and frees the original.
-/
namespace XrTransport.Client

open Memory (Linked Leads headAddress layOut without free)

/-- An event struct, without its `next` pointer. -/
structure Event where
  /-- `type`. -/
  type : Nat
  /-- The other members. -/
  body : List UInt8
deriving DecidableEq, Repr

/-- `size_lookup`, for the known types. -/
structure SizeLookup where
  /-- The size of a struct of that type. -/
  size : Nat → Nat
  /-- A struct begins with its type and its `next` pointer. -/
  header : ∀ type, 16 ≤ size type

/-- `event_data_out`: the application's buffer. -/
structure EventDataBuffer where
  /-- Its address. -/
  address : Nat
  /-- It is not null. -/
  nonnull : address ≠ 0
  /-- It is aligned as its type demands. -/
  aligned : address % 8 = 0

/-- `sizeof(XrEventDataBuffer)`. -/
def bufferSize : Nat := 4016

/-- The location rounded up to `alignof(std::max_align_t)`. -/
def alignUp (location : Nat) : Nat := (location + 16 - 1) / 16 * 16

/-- The loop that copies one struct after the other into the buffer. Its state is the last struct
copied and its size; `fuel` bounds the rounds. -/
def copyChain (lookup : SizeLookup) (endOfBuffer : Nat) :
    Nat → Memory Event → Nat → Nat → Option (Memory Event)
  | 0, _, _, _ => none
  | fuel + 1, memory, lastStructOut, lastStructSize =>
    match memory lastStructOut with
    | none => none
    | some last =>
      if last.next = 0 then some memory
      else
        match memory last.next with
        | none => none
        | some structIn =>
          let structSize := lookup.size structIn.content.type
          let structOut := alignUp (lastStructOut + lastStructSize)
          -- the pointer of the last struct is left as it is
          if endOfBuffer < structOut + structSize then some memory
          else
            let memory := Function.update memory structOut (some structIn)
            let memory :=
              Function.update memory lastStructOut (some { last with next := structOut })
            copyChain lookup endOfBuffer fuel memory structOut structSize

/-- `xrPollEventImpl`: the result received, and the events as `deserialize_xr` has allocated them.
-/
def xrPollEvent (lookup : SizeLookup) (memory : Memory Event) (out : EventDataBuffer)
    (result : XrResult) (events : List (Nat × Event)) : Option (XrResult × Memory Event) :=
  if result ≠ .success then some (result, memory)
  else do
    let memory := memory.layOut events
    let eventDataIn := headAddress events
    let first ← memory eventDataIn
    let memory := Function.update memory out.address (some first)
    let memory ← copyChain lookup (out.address + bufferSize) (events.length + 1) memory out.address
      (lookup.size first.content.type)
    -- `cleanup_xr`
    let memory ← memory.free events.length eventDataIn
    return (.success, memory)

/-- The allocator has placed the events at different addresses outside the buffer. -/
structure Allocated (out : EventDataBuffer) (events : List (Nat × Event)) : Prop where
  /-- The addresses are different. -/
  apart : (events.map Prod.fst).Nodup
  /-- None is null. -/
  nonnull : ∀ event ∈ events, event.1 ≠ 0
  /-- None is in the buffer. -/
  outside : ∀ event ∈ events, event.1 < out.address ∨ out.address + bufferSize ≤ event.1

/-- The events fit behind a location, each at the next aligned address. -/
def FitBehind (lookup : SizeLookup) (endOfBuffer : Nat) : Nat → List (Nat × Event) → Prop
  | _, [] => True
  | location, event :: rest =>
    alignUp location + lookup.size event.2.type ≤ endOfBuffer ∧
      FitBehind lookup endOfBuffer (alignUp location + lookup.size event.2.type) rest

/-- Whether they do is decided one by one. -/
instance decidableFitBehind (lookup : SizeLookup) (endOfBuffer : Nat) :
    ∀ location events, Decidable (FitBehind lookup endOfBuffer location events)
  | _, [] => inferInstanceAs (Decidable True)
  | location, event :: rest =>
    have := decidableFitBehind lookup endOfBuffer
      (alignUp location + lookup.size event.2.type) rest
    inferInstanceAs (Decidable (_ ∧ _))

/-- All events fit into the buffer. -/
def Fit (lookup : SizeLookup) (out : EventDataBuffer) : List (Nat × Event) → Prop
  | [] => True
  | first :: rest =>
    FitBehind lookup (out.address + bufferSize) (out.address + lookup.size first.2.type) rest

instance (lookup : SizeLookup) (out : EventDataBuffer) :
    ∀ events, Decidable (Fit lookup out events)
  | [] => inferInstanceAs (Decidable True)
  | _ :: _ => inferInstanceAs (Decidable (FitBehind _ _ _ _))

/-- The structs at these addresses do not overlap. -/
def Disjoint (lookup : SizeLookup) (one two : Nat × Event) : Prop :=
  one.1 + lookup.size one.2.type ≤ two.1 ∨ two.1 + lookup.size two.2.type ≤ one.1

/-- The chain in the buffer is a prefix of the received one, ends in null, and every struct of it
lies aligned in the buffer, apart from the others. -/
def SelfContained (lookup : SizeLookup) (out : EventDataBuffer) (events : List (Nat × Event))
    (memory : Memory Event) : Prop :=
  ∃ nodes, memory.Linked out.address nodes ∧ nodes.map Prod.snd <+: events.map Prod.snd ∧
    (∀ node ∈ nodes, node.1 % 8 = 0 ∧ out.address ≤ node.1 ∧
      node.1 + lookup.size node.2.type ≤ out.address + bufferSize) ∧
    nodes.Pairwise (Disjoint lookup)

/-- A list of nodes packed behind a location. -/
def Packed (lookup : SizeLookup) (endOfBuffer : Nat) : Nat → List (Nat × Event) → Prop
  | _, [] => True
  | location, node :: rest =>
    location ≤ node.1 ∧ node.1 % 8 = 0 ∧ node.1 + lookup.size node.2.type ≤ endOfBuffer ∧
      Packed lookup endOfBuffer (node.1 + lookup.size node.2.type) rest

/-- Rounding up goes up. -/
theorem le_alignUp (location : Nat) : location ≤ alignUp location := by
  simp only [alignUp]
  omega

/-- The rounded location is aligned. -/
theorem alignUp_mod (location : Nat) : alignUp location % 8 = 0 := by
  simp only [alignUp]
  omega

section Packing

variable {lookup : SizeLookup} {endOfBuffer : Nat}

/-- Nodes packed behind a location lie behind it. -/
theorem Packed.behind {location : Nat} {nodes : List (Nat × Event)}
    (packed : Packed lookup endOfBuffer location nodes) : ∀ node ∈ nodes, location ≤ node.1 := by
  induction nodes generalizing location with
  | nil => simp
  | cons first rest ih =>
    obtain ⟨behind, -, -, packed⟩ := packed
    intro node member
    rcases List.mem_cons.mp member with rfl | member
    · exact behind
    · have later := ih packed node member
      omega

/-- Packed nodes are aligned and end in the buffer. -/
theorem Packed.inside {location : Nat} {nodes : List (Nat × Event)}
    (packed : Packed lookup endOfBuffer location nodes) :
    ∀ node ∈ nodes, node.1 % 8 = 0 ∧ node.1 + lookup.size node.2.type ≤ endOfBuffer := by
  induction nodes generalizing location with
  | nil => simp
  | cons first rest ih =>
    obtain ⟨-, aligned, inside, packed⟩ := packed
    intro node member
    rcases List.mem_cons.mp member with rfl | member
    · exact ⟨aligned, inside⟩
    · exact ih packed node member

/-- Packed nodes do not overlap. -/
theorem Packed.pairwise {location : Nat} {nodes : List (Nat × Event)}
    (packed : Packed lookup endOfBuffer location nodes) : nodes.Pairwise (Disjoint lookup) := by
  induction nodes generalizing location with
  | nil => exact .nil
  | cons first rest ih =>
    obtain ⟨-, -, -, packed⟩ := packed
    exact .cons (fun node member => .inl (packed.behind node member)) (ih packed)

/-- What the loop does from the last struct on: it leaves everything outside the rest of the buffer,
packs all structs that follow if they fit, and otherwise leaves a pointer to one of them. -/
theorem copyChain_spec {rest : List (Nat × Event)} {fuel : Nat} {memory : Memory Event}
    {last : Nat} {event : Event} (enough : rest.length < fuel) (nonnull : last ≠ 0)
    (there : memory last = some ⟨event, headAddress rest⟩)
    (linked : memory.Linked (headAddress rest) rest)
    (outside : ∀ node ∈ rest, node.1 < last ∨ endOfBuffer ≤ node.1)
    (inside : last + lookup.size event.type ≤ endOfBuffer) :
    ∃ after, copyChain lookup endOfBuffer fuel memory last (lookup.size event.type) = some after ∧
      (∀ address, address < last ∨ endOfBuffer ≤ address → after address = memory address) ∧
      (FitBehind lookup endOfBuffer (last + lookup.size event.type) rest →
        ∃ placed, after.Linked last ((last, event) :: placed) ∧
          placed.map Prod.snd = rest.map Prod.snd ∧
          Packed lookup endOfBuffer (last + lookup.size event.type) placed) ∧
      (¬FitBehind lookup endOfBuffer (last + lookup.size event.type) rest →
        ∃ node ∈ rest, after.Leads last node.1) := by
  induction rest generalizing fuel memory last event with
  | nil =>
    obtain ⟨fuel, rfl⟩ := Nat.exists_eq_succ_of_ne_zero (Nat.ne_of_gt enough)
    refine ⟨memory, by simp [copyChain, there, headAddress], fun _ _ => rfl, fun _ => ?_, ?_⟩
    · exact ⟨[], ⟨rfl, nonnull, 0, there, rfl⟩, rfl, trivial⟩
    · exact fun fits => absurd trivial fits
  | cons node rest ih =>
    obtain ⟨fuel, rfl⟩ := Nat.exists_eq_succ_of_ne_zero (Nat.ne_of_gt (Nat.zero_lt_of_lt enough))
    obtain ⟨-, nodeNonnull, next, nodeThere, linked⟩ := linked
    obtain rfl := linked.start
    have step : copyChain lookup endOfBuffer (fuel + 1) memory last (lookup.size event.type) =
        if endOfBuffer < alignUp (last + lookup.size event.type) + lookup.size node.2.type then
          some memory
        else copyChain lookup endOfBuffer fuel
          (Function.update (Function.update memory (alignUp (last + lookup.size event.type))
            (some ⟨node.2, headAddress rest⟩)) last
            (some ⟨event, alignUp (last + lookup.size event.type)⟩))
          (alignUp (last + lookup.size event.type)) (lookup.size node.2.type) := by
      simp only [copyChain, there, headAddress, nodeNonnull, if_false, nodeThere]
    have header := lookup.header event.type
    have up := le_alignUp (last + lookup.size event.type)
    have size := lookup.header node.2.type
    generalize place : alignUp (last + lookup.size event.type) = structOut at step up
    by_cases overrun : endOfBuffer < structOut + lookup.size node.2.type
    · rw [if_pos overrun] at step
      refine ⟨memory, step, fun _ _ => rfl, fun fits => ?_, fun _ => ?_⟩
      · have first := fits.1
        rw [place] at first
        omega
      · exact ⟨node, by simp, .next nonnull there (.here _)⟩
    · rw [if_neg overrun] at step
      have kept (address : Nat) (out : address < last ∨ endOfBuffer ≤ address) :
          Function.update (Function.update memory structOut (some ⟨node.2, headAddress rest⟩)) last
            (some ⟨event, structOut⟩) address = memory address := by
        have awayFromLast : address ≠ last := by omega
        have awayFromOut : address ≠ structOut := by omega
        rw [Function.update_of_ne awayFromLast, Function.update_of_ne awayFromOut]
      have outThere : Function.update (Function.update memory structOut
          (some ⟨node.2, headAddress rest⟩)) last (some ⟨event, structOut⟩) structOut =
            some ⟨node.2, headAddress rest⟩ := by
        have awayFromLast : structOut ≠ last := by omega
        rw [Function.update_of_ne awayFromLast, Function.update_self]
      have outsideOut (other : Nat × Event) (member : other ∈ rest) :
          other.1 < structOut ∨ endOfBuffer ≤ other.1 := by
        have away := outside other (by simp [member])
        omega
      have nonnullOut : structOut ≠ 0 := by omega
      obtain ⟨after, copied, frame, fitting, overrunning⟩ :=
        ih (Nat.lt_of_succ_lt_succ enough) nonnullOut outThere
          (linked.congr fun other member => kept _ (outside other (by simp [member]))) outsideOut
          (Nat.le_of_not_lt overrun)
      have lastThere : after last = some ⟨event, structOut⟩ := by
        rw [frame last (by omega), Function.update_self]
      refine ⟨after, step.trans copied, fun address out => ?_, fun fits => ?_, fun fits => ?_⟩
      · rw [frame address (by omega), kept address out]
      · rw [FitBehind, place] at fits
        obtain ⟨placed, chained, same, packed⟩ := fitting fits.2
        refine ⟨(structOut, node.2) :: placed, ⟨rfl, nonnull, structOut, lastThere, chained⟩,
          ?_, ?_⟩
        · rw [List.map_cons, List.map_cons, same]
        · exact ⟨up, place ▸ alignUp_mod _, Nat.le_of_not_lt overrun, packed⟩
      · rw [FitBehind, place] at fits
        obtain ⟨other, member, leads⟩ := overrunning fun later => fits ⟨by omega, later⟩
        exact ⟨other, by simp [member], .next nonnull lastThere leads⟩

end Packing

section Polling

variable {lookup : SizeLookup} {out : EventDataBuffer} {events : List (Nat × Event)}
  {memory : Memory Event}

/-- The function returns, and what it leaves in the buffer is a packed copy of all events if they
fit, and otherwise a chain that leads to memory it has freed. -/
theorem xrPollEvent_spec (allocated : Allocated out events) {first : Nat × Event}
    {rest : List (Nat × Event)} (shape : events = first :: rest)
    (small : lookup.size first.2.type ≤ bufferSize) :
    ∃ after, xrPollEvent lookup memory out .success events = some (.success, after) ∧
      (Fit lookup out events → ∃ placed,
        after.Linked out.address ((out.address, first.2) :: placed) ∧
        placed.map Prod.snd = rest.map Prod.snd ∧
        Packed lookup (out.address + bufferSize) (out.address + lookup.size first.2.type) placed) ∧
      (¬Fit lookup out events → ∃ address, after.Leads out.address address ∧ address ≠ 0 ∧
        after address = none) := by
  subst shape
  have linked : (memory.layOut (first :: rest)).Linked first.1 (first :: rest) :=
    Memory.linked_layOut allocated.apart allocated.nonnull
  obtain ⟨-, -, next, there, others⟩ := id linked
  obtain rfl := others.start
  have away (node : Nat × Event) (member : node ∈ first :: rest) : node.1 ≠ out.address := by
    have outside := allocated.outside node member
    simp only [bufferSize] at outside
    omega
  have copied : Linked (Function.update (memory.layOut (first :: rest)) out.address
      (some ⟨first.2, headAddress rest⟩)) (headAddress rest) rest :=
    others.congr fun node member => Function.update_of_ne (away node (by simp [member])) _ _
  have enough : rest.length < (first :: rest).length + 1 := by
    rw [List.length_cons]
    omega
  have insideOut : out.address + lookup.size first.2.type ≤ out.address + bufferSize := by omega
  obtain ⟨middle, loop, frame, fitting, overrunning⟩ :=
    copyChain_spec enough out.nonnull (Function.update_self _ _ _) copied
      (fun node member => allocated.outside node (by simp [member])) insideOut
  have kept : middle.Linked first.1 (first :: rest) := linked.congr fun node member => by
    rw [frame node.1 (allocated.outside node member),
      Function.update_of_ne (away node member)]
  have freed := Memory.free_eq kept (Nat.le_refl _)
  refine ⟨middle.without (first :: rest), ?_, fun fits => ?_, fun fits => ?_⟩
  · have start : headAddress (first :: rest) = first.1 := rfl
    simp only [xrPollEvent, ne_eq, not_true_eq_false, if_false, start, there,
      Option.bind_eq_bind, Option.bind_some, loop, freed]
    rfl
  · obtain ⟨placed, chained, same, packed⟩ := fitting fits
    refine ⟨placed, chained.congr fun node member => Memory.without_of_notMem ?_, same, packed⟩
    intro there
    obtain ⟨event, member', address⟩ := List.mem_map.mp there
    have outside := allocated.outside event member'
    have header := lookup.header first.2.type
    rcases List.mem_cons.mp member with rfl | member
    · omega
    · have behind := packed.behind node member
      have inside := packed.inside node member
      have size := lookup.header node.2.type
      omega
  · obtain ⟨node, member, leads⟩ := overrunning fits
    have freedNode : node.1 ∈ (first :: rest).map Prod.fst :=
      List.mem_map_of_mem (List.mem_cons_of_mem _ member)
    obtain ⟨gone, there, leads⟩ := leads.without freedNode
    obtain ⟨event, member', rfl⟩ := List.mem_map.mp there
    exact ⟨event.1, leads, allocated.nonnull event member', Memory.without_of_mem there⟩

/-- For every chain of events whose first struct is not larger than the buffer, the function
succeeds, and what it leaves there is self-contained exactly if all events fit. -/
theorem xrPollEvent_selfContained_iff (allocated : Allocated out events) {first : Nat × Event}
    {rest : List (Nat × Event)} (shape : events = first :: rest)
    (small : lookup.size first.2.type ≤ bufferSize) :
    ∃ after, xrPollEvent lookup memory out .success events = some (.success, after) ∧
      (SelfContained lookup out events after ↔ Fit lookup out events) := by
  obtain ⟨after, polled, fitting, overrunning⟩ :=
    @xrPollEvent_spec lookup out events memory allocated first rest shape small
  subst shape
  refine ⟨after, polled, fun contained => ?_, fun fits => ?_⟩
  · by_contra fits
    obtain ⟨address, leads, nonnull, dangling⟩ := overrunning fits
    obtain ⟨nodes, linked, -⟩ := contained
    exact leads.not_linked nonnull dangling linked
  · obtain ⟨placed, linked, same, packed⟩ := fitting fits
    refine ⟨_, linked, ?_, fun node member => ?_, ?_⟩
    · exact ⟨[], by rw [List.append_nil, List.map_cons, List.map_cons, same]⟩
    · rcases List.mem_cons.mp member with rfl | member
      · exact ⟨out.aligned, Nat.le_refl _, Nat.add_le_add_left small _⟩
      · have behind := packed.behind node member
        have inside := packed.inside node member
        exact ⟨inside.1, by omega, inside.2⟩
    · exact .cons (fun node member => .inl (packed.behind node member)) packed.pairwise

end Polling

/-- Structs of 24 bytes, such as `XrEventDataInstanceLossPending`. -/
def smallEvents : SizeLookup := ⟨fun _ => 24, fun _ => by decide⟩

/-- A buffer of the application. -/
def someBuffer : EventDataBuffer := ⟨4096, by decide, by decide⟩

/-- Events on the heap behind it. -/
def someEvents (count : Nat) : List (Nat × Event) :=
  (List.range count).map fun index => (16384 + 32 * index, ⟨17, []⟩)

/-- The allocator may have placed them there. -/
theorem allocated_someEvents (count : Nat) : Allocated someBuffer (someEvents count) where
  apart := by
    rw [someEvents, List.map_map]
    refine List.Nodup.map (fun one two same => ?_) List.nodup_range
    simp only [Function.comp_apply] at same
    omega
  nonnull event member := by
    obtain ⟨index, -, rfl⟩ := List.mem_map.mp member
    simp
  outside event member := by
    obtain ⟨index, -, rfl⟩ := List.mem_map.mp member
    simp only [someBuffer, bufferSize]
    omega

/-- Three small events fit. -/
theorem xrPollEvent_selfContained_iff_three :
    ∃ after, xrPollEvent smallEvents (fun _ => none) someBuffer .success (someEvents 3) =
      some (.success, after) ∧ SelfContained smallEvents someBuffer (someEvents 3) after := by
  have small : smallEvents.size 17 ≤ bufferSize := by decide
  obtain ⟨after, polled, contained⟩ := @xrPollEvent_selfContained_iff smallEvents someBuffer
    (someEvents 3) (fun _ => none) (allocated_someEvents 3) (16384, ⟨17, []⟩) _ rfl small
  exact ⟨after, polled, contained.mpr (by decide)⟩

/-- The last of 126 small events does not fit, and the pointer to it is left. -/
theorem manyEvents_dangle :
    ¬∀ (lookup : SizeLookup) (memory : Memory Event) (out : EventDataBuffer)
      (events : List (Nat × Event)) (after : Memory Event), Allocated out events → events ≠ [] →
      (∀ first ∈ events.head?, lookup.size first.2.type ≤ bufferSize) →
      xrPollEvent lookup memory out .success events = some (.success, after) →
      SelfContained lookup out events after := by
  intro always
  have small : smallEvents.size 17 ≤ bufferSize := by decide
  obtain ⟨after, polled, -, overrunning⟩ := @xrPollEvent_spec smallEvents someBuffer
    (someEvents 126) (fun _ => none) (allocated_someEvents 126) (16384, ⟨17, []⟩) _ rfl small
  have fits : ¬Fit smallEvents someBuffer (someEvents 126) := by decide +kernel
  obtain ⟨address, leads, nonnull, dangling⟩ := overrunning fits
  obtain ⟨nodes, linked, -⟩ := always smallEvents (fun _ => none) someBuffer (someEvents 126) after
    (allocated_someEvents 126) (by decide) (by decide) polled
  exact leads.not_linked nonnull dangling linked

end XrTransport.Client
