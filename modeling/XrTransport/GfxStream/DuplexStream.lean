import XrTransport.Foundation.Transition
import XrTransport.GfxStream.SpeculativeRead

/-!
# The stream over an address space

`GfxstreamSyncDuplexStream` of `runtime.cpp`, under `asio::write` and `asio::read`. Both directions
use one buffer. As long as the guest writes only when it has read what was answered, and the host
answers only while the guest reads, every byte arrives, once and in order, over all calls.
-/
namespace XrTransport.GfxStream

open Program (Meets AfterTurn)

/-- An array from a place in it on. -/
def shifted (data : Memory) (offset : Nat) : Memory := fun place => data (offset + place)

/-- An array with another one from a place in it on. -/
def placed (data : Memory) (offset : Nat) (part : Memory) : Memory :=
  fun place => if place < offset then data place else part (place - offset)

/-- What comes before the place is kept, and what was stored follows. -/
theorem bytesFrom_placed (data : Memory) (offset : Nat) (chunk : List UInt8) :
    bytesFrom (placed data offset (Circular.store (shifted data offset)
      (List.range' 0 chunk.length) chunk)) 0 (offset + chunk.length) =
        bytesFrom data 0 offset ++ chunk := by
  rw [bytesFrom_append, Nat.zero_add]
  have front : bytesFrom (placed data offset (Circular.store (shifted data offset)
      (List.range' 0 chunk.length) chunk)) 0 offset = bytesFrom data 0 offset := by
    apply List.map_congr_left
    intro place member
    have before : place < offset := by
      have range := List.mem_range'_1.mp member
      omega
    exact if_pos before
  have back : bytesFrom (placed data offset (Circular.store (shifted data offset)
      (List.range' 0 chunk.length) chunk)) offset chunk.length = chunk := by
    rw [← bytesFrom_shift]
    have same : (fun place => placed data offset (Circular.store (shifted data offset)
        (List.range' 0 chunk.length) chunk) (offset + place)) =
          Circular.store (shifted data offset) (List.range' 0 chunk.length) chunk := by
      funext place
      have behind : ¬offset + place < offset := by omega
      rw [placed, if_neg behind, Nat.add_sub_cancel_left]
    rw [same, bytesFrom]
    exact Circular.map_store List.nodup_range' List.length_range'.symm
  rw [front, back]

namespace Link

variable (setup : AsgSetup)

/-- `read_some`: the number of bytes it reports, whether there is an error, and what is in the array
then. In error it reports the number it was given. -/
def readSome (buffer : Memory) (size : Nat) : Program Link (Nat × Bool × Memory) := do
  let actual ← speculativeRead setup buffer size
  pure (if 0 ≤ actual.1 then (actual.1.toNat, false, actual.2) else (size, true, actual.2))

/-- `write_some`: the number of bytes it reports, and whether there is an error. -/
def writeSome (data : Memory) (size : Nat) : Program Link (Nat × Bool) := do
  let code ← writeFully setup data size
  pure (if code = -1 then (0, true) else (size, false))

/-- `asio::read`: it reads on until the array is full or there is an error. -/
def asioRead (buffer : Memory) (size : Nat) : Program Link (Nat × Bool × Memory) :=
  untilTurns (fun carried => do
    if carried.1 < size then
      let some ← readSome setup (shifted carried.2 carried.1) (size - carried.1)
      let buffer := placed carried.2 carried.1 some.2.2
      pure (if some.2.1 then .inr (carried.1 + some.1, true, buffer)
        else .inl (carried.1 + some.1, buffer))
    else pure (.inr (carried.1, false, carried.2))) (0, buffer)

/-- `asio::write`: it writes on until all is written or there is an error. -/
def asioWrite (data : Memory) (size : Nat) : Program Link (Nat × Bool) :=
  untilTurns (fun total => do
    if total < size then
      let some ← writeSome setup (shifted data total) (size - total)
      pure (if some.2 then .inr (total + some.1, true) else .inl (total + some.1))
    else pure (.inr (total, false))) 0

end Link

/-! ## What one call moves -/

section

variable {setup : AsgSetup} {sent taken answers : List UInt8}

/-- The guest writes: what it has written so far is `sent`, and the host does not answer. -/
def Writing (setup : AsgSetup) (answers sent : List UInt8) (s : Link) : Prop :=
  ∃ mode limit, Sending setup answers False mode sent limit 0 0 False s

/-- `write_some` writes everything when it reports no error. -/
theorem Writing.writeSome (data : Memory) (size : Nat) :
    Meets (Writing setup answers sent) (Link.writeSome setup data size)
      (fun written s => written.2 = false →
        written.1 = size ∧ Writing setup answers (sent ++ bytesFrom data 0 size) s)
      (fun _ => True) := by
  apply Meets.of_exists
  intro mode
  apply Meets.of_exists
  intro limit
  have ran : Meets (Sending setup answers False mode sent limit (8 * (0 + size) + 4) 0 False)
      (Link.writeFully setup data size) _ _ := Sending.writeFully data size False.elim False.elim
  apply Meets.bind (Meets.consequence ran _ (fun _ _ done => done) fun _ _ => trivial)
  · intro code
    apply Meets.pure
    intro s after noError
    by_cases zero : code = 0
    · rw [if_pos zero] at after
      obtain ⟨⟨most, sending⟩, _⟩ := after
      have different : ¬code = -1 := by omega
      rw [if_neg different]
      exact ⟨rfl, 1, limit, sending.mono (Nat.le_refl _) False.elim False.elim id⟩
    · rw [if_neg zero] at after
      rw [if_pos after.1] at noError
      exact absurd noError Bool.noConfusion
  · intro s before
    exact before.mono (Nat.le_refl _) False.elim False.elim id

/-- `asio::write` writes everything when it reports no error. -/
theorem Writing.asioWrite (data : Memory) (size : Nat) :
    Meets (Writing setup answers sent) (Link.asioWrite setup data size)
      (fun written s => written.2 = false →
        written.1 = size ∧ Writing setup answers (sent ++ bytesFrom data 0 size) s)
      (fun _ => True) := by
  refine Meets.consequence (Watched.untilTurns (fun total s => total ≤ size ∧
    Writing setup answers (sent ++ bytesFrom data 0 total) s) ?_ (fun _ _ _ => trivial) 0)
    ?_ (fun _ _ done => done) fun _ thrown => thrown
  · intro total
    apply Meets.assuming
    intro within
    apply Meets.ite
    · intro more
      apply Meets.bind (Writing.writeSome (shifted data total) (size - total))
      intro some
      apply Meets.pure
      intro s after
      cases failed : some.2 with
      | true =>
        intro noError
        exact absurd noError Bool.noConfusion
      | false =>
        obtain ⟨all, writing⟩ := after failed
        have joined := bytesFrom_append data 0 total (size - total)
        rw [Nat.zero_add] at joined
        have same : bytesFrom (shifted data total) 0 (size - total) =
            bytesFrom data total (size - total) := bytesFrom_shift data total (size - total)
        rw [same, List.append_assoc, ← joined] at writing
        rw [if_neg Bool.false_ne_true, all]
        exact ⟨by omega, writing⟩
    · intro done s writing _
      have all : total = size := by omega
      rw [all] at writing
      exact ⟨all, writing⟩
  · intro s writing
    refine ⟨Nat.zero_le _, ?_⟩
    rw [bytesFrom, List.range'_zero, List.map_nil, List.append_nil]
    exact writing

/-- `read_some` takes what comes next. -/
theorem Exchanging.readSome (buffer : Memory) (size : Nat) :
    Meets (Exchanging setup sent taken 0) (Link.readSome setup buffer size)
      (fun some s => ∃ chunk, (some.2.1 = false → some.1 = chunk.length ∧ chunk.length ≤ size ∧
          some.2.2 = Circular.store buffer (List.range' 0 chunk.length) chunk) ∧
        Exchanging setup sent (taken ++ chunk) 0 s)
      (fun _ => True) := by
  refine Meets.bind (Meets.consequence (Exchanging.speculativeRead buffer size)
    (fun _ before => before) (fun _ _ done => done) fun _ _ => trivial) ?_
  intro actual
  apply Meets.pure
  rintro s ⟨chunk, short, stored, after, told⟩
  refine ⟨chunk, ?_, after⟩
  rcases told with ⟨all, _⟩ | ⟨failed, _⟩
  · have positive : (0 : Int) ≤ actual.1 := by omega
    rw [if_pos positive, all]
    exact fun _ => ⟨Int.toNat_natCast _, short, stored⟩
  · have negative : ¬(0 : Int) ≤ actual.1 := by omega
    rw [if_neg negative]
    exact fun noError => absurd noError Bool.noConfusion

/-- `asio::read` takes as many bytes as the array is long when it reports no error. -/
theorem Exchanging.asioRead (buffer : Memory) (size : Nat) :
    Meets (Exchanging setup sent taken 0) (Link.asioRead setup buffer size)
      (fun read s => read.2.1 = false → read.1 = size ∧
        Exchanging setup sent (taken ++ bytesFrom read.2.2 0 size) 0 s)
      (fun _ => True) := by
  refine Meets.consequence (Watched.untilTurns (fun carried s => carried.1 ≤ size ∧
    Exchanging setup sent (taken ++ bytesFrom carried.2 0 carried.1) 0 s) ?_
    (fun _ _ _ => trivial) (0, buffer)) ?_ (fun _ _ done => done) fun _ thrown => thrown
  · rintro ⟨total, array⟩
    apply Meets.assuming
    intro within
    apply Meets.ite
    · intro more
      apply Meets.bind (Exchanging.readSome (shifted array total) (size - total))
      intro some
      apply Meets.pure
      rintro s ⟨chunk, told, after⟩
      cases failed : some.2.1 with
      | true =>
        intro noError
        exact absurd noError Bool.noConfusion
      | false =>
        obtain ⟨counted, short, stored⟩ := told failed
        have joined := bytesFrom_placed array total chunk
        rw [List.append_assoc, ← joined] at after
        rw [if_neg Bool.false_ne_true, counted, stored]
        exact ⟨by omega, after⟩
    · rintro done s exchanging _
      have all : total = size := Nat.le_antisymm within (Nat.le_of_not_lt done)
      rw [all] at exchanging
      exact ⟨all, exchanging⟩
  · intro s exchanging
    refine ⟨Nat.zero_le _, ?_⟩
    rw [bytesFrom, List.range'_zero, List.map_nil, List.append_nil]
    exact exchanging

end

/-! ## Runs of calls -/

/-- A call on the stream that reports no error, and what the host does meanwhile. -/
inductive AsgCall where
  /-- `asio::write` of so much of an array. -/
  | write (turns : List HostTurn) (data : Memory) (size : Nat)
  /-- `asio::read` into an array, which then begins with these bytes. -/
  | read (turns : List HostTurn) (buffer : Memory) (bytes : List UInt8)

/-- The bytes that a call writes. -/
def AsgCall.written : AsgCall → List UInt8
  | .write _ data size => bytesFrom data 0 size
  | .read .. => []

/-- The bytes that a call reads. -/
def AsgCall.taken : AsgCall → List UInt8
  | .write .. => []
  | .read _ _ bytes => bytes

namespace Link

/-- Calls on the stream one after the other. The guest writes when nothing is left to read, and the
host does not answer while the guest writes. -/
def streamed (setup : AsgSetup) (init : Link) : System Link AsgCall where
  init := init
  step s
    | .write turns data size =>
      if (∀ turn ∈ turns, turn.puts = []) ∧
          s.fromHostLargeXfer.availableRead (some setup.view) = 0 then
        let after := asioWrite setup data size { s with turns := turns }
        if after.1 = some (size, false) then some after.2 else none
      else none
    | .read turns buffer bytes =>
      let after := asioRead setup buffer bytes.length { s with turns := turns }
      if after.1.map (fun read => (read.1, read.2.1, bytesFrom read.2.2 0 bytes.length)) =
          some (bytes.length, false, bytes) then some after.2 else none

/-- One call keeps both directions in order. -/
theorem streamed_step {setup : AsgSetup} {init s s' : Link} {sent taken : List UInt8}
    {call : AsgCall} (exchanging : Exchanging setup sent taken 0 s)
    (step : (streamed setup init).step s call = some s') :
    Exchanging setup (sent ++ call.written) (taken ++ call.taken) 0 s' := by
  cases call with
  | write turns data size =>
    have possible := Option.ite_none_right_eq_some.mp step
    obtain ⟨⟨quiet, nothing⟩, step⟩ := possible
    obtain ⟨returned, same⟩ := Option.ite_none_right_eq_some.mp step
    obtain rfl := Option.some.inj same
    obtain ⟨up, down, linked, upward, downward, _⟩ := exchanging
    have none := linked.downward.availableRead_eq_zero_iff.mp nothing
    subst none
    rw [List.append_nil] at downward
    have start : Writing setup taken sent { s with turns := turns } :=
      ⟨s.transferMode, turns.length + 1, Nat.lt_succ_self _, False.elim, False.elim, quiet,
        False.elim, rfl, downward.symm,
        ⟨up, ⟨linked.upward, linked.downward, linked.half⟩, upward, False.elim⟩, False.elim⟩
    have ran := Writing.asioWrite data size { s with turns := turns } start
    cases ended : asioWrite setup data size { s with turns := turns } with
    | mk result after =>
    rw [ended] at ran returned
    cases result with
    | none => exact absurd returned (Option.some_ne_none _).symm
    | some written =>
      have noError : written.2 = false := congrArg Prod.snd (Option.some.inj returned)
      obtain ⟨_, _, _, sending⟩ := ran noError
      obtain ⟨left, linked', whole, _⟩ := sending.flows
      refine ⟨left, [], linked', whole, ?_, Nat.zero_le _⟩
      rw [AsgCall.taken, List.append_nil, List.append_nil]
      exact sending.answers.symm
  | read turns buffer bytes =>
    obtain ⟨returned, same⟩ := Option.ite_none_right_eq_some.mp step
    obtain rfl := Option.some.inj same
    obtain ⟨up, down, linked, upward, downward, _⟩ := exchanging
    have start : Exchanging setup sent taken 0 { s with turns := turns } :=
      ⟨up, down, ⟨linked.upward, linked.downward, linked.half⟩, upward, downward, Nat.zero_le _⟩
    have ran := Exchanging.asioRead buffer bytes.length { s with turns := turns } start
    cases ended : asioRead setup buffer bytes.length { s with turns := turns } with
    | mk result after =>
    rw [ended] at ran returned
    cases result with
    | none => exact absurd returned (Option.some_ne_none _).symm
    | some read =>
      have told := Option.some.inj returned
      have noError : read.2.1 = false := congrArg (·.2.1) told
      have given : bytesFrom read.2.2 0 bytes.length = bytes := congrArg (·.2.2) told
      obtain ⟨_, after'⟩ := ran noError
      rw [given] at after'
      rw [AsgCall.written, List.append_nil]
      exact after'

/-- A byte is written and read. -/
def shortTalk : List AsgCall :=
  [.write (List.replicate 9 ⟨1, 0, [], asgHostStateRendering, 0⟩) (fun _ => 7) 1,
    .read (List.replicate 5 ⟨1, 0, [8, 9], asgHostStateRendering, 0⟩) (fun _ => 0) [8, 9]]

end Link

end XrTransport.GfxStream
