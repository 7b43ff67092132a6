import Mathlib.Algebra.Order.Group.Int
import Mathlib.Algebra.Order.Group.Abs
import Mathlib.Data.List.Basic

/-!
# Clock synchronization

`do_synchronize` asks the server for its time in a loop, keeps the sample with the shortest round
trip, and takes the server's answer for the client's time half way through that round trip.
-/
namespace XrTransport.Client.Synchronization

/-- `INT64_MAX`. -/
def int64Max : Int := 2 ^ 63 - 1

/-- The result of an operation on `int64_t`, where it does not overflow. -/
def int64 (result : Int) : Option Int :=
  if -int64Max - 1 ≤ result ∧ result ≤ int64Max then some result else none

/-- A result that overflows is no result, and another is itself. -/
theorem int64_eq_some {result value : Int} (computed : int64 result = some value) :
    value = result ∧ -int64Max - 1 ≤ result ∧ result ≤ int64Max := by
  unfold int64 at computed
  split at computed
  case isTrue bounds =>
    cases computed
    exact ⟨rfl, bounds⟩
  case isFalse => cases computed

/-- One round of the loop: the client's time before, the server's time, the client's time after. -/
structure Sample where
  /-- `t1`: `get_time()` before the request is sent. -/
  t1 : Int
  /-- `t2`: the server's time, as read from the response. -/
  t2 : Int
  /-- `t3`: `get_time()` after the response has arrived. -/
  t3 : Int
deriving DecidableEq, Repr

/-- The time between request and response. -/
def Sample.roundTrip (sample : Sample) : Int := sample.t3 - sample.t1

/-- An offset, client time minus server time, at which the server read its clock during the round
trip. -/
def Sample.Admits (sample : Sample) (offset : Int) : Prop :=
  sample.t1 ≤ sample.t2 + offset ∧ sample.t2 + offset ≤ sample.t3

/-- An offset is admitted or not by comparing three times. -/
instance (sample : Sample) (offset : Int) : Decidable (sample.Admits offset) :=
  inferInstanceAs (Decidable (_ ∧ _))

/-- The locals of `do_synchronize` that outlive a round. -/
structure Shortest where
  /-- `min_t1`. -/
  minT1 : Int
  /-- `min_t2`. -/
  minT2 : Int
  /-- `min_t3`. -/
  minT3 : Int
  /-- `min_rtt`. -/
  minRtt : Int
deriving DecidableEq, Repr

namespace Shortest

/-- The values before the first round. -/
def start : Shortest := ⟨0, 0, 0, int64Max⟩

/-- The values a sample leaves that is shorter than all before. -/
def of (sample : Sample) : Shortest := ⟨sample.t1, sample.t2, sample.t3, sample.roundTrip⟩

/-- The end of one round: the sample is kept if its round trip is shorter than the one kept. -/
def observe (shortest : Shortest) (sample : Sample) : Option Shortest :=
  (int64 (sample.t3 - sample.t1)).map fun rtt =>
    if rtt < shortest.minRtt then ⟨sample.t1, sample.t2, sample.t3, rtt⟩ else shortest

/-- The lines after the loop. The division of C++ truncates toward zero. -/
def timeOffset (shortest : Shortest) : Option Int :=
  let delay := shortest.minRtt.tdiv 2
  (int64 (shortest.minT1 + delay)).bind fun arrival => int64 (arrival - shortest.minT2)

/-- What the loop keeps after it has seen some samples: none was shorter than the initial
`min_rtt`, or it keeps one that no other is shorter than. -/
inductive Keeps (seen : List Sample) : Shortest → Prop
  /-- Nothing has been kept. -/
  | nothing (long : ∀ sample ∈ seen, int64Max ≤ sample.roundTrip) : Keeps seen start
  /-- A sample of minimal round trip is kept. -/
  | sample (best : Sample) (seenBest : best ∈ seen) (short : best.roundTrip < int64Max)
      (minimal : ∀ sample ∈ seen, best.roundTrip ≤ sample.roundTrip) : Keeps seen (of best)

/-- Nothing is kept before the first round. -/
theorem keeps_start : Keeps [] start := by
  apply Keeps.nothing
  intro sample member
  cases member

/-- One round keeps a sample of minimal round trip among those seen. -/
theorem keeps_observe {seen : List Sample} {shortest next : Shortest} {sample : Sample}
    (kept : Keeps seen shortest) (observed : shortest.observe sample = some next) :
    Keeps (seen ++ [sample]) next := by
  unfold observe at observed
  cases fits : int64 (sample.t3 - sample.t1) with
  | none => simp [fits] at observed
  | some rtt =>
    have exact : rtt = sample.roundTrip := (int64_eq_some fits).1
    simp only [fits, Option.map_some, Option.some.injEq] at observed
    subst observed
    cases kept with
    | nothing long =>
      by_cases short : rtt < start.minRtt
      · rw [if_pos short, exact]
        have shorter : sample.roundTrip < int64Max := exact ▸ short
        apply Keeps.sample sample (by simp) shorter
        rw [List.forall_mem_append, List.forall_mem_singleton]
        exact ⟨fun other member => Int.le_of_lt (Int.lt_of_lt_of_le shorter (long other member)),
          Int.le_refl _⟩
      · rw [if_neg short]
        have longer : int64Max ≤ sample.roundTrip := exact ▸ Int.not_lt.mp short
        apply Keeps.nothing
        rw [List.forall_mem_append, List.forall_mem_singleton]
        exact ⟨long, longer⟩
    | sample best seenBest shortBest minimal =>
      by_cases short : rtt < (of best).minRtt
      · rw [if_pos short, exact]
        have shorter : sample.roundTrip < best.roundTrip := exact ▸ short
        apply Keeps.sample sample (by simp) (Int.lt_trans shorter shortBest)
        rw [List.forall_mem_append, List.forall_mem_singleton]
        exact ⟨fun other member => Int.le_of_lt (Int.lt_of_lt_of_le shorter (minimal other member)),
          Int.le_refl _⟩
      · rw [if_neg short]
        have longer : best.roundTrip ≤ sample.roundTrip := exact ▸ Int.not_lt.mp short
        apply Keeps.sample best (by simp [seenBest]) shortBest
        rw [List.forall_mem_append, List.forall_mem_singleton]
        exact ⟨minimal, longer⟩

/-- The loop, over the samples of its rounds, from any state. -/
def gatherFrom (shortest : Shortest) : List Sample → Option Shortest
  | [] => some shortest
  | sample :: rest => (shortest.observe sample).bind fun next => next.gatherFrom rest

/-- The rounds that remain keep a sample of minimal round trip among all. -/
theorem keeps_gatherFrom {seen samples : List Sample} {shortest last : Shortest}
    (kept : Keeps seen shortest) (gathered : shortest.gatherFrom samples = some last) :
    Keeps (seen ++ samples) last := by
  induction samples generalizing seen shortest with
  | nil =>
    cases gathered
    rw [List.append_nil]
    exact kept
  | cons sample rest ih =>
    cases observed : shortest.observe sample with
    | none => simp [gatherFrom, observed] at gathered
    | some next =>
      have remaining : next.gatherFrom rest = some last := by
        simpa [gatherFrom, observed] using gathered
      have result := ih (keeps_observe kept observed) remaining
      rw [List.append_assoc] at result
      exact result

end Shortest

/-- `do_synchronize`: the `time_offset` it computes from the samples of its rounds, where no
operation overflows. -/
def doSynchronize (samples : List Sample) : Option Int :=
  (Shortest.start.gatherFrom samples).bind Shortest.timeOffset

/-- A time that leaves the operations of `do_synchronize` room: at most a quarter of the range of
`int64_t` from zero, which is 73 years in nanoseconds. -/
def SmallTime (time : Int) : Prop := -(2 ^ 61) ≤ time ∧ time ≤ 2 ^ 61

/-- The three times of a sample are small. -/
def Sample.Small (sample : Sample) : Prop :=
  SmallTime sample.t1 ∧ SmallTime sample.t2 ∧ SmallTime sample.t3

namespace Shortest

/-- What the loop keeps of small samples: times that leave room, and a small round trip. -/
def Roomy (shortest : Shortest) : Prop :=
  SmallTime shortest.minT1 ∧ SmallTime shortest.minT2 ∧
    (-(2 ^ 62) ≤ shortest.minRtt ∧ shortest.minRtt ≤ int64Max)

/-- Over small samples the loop does not overflow. -/
theorem gatherFrom_isSome {samples : List Sample} {shortest : Shortest} (roomy : shortest.Roomy)
    (small : ∀ sample ∈ samples, sample.Small) :
    ∃ last, shortest.gatherFrom samples = some last ∧ last.Roomy := by
  induction samples generalizing shortest with
  | nil => exact ⟨shortest, rfl, roomy⟩
  | cons sample rest ih =>
    have smallSample : sample.Small := small sample (by simp)
    obtain ⟨small1, small2, small3⟩ := smallSample
    have smallRest : ∀ other ∈ rest, other.Small := fun other member =>
      small other (List.mem_cons_of_mem _ member)
    unfold SmallTime at small1 small3
    have fits : int64 (sample.t3 - sample.t1) = some (sample.t3 - sample.t1) := by
      unfold int64 int64Max
      rw [if_pos (by omega)]
    rw [gatherFrom, observe, fits, Option.map_some, Option.bind_some]
    apply ih _ smallRest
    split
    · exact ⟨small1, small2, by dsimp only; omega, by dsimp only [int64Max]; omega⟩
    · exact roomy

/-- What is kept of small samples gives an offset. -/
theorem timeOffset_isSome {shortest : Shortest} (roomy : shortest.Roomy) :
    ∃ offset, shortest.timeOffset = some offset := by
  obtain ⟨small1, small2, above, below⟩ := roomy
  unfold SmallTime at small1 small2
  unfold int64Max at below
  have half : shortest.minRtt.tdiv 2 ≤ 2 ^ 62 - 1 ∧ -(2 ^ 62) ≤ shortest.minRtt.tdiv 2 := by
    rw [Int.tdiv_eq_ediv, show Int.sign 2 = 1 from rfl]
    split <;> omega
  unfold timeOffset int64 int64Max
  dsimp only
  rw [if_pos (by omega), Option.bind_some, if_pos (by omega)]
  exact ⟨_, rfl⟩

end Shortest

/-- Over small samples no operation of `do_synchronize` overflows. -/
theorem doSynchronize_isSome {samples : List Sample}
    (small : ∀ sample ∈ samples, sample.Small) : ∃ offset, doSynchronize samples = some offset := by
  have roomy : Shortest.start.Roomy := by
    unfold Shortest.Roomy Shortest.start SmallTime int64Max
    decide
  obtain ⟨last, gathered, roomy⟩ := Shortest.gatherFrom_isSome roomy small
  obtain ⟨offset, computed⟩ := Shortest.timeOffset_isSome roomy
  refine ⟨offset, ?_⟩
  rw [doSynchronize, gathered, Option.bind_some, computed]

/-- Half a round trip is at most as far from either end as the other half, rounded up. -/
theorem half_round_trip_bound {sample : Sample} {offset : Int} (forward : sample.t1 ≤ sample.t3)
    (admitted : sample.Admits offset) :
    |sample.t1 + sample.roundTrip.tdiv 2 - sample.t2 - offset| ≤ (sample.roundTrip + 1) / 2 := by
  obtain ⟨after, before⟩ := admitted
  have nonnegative : 0 ≤ sample.roundTrip := by
    unfold Sample.roundTrip
    omega
  have truncated : sample.roundTrip.tdiv 2 = sample.roundTrip / 2 :=
    Int.tdiv_eq_ediv_of_nonneg nonnegative
  rw [truncated, abs_le]
  unfold Sample.roundTrip
  constructor <;> omega

/-- Where nothing overflows, the offset is computed from a sample of minimal round trip, if some
round trip is shorter than the initial `min_rtt`. -/
theorem doSynchronize_eq {samples : List Sample} {offset : Int}
    (short : ∃ sample ∈ samples, sample.roundTrip < int64Max)
    (computed : doSynchronize samples = some offset) :
    ∃ best ∈ samples, (∀ sample ∈ samples, best.roundTrip ≤ sample.roundTrip) ∧
      offset = best.t1 + best.roundTrip.tdiv 2 - best.t2 := by
  unfold doSynchronize at computed
  cases gathered : Shortest.start.gatherFrom samples with
  | none => simp [gathered] at computed
  | some last =>
    simp only [gathered, Option.bind_some] at computed
    have kept : Shortest.Keeps samples last :=
      Shortest.keeps_gatherFrom Shortest.keeps_start gathered
    cases kept with
    | nothing long =>
      obtain ⟨sample, member, shorter⟩ := short
      have bound := long sample member
      omega
    | sample best seenBest shortBest minimal =>
      refine ⟨best, seenBest, minimal, ?_⟩
      unfold Shortest.timeOffset at computed
      cases arrives : int64 ((Shortest.of best).minT1 + (Shortest.of best).minRtt.tdiv 2) with
      | none => simp [arrives] at computed
      | some arrival =>
        simp only [arrives, Option.bind_some] at computed
        rw [(int64_eq_some computed).1, (int64_eq_some arrives).1]
        rfl

/-- The offset is within half of the shortest round trip, rounded up, of every offset that all
samples admit; so it is never worse than what a single sample could guarantee. -/
theorem time_offset_within_half_round_trip (samples : List Sample) (trueOffset offset : Int)
    (forward : ∀ sample ∈ samples, sample.t1 ≤ sample.t3)
    (admitted : ∀ sample ∈ samples, sample.Admits trueOffset)
    (short : ∃ sample ∈ samples, sample.roundTrip < int64Max)
    (computed : doSynchronize samples = some offset) :
    ∃ best ∈ samples,
      (∀ sample ∈ samples, best.roundTrip ≤ sample.roundTrip) ∧
      offset = best.t1 + best.roundTrip / 2 - best.t2 ∧
      |offset - trueOffset| ≤ (best.roundTrip + 1) / 2 ∧
      ∀ sample ∈ samples, |offset - trueOffset| ≤ (sample.roundTrip + 1) / 2 := by
  obtain ⟨best, seenBest, minimal, derived⟩ := doSynchronize_eq short computed
  have bound : |offset - trueOffset| ≤ (best.roundTrip + 1) / 2 := by
    rw [derived]
    exact half_round_trip_bound (forward best seenBest) (admitted best seenBest)
  have truncated : best.roundTrip.tdiv 2 = best.roundTrip / 2 := by
    apply Int.tdiv_eq_ediv_of_nonneg
    have later := forward best seenBest
    unfold Sample.roundTrip
    omega
  refine ⟨best, seenBest, minimal, truncated ▸ derived, bound, ?_⟩
  intro sample member
  have longer := minimal sample member
  omega

/-- Two rounds, the second of them shorter; the clocks differ by 1000. -/
theorem time_offset_of_two_rounds :
    (∃ best ∈ [(⟨5000, 4050, 5100⟩ : Sample), ⟨6000, 5003, 6007⟩],
      (∀ sample ∈ [(⟨5000, 4050, 5100⟩ : Sample), ⟨6000, 5003, 6007⟩],
        best.roundTrip ≤ sample.roundTrip) ∧
      (1000 : Int) = best.t1 + best.roundTrip / 2 - best.t2 ∧
      |(1000 : Int) - 1000| ≤ (best.roundTrip + 1) / 2 ∧
      ∀ sample ∈ [(⟨5000, 4050, 5100⟩ : Sample), ⟨6000, 5003, 6007⟩],
        |(1000 : Int) - 1000| ≤ (sample.roundTrip + 1) / 2) :=
  time_offset_within_half_round_trip [⟨5000, 4050, 5100⟩, ⟨6000, 5003, 6007⟩] 1000 1000
    (by decide) (by decide) (by decide) (by decide)

/-- A round trip of `INT64_MAX` is not shorter than the initial `min_rtt`, so nothing is kept: with
this one sample no operation overflows, and the offset is not derived from it. -/
theorem longest_round_trip_is_not_kept :
    doSynchronize [⟨0, 10, int64Max⟩] = some (int64Max.tdiv 2) ∧
      (⟨0, 10, int64Max⟩ : Sample).Admits (-10) ∧
      int64 (int64Max - 0) = some int64Max ∧
      int64 (0 + int64Max.tdiv 2) = some (int64Max.tdiv 2) ∧
      int64 (int64Max.tdiv 2 - 10) = some (int64Max.tdiv 2 - 10) ∧
      ¬ |int64Max.tdiv 2 - -10| ≤ (int64Max + 1) / 2 := by
  decide

end XrTransport.Client.Synchronization
