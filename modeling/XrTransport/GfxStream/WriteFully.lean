import XrTransport.GfxStream.AddressSpaceStream

/-!
# `writeFully` delivers

Whatever the host does meanwhile but answer, `writeFully` puts the bytes of the caller behind those
that the host has still to read, each once and in order. Without an error it returns when the host
has read them all; in error it may stop early, and then leaves the transfer mode as it is. A host
that reads something in every turn is waited for as long as there are bytes, and no longer.
-/
namespace XrTransport.GfxStream

open Program (Meets AfterTurn)

/-- The guest is writing: what the host has read and what it has still to read are together
`stream`, and what it has written back is `answers`. A `lively` host reads in every turn; `budget`
of its turns are left at least, and `most` bytes are unread at most. -/
structure Sending (setup : AsgSetup) (answers : List UInt8) (lively : Prop) (mode : UInt32)
    (stream : List UInt8) (limit budget most : Nat) (finished : Prop) (s : Link) : Prop where
  /-- Fewer turns than the limit are left. -/
  upper : s.turns.length < limit
  /-- A lively host has enough turns left. -/
  lower : lively → budget ≤ s.turns.length
  /-- A lively host reads in every turn. -/
  takes : lively → ∀ turn ∈ s.turns, 0 < turn.takes
  /-- The host does not write back meanwhile. -/
  quiet : ∀ turn ∈ s.turns, turn.puts = []
  /-- With a lively host nothing waits in `to_host`. -/
  idle : lively → s.toHost.availableRead none = 0
  /-- The transfer mode. -/
  mode : s.transferMode = mode
  /-- The host does not answer meanwhile. -/
  answers : s.answered = answers
  /-- What flows to the host. -/
  flows : ∃ unread, Linked setup unread [] s ∧ s.received ++ unread = stream ∧
    (lively → unread.length ≤ most)
  /-- When it is finished the host has read everything. -/
  finished : finished → s.received = stream

namespace Sending

variable {setup : AsgSetup} {answers : List UInt8} {lively : Prop} {mode : UInt32}
  {stream : List UInt8} {limit budget most : Nat} {finished : Prop} {s : Link}

/-- Less may be demanded. -/
theorem mono (sending : Sending setup answers lively mode stream limit budget most finished s)
    {limit' budget' most' : Nat} {finished' : Prop} (turns : limit ≤ limit')
    (less : lively → budget' ≤ budget) (more : lively → most ≤ most')
    (weaker : finished' → finished) :
    Sending setup answers lively mode stream limit' budget' most' finished' s := by
  obtain ⟨unread, linked, whole, bound⟩ := sending.flows
  refine ⟨Nat.lt_of_lt_of_le sending.upper turns, ?_, sending.takes, sending.quiet, sending.idle,
    sending.mode, sending.answers, ⟨unread, linked, whole, ?_⟩,
    fun done => sending.finished (weaker done)⟩
  · exact fun alive => Nat.le_trans (less alive) (sending.lower alive)
  · exact fun alive => Nat.le_trans (bound alive) (more alive)

/-- The number of turns that are left is a bound too. -/
theorem within (sending : Sending setup answers lively mode stream limit budget most finished s)
    {bound : Nat} (few : s.turns.length ≤ bound) :
    Sending setup answers lively mode stream (min limit (bound + 1)) budget most finished s :=
  ⟨Nat.lt_min.mpr ⟨sending.upper, Nat.lt_succ_of_le few⟩, sending.lower, sending.takes,
    sending.quiet, sending.idle, sending.mode, sending.answers, sending.flows, sending.finished⟩

/-- Fields that the invariant does not mention may change. -/
theorem congr (sending : Sending setup answers lively mode stream limit budget most finished s)
    {t : Link} (turns : t.turns = s.turns) (toHost : t.toHost = s.toHost)
    (large : t.toHostLargeXfer = s.toHostLargeXfer)
    (back : t.fromHostLargeXfer = s.fromHostLargeXfer) (memory : t.memory = s.memory)
    (received : t.received = s.received) (answered : t.answered = s.answered) {mode' : UInt32}
    (now : t.transferMode = mode') :
    Sending setup answers lively mode' stream limit budget most finished t := by
  obtain ⟨unread, linked, whole, bound⟩ := sending.flows
  refine ⟨by rw [turns]; exact sending.upper, by rw [turns]; exact sending.lower,
    by rw [turns]; exact sending.takes, by rw [turns]; exact sending.quiet,
    by rw [toHost]; exact sending.idle, now, answered.trans sending.answers,
    ⟨unread, ⟨?_, ?_, linked.half⟩, by rw [received]; exact whole, bound⟩,
    by rw [received]; exact sending.finished⟩
  · rw [large, memory]
    exact linked.upward
  · rw [back, memory]
    exact linked.downward

/-- The guest looks: a lively host has read something. -/
theorem await :
    Meets (Sending setup answers lively mode stream limit (budget + 1) most finished)
      (Link.await setup)
      (fun _ => Sending setup answers lively mode stream (limit - 1) budget (most - 1) finished)
      (fun _ => ¬lively) := by
  intro s sending
  rw [Link.await]
  cases left : s.turns with
  | nil =>
    intro alive
    have enough := sending.lower alive
    rw [left, List.length_nil] at enough
    omega
  | cons turn rest =>
    obtain ⟨unread, linked, whole, bound⟩ := sending.flows
    have before : Linked setup unread [] ({ s with turns := rest } : Link) :=
      ⟨linked.upward, linked.downward, linked.half⟩
    obtain ⟨batch, after, received, answered, nothing⟩ := before.hostActs turn
    obtain ⟨turns, mode', idle⟩ := Link.hostActs_frame setup { s with turns := rest } turn
    have upper := sending.upper
    have lower := sending.lower
    rw [left, List.length_cons] at upper lower
    have member : ∀ {p : HostTurn → Prop}, (∀ turn ∈ s.turns, p turn) → p turn ∧
        ∀ later ∈ rest, p later := by
      intro p each
      rw [left] at each
      exact ⟨each turn List.mem_cons_self, fun later among =>
        each later (List.mem_cons_of_mem _ among)⟩
    rw [nothing (member sending.quiet).1, List.append_nil] at after
    have quiet := nothing (member sending.quiet).1
    rw [quiet, List.append_nil] at answered
    refine ⟨?_, ?_, ?_, ?_, fun alive => idle (sending.idle alive), mode'.trans sending.mode,
      answered.trans sending.answers, ⟨_, after, ?_, ?_⟩, ?_⟩
    · rw [turns]
      exact (by omega : rest.length < limit - 1)
    · intro alive
      have enough := lower alive
      rw [turns]
      exact (by omega : budget ≤ rest.length)
    · intro alive
      rw [turns]
      exact (member (sending.takes alive)).2
    · rw [turns]
      exact (member sending.quiet).2
    · rw [received, List.append_assoc, List.take_append_drop]
      exact whole
    · intro alive
      have few := bound alive
      have some := (member (sending.takes alive)).1
      rw [List.length_drop]
      omega
    · intro done
      have all := sending.finished done
      have none : unread = [] := by
        rw [all] at whole
        exact List.append_right_eq_self.mp whole
      rw [received, none, List.take_nil, List.append_nil]
      exact all

/-- `isInError` tells whether the host has reported an error. -/
theorem isInError :
    Meets (Sending setup answers lively mode stream limit (budget + 1) most finished)
      (Link.isInError setup)
      (fun failed s =>
        Sending setup answers lively mode stream (limit - 1) budget (most - 1) finished s ∧
          (failed → s.inError = 1))
      (fun _ => ¬lively) := by
  apply Meets.bind await
  intro _
  apply Meets.get
  rintro now sending s rfl
  exact ⟨sending, fun failed => of_decide_eq_true failed⟩

/-- Looking at the state of the host takes one or two turns. -/
theorem hostSleeps :
    Meets (Sending setup answers lively mode stream limit (budget + 2) most finished)
      (Link.hostSleeps setup)
      (fun _ => Sending setup answers lively mode stream (limit - 1) budget (most - 1) finished)
      (fun _ => ¬lively) := by
  apply Meets.bind await
  intro _
  apply Meets.get
  rintro now sending
  apply Meets.ite
  · rintro _ s rfl
    exact sending.mono (Nat.le_refl _) (fun _ => Nat.le_succ budget) (fun _ => Nat.le_refl _) id
  · intro _
    have rest : Meets (Sending setup answers lively mode stream (limit - 1) (budget + 1) (most - 1)
          finished)
        (do Link.await setup; let s ← Program.get
            pure (decide (s.hostState ≠ asgHostStateRendering)))
        (fun _ => Sending setup answers lively mode stream (limit - 1) budget (most - 1) finished)
        (fun _ => ¬lively) := by
      apply Meets.bind await
      intro _
      apply Meets.get
      rintro now after s rfl
      exact after.mono (Nat.sub_le _ _) (fun _ => Nat.le_refl _) (fun _ => Nat.sub_le _ _) id
    exact fun s same => rest s (same ▸ sending)

/-- A host that was pinged already is not looked at again. -/
theorem hostSleepsUnless (hostPinged : Bool) :
    Meets (Sending setup answers lively mode stream limit (budget + 2) most finished)
      (if hostPinged then pure false else Link.hostSleeps setup)
      (fun _ => Sending setup answers lively mode stream limit budget most finished)
      (fun _ => ¬lively) := by
  apply Meets.ite
  · intro _
    apply Meets.pure
    intro s sending
    exact sending.mono (Nat.le_refl _) (fun _ => Nat.le_add_right _ _) (fun _ => Nat.le_refl _) id
  · intro _
    apply Meets.consequence hostSleeps (fun _ before => before) _ fun _ thrown => thrown
    intro _ s sending
    exact sending.mono (Nat.sub_le _ _) (fun _ => Nat.le_refl _) (fun _ => Nat.sub_le _ _) id

/-- The bytes that are left to read, as `ring_buffer_available_read` gives them. -/
theorem availReadLarge :
    Meets (Sending setup answers lively mode stream limit (budget + 1) most finished)
      (Link.availReadLarge setup)
      (fun available s => (lively → available.toNat ≤ most - 1) ∧
        Sending setup answers lively mode stream (limit - 1) budget available.toNat
          (available = 0) s)
      (fun _ => ¬lively) := by
  apply Meets.bind await
  intro _
  apply Meets.get
  rintro now sending s rfl
  obtain ⟨unread, linked, whole, bound⟩ := sending.flows
  have available : (s.toHostLargeXfer.availableRead (some setup.view)).toNat = unread.length :=
    linked.upward.toNat_availableRead
  refine ⟨?_, sending.upper, sending.lower, sending.takes, sending.quiet, sending.idle,
    sending.mode, sending.answers,
    ⟨unread, linked, whole, fun _ => Nat.le_of_eq available.symm⟩, ?_⟩
  · intro alive
    rw [available]
    exact bound alive
  · intro empty
    rw [linked.upward.availableRead_eq_zero_iff.mp empty, List.append_nil] at whole
    exact whole

/-- What is left in `to_host`. -/
theorem availReadType1 :
    Meets (Sending setup answers lively mode stream limit (budget + 1) most finished)
      (Link.availReadType1 setup)
      (fun available s => (lively → available = 0) ∧
        Sending setup answers lively mode stream (limit - 1) budget (most - 1) finished s)
      (fun _ => ¬lively) := by
  apply Meets.bind await
  intro _
  apply Meets.get
  rintro now sending s rfl
  exact ⟨sending.idle, sending⟩

/-- Pinging the host. -/
theorem notifyAvailable
    (sending : Sending setup answers lively mode stream limit budget most finished s) :
    Sending setup answers lively mode stream limit budget most finished
      { s with pings := s.pings + 1 } := by
  apply sending.congr
  all_goals first | rfl | exact sending.mode

/-- A ping that depends on something. -/
theorem whenPinged {condition : Prop} [Decidable condition] {throws : Link → Prop} :
    Meets (Sending setup answers lively mode stream limit budget most finished)
      (if condition then Link.notifyAvailable else pure ⟨⟩)
      (fun _ => Sending setup answers lively mode stream limit budget most finished) throws :=
  Meets.ite (fun _ _ sending => sending.notifyAvailable) fun _ _ sending => sending

/-- Backing off. -/
theorem backoff {throws : Link → Prop} :
    Meets (Sending setup answers lively mode stream limit budget most finished) Link.backoff
      (fun _ => Sending setup answers lively mode stream limit budget most finished) throws := by
  apply Meets.modify
  intro s sending
  have kept : ∀ iters factor, Sending setup answers lively mode stream limit budget most finished
      { s with backoffIters := iters, backoffFactor := factor } := by
    intro iters factor
    apply sending.congr
    all_goals first | rfl | exact sending.mode
  dsimp only
  split
  · split
    · exact kept _ _
    · exact kept _ s.backoffFactor
  · exact kept _ s.backoffFactor

/-- `ensureType3Finished` waits until the host has read everything, or is in error. -/
theorem ensureType3Finished (budget : Nat) :
    Meets (Sending setup answers lively mode stream limit (4 * most + budget + 1) most finished)
      (Link.ensureType3Finished setup)
      (fun _ s => Sending setup answers lively mode stream limit budget most False s ∧
        (s.inError = 1 ∨ s.received = stream))
      (fun _ => ¬lively) := by
  apply Meets.bind availReadLarge
  intro available
  apply Meets.consequence
    (Link.meets_untilTurns (fun carried s => (lively → carried.toNat ≤ most) ∧
      Sending setup answers lively mode stream limit (4 * carried.toNat + budget) carried.toNat
        (carried = 0) s) ?_ available)
  · rintro s ⟨fewer, sending⟩
    refine ⟨fun alive => Nat.le_trans (fewer alive) (Nat.sub_le _ _), ?_⟩
    apply sending.mono (Nat.sub_le _ _) _ (fun _ => Nat.le_refl _) id
    intro alive
    have few := fewer alive
    omega
  · exact fun _ _ done => done
  · exact fun _ thrown => thrown
  · intro carried bound
    refine Meets.consequence (?_ : Meets (fun s => (lively → carried.toNat ≤ most) ∧
      Sending setup answers lively mode stream (min limit (bound + 1)) (4 * carried.toNat + budget)
        carried.toNat (carried = 0) s) _ _ _) ?_ (fun _ _ done => done) fun _ thrown => thrown
    · apply Meets.assuming
      intro fewer
      apply Meets.ite
      · rintro empty s sending
        refine ⟨?_, .inr (sending.finished empty)⟩
        exact sending.mono (Nat.min_le_left _ _) (fun _ => Nat.le_add_left _ _) fewer False.elim
      · intro some
        have positive : 0 < carried.toNat := by
          apply Nat.pos_of_ne_zero
          exact fun zero => some (UInt32.toNat_inj.mp zero)
        rw [show 4 * carried.toNat + budget = 4 * (carried.toNat - 1) + budget + 2 + 1 + 1 by omega]
        apply Meets.bind backoff
        intro _
        apply Meets.bind availReadLarge
        intro next
        apply Meets.assuming
        intro less
        apply Meets.bind hostSleeps
        intro sleeps
        apply Meets.bind whenPinged
        intro _
        apply Meets.bind isInError
        intro failed
        apply Meets.pure
        rintro s ⟨after, error⟩
        have upper := after.upper
        cases failed with
        | true =>
          refine ⟨after.mono (by omega) (fun _ => by omega) ?_ False.elim, .inl (error rfl)⟩
          intro alive
          have few := fewer alive
          have fewer' := less alive
          omega
        | false =>
          refine ⟨⟨?_, after.mono (by omega) ?_ (fun _ => by omega) id⟩, ?_⟩
          · intro alive
            exact Nat.le_trans (less alive) (Nat.le_trans (Nat.sub_le _ _) (fewer alive))
          · intro alive
            have fewer' := less alive
            omega
          · show s.turns.length < bound
            omega
    · rintro s ⟨⟨fewer, sending⟩, within⟩
      exact ⟨fewer, sending.within within⟩

/-- `ensureType1Finished` does not wait for a lively host. -/
theorem ensureType1Finished :
    Meets (Sending setup answers lively mode stream limit (budget + 1) most finished)
      (Link.ensureType1Finished setup)
      (fun _ => Sending setup answers lively mode stream limit budget most finished)
      (fun _ => ¬lively) := by
  apply Meets.bind availReadType1
  intro available
  apply Meets.consequence
    (Link.meets_untilTurns (fun carried s => (lively → carried = 0) ∧
      Sending setup answers lively mode stream limit budget most finished s) ?_ available)
  · rintro s ⟨idle, sending⟩
    refine ⟨idle, sending.mono (Nat.sub_le _ _) (fun _ => Nat.le_refl _) ?_ id⟩
    exact fun _ => Nat.sub_le _ _
  · exact fun _ _ done => done
  · exact fun _ thrown => thrown
  · intro carried bound
    refine Meets.consequence (?_ : Meets (fun s => (lively → carried = 0) ∧
      Sending setup answers lively mode stream (min limit (bound + 1)) budget most finished s)
      _ _ _) ?_
      (fun _ _ done => done) fun _ thrown => thrown
    · apply Meets.assuming
      intro idle
      apply Meets.ite
      · rintro empty s sending
        exact sending.mono (Nat.min_le_left _ _) (fun _ => Nat.le_refl _) (fun _ => Nat.le_refl _)
          id
      · intro some
        have dull : ¬lively := fun alive => some (idle alive)
        refine Meets.consequence (?_ : Meets (Sending setup answers lively mode stream
          (min limit (bound + 1)) (budget + 1 + 1) most finished) _ _ _) ?_
          (fun _ _ done => done) fun _ thrown => thrown
        · apply Meets.bind backoff
          intro _
          apply Meets.bind availReadType1
          intro next
          apply Meets.assuming
          intro idle'
          apply Meets.bind isInError
          intro failed
          apply Meets.pure
          rintro s ⟨after, _⟩
          have upper := after.upper
          cases failed with
          | true => exact after.mono (by omega) (fun _ => Nat.le_refl _) (fun _ => by omega) id
          | false =>
            refine ⟨⟨idle', after.mono (by omega) (fun _ => Nat.le_refl _) ?_ id⟩, ?_⟩
            · exact fun _ => by omega
            · show s.turns.length < bound
              omega
        · intro s before
          exact before.mono (Nat.le_refl _) (fun alive => absurd alive dull)
            (fun _ => Nat.le_refl _) id
    · rintro s ⟨⟨idle, sending⟩, within⟩
      exact ⟨idle, sending.within within⟩

/-- One step is put behind the bytes that are under way, or there was no room for it. -/
theorem writeChunk (data : Memory) (sent : Nat) {sendThisTime : Nat}
    (small : sendThisTime < 2 ^ 32) :
    Meets (Sending setup answers lively mode stream limit (budget + 1) most finished)
      (Link.writeChunk setup data sent sendThisTime)
      (fun sentChunks s => (sentChunks.toNat ≤ 1 ∧
          (sentChunks = 0 → lively → setup.view.size.toNat ≤ most - 1 + sendThisTime)) ∧
        Sending setup answers lively mode
          (stream ++ bytesFrom data sent (sentChunks.toNat * sendThisTime)) (limit - 1) budget
          (most - 1 + sentChunks.toNat * sendThisTime) False s)
      (fun _ => ¬lively) := by
  apply Meets.bind await
  intro _
  apply Meets.get
  intro now sending
  obtain ⟨unread, linked, whole, bound⟩ := sending.flows
  have step : (UInt32.ofNat sendThisTime).toNat = sendThisTime := by
    rw [UInt32.toNat_ofNat']
    exact Nat.mod_eq_of_lt small
  have room := linked.upward.room
  rw [RingBuffer.viewWrite_one, step, bytesFrom_shift]
  by_cases fits : now.toHostLargeXfer.viewCanWrite setup.view (UInt32.ofNat sendThisTime)
  · rw [if_pos fits]
    have free := linked.upward.viewCanWrite_iff.mp fits
    have chunk : (bytesFrom data sent sendThisTime).length = (UInt32.ofNat sendThisTime).toNat := by
      rw [length_bytesFrom, step]
    have onward := linked.upward.advancedWrite chunk free
    rintro s rfl
    have one : (1 : UInt32).toNat * sendThisTime = sendThisTime := Nat.one_mul _
    have nonzero : (1 : UInt32) ≠ 0 := by decide
    refine ⟨⟨Nat.le_refl _, fun none => absurd none nonzero⟩, ?_⟩
    dsimp only
    rw [one]
    refine ⟨sending.upper, sending.lower, sending.takes, sending.quiet, sending.idle, sending.mode,
      sending.answers,
      ⟨_, ⟨onward, linked.downward.nil_of_memory _, .inr rfl⟩, ?_, ?_⟩, False.elim⟩
    · rw [← List.append_assoc]
      exact congrArg (· ++ bytesFrom data sent sendThisTime) whole
    · intro alive
      rw [List.length_append, length_bytesFrom]
      exact Nat.add_le_add_right (bound alive) _
  · rw [if_neg fits]
    have full : ¬unread.length + sendThisTime < setup.view.size.toNat := by
      rw [← step]
      exact fun free => fits (linked.upward.viewCanWrite_iff.mpr free)
    rintro s rfl
    have zero : (0 : UInt32).toNat * sendThisTime = 0 := Nat.zero_mul _
    refine ⟨⟨Nat.zero_le _, ?_⟩, ?_⟩
    · intro _ alive
      have few := bound alive
      omega
    · dsimp only
      rw [zero, bytesFrom, List.range'_zero, List.map_nil, List.append_nil, Nat.add_zero]
      exact sending.mono (Nat.le_refl _) (fun _ => Nat.le_refl _) (fun _ => Nat.le_refl _)
        False.elim

/-- The bytes that are sent follow those before, and a lively host makes room for them. -/
theorem sendLoop (data : Memory) {size chunkSize : Nat} (small : chunkSize < 2 ^ 32)
    (positive : lively → 0 < size → 0 < chunkSize)
    (fits : lively → chunkSize < setup.view.size.toNat) :
    Meets (Sending setup answers lively mode stream limit (8 * size + 4 * most + budget) most False)
      (Link.sendLoop setup data size chunkSize)
      (fun failed s =>
        if failed then s.inError = 1 ∧ ∃ sent most', sent ≤ size ∧
          Sending setup answers lively mode (stream ++ bytesFrom data 0 sent) limit budget most'
            False s
        else ∃ most', Sending setup answers lively mode (stream ++ bytesFrom data 0 size) limit
          (4 * most' + budget) most' False s)
      (fun _ => ¬lively) := by
  refine Meets.consequence (Link.meets_untilTurns (fun carried s => carried.1 ≤ size ∧
    ∃ most', Sending setup answers lively mode (stream ++ bytesFrom data 0 carried.1) limit
      (8 * (size - carried.1) + 4 * most' + budget) most' False s) ?_ (0, false)) ?_
    (fun _ _ done => done) fun _ thrown => thrown
  · rintro ⟨sent, hostPinged⟩ bound
    refine Meets.consequence (?_ : Meets (fun s => sent ≤ size ∧
      ∃ most', Sending setup answers lively mode (stream ++ bytesFrom data 0 sent)
        (min limit (bound + 1)) (8 * (size - sent) + 4 * most' + budget) most' False s) _ _ _) ?_
      (fun _ _ done => done) fun _ thrown => thrown
    · apply Meets.assuming
      intro progress
      apply Meets.of_exists
      intro unsent
      apply Meets.ite
      · intro more
        have more : sent < size := more
        set sendThisTime := if size - sent < chunkSize then size - sent else chunkSize with chosen
        have least : sendThisTime ≤ chunkSize ∧ sendThisTime ≤ size - sent ∧
            (0 < chunkSize → 0 < sendThisTime) := by
          split at chosen <;> omega
        obtain ⟨least, remaining, some⟩ := least
        rw [show 8 * (size - sent) + 4 * unsent + budget =
          8 * (size - sent) + 4 * unsent + budget - 4 + 1 + 2 + 1 by omega]
        apply Meets.bind (writeChunk data sent (by omega : sendThisTime < 2 ^ 32))
        intro sentChunks
        apply Meets.assuming
        rintro ⟨atMost, noRoom⟩
        apply Meets.bind (hostSleepsUnless hostPinged)
        intro sleeps
        apply Meets.bind whenPinged
        intro _
        apply Meets.bind (Meets.ite (fun _ => backoff) fun _ _ sending => sending)
        intro _
        apply Meets.bind isInError
        intro failed
        apply Meets.pure
        rintro s ⟨after, error⟩
        have upper := after.upper
        have within : sentChunks.toNat * sendThisTime ≤ size - sent := by
          have few := Nat.mul_le_mul_right sendThisTime atMost
          omega
        have joined := bytesFrom_append data 0 sent (sentChunks.toNat * sendThisTime)
        rw [Nat.zero_add] at joined
        rw [List.append_assoc, ← joined] at after
        cases failed with
        | true =>
          have stopped : Sending setup answers lively mode
              (stream ++ bytesFrom data 0 (sent + sentChunks.toNat * sendThisTime)) limit budget
              (unsent - 1 + sentChunks.toNat * sendThisTime - 1) False s :=
            after.mono (by omega) (fun _ => by omega) (fun _ => Nat.le_refl _) id
          exact ⟨error rfl, _, _, by omega, stopped⟩
        | false =>
          have lower : lively → 8 * (size - (sent + sentChunks.toNat * sendThisTime)) +
              4 * (unsent - 1 + sentChunks.toNat * sendThisTime - 1) + budget ≤
                8 * (size - sent) + 4 * unsent + budget - 4 := by
            intro alive
            have small := fits alive
            have some := some (positive alive (by omega))
            by_cases none : sentChunks = 0
            · have full := noRoom none alive
              rw [none, UInt32.toNat_zero, Nat.zero_mul]
              omega
            · have one : sentChunks.toNat = 1 := by
                have nonzero : sentChunks.toNat ≠ 0 := fun zero => none (UInt32.toNat_inj.mp zero)
                omega
              rw [one, Nat.one_mul] at within ⊢
              omega
          refine ⟨⟨?_, _, after.mono (by omega) lower (fun _ => Nat.le_refl _) id⟩, ?_⟩
          · show sent + sentChunks.toNat * sendThisTime ≤ size
            omega
          · show s.turns.length < bound
            omega
      · rintro done s sending
        have all : sent = size := by omega
        rw [all] at sending
        exact ⟨unsent, sending.mono (Nat.min_le_left _ _) (fun _ => by omega)
          (fun _ => Nat.le_refl _) id⟩
    · rintro s ⟨⟨progress, unsent, sending⟩, few⟩
      exact ⟨progress, unsent, sending.within few⟩
  · intro s sending
    refine ⟨Nat.zero_le _, most, ?_⟩
    rw [bytesFrom, List.range'_zero, List.map_nil, List.append_nil]
    exact sending

/-- A large transfer is announced. -/
theorem announce (size : Nat) {throws : Link → Prop} :
    Meets (Sending setup answers lively mode stream limit budget most finished)
      (Program.modify fun s => { s with transferSize := UInt32.ofNat size, transferMode := 3 })
      (fun _ => Sending setup answers lively 3 stream limit budget most finished) throws := by
  apply Meets.modify
  intro s sending
  apply sending.congr
  all_goals rfl

/-- A large transfer is over. -/
theorem conclude (sending : Sending setup answers lively mode stream limit budget most finished s) :
    Sending setup answers lively 1 stream limit budget most finished
      { s with backoffIters := 0, backoffFactor := 1, transferMode := 1 } := by
  apply sending.congr
  all_goals rfl

/-- The bytes of the caller are all sent, or the host is in error. -/
theorem writeFully (data : Memory) (size : Nat)
    (wide : lively → 4 ≤ setup.writeBufferSize.toNat)
    (whole : lively → setup.writeBufferSize = setup.view.size) :
    Meets (Sending setup answers lively mode stream limit (8 * (most + size) + 4) most finished)
      (Link.writeFully setup data size)
      (fun code s =>
        if code = 0 then (∃ most', Sending setup answers lively 1
            (stream ++ bytesFrom data 0 size) limit 0 most' False s) ∧
          (s.inError = 1 ∨ s.received = stream ++ bytesFrom data 0 size)
        else code = -1 ∧ s.inError = 1 ∧ ∃ sent most', sent ≤ size ∧
          Sending setup answers lively 3 (stream ++ bytesFrom data 0 sent) limit 2 most' False s)
      (fun _ => ¬lively) := by
  have quarter : (setup.writeBufferSize / 4).toNat = setup.writeBufferSize.toNat / 4 :=
    UInt32.toNat_div _ _
  have below := setup.writeBufferSize.toNat_lt
  rw [show 8 * (most + size) + 4 = 4 * most + (8 * size + 4 * most + 2 + 1) + 1 by omega]
  apply Meets.bind (ensureType3Finished _)
  intro _
  refine Meets.bind (Meets.consequence ensureType1Finished (fun _ before => before.1)
    (fun _ _ done => done) fun _ thrown => thrown) ?_
  intro _
  apply Meets.bind (announce size)
  intro _
  have small : (if size < (setup.writeBufferSize / 4).toNat then size
      else (setup.writeBufferSize / 4).toNat) < 2 ^ 32 := by
    split <;> omega
  refine Meets.bind (sendLoop data small ?_ ?_) ?_
  · intro alive positive
    have enough := wide alive
    split <;> omega
  · intro alive
    have enough := wide alive
    rw [← whole alive]
    split <;> omega
  intro failed
  cases failed with
  | true =>
    apply Meets.pure
    rintro s stopped
    exact ⟨rfl, stopped⟩
  | false =>
    apply Meets.of_exists
    intro unsent
    apply Meets.bind await
    intro _
    apply Meets.get
    intro now sending
    refine Meets.consequence (?_ : Meets (Sending setup answers lively 3
      (stream ++ bytesFrom data 0 size) (limit - 1) (4 * (unsent - 1) + 0 + 1) (unsent - 1) False)
      _ _ _) ?_
      (fun _ _ done => done) fun _ thrown => thrown
    · apply Meets.bind whenPinged
      intro _
      apply Meets.bind (ensureType3Finished 0)
      rintro _ s ⟨after, done⟩
      refine ⟨⟨unsent - 1, ?_⟩, done⟩
      exact after.conclude.mono (Nat.sub_le _ _) (fun _ => Nat.le_refl _)
        (fun _ => Nat.le_refl _) id
    · rintro s rfl
      exact sending.mono (Nat.le_refl _) (fun _ => by omega) (fun _ => Nat.le_refl _) id

end Sending

namespace Link

/-- Whatever a host that does not answer does while `writeFully` runs, the bytes of the caller
follow those before them, each once and in order. It returns zero with everything read, except in
error, and minus one only in error; then a part from the front was sent, and the transfer mode
stays. A host that reads in every turn lets it return. -/
theorem writeFully_delivers (setup : AsgSetup) (data : Memory) (size : Nat) (s : Link)
    {unread : List UInt8} (linked : Linked setup unread [] s)
    (quiet : ∀ turn ∈ s.turns, turn.puts = []) :
    ((writeFully setup data size s).1 = some 0 → ∃ left,
      Linked setup left [] (writeFully setup data size s).2 ∧
      (writeFully setup data size s).2.received ++ left =
        s.received ++ unread ++ bytesFrom data 0 size ∧
      (left = [] ∨ (writeFully setup data size s).2.inError = 1) ∧
      (writeFully setup data size s).2.answered = s.answered ∧
      (writeFully setup data size s).2.transferMode = 1) ∧
    (∀ code, (writeFully setup data size s).1 = some code → code ≠ 0 → code = -1 ∧
      ∃ sent left, sent ≤ size ∧ Linked setup left [] (writeFully setup data size s).2 ∧
        (writeFully setup data size s).2.received ++ left =
          s.received ++ unread ++ bytesFrom data 0 sent ∧
        (writeFully setup data size s).2.answered = s.answered ∧
        (writeFully setup data size s).2.inError = 1 ∧
        (writeFully setup data size s).2.transferMode = 3) ∧
    (4 ≤ setup.writeBufferSize.toNat → setup.writeBufferSize = setup.view.size →
      s.toHost.availableRead none = 0 → (∀ turn ∈ s.turns, 0 < turn.takes) →
      8 * (unread.length + size) + 4 ≤ s.turns.length →
      (writeFully setup data size s).1.isSome) := by
  set lively : Prop := 4 ≤ setup.writeBufferSize.toNat ∧
    setup.writeBufferSize = setup.view.size ∧ s.toHost.availableRead none = 0 ∧
    (∀ turn ∈ s.turns, 0 < turn.takes) ∧
    8 * (unread.length + size) + 4 ≤ s.turns.length with conditions
  have start : Sending setup s.answered lively s.transferMode (s.received ++ unread)
      (s.turns.length + 1) (8 * (unread.length + size) + 4) unread.length False s :=
    ⟨Nat.lt_succ_self _, fun alive => alive.2.2.2.2, fun alive => alive.2.2.2.1, quiet,
      fun alive => alive.2.2.1, rfl, rfl, ⟨unread, linked, rfl, fun _ => Nat.le_refl _⟩, False.elim⟩
  have ran := Sending.writeFully data size (fun alive => alive.1) (fun alive => alive.2.1) s start
  cases ended : writeFully setup data size s with
  | mk code after =>
  rw [ended] at ran
  cases code with
  | none =>
    refine ⟨fun some => absurd some (Option.some_ne_none _).symm, ?_, ?_⟩
    · exact fun _ some => absurd some (Option.some_ne_none _).symm
    · intro wide whole idle takes enough
      exact absurd ⟨wide, whole, idle, takes, enough⟩ ran
  | some code =>
    refine ⟨?_, ?_, fun _ _ _ _ _ => rfl⟩
    · intro returned
      have zero : code = 0 := Option.some.inj returned
      dsimp only at ran
      rw [if_pos zero] at ran
      obtain ⟨⟨_, sending⟩, done⟩ := ran
      obtain ⟨left, linked', whole, _⟩ := sending.flows
      refine ⟨left, linked', whole, ?_, sending.answers, sending.mode⟩
      rcases done with failed | all
      · exact .inr failed
      · left
        rw [all] at whole
        exact List.append_right_eq_self.mp whole
    · intro code' returned nonzero
      have same : code = code' := Option.some.inj returned
      dsimp only at ran
      rw [same, if_neg nonzero] at ran
      obtain ⟨minusOne, failed, sent, _, some, sending⟩ := ran
      obtain ⟨left, linked', whole, _⟩ := sending.flows
      exact ⟨minusOne, sent, left, some, linked', whole, sending.answers, failed, sending.mode⟩

/-- A buffer of two kibibytes that is used by nobody yet, and a host that reads byte by byte. -/
def slowHost (count : Nat) : Link where
  memory := fun _ => 0
  toHost := ⟨0, 0, 0, 0, 0, 0, 0, 0⟩
  toHostLargeXfer := ⟨0, 0, 0, 0, 0, 0, 4096, 0⟩
  fromHostLargeXfer := ⟨0, 0, 0, 0, 0, 0, 4096, 0⟩
  hostState := asgHostStateCanConsume
  transferMode := 1
  transferSize := 0
  inError := 0
  backoffIters := 0
  backoffFactor := 1
  pings := 0
  turns := List.replicate count ⟨1, 0, [], asgHostStateRendering, 0⟩
  received := []
  answered := []

/-- Nothing is under way at the beginning. -/
theorem slowHost_linked (count : Nat) :
    Linked ⟨RingBuffer.static ⟨0, 0, 0, 0, 0, 0, 4096, 0⟩, 2048⟩ [] [] (slowHost count) :=
  have empty : Contents ⟨0, 0, 0, 0, 0, 0, 4096, 0⟩
      (RingBuffer.static ⟨0, 0, 0, 0, 0, 0, 4096, 0⟩) (fun _ => 0) [] :=
    ⟨by decide, by decide, Circular.holds_nil⟩
  ⟨empty, empty, .inl rfl⟩

/-- Two bytes are written within twenty turns. -/
theorem two_bytes_delivered :
    (writeFully ⟨RingBuffer.static ⟨0, 0, 0, 0, 0, 0, 4096, 0⟩, 2048⟩ (fun _ => 7) 2
      (slowHost 20)).1.isSome :=
  (writeFully_delivers _ (fun _ => 7) 2 (slowHost 20) (slowHost_linked 20)
    (by decide)).2.2 (by decide) (by decide) (by decide) (by decide) (by decide)

end Link

end XrTransport.GfxStream
