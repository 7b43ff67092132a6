import XrTransport.GfxStream.WriteFully

/-!
# `speculativeRead` takes what comes next

Whatever the host does meanwhile, `speculativeRead` gives the caller the bytes that follow those
taken before, and it never gives none. When it reports an error it has taken bytes as well, which no
later call gives again.
-/
namespace XrTransport.GfxStream

open Program (Meets AfterTurn)

/-- A condition that the host keeps, and that does not mention how long the guest waits. -/
structure Watched (setup : AsgSetup) (holds : Link → Prop) : Prop where
  /-- The host keeps it. -/
  host : ∀ s turns turn, holds s → holds (({ s with turns := turns } : Link).hostActs setup turn)
  /-- Waiting keeps it. -/
  aside : ∀ s iters factor pings, holds s →
    holds { s with backoffIters := iters, backoffFactor := factor, pings := pings }

namespace Watched

variable {setup : AsgSetup} {holds : Link → Prop}

/-- Looking keeps it. -/
theorem await (watched : Watched setup holds) :
    Meets holds (Link.await setup) (fun _ => holds) holds := by
  intro s start
  rw [Link.await]
  cases s.turns with
  | nil => exact start
  | cons turn rest => exact watched.host s rest turn start

/-- Backing off keeps it. -/
theorem backoff (watched : Watched setup holds) {throws : Link → Prop} :
    Meets holds Link.backoff (fun _ => holds) throws := by
  apply Meets.modify
  intro s start
  have kept : ∀ iters factor, holds { s with backoffIters := iters, backoffFactor := factor } :=
    fun iters factor => watched.aside s iters factor s.pings start
  dsimp only
  split
  · split
    · exact kept _ _
    · exact kept _ s.backoffFactor
  · exact kept _ s.backoffFactor

/-- Pinging keeps it. -/
theorem whenPinged (watched : Watched setup holds) {condition : Prop} [Decidable condition]
    {throws : Link → Prop} :
    Meets holds (if condition then Link.notifyAvailable else pure ⟨⟩) (fun _ => holds) throws := by
  apply Meets.ite
  · intro _ s start
    exact watched.aside s s.backoffIters s.backoffFactor (s.pings + 1) start
  · exact fun _ _ start => start

/-- Reading something after the host has acted keeps it. -/
theorem look (watched : Watched setup holds) {α : Type} (read : Link → α) :
    Meets holds (do Link.await setup; let s ← Program.get; pure (read s))
      (fun value s => holds s ∧ value = read s) holds := by
  apply Meets.bind watched.await
  intro _
  apply Meets.get
  rintro now start s rfl
  exact ⟨start, rfl⟩

/-- Looking at the state of the host keeps it. -/
theorem hostSleeps (watched : Watched setup holds) :
    Meets holds (Link.hostSleeps setup) (fun _ => holds) holds := by
  apply Meets.bind watched.await
  intro _
  apply Meets.get
  intro now start
  apply Meets.ite
  · rintro _ s rfl
    exact start
  · rintro _ s rfl
    have again := Meets.consequence
      (watched.look fun s => decide (s.hostState ≠ asgHostStateRendering))
      (fun _ before => before) (fun _ _ done => done.1) fun _ thrown => thrown
    exact again s start

/-- A loop of the guest keeps it, if its body does. -/
theorem untilTurns {α β : Type} {body : β → Program Link (β ⊕ α)} (invariant : β → Link → Prop)
    {returns : α → Link → Prop} {throws : Link → Prop}
    (kept : ∀ carried,
      Meets (invariant carried) (body carried) (AfterTurn invariant returns) throws)
    (exhausted : ∀ carried s, invariant carried s → throws s) (start : β) :
    Meets (invariant start) (Link.untilTurns body start) returns throws :=
  fun s holds => Meets.loop invariant kept exhausted (s.turns.length + 1) start s holds

/-- `ensureType3Finished` keeps it. -/
theorem ensureType3Finished (watched : Watched setup holds) :
    Meets holds (Link.ensureType3Finished setup) (fun _ => holds) holds := by
  apply Meets.bind (watched.look _)
  intro available
  apply Meets.consequence (untilTurns (fun _ => holds) _ (fun _ _ start => start) available)
    (fun _ before => before.1) (fun _ _ done => done) fun _ thrown => thrown
  intro carried
  apply Meets.ite
  · exact fun _ _ start => start
  · intro _
    apply Meets.bind watched.backoff
    intro _
    apply Meets.bind (watched.look _)
    intro next
    apply Meets.bind (Meets.consequence watched.hostSleeps (fun _ before => before.1)
      (fun _ _ done => done) fun _ thrown => thrown)
    intro sleeps
    apply Meets.bind watched.whenPinged
    intro _
    apply Meets.bind (watched.look _)
    intro failed
    apply Meets.pure
    rintro s ⟨start, _⟩
    cases failed with
    | true => exact start
    | false => exact start

/-- `ensureType1Finished` keeps it. -/
theorem ensureType1Finished (watched : Watched setup holds) :
    Meets holds (Link.ensureType1Finished setup) (fun _ => holds) holds := by
  apply Meets.bind (watched.look _)
  intro available
  apply Meets.consequence (untilTurns (fun _ => holds) _ (fun _ _ start => start) available)
    (fun _ before => before.1) (fun _ _ done => done) fun _ thrown => thrown
  intro carried
  apply Meets.ite
  · exact fun _ _ start => start
  · intro _
    apply Meets.bind watched.backoff
    intro _
    apply Meets.bind (watched.look _)
    intro next
    apply Meets.bind (Meets.consequence (watched.look _) (fun _ before => before.1)
      (fun _ _ done => done) fun _ thrown => thrown)
    intro failed
    apply Meets.pure
    rintro s ⟨start, _⟩
    cases failed with
    | true => exact start
    | false => exact start

end Watched

/-- Guest and host exchange bytes: `sent` is what the guest has written, `taken` what it has read,
and at least `ready` bytes wait for it. -/
def Exchanging (setup : AsgSetup) (sent taken : List UInt8) (ready : Nat) (s : Link) : Prop :=
  ∃ up down, Linked setup up down s ∧ s.received ++ up = sent ∧ taken ++ down = s.answered ∧
    ready ≤ down.length

namespace Exchanging

variable {setup : AsgSetup} {sent taken : List UInt8} {ready : Nat} {s : Link}

/-- The host keeps what is exchanged in order. -/
theorem watched : Watched setup (Exchanging setup sent taken ready) where
  host := by
    rintro s turns turn ⟨up, down, linked, upward, downward, enough⟩
    have before : Linked setup up down ({ s with turns := turns } : Link) :=
      ⟨linked.upward, linked.downward, linked.half⟩
    obtain ⟨batch, after, received, answered, _⟩ := before.hostActs turn
    refine ⟨_, _, after, ?_, ?_, ?_⟩
    · rw [received, List.append_assoc, List.take_append_drop]
      exact upward
    · rw [answered, ← List.append_assoc]
      exact congrArg (· ++ batch) downward
    · rw [List.length_append]
      omega
  aside := by
    rintro s iters factor pings ⟨up, down, linked, upward, downward, enough⟩
    exact ⟨up, down, ⟨linked.upward, linked.downward, linked.half⟩, upward, downward, enough⟩

/-- Fewer bytes may be demanded. -/
theorem mono (exchanging : Exchanging setup sent taken ready s) {ready' : Nat}
    (fewer : ready' ≤ ready) : Exchanging setup sent taken ready' s := by
  obtain ⟨up, down, linked, upward, downward, waiting⟩ := exchanging
  exact ⟨up, down, linked, upward, downward, Nat.le_trans fewer waiting⟩

/-- Nothing more is taken. -/
theorem nothing (exchanging : Exchanging setup sent taken ready s) :
    ∃ more, Exchanging setup sent (taken ++ more) 0 s := by
  refine ⟨[], ?_⟩
  rw [List.append_nil]
  exact exchanging.mono (Nat.zero_le _)

/-- So many bytes wait as `ring_buffer_available_read` says. -/
theorem availReadBack :
    Meets (Exchanging setup sent taken 0) (Link.availReadBack setup)
      (fun available => Exchanging setup sent taken available.toNat)
      (fun s => ∃ more, Exchanging setup sent (taken ++ more) 0 s) := by
  apply Meets.consequence (watched.look _) (fun _ before => before) _ fun _ => nothing
  rintro _ s ⟨⟨up, down, linked, upward, downward, _⟩, rfl⟩
  have counted : (s.fromHostLargeXfer.availableRead (some setup.view)).toNat = down.length :=
    linked.downward.toNat_availableRead
  exact ⟨up, down, linked, upward, downward, Nat.le_of_eq counted⟩

/-- The oldest bytes are taken. -/
theorem takeChunk (readBuffer : Memory) (toRead : UInt32) :
    Meets (Exchanging setup sent taken toRead.toNat) (Link.takeChunk setup readBuffer toRead)
      (fun result s => ∃ chunk, (chunk.length = toRead.toNat ∧
          result = (1, Circular.store readBuffer (List.range' 0 chunk.length) chunk)) ∧
        Exchanging setup sent (taken ++ chunk) 0 s)
      (fun s => ∃ more, Exchanging setup sent (taken ++ more) 0 s) := by
  apply Meets.bind (Meets.consequence watched.await (fun _ before => before)
    (fun _ _ done => done) fun _ => nothing)
  intro _
  apply Meets.get
  rintro now ⟨up, down, linked, upward, downward, within⟩
  have length : (down.take toRead.toNat).length = toRead.toNat := by
    rw [List.length_take]
    exact Nat.min_eq_left within
  rw [RingBuffer.viewRead_one, if_pos (linked.downward.viewCanRead_iff.mpr within),
    linked.downward.map_copied within]
  rintro s rfl
  refine ⟨down.take toRead.toNat, ⟨length, by rw [length]⟩, up, down.drop toRead.toNat, ?_,
    upward, ?_, Nat.zero_le _⟩
  · refine ⟨linked.upward, linked.downward.advancedRead within, ?_⟩
    rcases linked.half with empty | empty
    · exact .inl empty
    · right
      rw [empty, List.drop_nil]
  · rw [List.append_assoc, List.take_append_drop]
    exact downward

/-- `speculativeRead` gives the bytes that come next. -/
theorem speculativeRead (readBuffer : Memory) (trySize : Nat) :
    Meets (Exchanging setup sent taken 0) (Link.speculativeRead setup readBuffer trySize)
      (fun result s => ∃ chunk, chunk.length ≤ trySize ∧
        result.2 = Circular.store readBuffer (List.range' 0 chunk.length) chunk ∧
        Exchanging setup sent (taken ++ chunk) 0 s ∧
        ((result.1 = chunk.length ∧ chunk ≠ []) ∨ (result.1 = -1 ∧ s.inError = 1)))
      (fun s => ∃ more, Exchanging setup sent (taken ++ more) 0 s) := by
  apply Meets.bind (Meets.consequence watched.ensureType3Finished (fun _ before => before)
    (fun _ _ done => done) fun _ => nothing)
  intro _
  apply Meets.bind (Meets.consequence watched.ensureType1Finished (fun _ before => before)
    (fun _ _ done => done) fun _ => nothing)
  intro _
  refine Meets.consequence (Watched.untilTurns (fun carried s => carried = readBuffer ∧
    Exchanging setup sent taken 0 s) ?_ (fun _ s before => before.2.nothing) readBuffer)
    (fun _ before => ⟨rfl, before⟩) (fun _ _ done => done) fun _ thrown => thrown
  intro carried
  apply Meets.assuming
  rintro rfl
  apply Meets.bind availReadBack
  intro readAvail
  apply Meets.ite
  · intro none
    apply Meets.bind watched.backoff
    intro _
    apply Meets.pure
    exact fun s after => ⟨rfl, after.mono (Nat.zero_le _)⟩
  · intro some
    set toRead := if readAvail.toNat > trySize then UInt32.ofNat trySize else readAvail with chosen
    have limits : toRead.toNat ≤ trySize ∧ toRead.toNat ≤ readAvail.toNat := by
      have wide := readAvail.toNat_lt
      rw [chosen]
      split
      · rw [UInt32.toNat_ofNat', Nat.mod_eq_of_lt (by omega)]
        omega
      · omega
    obtain ⟨wanted, waiting⟩ := limits
    apply Meets.bind (Meets.consequence (takeChunk carried toRead)
      (fun _ before => before.mono waiting) (fun _ _ done => done) fun _ thrown => thrown)
    intro stepsRead
    apply Meets.of_exists
    intro chunk
    apply Meets.assuming
    rintro ⟨length, rfl⟩
    apply Meets.bind (Meets.consequence (watched.look _) (fun _ before => before)
      (fun _ _ done => done) fun s before => ⟨chunk, before⟩)
    intro failed
    apply Meets.pure
    rintro s ⟨after, error⟩
    have one : (1 : UInt32).toNat * toRead.toNat = chunk.length := (Nat.one_mul _).trans length.symm
    cases failed with
    | true =>
      have inError : s.inError = 1 := of_decide_eq_true error.symm
      exact ⟨chunk, by omega, rfl, after, .inr ⟨rfl, inError⟩⟩
    | false =>
      dsimp only
      rw [if_neg Bool.false_ne_true, one]
      by_cases none : chunk.length = 0
      · have empty : chunk = [] := List.length_eq_zero_iff.mp none
        rw [if_pos none]
        rw [empty, List.append_nil] at after
        rw [empty]
        exact ⟨rfl, after⟩
      · rw [if_neg none]
        refine ⟨chunk, by omega, rfl, after, .inl ⟨rfl, ?_⟩⟩
        rintro rfl
        exact none rfl

end Exchanging

/-- Nothing is under way to the host, at least `ready` bytes wait for the guest, and the host acts
at least `budget` times. -/
structure Waiting (setup : AsgSetup) (budget ready : Nat) (s : Link) : Prop where
  /-- Enough turns are left. -/
  turns : budget ≤ s.turns.length
  /-- Nothing waits in `to_host`. -/
  idle : s.toHost.availableRead none = 0
  /-- The bytes that wait. -/
  flows : ∃ down, Linked setup [] down s ∧ ready ≤ down.length

namespace Waiting

variable {setup : AsgSetup} {budget ready : Nat} {never : Link → Prop}

/-- The guest looks. -/
theorem await : Meets (Waiting setup (budget + 1) ready) (Link.await setup)
    (fun _ => Waiting setup budget ready) never := by
  rintro s ⟨enough, idle, down, linked, waiting⟩
  rw [Link.await]
  cases left : s.turns with
  | nil =>
    rw [left, List.length_nil] at enough
    omega
  | cons turn rest =>
    rw [left, List.length_cons] at enough
    have before : Linked setup [] down ({ s with turns := rest } : Link) :=
      ⟨linked.upward, linked.downward, linked.half⟩
    obtain ⟨batch, after, _⟩ := before.hostActs turn
    obtain ⟨turns, _, stays⟩ := Link.hostActs_frame setup { s with turns := rest } turn
    rw [List.drop_nil] at after
    refine ⟨?_, stays idle, down ++ batch, after, ?_⟩
    · rw [turns]
      exact Nat.le_of_succ_le_succ enough
    · rw [List.length_append]
      omega

/-- Something is read after the host has acted. -/
theorem look {α : Type} {read : Link → α} (fact : α → Prop)
    (holds : ∀ s, Waiting setup budget ready s → fact (read s)) :
    Meets (Waiting setup (budget + 1) ready)
      (do Link.await setup; let s ← Program.get; pure (read s))
      (fun value s => fact value ∧ Waiting setup budget ready s) never := by
  apply Meets.bind await
  intro _
  apply Meets.get
  rintro now waiting s rfl
  exact ⟨holds s waiting, waiting⟩

/-- A loop that has nothing to wait for does not wait. -/
theorem loop {body : UInt32 → Program Link (UInt32 ⊕ Unit)} (done : body 0 = pure (.inr ()))
    (available : UInt32) :
    Meets (fun s => available = 0 ∧ Waiting setup budget ready s)
      (Link.untilTurns body available) (fun _ => Waiting setup budget ready) never := by
  apply Meets.assuming
  rintro rfl
  apply Link.meets_untilTurns (fun carried s => carried = 0 ∧ Waiting setup budget ready s) _ 0
    |>.consequence (fun _ before => ⟨rfl, before⟩) (fun _ _ done => done) fun _ thrown => thrown
  rintro carried bound s ⟨⟨rfl, waiting⟩, _⟩
  rw [done]
  exact waiting

/-- `ensureType3Finished` returns at once. -/
theorem ensureType3Finished : Meets (Waiting setup (budget + 1) ready)
    (Link.ensureType3Finished setup) (fun _ => Waiting setup budget ready) never := by
  apply Meets.bind (look (fun available => available = 0) _)
  · intro available
    exact loop (if_pos rfl) available
  · rintro s ⟨_, _, down, linked, _⟩
    exact linked.upward.availableRead_eq_zero_iff.mpr rfl

/-- `ensureType1Finished` returns at once. -/
theorem ensureType1Finished : Meets (Waiting setup (budget + 1) ready)
    (Link.ensureType1Finished setup) (fun _ => Waiting setup budget ready) never := by
  apply Meets.bind (look (fun available => available = 0) fun _ waiting => waiting.idle)
  intro available
  exact loop (if_pos rfl) available

/-- The bytes that wait are seen. -/
theorem availReadBack : Meets (Waiting setup (budget + 1) 1) (Link.availReadBack setup)
    (fun available s => 0 < available.toNat ∧ Waiting setup budget available.toNat s) never := by
  apply Meets.bind await
  intro _
  apply Meets.get
  rintro now ⟨enough, idle, down, linked, waiting⟩ s rfl
  have counted : (s.fromHostLargeXfer.availableRead (some setup.view)).toNat = down.length :=
    linked.downward.toNat_availableRead
  exact ⟨by omega, enough, idle, down, linked, Nat.le_of_eq counted⟩

/-- A step of bytes that wait is made. -/
theorem takeChunk (readBuffer : Memory) (toRead : UInt32) :
    Meets (Waiting setup (budget + 1) toRead.toNat) (Link.takeChunk setup readBuffer toRead)
      (fun stepsRead s => stepsRead.1 = 1 ∧ budget ≤ s.turns.length) never := by
  apply Meets.bind await
  intro _
  apply Meets.get
  rintro now ⟨enough, _, down, linked, within⟩
  rw [RingBuffer.viewRead_one, if_pos (linked.downward.viewCanRead_iff.mpr within)]
  rintro s rfl
  exact ⟨rfl, enough⟩

/-- A host that acts is looked at. -/
theorem isInError : Meets (fun s => 1 ≤ s.turns.length) (Link.isInError setup) (fun _ _ => True)
    never := by
  intro s enough
  rw [Link.isInError, Program.bind_apply, Program.andThen, Link.await]
  cases left : s.turns with
  | nil =>
    rw [left] at enough
    exact absurd enough (by decide)
  | cons turn rest => exact trivial

/-- `speculativeRead` returns. -/
theorem speculativeRead (readBuffer : Memory) {trySize : Nat} (wanted : 0 < trySize) :
    Meets (Waiting setup 5 1) (Link.speculativeRead setup readBuffer trySize) (fun _ _ => True)
      never := by
  apply Meets.bind ensureType3Finished
  intro _
  apply Meets.bind ensureType1Finished
  intro _
  apply Link.meets_untilTurns (fun _ => Waiting setup 3 1) _ readBuffer
  intro carried bound
  apply Meets.bind (Meets.consequence availReadBack (fun _ before => before.1)
    (fun _ _ done => done) fun _ thrown => thrown)
  intro readAvail
  apply Meets.assuming
  intro some
  apply Meets.ite
  · intro none
    rw [none] at some
    exact absurd some (Nat.lt_irrefl 0)
  · intro _
    set toRead := if readAvail.toNat > trySize then UInt32.ofNat trySize else readAvail with chosen
    have limits : 0 < toRead.toNat ∧ toRead.toNat ≤ readAvail.toNat := by
      have wide := readAvail.toNat_lt
      rw [chosen]
      split
      · rw [UInt32.toNat_ofNat', Nat.mod_eq_of_lt (by omega)]
        omega
      · omega
    obtain ⟨positive, waiting⟩ := limits
    apply Meets.bind (Meets.consequence (takeChunk carried toRead) _ (fun _ _ done => done)
      fun _ thrown => thrown)
    · intro stepsRead
      apply Meets.assuming
      intro one
      apply Meets.bind isInError
      intro failed
      apply Meets.pure
      intro s _
      rw [one]
      cases failed with
      | true => exact trivial
      | false =>
        have made : (1 : UInt32).toNat * toRead.toNat ≠ 0 := by
          rw [UInt32.toNat_one, Nat.one_mul]
          omega
        rw [if_neg Bool.false_ne_true, if_neg made]
        exact trivial
    · rintro s ⟨enough, idle, down, linked, within⟩
      exact ⟨enough, idle, down, linked, Nat.le_trans waiting within⟩

end Waiting

namespace Link

/-- Whatever the host does while `speculativeRead` runs, the caller gets some of the bytes that
follow those it has taken, and never none of them. Only in error the result is minus one; the bytes
it has taken then are in the array all the same, and are not given again. With something to read and
nothing under way it returns. -/
theorem speculativeRead_takes_next (setup : AsgSetup) (readBuffer : Memory) (trySize : Nat)
    (s : Link) {up down taken : List UInt8} (linked : Linked setup up down s)
    (downward : taken ++ down = s.answered) :
    (∀ code array, (speculativeRead setup readBuffer trySize s).1 = some (code, array) →
      ∃ chunk up' down', chunk.length ≤ trySize ∧
        array = Circular.store readBuffer (List.range' 0 chunk.length) chunk ∧
        Linked setup up' down' (speculativeRead setup readBuffer trySize s).2 ∧
        (speculativeRead setup readBuffer trySize s).2.received ++ up' = s.received ++ up ∧
        taken ++ chunk ++ down' = (speculativeRead setup readBuffer trySize s).2.answered ∧
        ((code = chunk.length ∧ chunk ≠ []) ∨
          (code = -1 ∧ (speculativeRead setup readBuffer trySize s).2.inError = 1))) ∧
    (up = [] → down ≠ [] → 0 < trySize → s.toHost.availableRead none = 0 → 5 ≤ s.turns.length →
      (speculativeRead setup readBuffer trySize s).1.isSome) := by
  constructor
  · intro code array returned
    have start : Exchanging setup (s.received ++ up) taken 0 s :=
      ⟨up, down, linked, rfl, downward, Nat.zero_le _⟩
    have ran := Exchanging.speculativeRead readBuffer trySize s start
    cases ended : speculativeRead setup readBuffer trySize s with
    | mk result after =>
    rw [ended] at ran returned
    have same : result = some (code, array) := returned
    rw [same] at ran
    obtain ⟨chunk, short, stored, ⟨up', down', linked', upward, downward', _⟩, told⟩ := ran
    exact ⟨chunk, up', down', short, stored, linked', upward, downward', told⟩
  · rintro rfl some wanted idle enough
    have start : Waiting setup 5 1 s :=
      ⟨enough, idle, down, linked, List.length_pos_of_ne_nil some⟩
    have ran := (Waiting.speculativeRead readBuffer wanted : Meets _ _ _ fun _ => False) s start
    cases ended : speculativeRead setup readBuffer trySize s with
    | mk result after =>
    rw [ended] at ran
    cases result with
    | none => exact ran.elim
    | some result => rfl

/-- A host that has answered with two bytes. -/
def answeringHost : Link :=
  { slowHost 5 with fromHostLargeXfer := ⟨0, 2, 0, 0, 0, 0, 4096, 0⟩, answered := [0, 0] }

/-- The two bytes are where the guest looks for them. -/
theorem answeringHost_linked :
    Linked ⟨RingBuffer.static ⟨0, 0, 0, 0, 0, 0, 4096, 0⟩, 2048⟩ [] [0, 0] answeringHost :=
  ⟨(slowHost_linked 5).upward, ⟨by decide, by decide, rfl⟩, .inl rfl⟩

/-- They can be read. -/
theorem answer_read :
    (speculativeRead ⟨RingBuffer.static ⟨0, 0, 0, 0, 0, 0, 4096, 0⟩, 2048⟩ (fun _ => 7) 9
      answeringHost).1.isSome :=
  (speculativeRead_takes_next _ (fun _ => 7) 9 answeringHost answeringHost_linked
    (List.nil_append _)).2 rfl (by decide) (by decide) (by decide) (by decide)

end Link

end XrTransport.GfxStream
