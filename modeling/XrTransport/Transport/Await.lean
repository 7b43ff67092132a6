import XrTransport.Transport.Taking

/-!
# Awaited messages

Several calls of `await_message` can be on one thread's stack, since a handler that runs inside one
may make another. All of them take from one queue, and the innermost one dispatches what is not its
own. A message that it waits for is its to have; one that only an outer call waits for goes to the
handlers.
-/
namespace XrTransport.Transport

/-- A thread in a loop has locks. -/
theorem Thread.held_of_loop {t : Thread} {hold : Hold} (inside : t.loop = some hold) :
    t.held ≠ [] := by
  intro nothing
  simp [Thread.loop, nothing] at inside

/-- When the innermost loop is an `await_message` that waits for the message, it returns it. -/
theorem Outcome.of_awaited {handlers : List UInt16} {m : MessageIn} {fate : Fate}
    {frames : List Hold} (outcome : Outcome handlers m (.await m.header) fate frames) :
    fate = .returned ∧ frames = [.received m] := by
  cases outcome with
  | returned => exact ⟨rfl, rfl⟩
  | handled other => exact absurd rfl other
  | dropped other => exact absurd rfl other
  | shutdown other => exact absurd rfl other

/-- Only what has no handler is dropped. -/
theorem Outcome.unregistered {handlers : List UInt16} {m : MessageIn} {loop : Hold}
    {frames : List Hold} (outcome : Outcome handlers m loop .dropped frames) :
    m.header ∉ handlers := by
  cases outcome with
  | dropped _ _ unregistered => exact unregistered

/-- A loop that waits for something else interprets a shutdown. -/
theorem Outcome.of_shutdown {handlers : List UInt16} {m : MessageIn} {loop : Hold} {fate : Fate}
    {frames : List Hold} (outcome : Outcome handlers m loop fate frames)
    (other : loop ≠ .await m.header) (last : m.header = Transport.shutdown) :
    fate = .shutdown ∧ frames = [.shutdown .popped, loop.passedOn m] := by
  cases outcome with
  | returned => exact absurd rfl other
  | handled _ plain => exact absurd last plain
  | dropped _ plain => exact absurd last plain
  | shutdown => exact ⟨rfl, rfl⟩

/-- It runs the handler of any other message that has one. -/
theorem Outcome.of_registered {handlers : List UInt16} {m : MessageIn} {loop : Hold} {fate : Fate}
    {frames : List Hold} (outcome : Outcome handlers m loop fate frames)
    (other : loop ≠ .await m.header) (plain : m.header ≠ Transport.shutdown)
    (registered : m.header ∈ handlers) :
    fate = .handled ∧ frames = [.handler m, loop.passedOn m] := by
  cases outcome with
  | returned => exact absurd rfl other
  | handled => exact ⟨rfl, rfl⟩
  | dropped _ _ unregistered => exact absurd registered unregistered
  | shutdown _ last => exact absurd last plain

/-- It drops the messages that have none. -/
theorem Outcome.of_unregistered {handlers : List UInt16} {m : MessageIn} {loop : Hold} {fate : Fate}
    {frames : List Hold} (outcome : Outcome handlers m loop fate frames)
    (other : loop ≠ .await m.header) (plain : m.header ≠ Transport.shutdown)
    (unregistered : m.header ∉ handlers) : fate = .dropped ∧ frames = [loop.passedOn m] := by
  cases outcome with
  | returned => exact absurd rfl other
  | handled _ _ registered => exact absurd registered unregistered
  | dropped => exact ⟨rfl, rfl⟩
  | shutdown _ last => exact absurd last plain

/-- The innermost function on the stack, if it is a loop, is the innermost loop. -/
theorem Thread.loop_of_held {t : Thread} {loop : Hold} {rest : List Hold}
    (held : t.held = loop :: rest) (isLoop : loop.isLoop = true) : t.loop = some loop := by
  rw [Thread.loop, held, List.find?_cons_of_pos isLoop]

/-- In every run, a message that the innermost loop of any thread awaits is returned by that call of
`await_message`. Any other message is dispatched inside the innermost loop of the thread that takes
it, whoever else may wait for it: a shutdown is interpreted, the handler of a message that has one
runs, and a message is dropped only when no handler is registered for it. -/
theorem innermost_await_receives {s s' : State} {action : Action} {entry : Taken}
    (reachable : transport.Reachable (fun _ _ => True) s)
    (step : transport.step s action = some s') (taken : s'.taken = s.taken ++ [entry]) :
    (∀ p, (s.threads p).loop = some (.await entry.message.header) →
      entry.taker = p ∧ entry.fate = .returned ∧
        ∃ rest, (s.threads p).held = .await entry.message.header :: rest ∧
          (s'.threads p).held = .received entry.message :: rest) ∧
      ((s.threads entry.taker).loop ≠ some (.await entry.message.header) →
        ∃ loop rest, (s.threads entry.taker).loop = some loop ∧
          (s.threads entry.taker).held = loop :: rest ∧
          (entry.message.header = shutdown → entry.fate = .shutdown ∧
            (s'.threads entry.taker).held =
              .shutdown .popped :: loop.passedOn entry.message :: rest) ∧
          (entry.message.header ≠ shutdown → entry.message.header ∈ s.handlers →
            entry.fate = .handled ∧ (s'.threads entry.taker).held =
              .handler entry.message :: loop.passedOn entry.message :: rest) ∧
          (entry.message.header ≠ shutdown → entry.message.header ∉ s.handlers →
            entry.fate = .dropped ∧ (s'.threads entry.taker).held =
              loop.passedOn entry.message :: rest)) ∧
      (entry.fate = .dropped → entry.message.header ∉ s.handlers) := by
  have locked := locked_of_reachable reachable
  obtain ⟨_, delivered⟩ := (step_of_transport step).delivered_of_taken taken
  obtain ⟨loop, rest, frames, held, isLoop, outcome, after⟩ := delivered.outcome
  rw [delivered.handlers] at outcome
  have innermost : (s.threads entry.taker).loop = some loop := Thread.loop_of_held held isLoop
  refine ⟨?_, ?_, ?_⟩
  · intro p inside
    have same : entry.taker = p :=
      locked.exclusive (Thread.held_of_loop innermost) (Thread.held_of_loop inside)
    subst same
    obtain rfl : loop = .await entry.message.header := Option.some.inj (innermost.symm.trans inside)
    obtain ⟨returned, rfl⟩ := outcome.of_awaited
    exact ⟨rfl, returned, rest, held, after⟩
  · intro elsewhere
    have other : loop ≠ .await entry.message.header := by
      intro same
      rw [innermost, same] at elsewhere
      exact elsewhere rfl
    refine ⟨loop, rest, innermost, held, ?_, ?_, ?_⟩
    · intro last
      obtain ⟨fate, rfl⟩ := outcome.of_shutdown other last
      exact ⟨fate, after⟩
    · intro plain registered
      obtain ⟨fate, rfl⟩ := outcome.of_registered other plain registered
      exact ⟨fate, after⟩
    · intro plain unregistered
      obtain ⟨fate, rfl⟩ := outcome.of_unregistered other plain unregistered
      exact ⟨fate, after⟩
  · intro dropped
    rw [dropped] at outcome
    exact outcome.unregistered

/-- A thread awaits the message that is in the queue. -/
def singleAwait : List Action :=
  [.start, .arrive (MessageIn.stream [⟨101, []⟩]), .poll, .receive 8, .enqueue,
    .call (.user 0) (.awaitMessage 101), .announce (.user 0), .acquire (.user 0)]

/-- A thread registers a handler for 102 and awaits 101. The handler that runs for 102 awaits 103
while 101 is next in the queue. -/
def nestedAwait : List Action :=
  [.start, .call (.user 0) (.registerHandler 102), .announce (.user 0), .acquire (.user 0),
    .arrive (MessageIn.stream [⟨102, []⟩, ⟨101, []⟩]), .poll, .receive 8, .enqueue, .poll,
    .receive 8, .enqueue, .call (.user 0) (.awaitMessage 101), .announce (.user 0),
    .acquire (.user 0), .take (.user 0), .call (.user 0) (.awaitMessage 103), .announce (.user 0),
    .acquire (.user 0)]

/-- The locks of the thread when 101 is taken. -/
def nestedAwaitHeld : List Hold := [.await 103, .handler ⟨102, []⟩, .await 101]

/-- In that run 101 is taken, and nothing becomes of it. -/
theorem nestedAwait_ran :
    ∃ s s', transport.run transport.init nestedAwait = some s ∧
      transport.step s (.take (.user 0)) = some s' ∧ (s.threads (.user 0)).held = nestedAwaitHeld ∧
      s.handlers = [102] ∧ s'.taken = s.taken ++ [⟨⟨101, []⟩, .user 0, .dropped, [102]⟩] := by
  have ran : (transport.run transport.init nestedAwait).map (fun s =>
      ((s.threads (.user 0)).held, s.handlers, s.taken,
        (transport.step s (.take (.user 0))).map State.taken)) =
      some (nestedAwaitHeld, [102], [⟨⟨102, []⟩, .user 0, .handled, [102]⟩],
        some [⟨⟨102, []⟩, .user 0, .handled, [102]⟩,
          ⟨⟨101, []⟩, .user 0, .dropped, [102]⟩]) := rfl
  obtain ⟨s, ran, seen⟩ := Option.map_eq_some_iff.mp ran
  simp only [Prod.mk.injEq] at seen
  obtain ⟨held, handlers, before, after⟩ := seen
  obtain ⟨s', step, after⟩ := Option.map_eq_some_iff.mp after
  refine ⟨s, s', ran, step, held, handlers, ?_⟩
  rw [after, before]
  rfl

/-- The message a single call waits for is returned by it; the one only the outer of two calls waits
for is dispatched inside the inner one. -/
theorem innermost_await_receives_single :
    (∃ s s', transport.run transport.init singleAwait = some s ∧
      transport.step s (.take (.user 0)) = some s' ∧
      (s'.threads (.user 0)).held = [.received ⟨101, []⟩]) ∧
      ∃ s s', transport.run transport.init nestedAwait = some s ∧
        transport.step s (.take (.user 0)) = some s' ∧
        (s'.threads (.user 0)).held = nestedAwaitHeld := by
  constructor
  · have ran : (transport.run transport.init singleAwait).map (fun s =>
        ((s.threads (.user 0)).held, s.taken,
          (transport.step s (.take (.user 0))).map State.taken)) =
        some ([.await 101], [], some [⟨⟨101, []⟩, .user 0, .returned, []⟩]) := rfl
    obtain ⟨s, ran, seen⟩ := Option.map_eq_some_iff.mp ran
    simp only [Prod.mk.injEq] at seen
    obtain ⟨held, before, after⟩ := seen
    obtain ⟨s', step, after⟩ := Option.map_eq_some_iff.mp after
    have taken : s'.taken = s.taken ++ [⟨⟨101, []⟩, .user 0, .returned, []⟩] := by
      rw [after, before]
      rfl
    have inside : (s.threads (.user 0)).loop = some (.await 101) := by
      rw [Thread.loop, held]
      rfl
    obtain ⟨_, _, rest, whole, received⟩ :=
      (innermost_await_receives (System.reachable_of_run ran) step taken).1 (.user 0) inside
    rw [held] at whole
    obtain rfl := (List.cons.inj whole).2
    exact ⟨s, s', ran, step, received⟩
  · obtain ⟨s, s', ran, step, held, handlers, taken⟩ := nestedAwait_ran
    have elsewhere : (s.threads (.user 0)).loop ≠ some (.await 101) := by
      rw [Thread.loop, held]
      decide
    obtain ⟨loop, rest, _, whole, _, _, dropped⟩ :=
      (innermost_await_receives (System.reachable_of_run ran) step taken).2.1 elsewhere
    obtain ⟨_, after⟩ := dropped (by decide) (by rw [handlers]; decide)
    rw [held] at whole
    obtain ⟨rfl, rfl⟩ := List.cons.inj whole
    exact ⟨s, s', ran, step, after⟩

/-- The message 101 is dropped, although a call of `await_message` waits for it. -/
theorem nestedAwait_drops :
    ¬∀ s action s' entry, transport.Reachable (fun _ _ => True) s →
      transport.step s action = some s' → s'.taken = s.taken ++ [entry] →
      ∀ p, .await entry.message.header ∈ (s.threads p).held → entry.fate = .returned := by
  intro never
  obtain ⟨s, s', ran, step, held, _, taken⟩ := nestedAwait_ran
  have awaited : Hold.await 101 ∈ (s.threads (.user 0)).held := by
    rw [held]
    decide
  have returned := never s _ s' _ (System.reachable_of_run ran) step taken (.user 0) awaited
  contradiction

end XrTransport.Transport
