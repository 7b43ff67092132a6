import XrTransport.Client.RemoteCalls
import XrTransport.Serialization.Filtering

/-!
# Times between client and server

The two sides have clocks of their own, and the client holds the offset between them. A time in a
message should be translated once, by the side that holds the offset. `serialize_time` and
`deserialize_time` do so for parameters and members; an `XrTime` behind a pointer or in an array is
copied like any other number, and `xrPollEventImpl` reads the events without the offset.
-/
namespace XrTransport.Client

open CodeGeneration Serialization Server

/-- What the handler of `XRTP_MSG_POLL_EVENT` writes once the runtime has returned an event. -/
def writeEvent (b : Build) (fuel : Nat) (event : Value) : Written Raised :=
  (Written.complete (toBytes 4 (resultWord .success))).andThen
    (serializeXr b ⟨0, true⟩ (serialize b ⟨0, true⟩ fuel) event)

/-- What `xrPollEventImpl` reads: the result and, after a success, the event. -/
def readEvent (b : Build) (p : Serialization.Platform) (fuel : Nat) :
    Decoder Raised (XrResult × Option Value) := do
  let result ← Decoder.word 4 Raised.endOfFile
  if wordResult result ≠ .success then return (wordResult result, none)
  else
    let event ← deserializeXr b p {} (deserialize b p {} fuel) false .unset
    return (wordResult result, some event)

/-- The messages in which times cross. -/
inductive TimedMessage where
  /-- The arguments of a call. -/
  | request
  /-- What the runtime has left in them. -/
  | reply
  /-- An event. -/
  | event
deriving DecidableEq, Repr

namespace TimedMessage

/-- What a time should become: the server's, or the application's. -/
def translate (offset : UInt64) : TimedMessage → UInt64 → UInt64
  | .request, time => time - offset
  | .reply, time | .event, time => time + offset

/-- The offsets that the message is written and read with. -/
def offsets (offset : UInt64) : TimedMessage → UInt64 × UInt64
  | .request => (offset, 0)
  | .reply => (0, offset)
  | .event => (0, 0)

end TimedMessage

/-- The times in the arguments of a call. -/
def argumentTimes (b : Build) (depth : Nat) (f : GeneratedFunction) (arguments : List Value) :
    List (Bool × UInt64) :=
  timesOf (spotsMembers b (spots b depth) f.params arguments)

/-- The times in outputs. -/
def outputTimes (b : Build) (depth : Nat) (outs : List Output) : List (Bool × UInt64) :=
  outs.flatMap fun output => timesOf (output.spots b depth)

/-- An output with another value. -/
def Output.holding (output : Output) (value : Value) : Output := { output with value := value }

/-- The times in an event and in what is chained to it. -/
def eventTimes (b : Build) (depth : Nat) (event : Value) : List (Bool × UInt64) :=
  timesOf (spotsXr (spots b depth) event)

/-- A message that crosses while the client holds an offset, with its times as they are sent and as
they arrive. -/
inductive Crossing (b : Build) (p : Serialization.Platform) (fuel depth : Nat) (offset : UInt64) :
    TimedMessage → List (Bool × UInt64) → List (Bool × UInt64) → Prop
  /-- The handler of a generated function has read the arguments. -/
  | request {f : GeneratedFunction} {arguments decoded : List Value}
      (generated : f.function ≠ .createInstance ∧ f.function ≠ .destroyInstance)
      (wf : WellFormedArguments b depth f arguments)
      (called : Called b p fuel offset f arguments decoded) :
      Crossing b p fuel depth offset .request (argumentTimes b depth f arguments)
        (argumentTimes b depth f decoded)
  /-- The stub of a generated function returns. -/
  | reply {f : GeneratedFunction} {bindings : List Binding} {arguments decoded after : List Value}
      {result result' : XrResult} {runtimeDuration : UInt64} {bytes : List UInt8}
      {written : List Output} {left : List Value} (declared : Declared b f bindings)
      (wf : WellFormedArguments b depth f arguments)
      (called : Called b p fuel offset f arguments decoded)
      (returned : Returned b depth f decoded after)
      (fits : -2 ^ 31 ≤ result.code ∧ result.code < 2 ^ 31)
      (wrote : writeReturn b fuel bindings ⟨f.params, after⟩ result runtimeDuration =
        .complete bytes)
      (denoted : outputs b bindings ⟨f.params, after⟩ = some written)
      (ended : ending (readReturn b p fuel offset bindings ⟨f.params, arguments⟩ bytes) =
        .returned result' left) :
      Crossing b p fuel depth offset .reply (outputTimes b depth written)
        (outputTimes b depth (List.zipWith Output.holding written left))
  /-- `xrPollEventImpl` has read an event, without the structs unknown to the server. -/
  | event {event arrived : Value} {result : XrResult} {bytes rest : List UInt8}
      (wf : WellFormedXr b (WellFormed b depth) (filteredXr b (filtered b fuel) event))
      (wrote : writeEvent b fuel event = .complete bytes)
      (read : readEvent b p fuel bytes = .done (result, some arrived) rest) :
      Crossing b p fuel depth offset .event
        (eventTimes b depth (filteredXr b (filtered b fuel) event)) (eventTimes b depth arrived)

/-- All times are translated. -/
def Translated (offset : UInt64) (message : TimedMessage) (sent arrived : List (Bool × UInt64)) :
    Prop :=
  arrived.map Prod.snd = sent.map fun time => message.translate offset time.2

/-- There is nothing to translate, or all times are by value and in a call. -/
def Translatable (offset : UInt64) (message : TimedMessage) (sent : List (Bool × UInt64)) : Prop :=
  offset = 0 ∨ ∀ time ∈ sent, time.1 = true ∧ message ≠ .event

/-- What arrives of a time: another one if it is by value. -/
def arrivingTime (sender receiver : UInt64) (time : Bool × UInt64) : Bool × UInt64 :=
  (time.1, if time.1 then time.2 - sender + receiver else time.2)

/-- The times among what arrives are what arrives of the times. -/
theorem timesOf_arriving (sender receiver : UInt64) (found : List Spot) :
    timesOf (found.map (Spot.arriving sender receiver)) =
      (timesOf found).map (arrivingTime sender receiver) := by
  have each (spot : Spot) :
      (spot.arriving sender receiver).time? = spot.time?.map (arrivingTime sender receiver) := by
    cases spot with
    | time byValue instant => cases byValue <;> rfl
    | pointer elements =>
      cases elements with
      | none => rfl
      | some count => cases count <;> rfl
  rw [timesOf, timesOf, List.filterMap_map, List.map_filterMap]
  exact List.filterMap_congr fun spot _ => each spot

section Crossings

variable {b : Build} {p : Serialization.Platform} {fuel depth : Nat} {offset : UInt64}

/-- The handler gets what arrives of the times in the arguments. -/
theorem argumentTimes_called {f : GeneratedFunction} {arguments decoded : List Value}
    (granted : ∀ size, p.malloc size = true) (enough : depth ≤ fuel)
    (generated : f.function ≠ .createInstance ∧ f.function ≠ .destroyInstance)
    (wf : WellFormedArguments b depth f arguments)
    (called : Called b p fuel offset f arguments decoded) :
    argumentTimes b depth f decoded =
      (argumentTimes b depth f arguments).map (arrivingTime offset 0) := by
  rw [called.decoded_eq granted enough generated wf, argumentTimes,
    spotsMembers_received (spots_received b offset 0 depth), timesOf_arriving]
  rfl

/-- What should arrive of an output holds what arrives of its times. -/
theorem timesOf_output_arriving (output : Output) :
    timesOf ((output.holding (output.arriving b depth offset)).spots b depth) =
      (timesOf (output.spots b depth)).map (arrivingTime 0 offset) := by
  have carry := spots_received b 0 offset depth
  obtain ⟨type, param, value⟩ := output
  rw [← timesOf_arriving]
  cases type with
  | xrArray => exact congrArg timesOf (spotsXrArray_received carry value)
  | xr => exact congrArg timesOf (spotsXr_received carry value)
  | _ => exact congrArg timesOf (spotsPtr_received (carry param.type) value)

/-- Values of the same content hold the same times as an output. -/
theorem timesOf_output_sameContent (output : Output) {x y : Value} (same : x.SameContent y) :
    timesOf ((output.holding x).spots b depth) = timesOf ((output.holding y).spots b depth) := by
  have carry := fun type (x y : Value) => @timesOf_sameContent b depth type x y
  obtain ⟨type, param, value⟩ := output
  cases type with
  | xrArray => exact timesOf_xrArray carry same
  | xr => exact timesOf_xr carry same
  | _ => exact timesOf_ptr (carry param.type) same

/-- The application gets what arrives of the times in the outputs. -/
theorem outputTimes_left {written : List Output} {left : List Value}
    (same : List.Forall₂ (fun value output => value.SameContent (output.arriving b depth offset))
      left written) :
    outputTimes b depth (List.zipWith Output.holding written left) =
      (outputTimes b depth written).map (arrivingTime 0 offset) := by
  induction same with
  | nil => rfl
  | @cons value output left written head _ ih =>
    unfold outputTimes at ih ⊢
    rw [List.zipWith_cons_cons, List.flatMap_cons, List.flatMap_cons, List.map_append, ih,
      timesOf_output_sameContent output head, timesOf_output_arriving]

/-- An event arrives with the times that it was sent with. -/
theorem eventTimes_read {event arrived : Value} {result : XrResult} {bytes rest : List UInt8}
    (granted : ∀ size, p.malloc size = true) (enough : depth ≤ fuel)
    (wf : WellFormedXr b (WellFormed b depth) (filteredXr b (filtered b fuel) event))
    (wrote : writeEvent b fuel event = .complete bytes)
    (read : readEvent b p fuel bytes = .done (result, some arrived) rest) :
    eventTimes b depth arrived =
      (eventTimes b depth (filteredXr b (filtered b fuel) event)).map (arrivingTime 0 0) := by
  have strict : serializeXr b ⟨0, true⟩ (serialize b ⟨0, true⟩ fuel) event =
      serializeXr b {} (serialize b {} fuel) (filteredXr b (filtered b fuel) event) :=
    agrees_xr (keepsType_filtered fuel) (agrees_serialize 0 fuel) event
  have carry := carries (b := b) {} {} granted depth fuel enough fuel enough
  obtain ⟨body, whole, reads⟩ := travels_xr {} granted carry false wf
  obtain rfl : toBytes 4 (resultWord .success) ++ body = bytes := by
    rw [writeEvent, strict, whole, Written.complete_andThen, Written.complete, Written.complete,
      Written.mk.injEq] at wrote
    exact wrote.1
  have fresh := reads .unset (DeserializeContext.accepts_unset rfl _)
  have small : resultWord .success < 256 ^ 4 := BitVec.isLt _
  have arrives : (readEvent b p fuel).Yields (toBytes 4 (resultWord .success) ++ body)
      (some (.success, some (receivedXr (received b 0 0 depth)
        (filteredXr b (filtered b fuel) event)))) := by
    refine Decoder.Yields.afterWord Raised.endOfFile small ?_
    rw [wordResult_resultWord (by decide), if_neg (not_not_intro rfl)]
    exact Decoder.Yields.map (fun event => (XrResult.success, some event)) fresh
  have left := arrives []
  rw [List.append_nil, read] at left
  obtain ⟨same, -⟩ := Outcome.done.inj left
  obtain ⟨-, same⟩ := Prod.mk.inj same
  rw [Option.some.inj same, eventTimes, spotsXr_received (spots_received b 0 0 depth),
    timesOf_arriving]
  rfl

/-- The times that arrive are what arrives of those sent. -/
theorem Crossing.arrived_eq {message : TimedMessage} {sent arrived : List (Bool × UInt64)}
    (granted : ∀ size, p.malloc size = true) (enough : depth ≤ fuel)
    (crossing : Crossing b p fuel depth offset message sent arrived) :
    arrived = sent.map
      (arrivingTime (message.offsets offset).1 (message.offsets offset).2) := by
  cases crossing with
  | request generated wf called => exact argumentTimes_called granted enough generated wf called
  | reply declared wf called returned fits wrote denoted ended =>
    exact outputTimes_left
      (left_sameContent declared granted enough wf called returned fits wrote denoted ended)
  | event wf wrote read => exact eventTimes_read granted enough wf wrote read

end Crossings

/-- A time arrives as it should exactly if there is no offset, or if it is by value in a call. -/
theorem arrivingTime_eq_iff (message : TimedMessage) (offset : UInt64) (time : Bool × UInt64) :
    (arrivingTime (message.offsets offset).1 (message.offsets offset).2 time).2 =
        message.translate offset time.2 ↔
      offset = 0 ∨ time.1 = true ∧ message ≠ .event := by
  obtain ⟨byValue, instant⟩ := time
  have behind : instant = instant - offset ↔ offset = 0 := by
    constructor
    · intro same
      have sum := UInt64.sub_add_cancel instant offset
      rw [← same] at sum
      exact UInt64.left_eq_add.mp sum.symm
    · rintro rfl
      exact (UInt64.sub_zero instant).symm
  have ahead : instant = instant + offset ↔ offset = 0 := UInt64.left_eq_add
  cases message with
  | request =>
    cases byValue <;> simp [arrivingTime, TimedMessage.offsets, TimedMessage.translate, behind]
  | reply | event =>
    cases byValue <;> simp [arrivingTime, TimedMessage.offsets, TimedMessage.translate, ahead]

/-- The times of a message are translated exactly if there is no offset, or if all of them are by
value and the message belongs to a call. -/
theorem times_translated_iff {b : Build} {p : Serialization.Platform} {fuel depth : Nat}
    {offset : UInt64} {message : TimedMessage} {sent arrived : List (Bool × UInt64)}
    (granted : ∀ size, p.malloc size = true) (enough : depth ≤ fuel)
    (crossing : Crossing b p fuel depth offset message sent arrived) :
    Translated offset message sent arrived ↔ Translatable offset message sent := by
  have arrives := crossing.arrived_eq granted enough
  have each : Translated offset message sent arrived ↔
      ∀ time ∈ sent, offset = 0 ∨ time.1 = true ∧ message ≠ .event := by
    rw [Translated, arrives, List.map_map, List.map_inj_left]
    exact forall₂_congr fun time _ => arrivingTime_eq_iff message offset time
  rw [each, Translatable]
  by_cases none : offset = 0
  · simp [none]
  · simp only [none, false_or]

/-- The display time of a frame is translated. -/
theorem displayTime_translated :
    Translated 300 .request (argumentTimes frameEndBuild 2 endFrame [.plain 5, .block [emptyFrame]])
      [(true, 700)] := by
  have session : WellFormed frameEndBuild 2 "XrSession" (.plain 5) := by
    show (5 : Nat) < 256 ^ 4
    decide
  have wf : WellFormedArguments frameEndBuild 2 endFrame [.plain 5, .block [emptyFrame]] := by
    refine ⟨session, ⟨rfl, by decide, ?_⟩, trivial⟩
    intro x member
    rw [List.mem_singleton.mp member]
    exact wellFormed_emptyFrame
  have called : Called frameEndBuild plentiful 2 300 endFrame [.plain 5, .block [emptyFrame]]
      [.plain 5, .block [.aggregate [.plain 12, .nullStruct, .plain 700, .plain 1, .plain 0,
        .block []]]] :=
    ⟨[5, 0, 0, 0, 1, 0, 0, 0, 12, 0, 0, 0, 0, 0, 0, 0, 188, 2, 0, 0, 0, 0, 0, 0, 1, 0, 0, 0, 0, 0,
      0, 0], [], by decide, by rfl⟩
  have crossing := Crossing.request (by decide) wf called
  refine (times_translated_iff (fun _ => rfl) (Nat.le_refl 2) crossing).mpr (.inr ?_)
  intro time member
  obtain rfl : time = (true, 1000) := List.mem_singleton.mp member
  exact ⟨rfl, by decide⟩

/-- `XrEventDataSessionStateChanged`. -/
def sessionStateChanged : XrStruct where
  name := "XrEventDataSessionStateChanged"
  xrType := some 18
  members := [
    { type := "XrStructureType", name := "type" },
    { qualifier := some "const", type := "void", pointer := some "*", name := "next" },
    { type := "XrSession", name := "session" },
    { type := "XrSessionState", name := "state" },
    { type := "XrTime", name := "time" }]

/-- A registry of one event. -/
def eventBuild : Build where
  structs := [sessionStateChanged]
  extensions := [(none, [sessionStateChanged])]
  enabled _ := false
  sizeOf type :=
    if type = "XrEventDataSessionStateChanged" then 40
    else if type = "XrStructureType" ∨ type = "XrSessionState" then 4 else 8
  extent _ := 1
  nesting type := if type = "XrEventDataSessionStateChanged" then 1 else 0
  nested := by decide
  distinct := by simp [sessionStateChanged]
  typed := by simp [sessionStateChanged, typeUnknown]

/-- The session is ready at the time 1000 of the server. -/
def sessionReady : Value :=
  .chained "XrEventDataSessionStateChanged"
    (.aggregate [.plain 18, .nullStruct, .plain 5, .plain 2, .plain 1000])

/-- The event is well formed. -/
theorem wellFormed_sessionReady :
    WellFormedXr eventBuild (WellFormed eventBuild 2) sessionReady := by
  have found : eventBuild.findStruct "XrEventDataSessionStateChanged" =
      some sessionStateChanged := by
    decide
  have kinds : sessionStateChanged.members.map (memberKind eventBuild) = [some .value, some .xr,
      some .value, some .value, some .time] := by
    decide
  simp only [sessionStateChanged, List.map_cons, List.cons.injEq] at kinds
  obtain ⟨type, next, session, state, time, -⟩ := kinds
  refine ⟨18, sessionStateChanged, rfl, by decide, rfl, rfl, ?_⟩
  show WellFormedType eventBuild (WellFormed eventBuild 1) "XrEventDataSessionStateChanged" _
  simp only [WellFormedType, found, WellFormedStruct]
  refine ⟨rfl, ?_⟩
  rw [if_neg (by decide), if_neg (by decide)]
  simp only [sessionStateChanged, WellFormedMembers, WellFormedMember, type, next, session, state,
    time]
  exact ⟨wellFormed_plain (by decide) (by decide), trivial,
    wellFormed_plain (by decide) (by decide), wellFormed_plain (by decide) (by decide),
    (by decide : 1000 < 2 ^ 64), trivial⟩

/-- A registry without structs, but with the types of time. -/
def timespecBuild : Build :=
  { handleBuild with sizeOf := fun type => if type = "timespec" then 16 else 8 }

/-- `xrConvertTimespecTimeToTimeKHR`. -/
def convertTimespecTimeToTime : GeneratedFunction where
  id := 37002
  function := .other 37002
  params := [
    { type := "XrInstance", name := "instance" },
    { qualifier := some "const struct", type := "timespec", pointer := some "*",
      name := "timespecTime" },
    { type := "XrTime", pointer := some "*", name := "time" }]

/-- Its bindings. The generator takes the `const struct` for modifiable. -/
def timespecBindings : List Binding := [
  { type := .ptr
    expression := { name := "timespecTime" }
    param := { qualifier := some "const struct", type := "timespec", pointer := some "*",
               name := "timespecTime" } },
  { type := .ptr
    expression := { name := "time" }
    param := { type := "XrTime", pointer := some "*", name := "time" } }]

/-- They are what the generator makes of the function. -/
theorem convertTimespecTimeToTime_declared :
    Declared timespecBuild convertTimespecTimeToTime timespecBindings := by
  refine declared_of_no_structs rfl (by decide) (by decide) ⟨1, fun fuel enough => ?_⟩
    (fun _ => ⟨Nat.one_pos, (by decide : 1 < wordLimit)⟩) ?_
  · obtain ⟨fuel, rfl⟩ := Nat.exists_eq_succ_of_ne_zero (Nat.ne_of_gt enough)
    rfl
  · intro binding member
    simp only [timespecBindings, List.mem_cons, List.not_mem_nil, or_false] at member
    rcases member with rfl | rfl
    · rfl
    · rfl

/-- The arguments of a conversion. -/
def timespecArguments (time : Nat) : List Value :=
  [.plain 1, .block [.plain 7], .block [.plain time]]

/-- They are well formed. -/
theorem wellFormed_timespec {time : Nat} (small : time < 256 ^ 8) :
    WellFormedArguments timespecBuild 1 convertTimespecTimeToTime (timespecArguments time) := by
  have handle : WellFormed timespecBuild 1 "XrInstance" (.plain 1) := by
    show (1 : Nat) < 256 ^ 8
    decide
  have moment : WellFormed timespecBuild 1 "timespec" (.plain 7) := by
    show (7 : Nat) < 256 ^ 16
    decide
  have instant : WellFormed timespecBuild 1 "XrTime" (.plain time) := small
  refine ⟨handle, ⟨rfl, (by decide : 1 < wordLimit), ?_⟩, ⟨rfl, (by decide : 1 < wordLimit), ?_⟩,
    trivial⟩
  · intro x member
    rw [List.mem_singleton.mp member]
    exact moment
  · intro x member
    rw [List.mem_singleton.mp member]
    exact instant

/-- A runtime that writes a time returns as it should. -/
theorem returned_timespec {time time' : Nat} (small : time' < 256 ^ 8) :
    Returned timespecBuild 1 convertTimespecTimeToTime (timespecArguments time)
      (timespecArguments time') := by
  refine ⟨⟨trivial, ⟨trivial, trivial⟩, ⟨trivial, trivial⟩, trivial⟩, wellFormed_timespec small, ?_⟩
  intro name count there
  by_cases handle : "instance" = name
  · subst handle
    exact there
  · -- The other parameters are pointers.
    by_cases moment : "timespecTime" = name
    · subst moment
      cases there
    · by_cases instant : "time" = name
      · subst instant
        cases there
      · simp [sibling, timespecArguments, convertTimespecTimeToTime, handle, moment,
          instant] at there

/-- The time of an event reaches the application as the server's, and so does a time behind a
pointer. -/
theorem time_not_translated :
    (Crossing eventBuild plentiful 2 2 300 .event [(true, 1000)] [(true, 1000)] ∧
      ¬Translated 300 .event [(true, 1000)] [(true, 1000)]) ∧
    Crossing timespecBuild plentiful 1 1 300 .reply [(false, 1000)] [(false, 1000)] ∧
      ¬Translated 300 .reply [(false, 1000)] [(false, 1000)] := by
  refine ⟨⟨?_, by unfold Translated; decide⟩, ?_, by unfold Translated; decide⟩
  · -- The application should get 1300.
    exact @Crossing.event eventBuild plentiful 2 2 300 sessionReady sessionReady .success
      (toBytes 4 0 ++ toBytes 4 18 ++ toBytes 4 18 ++ toBytes 4 0 ++ toBytes 8 5 ++ toBytes 4 2 ++
        toBytes 8 1000) [] wellFormed_sessionReady rfl rfl
  · have called : Called timespecBuild plentiful 1 300 convertTimespecTimeToTime
        (timespecArguments 0) (timespecArguments 0) :=
      ⟨toBytes 8 1 ++ (toBytes 4 1 ++ toBytes 16 7) ++ (toBytes 4 1 ++ toBytes 8 0), [], by rfl,
        by rfl⟩
    exact @Crossing.reply timespecBuild plentiful 1 1 300 convertTimespecTimeToTime timespecBindings
      (timespecArguments 0) (timespecArguments 0) (timespecArguments 1000) .success .success 7
      (toBytes 4 0 ++ toBytes 8 7 ++ ((toBytes 4 1 ++ toBytes 16 7) ++ (toBytes 4 1 ++
        toBytes 8 1000))) _ _ convertTimespecTimeToTime_declared (wellFormed_timespec (by decide))
      called (returned_timespec (by decide)) (by decide) (by rfl) rfl rfl

end XrTransport.Client
