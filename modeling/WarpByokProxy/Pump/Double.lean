import WarpByokProxy.Pump.Steps

/-
  The scripted provider of `bedrock_client.rs` stands in for
  the one that calls the SDK.

  `MockBedrock` ignores the request and spawns a task that
  sends its script through a channel of the same capacity.
  The pump and the client cannot tell this task from the one
  that drains the SDK: whatever they can see in some run with
  the one, they can see in some run with the other, as long
  as the SDK delivers the events of the script.

  Key definitions include:
    * `MockTask`
    * `MockState.mockStep`
    * `mockTasks`
    * `MockState.Doubles`
    * `DoublesRealBedrock`

  Key theorems include:
    * `StreamState.step_withDrain`
    * `MockState.Doubles.answer`
    * `MockState.Doubles.answered`
    * `mockBedrock_doublesRealBedrock`
-/

------------------------------------------------------------
-- The Scripted Provider
------------------------------------------------------------

namespace WarpByokProxy

variable {F Chunk : Type}

/- The task that replays the script, with what is left. -/
inductive MockTask where
  | sending (events : List BedrockEvent)
  | stopped

/- The task has stopped, and its end is gone. -/
def MockTask.isStopped : MockTask → Bool
  | .stopped => true
  | _ => false

/- All tasks and both channels, under a script. -/
structure MockState (F Chunk : Type) where
  mock : MockTask
  events : Channel (Except String BedrockEvent) 32
  pump : PumpTask F Chunk
  body : Channel Chunk 32
  reader : BodyReader Chunk

namespace MockState

/- Send the next event of the script. -/
def mockStep
    (state : MockState F Chunk) :
    Option (MockState F Chunk) :=
  match state.mock with
  | .stopped => none
  | .sending [] => some { state with mock := .stopped }
  | .sending (event :: rest) =>
      if state.pump.isStopped then
        some { state with mock := .stopped }
      else
        (state.events.send? (.ok event)).map (fun events =>
          { state with
            events := events
            mock := .sending rest })

/-
  The other parties find a sender at the end of the channel
  that has stopped or has not; a drained SDK does for one.
-/
def parties
    (state : MockState F Chunk) : StreamState F Chunk where
  drain :=
    if state.mock.isStopped then .stopped else .receiving []
  events := state.events
  pump := state.pump
  body := state.body
  reader := state.reader

/- What the other parties leave. -/
def withParties
    (state : MockState F Chunk)
    (next : StreamState F Chunk) : MockState F Chunk where
  mock := state.mock
  events := next.events
  pump := next.pump
  body := next.body
  reader := next.reader

/- The state in which the tasks are spawned. -/
def initial
    (uuids : Nat → String)
    (opts : UiAdapterOpts)
    (scripted : List BedrockEvent) :
    MockState F Chunk where
  mock := .sending scripted
  events := .empty
  pump := .running .new (UiAdapter.new uuids opts) [] [] false
  body := .empty
  reader := { received := [], connected := true }

end MockState

/- The tasks and the client, under a script. -/
def mockTasks
    (serde : SerdeJson F)
    (uuids : Nat → String)
    (encodeSseEvent : Wmaa.ResponseEvent → Chunk) :
    Actors StreamActor (MockState F Chunk) where
  step
    | .drain => MockState.mockStep
    | actor => fun state =>
        ((streamTasks serde uuids encodeSseEvent).step actor
          state.parties).map state.withParties

end WarpByokProxy

------------------------------------------------------------
-- What The Other Parties See
------------------------------------------------------------

namespace WarpByokProxy

namespace StreamState

variable {F Chunk : Type}

/- The state with another task that drains. -/
def withDrain
    (state : StreamState F Chunk)
    (drain : DrainTask) : StreamState F Chunk :=
  { state with drain := drain }

/-
  The pump does the same with another sender, if it has
  stopped just when the first one has.
-/
theorem pumpStep_withDrain
    {serde : SerdeJson F}
    {uuids : Nat → String}
    {encodeSseEvent : Wmaa.ResponseEvent → Chunk}
    {state : StreamState F Chunk}
    {drain : DrainTask}
    (hStopped : drain.isStopped = state.drain.isStopped) :
    (state.withDrain drain).pumpStep serde uuids
        encodeSseEvent =
      (state.pumpStep serde uuids encodeSseEvent).map
        (fun next => next.withDrain drain) := by
  rcases state with ⟨before, events, pump, body, reader⟩
  cases pump with
  | stopped => rfl
  | running acc adapter frames chunks failed =>
      cases chunks with
      | cons chunk chunks =>
          cases hConnected : reader.connected with
          | false =>
              simp only [withDrain, pumpStep, hConnected,
                Bool.false_eq_true, if_false, Option.map_some]
          | true =>
              simp only [withDrain, pumpStep, hConnected,
                if_true, Option.map_map]
              rfl
      | nil =>
          cases frames with
          | cons frame frames => rfl
          | nil =>
              cases failed with
              | true => rfl
              | false =>
                  cases hRecv : events.recv? with
                  | none =>
                      -- Only here is the sender looked at.
                      simp only [withDrain, pumpStep, hRecv,
                        hStopped]
                      cases before.isStopped <;> rfl
                  | some received =>
                      rcases received with ⟨item, rest⟩
                      simp only [withDrain, pumpStep, hRecv]
                      cases item <;> rfl

/- Nor does the client care for the sender. -/
theorem step_withDrain
    {serde : SerdeJson F}
    {uuids : Nat → String}
    {encodeSseEvent : Wmaa.ResponseEvent → Chunk}
    {actor : StreamActor}
    {state : StreamState F Chunk}
    {drain : DrainTask}
    (hActor : actor ≠ .drain)
    (hStopped : drain.isStopped = state.drain.isStopped) :
    (streamTasks serde uuids encodeSseEvent).step actor
        (state.withDrain drain) =
      ((streamTasks serde uuids encodeSseEvent).step actor
        state).map (fun next => next.withDrain drain) := by
  cases actor with
  | drain => contradiction
  | pump => exact pumpStep_withDrain hStopped
  | reader =>
      simp only [streamTasks, withDrain, readStep]
      cases state.reader.connected with
      | false => rfl
      | true =>
          simp only [if_true, Option.map_map]
          rfl
  | disconnect =>
      simp only [streamTasks, withDrain, disconnectStep]
      cases state.reader.connected <;> rfl

end StreamState

end WarpByokProxy

------------------------------------------------------------
-- What The Sender Does
------------------------------------------------------------

namespace WarpByokProxy

variable {F Chunk : Type}

/- What the task has yet to send. -/
def MockTask.pending :
    MockTask → List (Except String BedrockEvent)
  | .sending events => events.map .ok
  | .stopped => []

namespace StreamState

/-
  A receive from the SDK changes the task only, and nothing
  about what it is to send.
-/
theorem drainStep_receiving
    (serde : SerdeJson F)
    (state : StreamState F Chunk)
    (results :
      List
        (Except String (Option Sdk.ConverseStreamOutput))) :
    ∃ next : DrainTask,
      (state.withDrain (.receiving results)).drainStep
          serde =
        some (state.withDrain next) ∧
      next.pending serde = drainStream serde results ∧
      next.stepsLeft < 2 * results.length + 1 := by
  cases results with
  | nil => exact ⟨.stopped, rfl, rfl, Nat.succ_pos _⟩
  | cons result rest =>
      rw [List.length_cons]
      cases result with
      | error e =>
          refine
            ⟨.sending (.error ("bedrock stream recv: " ++ e))
              rest, rfl, rfl, ?_⟩
          rw [DrainTask.stepsLeft]
          omega
      | ok sdkEvent =>
          cases sdkEvent with
          | none => exact ⟨.stopped, rfl, rfl, Nat.succ_pos _⟩
          | some sdkEvent =>
              cases hEvent :
                  translateOutputEvent serde sdkEvent with
              | none =>
                  refine ⟨.receiving rest, ?_, ?_, ?_⟩
                  · simp only [withDrain, drainStep, hEvent]
                  · simp only [DrainTask.pending, drainStream,
                      hEvent]
                  · rw [DrainTask.stepsLeft]
                    omega
              | some event =>
                  refine
                    ⟨.sending (.ok event) rest, ?_, ?_, ?_⟩
                  · simp only [withDrain, drainStep, hEvent]
                  · simp only [DrainTask.pending, drainStream,
                      hEvent]
                  · rw [DrainTask.stepsLeft]
                    omega

/-
  By itself, the task that drains the SDK goes on until it
  holds an item or has stopped, whatever it skips.
-/
theorem reachable_ready
    (serde : SerdeJson F)
    (uuids : Nat → String)
    (encodeSseEvent : Wmaa.ResponseEvent → Chunk)
    (state : StreamState F Chunk)
    (drain : DrainTask) :
    ∃ next : DrainTask,
      (∀ later, next ≠ .receiving later) ∧
        next.pending serde = drain.pending serde ∧
        (streamTasks serde uuids encodeSseEvent).Reachable
          (state.withDrain drain)
          (state.withDrain next) := by
  induction hSteps : drain.stepsLeft using Nat.strongRecOn
    generalizing drain with
  | _ steps ih =>
      cases drain with
      | sending item results =>
          refine
            ⟨.sending item results, fun _ => nofun, rfl, ?_⟩
          exact Relation.ReflTransGen.refl
      | stopped =>
          refine ⟨.stopped, fun _ => nofun, rfl, ?_⟩
          exact Relation.ReflTransGen.refl
      | receiving results =>
          rcases drainStep_receiving serde state results with
            ⟨between, hStep, hPending, hLess⟩
          rw [DrainTask.stepsLeft] at hSteps
          rw [hSteps] at hLess
          rcases ih _ hLess between rfl with
            ⟨next, hNext, hSame, hReach⟩
          refine ⟨next, hNext, hSame.trans hPending, ?_⟩
          exact
            Relation.ReflTransGen.head ⟨.drain, hStep⟩ hReach

/- A task that has nothing left to send stops by itself. -/
theorem reachable_stopped
    {serde : SerdeJson F}
    (uuids : Nat → String)
    (encodeSseEvent : Wmaa.ResponseEvent → Chunk)
    (state : StreamState F Chunk)
    {drain : DrainTask}
    (hPending : drain.pending serde = []) :
    (streamTasks serde uuids encodeSseEvent).Reachable
      (state.withDrain drain)
      (state.withDrain .stopped) := by
  rcases reachable_ready serde uuids encodeSseEvent state
      drain with
    ⟨next, hNext, hSame, hReach⟩
  cases next with
  | receiving later => exact absurd rfl (hNext later)
  | stopped => exact hReach
  | sending item later =>
      rw [pending_sending, hPending] at hSame
      exact absurd hSame (List.cons_ne_nil _ _)

/- A task that is to send an event takes it by itself. -/
theorem reachable_sending
    {serde : SerdeJson F}
    (uuids : Nat → String)
    (encodeSseEvent : Wmaa.ResponseEvent → Chunk)
    (state : StreamState F Chunk)
    {drain : DrainTask}
    {event : BedrockEvent}
    {items : List (Except String BedrockEvent)}
    (hPending : drain.pending serde = .ok event :: items) :
    ∃ later,
      drainStream serde later = items ∧
        (streamTasks serde uuids encodeSseEvent).Reachable
          (state.withDrain drain)
          (state.withDrain (.sending (.ok event) later)) := by
  rcases reachable_ready serde uuids encodeSseEvent state
      drain with
    ⟨next, hNext, hSame, hReach⟩
  rw [hPending] at hSame
  cases next with
  | receiving later => exact absurd rfl (hNext later)
  | stopped => contradiction
  | sending item later =>
      rw [pending_sending, List.cons.injEq] at hSame
      rcases hSame with ⟨rfl, hLater⟩
      exact ⟨later, hLater, hReach⟩

end StreamState

end WarpByokProxy

------------------------------------------------------------
-- The Double
------------------------------------------------------------

namespace WarpByokProxy

variable {F Chunk : Type}

/-
  The script stands in for the SDK: the same is left to send,
  and the other parties are in the same state.
-/
structure MockState.Doubles
    (serde : SerdeJson F)
    (mock : MockState F Chunk)
    (real : StreamState F Chunk) : Prop where
  isStopped : real.drain.isStopped = mock.mock.isStopped
  pending : real.drain.pending serde = mock.mock.pending
  parties : mock.parties.withDrain real.drain = real

namespace MockState

/- Both are in the same state but for the sender. -/
theorem Doubles.sameParties
    {serde : SerdeJson F}
    {mock : MockTask}
    {drain : DrainTask}
    {events events' :
      Channel (Except String BedrockEvent) 32}
    {pump pump' : PumpTask F Chunk}
    {body body' : Channel Chunk 32}
    {reader reader' : BodyReader Chunk}
    (hDoubles :
      Doubles serde ⟨mock, events, pump, body, reader⟩
        ⟨drain, events', pump', body', reader'⟩) :
    events = events' ∧ pump = pump' ∧ body = body' ∧
      reader = reader' := by
  have hParties := hDoubles.parties
  simp only [MockState.parties, StreamState.withDrain,
    StreamState.mk.injEq, true_and] at hParties
  exact hParties

/- Other parties step as they do beside the SDK. -/
theorem mockTasks_step
    {serde : SerdeJson F}
    {uuids : Nat → String}
    {encodeSseEvent : Wmaa.ResponseEvent → Chunk}
    {actor : StreamActor}
    {mock : MockState F Chunk}
    (hActor : actor ≠ .drain) :
    (mockTasks serde uuids encodeSseEvent).step actor mock =
      ((streamTasks serde uuids encodeSseEvent).step actor
        mock.parties).map mock.withParties := by
  cases actor with
  | drain => contradiction
  | pump => rfl
  | reader => rfl
  | disconnect => rfl

theorem isStopped_parties
    (mock : MockState F Chunk) :
    mock.parties.drain.isStopped = mock.mock.isStopped := by
  rw [parties]
  cases mock.mock <;> rfl

/- A step of another party leaves both senders alone. -/
theorem Doubles.withParties
    {serde : SerdeJson F}
    {mock : MockState F Chunk}
    {real : StreamState F Chunk}
    (hDoubles : mock.Doubles serde real)
    (next : StreamState F Chunk) :
    (mock.withParties next).Doubles serde
      (next.withDrain real.drain) where
  isStopped := hDoubles.isStopped
  pending := hDoubles.pending
  parties := rfl

/- The other parties do the same with either sender. -/
theorem Doubles.otherStep
    {serde : SerdeJson F}
    {uuids : Nat → String}
    {encodeSseEvent : Wmaa.ResponseEvent → Chunk}
    {actor : StreamActor}
    {mock : MockState F Chunk}
    {real : StreamState F Chunk}
    (hDoubles : mock.Doubles serde real)
    (hActor : actor ≠ .drain) :
    (streamTasks serde uuids encodeSseEvent).step actor
        real =
      ((streamTasks serde uuids encodeSseEvent).step actor
        mock.parties).map
          (fun next => next.withDrain real.drain) := by
  rw [← StreamState.step_withDrain hActor
      (hDoubles.isStopped.trans mock.isStopped_parties.symm),
    hDoubles.parties]

/- The next step of the script is one of the SDK's events. -/
theorem Doubles.answer_mockStep
    {serde : SerdeJson F}
    (uuids : Nat → String)
    (encodeSseEvent : Wmaa.ResponseEvent → Chunk)
    {mock next : MockState F Chunk}
    {real : StreamState F Chunk}
    (hDoubles : mock.Doubles serde real)
    (hStep : mock.mockStep = some next) :
    ∃ answer,
      (streamTasks serde uuids encodeSseEvent).Reachable real
          answer ∧
        next.Doubles serde answer := by
  rw [← hDoubles.parties]
  have hPending := hDoubles.pending
  rcases mock with ⟨task, events, pump, body, reader⟩
  cases task with
  | stopped => contradiction
  | sending script =>
      cases script with
      | nil =>
          obtain rfl := Option.some.inj hStep
          refine
            ⟨⟨.stopped, events, pump, body, reader⟩, ?_,
              ⟨rfl, rfl, rfl⟩⟩
          exact
            StreamState.reachable_stopped uuids encodeSseEvent
              _ hPending
      | cons event rest =>
          rcases StreamState.reachable_sending uuids
              encodeSseEvent
              (MockState.parties
                ⟨.sending (event :: rest), events, pump, body,
                  reader⟩)
              hPending with
            ⟨later, hLater, hReach⟩
          -- Both are about to send the same event.
          cases hStopped : pump.isStopped with
          | true =>
              simp only [mockStep, hStopped, if_true,
                Option.some.injEq] at hStep
              subst hStep
              refine
                ⟨⟨.stopped, events, pump, body, reader⟩, ?_,
                  ⟨rfl, rfl, rfl⟩⟩
              refine hReach.tail ⟨.drain, ?_⟩
              simp only [streamTasks, StreamState.withDrain,
                MockState.parties, StreamState.drainStep,
                hStopped, if_true]
          | false =>
              simp only [mockStep, hStopped,
                Bool.false_eq_true, if_false,
                Option.map_eq_some_iff] at hStep
              rcases hStep with ⟨sent, hSend, rfl⟩
              refine
                ⟨⟨.receiving later, sent, pump, body, reader⟩,
                  ?_, ⟨rfl, hLater, rfl⟩⟩
              refine hReach.tail ⟨.drain, ?_⟩
              simp only [streamTasks, StreamState.withDrain,
                MockState.parties, StreamState.drainStep,
                hStopped, Bool.false_eq_true, if_false, hSend,
                Option.map_some, DrainTask.afterSend]

/- The next step of the SDK is one of the script, or none. -/
theorem Doubles.answer_drainStep
    {serde : SerdeJson F}
    (uuids : Nat → String)
    (encodeSseEvent : Wmaa.ResponseEvent → Chunk)
    {mock : MockState F Chunk}
    {real next : StreamState F Chunk}
    (hDoubles : mock.Doubles serde real)
    (hStep : real.drainStep serde = some next) :
    ∃ answer,
      (mockTasks serde uuids encodeSseEvent).Reachable mock
          answer ∧
        answer.Doubles serde next := by
  rcases mock with ⟨task, events, pump, body, reader⟩
  rcases real with ⟨drain, events', pump', body', reader'⟩
  rcases hDoubles.sameParties with ⟨rfl, rfl, rfl, rfl⟩
  have hPending := hDoubles.pending
  -- A script that has stopped leaves nothing to drain.
  cases task with
  | stopped =>
      have hStopped : drain.isStopped = true :=
        hDoubles.isStopped
      cases drain with
      | stopped => contradiction
      | receiving results => contradiction
      | sending item results => contradiction
  | sending script =>
      cases drain with
      | stopped => contradiction
      | receiving results =>
          rcases StreamState.drainStep_receiving serde
              ⟨.receiving results, events, pump, body, reader⟩
              results with
            ⟨between, hNext, hSame, -⟩
          obtain rfl :=
            Option.some.inj (hNext.symm.trans hStep)
          have hLeft := hSame.trans hPending
          cases hBetween : between.isStopped with
          | false =>
              exact
                ⟨_, Relation.ReflTransGen.refl,
                  ⟨hBetween, hLeft, rfl⟩⟩
          | true =>
              cases between with
              | receiving later => contradiction
              | sending item later => contradiction
              | stopped =>
                  have hScript : script = [] :=
                    List.map_eq_nil_iff.mp hLeft.symm
                  refine
                    ⟨⟨.stopped, events, pump, body, reader⟩,
                      ?_, ⟨rfl, rfl, rfl⟩⟩
                  rw [hScript]
                  exact
                    Relation.ReflTransGen.single
                      ⟨.drain, rfl⟩
      | sending item results =>
          rw [StreamState.pending_sending] at hPending
          rcases List.map_eq_cons_iff.mp hPending.symm with
            ⟨event, rest, rfl, rfl, hRest⟩
          cases hStopped : pump.isStopped with
          | true =>
              simp only [StreamState.drainStep, hStopped,
                if_true, Option.some.injEq] at hStep
              subst hStep
              refine
                ⟨⟨.stopped, events, pump, body, reader⟩, ?_,
                  ⟨rfl, rfl, rfl⟩⟩
              refine
                Relation.ReflTransGen.single ⟨.drain, ?_⟩
              simp only [mockTasks, mockStep, hStopped,
                if_true]
          | false =>
              simp only [StreamState.drainStep, hStopped,
                Bool.false_eq_true, if_false,
                Option.map_eq_some_iff] at hStep
              rcases hStep with ⟨sent, hSend, rfl⟩
              refine
                ⟨⟨.sending rest, sent, pump, body, reader⟩,
                  ?_, ⟨rfl, hRest.symm, rfl⟩⟩
              refine
                Relation.ReflTransGen.single ⟨.drain, ?_⟩
              simp only [mockTasks, mockStep, hStopped,
                Bool.false_eq_true, if_false, hSend,
                Option.map_some]

/- The SDK answers every step under the script. -/
theorem Doubles.answer
    {serde : SerdeJson F}
    {uuids : Nat → String}
    {encodeSseEvent : Wmaa.ResponseEvent → Chunk}
    {actor : StreamActor}
    {mock next : MockState F Chunk}
    {real : StreamState F Chunk}
    (hDoubles : mock.Doubles serde real)
    (hStep :
      (mockTasks serde uuids encodeSseEvent).step actor
        mock = some next) :
    ∃ answer,
      (streamTasks serde uuids encodeSseEvent).Reachable real
          answer ∧
        next.Doubles serde answer := by
  by_cases hActor : actor = .drain
  · subst hActor
    exact
      hDoubles.answer_mockStep uuids encodeSseEvent hStep
  · rw [mockTasks_step hActor, Option.map_eq_some_iff]
      at hStep
    rcases hStep with ⟨after, hAfter, rfl⟩
    refine
      ⟨_, Relation.ReflTransGen.single ⟨actor, ?_⟩,
        hDoubles.withParties after⟩
    rw [hDoubles.otherStep hActor, hAfter, Option.map_some]

/- The script answers every step of the SDK. -/
theorem Doubles.answered
    {serde : SerdeJson F}
    {uuids : Nat → String}
    {encodeSseEvent : Wmaa.ResponseEvent → Chunk}
    {actor : StreamActor}
    {mock : MockState F Chunk}
    {real next : StreamState F Chunk}
    (hDoubles : mock.Doubles serde real)
    (hStep :
      (streamTasks serde uuids encodeSseEvent).step actor
        real = some next) :
    ∃ answer,
      (mockTasks serde uuids encodeSseEvent).Reachable mock
          answer ∧
        answer.Doubles serde next := by
  by_cases hActor : actor = .drain
  · subst hActor
    exact
      hDoubles.answer_drainStep uuids encodeSseEvent hStep
  · rw [hDoubles.otherStep hActor, Option.map_eq_some_iff]
      at hStep
    rcases hStep with ⟨after, hAfter, rfl⟩
    refine
      ⟨_, Relation.ReflTransGen.single ⟨actor, ?_⟩,
        hDoubles.withParties after⟩
    rw [mockTasks_step hActor, hAfter, Option.map_some]

/- The tasks are spawned alike. -/
theorem doubles_initial
    {serde : SerdeJson F}
    (uuids : Nat → String)
    (opts : UiAdapterOpts)
    {results :
      List
        (Except String (Option Sdk.ConverseStreamOutput))}
    {scripted : List BedrockEvent}
    (hScript :
      drainStream serde results = scripted.map .ok) :
    (initial uuids opts scripted :
      MockState F Chunk).Doubles serde
        (.initial uuids opts results) where
  isStopped := rfl
  pending := hScript
  parties := rfl

end MockState

/-
  Under the script, the channels, the pump and the client can
  get into a state if and only if they can get into it with
  the SDK. They find the sender stopped in both or in
  neither.
-/
def DoublesRealBedrock
    (serde : SerdeJson F)
    (uuids : Nat → String)
    (encodeSseEvent : Wmaa.ResponseEvent → Chunk)
    (opts : UiAdapterOpts)
    (results :
      List
        (Except String (Option Sdk.ConverseStreamOutput)))
    (scripted : List BedrockEvent) : Prop :=
  ∀ isStopped events pump body reader,
    (∃ mock,
      mock.isStopped = isStopped ∧
        (mockTasks serde uuids encodeSseEvent).Reachable
          (.initial uuids opts scripted)
          ⟨mock, events, pump, body, reader⟩) ↔
      ∃ drain,
        drain.isStopped = isStopped ∧
          (streamTasks serde uuids encodeSseEvent).Reachable
            (.initial uuids opts results)
            ⟨drain, events, pump, body, reader⟩

/-
  The scripted provider stands in for the one that calls the
  SDK, whenever the SDK delivers the script without failing.
-/
theorem mockBedrock_doublesRealBedrock
    {serde : SerdeJson F}
    {results :
      List
        (Except String (Option Sdk.ConverseStreamOutput))}
    {scripted : List BedrockEvent}
    (hScript :
      drainStream serde results = scripted.map .ok)
    (uuids : Nat → String)
    (encodeSseEvent : Wmaa.ResponseEvent → Chunk)
    (opts : UiAdapterOpts) :
    DoublesRealBedrock serde uuids encodeSseEvent opts
      results scripted := by
  have hInit :
      (MockState.initial uuids opts scripted :
        MockState F Chunk).Doubles serde
          (.initial uuids opts results) :=
    MockState.doubles_initial uuids opts hScript
  intro isStopped events pump body reader
  constructor
  · rintro ⟨mock, rfl, hReach⟩
    rcases Actors.Reachable.simulate
        (fun _ _ _ _ hDoubles hStep =>
          MockState.Doubles.answer hDoubles hStep)
        hReach hInit with
      ⟨⟨drain, _, _, _, _⟩, hAnswer, hDoubles⟩
    rcases hDoubles.sameParties with ⟨rfl, rfl, rfl, rfl⟩
    exact ⟨drain, hDoubles.isStopped, hAnswer⟩
  · rintro ⟨drain, rfl, hReach⟩
    rcases Actors.Reachable.simulate
        (fun _ _ _ _ hDoubles hStep =>
          MockState.Doubles.answered hDoubles hStep)
        hReach hInit with
      ⟨⟨mock, _, _, _, _⟩, hAnswer, hDoubles⟩
    rcases hDoubles.sameParties with ⟨rfl, rfl, rfl, rfl⟩
    exact ⟨mock, hDoubles.isStopped.symm, hAnswer⟩

/- An event that the client skips is not in the script. -/
theorem mockBedrock_doublesRealBedrock_skipped :
    DoublesRealBedrock SerdeJson.integral numberedUuids id
      ⟨none, none, none⟩
      [.ok (some .messageStart), .ok (some .other),
        .ok (some (.messageStop "end_turn")), .ok none]
      [.messageStart, .messageStop "end_turn"] :=
  mockBedrock_doublesRealBedrock rfl numberedUuids id
    ⟨none, none, none⟩

end WarpByokProxy
