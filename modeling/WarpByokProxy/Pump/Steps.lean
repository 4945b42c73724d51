import WarpByokProxy.Pump.Interleaving

/-
  What a step of the concurrent tasks can do.

  Each actor has one rule that says everything its step
  changes, so that invariants of runs are proved without
  taking the steps apart again.

  Key definitions include:
    * `DrainTask.held`
    * `DrainTask.unreceived`
    * `StreamState.DrainMoves`
    * `StreamState.PumpMoves`

  Key theorems include:
    * `StreamState.drainMoves_of_step`
    * `StreamState.pumpMoves_of_step`
    * `StreamState.readMoves_of_step`
    * `StreamState.disconnectMoves_of_step`
-/

------------------------------------------------------------
-- What A Step Can Do
------------------------------------------------------------

namespace WarpByokProxy

variable {F Chunk : Type}

/- An upper bound on the steps that are left to the task. -/
def DrainTask.stepsLeft : DrainTask → Nat
  | .receiving results => 2 * results.length + 1
  | .sending _ results => 2 * results.length + 2
  | .stopped => 0

/- The item that the task has drained but not yet sent. -/
def DrainTask.held :
    DrainTask → List (Except String BedrockEvent)
  | .sending item _ => [item]
  | _ => []

/- What the SDK has yet to deliver to the task. -/
def DrainTask.unreceived
    (serde : SerdeJson F) :
    DrainTask → List (Except String BedrockEvent)
  | .receiving results => drainStream serde results
  | .sending (.ok _) results => drainStream serde results
  | .sending (.error _) _ => []
  | .stopped => []

/- What is held is sent before the rest. -/
theorem DrainTask.pending_eq_held_append
    (serde : SerdeJson F)
    (drain : DrainTask) :
    drain.pending serde =
      drain.held ++ drain.unreceived serde := by
  cases drain with
  | receiving results => rfl
  | sending item results =>
      cases item with
      | ok event => rfl
      | error e => rfl
  | stopped => rfl

namespace StreamState

/-
  What a step of the draining task can do: nothing to the
  other parties, and nothing to what the pump has yet to
  receive as long as there is a pump. An error that it sends
  is its last word.
-/
structure DrainMoves
    (serde : SerdeJson F)
    (state next : StreamState F Chunk) : Prop where
  pump : next.pump = state.pump
  body : next.body = state.body
  reader : next.reader = state.reader
  running : state.drain.isStopped = false
  stepsLeft : next.drain.stepsLeft < state.drain.stepsLeft
  itemsAhead :
    state.pump.isStopped = false →
      next.itemsAhead serde = state.itemsAhead serde
  failure :
    ∀ e, .error e ∈ next.events.items →
      .error e ∈ state.events.items ∨
        next.drain.isStopped = true

/- Draining one result of the SDK leaves the channel alone. -/
theorem drainMoves_of_receiving
    {serde : SerdeJson F}
    {results :
      List
        (Except String (Option Sdk.ConverseStreamOutput))}
    {drain : DrainTask}
    {events : Channel (Except String BedrockEvent) 32}
    {pump : PumpTask F Chunk}
    {body : Channel Chunk 32}
    {reader : BodyReader Chunk}
    (hSteps : drain.stepsLeft < 2 * results.length + 1)
    (hPending :
      drain.pending serde = drainStream serde results) :
    DrainMoves serde
      ⟨.receiving results, events, pump, body, reader⟩
      ⟨drain, events, pump, body, reader⟩ where
  pump := rfl
  body := rfl
  reader := rfl
  running := rfl
  stepsLeft := hSteps
  itemsAhead := by
    intro _
    rw [itemsAhead, hPending]
    rfl
  failure := fun _ hMem => Or.inl hMem

/- Sending moves the held item into the channel. -/
theorem drainMoves_of_sending
    {serde : SerdeJson F}
    {item : Except String BedrockEvent}
    {results :
      List
        (Except String (Option Sdk.ConverseStreamOutput))}
    {events sent : Channel (Except String BedrockEvent) 32}
    {pump : PumpTask F Chunk}
    {body : Channel Chunk 32}
    {reader : BodyReader Chunk}
    (hSend : events.send? item = some sent) :
    DrainMoves serde
      ⟨.sending item results, events, pump, body, reader⟩
      ⟨.afterSend item results, sent, pump, body,
        reader⟩ where
  pump := rfl
  body := rfl
  reader := rfl
  running := rfl
  stepsLeft := by
    cases item with
    | ok event => exact Nat.lt_succ_self _
    | error e => exact Nat.succ_pos _
  itemsAhead := by
    intro _
    simp only [itemsAhead]
    rw [Channel.items_send? hSend, pending_sending,
      List.append_assoc, List.singleton_append]
  failure := by
    intro e hMem
    have hMem : .error e ∈ sent.items := hMem
    rw [Channel.items_send? hSend, List.mem_append,
      List.mem_singleton] at hMem
    rcases hMem with hOld | rfl
    · exact Or.inl hOld
    · exact Or.inr rfl

/- Step rule of the draining task. -/
theorem drainMoves_of_step
    {serde : SerdeJson F}
    {state next : StreamState F Chunk}
    (hStep : state.drainStep serde = some next) :
    DrainMoves serde state next := by
  rcases state with ⟨drain, events, pump, body, reader⟩
  cases drain with
  | stopped => contradiction
  | receiving results =>
      cases results with
      | nil =>
          obtain rfl := Option.some.inj hStep
          exact drainMoves_of_receiving (Nat.succ_pos _) rfl
      | cons result rest =>
          have hSteps :
              (DrainTask.receiving rest).stepsLeft + 2 =
                2 * (result :: rest).length + 1 := by
            rw [DrainTask.stepsLeft, List.length_cons]
            omega
          cases result with
          | error e =>
              obtain rfl := Option.some.inj hStep
              refine drainMoves_of_receiving ?_ rfl
              rw [← hSteps]
              exact Nat.lt_succ_self _
          | ok sdkEvent =>
              cases sdkEvent with
              | none =>
                  obtain rfl := Option.some.inj hStep
                  exact drainMoves_of_receiving
                    (Nat.succ_pos _) rfl
              | some sdkEvent =>
                  -- Only what translates goes to the pump.
                  cases hEvent :
                      translateOutputEvent serde sdkEvent with
                  | none =>
                      simp only [drainStep, hEvent,
                        Option.some.injEq] at hStep
                      subst hStep
                      apply drainMoves_of_receiving
                      · rw [← hSteps]
                        exact Nat.lt_add_of_pos_right
                          Nat.two_pos
                      · simp only [DrainTask.pending,
                          drainStream, hEvent]
                  | some event =>
                      simp only [drainStep, hEvent,
                        Option.some.injEq] at hStep
                      subst hStep
                      apply drainMoves_of_receiving
                      · rw [← hSteps]
                        exact Nat.lt_succ_self _
                      · simp only [DrainTask.pending,
                          drainStream, hEvent]
  | sending item results =>
      cases hStopped : pump.isStopped with
      | true =>
          simp only [drainStep, hStopped, if_true,
            Option.some.injEq] at hStep
          subst hStep
          exact
            { pump := rfl
              body := rfl
              reader := rfl
              running := rfl
              stepsLeft := Nat.succ_pos _
              itemsAhead := by
                intro hRunning
                rw [hStopped] at hRunning
                contradiction
              failure := fun _ hMem => Or.inl hMem }
      | false =>
          simp only [drainStep, hStopped, Bool.false_eq_true,
            if_false, Option.map_eq_some_iff] at hStep
          rcases hStep with ⟨sent, hSend, rfl⟩
          exact drainMoves_of_sending hSend

/-
  What a step of the pump can do, one constructor for each
  arm of the loop.
-/
inductive PumpMoves
    (serde : SerdeJson F)
    (uuids : Nat → String)
    (encodeSseEvent : Wmaa.ResponseEvent → Chunk) :
    StreamState F Chunk → StreamState F Chunk → Prop where
  | send
      {drain events acc adapter frames chunk chunks failed}
      {body sent : Channel Chunk 32}
      {reader : BodyReader Chunk}
      (hConnected : reader.connected = true)
      (hSend : body.send? chunk = some sent) :
      PumpMoves serde uuids encodeSseEvent
        ⟨drain, events,
          .running acc adapter frames (chunk :: chunks)
            failed, body, reader⟩
        ⟨drain, events,
          .running acc adapter frames chunks failed, sent,
            reader⟩
  | hangUp
      {drain events acc adapter frames chunk chunks failed}
      {body : Channel Chunk 32}
      {reader : BodyReader Chunk}
      (hConnected : reader.connected = false) :
      PumpMoves serde uuids encodeSseEvent
        ⟨drain, events,
          .running acc adapter frames (chunk :: chunks)
            failed, body, reader⟩
        ⟨drain, events, .stopped, body, reader⟩
  | translate
      {drain events acc adapter frame frames failed body
        reader} :
      PumpMoves serde uuids encodeSseEvent
        ⟨drain, events,
          .running acc adapter (frame :: frames) [] failed,
            body, reader⟩
        ⟨drain, events,
          .running acc
            (adapter.translate serde uuids frame).1 frames
            ((adapter.translate serde uuids frame).2.map
              encodeSseEvent) failed, body, reader⟩
  | finish
      {drain events acc adapter body reader} :
      PumpMoves serde uuids encodeSseEvent
        ⟨drain, events, .running acc adapter [] [] true,
          body, reader⟩
        ⟨drain, events, .stopped, body, reader⟩
  | handle
      {drain acc adapter body reader event}
      {events rest :
        Channel (Except String BedrockEvent) 32}
      (hItems : events.items = .ok event :: rest.items) :
      PumpMoves serde uuids encodeSseEvent
        ⟨drain, events, .running acc adapter [] [] false,
          body, reader⟩
        ⟨drain, rest,
          .running (acc.handle serde event).1 adapter
            (acc.handle serde event).2 [] false,
          body, reader⟩
  | fail
      {drain acc adapter body reader e}
      {events rest :
        Channel (Except String BedrockEvent) 32}
      (hItems : events.items = .error e :: rest.items) :
      PumpMoves serde uuids encodeSseEvent
        ⟨drain, events, .running acc adapter [] [] false,
          body, reader⟩
        ⟨drain, rest,
          .running
            (acc.handle serde (.messageStop "error")).1
            adapter
            (acc.handle serde (.messageStop "error")).2 []
            true,
          body, reader⟩
  | close
      {acc adapter body reader}
      {drain : DrainTask}
      {events : Channel (Except String BedrockEvent) 32}
      (hStopped : drain.isStopped = true)
      (hItems : events.items = []) :
      PumpMoves serde uuids encodeSseEvent
        ⟨drain, events, .running acc adapter [] [] false,
          body, reader⟩
        ⟨drain, events, .stopped, body, reader⟩

/- Step rule of the pump. -/
theorem pumpMoves_of_step
    {serde : SerdeJson F}
    {uuids : Nat → String}
    {encodeSseEvent : Wmaa.ResponseEvent → Chunk}
    {state next : StreamState F Chunk}
    (hStep :
      state.pumpStep serde uuids encodeSseEvent =
        some next) :
    PumpMoves serde uuids encodeSseEvent state next := by
  rcases state with ⟨drain, events, pump, body, reader⟩
  cases pump with
  | stopped => contradiction
  | running acc adapter frames chunks failed =>
      cases chunks with
      | cons chunk chunks =>
          cases hConnected : reader.connected with
          | false =>
              simp only [pumpStep, hConnected,
                Bool.false_eq_true, if_false,
                Option.some.injEq] at hStep
              subst hStep
              exact PumpMoves.hangUp hConnected
          | true =>
              simp only [pumpStep, hConnected, if_true,
                Option.map_eq_some_iff] at hStep
              rcases hStep with ⟨sent, hSend, rfl⟩
              exact PumpMoves.send hConnected hSend
      | nil =>
          cases frames with
          | cons frame frames =>
              obtain rfl := Option.some.inj hStep
              exact PumpMoves.translate
          | nil =>
              cases failed with
              | true =>
                  obtain rfl := Option.some.inj hStep
                  exact PumpMoves.finish
              | false =>
                  cases hRecv : events.recv? with
                  | none =>
                      simp only [pumpStep, hRecv,
                        Option.ite_none_right_eq_some,
                        Option.some.injEq] at hStep
                      rcases hStep with ⟨hStopped, rfl⟩
                      apply PumpMoves.close hStopped
                      exact
                        Channel.items_of_recv?_eq_none hRecv
                  | some received =>
                      rcases received with ⟨item, rest⟩
                      have hItems :=
                        Channel.items_recv? hRecv
                      cases item with
                      | ok event =>
                          simp only [pumpStep, hRecv,
                            Option.some.injEq] at hStep
                          subst hStep
                          exact PumpMoves.handle hItems
                      | error e =>
                          simp only [pumpStep, hRecv,
                            Option.some.injEq] at hStep
                          subst hStep
                          exact PumpMoves.fail hItems

/- Step rule of the client that reads. -/
theorem readMoves_of_step
    {state next : StreamState F Chunk}
    (hStep : state.readStep = some next) :
    ∃ chunk rest,
      state.reader.connected = true ∧
        state.body.items = chunk :: rest.items ∧
        next =
          { state with
            body := rest
            reader :=
              { received := state.reader.received ++ [chunk]
                connected := true } } := by
  unfold readStep at hStep
  cases hConnected : state.reader.connected with
  | false =>
      rw [hConnected, if_neg Bool.false_ne_true] at hStep
      contradiction
  | true =>
      rw [hConnected, if_pos rfl,
        Option.map_eq_some_iff] at hStep
      rcases hStep with ⟨⟨chunk, rest⟩, hRecv, rfl⟩
      exact
        ⟨chunk, rest, rfl, Channel.items_recv? hRecv, rfl⟩

/- Step rule of the client that goes away. -/
theorem disconnectMoves_of_step
    {state next : StreamState F Chunk}
    (hStep : state.disconnectStep = some next) :
    state.reader.connected = true ∧
      next =
        { state with
          reader :=
            { state.reader with connected := false } } := by
  rcases Option.ite_none_right_eq_some.mp hStep with
    ⟨hConnected, hNext⟩
  exact ⟨hConnected, (Option.some.inj hNext).symm⟩

end StreamState

end WarpByokProxy
