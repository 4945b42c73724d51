import WarpByokProxy.Pump.Body
import WarpByokProxy.StreamTasks

/-
  The concurrent tasks refine the sequential pump.

  Whatever is in the channels, in a partly flushed batch, or
  not yet drained from the SDK is still to come, in a fixed
  order. As long as the client stays, what it has received
  and what is still to come make up the body that the
  sequential pump writes. A client that goes away keeps a
  prefix of it, and tasks that are blocked for good have
  nothing left to send.

  Key definitions include:
    * `sequentialBody`
    * `DrainTask.pending`
    * `PumpTask.pending`
    * `StreamState.Accounted`
    * `RefinesSequentialPump`

  Key theorems include:
    * `StreamState.pending_drainStep`
    * `StreamState.pending_pumpStep`
    * `StreamState.accounted_of_reachable`
    * `StreamState.nothing_left_of_quiescent`
    * `streamTasks_refinesSequentialPump`
-/

------------------------------------------------------------
-- What Is Still To Come
------------------------------------------------------------

namespace WarpByokProxy

variable {F Chunk : Type}

/-
  The body that the pump writes for a client that stays, when
  the stream is drained before it is pumped.
-/
def sequentialBody
    (serde : SerdeJson F)
    (uuids : Nat → String)
    (encodeSseEvent : Wmaa.ResponseEvent → Chunk)
    (opts : UiAdapterOpts)
    (results :
      List
        (Except String (Option Sdk.ConverseStreamOutput))) :
    List Chunk :=
  (pumpStream serde uuids encodeSseEvent opts
    (drainStream serde results) .connected).taken

/- What the draining task has yet to send. -/
def DrainTask.pending
    (serde : SerdeJson F) :
    DrainTask → List (Except String BedrockEvent)
  | .receiving results => drainStream serde results
  | .sending (.ok event) results =>
      .ok event :: drainStream serde results
  | .sending (.error e) _ => [.error e]
  | .stopped => []

/-
  What the pump has yet to send, given the items that it has
  yet to receive.
-/
def PumpTask.pending
    (serde : SerdeJson F)
    (uuids : Nat → String)
    (encodeSseEvent : Wmaa.ResponseEvent → Chunk)
    (items : List (Except String BedrockEvent)) :
    PumpTask F Chunk → List Chunk
  | .running acc adapter frames chunks failed =>
      let machine := UiAdapter.machine serde uuids
      let later :=
        if failed then
          []
        else
          (StreamAccumulator.machine serde).output acc
            (consumed items)
      chunks ++
        (machine.output adapter (frames ++ later)).map
          encodeSseEvent
  | .stopped => []

namespace StreamState

/- The items that the pump has yet to receive. -/
def itemsAhead
    (serde : SerdeJson F)
    (state : StreamState F Chunk) :
    List (Except String BedrockEvent) :=
  state.events.items ++ state.drain.pending serde

/- The chunks that the pump has yet to send. -/
def pending
    (serde : SerdeJson F)
    (uuids : Nat → String)
    (encodeSseEvent : Wmaa.ResponseEvent → Chunk)
    (state : StreamState F Chunk) : List Chunk :=
  state.pump.pending serde uuids encodeSseEvent
    (state.itemsAhead serde)

/-
  Every chunk of the body is accounted for: the client holds
  a prefix, and while it stays the rest is still to come.
-/
structure Accounted
    (serde : SerdeJson F)
    (uuids : Nat → String)
    (encodeSseEvent : Wmaa.ResponseEvent → Chunk)
    (whole : List Chunk)
    (state : StreamState F Chunk) : Prop where
  received : state.reader.received <+: whole
  connected :
    state.reader.connected = true →
      state.reader.received ++
          (state.body.items ++
            state.pending serde uuids encodeSseEvent) =
        whole

/- No step is left but the loss of the client. -/
def Quiescent
    (serde : SerdeJson F)
    (uuids : Nat → String)
    (encodeSseEvent : Wmaa.ResponseEvent → Chunk)
    (state : StreamState F Chunk) : Prop :=
  ∀ actor, actor ≠ .disconnect →
    (streamTasks serde uuids encodeSseEvent).Blocked actor
      state

end StreamState

/-
  After any interleaving of steps the client has received a
  prefix of the sequential body, and all of it when the tasks
  are done and the client has stayed. That they do get done
  is shown apart from this, as `SettlesInBoundedTime`.
-/
structure RefinesSequentialPump
    (serde : SerdeJson F)
    (uuids : Nat → String)
    (encodeSseEvent : Wmaa.ResponseEvent → Chunk)
    (opts : UiAdapterOpts)
    (results :
      List
        (Except String (Option Sdk.ConverseStreamOutput))) :
    Prop where
  received :
    ∀ state,
      (streamTasks serde uuids encodeSseEvent).Reachable
          (.initial uuids opts results) state →
        state.reader.received <+:
          sequentialBody serde uuids encodeSseEvent opts
            results
  complete :
    ∀ state,
      (streamTasks serde uuids encodeSseEvent).Reachable
          (.initial uuids opts results) state →
      state.Quiescent serde uuids encodeSseEvent →
      state.reader.connected = true →
        state.reader.received =
          sequentialBody serde uuids encodeSseEvent opts
            results

end WarpByokProxy

------------------------------------------------------------
-- Steps Of The Draining Task
------------------------------------------------------------

namespace WarpByokProxy

variable {F Chunk : Type}

namespace StreamState

/- A stopped pump has nothing to send. -/
theorem pending_of_isStopped
    {state : StreamState F Chunk}
    (hStopped : state.pump.isStopped = true)
    (serde : SerdeJson F)
    (uuids : Nat → String)
    (encodeSseEvent : Wmaa.ResponseEvent → Chunk) :
    state.pending serde uuids encodeSseEvent = [] := by
  rw [pending]
  cases hPump : state.pump with
  | running => simp [hPump, PumpTask.isStopped] at hStopped
  | stopped => rfl

/- An item that is sent moves into the channel. -/
theorem pending_sending
    (serde : SerdeJson F)
    (item : Except String BedrockEvent)
    (results :
      List
        (Except String (Option Sdk.ConverseStreamOutput))) :
    (DrainTask.sending item results).pending serde =
      item ::
        (DrainTask.afterSend item results).pending serde := by
  cases item with
  | ok event => rfl
  | error e => rfl

/-
  Step rule: draining changes neither what the pump has yet
  to send nor what the client sees.
-/
theorem pending_drainStep
    {serde : SerdeJson F}
    {state next : StreamState F Chunk}
    (hStep : state.drainStep serde = some next)
    (uuids : Nat → String)
    (encodeSseEvent : Wmaa.ResponseEvent → Chunk) :
    next.reader = state.reader ∧
      next.body = state.body ∧
      next.pending serde uuids encodeSseEvent =
        state.pending serde uuids encodeSseEvent := by
  rcases state with ⟨drain, events, pump, body, reader⟩
  cases drain with
  | stopped => contradiction
  | receiving results =>
      -- What `recv` returns is drained one result at a time.
      cases results with
      | nil =>
          obtain rfl := Option.some.inj hStep
          exact ⟨rfl, rfl, rfl⟩
      | cons result rest =>
          cases result with
          | error e =>
              obtain rfl := Option.some.inj hStep
              exact ⟨rfl, rfl, rfl⟩
          | ok sdkEvent =>
              cases sdkEvent with
              | none =>
                  obtain rfl := Option.some.inj hStep
                  exact ⟨rfl, rfl, rfl⟩
              | some sdkEvent =>
                  cases hEvent :
                      translateOutputEvent serde sdkEvent with
                  | none =>
                      simp only [drainStep, hEvent,
                        Option.some.injEq] at hStep
                      subst hStep
                      refine ⟨rfl, rfl, ?_⟩
                      simp only [pending, itemsAhead,
                        DrainTask.pending, drainStream,
                        hEvent]
                  | some event =>
                      simp only [drainStep, hEvent,
                        Option.some.injEq] at hStep
                      subst hStep
                      refine ⟨rfl, rfl, ?_⟩
                      simp only [pending, itemsAhead,
                        DrainTask.pending, drainStream,
                        hEvent]
  | sending item results =>
      cases hStopped : pump.isStopped with
      | true =>
          simp only [drainStep, hStopped, if_true,
            Option.some.injEq] at hStep
          subst hStep
          refine ⟨rfl, rfl, ?_⟩
          rw [pending_of_isStopped hStopped,
            pending_of_isStopped hStopped]
      | false =>
          simp only [drainStep, hStopped, Bool.false_eq_true,
            if_false, Option.map_eq_some_iff] at hStep
          rcases hStep with ⟨sent, hSend, rfl⟩
          refine ⟨rfl, rfl, ?_⟩
          simp only [pending, itemsAhead]
          rw [Channel.items_send? hSend, pending_sending,
            List.append_assoc, List.singleton_append]

end StreamState

end WarpByokProxy

------------------------------------------------------------
-- Steps Of The Pump And Of The Client
------------------------------------------------------------

namespace WarpByokProxy

variable {F Chunk : Type}

/- A pump between two events owes what the items yield. -/
theorem PumpTask.pending_receiving
    (serde : SerdeJson F)
    (uuids : Nat → String)
    (encodeSseEvent : Wmaa.ResponseEvent → Chunk)
    (items : List (Except String BedrockEvent))
    (acc : StreamAccumulator)
    (adapter : UiAdapter) :
    (PumpTask.running acc adapter [] [] false).pending serde
        uuids encodeSseEvent items =
      ((UiAdapter.machine serde uuids).output adapter
        ((StreamAccumulator.machine serde).output acc
          (consumed items))).map encodeSseEvent :=
  rfl

/- A pump that has failed owes its last frames. -/
theorem PumpTask.pending_failed
    (serde : SerdeJson F)
    (uuids : Nat → String)
    (encodeSseEvent : Wmaa.ResponseEvent → Chunk)
    (items : List (Except String BedrockEvent))
    (acc : StreamAccumulator)
    (adapter : UiAdapter)
    (frames : List (OzResponseFrame F)) :
    (PumpTask.running acc adapter frames [] true).pending
        serde uuids encodeSseEvent items =
      ((UiAdapter.machine serde uuids).output adapter
        frames).map encodeSseEvent := by
  simp only [PumpTask.pending, if_true, List.append_nil,
    List.nil_append]

namespace StreamState

/- Step rule: receiving an item consumes it. -/
theorem pending_receiveStep
    {serde : SerdeJson F}
    {uuids : Nat → String}
    {encodeSseEvent : Wmaa.ResponseEvent → Chunk}
    {drain : DrainTask}
    {events : Channel (Except String BedrockEvent) 32}
    {acc : StreamAccumulator}
    {adapter : UiAdapter}
    {body : Channel Chunk 32}
    {reader : BodyReader Chunk}
    {next : StreamState F Chunk}
    (hStep :
      (StreamState.mk drain events
        (.running acc adapter [] [] false) body
          reader).pumpStep serde uuids encodeSseEvent =
        some next) :
    next.reader = reader ∧
      (reader.connected = true →
        next.body.items ++
            next.pending serde uuids encodeSseEvent =
          body.items ++
            (StreamState.mk drain events
              (.running acc adapter [] [] false) body
                reader).pending serde uuids
                  encodeSseEvent) := by
  cases hRecv : events.recv? with
  | none =>
      -- The channel is closed and empty.
      simp only [pumpStep, hRecv,
        Option.ite_none_right_eq_some,
        Option.some.injEq] at hStep
      rcases hStep with ⟨hStopped, rfl⟩
      have hNone : drain.pending serde = [] := by
        cases drain with
        | stopped => rfl
        | receiving => contradiction
        | sending => contradiction
      refine ⟨rfl, ?_⟩
      intro _
      simp only [pending, itemsAhead, hNone,
        Channel.items_of_recv?_eq_none hRecv,
        PumpTask.pending_receiving, List.append_nil,
        consumed, Transducer.output_nil, List.map_nil]
      exact List.append_nil _
  | some received =>
      rcases received with ⟨item, rest⟩
      have hItems := Channel.items_recv? hRecv
      cases item with
      | ok event =>
          simp only [pumpStep, hRecv, Option.some.injEq]
            at hStep
          subst hStep
          refine ⟨rfl, ?_⟩
          intro _
          simp only [pending, itemsAhead, hItems,
            PumpTask.pending_receiving, List.cons_append,
            consumed, Transducer.output_cons,
            StreamAccumulator.machine_step]
          rfl
      | error e =>
          simp only [pumpStep, hRecv, Option.some.injEq]
            at hStep
          subst hStep
          refine ⟨rfl, ?_⟩
          intro _
          simp only [pending, itemsAhead, hItems,
            PumpTask.pending_receiving,
            PumpTask.pending_failed, List.cons_append,
            consumed, Transducer.output_singleton,
            StreamAccumulator.machine_step]

/-
  Step rule: the pump moves what it has to send into the
  channel, in order, as long as the client stays.
-/
theorem pending_pumpStep
    {serde : SerdeJson F}
    {uuids : Nat → String}
    {encodeSseEvent : Wmaa.ResponseEvent → Chunk}
    {state next : StreamState F Chunk}
    (hStep :
      state.pumpStep serde uuids encodeSseEvent =
        some next) :
    next.reader = state.reader ∧
      (state.reader.connected = true →
        next.body.items ++
            next.pending serde uuids encodeSseEvent =
          state.body.items ++
            state.pending serde uuids encodeSseEvent) := by
  rcases state with ⟨drain, events, pump, body, reader⟩
  cases pump with
  | stopped => contradiction
  | running acc adapter frames chunks failed =>
      cases chunks with
      | cons chunk chunks =>
          cases hConnected : reader.connected with
          | false =>
              simp only [pumpStep, hConnected,
                Bool.false_eq_true, if_false,
                Option.some.injEq] at hStep
              subst hStep
              refine ⟨rfl, ?_⟩
              intro hTrue
              exact absurd hTrue Bool.false_ne_true
          | true =>
              simp only [pumpStep, hConnected, if_true,
                Option.map_eq_some_iff] at hStep
              rcases hStep with ⟨sent, hSend, rfl⟩
              refine ⟨rfl, ?_⟩
              intro _
              simp only [pending, PumpTask.pending,
                itemsAhead]
              rw [Channel.items_send? hSend,
                List.append_assoc, List.singleton_append,
                List.cons_append]
      | nil =>
          cases frames with
          | cons frame frames =>
              obtain rfl := Option.some.inj hStep
              refine ⟨rfl, ?_⟩
              intro _
              simp only [pending, PumpTask.pending,
                itemsAhead, List.cons_append,
                Transducer.output_cons,
                UiAdapter.machine_step, List.map_append,
                List.nil_append]
          | nil =>
              cases failed with
              | true =>
                  obtain rfl := Option.some.inj hStep
                  exact ⟨rfl, fun _ => rfl⟩
              | false => exact pending_receiveStep hStep

/- Step rule: the client takes the oldest chunk. -/
theorem received_readStep
    {state next : StreamState F Chunk}
    (hStep : state.readStep = some next)
    (serde : SerdeJson F)
    (uuids : Nat → String)
    (encodeSseEvent : Wmaa.ResponseEvent → Chunk) :
    state.reader.connected = true ∧
      next.reader.received ++ next.body.items =
        state.reader.received ++ state.body.items ∧
      next.pending serde uuids encodeSseEvent =
        state.pending serde uuids encodeSseEvent := by
  unfold readStep at hStep
  cases hConnected : state.reader.connected with
  | false =>
      rw [hConnected, if_neg Bool.false_ne_true] at hStep
      contradiction
  | true =>
      rw [hConnected, if_pos rfl,
        Option.map_eq_some_iff] at hStep
      rcases hStep with ⟨⟨chunk, rest⟩, hRecv, rfl⟩
      refine ⟨rfl, ?_, rfl⟩
      rw [Channel.items_recv? hRecv, List.append_assoc,
        List.singleton_append]

/- Step rule: every step of every actor keeps the account. -/
theorem Accounted.step
    {serde : SerdeJson F}
    {uuids : Nat → String}
    {encodeSseEvent : Wmaa.ResponseEvent → Chunk}
    {whole : List Chunk}
    {state next : StreamState F Chunk}
    (hState :
      state.Accounted serde uuids encodeSseEvent whole)
    {actor : StreamActor}
    (hStep :
      (streamTasks serde uuids encodeSseEvent).step actor
        state = some next) :
    next.Accounted serde uuids encodeSseEvent whole := by
  cases actor with
  | drain =>
      rcases pending_drainStep hStep uuids encodeSseEvent with
        ⟨hReader, hBody, hPending⟩
      refine { received := ?_, connected := ?_ }
      · rw [hReader]
        exact hState.received
      · rw [hReader, hBody, hPending]
        exact hState.connected
  | pump =>
      rcases pending_pumpStep hStep with ⟨hReader, hBody⟩
      refine { received := ?_, connected := ?_ }
      · rw [hReader]
        exact hState.received
      · rw [hReader]
        intro hConnected
        rw [hBody hConnected]
        exact hState.connected hConnected
  | reader =>
      rcases received_readStep hStep serde uuids
          encodeSseEvent with ⟨hConnected, hTaken, hPending⟩
      have hWhole :
          next.reader.received ++
              (next.body.items ++
                next.pending serde uuids encodeSseEvent) =
            whole := by
        rw [← List.append_assoc, hTaken, hPending,
          List.append_assoc]
        exact hState.connected hConnected
      refine
        { received := ?_, connected := fun _ => hWhole }
      rw [← hWhole]
      exact List.prefix_append _ _
  | disconnect =>
      rcases Option.ite_none_right_eq_some.mp hStep with
        ⟨-, hNext⟩
      obtain rfl := Option.some.inj hNext
      refine { received := hState.received, connected := ?_ }
      intro hConnected
      exact absurd hConnected Bool.false_ne_true

end StreamState

end WarpByokProxy

------------------------------------------------------------
-- Runs
------------------------------------------------------------

namespace WarpByokProxy

variable {F Chunk : Type}

namespace StreamState

/- At the start the whole body is still to come. -/
theorem accounted_initial
    (serde : SerdeJson F)
    (uuids : Nat → String)
    (encodeSseEvent : Wmaa.ResponseEvent → Chunk)
    (opts : UiAdapterOpts)
    (results :
      List
        (Except String (Option Sdk.ConverseStreamOutput))) :
    (initial uuids opts results).Accounted serde uuids
      encodeSseEvent
      (sequentialBody serde uuids encodeSseEvent opts
        results) := by
  refine
    { received := List.nil_prefix, connected := ?_ }
  intro _
  rw [sequentialBody, pumpStream_eq_offered,
    Sink.taken_offered_connected]
  rfl

/- Run rule: the account holds in every reachable state. -/
theorem accounted_of_reachable
    {serde : SerdeJson F}
    {uuids : Nat → String}
    {encodeSseEvent : Wmaa.ResponseEvent → Chunk}
    {opts : UiAdapterOpts}
    {results :
      List
        (Except String (Option Sdk.ConverseStreamOutput))}
    {state : StreamState F Chunk}
    (hReach :
      (streamTasks serde uuids encodeSseEvent).Reachable
        (.initial uuids opts results) state) :
    state.Accounted serde uuids encodeSseEvent
      (sequentialBody serde uuids encodeSseEvent opts
        results) :=
  Actors.Reachable.invariant
    (fun _ _ _ hState hStep => hState.step hStep) hReach
    (accounted_initial serde uuids encodeSseEvent opts
      results)

/- A draining task that is blocked has stopped. -/
theorem drain_isStopped_of_blocked
    {serde : SerdeJson F}
    {state : StreamState F Chunk}
    (hBlocked : state.drainStep serde = none)
    (hEvents : state.events.items = []) :
    state.drain.isStopped = true := by
  rcases state with ⟨drain, events, pump, body, reader⟩
  cases drain with
  | stopped => rfl
  | receiving results =>
      cases results with
      | nil => contradiction
      | cons result rest =>
          cases result with
          | error e => contradiction
          | ok sdkEvent =>
              cases sdkEvent with
              | none => contradiction
              | some sdkEvent =>
                  cases hEvent :
                      translateOutputEvent serde sdkEvent
                    with
                  | none =>
                      simp [drainStep, hEvent] at hBlocked
                  | some event =>
                      simp [drainStep, hEvent] at hBlocked
  | sending item results =>
      cases hStopped : pump.isStopped with
      | true => simp [drainStep, hStopped] at hBlocked
      | false =>
          simp only [drainStep, hStopped, Bool.false_eq_true,
            if_false, Option.map_eq_none_iff] at hBlocked
          have hFull :=
            Channel.length_eq_of_send?_eq_none hBlocked
          rw [hEvents] at hFull
          contradiction

/- With an empty body, a pump that is blocked has stopped. -/
theorem pump_isStopped_of_blocked
    {serde : SerdeJson F}
    {uuids : Nat → String}
    {encodeSseEvent : Wmaa.ResponseEvent → Chunk}
    {state : StreamState F Chunk}
    (hPump :
      state.pumpStep serde uuids encodeSseEvent = none)
    (hDrain : state.drainStep serde = none)
    (hBody : state.body.items = []) :
    state.pump.isStopped = true := by
  cases hState : state.pump with
  | stopped => rfl
  | running acc adapter frames chunks failed =>
      exfalso
      unfold pumpStep at hPump
      rw [hState] at hPump
      cases chunks with
      | cons chunk chunks =>
          simp only at hPump
          split_ifs at hPump
          have hFull :=
            Channel.length_eq_of_send?_eq_none
              (Option.map_eq_none_iff.mp hPump)
          rw [hBody] at hFull
          contradiction
      | nil =>
          cases frames with
          | cons frame frames => contradiction
          | nil =>
              cases failed with
              | true => contradiction
              | false =>
                  cases hRecv : state.events.recv? with
                  | some received =>
                      rcases received with ⟨item, rest⟩
                      cases item with
                      | ok event => simp [hRecv] at hPump
                      | error e => simp [hRecv] at hPump
                  | none =>
                      have hStopped :=
                        drain_isStopped_of_blocked hDrain
                          (Channel.items_of_recv?_eq_none
                            hRecv)
                      simp [hRecv, hStopped] at hPump

/-
  Tasks that are blocked for good, with a client that stays,
  have nothing in flight and nothing left to send.
-/
theorem nothing_left_of_quiescent
    {serde : SerdeJson F}
    {uuids : Nat → String}
    {encodeSseEvent : Wmaa.ResponseEvent → Chunk}
    {state : StreamState F Chunk}
    (hQuiescent :
      state.Quiescent serde uuids encodeSseEvent)
    (hConnected : state.reader.connected = true) :
    state.body.items = [] ∧
      state.pending serde uuids encodeSseEvent = [] := by
  have hReader : state.readStep = none :=
    hQuiescent .reader (by decide)
  have hDrain : state.drainStep serde = none :=
    hQuiescent .drain (by decide)
  have hPump :
      state.pumpStep serde uuids encodeSseEvent = none :=
    hQuiescent .pump (by decide)
  have hBody : state.body.items = [] := by
    rw [readStep, hConnected, if_pos rfl,
      Option.map_eq_none_iff] at hReader
    exact Channel.items_of_recv?_eq_none hReader
  refine ⟨hBody, ?_⟩
  apply pending_of_isStopped
  exact pump_isStopped_of_blocked hPump hDrain hBody

end StreamState

/- The tasks refine the sequential pump. -/
theorem streamTasks_refinesSequentialPump
    (serde : SerdeJson F)
    (uuids : Nat → String)
    (encodeSseEvent : Wmaa.ResponseEvent → Chunk)
    (opts : UiAdapterOpts)
    (results :
      List
        (Except String (Option Sdk.ConverseStreamOutput))) :
    RefinesSequentialPump serde uuids encodeSseEvent opts
      results := by
  constructor
  · intro state hReach
    exact (StreamState.accounted_of_reachable hReach).received
  · intro state hReach hQuiescent hConnected
    have hWhole :=
      (StreamState.accounted_of_reachable hReach).connected
        hConnected
    rcases StreamState.nothing_left_of_quiescent hQuiescent
        hConnected with ⟨hBody, hPending⟩
    rw [hBody, hPending, List.nil_append,
      List.append_nil] at hWhole
    exact hWhole

end WarpByokProxy
