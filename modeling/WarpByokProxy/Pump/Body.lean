import WarpByokProxy.Pipeline.Stream
import WarpByokProxy.RouteMultiAgent

/-
  What the pump writes to the body of a response.

  The pump consumes events up to the first error, which it
  replaces by a message stop of its own. Whatever the client
  does, the body is a prefix of the encoded events that
  accumulator and adapter make of the consumed events.

  Key definitions include:
    * `consumed`
    * `turnEvents`
    * `turnOfResults`
    * `bedrockItems`
    * `bodyEvents`

  Key theorems include:
    * `pumpStream_eq_offered`
    * `taken_pumpStream`
    * `exists_bedrockItems_drainStream`
    * `bodyEvents_drainStream`
-/

------------------------------------------------------------
-- Consumed Events
------------------------------------------------------------

namespace WarpByokProxy

variable {E F Chunk : Type}

/- The events that the pump feeds to the accumulator. -/
def consumed :
    List (Except E BedrockEvent) → List BedrockEvent
  | [] => []
  | .ok event :: rest => event :: consumed rest
  | .error _ :: _ => [.messageStop "error"]

/- The events that the pump has for the client. -/
def turnEvents
    (serde : SerdeJson F)
    (uuids : Nat → String)
    (opts : UiAdapterOpts)
    (events : List BedrockEvent) :
    List Wmaa.ResponseEvent :=
  (UiAdapter.machine serde uuids).output
    (UiAdapter.new uuids opts)
    ((StreamAccumulator.machine serde).output .new events)

/- The turn for the client that Bedrock's results make. -/
def turnOfResults
    (serde : SerdeJson F)
    (uuids : Nat → String)
    (opts : UiAdapterOpts)
    (results :
      List
        (Except String (Option Sdk.ConverseStreamOutput))) :
    List Wmaa.ResponseEvent :=
  turnEvents serde uuids opts
    (consumed (drainStream serde results))

/-
  A stream of events that is closed, or ends in an error.
  `exists_bedrockItems_drainStream` is that all are such.
-/
def bedrockItems
    (events : List BedrockEvent)
    (failure : Option E) : List (Except E BedrockEvent) :=
  events.map .ok ++ failure.toList.map .error

/- A stream that is still open goes on with an event. -/
theorem bedrockItems_append_ok
    (events : List BedrockEvent)
    (event : BedrockEvent) :
    bedrockItems events (none : Option E) ++ [.ok event] =
      bedrockItems (events ++ [event]) none := by
  simp [bedrockItems]

/- Or it ends in an error. -/
theorem bedrockItems_append_error
    (events : List BedrockEvent)
    (e : E) :
    bedrockItems events none ++ [.error e] =
      bedrockItems events (some e) := by
  simp [bedrockItems]

/- A failed stream is consumed as one that was stopped. -/
theorem consumed_bedrockItems
    (events : List BedrockEvent)
    (failure : Option E) :
    consumed (bedrockItems events failure) =
      events ++
        if failure.isSome then
          [.messageStop "error"]
        else
          [] := by
  induction events with
  | nil =>
      cases failure with
      | none => rfl
      | some e => rfl
  | cons event events ih =>
      have hTail :
          consumed (bedrockItems (event :: events) failure) =
            event :: consumed (bedrockItems events failure) :=
        rfl
      rw [hTail, ih]
      rfl

/- Draining the SDK yields such a stream. -/
theorem exists_bedrockItems_drainStream
    (serde : SerdeJson F)
    (received :
      List
        (Except String (Option Sdk.ConverseStreamOutput))) :
    ∃ events failure,
      drainStream serde received =
        bedrockItems events failure := by
  induction received with
  | nil => exact ⟨[], none, rfl⟩
  | cons result rest ih =>
      rcases ih with ⟨events, failure, hRest⟩
      cases result with
      | error e =>
          exact ⟨[], some ("bedrock stream recv: " ++ e), rfl⟩
      | ok sdkEvent =>
          cases sdkEvent with
          | none => exact ⟨[], none, rfl⟩
          | some sdkEvent =>
              cases hEvent :
                  translateOutputEvent serde sdkEvent with
              | none =>
                  refine ⟨events, failure, ?_⟩
                  simp only [drainStream, hEvent, hRest]
              | some event =>
                  refine ⟨event :: events, failure, ?_⟩
                  simp only [drainStream, hEvent, hRest]
                  rfl

end WarpByokProxy

------------------------------------------------------------
-- The Body
------------------------------------------------------------

namespace WarpByokProxy

variable {E F Chunk : Type}

/- Flushing offers the encoded events of the frames. -/
theorem flushFrames_cases
    (serde : SerdeJson F)
    (uuids : Nat → String)
    (encodeSseEvent : Wmaa.ResponseEvent → Chunk)
    (frames : List (OzResponseFrame F))
    (adapter : UiAdapter)
    (tx : Sink Chunk) :
    let machine := UiAdapter.machine serde uuids
    let offered :=
      tx.offered
        ((machine.output adapter frames).map encodeSseEvent)
    flushFrames serde uuids encodeSseEvent frames adapter tx =
        .ok (machine.final adapter frames, offered) ∨
      flushFrames serde uuids encodeSseEvent frames adapter
          tx = .error offered ∧
        offered.Spent := by
  induction frames generalizing adapter tx with
  | nil =>
      left
      rw [Transducer.output_nil, List.map_nil,
        Sink.offered_nil]
      rfl
  | cons frame frames ih =>
      simp only [Transducer.output_cons,
        Transducer.final_cons, UiAdapter.machine_step,
        List.map_append, Sink.offered_append, flushFrames]
      rcases Sink.sendAll_cases tx
          ((adapter.translate serde uuids frame).2.map
            encodeSseEvent) with hOk | ⟨hError, hSpent⟩
      · rw [hOk]
        exact ih _ _
      · rw [hError, Sink.offered_of_spent hSpent]
        exact Or.inr ⟨rfl, hSpent⟩

/- The loop offers the encoded events of what it consumes. -/
theorem pumpLoop_eq_offered
    (serde : SerdeJson F)
    (uuids : Nat → String)
    (encodeSseEvent : Wmaa.ResponseEvent → Chunk)
    (items : List (Except E BedrockEvent))
    (acc : StreamAccumulator)
    (adapter : UiAdapter)
    (tx : Sink Chunk) :
    pumpLoop serde uuids encodeSseEvent items acc adapter
        tx =
      tx.offered
        (((UiAdapter.machine serde uuids).output adapter
          ((StreamAccumulator.machine serde).output acc
            (consumed items))).map encodeSseEvent) := by
  induction items generalizing acc adapter tx with
  | nil =>
      rw [consumed, Transducer.output_nil,
        Transducer.output_nil, List.map_nil,
        Sink.offered_nil]
      rfl
  | cons item rest ih =>
      cases item with
      | error e =>
          simp only [pumpLoop, consumed,
            Transducer.output_singleton,
            StreamAccumulator.machine_step]
          rcases flushFrames_cases serde uuids encodeSseEvent
              (acc.handle serde (.messageStop "error")).2
              adapter tx with hOk | ⟨hError, -⟩
          · rw [hOk]
          · rw [hError]
      | ok event =>
          simp only [pumpLoop, consumed,
            Transducer.output_cons,
            StreamAccumulator.machine_step,
            Transducer.output_append, List.map_append,
            Sink.offered_append]
          rcases flushFrames_cases serde uuids encodeSseEvent
              (acc.handle serde event).2 adapter tx with
            hOk | ⟨hError, hSpent⟩
          · rw [hOk]
            exact ih _ _ _
          · rw [hError, Sink.offered_of_spent hSpent]

/-
  The body is what the client takes of the encoded events,
  however long it stays.
-/
theorem pumpStream_eq_offered
    (serde : SerdeJson F)
    (uuids : Nat → String)
    (encodeSseEvent : Wmaa.ResponseEvent → Chunk)
    (opts : UiAdapterOpts)
    (items : List (Except E BedrockEvent))
    (tx : Sink Chunk) :
    pumpStream serde uuids encodeSseEvent opts items tx =
      tx.offered
        ((turnEvents serde uuids opts (consumed items)).map
          encodeSseEvent) :=
  pumpLoop_eq_offered serde uuids encodeSseEvent items .new
    (UiAdapter.new uuids opts) tx

/- The events in the body, for a client that stays. -/
def bodyEvents
    (serde : SerdeJson F)
    (uuids : Nat → String)
    (opts : UiAdapterOpts)
    (items : List (Except E BedrockEvent)) :
    List Wmaa.ResponseEvent :=
  (pumpStream serde uuids id opts items .connected).taken

/- They are the events of the turn. -/
theorem bodyEvents_eq_turnEvents
    (serde : SerdeJson F)
    (uuids : Nat → String)
    (opts : UiAdapterOpts)
    (items : List (Except E BedrockEvent)) :
    bodyEvents serde uuids opts items =
      turnEvents serde uuids opts (consumed items) := by
  rw [bodyEvents, pumpStream_eq_offered,
    Sink.taken_offered_connected, List.map_id]

/-
  The body is a prefix of their encodings, and all of them
  when the client stays.
-/
theorem taken_pumpStream
    (serde : SerdeJson F)
    (uuids : Nat → String)
    (encodeSseEvent : Wmaa.ResponseEvent → Chunk)
    (opts : UiAdapterOpts)
    (items : List (Except E BedrockEvent))
    (patience : Option Nat) :
    (pumpStream serde uuids encodeSseEvent opts items
        { taken := [], patience := patience }).taken =
      let chunks :=
        (bodyEvents serde uuids opts items).map
          encodeSseEvent
      match patience with
      | none => chunks
      | some n => chunks.take n := by
  rw [pumpStream_eq_offered, bodyEvents_eq_turnEvents]
  cases patience with
  | none => rfl
  | some n => rfl

/- Events that arrive are read as they are translated. -/
theorem consumed_drainStream_events
    (serde : SerdeJson F)
    (events : List Sdk.ConverseStreamOutput)
    (rest :
      List
        (Except String (Option Sdk.ConverseStreamOutput))) :
    consumed
        (drainStream serde
          (events.map (fun event => .ok (some event)) ++
            rest)) =
      translated serde events ++
        consumed (drainStream serde rest) := by
  induction events with
  | nil => rfl
  | cons event events ih =>
      cases hEvent : translateOutputEvent serde event with
      | none =>
          simp only [List.map_cons, List.cons_append,
            drainStream, hEvent, translated,
            List.filterMap_cons_none hEvent]
          exact ih
      | some translatedEvent =>
          simp only [List.map_cons, List.cons_append,
            drainStream, hEvent, translated, consumed,
            List.filterMap_cons_some hEvent]
          exact congrArg _ ih

/-
  On an SDK stream that ends without an error the body is
  the output of the pipeline.
-/
theorem bodyEvents_drainStream
    (serde : SerdeJson F)
    (uuids : Nat → String)
    (opts : UiAdapterOpts)
    (events : List Sdk.ConverseStreamOutput) :
    bodyEvents serde uuids opts
        (drainStream serde
          (events.map (fun event => .ok (some event)) ++
            [.ok none])) =
      responseEvents serde uuids opts events := by
  rw [bodyEvents_eq_turnEvents, consumed_drainStream_events,
    responseEvents_eq_output]
  rw [drainStream, consumed, List.append_nil]
  rfl

end WarpByokProxy
