import WarpByokProxy.Pump.Failure
import WarpByokProxy.Pump.Steps

/-
  The concurrent tasks always come to an end.

  Every step of a task or of the client lowers a variant that
  is linear in what the SDK has to deliver, so no run is
  longer. Where no step is left, both tasks have stopped,
  whether the client has stayed or not.

  Key definitions include:
    * `StreamState.variant`
    * `SettlesInBoundedTime`

  Key theorems include:
    * `StreamAccumulator.length_output_le`
    * `UiAdapter.length_output_le`
    * `StreamState.variant_step`
    * `StreamState.isStopped_of_quiescent`
    * `streamTasks_settleInBoundedTime`
-/

------------------------------------------------------------
-- Sizes Of Batches
------------------------------------------------------------

namespace WarpByokProxy

variable {E F : Type}

/- A delta makes at most one frame. -/
theorem length_handleDelta_le
    (serde : SerdeJson F)
    (state : BlockState)
    (blockIndex : UInt32)
    (deltaJson : String) :
    (handleDelta serde state blockIndex
      deltaJson).2.length ≤ 1 := by
  unfold handleDelta
  split
  · exact Nat.zero_le 1
  · split
    · exact Nat.le_refl 1
    · exact Nat.le_refl 1
    · exact Nat.le_refl 1
    · exact Nat.le_refl 1
    · exact Nat.zero_le 1

/- A block that stops makes at most one call. -/
theorem length_toolUseAtStop_le
    (serde : SerdeJson F)
    (blockIndex : UInt32)
    (removed : Option BlockState) :
    (toolUseAtStop serde blockIndex removed).length ≤ 1 := by
  unfold toolUseAtStop
  split
  · exact Nat.zero_le 1
  · split
    · exact Nat.le_refl 1
    · exact Nat.zero_le 1

/-
  An event makes at most two frames. At most one of them says
  anything to the client.
-/
theorem StreamAccumulator.length_handle_le
    (serde : SerdeJson F)
    (self : StreamAccumulator)
    (event : BedrockEvent) :
    (self.handle serde event).2.length ≤ 2 ∧
      (self.handle serde event).2.countP
        OzResponseFrame.needsPrelude ≤ 1 := by
  cases event with
  | contentBlockStart => exact ⟨Nat.zero_le 2, Nat.zero_le 1⟩
  | contentBlockDelta blockIndex deltaJson =>
      have hLength :=
        length_handleDelta_le serde
          ((self.blocks blockIndex).getD .text) blockIndex
          deltaJson
      refine ⟨Nat.le_succ_of_le hLength, ?_⟩
      exact Nat.le_trans List.countP_le_length hLength
  | contentBlockStop blockIndex =>
      have hLength :=
        length_toolUseAtStop_le serde blockIndex
          (self.blocks blockIndex)
      rw [handle, List.length_append, List.countP_append]
      refine ⟨Nat.add_le_add_right hLength 1, ?_⟩
      exact Nat.le_trans List.countP_le_length hLength
  | messageStart => exact ⟨Nat.zero_le 2, Nat.zero_le 1⟩
  | messageStop stopReason =>
      exact ⟨Nat.le_succ 1, Nat.le_refl 1⟩
  | messageStreamMetadata =>
      exact ⟨Nat.le_succ 1, Nat.zero_le 1⟩

/- So does a run of events, event by event. -/
theorem StreamAccumulator.length_output_le
    (serde : SerdeJson F)
    (self : StreamAccumulator)
    (events : List BedrockEvent) :
    ((machine serde).output self events).length ≤
        2 * events.length ∧
      ((machine serde).output self events).countP
        OzResponseFrame.needsPrelude ≤ events.length := by
  constructor
  · rw [← List.countP_true]
    apply Transducer.countP_output_le
    intro acc event
    rw [List.countP_true]
    exact (length_handle_le serde acc event).1
  · rw [← Nat.one_mul events.length]
    apply Transducer.countP_output_le
    intro acc event
    exact (length_handle_le serde acc event).2

namespace UiAdapter

/- The number of events that open the response, if due. -/
def preludeDue
    (self : UiAdapter) : Nat :=
  if self.sentInit then 0 else 2

theorem preludeDue_le
    (self : UiAdapter) :
    self.preludeDue ≤ 2 := by
  rw [preludeDue]
  split <;> omega

/- A message is registered with at most one event. -/
theorem length_ensureKindMessage_le
    (uuids : Nat → String)
    (self : UiAdapter)
    (kind : ActiveKind) :
    (self.ensureKindMessage uuids kind).1.sentInit =
        self.sentInit ∧
      (self.ensureKindMessage uuids kind).2.length ≤ 1 := by
  rw [ensureKindMessage]
  split
  · exact ⟨rfl, Nat.zero_le 1⟩
  · exact ⟨rfl, Nat.le_refl 1⟩

/- A frame adds at most two events to the opening. -/
theorem length_translateFrame_le
    (serde : SerdeJson F)
    (uuids : Nat → String)
    (self : UiAdapter)
    (frame : OzResponseFrame F) :
    (self.translateFrame serde uuids frame).1.sentInit =
        self.sentInit ∧
      (self.translateFrame serde uuids frame).2.length ≤
        2 := by
  have hEnsured := self.length_ensureKindMessage_le uuids
  cases frame with
  | textDelta blockIndex text =>
      rcases hEnsured .agentOutput with ⟨hSent, hLength⟩
      refine ⟨hSent, ?_⟩
      rw [translateFrame, List.length_append]
      exact Nat.add_le_add_right hLength 1
  | thinkingDelta blockIndex text signature =>
      rcases hEnsured .agentReasoning with ⟨hSent, hLength⟩
      refine ⟨hSent, ?_⟩
      rw [translateFrame, List.length_append]
      exact Nat.add_le_add_right hLength 1
  | toolUse blockIndex id name input =>
      rcases hEnsured .toolCall with ⟨hSent, hLength⟩
      refine ⟨hSent, ?_⟩
      rw [translateFrame, List.length_append]
      exact Nat.add_le_add_right hLength 1
  | toolUseInputDelta => exact ⟨rfl, Nat.zero_le 2⟩
  | blockStop => exact ⟨rfl, Nat.zero_le 2⟩
  | usageUpdate => exact ⟨rfl, Nat.zero_le 2⟩
  | done => exact ⟨rfl, Nat.le_succ 1⟩

/-
  A frame that says something makes at most two events, not
  counting those that open the response.
-/
theorem length_translate_le
    (serde : SerdeJson F)
    (uuids : Nat → String)
    (self : UiAdapter)
    (frame : OzResponseFrame F) :
    (self.translate serde uuids frame).2.length +
        (self.translate serde uuids frame).1.preludeDue ≤
      2 * [frame].countP OzResponseFrame.needsPrelude +
        self.preludeDue := by
  cases hFrame : frame.needsPrelude with
  | false =>
      rcases translate_of_needsPrelude_eq_false hFrame serde
          uuids self with ⟨hSent, hNone⟩
      simp only [preludeDue, hSent, hNone]
      rw [List.length_nil, Nat.zero_add]
      exact Nat.le_add_left _ _
  | true =>
      rcases (self.sendPrelude frame).1.length_translateFrame_le
          serde uuids frame with ⟨hSent, hLength⟩
      have hOpened :
          (self.sendPrelude frame).1.sentInit = true ∧
            (self.sendPrelude frame).2.length =
              self.preludeDue := by
        rw [sendPrelude, hFrame, preludeDue]
        cases hInit : self.sentInit with
        | false => exact ⟨rfl, rfl⟩
        | true => exact ⟨hInit, rfl⟩
      have hDue :
          (self.translate serde uuids frame).1.preludeDue =
            0 := by
        rw [preludeDue, translate, hSent, hOpened.1]
        rfl
      have hCount :
          [frame].countP OzResponseFrame.needsPrelude = 1 := by
        rw [List.countP_singleton, hFrame]
        rfl
      rw [hDue, hCount, translate, List.length_append,
        hOpened.2]
      omega

/- So does a run of frames, whose opening is sent once. -/
theorem length_output_le
    (serde : SerdeJson F)
    (uuids : Nat → String)
    (self : UiAdapter)
    (frames : List (OzResponseFrame F)) :
    ((machine serde uuids).output self frames).length +
        ((machine serde uuids).final self frames).preludeDue ≤
      2 * frames.countP OzResponseFrame.needsPrelude +
        self.preludeDue := by
  induction frames generalizing self with
  | nil => exact Nat.le_refl _
  | cons frame frames ih =>
      have hFrame :=
        self.length_translate_le serde uuids frame
      have hFrames :=
        ih (self.translate serde uuids frame).1
      have hCount :
          (frame :: frames).countP
              OzResponseFrame.needsPrelude =
            [frame].countP OzResponseFrame.needsPrelude +
              frames.countP OzResponseFrame.needsPrelude := by
        rw [← List.countP_append]
        rfl
      rw [Transducer.output_cons, Transducer.final_cons,
        machine_step, List.length_append, hCount]
      omega

end UiAdapter

end WarpByokProxy

------------------------------------------------------------
-- Every Run Ends
------------------------------------------------------------

namespace WarpByokProxy

variable {E F Chunk : Type}

/- No more events are consumed than were received. -/
theorem length_consumed_le
    (items : List (Except E BedrockEvent)) :
    (consumed items).length ≤ items.length := by
  induction items with
  | nil => exact Nat.le_refl 0
  | cons item rest ih =>
      cases item with
      | ok event => exact Nat.succ_le_succ ih
      | error e => exact Nat.succ_le_succ (Nat.zero_le _)

/- No more items are drained than the SDK delivers. -/
theorem length_drainStream_le
    (serde : SerdeJson F)
    (results :
      List
        (Except String (Option Sdk.ConverseStreamOutput))) :
    (drainStream serde results).length ≤ results.length := by
  induction results with
  | nil => exact Nat.le_refl 0
  | cons result rest ih =>
      cases result with
      | error e => exact Nat.succ_le_succ (Nat.zero_le _)
      | ok sdkEvent =>
          cases sdkEvent with
          | none => exact Nat.zero_le _
          | some sdkEvent =>
              rw [drainStream]
              cases translateOutputEvent serde sdkEvent with
              | none => exact Nat.le_succ_of_le ih
              | some event => exact Nat.succ_le_succ ih

/-
  An upper bound on the steps that are left to the pump and,
  for what it sends, to the client.
-/
def PumpTask.stepsLeft
    (serde : SerdeJson F)
    (uuids : Nat → String)
    (items : List (Except String BedrockEvent)) :
    PumpTask F Chunk → Nat
  | .running acc adapter frames chunks failed =>
      let ahead := if failed then [] else consumed items
      let translated :=
        frames ++
          (StreamAccumulator.machine serde).output acc ahead
      let events :=
        (UiAdapter.machine serde uuids).output adapter
          translated
      1 + ahead.length + translated.length +
        2 * (chunks.length + events.length)
  | .stopped => 0

namespace StreamState

/- An upper bound on the steps that are left. -/
def variant
    (serde : SerdeJson F)
    (uuids : Nat → String)
    (state : StreamState F Chunk) : Nat :=
  state.drain.stepsLeft +
    state.pump.stepsLeft serde uuids
      (state.itemsAhead serde) +
    state.body.items.length +
    if state.reader.connected then 1 else 0

/- Draining lowers the variant. -/
theorem DrainMoves.variant_lt
    {serde : SerdeJson F}
    {state next : StreamState F Chunk}
    (hMoves : DrainMoves serde state next)
    (uuids : Nat → String) :
    next.variant serde uuids < state.variant serde uuids := by
  have hPump :
      state.pump.stepsLeft serde uuids
          (next.itemsAhead serde) =
        state.pump.stepsLeft serde uuids
          (state.itemsAhead serde) := by
    cases hStopped : state.pump.isStopped with
    | false => rw [hMoves.itemsAhead hStopped]
    | true =>
        cases hState : state.pump with
        | running =>
          simp [hState, PumpTask.isStopped] at hStopped
        | stopped => rfl
  have hDrain := hMoves.stepsLeft
  rw [variant, variant, hMoves.pump, hMoves.body,
    hMoves.reader, hPump]
  omega

/- Pumping lowers the variant. -/
theorem PumpMoves.variant_lt
    {serde : SerdeJson F}
    {uuids : Nat → String}
    {encodeSseEvent : Wmaa.ResponseEvent → Chunk}
    {state next : StreamState F Chunk}
    (hMoves :
      PumpMoves serde uuids encodeSseEvent state next) :
    next.variant serde uuids < state.variant serde uuids := by
  cases hMoves with
  | send hConnected hSend =>
      -- A chunk that is sent is yet to be read.
      simp only [variant, itemsAhead, PumpTask.stepsLeft,
        Channel.items_send? hSend, List.length_append,
        List.length_cons, List.length_nil]
      omega
  | hangUp hConnected =>
      simp only [variant, PumpTask.stepsLeft]
      omega
  | translate =>
      simp only [variant, itemsAhead, PumpTask.stepsLeft,
        List.length_cons, List.cons_append,
        Transducer.output_cons, UiAdapter.machine_step,
        List.length_append, List.length_map,
        List.length_nil]
      omega
  | finish =>
      simp only [variant, PumpTask.stepsLeft]
      omega
  | handle hItems =>
      simp only [variant, itemsAhead, hItems,
        PumpTask.stepsLeft, List.cons_append, consumed,
        Bool.false_eq_true, if_false,
        Transducer.output_cons,
        StreamAccumulator.machine_step, List.length_cons,
        List.nil_append]
      omega
  | fail hItems =>
      simp only [variant, itemsAhead, hItems,
        PumpTask.stepsLeft, List.cons_append, consumed,
        Bool.false_eq_true, if_false, if_true,
        Transducer.output_cons, Transducer.output_nil,
        StreamAccumulator.machine_step, List.length_cons,
        List.nil_append, List.append_nil, List.length_nil]
      omega
  | close hStopped hItems =>
      simp only [variant, PumpTask.stepsLeft]
      omega

/- Step rule: every step of every actor lowers the variant. -/
theorem variant_step
    (serde : SerdeJson F)
    (uuids : Nat → String)
    (encodeSseEvent : Wmaa.ResponseEvent → Chunk)
    (actor : StreamActor)
    (state next : StreamState F Chunk)
    (hStep :
      (streamTasks serde uuids encodeSseEvent).step actor
        state = some next) :
    next.variant serde uuids < state.variant serde uuids := by
  cases actor with
  | drain =>
      exact (drainMoves_of_step hStep).variant_lt uuids
  | pump => exact (pumpMoves_of_step hStep).variant_lt
  | reader =>
      rcases readMoves_of_step hStep with
        ⟨chunk, rest, hConnected, hItems, rfl⟩
      simp only [variant, itemsAhead, hConnected, hItems,
        List.length_cons]
      omega
  | disconnect =>
      rcases disconnectMoves_of_step hStep with
        ⟨hConnected, rfl⟩
      simp only [variant, itemsAhead, hConnected, if_true,
        Bool.false_eq_true, if_false]
      omega

/- At the start the variant is linear in the results. -/
theorem variant_initial_le
    (serde : SerdeJson F)
    (uuids : Nat → String)
    (opts : UiAdapterOpts)
    (results :
      List
        (Except String (Option Sdk.ConverseStreamOutput))) :
    (initial uuids opts results :
        StreamState F Chunk).variant serde uuids ≤
      9 * results.length + 7 := by
  have hConsumed :
      (consumed (drainStream serde results)).length ≤
        results.length :=
    Nat.le_trans (length_consumed_le _)
      (length_drainStream_le serde results)
  rcases StreamAccumulator.length_output_le serde .new
      (consumed (drainStream serde results)) with
    ⟨hFrames, hSaying⟩
  have hEvents :=
    (UiAdapter.new uuids opts).length_output_le serde uuids
      ((StreamAccumulator.machine serde).output .new
        (consumed (drainStream serde results)))
  have hDue := (UiAdapter.new uuids opts).preludeDue_le
  simp only [variant, initial, itemsAhead, Channel.empty,
    List.nil_append, DrainTask.pending, DrainTask.stepsLeft,
    PumpTask.stepsLeft, Bool.false_eq_true, if_false,
    List.length_nil, if_true]
  omega

end StreamState

end WarpByokProxy

------------------------------------------------------------
-- No Task Is Left Behind
------------------------------------------------------------

namespace WarpByokProxy

variable {F Chunk : Type}

/-
  Runs of the tasks settle: they are no longer than a bound
  that is linear in what the SDK delivers; without further
  loss of the client they go on until no step is left; and
  then both tasks have stopped, and a client that is still
  there has the whole body.
-/
structure SettlesInBoundedTime
    (serde : SerdeJson F)
    (uuids : Nat → String)
    (encodeSseEvent : Wmaa.ResponseEvent → Chunk)
    (opts : UiAdapterOpts)
    (results :
      List
        (Except String (Option Sdk.ConverseStreamOutput))) :
    Prop where
  bounded :
    ∀ schedule state,
      (streamTasks serde uuids encodeSseEvent).run schedule
          (.initial uuids opts results) = some state →
        schedule.length ≤ 9 * results.length + 7
  settles :
    ∀ schedule state,
      (streamTasks serde uuids encodeSseEvent).run schedule
          (.initial uuids opts results) = some state →
        ∃ later settled,
          .disconnect ∉ later ∧
            (streamTasks serde uuids encodeSseEvent).run
                later state = some settled ∧
            settled.Quiescent serde uuids encodeSseEvent
  stopped :
    ∀ schedule state,
      (streamTasks serde uuids encodeSseEvent).run schedule
          (.initial uuids opts results) = some state →
      state.Quiescent serde uuids encodeSseEvent →
        state.drain.isStopped = true ∧
          state.pump.isStopped = true ∧
          (state.reader.connected = true →
            state.reader.received =
              sequentialBody serde uuids encodeSseEvent opts
                results)

namespace StreamState

/- A task that receives from the SDK is never blocked. -/
theorem drainStep_receiving_ne_none
    (serde : SerdeJson F)
    (results :
      List
        (Except String (Option Sdk.ConverseStreamOutput)))
    (events : Channel (Except String BedrockEvent) 32)
    (pump : PumpTask F Chunk)
    (body : Channel Chunk 32)
    (reader : BodyReader Chunk) :
    drainStep serde
        ⟨.receiving results, events, pump, body, reader⟩ ≠
      none := by
  intro hBlocked
  cases results with
  | nil => contradiction
  | cons result rest =>
      cases result with
      | error e => contradiction
      | ok sdkEvent =>
          cases sdkEvent with
          | none => contradiction
          | some sdkEvent =>
              cases hEvent :
                  translateOutputEvent serde sdkEvent with
              | none => simp [drainStep, hEvent] at hBlocked
              | some event =>
                  simp [drainStep, hEvent] at hBlocked

/- Without a pump, a draining task that is blocked is done. -/
theorem drain_isStopped_of_pump_isStopped
    {serde : SerdeJson F}
    {state : StreamState F Chunk}
    (hBlocked : state.drainStep serde = none)
    (hPump : state.pump.isStopped = true) :
    state.drain.isStopped = true := by
  rcases state with ⟨drain, events, pump, body, reader⟩
  cases drain with
  | receiving results =>
      exact absurd hBlocked
        (drainStep_receiving_ne_none serde results events
          pump body reader)
  | sending item results =>
      have hStopped : pump.isStopped = true := hPump
      simp [drainStep, hStopped] at hBlocked
  | stopped => rfl

/- Without a client, a pump that is blocked has stopped. -/
theorem pump_isStopped_of_disconnected
    {serde : SerdeJson F}
    {uuids : Nat → String}
    {encodeSseEvent : Wmaa.ResponseEvent → Chunk}
    {state : StreamState F Chunk}
    (hPump :
      state.pumpStep serde uuids encodeSseEvent = none)
    (hDrain : state.drainStep serde = none)
    (hConnected : state.reader.connected = false) :
    state.pump.isStopped = true := by
  rcases state with ⟨drain, events, pump, body, reader⟩
  have hGone : reader.connected = false := hConnected
  cases pump with
  | stopped => rfl
  | running acc adapter frames chunks failed =>
      exfalso
      cases chunks with
      | cons chunk chunks => simp [pumpStep, hGone] at hPump
      | nil =>
          cases frames with
          | cons frame frames => contradiction
          | nil =>
              cases failed with
              | true => contradiction
              | false =>
                  cases hRecv : events.recv? with
                  | some received =>
                      rcases received with ⟨item, rest⟩
                      cases item with
                      | ok event =>
                          simp [pumpStep, hRecv] at hPump
                      | error e =>
                          simp [pumpStep, hRecv] at hPump
                  | none =>
                      -- A feeding task would still move.
                      have hStopped :
                          drain.isStopped = true :=
                        drain_isStopped_of_blocked hDrain
                          (Channel.items_of_recv?_eq_none
                            hRecv)
                      simp [pumpStep, hRecv, hStopped]
                        at hPump

/- Where no step is left, both tasks have stopped. -/
theorem isStopped_of_quiescent
    {serde : SerdeJson F}
    {uuids : Nat → String}
    {encodeSseEvent : Wmaa.ResponseEvent → Chunk}
    {state : StreamState F Chunk}
    (hQuiescent :
      state.Quiescent serde uuids encodeSseEvent) :
    state.drain.isStopped = true ∧
      state.pump.isStopped = true := by
  have hDrain : state.drainStep serde = none :=
    hQuiescent .drain (by decide)
  have hPump :
      state.pumpStep serde uuids encodeSseEvent = none :=
    hQuiescent .pump (by decide)
  have hStopped : state.pump.isStopped = true := by
    cases hConnected : state.reader.connected with
    | false =>
        exact
          pump_isStopped_of_disconnected hPump hDrain
            hConnected
    | true =>
        apply pump_isStopped_of_blocked hPump hDrain
        exact
          (nothing_left_of_quiescent hQuiescent
            hConnected).1
  refine ⟨?_, hStopped⟩
  exact drain_isStopped_of_pump_isStopped hDrain hStopped

/- No schedule is longer than what the SDK delivers allows. -/
theorem length_le_of_run_initial
    {serde : SerdeJson F}
    {uuids : Nat → String}
    {encodeSseEvent : Wmaa.ResponseEvent → Chunk}
    {opts : UiAdapterOpts}
    {results :
      List
        (Except String (Option Sdk.ConverseStreamOutput))}
    {schedule : List StreamActor}
    {state : StreamState F Chunk}
    (hRun :
      (streamTasks serde uuids encodeSseEvent).run schedule
        (.initial uuids opts results) = some state) :
    schedule.length ≤ 9 * results.length + 7 := by
  have hLength :=
    Actors.length_le_of_run
      (variant_step serde uuids encodeSseEvent) hRun
  have hInitial :
      (initial uuids opts results :
        StreamState F Chunk).variant serde uuids ≤
        9 * results.length + 7 :=
    variant_initial_le serde uuids opts results
  omega

end StreamState

/- The tasks settle, whatever the SDK delivers. -/
theorem streamTasks_settleInBoundedTime
    (serde : SerdeJson F)
    (uuids : Nat → String)
    (encodeSseEvent : Wmaa.ResponseEvent → Chunk)
    (opts : UiAdapterOpts)
    (results :
      List
        (Except String (Option Sdk.ConverseStreamOutput))) :
    SettlesInBoundedTime serde uuids encodeSseEvent opts
      results := by
  have hVariant :=
    StreamState.variant_step serde uuids encodeSseEvent
  refine { bounded := ?_, settles := ?_, stopped := ?_ }
  · intro schedule state hRun
    exact StreamState.length_le_of_run_initial hRun
  · intro schedule state hRun
    rcases Actors.exists_run_blocked hVariant
        (fun actor => actor ≠ .disconnect) state with
      ⟨later, settled, hMembers, hLater, hBlocked⟩
    refine ⟨later, settled, ?_, hLater, hBlocked⟩
    intro hMem
    exact hMembers .disconnect hMem rfl
  · intro schedule state hRun hQuiescent
    rcases StreamState.isStopped_of_quiescent hQuiescent
      with ⟨hDrain, hPump⟩
    refine ⟨hDrain, hPump, ?_⟩
    intro hConnected
    have hWhole :=
      (StreamState.accounted_of_reachable
        (Actors.reachable_of_run hRun)).connected hConnected
    rcases StreamState.nothing_left_of_quiescent hQuiescent
        hConnected with ⟨hBody, hPending⟩
    rw [hBody, hPending, List.nil_append,
      List.append_nil] at hWhole
    exact hWhole

end WarpByokProxy
