import WarpByokProxy.Pump.Progress

/-
  The concurrent tasks hold a bounded part of the response.

  The items of the SDK's stream are handled, in flight or
  still to come, and the body of the handled ones is with the
  client, in flight or owed by the pump. As long as the
  client stays, only a fixed number of items and of chunks is
  in between, however long the response is.

  Key definitions include:
    * `PumpTask.Owes`
    * `StreamState.Tracks`
    * `HoldsBoundedly`

  Key theorems include:
    * `PumpTask.Owes.receive`
    * `StreamState.Tracks.pumped`
    * `StreamState.Tracks.step`
    * `streamTasks_holdBoundedly`
-/

------------------------------------------------------------
-- What The Tasks Hold
------------------------------------------------------------

namespace WarpByokProxy

variable {F Chunk : Type}

/-
  The items that the pump has handled decide its state, and
  the chunks that it still owes for them.
-/
def PumpTask.Owes
    (serde : SerdeJson F)
    (uuids : Nat → String)
    (encodeSseEvent : Wmaa.ResponseEvent → Chunk)
    (opts : UiAdapterOpts)
    (handled : List (Except String BedrockEvent))
    (owed : List Chunk) :
    PumpTask F Chunk → Prop
  | .running acc adapter frames chunks failed =>
      let handling := StreamAccumulator.machine serde
      let translation := UiAdapter.machine serde uuids
      (∃ events failure,
        handled = bedrockItems events failure ∧
          failed = failure.isSome) ∧
        acc = handling.final .new (consumed handled) ∧
        translation.final adapter frames =
          translation.final (UiAdapter.new uuids opts)
            (handling.output .new (consumed handled)) ∧
        owed =
          chunks ++
            (translation.output adapter frames).map
              encodeSseEvent
  | .stopped => owed = []

namespace StreamState

/-
  The items of the stream are handled, in flight or still to
  come, and the body of the handled ones is with the client,
  in flight or owed by the pump.
-/
structure Tracks
    (serde : SerdeJson F)
    (uuids : Nat → String)
    (encodeSseEvent : Wmaa.ResponseEvent → Chunk)
    (opts : UiAdapterOpts)
    (items handled : List (Except String BedrockEvent))
    (owed : List Chunk)
    (state : StreamState F Chunk) : Prop where
  items : items = handled ++ state.itemsAhead serde
  body :
    (bodyEvents serde uuids opts handled).map
        encodeSseEvent =
      state.reader.received ++ (state.body.items ++ owed)
  size : owed.length ≤ 4
  pump :
    state.pump.Owes serde uuids encodeSseEvent opts handled
      owed
  failure :
    ∀ e, .error e ∈ handled ++ state.events.items →
      state.drain.isStopped = true
  stopped :
    state.pump.isStopped = true →
      state.drain.isStopped = true

/- At the start nothing is handled. -/
theorem tracks_initial
    (serde : SerdeJson F)
    (uuids : Nat → String)
    (encodeSseEvent : Wmaa.ResponseEvent → Chunk)
    (opts : UiAdapterOpts)
    (results :
      List
        (Except String (Option Sdk.ConverseStreamOutput))) :
    (initial uuids opts results).Tracks serde uuids
      encodeSseEvent opts (drainStream serde results) []
      [] where
  items := rfl
  body := rfl
  size := Nat.zero_le 4
  pump := ⟨⟨[], none, rfl, rfl⟩, rfl, rfl, rfl⟩
  failure := by
    intro e hMem
    exact absurd hMem List.not_mem_nil
  stopped := fun hStopped => absurd hStopped Bool.false_ne_true

/- Draining handles nothing. -/
theorem Tracks.drain
    {serde : SerdeJson F}
    {uuids : Nat → String}
    {encodeSseEvent : Wmaa.ResponseEvent → Chunk}
    {opts : UiAdapterOpts}
    {items handled : List (Except String BedrockEvent)}
    {owed : List Chunk}
    {state next : StreamState F Chunk}
    (hState :
      state.Tracks serde uuids encodeSseEvent opts items
        handled owed)
    (hMoves : DrainMoves serde state next) :
    next.Tracks serde uuids encodeSseEvent opts items
      handled owed := by
  have hRunning := hMoves.running
  have hPump : state.pump.isStopped = false := by
    rw [Bool.eq_false_iff]
    intro hStopped
    rw [hState.stopped hStopped] at hRunning
    contradiction
  refine
    { items := ?_
      body := ?_
      size := hState.size
      pump := ?_
      failure := ?_
      stopped := ?_ }
  · rw [hMoves.itemsAhead hPump]
    exact hState.items
  · rw [hMoves.reader, hMoves.body]
    exact hState.body
  · rw [hMoves.pump]
    exact hState.pump
  · intro e hMem
    rcases List.mem_append.mp hMem with hHandled | hEvents
    · have hStopped :=
        hState.failure e (List.mem_append_left _ hHandled)
      rw [hRunning] at hStopped
      contradiction
    · rcases hMoves.failure e hEvents with hOld | hStopped
      · have hStopped :=
          hState.failure e (List.mem_append_right _ hOld)
        rw [hRunning] at hStopped
        contradiction
      · exact hStopped
  · rw [hMoves.pump, hPump]
    intro hStopped
    exact absurd hStopped Bool.false_ne_true

end StreamState

/-
  A pump that owes nothing and takes one more item owes what
  the item adds to the body.
-/
theorem PumpTask.Owes.receive
    {serde : SerdeJson F}
    {uuids : Nat → String}
    {encodeSseEvent : Wmaa.ResponseEvent → Chunk}
    {opts : UiAdapterOpts}
    {handled next : List (Except String BedrockEvent)}
    {owed : List Chunk}
    {acc : StreamAccumulator}
    {adapter : UiAdapter}
    (hOwes :
      (PumpTask.running acc adapter [] [] false).Owes serde
        uuids encodeSseEvent opts handled owed)
    {event : BedrockEvent}
    {events : List BedrockEvent}
    {failure : Option String}
    (hNext : next = bedrockItems events failure)
    (hConsumed : consumed next = consumed handled ++ [event]) :
    ∃ added,
      owed = [] ∧
        added.length ≤ 4 ∧
        (bodyEvents serde uuids opts next).map
            encodeSseEvent =
          (bodyEvents serde uuids opts handled).map
              encodeSseEvent ++ added ∧
        (PumpTask.running (acc.handle serde event).1 adapter
          (acc.handle serde event).2 []
          failure.isSome).Owes serde uuids encodeSseEvent
            opts next added := by
  rcases hOwes with ⟨-, hAcc, hAdapter, hOwed⟩
  have hAdapter :
      adapter =
        (UiAdapter.machine serde uuids).final
          (UiAdapter.new uuids opts)
          ((StreamAccumulator.machine serde).output .new
            (consumed handled)) := hAdapter
  let frames := (acc.handle serde event).2
  have hFrames :
      (StreamAccumulator.machine serde).output .new
          (consumed next) =
        (StreamAccumulator.machine serde).output .new
            (consumed handled) ++ frames := by
    rw [hConsumed, Transducer.output_append,
      Transducer.output_singleton, ← hAcc]
    rfl
  refine
    ⟨((UiAdapter.machine serde uuids).output adapter
      frames).map encodeSseEvent, hOwed, ?_, ?_, ?_⟩
  · have hLength :=
      adapter.length_output_le serde uuids frames
    have hDue := adapter.preludeDue_le
    have hSaying :
        frames.countP OzResponseFrame.needsPrelude ≤ 1 :=
      (StreamAccumulator.length_handle_le serde acc event).2
    rw [List.length_map]
    omega
  · rw [bodyEvents_eq_turnEvents, bodyEvents_eq_turnEvents,
      turnEvents, turnEvents, hFrames,
      Transducer.output_append, ← hAdapter, List.map_append]
  · refine ⟨⟨events, failure, hNext, rfl⟩, ?_, ?_, rfl⟩
    · rw [hConsumed, Transducer.final_append, ← hAcc]
      rfl
    · rw [hFrames, Transducer.final_append, ← hAdapter]

end WarpByokProxy

namespace WarpByokProxy

variable {F Chunk : Type}

/- A message stop stands for an error that is handled. -/
theorem consumed_bedrockItems_error
    (events : List BedrockEvent)
    (e : String) :
    consumed (bedrockItems events (some e)) =
      events ++ [.messageStop "error"] := by
  rw [consumed_bedrockItems]
  rfl

/- An event that is handled is consumed as it is. -/
theorem consumed_bedrockItems_ok
    (events : List BedrockEvent) :
    consumed
        (bedrockItems events (none : Option String)) =
      events := by
  rw [consumed_bedrockItems]
  exact List.append_nil events

namespace StreamState

/- Receiving an item handles it. -/
theorem Tracks.receive
    {serde : SerdeJson F}
    {uuids : Nat → String}
    {encodeSseEvent : Wmaa.ResponseEvent → Chunk}
    {opts : UiAdapterOpts}
    {items handled : List (Except String BedrockEvent)}
    {owed : List Chunk}
    {drain : DrainTask}
    {events rest : Channel (Except String BedrockEvent) 32}
    {acc : StreamAccumulator}
    {adapter : UiAdapter}
    {body : Channel Chunk 32}
    {reader : BodyReader Chunk}
    (hState :
      (StreamState.mk drain events
        (.running acc adapter [] [] false) body
          reader).Tracks serde uuids encodeSseEvent opts
            items handled owed)
    {item : Except String BedrockEvent}
    (hRest : events.items = item :: rest.items)
    {past : List BedrockEvent}
    {failure : Option String}
    (hNext : handled ++ [item] = bedrockItems past failure)
    {event : BedrockEvent}
    (hConsumed :
      consumed (handled ++ [item]) =
        consumed handled ++ [event]) :
    ∃ handled owed,
      (StreamState.mk drain rest
        (.running (acc.handle serde event).1 adapter
          (acc.handle serde event).2 [] failure.isSome) body
            reader).Tracks serde uuids encodeSseEvent opts
              items handled owed := by
  rcases hState.pump.receive hNext hConsumed with
    ⟨added, rfl, hAdded, hGrown, hOwes⟩
  refine
    ⟨handled ++ [item], added,
      { items := ?_
        body := ?_
        size := hAdded
        pump := hOwes
        failure := ?_
        stopped :=
          fun hTrue => absurd hTrue Bool.false_ne_true }⟩
  · rw [hState.items, itemsAhead, itemsAhead, hRest,
      List.append_assoc, List.singleton_append,
      List.cons_append]
  · rw [hGrown, hState.body, List.append_nil,
      List.append_assoc]
  · intro e hMem
    apply hState.failure e
    rw [List.append_assoc, List.singleton_append] at hMem
    rw [hRest]
    exact hMem

/- Pumping for a client that stays keeps track. -/
theorem Tracks.pumped
    {serde : SerdeJson F}
    {uuids : Nat → String}
    {encodeSseEvent : Wmaa.ResponseEvent → Chunk}
    {opts : UiAdapterOpts}
    {items handled : List (Except String BedrockEvent)}
    {owed : List Chunk}
    {state next : StreamState F Chunk}
    (hState :
      state.Tracks serde uuids encodeSseEvent opts items
        handled owed)
    (hMoves :
      PumpMoves serde uuids encodeSseEvent state next)
    (hConnected : state.reader.connected = true) :
    ∃ handled owed,
      next.Tracks serde uuids encodeSseEvent opts items
        handled owed := by
  have hItems := hState.items
  have hBody := hState.body
  have hSize := hState.size
  have hPump := hState.pump
  have hFailure := hState.failure
  cases hMoves with
  | @send drain events acc adapter frames chunk chunks _
      body sent _ _ hSend =>
      -- The first chunk owed is now in flight.
      rcases hPump with ⟨hPast, hAcc, hAdapter, hOwed⟩
      let later :=
        ((UiAdapter.machine serde uuids).output adapter
          frames).map encodeSseEvent
      refine
        ⟨handled, chunks ++ later,
          { items := hItems
            body := ?_
            size := ?_
            pump := ⟨hPast, hAcc, hAdapter, rfl⟩
            failure := hFailure
            stopped :=
              fun hTrue => absurd hTrue Bool.false_ne_true }⟩
      · rw [hBody, hOwed, Channel.items_send? hSend,
          List.append_assoc body.items]
        rfl
      · rw [hOwed, List.cons_append, List.length_cons]
          at hSize
        exact Nat.le_of_succ_le hSize
  | hangUp hGone =>
      have hGone := hConnected.symm.trans hGone
      contradiction
  | translate =>
      rcases hPump with ⟨hPast, hAcc, hAdapter, hOwed⟩
      refine
        ⟨handled, owed,
          { items := hItems
            body := hBody
            size := hSize
            pump := ⟨hPast, hAcc, hAdapter, ?_⟩
            failure := hFailure
            stopped :=
              fun hTrue => absurd hTrue Bool.false_ne_true }⟩
      rw [hOwed, Transducer.output_cons,
        UiAdapter.machine_step, List.map_append,
        List.nil_append]
  | finish =>
      -- A failed pump has handled the error that ended it.
      rcases hPump with
        ⟨⟨past, failure, hPast, hFailed⟩, -, -, hOwed⟩
      refine
        ⟨handled, owed,
          { items := hItems
            body := hBody
            size := hSize
            pump := hOwed
            failure := hFailure
            stopped := ?_ }⟩
      intro _
      rcases Option.isSome_iff_exists.mp hFailed.symm with
        ⟨e, rfl⟩
      apply hFailure e
      rw [hPast, bedrockItems]
      simp
  | @handle _ _ _ _ _ event _ _ hRest =>
      rcases hPump.1 with ⟨past, failure, hPast, hFailed⟩
      cases failure with
      | some e => contradiction
      | none =>
          have hNext :
              handled ++ [.ok event] =
                bedrockItems (past ++ [event]) none := by
            rw [hPast, bedrockItems_append_ok]
          apply hState.receive hRest hNext
          rw [hNext, hPast, consumed_bedrockItems_ok,
            consumed_bedrockItems_ok]
  | @fail _ _ _ _ _ e _ _ hRest =>
      rcases hPump.1 with ⟨past, failure, hPast, hFailed⟩
      cases failure with
      | some e => contradiction
      | none =>
          have hNext :
              handled ++ [.error e] =
                bedrockItems past (some e) := by
            rw [hPast, bedrockItems_append_error]
          apply hState.receive hRest hNext
          rw [hNext, hPast, consumed_bedrockItems_error,
            consumed_bedrockItems_ok]
  | close hDone hNone =>
      exact
        ⟨handled, owed,
          { items := hItems
            body := hBody
            size := hSize
            pump := hPump.2.2.2
            failure := hFailure
            stopped := fun _ => hDone }⟩

/-
  Step rule: as long as the client stays, every step of
  every actor keeps track.
-/
theorem Tracks.step
    {serde : SerdeJson F}
    {uuids : Nat → String}
    {encodeSseEvent : Wmaa.ResponseEvent → Chunk}
    {opts : UiAdapterOpts}
    {items : List (Except String BedrockEvent)}
    {actor : StreamActor}
    {state next : StreamState F Chunk}
    (hState :
      state.reader.connected = true →
        ∃ handled owed,
          state.Tracks serde uuids encodeSseEvent opts items
            handled owed)
    (hStep :
      (streamTasks serde uuids encodeSseEvent).step actor
        state = some next)
    (hConnected : next.reader.connected = true) :
    ∃ handled owed,
      next.Tracks serde uuids encodeSseEvent opts items
        handled owed := by
  cases actor with
  | drain =>
      have hMoves := drainMoves_of_step hStep
      rw [hMoves.reader] at hConnected
      rcases hState hConnected with ⟨handled, owed, hTracks⟩
      exact ⟨handled, owed, hTracks.drain hMoves⟩
  | pump =>
      have hReader := (pending_pumpStep hStep).1
      rw [hReader] at hConnected
      rcases hState hConnected with ⟨handled, owed, hTracks⟩
      exact
        hTracks.pumped (pumpMoves_of_step hStep) hConnected
  | reader =>
      rcases readMoves_of_step hStep with
        ⟨chunk, rest, hStayed, hItems, rfl⟩
      rcases hState hStayed with ⟨handled, owed, hTracks⟩
      refine
        ⟨handled, owed,
          { items := hTracks.items
            body := ?_
            size := hTracks.size
            pump := hTracks.pump
            failure := hTracks.failure
            stopped := hTracks.stopped }⟩
      rw [hTracks.body, hItems]
      simp
  | disconnect =>
      rcases disconnectMoves_of_step hStep with ⟨-, rfl⟩
      exact absurd hConnected Bool.false_ne_true

end StreamState

/-
  The tasks hold a bounded part of the response: at most 33
  of the items that the SDK has delivered wait in the channel
  or in the hand of the draining task, and the client is at
  most 36 chunks behind the body of those that are handled.
-/
def HoldsBoundedly
    (serde : SerdeJson F)
    (uuids : Nat → String)
    (encodeSseEvent : Wmaa.ResponseEvent → Chunk)
    (opts : UiAdapterOpts)
    (results :
      List
        (Except String (Option Sdk.ConverseStreamOutput))) :
    Prop :=
  ∀ state,
    (streamTasks serde uuids encodeSseEvent).Reachable
        (.initial uuids opts results) state →
    state.reader.connected = true →
      let waiting := state.events.items ++ state.drain.held
      waiting.length ≤ 33 ∧
        ∃ handled behind,
          drainStream serde results =
              handled ++
                (waiting ++ state.drain.unreceived serde) ∧
            (bodyEvents serde uuids opts handled).map
                encodeSseEvent =
              state.reader.received ++ behind ∧
            behind.length ≤ 36

/- In no interleaving do the tasks hold more than that. -/
theorem streamTasks_holdBoundedly
    (serde : SerdeJson F)
    (uuids : Nat → String)
    (encodeSseEvent : Wmaa.ResponseEvent → Chunk)
    (opts : UiAdapterOpts)
    (results :
      List
        (Except String (Option Sdk.ConverseStreamOutput))) :
    HoldsBoundedly serde uuids encodeSseEvent opts
      results := by
  intro state hReach hConnected
  have hTracked :
      state.reader.connected = true →
        ∃ handled owed,
          state.Tracks serde uuids encodeSseEvent opts
            (drainStream serde results) handled owed :=
    Actors.Reachable.invariant
      (fun _ _ _ hState hStep =>
        StreamState.Tracks.step hState hStep)
      hReach
      (fun _ =>
        ⟨[], [],
          StreamState.tracks_initial serde uuids
            encodeSseEvent opts results⟩)
  rcases hTracked hConnected with ⟨handled, owed, hTracks⟩
  have hEvents := state.events.bounded
  have hBody := state.body.bounded
  have hOwed := hTracks.size
  intro waiting
  refine
    ⟨?_, handled, state.body.items ++ owed, ?_,
      hTracks.body, ?_⟩
  · have hHeld : state.drain.held.length ≤ 1 := by
      cases state.drain with
      | receiving => exact Nat.zero_le 1
      | sending => exact Nat.le_refl 1
      | stopped => exact Nat.zero_le 1
    rw [List.length_append]
    omega
  · rw [hTracks.items, StreamState.itemsAhead,
      DrainTask.pending_eq_held_append, List.append_assoc]
  · rw [List.length_append]
    omega

end WarpByokProxy
