import WarpByokProxy.Accumulator.Blocks

/-
  Reassembly of tool calls.

  A tool call is spread over a start, any number of argument
  pieces and a stop, interleaved with other blocks. The
  accumulator emits one frame per call, at its stop, with
  the id and the name of its start and the value that its
  pieces denote.

  Key definitions include:
    * `startedTool`
    * `argumentPiece`
    * `CompletesCall`
    * `StreamAccumulator.ReassemblesCalls`

  Key theorems include:
    * `StreamAccumulator.handle_of_openTool`
    * `StreamAccumulator.run_of_openTool`
    * `StreamAccumulator.blocks_final_of_start`
    * `StreamAccumulator.reassemblesCalls`
-/

------------------------------------------------------------
-- Tool Calls In A Stream
------------------------------------------------------------

namespace WarpByokProxy

variable {F : Type}

/- The id and the name in the description of a tool block. -/
def startedTool
    (serde : SerdeJson F)
    (kind : String) : Option (String × String) :=
  if kind = "text" then
    none
  else
    (serde.fromStr kind).bind (fun json =>
      if json.getStr "type" = some "tool_use" then
        some
          ((json.getStr "id").getD "",
            (json.getStr "name").getD "")
      else
        none)

/- The piece of argument text that an event brings. -/
def argumentPiece
    (serde : SerdeJson F)
    (blockIndex : UInt32) :
    BedrockEvent → Option String
  | .contentBlockDelta other deltaJson =>
      if other = blockIndex then
        deltaField serde "input_json_delta" "partial_json"
          deltaJson
      else
        none
  | _ => none

/- What stands strictly between two positions of a list. -/
def between
    {α : Type}
    (xs : List α)
    (start stop : Nat) : List α :=
  (xs.take stop).drop (start + 1)

/-
  The tool block that starts at one position is completed at
  another, by the first stop of its index, before any other
  start of that index.
-/
structure CompletesCall
    (serde : SerdeJson F)
    (events : List BedrockEvent)
    (start stop : Nat)
    (blockIndex : UInt32)
    (id name : String) : Prop where
  ordered : start < stop
  started :
    ∃ kind,
      events[start]? =
          some (.contentBlockStart blockIndex kind) ∧
        startedTool serde kind = some (id, name)
  stopped :
    events[stop]? = some (.contentBlockStop blockIndex)
  open_between :
    ∀ event ∈ between events start stop,
      event.delimiter? blockIndex = none

/-
  The value of a tool call's argument text. Valid JSON is a
  text that `serde_json` parses, whose limits on depth and
  numbers are its own.
-/
def Denotes
    (serde : SerdeJson F)
    (text : String)
    (value : Json F) : Prop :=
  serde.fromStr text = some value ∨
    text = "" ∧ value = .emptyObject

namespace StreamAccumulator

/- The batches of frames that a stream of events produces. -/
def batchesOf
    (serde : SerdeJson F)
    (events : List BedrockEvent) :
    List (List (OzResponseFrame F)) :=
  (machine serde).batches new events

/- Tool calls are reassembled exactly once, and faithfully. -/
structure ReassemblesCalls
    (serde : SerdeJson F)
    (events : List BedrockEvent) : Prop where
  emitted :
    ∀ start stop blockIndex id name,
      CompletesCall serde events start stop blockIndex
          id name →
        ∃ input,
          (batchesOf serde events)[stop]? =
              some
                [.toolUse blockIndex id name input,
                  .blockStop blockIndex] ∧
            ((between (batchesOf serde events) start
                stop).flatten.filterMap
                  (OzResponseFrame.shownPiece blockIndex) =
              (between events start stop).filterMap
                (argumentPiece serde blockIndex)) ∧
            ∀ value,
              Denotes serde
                  (String.join
                    ((between events start stop).filterMap
                      (argumentPiece serde blockIndex)))
                  value →
                input = value
  once :
    ∀ start stop other blockIndex id name,
      CompletesCall serde events start stop blockIndex
          id name →
      CompletesCall serde events start other blockIndex
          id name →
        stop = other
  only :
    ∀ stop batch blockIndex id name input,
      (batchesOf serde events)[stop]? = some batch →
      .toolUse blockIndex id name input ∈ batch →
        ∃! start,
          CompletesCall serde events start stop blockIndex
            id name

end StreamAccumulator

end WarpByokProxy

------------------------------------------------------------
-- Starts And Pieces
------------------------------------------------------------

namespace WarpByokProxy

variable {F : Type}

/- The description of a tool block opens a tool block. -/
theorem parseBlockStart_of_startedTool
    {serde : SerdeJson F}
    {kind id name : String}
    (hTool : startedTool serde kind = some (id, name)) :
    parseBlockStart serde kind =
      .tool { id := id, name := name, partialJson := "" } := by
  unfold startedTool at hTool
  unfold parseBlockStart
  by_cases hText : kind = "text"
  · simp [hText] at hTool
  · rw [if_neg hText] at hTool ⊢
    cases hJson : serde.fromStr kind with
    | none => simp [hJson] at hTool
    | some json =>
        rw [hJson, Option.bind_some] at hTool
        split_ifs at hTool with hType
        have hPair := Option.some.inj hTool
        simp only [Prod.mk.injEq] at hPair
        simp [hType, hPair.1, hPair.2]

/- Only the description of a tool block opens one. -/
theorem exists_startedTool
    {serde : SerdeJson F}
    {kind : String}
    (hKind : (parseBlockStart serde kind).kind = .toolUse) :
    ∃ id name,
      startedTool serde kind = some (id, name) := by
  unfold parseBlockStart at hKind
  unfold startedTool
  by_cases hText : kind = "text"
  · simp [hText, BlockState.text] at hKind
  · rw [if_neg hText] at hKind ⊢
    cases hJson : serde.fromStr kind with
    | none =>
        simp [hJson, BlockState.text, Json.getStr,
          Json.get] at hKind
    | some json =>
        simp only [hJson, Option.getD_some] at hKind
        rw [Option.bind_some]
        by_cases hType : json.getStr "type" = some "tool_use"
        · rw [if_pos hType]
          exact ⟨_, _, rfl⟩
        · exfalso
          split at hKind
          · simp [BlockState.thinking] at hKind
          · rename_i hDefault
            apply hType
            exact (getD_eq_iff_of_ne (by decide)).mp hDefault
          · simp [BlockState.text] at hKind

end WarpByokProxy

------------------------------------------------------------
-- Open Tool Blocks
------------------------------------------------------------

namespace WarpByokProxy

namespace StreamAccumulator

variable {F : Type}

/-
  Step rule: an event that neither starts nor stops an open
  tool block adds its piece, if it has one, and shows it.
-/
theorem handle_of_openTool
    (serde : SerdeJson F)
    {self : StreamAccumulator}
    {blockIndex : UInt32}
    {acc : ToolUseAcc}
    (hOpen : self.blocks blockIndex = some (.tool acc))
    {event : BedrockEvent}
    (hEvent : event.delimiter? blockIndex = none) :
    (self.handle serde event).1.blocks blockIndex =
        some (.tool
          { acc with
            partialJson :=
              acc.partialJson ++
                (argumentPiece serde blockIndex
                  event).getD "" }) ∧
      (self.handle serde event).2.filterMap
          (OzResponseFrame.shownPiece blockIndex) =
        (argumentPiece serde blockIndex event).toList := by
  cases event with
  | messageStart => simp [handle, argumentPiece, hOpen]
  | messageStop =>
      simp [handle, argumentPiece, hOpen,
        OzResponseFrame.shownPiece]
  | messageStreamMetadata =>
      simp [handle, argumentPiece, hOpen,
        OzResponseFrame.shownPiece]
  | contentBlockStart other kind =>
      have hIndex : blockIndex ≠ other := by
        intro hEq
        simp [BedrockEvent.delimiter?, hEq] at hEvent
      simp [handle, argumentPiece, hOpen,
        set_blocks_of_ne _ _ hIndex]
  | contentBlockStop other =>
      have hIndex : blockIndex ≠ other := by
        intro hEq
        simp [BedrockEvent.delimiter?, hEq] at hEvent
      refine ⟨?_, ?_⟩
      · simp [handle, argumentPiece, hOpen,
          set_blocks_of_ne _ _ hIndex]
      · exact filterMap_handle_stop_eq_nil
          (fun _ _ _ => rfl) rfl serde self
  | contentBlockDelta other deltaJson =>
      by_cases hIndex : other = blockIndex
      · subst hIndex
        simp only [handle, hOpen, Option.getD_some,
          handleDelta_tool, set_blocks_self, argumentPiece,
          if_true]
        cases deltaField serde "input_json_delta"
            "partial_json" deltaJson with
        | none => simp
        | some piece => simp [OzResponseFrame.shownPiece]
      · have hSilent :
            (handleDelta serde
              ((self.blocks other).getD .text) other
                deltaJson).2.filterMap
                  (OzResponseFrame.shownPiece blockIndex) =
              [] :=
          filterMap_handleDelta_eq_nil (fun _ => rfl)
            (fun _ _ => rfl) (fun _ _ => if_neg hIndex)
            serde _ deltaJson
        simp [handle, argumentPiece, hOpen, hIndex,
          set_blocks_of_ne _ _ (Ne.symm hIndex), hSilent]

/- Run rule: an open tool block collects its pieces. -/
theorem run_of_openTool
    (serde : SerdeJson F)
    {self : StreamAccumulator}
    {blockIndex : UInt32}
    {acc : ToolUseAcc}
    (hOpen : self.blocks blockIndex = some (.tool acc))
    {during : List BedrockEvent}
    (hDuring :
      ∀ event ∈ during,
        event.delimiter? blockIndex = none) :
    ((machine serde).final self during).blocks blockIndex =
        some (.tool
          { acc with
            partialJson :=
              acc.partialJson ++
                String.join
                  (during.filterMap
                    (argumentPiece serde blockIndex)) }) ∧
      ((machine serde).output self during).filterMap
          (OzResponseFrame.shownPiece blockIndex) =
        during.filterMap
          (argumentPiece serde blockIndex) := by
  induction during generalizing self acc with
  | nil => simp [hOpen]
  | cons event during ih =>
      rcases handle_of_openTool serde hOpen
          (hDuring event List.mem_cons_self) with
        ⟨hState, hShown⟩
      rcases ih hState (fun other hOther =>
          hDuring other (List.mem_cons_of_mem _ hOther)) with
        ⟨hFinal, hRest⟩
      rw [Transducer.final_cons, Transducer.output_cons,
        machine_step, hFinal, List.filterMap_append, hShown,
        hRest, List.filterMap_cons]
      cases argumentPiece serde blockIndex event with
      | none => simp
      | some piece => simp [String.append_assoc]

/-
  The state of a tool block, read off the events since its
  start.
-/
theorem blocks_final_of_start
    {serde : SerdeJson F}
    {kind id name : String}
    (hTool : startedTool serde kind = some (id, name))
    {blockIndex : UInt32}
    {during : List BedrockEvent}
    (hDuring :
      ∀ event ∈ during,
        event.delimiter? blockIndex = none)
    (before : List BedrockEvent) :
    ((machine serde).final new
        (before ++
          .contentBlockStart blockIndex kind ::
            during)).blocks blockIndex =
      some (.tool
        { id := id
          name := name
          partialJson :=
            String.join
              (during.filterMap
                (argumentPiece serde blockIndex)) }) := by
  have hStarted :
      ((((machine serde).final new before).handle serde
        (.contentBlockStart blockIndex kind)).1.blocks
          blockIndex) =
        some (.tool
          { id := id, name := name, partialJson := "" }) := by
    rw [handle, set_blocks_self,
      parseBlockStart_of_startedTool hTool]
  rw [Transducer.final_append, Transducer.final_cons,
    machine_step, (run_of_openTool serde hStarted hDuring).1,
    String.empty_append]

end StreamAccumulator

end WarpByokProxy

------------------------------------------------------------
-- Completed Calls
------------------------------------------------------------

namespace WarpByokProxy

/- What is found at a position between is between. -/
theorem mem_between
    {α : Type}
    {xs : List α}
    {start position stop : Nat}
    {x : α}
    (hStart : start < position)
    (hStop : position < stop)
    (hFound : xs[position]? = some x) :
    x ∈ between xs start stop := by
  rw [between, List.mem_iff_getElem?]
  refine ⟨position - (start + 1), ?_⟩
  have hIndex :
      start + 1 + (position - (start + 1)) = position := by
    omega
  rw [List.getElem?_drop, hIndex,
    List.getElem?_take_of_lt hStop, hFound]

/- A prefix, split at one of its positions. -/
theorem take_eq_append_between
    {α : Type}
    {xs : List α}
    {start stop : Nat}
    {x : α}
    (hLt : start < stop)
    (hStart : xs[start]? = some x) :
    xs.take stop =
      xs.take start ++ x :: between xs start stop := by
  have hPrefix :
      (xs.take stop).take (start + 1) =
        xs.take start ++ [x] := by
    rw [List.take_take, Nat.min_eq_left hLt,
      List.take_add_one, hStart, Option.toList_some]
  have hSplit :=
    List.take_append_drop (start + 1) (xs.take stop)
  rw [hPrefix] at hSplit
  rw [← hSplit, List.append_assoc]
  rfl

namespace StreamAccumulator

variable {F : Type}

/- The frames between two positions, as a run of their own. -/
theorem flatten_between_batchesOf
    (serde : SerdeJson F)
    (events : List BedrockEvent)
    {start stop : Nat}
    (hLt : start < stop) :
    (between (batchesOf serde events) start stop).flatten =
      (machine serde).output
        ((machine serde).final new
          (events.take (start + 1)))
        (between events start stop) := by
  unfold between batchesOf
  rw [Transducer.take_batches, Transducer.drop_batches,
    List.take_take, Nat.min_eq_left hLt]
  rfl

/- A stop of an open tool block emits its call. -/
theorem handle_stop_of_openTool
    (serde : SerdeJson F)
    {self : StreamAccumulator}
    {blockIndex : UInt32}
    {acc : ToolUseAcc}
    (hOpen : self.blocks blockIndex = some (.tool acc)) :
    (self.handle serde (.contentBlockStop blockIndex)).2 =
      [.toolUse blockIndex acc.id acc.name
          ((serde.fromStr acc.partialJson).getD
            .emptyObject),
        .blockStop blockIndex] := by
  rw [handle, hOpen]
  rfl

/- Only the stop of a tool block emits a call. -/
theorem exists_of_toolUse_mem_handle
    {serde : SerdeJson F}
    {self : StreamAccumulator}
    {event : BedrockEvent}
    {blockIndex : UInt32}
    {id name : String}
    {input : Json F}
    (hMem :
      .toolUse blockIndex id name input ∈
        (self.handle serde event).2) :
    event = .contentBlockStop blockIndex ∧
      ∃ state acc,
        self.blocks blockIndex = some state ∧
          state.kind = .toolUse ∧
          state.toolUse = some acc ∧
          acc.id = id ∧
          acc.name = name := by
  cases event with
  | messageStart => simp [handle] at hMem
  | messageStop => simp [handle] at hMem
  | messageStreamMetadata => simp [handle] at hMem
  | contentBlockStart => simp [handle] at hMem
  | contentBlockDelta other deltaJson =>
      rcases mem_handleDelta hMem with
        ⟨text, hEq⟩ | ⟨text, signature, hEq⟩ |
          ⟨callId, piece, hEq⟩
      · simp at hEq
      · simp at hEq
      · simp at hEq
  | contentBlockStop other =>
      simp only [handle, List.mem_append,
        List.mem_singleton, reduceCtorEq, or_false] at hMem
      rcases mem_toolUseAtStop hMem with
        ⟨state, acc, hBlock, hKind, hAcc, hFrame⟩
      simp only [OzResponseFrame.toolUse.injEq] at hFrame
      rcases hFrame with ⟨rfl, hId, hName, -⟩
      exact ⟨rfl, state, acc, hBlock, hKind, hAcc,
        hId.symm, hName.symm⟩

end StreamAccumulator

end WarpByokProxy

------------------------------------------------------------
-- Reassembly
------------------------------------------------------------

namespace WarpByokProxy

namespace StreamAccumulator

variable {F : Type}

/- A completed call is still open right before its stop. -/
theorem blocks_of_completesCall
    {serde : SerdeJson F}
    {events : List BedrockEvent}
    {start stop : Nat}
    {blockIndex : UInt32}
    {id name : String}
    (hCall :
      CompletesCall serde events start stop blockIndex
        id name) :
    ((machine serde).final new
        (events.take stop)).blocks blockIndex =
      some (.tool
        { id := id
          name := name
          partialJson :=
            String.join
              ((between events start stop).filterMap
                (argumentPiece serde blockIndex)) }) := by
  rcases hCall.started with ⟨kind, hStart, hTool⟩
  rw [take_eq_append_between hCall.ordered hStart]
  exact blocks_final_of_start hTool hCall.open_between _

/- A call is completed by one stop only. -/
theorem stop_unique
    {serde : SerdeJson F}
    {events : List BedrockEvent}
    {start stop other : Nat}
    {blockIndex : UInt32}
    {id name id' name' : String}
    (hCall :
      CompletesCall serde events start stop blockIndex
        id name)
    (hOther :
      CompletesCall serde events start other blockIndex
        id' name') :
    other ≤ stop := by
  by_contra hLt
  have hMem :
      .contentBlockStop blockIndex ∈
        between events start other := by
    apply mem_between hCall.ordered ?_ hCall.stopped
    omega
  have hNone := hOther.open_between _ hMem
  simp [BedrockEvent.delimiter?] at hNone

/- A stop completes one call only. -/
theorem start_unique
    {serde : SerdeJson F}
    {events : List BedrockEvent}
    {start other stop : Nat}
    {blockIndex : UInt32}
    {id name id' name' : String}
    (hCall :
      CompletesCall serde events start stop blockIndex
        id name)
    (hOther :
      CompletesCall serde events other stop blockIndex
        id' name') :
    other ≤ start := by
  by_contra hLt
  rcases hOther.started with ⟨kind, hStart, -⟩
  have hMem :
      .contentBlockStart blockIndex kind ∈
        between events start stop := by
    apply mem_between ?_ hOther.ordered hStart
    omega
  have hNone := hCall.open_between _ hMem
  simp [BedrockEvent.delimiter?] at hNone

/- Every emitted call completes some start. -/
theorem exists_completesCall
    {serde : SerdeJson F}
    {events : List BedrockEvent}
    {stop : Nat}
    {batch : List (OzResponseFrame F)}
    {blockIndex : UInt32}
    {id name : String}
    {input : Json F}
    (hBatch : (batchesOf serde events)[stop]? = some batch)
    (hMem : .toolUse blockIndex id name input ∈ batch) :
    ∃ start,
      CompletesCall serde events start stop blockIndex
        id name := by
  rw [batchesOf, Transducer.getElem?_batches] at hBatch
  rcases Option.map_eq_some_iff.mp hBatch with
    ⟨event, hEvent, rfl⟩
  rcases exists_of_toolUse_mem_handle hMem with
    ⟨rfl, state, acc, hBlock, hKind, hAcc, hId, hName⟩
  -- The kind of the block leads back to the start.
  have hKindAt := kindAt_final serde (events.take stop)
    blockIndex
  rw [kindAt, hBlock, Option.getD_some, hKind] at hKindAt
  cases hOpen : openKind blockIndex (events.take stop) with
  | none => simp [hOpen, kindOf] at hKindAt
  | some kind =>
      rw [hOpen, kindOf, Option.map_some, Option.getD_some]
        at hKindAt
      rcases exists_startedTool hKindAt.symm with
        ⟨startId, startName, hTool⟩
      rcases exists_start_of_openKind hOpen with
        ⟨before, during, hTake, hDuring⟩
      have hLength := congrArg List.length hTake
      simp only [List.length_take, List.length_append,
        List.length_cons] at hLength
      have hLt : before.length < stop := by
        omega
      have hStart :
          events[before.length]? =
            some (.contentBlockStart blockIndex kind) := by
        rw [← List.getElem?_take_of_lt hLt, hTake,
          List.getElem?_append_right (Nat.le_refl _),
          Nat.sub_self]
        rfl
      have hBetween :
          between events before.length stop = during := by
        rw [between, hTake]
        simp [List.drop_append]
      have hCall :
          CompletesCall serde events before.length stop
            blockIndex startId startName :=
        { ordered := hLt
          started := ⟨kind, hStart, hTool⟩
          stopped := hEvent
          open_between := by
            rw [hBetween]
            exact hDuring }
      have hState := blocks_of_completesCall hCall
      rw [hBlock, Option.some.injEq] at hState
      rw [hState] at hAcc
      have hAccEq := Option.some.inj hAcc
      rw [← hAccEq] at hId hName
      rw [← hId, ← hName]
      exact ⟨before.length, hCall⟩

/-
  Every run reassembles its tool calls, when blank text is
  no JSON.
-/
theorem reassemblesCalls
    {serde : SerdeJson F}
    (hBlank : serde.RejectsBlank)
    (events : List BedrockEvent) :
    ReassemblesCalls serde events := by
  refine { emitted := ?_, once := ?_, only := ?_ }
  · intro start stop blockIndex id name hCall
    have hOpen := blocks_of_completesCall hCall
    refine
      ⟨(serde.fromStr
          (String.join
            ((between events start stop).filterMap
              (argumentPiece serde blockIndex)))).getD
          .emptyObject,
        ?_, ?_, ?_⟩
    · rw [batchesOf, Transducer.getElem?_batches,
        hCall.stopped, Option.map_some, machine_step,
        handle_stop_of_openTool serde hOpen]
    · rcases hCall.started with ⟨kind, hStart, hTool⟩
      rw [flatten_between_batchesOf serde events
          hCall.ordered,
        List.take_add_one, hStart, Option.toList_some]
      have hStarted :
          ((machine serde).final new
              (events.take start ++
                [.contentBlockStart blockIndex
                  kind])).blocks blockIndex =
            some (.tool
              { id := id, name := name, partialJson := "" })
          := by
        have hNone :
            ∀ event ∈ ([] : List BedrockEvent),
              event.delimiter? blockIndex = none := by
          simp
        simpa using
          blocks_final_of_start hTool hNone
            (events.take start)
      exact
        (run_of_openTool serde hStarted
          hCall.open_between).2
    · intro value hDenotes
      rcases hDenotes with hValue | ⟨hEmpty, hValue⟩
      · rw [hValue, Option.getD_some]
      · rw [hEmpty, hBlank "" (by rfl), Option.getD_none,
          hValue]
  · intro start stop other blockIndex id name hCall hOther
    have hLe := stop_unique hCall hOther
    have hGe := stop_unique hOther hCall
    omega
  · intro stop batch blockIndex id name input hBatch hMem
    rcases exists_completesCall hBatch hMem with
      ⟨start, hCall⟩
    refine ⟨start, hCall, ?_⟩
    intro other hOther
    have hLe := start_unique hCall hOther
    have hGe := start_unique hOther hCall
    omega

theorem reassemblesCalls_interleaved_calls :
    ReassemblesCalls SerdeJson.integral
      [.contentBlockStart 0
          (SerdeJson.integral.toString (.ofStrings
            [("type", "tool_use"), ("id", "tu_1")])),
        .contentBlockStart 1 "text",
        .contentBlockDelta 0
          (SerdeJson.integral.toString (.ofStrings
            [("type", "input_json_delta"),
              ("partial_json", "[1]")])),
        .contentBlockStop 1, .contentBlockStop 0] :=
  reassemblesCalls
    (SerdeJson.rejectsBlank_ofFormat _) _

end StreamAccumulator

end WarpByokProxy
