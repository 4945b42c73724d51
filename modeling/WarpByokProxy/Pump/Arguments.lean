import WarpByokProxy.Accumulator.ToolCalls
import WarpByokProxy.Adapter.Appends
import WarpByokProxy.Pump.Body

/-
  The arguments of the tool calls that reach the client.

  A call is delivered in the batch of the stop that completes
  its block. Its arguments are those the model wrote whenever
  the pieces of the block make up a JSON text, or no text at
  all; any other text is replaced by an empty object.

  Key definitions include:
    * `turnBatches`
    * `deliveredCalls`
    * `argumentText`
    * `MeansJson`
    * `NeverInventsArguments`
    * `ReadableArguments`

  Key theorems include:
    * `flatten_turnBatches`
    * `deliveredCalls_eq_filterMap`
    * `deliveredCalls_of_completesCall`
    * `neverInventsArguments_iff`
-/

------------------------------------------------------------
-- Delivered Calls
------------------------------------------------------------

namespace WarpByokProxy

open Wmaa

variable {F : Type}

/- The tool call that a message content is, if it is one. -/
def Wmaa.MessageContent.toolCall? :
    MessageContent → Option ToolCall
  | .toolCall call => some call
  | _ => none

/- The client's events for each event of the stream. -/
def turnBatches
    (serde : SerdeJson F)
    (uuids : Nat → String)
    (opts : UiAdapterOpts)
    (events : List BedrockEvent) :
    List (List ResponseEvent) :=
  (Transducer.comp (StreamAccumulator.machine serde)
    (UiAdapter.machine serde uuids)).batches
      (.new, UiAdapter.new uuids opts) events

/- The tool calls among the contents that a trace appends. -/
def appendedCalls
    (trace : List ResponseEvent) : List ToolCall :=
  (appendedMessages (actionTrace trace)).filterMap
    (fun message =>
      message.message.bind MessageContent.toolCall?)

/- The tool calls that the client receives at a position. -/
def deliveredCalls
    (serde : SerdeJson F)
    (uuids : Nat → String)
    (opts : UiAdapterOpts)
    (events : List BedrockEvent)
    (position : Nat) : List ToolCall :=
  appendedCalls
    ((turnBatches serde uuids opts events).getD position [])

/- The argument text of a block, from its start to its stop. -/
def argumentText
    (serde : SerdeJson F)
    (events : List BedrockEvent)
    (start stop : Nat)
    (blockIndex : UInt32) : String :=
  String.join
    ((between events start stop).filterMap
      (argumentPiece serde blockIndex))

/- The text has no character besides the blanks of JSON. -/
def isBlankText
    (text : String) : Bool :=
  text.toList.all JsonText.isBlank

/- The value of an argument text; blank text means `{}`. -/
def MeansJson
    (serde : SerdeJson F)
    (text : String)
    (value : Json F) : Prop :=
  serde.fromStr text = some value ∨
    isBlankText text = true ∧ value = .emptyObject

/-
  Every call that reaches the client has the id and the name
  of a block that was started and stopped, and the arguments
  that the text of this block means.
-/
def NeverInventsArguments
    (serde : SerdeJson F)
    (uuids : Nat → String)
    (opts : UiAdapterOpts)
    (events : List BedrockEvent) : Prop :=
  ∀ stop call,
    call ∈ deliveredCalls serde uuids opts events stop →
      ∃ start blockIndex id name value,
        CompletesCall serde events start stop blockIndex
            id name ∧
          MeansJson serde
            (argumentText serde events start stop
              blockIndex)
            value ∧
          call =
            { toolCallId := id
              tool :=
                some (.server
                  { payload :=
                      serde.toString (.object
                        [("id", .string id),
                          ("name", .string name),
                          ("input", value)]) }) }

end WarpByokProxy

------------------------------------------------------------
-- Calls Of Frames
------------------------------------------------------------

namespace WarpByokProxy

open Wmaa

variable {F : Type}

/- The batches are the events of the turn, cut into pieces. -/
theorem flatten_turnBatches
    (serde : SerdeJson F)
    (uuids : Nat → String)
    (opts : UiAdapterOpts)
    (events : List BedrockEvent) :
    (turnBatches serde uuids opts events).flatten =
      turnEvents serde uuids opts events :=
  Transducer.output_comp (StreamAccumulator.machine serde)
    (UiAdapter.machine serde uuids) .new
    (UiAdapter.new uuids opts) events

/- The call that a frame stands for. -/
def OzResponseFrame.toolCall?
    (serde : SerdeJson F) :
    OzResponseFrame F → Option ToolCall
  | .toolUse _ id name input =>
      some (UiAdapter.toolCallOf serde id name input)
  | _ => none

/- It is the tool call among the contents that are patches. -/
theorem toolCall?_eq_bind_contentItem
    (serde : SerdeJson F)
    (frame : OzResponseFrame F) :
    frame.toolCall? serde =
      (contentItem serde frame).bind (fun item =>
        item.patch.toolCall?) := by
  cases frame <;> rfl

/- The adapter appends the calls of its frames, in order. -/
theorem appendedCalls_output
    (serde : SerdeJson F)
    (uuids : Nat → String)
    (adapter : UiAdapter)
    (frames : List (OzResponseFrame F)) :
    appendedCalls
        ((UiAdapter.machine serde uuids).output adapter
          frames) =
      frames.filterMap
        (OzResponseFrame.toolCall? serde) := by
  have hContents :=
    UiAdapter.appendedContents_output serde uuids adapter
      frames
  have hCalls :=
    congrArg
      (List.filterMap
        (fun content : Option MessageContent =>
          content.bind MessageContent.toolCall?))
      hContents
  rw [List.filterMap_map, List.filterMap_map, contentItems,
    List.filterMap_filterMap] at hCalls
  rw [appendedCalls]
  refine hCalls.trans ?_
  apply List.filterMap_congr
  intro frame _
  exact (toolCall?_eq_bind_contentItem serde frame).symm

/- The calls at a position are those of its frames. -/
theorem deliveredCalls_eq_filterMap
    (serde : SerdeJson F)
    (uuids : Nat → String)
    (opts : UiAdapterOpts)
    (events : List BedrockEvent)
    (position : Nat) :
    deliveredCalls serde uuids opts events position =
      ((StreamAccumulator.batchesOf serde events).getD
        position []).filterMap
          (OzResponseFrame.toolCall? serde) := by
  rw [deliveredCalls, turnBatches,
    StreamAccumulator.batchesOf,
    List.getD_eq_getElem?_getD, List.getD_eq_getElem?_getD,
    Transducer.getElem?_batches, Transducer.getElem?_batches]
  cases events[position]? with
  | none => rfl
  | some event =>
      rw [Option.map_some, Option.map_some, Option.getD_some,
        Option.getD_some, Transducer.comp_step,
        appendedCalls_output, Transducer.final_comp]

end WarpByokProxy

------------------------------------------------------------
-- Arguments Of Delivered Calls
------------------------------------------------------------

namespace WarpByokProxy

open Wmaa

variable {F : Type}

/-
  A completed call is delivered with the value of its text,
  or with the empty object when the text is not JSON.
-/
theorem deliveredCalls_of_completesCall
    {serde : SerdeJson F}
    {events : List BedrockEvent}
    {start stop : Nat}
    {blockIndex : UInt32}
    {id name : String}
    (hCall :
      CompletesCall serde events start stop blockIndex
        id name)
    (uuids : Nat → String)
    (opts : UiAdapterOpts) :
    deliveredCalls serde uuids opts events stop =
      [UiAdapter.toolCallOf serde id name
        ((serde.fromStr
          (argumentText serde events start stop
            blockIndex)).getD .emptyObject)] := by
  have hOpen :=
    StreamAccumulator.blocks_of_completesCall hCall
  rw [deliveredCalls_eq_filterMap,
    StreamAccumulator.batchesOf,
    List.getD_eq_getElem?_getD, Transducer.getElem?_batches,
    hCall.stopped, Option.map_some, Option.getD_some,
    StreamAccumulator.machine_step,
    StreamAccumulator.handle_stop_of_openTool serde hOpen]
  rfl

/- Every delivered call completes a block. -/
theorem exists_completesCall_of_mem_deliveredCalls
    {serde : SerdeJson F}
    {uuids : Nat → String}
    {opts : UiAdapterOpts}
    {events : List BedrockEvent}
    {stop : Nat}
    {call : ToolCall}
    (hCall :
      call ∈ deliveredCalls serde uuids opts events stop) :
    ∃ start blockIndex id name,
      CompletesCall serde events start stop blockIndex
        id name := by
  rw [deliveredCalls_eq_filterMap] at hCall
  rcases List.mem_filterMap.mp hCall with
    ⟨frame, hFrame, hRead⟩
  cases hBatch :
      (StreamAccumulator.batchesOf serde events)[stop]? with
  | none =>
      rw [List.getD_eq_getElem?_getD, hBatch] at hFrame
      simp at hFrame
  | some batch =>
      rw [List.getD_eq_getElem?_getD, hBatch,
        Option.getD_some] at hFrame
      cases frame with
      | toolUse blockIndex id name input =>
          rcases StreamAccumulator.exists_completesCall
              hBatch hFrame with ⟨start, hCompletes⟩
          exact ⟨start, blockIndex, id, name, hCompletes⟩
      | textDelta =>
          simp [OzResponseFrame.toolCall?] at hRead
      | thinkingDelta =>
          simp [OzResponseFrame.toolCall?] at hRead
      | toolUseInputDelta =>
          simp [OzResponseFrame.toolCall?] at hRead
      | blockStop =>
          simp [OzResponseFrame.toolCall?] at hRead
      | usageUpdate =>
          simp [OzResponseFrame.toolCall?] at hRead
      | done => simp [OzResponseFrame.toolCall?] at hRead

/- One stop belongs to one block and to one start of it. -/
theorem CompletesCall.unique
    {serde : SerdeJson F}
    {events : List BedrockEvent}
    {start other stop : Nat}
    {blockIndex otherIndex : UInt32}
    {id name id' name' : String}
    (hCall :
      CompletesCall serde events start stop blockIndex
        id name)
    (hOther :
      CompletesCall serde events other stop otherIndex
        id' name') :
    otherIndex = blockIndex ∧ other = start := by
  have hStop := hCall.stopped
  rw [hOther.stopped] at hStop
  have hIndex : otherIndex = blockIndex :=
    BedrockEvent.contentBlockStop.inj
      (Option.some.inj hStop)
  subst hIndex
  have hLe := StreamAccumulator.start_unique hCall hOther
  have hGe := StreamAccumulator.start_unique hOther hCall
  exact ⟨rfl, Nat.le_antisymm hLe hGe⟩

/- The text of a completed block is blank or JSON. -/
def ReadableArguments
    (serde : SerdeJson F)
    (events : List BedrockEvent) : Prop :=
  ∀ start stop blockIndex id name,
    CompletesCall serde events start stop blockIndex
        id name →
      isBlankText
            (argumentText serde events start stop
              blockIndex) = true ∨
        (serde.fromStr
          (argumentText serde events start stop
            blockIndex)).isSome = true

/- Where nothing is invented every text is readable. -/
theorem NeverInventsArguments.readable
    {serde : SerdeJson F}
    {uuids : Nat → String}
    {opts : UiAdapterOpts}
    {events : List BedrockEvent}
    (hNever :
      NeverInventsArguments serde uuids opts events) :
    ReadableArguments serde events := by
  intro start stop blockIndex id name hCall
  have hDelivered :
      UiAdapter.toolCallOf serde id name
          ((serde.fromStr
            (argumentText serde events start stop
              blockIndex)).getD .emptyObject) ∈
        deliveredCalls serde uuids opts events stop := by
    rw [deliveredCalls_of_completesCall hCall]
    exact List.mem_singleton_self _
  rcases hNever stop _ hDelivered with
    ⟨other, otherIndex, id', name', value, hOther, hMeans,
      -⟩
  -- The call can only be the one of this very block.
  rcases hCall.unique hOther with ⟨rfl, rfl⟩
  rcases hMeans with hValue | ⟨hText, -⟩
  · right
    rw [hValue]
    rfl
  · exact Or.inl hText

/-
  No arguments are invented exactly when every completed
  block has a blank argument text or a JSON one.
-/
theorem neverInventsArguments_iff
    {serde : SerdeJson F}
    (hBlank : serde.RejectsBlank)
    (uuids : Nat → String)
    (opts : UiAdapterOpts)
    (events : List BedrockEvent) :
    NeverInventsArguments serde uuids opts events ↔
      ReadableArguments serde events := by
  constructor
  · intro hNever
    exact hNever.readable
  · intro hTexts stop call hMem
    rcases exists_completesCall_of_mem_deliveredCalls hMem
      with ⟨start, blockIndex, id, name, hCall⟩
    rw [deliveredCalls_of_completesCall hCall,
      List.mem_singleton] at hMem
    refine ⟨start, blockIndex, id, name, _, hCall, ?_, hMem⟩
    rcases hTexts start stop blockIndex id name hCall with
      hText | hSome
    · right
      refine ⟨hText, ?_⟩
      rw [hBlank _ hText, Option.getD_none]
    · left
      rcases Option.isSome_iff_exists.mp hSome with
        ⟨value, hValue⟩
      rw [hValue, Option.getD_some]

theorem neverInventsArguments_no_pieces :
    NeverInventsArguments SerdeJson.integral numberedUuids
        ⟨none, none, none⟩
        [.contentBlockStart 0
            (SerdeJson.integral.toString (.ofStrings
              [("type", "tool_use"), ("id", "tu_1"),
                ("name", "ls")])),
          .contentBlockStop 0] ↔
      ReadableArguments SerdeJson.integral
        [.contentBlockStart 0
            (SerdeJson.integral.toString (.ofStrings
              [("type", "tool_use"), ("id", "tu_1"),
                ("name", "ls")])),
          .contentBlockStop 0] :=
  neverInventsArguments_iff
    (SerdeJson.rejectsBlank_ofFormat _) numberedUuids
    ⟨none, none, none⟩ _

/- A call whose arguments end after their first character. -/
def cutOffCall : List BedrockEvent :=
  [.contentBlockStart 0
      (SerdeJson.integral.toString (.ofStrings
        [("type", "tool_use"), ("id", "tu_1"),
          ("name", "rm")])),
    .contentBlockDelta 0
      (SerdeJson.integral.toString (.ofStrings
        [("type", "input_json_delta"),
          ("partial_json", "\x7b")])),
    .contentBlockStop 0]

/- The client receives it with the empty object. -/
theorem not_neverInventsArguments_cut_off :
    ¬ NeverInventsArguments SerdeJson.integral numberedUuids
      ⟨none, none, none⟩ cutOffCall := by
  intro hNever
  have hCall :
      CompletesCall SerdeJson.integral cutOffCall 0 2 0
        "tu_1" "rm" :=
    { ordered := by decide
      started := ⟨_, rfl, by decide +kernel⟩
      stopped := rfl
      open_between := by
        simp [between, cutOffCall, BedrockEvent.delimiter?] }
  have hText :
      argumentText SerdeJson.integral cutOffCall 0 2 0 =
        "\x7b" := by
    decide +kernel
  rcases hNever.readable _ _ _ _ _ hCall with
    hBlank | hJson
  · rw [hText] at hBlank
    exact absurd hBlank (by decide)
  · rw [hText] at hJson
    exact absurd hJson (by decide +kernel)

end WarpByokProxy
