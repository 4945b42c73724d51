import WarpByokProxy.Adapter.ContentRuns
import WarpByokProxy.Pump.Body
import WarpByokProxy.Server.Exchanges

/-
  A turn on its way into the next one.

  The client keeps what it replays of a turn among its tasks
  and sends its tasks along with the next request. What the
  walker makes of them are the runs of content frames of the
  turn: the texts of a run joined, unless they are blank, and
  the payloads of neighbouring calls joined, under no id.

  So not all that Bedrock said is remembered. Ids of calls
  are lost and neighbouring calls run into one: a turn is
  remembered as it was said just when it makes no calls but
  such as have no id and stand alone.

  Key definitions include:
    * `OzResponseFrame.sentText`
    * `runItem`
    * `turnMemory`
    * `turnSaid`
    * `KeepsCalls`
    * `taskItems`
    * `nextRequest`
    * `ServerContext.RemembersTurn`

  Key theorems include:
    * `turnMemory_eq_turnSaid_iff`
    * `filterMap_priorItem_clientAfter`
    * `conversation_nextRequest`
    * `nextTurn_remembersTurn`
-/

------------------------------------------------------------
-- What A Turn Leaves
------------------------------------------------------------

namespace WarpByokProxy

variable {F : Type}

/- The text that a content frame sends to its message. -/
def OzResponseFrame.sentText
    (serde : SerdeJson F) :
    OzResponseFrame F → String
  | .toolUse _ id name input =>
      serde.toString (.object
        [("id", .string id),
          ("name", .string name),
          ("input", input)])
  | frame => frame.streamedText

/-
  The item that a run of content frames is in later turns:
  one for all of its frames, also for a run of calls.
-/
def runItem
    (serde : SerdeJson F)
    (run : List (OzResponseFrame F)) :
    Option ConversationItem :=
  let text := String.join (run.map (·.sentText serde))
  match run.head?.bind OzResponseFrame.contentKind with
  | some .agentOutput => textItem .assistantText text
  | some .agentReasoning => textItem .assistantText text
  | some .toolCall =>
      -- The ids of calls never reach the client, and all calls
      -- of a run append to the one message of the run.
      some (.toolCall
        { toolCallId := ""
          tool := some (.server { payload := text }) })
  | none => none

/- The items that the frames of a turn are in later turns. -/
def turnMemory
    (serde : SerdeJson F)
    (frames : List (OzResponseFrame F)) :
    List ConversationItem :=
  (contentRuns frames).filterMap (runItem serde)

/- The item that a call would be, had it a message itself. -/
def OzResponseFrame.callItem?
    (serde : SerdeJson F) :
    OzResponseFrame F → Option ConversationItem
  | .toolUse _ id name input =>
      some (.toolCall
        { toolCallId := id
          tool :=
            some (.server
              { payload :=
                  serde.toString (.object
                    [("id", .string id),
                      ("name", .string name),
                      ("input", input)]) }) })
  | _ => none

/- What a run says: a text, or each of its calls. -/
def runSaid
    (serde : SerdeJson F)
    (run : List (OzResponseFrame F)) :
    List ConversationItem :=
  match run.head?.bind OzResponseFrame.contentKind with
  | some .toolCall => run.filterMap (·.callItem? serde)
  | _ => (runItem serde run).toList

/- The items that the frames of a turn say, call by call. -/
def turnSaid
    (serde : SerdeJson F)
    (frames : List (OzResponseFrame F)) :
    List ConversationItem :=
  (contentRuns frames).flatMap (runSaid serde)

/- All calls of a turn stand alone and have no id. -/
def KeepsCalls
    (frames : List (OzResponseFrame F)) : Prop :=
  ∀ run ∈ contentRuns frames,
    run.head?.bind OzResponseFrame.contentKind =
        some .toolCall →
      ∃ blockIndex name input,
        run = [.toolUse blockIndex "" name input]

/- The items that tasks stand for. -/
def taskItems
    (tasks : List Wmaa.Task) : List ConversationItem :=
  (tasks.flatMap Wmaa.Task.messages).filterMap priorItem

/- A request that brings a client's messages as a task. -/
def nextRequest
    (client : Client)
    (taskId : String)
    (earlier later : List Wmaa.Task)
    (input : Option Wmaa.Input) : Wmaa.Request where
  taskContext :=
    some
      { tasks :=
          earlier ++
            { id := taskId
              messages := client.messages } :: later }
  input := input

end WarpByokProxy

------------------------------------------------------------
-- What Is Lost Of A Turn
------------------------------------------------------------

namespace WarpByokProxy

variable {F : Type}

/- Frames of tool calls are calls. -/
theorem exists_toolUse_of_contentKind
    {frame : OzResponseFrame F}
    (hKind : frame.contentKind = some .toolCall) :
    ∃ blockIndex id name input,
      frame = .toolUse blockIndex id name input := by
  cases frame with
  | toolUse blockIndex id name input =>
      exact ⟨blockIndex, id, name, input, rfl⟩
  | textDelta => simp [OzResponseFrame.contentKind] at hKind
  | thinkingDelta =>
      simp [OzResponseFrame.contentKind] at hKind
  | toolUseInputDelta =>
      simp [OzResponseFrame.contentKind] at hKind
  | blockStop => simp [OzResponseFrame.contentKind] at hKind
  | usageUpdate => simp [OzResponseFrame.contentKind] at hKind
  | done => simp [OzResponseFrame.contentKind] at hKind

/- Each call of a run of calls is said. -/
theorem length_runSaid_of_toolCall
    (serde : SerdeJson F)
    {frames run : List (OzResponseFrame F)}
    (hRun : run ∈ contentRuns frames)
    (hKind :
      run.head?.bind OzResponseFrame.contentKind =
        some .toolCall) :
    (runSaid serde run).length = run.length := by
  rw [runSaid, hKind, List.length_filterMap_eq_countP,
    List.countP_eq_length]
  intro frame hFrame
  rcases exists_toolUse_of_contentKind
      (contentKind_of_mem_run hRun hKind frame hFrame) with
    ⟨blockIndex, id, name, input, rfl⟩
  rfl

/- A run is remembered by no more items than it says. -/
theorem length_runItem_le
    (serde : SerdeJson F)
    {frames run : List (OzResponseFrame F)}
    (hRun : run ∈ contentRuns frames) :
    (runItem serde run).toList.length ≤
      (runSaid serde run).length := by
  rcases exists_kind_of_mem_contentRuns hRun with
    ⟨kind, hKind⟩
  have hNonempty := Runs.ne_nil_of_mem_of hRun
  cases kind with
  | agentOutput => rw [runSaid, hKind]
  | agentReasoning => rw [runSaid, hKind]
  | toolCall =>
      rw [length_runSaid_of_toolCall serde hRun hKind,
        runItem, hKind]
      exact List.length_pos_iff.mpr hNonempty

/- A run of calls is remembered if it is one without id. -/
theorem runItem_eq_runSaid_iff
    (serde : SerdeJson F)
    {frames run : List (OzResponseFrame F)}
    (hRun : run ∈ contentRuns frames) :
    (runItem serde run).toList = runSaid serde run ↔
      (run.head?.bind OzResponseFrame.contentKind =
          some .toolCall →
        ∃ blockIndex name input,
          run = [.toolUse blockIndex "" name input]) := by
  rcases exists_kind_of_mem_contentRuns hRun with
    ⟨kind, hKind⟩
  cases kind with
  | agentOutput => simp [runSaid, hKind]
  | agentReasoning => simp [runSaid, hKind]
  | toolCall =>
      have hLength :=
        length_runSaid_of_toolCall serde hRun hKind
      constructor
      · intro hEq _
        rw [← hEq, runItem, hKind] at hLength
        rcases List.length_eq_one_iff.mp hLength.symm with
          ⟨frame, rfl⟩
        rcases exists_toolUse_of_contentKind hKind with
          ⟨blockIndex, id, name, input, rfl⟩
        refine ⟨blockIndex, name, input, ?_⟩
        simp [runItem, runSaid, OzResponseFrame.contentKind,
          OzResponseFrame.callItem?] at hEq
        rw [← hEq.1]
      · intro hAlone
        rcases hAlone hKind with
          ⟨blockIndex, name, input, rfl⟩
        simp [runItem, runSaid, OzResponseFrame.contentKind,
          OzResponseFrame.callItem?,
          OzResponseFrame.sentText]

/-
  A turn is remembered as it was said just when its calls
  stand alone and have no id.
-/
theorem turnMemory_eq_turnSaid_iff
    (serde : SerdeJson F)
    (frames : List (OzResponseFrame F)) :
    turnMemory serde frames = turnSaid serde frames ↔
      KeepsCalls frames := by
  rw [turnMemory, turnSaid, List.filterMap_eq_flatMap_toList,
    Runs.flatMap_eq_flatMap_iff
      (fun run hRun => length_runItem_le serde hRun)]
  exact
    forall₂_congr (fun run hRun =>
      runItem_eq_runSaid_iff serde hRun)

end WarpByokProxy

------------------------------------------------------------
-- Items Of Messages
------------------------------------------------------------

namespace WarpByokProxy

variable {F : Type}

/- The item that the content of a message stands for. -/
def Wmaa.MessageContent.item
    (content : Wmaa.MessageContent) :
    Option ConversationItem :=
  priorItem { id := "", taskId := "", message := some content }

/- Prior messages are read by their content. -/
theorem priorItem_eq_bind
    (msg : Wmaa.Message) :
    priorItem msg =
      msg.message.bind Wmaa.MessageContent.item := by
  rw [priorItem]
  cases msg.message with
  | none => rfl
  | some content => rfl

/- The text of a frame's item is what the frame sends. -/
theorem text_contentItem_of_contentKind
    (serde : SerdeJson F)
    {frame : OzResponseFrame F}
    {kind : ActiveKind}
    (hKind : frame.contentKind = some kind) :
    (contentItem serde frame).map ContentItem.text =
      some (frame.sentText serde) := by
  cases frame with
  | textDelta => rfl
  | thinkingDelta => rfl
  | toolUse => rfl
  | toolUseInputDelta =>
      simp [OzResponseFrame.contentKind] at hKind
  | blockStop => simp [OzResponseFrame.contentKind] at hKind
  | usageUpdate => simp [OzResponseFrame.contentKind] at hKind
  | done => simp [OzResponseFrame.contentKind] at hKind

/- The message of a run is read as the item of the run. -/
theorem bind_item_runContent
    (serde : SerdeJson F)
    {frames run : List (OzResponseFrame F)}
    (hRun : run ∈ contentRuns frames) :
    (runContent (run.filterMap (contentItem serde))).bind
        Wmaa.MessageContent.item =
      runItem serde run := by
  rcases exists_kind_of_mem_contentRuns hRun with
    ⟨kind, hKind⟩
  have hText :
      runText (run.filterMap (contentItem serde)) =
        String.join (run.map (·.sentText serde)) := by
    have hTexts :
        (run.filterMap (contentItem serde)).map
            ContentItem.text =
          run.map (·.sentText serde) := by
      rw [List.map_filterMap, ← List.filterMap_eq_map]
      apply List.filterMap_congr
      intro frame hFrame
      exact text_contentItem_of_contentKind serde
        (contentKind_of_mem_run hRun hKind frame hFrame)
    rw [runText, hTexts]
  rw [runContent_of_mem_contentRuns serde hRun hKind, hText,
    runItem, hKind]
  cases kind with
  | agentOutput => rfl
  | agentReasoning => rfl
  | toolCall => rfl

/- What a client holds after a turn is read as its memory. -/
theorem filterMap_priorItem_clientAfter
    (serde : SerdeJson F)
    (uuids : Nat → String)
    (frames : List (OzResponseFrame F)) :
    (UiAdapter.clientAfter serde uuids
        frames).messages.filterMap priorItem =
      turnMemory serde frames := by
  have hRead :=
    UiAdapter.readAll_clientAfter Wmaa.MessageContent.item
      serde uuids frames
  rw [Client.readAll] at hRead
  rw [funext priorItem_eq_bind, hRead,
    transcript_contentItems, List.filterMap_filterMap,
    turnMemory]
  apply List.filterMap_congr
  intro run hRun
  exact bind_item_runContent serde hRun

end WarpByokProxy

------------------------------------------------------------
-- The Next Call
------------------------------------------------------------

namespace WarpByokProxy

variable {F Chunk : Type}

/- The conversation of a request that brings a turn along. -/
theorem conversation_nextRequest
    {client : Client}
    {memory : List ConversationItem}
    (hMemory :
      client.messages.filterMap priorItem = memory)
    (taskId : String)
    (earlier later : List Wmaa.Task)
    (input : Option Wmaa.Input) :
    conversation
        (nextRequest client taskId earlier later input) =
      taskItems earlier ++ memory ++ taskItems later ++
        currentItems
          (nextRequest client taskId earlier later input) := by
  have hPrior :
      (priorMessages
          (nextRequest client taskId earlier later
            input)).filterMap priorItem =
        taskItems earlier ++ memory ++ taskItems later := by
    rw [priorMessages, nextRequest]
    simp only [List.flatMap_append, List.flatMap_cons,
      List.filterMap_append, hMemory, taskItems,
      List.append_assoc]
  rw [conversation, hPrior]

/-
  What the client holds of a turn reaches Bedrock with every
  request that brings it along: the call carries the turn's
  memory in its place between the items of the other tasks
  and of the input. That is what the turn said just when no
  calls are lost.
-/
def ServerContext.RemembersTurn
    (ctx : ServerContext F Chunk)
    (uuids : Nat → String)
    (opts : UiAdapterOpts)
    (events : List BedrockEvent) : Prop :=
  let frames :=
    (StreamAccumulator.machine ctx.serde).output .new events
  (turnMemory ctx.serde frames = turnSaid ctx.serde frames ↔
      KeepsCalls frames) ∧
    ∃ client,
      Client.empty.replay
          (turnEvents ctx.serde uuids opts events) =
        some client ∧
      ∀ bytes warpReq taskId earlier later input,
        ctx.decodeRequest bytes = .ok warpReq →
          warpReq.request =
              nextRequest client taskId earlier later input →
            let items :=
              taskItems earlier ++
                  turnMemory ctx.serde frames ++
                taskItems later ++
                  currentItems warpReq.request
            ∃ call,
              prepareCall ctx bytes = .ok (warpReq, call) ∧
                (items ≠ [] →
                  call.messages.map eraseCachePoints =
                    items.map (itemMessage ctx.dynMsgToJson))

/- What a client holds of a turn is told in its place. -/
theorem nextTurn_remembersTurn
    {ctx : ServerContext F Chunk}
    (hBuilders : ctx.builders.RequireFields)
    {uuids : Nat → String}
    (hUuids : Function.Injective uuids)
    (opts : UiAdapterOpts)
    (events : List BedrockEvent) :
    ctx.RemembersTurn uuids opts events := by
  let frames :=
    (StreamAccumulator.machine ctx.serde).output .new events
  refine
    ⟨turnMemory_eq_turnSaid_iff ctx.serde frames,
      UiAdapter.clientAfter ctx.serde uuids frames,
      UiAdapter.replay_output hUuids ctx.serde opts frames,
      ?_⟩
  intro bytes warpReq taskId earlier later input hDecode
    hNext items
  refine ⟨ctx.callOf warpReq, ?_, ?_⟩
  · rw [prepareCall_of_requireFields hBuilders]
    simp only [hDecode]
  · intro hItems
    have hConversation :
        conversation warpReq.request = items := by
      simp only [items, hNext]
      exact
        conversation_nextRequest
          (filterMap_priorItem_clientAfter ctx.serde uuids
            frames)
          taskId earlier later input
    rw [ServerContext.callOf,
      map_eraseCachePoints_dispatchedCall, carriedItems,
      hConversation, if_neg]
    rw [List.isEmpty_iff]
    exact hItems

/- Bedrock speaks and makes two calls, one after the other. -/
def twoCallsTurn : List BedrockEvent :=
  [.contentBlockDelta 0
      (SerdeJson.integral.toString (.ofStrings
        [("type", "text_delta"), ("text", "hello")])),
    .contentBlockStart 1
      (SerdeJson.integral.toString (.ofStrings
        [("type", "tool_use"), ("id", "tu_1"),
          ("name", "ls")])),
    .contentBlockStop 1,
    .contentBlockStart 2
      (SerdeJson.integral.toString (.ofStrings
        [("type", "tool_use"), ("id", "tu_2"),
          ("name", "pwd")])),
    .contentBlockStop 2,
    .messageStop "tool_use"]

/- A server that is asked to go on after that turn. -/
def resumedServer :
    ServerContext Empty Wmaa.ResponseEvent :=
  { greetedServer with
    decodeRequest := fun _ =>
      .ok
        { metadata := none
          request :=
            nextRequest
              (UiAdapter.clientAfter .integral numberedUuids
                ((StreamAccumulator.machine
                  .integral).output .new twoCallsTurn))
              "task" [] []
              (some
                { type :=
                    some (.userQuery
                      { query := "go on" }) }) } }

theorem nextTurn_remembersTurn_two_calls :
    resumedServer.RemembersTurn numberedUuids
      ⟨none, none, none⟩ twoCallsTurn :=
  nextTurn_remembersTurn Sdk.Builders.strict_requireFields
    numberedUuids_injective ⟨none, none, none⟩ _

end WarpByokProxy
