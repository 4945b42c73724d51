import WarpByokProxy.Library.Runs
import WarpByokProxy.UiAdapter

/-
  What the frames of a turn make of the adapter.

  Three kinds of frames carry content. The adapter's state
  depends only on the kinds of those frames, on the last
  usage report, and on whether any frame has opened the
  response: its open message is numbered by the maximal runs
  of equal kinds.

  Key definitions include:
    * `ContentItem`
    * `OzResponseFrame.contentKind`
    * `contentItem`
    * `contentKinds`
    * `UiAdapter.stateAfter`

  Key theorems include:
    * `UiAdapter.translateFrame_of_contentItem`
    * `UiAdapter.final_eq_stateAfter`
    * `UiAdapter.output_append_singleton`
-/

------------------------------------------------------------
-- Content Frames
------------------------------------------------------------

namespace WarpByokProxy

variable {F : Type}

/- What a content frame adds to its message. -/
structure ContentItem where
  kind : ActiveKind
  callId : String
  text : String
deriving DecidableEq

/- The message content of a kind that holds the given text. -/
def ActiveKind.contentWith
    (kind : ActiveKind)
    (callId text : String) : Wmaa.MessageContent :=
  match kind with
  | .agentOutput => .agentOutput { text := text }
  | .agentReasoning =>
      .agentReasoning
        { reasoning := text, finishedDuration := none }
  | .toolCall =>
      .toolCall
        { toolCallId := callId
          tool := some (.server { payload := text }) }

/- Messages are registered without any text. -/
theorem ActiveKind.emptyContent_eq
    (kind : ActiveKind) :
    kind.emptyContent = kind.contentWith "" "" := by
  cases kind with
  | agentOutput => rfl
  | agentReasoning => rfl
  | toolCall => rfl

/- The mask path of the events that append to a kind. -/
def ActiveKind.maskPath : ActiveKind → String
  | .agentOutput => "agent_output.text"
  | .agentReasoning => "agent_reasoning.reasoning"
  | .toolCall => "tool_call.server.payload"

/- The patch that carries an item to the client. -/
def ContentItem.patch
    (item : ContentItem) : Wmaa.MessageContent :=
  item.kind.contentWith item.callId item.text

/- The kind of content that a frame carries. -/
def OzResponseFrame.contentKind :
    OzResponseFrame F → Option ActiveKind
  | .textDelta _ _ => some .agentOutput
  | .thinkingDelta _ _ _ => some .agentReasoning
  | .toolUse _ _ _ _ => some .toolCall
  | _ => none

/- The content that a frame carries. -/
def contentItem
    (serde : SerdeJson F) :
    OzResponseFrame F → Option ContentItem
  | .textDelta _ text => some ⟨.agentOutput, "", text⟩
  | .thinkingDelta _ text _ =>
      some ⟨.agentReasoning, "", text⟩
  | .toolUse _ id name input =>
      some ⟨.toolCall, id,
        UiAdapter.toolUsePayload serde id name input⟩
  | _ => none

theorem map_kind_contentItem
    (serde : SerdeJson F)
    (frame : OzResponseFrame F) :
    (contentItem serde frame).map ContentItem.kind =
      frame.contentKind := by
  cases frame <;> rfl

theorem contentKind_of_contentItem
    {serde : SerdeJson F}
    {frame : OzResponseFrame F}
    {item : ContentItem}
    (hItem : contentItem serde frame = some item) :
    frame.contentKind = some item.kind := by
  rw [← map_kind_contentItem serde frame, hItem]
  rfl

/- Content frames open the response. -/
theorem needsPrelude_of_contentKind
    {frame : OzResponseFrame F}
    {kind : ActiveKind}
    (hKind : frame.contentKind = some kind) :
    frame.needsPrelude = true := by
  cases frame with
  | textDelta => rfl
  | thinkingDelta => rfl
  | toolUse => rfl
  | toolUseInputDelta => simp [OzResponseFrame.contentKind] at hKind
  | blockStop => simp [OzResponseFrame.contentKind] at hKind
  | usageUpdate => simp [OzResponseFrame.contentKind] at hKind
  | done => simp [OzResponseFrame.contentKind] at hKind

/- The kinds of the content frames, in order. -/
def contentKinds
    (frames : List (OzResponseFrame F)) :
    List ActiveKind :=
  frames.filterMap OzResponseFrame.contentKind

/- The content of the frames, in order. -/
def contentItems
    (serde : SerdeJson F)
    (frames : List (OzResponseFrame F)) :
    List ContentItem :=
  frames.filterMap (contentItem serde)

theorem map_kind_contentItems
    (serde : SerdeJson F)
    (frames : List (OzResponseFrame F)) :
    (contentItems serde frames).map ContentItem.kind =
      contentKinds frames := by
  rw [contentItems, contentKinds, List.map_filterMap]
  congr 1
  funext frame
  exact map_kind_contentItem serde frame

/- The usage that a frame reports, as kept by the adapter. -/
def OzResponseFrame.reportedUsage :
    OzResponseFrame F → Option Wmaa.TokenUsage
  | .usageUpdate
      inputTokens outputTokens cacheRead cacheWrite =>
      some
        { totalInput := toU32 inputTokens
          output := toU32 outputTokens
          inputCacheRead := toU32 cacheRead
          inputCacheWrite := toU32 cacheWrite }
  | _ => none

/- The last usage report of the frames. -/
def lastUsage
    (frames : List (OzResponseFrame F)) :
    Option Wmaa.TokenUsage :=
  (frames.filterMap OzResponseFrame.reportedUsage).getLast?

end WarpByokProxy

------------------------------------------------------------
-- Parts Of A Translation
------------------------------------------------------------

namespace WarpByokProxy

namespace UiAdapter

variable {F : Type}

/- The prelude changes nothing but the flag. -/
theorem sendPrelude_fst
    (self : UiAdapter)
    (frame : OzResponseFrame F) :
    (self.sendPrelude frame).1 =
      { self with
        sentInit := self.sentInit || frame.needsPrelude } := by
  rcases self with
    ⟨opts, sentInit, taskId, messageId, kind, usage, minted⟩
  cases sentInit with
  | true => simp [sendPrelude]
  | false =>
      cases hNeeds : frame.needsPrelude with
      | true => simp [sendPrelude, hNeeds]
      | false => simp [sendPrelude, hNeeds]

/-
  A content frame makes sure of its message and appends its
  item to it, whatever the kind.
-/
theorem translateFrame_of_contentItem
    {serde : SerdeJson F}
    {frame : OzResponseFrame F}
    {item : ContentItem}
    (hItem : contentItem serde frame = some item)
    (uuids : Nat → String)
    (self : UiAdapter) :
    self.translateFrame serde uuids frame =
      let ensured := self.ensureKindMessage uuids item.kind
      (ensured.1,
        ensured.2 ++
          [ensured.1.appendMessageEvent item.patch
            item.kind.maskPath]) := by
  cases frame with
  | textDelta blockIndex text =>
      obtain rfl := Option.some.inj hItem
      rfl
  | thinkingDelta blockIndex text signature =>
      obtain rfl := Option.some.inj hItem
      rfl
  | toolUse blockIndex id name input =>
      obtain rfl := Option.some.inj hItem
      rfl
  | toolUseInputDelta => simp [contentItem] at hItem
  | blockStop => simp [contentItem] at hItem
  | usageUpdate => simp [contentItem] at hItem
  | done => simp [contentItem] at hItem

/-
  A frame without content leaves the open message alone and
  emits at most the end of the response.
-/
theorem translateFrame_of_contentKind_none
    {frame : OzResponseFrame F}
    (hKind : frame.contentKind = none)
    (serde : SerdeJson F)
    (uuids : Nat → String)
    (self : UiAdapter) :
    (self.translateFrame serde uuids frame).1 =
        { self with
          pendingUsage :=
            frame.reportedUsage <|> self.pendingUsage } ∧
      ((self.translateFrame serde uuids frame).2 = [] ∨
        frame.needsPrelude = true ∧
          ∃ reason,
            (self.translateFrame serde uuids frame).2 =
              [self.streamFinishedEvent reason]) := by
  cases frame with
  | textDelta => simp [OzResponseFrame.contentKind] at hKind
  | thinkingDelta =>
      simp [OzResponseFrame.contentKind] at hKind
  | toolUse => simp [OzResponseFrame.contentKind] at hKind
  | toolUseInputDelta => exact ⟨rfl, Or.inl rfl⟩
  | blockStop => exact ⟨rfl, Or.inl rfl⟩
  | usageUpdate => exact ⟨rfl, Or.inl rfl⟩
  | done reason => exact ⟨rfl, Or.inr ⟨rfl, reason, rfl⟩⟩

end UiAdapter

end WarpByokProxy

------------------------------------------------------------
-- The State After A Turn
------------------------------------------------------------

namespace WarpByokProxy

namespace UiAdapter

variable {F : Type}

/- The number of messages that the frames register. -/
def messageCount
    (frames : List (OzResponseFrame F)) : Nat :=
  (Runs.of id (contentKinds frames)).length

/- The adapter's state after a list of frames. -/
def stateAfter
    (uuids : Nat → String)
    (opts : UiAdapterOpts)
    (frames : List (OzResponseFrame F)) : UiAdapter where
  opts := opts
  sentInit := frames.any OzResponseFrame.needsPrelude
  taskId := "task-" ++ uuids 0
  messageId := messageIdOf (uuids (messageCount frames + 1))
  activeKind := (contentKinds frames).getLast?
  pendingUsage := lastUsage frames
  minted := messageCount frames + 2

theorem contentKinds_append_singleton
    (frames : List (OzResponseFrame F))
    (frame : OzResponseFrame F) :
    contentKinds (frames ++ [frame]) =
      contentKinds frames ++ frame.contentKind.toList := by
  rw [contentKinds, List.filterMap_append]
  cases frame <;> rfl

theorem lastUsage_append_singleton
    (frames : List (OzResponseFrame F))
    (frame : OzResponseFrame F) :
    lastUsage (frames ++ [frame]) =
      (frame.reportedUsage <|> lastUsage frames) := by
  rw [lastUsage, List.filterMap_append]
  cases hUsage : frame.reportedUsage with
  | none => simp [hUsage, lastUsage]
  | some usage => simp [hUsage]

/- A content frame registers a message unless its kind is open. -/
theorem messageCount_append_singleton
    {frame : OzResponseFrame F}
    {kind : ActiveKind}
    (hKind : frame.contentKind = some kind)
    (frames : List (OzResponseFrame F)) :
    messageCount (frames ++ [frame]) =
      if (contentKinds frames).getLast? = some kind then
        messageCount frames
      else
        messageCount frames + 1 := by
  unfold messageCount
  rw [contentKinds_append_singleton, hKind,
    Option.toList_some, Runs.length_append_singleton]
  simp

/- One frame moves from one such state to the next. -/
theorem translate_stateAfter
    (serde : SerdeJson F)
    (uuids : Nat → String)
    (opts : UiAdapterOpts)
    (frames : List (OzResponseFrame F))
    (frame : OzResponseFrame F) :
    ((stateAfter uuids opts frames).translate
        serde uuids frame).1 =
      stateAfter uuids opts (frames ++ [frame]) := by
  simp only [translate, sendPrelude_fst]
  cases hItem : contentItem serde frame with
  | none =>
      have hKind : frame.contentKind = none := by
        rw [← map_kind_contentItem serde frame, hItem]
        rfl
      rw [(translateFrame_of_contentKind_none
        hKind serde uuids _).1]
      simp [stateAfter, messageCount, hKind,
        contentKinds_append_singleton,
        lastUsage_append_singleton]
  | some item =>
      have hKind := contentKind_of_contentItem hItem
      have hUsage : frame.reportedUsage = none := by
        cases frame with
        | usageUpdate => simp [contentItem] at hItem
        | _ => rfl
      rw [translateFrame_of_contentItem hItem]
      by_cases hOpen :
          (contentKinds frames).getLast? = some item.kind
      · simp [ensureKindMessage, stateAfter, hOpen, hUsage,
          messageCount_append_singleton hKind, hKind,
          needsPrelude_of_contentKind hKind,
          contentKinds_append_singleton,
          lastUsage_append_singleton]
      · simp [ensureKindMessage, stateAfter, hOpen, hUsage,
          messageCount_append_singleton hKind, hKind,
          needsPrelude_of_contentKind hKind,
          contentKinds_append_singleton,
          lastUsage_append_singleton]

/- The state reached on a list of frames, in closed form. -/
theorem final_eq_stateAfter
    (serde : SerdeJson F)
    (uuids : Nat → String)
    (opts : UiAdapterOpts)
    (frames : List (OzResponseFrame F)) :
    (machine serde uuids).final (new uuids opts) frames =
      stateAfter uuids opts frames := by
  refine (machine serde uuids).run_invariant
    (I := fun frames state _ =>
      state = stateAfter uuids opts frames) rfl ?_ frames
  rintro past state - frame rfl
  exact translate_stateAfter serde uuids opts past frame

/- The events of one more frame. -/
theorem output_append_singleton
    (serde : SerdeJson F)
    (uuids : Nat → String)
    (opts : UiAdapterOpts)
    (frames : List (OzResponseFrame F))
    (frame : OzResponseFrame F) :
    (machine serde uuids).output (new uuids opts)
        (frames ++ [frame]) =
      (machine serde uuids).output (new uuids opts) frames ++
        ((stateAfter uuids opts frames).translate
          serde uuids frame).2 := by
  rw [Transducer.output_append, final_eq_stateAfter,
    Transducer.output_singleton, machine_step]

end UiAdapter

end WarpByokProxy
