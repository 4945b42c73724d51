import WarpByokProxy.Adapter.Protocol

/-
  What reaches a client that applies only masked fields.

  The client merges the masked fields of a patch into the
  message registered under the patch's id. The masks of text
  and reasoning cover their patches. The mask of a tool call
  names its payload but not its id, so a patch arrives whole
  only where the id is the default.

  Key definitions include:
    * `Wmaa.registeredAs`
    * `Wmaa.MaskCoversPatch`
    * `UiAdapter.MasksDeliver`

  Key theorems include:
    * `fields_contentWith`
    * `covers_patch_iff`
    * `UiAdapter.masksDeliver_iff`
-/

------------------------------------------------------------
-- Fields Of Adapter Messages
------------------------------------------------------------

namespace WarpByokProxy

open MaskedFields

/- The path of the id of a tool call. -/
def callIdPath : List String :=
  ["tool_call", "tool_call_id"]

theorem fields_agentOutput
    (output : Wmaa.AgentOutput)
    (path : List String) :
    (Wmaa.MessageContent.agentOutput output).fields path =
      if path = ["agent_output", "text"] then
        some (.text output.text)
      else
        none := by
  unfold Wmaa.MessageContent.fields
  split <;> simp_all

theorem fields_agentReasoning
    {reasoning : Wmaa.AgentReasoning}
    (hOpen : reasoning.finishedDuration = none)
    (path : List String) :
    (Wmaa.MessageContent.agentReasoning reasoning).fields
        path =
      if path = ["agent_reasoning", "reasoning"] then
        some (.text reasoning.reasoning)
      else
        none := by
  unfold Wmaa.MessageContent.fields
  split <;> simp_all

theorem fields_server
    (inner : Wmaa.Server)
    (path : List String) :
    (Wmaa.Tool.server inner).fields path =
      if path = ["server", "payload"] then
        some (.text inner.payload)
      else
        none := by
  unfold Wmaa.Tool.fields
  split <;> simp_all

theorem fields_toolCall
    {call : Wmaa.ToolCall}
    {inner : Wmaa.Server}
    (hTool : call.tool = some (.server inner))
    (path : List String) :
    (Wmaa.MessageContent.toolCall call).fields path =
      if path = callIdPath then
        some (.text call.toolCallId)
      else if path = ["tool_call", "server", "payload"] then
        some (.text inner.payload)
      else
        none := by
  unfold Wmaa.MessageContent.fields
  split <;> simp_all [callIdPath, fields_server]

/- The fields of a content that the adapter builds. -/
theorem fields_contentWith
    (kind : ActiveKind)
    (callId text : String)
    (path : List String) :
    (kind.contentWith callId text).fields path =
      if path = segments kind.maskPath then
        some (.text text)
      else if kind = .toolCall ∧ path = callIdPath then
        some (.text callId)
      else
        none := by
  cases kind with
  | agentOutput =>
      have hPath :
          segments ActiveKind.agentOutput.maskPath =
            ["agent_output", "text"] := by
        decide
      simp [ActiveKind.contentWith, fields_agentOutput, hPath]
  | agentReasoning =>
      have hPath :
          segments ActiveKind.agentReasoning.maskPath =
            ["agent_reasoning", "reasoning"] := by
        decide
      simp [ActiveKind.contentWith, hPath,
        fields_agentReasoning]
  | toolCall =>
      have hPath :
          segments ActiveKind.toolCall.maskPath =
            ["tool_call", "server", "payload"] := by
        decide
      simp only [ActiveKind.contentWith, hPath, true_and]
      rw [fields_toolCall rfl]
      by_cases hCallId : path = callIdPath
      · have hOther :
            path ≠ ["tool_call", "server", "payload"] := by
          rw [hCallId]
          decide
        rw [if_pos hCallId, if_neg hOther, if_pos hCallId]
      · rw [if_neg hCallId, if_neg hCallId]

end WarpByokProxy

------------------------------------------------------------
-- Masked Delivery
------------------------------------------------------------

namespace WarpByokProxy

open MaskedFields

variable {F : Type}

namespace Wmaa

/- The message that was registered last under an id. -/
def registeredAs
    (before : List Action)
    (id : String) : Option Message :=
  (addedMessages before).reverse.find?
    (fun message => message.id = id)

/- The fields that a mask names. -/
def FieldMask.fields
    (mask : FieldMask) : List (List String) :=
  mask.paths.map segments

/-
  An append's mask covers every field in which its patch
  differs from the message registered under the same id.
-/
def MaskCoversPatch
    (before : List Action)
    (action : Action) : Prop :=
  ∀ taskId message mask,
    action = .appendToMessageContent taskId message mask →
      ∃ patch fieldMask base,
        message = some patch ∧
          mask = some fieldMask ∧
          registeredAs before patch.id = some base ∧
          Covers fieldMask.fields base.fields patch.fields

/- The message registered last is found under its id. -/
theorem registeredAs_of_getLast?
    {before : List Action}
    {base : Message}
    (hLast : (addedMessages before).getLast? = some base) :
    registeredAs before base.id = some base := by
  rw [registeredAs]
  rcases List.getLast?_eq_some_iff.mp hLast with
    ⟨front, hFront⟩
  simp [hFront]

end Wmaa

/- The data of a content frame, by field. -/
def OzResponseFrame.contentFields
    (serde : SerdeJson F) :
    OzResponseFrame F →
      List (List String × Wmaa.FieldValue)
  | .textDelta _ text =>
      [(["agent_output", "text"], .text text)]
  | .thinkingDelta _ text _ =>
      [(["agent_reasoning", "reasoning"], .text text)]
  | .toolUse _ id name input =>
      [(["tool_call", "server", "payload"],
          .text (serde.toString (.object
            [("id", .string id),
              ("name", .string name),
              ("input", input)]))),
        (["tool_call", "tool_call_id"], .text id)]
  | _ => []

namespace UiAdapter

open Wmaa

/-
  Every mask covers its patch, and a client that merges the
  masked fields of a frame's patch into the registered
  message holds the data of the frame.
-/
structure MasksDeliver
    (serde : SerdeJson F)
    (uuids : Nat → String)
    (opts : UiAdapterOpts)
    (frames : List (OzResponseFrame F)) : Prop where
  covered :
    Trace.Always MaskCoversPatch
      (actionTrace
        ((machine serde uuids).output (new uuids opts)
          frames))
  delivered :
    ∀ past frame rest,
      frames = past ++ frame :: rest →
      frame.contentKind.isSome →
        ∃ earlier taskId patch mask base,
          actionTrace
              ((machine serde uuids).output
                (new uuids opts) (past ++ [frame])) =
            earlier ++
              [.appendToMessageContent taskId (some patch)
                (some mask)] ∧
          registeredAs earlier patch.id = some base ∧
          ∀ entry ∈ frame.contentFields serde,
            merge mask.fields base.fields patch.fields
                entry.1 =
              some entry.2

end UiAdapter

end WarpByokProxy

------------------------------------------------------------
-- Coverage Of One Append
------------------------------------------------------------

namespace WarpByokProxy

namespace UiAdapter

open Wmaa MaskedFields

variable {F : Type}

/- Patch and registered message agree outside the content. -/
theorem fields_messageWith
    (self : UiAdapter)
    (content : MessageContent)
    (path : List String) :
    (self.messageWith content).fields path =
      if path = ["id"] then
        some (.text self.messageId)
      else if path = ["task_id"] then
        some (.text self.taskId)
      else
        content.fields path := by
  unfold Message.fields
  split <;> simp_all [messageWith]

theorem fields_maskPath
    (kind : ActiveKind) :
    ({ paths := [kind.maskPath] } : FieldMask).fields =
      [segments kind.maskPath] := rfl

/-
  A mask covers its patch unless the patch is a tool call
  with an id.
-/
theorem covers_patch_iff
    (self : UiAdapter)
    (item : ContentItem) :
    Covers [segments item.kind.maskPath]
        (self.messageWith item.kind.emptyContent).fields
        (self.messageWith item.patch).fields ↔
      (item.kind = .toolCall → item.callId = "") := by
  constructor
  · intro hCovers hKind
    by_contra hCallId
    have hUnder := hCovers callIdPath (by
      rw [fields_messageWith, fields_messageWith,
        if_neg (by decide), if_neg (by decide),
        if_neg (by decide), if_neg (by decide),
        ActiveKind.emptyContent_eq, ContentItem.patch,
        fields_contentWith, fields_contentWith, hKind,
        if_neg (by decide), if_pos ⟨rfl, rfl⟩,
        if_neg (by decide), if_pos ⟨rfl, rfl⟩]
      simpa using Ne.symm hCallId)
    rw [hKind] at hUnder
    exact absurd hUnder (by decide)
  · intro hCallId path hDiffer
    rw [fields_messageWith, fields_messageWith,
      ActiveKind.emptyContent_eq, ContentItem.patch,
      fields_contentWith, fields_contentWith] at hDiffer
    by_cases hPath : path = segments item.kind.maskPath
    · rw [hPath]
      exact ⟨_, List.mem_cons_self, List.prefix_rfl⟩
    · exfalso
      apply hDiffer
      rw [if_neg hPath, if_neg hPath]
      by_cases hId : item.kind = .toolCall ∧ path = callIdPath
      · rw [if_pos hId, if_pos hId, hCallId hId.1]
      · rw [if_neg hId, if_neg hId]

end UiAdapter

end WarpByokProxy

------------------------------------------------------------
-- Coverage Of A Turn
------------------------------------------------------------

namespace WarpByokProxy

namespace UiAdapter

open Wmaa MaskedFields

variable {F : Type}

/- Actions other than appends have no mask to check. -/
theorem always_maskCoversPatch_of_isAppend
    (before : List Action)
    {actions : List Action}
    (hNone : ∀ action ∈ actions, action.isAppend = false) :
    Trace.Always
      (fun middle action =>
        MaskCoversPatch (before ++ middle) action)
      actions := by
  intro middle action after hSplit taskId message mask hEq
  have hFalse := hNone action (by simp [hSplit])
  rw [hEq] at hFalse
  simp [Action.isAppend] at hFalse

/- The item of a frame, if any, is no tool call with an id. -/
def LacksCallId
    (serde : SerdeJson F)
    (frame : OzResponseFrame F) : Prop :=
  ∀ item ∈ contentItem serde frame,
    item.kind = .toolCall → item.callId = ""

/- Step rule: one frame adds the coverage of its own mask. -/
theorem always_maskCoversPatch_translate
    {uuids : Nat → String}
    {self : UiAdapter}
    {trace : List ResponseEvent}
    (hConforms : Conforms uuids self trace)
    (serde : SerdeJson F)
    (frame : OzResponseFrame F) :
    Trace.Always MaskCoversPatch
        (actionTrace
          (trace ++ (self.translate serde uuids frame).2)) ↔
      Trace.Always MaskCoversPatch (actionTrace trace) ∧
        LacksCallId serde frame := by
  unfold LacksCallId
  rw [actionTrace_append, Trace.always_append]
  cases hItem : contentItem serde frame with
  | none =>
      have hNew :=
        always_maskCoversPatch_of_isAppend
          (actionTrace trace)
          (isAppend_of_mem_translate hItem uuids self)
      simp [hNew]
  | some item =>
      rcases exists_actions_translate hConforms hItem with
        ⟨opening, next, hActions, hOpening, hLast⟩
      have hNew :=
        always_maskCoversPatch_of_isAppend
          (actionTrace trace) hOpening
      have hRegistered := registeredAs_of_getLast? hLast
      have hCovers := covers_patch_iff next item
      rw [hActions, Trace.always_append,
        Trace.always_singleton, List.append_nil]
      constructor
      · rintro ⟨hOld, -, hMask⟩
        refine ⟨hOld, ?_⟩
        intro other hOther
        rcases hMask _ _ _ rfl with
          ⟨patch, fieldMask, base, hPatch, hFieldMask, hBase,
            hCover⟩
        have hItemEq : item = other := Option.some.inj hOther
        subst hItemEq
        have hPatchEq := Option.some.inj hPatch
        have hMaskEq := Option.some.inj hFieldMask
        subst hPatchEq hMaskEq
        have hBaseEq :=
          Option.some.inj (hRegistered.symm.trans hBase)
        subst hBaseEq
        exact hCovers.mp hCover
      · rintro ⟨hOld, hCallId⟩
        refine ⟨hOld, hNew, ?_⟩
        intro taskId message mask hEq
        rcases Action.appendToMessageContent.inj hEq with
          ⟨-, rfl, rfl⟩
        exact ⟨_, _, _, rfl, rfl, hRegistered,
          hCovers.mpr (hCallId item rfl)⟩

/- Run rule: the coverage of a turn, frame by frame. -/
theorem always_maskCoversPatch_output
    (serde : SerdeJson F)
    (uuids : Nat → String)
    (opts : UiAdapterOpts)
    (frames : List (OzResponseFrame F)) :
    Trace.Always MaskCoversPatch
        (actionTrace
          ((machine serde uuids).output (new uuids opts)
            frames)) ↔
      ∀ frame ∈ frames, LacksCallId serde frame := by
  induction frames using List.reverseRecOn with
  | nil => simp [Trace.always_nil]
  | append_singleton frames frame ih =>
      rw [output_append_singleton,
        always_maskCoversPatch_translate
          (conforms_output serde uuids opts frames),
        ih]
      simp [or_imp, forall_and]

/- The patch of a frame sets the fields of its content. -/
theorem fields_patch_of_mem_contentFields
    {serde : SerdeJson F}
    {frame : OzResponseFrame F}
    {item : ContentItem}
    (hItem : contentItem serde frame = some item)
    (self : UiAdapter) :
    ∀ entry ∈ frame.contentFields serde,
      (self.messageWith item.patch).fields entry.1 =
        some entry.2 := by
  intro entry hEntry
  cases frame with
  | textDelta blockIndex text =>
      rw [← Option.some.inj hItem,
        List.mem_singleton.mp hEntry]
      rfl
  | thinkingDelta blockIndex text signature =>
      rw [← Option.some.inj hItem,
        List.mem_singleton.mp hEntry]
      rfl
  | toolUse blockIndex id name input =>
      rw [← Option.some.inj hItem]
      rcases List.mem_cons.mp hEntry with hPayload | hRest
      · rw [hPayload]
        rfl
      · rw [List.mem_singleton.mp hRest]
        rfl
  | toolUseInputDelta => simp [contentItem] at hItem
  | blockStop => simp [contentItem] at hItem
  | usageUpdate => simp [contentItem] at hItem
  | done => simp [contentItem] at hItem

/- A covered frame is delivered whole. -/
theorem exists_delivery
    {serde : SerdeJson F}
    {frame : OzResponseFrame F}
    (hContent : frame.contentKind.isSome)
    (hLacks : LacksCallId serde frame)
    (uuids : Nat → String)
    (opts : UiAdapterOpts)
    (past : List (OzResponseFrame F)) :
    ∃ earlier taskId patch mask base,
      actionTrace
          ((machine serde uuids).output (new uuids opts)
            (past ++ [frame])) =
        earlier ++
          [.appendToMessageContent taskId (some patch)
            (some mask)] ∧
      registeredAs earlier patch.id = some base ∧
      ∀ entry ∈ frame.contentFields serde,
        merge mask.fields base.fields patch.fields entry.1 =
          some entry.2 := by
  have hItemKind := map_kind_contentItem serde frame
  cases hItem : contentItem serde frame with
  | none =>
      rw [hItem] at hItemKind
      rw [← hItemKind] at hContent
      simp at hContent
  | some item =>
      rcases exists_actions_translate
          (conforms_output serde uuids opts past) hItem with
        ⟨opening, next, hActions, -, hLast⟩
      refine
        ⟨actionTrace
            ((machine serde uuids).output (new uuids opts)
              past) ++ opening,
          next.taskId, next.messageWith item.patch,
          { paths := [item.kind.maskPath] },
          next.messageWith item.kind.emptyContent,
          ?_, registeredAs_of_getLast? hLast, ?_⟩
      · rw [output_append_singleton, actionTrace_append,
          hActions, List.append_assoc]
      · have hCovers :=
          (covers_patch_iff next item).mpr (hLacks item hItem)
        rw [fields_maskPath,
          (merge_eq_patch_iff _ _ _).mpr hCovers]
        exact fields_patch_of_mem_contentFields hItem next

/- A turn has an uncovered patch when a call has an id. -/
theorem forall_lacksCallId_iff
    (serde : SerdeJson F)
    (frames : List (OzResponseFrame F)) :
    (∀ frame ∈ frames, LacksCallId serde frame) ↔
      ∀ blockIndex id name input,
        .toolUse blockIndex id name input ∈ frames →
          id = "" := by
  constructor
  · intro hAll blockIndex id name input hMem
    exact hAll _ hMem _ rfl rfl
  · intro hAll frame hMem item hItem hKind
    cases frame with
    | toolUse blockIndex id name input =>
        have hEq := Option.some.inj hItem
        rw [← hEq]
        exact hAll blockIndex id name input hMem
    | textDelta =>
        rw [← Option.some.inj hItem] at hKind
        simp at hKind
    | thinkingDelta =>
        rw [← Option.some.inj hItem] at hKind
        simp at hKind
    | toolUseInputDelta => simp [contentItem] at hItem
    | blockStop => simp [contentItem] at hItem
    | usageUpdate => simp [contentItem] at hItem
    | done => simp [contentItem] at hItem

/-
  Masks cover their patches, and frames are delivered whole,
  exactly when every tool call of the turn has the empty id.
-/
theorem masksDeliver_iff
    (serde : SerdeJson F)
    (uuids : Nat → String)
    (opts : UiAdapterOpts)
    (frames : List (OzResponseFrame F)) :
    MasksDeliver serde uuids opts frames ↔
      ∀ blockIndex id name input,
        .toolUse blockIndex id name input ∈ frames →
          id = "" := by
  rw [← forall_lacksCallId_iff serde frames,
    ← always_maskCoversPatch_output serde uuids opts frames]
  constructor
  · intro hDeliver
    exact hDeliver.covered
  · intro hCovered
    refine { covered := hCovered, delivered := ?_ }
    intro past frame rest hSplit hContent
    rw [always_maskCoversPatch_output] at hCovered
    exact exists_delivery hContent
      (hCovered frame (by simp [hSplit])) uuids opts past

/- The id of a tool call is outside the mask. -/
theorem not_masksDeliver_tool_call :
    ¬ MasksDeliver SerdeJson.integral numberedUuids
        ⟨none, none, none⟩
        [.toolUse 0 "tu_1" "grep" .null] := by
  intro hDeliver
  have hMask :=
    hDeliver.covered
      [.createTask (some { id := "task-0", messages := [] }),
        .addMessagesToTask "task-0"
          [{ id := "msg-2"
             taskId := "task-0"
             message := some ActiveKind.toolCall.emptyContent }]]
      (.appendToMessageContent "task-0"
        (some
          { id := "msg-2"
            taskId := "task-0"
            message := some (.toolCall (toolCallOf
              SerdeJson.integral "tu_1" "grep" .null)) })
        (some { paths := ["tool_call.server.payload"] }))
      []
      (by decide +kernel)
  rcases hMask _ _ _ rfl with
    ⟨patch, fieldMask, base, hPatch, hFieldMask, hBase,
      hCovers⟩
  have hPatchEq := Option.some.inj hPatch
  have hMaskEq := Option.some.inj hFieldMask
  subst hPatchEq hMaskEq
  have hBaseEq :
      { id := "msg-2"
        taskId := "task-0"
        message := some ActiveKind.toolCall.emptyContent } =
        base :=
    Option.some.inj hBase
  subst hBaseEq
  exact absurd (hCovers callIdPath (by decide +kernel))
    (by decide)

end UiAdapter

end WarpByokProxy
