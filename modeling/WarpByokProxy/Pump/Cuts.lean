import WarpByokProxy.Adapter.Client
import WarpByokProxy.Adapter.Finish
import WarpByokProxy.Adapter.Protocol
import WarpByokProxy.Pipeline.Stream
import WarpByokProxy.Pump.Body

/-
  How a response is cut into pieces does not matter.

  Bedrock may cut a text, a reasoning text or the arguments
  of a call anywhere, and may put events between that carry
  nothing. The events for the client differ, but a client
  that replays them ends up with the same, and the response
  ends the same way.

  Key definitions include:
    * `LeaveTheSame`
    * `FramesAgree`
    * `Sdk.ContentBlockDelta.Cut`
    * `Sdk.ConverseStreamOutput.isNoise`
    * `CutsOnce`

  Key theorems include:
    * `UiAdapter.agree_of_cutItem`
    * `StreamAccumulator.agree_of_cutDelta`
    * `turnOfResults_unawareOfCuts`
-/

------------------------------------------------------------
-- What Is Left Of A Turn
------------------------------------------------------------

namespace WarpByokProxy

open Wmaa

/-
  Events that leave every client with the same tasks and
  messages, and that end the response alike.
-/
def LeaveTheSame
    (left right : List ResponseEvent) : Prop :=
  (∀ client : Client,
    client.replay left = client.replay right) ∧
    finishedEvents left = finishedEvents right

theorem congruence_leaveTheSame :
    Transducer.Congruence LeaveTheSame where
  refl := fun _ => ⟨fun _ => rfl, rfl⟩
  append := by
    rintro xs ys zs ws ⟨hReplay, hEnds⟩ ⟨hReplay', hEnds'⟩
    refine ⟨?_, ?_⟩
    · intro client
      rw [Client.replay_append, Client.replay_append,
        hReplay]
      exact congrArg _ (funext hReplay')
    · rw [finishedEvents_append, finishedEvents_append,
        hEnds, hEnds']

/- Two appends to a field leave what a joint one does. -/
theorem appendMasked_append
    {kind : ActiveKind}
    (hKind : kind ≠ .toolCall)
    (first second : String)
    (id taskId : String)
    (held : Message) :
    Message.appendMasked { paths := [kind.maskPath] }
        { id := id
          taskId := taskId
          message := some (kind.contentWith "" second) }
        (Message.appendMasked { paths := [kind.maskPath] }
          { id := id
            taskId := taskId
            message := some (kind.contentWith "" first) }
          held) =
      Message.appendMasked { paths := [kind.maskPath] }
        { id := id
          taskId := taskId
          message :=
            some (kind.contentWith "" (first ++ second)) }
        held := by
  rcases held with ⟨heldId, heldTask, content⟩
  cases content with
  | none => rfl
  | some content =>
      cases kind with
      | agentOutput =>
          cases content with
          | agentOutput output =>
              simp [Message.appendMasked,
                MessageContent.appendAt,
                ActiveKind.contentWith, ActiveKind.maskPath,
                String.append_assoc]
          | _ => rfl
      | agentReasoning =>
          cases content with
          | agentReasoning reasoning =>
              simp [Message.appendMasked,
                MessageContent.appendAt,
                ActiveKind.contentWith, ActiveKind.maskPath,
                String.append_assoc]
          | _ => rfl
      | toolCall => exact absurd rfl hKind

/- An append keeps the ids of messages. -/
theorem id_appendMasked
    (mask : FieldMask)
    (patch held : Message) :
    (Message.appendMasked mask patch held).id = held.id := by
  unfold Message.appendMasked
  split
  · rfl
  · rfl

namespace UiAdapter

/- A client applies the one action of an append. -/
theorem replay_appendMessageEvent
    (client : Client)
    (self : UiAdapter)
    (content : MessageContent)
    (path : String) :
    client.replay [self.appendMessageEvent content path] =
      if self.taskId ∈ client.tasks ∧
          self.messageId ∈ client.messages.map Message.id then
        some
          { client with
            messages := client.messages.map (fun held =>
              if held.id = self.messageId then
                Message.appendMasked { paths := [path] }
                  (self.messageWith content) held
              else
                held) }
      else
        none := by
  have hActions :
      actionTrace [self.appendMessageEvent content path] =
        [.appendToMessageContent self.taskId
          (some (self.messageWith content))
          (some { paths := [path] })] :=
    rfl
  rw [Client.replay, hActions, List.foldlM_cons]
  exact bind_pure _

/- A streamed text can be appended in two pieces. -/
theorem leaveTheSame_appendMessageEvent
    {kind : ActiveKind}
    (hKind : kind ≠ .toolCall)
    (self : UiAdapter)
    (first second : String) :
    LeaveTheSame
      [self.appendMessageEvent
        (kind.contentWith "" (first ++ second))
        kind.maskPath]
      ([self.appendMessageEvent (kind.contentWith "" first)
          kind.maskPath] ++
        [self.appendMessageEvent (kind.contentWith "" second)
          kind.maskPath]) := by
  refine ⟨?_, rfl⟩
  intro client
  have hIds :
      (client.messages.map (fun held =>
          if held.id = self.messageId then
            Message.appendMasked { paths := [kind.maskPath] }
              (self.messageWith (kind.contentWith "" first))
              held
          else
            held)).map Message.id =
        client.messages.map Message.id := by
    rw [List.map_map]
    apply List.map_congr_left
    intro held _
    by_cases hSame : held.id = self.messageId
    · simp [hSame, id_appendMasked]
    · simp [hSame]
  rw [Client.replay_append, replay_appendMessageEvent,
    replay_appendMessageEvent]
  by_cases hKnown :
      self.taskId ∈ client.tasks ∧
        self.messageId ∈ client.messages.map Message.id
  · rw [if_pos hKnown, if_pos hKnown, Option.bind_some,
      replay_appendMessageEvent, if_pos]
    · rw [List.map_map]
      refine congrArg some (congrArg (Client.mk _) ?_)
      apply List.map_congr_left
      intro held _
      by_cases hSame : held.id = self.messageId
      · simp only [Function.comp_apply, if_pos hSame,
          id_appendMasked]
        exact
          (appendMasked_append hKind first second _ _
            held).symm
      · simp only [Function.comp_apply, if_neg hSame]
    · rw [hIds]
      exact hKnown
  · rw [if_neg hKnown, if_neg hKnown, Option.bind_none]

end UiAdapter

end WarpByokProxy

------------------------------------------------------------
-- Frames
------------------------------------------------------------

namespace WarpByokProxy

variable {F : Type}

namespace UiAdapter

/- The state after a content frame, whatever its content. -/
theorem translate_of_contentItem
    {serde : SerdeJson F}
    {frame : OzResponseFrame F}
    {item : ContentItem}
    (hItem : contentItem serde frame = some item)
    (uuids : Nat → String)
    (self : UiAdapter) :
    self.translate serde uuids frame =
      let opened := self.sendPrelude frame
      let ensured :=
        opened.1.ensureKindMessage uuids item.kind
      (ensured.1,
        opened.2 ++
          (ensured.2 ++
            [ensured.1.appendMessageEvent item.patch
              item.kind.maskPath])) := by
  rw [translate, translateFrame_of_contentItem hItem]

/- Frames of one streamed kind can be cut anywhere. -/
theorem agree_of_cutItem
    {serde : SerdeJson F}
    {whole first second : OzResponseFrame F}
    {kind : ActiveKind}
    (hKind : kind ≠ .toolCall)
    {left right : String}
    (hWhole :
      contentItem serde whole = some ⟨kind, "", left ++ right⟩)
    (hFirst : contentItem serde first = some ⟨kind, "", left⟩)
    (hSecond :
      contentItem serde second = some ⟨kind, "", right⟩)
    (uuids : Nat → String) :
    (machine serde uuids).Agree LeaveTheSame [whole]
      [first, second] := by
  apply Transducer.agree_of_step
  intro self
  have hNeeds :
      ∀ {frame : OzResponseFrame F} {item : ContentItem},
        contentItem serde frame = some item →
          frame.needsPrelude = true :=
    fun hItem =>
      needsPrelude_of_contentKind
        (contentKind_of_contentItem hItem)
  have hOpened :
      self.sendPrelude whole = self.sendPrelude first := by
    rw [sendPrelude, sendPrelude, hNeeds hWhole,
      hNeeds hFirst]
  let opened := self.sendPrelude first
  let ensured := opened.1.ensureKindMessage uuids kind
  have hSent : ensured.1.sentInit = true := by
    rw [ensureKindMessage_sentInit, sendPrelude_fst,
      hNeeds hFirst, Bool.or_true]
  have hLater : ensured.1.sendPrelude second = (ensured.1, []) := by
    rw [sendPrelude, hSent]
    rfl
  have hOpen :
      ensured.1.ensureKindMessage uuids kind =
        (ensured.1, []) := by
    rw [ensureKindMessage, if_pos]
    exact ensureKindMessage_activeKind uuids _ kind
  have hWholeStep :
      self.translate serde uuids whole =
        (ensured.1,
          opened.2 ++
            (ensured.2 ++
              [ensured.1.appendMessageEvent
                (kind.contentWith "" (left ++ right))
                kind.maskPath])) := by
    rw [translate_of_contentItem hWhole, hOpened]
    rfl
  have hFirstStep :
      self.translate serde uuids first =
        (ensured.1,
          opened.2 ++
            (ensured.2 ++
              [ensured.1.appendMessageEvent
                (kind.contentWith "" left)
                kind.maskPath])) :=
    translate_of_contentItem hFirst uuids self
  have hSecondStep :
      ensured.1.translate serde uuids second =
        (ensured.1,
          [ensured.1.appendMessageEvent
            (kind.contentWith "" right) kind.maskPath]) := by
    rw [translate_of_contentItem hSecond, hLater]
    simp only [hOpen]
    rfl
  simp only [machine_step, Transducer.final_cons,
    Transducer.final_nil, Transducer.output_cons,
    Transducer.output_nil, hWholeStep, hFirstStep,
    hSecondStep, List.append_nil, List.append_assoc]
  refine ⟨trivial, ?_⟩
  have hR := congruence_leaveTheSame
  apply hR.append (hR.refl _)
  apply hR.append (hR.refl _)
  exact leaveTheSame_appendMessageEvent hKind _ left right

/- A piece of arguments is nothing to the adapter. -/
theorem translate_toolUseInputDelta
    (serde : SerdeJson F)
    (uuids : Nat → String)
    (self : UiAdapter)
    (blockIndex : UInt32)
    (id partialJson : String) :
    self.translate serde uuids
        (.toolUseInputDelta blockIndex id partialJson) =
      (self, []) := by
  simp [translate, sendPrelude, translateFrame,
    OzResponseFrame.needsPrelude]

end UiAdapter

/- Frames from which the adapter makes the same. -/
def FramesAgree
    (serde : SerdeJson F)
    (uuids : Nat → String) :
    List (OzResponseFrame F) → List (OzResponseFrame F) →
      Prop :=
  (UiAdapter.machine serde uuids).Agree LeaveTheSame

/- Frames that carry nothing for the adapter agree. -/
theorem framesAgree_of_pieces
    (serde : SerdeJson F)
    (uuids : Nat → String)
    {left right : List (OzResponseFrame F)}
    (hPieces :
      ∀ frame ∈ left ++ right,
        ∃ blockIndex id piece,
          frame = .toolUseInputDelta blockIndex id piece) :
    FramesAgree serde uuids left right := by
  have hSilent :
      ∀ frames : List (OzResponseFrame F),
        (∀ frame ∈ frames,
          ∃ blockIndex id piece,
            frame = .toolUseInputDelta blockIndex id piece) →
        ∀ self : UiAdapter,
          (UiAdapter.machine serde uuids).final self frames =
              self ∧
            (UiAdapter.machine serde uuids).output self
              frames = [] := by
    intro frames hFrames self
    induction frames with
    | nil => exact ⟨rfl, rfl⟩
    | cons frame frames ih =>
        rcases hFrames frame List.mem_cons_self with
          ⟨blockIndex, id, piece, rfl⟩
        rw [Transducer.final_cons, Transducer.output_cons,
          UiAdapter.machine_step,
          UiAdapter.translate_toolUseInputDelta]
        exact ih (fun other hOther =>
          hFrames other (List.mem_cons_of_mem _ hOther))
  intro self
  rw [List.forall_mem_append] at hPieces
  rcases hSilent left hPieces.1 self with ⟨hFinal, hOutput⟩
  rcases hSilent right hPieces.2 self with
    ⟨hFinal', hOutput'⟩
  rw [hFinal, hFinal', hOutput, hOutput']
  exact ⟨rfl, congruence_leaveTheSame.refl []⟩

theorem congruence_framesAgree
    (serde : SerdeJson F)
    (uuids : Nat → String) :
    Transducer.Congruence (FramesAgree serde uuids) :=
  Transducer.congruence_agree congruence_leaveTheSame

end WarpByokProxy

------------------------------------------------------------
-- Deltas
------------------------------------------------------------

namespace WarpByokProxy

variable {F : Type}

namespace Sdk

/- The delta is cut into two. -/
inductive ContentBlockDelta.Cut :
    ContentBlockDelta → ContentBlockDelta →
      ContentBlockDelta → Prop where
  | text
      (left right : String) :
      Cut (.text (left ++ right)) (.text left) (.text right)
  | toolUse
      (left right : String) :
      Cut (.toolUse (left ++ right)) (.toolUse left)
        (.toolUse right)
  | reasoning
      (left right : String) :
      Cut (.reasoningContent (.text (left ++ right)))
        (.reasoningContent (.text left))
        (.reasoningContent (.text right))

end Sdk

/- An event that carries nothing. -/
def Sdk.ConverseStreamOutput.isNoise :
    Sdk.ConverseStreamOutput → Bool
  | .messageStart => true
  | .other => true
  | .contentBlockDelta _ none => true
  | .contentBlockDelta _ (some .other) => true
  | .contentBlockDelta _
      (some (.reasoningContent .other)) => true
  | _ => false

/- A text delta adds to a text block. -/
theorem handleDelta_text
    {serde : SerdeJson F}
    (hRoundTrip : serde.RoundTripsStrings)
    (state : BlockState)
    (blockIndex : UInt32)
    (text : String) :
    handleDelta serde state blockIndex
        (serde.toString (.ofStrings
          [("type", "text_delta"), ("text", text)])) =
      (state,
        if state.kind = .text then
          [.textDelta blockIndex text]
        else
          []) := by
  have hKeys :
      ([("type", "text_delta"), ("text", text)].map
        Prod.fst).Nodup := by
    simp
  rcases hRoundTrip.exists_getStr_eq hKeys with
    ⟨json, hRead, hFields⟩
  rw [handleDelta, hRead]
  simp only [hFields]
  cases hKind : state.kind with
  | text => rfl
  | thinking => rfl
  | toolUse => rfl

/- A reasoning delta adds to a thinking block. -/
theorem handleDelta_reasoning
    {serde : SerdeJson F}
    (hRoundTrip : serde.RoundTripsStrings)
    (state : BlockState)
    (blockIndex : UInt32)
    (text : String) :
    handleDelta serde state blockIndex
        (serde.toString (.ofStrings
          [("type", "thinking_delta"),
            ("thinking", text)])) =
      (state,
        if state.kind = .thinking then
          [.thinkingDelta blockIndex text none]
        else
          []) := by
  have hKeys :
      ([("type", "thinking_delta"),
        ("thinking", text)].map
        Prod.fst).Nodup := by
    simp
  rcases hRoundTrip.exists_getStr_eq hKeys with
    ⟨json, hRead, hFields⟩
  rw [handleDelta, hRead]
  simp only [hFields]
  cases hKind : state.kind with
  | text => rfl
  | thinking => rfl
  | toolUse => rfl

/- A piece of arguments is kept by a tool block. -/
def BlockState.receive
    (state : BlockState)
    (piece : String) : BlockState :=
  if state.kind = .toolUse then
    { state with
      toolUse := state.toolUse.map (fun acc =>
        { acc with partialJson := acc.partialJson ++ piece }) }
  else
    state

theorem handleDelta_toolUse
    {serde : SerdeJson F}
    (hRoundTrip : serde.RoundTripsStrings)
    (state : BlockState)
    (blockIndex : UInt32)
    (piece : String) :
    handleDelta serde state blockIndex
        (serde.toString (.ofStrings
          [("type", "input_json_delta"),
            ("partial_json", piece)])) =
      (state.receive piece,
        if state.kind = .toolUse then
          [.toolUseInputDelta blockIndex
            ((state.toolUse.map ToolUseAcc.id).getD "") piece]
        else
          []) := by
  have hKeys :
      ([("type", "input_json_delta"),
        ("partial_json", piece)].map
        Prod.fst).Nodup := by
    simp
  rcases hRoundTrip.exists_getStr_eq hKeys with
    ⟨json, hRead, hFields⟩
  rw [handleDelta, hRead]
  simp only [hFields]
  rw [BlockState.receive]
  cases hKind : state.kind with
  | text => rfl
  | thinking => rfl
  | toolUse =>
      cases hAcc : state.toolUse with
      | none => simp [List.lookup_cons]
      | some acc => simp [List.lookup_cons]

/- Pieces are kept in their order. -/
theorem receive_append
    (state : BlockState)
    (left right : String) :
    state.receive (left ++ right) =
      (state.receive left).receive right := by
  unfold BlockState.receive
  by_cases hKind : state.kind = .toolUse
  · simp [hKind, Function.comp_def, String.append_assoc]
  · simp [hKind]

namespace StreamAccumulator

/- The last state that is set at an index is kept. -/
theorem set_set
    (self : StreamAccumulator)
    (blockIndex : UInt32)
    (first second : Option BlockState) :
    (self.set blockIndex first).set blockIndex second =
      self.set blockIndex second := by
  simp [set]

/- Deltas that every block takes alike agree. -/
theorem agree_of_handleDelta
    {serde : SerdeJson F}
    {R :
      List (OzResponseFrame F) → List (OzResponseFrame F) →
        Prop}
    {blockIndex : UInt32}
    {whole first second : String}
    (hDelta :
      ∀ state,
        let once := handleDelta serde state blockIndex whole
        let before := handleDelta serde state blockIndex first
        let after :=
          handleDelta serde before.1 blockIndex second
        once.1 = after.1 ∧ R once.2 (before.2 ++ after.2)) :
    (machine serde).Agree R
      [.contentBlockDelta blockIndex whole]
      [.contentBlockDelta blockIndex first,
        .contentBlockDelta blockIndex second] := by
  apply Transducer.agree_of_step
  intro self
  rcases hDelta ((self.blocks blockIndex).getD .text) with
    ⟨hState, hFrames⟩
  simp only [machine_step, handle, Transducer.final_cons,
    Transducer.final_nil, Transducer.output_cons,
    Transducer.output_nil, set_blocks_self,
    Option.getD_some, set_set, List.append_nil]
  rw [hState]
  exact ⟨rfl, hFrames⟩

/- A delta that is cut into two is taken alike. -/
theorem agree_of_cutDelta
    {serde : SerdeJson F}
    (hRoundTrip : serde.RoundTripsStrings)
    (uuids : Nat → String)
    {whole first second : Sdk.ContentBlockDelta}
    (hCut : Sdk.ContentBlockDelta.Cut whole first second)
    (contentBlockIndex : Int32) :
    (machine serde).Agree (FramesAgree serde uuids)
      (translated serde
        [.contentBlockDelta contentBlockIndex (some whole)])
      (translated serde
        [.contentBlockDelta contentBlockIndex (some first),
          .contentBlockDelta contentBlockIndex
            (some second)]) := by
  have hR := congruence_framesAgree serde uuids
  cases hCut with
  | text left right =>
      apply agree_of_handleDelta
      intro state
      simp only [handleDelta_text hRoundTrip]
      refine ⟨trivial, ?_⟩
      by_cases hKind : state.kind = .text
      · simp only [if_pos hKind]
        exact
          UiAdapter.agree_of_cutItem
            (show ActiveKind.agentOutput ≠ .toolCall by simp)
            rfl rfl rfl uuids
      · simp only [if_neg hKind]
        exact hR.refl []
  | toolUse left right =>
      apply agree_of_handleDelta
      intro state
      simp only [handleDelta_toolUse hRoundTrip]
      refine ⟨receive_append state left right, ?_⟩
      apply framesAgree_of_pieces
      intro frame hFrame
      simp only [List.mem_append, List.mem_ite_nil_right,
        List.mem_singleton] at hFrame
      rcases hFrame with ⟨-, hEq⟩ | ⟨-, hEq⟩ | ⟨-, hEq⟩
      · exact ⟨_, _, _, hEq⟩
      · exact ⟨_, _, _, hEq⟩
      · exact ⟨_, _, _, hEq⟩
  | reasoning left right =>
      apply agree_of_handleDelta
      intro state
      simp only [handleDelta_reasoning hRoundTrip]
      refine ⟨trivial, ?_⟩
      by_cases hKind : state.kind = .thinking
      · simp only [if_pos hKind]
        exact
          UiAdapter.agree_of_cutItem
            (show ActiveKind.agentReasoning ≠ .toolCall by
              simp)
            rfl rfl rfl uuids
      · simp only [if_neg hKind]
        exact hR.refl []

/- An event that carries nothing is not noticed. -/
theorem agree_of_noise
    (serde : SerdeJson F)
    (uuids : Nat → String)
    {event : Sdk.ConverseStreamOutput}
    (hNoise : event.isNoise = true) :
    (machine serde).Agree (FramesAgree serde uuids)
      (translated serde []) (translated serde [event]) := by
  have hTranslated :
      translated serde [event] = [] ∨
        translated serde [event] = [.messageStart] := by
    unfold Sdk.ConverseStreamOutput.isNoise at hNoise
    split at hNoise
    · exact Or.inr rfl
    · exact Or.inl rfl
    · exact Or.inl rfl
    · exact Or.inl rfl
    · exact Or.inl rfl
    · contradiction
  intro self
  have hR := congruence_framesAgree serde uuids
  rcases hTranslated with hNone | hStart
  · rw [hNone]
    exact ⟨rfl, hR.refl []⟩
  · rw [hStart]
    exact ⟨rfl, hR.refl []⟩

end StreamAccumulator

end WarpByokProxy

------------------------------------------------------------
-- Whole Responses
------------------------------------------------------------

namespace WarpByokProxy

variable {F : Type}

/-
  The results of a stream are cut once more: a delta comes in
  two pieces, or an event that carries nothing comes along.
-/
inductive CutsOnce :
    List (Except String (Option Sdk.ConverseStreamOutput)) →
      List
        (Except String (Option Sdk.ConverseStreamOutput)) →
        Prop where
  | delta
      (before after :
        List
          (Except String (Option Sdk.ConverseStreamOutput)))
      (contentBlockIndex : Int32)
      {whole first second : Sdk.ContentBlockDelta}
      (hCut :
        Sdk.ContentBlockDelta.Cut whole first second) :
      CutsOnce
        (before ++
          .ok
              (some (.contentBlockDelta contentBlockIndex
                (some whole))) ::
            after)
        (before ++
          .ok
              (some (.contentBlockDelta contentBlockIndex
                (some first))) ::
            .ok
                (some (.contentBlockDelta contentBlockIndex
                  (some second))) ::
              after)
  | noise
      (before after :
        List
          (Except String (Option Sdk.ConverseStreamOutput)))
      {event : Sdk.ConverseStreamOutput}
      (hNoise : event.isNoise = true) :
      CutsOnce (before ++ after)
        (before ++ .ok (some event) :: after)

/- A stream is read up to where it ends. -/
theorem consumed_drainStream_append
    (serde : SerdeJson F)
    (before :
      List
        (Except String (Option Sdk.ConverseStreamOutput))) :
    ∃ events,
      (∀ rest,
        consumed (drainStream serde (before ++ rest)) =
          events) ∨
        ∀ rest,
          consumed (drainStream serde (before ++ rest)) =
            events ++ consumed (drainStream serde rest) := by
  induction before with
  | nil => exact ⟨[], Or.inr (fun _ => rfl)⟩
  | cons result before ih =>
      rcases ih with ⟨events, hEvents⟩
      cases result with
      | error e => exact ⟨_, Or.inl (fun _ => rfl)⟩
      | ok found =>
          cases found with
          | none => exact ⟨_, Or.inl (fun _ => rfl)⟩
          | some sdkEvent =>
              cases hEvent :
                  translateOutputEvent serde sdkEvent with
              | none =>
                  refine ⟨events, ?_⟩
                  simp only [List.cons_append, drainStream,
                    hEvent]
                  exact hEvents
              | some event =>
                  refine ⟨event :: events, ?_⟩
                  simp only [List.cons_append, drainStream,
                    hEvent, consumed]
                  rcases hEvents with hStops | hGoesOn
                  · exact Or.inl (fun rest =>
                      congrArg _ (hStops rest))
                  · exact Or.inr (fun rest =>
                      congrArg _ (hGoesOn rest))

/- Events that agree can replace each other in a response. -/
theorem leaveTheSame_of_agree
    {serde : SerdeJson F}
    {uuids : Nat → String}
    {left right : List Sdk.ConverseStreamOutput}
    (hAgree :
      (StreamAccumulator.machine serde).Agree
        (FramesAgree serde uuids) (translated serde left)
        (translated serde right))
    (opts : UiAdapterOpts)
    (before after :
      List
        (Except String (Option Sdk.ConverseStreamOutput))) :
    LeaveTheSame
      (turnOfResults serde uuids opts
        (before ++
          (left.map (fun event => .ok (some event)) ++
            after)))
      (turnOfResults serde uuids opts
        (before ++
          (right.map (fun event => .ok (some event)) ++
            after))) := by
  unfold turnOfResults
  rcases consumed_drainStream_append serde before with
    ⟨events, hStops | hGoesOn⟩
  · rw [hStops, hStops]
    exact congruence_leaveTheSame.refl _
  · rw [hGoesOn, hGoesOn, consumed_drainStream_events,
      consumed_drainStream_events]
    have hR :=
      Transducer.congruence_agree
        (M := StreamAccumulator.machine serde)
        (congruence_framesAgree serde uuids)
    have hWhole :=
      hR.append (hR.refl events)
        (hR.append hAgree
          (hR.refl (consumed (drainStream serde after))))
    exact
      ((hWhole .new).2 (UiAdapter.new uuids opts)).2

/- One cut is not noticed. -/
theorem leaveTheSame_of_cutsOnce
    {serde : SerdeJson F}
    (hRoundTrip : serde.RoundTripsStrings)
    (uuids : Nat → String)
    (opts : UiAdapterOpts)
    {left right :
      List
        (Except String (Option Sdk.ConverseStreamOutput))}
    (hCut : CutsOnce left right) :
    LeaveTheSame (turnOfResults serde uuids opts left)
      (turnOfResults serde uuids opts right) := by
  cases hCut with
  | delta before after contentBlockIndex hDelta =>
      exact
        leaveTheSame_of_agree
          (StreamAccumulator.agree_of_cutDelta hRoundTrip
            uuids hDelta contentBlockIndex)
          opts before after
  | noise before after hNoise =>
      exact
        leaveTheSame_of_agree
          (StreamAccumulator.agree_of_noise serde uuids
            hNoise)
          opts before after

/-
  Responses that differ in their cuts alone leave the same
  with every client, and end alike.
-/
theorem turnOfResults_unawareOfCuts
    {serde : SerdeJson F}
    (hRoundTrip : serde.RoundTripsStrings)
    (uuids : Nat → String)
    (opts : UiAdapterOpts)
    {left right :
      List
        (Except String (Option Sdk.ConverseStreamOutput))}
    (hCuts : Relation.EqvGen CutsOnce left right) :
    LeaveTheSame (turnOfResults serde uuids opts left)
      (turnOfResults serde uuids opts right) := by
  induction hCuts with
  | rel left right hCut =>
      exact leaveTheSame_of_cutsOnce hRoundTrip uuids opts hCut
  | refl results => exact congruence_leaveTheSame.refl _
  | symm left right _ ih =>
      exact ⟨fun client => (ih.1 client).symm, ih.2.symm⟩
  | trans left middle right _ _ ihFirst ihSecond =>
      exact
        ⟨fun client =>
            (ihFirst.1 client).trans (ihSecond.1 client),
          ihFirst.2.trans ihSecond.2⟩

/- A word that comes letter by letter. -/
theorem turnOfResults_unawareOfCuts_two_pieces :
    LeaveTheSame
      (turnOfResults SerdeJson.sortedIntegral numberedUuids
        ⟨none, none, none⟩
        [.ok (some (.contentBlockDelta 0
            (some (.text ("h" ++ "i"))))),
          .ok (some (.messageStop "end_turn"))])
      (turnOfResults SerdeJson.sortedIntegral numberedUuids
        ⟨none, none, none⟩
        [.ok (some (.contentBlockDelta 0
            (some (.text "h")))),
          .ok (some (.contentBlockDelta 0
            (some (.text "i")))),
          .ok (some (.messageStop "end_turn"))]) :=
  turnOfResults_unawareOfCuts
    (SerdeJson.roundTripsStrings_sorted _) numberedUuids
    ⟨none, none, none⟩
    (.rel _ _ (.delta [] _ 0 (.text "h" "i")))

end WarpByokProxy
