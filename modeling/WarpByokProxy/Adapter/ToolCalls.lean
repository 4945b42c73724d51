import WarpByokProxy.Adapter.ContentRuns

/-
  Tool calls and the messages that carry them.

  The adapter rotates its message only when the kind of
  content changes. Two tool calls that follow each other
  without text or reasoning in between therefore share a
  message, and the client appends the second payload to the
  first. Each call has a message of its own exactly when no
  two calls are neighbours among the content frames.

  Key definitions include:
    * `Wmaa.appendTargets`
    * `UiAdapter.targetsOf`
    * `UiAdapter.OneMessagePerCall`
    * `NoNeighbouringCalls`

  Key theorems include:
    * `UiAdapter.targetsOf_of_contentKind`
    * `messageCount_lt_of_noNeighbouringCalls`
    * `tools_transcript`
    * `UiAdapter.oneMessagePerCall_iff`
-/

------------------------------------------------------------
-- One Message Per Call
------------------------------------------------------------

namespace WarpByokProxy

variable {F : Type}

namespace Wmaa

/- The ids of the messages that a trace appends to. -/
def appendTargets
    (trace : List ResponseEvent) : List String :=
  (appendedMessages (actionTrace trace)).map Message.id

/- An append names a message that was registered before. -/
def TargetsRegistered
    (before : List Action)
    (action : Action) : Prop :=
  ∀ message ∈ action.appended?,
    message.id ∈ (addedMessages before).map Message.id

/- The tool of a tool call. -/
def MessageContent.tool? :
    MessageContent → Option (Option Tool)
  | .toolCall call => some call.tool
  | _ => none

end Wmaa

/- The tool that stands for the call of a frame. -/
def OzResponseFrame.tool?
    (serde : SerdeJson F) :
    OzResponseFrame F → Option (Option Wmaa.Tool)
  | .toolUse _ id name input =>
      some (some (.server
        { payload :=
            serde.toString (.object
              [("id", .string id),
                ("name", .string name),
                ("input", input)]) }))
  | _ => none

/- No tool call follows another among the content frames. -/
def NoNeighbouringCalls
    (frames : List (OzResponseFrame F)) : Prop :=
  (contentKinds frames).IsChain
    (fun left right =>
      left = .toolCall → right ≠ .toolCall)

namespace UiAdapter

open Wmaa

/- The ids that the events of one frame append to. -/
def targetsOf
    (serde : SerdeJson F)
    (uuids : Nat → String)
    (opts : UiAdapterOpts)
    (frames : List (OzResponseFrame F))
    (position : Nat) : List String :=
  appendTargets
    (((machine serde uuids).batches (new uuids opts)
      frames).getD position [])

/-
  Each tool call appends to one registered message, no two
  calls to the same one, and a client ends with one message
  per call that holds the payload of that call alone.
-/
structure OneMessagePerCall
    (serde : SerdeJson F)
    (uuids : Nat → String)
    (opts : UiAdapterOpts)
    (frames : List (OzResponseFrame F)) : Prop where
  target :
    ∀ (position : Nat) (frame : OzResponseFrame F),
      frames[position]? = some frame →
      frame.contentKind = some .toolCall →
        ∃ id, targetsOf serde uuids opts frames position =
          [id]
  registered :
    Trace.Always TargetsRegistered
      (actionTrace
        ((machine serde uuids).output (new uuids opts)
          frames))
  apart :
    ∀ (first second : Nat)
      (frame other : OzResponseFrame F),
      first ≠ second →
      frames[first]? = some frame →
      frames[second]? = some other →
      frame.contentKind = some .toolCall →
      other.contentKind = some .toolCall →
        (targetsOf serde uuids opts frames first).Disjoint
          (targetsOf serde uuids opts frames second)
  replayed :
    ∃ client,
      Client.empty.replay
          ((machine serde uuids).output (new uuids opts)
            frames) =
        some client ∧
      client.readAll MessageContent.tool? =
        frames.filterMap (OzResponseFrame.tool? serde)

end UiAdapter

end WarpByokProxy

------------------------------------------------------------
-- Targets
------------------------------------------------------------

namespace WarpByokProxy

namespace UiAdapter

open Wmaa

variable {F : Type}

/-
  The message that a content frame appends to is numbered by
  the runs up to that frame.
-/
theorem targetsOf_of_contentKind
    (serde : SerdeJson F)
    (uuids : Nat → String)
    (opts : UiAdapterOpts)
    {frames : List (OzResponseFrame F)}
    {position : Nat}
    {frame : OzResponseFrame F}
    {kind : ActiveKind}
    (hFrame : frames[position]? = some frame)
    (hKind : frame.contentKind = some kind) :
    targetsOf serde uuids opts frames position =
      [messageIdOf (uuids
        (messageCount (frames.take (position + 1)) + 1))] := by
  rw [← map_kind_contentItem serde frame] at hKind
  rcases Option.map_eq_some_iff.mp hKind with
    ⟨item, hItem, -⟩
  have hTake :
      frames.take (position + 1) =
        frames.take position ++ [frame] := by
    rw [List.take_add_one, hFrame, Option.toList_some]
  rw [targetsOf, List.getD_eq_getElem?_getD,
    Transducer.getElem?_batches, hFrame, Option.map_some,
    Option.getD_some, final_eq_stateAfter, machine_step,
    appendTargets, appendedMessages_translate hItem,
    translate_stateAfter, ← hTake]
  rfl

end UiAdapter

end WarpByokProxy

------------------------------------------------------------
-- Calls And Runs
------------------------------------------------------------

namespace WarpByokProxy

variable {F : Type}

theorem contentKinds_append
    (first second : List (OzResponseFrame F)) :
    contentKinds (first ++ second) =
      contentKinds first ++ contentKinds second := by
  simp [contentKinds]

theorem contentKinds_singleton
    {frame : OzResponseFrame F}
    {kind : ActiveKind}
    (hKind : frame.contentKind = some kind) :
    contentKinds [frame] = [kind] := by
  simp [contentKinds, hKind]

/-
  Without neighbouring calls some other kind of content
  stands between two calls, so the later one belongs to a
  later run.
-/
theorem messageCount_lt_of_noNeighbouringCalls
    {frames : List (OzResponseFrame F)}
    (hApart : NoNeighbouringCalls frames)
    {first second : Nat}
    (hLt : first < second)
    {frame other : OzResponseFrame F}
    (hFirst : frames[first]? = some frame)
    (hSecond : frames[second]? = some other)
    (hFrame : frame.contentKind = some .toolCall)
    (hOther : other.contentKind = some .toolCall) :
    UiAdapter.messageCount (frames.take (first + 1)) <
      UiAdapter.messageCount (frames.take (second + 1)) := by
  have hTakeFirst :
      frames.take (first + 1) =
        frames.take first ++ [frame] := by
    rw [List.take_add_one, hFirst, Option.toList_some]
  have hTakeSecond :
      frames.take (second + 1) =
        frames.take (first + 1) ++
          ((frames.take second).drop (first + 1) ++
            [other]) := by
    rw [List.take_add_one, hSecond, Option.toList_some,
      ← List.append_assoc]
    congr 1
    have hPrefix :
        (frames.take second).take (first + 1) =
          frames.take (first + 1) := by
      rw [List.take_take]
      congr 1
      omega
    rw [← hPrefix, List.take_append_drop]
  have hKindsFirst :
      contentKinds (frames.take (first + 1)) =
        contentKinds (frames.take first) ++ [.toolCall] := by
    rw [hTakeFirst, contentKinds_append,
      contentKinds_singleton hFrame]
  have hKindsSecond :
      contentKinds (frames.take (second + 1)) =
        contentKinds (frames.take first) ++ [.toolCall] ++
          (contentKinds
              ((frames.take second).drop (first + 1)) ++
            [.toolCall]) := by
    rw [hTakeSecond, contentKinds_append, hKindsFirst,
      contentKinds_append, contentKinds_singleton hOther]
  have hKinds :
      contentKinds frames =
        contentKinds (frames.take (second + 1)) ++
          contentKinds (frames.drop (second + 1)) := by
    rw [← contentKinds_append, List.take_append_drop]
  have hRel :=
    List.isChain_iff_forall_rel_of_append_cons_cons.mp hApart
  unfold UiAdapter.messageCount
  rw [hKindsFirst, hKindsSecond]
  rw [hKindsSecond] at hKinds
  cases hMiddle :
      contentKinds
        ((frames.take second).drop (first + 1)) with
  | nil =>
      rw [hMiddle] at hKinds
      simp only [List.append_assoc, List.nil_append,
        List.cons_append] at hKinds
      exact (hRel hKinds rfl rfl).elim
  | cons between rest =>
      rw [hMiddle] at hKinds
      simp only [List.append_assoc, List.nil_append,
        List.cons_append] at hKinds
      have hBetween : between ≠ .toolCall := hRel hKinds rfl
      exact Runs.length_lt_of_key_ne
        (List.mem_append_left _ List.mem_cons_self) hBetween

/-
  Neighbouring calls are separated by frames without content
  alone, and share the number of their run.
-/
theorem exists_sameRun_of_neighbouringCalls
    {frames : List (OzResponseFrame F)}
    (hNeighbours : ¬ NoNeighbouringCalls frames) :
    ∃ (first second : Nat) (frame other : OzResponseFrame F),
      first < second ∧
        frames[first]? = some frame ∧
        frames[second]? = some other ∧
        frame.contentKind = some .toolCall ∧
        other.contentKind = some .toolCall ∧
        UiAdapter.messageCount (frames.take (first + 1)) =
          UiAdapter.messageCount
            (frames.take (second + 1)) := by
  unfold NoNeighbouringCalls at hNeighbours
  rw [List.isChain_iff_forall_rel_of_append_cons_cons]
    at hNeighbours
  push Not at hNeighbours
  rcases hNeighbours with
    ⟨left, right, before, after, hKinds, rfl, rfl⟩
  rcases List.filterMap_eq_append_iff.mp hKinds with
    ⟨front, back, hFrames, -, hBack⟩
  rcases List.filterMap_eq_cons_iff.mp hBack with
    ⟨skipped, frame, rest, hBackSplit, -, hFrame, hRest⟩
  rcases List.filterMap_eq_cons_iff.mp hRest with
    ⟨between, other, tail, hRestSplit, hBetween, hOther, -⟩
  have hSplitFirst :
      frames =
        (front ++ skipped ++ [frame]) ++
          (between ++ other :: tail) := by
    simp [hFrames, hBackSplit, hRestSplit]
  have hSplitSecond :
      frames =
        (front ++ skipped ++ [frame] ++ between ++
          [other]) ++ tail := by
    simp [hFrames, hBackSplit, hRestSplit]
  have hSilent : contentKinds between = [] :=
    List.filterMap_eq_nil_iff.mpr hBetween
  have hSameKinds :
      contentKinds
          (front ++ skipped ++ [frame] ++ between) =
        contentKinds (front ++ skipped ++ [frame]) := by
    rw [contentKinds_append, hSilent, List.append_nil]
  have hOpen :
      (contentKinds
        (front ++ skipped ++ [frame] ++ between)).getLast? =
          some .toolCall := by
    rw [hSameKinds, contentKinds_append,
      contentKinds_singleton hFrame, List.getLast?_concat]
  refine
    ⟨(front ++ skipped).length,
      (front ++ skipped ++ [frame] ++ between).length,
      frame, other, ?_, ?_, ?_, hFrame, hOther, ?_⟩
  · simp only [List.length_append, List.length_cons]
    omega
  · simp [hSplitFirst]
  · rw [hSplitSecond, List.append_assoc,
      List.getElem?_append_right (Nat.le_refl _),
      Nat.sub_self]
    rfl
  · have hTakeFirst :
        frames.take ((front ++ skipped).length + 1) =
          front ++ skipped ++ [frame] := by
      rw [hSplitFirst]
      exact List.take_left' (List.length_append ..)
    have hTakeSecond :
        frames.take
            ((front ++ skipped ++ [frame] ++
              between).length + 1) =
          front ++ skipped ++ [frame] ++ between ++
            [other] := by
      rw [hSplitSecond]
      exact List.take_left' (List.length_append ..)
    rw [hTakeFirst, hTakeSecond,
      UiAdapter.messageCount_append_singleton hOther,
      if_pos hOpen]
    unfold UiAdapter.messageCount
    rw [hSameKinds]

/- The tool that an item amounts to on its own. -/
def ContentItem.tool?
    (item : ContentItem) : Option (Option Wmaa.Tool) :=
  match item.kind with
  | .toolCall =>
      some (some (.server { payload := item.text }))
  | _ => none

theorem bind_tool?_contentItem
    (serde : SerdeJson F)
    (frame : OzResponseFrame F) :
    (contentItem serde frame).bind ContentItem.tool? =
      frame.tool? serde := by
  cases frame with
  | textDelta => rfl
  | thinkingDelta => rfl
  | toolUse => rfl
  | toolUseInputDelta => rfl
  | blockStop => rfl
  | usageUpdate => rfl
  | done => rfl

/-
  Without neighbouring calls every tool call of a transcript
  comes from one item. The induction follows the growth of
  the last run.
-/
theorem tools_transcript
    {items : List ContentItem}
    (hApart :
      (items.map ContentItem.kind).IsChain
        (fun left right =>
          left = .toolCall → right ≠ .toolCall)) :
    (transcript items).filterMap
        Wmaa.MessageContent.tool? =
      items.filterMap ContentItem.tool? := by
  induction items using List.reverseRecOn with
  | nil => rfl
  | append_singleton items item ih =>
      rw [List.map_append, List.isChain_append] at hApart
      rcases hApart with ⟨hFront, -, hLast⟩
      have hTools := ih hFront
      by_cases hEq :
          items.getLast?.map ContentItem.kind =
            some item.kind
      · have hStreamed : item.kind ≠ .toolCall := by
          intro hKind
          rw [List.getLast?_map, hEq] at hLast
          exact hLast item.kind rfl item.kind rfl hKind hKind
        have hNone :
            ∀ text,
              (item.kind.contentWith "" text).tool? =
                none := by
          intro text
          cases hKind : item.kind with
          | agentOutput => rfl
          | agentReasoning => rfl
          | toolCall => exact (hStreamed hKind).elim
        have hItem : item.tool? = none := by
          unfold ContentItem.tool?
          cases hKind : item.kind with
          | agentOutput => rfl
          | agentReasoning => rfl
          | toolCall => exact (hStreamed hKind).elim
        rcases transcript_append_of_eq hEq with
          ⟨front, held, hBefore, hAfter⟩
        rw [hBefore] at hTools
        rw [hAfter]
        simpa [hNone, hItem] using hTools
      · rw [transcript_append_of_ne hEq,
          List.filterMap_append, List.filterMap_append,
          hTools]
        rcases item with ⟨kind, callId, text⟩
        cases kind with
        | agentOutput => rfl
        | agentReasoning => rfl
        | toolCall => rfl

end WarpByokProxy

------------------------------------------------------------
-- When Calls Keep Apart
------------------------------------------------------------

namespace WarpByokProxy

namespace UiAdapter

open Wmaa

variable {F : Type}

/- Under the client protocol appends name known messages. -/
theorem targetsRegistered_of_targetsLastAdded
    {trace : List Action}
    (hTargets : Trace.Always TargetsLastAdded trace) :
    Trace.Always TargetsRegistered trace := by
  intro before action after hSplit message hMessage
  have hTarget := hTargets before action after hSplit
  cases action with
  | createTask task =>
      simp [Action.appended?] at hMessage
  | addMessagesToTask taskId messages =>
      simp [Action.appended?] at hMessage
  | appendToMessageContent taskId patch mask =>
      rcases hTarget taskId patch mask rfl with
        ⟨_, base, _, _, _, hPatch, -, hBase, hId, -⟩
      have hSame : message = _ :=
        Option.some.inj
          ((Option.mem_def.mp hMessage).symm.trans hPatch)
      rw [hSame, hId]
      exact List.mem_map_of_mem (List.mem_of_getLast? hBase)

/- Calls without neighbours are replayed one by one. -/
theorem readAll_tool?_clientAfter
    {frames : List (OzResponseFrame F)}
    (hApart : NoNeighbouringCalls frames)
    (serde : SerdeJson F)
    (uuids : Nat → String) :
    (clientAfter serde uuids frames).readAll
        MessageContent.tool? =
      frames.filterMap (OzResponseFrame.tool? serde) := by
  rw [readAll_clientAfter, tools_transcript,
    contentItems, List.filterMap_filterMap]
  · apply List.filterMap_congr
    intro frame _
    exact bind_tool?_contentItem serde frame
  · rw [map_kind_contentItems]
    exact hApart

/-
  Every tool call has a message of its own exactly when no
  two calls are neighbours among the content frames.
-/
theorem oneMessagePerCall_iff
    {uuids : Nat → String}
    (hUuids : Function.Injective uuids)
    (serde : SerdeJson F)
    (opts : UiAdapterOpts)
    (frames : List (OzResponseFrame F)) :
    OneMessagePerCall serde uuids opts frames ↔
      NoNeighbouringCalls frames := by
  constructor
  · intro hOne
    by_contra hNeighbours
    rcases exists_sameRun_of_neighbouringCalls
        hNeighbours with
      ⟨first, second, frame, other, hLt, hFirst, hSecond,
        hFrame, hOther, hCount⟩
    have hDisjoint :=
      hOne.apart first second frame other hLt.ne hFirst
        hSecond hFrame hOther
    rw [targetsOf_of_contentKind serde uuids opts hFirst
        hFrame,
      targetsOf_of_contentKind serde uuids opts hSecond
        hOther,
      hCount] at hDisjoint
    exact hDisjoint List.mem_cons_self List.mem_cons_self
  · intro hApart
    have hIncreasing :
        ∀ (first second : Nat)
          (frame other : OzResponseFrame F),
          first < second →
          frames[first]? = some frame →
          frames[second]? = some other →
          frame.contentKind = some .toolCall →
          other.contentKind = some .toolCall →
            (targetsOf serde uuids opts frames
                first).Disjoint
              (targetsOf serde uuids opts frames second) := by
      intro first second frame other hLt hFirst hSecond
        hFrame hOther
      have hCount :=
        messageCount_lt_of_noNeighbouringCalls hApart hLt
          hFirst hSecond hFrame hOther
      rw [targetsOf_of_contentKind serde uuids opts hFirst
          hFrame,
        targetsOf_of_contentKind serde uuids opts hSecond
          hOther,
        List.disjoint_singleton, List.mem_singleton]
      intro hSame
      have hIndex := hUuids (messageIdOf_injective hSame)
      omega
    refine
      { target := ?_, registered := ?_, apart := ?_,
        replayed := ?_ }
    · intro position frame hFrame hKind
      exact ⟨_, targetsOf_of_contentKind serde uuids opts
        hFrame hKind⟩
    · exact targetsRegistered_of_targetsLastAdded
        (conforms_output serde uuids opts frames).targets
    · intro first second frame other hNe hFirst hSecond
        hFrame hOther
      rcases Nat.lt_or_gt_of_ne hNe with hLt | hGt
      · exact hIncreasing first second frame other hLt hFirst
          hSecond hFrame hOther
      · intro id hMemFirst hMemSecond
        exact hIncreasing second first other frame hGt
          hSecond hFirst hOther hFrame hMemSecond hMemFirst
    · exact
        ⟨clientAfter serde uuids frames,
          replay_output hUuids serde opts frames,
          readAll_tool?_clientAfter hApart serde uuids⟩

theorem oneMessagePerCall_text_between_calls :
    OneMessagePerCall SerdeJson.integral numberedUuids
        ⟨none, none, none⟩
        [.toolUse 0 "tu_1" "grep" .null,
          .textDelta 1 "then",
          .toolUse 2 "tu_2" "read" .null] ↔
      NoNeighbouringCalls
        [(.toolUse 0 "tu_1" "grep" .null :
            OzResponseFrame Empty),
          .textDelta 1 "then",
          .toolUse 2 "tu_2" "read" .null] :=
  oneMessagePerCall_iff numberedUuids_injective
    SerdeJson.integral ⟨none, none, none⟩ _

/- Two parallel calls end up in one message. -/
theorem not_oneMessagePerCall_parallel_calls :
    ¬ OneMessagePerCall SerdeJson.integral numberedUuids
        ⟨none, none, none⟩
        [.toolUse 0 "tu_1" "grep" .null,
          .blockStop 0,
          .toolUse 1 "tu_2" "read" .null] := by
  intro hOne
  have hDisjoint :=
    hOne.apart 0 2 _ _ (by decide) rfl rfl rfl rfl
  have hFirst :
      "msg-2" ∈
        targetsOf SerdeJson.integral numberedUuids
          ⟨none, none, none⟩
          [.toolUse 0 "tu_1" "grep" .null,
            .blockStop 0,
            .toolUse 1 "tu_2" "read" .null] 0 := by
    decide +kernel
  have hSecond :
      "msg-2" ∈
        targetsOf SerdeJson.integral numberedUuids
          ⟨none, none, none⟩
          [.toolUse 0 "tu_1" "grep" .null,
            .blockStop 0,
            .toolUse 1 "tu_2" "read" .null] 2 := by
    decide +kernel
  exact hDisjoint hFirst hSecond

end UiAdapter

end WarpByokProxy
