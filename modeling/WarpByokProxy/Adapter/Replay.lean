import WarpByokProxy.Adapter.Client
import WarpByokProxy.Adapter.Protocol

/-
  What a client holds after replaying the adapter's events.

  The abstract content of a turn is its transcript: one
  message for every maximal run of equal kinds, holding the
  concatenation of the run. Replaying the emitted events
  yields exactly the transcript, under the minted ids.

  Key definitions include:
    * `transcript`
    * `UiAdapter.clientAfter`

  Key theorems include:
    * `transcript_append_of_ne`
    * `transcript_append_of_eq`
    * `UiAdapter.replay_output`
-/

------------------------------------------------------------
-- Transcripts
------------------------------------------------------------

namespace WarpByokProxy

/- The texts of a run, concatenated. -/
def runText
    (run : List ContentItem) : String :=
  String.join (run.map ContentItem.text)

/- The kind of a run. -/
def runKind
    (run : List ContentItem) : Option ActiveKind :=
  run.head?.map ContentItem.kind

/- The content of the message that a run amounts to. -/
def runContent
    (run : List ContentItem) : Option Wmaa.MessageContent :=
  (runKind run).map
    (fun kind => kind.contentWith "" (runText run))

/- The contents of the messages of a turn, in order. -/
def transcript
    (items : List ContentItem) : List Wmaa.MessageContent :=
  (Runs.of ContentItem.kind items).filterMap runContent

@[simp] theorem transcript_nil :
    transcript [] = [] := rfl

/- An item of another kind than the last opens a message. -/
theorem transcript_append_of_ne
    {items : List ContentItem}
    {item : ContentItem}
    (hNe :
      items.getLast?.map ContentItem.kind ≠
        some item.kind) :
    transcript (items ++ [item]) =
      transcript items ++
        [item.kind.contentWith "" item.text] := by
  have hBreak :
      ∀ last ∈ items.getLast?, last.kind ≠ item.kind := by
    intro last hLast hEq
    apply hNe
    rw [Option.mem_def.mp hLast, Option.map_some, hEq]
  rw [transcript, Runs.of_append_singleton_of_ne _ hBreak,
    List.filterMap_append]
  simp [transcript, runContent, runKind, runText]

/- An item of the last item's kind extends the last message. -/
theorem transcript_append_of_eq
    {items : List ContentItem}
    {item : ContentItem}
    (hEq :
      items.getLast?.map ContentItem.kind =
        some item.kind) :
    ∃ front held,
      transcript items =
          front ++ [item.kind.contentWith "" held] ∧
        transcript (items ++ [item]) =
          front ++
            [item.kind.contentWith ""
              (held ++ item.text)] := by
  rcases Option.map_eq_some_iff.mp hEq with
    ⟨last, hLast, hKind⟩
  rcases Runs.of_append_singleton_of_eq _ hLast hKind with
    ⟨front, run, hRuns, hRunLast, hExtended⟩
  have hRunMem : run ∈ Runs.of ContentItem.kind items := by
    simp [hRuns]
  have hRunKind : runKind run = some item.kind := by
    cases run with
    | nil => simp at hRunLast
    | cons first rest =>
        have hPairs := Runs.key_eq_of_mem_of hRunMem
        rw [runKind, List.head?_cons, Option.map_some,
          ← hKind]
        congr 1
        cases hRest : rest.getLast? with
        | none =>
            rw [List.getLast?_eq_none_iff] at hRest
            subst hRest
            simpa using congrArg
              (Option.map ContentItem.kind) hRunLast
        | some final =>
            have hFinal : final = last := by
              simpa [List.getLast?_cons, hRest]
                using hRunLast
            rw [← hFinal]
            exact (List.pairwise_cons.mp hPairs).1 final
              (List.mem_of_getLast? hRest)
  have hExtendedKind :
      runKind (run ++ [item]) = some item.kind := by
    cases run with
    | nil => simp at hRunLast
    | cons first rest => simpa [runKind] using hRunKind
  refine ⟨front.filterMap runContent, runText run, ?_, ?_⟩
  · simp [transcript, hRuns, runContent, hRunKind]
  · simp [transcript, hExtended, runContent, hExtendedKind,
      runText]

/- One message for every run. -/
theorem length_transcript
    (items : List ContentItem) :
    (transcript items).length =
      (Runs.of ContentItem.kind items).length := by
  induction items using List.reverseRecOn with
  | nil => rfl
  | append_singleton items item ih =>
      rw [Runs.length_append_singleton]
      by_cases hEq :
          items.getLast?.map ContentItem.kind =
            some item.kind
      · rcases transcript_append_of_eq hEq with
          ⟨front, held, hBefore, hAfter⟩
        rw [if_pos hEq, ← ih, hBefore, hAfter]
        simp
      · rw [if_neg hEq, transcript_append_of_ne hEq, ← ih]
        simp

/- An append under a kind's mask path extends the text. -/
theorem appendAt_maskPath
    (kind : ActiveKind)
    (patchId added heldId held : String) :
    Wmaa.MessageContent.appendAt kind.maskPath
        (kind.contentWith patchId added)
        (kind.contentWith heldId held) =
      kind.contentWith heldId (held ++ added) := by
  cases kind with
  | agentOutput => rfl
  | agentReasoning => rfl
  | toolCall => rfl

end WarpByokProxy

------------------------------------------------------------
-- Replaying A Turn
------------------------------------------------------------

namespace WarpByokProxy

namespace UiAdapter

open Wmaa

variable {F : Type}

/- A client's message for the n-th entry of a transcript. -/
def clientMessage
    (uuids : Nat → String)
    (index : Nat)
    (content : MessageContent) : Message where
  id := messageIdOf (uuids (index + 2))
  taskId := "task-" ++ uuids 0
  message := some content

/- What a client holds after the events for some frames. -/
def clientAfter
    (serde : SerdeJson F)
    (uuids : Nat → String)
    (frames : List (OzResponseFrame F)) : Client where
  tasks :=
    if frames.any OzResponseFrame.needsPrelude then
      ["task-" ++ uuids 0]
    else
      []
  messages :=
    (transcript (contentItems serde frames)).mapIdx
      (clientMessage uuids)

theorem contentItems_append_singleton
    (serde : SerdeJson F)
    (frames : List (OzResponseFrame F))
    (frame : OzResponseFrame F) :
    contentItems serde (frames ++ [frame]) =
      contentItems serde frames ++
        (contentItem serde frame).toList := by
  rw [contentItems, List.filterMap_append]
  cases hItem : contentItem serde frame with
  | none => simp [hItem, contentItems]
  | some item => simp [hItem, contentItems]

/- The open kind is the kind of the last item. -/
theorem getLast?_kind_contentItems
    (serde : SerdeJson F)
    (frames : List (OzResponseFrame F)) :
    (contentItems serde frames).getLast?.map
        ContentItem.kind =
      (contentKinds frames).getLast? := by
  rw [← map_kind_contentItems serde frames,
    List.getLast?_map]

/- The transcript has one entry for every minted message. -/
theorem length_transcript_contentItems
    (serde : SerdeJson F)
    (frames : List (OzResponseFrame F)) :
    (transcript (contentItems serde frames)).length =
      messageCount frames := by
  rw [length_transcript, messageCount,
    ← map_kind_contentItems serde frames,
    Runs.length_of_map]

/- Later entries have ids of their own. -/
theorem clientMessage_id_not_mem
    {uuids : Nat → String}
    (hUuids : Function.Injective uuids)
    (contents : List MessageContent)
    (content : MessageContent) :
    (clientMessage uuids contents.length content).id ∉
      (contents.mapIdx (clientMessage uuids)).map
        Message.id := by
  intro hMem
  rcases List.mem_map.mp hMem with ⟨message, hMessage, hId⟩
  rcases List.mem_mapIdx.mp hMessage with
    ⟨index, hIndex, rfl⟩
  have hSame := hUuids (messageIdOf_injective hId)
  omega

/- The prelude introduces the task to the client. -/
theorem replay_sendPrelude
    (serde : SerdeJson F)
    (uuids : Nat → String)
    (opts : UiAdapterOpts)
    (frames : List (OzResponseFrame F))
    (frame : OzResponseFrame F) :
    (clientAfter serde uuids frames).replay
        ((stateAfter uuids opts frames).sendPrelude
          frame).2 =
      some
        { clientAfter serde uuids frames with
          tasks :=
            if (frames ++ [frame]).any
                OzResponseFrame.needsPrelude then
              ["task-" ++ uuids 0]
            else
              [] } := by
  cases hSent :
      frames.any OzResponseFrame.needsPrelude with
  | true =>
      simp [sendPrelude, stateAfter, hSent, clientAfter]
  | false =>
      cases hNeeds : frame.needsPrelude with
      | true =>
          have hEvents :
              ((stateAfter uuids opts frames).sendPrelude
                  frame).2 =
                [(stateAfter uuids opts
                    frames).streamInitEvent,
                  (stateAfter uuids opts
                    frames).createTaskEvent] := by
            simp [sendPrelude, stateAfter, hSent, hNeeds]
          have hActions :
              actionTrace
                  [(stateAfter uuids opts
                      frames).streamInitEvent,
                    (stateAfter uuids opts
                      frames).createTaskEvent] =
                [.createTask (some
                  { id := "task-" ++ uuids 0
                    messages := [] })] := rfl
          rw [hEvents, Client.replay, hActions]
          simp [Client.apply, clientAfter, hSent, hNeeds]
      | false =>
          simp [sendPrelude, stateAfter, hSent, hNeeds,
            clientAfter]

/-
  Making sure of a message leaves the client with an open
  last message of the frame's kind, which the frame's text
  will complete to the last entry of the transcript.
-/
theorem replay_ensureKindMessage
    {serde : SerdeJson F}
    {frame : OzResponseFrame F}
    {item : ContentItem}
    (hItem : contentItem serde frame = some item)
    {uuids : Nat → String}
    (hUuids : Function.Injective uuids)
    (frames : List (OzResponseFrame F))
    (self : UiAdapter)
    (hTask : self.taskId = "task-" ++ uuids 0)
    (hMessage :
      self.messageId =
        messageIdOf (uuids (messageCount frames + 1)))
    (hKind :
      self.activeKind = (contentKinds frames).getLast?)
    (hMinted : self.minted = messageCount frames + 2)
    (client : Client)
    (hKnown : self.taskId ∈ client.tasks)
    (hHeld :
      client.messages =
        (transcript (contentItems serde frames)).mapIdx
          (clientMessage uuids)) :
    ∃ front held,
      transcript (contentItems serde (frames ++ [frame])) =
          front ++
            [item.kind.contentWith ""
              (held ++ item.text)] ∧
        (self.ensureKindMessage uuids
            item.kind).1.messageId =
          messageIdOf (uuids (front.length + 2)) ∧
        client.replay
            (self.ensureKindMessage uuids item.kind).2 =
          some
            { client with
              messages :=
                (front ++
                  [item.kind.contentWith "" held]).mapIdx
                    (clientMessage uuids) } := by
  have hItems :
      contentItems serde (frames ++ [frame]) =
        contentItems serde frames ++ [item] := by
    rw [contentItems_append_singleton, hItem,
      Option.toList_some]
  have hLength := length_transcript_contentItems serde frames
  unfold ensureKindMessage
  rw [hItems]
  by_cases hOpen : self.activeKind = some item.kind
  · have hSame :
        (contentItems serde frames).getLast?.map
            ContentItem.kind =
          some item.kind := by
      rw [getLast?_kind_contentItems, ← hKind, hOpen]
    rcases transcript_append_of_eq hSame with
      ⟨front, held, hBefore, hAfter⟩
    have hCount : front.length + 1 = messageCount frames := by
      rw [← hLength, hBefore, List.length_append,
        List.length_singleton]
    refine ⟨front, held, hAfter, ?_, ?_⟩
    · rw [if_pos hOpen, hMessage, ← hCount]
    · rw [if_pos hOpen, Client.replay_nil, ← hBefore,
        ← hHeld]
  · have hOther :
        (contentItems serde frames).getLast?.map
            ContentItem.kind ≠
          some item.kind := by
      rw [getLast?_kind_contentItems, ← hKind]
      exact hOpen
    refine
      ⟨transcript (contentItems serde frames), "", ?_, ?_,
        ?_⟩
    · rw [transcript_append_of_ne hOther, String.empty_append]
    · rw [if_neg hOpen, hLength, ← hMinted]
    · rw [if_neg hOpen]
      have hNew :=
        clientMessage_id_not_mem hUuids
          (transcript (contentItems serde frames))
          item.kind.emptyContent
      have hRegistered :
          messageWith
              { self with
                messageId := messageIdOf (uuids self.minted)
                activeKind := some item.kind
                minted := self.minted + 1 }
              item.kind.emptyContent =
            clientMessage uuids
              (transcript
                (contentItems serde frames)).length
              item.kind.emptyContent := by
        simp [messageWith, clientMessage, hTask, hMinted,
          hLength]
      simp only [addMessagesToTaskEventFor, hRegistered,
        Client.replay, actionTrace_cons, clientActionsEvent,
        ResponseEvent.actions, actionTrace_nil,
        List.filterMap_cons, List.filterMap_nil,
        List.append_nil, List.foldlM_cons, List.foldlM_nil,
        Client.apply, hKnown, if_true, List.foldl_cons,
        List.foldl_nil, hHeld]
      rw [Client.insertMessage_of_not_mem hNew,
        List.mapIdx_concat, ActiveKind.emptyContent_eq]
      rfl

/-
  Appending an item to the open last message completes the
  message's text.
-/
theorem replay_appendItem
    {uuids : Nat → String}
    (hUuids : Function.Injective uuids)
    (item : ContentItem)
    (front : List MessageContent)
    (held : String)
    {self : UiAdapter}
    (hMessage :
      self.messageId =
        messageIdOf (uuids (front.length + 2)))
    {client : Client}
    (hKnown : self.taskId ∈ client.tasks)
    (hHeld :
      client.messages =
        (front ++ [item.kind.contentWith "" held]).mapIdx
          (clientMessage uuids)) :
    client.replay
        [self.appendMessageEvent item.patch
          item.kind.maskPath] =
      some
        { client with
          messages :=
            (front ++
              [item.kind.contentWith ""
                (held ++ item.text)]).mapIdx
                  (clientMessage uuids) } := by
  have hActions :
      actionTrace
          [self.appendMessageEvent item.patch
            item.kind.maskPath] =
        [.appendToMessageContent self.taskId
          (some (self.messageWith item.patch))
          (some { paths := [item.kind.maskPath] })] :=
    rfl
  rw [List.mapIdx_concat] at hHeld
  have hId :
      (self.messageWith item.patch).id =
        (clientMessage uuids front.length
          (item.kind.contentWith "" held)).id := hMessage
  have hApply :=
    Client.apply_append_last
      { paths := [item.kind.maskPath] } hKnown hHeld hId
      (clientMessage_id_not_mem hUuids front _)
  rw [Client.replay, hActions, List.foldlM_cons, hApply,
    List.mapIdx_concat]
  have hAppended :
      Message.appendMasked
          { paths := [item.kind.maskPath] }
          (self.messageWith item.patch)
          (clientMessage uuids front.length
            (item.kind.contentWith "" held)) =
        clientMessage uuids front.length
          (item.kind.contentWith "" (held ++ item.text)) := by
    simp only [Message.appendMasked, messageWith,
      clientMessage, ContentItem.patch, List.foldl_cons,
      List.foldl_nil, appendAt_maskPath]
  rw [hAppended]
  rfl

end UiAdapter

end WarpByokProxy

------------------------------------------------------------
-- The Client After A Turn
------------------------------------------------------------

namespace WarpByokProxy

namespace UiAdapter

open Wmaa

variable {F : Type}

/- Step rule: the events of a frame move the client along. -/
theorem replay_translate
    {uuids : Nat → String}
    (hUuids : Function.Injective uuids)
    (serde : SerdeJson F)
    (opts : UiAdapterOpts)
    (frames : List (OzResponseFrame F))
    (frame : OzResponseFrame F) :
    (clientAfter serde uuids frames).replay
        ((stateAfter uuids opts frames).translate
          serde uuids frame).2 =
      some (clientAfter serde uuids (frames ++ [frame])) := by
  simp only [translate]
  rw [Client.replay_append, replay_sendPrelude,
    Option.bind_some, sendPrelude_fst]
  cases hItem : contentItem serde frame with
  | none =>
      have hKind : frame.contentKind = none := by
        rw [← map_kind_contentItem serde frame, hItem]
        rfl
      have hItems :
          contentItems serde (frames ++ [frame]) =
            contentItems serde frames := by
        rw [contentItems_append_singleton, hItem]
        simp
      rcases (translateFrame_of_contentKind_none hKind serde
        uuids _).2 with hNone | ⟨-, reason, hFinish⟩
      · rw [hNone]
        simp [clientAfter, hItems]
      · rw [hFinish]
        simp [clientAfter, hItems, Client.replay,
          streamFinishedEvent, ResponseEvent.actions]
  | some item =>
      have hNeeds :=
        needsPrelude_of_contentKind
          (contentKind_of_contentItem hItem)
      have hOpened :
          (frames ++ [frame]).any
            OzResponseFrame.needsPrelude = true := by
        simp [hNeeds]
      rw [translateFrame_of_contentItem hItem,
        Client.replay_append, if_pos hOpened]
      rcases replay_ensureKindMessage hItem hUuids frames
          { stateAfter uuids opts frames with
            sentInit :=
              (stateAfter uuids opts frames).sentInit ||
                frame.needsPrelude }
          rfl rfl rfl rfl
          { clientAfter serde uuids frames with
            tasks := ["task-" ++ uuids 0] }
          (List.mem_singleton_self _) rfl with
        ⟨front, held, hTranscript, hMessage, hReplay⟩
      rw [hReplay, Option.bind_some,
        replay_appendItem hUuids item front held hMessage
          ?_ rfl]
      · have hAfter :
            clientAfter serde uuids (frames ++ [frame]) =
              { tasks := ["task-" ++ uuids 0]
                messages :=
                  (front ++
                    [item.kind.contentWith ""
                      (held ++ item.text)]).mapIdx
                        (clientMessage uuids) } := by
          rw [clientAfter, if_pos hOpened, hTranscript]
        rw [hAfter]
      · rw [ensureKindMessage_taskId]
        exact List.mem_singleton_self _

/-
  Replaying the adapter's events on an empty client yields
  the transcript of the frames, one message per run.
-/
theorem replay_output
    {uuids : Nat → String}
    (hUuids : Function.Injective uuids)
    (serde : SerdeJson F)
    (opts : UiAdapterOpts)
    (frames : List (OzResponseFrame F)) :
    Client.empty.replay
        ((machine serde uuids).output (new uuids opts)
          frames) =
      some (clientAfter serde uuids frames) := by
  have hRun :=
    (machine serde uuids).run_invariant
      (I := fun past state trace =>
        state = stateAfter uuids opts past ∧
          Client.empty.replay trace =
            some (clientAfter serde uuids past))
      (s := new uuids opts)
      ⟨rfl, rfl⟩ ?_ frames
  · exact hRun.2
  · rintro past state trace frame ⟨rfl, hReplay⟩
    refine ⟨translate_stateAfter serde uuids opts past frame,
      ?_⟩
    rw [Client.replay_append, hReplay, Option.bind_some]
    exact replay_translate hUuids serde opts past frame

end UiAdapter

end WarpByokProxy
