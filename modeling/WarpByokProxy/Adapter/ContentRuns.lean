import WarpByokProxy.Adapter.Replay

/-
  The streamed messages of a turn.

  Frames of other kinds do not interrupt a run of content
  frames. A client that replays the adapter's events holds
  one message for each maximal run of text frames, one for
  each maximal run of reasoning frames, and in each of them
  exactly the texts of its run.

  Key definitions include:
    * `contentRuns`
    * `runTextsOf`
    * `Client.readAll`

  Key theorems include:
    * `transcript_contentItems`
    * `UiAdapter.replay_streamedTexts`
-/

------------------------------------------------------------
-- Runs Of Content Frames
------------------------------------------------------------

namespace WarpByokProxy

variable {F : Type}

/- The text that a text or reasoning frame streams. -/
def OzResponseFrame.streamedText :
    OzResponseFrame F → String
  | .textDelta _ text => text
  | .thinkingDelta _ text _ => text
  | _ => ""

/- The maximal runs of content frames of one kind. -/
def contentRuns
    (frames : List (OzResponseFrame F)) :
    List (List (OzResponseFrame F)) :=
  Runs.of OzResponseFrame.contentKind
    (frames.filter (fun frame => frame.contentKind.isSome))

/- The concatenated texts of the runs of a kind, in order. -/
def runTextsOf
    (kind : ActiveKind)
    (frames : List (OzResponseFrame F)) : List String :=
  (contentRuns frames).filterMap (fun run =>
    if run.head?.bind OzResponseFrame.contentKind =
        some kind then
      some (String.join
        (run.map OzResponseFrame.streamedText))
    else
      none)

/- A frame has an item exactly when it has a kind. -/
theorem isSome_contentItem
    (serde : SerdeJson F)
    (frame : OzResponseFrame F) :
    (contentItem serde frame).isSome =
      frame.contentKind.isSome := by
  rw [← map_kind_contentItem serde frame, Option.isSome_map]

/- The runs of items are the images of the runs of frames. -/
theorem runs_contentItems
    (serde : SerdeJson F)
    (frames : List (OzResponseFrame F)) :
    Runs.of ContentItem.kind (contentItems serde frames) =
      (contentRuns frames).map
        (List.filterMap (contentItem serde)) := by
  have hKept :
      contentItems serde frames =
        (frames.filter
          (fun frame => frame.contentKind.isSome)).filterMap
            (contentItem serde) := by
    simp only [← isSome_contentItem serde]
    rw [contentItems, List.filterMap_filter]
    apply List.filterMap_congr
    intro frame _
    cases hItem : contentItem serde frame with
    | none => rfl
    | some item => rfl
  have hKey :
      (fun frame =>
          (contentItem serde frame).map ContentItem.kind) =
        OzResponseFrame.contentKind := by
    funext frame
    exact map_kind_contentItem serde frame
  rw [hKept, Runs.of_filterMap, hKey]
  · rfl
  · intro frame hFrame
    rw [isSome_contentItem]
    exact (List.mem_filter.mp hFrame).2

/- The transcript, read off the runs of frames. -/
theorem transcript_contentItems
    (serde : SerdeJson F)
    (frames : List (OzResponseFrame F)) :
    transcript (contentItems serde frames) =
      (contentRuns frames).filterMap (fun run =>
        runContent (run.filterMap (contentItem serde))) := by
  rw [transcript, runs_contentItems, List.filterMap_map]
  rfl

/- All frames of a run have the kind of the first one. -/
theorem contentKind_of_mem_run
    {frames run : List (OzResponseFrame F)}
    {kind : ActiveKind}
    (hRun : run ∈ contentRuns frames)
    (hKind :
      run.head?.bind OzResponseFrame.contentKind =
        some kind) :
    ∀ frame ∈ run, frame.contentKind = some kind := by
  have hPairs := Runs.key_eq_of_mem_of hRun
  cases run with
  | nil => simp at hKind
  | cons first rest =>
      rw [List.head?_cons, Option.bind_some] at hKind
      intro frame hFrame
      rcases List.mem_cons.mp hFrame with hFirst | hRest
      · rw [hFirst, hKind]
      · rw [← (List.pairwise_cons.mp hPairs).1 frame hRest,
          hKind]

/- Every run has a kind. -/
theorem exists_kind_of_mem_contentRuns
    {frames run : List (OzResponseFrame F)}
    (hRun : run ∈ contentRuns frames) :
    ∃ kind,
      run.head?.bind OzResponseFrame.contentKind =
        some kind := by
  cases run with
  | nil => exact (Runs.ne_nil_of_mem_of hRun rfl).elim
  | cons first rest =>
      have hMem :
          first ∈ (contentRuns frames).flatten :=
        List.mem_flatten.mpr
          ⟨first :: rest, hRun, List.mem_cons_self⟩
      rw [contentRuns, Runs.flatten_of, List.mem_filter]
        at hMem
      exact Option.isSome_iff_exists.mp hMem.2

/- The content of a run's message has the kind of the run. -/
theorem runContent_of_mem_contentRuns
    (serde : SerdeJson F)
    {frames run : List (OzResponseFrame F)}
    {kind : ActiveKind}
    (hRun : run ∈ contentRuns frames)
    (hKind :
      run.head?.bind OzResponseFrame.contentKind =
        some kind) :
    runContent (run.filterMap (contentItem serde)) =
      some (kind.contentWith ""
        (runText (run.filterMap (contentItem serde)))) := by
  have hAll := contentKind_of_mem_run hRun hKind
  cases run with
  | nil => simp at hKind
  | cons first rest =>
      have hFirst := hAll first List.mem_cons_self
      rw [← map_kind_contentItem serde first] at hFirst
      rcases Option.map_eq_some_iff.mp hFirst with
        ⟨item, hItem, hItemKind⟩
      simp [runContent, runKind, hItem, hItemKind]

/- A streamed item holds the text that its frame streams. -/
theorem text_contentItem_of_ne_toolCall
    (serde : SerdeJson F)
    {frame : OzResponseFrame F}
    {kind : ActiveKind}
    (hKind : frame.contentKind = some kind)
    (hStreamed : kind ≠ .toolCall) :
    (contentItem serde frame).map ContentItem.text =
      some frame.streamedText := by
  cases frame with
  | textDelta => rfl
  | thinkingDelta => rfl
  | toolUse =>
      exact (hStreamed (Option.some.inj hKind).symm).elim
  | toolUseInputDelta =>
      simp [OzResponseFrame.contentKind] at hKind
  | blockStop => simp [OzResponseFrame.contentKind] at hKind
  | usageUpdate => simp [OzResponseFrame.contentKind] at hKind
  | done => simp [OzResponseFrame.contentKind] at hKind

theorem runText_of_mem_contentRuns
    (serde : SerdeJson F)
    {frames run : List (OzResponseFrame F)}
    {kind : ActiveKind}
    (hRun : run ∈ contentRuns frames)
    (hKind :
      run.head?.bind OzResponseFrame.contentKind =
        some kind)
    (hStreamed : kind ≠ .toolCall) :
    runText (run.filterMap (contentItem serde)) =
      String.join (run.map OzResponseFrame.streamedText) := by
  have hTexts :
      (run.filterMap (contentItem serde)).map
          ContentItem.text =
        run.map OzResponseFrame.streamedText := by
    rw [List.map_filterMap, ← List.filterMap_eq_map]
    apply List.filterMap_congr
    intro frame hFrame
    exact text_contentItem_of_ne_toolCall serde
      (contentKind_of_mem_run hRun hKind frame hFrame)
      hStreamed
  rw [runText, hTexts]

end WarpByokProxy

------------------------------------------------------------
-- Streamed Messages Of The Client
------------------------------------------------------------

namespace WarpByokProxy

open Wmaa

/- What a reader of contents finds in a client's messages. -/
def Client.readAll
    {α : Type}
    (client : Client)
    (read : MessageContent → Option α) : List α :=
  client.messages.filterMap
    (fun message => message.message.bind read)

namespace UiAdapter

variable {F : Type}

/- A reader of contents only depends on the transcript. -/
theorem readAll_clientAfter
    {α : Type}
    (read : MessageContent → Option α)
    (serde : SerdeJson F)
    (uuids : Nat → String)
    (frames : List (OzResponseFrame F)) :
    (clientAfter serde uuids frames).readAll read =
      (transcript (contentItems serde frames)).filterMap
        read := by
  unfold clientAfter Client.readAll
  generalize transcript (contentItems serde frames) =
    contents
  induction contents using List.reverseRecOn with
  | nil => rfl
  | append_singleton contents content ih =>
      rw [List.mapIdx_concat, List.filterMap_append,
        List.filterMap_append, ih]
      rfl

/-
  A reader of the texts of one streamed kind finds the
  concatenated texts of the runs of that kind.
-/
theorem readAll_of_streamedKind
    {read : MessageContent → Option String}
    {kind : ActiveKind}
    (hStreamed : kind ≠ .toolCall)
    (hRead :
      ∀ (other : ActiveKind) (text : String),
        read (other.contentWith "" text) =
          if other = kind then some text else none)
    (serde : SerdeJson F)
    (uuids : Nat → String)
    (frames : List (OzResponseFrame F)) :
    (clientAfter serde uuids frames).readAll read =
      runTextsOf kind frames := by
  rw [readAll_clientAfter, transcript_contentItems,
    List.filterMap_filterMap]
  apply List.filterMap_congr
  intro run hRun
  rcases exists_kind_of_mem_contentRuns hRun with
    ⟨other, hOther⟩
  rw [runContent_of_mem_contentRuns serde hRun hOther,
    Option.bind_some, hRead, hOther]
  by_cases hKind : other = kind
  · subst hKind
    rw [if_pos rfl, if_pos rfl,
      runText_of_mem_contentRuns serde hRun hOther
        hStreamed]
  · rw [if_neg hKind, if_neg]
    intro hEq
    exact hKind (Option.some.inj hEq)

/-
  The client's output and reasoning messages are, in order,
  the maximal runs of text and of reasoning frames, and each
  holds the concatenation of its run's texts.
-/
theorem replay_streamedTexts
    {uuids : Nat → String}
    (hUuids : Function.Injective uuids)
    (serde : SerdeJson F)
    (opts : UiAdapterOpts)
    (frames : List (OzResponseFrame F)) :
    ∃ client,
      Client.empty.replay
          ((machine serde uuids).output (new uuids opts)
            frames) =
        some client ∧
      client.readAll MessageContent.agentOutput? =
        runTextsOf .agentOutput frames ∧
      client.readAll MessageContent.agentReasoning? =
        runTextsOf .agentReasoning frames := by
  refine ⟨clientAfter serde uuids frames,
    replay_output hUuids serde opts frames, ?_, ?_⟩
  · apply readAll_of_streamedKind (by decide)
    intro other text
    cases other <;> rfl
  · apply readAll_of_streamedKind (by decide)
    intro other text
    cases other <;> rfl

theorem replay_streamedTexts_interrupted_text :
    ∃ client,
      Client.empty.replay
          ((machine SerdeJson.integral numberedUuids).output
            (new numberedUuids ⟨none, none, none⟩)
            [.textDelta 0 "a", .thinkingDelta 1 "b" none,
              .blockStop 0, .textDelta 0 "c"]) =
        some client ∧
      client.readAll MessageContent.agentOutput? =
        runTextsOf .agentOutput
          [(.textDelta 0 "a" : OzResponseFrame Empty),
            .thinkingDelta 1 "b" none, .blockStop 0,
            .textDelta 0 "c"] ∧
      client.readAll MessageContent.agentReasoning? =
        runTextsOf .agentReasoning
          [(.textDelta 0 "a" : OzResponseFrame Empty),
            .thinkingDelta 1 "b" none, .blockStop 0,
            .textDelta 0 "c"] :=
  replay_streamedTexts numberedUuids_injective
    SerdeJson.integral ⟨none, none, none⟩ _

end UiAdapter

end WarpByokProxy
