import WarpByokProxy.Library.Readings
import WarpByokProxy.Prompt.Documents
import Mathlib.Data.List.Forall2

/-
  The grammar of the messages that the SDK translation
  accepts.

  A block is a text, a cache point, a tool use or a tool
  result, tried in this order; a tool use or a tool result
  can be malformed, and a block of any other kind is skipped.
  A message needs a known role and a content array with a
  block that is read and without malformed blocks.

  Key definitions include:
    * `EntryReads`
    * `BlockReads`
    * `Malformed`
    * `InGrammar`
    * `MessageReads`

  Key theorems include:
    * `blockToContent_of_blockReads`
    * `exists_error_of_malformed`
    * `blockToContent_of_skipped`
    * `messageToSdk_of_pushBlocks`
    * `messageToSdk_of_inGrammar`
    * `messagesToSdk_ok_iff`
-/

------------------------------------------------------------
-- The Grammar
------------------------------------------------------------

namespace WarpByokProxy

open Readings (ReadsAll)

variable {F : Type}

/- The block is a text block. -/
def IsText
    (block : Json F)
    (text : String) : Prop :=
  block.getStr "type" = some "text" ∧
    block.getStr "text" = some text

/- The block has an object under the cache-point key. -/
def IsCachePoint
    (block : Json F) : Prop :=
  ∃ entries,
    block.get "cachePoint" = some (.object entries)

/- The block is neither, so that its type decides. -/
structure IsTyped
    (block : Json F) : Prop where
  notText : ∀ text, ¬ IsText block text
  notCachePoint : ¬ IsCachePoint block

/- What an entry of a tool result stands for. -/
inductive EntryReads :
    Json F → Sdk.ToolResultContentBlock F → Prop where
  | text {entry : Json F} {text : String}
      (hType : entry.getStr "type" = some "text")
      (hText : entry.getStr "text" = some text) :
      EntryReads entry (.text text)
  | json {entry json : Json F} {document : Sdk.Document F}
      (hType : entry.getStr "type" = some "json")
      (hJson : entry.get "json" = some json)
      (hDocument : DocumentReads json document) :
      EntryReads entry (.json document)

/- The arguments of a tool use; without any they are `{}`. -/
inductive InputReads :
    Json F → Sdk.Document F → Prop where
  | missing {block : Json F}
      (hInput : block.get "input" = none) :
      InputReads block (.object [])
  | present {block input : Json F}
      {document : Sdk.Document F}
      (hInput : block.get "input" = some input)
      (hDocument : DocumentReads input document) :
      InputReads block document

/- A result is an error just when the block says so. -/
def StatusReads
    (block : Json F)
    (status : Sdk.ToolResultStatus) : Prop :=
  status = .error ↔
    block.get "is_error" = some (.bool true)

/- What a content block stands for. -/
inductive BlockReads :
    Json F → Sdk.ContentBlock F → Prop where
  | text {block : Json F} {text : String}
      (hText : IsText block text) :
      BlockReads block (.text text)
  | cachePoint {block : Json F}
      (hText : ∀ text, ¬ IsText block text)
      (hCache : IsCachePoint block) :
      BlockReads block (.cachePoint { type := .default })
  | toolUse {block : Json F} {id name : String}
      {input : Sdk.Document F}
      (hTyped : IsTyped block)
      (hType : block.getStr "type" = some "tool_use")
      (hId : block.getStr "id" = some id)
      (hName : block.getStr "name" = some name)
      (hInput : InputReads block input) :
      BlockReads block
        (.toolUse
          { toolUseId := id, name := name, input := input })
  | toolResult {block : Json F} {id : String}
      {entries : List (Json F)}
      {content : List (Sdk.ToolResultContentBlock F)}
      {status : Sdk.ToolResultStatus}
      (hTyped : IsTyped block)
      (hType : block.getStr "type" = some "tool_result")
      (hId : block.getStr "tool_use_id" = some id)
      (hEntries :
        block.get "content" = some (.array entries))
      (hContent : ReadsAll EntryReads entries content)
      (hSome : content ≠ [])
      (hStatus : StatusReads block status) :
      BlockReads block
        (.toolResult
          { toolUseId := id
            content := content
            status := some status })

/- A tool use or a tool result that lacks a part. -/
inductive Malformed : Json F → Prop where
  | toolUse {block : Json F}
      (hTyped : IsTyped block)
      (hType : block.getStr "type" = some "tool_use")
      (hPart :
        block.getStr "id" = none ∨
          block.getStr "name" = none) :
      Malformed block
  | toolResultId {block : Json F}
      (hTyped : IsTyped block)
      (hType : block.getStr "type" = some "tool_result")
      (hId : block.getStr "tool_use_id" = none) :
      Malformed block
  | toolResultContent {block : Json F}
      (hTyped : IsTyped block)
      (hType : block.getStr "type" = some "tool_result")
      (hContent :
        ∀ entries,
          block.get "content" = some (.array entries) →
            ∀ entry ∈ entries, ∀ content,
              ¬ EntryReads entry content) :
      Malformed block

/- The block is of no kind that is translated. -/
structure IsSkipped
    (block : Json F) : Prop extends IsTyped block where
  notToolUse : block.getStr "type" ≠ some "tool_use"
  notToolResult : block.getStr "type" ≠ some "tool_result"

/- The role of a message. -/
inductive RoleReads :
    Json F → Sdk.ConversationRole → Prop where
  | user {message : Json F}
      (hRole : message.getStr "role" = some "user") :
      RoleReads message .user
  | assistant {message : Json F}
      (hRole : message.getStr "role" = some "assistant") :
      RoleReads message .assistant

/- The message can be translated. -/
def InGrammar
    (message : Json F) : Prop :=
  ∃ role blocks,
    RoleReads message role ∧
      message.get "content" = some (.array blocks) ∧
      (∃ block ∈ blocks, ∃ content,
        BlockReads block content) ∧
      ∀ block ∈ blocks, ¬ Malformed block

/- What a message stands for. -/
def MessageReads
    (message : Json F)
    (out : Sdk.Message F) : Prop :=
  RoleReads message out.role ∧
    ∃ blocks,
      message.get "content" = some (.array blocks) ∧
        ReadsAll BlockReads blocks out.content

end WarpByokProxy

------------------------------------------------------------
-- Parts Of A Block
------------------------------------------------------------

namespace WarpByokProxy

open Readings
  (ReadsAll foldl_collect readsAll_iff_filterMap)

variable {F : Type}

theorem extractTextBlock_eq_some_iff
    (block : Json F)
    (text : String) :
    extractTextBlock block = some text ↔
      IsText block text := by
  unfold extractTextBlock IsText
  cases hType : block.getStr "type" with
  | none => simp
  | some ty =>
      by_cases hText : ty = "text"
      · simp [hText]
      · simp [hText]

theorem isCachePointBlock_iff
    (block : Json F) :
    isCachePointBlock block = true ↔ IsCachePoint block := by
  unfold isCachePointBlock IsCachePoint
  cases block.get "cachePoint" with
  | none => simp
  | some value => cases value <;> simp

theorem toolResultEntry_eq_some_iff
    (entry : Json F)
    (content : Sdk.ToolResultContentBlock F) :
    toolResultEntry entry = some content ↔
      EntryReads entry content := by
  constructor
  · intro hEntry
    unfold toolResultEntry at hEntry
    split at hEntry
    · rename_i hType
      rcases Option.map_eq_some_iff.mp hEntry with
        ⟨text, hText, rfl⟩
      exact .text hType hText
    · rename_i hType
      rcases Option.map_eq_some_iff.mp hEntry with
        ⟨json, hJson, rfl⟩
      exact
        .json hType hJson (documentReads_jsonToDocument json)
    · contradiction
  · intro hReads
    cases hReads with
    | text hType hText =>
        rw [toolResultEntry, hType, hText]
        rfl
    | json hType hJson hDocument =>
        rw [documentReads_iff] at hDocument
        rw [toolResultEntry, hType, hJson, ← hDocument]
        rfl

/- A block that is typed passes the tests before its type. -/
theorem extractTextBlock_of_isTyped
    {block : Json F}
    (hTyped : IsTyped block) :
    extractTextBlock block = none := by
  rw [Option.eq_none_iff_forall_ne_some]
  intro text hSome
  exact hTyped.notText text
    ((extractTextBlock_eq_some_iff block text).mp hSome)

theorem isCachePointBlock_of_isTyped
    {block : Json F}
    (hTyped : IsTyped block) :
    isCachePointBlock block = false := by
  rw [Bool.eq_false_iff, Ne, isCachePointBlock_iff]
  exact hTyped.notCachePoint

/- Pushing entries sets the content, unless there are none. -/
theorem foldl_pushContent_toolResult
    (builder : Sdk.ToolResultBlockBuilder F)
    {content : List (Sdk.ToolResultContentBlock F)}
    (hSome : content ≠ []) :
    content.foldl .pushContent builder =
      { builder with
        content :=
          some (builder.content.getD [] ++ content) } := by
  refine foldl_collect
    (fun builder entries =>
      { builder with
        content :=
          some (builder.content.getD [] ++ entries) })
    ?_ ?_ builder hSome
  · intro builder entry
    rfl
  · intro builder entry entries
    simp [Sdk.ToolResultBlockBuilder.pushContent]

end WarpByokProxy

------------------------------------------------------------
-- Tool Blocks
------------------------------------------------------------

namespace WarpByokProxy

open Readings (ReadsAll readsAll_iff_filterMap)

variable {F : Type}

/- A complete tool use is built. -/
theorem buildToolUseBlock_of_complete
    {builders : Sdk.Builders F}
    (hBuilders : builders.RequireFields)
    {block : Json F}
    (hType : block.getStr "type" = some "tool_use")
    {id name : String}
    (hId : block.getStr "id" = some id)
    (hName : block.getStr "name" = some name)
    {input : Sdk.Document F}
    (hInput : InputReads block input) :
    buildToolUseBlock builders block =
      .ok (some
        { toolUseId := id, name := name, input := input }) := by
  have hDoc : toolUseInput block = input := by
    cases hInput with
    | missing hNone => rw [toolUseInput, hNone]
    | present hSome hDocument =>
        rw [documentReads_iff] at hDocument
        rw [toolUseInput, hSome]
        exact hDocument
  rw [buildToolUseBlock, if_neg (not_not_intro hType), hId,
    hName]
  simp only [hDoc, hBuilders.toolUse]

/- A tool use without id or name is refused. -/
theorem exists_error_buildToolUseBlock
    (builders : Sdk.Builders F)
    {block : Json F}
    (hType : block.getStr "type" = some "tool_use")
    (hPart :
      block.getStr "id" = none ∨
        block.getStr "name" = none) :
    ∃ e, buildToolUseBlock builders block = .error e := by
  rw [buildToolUseBlock, if_neg (not_not_intro hType)]
  cases hId : block.getStr "id" with
  | none => exact ⟨_, rfl⟩
  | some id =>
      rcases hPart with hNone | hNone
      · rw [hId] at hNone
        contradiction
      · rw [hNone]
        exact ⟨_, rfl⟩

/- Blocks of other types are no tool uses. -/
theorem buildToolUseBlock_of_ne
    (builders : Sdk.Builders F)
    {block : Json F}
    (hType : block.getStr "type" ≠ some "tool_use") :
    buildToolUseBlock builders block = .ok none := by
  rw [buildToolUseBlock, if_pos hType]

/- The status that the translation gives a result. -/
theorem exists_toolResultStatus
    (block : Json F) :
    ∃ status,
      toolResultStatus block = some status ∧
        StatusReads block status := by
  unfold toolResultStatus StatusReads
  cases block.get "is_error" with
  | none => exact ⟨.success, rfl, by simp⟩
  | some value =>
      cases value with
      | bool flag =>
          cases flag with
          | true => exact ⟨.error, rfl, by simp⟩
          | false => exact ⟨.success, rfl, by simp⟩
      | null => exact ⟨.success, rfl, by simp⟩
      | number => exact ⟨.success, rfl, by simp⟩
      | string => exact ⟨.success, rfl, by simp⟩
      | array => exact ⟨.success, rfl, by simp⟩
      | object => exact ⟨.success, rfl, by simp⟩

/- A status is determined by what it says. -/
theorem StatusReads.unique
    {block : Json F}
    {left right : Sdk.ToolResultStatus}
    (hLeft : StatusReads block left)
    (hRight : StatusReads block right) :
    left = right := by
  have hIff := hLeft.trans hRight.symm
  cases left with
  | error => exact (hIff.mp rfl).symm
  | success =>
      cases right with
      | error => exact hIff.mpr rfl
      | success => rfl

/- A complete tool result is built. -/
theorem buildToolResultBlock_of_complete
    {builders : Sdk.Builders F}
    (hBuilders : builders.RequireFields)
    {block : Json F}
    (hType : block.getStr "type" = some "tool_result")
    {id : String}
    (hId : block.getStr "tool_use_id" = some id)
    {entries : List (Json F)}
    (hEntries :
      block.get "content" = some (.array entries))
    {content : List (Sdk.ToolResultContentBlock F)}
    (hContent : ReadsAll EntryReads entries content)
    (hSome : content ≠ [])
    {status : Sdk.ToolResultStatus}
    (hStatus : StatusReads block status) :
    buildToolResultBlock builders block =
      .ok (some
        { toolUseId := id
          content := content
          status := some status }) := by
  rcases exists_toolResultStatus block with
    ⟨found, hFound, hReads⟩
  obtain rfl := hReads.unique hStatus
  rw [readsAll_iff_filterMap toolResultEntry_eq_some_iff]
    at hContent
  rw [buildToolResultBlock, if_neg (not_not_intro hType),
    hId]
  simp only [hEntries, Option.bind_some, Json.asArray,
    Option.getD_some, hContent, hFound,
    foldl_pushContent_toolResult _ hSome, Option.getD_none,
    List.nil_append, hBuilders.toolResult]

/- A tool result without id is refused. -/
theorem exists_error_of_toolResultId
    (builders : Sdk.Builders F)
    {block : Json F}
    (hType : block.getStr "type" = some "tool_result")
    (hId : block.getStr "tool_use_id" = none) :
    ∃ e, buildToolResultBlock builders block = .error e := by
  rw [buildToolResultBlock, if_neg (not_not_intro hType),
    hId]
  exact ⟨_, rfl⟩

/- A tool result without any entry that reads is refused. -/
theorem exists_error_of_toolResultContent
    {builders : Sdk.Builders F}
    (hBuilders : builders.RequireFields)
    {block : Json F}
    (hType : block.getStr "type" = some "tool_result")
    (hContent :
      ∀ entries,
        block.get "content" = some (.array entries) →
          ∀ entry ∈ entries, ∀ content,
            ¬ EntryReads entry content) :
    ∃ e, buildToolResultBlock builders block = .error e := by
  have hNone :
      (((block.get "content").bind
          Json.asArray).getD []).filterMap
            toolResultEntry = [] := by
    rw [List.filterMap_eq_nil_iff]
    intro entry hMem
    rw [Option.eq_none_iff_forall_ne_some]
    intro content hSome
    exact hContent _ (Json.eq_array_of_mem_items hMem) entry
      hMem content
      ((toolResultEntry_eq_some_iff entry content).mp hSome)
  rw [buildToolResultBlock, if_neg (not_not_intro hType)]
  cases block.getStr "tool_use_id" with
  | none => exact ⟨_, rfl⟩
  | some id =>
      rcases exists_toolResultStatus block with
        ⟨status, hStatus, -⟩
      rcases hBuilders.toolResult_unset (some id)
          (some status) with ⟨e, hError⟩
      simp only [hNone, hStatus, List.foldl_nil, hError]
      exact ⟨_, rfl⟩

/- Blocks of other types are no tool results. -/
theorem buildToolResultBlock_of_ne
    (builders : Sdk.Builders F)
    {block : Json F}
    (hType : block.getStr "type" ≠ some "tool_result") :
    buildToolResultBlock builders block = .ok none := by
  rw [buildToolResultBlock, if_pos hType]

end WarpByokProxy

------------------------------------------------------------
-- Blocks
------------------------------------------------------------

namespace WarpByokProxy

open Readings (ReadsAll readsAll_iff_filterMap)

variable {F : Type}

/- One type is not the other. -/
theorem not_toolUse_of_toolResult
    {block : Json F}
    (hType : block.getStr "type" = some "tool_result") :
    block.getStr "type" ≠ some "tool_use" := by
  intro hEq
  rw [hType, Option.some.injEq] at hEq
  contradiction

/- A typed block that is no tool use may be a tool result. -/
theorem blockToContent_of_ne_toolUse
    (builders : Sdk.Builders F)
    {block : Json F}
    (hTyped : IsTyped block)
    (hType : block.getStr "type" ≠ some "tool_use") :
    blockToContent builders block =
      (buildToolResultBlock builders block).map
        (Option.map .toolResult) := by
  rw [blockToContent, extractTextBlock_of_isTyped hTyped]
  simp only [isCachePointBlock_of_isTyped hTyped,
    Bool.false_eq_true, if_false,
    buildToolUseBlock_of_ne builders hType]
  cases buildToolResultBlock builders block with
  | error e => rfl
  | ok result =>
      cases result with
      | none => rfl
      | some toolResult => rfl

/- A block that reads is translated to what it stands for. -/
theorem blockToContent_of_blockReads
    {builders : Sdk.Builders F}
    (hBuilders : builders.RequireFields)
    {block : Json F}
    {content : Sdk.ContentBlock F}
    (hReads : BlockReads block content) :
    blockToContent builders block = .ok (some content) := by
  cases hReads with
  | text hText =>
      rw [blockToContent,
        (extractTextBlock_eq_some_iff block _).mpr hText]
  | cachePoint hText hCache =>
      have hNone : extractTextBlock block = none := by
        rw [Option.eq_none_iff_forall_ne_some]
        intro text hSome
        exact hText text
          ((extractTextBlock_eq_some_iff block
            text).mp hSome)
      rw [blockToContent, hNone]
      simp only [(isCachePointBlock_iff block).mpr hCache,
        if_true, hBuilders.cachePoint]
  | toolUse hTyped hType hId hName hInput =>
      rw [blockToContent, extractTextBlock_of_isTyped hTyped]
      simp only [isCachePointBlock_of_isTyped hTyped,
        Bool.false_eq_true, if_false,
        buildToolUseBlock_of_complete hBuilders hType hId
          hName hInput]
  | toolResult hTyped hType hId hEntries hContent hSome
      hStatus =>
      rw [blockToContent_of_ne_toolUse builders hTyped
          (not_toolUse_of_toolResult hType),
        buildToolResultBlock_of_complete hBuilders hType hId
          hEntries hContent hSome hStatus]
      rfl

/- A malformed block is refused. -/
theorem exists_error_of_malformed
    {builders : Sdk.Builders F}
    (hBuilders : builders.RequireFields)
    {block : Json F}
    (hMalformed : Malformed block) :
    ∃ e, blockToContent builders block = .error e := by
  cases hMalformed with
  | toolUse hTyped hType hPart =>
      rcases exists_error_buildToolUseBlock builders hType
          hPart with ⟨e, hError⟩
      refine ⟨e, ?_⟩
      rw [blockToContent, extractTextBlock_of_isTyped hTyped]
      simp only [isCachePointBlock_of_isTyped hTyped,
        Bool.false_eq_true, if_false, hError]
  | toolResultId hTyped hType hId =>
      rcases exists_error_of_toolResultId builders hType
          hId with ⟨e, hError⟩
      rw [blockToContent_of_ne_toolUse builders hTyped
        (not_toolUse_of_toolResult hType), hError]
      exact ⟨e, rfl⟩
  | toolResultContent hTyped hType hContent =>
      rcases exists_error_of_toolResultContent hBuilders
          hType hContent with ⟨e, hError⟩
      rw [blockToContent_of_ne_toolUse builders hTyped
        (not_toolUse_of_toolResult hType), hError]
      exact ⟨e, rfl⟩

/- A block of another kind is skipped. -/
theorem blockToContent_of_skipped
    (builders : Sdk.Builders F)
    {block : Json F}
    (hSkipped : IsSkipped block) :
    blockToContent builders block = .ok none := by
  rw [blockToContent_of_ne_toolUse builders
      hSkipped.toIsTyped hSkipped.notToolUse,
    buildToolResultBlock_of_ne builders
      hSkipped.notToolResult]
  rfl

/- A typed tool use is read, or lacks its id or its name. -/
theorem blockReads_or_malformed_of_toolUse
    {block : Json F}
    (hTyped : IsTyped block)
    (hUse : block.getStr "type" = some "tool_use") :
    (∃ content, BlockReads block content) ∨
      Malformed block := by
  cases hId : block.getStr "id" with
  | none =>
      exact .inr (.toolUse hTyped hUse (.inl hId))
  | some id =>
      cases hName : block.getStr "name" with
      | none =>
          exact .inr (.toolUse hTyped hUse (.inr hName))
      | some name =>
          left
          cases hInput : block.get "input" with
          | none =>
              exact ⟨_, .toolUse hTyped hUse hId hName
                (.missing hInput)⟩
          | some input =>
              exact ⟨_, .toolUse hTyped hUse hId hName
                (.present hInput
                  (documentReads_jsonToDocument input))⟩

/- A typed tool result is read, or lacks its id or content. -/
theorem blockReads_or_malformed_of_toolResult
    {block : Json F}
    (hTyped : IsTyped block)
    (hResult : block.getStr "type" = some "tool_result") :
    (∃ content, BlockReads block content) ∨
      Malformed block := by
  cases hId : block.getStr "tool_use_id" with
  | none =>
      exact .inr (.toolResultId hTyped hResult hId)
  | some id =>
      by_cases hEntries :
          ∃ entries,
            block.get "content" = some (.array entries) ∧
              ∃ entry ∈ entries, ∃ content,
                EntryReads entry content
      · left
        rcases hEntries with ⟨entries, hGet, hEntry⟩
        have hContent :=
          (readsAll_iff_filterMap
            toolResultEntry_eq_some_iff entries _).mpr rfl
        rcases exists_toolResultStatus block with
          ⟨status, -, hStatus⟩
        exact ⟨_, .toolResult hTyped hResult hId hGet hContent
          (hContent.ne_nil_iff.mpr hEntry) hStatus⟩
      · right
        apply Malformed.toolResultContent hTyped hResult
        intro entries hGet entry hMem content hReads
        apply hEntries
        exact ⟨entries, hGet, entry, hMem, content, hReads⟩

/- Every block reads, or is malformed, or is skipped. -/
theorem blockReads_or_malformed_or_skipped
    (block : Json F) :
    (∃ content, BlockReads block content) ∨
      Malformed block ∨ IsSkipped block := by
  by_cases hText : ∃ text, IsText block text
  · rcases hText with ⟨text, hText⟩
    exact .inl ⟨_, .text hText⟩
  · rw [not_exists] at hText
    by_cases hCache : IsCachePoint block
    · exact .inl ⟨_, .cachePoint hText hCache⟩
    · have hTyped : IsTyped block :=
        { notText := hText, notCachePoint := hCache }
      rw [← or_assoc]
      by_cases hUse :
          block.getStr "type" = some "tool_use"
      · left
        exact blockReads_or_malformed_of_toolUse hTyped hUse
      · by_cases hResult :
            block.getStr "type" = some "tool_result"
        · left
          exact
            blockReads_or_malformed_of_toolResult hTyped
              hResult
        · right
          exact
            { hTyped with
              notToolUse := hUse
              notToolResult := hResult }

end WarpByokProxy

------------------------------------------------------------
-- Messages
------------------------------------------------------------

namespace WarpByokProxy

open Readings (ReadsAll foldl_collect)

variable {F : Type}

/- Pushing blocks sets the content, unless there are none. -/
theorem foldl_pushContent_message
    (builder : Sdk.MessageBuilder F)
    {content : List (Sdk.ContentBlock F)}
    (hSome : content ≠ []) :
    content.foldl .pushContent builder =
      { builder with
        content :=
          some (builder.content.getD [] ++ content) } := by
  refine foldl_collect
    (fun builder blocks =>
      { builder with
        content :=
          some (builder.content.getD [] ++ blocks) })
    ?_ ?_ builder hSome
  · intro builder block
    rfl
  · intro builder block blocks
    simp [Sdk.MessageBuilder.pushContent]

/- Well-formed blocks are pushed in order. -/
theorem pushBlocks_of_forall_not_malformed
    {builders : Sdk.Builders F}
    (hBuilders : builders.RequireFields)
    {blocks : List (Json F)}
    (hBlocks : ∀ block ∈ blocks, ¬ Malformed block)
    (idx bIdx : Nat)
    (builder : Sdk.MessageBuilder F) :
    ∃ content,
      ReadsAll BlockReads blocks content ∧
        pushBlocks builders idx bIdx blocks builder =
          .ok (content.foldl .pushContent builder) := by
  induction blocks generalizing bIdx builder with
  | nil => exact ⟨[], .nil, rfl⟩
  | cons block blocks ih =>
      have hRest :
          ∀ other ∈ blocks, ¬ Malformed other :=
        fun other hMem =>
          hBlocks other (List.mem_cons_of_mem block hMem)
      rcases blockReads_or_malformed_or_skipped block with
        ⟨first, hReads⟩ | hMalformed | hSkipped
      · rcases ih hRest (bIdx + 1)
            (builder.pushContent first) with
          ⟨content, hContent, hPush⟩
        refine ⟨first :: content, .read hReads hContent, ?_⟩
        rw [pushBlocks,
          blockToContent_of_blockReads hBuilders hReads]
        exact hPush
      · exact absurd hMalformed
          (hBlocks block List.mem_cons_self)
      · rcases ih hRest (bIdx + 1) builder with
          ⟨content, hContent, hPush⟩
        have hTranslated :=
          blockToContent_of_skipped builders hSkipped
        refine ⟨content, .skip ?_ hContent, ?_⟩
        · intro other hReads
          rw [blockToContent_of_blockReads hBuilders hReads,
            Except.ok.injEq] at hTranslated
          contradiction
        · rw [pushBlocks, hTranslated]
          exact hPush

/- The first malformed block fails the message. -/
theorem exists_error_pushBlocks
    {builders : Sdk.Builders F}
    (hBuilders : builders.RequireFields)
    {blocks : List (Json F)}
    (hBlocks : ∃ block ∈ blocks, Malformed block)
    (idx bIdx : Nat)
    (builder : Sdk.MessageBuilder F) :
    ∃ e,
      pushBlocks builders idx bIdx blocks builder =
        .error e := by
  induction blocks generalizing bIdx builder with
  | nil =>
      rcases hBlocks with ⟨block, hMem, -⟩
      exact absurd hMem List.not_mem_nil
  | cons block blocks ih =>
      rw [pushBlocks]
      by_cases hHead : Malformed block
      · rcases exists_error_of_malformed hBuilders hHead with
          ⟨e, hError⟩
        rw [hError]
        exact ⟨_, rfl⟩
      · have hRest : ∃ other ∈ blocks, Malformed other := by
          rcases hBlocks with ⟨other, hMem, hMalformed⟩
          rcases List.mem_cons.mp hMem with rfl | hOld
          · exact absurd hMalformed hHead
          · exact ⟨other, hOld, hMalformed⟩
        cases blockToContent builders block with
        | error e => exact ⟨_, rfl⟩
        | ok content =>
            cases content with
            | none => exact ih hRest _ _
            | some content => exact ih hRest _ _

/- The role of a message is the one that is parsed. -/
theorem roleReads_iff
    (message : Json F)
    (role : Sdk.ConversationRole) :
    RoleReads message role ↔
      (message.getStr "role").bind parseRole =
        some role := by
  constructor
  · intro hReads
    cases hReads with
    | user hRole =>
        rw [hRole]
        rfl
    | assistant hRole =>
        rw [hRole]
        rfl
  · intro hParsed
    rcases Option.bind_eq_some_iff.mp hParsed with
      ⟨text, hRole, hText⟩
    unfold parseRole at hText
    split at hText
    · obtain rfl := Option.some.inj hText
      exact .user hRole
    · obtain rfl := Option.some.inj hText
      exact .assistant hRole
    · contradiction

/- A message whose pushed blocks are some is built. -/
theorem messageToSdk_of_pushBlocks
    {builders : Sdk.Builders F}
    (hBuilders : builders.RequireFields)
    {message : Json F}
    {role : Sdk.ConversationRole}
    (hRole : RoleReads message role)
    {blocks : List (Json F)}
    (hGet : message.get "content" = some (.array blocks))
    {idx : Nat}
    {content : List (Sdk.ContentBlock F)}
    (hPush :
      pushBlocks builders idx 0 blocks
          { role := some role, content := none } =
        .ok (content.foldl .pushContent
          { role := some role, content := none }))
    (hSome : content ≠ []) :
    messageToSdk builders idx message =
      .ok { role := role, content := content } := by
  rcases Option.bind_eq_some_iff.mp
      ((roleReads_iff message role).mp hRole) with
    ⟨roleStr, hRoleStr, hParsed⟩
  rw [foldl_pushContent_message _ hSome] at hPush
  rw [messageToSdk, hRoleStr]
  simp only [hParsed, hGet, Option.bind_some, Json.asArray,
    Option.getD_some, hPush, Option.getD_none,
    List.nil_append, hBuilders.message]

/- A message in the grammar is translated faithfully. -/
theorem messageToSdk_of_inGrammar
    {builders : Sdk.Builders F}
    (hBuilders : builders.RequireFields)
    {message : Json F}
    (hGrammar : InGrammar message)
    (idx : Nat) :
    ∃ out,
      messageToSdk builders idx message = .ok out ∧
        MessageReads message out := by
  rcases hGrammar with
    ⟨role, blocks, hRole, hGet, hSome, hWell⟩
  rcases pushBlocks_of_forall_not_malformed hBuilders hWell
      idx 0 { role := some role, content := none } with
    ⟨content, hContent, hPush⟩
  have hOk :=
    messageToSdk_of_pushBlocks hBuilders hRole hGet hPush
      (hContent.ne_nil_iff.mpr hSome)
  exact ⟨_, hOk, hRole, blocks, hGet, hContent⟩

/- A message outside the grammar is refused. -/
theorem exists_error_of_not_inGrammar
    {builders : Sdk.Builders F}
    (hBuilders : builders.RequireFields)
    {message : Json F}
    (hGrammar : ¬ InGrammar message)
    (idx : Nat) :
    ∃ e, messageToSdk builders idx message = .error e := by
  rw [messageToSdk]
  cases hRoleStr : message.getStr "role" with
  | none => exact ⟨_, rfl⟩
  | some roleStr =>
      cases hParsed : parseRole roleStr with
      | none =>
          simp only [hParsed]
          exact ⟨_, rfl⟩
      | some role =>
          have hRole : RoleReads message role := by
            rw [roleReads_iff, hRoleStr]
            exact hParsed
          let blocks :=
            ((message.get "content").bind
              Json.asArray).getD []
          by_cases hWell :
              ∃ block ∈ blocks, Malformed block
          · rcases exists_error_pushBlocks hBuilders hWell
                idx 0 { role := some role, content := none }
              with ⟨e, hError⟩
            simp only [hParsed, blocks] at hError ⊢
            rw [hError]
            exact ⟨e, rfl⟩
          · have hForall :
                ∀ block ∈ blocks, ¬ Malformed block :=
              fun block hMem hMalformed =>
                hWell ⟨block, hMem, hMalformed⟩
            rcases pushBlocks_of_forall_not_malformed
                hBuilders hForall idx 0
                { role := some role, content := none } with
              ⟨content, hContent, hPush⟩
            -- Nothing was read, so content was never set.
            have hNone : content = [] := by
              by_contra hSome
              rcases hContent.ne_nil_iff.mp hSome with
                ⟨block, hMem, hReads⟩
              exact hGrammar
                ⟨role, blocks, hRole,
                  Json.eq_array_of_mem_items hMem,
                  ⟨block, hMem, hReads⟩, hForall⟩
            rcases hBuilders.message_unset (some role) with
              ⟨e, hError⟩
            rw [hNone, List.foldl_nil] at hPush
            simp only [hParsed, blocks] at hPush ⊢
            rw [hPush]
            exact ⟨e, hError⟩

end WarpByokProxy

------------------------------------------------------------
-- Lists Of Messages
------------------------------------------------------------

namespace WarpByokProxy

variable {F : Type}

/- A translated message is in the grammar. -/
theorem inGrammar_of_messageToSdk
    {builders : Sdk.Builders F}
    (hBuilders : builders.RequireFields)
    {message : Json F}
    {idx : Nat}
    {out : Sdk.Message F}
    (hOk : messageToSdk builders idx message = .ok out) :
    InGrammar message ∧ MessageReads message out := by
  by_cases hGrammar : InGrammar message
  · rcases messageToSdk_of_inGrammar hBuilders hGrammar idx
      with ⟨found, hFound, hReads⟩
    rw [hOk, Except.ok.injEq] at hFound
    rw [hFound]
    exact ⟨hGrammar, hReads⟩
  · rcases exists_error_of_not_inGrammar hBuilders hGrammar
      idx with ⟨e, hError⟩
    rw [hOk] at hError
    contradiction

/- Messages in the grammar are translated one by one. -/
theorem messagesToSdkFrom_of_inGrammar
    {builders : Sdk.Builders F}
    (hBuilders : builders.RequireFields)
    {messages : List (Json F)}
    (hMessages : ∀ message ∈ messages, InGrammar message)
    (idx : Nat) :
    ∃ out,
      messagesToSdkFrom builders idx messages = .ok out := by
  induction messages generalizing idx with
  | nil => exact ⟨[], rfl⟩
  | cons message messages ih =>
      have hHead := hMessages message List.mem_cons_self
      rcases messageToSdk_of_inGrammar hBuilders hHead idx
        with ⟨first, hFirst, -⟩
      rcases ih (fun other hMem =>
          hMessages other (List.mem_cons_of_mem _ hMem))
          (idx + 1) with ⟨rest, hRest⟩
      rw [messagesToSdkFrom, hFirst]
      simp only [hRest]
      exact ⟨_, rfl⟩

/- What is translated is in the grammar, and read rightly. -/
theorem forall₂_of_messagesToSdkFrom
    {builders : Sdk.Builders F}
    (hBuilders : builders.RequireFields)
    {messages : List (Json F)}
    {idx : Nat}
    {out : List (Sdk.Message F)}
    (hOk :
      messagesToSdkFrom builders idx messages = .ok out) :
    List.Forall₂
      (fun message sdkMessage =>
        InGrammar message ∧ MessageReads message sdkMessage)
      messages out := by
  induction messages generalizing idx out with
  | nil =>
      obtain rfl := Except.ok.inj hOk
      exact .nil
  | cons message messages ih =>
      rw [messagesToSdkFrom] at hOk
      cases hFirst : messageToSdk builders idx message with
      | error e =>
          rw [hFirst] at hOk
          contradiction
      | ok first =>
          rw [hFirst] at hOk
          cases hRest :
              messagesToSdkFrom builders (idx + 1)
                messages with
          | error e =>
              simp only [hRest] at hOk
              contradiction
          | ok rest =>
              simp only [hRest] at hOk
              obtain rfl := Except.ok.inj hOk
              exact .cons
                (inGrammar_of_messageToSdk hBuilders hFirst)
                (ih hRest)

/-
  Messages are accepted exactly when all of them are in the
  grammar, and then they are read in order.
-/
theorem messagesToSdk_ok_iff
    {builders : Sdk.Builders F}
    (hBuilders : builders.RequireFields)
    (messages : List (Json F)) :
    ((∃ out, messagesToSdk builders messages = .ok out) ↔
        ∀ message ∈ messages, InGrammar message) ∧
      ∀ out,
        messagesToSdk builders messages = .ok out →
          List.Forall₂ MessageReads messages out := by
  constructor
  · constructor
    · rintro ⟨out, hOk⟩
      have hAll :=
        forall₂_of_messagesToSdkFrom hBuilders hOk
      exact ((List.forall₂_and_left _ _).mp hAll).1
    · intro hMessages
      exact messagesToSdkFrom_of_inGrammar hBuilders
        hMessages 0
  · intro out hOk
    have hAll := forall₂_of_messagesToSdkFrom hBuilders hOk
    exact ((List.forall₂_and_left _ _).mp hAll).2

/- A message with a block of each type, and an image. -/
def mixedMessage : Json Empty :=
  .object
    [("role", .string "assistant"),
      ("content", .array
        [.ofStrings
            [("type", "text"), ("text", "searching")],
          .object
            [("type", .string "tool_use"),
              ("id", .string "tu_1"),
              ("name", .string "grep"),
              ("input", .ofStrings [("pattern", "fn")])],
          .ofStrings [("type", "image")],
          .object
            [("type", .string "tool_result"),
              ("tool_use_id", .string "tu_0"),
              ("content", .array
                [.ofStrings
                    [("type", "text"), ("text", "3 hits")],
                  .object
                    [("type", .string "json"),
                      ("json", .number (.posInt 3))]]),
              ("is_error", .bool true)]])]

/- It is in the grammar, and read without the image. -/
theorem messagesToSdk_ok_iff_mixed_blocks :
    InGrammar mixedMessage ∧
      List.Forall₂ MessageReads [mixedMessage]
        [{ role := .assistant
           content :=
            [.text "searching",
              .toolUse
                { toolUseId := "tu_1"
                  name := "grep"
                  input :=
                    .object [("pattern", .string "fn")] },
              .toolResult
                { toolUseId := "tu_0"
                  content :=
                    [.text "3 hits",
                      .json (.number (.posInt 3))]
                  status := some .error }] }] := by
  rcases messagesToSdk_ok_iff
      (Sdk.Builders.strict_requireFields (F := Empty))
      [mixedMessage] with ⟨hIff, hReads⟩
  refine ⟨?_, hReads _ rfl⟩
  exact hIff.mp ⟨_, rfl⟩ mixedMessage List.mem_cons_self

end WarpByokProxy
