import WarpByokProxy.History.Items
import WarpByokProxy.History.ToolCallRoundTrip
import WarpByokProxy.Library.Pairing
import WarpByokProxy.Prompt.CachePlacement

/-
  Resuming a tool loop.

  A conversation can go on when the message after each tool
  call has its results. The walker makes one message of each
  call and of each result, so this only holds of calls that
  come one by one: the results of parallel calls are two or
  more messages away from the first of them.

  Key definitions include:
    * `Resumable`
    * `ConversationItem.callId?`
    * `ConversationItem.resultId?`

  Key theorems include:
    * `Resumable.paired`
    * `resumable_of_paired`
    * `resumable_buildMessages_iff`
    * `not_resumable_parallel_calls`
-/

------------------------------------------------------------
-- Resumable Messages
------------------------------------------------------------

namespace WarpByokProxy

variable {F : Type}

/- The id of a tool-use block. -/
def toolUseId?
    (block : Json F) : Option String :=
  if block.getStr "type" = some "tool_use" then
    block.getStr "id"
  else
    none

/- The id that a tool-result block answers. -/
def toolResultId?
    (block : Json F) : Option String :=
  if block.getStr "type" = some "tool_result" then
    block.getStr "tool_use_id"
  else
    none

/- The ids of all tool uses of a message. -/
def toolUseIds
    (message : Json F) : List String :=
  ((contentArray message).getD []).filterMap toolUseId?

/- The ids that the tool results of a message answer. -/
def toolResultIds
    (message : Json F) : List String :=
  ((contentArray message).getD []).filterMap toolResultId?

/-
  Tool uses are answered by the user's next message, and
  tool results belong to the message just before.
-/
structure Resumable
    (messages : List (Json F)) : Prop where
  answered :
    ∀ i message,
      messages[i]? = some message →
      hasRole "assistant" message = true →
      toolUseIds message ≠ [] →
        ∃ next,
          messages[i + 1]? = some next ∧
            hasRole "user" next = true ∧
            toolUseIds message ⊆ toolResultIds next
  asked :
    ∀ i message id,
      messages[i]? = some message →
      id ∈ toolResultIds message →
        ∃ j previous,
          i = j + 1 ∧
            messages[j]? = some previous ∧
            id ∈ toolUseIds previous

namespace ConversationItem

/- The id of a tool call. -/
def callId? : ConversationItem → Option String
  | .toolCall call => some call.toolCallId
  | _ => none

/- The id of the call that a result answers. -/
def resultId? : ConversationItem → Option String
  | .toolResult result => some result.toolCallId
  | .inputToolResult result => some result.toolCallId
  | _ => none

/- No item is both. -/
theorem callId?_of_isSome_resultId?
    (item : ConversationItem)
    (hResult : item.resultId?.isSome = true) :
    item.callId? = none := by
  cases item with
  | toolCall call => contradiction
  | userText text => rfl
  | assistantText text => rfl
  | toolResult result => rfl
  | inputToolResult result => rfl

end ConversationItem

end WarpByokProxy

------------------------------------------------------------
-- Messages Of Items
------------------------------------------------------------

namespace WarpByokProxy

open ConversationItem (callId? resultId?)

variable {F : Type}

theorem contentArray_itemJson
    (dynMsgToJson : DynMsgToJson F)
    (item : ConversationItem) :
    contentArray (itemJson dynMsgToJson item) =
      some [item.block dynMsgToJson] :=
  rfl

/- An encoded item uses a tool when it is a call. -/
theorem mem_toolUseIds_itemJson_iff
    (dynMsgToJson : DynMsgToJson F)
    (item : ConversationItem)
    (id : String) :
    id ∈ toolUseIds (itemJson dynMsgToJson item) ↔
      item.callId? = some id := by
  have hIds :
      toolUseIds (itemJson dynMsgToJson item) =
        item.callId?.toList := by
    rw [toolUseIds, contentArray_itemJson]
    cases item with
    | userText text => rfl
    | assistantText text => rfl
    | toolCall call => rfl
    | toolResult result => rfl
    | inputToolResult result => rfl
  rw [hIds]
  exact Option.mem_toList

/- An encoded item answers a call when it is a result. -/
theorem mem_toolResultIds_itemJson_iff
    (dynMsgToJson : DynMsgToJson F)
    (item : ConversationItem)
    (id : String) :
    id ∈ toolResultIds (itemJson dynMsgToJson item) ↔
      item.resultId? = some id := by
  have hIds :
      toolResultIds (itemJson dynMsgToJson item) =
        item.resultId?.toList := by
    rw [toolResultIds, contentArray_itemJson]
    cases item with
    | userText text => rfl
    | assistantText text => rfl
    | toolCall call => rfl
    | toolResult result => rfl
    | inputToolResult result => rfl
  rw [hIds]
  exact Option.mem_toList

/- Calls are the assistant's. -/
theorem hasRole_itemJson_of_callId?
    (dynMsgToJson : DynMsgToJson F)
    {item : ConversationItem}
    (hCall : item.callId?.isSome = true) :
    hasRole "assistant" (itemJson dynMsgToJson item) =
      true := by
  cases item with
  | toolCall call => rfl
  | userText text => contradiction
  | assistantText text => contradiction
  | toolResult result => contradiction
  | inputToolResult result => contradiction

/- Results are the user's. -/
theorem hasRole_itemJson_of_resultId?
    (dynMsgToJson : DynMsgToJson F)
    {item : ConversationItem}
    (hResult : item.resultId?.isSome = true) :
    hasRole "user" (itemJson dynMsgToJson item) = true := by
  cases item with
  | toolResult result => rfl
  | inputToolResult result => rfl
  | userText text => contradiction
  | assistantText text => contradiction
  | toolCall call => contradiction

/- Encoded items stand where the items stand. -/
theorem getElem?_map_itemJson_iff
    (dynMsgToJson : DynMsgToJson F)
    (items : List ConversationItem)
    (i : Nat)
    (message : Json F) :
    (items.map (itemJson dynMsgToJson))[i]? =
        some message ↔
      ∃ item,
        items[i]? = some item ∧
          itemJson dynMsgToJson item = message := by
  rw [List.getElem?_map, Option.map_eq_some_iff]

/- The items of resumable messages are paired. -/
theorem Resumable.paired
    {dynMsgToJson : DynMsgToJson F}
    {items : List ConversationItem}
    (hResumable :
      Resumable (items.map (itemJson dynMsgToJson))) :
    Pairing.Paired callId? resultId? items where
  answered := by
    intro i item id hGet hCall
    have hMessage :=
      (getElem?_map_itemJson_iff dynMsgToJson items i _).mpr
        ⟨item, hGet, rfl⟩
    have hUse :=
      (mem_toolUseIds_itemJson_iff dynMsgToJson item id).mpr
        hCall
    have hRole :=
      hasRole_itemJson_of_callId? dynMsgToJson
        (Option.isSome_of_eq_some hCall)
    rcases hResumable.answered i _ hMessage hRole
        (List.ne_nil_of_mem hUse) with
      ⟨next, hNext, -, hSubset⟩
    rcases (getElem?_map_itemJson_iff _ _ _ _).mp hNext with
      ⟨result, hResult, rfl⟩
    exact ⟨result, hResult,
      (mem_toolResultIds_itemJson_iff _ result id).mp
        (hSubset hUse)⟩
  asked := by
    intro i item id hGet hResult
    have hMessage :=
      (getElem?_map_itemJson_iff dynMsgToJson items i _).mpr
        ⟨item, hGet, rfl⟩
    rcases hResumable.asked i _ id hMessage
        ((mem_toolResultIds_itemJson_iff _ item id).mpr
          hResult) with
      ⟨j, previous, hIndex, hPrevious, hAsked⟩
    rcases (getElem?_map_itemJson_iff _ _ _ _).mp hPrevious
      with ⟨call, hCall, rfl⟩
    exact ⟨j, call, hIndex, hCall,
      (mem_toolUseIds_itemJson_iff _ call id).mp hAsked⟩

/- The messages of paired items are resumable. -/
theorem resumable_of_paired
    {items : List ConversationItem}
    (hPaired : Pairing.Paired callId? resultId? items)
    (dynMsgToJson : DynMsgToJson F) :
    Resumable (items.map (itemJson dynMsgToJson)) where
  answered := by
    intro i message hGet _ hUses
    rcases (getElem?_map_itemJson_iff _ _ _ _).mp hGet with
      ⟨item, hItem, rfl⟩
    rcases List.exists_mem_of_ne_nil _ hUses with ⟨id, hUse⟩
    have hCall :=
      (mem_toolUseIds_itemJson_iff _ item id).mp hUse
    rcases hPaired.answered i item id hItem hCall with
      ⟨result, hResult, hAnswer⟩
    refine ⟨itemJson dynMsgToJson result, ?_, ?_, ?_⟩
    · exact (getElem?_map_itemJson_iff _ _ _ _).mpr
        ⟨result, hResult, rfl⟩
    · exact hasRole_itemJson_of_resultId? dynMsgToJson
        (Option.isSome_of_eq_some hAnswer)
    · -- A call has one id, so it is the one that is answered.
      intro other hOther
      rw [mem_toolUseIds_itemJson_iff, hCall] at hOther
      rw [mem_toolResultIds_itemJson_iff, hAnswer, hOther]
  asked := by
    intro i message id hGet hMem
    rcases (getElem?_map_itemJson_iff _ _ _ _).mp hGet with
      ⟨item, hItem, rfl⟩
    rcases hPaired.asked i item id hItem
        ((mem_toolResultIds_itemJson_iff _ item id).mp hMem)
      with ⟨j, call, hIndex, hCall, hAsked⟩
    refine ⟨j, itemJson dynMsgToJson call, hIndex, ?_, ?_⟩
    · exact (getElem?_map_itemJson_iff _ _ _ _).mpr
        ⟨call, hCall, rfl⟩
    · exact (mem_toolUseIds_itemJson_iff _ call id).mpr
        hAsked

end WarpByokProxy

------------------------------------------------------------
-- Requests
------------------------------------------------------------

namespace WarpByokProxy

open ConversationItem (callId? resultId?)

variable {F : Type}

/- The diagnostic text is neither call nor result. -/
theorem paired_carriedItems_iff
    (req : Wmaa.Request) :
    Pairing.Paired callId? resultId? (carriedItems req) ↔
      Pairing.Paired callId? resultId? (conversation req) := by
  unfold carriedItems
  cases hItems : conversation req with
  | cons item items => exact Iff.rfl
  | nil =>
      refine iff_of_true ?_ ?_
      · apply Pairing.paired_of_forall_none
        intro item hMem
        rw [List.mem_singleton.mp hMem]
        exact ⟨rfl, rfl⟩
      · apply Pairing.paired_of_forall_none
        intro item hMem
        contradiction

/-
  When each group of calls is followed by its results, the
  messages can be resumed exactly when the calls come one by
  one and no result stands elsewhere.
-/
theorem resumable_buildMessages_iff
    (dynMsgToJson : DynMsgToJson F)
    {req : Wmaa.Request}
    (hGroups :
      Pairing.GroupsAnswered callId? resultId?
        (conversation req)) :
    Resumable (buildMessages dynMsgToJson req) ↔
      Pairing.OneByOne callId? resultId?
        (conversation req) := by
  have hPaired :=
    Pairing.paired_iff
      ConversationItem.callId?_of_isSome_resultId? hGroups
  rw [buildMessages_eq_map, ← hPaired,
    ← paired_carriedItems_iff]
  constructor
  · intro hResumable
    exact hResumable.paired
  · intro hItems
    exact resumable_of_paired hItems dynMsgToJson

/- A turn answers its calls, in parallel or not. -/
theorem groupsAnswered_answeringTurn
    {ids : List String}
    (hNodup : ids.Nodup) :
    Pairing.GroupsAnswered callId? resultId?
      (conversation (answeringTurn ids)) := by
  rw [conversation_answeringTurn]
  have hCallIds :
      (ids.map (fun id =>
        ConversationItem.toolCall
          { toolCallId := id
            tool := none })).filterMap callId? =
        ids := by
    rw [List.filterMap_map]
    exact List.filterMap_some
  have hResultIds :
      (ids.map (fun id =>
        ConversationItem.inputToolResult
          { toolCallId := id
            result := none })).filterMap resultId? =
        ids := by
    rw [List.filterMap_map]
    exact List.filterMap_some
  apply Pairing.groupsAnswered_append
  · intro item hMem
    rcases List.mem_map.mp hMem with ⟨id, -, rfl⟩
    rfl
  · intro item hMem
    rcases List.mem_map.mp hMem with ⟨id, -, rfl⟩
    exact ⟨rfl, rfl⟩
  · rw [hCallIds]
    exact hNodup
  · rw [hCallIds, hResultIds]

theorem resumable_buildMessages_iff_one_call :
    Resumable
        (buildMessages (F := Empty) .canonical
          (answeringTurn ["tu_1"])) ↔
      Pairing.OneByOne callId? resultId?
        (conversation (answeringTurn ["tu_1"])) :=
  resumable_buildMessages_iff .canonical
    (groupsAnswered_answeringTurn
      (List.nodup_singleton "tu_1"))

/- Two parallel calls are answered, but not resumable. -/
theorem not_resumable_parallel_calls :
    ¬ (Pairing.GroupsAnswered callId? resultId?
          (conversation (answeringTurn ["tu_1", "tu_2"])) →
        Resumable
          (buildMessages (F := Empty) .canonical
            (answeringTurn ["tu_1", "tu_2"]))) := by
  intro hResumable
  have hMessages :=
    hResumable (groupsAnswered_answeringTurn (by simp))
  rw [buildMessages_eq_map] at hMessages
  have hPaired := hMessages.paired
  rw [paired_carriedItems_iff, conversation_answeringTurn]
    at hPaired
  rcases hPaired.answered 0 _ "tu_1" rfl rfl with
    ⟨next, hNext, hAnswer⟩
  obtain rfl := Option.some.inj hNext
  contradiction

end WarpByokProxy
