import WarpByokProxy.Adapter.Appends
import WarpByokProxy.Translator

/-
  Tool calls on their way back from the client.

  The adapter packs a call into the opaque payload of a
  message; the walker transcodes the whole message instead
  of unpacking it. It looks for the tool under the name of a
  oneof, which is never a key, and it sends the message's
  own encoding as the input, which is longer than the input
  inside it.

  Key definitions include:
    * `lowerCamelCase`
    * `Wmaa.ToolCall.jsonKeys`
    * `DynMsgToJson.Canonical`
    * `DynMsgToJson.canonical`
    * `RoundTripsCall`

  Key theorems include:
    * `priorMessageToJson_toolCallOf`
    * `ne_toolCall_of_payload`
    * `not_roundTripsCall`
-/

------------------------------------------------------------
-- Canonical JSON Of Tool Calls
------------------------------------------------------------

namespace WarpByokProxy

variable {F : Type}

/- Drop underscores and raise the letters after them. -/
def camelCaseChars
    (raise : Bool) : List Char → List Char
  | [] => []
  | '_' :: rest => camelCaseChars true rest
  | c :: rest =>
      (if raise then c.toUpper else c) ::
        camelCaseChars false rest

/- The JSON name of a protobuf field. -/
def lowerCamelCase
    (fieldName : String) : String :=
  String.ofList (camelCaseChars false fieldName.toList)

namespace Wmaa

/- The JSON name of a tool variant. -/
def Tool.jsonKey : Tool → String
  | .server _ => "server"
  | .other variant => lowerCamelCase variant.fieldName

/-
  The JSON names of the fields that a tool call sets. The
  `tool` oneof has no name of its own among them.
-/
def ToolCall.jsonKeys
    (call : ToolCall) : List String :=
  (if call.toolCallId = "" then [] else ["toolCallId"]) ++
    (call.tool.map Tool.jsonKey).toList

end Wmaa

namespace DynMsgToJson

/-
  proto3 canonical JSON: the keys of a tool call are the
  names of its set fields, and a server tool's payload is a
  string entry unless it is empty.
-/
structure Canonical
    (dynMsgToJson : DynMsgToJson F) : Prop where
  isSome_get_iff :
    ∀ (call : Wmaa.ToolCall) (key : String),
      ((dynMsgToJson.toolCall call).get key).isSome ↔
        key ∈ call.jsonKeys
  get_payload :
    ∀ (call : Wmaa.ToolCall) (payload : String),
      call.tool = some (.server { payload := payload }) →
        payload ≠ "" →
          ∃ server,
            (dynMsgToJson.toolCall call).get "server" =
                some server ∧
              server.get "payload" = some (.string payload)

/- The entry of a string field, unless it is empty. -/
def stringEntry
    (key text : String) : List (String × Json F) :=
  if text = "" then [] else [(key, .string text)]

/- The entry of a tool; undecoded contents stay empty. -/
def toolEntry : Wmaa.Tool → String × Json F
  | .server server =>
      ("server", .object (stringEntry "payload" server.payload))
  | .other variant =>
      (lowerCamelCase variant.fieldName, .emptyObject)

/- The entry of a result; undecoded contents stay empty. -/
def resultEntry
    (variant : Wmaa.OtherVariant) : String × Json F :=
  (lowerCamelCase variant.fieldName, .emptyObject)

/- Canonical transcoding, as far as contents are decoded. -/
def canonical : DynMsgToJson F where
  toolCall := fun call =>
    .object
      (stringEntry "toolCallId" call.toolCallId ++
        (call.tool.map toolEntry).toList)
  toolCallResult := fun result =>
    .object
      (stringEntry "toolCallId" result.toolCallId ++
        (result.result.map resultEntry).toList)
  inputToolCallResult := fun result =>
    .object
      (stringEntry "toolCallId" result.toolCallId ++
        (result.result.map resultEntry).toList)

theorem map_fst_stringEntry
    (key text : String) :
    (stringEntry key text :
        List (String × Json F)).map Prod.fst =
      if text = "" then [] else [key] := by
  unfold stringEntry
  by_cases hText : text = ""
  · rw [if_pos hText, if_pos hText]
    rfl
  · rw [if_neg hText, if_neg hText]
    rfl

theorem fst_toolEntry
    (tool : Wmaa.Tool) :
    (toolEntry tool : String × Json F).1 = tool.jsonKey := by
  cases tool with
  | server => rfl
  | other => rfl

/- The transcoding that decodes server tools is canonical. -/
theorem canonical_canonical :
    (canonical : DynMsgToJson F).Canonical where
  isSome_get_iff := by
    intro call key
    have hKeys :
        (stringEntry "toolCallId" call.toolCallId ++
            (call.tool.map toolEntry).toList :
              List (String × Json F)).map Prod.fst =
          call.jsonKeys := by
      rw [List.map_append, map_fst_stringEntry,
        Wmaa.ToolCall.jsonKeys]
      cases call.tool with
      | none => rfl
      | some tool => simp [fst_toolEntry]
    rw [canonical, Json.isSome_get_object_iff, hKeys]
  get_payload := by
    intro call payload hTool hPayload
    refine ⟨.object [("payload", .string payload)], ?_, rfl⟩
    by_cases hId : call.toolCallId = ""
    · simp [canonical, hTool, toolEntry, stringEntry, hId,
        hPayload]
    · simp [canonical, hTool, toolEntry, stringEntry, hId,
        hPayload, List.lookup_cons]

end DynMsgToJson

end WarpByokProxy

------------------------------------------------------------
-- The Walker On The Adapter's Calls
------------------------------------------------------------

namespace WarpByokProxy

variable {F : Type}

/- A call without a field called `tool` has no name. -/
theorem priorToolName_of_not_mem
    {dynMsgToJson : DynMsgToJson F}
    (hCanonical : dynMsgToJson.Canonical)
    {call : Wmaa.ToolCall}
    (hKey : "tool" ∉ call.jsonKeys) :
    priorToolName (dynMsgToJson.toolCall call) =
      "unknown" := by
  have hNone :
      (dynMsgToJson.toolCall call).get "tool" = none := by
    rw [← Option.not_isSome_iff_eq_none,
      hCanonical.isSome_get_iff]
    exact hKey
  rw [priorToolName, hNone]
  rfl

/- The name of the oneof is no key unless a variant has it. -/
theorem tool_not_mem_jsonKeys
    {call : Wmaa.ToolCall}
    (hVariant :
      ∀ tool, call.tool = some tool →
        tool.jsonKey ≠ "tool") :
    "tool" ∉ call.jsonKeys := by
  rw [Wmaa.ToolCall.jsonKeys, List.mem_append, not_or]
  constructor
  · split_ifs with hId
    · exact List.not_mem_nil
    · simp
  · intro hMem
    rw [Option.mem_toList, Option.map_eq_some_iff] at hMem
    rcases hMem with ⟨tool, hTool, hKey⟩
    exact hVariant tool hTool hKey

/- The name of the oneof is not a key of a server call. -/
theorem priorToolName_server
    {dynMsgToJson : DynMsgToJson F}
    (hCanonical : dynMsgToJson.Canonical)
    {call : Wmaa.ToolCall}
    {server : Wmaa.Server}
    (hTool : call.tool = some (.server server)) :
    priorToolName (dynMsgToJson.toolCall call) =
      "unknown" := by
  refine
    priorToolName_of_not_mem hCanonical
      (tool_not_mem_jsonKeys ?_)
  intro tool hSome
  rw [hTool] at hSome
  rw [← Option.some.inj hSome]
  simp [Wmaa.Tool.jsonKey]

/-
  The walker names every call of the adapter `unknown` and
  sends the encoded message as its input.
-/
theorem priorMessageToJson_toolCallOf
    {dynMsgToJson : DynMsgToJson F}
    (hCanonical : dynMsgToJson.Canonical)
    (serde : SerdeJson F)
    (self : UiAdapter)
    (id name : String)
    (input : Json F) :
    let call := UiAdapter.toolCallOf serde id name input
    priorMessageToJson dynMsgToJson
        (self.messageWith (.toolCall call)) =
      some (messageJson "assistant"
        (toolUseBlock id "unknown"
          (dynMsgToJson.toolCall call))) := by
  intro call
  have hName :
      priorToolName (dynMsgToJson.toolCall call) =
        "unknown" :=
    priorToolName_server hCanonical rfl
  rw [← hName]
  rfl

/-
  A transcoded call contains its payload, and the payload
  contains the input: the input cannot be that whole call.
-/
theorem ne_toolCall_of_payload
    {serde : SerdeJson F}
    (hParts : serde.PrintsParts)
    {dynMsgToJson : DynMsgToJson F}
    (hCanonical : dynMsgToJson.Canonical)
    (id name : String)
    (input : Json F) :
    input ≠
      dynMsgToJson.toolCall
        (UiAdapter.toolCallOf serde id name input) := by
  intro hEq
  have hInputPayload :
      (serde.toString input).length <
        (UiAdapter.toolUsePayload serde id name
          input).length :=
    hParts.entry_lt _ "input" input (by simp)
  have hNonempty :
      UiAdapter.toolUsePayload serde id name input ≠ "" := by
    intro hEmpty
    rw [hEmpty, String.length_empty] at hInputPayload
    omega
  rcases hCanonical.get_payload
      (UiAdapter.toolCallOf serde id name input) _ rfl
      hNonempty with
    ⟨server, hServer, hPayload⟩
  rw [← hEq] at hServer
  rcases Json.exists_entries_of_get_eq_some hServer with
    ⟨entries, rfl⟩
  rcases Json.exists_entries_of_get_eq_some hPayload with
    ⟨fields, rfl⟩
  have hServerInput :=
    hParts.entry_lt entries "server" _
      (Json.mem_of_get_eq_some hServer)
  have hPayloadServer :=
    hParts.entry_lt fields "payload" _
      (Json.mem_of_get_eq_some hPayload)
  have hTextPayload :=
    hParts.string_lt
      (UiAdapter.toolUsePayload serde id name
        (.object entries))
  omega

end WarpByokProxy

------------------------------------------------------------
-- Round Trips
------------------------------------------------------------

namespace WarpByokProxy

open Wmaa

variable {F : Type}

/-
  The message of a tool call comes back as an assistant's
  tool call with the same id, name and input.
-/
def RoundTripsCall
    (serde : SerdeJson F)
    (dynMsgToJson : DynMsgToJson F)
    (self : UiAdapter)
    (id name : String)
    (input : Json F) : Prop :=
  ∀ message ∈
      appendedMessages
        (self.toolUseEvent serde id name input).actions,
    priorMessageToJson dynMsgToJson message =
      some (messageJson "assistant"
        (toolUseBlock id name input))

/- No tool call survives the way to the client and back. -/
theorem not_roundTripsCall
    {serde : SerdeJson F}
    (hParts : serde.PrintsParts)
    {dynMsgToJson : DynMsgToJson F}
    (hCanonical : dynMsgToJson.Canonical)
    (self : UiAdapter)
    (id name : String)
    (input : Json F) :
    ¬ RoundTripsCall serde dynMsgToJson self id name
      input := by
  intro hRoundTrip
  have hMessage :=
    hRoundTrip
      (self.messageWith
        (.toolCall
          (UiAdapter.toolCallOf serde id name input)))
      List.mem_cons_self
  rw [priorMessageToJson_toolCallOf hCanonical] at hMessage
  have hSame :
      "unknown" = name ∧
        dynMsgToJson.toolCall
            (UiAdapter.toolCallOf serde id name input) =
          input := by
    simpa [messageJson, toolUseBlock] using hMessage
  exact ne_toolCall_of_payload hParts hCanonical id name input
    hSame.2.symm

theorem not_roundTripsCall_unknown :
    ¬ RoundTripsCall SerdeJson.integral .canonical
      (UiAdapter.new numberedUuids ⟨none, none, none⟩)
      "tu_1" "unknown" (.ofStrings [("pattern", "todo")]) :=
  not_roundTripsCall (SerdeJson.printsParts_ofFormat _)
    DynMsgToJson.canonical_canonical
    (UiAdapter.new numberedUuids ⟨none, none, none⟩)
    "tu_1" "unknown" (.ofStrings [("pattern", "todo")])

/- A call of `grep` comes back as a call of `unknown`. -/
theorem not_roundTripsCall_grep :
    ¬ RoundTripsCall SerdeJson.integral .canonical
      (UiAdapter.new numberedUuids ⟨none, none, none⟩)
      "tu_1" "grep" .emptyObject := by
  intro hRoundTrip
  have hMessage := hRoundTrip _ List.mem_cons_self
  rw [priorMessageToJson_toolCallOf
    DynMsgToJson.canonical_canonical] at hMessage
  simp [messageJson, toolUseBlock] at hMessage

end WarpByokProxy
