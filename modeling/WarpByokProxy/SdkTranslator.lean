import WarpByokProxy.Config
import WarpByokProxy.SdkRequest

/-
  The translation of messages and tools to the SDK's types,
  from `sdk_translator.rs`. Errors are the texts of the
  source.

  Key definitions include:
    * `jsonToDocument`
    * `extractTextBlock`
    * `isCachePointBlock`
    * `buildToolUseBlock`
    * `buildToolResultBlock`
    * `blockToContent`
    * `messagesToSdk`
    * `toolsToSdk`

  Key theorems include:
    * `numberToDocument_eq_accessors`
-/

------------------------------------------------------------
-- Documents
------------------------------------------------------------

namespace WarpByokProxy

variable {F : Type}

/-
  The number of a document. Of `as_u64`, `as_i64` and
  `as_f64` the first that accepts the number decides. Each
  form of a number has its own, so that no integer becomes a
  float.
-/
def numberToDocument :
    JsonNumber F → Sdk.Number F
  | .posInt value => .posInt value
  | .negInt value _ => .negInt value
  | .float value => .float value

/-
  The chain of accessors, however integers are rounded to
  floats and whatever stands in for a missing one.
-/
theorem numberToDocument_eq_accessors
    (round : Int → F)
    (zero : F)
    (number : JsonNumber F) :
    numberToDocument number =
      match number.asU64 with
      | some u => .posInt u
      | none =>
          match number.asI64 with
          | some i => .negInt i
          | none =>
              .float ((number.asF64 round).getD zero) := by
  cases number with
  | posInt value => rfl
  | negInt value hNegative => rfl
  | float value => rfl

mutual

/- Convert a JSON value into a document. -/
def jsonToDocument : Json F → Sdk.Document F
  | .null => .null
  | .bool value => .bool value
  | .number value => .number (numberToDocument value)
  | .string value => .string value
  | .array items => .array (itemsToDocuments items)
  | .object entries => .object (entriesToDocuments entries)

def itemsToDocuments :
    List (Json F) → List (Sdk.Document F)
  | [] => []
  | item :: items =>
      jsonToDocument item :: itemsToDocuments items

def entriesToDocuments :
    List (String × Json F) →
      List (String × Sdk.Document F)
  | [] => []
  | entry :: entries =>
      entryToDocument entry :: entriesToDocuments entries

def entryToDocument :
    String × Json F → String × Sdk.Document F
  | (key, value) => (key, jsonToDocument value)

end

end WarpByokProxy

------------------------------------------------------------
-- Content Blocks
------------------------------------------------------------

namespace WarpByokProxy

variable {F : Type}

/- The boolean of a JSON value. -/
def Json.asBool : Json F → Option Bool
  | .bool value => some value
  | _ => none

/- The text of a text block. -/
def extractTextBlock
    (block : Json F) : Option String :=
  match block.getStr "type" with
  | none => none
  | some ty =>
      if ty ≠ "text" then none else block.getStr "text"

/- The block is a cache point. -/
def isCachePointBlock
    (block : Json F) : Bool :=
  match block.get "cachePoint" with
  | some (.object _) => true
  | _ => false

/- The arguments of a tool use; it may take none. -/
def toolUseInput
    (block : Json F) : Sdk.Document F :=
  match block.get "input" with
  | none => .object []
  | some input => jsonToDocument input

/- Build a tool use; `none` for blocks of other types. -/
def buildToolUseBlock
    (builders : Sdk.Builders F)
    (block : Json F) :
    Except String (Option (Sdk.ToolUseBlock F)) :=
  if block.getStr "type" ≠ some "tool_use" then
    .ok none
  else
    match block.getStr "id" with
    | none => .error "tool_use: missing 'id'"
    | some id =>
        match block.getStr "name" with
        | none => .error "tool_use: missing 'name'"
        | some name =>
            match builders.toolUse
                { toolUseId := some id
                  name := some name
                  input := some (toolUseInput block) } with
            | .error e => .error ("tool_use build: " ++ e)
            | .ok toolUse => .ok (some toolUse)

/- One entry of a tool result; others are dropped. -/
def toolResultEntry
    (entry : Json F) :
    Option (Sdk.ToolResultContentBlock F) :=
  match entry.getStr "type" with
  | some "text" => (entry.getStr "text").map .text
  | some "json" =>
      (entry.get "json").map (fun json =>
        .json (jsonToDocument json))
  | _ => none

/- The status of a tool result, from its error flag. -/
def toolResultStatus
    (block : Json F) : Option Sdk.ToolResultStatus :=
  match (block.get "is_error").bind Json.asBool with
  | some true => some .error
  | _ => some .success

/- Build a tool result; `none` for blocks of other types. -/
def buildToolResultBlock
    (builders : Sdk.Builders F)
    (block : Json F) :
    Except String (Option (Sdk.ToolResultBlock F)) :=
  if block.getStr "type" ≠ some "tool_result" then
    .ok none
  else
    match block.getStr "tool_use_id" with
    | none => .error "tool_result: missing 'tool_use_id'"
    | some id =>
        let contentArr :=
          ((block.get "content").bind Json.asArray).getD []
        let content := contentArr.filterMap toolResultEntry
        let builder : Sdk.ToolResultBlockBuilder F :=
          { toolUseId := some id
            content := none
            status := none }
        let filled := content.foldl .pushContent builder
        match builders.toolResult
            { filled with
              status := toolResultStatus block } with
        | .error e => .error ("tool_result build: " ++ e)
        | .ok toolResult => .ok (some toolResult)

/- Translate one block; `none` for unsupported blocks. -/
def blockToContent
    (builders : Sdk.Builders F)
    (block : Json F) :
    Except String (Option (Sdk.ContentBlock F)) :=
  match extractTextBlock block with
  | some text => .ok (some (.text text))
  | none =>
      if isCachePointBlock block then
        match builders.cachePoint
            { type := some .default } with
        | .error e => .error ("cache point build: " ++ e)
        | .ok cachePoint => .ok (some (.cachePoint cachePoint))
      else
        match buildToolUseBlock builders block with
        | .error e => .error e
        | .ok (some toolUse) => .ok (some (.toolUse toolUse))
        | .ok none =>
            match buildToolResultBlock builders block with
            | .error e => .error e
            | .ok (some toolResult) =>
                .ok (some (.toolResult toolResult))
            | .ok none => .ok none

end WarpByokProxy

------------------------------------------------------------
-- Messages
------------------------------------------------------------

namespace WarpByokProxy

variable {F : Type}

/- The roles of a conversation. -/
def parseRole
    (role : String) : Option Sdk.ConversationRole :=
  match role with
  | "user" => some .user
  | "assistant" => some .assistant
  | _ => none

/- Add the blocks of a message to its builder, in order. -/
def pushBlocks
    (builders : Sdk.Builders F)
    (idx : Nat) :
    Nat → List (Json F) → Sdk.MessageBuilder F →
      Except String (Sdk.MessageBuilder F)
  | _, [], builder => .ok builder
  | bIdx, block :: blocks, builder =>
      match blockToContent builders block with
      | .ok (some content) =>
          pushBlocks builders idx (bIdx + 1) blocks
            (builder.pushContent content)
      | .ok none =>
          pushBlocks builders idx (bIdx + 1) blocks builder
      | .error e =>
          .error
            ("message[" ++ idx.repr ++ "].content[" ++
              bIdx.repr ++ "]: " ++ e)

/- Translate the message at an index. -/
def messageToSdk
    (builders : Sdk.Builders F)
    (idx : Nat)
    (msg : Json F) : Except String (Sdk.Message F) :=
  match msg.getStr "role" with
  | none =>
      .error ("message[" ++ idx.repr ++ "]: missing 'role'")
  | some roleStr =>
      match parseRole roleStr with
      | none =>
          .error
            ("message[" ++ idx.repr ++ "]: unknown role '" ++
              roleStr ++ "'")
      | some role =>
          let contentArr :=
            ((msg.get "content").bind Json.asArray).getD []
          match pushBlocks builders idx 0 contentArr
              { role := some role, content := none } with
          | .error e => .error e
          | .ok builder => builders.message builder

/- Translate messages from an index on, up to an error. -/
def messagesToSdkFrom
    (builders : Sdk.Builders F) :
    Nat → List (Json F) →
      Except String (List (Sdk.Message F))
  | _, [] => .ok []
  | idx, msg :: messages =>
      match messageToSdk builders idx msg with
      | .error e => .error e
      | .ok message =>
          match messagesToSdkFrom builders (idx + 1)
              messages with
          | .error e => .error e
          | .ok out => .ok (message :: out)

/- Translate all messages. -/
def messagesToSdk
    (builders : Sdk.Builders F)
    (messages : List (Json F)) :
    Except String (List (Sdk.Message F)) :=
  messagesToSdkFrom builders 0 messages

end WarpByokProxy

------------------------------------------------------------
-- Tools
------------------------------------------------------------

namespace WarpByokProxy

variable {F : Type}

/- Translate one tool definition. -/
def toolToSdk
    (serde : SerdeJson F)
    (jsonError : String → String)
    (builders : Sdk.ToolBuilders F)
    (t : ToolDef) : Except String (Sdk.Tool F) :=
  match t.parseInputSchema serde jsonError with
  | .error e => .error ("tools_to_sdk: " ++ e)
  | .ok schemaJson =>
      match builders.toolSpecification
          { name := some t.name
            description := some t.description
            inputSchema :=
              some (.json (jsonToDocument schemaJson)) } with
      | .error e =>
          .error ("tool `" ++ t.name ++ "`: build spec: " ++ e)
      | .ok spec => .ok (.toolSpec spec)

/- Translate tool definitions, up to an error. -/
def toolSpecsToSdk
    (serde : SerdeJson F)
    (jsonError : String → String)
    (builders : Sdk.ToolBuilders F) :
    List ToolDef → Except String (List (Sdk.Tool F))
  | [] => .ok []
  | t :: tools =>
      match toolToSdk serde jsonError builders t with
      | .error e => .error e
      | .ok tool =>
          match toolSpecsToSdk serde jsonError builders
              tools with
          | .error e => .error e
          | .ok out => .ok (tool :: out)

/- Translate the tool list; there is nothing for no tools. -/
def toolsToSdk
    (serde : SerdeJson F)
    (jsonError : String → String)
    (builders : Sdk.ToolBuilders F)
    (tools : List ToolDef) :
    Except String (Option (Sdk.ToolConfiguration F)) :=
  if tools.isEmpty then
    .ok none
  else
    match toolSpecsToSdk serde jsonError builders tools with
    | .error e => .error e
    | .ok out =>
        match builders.toolConfiguration
            { tools := some out } with
        | .error e =>
            .error ("tool configuration build: " ++ e)
        | .ok cfg => .ok (some cfg)

end WarpByokProxy
