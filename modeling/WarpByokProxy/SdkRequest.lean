import WarpByokProxy.Library.Json

/-
  The request types of the SDK, as far as the proxy builds
  them: documents, messages with their content blocks, tool
  configurations, and the builders of these types.

  The SDK is outside the repository. Whether a builder
  accepts what was set on it is therefore a parameter. Its
  documentation promises that a builder succeeds when every
  required field was set and fails when the content of a
  message or of a tool result was never set.

  Key definitions include:
    * `Sdk.Document`
    * `Sdk.ContentBlock`
    * `Sdk.Message`
    * `Sdk.MessageBuilder`
    * `Sdk.Builders`
    * `Sdk.Builders.RequireFields`
    * `Sdk.ToolConfiguration`
    * `Sdk.ToolBuilders`
    * `Sdk.ToolBuilders.RequireFields`
-/

------------------------------------------------------------
-- Documents
------------------------------------------------------------

namespace WarpByokProxy

namespace Sdk

/- Numbers of a document. -/
inductive Number (F : Type) where
  | posInt (value : UInt64)
  | negInt (value : Int64)
  | float (value : F)

/-
  Untyped values. The hash map of an object is the list of
  its entries; their order means nothing.
-/
inductive Document (F : Type) where
  | object (entries : List (String × Document F))
  | array (items : List (Document F))
  | number (value : Number F)
  | string (value : String)
  | bool (value : Bool)
  | null

end Sdk

end WarpByokProxy

------------------------------------------------------------
-- Messages
------------------------------------------------------------

namespace WarpByokProxy

namespace Sdk

inductive ConversationRole where
  | user
  | assistant
deriving DecidableEq, Repr

inductive CachePointType where
  | default
deriving DecidableEq, Repr

structure CachePointBlock where
  type : CachePointType
deriving DecidableEq, Repr

/- A tool call of the assistant. -/
structure ToolUseBlock (F : Type) where
  toolUseId : String
  name : String
  input : Document F

inductive ToolResultStatus where
  | error
  | success
deriving DecidableEq, Repr

/- One entry of a tool result. -/
inductive ToolResultContentBlock (F : Type) where
  | text (text : String)
  | json (document : Document F)

/- The result of a tool call. -/
structure ToolResultBlock (F : Type) where
  toolUseId : String
  content : List (ToolResultContentBlock F)
  status : Option ToolResultStatus

inductive ContentBlock (F : Type) where
  | text (text : String)
  | cachePoint (block : CachePointBlock)
  | toolUse (block : ToolUseBlock F)
  | toolResult (block : ToolResultBlock F)

structure Message (F : Type) where
  role : ConversationRole
  content : List (ContentBlock F)

end Sdk

end WarpByokProxy

------------------------------------------------------------
-- Builders
------------------------------------------------------------

namespace WarpByokProxy

namespace Sdk

variable {F : Type}

structure CachePointBlockBuilder where
  type : Option CachePointType

structure ToolUseBlockBuilder (F : Type) where
  toolUseId : Option String
  name : Option String
  input : Option (Document F)

structure ToolResultBlockBuilder (F : Type) where
  toolUseId : Option String
  content : Option (List (ToolResultContentBlock F))
  status : Option ToolResultStatus

structure MessageBuilder (F : Type) where
  role : Option ConversationRole
  content : Option (List (ContentBlock F))

/- Add one entry to the content of a tool result. -/
def ToolResultBlockBuilder.pushContent
    (builder : ToolResultBlockBuilder F)
    (entry : ToolResultContentBlock F) :
    ToolResultBlockBuilder F :=
  { builder with
    content := some (builder.content.getD [] ++ [entry]) }

/- Add one block to the content of a message. -/
def MessageBuilder.pushContent
    (builder : MessageBuilder F)
    (block : ContentBlock F) : MessageBuilder F :=
  { builder with
    content := some (builder.content.getD [] ++ [block]) }

/- `build` at each builder; the error is its text. -/
structure Builders (F : Type) where
  cachePoint :
    CachePointBlockBuilder → Except String CachePointBlock
  toolUse :
    ToolUseBlockBuilder F → Except String (ToolUseBlock F)
  toolResult :
    ToolResultBlockBuilder F →
      Except String (ToolResultBlock F)
  message : MessageBuilder F → Except String (Message F)

namespace Builders

/-
  Required fields must be set: builds succeed with them, and
  fail when content was never set.
-/
structure RequireFields
    (builders : Builders F) : Prop where
  cachePoint :
    ∀ type,
      builders.cachePoint { type := some type } =
        .ok { type := type }
  toolUse :
    ∀ toolUseId name input,
      builders.toolUse
          { toolUseId := some toolUseId
            name := some name
            input := some input } =
        .ok
          { toolUseId := toolUseId
            name := name
            input := input }
  toolResult :
    ∀ toolUseId content status,
      builders.toolResult
          { toolUseId := some toolUseId
            content := some content
            status := status } =
        .ok
          { toolUseId := toolUseId
            content := content
            status := status }
  toolResult_unset :
    ∀ toolUseId status,
      ∃ e,
        builders.toolResult
            { toolUseId := toolUseId
              content := none
              status := status } =
          .error e
  message :
    ∀ role content,
      builders.message
          { role := some role, content := some content } =
        .ok { role := role, content := content }
  message_unset :
    ∀ role,
      ∃ e,
        builders.message { role := role, content := none } =
          .error e

/- Builders that name the first field that is missing. -/
def strict : Builders F where
  cachePoint builder :=
    match builder.type with
    | none => .error "type"
    | some type => .ok { type := type }
  toolUse builder :=
    match builder.toolUseId, builder.name, builder.input with
    | some toolUseId, some name, some input =>
        .ok
          { toolUseId := toolUseId
            name := name
            input := input }
    | none, _, _ => .error "tool_use_id"
    | _, none, _ => .error "name"
    | _, _, none => .error "input"
  toolResult builder :=
    match builder.toolUseId, builder.content with
    | some toolUseId, some content =>
        .ok
          { toolUseId := toolUseId
            content := content
            status := builder.status }
    | none, _ => .error "tool_use_id"
    | _, none => .error "content"
  message builder :=
    match builder.role, builder.content with
    | some role, some content =>
        .ok { role := role, content := content }
    | none, _ => .error "role"
    | _, none => .error "content"

theorem strict_requireFields :
    (strict : Builders F).RequireFields where
  cachePoint := fun _ => rfl
  toolUse := fun _ _ _ => rfl
  toolResult := fun _ _ _ => rfl
  toolResult_unset := by
    intro toolUseId status
    cases toolUseId with
    | none => exact ⟨_, rfl⟩
    | some toolUseId => exact ⟨_, rfl⟩
  message := fun _ _ => rfl
  message_unset := by
    intro role
    cases role with
    | none => exact ⟨_, rfl⟩
    | some role => exact ⟨_, rfl⟩

end Builders

end Sdk

end WarpByokProxy

------------------------------------------------------------
-- Tool Configurations
------------------------------------------------------------

namespace WarpByokProxy

namespace Sdk

variable {F : Type}

inductive ToolInputSchema (F : Type) where
  | json (document : Document F)

structure ToolSpecification (F : Type) where
  name : String
  description : Option String
  inputSchema : Option (ToolInputSchema F)

inductive Tool (F : Type) where
  | toolSpec (spec : ToolSpecification F)

structure ToolConfiguration (F : Type) where
  tools : List (Tool F)

structure ToolSpecificationBuilder (F : Type) where
  name : Option String
  description : Option String
  inputSchema : Option (ToolInputSchema F)

structure ToolConfigurationBuilder (F : Type) where
  tools : Option (List (Tool F))

/- `build` at the builders of a tool configuration. -/
structure ToolBuilders (F : Type) where
  toolSpecification :
    ToolSpecificationBuilder F →
      Except String (ToolSpecification F)
  toolConfiguration :
    ToolConfigurationBuilder F →
      Except String (ToolConfiguration F)

namespace ToolBuilders

/- A tool needs a name, and a configuration needs tools. -/
structure RequireFields
    (builders : ToolBuilders F) : Prop where
  toolSpecification :
    ∀ name description inputSchema,
      builders.toolSpecification
          { name := some name
            description := description
            inputSchema := inputSchema } =
        .ok
          { name := name
            description := description
            inputSchema := inputSchema }
  toolConfiguration :
    ∀ tools,
      builders.toolConfiguration { tools := some tools } =
        .ok { tools := tools }

/- Builders that name the field that is missing. -/
def strict : ToolBuilders F where
  toolSpecification builder :=
    match builder.name with
    | none => .error "name"
    | some name =>
        .ok
          { name := name
            description := builder.description
            inputSchema := builder.inputSchema }
  toolConfiguration builder :=
    match builder.tools with
    | none => .error "tools"
    | some tools => .ok { tools := tools }

theorem strict_requireToolFields :
    (strict : ToolBuilders F).RequireFields where
  toolSpecification := fun _ _ _ => rfl
  toolConfiguration := fun _ => rfl

end ToolBuilders

end Sdk

end WarpByokProxy
