import WarpByokProxy.Library.Json

/-
  The messages of the multi-agent protocol, as far as the
  proxy builds or reads them.

  The types are generated from a protobuf schema outside the
  repository. A field that is always left at its protobuf
  default is omitted, and a oneof variant that is neither
  built nor inspected is `other`, with the name of its field
  and its encoded contents.

  Key definitions include:
    * `Wmaa.ToolCall`
    * `Wmaa.Message`
    * `Wmaa.Request`
    * `Wmaa.Action`
    * `Wmaa.StreamFinished`
    * `Wmaa.ResponseEvent`
-/

------------------------------------------------------------
-- Task Messages
------------------------------------------------------------

namespace WarpByokProxy

namespace Wmaa

/- A protobuf duration. -/
structure Duration where
  seconds : Int64
  nanos : Int32
deriving DecidableEq

/- A oneof variant that stays undecoded. -/
structure OtherVariant where
  fieldName : String
  contents : List UInt8
deriving DecidableEq

/- Text shown to the user. -/
structure AgentOutput where
  text : String
deriving DecidableEq

/- Reasoning shown to the user. -/
structure AgentReasoning where
  reasoning : String
  finishedDuration : Option Duration
deriving DecidableEq

/- The generic tool variant with its opaque payload. -/
structure Server where
  payload : String
deriving DecidableEq

/- The `tool` oneof of a tool call. -/
inductive Tool where
  | server (server : Server)
  | other (variant : OtherVariant)
deriving DecidableEq

/- A tool call of the agent. -/
structure ToolCall where
  toolCallId : String
  tool : Option Tool
deriving DecidableEq

/- The result of a tool call, with its undecoded `result`. -/
structure ToolCallResult where
  toolCallId : String
  result : Option OtherVariant
deriving DecidableEq

/- A query typed by the user. -/
structure UserQuery where
  query : String
deriving DecidableEq

/- The `message` oneof of a message. -/
inductive MessageContent where
  | userQuery (query : UserQuery)
  | agentOutput (output : AgentOutput)
  | agentReasoning (reasoning : AgentReasoning)
  | toolCall (call : ToolCall)
  | toolCallResult (result : ToolCallResult)
  | other (variant : OtherVariant)
deriving DecidableEq

/- A message of a task. -/
structure Message where
  id : String
  taskId : String
  message : Option MessageContent
deriving DecidableEq

/- A task with its messages. -/
structure Task where
  id : String
  messages : List Message
deriving DecidableEq

end Wmaa

end WarpByokProxy

------------------------------------------------------------
-- Requests
------------------------------------------------------------

namespace WarpByokProxy

namespace Wmaa

/- The result of a tool call of the current turn. -/
structure InputToolCallResult where
  toolCallId : String
  result : Option OtherVariant
deriving DecidableEq

/- The `input` oneof of one input of the user. -/
inductive UserInputContent where
  | userQuery (query : UserQuery)
  | cliAgentUserQuery (userQuery : Option UserQuery)
  | toolCallResult (result : InputToolCallResult)
  | other (variant : OtherVariant)
deriving DecidableEq

/- One input of the user. -/
structure UserInput where
  input : Option UserInputContent
deriving DecidableEq

/- The `type` oneof of a request's input. -/
inductive InputType where
  | userInputs (inputs : List UserInput)
  | userQuery (query : UserQuery)
  | autoCodeDiffQuery (query : UserQuery)
  | queryWithCannedResponse (query : UserQuery)
  | createNewProject (query : UserQuery)
  | other (variant : OtherVariant)
deriving DecidableEq

/- The input of a request. -/
structure Input where
  type : Option InputType
deriving DecidableEq

/- The tasks that the client knows. -/
structure TaskContext where
  tasks : List Task
deriving DecidableEq

/- A request of the client. -/
structure Request where
  taskContext : Option TaskContext
  input : Option Input
deriving DecidableEq

end Wmaa

end WarpByokProxy

------------------------------------------------------------
-- Response Events
------------------------------------------------------------

namespace WarpByokProxy

namespace Wmaa

/- The fields of a message that an event talks about. -/
structure FieldMask where
  paths : List String
deriving DecidableEq

/- The actions that the proxy asks of the client. -/
inductive Action where
  | createTask (task : Option Task)
  | addMessagesToTask
      (taskId : String)
      (messages : List Message)
  | appendToMessageContent
      (taskId : String)
      (message : Option Message)
      (mask : Option FieldMask)
deriving DecidableEq

/- An action, if the event carries one. -/
structure ClientAction where
  action : Option Action
deriving DecidableEq

/- The identifiers that open a response. -/
structure StreamInit where
  conversationId : String
  requestId : String
  runId : String
deriving DecidableEq

/- Why a response ended. -/
inductive Reason where
  | done
  | maxTokenLimit
  | quotaLimit
  | contextWindowExceeded
  | other
deriving DecidableEq

/- Token counts of a response. -/
structure TokenUsage where
  totalInput : UInt32
  output : UInt32
  inputCacheRead : UInt32
  inputCacheWrite : UInt32
deriving DecidableEq

/- The end of a response. -/
structure StreamFinished where
  reason : Option Reason
  tokenUsage : List TokenUsage
deriving DecidableEq

/- The `type` oneof of a response event. -/
inductive EventType where
  | init (init : StreamInit)
  | clientActions (actions : List ClientAction)
  | finished (finished : StreamFinished)
deriving DecidableEq

/- One event of the response stream. -/
structure ResponseEvent where
  type : Option EventType
deriving DecidableEq

end Wmaa

end WarpByokProxy
