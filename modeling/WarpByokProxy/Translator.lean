import WarpByokProxy.Cache
import WarpByokProxy.RequestFields
import WarpByokProxy.WarpApi

/-
  The request translation of `translator.rs`: the history
  walker, from a client's request to the messages of the
  conversation, and the composition with model ID, beta
  flags, thinking and cache points.

  `dyn_msg_to_json` transcodes a protobuf message by means of
  its descriptor, which is outside the repository. It is a
  parameter, with one member for each message type that the
  walker transcodes.

  Key definitions include:
    * `DynMsgToJson`
    * `trimIsEmpty`
    * `priorMessageToJson`
    * `walkPriorMessages`
    * `extractUserMessages`
    * `buildMessages`
    * `BedrockInput`
    * `translateWarpRequest`
-/

------------------------------------------------------------
-- Blocks And Messages
------------------------------------------------------------

namespace WarpByokProxy

variable {F : Type}

/- `dyn_msg_to_json` at the message types it is used for. -/
structure DynMsgToJson (F : Type) where
  toolCall : Wmaa.ToolCall → Json F
  toolCallResult : Wmaa.ToolCallResult → Json F
  inputToolCallResult : Wmaa.InputToolCallResult → Json F

/- `char::is_whitespace`. -/
def charIsWhitespace
    (c : Char) : Bool :=
  (0x9 ≤ c.toNat && c.toNat ≤ 0xD) ||
    (0x2000 ≤ c.toNat && c.toNat ≤ 0x200A) ||
    c.toNat ∈
      [0x20, 0x85, 0xA0, 0x1680, 0x2028, 0x2029, 0x202F,
        0x205F, 0x3000]

/- Nothing is left of the text when it is trimmed. -/
def trimIsEmpty
    (text : String) : Bool :=
  text.toList.all charIsWhitespace

/- A message with one content block. -/
def messageJson
    (role : String)
    (block : Json F) : Json F :=
  .object
    [("role", .string role), ("content", .array [block])]

/- A text block. -/
def textBlock
    (text : String) : Json F :=
  .ofStrings [("type", "text"), ("text", text)]

/- The message of a text, unless the text is blank. -/
def textMessage
    (role text : String) : Option (Json F) :=
  if trimIsEmpty text then
    none
  else
    some (messageJson role (textBlock text))

/- A tool call. -/
def toolUseBlock
    (id name : String)
    (input : Json F) : Json F :=
  .object
    [("type", .string "tool_use"),
      ("id", .string id),
      ("name", .string name),
      ("input", input)]

/- The result of a tool call. -/
def toolResultBlock
    (toolUseId : String)
    (body : Json F) : Json F :=
  .object
    [("type", .string "tool_result"),
      ("tool_use_id", .string toolUseId),
      ("content", .array
        [.object
          [("type", .string "json"), ("json", body)]])]

end WarpByokProxy

------------------------------------------------------------
-- Prior Messages
------------------------------------------------------------

namespace WarpByokProxy

variable {F : Type}

/- The tool name that the walker reads off a transcoded call. -/
def priorToolName
    (payload : Json F) : String :=
  ((payload.get "tool").bind Json.firstKey).getD "unknown"

/- The conversation message of a prior message, if any. -/
def priorMessageToJson
    (dynMsgToJson : DynMsgToJson F)
    (msg : Wmaa.Message) : Option (Json F) :=
  match msg.message with
  | none => none
  | some (.userQuery query) => textMessage "user" query.query
  | some (.agentOutput output) =>
      textMessage "assistant" output.text
  | some (.agentReasoning reasoning) =>
      textMessage "assistant" reasoning.reasoning
  | some (.toolCall call) =>
      let payload := dynMsgToJson.toolCall call
      some (messageJson "assistant"
        (toolUseBlock call.toolCallId (priorToolName payload)
          payload))
  | some (.toolCallResult result) =>
      let body := dynMsgToJson.toolCallResult result
      some (messageJson "user"
        (toolResultBlock result.toolCallId body))
  | some (.other _) => none

/- The prior history of a request. -/
def walkPriorMessages
    (dynMsgToJson : DynMsgToJson F)
    (req : Wmaa.Request) : List (Json F) :=
  match req.taskContext with
  | none => []
  | some context =>
      context.tasks.flatMap (fun task =>
        task.messages.filterMap
          (priorMessageToJson dynMsgToJson))

/- The message of one input of the user. -/
def userInputMessages
    (dynMsgToJson : DynMsgToJson F)
    (userInput : Wmaa.UserInput) : List (Json F) :=
  match userInput.input with
  | some (.userQuery query) =>
      (textMessage "user" query.query).toList
  | some (.cliAgentUserQuery (some query)) =>
      (textMessage "user" query.query).toList
  | some (.toolCallResult result) =>
      let body := dynMsgToJson.inputToolCallResult result
      [messageJson "user"
        (toolResultBlock result.toolCallId body)]
  | _ => []

/- The messages of the current turn. -/
def extractUserMessages
    (dynMsgToJson : DynMsgToJson F)
    (req : Wmaa.Request) : List (Json F) :=
  match req.input.bind Wmaa.Input.type with
  | some (.userInputs inputs) =>
      inputs.flatMap (userInputMessages dynMsgToJson)
  | some (.userQuery query) =>
      (textMessage "user" query.query).toList
  | some (.autoCodeDiffQuery query) =>
      (textMessage "user" query.query).toList
  | some (.queryWithCannedResponse query) =>
      (textMessage "user" query.query).toList
  | some (.createNewProject query) =>
      (textMessage "user" query.query).toList
  | _ => []

/- All messages of the conversation; never none at all. -/
def buildMessages
    (dynMsgToJson : DynMsgToJson F)
    (req : Wmaa.Request) : List (Json F) :=
  let out :=
    walkPriorMessages dynMsgToJson req ++
      extractUserMessages dynMsgToJson req
  if out.isEmpty then
    [messageJson "user"
      (textBlock
        "[PHASE0 WALKER: no UserQuery found in request.input]")]
  else
    out

end WarpByokProxy

------------------------------------------------------------
-- Requests
------------------------------------------------------------

namespace WarpByokProxy

variable {F : Type}

/- A translated request. -/
structure BedrockInput (F : Type) where
  wireModelId : String
  messages : List (Json F)
  system : Option (Json F)
  additionalModelRequestFields : Json F
  tools : Option (Json F)

def extractSystemPrompt
    (_req : Wmaa.Request) : Option (Json F) :=
  none

def extractToolDefs
    (_req : Wmaa.Request) : Option (Json F) :=
  none

/- The fields that are set, in the order of insertion. -/
def requestFields
    (betas : List String)
    (reasoning : ThinkingFields F) : Json F :=
  .object
    ((if betas.isEmpty then
        []
      else
        [("anthropic_beta", .array (betas.map .string))]) ++
      (reasoning.thinking.map (fun t =>
        ("thinking", t))).toList ++
      (reasoning.outputConfig.map (fun o =>
        ("output_config", o))).toList)

/- Translate a request under a configuration. -/
def translateWarpRequest
    (dynMsgToJson : DynMsgToJson F)
    (req : Wmaa.Request)
    (cfg : Config) : Except String (BedrockInput F) :=
  match prepareModelId cfg.bedrock.model
      { useCrossRegionInference :=
          cfg.bedrock.useCrossRegionInference
        useGlobalInference := cfg.bedrock.useGlobalInference
        regionHint := cfg.bedrock.region } with
  | .error e => .error e
  | .ok prep =>
      let betas := buildBetas prep.opus1m []
      match buildReasoningConfig
          { mode := cfg.bedrock.thinking.mode
            effort := cfg.bedrock.thinking.effort
            budgetTokens :=
              cfg.bedrock.thinking.budgetTokens } with
      | .error e => .error e
      | .ok reasoning =>
          let cacheResult :=
            applyCachePoints
              { enabled := cfg.bedrock.usePromptCache
                messages := buildMessages dynMsgToJson req
                system := extractSystemPrompt req }
          .ok
            { wireModelId := prep.wireModelId
              messages := cacheResult.messages
              system := cacheResult.system
              additionalModelRequestFields :=
                requestFields betas reasoning
              tools := extractToolDefs req }

/- Every request is translated. -/
theorem exists_translateWarpRequest
    (dynMsgToJson : DynMsgToJson F)
    (req : Wmaa.Request)
    (cfg : Config) :
    ∃ input reasoning,
      translateWarpRequest dynMsgToJson req cfg =
          .ok input ∧
        input.messages =
          (applyCachePoints
            { enabled := cfg.bedrock.usePromptCache
              messages := buildMessages dynMsgToJson req
              system := extractSystemPrompt req }).messages ∧
        input.additionalModelRequestFields =
          requestFields
            (buildBetas (splitOff1m cfg.bedrock.model).isSome
              [])
            reasoning := by
  rcases exists_prepareModelId cfg.bedrock.model
      { useCrossRegionInference :=
          cfg.bedrock.useCrossRegionInference
        useGlobalInference := cfg.bedrock.useGlobalInference
        regionHint := cfg.bedrock.region } with
    ⟨prep, hPrep, -, -, hMarked⟩
  rw [translateWarpRequest, hPrep, ← hMarked]
  exact ⟨_, _, rfl, rfl, rfl⟩

/- An optional entry is not found under another key. -/
theorem lookup_optionalEntry_of_ne
    {key name : String}
    (hNe : key ≠ name)
    (value : Option (Json F)) :
    (value.map (fun json => (name, json))).toList.lookup key =
      none := by
  cases value with
  | none => rfl
  | some json =>
      rw [Option.map_some, Option.toList_some,
        List.lookup_cons, beq_false_of_ne hNe]
      rfl

/- The beta flags are there when there are any. -/
theorem get_anthropicBeta_requestFields
    (betas : List String)
    (reasoning : ThinkingFields F) :
    (requestFields betas reasoning).get "anthropic_beta" =
      if betas.isEmpty then
        none
      else
        some (.array (betas.map .string)) := by
  cases betas with
  | nil =>
      have hThinking :=
        lookup_optionalEntry_of_ne
          (show "anthropic_beta" ≠ "thinking" by simp)
          reasoning.thinking
      have hOutput :=
        lookup_optionalEntry_of_ne
          (show "anthropic_beta" ≠ "output_config" by simp)
          reasoning.outputConfig
      simp [requestFields, List.lookup_append, hThinking,
        hOutput]
  | cons beta betas => simp [requestFields]

end WarpByokProxy
