import WarpByokProxy.SdkTranslator
import WarpByokProxy.Translator

/-
  The dispatch of a translated request, from `converse_stream`
  in `bedrock_client.rs` and `system_to_sdk` in
  `sdk_translator.rs`. The task that drains the answer is
  `drainStream`.

  An error is its text with the contexts in front of it, as
  it is shown in the body of a failed response.

  Key definitions include:
    * `Sdk.SystemContentBlock`
    * `Sdk.ConverseStreamInput`
    * `systemToSdk`
    * `RealBedrock.converseStreamInput`

  Key theorems include:
    * `systemToSdk_eq_filterMap`
-/

------------------------------------------------------------
-- The Call
------------------------------------------------------------

namespace WarpByokProxy

namespace Sdk

inductive SystemContentBlock where
  | text (text : String)
  | cachePoint (block : CachePointBlock)
deriving DecidableEq, Repr

/- What is set on a call of `ConverseStream`. -/
structure ConverseStreamInput (F : Type) where
  modelId : String
  messages : List (Message F)
  system : Option (List SystemContentBlock)
  additionalModelRequestFields : Document F
  toolConfig : Option (ToolConfiguration F)

end Sdk

end WarpByokProxy

------------------------------------------------------------
-- System Prompts
------------------------------------------------------------

namespace WarpByokProxy

variable {F : Type}

/- Translate system blocks from an index on. -/
def systemToSdkFrom
    (builders : Sdk.Builders F) :
    Nat → List (Json F) →
      Except String (List Sdk.SystemContentBlock)
  | _, [] => .ok []
  | idx, block :: blocks =>
      match extractTextBlock block with
      | some text =>
          match systemToSdkFrom builders (idx + 1) blocks
            with
          | .error e => .error e
          | .ok out => .ok (.text text :: out)
      | none =>
          if isCachePointBlock block then
            match builders.cachePoint
                { type := some .default } with
            | .error e =>
                .error
                  ("system[" ++ idx.repr ++
                    "]: cache point build: " ++ e)
            | .ok cachePoint =>
                match systemToSdkFrom builders (idx + 1)
                    blocks with
                | .error e => .error e
                | .ok out => .ok (.cachePoint cachePoint :: out)
          else
            -- Unsupported blocks are skipped.
            systemToSdkFrom builders (idx + 1) blocks

/- Translate a system prompt; only arrays have blocks. -/
def systemToSdk
    (builders : Sdk.Builders F)
    (system : Option (Json F)) :
    Except String (List Sdk.SystemContentBlock) :=
  match system.bind Json.asArray with
  | none => .ok []
  | some arr => systemToSdkFrom builders 0 arr

/- What a system block stands for, if it is supported. -/
def systemBlock?
    (block : Json F) : Option Sdk.SystemContentBlock :=
  match extractTextBlock block with
  | some text => some (.text text)
  | none =>
      if isCachePointBlock block then
        some (.cachePoint { type := .default })
      else
        none

/- Every block is translated by itself, or skipped. -/
theorem systemToSdkFrom_eq_filterMap
    {builders : Sdk.Builders F}
    (hBuilders : builders.RequireFields)
    (idx : Nat)
    (blocks : List (Json F)) :
    systemToSdkFrom builders idx blocks =
      .ok (blocks.filterMap systemBlock?) := by
  induction blocks generalizing idx with
  | nil => rfl
  | cons block blocks ih =>
      rw [systemToSdkFrom, List.filterMap_cons,
        systemBlock?, ih]
      cases hText : extractTextBlock block with
      | some text => rfl
      | none =>
          cases hPoint : isCachePointBlock block with
          | true =>
              rw [if_pos rfl, hBuilders.cachePoint]
              rfl
          | false => rfl

/- No system prompt is rejected. -/
theorem systemToSdk_eq_filterMap
    {builders : Sdk.Builders F}
    (hBuilders : builders.RequireFields)
    (system : Option (Json F)) :
    systemToSdk builders system =
      .ok
        (((system.bind Json.asArray).getD []).filterMap
          systemBlock?) := by
  rw [systemToSdk]
  cases system.bind Json.asArray with
  | none => rfl
  | some arr => exact systemToSdkFrom_eq_filterMap hBuilders 0 arr

end WarpByokProxy

------------------------------------------------------------
-- Dispatch
------------------------------------------------------------

namespace WarpByokProxy

variable {F : Type}

/- The provider, with the tools that were set up for it. -/
structure RealBedrock (F : Type) where
  toolConfig : Option (Sdk.ToolConfiguration F)

/- The call that a translated request is dispatched with. -/
def RealBedrock.converseStreamInput
    (builders : Sdk.Builders F)
    (self : RealBedrock F)
    (input : BedrockInput F) :
    Except String (Sdk.ConverseStreamInput F) :=
  match messagesToSdk builders input.messages with
  | .error e =>
      .error ("translate messages to SDK shape: " ++ e)
  | .ok sdkMessages =>
      match systemToSdk builders input.system with
      | .error e =>
          .error ("translate system to SDK shape: " ++ e)
      | .ok sdkSystem =>
          .ok
            { modelId := input.wireModelId
              messages := sdkMessages
              system :=
                if sdkSystem.isEmpty then
                  none
                else
                  some sdkSystem
              additionalModelRequestFields :=
                jsonToDocument
                  input.additionalModelRequestFields
              toolConfig := self.toolConfig }

end WarpByokProxy
