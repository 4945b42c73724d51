import WarpByokProxy.ModelId
import WarpByokProxy.Serde

/-
  The configuration of the proxy and its validation,
  translated from `config.rs`, with the fields that the
  translation of requests and the startup checks read.

  The text of a parser error belongs to `serde_json` and is a
  parameter.

  Key definitions include:
    * `Thinking`
    * `ToolDef`
    * `Config`
    * `supports1mContext`
    * `Config.validate`

  Key theorems include:
    * `Config.validate_ok_iff`
-/

------------------------------------------------------------
-- The Configuration
------------------------------------------------------------

namespace WarpByokProxy

inductive ThinkingMode where
  | adaptive
  | enabled
  | off
deriving DecidableEq, Repr

inductive Effort where
  | low
  | medium
  | high
  | max
deriving DecidableEq, Repr

structure Thinking where
  mode : ThinkingMode
  effort : Effort
  budgetTokens : Option UInt32

/- A tool definition, its schema as JSON text. -/
structure ToolDef where
  name : String
  description : String
  inputSchemaJson : String

structure Bedrock where
  region : String
  model : String
  useCrossRegionInference : Bool
  useGlobalInference : Bool
  usePromptCache : Bool
  enable1mContext : Bool
  thinking : Thinking
  tools : List ToolDef

structure Config where
  bedrock : Bedrock

end WarpByokProxy

------------------------------------------------------------
-- Validation
------------------------------------------------------------

namespace WarpByokProxy

open StringParts (contains stripStart)

variable {F : Type}

/- Parse the schema of a tool. -/
def ToolDef.parseInputSchema
    (serde : SerdeJson F)
    (jsonError : String → String)
    (self : ToolDef) : Except String (Json F) :=
  match serde.fromStr self.inputSchemaJson with
  | some schema => .ok schema
  | none =>
      .error
        ("tool `" ++ self.name ++
          "`: invalid input_schema_json: " ++
          jsonError self.inputSchemaJson)

/- Parse the schema of each tool, up to an error. -/
def parseInputSchemas
    (serde : SerdeJson F)
    (jsonError : String → String) :
    List ToolDef → Except String Unit
  | [] => .ok ()
  | t :: tools =>
      match t.parseInputSchema serde jsonError with
      | .error e => .error e
      | .ok _ => parseInputSchemas serde jsonError tools

/-
  The model is of a family that supports the 1M context; a
  marker behind its ID and a prefix before it do not count.
-/
def supports1mContext
    (model : String) : Bool :=
  let core := (splitOff1m model).getD model
  let stripped :=
    (["us.", "eu.", "apac.", "jp.", "au.",
        "global."].findSome? (fun p =>
      stripStart p core)).getD core
  contains "claude-opus-4-6" stripped ||
    contains "claude-opus-4-7" stripped ||
    contains "claude-sonnet-4-7" stripped

namespace Config

/- The startup checks. -/
def validate
    (serde : SerdeJson F)
    (jsonError : String → String)
    (self : Config) : Except String Unit :=
  if self.bedrock.enable1mContext &&
      !supports1mContext self.bedrock.model then
    .error
      ("1M context requires Opus 4.6, Opus 4.7, or " ++
        "Sonnet 4.7; current model: " ++ self.bedrock.model)
  else
    parseInputSchemas serde jsonError self.bedrock.tools

end Config

theorem parseInputSchemas_ok_iff
    (serde : SerdeJson F)
    (jsonError : String → String)
    (tools : List ToolDef) :
    parseInputSchemas serde jsonError tools = .ok () ↔
      ∀ t ∈ tools,
        ∃ schema,
          t.parseInputSchema serde jsonError =
            .ok schema := by
  induction tools with
  | nil => simp [parseInputSchemas]
  | cons t tools ih =>
      rw [parseInputSchemas, List.forall_mem_cons, ← ih]
      cases t.parseInputSchema serde jsonError with
      | error e => simp
      | ok schema => simp

/-
  A configuration is accepted when the 1M context is only
  switched on for models that support it, and every tool has
  a schema.
-/
theorem Config.validate_ok_iff
    (serde : SerdeJson F)
    (jsonError : String → String)
    (cfg : Config) :
    cfg.validate serde jsonError = .ok () ↔
      (cfg.bedrock.enable1mContext = true →
          supports1mContext cfg.bedrock.model = true) ∧
        ∀ t ∈ cfg.bedrock.tools,
          ∃ schema,
            t.parseInputSchema serde jsonError =
              .ok schema := by
  rw [validate, ← parseInputSchemas_ok_iff]
  cases cfg.bedrock.enable1mContext with
  | false => simp
  | true =>
      cases supports1mContext cfg.bedrock.model with
      | false => simp
      | true => simp

end WarpByokProxy
