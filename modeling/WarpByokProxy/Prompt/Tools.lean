import WarpByokProxy.Prompt.Documents

/-
  Tools of a validated configuration. Validation parses the
  schema of each tool, which is all that the translation to
  the SDK can fail on, so that every accepted tool list is
  translated entry by entry. Validation looks at no two
  entries together: the names of an accepted list need not
  be distinct.

  Key definitions include:
    * `SpecOf`
    * `ToolsReady`

  Key theorems include:
    * `exists_toolToSdk`
    * `exists_toolSpecsToSdk`
    * `toolsReady_iff`
-/

------------------------------------------------------------
-- Specifications
------------------------------------------------------------

namespace WarpByokProxy

variable {F : Type}

/- The name of a tool of the SDK. -/
def Sdk.Tool.name : Sdk.Tool F → String
  | .toolSpec spec => spec.name

/-
  The tool has the name and the description of the entry,
  and the document of its parsed schema, which is read back
  from it.
-/
def SpecOf
    (serde : SerdeJson F)
    (t : ToolDef)
    (tool : Sdk.Tool F) : Prop :=
  ∃ schema,
    serde.fromStr t.inputSchemaJson = some schema ∧
      documentToJson (jsonToDocument schema) = schema ∧
      tool =
        .toolSpec
          { name := t.name
            description := some t.description
            inputSchema :=
              some (.json (jsonToDocument schema)) }

theorem SpecOf.name_eq
    {serde : SerdeJson F}
    {t : ToolDef}
    {tool : Sdk.Tool F}
    (hSpec : SpecOf serde t tool) :
    tool.name = t.name := by
  rcases hSpec with ⟨schema, -, -, rfl⟩
  rfl

/- What parses is the text of the schema. -/
theorem ToolDef.fromStr_of_parseInputSchema
    {serde : SerdeJson F}
    {jsonError : String → String}
    {t : ToolDef}
    {schema : Json F}
    (hParse :
      t.parseInputSchema serde jsonError = .ok schema) :
    serde.fromStr t.inputSchemaJson = some schema := by
  unfold parseInputSchema at hParse
  split at hParse
  · rename_i found hFound
    rw [hFound, Except.ok.inj hParse]
  · contradiction

/- A tool whose schema parses is translated. -/
theorem exists_toolToSdk
    {builders : Sdk.ToolBuilders F}
    (hBuilders : builders.RequireFields)
    {serde : SerdeJson F}
    {jsonError : String → String}
    {t : ToolDef}
    {schema : Json F}
    (hParse :
      t.parseInputSchema serde jsonError = .ok schema) :
    ∃ tool,
      toolToSdk serde jsonError builders t = .ok tool ∧
        SpecOf serde t tool := by
  refine ⟨_, ?_, schema, ?_, ?_, rfl⟩
  · simp only [toolToSdk, hParse,
      hBuilders.toolSpecification]
  · exact ToolDef.fromStr_of_parseInputSchema hParse
  · exact documentToJson_jsonToDocument schema

/- Tools that all parse are translated, in their order. -/
theorem exists_toolSpecsToSdk
    {builders : Sdk.ToolBuilders F}
    (hBuilders : builders.RequireFields)
    {serde : SerdeJson F}
    {jsonError : String → String}
    {tools : List ToolDef}
    (hParse :
      ∀ t ∈ tools,
        ∃ schema,
          t.parseInputSchema serde jsonError =
            .ok schema) :
    ∃ out,
      toolSpecsToSdk serde jsonError builders tools =
          .ok out ∧
        List.Forall₂ (SpecOf serde) tools out := by
  induction tools with
  | nil => exact ⟨[], rfl, .nil⟩
  | cons t tools ih =>
      rw [List.forall_mem_cons] at hParse
      rcases hParse with ⟨⟨schema, hHead⟩, hTail⟩
      rcases exists_toolToSdk hBuilders hHead with
        ⟨tool, hTool, hSpec⟩
      rcases ih hTail with ⟨out, hOut, hSpecs⟩
      refine ⟨tool :: out, ?_, .cons hSpec hSpecs⟩
      simp only [toolSpecsToSdk, hTool, hOut]

/- The tools of the SDK have the names of the entries. -/
theorem map_name_of_forall₂
    {serde : SerdeJson F}
    {tools : List ToolDef}
    {out : List (Sdk.Tool F)}
    (hSpecs : List.Forall₂ (SpecOf serde) tools out) :
    out.map Sdk.Tool.name = tools.map ToolDef.name := by
  induction hSpecs with
  | nil => rfl
  | cons hSpec _ ih =>
      rw [List.map_cons, List.map_cons, hSpec.name_eq, ih]

end WarpByokProxy

------------------------------------------------------------
-- Validated Tool Lists
------------------------------------------------------------

namespace WarpByokProxy

variable {F : Type}

/-
  The tool list is translated, to nothing when it is empty
  and else to one specification for each entry, in order and
  with distinct names.
-/
def ToolsReady
    (serde : SerdeJson F)
    (jsonError : String → String)
    (builders : Sdk.ToolBuilders F)
    (tools : List ToolDef) : Prop :=
  (tools = [] →
    toolsToSdk serde jsonError builders tools = .ok none) ∧
  (tools ≠ [] →
    ∃ config,
      toolsToSdk serde jsonError builders tools =
          .ok (some config) ∧
        List.Forall₂ (SpecOf serde) tools config.tools ∧
        (config.tools.map Sdk.Tool.name).Nodup)

/- Accepted tools are translated, whatever their names. -/
theorem exists_toolsToSdk_of_validate
    {builders : Sdk.ToolBuilders F}
    (hBuilders : builders.RequireFields)
    {serde : SerdeJson F}
    {jsonError : String → String}
    {cfg : Config}
    (hValid : cfg.validate serde jsonError = .ok ())
    (hSome : cfg.bedrock.tools ≠ []) :
    ∃ config,
      toolsToSdk serde jsonError builders
            cfg.bedrock.tools =
          .ok (some config) ∧
        List.Forall₂ (SpecOf serde) cfg.bedrock.tools
          config.tools := by
  have hParse :=
    ((Config.validate_ok_iff serde jsonError cfg).mp
      hValid).2
  rcases exists_toolSpecsToSdk hBuilders hParse with
    ⟨out, hOut, hSpecs⟩
  refine ⟨{ tools := out }, ?_, hSpecs⟩
  have hEmpty : cfg.bedrock.tools.isEmpty = false :=
    List.isEmpty_eq_false_iff.mpr hSome
  simp only [toolsToSdk, hEmpty, hOut,
    hBuilders.toolConfiguration]
  rfl

/-
  The tools of an accepted configuration are ready just when
  their names are distinct, which no check asks for.
-/
theorem toolsReady_iff
    {builders : Sdk.ToolBuilders F}
    (hBuilders : builders.RequireFields)
    {serde : SerdeJson F}
    {jsonError : String → String}
    {cfg : Config}
    (hValid : cfg.validate serde jsonError = .ok ()) :
    ToolsReady serde jsonError builders
        cfg.bedrock.tools ↔
      (cfg.bedrock.tools.map ToolDef.name).Nodup := by
  constructor
  · rintro ⟨-, hReady⟩
    by_cases hSome : cfg.bedrock.tools = []
    · rw [hSome, List.map_nil]
      exact List.nodup_nil
    · rcases hReady hSome with
        ⟨config, -, hSpecs, hNodup⟩
      rw [← map_name_of_forall₂ hSpecs]
      exact hNodup
  · intro hNodup
    constructor
    · intro hNone
      rw [hNone]
      rfl
    · intro hSome
      rcases exists_toolsToSdk_of_validate hBuilders hValid
          hSome with ⟨config, hConfig, hSpecs⟩
      refine ⟨config, hConfig, hSpecs, ?_⟩
      rw [map_name_of_forall₂ hSpecs]
      exact hNodup

/- A configuration with the given tools. -/
def configWithTools
    (tools : List ToolDef) : Config where
  bedrock :=
    { region := "us-east-1"
      model := "anthropic.claude-opus-4-7"
      useCrossRegionInference := true
      useGlobalInference := false
      usePromptCache := true
      enable1mContext := true
      thinking :=
        { mode := .adaptive
          effort := .max
          budgetTokens := none }
      tools := tools }

/- A tool that takes no arguments. -/
def getWeather : ToolDef where
  name := "get_weather"
  description := "Look up current weather for a city."
  inputSchemaJson := "\x7b\x7d"

/- A tool that takes a text. -/
def grep : ToolDef where
  name := "grep"
  description := "Search for a text."
  inputSchemaJson :=
    "\x7b\"required\":[\"text\"]\x7d"

/- Two tools of different names are ready. -/
theorem toolsReady_iff_two_tools :
    ToolsReady SerdeJson.sortedIntegral id .strict
      (configWithTools [getWeather, grep]).bedrock.tools := by
  have hValid :
      (configWithTools [getWeather, grep]).validate
        SerdeJson.sortedIntegral id = .ok () := by
    decide +kernel
  have hReady :=
    toolsReady_iff
      Sdk.ToolBuilders.strict_requireToolFields hValid
  exact hReady.mpr (by decide)

/- Two tools of one name are accepted at startup. -/
theorem not_toolsReady_repeated_name :
    (configWithTools [getWeather, getWeather]).validate
        SerdeJson.integral id = .ok () ∧
      ¬ ToolsReady SerdeJson.integral id .strict
        (configWithTools
          [getWeather, getWeather]).bedrock.tools := by
  refine ⟨rfl, ?_⟩
  rintro ⟨-, hReady⟩
  rcases hReady (List.cons_ne_nil _ _) with
    ⟨config, -, hSpecs, hNodup⟩
  rw [map_name_of_forall₂ hSpecs] at hNodup
  simp [configWithTools] at hNodup

end WarpByokProxy
