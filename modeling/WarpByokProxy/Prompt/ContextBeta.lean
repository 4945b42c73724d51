import WarpByokProxy.History.ToolCallRoundTrip

/-
  When the flag of the 1M context is sent.

  Validation looks at the knob of the configuration, and at
  the model only when the knob is on. The translation looks
  at the marker of the model ID alone. A marked model whose
  knob is off is therefore accepted unchecked, and its
  requests carry the flag all the same.

  Key definitions include:
    * `BedrockInput.SendsContextBeta`
    * `BetaIsValidated`

  Key theorems include:
    * `sendsContextBeta_iff`
    * `betaIsValidated_iff`
    * `not_betaIsValidated_markedHaiku`
-/

------------------------------------------------------------
-- The Flag Of A Request
------------------------------------------------------------

namespace WarpByokProxy

variable {F : Type}

/- The flag is among the beta flags of the request. -/
def BedrockInput.SendsContextBeta
    (input : BedrockInput F) : Prop :=
  ∃ betas,
    input.additionalModelRequestFields.get
          "anthropic_beta" =
        some (.array betas) ∧
      .string context1mBeta ∈ betas

/- The flag is only sent when the configuration checked it. -/
def BetaIsValidated
    (dynMsgToJson : DynMsgToJson F)
    (req : Wmaa.Request)
    (cfg : Config) : Prop :=
  ∀ input,
    translateWarpRequest dynMsgToJson req cfg = .ok input →
      input.SendsContextBeta →
        cfg.bedrock.enable1mContext = true ∧
          supports1mContext cfg.bedrock.model = true

/- The flag is one of the list it is built into. -/
theorem exists_anthropicBeta_iff
    (betas : List String)
    (reasoning : ThinkingFields F)
    (flag : String) :
    (∃ flags,
      (requestFields betas reasoning).get "anthropic_beta" =
          some (.array flags) ∧
        .string flag ∈ flags) ↔
      flag ∈ betas := by
  rw [get_anthropicBeta_requestFields]
  constructor
  · rintro ⟨flags, hGet, hMem⟩
    split_ifs at hGet
    obtain rfl := Json.array.inj (Option.some.inj hGet)
    rcases List.mem_map.mp hMem with ⟨other, hOther, hFlag⟩
    obtain rfl := Json.string.inj hFlag
    exact hOther
  · intro hMem
    have hSome : ¬ betas.isEmpty = true := by
      rw [List.isEmpty_iff]
      exact List.ne_nil_of_mem hMem
    rw [if_neg hSome]
    exact ⟨_, rfl, List.mem_map_of_mem hMem⟩

/- A request carries the flag when its model is marked. -/
theorem sendsContextBeta_iff
    {dynMsgToJson : DynMsgToJson F}
    {req : Wmaa.Request}
    {cfg : Config}
    {input : BedrockInput F}
    (hInput :
      translateWarpRequest dynMsgToJson req cfg =
        .ok input) :
    input.SendsContextBeta ↔
      ":1m".toList <:+ cfg.bedrock.model.toList := by
  rcases exists_translateWarpRequest dynMsgToJson req cfg
    with ⟨found, reasoning, hFound, -, hFields⟩
  rw [hInput, Except.ok.injEq] at hFound
  rw [BedrockInput.SendsContextBeta, hFound, hFields,
    exists_anthropicBeta_iff,
    context1mBeta_mem_buildBetas_iff,
    isSome_splitOff1m_iff]
  simp

end WarpByokProxy

------------------------------------------------------------
-- Validated Configurations
------------------------------------------------------------

namespace WarpByokProxy

variable {F : Type}

/-
  Under an accepted configuration the flag was checked just
  when a marked model comes with the knob on.
-/
theorem betaIsValidated_iff
    {serde : SerdeJson F}
    {jsonError : String → String}
    {cfg : Config}
    (hValid : cfg.validate serde jsonError = .ok ())
    (dynMsgToJson : DynMsgToJson F)
    (req : Wmaa.Request) :
    BetaIsValidated dynMsgToJson req cfg ↔
      (":1m".toList <:+ cfg.bedrock.model.toList →
        cfg.bedrock.enable1mContext = true) := by
  have hSupported :=
    ((Config.validate_ok_iff serde jsonError cfg).mp
      hValid).1
  constructor
  · intro hBeta hMarked
    rcases exists_translateWarpRequest dynMsgToJson req cfg
      with ⟨input, reasoning, hInput, -, -⟩
    have hSends := (sendsContextBeta_iff hInput).mpr hMarked
    exact (hBeta input hInput hSends).1
  · intro hKnob input hInput hSends
    have hMarked := (sendsContextBeta_iff hInput).mp hSends
    have hOn := hKnob hMarked
    exact ⟨hOn, hSupported hOn⟩

/- A marked model that does not support the 1M context. -/
def markedHaiku : Config where
  bedrock :=
    { region := "us-east-1"
      model := "anthropic.claude-haiku-4-5:1m"
      useCrossRegionInference := true
      useGlobalInference := false
      usePromptCache := true
      enable1mContext := false
      thinking :=
        { mode := .adaptive
          effort := .max
          budgetTokens := none }
      tools := [] }

theorem betaIsValidated_iff_markedHaiku :
    BetaIsValidated (F := Empty) .canonical
        { taskContext := none, input := none } markedHaiku ↔
      (":1m".toList <:+
          markedHaiku.bedrock.model.toList →
        markedHaiku.bedrock.enable1mContext = true) := by
  have hValid :
      markedHaiku.validate SerdeJson.integral id = .ok () :=
    rfl
  exact betaIsValidated_iff hValid .canonical
    { taskContext := none, input := none }

/- It is accepted, and its requests carry the flag. -/
theorem not_betaIsValidated_markedHaiku :
    ¬ (markedHaiku.validate SerdeJson.integral id = .ok () →
        BetaIsValidated (F := Empty) .canonical
          { taskContext := none, input := none }
          markedHaiku) := by
  intro hBeta
  have hMarked :
      ":1m".toList <:+
        markedHaiku.bedrock.model.toList := by
    decide
  rcases exists_translateWarpRequest (F := Empty) .canonical
      { taskContext := none, input := none } markedHaiku with
    ⟨input, reasoning, hInput, -, -⟩
  have hOn :=
    (hBeta rfl input hInput
      ((sendsContextBeta_iff hInput).mpr hMarked)).1
  contradiction

end WarpByokProxy
