import WarpByokProxy.Config

/-
  The additional fields of a model request, translated from
  `betas.rs` and `thinking.rs`.

  Key definitions include:
    * `buildBetas`
    * `ReasoningInputs`
    * `ThinkingFields`
    * `buildReasoningConfig`
-/

------------------------------------------------------------
-- Beta Flags
------------------------------------------------------------

namespace WarpByokProxy

/- The flag of the 1M context. -/
def context1mBeta : String :=
  "context-1m-2025-08-07"

/- The flags, with that of the 1M context when asked for. -/
def buildBetas
    (opus1m : Bool)
    (existing : List String) : List String :=
  if opus1m && !existing.any (fun b => b = context1mBeta) then
    existing ++ [context1mBeta]
  else
    existing

/- The flag is there when asked for, or when it was before. -/
theorem context1mBeta_mem_buildBetas_iff
    (opus1m : Bool)
    (existing : List String) :
    context1mBeta ∈ buildBetas opus1m existing ↔
      opus1m = true ∨ context1mBeta ∈ existing := by
  have hAny :
      existing.any (fun b => b = context1mBeta) = true ↔
        context1mBeta ∈ existing := by
    simp [List.any_eq_true]
  unfold buildBetas
  by_cases hOld : context1mBeta ∈ existing
  · rw [hAny.mpr hOld]
    simp [hOld]
  · have hNone :
        existing.any (fun b => b = context1mBeta) = false :=
      Bool.eq_false_iff.mpr (fun hSome =>
        hOld (hAny.mp hSome))
    rw [hNone]
    cases opus1m with
    | false => simp [hOld]
    | true => simp [hOld]

end WarpByokProxy

------------------------------------------------------------
-- Thinking
------------------------------------------------------------

namespace WarpByokProxy

variable {F : Type}

structure ReasoningInputs where
  mode : ThinkingMode
  effort : Effort
  budgetTokens : Option UInt32

structure ThinkingFields (F : Type) where
  thinking : Option (Json F)
  outputConfig : Option (Json F)

def effortStr : Effort → String
  | .low => "low"
  | .medium => "medium"
  | .high => "high"
  | .max => "max"

/- The fields of a thinking mode. -/
def buildReasoningConfig
    (inp : ReasoningInputs) :
    Except String (ThinkingFields F) :=
  .ok
    (match inp.mode with
    | .off => { thinking := none, outputConfig := none }
    | .adaptive =>
        { thinking := some (.ofStrings [("type", "adaptive")])
          outputConfig :=
            some (.ofStrings
              [("effort", effortStr inp.effort)]) }
    | .enabled =>
        { thinking := some (.object
            [("type", .string "enabled"),
              ("budget_tokens", .number (.posInt
                (inp.budgetTokens.getD 16000).toUInt64))])
          outputConfig := none })

end WarpByokProxy
