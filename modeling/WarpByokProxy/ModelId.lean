import WarpByokProxy.Library.StringParts

/-
  Model IDs, translated from `model_id.rs`: the marker of the
  1M context is taken off, and an inference-profile prefix
  is put in front.

  Key definitions include:
    * `PrepareOpts`
    * `PreparedModel`
    * `splitOff1m`
    * `prepareModelId`

  Key theorems include:
    * `splitOff1m_eq_some_iff`
    * `isSome_splitOff1m_iff`
    * `exists_prepareModelId`
-/

------------------------------------------------------------
-- Preparing A Model ID
------------------------------------------------------------

namespace WarpByokProxy

open StringParts (rsplitOnce startsWith)

structure PrepareOpts where
  useCrossRegionInference : Bool
  useGlobalInference : Bool
  regionHint : String

structure PreparedModel where
  canonical : String
  wireModelId : String
  opus1m : Bool

/- The prefixes of inference profiles. -/
def knownPrefixes : List String :=
  ["us.", "eu.", "apac.", "jp.", "au.", "global."]

/- The profile of a region; unknown ones fall back on `us`. -/
def regionPrefix
    (region : String) : String :=
  if startsWith "us-" region || startsWith "ca-" region then
    "us"
  else if startsWith "eu-" region then
    "eu"
  else if startsWith "ap-" region then
    "apac"
  else
    "us"

/- What stands in front of a trailing `:1m` marker. -/
def splitOff1m
    (raw : String) : Option String :=
  match rsplitOnce ':' raw with
  | some (head, "1m") => some head
  | _ => none

/- The ID with the prefix that the options ask for. -/
def wireModelId
    (stripped : String)
    (opts : PrepareOpts) : String :=
  let alreadyPrefixed :=
    knownPrefixes.any (fun p => startsWith p stripped)
  if alreadyPrefixed then
    stripped
  else if opts.useGlobalInference then
    "global." ++ stripped
  else if opts.useCrossRegionInference then
    regionPrefix opts.regionHint ++ "." ++ stripped
  else
    stripped

/- Prepare a model ID for the wire. -/
def prepareModelId
    (raw : String)
    (opts : PrepareOpts) : Except String PreparedModel :=
  let (stripped, opus1m) :=
    match splitOff1m raw with
    | some head => (head, true)
    | none => (raw, false)
  .ok
    { canonical := stripped
      wireModelId := wireModelId stripped opts
      opus1m := opus1m }

/- Only the marker is taken off. -/
theorem splitOff1m_eq_some_iff
    (raw head : String) :
    splitOff1m raw = some head ↔
      raw.toList = head.toList ++ ":1m".toList := by
  have hColon : ':' ∉ "1m".toList := by decide
  have hSplit :
      splitOff1m raw = some head ↔
        rsplitOnce ':' raw = some (head, "1m") := by
    unfold splitOff1m
    constructor
    · intro hSome
      split at hSome
      · rename_i first hParts
        obtain rfl := Option.some.inj hSome
        exact hParts
      · contradiction
    · intro hParts
      rw [hParts]
      rfl
  rw [hSplit, StringParts.rsplitOnce_eq_some_iff]
  exact and_iff_left hColon

/- The marker is the end of the ID. -/
theorem isSome_splitOff1m_iff
    (raw : String) :
    (splitOff1m raw).isSome = true ↔
      ":1m".toList <:+ raw.toList := by
  rw [Option.isSome_iff_exists]
  simp only [splitOff1m_eq_some_iff]
  constructor
  · rintro ⟨head, hText⟩
    exact ⟨head.toList, hText.symm⟩
  · rintro ⟨first, hText⟩
    refine ⟨String.ofList first, ?_⟩
    rw [String.toList_ofList]
    exact hText.symm

/- Every model ID can be prepared. -/
theorem exists_prepareModelId
    (raw : String)
    (opts : PrepareOpts) :
    ∃ prep,
      prepareModelId raw opts = .ok prep ∧
        prep.canonical = (splitOff1m raw).getD raw ∧
        prep.wireModelId =
          wireModelId ((splitOff1m raw).getD raw) opts ∧
        prep.opus1m = (splitOff1m raw).isSome := by
  unfold prepareModelId
  cases splitOff1m raw with
  | none => exact ⟨_, rfl, rfl, rfl, rfl⟩
  | some head => exact ⟨_, rfl, rfl, rfl, rfl⟩

end WarpByokProxy
