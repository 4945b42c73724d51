import WarpByokProxy.Config

/-
  Markers and prefixes of model IDs. Neither contains the
  name of a model family and a name contains none of their
  separators, so that the gate of the 1M context sees the
  same family before and after an ID is prepared. A prepared
  ID that carries a prefix is prepared to itself, unless a
  second marker was left on it.

  Key definitions include:
    * `families1m`
    * `KnownPrefixed`
    * `InNormalForm`

  Key theorems include:
    * `contains_wireModelId`
    * `supports1mContext_prepareModelId`
    * `marked_wireModelId_iff`
    * `knownPrefixed_wireModelId_iff`
    * `inNormalForm_iff`
-/

------------------------------------------------------------
-- Markers
------------------------------------------------------------

namespace WarpByokProxy

/- The marker begins with the separator of IDs. -/
theorem marker_toList :
    ":1m".toList = ':' :: "1m".toList := by
  decide

/- An ID is what is left of it, with or without the marker. -/
theorem splitOff1m_cases
    (raw : String) :
    (raw.toList =
        ((splitOff1m raw).getD raw).toList ++
          ":1m".toList) ∨
      ((splitOff1m raw).getD raw = raw ∧
        ¬ ":1m".toList <:+ raw.toList) := by
  cases hSplit : splitOff1m raw with
  | some head =>
      exact .inl ((splitOff1m_eq_some_iff raw head).mp hSplit)
  | none =>
      refine .inr ⟨Option.getD_none, ?_⟩
      rw [← isSome_splitOff1m_iff, hSplit]
      exact Bool.false_ne_true

/- An ID without the marker is kept. -/
theorem splitOff1m_eq_none
    {raw : String}
    (hUnmarked : ¬ ":1m".toList <:+ raw.toList) :
    splitOff1m raw = none := by
  rw [← isSome_splitOff1m_iff] at hUnmarked
  exact Option.not_isSome_iff_eq_none.mp hUnmarked

end WarpByokProxy

------------------------------------------------------------
-- Prefixes
------------------------------------------------------------

namespace WarpByokProxy

open StringParts (startsWith)

/- The ID carries the prefix of an inference profile. -/
def KnownPrefixed
    (model : String) : Prop :=
  ∃ p ∈ knownPrefixes, startsWith p model = true

/- The prefix of a region is a known one. -/
theorem regionPrefix_mem_knownPrefixes
    (region : String) :
    regionPrefix region ++ "." ∈ knownPrefixes := by
  unfold regionPrefix
  split_ifs with hUs hEu hAp
  · decide
  · decide
  · decide
  · decide

/- A prefix is a short name and a dot. -/
theorem exists_name_of_mem_knownPrefixes
    {p : String}
    (hPrefix : p ∈ knownPrefixes) :
    ∃ name : List Char,
      p.toList = name ++ ['.'] ∧
        name.length ≤ 6 ∧
        ':' ∉ p.toList := by
  refine ⟨p.toList.dropLast, ?_⟩
  revert p
  decide

/- The prefix that the options put in front of an ID. -/
theorem exists_wireModelId_eq
    (stripped : String)
    (opts : PrepareOpts) :
    (wireModelId stripped opts = stripped ∧
      (KnownPrefixed stripped ∨
        ¬ (opts.useGlobalInference = true ∨
          opts.useCrossRegionInference = true))) ∨
      ∃ p ∈ knownPrefixes,
        wireModelId stripped opts = p ++ stripped ∧
          (opts.useGlobalInference = true ∨
            opts.useCrossRegionInference = true) := by
  unfold wireModelId
  simp only
  split_ifs with hPrefixed hGlobal hCross
  · exact .inl ⟨rfl, .inl (List.any_eq_true.mp hPrefixed)⟩
  · exact .inr ⟨_, by decide, rfl, .inl hGlobal⟩
  · exact
      .inr
        ⟨_, regionPrefix_mem_knownPrefixes opts.regionHint,
          rfl, .inr hCross⟩
  · refine .inl ⟨rfl, .inr ?_⟩
    rintro (hOn | hOn)
    · exact hGlobal hOn
    · exact hCross hOn

/- What carries a prefix gets no second one. -/
theorem wireModelId_of_knownPrefixed
    {model : String}
    (hPrefixed : KnownPrefixed model)
    (opts : PrepareOpts) :
    wireModelId model opts = model := by
  unfold wireModelId
  exact if_pos (List.any_eq_true.mpr hPrefixed)

end WarpByokProxy

------------------------------------------------------------
-- The Gate
------------------------------------------------------------

namespace WarpByokProxy

open StringParts (contains stripStart)

/- The model families with the 1M context. -/
def families1m : List String :=
  ["claude-opus-4-6", "claude-opus-4-7",
    "claude-sonnet-4-7"]

/- The name of a family is long and without separators. -/
theorem families1m_plain
    {family : String}
    (hFamily : family ∈ families1m) :
    '.' ∉ family.toList ∧
      ':' ∉ family.toList ∧
      6 < family.toList.length := by
  revert family
  decide

/- A short text has no family in it. -/
theorem not_infix_of_short
    {family : String}
    (hFamily : family ∈ families1m)
    {text : List Char}
    (hShort : text.length ≤ 6) :
    ¬ family.toList <:+: text := by
  intro hInfix
  have hLength := hInfix.length_le
  have hLong := (families1m_plain hFamily).2.2
  omega

/- A family in an ID is not in the prefix before it. -/
theorem contains_prefix_append
    {family p : String}
    (hFamily : family ∈ families1m)
    (hPrefix : p ∈ knownPrefixes)
    {text rest : String}
    (hText : text.toList = p.toList ++ rest.toList) :
    contains family text = contains family rest := by
  rcases exists_name_of_mem_knownPrefixes hPrefix with
    ⟨name, hName, hShort, -⟩
  have hDot := (families1m_plain hFamily).1
  rw [Bool.eq_iff_iff, StringParts.contains_iff,
    StringParts.contains_iff, hText, hName,
    List.append_assoc, List.singleton_append,
    StringParts.infix_append_cons_iff hDot]
  exact or_iff_right (not_infix_of_short hFamily hShort)

/- A family in an ID is not in the marker behind it. -/
theorem contains_splitOff1m
    {family : String}
    (hFamily : family ∈ families1m)
    (raw : String) :
    contains family ((splitOff1m raw).getD raw) =
      contains family raw := by
  rcases splitOff1m_cases raw with hMarked | ⟨hKept, -⟩
  · have hColon := (families1m_plain hFamily).2.1
    have hShort : "1m".toList.length ≤ 6 := by decide
    rw [Bool.eq_iff_iff, StringParts.contains_iff,
      StringParts.contains_iff]
    conv_rhs => rw [hMarked, marker_toList]
    rw [StringParts.infix_append_cons_iff hColon]
    exact
      (or_iff_left
        (not_infix_of_short hFamily hShort)).symm
  · rw [hKept]

/- A family in an ID is not in a prefix stripped from it. -/
theorem contains_stripKnown
    {family : String}
    (hFamily : family ∈ families1m)
    (core : String) :
    contains family
        ((knownPrefixes.findSome? (fun p =>
          stripStart p core)).getD core) =
      contains family core := by
  cases hStrip :
      knownPrefixes.findSome? (fun p =>
        stripStart p core) with
  | none => rw [Option.getD_none]
  | some rest =>
      rcases List.exists_of_findSome?_eq_some hStrip with
        ⟨p, hPrefix, hRest⟩
      rw [StringParts.stripStart_eq_some_iff] at hRest
      rw [Option.getD_some]
      exact
        (contains_prefix_append hFamily hPrefix hRest).symm

/-
  The gate asks for a family anywhere in the ID; what it
  strips from the ID makes no difference.
-/
theorem supports1mContext_eq_any
    (model : String) :
    supports1mContext model =
      families1m.any (fun family =>
        contains family model) := by
  have hFamily :
      ∀ family ∈ families1m,
        contains family
            ((knownPrefixes.findSome? (fun p =>
              stripStart p
                ((splitOff1m model).getD model))).getD
              ((splitOff1m model).getD model)) =
          contains family model := by
    intro family hMem
    rw [contains_stripKnown hMem,
      contains_splitOff1m hMem]
  have h46 := hFamily "claude-opus-4-6" (by decide)
  have h47 := hFamily "claude-opus-4-7" (by decide)
  have hSonnet := hFamily "claude-sonnet-4-7" (by decide)
  unfold knownPrefixes at h46 h47 hSonnet
  simp only [supports1mContext, h46, h47, hSonnet,
    families1m, List.any_cons, List.any_nil,
    Bool.or_false, Bool.or_assoc]

/- IDs with the same families have the same verdict. -/
theorem supports1mContext_congr
    {model other : String}
    (hFamilies :
      ∀ family ∈ families1m,
        contains family model = contains family other) :
    supports1mContext model = supports1mContext other := by
  rw [supports1mContext_eq_any, supports1mContext_eq_any,
    Bool.eq_iff_iff, List.any_eq_true, List.any_eq_true]
  refine exists_congr (fun family => ?_)
  refine and_congr_right (fun hMem => ?_)
  rw [hFamilies family hMem]

/- The prefix of the wire has no family in it. -/
theorem contains_wireModelId
    {family : String}
    (hFamily : family ∈ families1m)
    (stripped : String)
    (opts : PrepareOpts) :
    contains family (wireModelId stripped opts) =
      contains family stripped := by
  rcases exists_wireModelId_eq stripped opts with
    ⟨hKept, -⟩ | ⟨p, hPrefix, hWire, -⟩
  · rw [hKept]
  · refine contains_prefix_append hFamily hPrefix ?_
    rw [hWire, String.toList_append]

/-
  The gate gives one verdict for an ID, for what goes on the
  wire for it and for its canonical form.
-/
theorem supports1mContext_prepareModelId
    (raw : String)
    (opts : PrepareOpts) :
    ∃ prep,
      prepareModelId raw opts = .ok prep ∧
        supports1mContext prep.wireModelId =
          supports1mContext raw ∧
        supports1mContext prep.canonical =
          supports1mContext raw := by
  rcases exists_prepareModelId raw opts with
    ⟨prep, hPrep, hCanonical, hWire, -⟩
  have hStripped :
      supports1mContext ((splitOff1m raw).getD raw) =
        supports1mContext raw :=
    supports1mContext_congr (fun _ hFamily =>
      contains_splitOff1m hFamily raw)
  refine ⟨prep, hPrep, ?_, ?_⟩
  · rw [hWire, ← hStripped]
    exact
      supports1mContext_congr (fun _ hFamily =>
        contains_wireModelId hFamily _ opts)
  · rw [hCanonical]
    exact hStripped

end WarpByokProxy

------------------------------------------------------------
-- Normal Form
------------------------------------------------------------

namespace WarpByokProxy

open StringParts (startsWith)

/- A prefix shows through a marker behind the ID. -/
theorem knownPrefixed_splitOff1m_iff
    (raw : String) :
    KnownPrefixed ((splitOff1m raw).getD raw) ↔
      KnownPrefixed raw := by
  rcases splitOff1m_cases raw with hMarked | ⟨hKept, -⟩
  · refine exists_congr (fun p => ?_)
    refine and_congr_right (fun hPrefix => ?_)
    rcases exists_name_of_mem_knownPrefixes hPrefix with
      ⟨-, -, -, hColon⟩
    rw [StringParts.startsWith_iff,
      StringParts.startsWith_iff]
    conv_rhs => rw [hMarked, marker_toList]
    rw [StringParts.prefix_append_cons_iff hColon]
  · rw [hKept]

/-
  The ID on the wire carries a prefix when the options ask
  for one or when it had one before.
-/
theorem knownPrefixed_wireModelId_iff
    (stripped : String)
    (opts : PrepareOpts) :
    KnownPrefixed (wireModelId stripped opts) ↔
      KnownPrefixed stripped ∨
        opts.useGlobalInference = true ∨
          opts.useCrossRegionInference = true := by
  rcases exists_wireModelId_eq stripped opts with
    ⟨hKept, hWhy⟩ | ⟨p, hPrefix, hWire, hOn⟩
  · rw [hKept]
    constructor
    · exact Or.inl
    · rintro (hPrefixed | hOn)
      · exact hPrefixed
      · exact hWhy.resolve_right (fun hOff => hOff hOn)
  · refine iff_of_true ⟨p, hPrefix, ?_⟩ (.inr hOn)
    rw [StringParts.startsWith_iff, hWire,
      String.toList_append]
    exact List.prefix_append _ _

/- A prefix hides no marker and makes none. -/
theorem marked_wireModelId_iff
    (stripped : String)
    (opts : PrepareOpts) :
    ":1m".toList <:+ (wireModelId stripped opts).toList ↔
      ":1m".toList <:+ stripped.toList := by
  rcases exists_wireModelId_eq stripped opts with
    ⟨hKept, -⟩ | ⟨p, hPrefix, hWire, -⟩
  · rw [hKept]
  · rcases exists_name_of_mem_knownPrefixes hPrefix with
      ⟨-, -, -, hColon⟩
    rw [hWire, String.toList_append, marker_toList]
    exact StringParts.cons_suffix_append_iff hColon _ _

/- One marker is taken off, so a second one stays. -/
theorem marked_splitOff1m_iff
    (raw : String) :
    ":1m".toList <:+ ((splitOff1m raw).getD raw).toList ↔
      ":1m:1m".toList <:+ raw.toList := by
  have hTwice :
      ":1m:1m".toList = ":1m".toList ++ ":1m".toList := by
    decide
  rw [hTwice]
  rcases splitOff1m_cases raw with
    hMarked | ⟨hKept, hUnmarked⟩
  · conv_rhs => rw [hMarked]
    exact List.suffix_append_self_iff.symm
  · rw [hKept]
    refine iff_of_false hUnmarked (fun hMarked => ?_)
    apply hUnmarked
    exact (List.suffix_append _ _).trans hMarked

/-
  The ID on the wire has no marker. When the options ask for
  a prefix or there was one already, it carries one, and
  preparing it again with any options changes nothing.
-/
def InNormalForm
    (raw : String)
    (opts : PrepareOpts) : Prop :=
  ∃ prep,
    prepareModelId raw opts = .ok prep ∧
      ¬ ":1m".toList <:+ prep.wireModelId.toList ∧
      (KnownPrefixed prep.wireModelId ↔
        KnownPrefixed raw ∨
          opts.useGlobalInference = true ∨
            opts.useCrossRegionInference = true) ∧
      (KnownPrefixed prep.wireModelId →
        ∀ opts' : PrepareOpts,
          ∃ again,
            prepareModelId prep.wireModelId opts' =
                .ok again ∧
              again.wireModelId = prep.wireModelId ∧
              again.opus1m = false)

/- A prefixed ID without a marker is prepared to itself. -/
theorem prepareModelId_of_knownPrefixed
    {model : String}
    (hUnmarked : ¬ ":1m".toList <:+ model.toList)
    (hPrefixed : KnownPrefixed model)
    (opts : PrepareOpts) :
    ∃ again,
      prepareModelId model opts = .ok again ∧
        again.wireModelId = model ∧
        again.opus1m = false := by
  rcases exists_prepareModelId model opts with
    ⟨again, hAgain, -, hWire, hOpus⟩
  have hSplit := splitOff1m_eq_none hUnmarked
  refine ⟨again, hAgain, ?_, ?_⟩
  · rw [hWire, hSplit, Option.getD_none]
    exact wireModelId_of_knownPrefixed hPrefixed opts
  · rw [hOpus, hSplit, Option.isSome_none]

/- A second marker goes out on the wire. -/
theorem marked_wire_iff
    {raw : String}
    {opts : PrepareOpts}
    {prep : PreparedModel}
    (hPrep : prepareModelId raw opts = .ok prep) :
    ":1m".toList <:+ prep.wireModelId.toList ↔
      ":1m:1m".toList <:+ raw.toList := by
  rcases exists_prepareModelId raw opts with
    ⟨prep', hPrep', -, hWire, -⟩
  obtain rfl : prep' = prep := by
    rw [hPrep] at hPrep'
    exact (Except.ok.inj hPrep').symm
  rw [hWire, marked_wireModelId_iff,
    marked_splitOff1m_iff]

/-
  What is prepared is in normal form just when the ID does
  not end with the marker twice: a single marker is stripped
  whatever stands before it.
-/
theorem inNormalForm_iff
    (raw : String)
    (opts : PrepareOpts) :
    InNormalForm raw opts ↔
      ¬ ":1m:1m".toList <:+ raw.toList := by
  constructor
  · rintro ⟨prep, hPrep, hUnmarked, -, -⟩
    rw [← marked_wire_iff hPrep]
    exact hUnmarked
  · intro hOnce
    rcases exists_prepareModelId raw opts with
      ⟨prep, hPrep, -, hWire, -⟩
    have hUnmarked :
        ¬ ":1m".toList <:+ prep.wireModelId.toList := by
      rw [marked_wire_iff hPrep]
      exact hOnce
    refine ⟨prep, hPrep, hUnmarked, ?_, ?_⟩
    · rw [hWire, knownPrefixed_wireModelId_iff,
        knownPrefixed_splitOff1m_iff]
    · intro hPrefixed
      exact prepareModelId_of_knownPrefixed hUnmarked hPrefixed

/- Of two markers one goes out on the wire. -/
theorem not_inNormalForm_twice_marked :
    (prepareModelId "anthropic.claude-opus-4-7:1m:1m"
        { useCrossRegionInference := true
          useGlobalInference := false
          regionHint := "us-east-1" }).toOption.map
        PreparedModel.wireModelId =
      some "us.anthropic.claude-opus-4-7:1m" ∧
    ¬ InNormalForm "anthropic.claude-opus-4-7:1m:1m"
        { useCrossRegionInference := true
          useGlobalInference := false
          regionHint := "us-east-1" } := by
  refine ⟨by decide +kernel, ?_⟩
  rintro ⟨prep, hPrep, hUnmarked, -, -⟩
  apply hUnmarked
  rw [marked_wire_iff hPrep]
  decide

end WarpByokProxy
