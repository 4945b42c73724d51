import WarpByokProxy.Library.Transducer

/-
  Frames that end with a separator written twice, over an
  arbitrary type of symbols.

  A text is cut at each double separator, from the left;
  what stands behind the last one is an unfinished frame.
  Payloads without the separator come back from the text of
  their frames. The text may arrive in chunks of any shape:
  a reader that keeps the unfinished frame reads the same.

  Key definitions include:
    * `Framing.scan`
    * `Framing.splitDouble`
    * `Framing.frame`
    * `Framing.stripPrefix`
    * `Framing.reader`

  Key theorems include:
    * `Framing.scan_frames`
    * `Framing.scan_append`
    * `Framing.output_reader`
-/

------------------------------------------------------------
-- Splitting
------------------------------------------------------------

namespace Framing

variable {α : Type*}

/-
  Put a symbol in front of a scanned text: it belongs to the
  first frame, or to the unfinished one.
-/
def extend
    (x : α) :
    List (List α) × List α → List (List α) × List α
  | ([], rest) => ([], x :: rest)
  | (part :: parts, rest) => ((x :: part) :: parts, rest)

variable [DecidableEq α]

/- The frames of a text, and what stands behind them. -/
def scan
    (separator : α) :
    List α → List (List α) × List α
  | [] => ([], [])
  | [x] => ([], [x])
  | x :: y :: rest =>
      if x = separator ∧ y = separator then
        let scanned := scan separator rest
        ([] :: scanned.1, scanned.2)
      else
        extend x (scan separator (y :: rest))

/- The parts of a text between double separators. -/
def splitDouble
    (separator : α)
    (text : List α) : List (List α) :=
  let scanned := scan separator text
  scanned.1 ++ [scanned.2]

/- A payload with the separator that ends it. -/
def frame
    (separator : α)
    (payload : List α) : List α :=
  payload ++ [separator, separator]

/- The text behind a given beginning. -/
def stripPrefix :
    List α → List α → Option (List α)
  | [], text => some text
  | _ :: _, [] => none
  | c :: start, d :: text =>
      if c = d then stripPrefix start text else none

theorem stripPrefix_append
    (start text : List α) :
    stripPrefix start (start ++ text) = some text := by
  induction start with
  | nil => rfl
  | cons c start ih =>
      rw [List.cons_append, stripPrefix, if_pos rfl, ih]

/- A double separator ends an empty frame. -/
theorem scan_double
    (separator : α)
    (rest : List α) :
    scan separator (separator :: separator :: rest) =
      ([] :: (scan separator rest).1,
        (scan separator rest).2) := by
  rw [scan, if_pos ⟨rfl, rfl⟩]

/- Any other symbol extends what is scanned behind it. -/
theorem scan_cons_cons
    {separator x y : α}
    (hOther : ¬ (x = separator ∧ y = separator))
    (rest : List α) :
    scan separator (x :: y :: rest) =
      extend x (scan separator (y :: rest)) := by
  rw [scan, if_neg hOther]

/- A payload ends at the separator of its frame. -/
theorem scan_frame_append
    {separator : α}
    {payload : List α}
    (hPayload : separator ∉ payload)
    (text : List α) :
    scan separator (frame separator payload ++ text) =
      (payload :: (scan separator text).1,
        (scan separator text).2) := by
  induction payload with
  | nil => exact scan_double separator text
  | cons x payload ih =>
      rw [List.mem_cons, not_or] at hPayload
      have hTail := ih hPayload.2
      have hOther : ∀ y, ¬ (x = separator ∧ y = separator) :=
        fun y hBoth => hPayload.1 hBoth.1.symm
      -- Behind the symbol a frame is never empty.
      obtain ⟨y, rest, hRest⟩ :
          ∃ y rest,
            frame separator payload ++ text = y :: rest := by
        cases payload with
        | nil => exact ⟨_, _, rfl⟩
        | cons y payload => exact ⟨_, _, rfl⟩
      have hText :
          frame separator (x :: payload) ++ text =
            x :: (frame separator payload ++ text) := rfl
      rw [hText, hRest, scan_cons_cons (hOther y), ← hRest,
        hTail, extend]

/- The frames of payloads are scanned to the payloads. -/
theorem scan_frames
    {separator : α}
    {payloads : List (List α)}
    (hPayloads :
      ∀ payload ∈ payloads, separator ∉ payload) :
    scan separator (payloads.flatMap (frame separator)) =
      (payloads, []) := by
  induction payloads with
  | nil => rfl
  | cons payload payloads ih =>
      rw [List.forall_mem_cons] at hPayloads
      rw [List.flatMap_cons,
        scan_frame_append hPayloads.1, ih hPayloads.2]

/- A text without a frame is unfinished as a whole. -/
theorem scan_snd_of_fst_eq_nil
    {separator : α}
    {text : List α}
    (hNone : (scan separator text).1 = []) :
    (scan separator text).2 = text := by
  induction text using scan.induct separator with
  | case1 => rfl
  | case2 x => rfl
  | case3 x y rest hDouble ih =>
      rw [scan, if_pos hDouble] at hNone
      contradiction
  | case4 x y rest hOther ih =>
      rw [scan_cons_cons hOther] at hNone ⊢
      cases hScan : scan separator (y :: rest) with
      | mk parts last =>
          cases parts with
          | nil =>
              have hLast : last = y :: rest := by
                rw [hScan] at ih
                exact ih rfl
              rw [extend, hLast]
          | cons part parts =>
              rw [hScan, extend] at hNone
              contradiction

/-
  A text in two pieces: the unfinished frame of the first is
  scanned together with the second.
-/
theorem scan_append
    (separator : α)
    (first second : List α) :
    scan separator (first ++ second) =
      ((scan separator first).1 ++
          (scan separator
            ((scan separator first).2 ++ second)).1,
        (scan separator
          ((scan separator first).2 ++ second)).2) := by
  induction first using scan.induct separator with
  | case1 => rfl
  | case2 x => rfl
  | case3 x y rest hDouble ih =>
      obtain ⟨rfl, rfl⟩ := hDouble
      rw [List.cons_append, List.cons_append, scan_double,
        scan_double, ih]
      rfl
  | case4 x y rest hOther ih =>
      have hFirst := scan_cons_cons hOther rest
      have hWhole :
          scan separator (x :: y :: rest ++ second) =
            extend x
              (scan separator (y :: rest ++ second)) :=
        scan_cons_cons hOther (rest ++ second)
      cases hScan : scan separator (y :: rest) with
      | mk parts last =>
          cases parts with
          | nil =>
              -- Nothing is finished yet.
              have hLast : last = y :: rest := by
                have hSnd :=
                  scan_snd_of_fst_eq_nil
                    (congrArg Prod.fst hScan)
                rw [hScan] at hSnd
                exact hSnd
              rw [hFirst, hScan, hLast]
              rfl
          | cons part parts =>
              rw [hWhole, ih, hFirst, hScan]
              rfl

end Framing

------------------------------------------------------------
-- Reading In Chunks
------------------------------------------------------------

namespace Framing

variable {α : Type*} [DecidableEq α]

/- A reader that keeps the unfinished frame. -/
def reader
    (separator : α) :
    Transducer (List α) (List α) (List α) where
  step unfinished chunk :=
    let scanned := scan separator (unfinished ++ chunk)
    (scanned.2, scanned.1)

/- An unfinished frame has no frame in it. -/
theorem scan_fst_unfinished
    (separator : α)
    (text : List α) :
    (scan separator (scan separator text).2).1 = [] := by
  have hScan := scan_append separator text []
  rw [List.append_nil] at hScan
  simp only [List.append_nil] at hScan
  have hParts := congrArg Prod.fst hScan
  exact List.self_eq_append_right.mp hParts

/-
  Run rule: the reader finds the frames of the whole text
  and keeps what stands behind them.
-/
theorem run_reader
    (separator : α)
    {unfinished : List α}
    (hUnfinished : (scan separator unfinished).1 = [])
    (chunks : List (List α)) :
    ((reader separator).output unfinished chunks,
        (reader separator).final unfinished chunks) =
      scan separator (unfinished ++ chunks.flatten) := by
  induction chunks generalizing unfinished with
  | nil =>
      have hRest := scan_snd_of_fst_eq_nil hUnfinished
      rw [List.flatten_nil, List.append_nil,
        Transducer.output_nil, Transducer.final_nil]
      exact (Prod.ext hUnfinished hRest).symm
  | cons chunk chunks ih =>
      have hNext :=
        ih (scan_fst_unfinished separator
          (unfinished ++ chunk))
      rw [List.flatten_cons, ← List.append_assoc,
        scan_append, ← hNext, Transducer.output_cons,
        Transducer.final_cons]
      rfl

/- What is read does not depend on the chunks. -/
theorem output_reader
    (separator : α)
    (chunks : List (List α)) :
    (reader separator).output [] chunks =
        (scan separator chunks.flatten).1 ∧
      (reader separator).final [] chunks =
        (scan separator chunks.flatten).2 := by
  have hEmpty : (scan separator []).1 = [] := rfl
  have hRun := run_reader separator hEmpty chunks
  rw [List.nil_append] at hRun
  exact ⟨congrArg Prod.fst hRun, congrArg Prod.snd hRun⟩

end Framing
