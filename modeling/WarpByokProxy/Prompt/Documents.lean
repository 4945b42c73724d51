import WarpByokProxy.SdkTranslator

/-
  Documents of JSON values. The translation has an inverse:
  every value is read back from its document. A document
  keeps the entries of an object in a hash map, so that it
  is determined only up to the order of entries; the inverse
  respects that order, and equal documents come from equal
  values.

  Key definitions include:
    * `DocumentReads`
    * `documentToJson`
    * `Sdk.Document.EqUpToOrder`

  Key theorems include:
    * `documentReads_iff`
    * `documentToJson_jsonToDocument`
    * `Json.EqUpToOrder.jsonToDocument`
    * `Sdk.Document.EqUpToOrder.documentToJson`
    * `jsonToDocument_lossless`
-/

------------------------------------------------------------
-- What Documents Stand For
------------------------------------------------------------

namespace WarpByokProxy

variable {F : Type}

/- The document that a value stands for, part by part. -/
inductive DocumentReads :
    Json F → Sdk.Document F → Prop where
  | null : DocumentReads .null .null
  | bool (value : Bool) :
      DocumentReads (.bool value) (.bool value)
  | posInt (value : UInt64) :
      DocumentReads (.number (.posInt value))
        (.number (.posInt value))
  | negInt (value : Int64) (hNegative : value < 0) :
      DocumentReads (.number (.negInt value hNegative))
        (.number (.negInt value))
  | float (value : F) :
      DocumentReads (.number (.float value))
        (.number (.float value))
  | string (value : String) :
      DocumentReads (.string value) (.string value)
  | noItem : DocumentReads (.array []) (.array [])
  | item {item : Json F} {document : Sdk.Document F}
      {items : List (Json F)}
      {documents : List (Sdk.Document F)}
      (hItem : DocumentReads item document)
      (hItems :
        DocumentReads (.array items) (.array documents)) :
      DocumentReads (.array (item :: items))
        (.array (document :: documents))
  | noEntry : DocumentReads (.object []) (.object [])
  | entry (key : String)
      {value : Json F} {document : Sdk.Document F}
      {entries : List (String × Json F)}
      {documents : List (String × Sdk.Document F)}
      (hValue : DocumentReads value document)
      (hEntries :
        DocumentReads (.object entries)
          (.object documents)) :
      DocumentReads (.object ((key, value) :: entries))
        (.object ((key, document) :: documents))

mutual

/- The translation yields what a value stands for. -/
theorem documentReads_jsonToDocument :
    ∀ value : Json F,
      DocumentReads value (jsonToDocument value)
  | .null => .null
  | .bool value => .bool value
  | .number (.posInt value) => .posInt value
  | .number (.negInt value hNegative) =>
      .negInt value hNegative
  | .number (.float value) => .float value
  | .string value => .string value
  | .array items => documentReads_itemsToDocuments items
  | .object entries =>
      documentReads_entriesToDocuments entries

theorem documentReads_itemsToDocuments :
    ∀ items : List (Json F),
      DocumentReads (.array items)
        (.array (itemsToDocuments items))
  | [] => .noItem
  | item :: items =>
      .item (documentReads_jsonToDocument item)
        (documentReads_itemsToDocuments items)

theorem documentReads_entriesToDocuments :
    ∀ entries : List (String × Json F),
      DocumentReads (.object entries)
        (.object (entriesToDocuments entries))
  | [] => .noEntry
  | (key, value) :: entries =>
      .entry key (documentReads_jsonToDocument value)
        (documentReads_entriesToDocuments entries)

end

/- Nothing else is what a value stands for. -/
theorem documentReads_iff
    (value : Json F)
    (document : Sdk.Document F) :
    DocumentReads value document ↔
      jsonToDocument value = document := by
  constructor
  · intro hReads
    induction hReads with
    | null => rfl
    | bool value => rfl
    | posInt value => rfl
    | negInt value hNegative => rfl
    | float value => rfl
    | string value => rfl
    | noItem => rfl
    | item _ _ ihItem ihItems =>
        rw [jsonToDocument, Sdk.Document.array.injEq]
          at ihItems
        rw [jsonToDocument, itemsToDocuments, ihItem,
          ihItems]
    | noEntry => rfl
    | entry key _ _ ihValue ihEntries =>
        rw [jsonToDocument, Sdk.Document.object.injEq]
          at ihEntries
        rw [jsonToDocument, entriesToDocuments,
          entryToDocument, ihValue, ihEntries]
  · rintro rfl
    exact documentReads_jsonToDocument value

end WarpByokProxy

------------------------------------------------------------
-- The Way Back
------------------------------------------------------------

namespace WarpByokProxy

variable {F : Type}

/- The JSON number of a document's number. -/
def numberToJson :
    Sdk.Number F → JsonNumber F
  | .posInt value => .posInt value
  | .negInt value =>
      if hNegative : value < 0 then
        .negInt value hNegative
      else
        .posInt value.toUInt64
  | .float value => .float value

theorem numberToJson_numberToDocument
    (number : JsonNumber F) :
    numberToJson (numberToDocument number) = number := by
  cases number with
  | posInt value => rfl
  | negInt value hNegative => exact dif_pos hNegative
  | float value => rfl

mutual

/- The JSON value of a document. -/
def documentToJson : Sdk.Document F → Json F
  | .null => .null
  | .bool value => .bool value
  | .number value => .number (numberToJson value)
  | .string value => .string value
  | .array items => .array (documentsToItems items)
  | .object entries => .object (documentsToEntries entries)

def documentsToItems :
    List (Sdk.Document F) → List (Json F)
  | [] => []
  | item :: items =>
      documentToJson item :: documentsToItems items

def documentsToEntries :
    List (String × Sdk.Document F) →
      List (String × Json F)
  | [] => []
  | entry :: entries =>
      documentToEntry entry :: documentsToEntries entries

def documentToEntry :
    String × Sdk.Document F → String × Json F
  | (key, value) => (key, documentToJson value)

end

mutual

/- A value is read back from its document. -/
theorem documentToJson_jsonToDocument :
    ∀ value : Json F,
      documentToJson (jsonToDocument value) = value
  | .null => rfl
  | .bool _ => rfl
  | .number number =>
      congrArg Json.number
        (numberToJson_numberToDocument number)
  | .string _ => rfl
  | .array items =>
      congrArg Json.array
        (documentsToItems_itemsToDocuments items)
  | .object entries =>
      congrArg Json.object
        (documentsToEntries_entriesToDocuments entries)

theorem documentsToItems_itemsToDocuments :
    ∀ items : List (Json F),
      documentsToItems (itemsToDocuments items) = items
  | [] => rfl
  | item :: items =>
      congrArg₂ List.cons
        (documentToJson_jsonToDocument item)
        (documentsToItems_itemsToDocuments items)

theorem documentsToEntries_entriesToDocuments :
    ∀ entries : List (String × Json F),
      documentsToEntries (entriesToDocuments entries) =
        entries
  | [] => rfl
  | entry :: entries =>
      congrArg₂ List.cons
        (documentToEntry_entryToDocument entry)
        (documentsToEntries_entriesToDocuments entries)

theorem documentToEntry_entryToDocument :
    ∀ entry : String × Json F,
      documentToEntry (entryToDocument entry) = entry
  | (key, value) =>
      congrArg (Prod.mk key)
        (documentToJson_jsonToDocument value)

end

end WarpByokProxy

------------------------------------------------------------
-- Order Of Entries
------------------------------------------------------------

namespace WarpByokProxy

variable {F : Type}

theorem itemsToDocuments_eq_map
    (items : List (Json F)) :
    itemsToDocuments items = items.map jsonToDocument :=
  Json.eq_map_of_cons rfl (fun _ _ => rfl) items

theorem entriesToDocuments_eq_map
    (entries : List (String × Json F)) :
    entriesToDocuments entries =
      entries.map entryToDocument :=
  Json.eq_map_of_cons rfl (fun _ _ => rfl) entries

theorem documentsToItems_eq_map
    (items : List (Sdk.Document F)) :
    documentsToItems items = items.map documentToJson :=
  Json.eq_map_of_cons rfl (fun _ _ => rfl) items

theorem documentsToEntries_eq_map
    (entries : List (String × Sdk.Document F)) :
    documentsToEntries entries =
      entries.map documentToEntry :=
  Json.eq_map_of_cons rfl (fun _ _ => rfl) entries

/- Documents that are equal as nested hash maps. -/
inductive Sdk.Document.EqUpToOrder :
    Sdk.Document F → Sdk.Document F → Prop where
  | refl
      (document : Sdk.Document F) :
      EqUpToOrder document document
  | trans
      {a b c : Sdk.Document F}
      (hFirst : EqUpToOrder a b)
      (hSecond : EqUpToOrder b c) :
      EqUpToOrder a c
  | perm
      {entries permuted : List (String × Sdk.Document F)}
      (hPerm : entries.Perm permuted) :
      EqUpToOrder (.object entries) (.object permuted)
  | entry
      (first rest : List (String × Sdk.Document F))
      (key : String)
      {document other : Sdk.Document F}
      (hDocument : EqUpToOrder document other) :
      EqUpToOrder
        (.object (first ++ (key, document) :: rest))
        (.object (first ++ (key, other) :: rest))
  | item
      (first rest : List (Sdk.Document F))
      {document other : Sdk.Document F}
      (hDocument : EqUpToOrder document other) :
      EqUpToOrder
        (.array (first ++ document :: rest))
        (.array (first ++ other :: rest))

/- Equal values have equal documents. -/
theorem Json.EqUpToOrder.jsonToDocument
    {value other : Json F}
    (hValue : value.EqUpToOrder other) :
    (jsonToDocument value).EqUpToOrder
      (jsonToDocument other) := by
  induction hValue with
  | refl value => exact .refl _
  | trans _ _ hFirst hSecond => exact .trans hFirst hSecond
  | perm hPerm =>
      simp only [WarpByokProxy.jsonToDocument,
        entriesToDocuments_eq_map]
      exact .perm (hPerm.map entryToDocument)
  | entry first rest key _ ih =>
      simp only [WarpByokProxy.jsonToDocument,
        entriesToDocuments_eq_map, List.map_append,
        List.map_cons, entryToDocument]
      exact .entry _ _ key ih
  | item first rest _ ih =>
      simp only [WarpByokProxy.jsonToDocument,
        itemsToDocuments_eq_map, List.map_append,
        List.map_cons]
      exact .item _ _ ih

/- Equal documents are read back as equal values. -/
theorem Sdk.Document.EqUpToOrder.documentToJson
    {document other : Sdk.Document F}
    (hDocument : document.EqUpToOrder other) :
    (documentToJson document).EqUpToOrder
      (documentToJson other) := by
  induction hDocument with
  | refl document => exact .refl _
  | trans _ _ hFirst hSecond => exact .trans hFirst hSecond
  | perm hPerm =>
      simp only [WarpByokProxy.documentToJson,
        documentsToEntries_eq_map]
      exact .perm (hPerm.map documentToEntry)
  | entry first rest key _ ih =>
      simp only [WarpByokProxy.documentToJson,
        documentsToEntries_eq_map, List.map_append,
        List.map_cons, documentToEntry]
      exact .entry _ _ key ih
  | item first rest _ ih =>
      simp only [WarpByokProxy.documentToJson,
        documentsToItems_eq_map, List.map_append,
        List.map_cons]
      exact .item _ _ ih

/- A reordered document is read back as the same value. -/
theorem documentToJson_of_eqUpToOrder
    {document : Sdk.Document F}
    {value : Json F}
    (hDocument :
      document.EqUpToOrder (jsonToDocument value)) :
    (documentToJson document).EqUpToOrder value := by
  have hBack := hDocument.documentToJson
  rw [documentToJson_jsonToDocument] at hBack
  exact hBack

/-
  The translation is lossless: a function back gives every
  value from its document, in whatever order the hash maps
  of the document are iterated, and documents are equal just
  when the values are.
-/
theorem jsonToDocument_lossless :
    ∃ back : Sdk.Document F → Json F,
      (∀ value, back (jsonToDocument value) = value) ∧
      (∀ (document : Sdk.Document F) (value : Json F),
        document.EqUpToOrder (jsonToDocument value) →
          (back document).EqUpToOrder value) ∧
      ∀ value other : Json F,
        (jsonToDocument value).EqUpToOrder
            (jsonToDocument other) ↔
          value.EqUpToOrder other := by
  refine
    ⟨documentToJson, documentToJson_jsonToDocument, ?_, ?_⟩
  · intro document value hDocument
    exact documentToJson_of_eqUpToOrder hDocument
  · intro value other
    constructor
    · intro hDocument
      have hBack := documentToJson_of_eqUpToOrder hDocument
      rw [documentToJson_jsonToDocument] at hBack
      exact hBack
    · intro hValue
      exact Json.EqUpToOrder.jsonToDocument hValue

end WarpByokProxy
