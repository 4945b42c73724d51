import WarpByokProxy.Library.JsonText

/-
  The two functions of `serde_json` that the proxy calls,
  and the documented facts about them that proofs assume.

  The crate is not part of the repository, so its parser and
  its printer are parameters of the model. No law asks for
  more than the grammar of JSON promises: the parser reads
  back what the printer wrote for a flat object of strings,
  up to the order of the entries, it rejects blank text and
  the bare word `text`, and a printed value contains the
  printed values inside it.

  Two instances satisfy all of them. One keeps the entries
  of an object in the order in which they were inserted. The
  other sorts them by key, as `serde_json` does where its
  objects are sorted maps.

  Key definitions include:
    * `SerdeJson`
    * `SerdeJson.RoundTripsStrings`
    * `SerdeJson.RejectsBlank`
    * `SerdeJson.RejectsText`
    * `SerdeJson.PrintsParts`
    * `SerdeJson.Documented`
    * `SerdeJson.ofFormat`
    * `SerdeJson.sorted`
    * `SerdeJson.integral`
    * `SerdeJson.sortedIntegral`

  Key theorems include:
    * `SerdeJson.RoundTripsStrings.exists_getStr_eq`
    * `SerdeJson.documented_ofFormat`
    * `SerdeJson.documented_sorted`
-/

------------------------------------------------------------
-- Parser And Printer
------------------------------------------------------------

namespace WarpByokProxy

/- `serde_json::from_str` and `Value::to_string`. -/
structure SerdeJson (F : Type) where
  fromStr : String → Option (Json F)
  toString : Json F → String

namespace SerdeJson

variable {F : Type}

/-
  Printing an object of strings with distinct keys and
  parsing the text gives the object back. The order of the
  entries is the object's own business, not the text's.
-/
def RoundTripsStrings
    (serde : SerdeJson F) : Prop :=
  ∀ fields : List (String × String),
    (fields.map Prod.fst).Nodup →
      ∃ json,
        serde.fromStr (serde.toString (.ofStrings fields)) =
            some json ∧
          Json.EqUpToOrder (.ofStrings fields) json

/- Text without a value in it is not JSON. -/
def RejectsBlank
    (serde : SerdeJson F) : Prop :=
  ∀ text : String,
    text.toList.all JsonText.isBlank →
      serde.fromStr text = none

/- The bare word that describes a text block is not JSON. -/
def RejectsText
    (serde : SerdeJson F) : Prop :=
  serde.fromStr "text" = none

/-
  A printed object is longer than each value in it, and a
  printed string is longer than its contents.
-/
structure PrintsParts
    (serde : SerdeJson F) : Prop where
  entry_lt :
    ∀ (entries : List (String × Json F))
      (key : String) (value : Json F),
      (key, value) ∈ entries →
        (serde.toString value).length <
          (serde.toString (.object entries)).length
  string_lt :
    ∀ text : String,
      text.length < (serde.toString (.string text)).length

/- All that is assumed, of which proofs take what they need. -/
structure Documented
    (serde : SerdeJson F) : Prop where
  roundTripsStrings : serde.RoundTripsStrings
  rejectsBlank : serde.RejectsBlank
  rejectsText : serde.RejectsText
  printsParts : serde.PrintsParts

/- The fields of a printed object are read as they were. -/
theorem RoundTripsStrings.exists_getStr_eq
    {serde : SerdeJson F}
    (hRoundTrip : serde.RoundTripsStrings)
    {fields : List (String × String)}
    (hKeys : (fields.map Prod.fst).Nodup) :
    ∃ json,
      serde.fromStr (serde.toString (.ofStrings fields)) =
          some json ∧
        ∀ key, json.getStr key = fields.lookup key := by
  rcases hRoundTrip fields hKeys with ⟨json, hRead, hOrder⟩
  refine ⟨json, hRead, ?_⟩
  intro key
  have hDistinct :
      (Json.ofStrings fields : Json F).HasDistinctKeys :=
    (Json.hasDistinctKeys_ofStrings_iff fields).mpr hKeys
  rw [hOrder.getStr_eq hDistinct, Json.getStr_ofStrings]

end SerdeJson

end WarpByokProxy

------------------------------------------------------------
-- Insertion Order
------------------------------------------------------------

namespace WarpByokProxy

namespace SerdeJson

variable {F : Type}

/- The printer and the parser of the library. -/
def ofFormat
    (format : JsonText.FloatFormat F) : SerdeJson F where
  fromStr := JsonText.parse format
  toString := JsonText.print format

theorem roundTripsStrings_ofFormat
    (format : JsonText.FloatFormat F) :
    (ofFormat format).RoundTripsStrings :=
  fun _ hKeys =>
    ⟨_, JsonText.parse_print_ofStrings format hKeys, .refl _⟩

theorem rejectsBlank_ofFormat
    (format : JsonText.FloatFormat F) :
    (ofFormat format).RejectsBlank :=
  fun _ hBlank => JsonText.parse_of_blank format hBlank

theorem rejectsText_ofFormat
    (format : JsonText.FloatFormat F) :
    (ofFormat format).RejectsText :=
  rfl

theorem printsParts_ofFormat
    (format : JsonText.FloatFormat F) :
    (ofFormat format).PrintsParts where
  entry_lt := fun _ _ _ hMem =>
    JsonText.length_print_entry_lt format hMem
  string_lt := JsonText.length_lt_length_print_string format

theorem documented_ofFormat
    (format : JsonText.FloatFormat F) :
    (ofFormat format).Documented where
  roundTripsStrings := roundTripsStrings_ofFormat format
  rejectsBlank := rejectsBlank_ofFormat format
  rejectsText := rejectsText_ofFormat format
  printsParts := printsParts_ofFormat format

end SerdeJson

end WarpByokProxy

------------------------------------------------------------
-- Sorted Keys
------------------------------------------------------------

namespace WarpByokProxy

namespace SerdeJson

variable {F : Type}

/- The same over objects that are sorted maps. -/
def sorted
    (format : JsonText.FloatFormat F) : SerdeJson F where
  fromStr := fun text =>
    (JsonText.parse format text).map Json.sortKeys
  toString := fun json =>
    JsonText.print format json.sortKeys

theorem roundTripsStrings_sorted
    (format : JsonText.FloatFormat F) :
    (sorted format).RoundTripsStrings := by
  intro fields hKeys
  have hFields := Json.perm_sortByKey fields
  have hSortedKeys :
      ((Json.sortByKey fields).map Prod.fst).Nodup :=
    (hFields.map Prod.fst).nodup_iff.mpr hKeys
  refine
    ⟨.ofStrings (Json.sortByKey (Json.sortByKey fields)),
      ?_, .perm ?_⟩
  · simp only [sorted, Json.sortKeys_ofStrings,
      JsonText.parse_print_ofStrings format hSortedKeys,
      Option.map_some]
  · exact
      (((Json.perm_sortByKey _).trans hFields).map _).symm

theorem rejectsBlank_sorted
    (format : JsonText.FloatFormat F) :
    (sorted format).RejectsBlank := by
  intro text hBlank
  simp only [sorted, JsonText.parse_of_blank format hBlank,
    Option.map_none]

theorem rejectsText_sorted
    (format : JsonText.FloatFormat F) :
    (sorted format).RejectsText :=
  rfl

theorem printsParts_sorted
    (format : JsonText.FloatFormat F) :
    (sorted format).PrintsParts where
  entry_lt := by
    intro entries key value hMem
    have hSorted :
        (key, value.sortKeys) ∈
          Json.sortByKey (Json.sortEntries entries) := by
      rw [(Json.perm_sortByKey _).mem_iff,
        Json.sortEntries_eq_map]
      exact List.mem_map_of_mem hMem
    have hObject :
        (Json.object entries).sortKeys =
          .object
            (Json.sortByKey (Json.sortEntries entries)) := by
      rw [Json.sortKeys]
    simp only [sorted, hObject]
    exact JsonText.length_print_entry_lt format hSorted
  string_lt := by
    intro text
    simp only [sorted, Json.sortKeys_string]
    exact JsonText.length_lt_length_print_string format text

theorem documented_sorted
    (format : JsonText.FloatFormat F) :
    (sorted format).Documented where
  roundTripsStrings := roundTripsStrings_sorted format
  rejectsBlank := rejectsBlank_sorted format
  rejectsText := rejectsText_sorted format
  printsParts := printsParts_sorted format

end SerdeJson

end WarpByokProxy

------------------------------------------------------------
-- Integers
------------------------------------------------------------

namespace WarpByokProxy

namespace SerdeJson

/- No number is a floating-point number. -/
def noFloats : JsonText.FloatFormat Empty where
  print := Empty.elim
  parse := fun _ => none

/- JSON whose numbers are all integers. -/
def integral : SerdeJson Empty :=
  ofFormat noFloats

/- The same over objects that are sorted maps. -/
def sortedIntegral : SerdeJson Empty :=
  sorted noFloats

end SerdeJson

end WarpByokProxy
