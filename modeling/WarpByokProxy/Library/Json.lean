import Mathlib.Data.List.Nodup
import Mathlib.Data.List.Sort

/-
  JSON values.

  Integers within 64 bits are kept exactly; every other
  number is an element of a type `F`, which stands for the
  finite floating-point numbers and stays a parameter. An
  object is the list of its entries in iteration order.

  Key definitions include:
    * `JsonNumber`
    * `JsonNumber.asU64`
    * `JsonNumber.asI64`
    * `JsonNumber.asF64`
    * `Json`
    * `Json.get`
    * `Json.asStr`
    * `Json.getStr`
    * `Json.ofStrings`
    * `Json.indexMut`
    * `Json.push`
    * `Json.EqUpToOrder`
    * `Json.sortKeys`

  Key theorems include:
    * `Json.EqUpToOrder.getStr_eq`
-/

------------------------------------------------------------
-- Values
------------------------------------------------------------

/- JSON numbers, over a type `F` of floating-point numbers. -/
inductive JsonNumber (F : Type) where
  | posInt (value : UInt64)
  | negInt (value : Int64) (hNegative : value < 0)
  | float (value : F)

namespace JsonNumber

variable {F : Type}

/- The number as an unsigned integer of 64 bits. -/
def asU64 : JsonNumber F → Option UInt64
  | .posInt value => some value
  | .negInt _ _ => none
  | .float _ => none

/- The number as a signed integer of 64 bits. -/
def asI64 : JsonNumber F → Option Int64
  | .posInt value =>
      if value ≤ Int64.maxValue.toUInt64 then
        some value.toInt64
      else
        none
  | .negInt value _ => some value
  | .float _ => none

/- The number as a float; integers are rounded to one. -/
def asF64
    (round : Int → F) : JsonNumber F → Option F
  | .posInt value => some (round value.toNat)
  | .negInt value _ => some (round value.toInt)
  | .float value => some value

end JsonNumber

/- JSON values. -/
inductive Json (F : Type) where
  | null
  | bool (value : Bool)
  | number (value : JsonNumber F)
  | string (value : String)
  | array (items : List (Json F))
  | object (entries : List (String × Json F))

namespace Json

variable {F : Type}

instance : Inhabited (Json F) :=
  ⟨.null⟩

/- The value of an object's entry; nothing for other values. -/
def get
    (key : String) : Json F → Option (Json F)
  | .object entries => entries.lookup key
  | _ => none

/- The text of a string value. -/
def asStr : Json F → Option String
  | .string value => some value
  | _ => none

/- The text of an object's entry, when it is a string. -/
def getStr
    (key : String)
    (json : Json F) : Option String :=
  (json.get key).bind asStr

/- The first key of an object. -/
def firstKey : Json F → Option String
  | .object (entry :: _) => some entry.1
  | _ => none

/- The object without entries. -/
def emptyObject : Json F :=
  .object []

/- An object whose values are all strings. -/
def ofStrings
    (fields : List (String × String)) : Json F :=
  .object
    (fields.map (fun field => (field.1, .string field.2)))

@[simp] theorem get_object
    (key : String)
    (entries : List (String × Json F)) :
    (Json.object entries).get key = entries.lookup key := rfl

@[simp] theorem asStr_string
    (value : String) :
    (Json.string value : Json F).asStr = some value := rfl

/- Looking up a string object is looking up its fields. -/
@[simp] theorem get_ofStrings
    (key : String)
    (fields : List (String × String)) :
    (ofStrings fields : Json F).get key =
      (fields.lookup key).map Json.string := by
  induction fields with
  | nil => rfl
  | cons field fields ih =>
      obtain ⟨name, text⟩ := field
      simp only [ofStrings, get_object, List.map_cons,
        List.lookup_cons] at ih ⊢
      cases key == name with
      | true => rfl
      | false => exact ih

@[simp] theorem getStr_ofStrings
    (key : String)
    (fields : List (String × String)) :
    (ofStrings fields : Json F).getStr key =
      fields.lookup key := by
  rw [getStr, get_ofStrings]
  cases fields.lookup key with
  | none => rfl
  | some value => rfl

/- A value found under a key is one of the object's entries. -/
theorem mem_of_get_eq_some
    {key : String}
    {entries : List (String × Json F)}
    {value : Json F}
    (hGet :
      (Json.object entries).get key = some value) :
    (key, value) ∈ entries := by
  induction entries with
  | nil => simp at hGet
  | cons entry entries ih =>
      rw [get_object, List.lookup_cons] at hGet
      cases hKey : key == entry.1 with
      | true =>
          rw [hKey] at hGet
          obtain rfl := Option.some.inj hGet
          obtain rfl := eq_of_beq hKey
          exact List.mem_cons_self
      | false =>
          rw [hKey] at hGet
          exact List.mem_cons_of_mem _ (ih hGet)

/- A key is found just when the object has it. -/
theorem isSome_get_object_iff
    (key : String)
    (entries : List (String × Json F)) :
    ((Json.object entries).get key).isSome ↔
      key ∈ entries.map Prod.fst := by
  rw [get_object, List.lookup_isSome_iff]
  simp

/- Only objects have entries. -/
theorem exists_entries_of_get_eq_some
    {key : String}
    {json value : Json F}
    (hGet : json.get key = some value) :
    ∃ entries, json = .object entries := by
  cases json with
  | object entries => exact ⟨entries, rfl⟩
  | null => simp [get] at hGet
  | bool value => simp [get] at hGet
  | number value => simp [get] at hGet
  | string value => simp [get] at hGet
  | array items => simp [get] at hGet

end Json

------------------------------------------------------------
-- Entries Of Objects
------------------------------------------------------------

namespace Json

variable {F : Type}

/- Change the value of the first entry under a key. -/
def modifyEntry
    (key : String)
    (f : Json F → Json F) :
    List (String × Json F) → List (String × Json F)
  | [] => []
  | (name, value) :: rest =>
      if key = name then
        (name, f value) :: rest
      else
        (name, value) :: modifyEntry key f rest

/- Insert an entry before the first larger key. -/
def insertEntry
    (key : String)
    (value : Json F) :
    List (String × Json F) → List (String × Json F)
  | [] => [(key, value)]
  | entry :: rest =>
      if key < entry.1 then
        (key, value) :: entry :: rest
      else
        entry :: insertEntry key value rest

/-
  Mutate the value under a key in place. A missing key is
  inserted with `null` first, and `null` becomes an object;
  other values have no keys and are left as they are.
-/
def indexMut
    (key : String)
    (f : Json F → Json F) : Json F → Json F
  | .object entries =>
      if (entries.lookup key).isSome then
        .object (modifyEntry key f entries)
      else
        .object (insertEntry key (f .null) entries)
  | .null => .object [(key, f .null)]
  | json => json

/- Append an item to an array. -/
def push
    (item : Json F) : Json F → Json F
  | .array items => .array (items ++ [item])
  | json => json

/- The items of an array. -/
def asArray : Json F → Option (List (Json F))
  | .array items => some items
  | _ => none

/- Only arrays have items. -/
theorem bind_asArray_eq_some_iff
    (value : Option (Json F))
    (items : List (Json F)) :
    value.bind asArray = some items ↔
      value = some (.array items) := by
  cases value with
  | none => simp
  | some json => cases json <;> simp [asArray]

/- Nothing is appended to other values. -/
theorem push_of_asArray_eq_none
    {json : Json F}
    (hNone : json.asArray = none)
    (item : Json F) :
    push item json = json := by
  cases json with
  | array items => contradiction
  | null => rfl
  | bool value => rfl
  | number value => rfl
  | string value => rfl
  | object entries => rfl

/- What has an item, as an array or as nothing, is an array. -/
theorem eq_array_of_mem_items
    {value : Option (Json F)}
    {item : Json F}
    (hMem : item ∈ (value.bind asArray).getD []) :
    value = some (.array ((value.bind asArray).getD [])) := by
  cases hArray : value.bind asArray with
  | none =>
      rw [hArray] at hMem
      exact absurd hMem List.not_mem_nil
  | some items =>
      exact (bind_asArray_eq_some_iff value items).mp hArray

/- An entry that is found has no earlier one of its key. -/
theorem exists_append_of_lookup_eq_some
    {key : String}
    {entries : List (String × Json F)}
    {value : Json F}
    (hLookup : entries.lookup key = some value) :
    ∃ first rest,
      entries = first ++ (key, value) :: rest ∧
        key ∉ first.map Prod.fst := by
  induction entries with
  | nil => simp at hLookup
  | cons entry entries ih =>
      obtain ⟨name, found⟩ := entry
      rw [List.lookup_cons] at hLookup
      by_cases hKey : key = name
      · subst hKey
        rw [beq_self_eq_true] at hLookup
        obtain rfl := Option.some.inj hLookup
        exact ⟨[], entries, rfl, List.not_mem_nil⟩
      · rw [beq_false_of_ne hKey] at hLookup
        rcases ih hLookup with
          ⟨first, rest, hEntries, hFirst⟩
        refine ⟨(name, found) :: first, rest, ?_, ?_⟩
        · rw [hEntries, List.cons_append]
        · rw [List.map_cons, List.mem_cons]
          rintro (hHead | hTail)
          · exact hKey hHead
          · exact hFirst hTail

/- Only the first entry under the key changes. -/
theorem modifyEntry_append_cons
    {key : String}
    {first : List (String × Json F)}
    (hFirst : key ∉ first.map Prod.fst)
    (f : Json F → Json F)
    (value : Json F)
    (rest : List (String × Json F)) :
    modifyEntry key f (first ++ (key, value) :: rest) =
      first ++ (key, f value) :: rest := by
  induction first with
  | nil =>
      rw [List.nil_append, List.nil_append, modifyEntry,
        if_pos rfl]
  | cons entry first ih =>
      obtain ⟨name, found⟩ := entry
      rw [List.map_cons, List.mem_cons, not_or] at hFirst
      rw [List.cons_append, modifyEntry, if_neg hFirst.1,
        ih hFirst.2, List.cons_append]

/- The first entry under a key is the one that is found. -/
theorem lookup_append_cons
    {key : String}
    {first : List (String × Json F)}
    (hFirst : key ∉ first.map Prod.fst)
    (value : Json F)
    (rest : List (String × Json F)) :
    (first ++ (key, value) :: rest).lookup key =
      some value := by
  induction first with
  | nil =>
      rw [List.nil_append, List.lookup_cons,
        beq_self_eq_true]
  | cons entry first ih =>
      obtain ⟨name, found⟩ := entry
      rw [List.map_cons, List.mem_cons, not_or] at hFirst
      rw [List.cons_append, List.lookup_cons,
        beq_false_of_ne hFirst.1]
      exact ih hFirst.2

end Json

------------------------------------------------------------
-- Traversals
------------------------------------------------------------

namespace Json

/-
  The part of a mutual recursion that goes through a list,
  element by element, maps the list.
-/
theorem eq_map_of_cons
    {α β : Type}
    {traverse : List α → List β}
    {f : α → β}
    (hNil : traverse [] = [])
    (hCons :
      ∀ x xs, traverse (x :: xs) = f x :: traverse xs)
    (xs : List α) :
    traverse xs = xs.map f := by
  induction xs with
  | nil => exact hNil
  | cons x xs ih => rw [hCons, ih, List.map_cons]

end Json

------------------------------------------------------------
-- Order Of Entries
------------------------------------------------------------

namespace Json

variable {F : Type}

/-
  The values differ only in the order of the entries of the
  objects in them. Items of arrays stay where they are.
-/
inductive EqUpToOrder : Json F → Json F → Prop where
  | refl
      (value : Json F) :
      EqUpToOrder value value
  | trans
      {a b c : Json F}
      (hFirst : EqUpToOrder a b)
      (hSecond : EqUpToOrder b c) :
      EqUpToOrder a c
  | perm
      {entries permuted : List (String × Json F)}
      (hPerm : entries.Perm permuted) :
      EqUpToOrder (.object entries) (.object permuted)
  | entry
      (first rest : List (String × Json F))
      (key : String)
      {value other : Json F}
      (hValue : EqUpToOrder value other) :
      EqUpToOrder
        (.object (first ++ (key, value) :: rest))
        (.object (first ++ (key, other) :: rest))
  | item
      (first rest : List (Json F))
      {value other : Json F}
      (hValue : EqUpToOrder value other) :
      EqUpToOrder
        (.array (first ++ value :: rest))
        (.array (first ++ other :: rest))

/- No key of the object occurs twice. -/
def HasDistinctKeys : Json F → Prop
  | .object entries => (entries.map Prod.fst).Nodup
  | _ => True

theorem hasDistinctKeys_ofStrings_iff
    (fields : List (String × String)) :
    (ofStrings fields : Json F).HasDistinctKeys ↔
      (fields.map Prod.fst).Nodup := by
  rw [ofStrings, HasDistinctKeys, List.map_map]
  rfl

/- With distinct keys, to look up is to be an entry. -/
theorem lookup_eq_some_iff_mem
    {entries : List (String × Json F)}
    (hKeys : (entries.map Prod.fst).Nodup)
    (key : String)
    (value : Json F) :
    entries.lookup key = some value ↔
      (key, value) ∈ entries := by
  constructor
  · exact mem_of_get_eq_some
  · intro hMem
    rcases List.append_of_mem hMem with
      ⟨first, rest, rfl⟩
    rw [List.map_append, List.map_cons,
      List.nodup_append] at hKeys
    apply lookup_append_cons
    intro hFirst
    exact hKeys.2.2 key hFirst key List.mem_cons_self rfl

/- What is found does not depend on the order. -/
theorem lookup_eq_of_perm
    {entries permuted : List (String × Json F)}
    (hKeys : (entries.map Prod.fst).Nodup)
    (hPerm : entries.Perm permuted)
    (key : String) :
    permuted.lookup key = entries.lookup key := by
  have hPermuted : (permuted.map Prod.fst).Nodup :=
    (hPerm.map Prod.fst).nodup_iff.mp hKeys
  ext value
  rw [lookup_eq_some_iff_mem hKeys,
    lookup_eq_some_iff_mem hPermuted, hPerm.mem_iff]

namespace EqUpToOrder

/- Strings have no entries to reorder. -/
theorem asStr_eq
    {a b : Json F}
    (hOrder : EqUpToOrder a b) :
    b.asStr = a.asStr := by
  induction hOrder with
  | refl value => rfl
  | trans _ _ ihFirst ihSecond =>
      exact ihSecond.trans ihFirst
  | perm hPerm => rfl
  | entry first rest key hValue ih => rfl
  | item first rest hValue ih => rfl

/- Reordering neither loses a key nor adds one. -/
theorem hasDistinctKeys
    {a b : Json F}
    (hOrder : EqUpToOrder a b)
    (hKeys : a.HasDistinctKeys) :
    b.HasDistinctKeys := by
  induction hOrder with
  | refl value => exact hKeys
  | trans _ _ ihFirst ihSecond =>
      exact ihSecond (ihFirst hKeys)
  | perm hPerm =>
      exact (hPerm.map Prod.fst).nodup_iff.mp hKeys
  | entry first rest key hValue ih =>
      simpa only [HasDistinctKeys, List.map_append,
        List.map_cons] using hKeys
  | item first rest hValue ih => trivial

/- The strings of an object do not depend on the order. -/
theorem getStr_eq
    {a b : Json F}
    (hOrder : EqUpToOrder a b)
    (hKeys : a.HasDistinctKeys)
    (key : String) :
    b.getStr key = a.getStr key := by
  induction hOrder with
  | refl value => rfl
  | trans hFirst _ ihFirst ihSecond =>
      rw [ihSecond (hFirst.hasDistinctKeys hKeys),
        ihFirst hKeys]
  | perm hPerm =>
      rw [getStr, getStr, get_object, get_object,
        lookup_eq_of_perm hKeys hPerm]
  | entry first rest name hValue ih =>
      simp only [getStr, get_object, List.lookup_append,
        List.lookup_cons]
      cases first.lookup key with
      | some found => rfl
      | none =>
          cases key == name with
          | true => exact hValue.asStr_eq
          | false => rfl
  | item first rest hValue ih => rfl

end EqUpToOrder

end Json

------------------------------------------------------------
-- Sorted Entries
------------------------------------------------------------

namespace Json

variable {F : Type}

/- Entries in the order of their keys. -/
def sortByKey
    {α : Type}
    (entries : List (String × α)) : List (String × α) :=
  entries.insertionSort (fun a b => a.1 ≤ b.1)

mutual

/- The value with the entries of all objects sorted by key. -/
def sortKeys : Json F → Json F
  | .array items => .array (sortItems items)
  | .object entries =>
      .object (sortByKey (sortEntries entries))
  | json => json

/- The items with their entries sorted. -/
def sortItems : List (Json F) → List (Json F)
  | [] => []
  | item :: items => sortKeys item :: sortItems items

/- The entries with those in their values sorted. -/
def sortEntries :
    List (String × Json F) → List (String × Json F)
  | [] => []
  | (key, value) :: entries =>
      (key, sortKeys value) :: sortEntries entries

end

theorem perm_sortByKey
    {α : Type}
    (entries : List (String × α)) :
    (sortByKey entries).Perm entries :=
  List.perm_insertionSort _ entries

/- Sorting looks at the keys alone. -/
theorem sortByKey_map
    {α β : Type}
    (f : α → β)
    (entries : List (String × α)) :
    sortByKey (entries.map (fun e => (e.1, f e.2))) =
      (sortByKey entries).map (fun e => (e.1, f e.2)) := by
  rw [sortByKey, sortByKey,
    List.map_insertionSort
      (fun a b : String × α => a.1 ≤ b.1)
      (fun a b : String × β => a.1 ≤ b.1)]
  intros
  rfl

theorem sortEntries_eq_map
    (entries : List (String × Json F)) :
    sortEntries entries =
      entries.map (fun entry =>
        (entry.1, sortKeys entry.2)) :=
  eq_map_of_cons (by rw [sortEntries])
    (fun entry entries => by
      rcases entry with ⟨key, value⟩
      rw [sortEntries])
    entries

@[simp] theorem sortKeys_string
    (text : String) :
    (string text : Json F).sortKeys = string text := by
  simp [sortKeys]

/- Sorting an object of strings sorts its fields. -/
theorem sortKeys_ofStrings
    (fields : List (String × String)) :
    (ofStrings fields : Json F).sortKeys =
      ofStrings (sortByKey fields) := by
  have hValues :
      sortEntries
          (fields.map (fun field =>
            (field.1, (string field.2 : Json F)))) =
        fields.map (fun field =>
          (field.1, string field.2)) := by
    rw [sortEntries_eq_map, List.map_map]
    apply List.map_congr_left
    intro field _
    rw [Function.comp_apply, sortKeys_string]
  rw [ofStrings, sortKeys, hValues, sortByKey_map string,
    ofStrings]

end Json
