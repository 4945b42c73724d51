import Mathlib.Data.List.Basic

/-
  The wire format of protobuf, and codecs that write records
  in it.

  A record is written as its fields, each a number and either
  a varint or a piece of bytes with its length in front. A
  codec carries the proof that it reads what it writes, so
  codecs of records are put together from those of their
  fields without any proof beyond the numbers being distinct.

  Key definitions include:
    * `Wire.varint`
    * `Wire.Field`
    * `Wire.readFields`
    * `Wire.Kind`
    * `Wire.Oneof`
    * `Wire.Record`

  Key theorems include:
    * `Wire.readVarint_varint`
    * `Wire.readFields_encodeFields`
    * `Wire.Record.decode_encode`
-/

------------------------------------------------------------
-- Varints
------------------------------------------------------------

namespace Wire

/-
  Seven bits a byte, the lowest first; all bytes but the last
  have the highest bit set. There are at most `fuel + 1`.
-/
def varintFrom : Nat → Nat → List UInt8
  | 0, n => [UInt8.ofNat n]
  | fuel + 1, n =>
      if n < 128 then
        [UInt8.ofNat n]
      else
        UInt8.ofNat (n % 128 + 128) ::
          varintFrom fuel (n / 128)

/- A number takes fewer bytes than it counts. -/
def varint
    (n : Nat) : List UInt8 :=
  varintFrom n n

/- A number, and the bytes that follow it. -/
def readVarint : List UInt8 → Option (Nat × List UInt8)
  | [] => none
  | byte :: bytes =>
      if byte.toNat < 128 then
        some (byte.toNat, bytes)
      else
        (readVarint bytes).map (fun (n, rest) =>
          (byte.toNat - 128 + 128 * n, rest))

/- The last byte of a number, before whatever follows. -/
theorem readVarint_ofNat
    {n : Nat}
    (hLast : n < 128)
    (rest : List UInt8) :
    readVarint (UInt8.ofNat n :: rest) = some (n, rest) := by
  have hByte : (UInt8.ofNat n).toNat = n :=
    UInt8.toNat_ofNat_of_lt' (Nat.lt_trans hLast (by decide))
  rw [readVarint, hByte, if_pos hLast]

/- A byte that is not the last one. -/
theorem readVarint_ofNat_add
    {low : Nat}
    (hLow : low < 128)
    (bytes : List UInt8) :
    readVarint (UInt8.ofNat (low + 128) :: bytes) =
      (readVarint bytes).map (fun (n, rest) =>
        (low + 128 * n, rest)) := by
  have hByte : (UInt8.ofNat (low + 128)).toNat = low + 128 :=
    UInt8.toNat_ofNat_of_lt'
      (show low + 128 < 256 by omega)
  rw [readVarint, hByte, if_neg (by omega),
    Nat.add_sub_cancel]

/- A number is read with fuel for its value, or more. -/
theorem readVarint_varintFrom
    {fuel n : Nat}
    (hFuel : n ≤ fuel)
    (rest : List UInt8) :
    readVarint (varintFrom fuel n ++ rest) =
      some (n, rest) := by
  induction fuel generalizing n with
  | zero => exact readVarint_ofNat (by omega) rest
  | succ fuel ih =>
      rw [varintFrom]
      split
      · rename_i hLt
        exact readVarint_ofNat hLt rest
      · have hNext : n / 128 ≤ fuel := by omega
        rw [List.cons_append,
          readVarint_ofNat_add (by omega), ih hNext]
        simp only [Option.map_some, Nat.mod_add_div]

/- Numbers are read as they were written. -/
@[simp] theorem readVarint_varint
    (n : Nat)
    (rest : List UInt8) :
    readVarint (varint n ++ rest) = some (n, rest) :=
  readVarint_varintFrom (Nat.le_refl n) rest

theorem varint_ne_nil
    (n : Nat) : varint n ≠ [] := by
  cases n with
  | zero => simp [varint, varintFrom]
  | succ n =>
      rw [varint, varintFrom]
      split <;> simp

end Wire

------------------------------------------------------------
-- Fields
------------------------------------------------------------

namespace Wire

/- What a field holds. -/
inductive Value where
  | varint (n : Nat)
  | bytes (contents : List UInt8)
deriving DecidableEq

/- A field of a record. -/
structure Field where
  number : Nat
  value : Value
deriving DecidableEq

/- Its key, and what it holds. -/
def Field.encode
    (field : Field) : List UInt8 :=
  match field.value with
  | .varint n =>
      Wire.varint (8 * field.number) ++ Wire.varint n
  | .bytes contents =>
      Wire.varint (8 * field.number + 2) ++
        (Wire.varint contents.length ++ contents)

/- A field, and the bytes that follow it. -/
def readField
    (bytes : List UInt8) : Option (Field × List UInt8) := do
  let (key, bytes) ← readVarint bytes
  let (n, bytes) ← readVarint bytes
  if key % 8 = 0 then
    some (⟨key / 8, .varint n⟩, bytes)
  else if key % 8 = 2 ∧ n ≤ bytes.length then
    some (⟨key / 8, .bytes (bytes.take n)⟩, bytes.drop n)
  else
    none

/- At most `fuel` fields. -/
def readFieldsFrom : Nat → List UInt8 → Option (List Field)
  | _, [] => some []
  | 0, _ :: _ => none
  | fuel + 1, byte :: bytes => do
      let (field, rest) ← readField (byte :: bytes)
      let fields ← readFieldsFrom fuel rest
      some (field :: fields)

/- All the fields that bytes are made of. -/
def readFields
    (bytes : List UInt8) : Option (List Field) :=
  readFieldsFrom bytes.length bytes

/- Fields are written one after the other. -/
def encodeFields
    (fields : List Field) : List UInt8 :=
  fields.flatMap Field.encode

/- A field is read as it was written. -/
theorem readField_encode
    (field : Field)
    (rest : List UInt8) :
    readField (field.encode ++ rest) =
      some (field, rest) := by
  rcases field with ⟨number, value⟩
  cases value with
  | varint n =>
      simp [readField, Field.encode]
  | bytes contents =>
      have hKind : (8 * number + 2) % 8 = 2 := by omega
      have hNumber : (8 * number + 2) / 8 = number := by omega
      simp [readField, Field.encode, hKind, hNumber]

theorem Field.encode_ne_nil
    (field : Field) : field.encode ≠ [] := by
  rw [Field.encode]
  split <;> simp [varint_ne_nil]

/- No field is written as nothing. -/
theorem length_le_length_encodeFields
    (fields : List Field) :
    fields.length ≤ (encodeFields fields).length := by
  induction fields with
  | nil => exact Nat.le_refl 0
  | cons field fields ih =>
      have hField :=
        List.length_pos_iff.mpr field.encode_ne_nil
      rw [encodeFields] at ih ⊢
      rw [List.flatMap_cons, List.length_append,
        List.length_cons]
      omega

theorem readFieldsFrom_encodeFields
    {fuel : Nat}
    {fields : List Field}
    (hFuel : fields.length ≤ fuel) :
    readFieldsFrom fuel (encodeFields fields) =
      some fields := by
  induction fields generalizing fuel with
  | nil => cases fuel <;> rfl
  | cons field fields ih =>
      cases fuel with
      | zero => simp at hFuel
      | succ fuel =>
          have hRead :=
            readField_encode field (encodeFields fields)
          have hRest :
              readFieldsFrom fuel (encodeFields fields) =
                some fields :=
            ih (Nat.le_of_succ_le_succ hFuel)
          rcases List.exists_cons_of_ne_nil
              field.encode_ne_nil with
            ⟨byte, bytes, hBytes⟩
          rw [hBytes, List.cons_append] at hRead
          rw [encodeFields, List.flatMap_cons, hBytes,
            List.cons_append, readFieldsFrom,
            ← encodeFields, hRead]
          simp [hRest]

/- Fields are read as they were written. -/
theorem readFields_encodeFields
    (fields : List Field) :
    readFields (encodeFields fields) = some fields :=
  readFieldsFrom_encodeFields
    (length_le_length_encodeFields fields)

end Wire

------------------------------------------------------------
-- Kinds Of Values
------------------------------------------------------------

namespace Wire

variable {α β : Type*}

/- How a field holds the values of a type. -/
structure Kind (α : Type*) where
  write : α → Value
  read : Value → Option α
  read_write : ∀ a, read (write a) = some a

namespace Kind

/- Values that are written as others. -/
def map
    (kind : Kind α)
    (into : β → α)
    (back : α → β)
    (hBack : ∀ b, back (into b) = b) : Kind β where
  write b := kind.write (into b)
  read value := (kind.read value).map back
  read_write b := by
    rw [kind.read_write, Option.map_some, hBack]

/- A number. -/
def number : Kind Nat where
  write n := .varint n
  read
    | .varint n => some n
    | .bytes _ => none
  read_write _ := rfl

/- Bytes as they are. -/
def raw : Kind (List UInt8) where
  write contents := .bytes contents
  read
    | .varint _ => none
    | .bytes contents => some contents
  read_write _ := rfl

/- Text as UTF-8. -/
def text : Kind String where
  write s := .bytes s.toByteArray.data.toList
  read
    | .varint _ => none
    | .bytes contents => String.fromUTF8? ⟨contents.toArray⟩
  read_write s := by
    simp only [Array.toArray_toList, String.fromUTF8?]
    exact dif_pos s.isValidUTF8

/- Unsigned numbers of 32 bits. -/
def uint32 : Kind UInt32 :=
  number.map UInt32.toNat UInt32.ofNat
    (fun _ => UInt32.ofNat_toNat)

/- Signed numbers of 64 bits, as unsigned ones. -/
def int64 : Kind Int64 :=
  number.map (fun n => n.toUInt64.toNat)
    (fun n => (UInt64.ofNat n).toInt64)
    (fun _ => by simp)

/- Signed numbers of 32 bits, as such of 64 bits. -/
def int32 : Kind Int32 :=
  int64.map Int32.toInt64 Int64.toInt32
    (fun _ => by simp)

end Kind

end Wire

------------------------------------------------------------
-- Alternatives
------------------------------------------------------------

namespace Wire

variable {α β : Type*}

/- One field of several, for the alternatives of a type. -/
structure Oneof (α : Type*) where
  numbers : List Nat
  write : α → Field
  read : Field → Option α
  number_mem : ∀ a, (write a).number ∈ numbers
  read_write : ∀ a, read (write a) = some a

namespace Oneof

/- A single alternative. -/
def single
    (number : Nat)
    (kind : Kind α) : Oneof α where
  numbers := [number]
  write a := ⟨number, kind.write a⟩
  read field := kind.read field.value
  number_mem _ := List.mem_singleton_self _
  read_write a := kind.read_write a

/- The alternatives of two types. -/
def either
    (left : Oneof α)
    (right : Oneof β)
    (hDisjoint :
      ∀ n ∈ left.numbers, n ∉ right.numbers := by decide) :
    Oneof (α ⊕ β) where
  numbers := left.numbers ++ right.numbers
  write := Sum.elim left.write right.write
  read field :=
    if field.number ∈ left.numbers then
      (left.read field).map .inl
    else
      (right.read field).map .inr
  number_mem
    | .inl a => List.mem_append_left _ (left.number_mem a)
    | .inr b => List.mem_append_right _ (right.number_mem b)
  read_write
    | .inl a => by
        simp only [Sum.elim_inl, left.read_write,
          Option.map_some]
        exact if_pos (left.number_mem a)
    | .inr b => by
        simp only [Sum.elim_inr, right.read_write,
          Option.map_some]
        exact
          if_neg (fun hLeft =>
            hDisjoint _ hLeft (right.number_mem b))

/- Alternatives that are written as others. -/
def map
    (oneof : Oneof α)
    (into : β → α)
    (back : α → β)
    (hBack : ∀ b, back (into b) = b) : Oneof β where
  numbers := oneof.numbers
  write b := oneof.write (into b)
  read field := (oneof.read field).map back
  number_mem b := oneof.number_mem (into b)
  read_write b := by
    rw [oneof.read_write, Option.map_some, hBack]

end Oneof

end Wire

------------------------------------------------------------
-- Records
------------------------------------------------------------

namespace Wire

variable {α β : Type*}

/- The fields whose numbers are among the given ones. -/
def select
    (numbers : List Nat)
    (fields : List Field) : List Field :=
  fields.filter (fun field => field.number ∈ numbers)

theorem select_eq_self
    {numbers : List Nat}
    {fields : List Field}
    (hMembers :
      ∀ field ∈ fields, field.number ∈ numbers) :
    select numbers fields = fields := by
  rw [select, List.filter_eq_self]
  intro field hField
  exact decide_eq_true (hMembers field hField)

theorem select_eq_nil
    {numbers others : List Nat}
    (hDisjoint : ∀ n ∈ numbers, n ∉ others)
    {fields : List Field}
    (hMembers :
      ∀ field ∈ fields, field.number ∈ others) :
    select numbers fields = [] := by
  rw [select, List.filter_eq_nil_iff]
  intro field hField hSelected
  exact
    hDisjoint _ (of_decide_eq_true hSelected)
      (hMembers field hField)

theorem select_append
    (numbers : List Nat)
    (fields others : List Field) :
    select numbers (fields ++ others) =
      select numbers fields ++ select numbers others :=
  List.filter_append ..

/- What is selected out of more is selected. -/
theorem select_select
    {numbers others : List Nat}
    (hSubset : numbers ⊆ others)
    (fields : List Field) :
    select numbers (select others fields) =
      select numbers fields := by
  rw [select, select, select, List.filter_filter]
  apply List.filter_congr
  intro field _
  simp only [Bool.and_eq_left_iff_imp, decide_eq_true_eq]
  exact fun hMem => hSubset hMem

/-
  The fields of a type. Reading them looks at no other fields
  that stand between or around them.
-/
structure Record (α : Type*) where
  numbers : List Nat
  write : α → List Field
  read : List Field → Option α
  number_mem :
    ∀ a, ∀ field ∈ write a, field.number ∈ numbers
  read_select :
    ∀ fields, read (select numbers fields) = read fields
  read_write : ∀ a, read (write a) = some a

namespace Record

/- No fields. -/
def empty : Record Unit where
  numbers := []
  write _ := []
  read _ := some ()
  number_mem _ _ hField := absurd hField List.not_mem_nil
  read_select _ := rfl
  read_write _ := rfl

/- One of several fields, or none of them. The last counts. -/
def optional
    (oneof : Oneof α) : Record (Option α) where
  numbers := oneof.numbers
  write a := (a.map oneof.write).toList
  read fields :=
    match (select oneof.numbers fields).getLast? with
    | none => some none
    | some field => (oneof.read field).map some
  number_mem a field hField := by
    rw [Option.mem_toList, Option.map_eq_some_iff] at hField
    rcases hField with ⟨b, -, rfl⟩
    exact oneof.number_mem b
  read_select fields := by
    rw [select_select (List.Subset.refl _)]
  read_write a := by
    cases a with
    | none => rfl
    | some a =>
        have hSelf :
            select oneof.numbers [oneof.write a] =
              [oneof.write a] :=
          select_eq_self (by simp [oneof.number_mem])
        simp [hSelf, oneof.read_write]

/- Any number of fields. -/
def repeated
    (number : Nat)
    (kind : Kind α) : Record (List α) where
  numbers := [number]
  write as := as.map (fun a => ⟨number, kind.write a⟩)
  read fields :=
    (select [number] fields).mapM (fun field =>
      kind.read field.value)
  number_mem as field hField := by
    rcases List.mem_map.mp hField with ⟨a, -, rfl⟩
    exact List.mem_singleton_self _
  read_select fields := by
    rw [select_select (List.Subset.refl _)]
  read_write as := by
    rw [select_eq_self (by simp)]
    induction as with
    | nil => rfl
    | cons a as ih =>
        simp [kind.read_write, ih]

/- The fields of two types with no number in common. -/
def both
    (left : Record α)
    (right : Record β)
    (hDisjoint :
      ∀ n ∈ left.numbers, n ∉ right.numbers := by decide) :
    Record (α × β) where
  numbers := left.numbers ++ right.numbers
  write pair := left.write pair.1 ++ right.write pair.2
  read fields :=
    (left.read fields).bind (fun a =>
      (right.read fields).map (fun b => (a, b)))
  number_mem pair field hField := by
    rcases List.mem_append.mp hField with hLeft | hRight
    · exact
        List.mem_append_left _
          (left.number_mem pair.1 field hLeft)
    · exact
        List.mem_append_right _
          (right.number_mem pair.2 field hRight)
  read_select fields := by
    rw [← left.read_select (select _ fields),
      select_select (List.subset_append_left ..),
      left.read_select,
      ← right.read_select (select _ fields),
      select_select (List.subset_append_right ..),
      right.read_select]
  read_write pair := by
    have hLeft :
        left.read (left.write pair.1 ++ right.write pair.2) =
          some pair.1 := by
      rw [← left.read_select, select_append,
        select_eq_self (left.number_mem _),
        select_eq_nil hDisjoint (right.number_mem _),
        List.append_nil, left.read_write]
    have hRight :
        right.read (left.write pair.1 ++ right.write pair.2) =
          some pair.2 := by
      rw [← right.read_select, select_append,
        select_eq_nil (fun n hRight hLeft =>
          hDisjoint n hLeft hRight) (left.number_mem _),
        select_eq_self (right.number_mem _),
        List.nil_append, right.read_write]
    rw [hLeft, hRight]
    rfl

/- Records that are written as others. -/
def map
    (record : Record α)
    (into : β → α)
    (back : α → β)
    (hBack : ∀ b, back (into b) = b) : Record β where
  numbers := record.numbers
  write b := record.write (into b)
  read fields := (record.read fields).map back
  number_mem b := record.number_mem (into b)
  read_select fields := by
    rw [record.read_select]
  read_write b := by
    rw [record.read_write, Option.map_some, hBack]

/- A field that is left out where it has its default. -/
def implicit
    [DecidableEq α]
    (number : Nat)
    (kind : Kind α)
    (default : α) : Record α :=
  (optional (.single number kind)).map
    (fun a => if a = default then none else some a)
    (fun a => a.getD default)
    (fun a => by
      split
      · rename_i hDefault
        exact hDefault.symm
      · rfl)

/- The bytes of a record. -/
def encode
    (record : Record α)
    (a : α) : List UInt8 :=
  encodeFields (record.write a)

/- The record that bytes are. -/
def decode
    (record : Record α)
    (bytes : List UInt8) : Option α :=
  (readFields bytes).bind record.read

/- Records are read as they were written. -/
theorem decode_encode
    (record : Record α)
    (a : α) :
    record.decode (record.encode a) = some a := by
  rw [decode, encode, readFields_encodeFields,
    Option.bind_some, record.read_write]

end Record

/- Records within a field. -/
def Kind.record
    (record : Record α) : Kind α where
  write a := .bytes (record.encode a)
  read
    | .varint _ => none
    | .bytes contents => record.decode contents
  read_write a := record.decode_encode a

end Wire
