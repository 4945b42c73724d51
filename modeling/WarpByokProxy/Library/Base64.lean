import Mathlib.Tactic.Common

/-
  Padded base64 over an arbitrary alphabet.

  Three bytes are written as four symbols of six bits each;
  one or two bytes at the end are filled up with zero bits
  and with the pad. Decoding is strict: it asks for the pads
  and for the zero bits.

  Key definitions include:
    * `Base64.Alphabet`
    * `Base64.Alphabet.encode`
    * `Base64.Alphabet.decode`

  Key theorems include:
    * `Base64.Alphabet.decode_encode`
    * `Base64.Alphabet.mem_encode`
-/

------------------------------------------------------------
-- Alphabets
------------------------------------------------------------

namespace Base64

/- The low six bits of a number. -/
def sixBits
    (n : Nat) : Fin 64 :=
  Fin.ofNat 64 n

/- The symbols of the six-bit values, and the pad. -/
structure Alphabet (α : Type*) where
  symbol : Fin 64 → α
  value : α → Option (Fin 64)
  pad : α
  value_symbol : ∀ i, value (symbol i) = some i
  symbol_ne_pad : ∀ i, symbol i ≠ pad

namespace Alphabet

variable {α : Type*}

/- The symbol of the low six bits of a number. -/
def sextet
    (alphabet : Alphabet α)
    (bits : Nat) : α :=
  alphabet.symbol (sixBits bits)

/- The bits of a symbol. -/
def bits
    (alphabet : Alphabet α)
    (symbol : α) : Option Nat :=
  (alphabet.value symbol).map Fin.val

/- The symbols of a text of bytes. -/
def encode
    (alphabet : Alphabet α) : List UInt8 → List α
  | [] => []
  | [a] =>
      [alphabet.sextet (a.toNat / 4),
        alphabet.sextet (a.toNat % 4 * 16),
        alphabet.pad, alphabet.pad]
  | [a, b] =>
      [alphabet.sextet (a.toNat / 4),
        alphabet.sextet (a.toNat % 4 * 16 + b.toNat / 16),
        alphabet.sextet (b.toNat % 16 * 4),
        alphabet.pad]
  | a :: b :: c :: rest =>
      alphabet.sextet (a.toNat / 4) ::
        alphabet.sextet (a.toNat % 4 * 16 + b.toNat / 16) ::
        alphabet.sextet (b.toNat % 16 * 4 + c.toNat / 64) ::
        alphabet.sextet (c.toNat % 64) ::
        encode alphabet rest

/- The byte of two symbols before two pads. -/
def decodeOne
    (alphabet : Alphabet α)
    (w x : α) : Option (List UInt8) := do
  let i ← alphabet.bits w
  let j ← alphabet.bits x
  if j % 16 = 0 then
    some [UInt8.ofNat (i * 4 + j / 16)]
  else
    none

/- The bytes of three symbols before a pad. -/
def decodeTwo
    (alphabet : Alphabet α)
    (w x y : α) : Option (List UInt8) := do
  let i ← alphabet.bits w
  let j ← alphabet.bits x
  let k ← alphabet.bits y
  if k % 4 = 0 then
    some
      [UInt8.ofNat (i * 4 + j / 16),
        UInt8.ofNat (j % 16 * 16 + k / 4)]
  else
    none

/- The bytes of four symbols. -/
def decodeThree
    (alphabet : Alphabet α)
    (w x y z : α) : Option (List UInt8) := do
  let i ← alphabet.bits w
  let j ← alphabet.bits x
  let k ← alphabet.bits y
  let l ← alphabet.bits z
  some
    [UInt8.ofNat (i * 4 + j / 16),
      UInt8.ofNat (j % 16 * 16 + k / 4),
      UInt8.ofNat (k % 4 * 64 + l)]

/- The bytes of a text; pads are at its end only. -/
def decode
    [DecidableEq α]
    (alphabet : Alphabet α) :
    List α → Option (List UInt8)
  | [] => some []
  | w :: x :: y :: z :: rest =>
      if z = alphabet.pad then
        if rest ≠ [] then
          none
        else if y = alphabet.pad then
          alphabet.decodeOne w x
        else
          alphabet.decodeTwo w x y
      else do
        let group ← alphabet.decodeThree w x y z
        let bytes ← decode alphabet rest
        some (group ++ bytes)
  | _ => none

end Alphabet

end Base64

------------------------------------------------------------
-- Round Trip
------------------------------------------------------------

namespace Base64

namespace Alphabet

variable {α : Type*}

/- Six bits are read back from their symbol. -/
theorem bits_sextet
    (alphabet : Alphabet α)
    {bits : Nat}
    (hBits : bits < 64) :
    alphabet.bits (alphabet.sextet bits) = some bits := by
  rw [Alphabet.bits, sextet, alphabet.value_symbol,
    Option.map_some]
  exact congrArg some (Nat.mod_eq_of_lt hBits)

theorem sextet_ne_pad
    (alphabet : Alphabet α)
    (bits : Nat) :
    alphabet.sextet bits ≠ alphabet.pad :=
  alphabet.symbol_ne_pad _

/- A byte is determined by its number. -/
theorem ofNat_eq
    {byte : UInt8}
    {n : Nat}
    (hNumber : n = byte.toNat) :
    UInt8.ofNat n = byte := by
  rw [hNumber, UInt8.ofNat_toNat]

theorem decodeOne_encode
    (alphabet : Alphabet α)
    (a : UInt8) :
    alphabet.decodeOne
        (alphabet.sextet (a.toNat / 4))
        (alphabet.sextet (a.toNat % 4 * 16)) =
      some [a] := by
  have hA := a.toNat_lt
  have hByte :
      UInt8.ofNat (a.toNat / 4 * 4 + a.toNat % 4 * 16 / 16) =
        a :=
    ofNat_eq (by omega)
  have hZero : a.toNat % 4 * 16 % 16 = 0 := by omega
  rw [decodeOne, alphabet.bits_sextet (by omega),
    alphabet.bits_sextet (by omega)]
  simp only [Option.bind_eq_bind, Option.bind_some]
  rw [if_pos hZero, hByte]

theorem decodeTwo_encode
    (alphabet : Alphabet α)
    (a b : UInt8) :
    alphabet.decodeTwo
        (alphabet.sextet (a.toNat / 4))
        (alphabet.sextet (a.toNat % 4 * 16 + b.toNat / 16))
        (alphabet.sextet (b.toNat % 16 * 4)) =
      some [a, b] := by
  have hA := a.toNat_lt
  have hB := b.toNat_lt
  have hFirst :
      UInt8.ofNat
          (a.toNat / 4 * 4 +
            (a.toNat % 4 * 16 + b.toNat / 16) / 16) =
        a :=
    ofNat_eq (by omega)
  have hSecond :
      UInt8.ofNat
          ((a.toNat % 4 * 16 + b.toNat / 16) % 16 * 16 +
            b.toNat % 16 * 4 / 4) =
        b :=
    ofNat_eq (by omega)
  have hZero : b.toNat % 16 * 4 % 4 = 0 := by omega
  rw [decodeTwo, alphabet.bits_sextet (by omega),
    alphabet.bits_sextet (by omega),
    alphabet.bits_sextet (by omega)]
  simp only [Option.bind_eq_bind, Option.bind_some]
  rw [if_pos hZero, hFirst, hSecond]

theorem decodeThree_encode
    (alphabet : Alphabet α)
    (a b c : UInt8) :
    alphabet.decodeThree
        (alphabet.sextet (a.toNat / 4))
        (alphabet.sextet (a.toNat % 4 * 16 + b.toNat / 16))
        (alphabet.sextet (b.toNat % 16 * 4 + c.toNat / 64))
        (alphabet.sextet (c.toNat % 64)) =
      some [a, b, c] := by
  have hA := a.toNat_lt
  have hB := b.toNat_lt
  have hC := c.toNat_lt
  have hFirst :
      UInt8.ofNat
          (a.toNat / 4 * 4 +
            (a.toNat % 4 * 16 + b.toNat / 16) / 16) =
        a :=
    ofNat_eq (by omega)
  have hSecond :
      UInt8.ofNat
          ((a.toNat % 4 * 16 + b.toNat / 16) % 16 * 16 +
            (b.toNat % 16 * 4 + c.toNat / 64) / 4) =
        b :=
    ofNat_eq (by omega)
  have hThird :
      UInt8.ofNat
          ((b.toNat % 16 * 4 + c.toNat / 64) % 4 * 64 +
            c.toNat % 64) =
        c :=
    ofNat_eq (by omega)
  rw [decodeThree, alphabet.bits_sextet (by omega),
    alphabet.bits_sextet (by omega),
    alphabet.bits_sextet (by omega),
    alphabet.bits_sextet (by omega)]
  simp only [Option.bind_eq_bind, Option.bind_some]
  rw [hFirst, hSecond, hThird]

/- Every text of bytes is decoded from its symbols. -/
theorem decode_encode
    [DecidableEq α]
    (alphabet : Alphabet α)
    (text : List UInt8) :
    alphabet.decode (alphabet.encode text) = some text := by
  have hPad := alphabet.sextet_ne_pad
  induction text using encode.induct with
  | case1 => rfl
  | case2 a =>
      rw [encode, decode, if_pos rfl, if_neg (by simp),
        if_pos rfl]
      exact alphabet.decodeOne_encode a
  | case3 a b =>
      rw [encode, decode, if_pos rfl, if_neg (by simp),
        if_neg (hPad _)]
      exact alphabet.decodeTwo_encode a b
  | case4 a b c rest ih =>
      rw [encode, decode, if_neg (hPad _),
        alphabet.decodeThree_encode, ih]
      rfl

/- Only symbols of the alphabet and pads are written. -/
theorem mem_encode
    (alphabet : Alphabet α)
    {text : List UInt8}
    {c : α}
    (hMem : c ∈ alphabet.encode text) :
    (∃ i, c = alphabet.symbol i) ∨ c = alphabet.pad := by
  induction text using encode.induct with
  | case1 => exact absurd hMem List.not_mem_nil
  | case2 a =>
      simp only [encode, List.mem_cons, List.not_mem_nil,
        or_false] at hMem
      rcases hMem with rfl | rfl | rfl | rfl
      · exact .inl ⟨_, rfl⟩
      · exact .inl ⟨_, rfl⟩
      · exact .inr rfl
      · exact .inr rfl
  | case3 a b =>
      simp only [encode, List.mem_cons, List.not_mem_nil,
        or_false] at hMem
      rcases hMem with rfl | rfl | rfl | rfl
      · exact .inl ⟨_, rfl⟩
      · exact .inl ⟨_, rfl⟩
      · exact .inl ⟨_, rfl⟩
      · exact .inr rfl
  | case4 a b c rest ih =>
      rw [encode] at hMem
      simp only [List.mem_cons] at hMem
      rcases hMem with rfl | rfl | rfl | rfl | hRest
      · exact .inl ⟨_, rfl⟩
      · exact .inl ⟨_, rfl⟩
      · exact .inl ⟨_, rfl⟩
      · exact .inl ⟨_, rfl⟩
      · exact ih hRest

end Alphabet

end Base64
