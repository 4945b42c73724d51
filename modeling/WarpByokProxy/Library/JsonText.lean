import WarpByokProxy.Library.Json
import Mathlib.Data.List.Induction
import Mathlib.Data.List.TakeWhile

/-
  The compact text of JSON values, with a printer and a
  parser over lists of characters.

  Floating-point numbers are printed and read by a format
  that is a parameter. The parser runs on fuel, one unit for
  each value it enters; a text never needs more than its
  length. Escaped surrogate pairs are not decoded.

  Key definitions include:
    * `JsonText.FloatFormat`
    * `JsonText.printValue`
    * `JsonText.parseValue`
    * `JsonText.print`
    * `JsonText.parse`

  Key theorems include:
    * `JsonText.parse_print_ofStrings`
    * `JsonText.parse_of_blank`
    * `JsonText.length_print_entry_lt`
-/

------------------------------------------------------------
-- Characters
------------------------------------------------------------

namespace JsonText

/- The quotation mark. -/
def quote : Char :=
  Char.ofNat 34

/- The backslash. -/
def backslash : Char :=
  Char.ofNat 92

/- The characters that are skipped between tokens. -/
def isBlank
    (c : Char) : Bool :=
  c = ' ' || c = '\n' || c = '\t' || c = '\r'

/- Skip the blanks at the front of a text. -/
def skipBlank
    (chars : List Char) : List Char :=
  chars.dropWhile isBlank

/- Characters with a short escape, and its letter. -/
def shortEscapes : List (Char × Char) :=
  [(quote, quote), (backslash, backslash),
    (Char.ofNat 8, 'b'), (Char.ofNat 12, 'f'),
    ('\n', 'n'), ('\r', 'r'), ('\t', 't')]

/- The lower-case digit of a number below sixteen. -/
def hexDigit
    (value : Nat) : Char :=
  Char.ofNat (if value < 10 then 48 + value else 87 + value)

/- The value of a hexadecimal digit. -/
def hexValue
    (c : Char) : Option Nat :=
  if 48 ≤ c.toNat ∧ c.toNat ≤ 57 then
    some (c.toNat - 48)
  else if 97 ≤ c.toNat ∧ c.toNat ≤ 102 then
    some (c.toNat - 87)
  else if 65 ≤ c.toNat ∧ c.toNat ≤ 70 then
    some (c.toNat - 55)
  else
    none

theorem hexValue_hexDigit :
    ∀ value < 16, hexValue (hexDigit value) = some value := by
  decide

/- The text of one character inside a string. -/
def escapeChar
    (c : Char) : List Char :=
  match shortEscapes.lookup c with
  | some letter => [backslash, letter]
  | none =>
      if c.toNat < 32 then
        [backslash, 'u', '0', '0',
          hexDigit (c.toNat / 16), hexDigit (c.toNat % 16)]
      else
        [c]

/- The character that a short escape stands for. -/
def unescapeShort
    (letter : Char) : Option Char :=
  if letter = '/' then
    some '/'
  else
    (shortEscapes.map Prod.swap).lookup letter

/- The number that four hexadecimal digits stand for. -/
def hexValue4
    (a b c d : Char) : Option Nat := do
  let a ← hexValue a
  let b ← hexValue b
  let c ← hexValue c
  let d ← hexValue d
  return ((a * 16 + b) * 16 + c) * 16 + d

/- Read the rest of a string, up to its closing quote. -/
def parseChars :
    List Char → Option (List Char × List Char)
  | [] => none
  | c :: rest =>
      if c = quote then
        some ([], rest)
      else if c = backslash then
        match rest with
        | [] => none
        | letter :: tail =>
            if letter = 'u' then
              match tail with
              | h₁ :: h₂ :: h₃ :: h₄ :: tail =>
                  match hexValue4 h₁ h₂ h₃ h₄ with
                  | some value =>
                      if value.isValidChar then
                        (parseChars tail).map (fun p =>
                          (Char.ofNat value :: p.1, p.2))
                      else
                        none
                  | none => none
              | _ => none
            else
              match unescapeShort letter with
              | some c =>
                  (parseChars tail).map (fun p =>
                    (c :: p.1, p.2))
              | none => none
      else if c.toNat < 32 then
        none
      else
        (parseChars rest).map (fun p => (c :: p.1, p.2))

/- A short escape is read back. -/
theorem unescapeShort_of_lookup
    {c letter : Char}
    (hEscape : shortEscapes.lookup c = some letter) :
    letter ≠ 'u' ∧ unescapeShort letter = some c := by
  have hMem : (c, letter) ∈ shortEscapes := by
    rcases List.lookup_eq_some_iff.mp hEscape with
      ⟨before, after, hSplit, -⟩
    rw [hSplit]
    simp
  have hAll :
      ∀ entry ∈ shortEscapes,
        entry.2 ≠ 'u' ∧
          unescapeShort entry.2 = some entry.1 := by
    decide
  exact hAll _ hMem

/- A printed character is read back. -/
theorem parseChars_escapeChar
    (c : Char)
    (rest : List Char) :
    parseChars (escapeChar c ++ rest) =
      (parseChars rest).map (fun p => (c :: p.1, p.2)) := by
  have hBackslash : backslash ≠ quote := by
    decide
  unfold escapeChar
  cases hEscape : shortEscapes.lookup c with
  | some letter =>
      rcases unescapeShort_of_lookup hEscape with
        ⟨hLetter, hBack⟩
      simp [parseChars.eq_def (backslash :: _), hBackslash,
        hLetter, hBack]
  | none =>
      by_cases hControl : c.toNat < 32
      · have hHigh :=
          hexValue_hexDigit (c.toNat / 16) (by omega)
        have hLow :=
          hexValue_hexDigit (c.toNat % 16) (by omega)
        have hZero : hexValue '0' = some 0 := by
          decide
        have hCode :
            c.toNat / 16 * 16 + c.toNat % 16 = c.toNat := by
          omega
        have hValid : c.toNat.isValidChar := c.valid
        simp [hControl, parseChars.eq_def (backslash :: _),
          hBackslash, hexValue4, hHigh, hLow, hZero, hCode,
          hValid]
      · have hQuote : c ≠ quote := by
          intro hEq
          rw [hEq] at hEscape
          exact absurd hEscape (by decide)
        have hOther : c ≠ backslash := by
          intro hEq
          rw [hEq] at hEscape
          exact absurd hEscape (by decide)
        simp [hControl, parseChars.eq_def (c :: _), hQuote,
          hOther]

/- A printed string is read back. -/
theorem parseChars_flatMap_escapeChar
    (chars rest : List Char) :
    parseChars
        (chars.flatMap escapeChar ++ quote :: rest) =
      some (chars, rest) := by
  induction chars with
  | nil => simp [parseChars.eq_def (quote :: _)]
  | cons c chars ih =>
      rw [List.flatMap_cons, List.append_assoc,
        parseChars_escapeChar, ih]
      rfl

/- An escape is never empty. -/
theorem length_le_length_flatMap_escapeChar
    (chars : List Char) :
    chars.length ≤ (chars.flatMap escapeChar).length := by
  induction chars with
  | nil => simp
  | cons c chars ih =>
      have hOne : 1 ≤ (escapeChar c).length := by
        unfold escapeChar
        cases shortEscapes.lookup c with
        | some letter => simp
        | none => split_ifs <;> simp
      rw [List.flatMap_cons, List.length_append,
        List.length_cons]
      omega

end JsonText

------------------------------------------------------------
-- Printing
------------------------------------------------------------

namespace JsonText

variable {F : Type}

/- How floating-point numbers are printed and read. -/
structure FloatFormat (F : Type) where
  print : F → List Char
  parse : List Char → Option F

/- The text of a string. -/
def printString
    (text : String) : List Char :=
  quote :: text.toList.flatMap escapeChar ++ [quote]

/- The text of a number. -/
def printNumber
    (format : FloatFormat F) :
    JsonNumber F → List Char
  | .posInt value => (Nat.repr value.toNat).toList
  | .negInt value _ => (Int.repr value.toInt).toList
  | .float value => format.print value

mutual

/- The text of a value. -/
def printValue
    (format : FloatFormat F) : Json F → List Char
  | .null => ['n', 'u', 'l', 'l']
  | .bool true => ['t', 'r', 'u', 'e']
  | .bool false => ['f', 'a', 'l', 's', 'e']
  | .number value => printNumber format value
  | .string value => printString value
  | .array items => '[' :: printItems format items ++ [']']
  | .object entries =>
      '{' :: printEntries format entries ++ ['}']

/- The texts of array items, separated by commas. -/
def printItems
    (format : FloatFormat F) :
    List (Json F) → List Char
  | [] => []
  | [item] => printValue format item
  | item :: items =>
      printValue format item ++ ',' ::
        printItems format items

/- The texts of object entries, separated by commas. -/
def printEntries
    (format : FloatFormat F) :
    List (String × Json F) → List Char
  | [] => []
  | [entry] => printEntry format entry
  | entry :: entries =>
      printEntry format entry ++ ',' ::
        printEntries format entries

/- The text of one object entry. -/
def printEntry
    (format : FloatFormat F) :
    String × Json F → List Char
  | (key, value) =>
      printString key ++ ':' :: printValue format value

end

end JsonText

------------------------------------------------------------
-- Parsing
------------------------------------------------------------

namespace JsonText

variable {F : Type}

/- Characters of which number tokens consist. -/
def isNumberChar
    (c : Char) : Bool :=
  c.isDigit || c = '-' || c = '+' || c = '.' || c = 'e' ||
    c = 'E'

/- A number with a leading zero has no other digit. -/
def isCanonical : List Char → Bool
  | [] => false
  | ['0'] => true
  | c :: digits => c ≠ '0' && (c :: digits).all Char.isDigit

/- The number that decimal digits stand for. -/
def digitsValue
    (digits : List Char) : Nat :=
  digits.foldl
    (fun value c => value * 10 + (c.toNat - 48)) 0

/-
  Read a number token. Integers outside 64 bits and negative
  zero are floating-point numbers.
-/
def parseNumber
    (format : FloatFormat F)
    (token : List Char) : Option (JsonNumber F) :=
  match token with
  | '-' :: digits =>
      if isCanonical digits then
        let value := -(digitsValue digits : Int)
        if Int64.minValue.toInt ≤ value then
          if hNegative : Int64.ofInt value < 0 then
            some (.negInt (Int64.ofInt value) hNegative)
          else
            (format.parse token).map .float
        else
          (format.parse token).map .float
      else
        (format.parse token).map .float
  | digits =>
      if isCanonical digits &&
          digitsValue digits < UInt64.size then
        some (.posInt (UInt64.ofNat (digitsValue digits)))
      else
        (format.parse token).map .float

/- Insert an entry; a key that is present gets the value. -/
def insertEntry
    (entries : List (String × Json F))
    (entry : String × Json F) : List (String × Json F) :=
  if entry.1 ∈ entries.map Prod.fst then
    entries.map (fun held =>
      if held.1 = entry.1 then entry else held)
  else
    entries ++ [entry]

/- The object that entries add up to. -/
def objectOf
    (entries : List (String × Json F)) : Json F :=
  .object (entries.foldl insertEntry [])

mutual

/- Read a value from the front of a text. -/
def parseValue
    (format : FloatFormat F) :
    Nat → List Char → Option (Json F × List Char)
  | 0, _ => none
  | fuel + 1, chars =>
      match skipBlank chars with
      | 'n' :: 'u' :: 'l' :: 'l' :: rest =>
          some (.null, rest)
      | 't' :: 'r' :: 'u' :: 'e' :: rest =>
          some (.bool true, rest)
      | 'f' :: 'a' :: 'l' :: 's' :: 'e' :: rest =>
          some (.bool false, rest)
      | '[' :: rest =>
          match skipBlank rest with
          | ']' :: rest => some (.array [], rest)
          | rest =>
              (parseItems format fuel rest).map (fun p =>
                (.array p.1, p.2))
      | '{' :: rest =>
          match skipBlank rest with
          | '}' :: rest => some (.object [], rest)
          | rest =>
              (parseEntries format fuel rest).map (fun p =>
                (objectOf p.1, p.2))
      | c :: rest =>
          if c = quote then
            (parseChars rest).map (fun p =>
              (.string (String.ofList p.1), p.2))
          else if isNumberChar c then
            (parseNumber format
              ((c :: rest).takeWhile isNumberChar)).map
                (fun number =>
                  (.number number,
                    (c :: rest).dropWhile isNumberChar))
          else
            none
      | [] => none

/- Read array items up to the closing bracket. -/
def parseItems
    (format : FloatFormat F) :
    Nat → List Char → Option (List (Json F) × List Char)
  | 0, _ => none
  | fuel + 1, chars =>
      match parseValue format fuel chars with
      | none => none
      | some (item, rest) =>
          match skipBlank rest with
          | ']' :: rest => some ([item], rest)
          | ',' :: rest =>
              (parseItems format fuel rest).map (fun p =>
                (item :: p.1, p.2))
          | _ => none

/- Read object entries up to the closing brace. -/
def parseEntries
    (format : FloatFormat F) :
    Nat → List Char →
      Option (List (String × Json F) × List Char)
  | 0, _ => none
  | fuel + 1, chars =>
      match parseEntry format fuel chars with
      | none => none
      | some (entry, rest) =>
          match skipBlank rest with
          | '}' :: rest => some ([entry], rest)
          | ',' :: rest =>
              (parseEntries format fuel rest).map (fun p =>
                (entry :: p.1, p.2))
          | _ => none

/- Read one object entry. -/
def parseEntry
    (format : FloatFormat F) :
    Nat → List Char →
      Option ((String × Json F) × List Char)
  | 0, _ => none
  | fuel + 1, chars =>
      match skipBlank chars with
      | c :: rest =>
          if c = quote then
            match parseChars rest with
            | none => none
            | some (key, rest) =>
                match skipBlank rest with
                | ':' :: rest =>
                    (parseValue format fuel rest).map
                      (fun p =>
                        ((String.ofList key, p.1), p.2))
                | _ => none
          else
            none
      | [] => none

end

/- The text of a value. -/
def print
    (format : FloatFormat F)
    (json : Json F) : String :=
  String.ofList (printValue format json)

/- The value of a text that is JSON. -/
def parse
    (format : FloatFormat F)
    (text : String) : Option (Json F) :=
  match parseValue format (text.length + 1) text.toList with
  | some (json, rest) =>
      if rest.all isBlank then some json else none
  | none => none

/- Text without a value in it is not JSON. -/
theorem parse_of_blank
    (format : FloatFormat F)
    {text : String}
    (hBlank : text.toList.all isBlank = true) :
    parse format text = none := by
  have hSkip : skipBlank text.toList = [] := by
    rw [skipBlank, List.dropWhile_eq_nil_iff]
    exact List.all_eq_true.mp hBlank
  simp [parse, parseValue, hSkip]

end JsonText

------------------------------------------------------------
-- Reading Back
------------------------------------------------------------

namespace JsonText

variable {F : Type}

/- A token that starts with no blank is read at once. -/
theorem skipBlank_cons
    {c : Char}
    (hToken : isBlank c = false)
    (rest : List Char) :
    skipBlank (c :: rest) = c :: rest := by
  simp [skipBlank, hToken]

theorem skipBlank_quote
    (rest : List Char) :
    skipBlank (quote :: rest) = quote :: rest :=
  skipBlank_cons (by decide) rest

/- A printed string is read back as a value. -/
theorem parseValue_printString
    (format : FloatFormat F)
    (fuel : Nat)
    (text : String)
    (rest : List Char) :
    parseValue format (fuel + 1)
        (printString text ++ rest) =
      some (.string text, rest) := by
  have hChars :
      printString text ++ rest =
        quote ::
          (text.toList.flatMap escapeChar ++
            quote :: rest) := by
    simp [printString]
  have hRead :=
    parseChars_flatMap_escapeChar text.toList rest
  rw [hChars, parseValue, skipBlank_quote]
  simp only [quote] at hRead ⊢
  simp [hRead]

/- A printed entry with a string value is read back. -/
theorem parseEntry_printEntry
    (format : FloatFormat F)
    (fuel : Nat)
    (key text : String)
    (rest : List Char) :
    parseEntry format (fuel + 2)
        (printEntry format (key, .string text) ++ rest) =
      some ((key, .string text), rest) := by
  have hChars :
      printEntry format (key, .string text) ++ rest =
        quote ::
          (key.toList.flatMap escapeChar ++
            quote :: ':' :: (printString text ++ rest)) := by
    simp [printEntry, printValue, printString]
  have hColon :
      skipBlank (':' :: (printString text ++ rest)) =
        ':' :: (printString text ++ rest) :=
    skipBlank_cons (by decide) _
  rw [hChars, parseEntry, skipBlank_quote]
  simp only [if_true, parseChars_flatMap_escapeChar, hColon,
    parseValue_printString, Option.map_some,
    String.ofList_toList]

theorem printEntries_cons_cons
    (format : FloatFormat F)
    (entry next : String × Json F)
    (entries : List (String × Json F)) :
    printEntries format (entry :: next :: entries) =
      printEntry format entry ++ ',' ::
        printEntries format (next :: entries) := by
  rw [printEntries]
  simp

/- Printed entries with string values are read back. -/
theorem parseEntries_printEntries
    (format : FloatFormat F)
    {fields : List (String × String)}
    (hNonempty : fields ≠ [])
    {fuel : Nat}
    (hFuel : fields.length + 2 ≤ fuel)
    (rest : List Char) :
    parseEntries format fuel
        (printEntries format
            (fields.map (fun field =>
              (field.1, .string field.2))) ++
          '}' :: rest) =
      some
        (fields.map (fun field =>
          (field.1, .string field.2)), rest) := by
  have hBrace :
      skipBlank ('}' :: rest) = '}' :: rest :=
    skipBlank_cons (by decide) rest
  induction fields generalizing fuel with
  | nil => exact (hNonempty rfl).elim
  | cons field fields ih =>
      rcases Nat.exists_eq_add_of_le hFuel with ⟨spare, rfl⟩
      have hSucc :
          (field :: fields).length + 2 + spare =
            (fields.length + spare) + 2 + 1 := by
        rw [List.length_cons]
        omega
      rw [hSucc]
      cases fields with
      | nil =>
          simp only [List.map_cons, List.map_nil,
            printEntries, parseEntries,
            parseEntry_printEntry, hBrace]
      | cons next fields =>
          have hTail :
              parseEntries format
                  ((next :: fields).length + spare + 2)
                  _ = _ :=
            ih (by simp) (by omega)
          have hComma :
              ∀ tail, skipBlank (',' :: tail) = ',' :: tail :=
            skipBlank_cons (by decide)
          simp only [List.map_cons] at hTail ⊢
          rw [printEntries_cons_cons, List.append_assoc,
            parseEntries, parseEntry_printEntry]
          simp only [List.cons_append, hComma]
          rw [hTail]
          rfl

/- Entries with distinct keys are all kept. -/
theorem objectOf_of_nodup
    {entries : List (String × Json F)}
    (hKeys : (entries.map Prod.fst).Nodup) :
    objectOf entries = .object entries := by
  have hFold :
      entries.foldl insertEntry [] = entries := by
    induction entries using List.reverseRecOn with
    | nil => rfl
    | append_singleton entries entry ih =>
        rw [List.map_append, List.nodup_append] at hKeys
        rcases hKeys with ⟨hFront, -, hApart⟩
        have hNew : entry.1 ∉ entries.map Prod.fst := by
          intro hMem
          exact hApart _ hMem entry.1 (by simp) rfl
        rw [List.foldl_append, ih hFront, List.foldl_cons,
          List.foldl_nil, insertEntry, if_neg hNew]
  rw [objectOf, hFold]

/- Printed entries start with the quote of a key. -/
theorem exists_printEntries_cons
    (format : FloatFormat F)
    (entry : String × Json F)
    (entries : List (String × Json F)) :
    ∃ tail,
      printEntries format (entry :: entries) =
        quote :: tail := by
  have hHead :
      ∃ tail, printEntry format entry = quote :: tail := by
    rcases entry with ⟨key, value⟩
    exact ⟨_, rfl⟩
  rcases hHead with ⟨tail, hTail⟩
  cases entries with
  | nil => exact ⟨tail, hTail⟩
  | cons next entries =>
      rw [printEntries_cons_cons, hTail]
      exact ⟨_, rfl⟩

/- Every entry is part of the text. -/
theorem length_printEntry_le
    (format : FloatFormat F)
    {entries : List (String × Json F)}
    {entry : String × Json F}
    (hMem : entry ∈ entries) :
    (printEntry format entry).length ≤
      (printEntries format entries).length := by
  induction entries with
  | nil => simp at hMem
  | cons first entries ih =>
      cases entries with
      | nil =>
          rw [List.mem_singleton] at hMem
          rw [hMem, printEntries]
      | cons next entries =>
          rw [printEntries_cons_cons, List.length_append,
            List.length_cons]
          rcases List.mem_cons.mp hMem with hFirst | hLater
          · rw [hFirst]
            omega
          · have hLe := ih hLater
            omega

/- The text has a character for every entry. -/
theorem length_le_length_printEntries
    (format : FloatFormat F)
    (entries : List (String × Json F)) :
    entries.length ≤
      (printEntries format entries).length := by
  induction entries with
  | nil => simp
  | cons first entries ih =>
      cases entries with
      | nil =>
          rcases exists_printEntries_cons format first [] with
            ⟨tail, hTail⟩
          simp [hTail]
      | cons next entries =>
          rw [printEntries_cons_cons]
          simp only [List.length_append, List.length_cons]
            at ih ⊢
          omega

/- An object's text is longer than the text of each value. -/
theorem length_print_entry_lt
    (format : FloatFormat F)
    {entries : List (String × Json F)}
    {key : String}
    {value : Json F}
    (hMem : (key, value) ∈ entries) :
    (print format value).length <
      (print format (.object entries)).length := by
  have hEntry := length_printEntry_le format hMem
  simp only [print, String.length_ofList, printValue,
    printEntry, List.length_append, List.length_cons,
    List.length_nil] at hEntry ⊢
  omega

/- A string's text is longer than the string. -/
theorem length_lt_length_print_string
    (format : FloatFormat F)
    (text : String) :
    text.length < (print format (.string text)).length := by
  have hEscaped :=
    length_le_length_flatMap_escapeChar text.toList
  rw [String.length_toList] at hEscaped
  simp only [print, String.length_ofList, printValue,
    printString, List.length_append, List.length_cons,
    List.length_nil]
  omega

/- An object with a first key is read entry by entry. -/
theorem parseValue_brace_quote
    (format : FloatFormat F)
    (fuel : Nat)
    (rest : List Char) :
    parseValue format (fuel + 1) ('{' :: quote :: rest) =
      (parseEntries format fuel (quote :: rest)).map
        (fun p => (objectOf p.1, p.2)) := by
  have hBrace :
      skipBlank ('{' :: quote :: rest) =
        '{' :: quote :: rest :=
    skipBlank_cons (by decide) _
  rw [parseValue, hBrace]
  simp only [skipBlank_quote]
  rfl

/- A printed object of strings is read back. -/
theorem parse_print_ofStrings
    (format : FloatFormat F)
    {fields : List (String × String)}
    (hKeys : (fields.map Prod.fst).Nodup) :
    parse format (print format (.ofStrings fields)) =
      some (.ofStrings fields) := by
  unfold parse print
  rw [String.toList_ofList, String.length_ofList,
    Json.ofStrings, printValue]
  cases fields with
  | nil => rfl
  | cons field fields =>
      have hLength :=
        length_le_length_printEntries format
          ((field :: fields).map (fun field =>
            (field.1, .string field.2)))
      have hRead :
          parseEntries format
              ('{' ::
                printEntries format
                    ((field :: fields).map (fun field =>
                      (field.1, .string field.2))) ++
                  ['}']).length
              _ = _ :=
        parseEntries_printEntries format
          (List.cons_ne_nil field fields)
          (by
            simp only [List.length_map, List.length_append,
              List.length_cons, List.length_nil]
              at hLength ⊢
            omega)
          []
      have hObject :
          objectOf
              ((field :: fields).map (fun field =>
                (field.1, (.string field.2 : Json F)))) =
            .object
              ((field :: fields).map (fun field =>
                (field.1, .string field.2))) := by
        apply objectOf_of_nodup
        rw [List.map_map]
        exact hKeys
      rcases exists_printEntries_cons format
          (field.1, .string field.2)
          (fields.map (fun field =>
            (field.1, .string field.2))) with
        ⟨tail, hTail⟩
      rw [List.map_cons] at hRead hObject ⊢
      rw [hTail] at hRead ⊢
      rw [List.cons_append, List.cons_append] at hRead ⊢
      rw [parseValue_brace_quote, hRead, Option.map_some,
        hObject]
      rfl

end JsonText
