import AuthApi.Encoding.Fields
import AuthApi.Encoding.QueryStrings
import Mathlib.Data.Int.Notation
import Mathlib.Data.List.Forall2

/-! # JSON texts

`json.dumps` with its two ways of writing the characters beyond ASCII, for documents whose numbers are integers, and a
reader of such texts. Every document is read back from its text, and no text has a control character: it is one line,
whatever the strings in it are.
-/

namespace Encoding

inductive JsonText where
  | null
  | bool (value : Bool)
  | int (value : ℤ)
  | str (text : String)
  | arr (items : List JsonText)
  | obj (fields : List (String × JsonText))

/-- The escapes of one letter. -/
def shortEscapes : List (Char × Char) :=
  [('"', '"'), ('\\', '\\'), ('\n', 'n'), ('\r', 'r'), ('\t', 't'), ('\x08', 'b'), ('\x0c', 'f')]

/-- A UTF-16 code unit in four digits. -/
def hexEscape (unit : ℕ) : List Char :=
  ['\\', 'u', Nat.digitChar (unit / 0x1000), Nat.digitChar (unit / 0x100 % 0x10),
    Nat.digitChar (unit / 0x10 % 0x10), Nat.digitChar (unit % 0x10)]

/-- A character inside a string; `ensureAscii` leaves nothing beyond ASCII unescaped. -/
def escapeChar (ensureAscii : Bool) (c : Char) : List Char :=
  match shortEscapes.lookup c with
  | some letter => ['\\', letter]
  | none =>
    if c.toNat < 0x20 then hexEscape c.toNat
    else if ensureAscii = false ∨ c.toNat < 0x7F then [c]
    else if c.toNat < 0x10000 then hexEscape c.toNat
    else hexEscape (0xD800 + (c.toNat - 0x10000) / 0x400) ++ hexEscape (0xDC00 + (c.toNat - 0x10000) % 0x400)

def quoteJson (ensureAscii : Bool) (text : String) : List Char :=
  '"' :: (text.toList.flatMap (escapeChar ensureAscii) ++ ['"'])

def dumpInt (value : ℤ) : List Char :=
  if value < 0 then '-' :: Nat.toDigits 10 value.natAbs else Nat.toDigits 10 value.natAbs

mutual

/-- `json.dumps(value, ensure_ascii=ensureAscii)`. -/
def dumps (ensureAscii : Bool) : JsonText → List Char
  | .null => "null".toList
  | .bool true => "true".toList
  | .bool false => "false".toList
  | .int value => dumpInt value
  | .str text => quoteJson ensureAscii text
  | .arr items => '[' :: ([',', ' '].intercalate (dumpItems ensureAscii items) ++ [']'])
  | .obj fields => '{' :: ([',', ' '].intercalate (dumpFields ensureAscii fields) ++ ['}'])

def dumpItems (ensureAscii : Bool) : List JsonText → List (List Char)
  | [] => []
  | item :: items => dumps ensureAscii item :: dumpItems ensureAscii items

def dumpFields (ensureAscii : Bool) : List (String × JsonText) → List (List Char)
  | [] => []
  | (name, value) :: fields =>
    (quoteJson ensureAscii name ++ ':' :: ' ' :: dumps ensureAscii value) :: dumpFields ensureAscii fields

end

def isJsonSpace (c : Char) : Bool := c = ' ' || c = '\t' || c = '\n' || c = '\r'

def hexUnit (a b c d : Char) : Option ℕ := do
  let a ← hexValue a
  let b ← hexValue b
  let c ← hexValue c
  let d ← hexValue d
  return a * 0x1000 + b * 0x100 + c * 0x10 + d

/-- What a letter after a backslash stands for. -/
def readEscape (letter : Char) : Option Char :=
  if letter = '/' then some '/' else (shortEscapes.find? fun escape => escape.2 = letter).map Prod.fst

/-- The character a string goes on with; half of a surrogate pair is no character. -/
def nextChar : List Char → Option (Char × List Char)
  | '\\' :: 'u' :: a :: b :: c :: d :: rest => do
    let unit ← hexUnit a b c d
    if unit < 0xD800 ∨ 0xDFFF < unit then return (Char.ofNat unit, rest)
    match rest with
    | '\\' :: 'u' :: a :: b :: c :: d :: rest => do
      let low ← hexUnit a b c d
      if unit < 0xDC00 ∧ 0xDC00 ≤ low ∧ low ≤ 0xDFFF then
        return (Char.ofNat (0x10000 + (unit - 0xD800) * 0x400 + (low - 0xDC00)), rest)
      none
    | _ => none
  | '\\' :: letter :: rest => (readEscape letter).map fun c => (c, rest)
  | c :: rest => if c.toNat < 0x20 ∨ c = '"' ∨ c = '\\' then none else some (c, rest)
  | [] => none

/-- The rest of a string after its opening quote. -/
def parseString : ℕ → List Char → Option (List Char × List Char)
  | 0, _ => none
  | fuel + 1, text =>
    if text.head? = some '"' then some ([], text.tail)
    else do
      let (c, rest) ← nextChar text
      let (chars, rest) ← parseString fuel rest
      return (c :: chars, rest)

/-- Digits without a leading zero. -/
def parseNat (text : List Char) : Option (ℕ × List Char) :=
  let digits := text.takeWhile Char.isDigit
  if digits = [] ∨ digits.head? = some '0' ∧ digits ≠ ['0'] then none
  else some (Nat.ofDigitChars 10 digits 0, text.dropWhile Char.isDigit)

section Sequences

variable {α : Type} (element : List Char → Option (α × List Char)) (close : Char)

/-- The elements after the first one, each behind its comma. -/
def parseMore : ℕ → List Char → Option (List α × List Char)
  | 0, _ => none
  | fuel + 1, text =>
    match text.dropWhile isJsonSpace with
    | [] => none
    | c :: rest =>
      if c = close then some ([], rest)
      else if c = ',' then do
        let (first, rest) ← element rest
        let (others, rest) ← parseMore fuel rest
        return (first :: others, rest)
      else none

/-- The elements up to the closing bracket. -/
def parseSequence (fuel : ℕ) (text : List Char) : Option (List α × List Char) :=
  match text.dropWhile isJsonSpace with
  | [] => none
  | c :: rest =>
    if c = close then some ([], rest)
    else do
      let (first, rest) ← element (c :: rest)
      let (others, rest) ← parseMore element close fuel rest
      return (first :: others, rest)

/-- A name and its value. -/
def parseMember (fuel : ℕ) (text : List Char) : Option ((String × α) × List Char) :=
  match text.dropWhile isJsonSpace with
  | '"' :: rest => do
    let (name, rest) ← parseString fuel rest
    match rest.dropWhile isJsonSpace with
    | ':' :: rest => do
      let (value, rest) ← element rest
      return ((String.ofList name, value), rest)
    | _ => none
  | _ => none

end Sequences

def parseValue : ℕ → List Char → Option (JsonText × List Char)
  | 0, _ => none
  | fuel + 1, text =>
    match text.dropWhile isJsonSpace with
    | 'n' :: 'u' :: 'l' :: 'l' :: rest => some (.null, rest)
    | 't' :: 'r' :: 'u' :: 'e' :: rest => some (.bool true, rest)
    | 'f' :: 'a' :: 'l' :: 's' :: 'e' :: rest => some (.bool false, rest)
    | '"' :: rest => (parseString fuel rest).map fun (chars, rest) => (.str (String.ofList chars), rest)
    | '[' :: rest => (parseSequence (parseValue fuel) ']' fuel rest).map fun (items, rest) => (.arr items, rest)
    | '{' :: rest => (parseSequence (parseMember (parseValue fuel) fuel) '}' fuel rest).map fun (fields, rest) =>
        (.obj fields, rest)
    | '-' :: rest => (parseNat rest).map fun (value, rest) => (.int (-value), rest)
    | rest => (parseNat rest).map fun (value, rest) => (.int value, rest)

/-- The document a text consists of. -/
def loads (text : List Char) : Option JsonText := do
  let (value, rest) ← parseValue (text.length + 1) text
  if rest.all isJsonSpace then some value else none

section Characters

variable {ensureAscii : Bool} {c : Char} {rest : List Char}

theorem hexValue_digitChar : ∀ n < 16, hexValue (Nat.digitChar n) = some n := by decide

theorem hexUnit_digits (unit : ℕ) (bound : unit < 0x10000) :
    hexUnit (Nat.digitChar (unit / 0x1000)) (Nat.digitChar (unit / 0x100 % 0x10))
      (Nat.digitChar (unit / 0x10 % 0x10)) (Nat.digitChar (unit % 0x10)) = some unit := by
  have first := hexValue_digitChar (unit / 0x1000) (by omega)
  have second := hexValue_digitChar (unit / 0x100 % 0x10) (by omega)
  have third := hexValue_digitChar (unit / 0x10 % 0x10) (by omega)
  have fourth := hexValue_digitChar (unit % 0x10) (by omega)
  have sum : unit / 0x1000 * 0x1000 + unit / 0x100 % 0x10 * 0x100 + unit / 0x10 % 0x10 * 0x10 + unit % 0x10 =
      unit := by omega
  simp [hexUnit, first, second, third, fourth, sum]

/-- A character of the basic plane is read back from its code unit. -/
theorem nextChar_hexEscape (basic : c.toNat < 0x10000) : nextChar (hexEscape c.toNat ++ rest) = some (c, rest) := by
  have scalar : c.toNat < 0xD800 ∨ 0xDFFF < c.toNat := by
    obtain low | ⟨high, _⟩ := c.valid
    · exact .inl low
    · exact .inr high
  simp [hexEscape, nextChar, hexUnit_digits _ basic, scalar]

theorem nextChar_pair {high low : ℕ} (first : 0xD800 ≤ high ∧ high < 0xDC00) (second : 0xDC00 ≤ low ∧ low ≤ 0xDFFF) :
    nextChar (hexEscape high ++ (hexEscape low ++ rest)) =
      some (Char.ofNat (0x10000 + (high - 0xD800) * 0x400 + (low - 0xDC00)), rest) := by
  have high_read := hexUnit_digits high (by omega)
  have low_read := hexUnit_digits low (by omega)
  have surrogate : ¬(high < 0xD800 ∨ 0xDFFF < high) := by omega
  simp [hexEscape, nextChar, high_read, low_read, surrogate, first.2, second]

/-- Any other character is read back from its surrogate pair. -/
theorem nextChar_surrogates (beyond : 0x10000 ≤ c.toNat) :
    nextChar (hexEscape (0xD800 + (c.toNat - 0x10000) / 0x400) ++
      (hexEscape (0xDC00 + (c.toNat - 0x10000) % 0x400) ++ rest)) = some (c, rest) := by
  have bound : c.toNat < 0x110000 := by
    obtain low | ⟨_, high⟩ := c.valid
    · exact Nat.lt_trans low (by decide)
    · exact high
  rw [nextChar_pair (by omega) (by omega)]
  have whole : 0x10000 + (0xD800 + (c.toNat - 0x10000) / 0x400 - 0xD800) * 0x400 +
      (0xDC00 + (c.toNat - 0x10000) % 0x400 - 0xDC00) = c.toNat := by omega
  rw [whole, Char.ofNat_toNat]

/-- The escapes of one letter can be told apart from each other and from the code units. -/
theorem readEscape_shortEscapes {letter : Char} (known : (c, letter) ∈ shortEscapes) :
    letter ≠ 'u' ∧ readEscape letter = some c := by
  have all : (shortEscapes.all fun escape => escape.2 ≠ 'u' && readEscape escape.2 == some escape.1) = true := by
    decide
  simpa using List.all_eq_true.mp all _ known

theorem mem_of_lookup {letter : Char} (found : shortEscapes.lookup c = some letter) : (c, letter) ∈ shortEscapes := by
  obtain ⟨front, back, same, _⟩ := List.lookup_eq_some_iff.mp found
  rw [same]
  simp

/-- Every character is read back from its escape. -/
theorem nextChar_escapeChar : nextChar (escapeChar ensureAscii c ++ rest) = some (c, rest) := by
  unfold escapeChar
  split
  · next letter found =>
    obtain ⟨not_unit, read⟩ := readEscape_shortEscapes (mem_of_lookup found)
    rw [List.cons_append, List.singleton_append, nextChar, read]
    · rfl
    · exact fun _ _ _ _ _ unit => absurd unit not_unit
  · next absent =>
    split
    · exact nextChar_hexEscape (by omega)
    · next visible =>
      split
      · have not_quote : c ≠ '"' := by
          rintro rfl
          exact absurd absent (by decide)
        have not_escape : c ≠ '\\' := by
          rintro rfl
          exact absurd absent (by decide)
        rw [List.singleton_append, nextChar, if_neg (by simp [visible, not_quote, not_escape])]
        · exact fun _ _ _ _ _ escape => absurd escape not_escape
        · exact fun _ _ escape => absurd escape not_escape
      · split
        · next basic => exact nextChar_hexEscape basic
        · next beyond =>
          rw [List.append_assoc]
          exact nextChar_surrogates (by omega)

/-- The first character of an escape does not close the string. -/
theorem head?_escapeChar : (escapeChar ensureAscii c ++ rest).head? ≠ some '"' := by
  unfold escapeChar
  split
  · simp
  · next absent =>
    split
    · simp [hexEscape]
    · split
      · intro same
        obtain rfl : c = '"' := by simpa using same
        exact absurd absent (by decide)
      · split <;> simp [hexEscape]

theorem toNat_digitChar : ∀ n < 16, 0x20 ≤ (Nat.digitChar n).toNat := by decide

theorem printable_hexEscape {unit : ℕ} (bound : unit < 0x10000) {letter : Char}
    (member : letter ∈ hexEscape unit) : 0x20 ≤ letter.toNat := by
  have digit := toNat_digitChar
  obtain rfl | rfl | rfl | rfl | rfl | rfl : letter = '\\' ∨ letter = 'u' ∨ letter = _ ∨ letter = _ ∨ letter = _ ∨
    letter = _ := by simpa [hexEscape] using member
  · decide
  · decide
  · exact digit _ (by omega)
  · exact digit _ (by omega)
  · exact digit _ (by omega)
  · exact digit _ (by omega)

/-- No escape has a control character. -/
theorem printable_escapeChar {letter : Char} (member : letter ∈ escapeChar ensureAscii c) : 0x20 ≤ letter.toNat := by
  unfold escapeChar at member
  split at member
  · next short found =>
    have all : (shortEscapes.all fun escape => 0x20 ≤ escape.2.toNat) = true := by decide
    obtain rfl | rfl : letter = '\\' ∨ letter = short := by simpa using member
    · decide
    · simpa using List.all_eq_true.mp all _ (mem_of_lookup found)
  · split at member
    · exact printable_hexEscape (by omega) member
    · next visible =>
      split at member
      · obtain rfl := List.mem_singleton.mp member
        omega
      · split at member
        · next basic => exact printable_hexEscape basic member
        · have bound : c.toNat < 0x110000 := by
            obtain low | ⟨_, high⟩ := c.valid
            · exact Nat.lt_trans low (by decide)
            · exact high
          obtain member | member := List.mem_append.mp member
          · exact printable_hexEscape (by omega) member
          · exact printable_hexEscape (by omega) member

end Characters

section Scalars

variable {ensureAscii : Bool} {rest : List Char}

theorem parseString_escaped (chars : List Char) {fuel : ℕ} (enough : chars.length < fuel) :
    parseString fuel (chars.flatMap (escapeChar ensureAscii) ++ '"' :: rest) = some (chars, rest) := by
  induction chars generalizing fuel with
  | nil =>
    obtain ⟨fuel, rfl⟩ : ∃ less, fuel = less + 1 := ⟨fuel - 1, by omega⟩
    rfl
  | cons c chars ih =>
    rw [List.length_cons] at enough
    obtain ⟨fuel, rfl⟩ : ∃ less, fuel = less + 1 := ⟨fuel - 1, by omega⟩
    rw [List.flatMap_cons, List.append_assoc, parseString, if_neg head?_escapeChar, nextChar_escapeChar]
    simp [@ih fuel (by omega)]

theorem length_escapeChar_pos (c : Char) : 0 < (escapeChar ensureAscii c).length := by
  unfold escapeChar
  split
  · simp
  · repeat' split
    all_goals simp [hexEscape]

theorem length_le_quoteJson (text : String) : text.toList.length < (quoteJson ensureAscii text).length := by
  have grown (chars : List Char) : chars.length ≤ (chars.flatMap (escapeChar ensureAscii)).length := by
    induction chars with
    | nil => simp
    | cons c chars ih =>
      have positive := @length_escapeChar_pos ensureAscii c
      rw [List.flatMap_cons, List.length_append, List.length_cons]
      omega
  have inside := grown text.toList
  simp only [quoteJson, List.length_cons, List.length_append]
  omega

/-- The text does not go on with a digit. -/
def EndsNumber (rest : List Char) : Prop := ∀ c ∈ rest.head?, c.isDigit = false

/-- A number that is not 0 is written without a leading zero. -/
theorem toDigits_leads (value : ℕ) (positive : 0 < value) : (Nat.toDigits 10 value).head? ≠ some '0' := by
  induction value using Nat.strongRecOn with
  | ind value ih =>
    by_cases small : value < 10
    · have digits : ∀ digit < 10, 0 < digit → [Nat.digitChar digit].head? ≠ some '0' := by decide
      rw [Nat.toDigits_of_lt_base small]
      exact digits value small positive
    · rw [Nat.toDigits_of_base_le (by omega) (by omega), List.head?_append_of_ne_nil _ Nat.toDigits_ne_nil]
      exact ih (value / 10) (by omega) (by omega)

theorem parseNat_toDigits (value : ℕ) (ends : EndsNumber rest) :
    parseNat (Nat.toDigits 10 value ++ rest) = some (value, rest) := by
  have digits : ∀ c ∈ Nat.toDigits 10 value, c.isDigit = true := fun c member =>
    Nat.isDigit_of_mem_toDigits (by omega) (by omega) member
  have stops : rest.takeWhile Char.isDigit = [] ∧ rest.dropWhile Char.isDigit = rest := by
    cases rest with
    | nil => exact ⟨rfl, rfl⟩
    | cons c rest => simp [ends c rfl]
  have leads : ¬ ((Nat.toDigits 10 value).head? = some '0' ∧ Nat.toDigits 10 value ≠ ['0']) := by
    rintro ⟨zero, other⟩
    obtain rfl | positive := Nat.eq_zero_or_pos value
    · exact other (Nat.toDigits_zero 10)
    · exact toDigits_leads value positive zero
  rw [parseNat, List.takeWhile_append_of_pos digits, List.dropWhile_append_of_pos digits, stops.1, stops.2]
  simp only [List.append_nil, Nat.toDigits_ne_nil, leads, or_self, if_false, Nat.ofDigitChars_ten_toDigits]

end Scalars

section Sequences

variable {α : Type} {element : List Char → Option (α × List Char)} {close : Char} {rest : List Char}

/-- A written element that its reader takes back, before anything that ends a number, and that starts with neither
white space nor the closing bracket. -/
structure ReadsBack (element : List Char → Option (α × List Char)) (close : Char) (part : List Char) (value : α) :
    Prop where
  reads : ∀ rest, EndsNumber rest → element (part ++ rest) = some (value, rest)
  starts : ∃ c tail, part = c :: tail ∧ isJsonSpace c = false ∧ c ≠ close

/-- What the parts after the first look like. -/
def moreParts (parts : List (List Char)) (close : Char) : List Char :=
  parts.flatMap (fun part => ',' :: ' ' :: part) ++ [close]

theorem intercalate_eq (part : List Char) (parts : List (List Char)) :
    [',', ' '].intercalate (part :: parts) ++ [close] = part ++ moreParts parts close := by
  induction parts generalizing part with
  | nil => simp [moreParts]
  | cons next parts ih =>
    rw [List.intercalate_cons_cons, List.append_assoc, ih]
    simp [moreParts]

theorem endsNumber_moreParts (parts : List (List Char)) (bracket : close.isDigit = false) :
    EndsNumber (moreParts parts close ++ rest) := by
  intro c member
  cases parts with
  | nil =>
    obtain rfl : close = c := by simpa [moreParts] using member
    exact bracket
  | cons part parts =>
    obtain rfl : ',' = c := by simpa [moreParts] using member
    rfl

section Brackets

variable (skips : ∀ text, element (' ' :: text) = element text) (bracket : close = ']' ∨ close = '}')
include skips bracket

theorem parseMore_moreParts {parts : List (List Char)} {values : List α}
    (read : List.Forall₂ (ReadsBack element close) parts values) {fuel : ℕ} (enough : parts.length < fuel) :
    parseMore element close fuel (moreParts parts close ++ rest) = some (values, rest) := by
  have solid : isJsonSpace close = false := by
    obtain rfl | rfl := bracket <;> rfl
  have no_comma : ',' ≠ close := by
    obtain rfl | rfl := bracket <;> decide
  have no_digit : close.isDigit = false := by
    obtain rfl | rfl := bracket <;> rfl
  have comma : isJsonSpace ',' = false := rfl
  induction read generalizing fuel with
  | nil =>
    obtain ⟨fuel, rfl⟩ : ∃ less, fuel = less + 1 := ⟨fuel - 1, by omega⟩
    simp [moreParts, parseMore, solid]
  | @cons part value parts values first others ih =>
    rw [List.length_cons] at enough
    obtain ⟨fuel, rfl⟩ : ∃ less, fuel = less + 1 := ⟨fuel - 1, by omega⟩
    have text : moreParts (part :: parts) close ++ rest = ',' :: ' ' :: (part ++ (moreParts parts close ++ rest)) := by
      simp [moreParts]
    rw [text, parseMore]
    simp only [List.dropWhile_cons, comma, Bool.false_eq_true, if_false, no_comma, if_true, skips]
    rw [first.reads _ (endsNumber_moreParts parts no_digit)]
    simp [@ih fuel (by omega)]

/-- A sequence of parts is read back up to its bracket. -/
theorem parseSequence_parts {parts : List (List Char)} {values : List α}
    (read : List.Forall₂ (ReadsBack element close) parts values) {fuel : ℕ} (enough : parts.length < fuel) :
    parseSequence element close fuel ([',', ' '].intercalate parts ++ close :: rest) = some (values, rest) := by
  have solid : isJsonSpace close = false := by
    obtain rfl | rfl := bracket <;> rfl
  have no_digit : close.isDigit = false := by
    obtain rfl | rfl := bracket <;> rfl
  cases read with
  | nil => simp [parseSequence, solid]
  | @cons part value parts values first others =>
    rw [List.length_cons] at enough
    have text : [',', ' '].intercalate (part :: parts) ++ close :: rest = part ++ (moreParts parts close ++ rest) := by
      rw [← List.append_assoc, ← intercalate_eq, List.append_assoc, List.singleton_append]
    have read := first.reads _ (@endsNumber_moreParts close rest parts no_digit)
    obtain ⟨c, tail, same, opens, differs⟩ := first.starts
    rw [text, parseSequence]
    rw [same, List.cons_append] at read ⊢
    simp only [List.dropWhile_cons, opens, Bool.false_eq_true, if_false, differs, read]
    simp [@parseMore_moreParts _ _ _ rest skips bracket _ _ others fuel (by omega)]

end Brackets

end Sequences

section Documents

variable {ensureAscii : Bool} {rest : List Char} {value : JsonText}

mutual

/-- A property of documents holds of all if it passes from the parts to the whole. -/
theorem JsonText.induct {p : JsonText → Prop} (null : p .null) (bool : ∀ value, p (.bool value))
    (int : ∀ value, p (.int value)) (str : ∀ text, p (.str text))
    (arr : ∀ items, (∀ item ∈ items, p item) → p (.arr items))
    (obj : ∀ fields, (∀ field ∈ fields, p field.2) → p (.obj fields)) : ∀ value, p value
  | .null => null
  | .bool value => bool value
  | .int value => int value
  | .str text => str text
  | .arr items => arr items (JsonText.induct_items null bool int str arr obj items)
  | .obj fields => obj fields (JsonText.induct_fields null bool int str arr obj fields)

theorem JsonText.induct_items {p : JsonText → Prop} (null : p .null) (bool : ∀ value, p (.bool value))
    (int : ∀ value, p (.int value)) (str : ∀ text, p (.str text))
    (arr : ∀ items, (∀ item ∈ items, p item) → p (.arr items))
    (obj : ∀ fields, (∀ field ∈ fields, p field.2) → p (.obj fields)) :
    ∀ items : List JsonText, ∀ item ∈ items, p item
  | [] => List.forall_mem_nil _
  | item :: items => List.forall_mem_cons.mpr
      ⟨JsonText.induct null bool int str arr obj item, JsonText.induct_items null bool int str arr obj items⟩

theorem JsonText.induct_fields {p : JsonText → Prop} (null : p .null) (bool : ∀ value, p (.bool value))
    (int : ∀ value, p (.int value)) (str : ∀ text, p (.str text))
    (arr : ∀ items, (∀ item ∈ items, p item) → p (.arr items))
    (obj : ∀ fields, (∀ field ∈ fields, p field.2) → p (.obj fields)) :
    ∀ fields : List (String × JsonText), ∀ field ∈ fields, p field.2
  | [] => List.forall_mem_nil _
  | (_, value) :: fields => List.forall_mem_cons.mpr
      ⟨JsonText.induct null bool int str arr obj value, JsonText.induct_fields null bool int str arr obj fields⟩

end

theorem dumpItems_eq (items : List JsonText) : dumpItems ensureAscii items = items.map (dumps ensureAscii) := by
  induction items with
  | nil => rfl
  | cons item items ih => rw [dumpItems, ih, List.map_cons]

/-- A field of an object as it is written. -/
def fieldPart (ensureAscii : Bool) (field : String × JsonText) : List Char :=
  quoteJson ensureAscii field.1 ++ ':' :: ' ' :: dumps ensureAscii field.2

theorem dumpFields_eq (fields : List (String × JsonText)) :
    dumpFields ensureAscii fields = fields.map (fieldPart ensureAscii) := by
  induction fields with
  | nil => rfl
  | cons field fields ih =>
    rw [dumpFields, ih, List.map_cons]
    rfl

theorem length_le_intercalate {parts : List (List Char)} {part : List Char} (member : part ∈ parts) :
    part.length ≤ ([',', ' '].intercalate parts).length := by
  induction parts with
  | nil => cases member
  | cons first parts ih =>
    cases parts with
    | nil =>
      obtain rfl := List.mem_singleton.mp member
      simp
    | cons next parts =>
      rw [List.intercalate_cons_cons, List.length_append, List.length_append]
      obtain rfl | member := List.mem_cons.mp member
      · omega
      · have inside := ih member
        omega

theorem count_le_intercalate {parts : List (List Char)} (filled : ∀ part ∈ parts, part ≠ []) :
    parts.length ≤ ([',', ' '].intercalate parts).length := by
  induction parts with
  | nil => exact Nat.zero_le _
  | cons first parts ih =>
    obtain ⟨here, filled⟩ := List.forall_mem_cons.mp filled
    have positive := List.length_pos_iff.mpr here
    have inside := ih filled
    cases parts with
    | nil =>
      rw [List.intercalate_singleton]
      exact positive
    | cons next parts =>
      rw [List.intercalate_cons_cons, List.length_append, List.length_append, List.length_cons]
      omega

theorem toDigits_head (value : ℕ) : ∃ c tail, Nat.toDigits 10 value = c :: tail ∧ c.isDigit = true := by
  obtain ⟨c, tail, same⟩ := List.exists_cons_of_ne_nil (Nat.toDigits_ne_nil (n := value) (b := 10))
  have member : c ∈ Nat.toDigits 10 value := by simp [same]
  exact ⟨c, tail, same, Nat.isDigit_of_mem_toDigits (by omega) (by omega) member⟩

theorem ne_of_isDigit {c : Char} (other : Char) (plain : other.isDigit = false) (digit : c.isDigit = true) :
    c ≠ other := by
  rintro rfl
  rw [plain] at digit
  cases digit

theorem isJsonSpace_of_isDigit {c : Char} (digit : c.isDigit = true) : isJsonSpace c = false := by
  simp [isJsonSpace, ne_of_isDigit ' ' rfl digit, ne_of_isDigit '\t' rfl digit, ne_of_isDigit '\n' rfl digit,
    ne_of_isDigit '\r' rfl digit]

/-- The first character of a document is no white space and no closing bracket. -/
theorem dumps_head (value : JsonText) : ∃ c tail, dumps ensureAscii value = c :: tail ∧ isJsonSpace c = false ∧
    c ≠ ']' ∧ c ≠ '}' := by
  cases value with
  | null => exact ⟨'n', _, rfl, by decide⟩
  | bool value =>
    cases value with
    | true => exact ⟨'t', _, rfl, by decide⟩
    | false => exact ⟨'f', _, rfl, by decide⟩
  | int value =>
    obtain ⟨c, tail, same, digit⟩ := toDigits_head value.natAbs
    by_cases negative : value < 0
    · exact ⟨'-', Nat.toDigits 10 value.natAbs, by simp [dumps, dumpInt, negative], by decide⟩
    · exact ⟨c, tail, by simp [dumps, dumpInt, negative, same], isJsonSpace_of_isDigit digit, ne_of_isDigit _ rfl digit,
        ne_of_isDigit _ rfl digit⟩
  | str text => exact ⟨'"', _, rfl, by decide⟩
  | arr items => exact ⟨'[', _, rfl, by decide⟩
  | obj fields => exact ⟨'{', _, rfl, by decide⟩

theorem dumps_ne_nil (value : JsonText) : dumps ensureAscii value ≠ [] := by
  obtain ⟨c, tail, same, _⟩ := @dumps_head ensureAscii value
  simp [same]

theorem parseValue_skips (fuel : ℕ) (text : List Char) : parseValue fuel (' ' :: text) = parseValue fuel text := by
  cases fuel with
  | zero => rfl
  | succ fuel => rw [parseValue, parseValue, List.dropWhile_cons_of_pos rfl]

theorem parseValue_digits {c : Char} {tail : List Char} (digit : c.isDigit = true) (fuel : ℕ) :
    parseValue (fuel + 1) (c :: tail) = (parseNat (c :: tail)).map fun (value, rest) => (.int value, rest) := by
  have solid := isJsonSpace_of_isDigit digit
  rw [parseValue, List.dropWhile_cons_of_neg (by simp [solid])]
  -- no keyword, no quote, no bracket and no sign is a digit
  split
  all_goals first | rfl | simp_all

theorem parseValue_dumpInt {fuel : ℕ} {value : ℤ} (ends : EndsNumber rest) :
    parseValue (fuel + 1) (dumpInt value ++ rest) = some (.int value, rest) := by
  have read := parseNat_toDigits value.natAbs ends
  unfold dumpInt
  split
  · have same : -(value.natAbs : ℤ) = value := by omega
    generalize value.natAbs = size at read same ⊢
    rw [List.cons_append, parseValue, List.dropWhile_cons_of_neg (by decide)]
    simp [read, same]
  · have same : (value.natAbs : ℤ) = value := by omega
    obtain ⟨c, tail, digits, digit⟩ := toDigits_head value.natAbs
    rw [digits, List.cons_append] at read ⊢
    rw [parseValue_digits digit, read]
    simp [same]

theorem parseMember_skips (fuel : ℕ) (text : List Char) :
    parseMember (parseValue fuel) fuel (' ' :: text) = parseMember (parseValue fuel) fuel text := by
  rw [parseMember, parseMember, List.dropWhile_cons_of_pos rfl]

theorem fieldPart_readsBack {field : String × JsonText} {fuel : ℕ}
    (enough : (fieldPart ensureAscii field).length < fuel)
    (reads : ∀ {fuel : ℕ} {rest : List Char}, (dumps ensureAscii field.2).length < fuel → EndsNumber rest →
      parseValue fuel (dumps ensureAscii field.2 ++ rest) = some (field.2, rest)) :
    ReadsBack (parseMember (parseValue fuel) fuel) '}' (fieldPart ensureAscii field) field := by
  refine ⟨fun rest ends => ?_, '"', _, rfl, rfl, by decide⟩
  have longer := @length_le_quoteJson ensureAscii field.1
  rw [fieldPart, List.length_append, List.length_cons, List.length_cons] at enough
  have name := @parseString_escaped ensureAscii (':' :: ' ' :: (dumps ensureAscii field.2 ++ rest)) field.1.toList fuel
    (by omega)
  have value := @reads fuel rest (by omega) ends
  have written : fieldPart ensureAscii field ++ rest = '"' :: (field.1.toList.flatMap (escapeChar ensureAscii) ++
      '"' :: ':' :: ' ' :: (dumps ensureAscii field.2 ++ rest)) := by
    simp [fieldPart, quoteJson]
  rw [written, parseMember]
  simp [isJsonSpace, name, parseValue_skips, value]

/-- A document is read back from the front of a text. -/
theorem parseValue_dumps (value : JsonText) : ∀ {fuel : ℕ} {rest : List Char},
    (dumps ensureAscii value).length < fuel → EndsNumber rest →
      parseValue fuel (dumps ensureAscii value ++ rest) = some (value, rest) := by
  induction value using JsonText.induct with
  | null =>
    intro fuel rest enough ends
    obtain ⟨fuel, rfl⟩ : ∃ less, fuel = less + 1 := ⟨fuel - 1, by omega⟩
    rfl
  | bool value =>
    intro fuel rest enough ends
    obtain ⟨fuel, rfl⟩ : ∃ less, fuel = less + 1 := ⟨fuel - 1, by omega⟩
    cases value <;> rfl
  | int value =>
    intro fuel rest enough ends
    obtain ⟨fuel, rfl⟩ : ∃ less, fuel = less + 1 := ⟨fuel - 1, by omega⟩
    exact parseValue_dumpInt ends
  | str text =>
    intro fuel rest enough ends
    obtain ⟨fuel, rfl⟩ : ∃ less, fuel = less + 1 := ⟨fuel - 1, by omega⟩
    have longer := @length_le_quoteJson ensureAscii text
    have read := @parseString_escaped ensureAscii rest text.toList fuel (by rw [dumps] at enough; omega)
    have written : dumps ensureAscii (.str text) ++ rest =
        '"' :: (text.toList.flatMap (escapeChar ensureAscii) ++ '"' :: rest) := by
      simp [dumps, quoteJson]
    rw [written, parseValue]
    simp [isJsonSpace, read]
  | arr items ih =>
    intro fuel rest enough ends
    obtain ⟨fuel, rfl⟩ : ∃ less, fuel = less + 1 := ⟨fuel - 1, by omega⟩
    have written : dumps ensureAscii (.arr items) ++ rest =
        '[' :: ([',', ' '].intercalate (items.map (dumps ensureAscii)) ++ ']' :: rest) := by
      simp [dumps, dumpItems_eq]
    have inside : ([',', ' '].intercalate (items.map (dumps ensureAscii))).length < fuel := by
      rw [dumps, dumpItems_eq, List.length_cons, List.length_append] at enough
      omega
    have read : List.Forall₂ (ReadsBack (parseValue fuel) ']') (items.map (dumps ensureAscii)) items := by
      rw [List.forall₂_map_left_iff, List.forall₂_same]
      intro item member
      have shorter := length_le_intercalate (List.mem_map_of_mem (f := dumps ensureAscii) member)
      obtain ⟨c, tail, same, solid, not_bracket, _⟩ := @dumps_head ensureAscii item
      exact ⟨fun rest ends => ih item member (by omega) ends, c, tail, same, solid, not_bracket⟩
    have filled : items.length < fuel := by
      have counted := @count_le_intercalate (items.map (dumps ensureAscii)) fun part member => by
        obtain ⟨item, _, rfl⟩ := List.mem_map.mp member
        exact dumps_ne_nil item
      rw [List.length_map] at counted
      omega
    rw [written, parseValue]
    have list := @parseSequence_parts _ _ _ rest (parseValue_skips fuel) (.inl rfl) _ _ read fuel
      (by simpa using filled)
    simp [isJsonSpace, list]
  | obj fields ih =>
    intro fuel rest enough ends
    obtain ⟨fuel, rfl⟩ : ∃ less, fuel = less + 1 := ⟨fuel - 1, by omega⟩
    have written : dumps ensureAscii (.obj fields) ++ rest =
        '{' :: ([',', ' '].intercalate (fields.map (fieldPart ensureAscii)) ++ '}' :: rest) := by
      simp [dumps, dumpFields_eq]
    have inside : ([',', ' '].intercalate (fields.map (fieldPart ensureAscii))).length < fuel := by
      rw [dumps, dumpFields_eq, List.length_cons, List.length_append] at enough
      omega
    have read : List.Forall₂ (ReadsBack (parseMember (parseValue fuel) fuel) '}') (fields.map (fieldPart ensureAscii))
        fields := by
      rw [List.forall₂_map_left_iff, List.forall₂_same]
      intro field member
      have shorter := length_le_intercalate (List.mem_map_of_mem (f := fieldPart ensureAscii) member)
      exact fieldPart_readsBack (by omega) (ih field member)
    have filled : fields.length < fuel := by
      have counted := @count_le_intercalate (fields.map (fieldPart ensureAscii)) fun part member => by
        obtain ⟨field, _, rfl⟩ := List.mem_map.mp member
        simp [fieldPart, quoteJson]
      rw [List.length_map] at counted
      omega
    rw [written, parseValue]
    have list := @parseSequence_parts _ _ _ rest (parseMember_skips fuel) (.inr rfl) _ _ read fuel
      (by simpa using filled)
    simp [isJsonSpace, list]

/-- Every document is read back from its text. -/
theorem loads_dumps (value : JsonText) : loads (dumps ensureAscii value) = some value := by
  have read := @parseValue_dumps ensureAscii value ((dumps ensureAscii value).length + 1) [] (by omega)
    (by simp [EndsNumber])
  rw [List.append_nil] at read
  rw [loads, read]
  rfl

theorem printable_quoteJson {text : String} {c : Char} (member : c ∈ quoteJson ensureAscii text) : 0x20 ≤ c.toNat := by
  obtain rfl | member | rfl : c = '"' ∨ c ∈ text.toList.flatMap (escapeChar ensureAscii) ∨ c = '"' := by
    simpa [quoteJson] using member
  · decide
  · obtain ⟨escaped, _, member⟩ := List.mem_flatMap.mp member
    exact printable_escapeChar member
  · decide

theorem printable_dumpInt {value : ℤ} {c : Char} (member : c ∈ dumpInt value) : 0x20 ≤ c.toNat := by
  have digits (written : c ∈ Nat.toDigits 10 value.natAbs) : 0x20 ≤ c.toNat := by
    have digit := Nat.isDigit_of_mem_toDigits (by omega) (by omega) written
    have least : '0' ≤ c := by
      simp only [Char.isDigit, Bool.and_eq_true, decide_eq_true_eq] at digit
      exact digit.1
    exact Nat.le_trans (by decide) (show '0'.toNat ≤ c.toNat from least)
  unfold dumpInt at member
  split at member
  · obtain rfl | member := List.mem_cons.mp member
    · decide
    · exact digits member
  · exact digits member

theorem printable_intercalate {parts : List (List Char)} (printable : ∀ part ∈ parts, ∀ c ∈ part, 0x20 ≤ c.toNat)
    {c : Char} (member : c ∈ [',', ' '].intercalate parts) : 0x20 ≤ c.toNat := by
  obtain separator | ⟨part, listed, member⟩ := mem_of_mem_intercalate member
  · obtain rfl | rfl : c = ',' ∨ c = ' ' := by simpa using separator
    · decide
    · decide
  · exact printable part listed c member

/-- No text has a control character. -/
theorem printable_dumps (value : JsonText) : ∀ c ∈ dumps ensureAscii value, 0x20 ≤ c.toNat := by
  induction value using JsonText.induct with
  | null => simp [dumps]
  | bool value => cases value <;> simp [dumps]
  | int value => exact fun c member => printable_dumpInt member
  | str text => exact fun c member => printable_quoteJson member
  | arr items ih =>
    intro c member
    rw [dumps, dumpItems_eq] at member
    obtain rfl | member | rfl : c = '[' ∨ c ∈ [',', ' '].intercalate (items.map (dumps ensureAscii)) ∨ c = ']' := by
      simpa using member
    · decide
    · apply printable_intercalate _ member
      rintro _ listed
      obtain ⟨item, within, rfl⟩ := List.mem_map.mp listed
      exact ih item within
    · decide
  | obj fields ih =>
    intro c member
    rw [dumps, dumpFields_eq] at member
    obtain rfl | member | rfl :
        c = '{' ∨ c ∈ [',', ' '].intercalate (fields.map (fieldPart ensureAscii)) ∨ c = '}' := by
      simpa using member
    · decide
    · apply printable_intercalate _ member
      rintro _ listed c member
      obtain ⟨field, within, rfl⟩ := List.mem_map.mp listed
      obtain name | rfl | rfl | value : c ∈ quoteJson ensureAscii field.1 ∨ c = ':' ∨ c = ' ' ∨
          c ∈ dumps ensureAscii field.2 := by simpa [fieldPart] using member
      · exact printable_quoteJson name
      · decide
      · decide
      · exact ih field within c value
    · decide

end Documents

end Encoding
