import AuthApi.Encoding.Text
import Mathlib.Data.Nat.Digits.Defs
import Mathlib.Data.List.Basic
import Mathlib.Tactic.IntervalCases
import Mathlib.Tactic.NormNum

/-! # UUIDs, their canonical text and Python's reader for them

Identifiers, token ids and OAuth states are UUIDs. `UUID.str` is `str(uuid)`, the text that goes
into Redis keys and cookies; `UUID.parse` is the constructor `uuid.UUID(text)`, which accepts many
spellings of one value. Pydantic's `UUID4` admits version 4 only, so it is a subtype.
-/

namespace AuthApi

open Encoding

/-- A UUID is its 128-bit value. -/
structure UUID where
  int : BitVec 128
deriving DecidableEq, Repr, Inhabited

namespace UUID

/-- `uuid.UUID.version`, which only the variant `uuid.RFC_4122` has. -/
def version (uuid : UUID) : Option ℕ :=
  if uuid.int.getLsbD 63 && !uuid.int.getLsbD 62 then some ((uuid.int >>> 76) &&& 0xf).toNat
  else none

/-- The `width` low hexadecimal digits of a number, most significant first. -/
def hexDigits : ℕ → ℕ → List Char
  | 0, _ => []
  | width + 1, n => hexDigits width (n / 16) ++ [Nat.digitChar (n % 16)]

/-- `uuid.UUID.hex`. -/
def hex (uuid : UUID) : List Char := hexDigits 32 uuid.int.toNat

/-- The groups of eight, four, four, four and twelve digits, joined by hyphens. -/
def hyphenate (digits : List Char) : List Char :=
  digits.take 8 ++ '-' :: (digits.drop 8).take 4 ++ '-' :: (digits.drop 12).take 4 ++
    '-' :: (digits.drop 16).take 4 ++ '-' :: digits.drop 20

/-- `str(uuid)`. -/
def str (uuid : UUID) : String := String.ofList (hyphenate uuid.hex)

/-- The zeros of the decimal digit ranges that `int()` reads besides ASCII. -/
def decimalZeros : List ℕ :=
  [0x660, 0x6F0, 0x7C0, 0x966, 0x9E6, 0xA66, 0xAE6, 0xB66, 0xBE6, 0xC66, 0xCE6, 0xD66, 0xDE6,
    0xE50, 0xED0, 0xF20, 0x1040, 0x1090, 0x17E0, 0x1810, 0x1946, 0x19D0, 0x1A80, 0x1A90, 0x1B50,
    0x1BB0, 0x1C40, 0x1C50, 0xA620, 0xA8D0, 0xA900, 0xA9D0, 0xA9F0, 0xAA50, 0xABF0, 0xFF10, 0x104A0,
    0x10D30, 0x11066, 0x110F0, 0x11136, 0x111D0, 0x112F0, 0x11450, 0x114D0, 0x11650, 0x116C0,
    0x11730, 0x118E0, 0x11950, 0x11C50, 0x11D50, 0x11DA0, 0x11F50, 0x16A60, 0x16AC0, 0x16B50,
    0x1D7CE, 0x1D7D8, 0x1D7E2, 0x1D7EC, 0x1D7F6, 0x1E140, 0x1E2F0, 0x1E4F0, 0x1E950, 0x1FBF0]

/-- `int()` first turns a blank or a decimal digit beyond ASCII into its ASCII form. -/
def toAscii (c : Char) : Char :=
  if c.toNat < 127 then c
  else if isSpace c then ' '
  else match decimalZeros.find? fun first => first ≤ c.toNat ∧ c.toNat < first + 10 with
    | some first => Nat.digitChar (c.toNat - first)
    | none => '?'

/-- The blanks of C, which `int()` skips at both ends. -/
def isAsciiSpace (c : Char) : Bool := c = ' ' || (9 ≤ c.toNat && c.toNat ≤ 13)

/-- The value of one character as a base-16 digit. -/
def digitValue (c : Char) : Option ℕ :=
  if 'a' ≤ c ∧ c ≤ 'f' then some (c.toNat - 'a'.toNat + 10)
  else if 'A' ≤ c ∧ c ≤ 'F' then some (c.toNat - 'A'.toNat + 10)
  else if '0' ≤ c ∧ c ≤ '9' then some (c.toNat - '0'.toNat)
  else none

/-- Digits with single underscores between them, accumulated in base 16. -/
def readDigits : ℕ → List Char → Option ℕ
  | value, [] => some value
  | value, '_' :: c :: rest => do readDigits (value * 16 + (← digitValue c)) rest
  | value, c :: rest => do readDigits (value * 16 + (← digitValue c)) rest

/-- Drop a base prefix, and the one underscore that may follow it. -/
def dropBase : List Char → List Char
  | '0' :: 'x' :: '_' :: rest => rest
  | '0' :: 'X' :: '_' :: rest => rest
  | '0' :: 'x' :: rest => rest
  | '0' :: 'X' :: rest => rest
  | unprefixed => unprefixed

/-- `int(text, 16)` for text without a minus sign. -/
def readInt (text : List Char) : Option ℕ :=
  let unsigned := match strip isAsciiSpace (text.map toAscii) with
    | '+' :: rest => rest
    | stripped => stripped
  match dropBase unsigned with
  | c :: rest => do readDigits (← digitValue c) rest
  | [] => none

/-- `uuid.UUID(text)`; `none` is its `ValueError`. -/
def parse (text : String) : Option UUID := do
  let bare := strip (fun c => c == '{' || c == '}')
    (erase "uuid:".toList (erase "urn:".toList text.toList))
  let digits := bare.filter (· ≠ '-')
  guard (digits.length = 32)
  let value ← readInt digits
  guard (value < 2 ^ 128)
  return ⟨BitVec.ofNat 128 value⟩

theorem digitChar_inj {m n : ℕ} (left : m < 16) (right : n < 16)
    (same : Nat.digitChar m = Nat.digitChar n) : m = n := by
  interval_cases m <;> interval_cases n <;> first | rfl | exact absurd same (by decide)

theorem digitChar_ne_hyphen {n : ℕ} (bound : n < 16) : Nat.digitChar n ≠ '-' := by
  interval_cases n <;> decide

@[simp] theorem hexDigits_length (width n : ℕ) : (hexDigits width n).length = width := by
  induction width generalizing n with
  | zero => rfl
  | succ width ih => simp [hexDigits, ih]

theorem hexDigits_inj {width m n : ℕ} (left : m < 16 ^ width) (right : n < 16 ^ width)
    (same : hexDigits width m = hexDigits width n) : m = n := by
  induction width generalizing m n with
  | zero => simp at left right; omega
  | succ width ih =>
    have parts := List.append_inj' same rfl
    have low := digitChar_inj (Nat.mod_lt m (by decide)) (Nat.mod_lt n (by decide))
      (List.singleton_inj.mp parts.2)
    have high := ih (m := m / 16) (n := n / 16) (by rw [pow_succ] at left; omega)
      (by rw [pow_succ] at right; omega) parts.1
    omega

theorem hyphen_not_mem_hexDigits (width n : ℕ) : '-' ∉ hexDigits width n := by
  induction width generalizing n with
  | zero => simp [hexDigits]
  | succ width ih =>
    simp only [hexDigits, List.mem_append, List.mem_singleton, not_or]
    exact ⟨ih _, fun same => digitChar_ne_hyphen (Nat.mod_lt n (by decide)) same.symm⟩

/-- Dropping the hyphens of the canonical text gives the digits back. -/
theorem filter_hyphenate {digits : List Char} (plain : '-' ∉ digits) :
    (hyphenate digits).filter (· ≠ '-') = digits := by
  have keep (part : List Char) (sub : part ⊆ digits) : part.filter (· ≠ '-') = part := by
    refine List.filter_eq_self.mpr fun c member => ?_
    simpa using fun same : c = '-' => plain (same ▸ sub member)
  have take (n k : ℕ) : ((digits.drop n).take k) ⊆ digits :=
    fun c member => List.mem_of_mem_drop (List.mem_of_mem_take member)
  have eight : digits.take 8 ⊆ digits := fun c member => List.mem_of_mem_take member
  have tail : digits.drop 20 ⊆ digits := fun c member => List.mem_of_mem_drop member
  simp only [hyphenate, List.filter_append, keep _ eight, List.append_assoc, List.cons_append,
    List.filter_cons, ne_eq, not_true_eq_false, decide_false, Bool.false_eq_true, ↓reduceIte,
    keep _ (take 8 4), keep _ (take 12 4), keep _ (take 16 4), keep _ tail]
  rw [← List.drop_drop (i := 4) (j := 16), List.take_append_drop,
    ← List.drop_drop (i := 4) (j := 12), List.take_append_drop,
    ← List.drop_drop (i := 4) (j := 8), List.take_append_drop, List.take_append_drop]

theorem hyphen_not_mem_hex (uuid : UUID) : '-' ∉ uuid.hex := hyphen_not_mem_hexDigits _ _

theorem hex_injective : Function.Injective hex := by
  intro first second same
  have bound (uuid : UUID) : uuid.int.toNat < 16 ^ 32 :=
    lt_of_lt_of_eq uuid.int.isLt (by norm_num)
  have values : first.int.toNat = second.int.toNat :=
    hexDigits_inj (bound first) (bound second) same
  cases first
  cases second
  exact congrArg UUID.mk (BitVec.eq_of_toNat_eq values)

theorem str_injective : Function.Injective str := by
  intro first second same
  have texts : hyphenate first.hex = hyphenate second.hex := String.ofList_injective same
  apply hex_injective
  rw [← filter_hyphenate first.hyphen_not_mem_hex, texts,
    filter_hyphenate second.hyphen_not_mem_hex]

theorem underscore_not_mem_hexDigits (width n : ℕ) : '_' ∉ hexDigits width n := by
  induction width generalizing n with
  | zero => simp [hexDigits]
  | succ width ih =>
    simp only [hexDigits, List.mem_append, List.mem_singleton, not_or]
    refine ⟨ih _, fun same => ?_⟩
    have bound := Nat.mod_lt n (show 16 > 0 by decide)
    generalize n % 16 = digit at bound same
    interval_cases digit <;> exact absurd same (by decide)

/-- The canonical text has digits and hyphens only. -/
theorem underscore_not_mem_str (uuid : UUID) : '_' ∉ uuid.str.toList := by
  have digits : '_' ∉ uuid.hex := underscore_not_mem_hexDigits _ _
  have part {chars : List Char} (sub : chars ⊆ uuid.hex) : '_' ∉ chars := fun member =>
    digits (sub member)
  have take (n k : ℕ) : '_' ∉ (uuid.hex.drop n).take k :=
    part fun c member => List.mem_of_mem_drop (List.mem_of_mem_take member)
  simp only [str, String.toList_ofList, hyphenate, List.mem_append, List.mem_cons, not_or]
  refine ⟨⟨⟨⟨part fun c member => List.mem_of_mem_take member, by decide, take 8 4⟩, by decide,
    take 12 4⟩, by decide, take 16 4⟩, by decide, part fun c member => List.mem_of_mem_drop member⟩

theorem mem_hexDigits {width n : ℕ} {c : Char} (member : c ∈ hexDigits width n) :
    ∃ digit, digit < 16 ∧ c = Nat.digitChar digit := by
  induction width generalizing n with
  | zero => cases member
  | succ width ih =>
    rcases List.mem_append.mp member with high | low
    · exact ih high
    · exact ⟨n % 16, Nat.mod_lt n (by decide), List.mem_singleton.mp low⟩

theorem digitValue_digitChar {digit : ℕ} (bound : digit < 16) :
    digitValue (Nat.digitChar digit) = some digit := by
  interval_cases digit <;> decide

theorem readDigits_digitChar {digit value : ℕ} (bound : digit < 16) (rest : List Char) :
    readDigits value (Nat.digitChar digit :: rest) = readDigits (value * 16 + digit) rest := by
  have plain : Nat.digitChar digit ≠ '_' := by interval_cases digit <;> decide
  rw [readDigits]
  · simp [digitValue_digitChar bound]
  · intro _ _ same
    exact absurd same plain

theorem readDigits_hexDigits {width value n : ℕ} (bound : n < 16 ^ width) (rest : List Char) :
    readDigits value (hexDigits width n ++ rest) = readDigits (value * 16 ^ width + n) rest := by
  induction width generalizing value n rest with
  | zero =>
    have zero : n = 0 := by simpa using bound
    simp [hexDigits, zero]
  | succ width ih =>
    rw [pow_succ] at bound
    rw [hexDigits, List.append_assoc, List.singleton_append, ih (by omega),
      readDigits_digitChar (Nat.mod_lt n (by decide)), pow_succ]
    congr 1
    rw [Nat.add_mul, Nat.mul_assoc]
    omega

theorem dropBase_cons {c : Char} {rest : List Char} (plain : ∀ d ∈ rest, d ≠ 'x' ∧ d ≠ 'X') :
    dropBase (c :: rest) = c :: rest := by
  unfold dropBase
  split
  · next based => cases based; exact absurd rfl (plain 'x' List.mem_cons_self).1
  · next based => cases based; exact absurd rfl (plain 'X' List.mem_cons_self).2
  · next based => cases based; exact absurd rfl (plain 'x' List.mem_cons_self).1
  · next based => cases based; exact absurd rfl (plain 'X' List.mem_cons_self).2
  · rfl

/-- ASCII text without blanks, a sign and a base prefix is read digit by digit. -/
theorem readInt_cons {c : Char} {rest : List Char}
    (plain : ∀ d ∈ c :: rest, toAscii d = d ∧ isAsciiSpace d = false ∧ d ≠ '+' ∧ d ≠ 'x' ∧ d ≠ 'X') :
    readInt (c :: rest) = (digitValue c).bind fun value => readDigits value rest := by
  have ascii : (c :: rest).map toAscii = c :: rest :=
    (List.map_congr_left fun d member => (plain d member).1).trans (List.map_id _)
  have unsigned : (match c :: rest with
      | '+' :: rest => rest
      | stripped => stripped) = c :: rest := by
    split
    · next signed =>
      cases signed
      exact absurd rfl (plain '+' List.mem_cons_self).2.2.1
    · rfl
  have unbased : ∀ d ∈ rest, d ≠ 'x' ∧ d ≠ 'X' := fun d member =>
    (plain d (List.mem_cons_of_mem _ member)).2.2.2
  unfold readInt
  rw [ascii, strip_of_forall fun d member => (plain d member).2.1]
  dsimp only
  rw [unsigned, dropBase_cons unbased]
  rfl

/-- `int(text, 16)` of 32 digits is the number they spell. -/
theorem readInt_hexDigits {n : ℕ} (bound : n < 16 ^ 32) : readInt (hexDigits 32 n) = some n := by
  have plain : ∀ c ∈ hexDigits 32 n,
      toAscii c = c ∧ isAsciiSpace c = false ∧ c ≠ '+' ∧ c ≠ 'x' ∧ c ≠ 'X' := by
    intro c member
    obtain ⟨digit, small, rfl⟩ := mem_hexDigits member
    interval_cases digit <;> decide
  have read : readDigits 0 (hexDigits 32 n) = some n := by
    have all : readDigits 0 (hexDigits 32 n ++ []) = readDigits (0 * 16 ^ 32 + n) [] :=
      readDigits_hexDigits bound []
    rwa [List.append_nil, Nat.zero_mul, Nat.zero_add, readDigits] at all
  obtain ⟨c, rest, shape⟩ := List.exists_cons_of_length_eq_add_one (hexDigits_length 32 n)
  rw [shape] at plain read ⊢
  rw [readInt_cons plain]
  obtain ⟨digit, small, rfl⟩ := mem_hexDigits (shape ▸ List.mem_cons_self : c ∈ hexDigits 32 n)
  rw [readDigits_digitChar small, Nat.zero_mul, Nat.zero_add] at read
  rw [digitValue_digitChar small, Option.bind_some, read]

/-- `uuid.UUID(str(uuid))` is the same UUID. -/
theorem parse_str (uuid : UUID) : parse uuid.str = some uuid := by
  have bound : uuid.int.toNat < 16 ^ 32 := lt_of_lt_of_eq uuid.int.isLt (by norm_num)
  have digits : uuid.str.toList.filter (· ≠ '-') = hexDigits 32 uuid.int.toNat := by
    rw [str, String.toList_ofList]
    exact filter_hyphenate uuid.hyphen_not_mem_hex
  have plain : ∀ c ∈ uuid.str.toList, c ≠ 'u' ∧ (c == '{' || c == '}') = false := by
    intro c member
    by_cases hyphen : c = '-'
    · rw [hyphen]
      decide
    · obtain ⟨digit, small, rfl⟩ :=
        mem_hexDigits (digits ▸ List.mem_filter.mpr ⟨member, by simpa using hyphen⟩)
      clear member hyphen
      interval_cases digit <;> decide
  have colonless : 'u' ∉ uuid.str.toList := fun member => (plain 'u' member).1 rfl
  have urn : erase "urn:".toList uuid.str.toList = uuid.str.toList := erase_of_not_mem colonless
  have scheme : erase "uuid:".toList uuid.str.toList = uuid.str.toList := erase_of_not_mem colonless
  have bare : strip (fun c => c == '{' || c == '}') uuid.str.toList = uuid.str.toList :=
    strip_of_forall fun c member => (plain c member).2
  have fits : uuid.int.toNat < 2 ^ 128 := uuid.int.isLt
  simp only [parse, urn, scheme, bare, digits, hexDigits_length, readInt_hexDigits bound, guard,
    if_true, Option.bind_eq_bind, Option.pure_def, Option.bind_some, if_pos fits]
  rw [BitVec.ofNat_toNat, BitVec.setWidth_eq]

end UUID

/-- Pydantic's `UUID4`: only version 4 is admitted. -/
abbrev UUID4 := { uuid : UUID // uuid.version = some 4 }

/-- Pydantic's check of a UUID against `UUID4`. -/
def UUID.toUUID4 (uuid : UUID) : Option UUID4 :=
  if admitted : uuid.version = some 4 then some ⟨uuid, admitted⟩ else none

@[simp] theorem UUID4.toUUID4_val (uuid : UUID4) : uuid.val.toUUID4 = some uuid := by
  simp [UUID.toUUID4, uuid.property]

theorem UUID.eq_val_of_toUUID4 {uuid : UUID} {id : UUID4} (admitted : uuid.toUUID4 = some id) : uuid = id.val := by
  unfold toUUID4 at admitted
  split at admitted
  · cases admitted
    rfl
  · cases admitted

end AuthApi
