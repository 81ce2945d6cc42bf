import AuthApi.Encoding.Fields

/-! # Query strings

`urlencode` of `urllib.parse` with its defaults: UTF-8, upper-case percent escapes, and a plus sign for a space. The
receiver splits the fields at the ampersands and ends a name at the first equals sign. Every list of parameters is
read back from its query string.
-/

namespace Encoding

/-- The characters `quote_plus` leaves as they are. -/
def unreserved (n : ℕ) : Bool :=
  (0x30 ≤ n && n ≤ 0x39) || (0x41 ≤ n && n ≤ 0x5A) || (0x61 ≤ n && n ≤ 0x7A) ||
    n = 0x5F || n = 0x2E || n = 0x2D || n = 0x7E

def upperHexDigit (n : ℕ) : Char :=
  if n < 10 then Char.ofNat (0x30 + n) else Char.ofNat (0x37 + n)

def quoteByte (byte : UInt8) : List Char :=
  let n := byte.toNat
  if unreserved n then [Char.ofNat n]
  else if n = 0x20 then ['+']
  else ['%', upperHexDigit (n / 16), upperHexDigit (n % 16)]

/-- `urllib.parse.quote_plus`. -/
def quotePlus (text : String) : String :=
  String.ofList (text.toUTF8.data.toList.flatMap quoteByte)

/-- `urllib.parse.urlencode`. -/
def urlencode (params : List (String × String)) : String :=
  "&".intercalate (params.map fun (name, value) => quotePlus name ++ "=" ++ quotePlus value)

example : urlencode [("a", "b c"), ("k", "x/é")] = "a=b+c&k=x%2F%C3%A9" := by decide +kernel

def hexValue (c : Char) : Option ℕ :=
  if '0' ≤ c ∧ c ≤ '9' then some (c.toNat - 0x30)
  else if 'A' ≤ c ∧ c ≤ 'F' then some (c.toNat - 0x37)
  else if 'a' ≤ c ∧ c ≤ 'f' then some (c.toNat - 0x57)
  else none

/-- The bytes a text stands for; a percent sign without two digits stands for itself. -/
def unquoteBytes : List Char → List UInt8
  | [] => []
  | '+' :: rest => 0x20 :: unquoteBytes rest
  | '%' :: high :: low :: rest =>
    match hexValue high, hexValue low with
    | some high, some low => UInt8.ofNat (high * 16 + low) :: unquoteBytes rest
    | _, _ => 0x25 :: unquoteBytes (high :: low :: rest)
  | c :: rest => String.utf8EncodeChar c ++ unquoteBytes rest

/-- The text a component stands for, if its bytes are UTF-8. -/
def unquotePlus (component : List Char) : Option String :=
  String.fromUTF8? ⟨(unquoteBytes component).toArray⟩

def parseField (field : List Char) : Option (String × String) := do
  let name ← unquotePlus (field.takeWhile (· ≠ '='))
  let value ← unquotePlus ((field.dropWhile (· ≠ '=')).drop 1)
  return (name, value)

/-- The parameters of a query string; empty fields are skipped. -/
def parseQuery (query : List Char) : Option (List (String × String)) :=
  ((query.splitOn '&').filter (· ≠ [])).mapM parseField

example : parseQuery "a=b+c&&k=x%2F%C3%A9%".toList = some [("a", "b c"), ("k", "x/é%")] := by decide +kernel

theorem hexValue_upperHexDigit : ∀ n < 16, hexValue (upperHexDigit n) = some n := by decide

/-- The characters `quotePlus` writes. -/
def queryChar (c : Char) : Bool := unreserved c.toNat || c = '+' || c = '%'

theorem unreserved_lt {n : ℕ} (plain : unreserved n = true) : n < 0x7F := by
  simp only [unreserved, Bool.or_eq_true, Bool.and_eq_true, decide_eq_true_eq] at plain
  omega

theorem toNat_ofNat_of_lt {n : ℕ} (ascii : n < 0x7F) : (Char.ofNat n).toNat = n := by
  have valid : n.isValidChar := .inl (by omega)
  rw [Char.ofNat, dif_pos valid]
  rfl

theorem utf8EncodeChar_of_lt {c : Char} (ascii : c.toNat < 0x7F) :
    String.utf8EncodeChar c = [UInt8.ofNat c.toNat] := by
  have small : c.val.toNat ≤ 0x7F := by
    change c.toNat ≤ 0x7F
    omega
  simp only [String.utf8EncodeChar, small, if_true]
  rfl

/-- An ASCII byte stands for itself and is part of no other character. -/
theorem toNat_of_mem_utf8EncodeChar {c : Char} {byte : UInt8} (member : byte ∈ String.utf8EncodeChar c)
    (ascii : byte.toNat < 0x80) : c.toNat = byte.toNat := by
  have code : c.toNat = c.val.toNat := rfl
  have small : byte.toNat < 0x80 → ∀ n, byte = UInt8.ofNat n → n < 0x100 → n < 0x80 := by
    rintro low n rfl bound
    rwa [UInt8.toNat_ofNat_of_lt' bound] at low
  simp only [String.utf8EncodeChar] at member
  split at member
  · next single =>
    obtain rfl := List.mem_singleton.mp member
    rw [UInt8.toNat_ofNat_of_lt' (Nat.lt_of_le_of_lt single (by decide)), code]
  · exfalso
    split at member
    · simp only [List.mem_cons, List.not_mem_nil, or_false] at member
      obtain same | same := member <;> have := small ascii _ same (by omega) <;> omega
    · split at member
      · simp only [List.mem_cons, List.not_mem_nil, or_false] at member
        obtain same | same | same := member <;> have := small ascii _ same (by omega) <;> omega
      · simp only [List.mem_cons, List.not_mem_nil, or_false] at member
        obtain same | same | same | same := member <;> have := small ascii _ same (by omega) <;> omega

theorem unquoteBytes_quoteByte (byte : UInt8) (rest : List Char) :
    unquoteBytes (quoteByte byte ++ rest) = byte :: unquoteBytes rest := by
  unfold quoteByte
  simp only
  split
  · next plain =>
    have ascii := unreserved_lt plain
    have value := toNat_ofNat_of_lt ascii
    have encoded : String.utf8EncodeChar (Char.ofNat byte.toNat) = [byte] := by
      rw [utf8EncodeChar_of_lt (by omega), value, UInt8.ofNat_toNat]
    generalize Char.ofNat byte.toNat = c at value encoded
    have not_plus : c ≠ '+' := by
      rintro rfl
      rw [← value] at plain
      exact absurd plain (by decide)
    have not_percent : c ≠ '%' := by
      rintro rfl
      rw [← value] at plain
      exact absurd plain (by decide)
    rw [List.singleton_append, unquoteBytes, encoded, List.singleton_append]
    · exact not_plus
    · exact fun _ _ _ percent => absurd percent not_percent
  · split
    · next space =>
      have same : byte = 0x20 := UInt8.toNat_inj.mp space
      rw [same]
      rfl
    · have bound := byte.toNat_lt
      have high := hexValue_upperHexDigit (byte.toNat / 16) (by omega)
      have low := hexValue_upperHexDigit (byte.toNat % 16) (by omega)
      have value : byte.toNat / 16 * 16 + byte.toNat % 16 = byte.toNat := by omega
      simp only [List.cons_append, List.nil_append, unquoteBytes, high, low, value, UInt8.ofNat_toNat]

theorem unquoteBytes_quoted (bytes : List UInt8) : unquoteBytes (bytes.flatMap quoteByte) = bytes := by
  induction bytes with
  | nil => rfl
  | cons byte bytes ih => rw [List.flatMap_cons, unquoteBytes_quoteByte, ih]

/-- A quoted text is read back. -/
theorem unquotePlus_quotePlus (text : String) : unquotePlus (quotePlus text).toList = some text := by
  have bytes : (⟨(unquoteBytes (quotePlus text).toList).toArray⟩ : ByteArray) = text.toByteArray := by
    rw [quotePlus, String.toList_ofList, unquoteBytes_quoted]
    simp
  rw [unquotePlus, bytes, String.fromUTF8?, dif_pos text.isValidUTF8]
  rfl

theorem queryChar_of_mem_quoteByte {byte : UInt8} {c : Char} (member : c ∈ quoteByte byte) : queryChar c = true := by
  unfold quoteByte at member
  simp only at member
  split at member
  · next plain =>
    obtain rfl := List.mem_singleton.mp member
    simp [queryChar, toNat_ofNat_of_lt (unreserved_lt plain), plain]
  · split at member
    · obtain rfl := List.mem_singleton.mp member
      rfl
    · have digit : ∀ n < 16, queryChar (upperHexDigit n) = true := by decide
      have bound := byte.toNat_lt
      obtain rfl | rfl | rfl : c = '%' ∨ c = _ ∨ c = _ := by simpa using member
      · rfl
      · exact digit _ (by omega)
      · exact digit _ (by omega)

theorem queryChar_of_mem_quotePlus {text : String} {c : Char} (member : c ∈ (quotePlus text).toList) :
    queryChar c = true := by
  rw [quotePlus, String.toList_ofList] at member
  obtain ⟨byte, _, member⟩ := List.mem_flatMap.mp member
  exact queryChar_of_mem_quoteByte member

/-- One parameter as `urlencode` writes it. -/
def fieldText (param : String × String) : List Char := (quotePlus param.1).toList ++ '=' :: (quotePlus param.2).toList

theorem toList_urlencode (params : List (String × String)) :
    (urlencode params).toList = ['&'].intercalate (params.map fieldText) := by
  simp only [urlencode, String.toList_intercalate, List.map_map]
  congr 1
  apply List.map_congr_left
  intro param _
  simp [fieldText]

theorem parseField_fieldText (param : String × String) : parseField (fieldText param) = some param := by
  have name : ∀ c ∈ (quotePlus param.1).toList, decide (c ≠ '=') = true := by
    intro c member
    have written := queryChar_of_mem_quotePlus member
    apply decide_eq_true
    rintro rfl
    exact absurd written (by decide)
  simp only [parseField, fieldText]
  rw [List.takeWhile_append_of_pos name, List.dropWhile_append_of_pos name]
  simp [unquotePlus_quotePlus]

theorem separator_not_mem_fieldText (param : String × String) : '&' ∉ fieldText param := by
  intro member
  obtain member | same | member := List.mem_append.mp member |>.imp_right List.mem_cons.mp
  · exact absurd (queryChar_of_mem_quotePlus member) (by decide)
  · exact absurd same (by decide)
  · exact absurd (queryChar_of_mem_quotePlus member) (by decide)

/-- What a query string is made of. -/
theorem mem_urlencode {params : List (String × String)} {c : Char} (member : c ∈ (urlencode params).toList) :
    queryChar c = true ∨ c = '=' ∨ c = '&' := by
  rw [toList_urlencode] at member
  obtain separator | ⟨_, written, member⟩ := mem_of_mem_intercalate member
  · exact .inr (.inr (List.mem_singleton.mp separator))
  · obtain ⟨param, _, rfl⟩ := List.mem_map.mp written
    obtain member | same | member := List.mem_append.mp member |>.imp_right List.mem_cons.mp
    · exact .inl (queryChar_of_mem_quotePlus member)
    · exact .inr (.inl same)
    · exact .inl (queryChar_of_mem_quotePlus member)

/-- Every list of parameters is read back from its query string. -/
theorem parseQuery_urlencode (params : List (String × String)) :
    parseQuery (urlencode params).toList = some params := by
  rw [parseQuery, toList_urlencode]
  cases params with
  | nil => rfl
  | cons first rest =>
    have separate : ∀ field ∈ (first :: rest).map fieldText, '&' ∉ field := by
      rintro field member
      obtain ⟨param, _, rfl⟩ := List.mem_map.mp member
      exact separator_not_mem_fieldText param
    rw [List.splitOn_intercalate '&' separate (by simp), List.filter_eq_self.mpr]
    · generalize first :: rest = params
      rw [List.mapM_map]
      induction params with
      | nil => rfl
      | cons param params ih => simp [List.mapM_cons, parseField_fieldText, ih]
    · intro field member
      obtain ⟨param, _, rfl⟩ := List.mem_map.mp member
      simp [fieldText]

end Encoding
