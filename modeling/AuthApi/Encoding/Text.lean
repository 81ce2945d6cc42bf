import Mathlib.Data.List.Basic

/-! # Python's text primitives

Texts are handled as lists of characters, so the functions recurse on them and their values compute.
-/

namespace Encoding

/-- `str.isspace` for one character. -/
def isSpace (c : Char) : Bool :=
  let n := c.toNat
  (9 ≤ n && n ≤ 13) || (28 ≤ n && n ≤ 32) || n = 0x85 || n = 0xA0 || n = 0x1680 ||
    (0x2000 ≤ n && n ≤ 0x200A) || n = 0x2028 || n = 0x2029 || n = 0x202F || n = 0x205F || n = 0x3000

/-- Remove from both ends while the test holds. -/
def strip (test : Char → Bool) (text : List Char) : List Char :=
  ((text.dropWhile test).reverse.dropWhile test).reverse

/-- `text.strip()`. -/
def stripSpace (text : String) : String := String.ofList (strip isSpace text.toList)

/-- Drop every occurrence of a pattern found from left to right; `skip` characters of the current
occurrence are still to be dropped. -/
def eraseFrom (pattern : List Char) : ℕ → List Char → List Char
  | _, [] => []
  | skip + 1, _ :: rest => eraseFrom pattern skip rest
  | 0, c :: rest =>
      if pattern.isPrefixOf (c :: rest) then eraseFrom pattern (pattern.length - 1) rest
      else c :: eraseFrom pattern 0 rest

/-- `text.replace(pattern, "")` for a pattern that is not empty. -/
def erase (pattern text : List Char) : List Char := eraseFrom pattern 0 text

/-- `text.split(separator)`. -/
def splitOn (separator : Char) : List Char → List (List Char)
  | [] => [[]]
  | c :: rest =>
      if c = separator then [] :: splitOn separator rest
      else match splitOn separator rest with
        | part :: parts => (c :: part) :: parts
        | [] => [[c]]

/-- A pattern that never starts is never erased. -/
theorem erase_of_not_mem {c : Char} {pattern text : List Char} (absent : c ∉ text) :
    erase (c :: pattern) text = text := by
  unfold erase
  induction text with
  | nil => rfl
  | cons head rest ih =>
    obtain ⟨distinct, absent⟩ := List.ne_and_not_mem_of_not_mem_cons absent
    have differs : (c :: pattern).isPrefixOf (head :: rest) = false := by
      simp [List.isPrefixOf, distinct]
    rw [eraseFrom, differs, if_neg Bool.false_ne_true, ih absent]

/-- Nothing is stripped from a text that the test never holds of. -/
theorem strip_of_forall {test : Char → Bool} {text : List Char}
    (plain : ∀ c ∈ text, test c = false) : strip test text = text := by
  have kept (chars : List Char) (sub : chars ⊆ text) : chars.dropWhile test = chars := by
    cases chars with
    | nil => rfl
    | cons head rest => simp [plain head (sub List.mem_cons_self)]
  unfold strip
  rw [kept text (List.Subset.refl _), kept _ (fun c member => List.mem_reverse.mp member),
    List.reverse_reverse]

end Encoding
