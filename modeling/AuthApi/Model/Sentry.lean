import AuthApi.Relational.OrderedDict
import Mathlib.Data.Int.Notation

/-! # The hook before an event is sent to Sentry

`_before_send` drops the events of HTTP errors, removes what is private from the others and tags them. An event
is a tree of untyped values; a dictionary is changed in its place in the tree.
-/

namespace AuthApi

open Relational OrderedDict

/-- A `float`, by its `repr`: a decimal number, `inf` or `nan`. -/
structure PyFloat where
  repr : String
  numeric : ∃ first rest, repr.toList = first :: rest ∧ (first.isDigit = true ∨ first ∈ ['-', 'i', 'n'])

/-- A value of an event; an `int` has no more digits than Python converts to a text. -/
inductive Value where
  | none
  | bool (value : Bool)
  | int (value : ℤ)
  | float (value : PyFloat)
  | str (text : String)
  | list (items : List Value)
  | tuple (items : List Value)
  | dict (entries : List (String × Value))

abbrev Dict := List (String × Value)

/-- The lower case of a character. Besides the capitals of ASCII only these two have ASCII in theirs; other
characters are left as they are, which no comparison with an ASCII text can tell. -/
def lowerChar (c : Char) : List Char :=
  if c = Char.ofNat 0x130 then ['i', Char.ofNat 0x307]
  else if c = Char.ofNat 0x212a then ['k']
  else [c.toLower]

/-- `str.lower`. -/
def lower (text : String) : String := String.ofList (text.toList.flatMap lowerChar)

section Text

-- `str.isprintable` for one character
variable (isPrintable : Char → Bool)

/-- A character in the `repr` of a text with the given quotation mark. -/
def escaped (mark c : Char) : List Char :=
  let backslash := Char.ofNat 0x5c
  if c = mark ∨ c = backslash then [backslash, c]
  else if c = Char.ofNat 9 then [backslash, 't']
  else if c = Char.ofNat 10 then [backslash, 'n']
  else if c = Char.ofNat 13 then [backslash, 'r']
  else if isPrintable c then [c]
  else if c.toNat < 0x100 then backslash :: 'x' :: (Nat.toDigits 16 c.toNat).leftpad 2 '0'
  else if c.toNat < 0x10000 then backslash :: 'u' :: (Nat.toDigits 16 c.toNat).leftpad 4 '0'
  else backslash :: 'U' :: (Nat.toDigits 16 c.toNat).leftpad 8 '0'

/-- The `repr` of a text, in double quotation marks if it has single ones only. -/
def quoted (text : String) : String :=
  let single := Char.ofNat 0x27
  let double := Char.ofNat 0x22
  let mark := if single ∈ text.toList ∧ double ∉ text.toList then double else single
  String.ofList (mark :: text.toList.flatMap (escaped isPrintable mark) ++ [mark])

mutual

/-- `repr(value)`. -/
def Value.repr : Value → String
  | .none => "None"
  | .bool value => if value then "True" else "False"
  | .int value => toString value
  | .float value => value.repr
  | .str text => quoted isPrintable text
  | .list items => "[" ++ ", ".intercalate (Value.reprs items) ++ "]"
  | .tuple items =>
      "(" ++ ", ".intercalate (Value.reprs items) ++ (if items.length = 1 then ",)" else ")")
  | .dict entries => "\x7b" ++ ", ".intercalate (Value.reprEntries entries) ++ "\x7d"

def Value.reprs : List Value → List String
  | [] => []
  | item :: items => item.repr :: Value.reprs items

def Value.reprEntries : List (String × Value) → List String
  | [] => []
  | (key, value) :: entries => (quoted isPrintable key ++ ": " ++ value.repr) :: Value.reprEntries entries

end

/-- `str(value)`. -/
def Value.toStr : Value → String
  | .str text => text
  | value => value.repr isPrintable

end Text

/-- `_SENSITIVE_HEADERS`. -/
def SENSITIVE_HEADERS : List String := ["authorization", "cookie", "proxy-authorization", "set-cookie"]

section Hook

variable (isPrintable : Char → Bool)

/-- The loop over the names of a header dictionary. -/
def popSensitive (headers : Dict) : Dict :=
  (keys headers).foldl
    (fun headers name => if decide (lower name ∈ SENSITIVE_HEADERS) then pop headers name else headers) headers

/-- An item of a header list that the comprehension leaves out. -/
def isSensitiveHeader : Value → Bool
  | .list (name :: _) => lower (name.toStr isPrintable) ∈ SENSITIVE_HEADERS
  | .tuple (name :: _) => lower (name.toStr isPrintable) ∈ SENSITIVE_HEADERS
  | _ => false

/-- The headers of a request, in either representation. -/
def scrubHeaders (request : Dict) : Dict :=
  match get? request "headers" with
  | some (.dict headers) => setItem request "headers" (.dict (popSensitive headers))
  | some (.list headers) =>
      setItem request "headers" (.list (headers.filter fun header => !isSensitiveHeader isPrintable header))
  | _ => request

def scrubRequest (request : Dict) : Dict := scrubHeaders isPrintable (pop (pop request "cookies") "data")

/-- `_scrub_sensitive_data`. -/
def scrubSensitiveData (event : Dict) : Dict :=
  let event := pop event "user"
  match get? event "request" with
  | some (.dict request) => setItem event "request" (.dict (scrubRequest isPrintable request))
  | _ => event

/-- An item of `exc_info`, by its type. -/
inductive ExcInfoItem where
  | httpException
  | other
deriving DecidableEq, Repr

/-- What a hint holds under `exc_info`. -/
inductive ExcInfo where
  | tuple (items : List ExcInfoItem)
  | other
deriving DecidableEq, Repr

/-- The event is about an `HTTPException`. -/
def isHttpError : Option ExcInfo → Bool
  | some (.tuple items) => decide (1 < items.length) && decide (items[1]? = some .httpException)
  | _ => false

/-- The tags of the service; `requestId` is what the getter returns, if there is one. -/
def setTags (serviceName : String) (requestId : Option String) (tags : Dict) : Dict :=
  let tags := setItem tags "service" (.str serviceName)
  match requestId with
  | some requestId =>
      if requestId ≠ "" ∧ requestId ≠ "-" then setItem tags "request_id" (.str requestId) else tags
  | none => tags

/-- `_before_send`; the hint is read for its `exc_info` only. -/
def beforeSend (event : Dict) (excInfo : Option ExcInfo) (serviceName : String) (requestId : Option String) :
    Option Dict :=
  if isHttpError excInfo then none
  else
    let event := setDefault (scrubSensitiveData isPrintable event) "tags" (.dict [])
    match get? event "tags" with
    | some (.dict tags) => some (setItem event "tags" (.dict (setTags serviceName requestId tags)))
    | _ => some event

end Hook

end AuthApi
