import AutoTrader.Domain.Basic
import AutoTrader.Domain.Decimal
import Mathlib.Data.List.Sort

/-! Text that crosses a boundary: JSON values as `json.loads` returns them, the
canonical JSON that is hashed, URL-encoded bodies, and decimals read from text. -/

namespace AutoTrader.Domain

/-- A parsed JSON document. Numbers with a fraction or an exponent are floats. -/
inductive Json
  | null
  | bool (value : Bool)
  | int (value : Int)
  | float
  | str (value : String)
  | arr (values : List Json)
  | obj (fields : List (String × Json))

namespace Json

/-- `payload.get(key)` of a JSON object, a missing key reading as `null`. -/
def get (fields : List (String × Json)) (key : String) : Json :=
  (fields.lookup key).getD .null

/-- `payload[key]` of a JSON object. -/
def item (fields : List (String × Json)) (key : String) : Except PyError Json :=
  match fields.lookup key with
  | some value => .ok value
  | none => .error ⟨.lookupError, key⟩

mutual

/-- A document whose medium holds only some integers; the others become floats. -/
def keeping (keeps : Int → Bool) : Json → Json
  | .int value => if keeps value then .int value else .float
  | .arr values => .arr (keepingAll keeps values)
  | .obj fields => .obj (keepingMembers keeps fields)
  | .null => .null
  | .bool value => .bool value
  | .float => .float
  | .str value => .str value

def keepingAll (keeps : Int → Bool) : List Json → List Json
  | [] => []
  | value :: values => value.keeping keeps :: keepingAll keeps values

def keepingMembers (keeps : Int → Bool) : List (String × Json) → List (String × Json)
  | [] => []
  | (key, value) :: fields => (key, value.keeping keeps) :: keepingMembers keeps fields

end

theorem keepingAll_eq (keeps : Int → Bool) (values : List Json) :
    keepingAll keeps values = values.map (keeping keeps) := by
  induction values with
  | nil => rfl
  | cons value values ih => rw [keepingAll, ih, List.map_cons]

mutual

/-- A medium that holds every integer keeps the document. -/
theorem keeping_all : ∀ json : Json, json.keeping (fun _ => true) = json
  | .int _ => rfl
  | .arr values => congrArg Json.arr (keepingAll_all values)
  | .obj fields => congrArg Json.obj (keepingMembers_all fields)
  | .null => rfl
  | .bool _ => rfl
  | .float => rfl
  | .str _ => rfl

theorem keepingAll_all : ∀ values : List Json, keepingAll (fun _ => true) values = values
  | [] => rfl
  | value :: values => congrArg₂ List.cons (keeping_all value) (keepingAll_all values)

theorem keepingMembers_all : ∀ fields : List (String × Json), keepingMembers (fun _ => true) fields = fields
  | [] => rfl
  | (key, value) :: fields =>
    congrArg₂ List.cons (congrArg (Prod.mk key) (keeping_all value)) (keepingMembers_all fields)

end

/-- The integers of a `JSON` column, signed or unsigned words of 64 bits. A larger one is stored as a double. The
members of an object are found by name, in whatever order the column keeps them. -/
def wordSized (value : Int) : Bool := decide (-2 ^ 63 ≤ value) && decide (value < 2 ^ 64)

/-- A document as a `JSON` column gives it back. -/
def column (json : Json) : Json := json.keeping wordSized

end Json

/-! ### URL encoding -/

def isUrlSafe (c : Char) : Bool :=
  c.isAlphanum || c = '_' || c = '.' || c = '-' || c = '~'

private def hexUpper (d : Nat) : Char :=
  if d < 10 then Char.ofNat (48 + d) else Char.ofNat (55 + d)

/-- `quote_plus`: every byte of the UTF-8 encoding that is not safe is escaped. -/
def quotePlus (text : String) : String :=
  String.ofList <| text.toList.flatMap fun c =>
    if isUrlSafe c then [c]
    else if c = ' ' then ['+']
    else (String.utf8EncodeChar c).flatMap fun byte =>
      ['%', hexUpper (byte.toNat / 16), hexUpper (byte.toNat % 16)]

/-- `urllib.parse.urlencode`. -/
def urlencode (parameters : List (String × String)) : String :=
  "&".intercalate (parameters.map fun (key, value) => quotePlus key ++ "=" ++ quotePlus value)

private def hexValue (c : Char) : Option Nat :=
  if '0' ≤ c ∧ c ≤ '9' then some (c.toNat - 48)
  else if 'A' ≤ c ∧ c ≤ 'F' then some (c.toNat - 55)
  else if 'a' ≤ c ∧ c ≤ 'f' then some (c.toNat - 87)
  else none

/-- `unquote` after `+` became a blank, on text whose escapes are ASCII. -/
def unquotePlus : List Char → List Char
  | '%' :: high :: low :: rest =>
    match hexValue high, hexValue low with
    | some h, some l => Char.ofNat (16 * h + l) :: unquotePlus rest
    | _, _ => '%' :: unquotePlus (high :: low :: rest)
  | '+' :: rest => ' ' :: unquotePlus rest
  | c :: rest => c :: unquotePlus rest
  | [] => []
termination_by text => text.length

/-- `dict(parse_qsl(text, strict_parsing=True))`; blank values are dropped. -/
def parseQsl (text : String) : Except PyError (List (String × String)) := do
  let fields ← (text.splitOn "&").mapM fun field =>
    match field.splitOn "=" with
    | key :: rest@(_ :: _) =>
      .ok (String.ofList (unquotePlus key.toList),
        String.ofList (unquotePlus ("=".intercalate rest).toList))
    | _ => .error ⟨.valueError, "bad query field"⟩
  pure (fields.filter fun field => !field.2.isEmpty)

/-! ### Canonical JSON -/

inductive JsonScalar
  | null
  | int (value : Int)
  | str (value : String)

def quote : Char := Char.ofNat 34

def backslash : Char := Char.ofNat 92

/-- The escape of one UTF-16 unit. -/
def unicodeEscape (n : Nat) : List Char :=
  backslash :: 'u' :: [n / 4096, n / 256 % 16, n / 16 % 16, n % 16].map fun d =>
    if d < 10 then Char.ofNat (48 + d) else Char.ofNat (87 + d)

/-- One character of a JSON string. -/
def jsonEscape (c : Char) : List Char :=
  let n := c.toNat
  if n = 34 ∨ n = 92 then [backslash, c]
  else if n = 8 then [backslash, 'b']
  else if n = 9 then [backslash, 't']
  else if n = 10 then [backslash, 'n']
  else if n = 12 then [backslash, 'f']
  else if n = 13 then [backslash, 'r']
  else if 32 ≤ n ∧ n < 127 then [c]
  else if n < 65536 then unicodeEscape n
  else unicodeEscape (55296 + (n - 65536) / 1024) ++ unicodeEscape (56320 + (n - 65536) % 1024)

/-- A JSON string under `ensure_ascii`. -/
def jsonString (text : String) : String :=
  String.ofList (quote :: text.toList.flatMap jsonEscape ++ [quote])

def JsonScalar.dump : JsonScalar → String
  | .null => "null"
  | .int n => toString n
  | .str text => jsonString text

/-- `json.dumps(payload, sort_keys=True, separators=(",", ":"))` of a flat object. -/
def canonicalJson (payload : List (String × JsonScalar)) : String :=
  "\x7b" ++ ",".intercalate ((payload.insertionSort fun a b => a.1 ≤ b.1).map fun (key, value) =>
    jsonString key ++ ":" ++ value.dump) ++ "\x7d"

/-! ### Timestamps as text -/

/-- Year, month and day of a number of days since the epoch. -/
def civilDate (days : Int) : Int × Int × Int :=
  let z := days + 719468
  let era := z / 146097
  let doe := z - era * 146097
  let yoe := (doe - doe / 1460 + doe / 36524 - doe / 146096) / 365
  let doy := doe - (365 * yoe + yoe / 4 - yoe / 100)
  let mp := (5 * doy + 2) / 153
  let month := if mp < 10 then mp + 3 else mp - 9
  (yoe + era * 400 + (if month ≤ 2 then 1 else 0), month, doy - (153 * mp + 2) / 5 + 1)

/-- Digits filled up with zeros on the left. -/
def padded (width : Nat) (n : Int) : String :=
  let digits := Nat.toDigits 10 n.toNat
  String.ofList (List.replicate (width - digits.length) '0' ++ digits)

/-- `isoformat` of a UTC datetime. -/
def isoformat (t : Instant) : String :=
  let seconds := t / 1000000
  let micro := t % 1000000
  let (year, month, day) := civilDate (seconds / 86400)
  let s := seconds % 86400
  padded 4 year ++ "-" ++ padded 2 month ++ "-" ++ padded 2 day ++ "T" ++
    padded 2 (s / 3600) ++ ":" ++ padded 2 (s / 60 % 60) ++ ":" ++ padded 2 (s % 60) ++
    (if micro = 0 then "" else "." ++ padded 6 micro) ++ "+00:00"

example : isoformat 1709210096000500 = "2024-02-29T12:34:56.000500+00:00" := by decide +kernel

/-! ### Decimals read from text -/

/-- The digits a text starts with, and the rest. -/
def readDigits (text : List Char) : List Char × List Char :=
  text.span Char.isDigit

def digitsValue (digits : List Char) : Nat :=
  digits.foldl (fun n c => 10 * n + (c.toNat - 48)) 0

/-- The sign a text starts with, and the rest. -/
def readSign : List Char → Bool × List Char
  | '-' :: rest => (true, rest)
  | '+' :: rest => (false, rest)
  | text => (false, text)

/-- `Decimal(text)` for the finite numerals it accepts: a sign, digits with at most one
point, an exponent; underscores are ignored. -/
def Decimal.parse (text : String) : Option Decimal :=
  let (negative, rest) := readSign (text.toList.filter (· ≠ '_'))
  let (whole, rest) := readDigits rest
  let (fraction, rest) := match rest with
    | '.' :: rest => readDigits rest
    | rest => ([], rest)
  if whole = [] ∧ fraction = [] then none
  else match rest with
    | [] => some ⟨negative, digitsValue (whole ++ fraction), -fraction.length⟩
    | e :: rest =>
      if e = 'e' ∨ e = 'E' then
        match readSign rest with
        | (negativeExponent, rest) =>
          match readDigits rest with
          | (exponent@(_ :: _), []) =>
            let value : Int := digitsValue exponent
            some ⟨negative, digitsValue (whole ++ fraction),
              (if negativeExponent then -value else value) - fraction.length⟩
          | _ => none
      else none

example : Decimal.parse "-12.50" = some ⟨true, 1250, -2⟩ := by decide

end AutoTrader.Domain
