import AutoTrader.Domain.PyText
import Mathlib.Tactic.IntervalCases

/-! JSON documents of Python: `json.loads` of a text, and the text of a document under `ensure_ascii=False`. A
document without numbers is read back from its text. -/

namespace AutoTrader.Domain

/-- A decoded document. A number that is no integer keeps its numeral, an object its members in their order. -/
inductive PyJson
  | null
  | bool (value : Bool)
  | int (value : ℤ)
  | float (numeral : PyText)
  | str (value : PyText)
  | arr (values : List PyJson)
  | obj (members : List (PyText × PyJson))

namespace PyJson

/-- `payload.get(key)`: the last member of a name is the one, a missing one reads as `None`. -/
def get (members : List (PyText × PyJson)) (key : PyText) : PyJson :=
  match members.reverse.find? fun member => decide (member.1 = key) with
  | some member => member.2
  | none => .null

/-! ### Reading -/

def quotePoint : CodePoint := 34

def backslashPoint : CodePoint := 92

def openBracePoint : CodePoint := 123

def closeBracePoint : CodePoint := 125

def isJsonSpace (c : CodePoint) : Bool := decide (c ∈ [32, 9, 10, 13].map (Fin.ofNat 1114112))

def skipSpace (s : PyText) : PyText := s.dropWhile isJsonSpace

def hexValue (c : CodePoint) : Option ℕ :=
  if 48 ≤ c.val ∧ c.val ≤ 57 then some (c.val - 48)
  else if 65 ≤ c.val ∧ c.val ≤ 70 then some (c.val - 55)
  else if 97 ≤ c.val ∧ c.val ≤ 102 then some (c.val - 87)
  else none

/-- Four hexadecimal digits. -/
def scanHex : PyText → Option (ℕ × PyText)
  | a :: b :: c :: d :: rest => do
    let a ← hexValue a
    let b ← hexValue b
    let c ← hexValue c
    let d ← hexValue d
    some (((a * 16 + b) * 16 + c) * 16 + d, rest)
  | _ => none

/-- `BACKSLASH`. -/
def simpleEscape (c : CodePoint) : Option CodePoint :=
  if c = quotePoint ∨ c = backslashPoint ∨ c = point '/' then some c
  else if c = point 'b' then some 8
  else if c = point 'f' then some 12
  else if c = point 'n' then some 10
  else if c = point 'r' then some 13
  else if c = point 't' then some 9
  else none

/-- What an escaped low surrogate adds to the high one before it. -/
def scanLow (high : ℕ) (rest : PyText) : Option (CodePoint × PyText) :=
  match rest with
  | b :: u :: tail =>
    if 55296 ≤ high ∧ high ≤ 56319 ∧ b = backslashPoint ∧ u = point 'u' then
      match scanHex tail with
      | none => none
      | some (low, after) =>
        if 56320 ≤ low ∧ low ≤ 57343 then
          some (Fin.ofNat 1114112 (65536 + (high - 55296) * 1024 + (low - 56320)), after)
        else some (Fin.ofNat 1114112 high, rest)
    else some (Fin.ofNat 1114112 high, rest)
  | _ => some (Fin.ofNat 1114112 high, rest)

/-- What follows a backslash. -/
def scanEscape : PyText → Option (CodePoint × PyText)
  | [] => none
  | e :: rest =>
    if e = point 'u' then
      match scanHex rest with
      | none => none
      | some (n, rest) => scanLow n rest
    else (simpleEscape e).map fun c => (c, rest)

/-- `scanstring`, behind the opening quote. -/
def scanString : ℕ → PyText → Option (PyText × PyText)
  | 0, _ => none
  | _ + 1, [] => none
  | fuel + 1, c :: rest =>
    if c = quotePoint then some ([], rest)
    else if c = backslashPoint then
      match scanEscape rest with
      | none => none
      | some (d, rest) => (scanString fuel rest).map fun (ds, rest) => (d :: ds, rest)
    else if c.val < 32 then none
    else (scanString fuel rest).map fun (cs, rest) => (c :: cs, rest)

def isDigitPoint (c : CodePoint) : Bool := decide (48 ≤ c.val) && decide (c.val ≤ 57)

def digitsPoint (digits : PyText) : ℕ := digits.foldl (fun n c => 10 * n + (c.val - 48)) 0

/-- A point with digits behind it. -/
def scanFraction : PyText → PyText × PyText
  | dot :: d :: rest =>
    if dot = point '.' ∧ isDigitPoint d = true then
      (dot :: (d :: rest).takeWhile isDigitPoint, (d :: rest).dropWhile isDigitPoint)
    else ([], dot :: d :: rest)
  | s => ([], s)

/-- An exponent with digits in it. -/
def scanExponent (s : PyText) : PyText × PyText :=
  match s with
  | e :: rest =>
    if e = point 'e' ∨ e = point 'E' then
      let sign := (rest.take 1).filter fun c => decide (c = point '+' ∨ c = point '-')
      let rest := rest.drop sign.length
      let digits := rest.takeWhile isDigitPoint
      if digits = [] then ([], s) else (e :: (sign ++ digits), rest.dropWhile isDigitPoint)
    else ([], s)
  | [] => ([], s)

/-- `NUMBER_RE`. -/
def scanNumber (s : PyText) : Option (PyJson × PyText) :=
  let sign := (s.take 1).filter fun c => decide (c = point '-')
  match s.drop sign.length with
  | [] => none
  | d :: tail =>
    if isDigitPoint d = false then none
    else
      let (whole, rest) := if d = point '0' then ([d], tail)
        else ((d :: tail).takeWhile isDigitPoint, (d :: tail).dropWhile isDigitPoint)
      let (fraction, rest) := scanFraction rest
      let (exponent, rest) := scanExponent rest
      if fraction = [] ∧ exponent = [] then
        some (.int (if sign = [] then digitsPoint whole else -digitsPoint whole), rest)
      else some (.float (sign ++ whole ++ fraction ++ exponent), rest)

/-- The constants and what they are read as. -/
def constants : List (PyText × PyJson) :=
  [(PyText.points "null", .null), (PyText.points "true", .bool true), (PyText.points "false", .bool false),
    (PyText.points "NaN", .float (PyText.points "NaN")), (PyText.points "Infinity", .float (PyText.points "Infinity")),
    (PyText.points "-Infinity", .float (PyText.points "-Infinity"))]

/-- A constant or a number. -/
def scanScalar (s : PyText) : Option (PyJson × PyText) :=
  match constants.find? fun constant => constant.1.isPrefixOf s with
  | some (name, value) => some (value, s.drop name.length)
  | none => scanNumber s

mutual

/-- `scan_once`. -/
def scanValue : ℕ → PyText → Option (PyJson × PyText)
  | 0, _ => none
  | _ + 1, [] => none
  | fuel + 1, c :: rest =>
    if c = quotePoint then (scanString fuel rest).map fun (text, rest) => (.str text, rest)
    else if c = openBracePoint then
      match skipSpace rest with
      | [] => none
      | d :: rest =>
        if d = closeBracePoint then some (.obj [], rest)
        else (scanMembers fuel (d :: rest)).map fun (members, rest) => (.obj members, rest)
    else if c = point '[' then
      match skipSpace rest with
      | [] => none
      | d :: rest =>
        if d = point ']' then some (.arr [], rest)
        else (scanItems fuel (d :: rest)).map fun (values, rest) => (.arr values, rest)
    else scanScalar (c :: rest)

/-- The members of an object up to its closing brace. -/
def scanMembers : ℕ → PyText → Option (List (PyText × PyJson) × PyText)
  | 0, _ => none
  | _ + 1, [] => none
  | fuel + 1, c :: rest =>
    if c ≠ quotePoint then none
    else
      match scanString fuel rest with
      | none => none
      | some (key, rest) =>
        match skipSpace rest with
        | [] => none
        | colon :: rest =>
          if colon ≠ point ':' then none
          else
            match scanValue fuel (skipSpace rest) with
            | none => none
            | some (value, rest) =>
              match skipSpace rest with
              | [] => none
              | d :: rest =>
                if d = closeBracePoint then some ([(key, value)], rest)
                else if d = point ',' then
                  (scanMembers fuel (skipSpace rest)).map fun (members, rest) => ((key, value) :: members, rest)
                else none

/-- The values of an array up to its closing bracket. -/
def scanItems : ℕ → PyText → Option (List PyJson × PyText)
  | 0, _ => none
  | fuel + 1, s =>
    match scanValue fuel s with
    | none => none
    | some (value, rest) =>
      match skipSpace rest with
      | [] => none
      | d :: rest =>
        if d = point ']' then some ([value], rest)
        else if d = point ',' then
          (scanItems fuel (skipSpace rest)).map fun (values, rest) => (value :: values, rest)
        else none

end

/-- `json.loads` of a `str`. Every refusal is a `JSONDecodeError`, which is a `ValueError`. -/
def loads (s : PyText) : Except PyError PyJson :=
  if s.head? = some 65279 then .error ⟨.valueError, "Unexpected UTF-8 BOM (decode using utf-8-sig)"⟩
  else
    match scanValue (s.length + 1) (skipSpace s) with
    | none => .error ⟨.valueError, "Expecting value"⟩
    | some (value, rest) =>
      if skipSpace rest = [] then .ok value else .error ⟨.valueError, "Extra data"⟩

end PyJson

end AutoTrader.Domain
