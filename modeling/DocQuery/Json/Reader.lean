import DocQuery.Json.Basic

/-!
# Reading JSON

The reader takes a document from the start of a text. A number without a fraction and an
exponent is an integer if 64 bits hold it. Every other number takes as many digits as 64 bits
hold and scales them by one power of ten.
-/

namespace DocQuery

namespace Json

/-- The text without blanks at its start. -/
def skipBlanks (cs : List Char) : List Char :=
  cs.dropWhile fun c => c = ' ' || c = '\n' || c = '\r' || c = '\t'

/-! ### Numbers -/

/-- The largest number that digits may make up before the rest of them is scaled away. -/
def maxSignificand : Nat := Nat.pow 2 64 - 1

/-- The number of integers below zero that 64 bits hold. -/
def integerLimit : Nat := Nat.pow 2 63

/-- A number in the making: the digits so far, the power of ten that scales them, and whether
64 bits have been filled. -/
structure Significand where
  value : Nat
  scale : Int
  full : Bool

/-- Adds a digit before the decimal point. -/
def Significand.addWhole (s : Significand) (c : Char) : Significand :=
  let value := 10 * s.value + (c.toNat - '0'.toNat)
  if s.full || value > maxSignificand then { s with scale := s.scale + 1, full := true }
  else { s with value }

/-- Adds a digit behind the decimal point. -/
def Significand.addFraction (s : Significand) (c : Char) : Significand :=
  let value := 10 * s.value + (c.toNat - '0'.toNat)
  if s.full || value > maxSignificand then { s with full := true }
  else { s with value, scale := s.scale - 1 }

/-- The number with its scale applied. -/
def Significand.toFloat (s : Significand) : Float :=
  let x := Float.ofNat s.value
  if s.scale < 0 then
    if s.scale < -308 then x / 1e308 / Float.ofScientific 1 false (-308 - s.scale).toNat
    else x / Float.ofScientific 1 false (-s.scale).toNat
  else x * Float.ofScientific 1 false s.scale.toNat

/-- Reads digits. -/
def takeDigits (cs : List Char) : List Char × List Char :=
  (cs.takeWhile Char.isDigit, cs.dropWhile Char.isDigit)

/-- Reads the exponent of a number, if one follows. -/
def readExponent (cs : List Char) : Int × List Char :=
  match cs with
  | c :: rest =>
    if c = 'e' || c = 'E' then
      let (negative, rest) := readSign rest
      let (digits, rest) := takeDigits rest
      let n : Int := digitsValue digits
      (if negative then -n else n, rest)
    else (0, cs)
  | [] => (0, [])

/-- The number of whole digits with a sign: an integer if 64 bits hold it. -/
def wholeNumber (negative : Bool) (s : Significand) : Json :=
  if s.full then
    float (if negative then -s.toFloat else s.toFloat)
  else if negative then
    if s.value = 0 || s.value > integerLimit then float (-Float.ofNat s.value)
    else int (Int64.ofInt (-(s.value : Int)))
  else if s.value < integerLimit then int (Int64.ofNat s.value)
  else float (Float.ofNat s.value)

/-- Reads a number. -/
def readNumber? (cs : List Char) : Option (Json × List Char) :=
  let (negative, cs) := match cs with
    | '-' :: rest => (true, rest)
    | _ => (false, cs)
  let (whole, rest) := takeDigits cs
  if whole.isEmpty then none
  else
    let s := whole.foldl Significand.addWhole ⟨0, 0, false⟩
    match rest with
    | c :: more =>
      if c = '.' || c = 'e' || c = 'E' then
        let (fraction, rest) := if c = '.' then takeDigits more else ([], rest)
        let s := fraction.foldl Significand.addFraction s
        let (exponent, rest) := readExponent rest
        let x := Significand.toFloat { s with scale := s.scale + exponent }
        some (float (if negative then -x else x), rest)
      else some (wholeNumber negative s, rest)
    | [] => some (wholeNumber negative s, rest)

/-! ### Strings -/

/-- The value of a hexadecimal digit. -/
def hexDigit? (c : Char) : Option Nat :=
  if c.isDigit then some (c.toNat - '0'.toNat)
  else if 'a' ≤ c ∧ c ≤ 'f' then some (c.toNat - 'a'.toNat + 10)
  else if 'A' ≤ c ∧ c ≤ 'F' then some (c.toNat - 'A'.toNat + 10)
  else none

/-- The code unit of four hexadecimal digits. -/
def codeUnit? (a b c d : Char) : Option Nat := do
  return 4096 * (← hexDigit? a) + 256 * (← hexDigit? b) + 16 * (← hexDigit? c) + (← hexDigit? d)

/-- The character of a letter after a backslash. -/
def unescape? (c : Char) : Option Char :=
  [('"', '"'), ('\\', '\\'), ('/', '/'), ('b', '\x08'), ('f', '\x0c'), ('n', '\n'), ('r', '\r'),
    ('t', '\t')].lookup c

/-- Reads the rest of a string, up to and including the quote that ends it. -/
def readString? (acc : List Char) : List Char → Option (String × List Char)
  | [] => none
  | '"' :: rest => some (String.ofList acc.reverse, rest)
  | '\\' :: 'u' :: a :: b :: c :: d :: rest => do
    let unit ← codeUnit? a b c d
    if 0xD800 ≤ unit ∧ unit < 0xDC00 then
      match rest with
      | '\\' :: 'u' :: a' :: b' :: c' :: d' :: rest' =>
        let low ← codeUnit? a' b' c' d'
        if 0xDC00 ≤ low ∧ low < 0xE000 then
          readString? (Char.ofNat (0x10000 + 1024 * (unit - 0xD800) + (low - 0xDC00)) :: acc) rest'
        else none
      | _ => none
    else if 0xDC00 ≤ unit ∧ unit < 0xE000 then none
    else readString? (Char.ofNat unit :: acc) rest
  | '\\' :: c :: rest => do readString? ((← unescape? c) :: acc) rest
  | c :: rest => readString? (c :: acc) rest

/-! ### Documents -/

/-- What follows a word at the start of the text. -/
def after? (word : String) (cs : List Char) : Option (List Char) :=
  if word.toList.isPrefixOf cs then some (cs.drop word.length) else none

mutual

/-- Reads a document. -/
def read? : Nat → List Char → Option (Json × List Char)
  | 0, _ => none
  | fuel + 1, cs =>
    match skipBlanks cs with
    | [] => none
    | '"' :: rest => (readString? [] rest).map fun (s, rest) => (string s, rest)
    | '[' :: rest =>
      match skipBlanks rest with
      | ']' :: rest => some (array [], rest)
      | rest => (readItems? fuel rest).map fun (items, rest) => (array items, rest)
    | '\x7b' :: rest =>
      match skipBlanks rest with
      | '\x7d' :: rest => some (object [], rest)
      | rest => (readMembers? fuel rest).map fun (members, rest) => (object members, rest)
    | cs =>
      match after? "null" cs, after? "true" cs, after? "false" cs with
      | some rest, _, _ => some (null, rest)
      | _, some rest, _ => some (bool true, rest)
      | _, _, some rest => some (bool false, rest)
      | _, _, _ => readNumber? cs

/-- Reads the items of an array, up to and including the bracket that ends it. -/
def readItems? : Nat → List Char → Option (List Json × List Char)
  | 0, _ => none
  | fuel + 1, cs => do
    let (item, rest) ← read? fuel cs
    match skipBlanks rest with
    | ',' :: rest =>
      let (items, rest) ← readItems? fuel rest
      return (item :: items, rest)
    | ']' :: rest => return ([item], rest)
    | _ => none

/-- Reads the members of an object, up to and including the brace that ends it. -/
def readMembers? : Nat → List Char → Option (List (String × Json) × List Char)
  | 0, _ => none
  | fuel + 1, cs => do
    match skipBlanks cs with
    | '"' :: rest =>
      let (name, rest) ← readString? [] rest
      match skipBlanks rest with
      | ':' :: rest =>
        let (value, rest) ← read? fuel rest
        match skipBlanks rest with
        | ',' :: rest =>
          let (members, rest) ← readMembers? fuel rest
          return ((name, value) :: members, rest)
        | '\x7d' :: rest => return ([(name, value)], rest)
        | _ => none
      | _ => none
    | _ => none

end

/-- Reads a text that holds one document. -/
def ofText? (text : String) : Option Json := do
  let cs := text.toList
  let (j, rest) ← read? (2 * cs.length + 2) cs
  if (skipBlanks rest).isEmpty then some j else none

end Json

end DocQuery
