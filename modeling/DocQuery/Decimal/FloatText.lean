import DocQuery.Decimal.Shortest

/-!
# Floating point numbers as text

`floatText` writes a number with the fewest digits that read back. `readFloat?` reads a decimal
number and rounds it to the nearest floating point number.
-/

namespace DocQuery

/-! ### Writing -/

/-- A choice of how decimals are written: those whose first digit has a place from `least` up to
and without `limit` have a decimal point, and the others an exponent. -/
structure Layout where
  least : Int
  limit : Int
  exponentMark : Char

/-- Zeros. -/
def zeros (n : Nat) : List Char := List.replicate n '0'

/-- A whole number with its sign. -/
def signedDigits (n : Int) : List Char :=
  if n < 0 then '-' :: decimalDigits n.natAbs else decimalDigits n.natAbs

/-- A decimal in the given layout. With a point there is a digit on each side of it. -/
def Layout.write (n : Layout) (d : Decimal) : List Char :=
  let digits := decimalDigits d.digits
  let point : Int := digits.length + d.exponent
  if n.least ≤ point - 1 ∧ point - 1 < n.limit then
    if point ≤ 0 then ['0', '.'] ++ zeros (-point).toNat ++ digits
    else if digits.length ≤ point then
      digits ++ zeros (point - digits.length).toNat ++ ['.', '0']
    else digits.take point.toNat ++ '.' :: digits.drop point.toNat
  else
    let fraction := digits.drop 1
    digits.take 1 ++ (if fraction.isEmpty then [] else '.' :: fraction) ++
      n.exponentMark :: signedDigits (point - 1)

/-- Numbers below one ten-thousandth and from ten to the sixteenth on have an exponent. -/
def valueLayout : Layout := ⟨-4, 16, 'e'⟩

/-- The number of fractions that a representation can have. -/
def fractionUnit : Nat := Nat.pow 2 52

/-- The parts of the representation of a number: its sign, exponent and fraction. -/
structure FloatParts where
  negative : Bool
  exponent : Nat
  fraction : Nat

/-- The parts of the representation of a number. -/
def FloatParts.of (x : Float) : FloatParts :=
  let bits := x.toBits.toNat
  ⟨bits / Nat.pow 2 63 == 1, bits / fractionUnit % Nat.pow 2 11, bits % fractionUnit⟩

/-- The reals that round to a finite number. -/
def FloatParts.rounding (p : FloatParts) : Rounding :=
  if p.exponent = 0 then .ofBinary p.fraction (-1074) false
  else .ofBinary (p.fraction + fractionUnit) (p.exponent - 1075) (p.fraction == 0)

/-- A number as text. -/
def floatText (x : Float) : String :=
  let p := FloatParts.of x
  let sign := if p.negative then ['-'] else []
  if p.exponent = 2047 then
    if p.fraction = 0 then String.ofList (sign ++ ['i', 'n', 'f']) else "NaN"
  else if p.exponent = 0 ∧ p.fraction = 0 then String.ofList (sign ++ ['0', '.', '0'])
  else String.ofList (sign ++ valueLayout.write p.rounding.shortest)

/-! ### Reading -/

/-- The number that digits in base ten denote. -/
def digitsValue (ds : List Char) : Nat :=
  ds.foldl (fun n c => 10 * n + (c.toNat - '0'.toNat)) 0

/-- The power of ten from which on every number is infinite, and below whose opposite every
number is zero. -/
def maxExponent : Int := 400

/-- The floating point number nearest to a decimal. -/
def Decimal.toFloat (d : Decimal) : Float :=
  let place := ((decimalDigits d.digits).length : Int) + d.exponent
  if d.digits = 0 ∨ place < -maxExponent then 0
  else if place > maxExponent then 1 / 0
  else if d.exponent < 0 then Float.ofScientific d.digits true (-d.exponent).toNat
  else Float.ofScientific d.digits false d.exponent.toNat

/-- Reads a sign. -/
def readSign : List Char → Bool × List Char
  | '-' :: rest => (true, rest)
  | '+' :: rest => (false, rest)
  | cs => (false, cs)

/-- Reads an exponent to the end of the text. -/
def readExponent? : List Char → Option Int
  | [] => some 0
  | c :: rest =>
    if c = 'e' ∨ c = 'E' then
      let (negative, digits) := readSign rest
      if digits.isEmpty ∨ !digits.all Char.isDigit then none
      else
        let n : Int := min (digitsValue digits) 100000
        some (if negative then -n else n)
    else none

/-- Reads an unsigned decimal to the end of the text. -/
def readDecimal? (cs : List Char) : Option Decimal := do
  let whole := cs.takeWhile Char.isDigit
  let rest := cs.dropWhile Char.isDigit
  let (fraction, rest) := match rest with
    | '.' :: more => (more.takeWhile Char.isDigit, more.dropWhile Char.isDigit)
    | _ => ([], rest)
  if whole.isEmpty && fraction.isEmpty then none
  let exponent ← readExponent? rest
  return ⟨digitsValue (whole ++ fraction), exponent - fraction.length⟩

/-- Reads a number, an infinity or the value that is no number. -/
def readFloat? (s : String) : Option Float := do
  let (negative, cs) := readSign s.toList
  let name := String.ofList (cs.map Char.toLower)
  let x ←
    if name = "inf" || name = "infinity" then some (1 / 0 : Float)
    else if name = "nan" then some (0 / 0 : Float)
    else (readDecimal? cs).map Decimal.toFloat
  return if negative then -x else x

end DocQuery
