/-!
# The shortest decimal that reads back

A floating point number stands for all the reals that round to it, an interval around it. Among
the decimals in this interval, `Rounding.shortest` gives one with the fewest digits, and the
nearest of these to the number itself. Of two equally near ones it takes the larger.
-/

namespace DocQuery

/-- The number `digits * 10 ^ exponent`. -/
structure Decimal where
  digits : Nat
  exponent : Int
deriving DecidableEq, Repr

/-- The digits in base ten. -/
def decimalDigits (n : Nat) : List Char := Nat.toDigits 10 n

/-- The same number with no zero at the end of its digits. -/
def Decimal.strip (d : Decimal) : Decimal :=
  let zeros := ((decimalDigits d.digits).reverse.takeWhile (· = '0')).length
  if d.digits = 0 then d else ⟨d.digits / Nat.pow 10 zeros, d.exponent + zeros⟩

/-- A positive number `mid / unit` and the interval from `low / unit` to `high / unit` of the
reals that round to it. The ends belong to the interval if it is closed. -/
structure Rounding where
  low : Nat
  mid : Nat
  high : Nat
  unit : Nat
  closed : Bool
deriving DecidableEq, Repr

namespace Rounding

/-- The interval of the number `m * 2 ^ e`. Below a power of two the numbers lie twice as
close. -/
def ofBinary (m : Nat) (e : Int) (isPower : Bool) : Rounding :=
  let scale := Nat.pow 2 (e - 2).toNat
  ⟨(4 * m - (if isPower then 1 else 2)) * scale, 4 * m * scale, (4 * m + 2) * scale,
    Nat.pow 2 (2 - e).toNat, m % 2 == 0⟩

/-- The power of ten at which the digits of the number begin. -/
def magnitude (r : Rounding) : Int :=
  if r.unit ≤ r.mid then (decimalDigits (r.mid / r.unit)).length - 1
  else -((decimalDigits ((r.unit - 1) / r.mid)).length : Int)

/-- Whether `n / unit` lies in the interval, with all numbers scaled up by `factor`. -/
def holds (r : Rounding) (factor n : Nat) : Bool :=
  if r.closed then r.low * factor ≤ n && n ≤ r.high * factor
  else r.low * factor < n && n < r.high * factor

/-- The multiple of `10 ^ k` in the interval that is nearest to the number. -/
def onGrid? (r : Rounding) (k : Int) : Option Nat :=
  let factor := Nat.pow 10 (-k).toNat
  let step := r.unit * Nat.pow 10 k.toNat
  let below := r.mid * factor / step
  let excess := r.mid * factor % step
  match r.holds factor (below * step), r.holds factor ((below + 1) * step) with
  | true, true => some (if 2 * excess < step then below else below + 1)
  | true, false => some below
  | false, true => some (below + 1)
  | false, false => none

/-- The number of digits with which every number can be written. -/
def maxDigits : Nat := 17

/-- The nearest of the shortest decimals in the interval. -/
def shortest (r : Rounding) : Decimal :=
  let grids := (List.range maxDigits).map fun (n : Nat) => r.magnitude - (n : Int)
  ((grids.findSome? fun k => (r.onGrid? k).map fun d => Decimal.mk d k).getD ⟨0, 0⟩).strip

end Rounding

end DocQuery
