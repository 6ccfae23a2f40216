import DocQuery.Unicode.CharSet

/-!
# Byte forms of characters

A character is written as one to four bytes. All bytes behind the first one carry six bits of
the code point, and the first one carries the rest. An interval of characters falls into parts
such that the bytes of a part range independently of each other.
-/

namespace DocQuery.Unicode

/-- A range of bytes. -/
structure ByteRange where
  low : Nat
  high : Nat
deriving DecidableEq, Repr

/-- The byte forms of the numbers from `low` to `high`, whose first byte is `base` and the bits
above the `tail` bytes behind it, and where `rest` gives those bytes. -/
def byteForms (rest : Nat → Nat → List (List ByteRange)) (tail base low high : Nat) :
    List (List ByteRange) :=
  let unit := Nat.pow 64 tail
  let first := low / unit
  let last := high / unit
  if first = last then
    (rest (low % unit) (high % unit)).map (⟨base + first, base + first⟩ :: ·)
  else
    let fullFirst := if low % unit = 0 then first else first + 1
    let pastLast := if high % unit = unit - 1 then last + 1 else last
    (if fullFirst = first then []
      else (rest (low % unit) (unit - 1)).map (⟨base + first, base + first⟩ :: ·))
    ++ (if pastLast ≤ fullFirst then []
      else (rest 0 (unit - 1)).map (⟨base + fullFirst, base + (pastLast - 1)⟩ :: ·))
    ++ (if pastLast = last then (rest 0 (high % unit)).map (⟨base + last, base + last⟩ :: ·)
      else [])

/-- The byte forms of the numbers from `low` to `high` in bytes of six bits each. -/
def tailForms : Nat → Nat → Nat → List (List ByteRange)
  | 0, _, _ => [[]]
  | tail + 1, low, high => byteForms (tailForms tail) tail 0x80 low high

/-- The code points that take the same number of bytes: the first and the last one, the number
of bytes behind the first, and the first byte without bits of the code point. Surrogates have
none. -/
def byteLengths : List (Nat × Nat × Nat × Nat) := [
  (0, 0x7F, 0, 0), (0x80, 0x7FF, 1, 0xC0), (0x800, beforeSurrogates, 2, 0xE0),
  (behindSurrogates, 0xFFFF, 2, 0xE0), (0x10000, maxCode, 3, 0xF0)]

/-- The byte forms of the characters in an interval, in ascending order. -/
def Interval.byteForms (i : Interval) : List (List ByteRange) :=
  byteLengths.flatMap fun (low, high, tail, base) =>
    let low := max low i.low
    let high := min high i.high
    if high < low then []
    else Unicode.byteForms (tailForms tail) tail base low high

/-- The byte forms of the characters in a set, in ascending order. -/
def CharSet.byteForms (s : CharSet) : List (List ByteRange) :=
  s.intervals.flatMap Interval.byteForms

end DocQuery.Unicode
