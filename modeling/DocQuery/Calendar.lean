import DocQuery.Decimal.Shortest

/-!
# Dates and times

Dates and times of the proleptic calendar in their ISO form. A second may be followed by a leap
second, whose nanoseconds count on from the end of second 59. Years of four digits have no sign.
-/

namespace DocQuery

/-- A day of the calendar. -/
structure Date where
  year : Int
  month : Nat
  day : Nat
deriving DecidableEq, Repr

/-- A time of day. Nanoseconds from a thousand million on belong to a leap second. -/
structure TimeOfDay where
  hour : Nat
  minute : Nat
  second : Nat
  nanosecond : Nat
deriving DecidableEq, Repr

/-- A day and a time on it. -/
structure DateTime where
  date : Date
  time : TimeOfDay
deriving DecidableEq, Repr

/-- A number with zeros in front up to the given width. -/
def padded (width n : Nat) : List Char :=
  let digits := decimalDigits n
  List.replicate (width - digits.length) '0' ++ digits

/-- A year: four digits, and a sign in front where four digits do not do. -/
def yearText (year : Int) : List Char :=
  if 0 ≤ year ∧ year ≤ 9999 then padded 4 year.toNat
  else (if year < 0 then '-' else '+') :: padded 4 year.natAbs

/-- The date in its ISO form. -/
def Date.text (d : Date) : List Char :=
  yearText d.year ++ '-' :: padded 2 d.month ++ '-' :: padded 2 d.day

/-- The nanoseconds of a second, a leap second included. -/
def secondLength : Nat := 1000000000

/-- Whether the time belongs to a leap second. -/
def TimeOfDay.isLeap (t : TimeOfDay) : Bool := t.nanosecond ≥ secondLength

/-- The time in its ISO form down to the second. A leap second is second 60. -/
def TimeOfDay.text (t : TimeOfDay) : List Char :=
  padded 2 t.hour ++ ':' :: padded 2 t.minute ++
    ':' :: padded 2 (if t.isLeap then t.second + 1 else t.second)

/-- The fraction of a second: nothing, or three, six or nine digits, as few as do. -/
def fractionText (nanosecond : Nat) : List Char :=
  if nanosecond = 0 then []
  else if nanosecond % 1000000 = 0 then '.' :: padded 3 (nanosecond / 1000000)
  else if nanosecond % 1000 = 0 then '.' :: padded 6 (nanosecond / 1000)
  else '.' :: padded 9 nanosecond

/-- The time with the fraction of its second. -/
def TimeOfDay.fullText (t : TimeOfDay) : List Char :=
  t.text ++ fractionText (t.nanosecond % secondLength)

/-- The date and the time down to the second. -/
def DateTime.text (t : DateTime) : List Char := t.date.text ++ 'T' :: t.time.text

/-- The date and the time with the fraction of its second. -/
def DateTime.fullText (t : DateTime) : List Char := t.date.text ++ 'T' :: t.time.fullText

end DocQuery
