/-!
# Sets of characters

A set of characters is a list of disjoint intervals of code points in ascending order. The ends
of an interval are characters. Two intervals are joined if their code points follow on each
other, and so they never are across the surrogates, which are no characters. Tables of character
properties are written as rows of intervals in hexadecimal and read by `ofRows`.
-/

namespace DocQuery.Unicode

/-- The largest code point. -/
def maxCode : Nat := 0x10FFFF

/-- A closed interval of code points. -/
structure Interval where
  low : Nat
  high : Nat
deriving DecidableEq, Repr

/-- The interval between two code points, given in any order. -/
def Interval.spanning (a b : Nat) : Interval := ⟨min a b, max a b⟩

/-- The last character before the surrogates, which are no characters. -/
def beforeSurrogates : Nat := 0xD7FF

/-- The first character behind the surrogates. -/
def behindSurrogates : Nat := 0xE000

/-- The code point of the next character. -/
def codeAfter (code : Nat) : Nat :=
  if code = beforeSurrogates then behindSurrogates else code + 1

/-- The code point of the character before. -/
def codeBefore (code : Nat) : Nat :=
  if code = behindSurrogates then beforeSurrogates else code - 1

/-- A set of characters, as ascending disjoint intervals. -/
structure CharSet where
  intervals : List Interval
deriving DecidableEq, Repr

namespace CharSet

/-- Whether one of the ascending intervals holds the code point. -/
def holds (code : Nat) : List Interval → Bool
  | [] => false
  | i :: rest => i.low ≤ code && (code ≤ i.high || holds code rest)

/-- Whether the character is in the set. -/
def contains (s : CharSet) (c : Char) : Bool :=
  holds c.toNat s.intervals

/-- Adds an interval that starts no earlier than the last one, which comes first in the list. -/
def absorb : List Interval → Interval → List Interval
  | [], i => [i]
  | last :: rest, i =>
    if i.low ≤ last.high + 1 then ⟨last.low, max last.high i.high⟩ :: rest
    else i :: last :: rest

/-- The set that covers the given intervals, in any order and with overlaps. -/
def ofIntervals (is : List Interval) : CharSet :=
  ⟨((is.mergeSort fun a b => a.low ≤ b.low).foldl absorb []).reverse⟩

/-- No character. -/
def empty : CharSet := ⟨[]⟩

/-- Every character. -/
def all : CharSet := ⟨[⟨0, maxCode⟩]⟩

/-- The characters from `low` to `high`. -/
def range (low high : Char) : CharSet := ofIntervals [⟨low.toNat, high.toNat⟩]

/-- The single character `c`. -/
def single (c : Char) : CharSet := range c c

/-- The characters of either set. -/
def union (s t : CharSet) : CharSet := ofIntervals (s.intervals ++ t.intervals)

/-- The intervals between an interval that ends at `last` and those behind it, and after them.
The gap between two intervals goes from the code after the one to the code before the other. If
the two lie on both sides of the surrogates, with nothing between them, these codes have changed
places, and the gap holds the two ends themselves. -/
def gaps (last : Nat) : List Interval → List Interval
  | [] => if last < maxCode then [⟨codeAfter last, maxCode⟩] else []
  | i :: rest => .spanning (codeAfter last) (codeBefore i.low) :: gaps i.high rest

/-- The characters outside the set: what comes before its intervals, between them and after. -/
def compl (s : CharSet) : CharSet :=
  match s.intervals with
  | [] => all
  | i :: rest => ⟨(if 0 < i.low then [⟨0, codeBefore i.low⟩] else []) ++ gaps i.high rest⟩

/-- What ascending intervals have in common with others. -/
def meet : List Interval → List Interval → List Interval
  | [], _ => []
  | _, [] => []
  | a :: as, b :: bs =>
    let low := max a.low b.low
    let high := min a.high b.high
    let more := if a.high < b.high then meet as (b :: bs) else meet (a :: as) bs
    if low ≤ high then ⟨low, high⟩ :: more else more
termination_by as bs => as.length + bs.length

/-- What is left of ascending intervals without others. -/
def without : List Interval → List Interval → List Interval
  | [], _ => []
  | a :: as, [] => a :: as
  | a :: as, b :: bs =>
    if b.high < a.low then without (a :: as) bs
    else if a.high < b.low then a :: without as (b :: bs)
    else
      let left := if a.low < b.low then [⟨a.low, codeBefore b.low⟩] else []
      if b.high < a.high then left ++ without (⟨codeAfter b.high, a.high⟩ :: as) bs
      else left ++ without as (b :: bs)
termination_by as bs => as.length + bs.length

/-- The characters of both sets. -/
def inter (s t : CharSet) : CharSet := ⟨meet s.intervals t.intervals⟩

/-- The characters of `s` that are not in `t`. -/
def diff (s t : CharSet) : CharSet := ⟨without s.intervals t.intervals⟩

/-- The characters of exactly one of the two sets. -/
def symmDiff (s t : CharSet) : CharSet := (s.union t).diff (s.inter t)

/-- The only character of a set with a single one. -/
def single? (s : CharSet) : Option Char :=
  match s.intervals with
  | [i] => if i.low = i.high then some (Char.ofNat i.low) else none
  | _ => none

/-- Whether the set holds no character beyond ASCII. -/
def isAscii (s : CharSet) : Bool := s.intervals.all (·.high < 0x80)

/-- The union of a list of sets. -/
def unions (ss : List CharSet) : CharSet := ofIntervals (ss.flatMap intervals)

end CharSet

/-! ### Tables -/

/-- A property of characters: its names in normal form, and the rows of its intervals. -/
structure Table where
  names : List String
  rows : List String

/-- The value of a hexadecimal digit. -/
def hexValue? (c : Char) : Option Nat :=
  if '0' ≤ c ∧ c ≤ '9' then some (c.toNat - '0'.toNat)
  else if 'a' ≤ c ∧ c ≤ 'f' then some (c.toNat - 'a'.toNat + 10)
  else if 'A' ≤ c ∧ c ≤ 'F' then some (c.toNat - 'A'.toNat + 10)
  else none

/-- The number that a word of hexadecimal digits denotes. -/
def hexNumber (word : List Char) : Nat :=
  word.foldl (fun n c => 16 * n + (hexValue? c).getD 0) 0

/-- The pieces of `text` between the characters equal to `separator`. -/
def pieces (separator : Char) : List Char → List (List Char)
  | [] => [[]]
  | c :: rest =>
    if c = separator then [] :: pieces separator rest
    else match pieces separator rest with
      | [] => [[c]]
      | piece :: more => (c :: piece) :: more

/-- The numbers of a word such as `41-5a`. -/
def hexNumbers (word : List Char) : List Nat :=
  (pieces '-' word).map hexNumber

/-- The words of the rows of a table. -/
def tableWords (rows : List String) : List (List Nat) :=
  (rows.flatMap fun row => pieces ' ' row.toList).map hexNumbers

/-- The interval of a word: a single code point, or a first and a last one. -/
def Interval.ofWord? : List Nat → Option Interval
  | [code] => some ⟨code, code⟩
  | [low, high] => some ⟨low, high⟩
  | _ => none

/-- The set of characters that the rows of a table list. -/
def CharSet.ofRows (rows : List String) : CharSet :=
  .ofIntervals ((tableWords rows).filterMap Interval.ofWord?)

/-- The set of characters of a table. -/
def Table.set (t : Table) : CharSet := .ofRows t.rows

/-- The first table that has the name. -/
def findTable? (tables : List Table) (name : String) : Option Table :=
  tables.find? (·.names.contains name)

/-- The characters of a table with the given name, none if there is no such table. -/
def namedSet (tables : List Table) (name : String) : CharSet :=
  ((findTable? tables name).map Table.set).getD .empty

/-- A set of characters that is worked out from others, with its names in normal form. -/
structure DerivedSet where
  names : List String
  set : Unit → CharSet

/-- The characters of the first derived set that has the name. -/
def findDerived? (sets : List DerivedSet) (name : String) : Option CharSet :=
  (sets.find? (·.names.contains name)).map (·.set ())

end DocQuery.Unicode
