import DocQuery.Regex.Term
import DocQuery.Unicode.ByteForm

/-!
# The size of a regular expression

A regular expression is refused if an automaton that reads the bytes of a text would take too
much room. There are two of them, one for each direction. A state takes 32 bytes, a range of
bytes that a state reads takes 8, and a way out of a state that reads nothing takes 4.
-/

namespace DocQuery.Regex

open DocQuery.Unicode

/-- The direction in which an automaton reads a text. -/
inductive Direction
  | forward
  | backward
deriving DecidableEq, Repr

/-- The bytes that a state takes. -/
def stateBytes : Nat := 32

/-- The bytes that a range of bytes takes in the state that reads it. -/
def rangeBytes : Nat := 8

/-- The bytes that a way out of a state takes where nothing is read. -/
def linkBytes : Nat := 4

/-- The bytes that a state with two ways out takes. -/
def forkBytes : Nat := stateBytes + 2 * linkBytes

/-! ### Sets of characters -/

/-- How many ranges two byte forms have in common at their start. -/
def commonLength : List ByteRange → List ByteRange → Nat
  | a :: as, b :: bs => if a = b then commonLength as bs + 1 else 0
  | _, _ => 0

/-- The number of ranges in ascending byte forms, where forms share what they have in common at
their start. The form `last` is the one before. -/
def sharedLength (last : List ByteRange) : List (List ByteRange) → Nat
  | [] => 0
  | form :: rest => form.length - commonLength last form + sharedLength form rest

/-- The first ranges of ascending byte forms, each with what may follow it. -/
def firstRanges : List (List ByteRange) → List (ByteRange × List (List ByteRange))
  | [] => []
  | [] :: rest => firstRanges rest
  | (r :: form) :: rest =>
    match firstRanges rest with
    | [] => [(r, [form])]
    | (r', forms) :: more =>
      if r = r' then (r, form :: forms) :: more else (r, [form]) :: (r', forms) :: more

/-- What may be left to read of ascending byte forms, in at most so many ranges. -/
def remainders : Nat → List (List ByteRange) → List (List (List ByteRange))
  | 0, _ => []
  | n + 1, forms =>
    match firstRanges forms with
    | [] => []
    | firsts => forms :: firsts.flatMap fun (_, rest) => remainders n rest

/-- The bytes of the states that read a character of a set. A single character is read byte by
byte. Forward, there is a state for everything that may be left to read, and one behind it.
Backward, there is a state for every range, one that leads to all of them and one behind. -/
def setBytes (d : Direction) (s : CharSet) : Nat :=
  match s.single? with
  | some c => (String.singleton c).utf8ByteSize * stateBytes
  | none =>
    if s.isAscii then 2 * stateBytes + s.intervals.length * rangeBytes
    else match d with
      | .forward =>
        let states := (remainders 4 s.byteForms).eraseDups
        states.foldl
          (fun bytes forms => bytes + stateBytes + (firstRanges forms).length * rangeBytes)
          stateBytes
      | .backward =>
        let forms := s.byteForms
        2 * stateBytes + forms.length * linkBytes + sharedLength [] forms * stateBytes

/-! ### Terms -/

/-- The bytes of `n` copies in a row. -/
def copyBytes (n body : Nat) : Nat := if n = 0 then stateBytes else n * body

/-- The bytes of the automaton of a term. A repetition takes a copy of its body for each round
that is counted, and a captured group has a state at each end of it. Only the automaton that
reads forward captures. -/
def Term.bytes (d : Direction) : Term → Nat
  | .empty => stateBytes
  | .anchor _ => stateBytes
  | .set s => setBytes d s
  | .captured body =>
    match d with
    | .forward => body.bytes d + 2 * stateBytes
    | .backward => body.bytes d
  | .seq first second => first.bytes d + second.bytes d
  | .alt first second =>
    match second with
    | .alt _ _ => first.bytes d + linkBytes + second.bytes d
    | _ => first.bytes d + second.bytes d + forkBytes + stateBytes
  | .repeated body least none =>
    if least = 0 then
      if body.consumes then body.bytes d + forkBytes else body.bytes d + 2 * forkBytes + stateBytes
    else least * body.bytes d + forkBytes
  | .repeated body least (some most) =>
    if least = 0 && most = 1 then body.bytes d + forkBytes + stateBytes
    else if least = most then copyBytes least (body.bytes d)
    else copyBytes least (body.bytes d) + stateBytes
      + (most - least) * (body.bytes d + forkBytes)

/-- The bytes of the states around the automaton of a term: those that skip what comes before a
match, the one that accepts, and those that capture all of a match. -/
def frameBytes : Direction → Nat
  | .forward => forkBytes + 2 * stateBytes + rangeBytes + 3 * stateBytes
  | .backward => forkBytes + 2 * stateBytes + rangeBytes + stateBytes

/-- The bytes that an automaton may take. -/
def maxBytes : Nat := 10 * 1024 * 1024

/-- Whether the automaton of a term that reads in the given direction has the room it takes. -/
def Term.fits (t : Term) (d : Direction) : Bool := t.bytes d + frameBytes d ≤ maxBytes

/-- Reads the term that a source means under the given flags. -/
def Term.ofSource? (source : String) (fs : Flags) (verbose : Bool) : Except Fault Term := do
  let e ← Expr.ofSource? source verbose
  let (t, _) ← e.toTerm fs
  if t.fits .backward && t.fits .forward then return t else throw .tooLarge

end DocQuery.Regex
