import DocQuery.Engine

/-!
# The remainder operator

An operator on whole numbers: the remainder by a divisor is as given. The remainder is never
negative. The division of the least number by minus one is too large to be done.
-/

namespace DocQuery

/-- A divisor with a remainder. -/
structure Remainder where
  divisor : Int64
  remainder : Int64
deriving DecidableEq, Repr

namespace Remainder

/-- The divisor and the remainder of an argument. -/
def ofValue? : Value → Option Remainder
  | .array [.int divisor, .int remainder] =>
    if divisor = 0 then none else some ⟨divisor, remainder⟩
  | _ => none

/-- Whether a record is a whole number with the remainder. -/
def test (m : Remainder) : Value → Except Abort Bool
  | .int n =>
    if n = Int64.minValue ∧ m.divisor = -1 then .error .overflow
    else .ok (n.toInt % m.divisor.toInt == m.remainder.toInt)
  | _ => .ok false

/-- The matcher of a divisor and a remainder. -/
def probe (m : Remainder) : Probe where
  title := "Mod: [" ++ toString m.divisor ++ ", " ++ toString m.remainder ++ "]"
  mark _ := "Mod:" ++ toString m.divisor ++ ":" ++ toString m.remainder
  dump prepared :=
    structureText "ModMatcher"
      [("divisor", toString m.divisor), ("remainder", toString m.remainder), ("proc", prepared)]
  test _ record := (m.test record).map Except.ok

end Remainder

/-- The remainder operator. -/
def remainderOperator : Operator :=
  .extension ⟨fun argument => match Remainder.ofValue? argument with
    | some m => .ok m.probe
    | none =>
      .error (.invalidCondition "$mod" "[divisor, remainder] with a non-zero divisor"
        argument.text)⟩

end DocQuery
