import DocQuery.Value.Basic

/-!
# Errors

Compiling a condition can fail, and so can the evaluation of a compiled one. An evaluation that
fails has an outcome all the same: at the top it counts as no match. An evaluation that aborts
has none.
-/

namespace DocQuery

/-- The number of arrays and maps that may nest in a condition. -/
def maxDepth : Nat := 64

/-- The reason for which a condition is refused. -/
inductive CompileError
  | invalidCondition (operator expected actual : String)
  | pattern (e : PatternError)
  | depthExceeded (depth : Nat)
  | endless
deriving DecidableEq, Repr

/-- The argument of an operator is not of the expected kind. -/
def CompileError.unexpected (operator expected : String) (actual : Value) : CompileError :=
  invalidCondition operator expected actual.typeName

/-- The text of a reason for which a pattern is refused. -/
def PatternError.message : PatternError → String
  | tooLong length =>
    "pattern length is " ++ toString length ++ ", but maximum allowed is " ++
      toString maxPatternLength
  | unknownFlag source flag =>
    "invalid pattern \"" ++ source ++ "\": unknown flag '" ++ String.singleton flag ++ "'"
  | malformed source _ => "invalid pattern " ++ source

/-- The text of a reason for which a condition is refused. -/
def CompileError.message : CompileError → String
  | invalidCondition operator expected actual =>
    operator ++ " needs " ++ expected ++ ", got " ++ actual
  | pattern e => e.message
  | depthExceeded depth =>
    "condition nesting depth is " ++ toString depth ++ ", but maximum allowed is " ++
      toString maxDepth
  | endless => "condition has no finite form"

/-- The reason for which an evaluation fails. -/
inductive EvalError
  | construction (e : CompileError)
  | raised (text : String)
deriving DecidableEq, Repr

/-- The text of a reason for which an evaluation fails. -/
def EvalError.message : EvalError → String
  | construction e => "array record matcher could not be built: " ++ e.message
  | raised text => text

/-- What an evaluation comes to: whether the record matches, or a failure. -/
abbrev Outcome := Except EvalError Bool

/-- Whether the record matches, where a failure counts as no match. -/
def Outcome.isMatch : Outcome → Bool
  | .ok b => b
  | .error _ => false

/-- The reason for which an evaluation has no outcome: a number is too large, or the steps have
run out. -/
inductive Abort
  | overflow
  | exhausted
deriving DecidableEq, Repr

end DocQuery
