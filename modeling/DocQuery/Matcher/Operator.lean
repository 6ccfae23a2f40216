import DocQuery.Error
import DocQuery.Value.Entries
import DocQuery.Value.Order
import DocQuery.Value.Text

/-!
# Operators

An operator makes a matcher of an argument. There are the usual operators, forms of conditions
that may serve as operators too, and operators that an application adds.
-/

namespace DocQuery

/-- A comparison between a record and an argument. -/
inductive Comparison
  | equal
  | notEqual
  | greater
  | greaterOrEqual
  | less
  | lessOrEqual
deriving DecidableEq, Repr

namespace Comparison

/-- The name of a comparison in titles. -/
def name : Comparison → String
  | equal => "Eq"
  | notEqual => "Ne"
  | greater => "Gt"
  | greaterOrEqual => "Gte"
  | less => "Lt"
  | lessOrEqual => "Lte"

/-- Whether a record compares with the argument in the given way. Values without an order do
not compare in any of the four ways that need one. -/
def holds (c : Comparison) (record argument : Value) : Bool :=
  match c with
  | equal => record == argument
  | notEqual => !(record == argument)
  | greater => record.compare? argument == some .gt
  | greaterOrEqual => (record.compare? argument).any (· != .lt)
  | less => record.compare? argument == some .lt
  | lessOrEqual => (record.compare? argument).any (· != .gt)

end Comparison

/-- How many elements of an array have to match. All of them means at least one too. -/
inductive Quantifier
  | any
  | every
deriving DecidableEq, Repr

/-- The key of a test of elements. -/
def Quantifier.key : Quantifier → String
  | any => "$elemMatch"
  | every => "$every"

/-- What surrounds an evaluation: the settings that came with the query, and the record that is
being traced. -/
structure Surroundings where
  config : Entries
  current : Option Value

/-- A matcher that an application adds. It has no matchers below it, and does not see whether values that
are taken out of records are converted. -/
structure Probe where
  title : String
  mark : (Nat → String) → String
  dump : String → String
  test : Surroundings → Value → Except Abort Outcome

/-- An operator that an application adds. -/
structure Extension where
  build : Value → Except CompileError Probe

/-- An operator. -/
inductive Operator
  | compare (comparison : Comparison)
  | existence
  | presence
  | regex
  | member (negated : Bool)
  | conjunction
  | disjunction
  | negation
  | elements (quantifier : Quantifier)
  | size
  | condition
  | arrayRecord
  | literal
  | extension (e : Extension)

end DocQuery
