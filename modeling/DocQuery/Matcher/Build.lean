import DocQuery.Condition.Range
import DocQuery.Matcher.ArrayCondition
import DocQuery.Matcher.Node

/-!
# Building matchers

`build` makes a matcher tree of an operator and its argument. The entries of a map become
matchers one by one: a key of the registry is an operator, and any other key is a field. Equal
matchers in a group are kept once, and a group of one matcher is that matcher.

A literal argument is matched by its kind: a map as a condition, a pattern as a pattern, null as
what is null or does not exist, and everything else by equality. For arrays it has a form of its
own, in which an element has to match what is no operator on the array itself.
-/

namespace DocQuery

/-! ### Arguments -/

/-- The branches of a conjunction or disjunction. They have to be maps. -/
def branches (operator : String) (argument : Value) : Except CompileError (List Value) :=
  match argument with
  | .array items => match items.find? fun item => !item.isMap with
    | some bad => .error (.unexpected operator "an array of maps" bad)
    | none => .ok items
  | _ => .error (.unexpected operator "an array of maps" argument)

/-- The truth value of an argument. -/
def truthArgument (operator : String) (argument : Value) : Except CompileError Bool :=
  match argument with
  | .bool b => .ok b
  | _ => .error (.unexpected operator "a boolean" argument)

/-- The pattern of an argument. -/
def patternArgument : Value → Except CompileError Pattern
  | .string source => (Pattern.ofSource? source "").mapError .pattern
  | .regex p => .ok p
  | argument => .error (.unexpected "$regex" "a string or a regex" argument)

/-- The condition of being null or not being there. -/
def absentOrNull : Value :=
  .array [.map [("$exists", .bool false)], .map [("$eq", .null)]]

/-! ### Matchers -/

/-- A way to make matchers of operators and their arguments. -/
abbrev Maker := Operator → Value → Except CompileError Node

/-- The matcher for a literal argument and records that are no arrays. -/
def directNode (make : Maker) (argument : Value) : Except CompileError Node :=
  match argument with
  | .map _ => make .condition argument
  | .regex _ => make .regex argument
  | .null => make .disjunction absentOrNull
  | _ => make (.compare .equal) argument

/-- The matcher for a literal argument. -/
def literalNode (make : Maker) (role : Role) (argument : Value) : Except CompileError Node :=
  (directNode make argument).map fun direct => .literal role argument direct .unbuilt

/-- The matcher for an entry of a condition. -/
def entryNode (r : Registry) (make : Maker) (key : String) (v : Value) :
    Except CompileError Node :=
  match r.lookup? key with
  | some e => make e.operator v
  | none => literalNode make (.field key) v

/-- The matchers for the entries of a condition, each once. -/
def entryNodes (r : Registry) (make : Maker) (condition : Value) :
    Except CompileError (List Node) :=
  match condition with
  | .map entries => (entries.mapM fun (key, v) => entryNode r make key v).map distinct
  | _ => .error (.unexpected "condition" "a map" condition)

/-- The matchers for the ways in which a literal argument can hold for an array. -/
def arrayNodes (r : Registry) (make : Maker) (argument : Value) :
    Except CompileError (List Node) :=
  let element (operator : String) := make (.elements .any) (.map [(operator, argument)])
  match argument with
  | .map entries => do
    let condition ← arrayCondition r entries
    return [← make .condition (.map condition)]
  | .regex _ => do return [← element "$regex"]
  | .array _ => do return [← make (.compare .equal) argument, ← element "$eq"]
  | _ => do return [← element "$eq"]

/-- Makes a matcher of an operator and its argument, in at most so many nested steps. -/
def build (r : Registry) : Nat → Maker
  | 0, _, _ => .error .endless
  | fuel + 1, operator, argument =>
    let make := build r fuel
    match operator with
    | .compare c => .ok (.leaf (.compare c argument))
    | .existence => (truthArgument "$exists" argument).map fun b => .leaf (.existence b)
    | .presence => (truthArgument "$present" argument).map fun b => .leaf (.presence b)
    | .regex => (patternArgument argument).map fun p => .leaf (.regex p)
    | .member negated => match argument with
      | .array items => .ok (.leaf (.member negated items))
      | .range start stop exclusive =>
        let bounds := if negated then outsideRange start stop exclusive
          else insideRange start stop exclusive
        (make .condition bounds).map fun n => .within negated argument n
      | _ => .error (.unexpected (if negated then "$nin" else "$in") "an array or a range" argument)
    | .conjunction => do
      let children ← (← branches "$and" argument).mapM fun branch => entryNodes r make branch
      return unwrap (distinct children.flatten) (.group .conjunction argument)
    | .disjunction => do
      let children ← (← branches "$or" argument).mapM fun branch => make .condition branch
      return unwrap (distinct children) (.group .disjunction argument)
    | .negation => literalNode make .negation argument
    | .elements quantifier => match argument with
      | .map _ => (make .condition argument).map fun n => .elements quantifier argument n
      | _ => .error (.unexpected quantifier.key "a map" argument)
    | .size => literalNode make .size argument
    | .condition => do
      let children ← entryNodes r make argument
      return unwrap children (.group .condition argument)
    | .arrayRecord => do
      let children ← arrayNodes r make argument
      return unwrap (distinct children) (.group .arrayRecord argument)
    | .literal => literalNode make .whole argument
    | .extension e => (e.build argument).map fun p => .leaf (.probe p)

/-- A bound for the nesting of steps that an argument takes. -/
def buildBound (argument : Value) : Nat := 64 * (argument.height + 4)

/-- The matcher of an operator and its argument. -/
def Operator.build? (r : Registry) (operator : Operator) (argument : Value) :
    Except CompileError Node :=
  build r (buildBound argument) operator argument

/-- The matcher of a field with a literal argument. -/
def fieldNode? (r : Registry) (name : String) (argument : Value) : Except CompileError Node :=
  literalNode (build r (buildBound argument)) (.field name) argument

/-- The matchers for the entries of a condition, each once. -/
def conditionNodes? (r : Registry) (condition : Value) : Except CompileError (List Node) :=
  entryNodes r (build r (buildBound condition)) condition

/-- The matcher of a literal argument for arrays, built if it has not been before. -/
def Form.force (r : Registry) (argument : Value) : Form → Except CompileError Node
  | .unbuilt => Operator.arrayRecord.build? r argument
  | .refused e => .error e
  | .built n => .ok n

/-! ### Validity -/

mutual

/-- Whether the arguments in a matcher are still of the expected kinds. -/
def Node.check : Node → Except CompileError Unit
  | .leaf _ => .ok ()
  | .within _ _ _ => .ok ()
  | .elements quantifier argument inner =>
    if argument.isMap then inner.check
    else .error (.unexpected quantifier.key "a map" argument)
  | .group .condition argument children =>
    if argument.isMap then checkAll children
    else .error (.unexpected "condition" "a map" argument)
  | .group .conjunction argument _ => (branches "$and" argument).map fun _ => ()
  | .group .disjunction argument _ => (branches "$or" argument).map fun _ => ()
  | .group .arrayRecord _ _ => .ok ()
  | .literal (.field _) _ _ _ => .ok ()
  | .literal _ _ direct _ => direct.check

/-- Whether the arguments in several matchers are still of the expected kinds. -/
def checkAll : List Node → Except CompileError Unit
  | [] => .ok ()
  | n :: rest => do
    n.check
    checkAll rest

end

end DocQuery
