import DocQuery.Extension.Remainder
import DocQuery.Extension.Rules

/-!
# Further operators

Operators that an application may choose from, and an engine with some of them: `$mod` tests a
remainder, and temperatures count as numbers.
-/

namespace DocQuery

/-- A matcher that shows its argument under a name. -/
def namedProbe (name : String) (argument : Value)
    (test : Surroundings → Value → Except Abort Outcome) : Probe where
  title := name ++ ": " ++ argument.text
  mark identity := name ++ ":" ++ argument.textWith identity
  dump prepared := structureText name [("condition", argument.dump), ("proc", prepared)]
  test

/-- The operator that tells even numbers. -/
def evenOperator : Operator :=
  .extension ⟨fun
    | .bool expected => .ok <| namedProbe "Even" (.bool expected) fun _ record =>
      .ok (.ok ((record.asInt?.any fun n => n.toInt % 2 == 0) == expected))
    | argument => .error (.unexpected "$even" "a boolean" argument)⟩

/-- The operator that fails with its argument. -/
def failOperator : Operator :=
  .extension ⟨fun argument => .ok <| namedProbe "Fail" argument fun _ _ =>
    .ok (.error (.raised argument.text))⟩

/-- The operator that compares a record with a setting of the query. -/
def configOperator : Operator :=
  .extension ⟨fun argument => .ok <| namedProbe "Config" argument fun s record =>
    let key := argument.asString?.getD ""
    match s.config.get? key with
    | some setting => .ok (.ok (setting == record))
    | none => .ok (.error (.raised ("no config " ++ key)))⟩

/-- The operator that compares its argument with the record that is being traced. -/
def currentOperator : Operator :=
  .extension ⟨fun argument => .ok <| namedProbe "Current" argument fun s _ =>
    .ok (.ok (s.current.any (· == argument)))⟩

/-- The operators by the names of their kinds. -/
def operatorTable : List (String × Operator) :=
  Registry.core.entries.map (fun e => (e.name, e.operator)) ++ [
    ("array_record", .arrayRecord),
    ("hash", .condition),
    ("literal", .literal),
    ("mod", remainderOperator),
    ("even", evenOperator),
    ("fail", failOperator),
    ("config", configOperator),
    ("current", currentOperator)]

/-- The operator of a kind. -/
def operator? (kind : String) : Option Operator := operatorTable.lookup kind

/-- The usual engine with the remainder operator and the rule for temperatures. -/
def Engine.extended : Engine :=
  let engine := Engine.core.register "mod" "$mod" remainderOperator
  match rule? "celsius" with
  | some rule => engine.addRule rule
  | none => engine

end DocQuery
