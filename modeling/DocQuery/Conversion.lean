import DocQuery.Value.Basic

/-!
# Conversion of host values

Rules turn host values into plain data. Of the rules that apply to a value the latest wins. The
records have rules of their own, and the values in conditions have further ones, which come
first there.
-/

namespace DocQuery

/-- A conversion of host values, by identity and content. It is undefined for the kinds of
values that it does not apply to. -/
def Rule := Nat → Host → Option Value

/-- Rules, the latest first. -/
abbrev Rules := List Rule

namespace Rules

/-- Adds a rule. -/
def add (rules : Rules) (rule : Rule) : Rules := rule :: rules

/-- What the latest rule that applies makes of a host value. -/
def valueOf? (rules : Rules) (identity : Nat) (content : Host) : Option Value :=
  rules.findSome? fun rule => rule identity content

end Rules

/-- The rules that every engine with the usual operators has: a symbol becomes its name, and dates
and times become their ISO form down to the second. -/
def coreRule : Rule
  | _, .symbol name => some (.string name)
  | _, .instant time => some (.string (String.ofList (time.text ++ ['Z'])))
  | _, .localTime time => some (.string (String.ofList time.text))
  | _, .date day => some (.string (String.ofList day.text))
  | _, _ => none

/-- The rules for records, and the further rules for values in conditions. -/
structure Normalizer where
  records : Rules
  conditions : Rules

namespace Normalizer

/-- A normalizer without rules. -/
def empty : Normalizer := ⟨[], []⟩

/-- A normalizer with the rules that every engine has. -/
def core : Normalizer := ⟨[coreRule], []⟩

/-- What a host value in a record becomes. -/
def recordRule? (n : Normalizer) (identity : Nat) (content : Host) : Option Value :=
  n.records.valueOf? identity content

/-- What a host value in a condition becomes. -/
def conditionRule? (n : Normalizer) (identity : Nat) (content : Host) : Option Value :=
  (n.conditions.valueOf? identity content).or (n.recordRule? identity content)

mutual

/-- The value with the host values in its arrays and maps converted. -/
def convert (n : Normalizer) : Value → Value
  | .array items => .array (n.convertItems items)
  | .map entries => .map (n.convertEntries entries)
  | .host identity content fields =>
    (n.recordRule? identity content).getD (.host identity content fields)
  | v => v

/-- The values with the host values in them converted. -/
def convertItems (n : Normalizer) : List Value → List Value
  | [] => []
  | v :: rest => n.convert v :: n.convertItems rest

/-- The entries with the host values in them converted. -/
def convertEntries (n : Normalizer) : List (String × Value) → List (String × Value)
  | [] => []
  | (key, v) :: rest => (key, n.convert v) :: n.convertEntries rest

end

/-- A record as the matchers take it. A record without host values stays as it is. -/
def normalizeRecord (n : Normalizer) (record : Value) : Value :=
  if record.hasHost then n.convert record else record

/-- A value taken out of a record. Only a host value itself is converted: what an array or a map
holds is converted when it is taken out in turn. -/
def convertTop (n : Normalizer) : Value → Value
  | .host identity content fields =>
    (n.recordRule? identity content).getD (.host identity content fields)
  | v => v

/-- Whether taking a value out of a record converts it. -/
def convertsTop (n : Normalizer) : Value → Bool
  | .host identity content _ => (n.recordRule? identity content).isSome
  | _ => false

end Normalizer

end DocQuery
