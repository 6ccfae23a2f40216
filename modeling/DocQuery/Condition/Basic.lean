import DocQuery.Condition.Path
import DocQuery.Conversion

/-!
# Conditions

A raw condition is given by a value or by keys with values. Its normal form is one value, usually
a map: host values are converted, keys are expanded to nested maps, and these are merged in
order. A condition that is already normal is never normalized again.
-/

namespace DocQuery

/-- A field with an operator, as the key of a condition. -/
structure FieldOperator where
  field : String
  operator : String
deriving DecidableEq, Repr

/-- The key for an operator on a field. The operator gets a dollar sign if it has none. -/
def FieldOperator.named (field operator : String) : FieldOperator :=
  ⟨field, if operator.startsWith "$" then operator else "$" ++ operator⟩

/-- A condition in normal form. -/
structure Condition where
  value : Value

namespace Condition

/-- The key of a condition that is not normal yet: a path, a field with an operator, or a key
that is normal and stands for itself. -/
inductive Key
  | path (path : String)
  | operator (key : FieldOperator)
  | normalized (key : String)
deriving DecidableEq, Repr

/-- A condition that may not be normal. -/
inductive Raw
  | pairs (pairs : List (Key × Value))
  | value (v : Value)
  | normalized (c : Condition)

namespace Raw

/-- The condition without any requirement. -/
def empty : Raw := pairs []

/-- The keys and values of a condition. The entries of a map are keys with values already. Any
other value becomes the only branch of a conjunction, so that it is still refused. -/
def toPairs : Raw → List (Key × Value)
  | pairs ps => ps
  | value (.map entries) => entries.map fun (key, v) => (.path key, v)
  | normalized ⟨.map entries⟩ => entries.map fun (key, v) => (.normalized key, v)
  | value v => [(.path "$and", .array [v])]
  | normalized ⟨v⟩ => [(.normalized "$and", .array [v])]

/-- Adds a key with a value. -/
def extended (raw : Raw) (key : Key) (v : Value) : Raw := pairs (raw.toPairs ++ [(key, v)])

end Raw

/-- The entries that a key with a value stands for. -/
def Key.expand : Key → Value → Entries
  | path p, v => expandPath p v
  | normalized key, v => [(key, v)]
  | operator key, v => expandPath key.field (.map [(key.operator, v)])

end Condition

namespace Normalizer

mutual

/-- A value in a condition, in normal form. -/
def normalizeValue (n : Normalizer) : Value → Value
  | .array items => .array (n.normalizeItems items)
  | .map entries => .map (n.normalizeEntries [] entries)
  | .range start stop exclusive =>
    .range (n.normalizeEnd start) (n.normalizeEnd stop) exclusive
  | .host identity content fields =>
    (n.conditionRule? identity content).getD (.host identity content fields)
  | v => v

/-- The items of an array in normal form. -/
def normalizeItems (n : Normalizer) : List Value → List Value
  | [] => []
  | v :: rest => n.normalizeValue v :: n.normalizeItems rest

/-- The given entries merged with further ones, which are brought into normal form. -/
def normalizeEntries (n : Normalizer) (merged : Entries) : List (String × Value) → Entries
  | [] => merged
  | (path, v) :: rest =>
    n.normalizeEntries (merged.merge (expandPath path (n.normalizeValue v))) rest

/-- An end of a range in normal form. -/
def normalizeEnd (n : Normalizer) : Option Value → Option Value
  | none => none
  | some v => some (n.normalizeValue v)

end

/-- The entries that a key with a value stands for, in normal form. -/
def normalizePair (n : Normalizer) : Condition.Key → Value → Entries
  | .normalized key, v => [(key, v)]
  | key, v => key.expand (n.normalizeValue v)

/-- The entries that keys with values stand for, merged in order. -/
def mergePairs (n : Normalizer) (pairs : List (Condition.Key × Value)) : Entries :=
  pairs.foldl (fun merged (key, v) => merged.merge (n.normalizePair key v)) []

/-- The normal form of a condition. -/
def normalize (n : Normalizer) : Condition.Raw → Condition
  | .normalized c => c
  | .value v => ⟨n.normalizeValue v⟩
  | .pairs pairs => ⟨.map (n.mergePairs pairs)⟩

end Normalizer

end DocQuery
