import DocQuery.Matcher.Operator
import DocQuery.Value.Dump

/-!
# Registries of operators

A registry says which keys of a condition are operators. There is one operator for a key: the one
that was registered last.
-/

namespace DocQuery

/-- An operator with its name and its key. -/
structure RegistryEntry where
  name : String
  key : String
  operator : Operator

/-- A registry of operators. -/
structure Registry where
  entries : List RegistryEntry

/-- Texts in order. -/
def sortTexts (texts : List String) : List String := texts.mergeSort fun s t => !decide (t < s)

namespace Registry

/-- The registry without operators. -/
def empty : Registry := ⟨[]⟩

/-- Puts an operator under a key. -/
def register (r : Registry) (name key : String) (operator : Operator) : Registry :=
  ⟨r.entries.filter (fun e => e.key != key) ++ [⟨name, key, operator⟩]⟩

/-- The operator under a key. -/
def lookup? (r : Registry) (key : String) : Option RegistryEntry :=
  r.entries.find? fun e => e.key == key

/-- Whether the key is that of an operator. -/
def has (r : Registry) (key : String) : Bool := (r.lookup? key).isSome

/-- The number of operators. -/
def size (r : Registry) : Nat := r.entries.length

/-- The keys in order. -/
def keys (r : Registry) : List String := sortTexts (r.entries.map RegistryEntry.key)

/-- The names in order. -/
def names (r : Registry) : List String := sortTexts (r.entries.map RegistryEntry.name)

/-- The registry with the usual operators. -/
def core : Registry :=
  let operators : List (String × String × Operator) := [
    ("in", "$in", .member false),
    ("nin", "$nin", .member true),
    ("eq", "$eq", .compare .equal),
    ("ne", "$ne", .compare .notEqual),
    ("gt", "$gt", .compare .greater),
    ("gte", "$gte", .compare .greaterOrEqual),
    ("lt", "$lt", .compare .less),
    ("lte", "$lte", .compare .lessOrEqual),
    ("exists", "$exists", .existence),
    ("present", "$present", .presence),
    ("regex", "$regex", .regex),
    ("and", "$and", .conjunction),
    ("or", "$or", .disjunction),
    ("not", "$not", .negation),
    ("elem_match", "$elemMatch", .elements .any),
    ("every", "$every", .elements .every),
    ("size", "$size", .size)]
  ⟨operators.map fun (name, key, operator) => ⟨name, key, operator⟩⟩

/-- The full text of a registry. -/
def dump (r : Registry) : String :=
  structureText "OperatorRegistry" [("operators", sequenceText (r.keys.map Text.quote))]

/-- The text of a registry in the making. -/
def summary (r : Registry) : String :=
  structureText "OperatorRegistryBuilder" [("operators", toString r.size)]

end Registry

/-- The full text of an operator in a registry. -/
def RegistryEntry.dump (e : RegistryEntry) : String :=
  "OperatorEntry \x7b name: " ++ Text.quote e.name ++ ", operator: " ++ Text.quote e.key ++
    ", .. \x7d"

end DocQuery
