import DocQuery.Host
import DocQuery.Pattern

/-!
# Values

Documents and the conditions on them are trees of values. Beside plain data there are patterns
and ranges, which only conditions hold, host values, and `Value.missing`, which stands for what
a document does not hold.
-/

namespace DocQuery

/-- A value. The entries of a map have an order and distinct keys. A range may be open at either
end. A host value has an identity, and fields if one can look into it. -/
inductive Value
  | null
  | missing
  | bool (b : Bool)
  | int (n : Int64)
  | float (x : Float)
  | string (s : String)
  | array (items : List Value)
  | map (entries : List (String × Value))
  | regex (p : Pattern)
  | range (start stop : Option Value) (exclusive : Bool)
  | host (identity : Nat) (content : Host) (fields : Option (List (String × Value)))

/-- The entries of a map, in order. -/
abbrev Entries := List (String × Value)

namespace Value

instance : Inhabited Value := ⟨null⟩

/-- Whether the value is null. -/
def isNull : Value → Bool
  | null => true
  | _ => false

/-- Whether the value is missing. -/
def isMissing : Value → Bool
  | missing => true
  | _ => false

/-- The text of a string. -/
def asString? : Value → Option String
  | string s => some s
  | _ => none

/-- The number of an integer. -/
def asInt? : Value → Option Int64
  | int n => some n
  | _ => none

/-- The truth value of a boolean. -/
def asBool? : Value → Option Bool
  | bool b => some b
  | _ => none

/-- The items of an array. -/
def asArray? : Value → Option (List Value)
  | array items => some items
  | _ => none

/-- The entries of a map. -/
def asMap? : Value → Option Entries
  | map entries => some entries
  | _ => none

/-- Whether the value is an array. -/
def isArray (v : Value) : Bool := v.asArray?.isSome

/-- Whether the value is a map. -/
def isMap (v : Value) : Bool := v.asMap?.isSome

/-- The name of the kind of a value. -/
def typeName : Value → String
  | null => "null"
  | missing => "missing"
  | bool _ => "bool"
  | int _ => "int"
  | float _ => "float"
  | string _ => "string"
  | array _ => "array"
  | map _ => "map"
  | regex _ => "regex"
  | range _ _ _ => "range"
  | host _ content _ => content.typeName

/-- The value, where what is missing counts as null. -/
def orNull : Value → Value
  | missing => null
  | v => v

/-- Whether the value has content: it is not null, missing, false or empty. -/
def isPresent : Value → Bool
  | null => false
  | missing => false
  | bool b => b
  | string s => !s.isEmpty
  | array items => !items.isEmpty
  | map entries => !entries.isEmpty
  | _ => true

mutual

/-- Whether a host value occurs in the value. -/
def hasHost : Value → Bool
  | host _ _ _ => true
  | array items => anyHost items
  | map entries => anyHostEntry entries
  | range start stop _ => hasHostEnd start || hasHostEnd stop
  | _ => false

/-- Whether a host value occurs in one of the values. -/
def anyHost : List Value → Bool
  | [] => false
  | v :: rest => v.hasHost || anyHost rest

/-- Whether a host value occurs in the value of one of the entries. -/
def anyHostEntry : List (String × Value) → Bool
  | [] => false
  | (_, v) :: rest => v.hasHost || anyHostEntry rest

/-- Whether a host value occurs at an end of a range. -/
def hasHostEnd : Option Value → Bool
  | none => false
  | some v => v.hasHost

end

mutual

/-- How deep arrays and maps nest in the value. -/
def depth : Value → Nat
  | array items => depthOfItems items + 1
  | map entries => depthOfEntries entries + 1
  | _ => 0

/-- The depth of the deepest of the values. -/
def depthOfItems : List Value → Nat
  | [] => 0
  | v :: rest => max v.depth (depthOfItems rest)

/-- The depth of the deepest value of the entries. -/
def depthOfEntries : List (String × Value) → Nat
  | [] => 0
  | (_, v) :: rest => max v.depth (depthOfEntries rest)

end

mutual

/-- How deep values of any kind nest in the value: in arrays, maps, ranges and the fields of
host values. -/
def height : Value → Nat
  | array items => heightOfItems items + 1
  | map entries => heightOfEntries entries + 1
  | range start stop _ => max (heightOfEnd start) (heightOfEnd stop) + 1
  | host _ _ (some fields) => heightOfEntries fields + 1
  | _ => 0

/-- The height of the highest of the values. -/
def heightOfItems : List Value → Nat
  | [] => 0
  | v :: rest => max v.height (heightOfItems rest)

/-- The height of the highest value of the entries. -/
def heightOfEntries : List (String × Value) → Nat
  | [] => 0
  | (_, v) :: rest => max v.height (heightOfEntries rest)

/-- The height of an end of a range. -/
def heightOfEnd : Option Value → Nat
  | none => 0
  | some v => v.height

end

end Value

end DocQuery
