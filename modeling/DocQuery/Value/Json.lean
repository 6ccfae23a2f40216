import DocQuery.Json.Basic
import DocQuery.Value.Entries
import DocQuery.Value.Text

/-!
# Values and JSON

Plain data has the same structure as its JSON form. What JSON cannot say becomes null or the
text of the value.
-/

namespace DocQuery

/-- Whether the number is neither infinite nor no number. -/
def isFiniteNumber (x : Float) : Bool := (FloatParts.of x).exponent != 2047

namespace Value

mutual

/-- The JSON form of a value. What is missing becomes null, and so does a number that is not
finite. A pattern, a range and a host value become their text. -/
def toJson : Value → Json
  | null => .null
  | missing => .null
  | bool b => .bool b
  | int n => .int n
  | float x => if isFiniteNumber x then .float x else .null
  | string s => .string s
  | array items => .array (itemsToJson items)
  | map entries => .object (entriesToJson entries)
  | regex p => .string (regex p).text
  | range start stop exclusive => .string (range start stop exclusive).text
  | host identity content fields => .string (host identity content fields).text

/-- The JSON forms of several values. -/
def itemsToJson : List Value → List Json
  | [] => []
  | v :: rest => v.toJson :: itemsToJson rest

/-- The JSON forms of the values of several entries. -/
def entriesToJson : List (String × Value) → List (String × Json)
  | [] => []
  | (key, v) :: rest => (key, v.toJson) :: entriesToJson rest

end

mutual

/-- The value of a JSON document. -/
def ofJson : Json → Value
  | .null => null
  | .bool b => bool b
  | .int n => int n
  | .float x => float x
  | .string s => string s
  | .array items => array (itemsOfJson items)
  | .object members => map (entriesOfJson [] members)

/-- The values of several JSON documents. -/
def itemsOfJson : List Json → List Value
  | [] => []
  | j :: rest => ofJson j :: itemsOfJson rest

/-- The given entries together with the members of a JSON object. -/
def entriesOfJson (entries : Entries) : List (String × Json) → Entries
  | [] => entries
  | (name, j) :: rest => entriesOfJson (entries.insert name (ofJson j)) rest

end

end Value

end DocQuery
