import DocQuery.Value.Basic

/-!
# Values in full

The full text of a value names the kind of every value in it. It serves to look into matchers.
-/

namespace DocQuery

/-- The text of a structure with named fields. -/
def structureText (name : String) (fields : List (String × String)) : String :=
  name ++ " \x7b " ++
    String.intercalate ", " (fields.map fun (field, text) => field ++ ": " ++ text) ++ " \x7d"

/-- The text of a list, given the texts of its items. -/
def sequenceText (texts : List String) : String := "[" ++ String.intercalate ", " texts ++ "]"

/-- The text of a map, given the texts of its entries. -/
def dictionaryText (texts : List String) : String :=
  structureText "Map" [("entries", "\x7b" ++ String.intercalate ", " texts ++ "\x7d")]

/-- The text of a truth value. -/
def truthText (b : Bool) : String := if b then "true" else "false"

namespace Value

mutual

/-- The full text of a value. -/
def dump : Value → String
  | null => "Null"
  | missing => "Missing"
  | bool b => "Bool(" ++ truthText b ++ ")"
  | int n => "Int(" ++ toString n ++ ")"
  | float x => "Float(" ++ floatText x ++ ")"
  | string s => "String(" ++ Text.quote s ++ ")"
  | array items => "Array(" ++ sequenceText (dumpItems items) ++ ")"
  | map entries => "Map(" ++ dictionaryText (dumpEntries entries) ++ ")"
  | regex p => "Regex(" ++ p.dump ++ ")"
  | range start stop exclusive =>
    "Range(" ++
      structureText "ValueRange"
        [("start", dumpEnd start), ("end", dumpEnd stop),
          ("exclusive_end", truthText exclusive)] ++ ")"
  | host _ content _ => "Custom(" ++ content.text ++ ")"

/-- The full texts of several values. -/
def dumpItems : List Value → List String
  | [] => []
  | v :: rest => v.dump :: dumpItems rest

/-- The full texts of several entries. -/
def dumpEntries : List (String × Value) → List String
  | [] => []
  | (key, v) :: rest => (Text.quote key ++ ": " ++ v.dump) :: dumpEntries rest

/-- The full text of an end of a range. -/
def dumpEnd : Option Value → String
  | none => "None"
  | some v => "Some(" ++ v.dump ++ ")"

end

end Value

/-- The full text of a map. -/
def Entries.dump (entries : Entries) : String := dictionaryText (Value.dumpEntries entries)

end DocQuery
