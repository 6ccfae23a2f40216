import DocQuery.Value.Basic

/-!
# Values as text

The text of a value is close to its JSON form. Host values show their kind and content, and,
where the text serves to tell values apart, a mark of their identity.
-/

namespace DocQuery

namespace Value

/-- The texts between two brackets, with a comma and a space between them. -/
def listText (opening closing : String) (texts : List String) : String :=
  opening ++ String.intercalate ", " texts ++ closing

mutual

/-- The text of a value in which host values are marked by their identity. -/
def textWith (mark : Nat → String) : Value → String
  | null => "null"
  | missing => "<missing>"
  | bool b => if b then "true" else "false"
  | int n => toString n
  | float x => floatText x
  | string s => Text.quote s
  | array items => listText "[" "]" (itemTexts mark items)
  | map entries => listText "\x7b" "\x7d" (entryTexts mark entries)
  | regex p => p.render
  | range start stop exclusive =>
    endText mark start ++ (if exclusive then ".." else "..=") ++ endText mark stop
  | host identity content _ =>
    "#<" ++ content.typeName ++ " " ++ content.text ++ mark identity ++ ">"

/-- The texts of the items of an array. -/
def itemTexts (mark : Nat → String) : List Value → List String
  | [] => []
  | v :: rest => v.textWith mark :: itemTexts mark rest

/-- The texts of the entries of a map. -/
def entryTexts (mark : Nat → String) : List (String × Value) → List String
  | [] => []
  | (key, v) :: rest => (Text.quote key ++ ": " ++ v.textWith mark) :: entryTexts mark rest

/-- The text of an end of a range, nothing if it is open. -/
def endText (mark : Nat → String) : Option Value → String
  | none => ""
  | some v => v.textWith mark

end

/-- The text of a value. -/
def text (v : Value) : String := v.textWith fun _ => ""

/-- The mark that tells host values apart. -/
def identityMark (identity : Nat) : String := " @" ++ toString identity

/-- The text of a value that tells host values apart. -/
def uniqueText (v : Value) : String := v.textWith identityMark

end Value

end DocQuery
