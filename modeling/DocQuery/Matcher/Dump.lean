import DocQuery.Engine
import DocQuery.Matcher.Node

/-!
# Matchers in full

The full text of a matcher shows how it is put together, and whether it has been prepared.
-/

namespace DocQuery

/-- The text that says whether a matcher has been prepared. -/
def preparedText (prepared : Bool) : String :=
  if prepared then "ProcCell(built)" else "ProcCell(empty)"

/-- The text of the fields of a matcher behind which comes whether it has been prepared. -/
def matcherText (name : String) (prepared : Bool) (fields : List (String × String)) : String :=
  structureText name (fields ++ [("proc", preparedText prepared)])

/-- The name of a membership test in full. -/
def memberTypeName (negated : Bool) : String := memberName negated ++ "Matcher"

/-- The full text of a leaf. -/
def Leaf.dump (prepared : Bool) : Leaf → String
  | compare c argument => structureText c.name [("condition", argument.dump)]
  | existence expected =>
    matcherText "ExistsMatcher" prepared [("expected", truthText expected)]
  | presence expected =>
    matcherText "PresentMatcher" prepared [("expected", truthText expected)]
  | regex p => matcherText "RegexMatcher" prepared [("pattern", p.dump)]
  | member negated items =>
    matcherText (memberTypeName negated) prepared
      [("condition", (Value.array items).dump),
        ("members", "Set(" ++ sequenceText (Value.dumpItems items) ++ ")")]
  | probe p => p.dump (preparedText prepared)

/-- Whether a form has been built, or found impossible to build. -/
def Form.isDecided : Form → Bool
  | .unbuilt => false
  | _ => true

/-- The full text of the form of a literal argument for arrays. -/
def Form.dump (argument : Value) (form : Form) : String :=
  structureText "LazyArrayRecord"
    [("condition", argument.dump), ("built", truthText form.isDecided)]

/-- The full text of what a literal argument is matched with, around that of the argument. -/
def Role.dump (c : Context) (prepared : Bool) (literal : String) : Role → String
  | whole => literal
  | field name =>
    matcherText "FieldMatcher" prepared
      [("field", Text.quote name), ("literal", literal), ("ctx", c.dump)]
  | negation => matcherText "NotMatcher" prepared [("literal", literal)]
  | size => matcherText "SizeMatcher" prepared [("literal", literal)]

mutual

/-- The full text of a matcher. -/
def Node.dump (c : Context) (prepared : Bool) : Node → String
  | .leaf l => l.dump prepared
  | .within negated argument bounds =>
    matcherText (memberTypeName negated) prepared
      [("condition", argument.dump), ("members", "Range(" ++ bounds.dump c prepared ++ ")")]
  | .elements quantifier argument inner =>
    matcherText (quantifier.name ++ "Matcher") prepared
      [("elements", structureText "ElementCondition"
        [("condition", argument.dump), ("inner", inner.dump c prepared), ("ctx", c.dump)])]
  | .group grouping argument children =>
    matcherText (grouping.name ++ "Matcher") prepared
      [("condition", argument.dump), ("children", sequenceText (dumpAll c prepared children))]
  | .literal role argument direct form =>
    role.dump c prepared <|
      matcherText "LiteralMatcher" prepared
        [("condition", argument.dump), ("dispatched", direct.dump c prepared),
          ("array_record", form.dump argument)]

/-- The full texts of several matchers. -/
def dumpAll (c : Context) (prepared : Bool) : List Node → List String
  | [] => []
  | n :: rest => n.dump c prepared :: dumpAll c prepared rest

end

end DocQuery
