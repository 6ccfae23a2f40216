import DocQuery.Matcher.Operator
import DocQuery.Matcher.Outline

/-!
# Matcher trees

A compiled condition is a tree of matchers. A matcher that takes its argument literally holds a
matcher for records that are no arrays, and a form for arrays, which is built when the first
array comes. Matchers with the same key are interchangeable.
-/

namespace DocQuery

/-- A matcher without matchers below it. -/
inductive Leaf
  | compare (comparison : Comparison) (argument : Value)
  | existence (expected : Bool)
  | presence (expected : Bool)
  | regex (p : Pattern)
  | member (negated : Bool) (items : List Value)
  | probe (p : Probe)

/-- How the children of a matcher go together. -/
inductive Grouping
  | condition
  | conjunction
  | disjunction
  | arrayRecord
deriving DecidableEq, Repr

/-- What a literal argument is matched with: the record itself, a value in it, the record with
the opposite outcome, or the number of its elements. -/
inductive Role
  | whole
  | field (name : String)
  | negation
  | size
deriving DecidableEq, Repr

mutual

/-- A matcher. -/
inductive Node
  | leaf (l : Leaf)
  | within (negated : Bool) (argument : Value) (bounds : Node)
  | elements (quantifier : Quantifier) (argument : Value) (inner : Node)
  | group (grouping : Grouping) (argument : Value) (children : List Node)
  | literal (role : Role) (argument : Value) (direct : Node) (form : Form)

/-- The form of a literal argument for arrays: not built yet, impossible to build, or built. -/
inductive Form
  | unbuilt
  | refused (e : CompileError)
  | built (n : Node)

end

/-! ### Titles and keys -/

/-- The name of a membership test in titles. -/
def memberName (negated : Bool) : String := if negated then "Nin" else "In"

/-- The name of a test of elements in titles. -/
def Quantifier.name : Quantifier → String
  | any => "ElemMatch"
  | every => "Every"

/-- The name of a group in titles. -/
def Grouping.name : Grouping → String
  | condition => "HashCondition"
  | conjunction => "And"
  | disjunction => "Or"
  | arrayRecord => "ArrayRecord"

/-- The title of a leaf. -/
def Leaf.title : Leaf → String
  | compare c argument => c.name ++ ": " ++ argument.text
  | existence expected => "Exists: " ++ (Value.bool expected).text
  | presence expected => "Present: " ++ (Value.bool expected).text
  | regex p => "Regex: " ++ p.render
  | member negated items => memberName negated ++ ": " ++ (Value.array items).text
  | probe p => p.title

/-- The key of a leaf, given how host values are marked in it. -/
def Leaf.keyWith (mark : Nat → String) : Leaf → String
  | compare c argument => c.name ++ ":" ++ argument.textWith mark
  | existence expected => "Exists:" ++ (Value.bool expected).text
  | presence expected => "Present:" ++ (Value.bool expected).text
  | regex p => "Regex:" ++ p.render
  | member negated items => memberName negated ++ ":" ++ (Value.array items).textWith mark
  | probe p => p.mark mark

/-- The title of a literal argument, given the text of the argument. -/
def Role.title (argument : String) : Role → String
  | whole => "Literal: " ++ argument
  | field name => "Field: " ++ Text.quote name ++ " to match: " ++ argument
  | negation => "Not: " ++ argument
  | size => "Size: " ++ argument

/-- The key of a literal argument, given the text of the argument. -/
def Role.key (argument : String) : Role → String
  | whole => "Literal:" ++ argument
  | field name => "Field:" ++ Text.quote name ++ ":" ++ argument
  | negation => "Not:" ++ argument
  | size => "Size:" ++ argument

namespace Node

/-- The title of a matcher. -/
def title : Node → String
  | leaf l => l.title
  | within negated argument _ => memberName negated ++ ": " ++ argument.text
  | elements quantifier argument _ => quantifier.name ++ ": " ++ argument.text
  | group grouping argument _ => grouping.name ++ ": " ++ argument.text
  | literal role argument _ _ => role.title argument.text

/-- The key of a matcher, given how host values are marked in it. -/
def keyWith (mark : Nat → String) : Node → String
  | leaf l => l.keyWith mark
  | within negated argument _ => memberName negated ++ ":" ++ argument.textWith mark
  | elements quantifier argument _ => quantifier.name ++ ":" ++ argument.textWith mark
  | group grouping argument _ => grouping.name ++ ":" ++ argument.textWith mark
  | literal role argument _ _ => role.key (argument.textWith mark)

/-- The key of a matcher. -/
def key (n : Node) : String := n.keyWith Value.identityMark

end Node

/-! ### Children -/

/-- The matcher of a form, if it is built. -/
def Form.built? : Form → Option Node
  | .built n => some n
  | _ => none

/-- The matchers right below a matcher, in the order in which they are evaluated. -/
def Node.children : Node → List Node
  | .leaf _ => []
  | .within _ _ bounds => [bounds]
  | .elements _ _ inner => [inner]
  | .group _ _ children => children
  | .literal _ _ direct form => direct :: form.built?.toList

mutual

/-- The outline of a matcher. -/
def Node.outline : Node → Outline
  | .leaf l => .node l.title []
  | .within negated argument bounds =>
    .node (memberName negated ++ ": " ++ argument.text) [bounds.outline]
  | .elements quantifier argument inner =>
    .node (quantifier.name ++ ": " ++ argument.text) [inner.outline]
  | .group grouping argument children =>
    .node (grouping.name ++ ": " ++ argument.text) (outlines children)
  | .literal role argument direct form =>
    .node (role.title argument.text) (direct.outline :: form.outlines)

/-- The outlines of several matchers. -/
def outlines : List Node → List Outline
  | [] => []
  | n :: rest => n.outline :: outlines rest

/-- The outline of a form, if it is built. -/
def Form.outlines : Form → List Outline
  | .unbuilt => []
  | .refused _ => []
  | .built n => [n.outline]

end

/-- Drops the matchers whose keys have been seen before. -/
def distinctFrom (seen : List String) : List Node → List Node
  | [] => []
  | n :: rest =>
    if seen.contains n.key then distinctFrom seen rest
    else n :: distinctFrom (n.key :: seen) rest

/-- Keeps the first matcher of each key. -/
def distinct (nodes : List Node) : List Node := distinctFrom [] nodes

/-- The only matcher itself, and otherwise the group of the matchers. -/
def unwrap (nodes : List Node) (wrap : List Node → Node) : Node :=
  match nodes with
  | [n] => n
  | nodes => wrap nodes

end DocQuery
