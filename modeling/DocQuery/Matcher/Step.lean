import DocQuery.Engine
import DocQuery.Matcher.Build

/-!
# Steps of an evaluation

What the ways of evaluating a matcher have in common: the tests without matchers below them, the
value that a literal argument is matched with, and the ways in which several outcomes make one.
An evaluation returns the matcher as it leaves it, because forms for arrays may have been built.
-/

namespace DocQuery

/-- An outcome with what the evaluation leaves behind, unless it aborts. -/
abbrev Step (α : Type) := Except Abort (Outcome × α)

/-- The opposite outcome. A failure stays what it is. -/
def Outcome.negate (o : Outcome) : Outcome := o.map not

/-! ### Taking values out of records -/

/-- The position that a key denotes in an array of the given length. A negative one counts from
the end. -/
def arrayIndex? (key : String) (length : Nat) : Option Nat :=
  if isIndexKey key then
    match key.toList with
    | '-' :: digits =>
      let n := digitsValue digits
      if n = 0 then some 0 else if n ≤ length then some (length - n) else none
    | digits => some (digitsValue digits)
  else none

/-- The value under a key of a record, missing if the record has none. Plain values cannot be
looked into. -/
def Value.dig? (record : Value) (key : String) : Option Value :=
  match record with
  | .map entries => some ((Entries.get? entries key).getD .missing)
  | .array items =>
    some (((arrayIndex? key items.length).bind fun i => items[i]?).getD .missing)
  | .host _ _ (some fields) => some ((Entries.get? fields key).getD .missing)
  | _ => none

/-- The value that a literal argument is matched with. -/
def Role.subject? (c : Context) (record : Value) : Role → Option Value
  | whole => some record
  | field name => (record.dig? name).map c.taken
  | negation => some record
  | size => record.asArray?.map fun items => .ofInt items.length

/-- What the outcome of a literal argument makes of its matcher. -/
def Role.conclude (o : Outcome) : Role → Outcome
  | negation => o.negate
  | _ => o

/-! ### Leaves -/

/-- Whether a record, or one of its elements if it is an array, is among the items. -/
def intersects (record : Value) (items : List Value) : Bool :=
  match record with
  | .array elements => elements.any fun element => items.any (· == element)
  | _ => items.any (· == record.orNull)

/-- Evaluates a matcher without matchers below it. -/
def Leaf.test (s : Surroundings) (record : Value) : Leaf → Except Abort Outcome
  | compare c argument => .ok (.ok (c.holds record.orNull argument))
  | existence expected => .ok (.ok ((!record.isMissing) == expected))
  | presence expected => .ok (.ok (record.isPresent == expected))
  | regex p => .ok (.ok (record.asString?.any p.isMatch))
  | member negated items => .ok (.ok (intersects record items != negated))
  | probe p => p.test s record

/-! ### Several outcomes -/

/-- The outcome that decides a group: a failed child decides a group of which all have to
match, and a matching one a group of which any has to. -/
def Grouping.decisive : Grouping → Bool
  | condition => false
  | conjunction => false
  | disjunction => true
  | arrayRecord => true

/-- The outcome of an element that decides. -/
def Quantifier.decisive : Quantifier → Bool
  | any => true
  | every => false

/-- Evaluates a list one after the other up to the first item with the decisive outcome or a
failure. -/
def untilDecided {α : Type} (decisive : Bool) (eval : α → Step α) :
    List α → Except Abort (Outcome × List α)
  | [] => .ok (.ok (!decisive), [])
  | x :: rest => do
    let (outcome, x) ← eval x
    match outcome with
    | .error e => return (.error e, x :: rest)
    | .ok b =>
      if b = decisive then return (.ok decisive, x :: rest)
      else
        let (outcome, rest) ← untilDecided decisive eval rest
        return (outcome, x :: rest)

/-- Evaluates the same thing on one record after the other up to the first with the decisive
outcome or a failure. -/
def scan {α : Type} (decisive : Bool) (eval : α → Value → Step α) (x : α) :
    List Value → Except Abort (Outcome × α)
  | [] => .ok (.ok (!decisive), x)
  | record :: rest => do
    let (outcome, x) ← eval x record
    match outcome with
    | .error e => return (.error e, x)
    | .ok b => if b = decisive then return (.ok decisive, x) else scan decisive eval x rest

/-- The outcome of a list of outcomes, as if each had been looked at only up to the first that
decides or fails. -/
def foldOutcomes (decisive : Bool) : List Outcome → Outcome
  | [] => .ok (!decisive)
  | .error e :: _ => .error e
  | .ok b :: rest => if b = decisive then .ok decisive else foldOutcomes decisive rest

/-- Whether all outcomes are matches. -/
def foldAll (outcomes : List Outcome) : Outcome := foldOutcomes false outcomes

/-- Whether any outcome is a match. -/
def foldAny (outcomes : List Outcome) : Outcome := foldOutcomes true outcomes

/-- A bound for the nesting of matchers that evaluating an argument on a record takes. -/
def evaluationBound (argument record : Value) : Nat :=
  64 * (argument.height + 4) * (record.height + 4)

end DocQuery
