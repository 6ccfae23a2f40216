import DocQuery.Json.Basic
import DocQuery.Query
import DocQuery.Value.Json

/-!
# Fixtures

A fixture is a condition with cases: records, each with the answer that is expected. Every case
is tested in the three ways of testing a record.
-/

namespace DocQuery

/-- A record with the answer that is expected. -/
structure FixtureCase where
  name : String
  record : Value
  expect : Bool

/-- A condition with cases, or one that must not compile. -/
structure Fixture where
  name : String
  description : String
  condition : Value
  cases : List FixtureCase
  expectError : Bool

/-! ### Reading -/

/-- A text. Other plain values stand for the text that they are written as. -/
def Json.scalarText? : Json → Option String
  | .array _ => none
  | .object _ => none
  | .string s => some s
  | j => some j.text

/-- A truth value. -/
def Json.asBool? : Json → Option Bool
  | .bool b => some b
  | _ => none

/-- A case of a fixture. -/
def FixtureCase.ofJson? : Json → Option FixtureCase
  | .object members => do
    return {
      name := ← (← members.lookup "name").scalarText?
      record := Value.ofJson (← members.lookup "record")
      expect := ← (← members.lookup "expect").asBool? }
  | _ => none

/-- The cases of a fixture. -/
def FixtureCase.listOfJson? : Json → Option (List FixtureCase)
  | .array items => items.mapM FixtureCase.ofJson?
  | _ => none

/-- A fixture. The description, the cases and the expectation of an error may be left out. -/
def Fixture.ofJson? : Json → Option Fixture
  | .object members => do
    return {
      name := ← (← members.lookup "name").scalarText?
      description := ← ((members.lookup "description").map Json.scalarText?).getD (some "")
      condition := Value.ofJson (← members.lookup "condition")
      cases := ← ((members.lookup "cases").map FixtureCase.listOfJson?).getD (some [])
      expectError := ← ((members.lookup "expect_error").map Json.asBool?).getD (some false) }
  | _ => none

/-! ### Running -/

/-- What a case comes to in the three ways of testing. -/
structure CaseResult where
  name : String
  expected : Bool
  safe : Bool
  fast : Bool
  traced : Option Bool

/-- Whether each of the three ways gave the expected answer. -/
def CaseResult.passed (r : CaseResult) : Bool :=
  r.safe == r.expected && r.fast == r.expected && r.traced == some r.expected

/-- Tests the record of a case. -/
def FixtureCase.run (c : FixtureCase) (q : Query) : Except Abort (CaseResult × Query) := do
  let (safe, q) ← q.isMatch c.record
  let (fast, q) ← q.satisfies (q.normalizeRecord c.record)
  let (trace, q) ← q.trace c.record
  return (⟨c.name, c.expect, safe, fast, trace.result⟩, q)

/-- Tests the records of several cases one after the other. -/
def runCases (q : Query) : List FixtureCase → Except Abort (List CaseResult)
  | [] => .ok []
  | c :: rest => do
    let (result, q) ← c.run q
    return result :: (← runCases q rest)

namespace Fixture

/-- Compiles the condition and tests the records. -/
def run (f : Fixture) (e : Engine) : Except Abort (Except CompileError (List CaseResult)) :=
  match Query.compile? e (.value f.condition) [] with
  | .error err => .ok (.error err)
  | .ok q => (runCases q f.cases).map Except.ok

/-- The text of a truth value that may be absent. -/
def optionText : Option Bool → String
  | none => "None"
  | some b => "Some(" ++ truthText b ++ ")"

/-- The complaint about a case that did not pass. -/
def caseComplaint (f : Fixture) (r : CaseResult) : String :=
  "Fixture '" ++ f.name ++ "' case '" ++ r.name ++ "' failed: expected " ++
    truthText r.expected ++ ", got safe=" ++ truthText r.safe ++ " fast=" ++ truthText r.fast ++
    " traced=" ++ optionText r.traced

/-- The first complaint about a fixture, if there is any. -/
def complaint? (f : Fixture) (e : Engine) : Except Abort (Option String) :=
  if f.expectError then
    match Query.compile? e (.value f.condition) [] with
    | .ok _ => .ok (some ("Fixture '" ++ f.name ++ "' compiled but was expected to fail"))
    | .error _ => .ok none
  else do
    match ← f.run e with
    | .error err => return some ("Fixture '" ++ f.name ++ "' failed to compile: " ++ err.message)
    | .ok results => return (results.find? fun r => !r.passed).map f.caseComplaint

end Fixture

end DocQuery
