import DocQuery.Matcher.Step

/-!
# Prepared evaluation

A prepared matcher is a test put together from the tests of its children. The tests of several
children are joined by `allOf` and `anyOf`, which come to the same as evaluating the children
in turn up to the first that decides.
-/

namespace DocQuery

/-- A test of records by something that the test may change. -/
abbrev Test (α : Type) := Value → α → Step α

namespace Test

/-- Goes on with the next test if the outcome is a match. -/
def andThen {α β : Type} (first : Step α) (next : α → Step β) (skip : α → β) : Step β :=
  match first with
  | .error abort => .error abort
  | .ok (.ok true, a) => next a
  | .ok (.ok false, a) => .ok (.ok false, skip a)
  | .ok (.error e, a) => .ok (.error e, skip a)

/-- Goes on with the next test if the outcome is no match. -/
def orElse {α β : Type} (first : Step α) (next : α → Step β) (skip : α → β) : Step β :=
  match first with
  | .error abort => .error abort
  | .ok (.ok true, a) => .ok (.ok true, skip a)
  | .ok (.ok false, a) => next a
  | .ok (.error e, a) => .ok (.error e, skip a)

/-- Applies a function to what a test leaves behind. -/
def leaving {α β : Type} (f : α → β) (s : Step α) : Step β :=
  s.map fun (outcome, a) => (outcome, f a)

/-- The test that all of a list pass. -/
def allOf {α : Type} (test : Test α) : Test (List α)
  | _, [] => .ok (.ok true, [])
  | record, x :: rest =>
    andThen (test record x) (fun x => leaving (x :: ·) (allOf test record rest)) (· :: rest)

/-- The test that any of a list passes. -/
def anyOf {α : Type} (test : Test α) : Test (List α)
  | _, [] => .ok (.ok false, [])
  | record, x :: rest =>
    orElse (test record x) (fun x => leaving (x :: ·) (anyOf test record rest)) (· :: rest)

/-- Whether every one of several records passes a test. -/
def everyRecord {α : Type} (test : Test α) : List Value → α → Step α
  | [], x => .ok (.ok true, x)
  | record :: rest, x => andThen (test record x) (everyRecord test rest) id

/-- Whether any of several records passes a test. -/
def anyRecord {α : Type} (test : Test α) : List Value → α → Step α
  | [], x => .ok (.ok false, x)
  | record :: rest, x => orElse (test record x) (anyRecord test rest) id

/-- The test of a record, or of its elements if it is an array: of all of them if the test is negated,
and otherwise of any. -/
def within {α : Type} (negated : Bool) (test : Test α) : Test α := fun record x =>
  match record with
  | .array items => (if negated then everyRecord else anyRecord) test items x
  | _ => test record x

/-- The test of the elements of an array, taken out of it. -/
def elements {α : Type} (c : Context) (quantifier : Quantifier) (test : Test α) : Test α :=
  fun record x =>
    match quantifier, record with
    | .any, .array items => anyRecord test (items.map c.taken) x
    | .every, .array (item :: items) => everyRecord test ((item :: items).map c.taken) x
    | _, _ => .ok (.ok false, x)

/-- Joined tests and tests in turn agree on whether all of a list pass. -/
theorem allOf_eq {α : Type} (test : Test α) (record : Value) (xs : List α) :
  allOf test record xs = untilDecided false (test record) xs
  := by
  induction xs with
  | nil => rfl
  | cons x xs ih =>
    rw [allOf, untilDecided, ih]
    rcases test record x with _ | ⟨_ | b, y⟩
    · rfl
    · rfl
    · cases b
      · rfl
      · rcases untilDecided false (test record) xs with _ | _ <;> rfl

/-- Joined tests and tests in turn agree on whether any of a list passes. -/
theorem anyOf_eq {α : Type} (test : Test α) (record : Value) (xs : List α) :
  anyOf test record xs = untilDecided true (test record) xs
  := by
  induction xs with
  | nil => rfl
  | cons x xs ih =>
    rw [anyOf, untilDecided, ih]
    rcases test record x with _ | ⟨_ | b, y⟩
    · rfl
    · rfl
    · cases b
      · rcases untilDecided true (test record) xs with _ | _ <;> rfl
      · rfl

/-- Joined tests and a scan of the records agree on whether every record passes. -/
theorem everyRecord_eq {α : Type} (test : Test α) (records : List Value) (x : α) :
  everyRecord test records x = scan false (fun x record => test record x) x records
  := by
  induction records generalizing x with
  | nil => rfl
  | cons record records ih =>
    rw [everyRecord, scan]
    rcases test record x with _ | ⟨_ | b, y⟩
    · rfl
    · rfl
    · cases b
      · rfl
      · exact ih y

/-- Joined tests and a scan of the records agree on whether any record passes. -/
theorem anyRecord_eq {α : Type} (test : Test α) (records : List Value) (x : α) :
  anyRecord test records x = scan true (fun x record => test record x) x records
  := by
  induction records generalizing x with
  | nil => rfl
  | cons record records ih =>
    rw [anyRecord, scan]
    rcases test record x with _ | ⟨_ | b, y⟩
    · rfl
    · rfl
    · cases b
      · exact ih y
      · rfl

/-- A test with the opposite outcome, if a matcher wants it. -/
def concluding {α : Type} (role : Role) (s : Step α) : Step α :=
  s.map fun (outcome, a) => (role.conclude outcome, a)

end Test

open Test

/-- The test that a matcher is prepared to, in at most so many nested steps. -/
def Node.test (c : Context) : Nat → Test Node
  | 0 => fun _ _ => .error .exhausted
  | fuel + 1 =>
    let below := Node.test c fuel
    fun record n =>
      match n with
      | .leaf l => (l.test c.surroundings record).map fun outcome => (outcome, .leaf l)
      | .within negated argument bounds =>
        leaving (.within negated argument ·) (Test.within negated below record bounds)
      | .elements quantifier argument inner =>
        leaving (.elements quantifier argument ·) (Test.elements c quantifier below record inner)
      | .group grouping argument children =>
        leaving (.group grouping argument ·) <|
          match grouping with
          | .condition => allOf below record children
          | .conjunction => allOf below record children
          | .disjunction => anyOf below record children
          | .arrayRecord => anyOf below record children
      | .literal role argument direct form =>
        match role.subject? c record with
        | none => .ok (.ok false, .literal role argument direct form)
        | some subject =>
          concluding role <|
            if subject.isArray then
              match form.force c.engine.registry argument with
              | .error e =>
                .ok (.error (.construction e), .literal role argument direct (.refused e))
              | .ok n =>
                leaving (fun n => .literal role argument direct (.built n)) (below subject n)
            else leaving (fun direct => .literal role argument direct form) (below subject direct)

end DocQuery
