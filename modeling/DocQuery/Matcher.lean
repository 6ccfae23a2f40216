import DocQuery.Matcher.Closure
import DocQuery.Matcher.Dump

/-!
# Matchers

A matcher is a matcher tree in a context, with the argument it was compiled from. It can be
evaluated in three ways. Each returns the matcher as it leaves it. Once the matcher is prepared it
keeps its closure, and all tests call that one: it stays the closure of the tree, whatever forms for
arrays are built.
-/

namespace DocQuery

/-- A compiled argument in a context. Once it has been prepared it holds the closure of its tree. -/
@[ext]
structure Matcher where
  context : Context
  argument : Value
  node : Node
  closure? : Option Closure
  captured : ∀ k ∈ closure?, k = node.closure

namespace Matcher

/-- A matcher tree in a context, not prepared yet. -/
def new (c : Context) (argument : Value) (n : Node) : Matcher := ⟨c, argument, n, none, nofun⟩

/-- The matcher of an operator and its argument. -/
def ofOperator? (c : Context) (operator : Operator) (argument : Value) :
    Except CompileError Matcher :=
  (operator.build? c.engine.registry argument).map (new c argument)

/-- The matcher of a field with a literal argument. -/
def ofField? (c : Context) (name : String) (argument : Value) : Except CompileError Matcher :=
  (fieldNode? c.engine.registry name argument).map (new c argument)

/-- The closure of the matcher: the one that it holds, or one that is made now. -/
def closure (m : Matcher) : Closure := m.closure?.getD m.node.closure

/-- The closure of a matcher is that of its tree, also when it was made earlier. -/
theorem closure_eq (m : Matcher) :
  m.closure = m.node.closure
  := by
  unfold closure
  cases h : m.closure? with
  | none => rfl
  | some k => exact m.captured k h

/-- Prepares the matcher. -/
def prepare (m : Matcher) : Matcher :=
  { m with
    closure? := some m.closure
    captured := by
      rintro _ ⟨⟩
      exact m.closure_eq }

/-- The matcher with the tree that an evaluation leaves behind. -/
def become (m : Matcher) (n : Node) (h : n.closure = m.node.closure) : Matcher :=
  { m with
    node := n
    captured := fun k hk => (m.captured k hk).trans h.symm }

/-- A matcher is prepared to the same closure before and after an evaluation. -/
theorem prepare_become (m : Matcher) (n : Node) (h : n.closure = m.node.closure) :
  (m.become n h).prepare = m.prepare.become n h
  := by
  have hclosure : (m.become n h).closure = m.closure := by
    rw [closure_eq, closure_eq]
    exact h
  ext1
  · rfl
  · rfl
  · rfl
  · exact congrArg some hclosure

/-- Evaluates the matcher on a record as it is. -/
def evaluate (m : Matcher) (record : Value) : Except Abort (Outcome × Matcher) :=
  (m.node.evaluate_ensures m.context (evaluationBound m.argument record) record).pmap
    fun (outcome, n) h => (outcome, m.become n h)

/-- Evaluating a matcher comes to what evaluating its tree comes to. -/
theorem evaluate_fst (m : Matcher) (record : Value) :
  (m.evaluate record).map Prod.fst
    = (m.node.evaluate m.context (evaluationBound m.argument record) record).map Prod.fst
  := by
  rw [evaluate, Ensures.map_pmap]
  apply Ensures.pmap_eq_map

/-- Calls a closure on a record as it is. -/
def call (m : Matcher) (k : Closure) (record : Value) : Except Abort (Outcome × Matcher) :=
  (k.call_ensures m.context (evaluationBound m.argument record) record m.node).pmap
    fun (outcome, n) h => (outcome, m.become n h)

/-- Calling the closure of its tree evaluates a matcher. -/
theorem call_eq_evaluate (m : Matcher) {k : Closure} (hk : k = m.node.closure) (record : Value) :
  m.call k record = m.evaluate record
  := by
  subst hk
  have hstep := m.node.call_closure m.context (evaluationBound m.argument record) record
  rw [Node.test_eq_evaluate] at hstep
  exact Ensures.pmap_congr hstep fun _ _ _ => rfl

/-- Tests a record as it is with the closure of the matcher. -/
def test (m : Matcher) (record : Value) : Except Abort (Outcome × Matcher) :=
  m.prepare.call m.closure record

/-- Testing with a matcher is evaluating and preparing it. -/
theorem test_eq (m : Matcher) (record : Value) :
  m.test record = (m.evaluate record).map fun (outcome, k) => (outcome, k.prepare)
  := by
  rw [test, call_eq_evaluate m.prepare m.closure_eq, evaluate, evaluate, Ensures.map_pmap]
  apply Ensures.pmap_congr rfl
  rintro ⟨outcome, n⟩ h h'
  exact congrArg (outcome, ·) (m.prepare_become n h).symm

/-- Evaluates the matcher on a record as it is, with a new trace. -/
def traced (m : Matcher) (record : Value) : Except Abort (Outcome × Matcher × Trace) :=
  (m.node.traced_ensures m.context (evaluationBound m.argument record) record .new).pmap
    fun (outcome, n, t) h => (outcome, m.become n h, t)

/-- Turns the conversion of values that are taken out of records on or off. -/
def setConverting (m : Matcher) (converting : Bool) : Matcher :=
  { m with context := { m.context with converting } }

/-- The lines of the matcher tree. -/
def tree (m : Matcher) : List String := m.node.outline.lines

/-- The full text of the matcher. -/
def dump (m : Matcher) : String := m.node.dump m.context m.closure?.isSome

end Matcher

end DocQuery
