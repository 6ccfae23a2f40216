import DocQuery.Matcher

/-!
# Queries

A query is a condition that has been compiled. It tests records directly, by a prepared predicate,
or with a trace. Records are normalized first, except by the predicate. A failure counts as no
match.
-/

namespace DocQuery

/-- A compiled condition. -/
structure Query where
  condition : Condition
  matcher : Matcher

namespace Query

/-- Compiles a condition in normal form. -/
def ofCondition? (c : Context) (condition : Condition) : Except CompileError Query :=
  if condition.value.depth > maxDepth then .error (.depthExceeded condition.value.depth)
  else (Matcher.ofOperator? c .condition condition.value).map fun m => ⟨condition, m⟩

/-- Normalizes and compiles a condition, with the settings of the query. -/
def compile? (e : Engine) (raw : Condition.Raw) (config : Entries) : Except CompileError Query :=
  ofCondition? (.new e config) (e.normalizer.normalize raw)

/-- The context of the query. -/
def context (q : Query) : Context := q.matcher.context

/-- The record as the query takes it. -/
def normalizeRecord (q : Query) (record : Value) : Value :=
  q.context.engine.normalizer.normalizeRecord record

/-- Tests a record as it is. -/
def evaluate (q : Query) (record : Value) : Except Abort (Outcome × Query) :=
  (q.matcher.evaluate record).map fun (outcome, m) => (outcome, { q with matcher := m })

/-- Whether a record matches. -/
def isMatch (q : Query) (record : Value) : Except Abort (Bool × Query) :=
  (q.evaluate (q.normalizeRecord record)).map fun (outcome, q) => (outcome.isMatch, q)

/-- The closure that the predicate of the query calls. -/
def closure (q : Query) : Closure := q.matcher.closure

/-- Prepares the predicate of the query. -/
def prepare (q : Query) : Query := { q with matcher := q.matcher.prepare }

/-- Calls a closure on a record as it is. -/
def call (q : Query) (k : Closure) (record : Value) : Except Abort (Outcome × Query) :=
  (q.matcher.call k record).map fun (outcome, m) => (outcome, { q with matcher := m })

/-- Tests a record as it is with the predicate of the query. -/
def test (q : Query) (record : Value) : Except Abort (Outcome × Query) :=
  (q.matcher.test record).map fun (outcome, m) => (outcome, { q with matcher := m })

/-- Whether a record, as it is, satisfies the predicate of the query. -/
def satisfies (q : Query) (record : Value) : Except Abort (Bool × Query) :=
  (q.test record).map fun (outcome, q) => (outcome.isMatch, q)

/-- Tests a record with a trace. While it is being tested it is the current record. -/
def trace (q : Query) (record : Value) : Except Abort (Trace × Query) :=
  let record := q.normalizeRecord record
  let m : Matcher := { q.matcher with context := { q.context with current := some record } }
  (m.traced record).map fun (_, m, t) =>
    (t, { q with matcher := { m with context := { m.context with current := none } } })

/-- The lines of the matcher tree. -/
def tree (q : Query) : List String := q.matcher.tree

/-- The matcher tree under a title. -/
def explain (q : Query) : String :=
  String.join (("QueryMatcher Tree:" :: q.tree).map (· ++ "\n"))

/-- Turns the conversion of values that are taken out of records on or off. -/
def setConverting (q : Query) (converting : Bool) : Query :=
  { q with matcher := q.matcher.setConverting converting }

/-- Compiles the condition again with other settings. -/
def withConfig? (q : Query) (config : Entries) : Except CompileError Query :=
  ofCondition? (q.context.fork config) q.condition

end Query

end DocQuery
