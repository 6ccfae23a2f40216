import DocQuery.Error
import DocQuery.Value.Text

/-!
# Traces

A trace records the matchers that an evaluation went through. A matcher is recorded when it is
finished, after the matchers inside it. In display order it comes before them.
-/

namespace DocQuery

/-- A matcher that was evaluated: how deep it is nested, its title, the record it saw, and what
it came to. -/
structure TraceEntry where
  level : Nat
  title : String
  record : String
  outcome : Outcome

/-- The outcome of a matcher in a trace. -/
def outcomeText : Outcome → String
  | .ok true => "matched"
  | .ok false => "dismatch"
  | .error e => "error: " ++ e.message

/-- The line of a matcher in a trace. -/
def TraceEntry.text (e : TraceEntry) : String :=
  String.ofList (List.replicate (2 * e.level) ' ') ++ e.title ++ " " ++ outcomeText e.outcome ++
    ", record: " ++ e.record

/-- What is left of a list behind the first item that fails a test is shorter. -/
theorem length_takeWhile_lt {α : Type} {p : α → Bool} {xs rest : List α} {x : α}
    (h : xs.dropWhile p = x :: rest) :
  (xs.takeWhile p).length < xs.length ∧ rest.length < xs.length
  := by
  have hlen := congrArg List.length (List.takeWhile_append_dropWhile (p := p) (l := xs))
  rw [h, List.length_append, List.length_cons] at hlen
  omega

/-- The entries of a level, each with the deeper ones that precede it behind it. -/
def reorder (level : Nat) (entries : List TraceEntry) : List TraceEntry :=
  match h : entries.dropWhile fun e => e.level != level with
  | [] => []
  | e :: rest =>
    have := length_takeWhile_lt h
    e :: reorder (level + 1) (entries.takeWhile fun e => e.level != level) ++ reorder level rest
termination_by entries.length
decreasing_by
  · apply this.1
  · apply this.2

/-- A trace in the making: the entries so far, the latest first, and the level of the next
one. -/
structure Trace where
  latest : List TraceEntry
  level : Nat

namespace Trace

/-- The trace without entries. -/
def new : Trace := ⟨[], 0⟩

/-- Runs an evaluation one level deeper and records its outcome. -/
def scope {α : Type} (t : Trace) (title : String) (record : Value)
    (body : Trace → Except Abort (Outcome × α × Trace)) :
    Except Abort (Outcome × α × Trace) := do
  let (outcome, a, inner) ← body { t with level := t.level + 1 }
  return (outcome, a, ⟨⟨t.level, title, record.text, outcome⟩ :: inner.latest, t.level⟩)

/-- The entries in the order in which they were finished. -/
def entries (t : Trace) : List TraceEntry := t.latest.reverse

/-- The entries in display order. -/
def reordered (t : Trace) : List TraceEntry := reorder 0 t.entries

/-- Whether the outermost matcher matched, if there is one. -/
def result (t : Trace) : Option Bool :=
  (t.latest.find? fun e => e.level == 0).map fun e => e.outcome.isMatch

/-- The trace as lines in display order. -/
def render (t : Trace) : String :=
  String.join (t.reordered.map fun e => e.text ++ "\n")

end Trace

end DocQuery
