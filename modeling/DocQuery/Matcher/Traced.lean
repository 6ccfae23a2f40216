import DocQuery.Matcher.Step
import DocQuery.Trace

/-!
# Traced evaluation

`Node.traced` evaluates a matcher with all its children on all elements and records each of them.
The outcome is put together from the outcomes of the children.
-/

namespace DocQuery

/-- Evaluates all of a list one after the other. -/
def traceAll {α : Type} (eval : α → Trace → Except Abort (Outcome × α × Trace)) :
    List α → Trace → Except Abort (List Outcome × List α × Trace)
  | [], t => .ok ([], [], t)
  | x :: rest, t => do
    let (outcome, x, t) ← eval x t
    let (outcomes, rest, t) ← traceAll eval rest t
    return (outcome :: outcomes, x :: rest, t)

/-- Evaluates the same thing on all of several records. -/
def traceScan {α : Type} (eval : α → Value → Trace → Except Abort (Outcome × α × Trace)) :
    α → List Value → Trace → Except Abort (List Outcome × α × Trace)
  | x, [], t => .ok ([], x, t)
  | x, record :: rest, t => do
    let (outcome, x, t) ← eval x record t
    let (outcomes, x, t) ← traceScan eval x rest t
    return (outcome :: outcomes, x, t)

/-- Evaluates a matcher on a record with a trace, in at most so many nested steps. -/
def Node.traced (c : Context) :
    Nat → Node → Value → Trace → Except Abort (Outcome × Node × Trace)
  | 0, _, _, _ => .error .exhausted
  | fuel + 1, n, record, t =>
    t.scope n.title record fun t =>
      match n with
      | .leaf l => do return (← l.test c.surroundings record, .leaf l, t)
      | .within negated argument bounds =>
        match record with
        | .array items => do
          let (outcomes, bounds, t) ← traceScan (Node.traced c fuel) bounds items t
          return (foldOutcomes (!negated) outcomes, .within negated argument bounds, t)
        | _ => do
          let (outcome, bounds, t) ← bounds.traced c fuel record t
          return (outcome, .within negated argument bounds, t)
      | .elements quantifier argument inner =>
        match record with
        | .array (item :: items) => do
          let (outcomes, inner, t) ←
            traceScan (fun inner item => inner.traced c fuel (c.taken item)) inner
              (item :: items) t
          return (foldOutcomes quantifier.decisive outcomes, .elements quantifier argument inner, t)
        | _ => .ok (.ok false, .elements quantifier argument inner, t)
      | .group grouping argument children => do
        let (outcomes, children, t) ←
          traceAll (fun child => child.traced c fuel record) children t
        return (foldOutcomes grouping.decisive outcomes, .group grouping argument children, t)
      | .literal role argument direct form =>
        match role.subject? c record with
        | none => .ok (.ok false, .literal role argument direct form, t)
        | some (.array items) =>
          match form.force c.engine.registry argument with
          | .error e =>
            .ok (role.conclude (.error (.construction e)),
              .literal role argument direct (.refused e), t)
          | .ok n => do
            let (outcome, n, t) ← n.traced c fuel (.array items) t
            return (role.conclude outcome, .literal role argument direct (.built n), t)
        | some subject => do
          let (outcome, direct, t) ← direct.traced c fuel subject t
          return (role.conclude outcome, .literal role argument direct form, t)

end DocQuery
