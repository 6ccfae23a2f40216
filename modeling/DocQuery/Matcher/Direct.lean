import DocQuery.Matcher.Step

/-!
# Direct evaluation

`Node.evaluate` walks down a matcher tree. It stops at the first child or element that decides, and
builds the forms for the arrays that it meets.
-/

namespace DocQuery

/-- Evaluates a matcher on a record, in at most so many nested steps. -/
def Node.evaluate (c : Context) : Nat → Node → Value → Except Abort (Outcome × Node)
  | 0, _, _ => .error .exhausted
  | _ + 1, .leaf l, record => do return (← l.test c.surroundings record, .leaf l)
  | fuel + 1, .within negated argument bounds, record => do
    let (outcome, bounds) ← match record with
      | .array items => scan (!negated) (Node.evaluate c fuel) bounds items
      | _ => bounds.evaluate c fuel record
    return (outcome, .within negated argument bounds)
  | fuel + 1, .elements quantifier argument inner, record =>
    match record with
    | .array (item :: items) => do
      let (outcome, inner) ←
        scan quantifier.decisive (fun inner item => inner.evaluate c fuel (c.taken item))
          inner (item :: items)
      return (outcome, .elements quantifier argument inner)
    | _ => .ok (.ok false, .elements quantifier argument inner)
  | fuel + 1, .group grouping argument children, record => do
    let (outcome, children) ←
      untilDecided grouping.decisive (fun child => child.evaluate c fuel record) children
    return (outcome, .group grouping argument children)
  | fuel + 1, .literal role argument direct form, record =>
    match role.subject? c record with
    | none => .ok (.ok false, .literal role argument direct form)
    | some (.array items) =>
      match form.force c.engine.registry argument with
      | .error e =>
        .ok (role.conclude (.error (.construction e)), .literal role argument direct (.refused e))
      | .ok n => do
        let (outcome, n) ← n.evaluate c fuel (.array items)
        return (role.conclude outcome, .literal role argument direct (.built n))
    | some subject => do
      let (outcome, direct) ← direct.evaluate c fuel subject
      return (role.conclude outcome, .literal role argument direct form)

end DocQuery
