import DocQuery.Matcher.Direct
import DocQuery.Matcher.Ensures

/-!
# Closures

A matcher is prepared to a closure, which has captured what never changes in it: the tests without
matchers below them, the names of fields, the literal arguments, and the closures of its children.
The rest it reads when it is called: the context, which all matchers of a tree share, and the forms
for arrays as they are by then. No evaluation changes what the closure of a matcher has captured, so
calling it is `Node.test` at all times.
-/

namespace DocQuery

/-! ### Tests in turn -/

namespace Test

variable {α β : Type}

/-- Tests in turn, each of an item of its own, up to the first with the decisive outcome or a
failure. -/
def inTurn (decisive : Bool) : List (Test α) → Test (List α)
  | test :: tests, record, x :: rest =>
    (if decisive then orElse else andThen) (test record x)
      (fun x => leaving (x :: ·) (inTurn decisive tests record rest)) (· :: rest)
  | _, _, xs => .ok (.ok (!decisive), xs)

/-- Tests in turn keep what each of them keeps of its item. -/
theorem ensures_inTurn {decisive : Bool} {f : α → β} {tests : List (Test α)} {record : Value}
    (h : ∀ test ∈ tests, ∀ x, Ensures (fun r => f r.2 = f x) (test record x)) (xs : List α) :
  Ensures (fun r => r.2.map f = xs.map f) (inTurn decisive tests record xs)
  := by
  induction tests generalizing xs with
  | nil => cases xs <;> exact .ok rfl
  | cons test tests ih =>
    obtain ⟨htest, hrest⟩ := List.forall_mem_cons.mp h
    cases xs with
    | nil => exact .ok rfl
    | cons x rest =>
      have hx := htest x
      rw [inTurn]
      generalize test record x = step at hx ⊢
      have hstop : ∀ outcome y, step = .ok (outcome, y) →
          Ensures (fun r => r.2.map f = (x :: rest).map f) (.ok (outcome, y :: rest)) := by
        intro outcome y hy
        apply Ensures.ok
        rw [List.map_cons, List.map_cons, hx.of_eq_ok hy]
      have hgo : ∀ outcome y, step = .ok (outcome, y) →
          Ensures (fun r => r.2.map f = (x :: rest).map f)
            (leaving (y :: ·) (inTurn decisive tests record rest)) := by
        intro outcome y hy
        apply (ih hrest rest).map
        intro result hys
        rw [List.map_cons, List.map_cons, hx.of_eq_ok hy, hys]
      rcases step with _ | ⟨_ | b, y⟩
      · cases decisive <;> exact .error _
      · cases decisive <;> exact hstop _ y rfl
      · cases decisive
        · cases b
          · exact hstop _ y rfl
          · exact hgo _ y rfl
        · cases b
          · exact hgo _ y rfl
          · exact hstop _ y rfl

/-- Tests in turn come to what evaluating the items in turn comes to. -/
theorem inTurn_map {decisive : Bool} {tests : α → Test α} {eval : α → Step α} {record : Value}
    {xs : List α} (h : ∀ x ∈ xs, tests x record x = eval x) :
  inTurn decisive (xs.map tests) record xs = untilDecided decisive eval xs
  := by
  induction xs with
  | nil => rfl
  | cons x rest ih =>
    obtain ⟨hx, hrest⟩ := List.forall_mem_cons.mp h
    rw [List.map_cons, inTurn, untilDecided, hx, ih hrest]
    rcases eval x with _ | ⟨_ | b, y⟩
    · cases decisive <;> rfl
    · cases decisive <;> rfl
    · cases decisive <;> cases b <;> cases untilDecided _ eval rest <;> rfl

end Test

/-! ### Closures -/

/-- What a matcher is prepared to. -/
inductive Closure
  | leaf (l : Leaf)
  | within (negated : Bool) (bounds : Closure)
  | elements (quantifier : Quantifier) (inner : Closure)
  | group (decisive : Bool) (children : List Closure)
  | literal (role : Role) (argument : Value) (direct : Closure)

mutual

/-- The closure that a matcher is prepared to. -/
def Node.closure : Node → Closure
  | .leaf l => .leaf l
  | .within negated _ bounds => .within negated bounds.closure
  | .elements quantifier _ inner => .elements quantifier inner.closure
  | .group grouping _ children => .group grouping.decisive (closures children)
  | .literal role argument direct _ => .literal role argument direct.closure

/-- The closures of several matchers. -/
def closures : List Node → List Closure
  | [] => []
  | n :: rest => n.closure :: closures rest

end

theorem closures_eq_map (nodes : List Node) :
  closures nodes = nodes.map Node.closure
  := by
  induction nodes with
  | nil => rfl
  | cons n rest ih => rw [closures, ih, List.map_cons]

open Test

/-- Calls a closure, in at most so many nested steps. The matcher that it was made of is given as it is
at the time of the call. -/
def Closure.call (c : Context) : Nat → Closure → Test Node
  | 0, _, _, _ => .error .exhausted
  | _ + 1, .leaf l, record, n =>
    (l.test c.surroundings record).map fun outcome => (outcome, n)
  | fuel + 1, .within negated bounds, record, .within title argument n =>
    leaving (.within title argument ·) (Test.within negated (call c fuel bounds) record n)
  | fuel + 1, .elements quantifier inner, record, .elements title argument n =>
    leaving (.elements title argument ·) (Test.elements c quantifier (call c fuel inner) record n)
  | fuel + 1, .group decisive children, record, .group title argument nodes =>
    leaving (.group title argument ·) (inTurn decisive (children.map (call c fuel)) record nodes)
  | fuel + 1, .literal role argument direct, record, .literal title text n form =>
    match role.subject? c record with
    | none => .ok (.ok false, .literal title text n form)
    | some subject =>
      concluding role <|
        if subject.isArray then
          match form.force c.engine.registry argument with
          | .error e => .ok (.error (.construction e), .literal title text n (.refused e))
          | .ok m => leaving (.literal title text n <| .built ·) (call c fuel m.closure subject m)
        else leaving (.literal title text · form) (call c fuel direct subject n)
  | _ + 1, _, _, _ => .error .exhausted

/-! ### Prepared and direct evaluation -/

/-- Scanning records that were changed first is scanning with the change. -/
theorem scan_map {α : Type} (decisive : Bool) (eval : α → Value → Step α) (f : Value → Value)
    (x : α) (records : List Value) :
  scan decisive eval x (records.map f) = scan decisive (fun x record => eval x (f record)) x records
  := by
  induction records generalizing x with
  | nil => rfl
  | cons record rest ih =>
    rw [List.map_cons, scan, scan]
    cases eval x (f record) with
    | error abort => rfl
    | ok result =>
      obtain ⟨outcome, y⟩ := result
      cases outcome with
      | error e => rfl
      | ok b =>
        change (if b = decisive then _ else _) = if b = decisive then _ else _
        rw [ih]

theorem concluding_leaving {α β : Type} (role : Role) (f : α → β) (step : Step α) :
  Test.concluding role (Test.leaving f step)
    = Except.bind step fun (outcome, x) => pure (role.conclude outcome, f x)
  := by
  cases step <;> rfl

/-- A prepared matcher tests a record as evaluating the matcher does. -/
theorem Node.test_eq_evaluate (c : Context) (fuel : Nat) (n : Node) (record : Value) :
  Node.test c fuel record n = n.evaluate c fuel record
  := by
  induction fuel generalizing n record with
  | zero => rfl
  | succ fuel ih =>
    have hbelow : (Node.test c fuel : Test Node) = fun record n => n.evaluate c fuel record := by
      funext record n
      apply ih
    cases n with
    | leaf l => cases h : l.test c.surroundings record <;> simp [test, evaluate, h] <;> rfl
    | within negated argument bounds =>
      simp only [test, hbelow]
      cases record with
      | array items =>
        cases negated
        · change Test.leaving _ (Test.anyRecord _ items bounds) = _
          rw [Test.anyRecord_eq]
          rfl
        · change Test.leaving _ (Test.everyRecord _ items bounds) = _
          rw [Test.everyRecord_eq]
          rfl
      | _ => rfl
    | elements quantifier argument inner =>
      simp only [test, hbelow]
      cases record with
      | array items =>
        cases quantifier with
        | any =>
          simp only [Test.elements, Test.anyRecord_eq, scan_map]
          cases items <;> rfl
        | every =>
          cases items with
          | nil => rfl
          | cons item items =>
            simp only [Test.elements, Test.everyRecord_eq, scan_map]
            rfl
      | _ => cases quantifier <;> rfl
    | group grouping argument children =>
      simp only [test, hbelow, Test.allOf_eq, Test.anyOf_eq]
      cases grouping <;> rfl
    | literal role argument direct form =>
      simp only [test, evaluate, hbelow]
      cases role.subject? c record with
      | none => rfl
      | some subject =>
        cases subject with
        | array items =>
          dsimp only
          cases form.force c.engine.registry argument with
          | error e => rfl
          | ok n =>
            apply concluding_leaving role (fun n => literal role argument direct (.built n))
              (n.evaluate c fuel (.array items))
        | _ => exact concluding_leaving role (literal role argument · form) (direct.evaluate c fuel _)

/-! ### What evaluations keep -/

/-- The closure of a group depends on its children only through their closures. -/
theorem Node.closure_group {grouping : Grouping} {argument : Value} {nodes children : List Node}
    (h : nodes.map Node.closure = children.map Node.closure) :
  (Node.group grouping argument nodes).closure = (Node.group grouping argument children).closure
  := by
  rw [closure, closure, closures_eq_map, closures_eq_map, h]

/-- A call keeps the closure of the matcher, whatever closure is called. -/
theorem Closure.call_ensures (c : Context) (fuel : Nat) (k : Closure) (record : Value) (n : Node) :
  Ensures (fun r => r.2.closure = n.closure) (k.call c fuel record n)
  := by
  induction fuel generalizing k record n with
  | zero => exact .error _
  | succ fuel ih =>
    have hbelow : ∀ k k' record m, m.closure = k' →
        Coincide (fun m => m.closure = k') (call c fuel k record m) (call c fuel k record m) := by
      rintro k _ record m rfl
      exact ⟨rfl, ih k record m⟩
    cases k with
    | leaf l =>
      rw [call]
      cases l.test c.surroundings record with
      | error abort => exact .error abort
      | ok outcome => exact .ok rfl
    | within negated bounds =>
      cases n with
      | within title argument n =>
        rw [call]
        apply (Coincide.within (hbelow bounds n.closure) record negated rfl).ensures.map
        rintro ⟨outcome, m⟩ hm
        exact congrArg (Closure.within title) hm
      | _ => exact .error _
    | elements quantifier inner =>
      cases n with
      | elements title argument n =>
        rw [call]
        apply (Coincide.elements (hbelow inner n.closure) record c quantifier rfl).ensures.map
        rintro ⟨outcome, m⟩ hm
        exact congrArg (Closure.elements title) hm
      | _ => exact .error _
    | group decisive children =>
      cases n with
      | group title argument nodes =>
        have hturn : Ensures (fun r => r.2.map Node.closure = nodes.map Node.closure)
            (inTurn decisive (children.map (call c fuel)) record nodes) := by
          apply ensures_inTurn
          intro test htest n
          obtain ⟨k, -, rfl⟩ := List.mem_map.mp htest
          apply ih
        rw [call]
        apply hturn.map
        rintro ⟨outcome, nodes'⟩ hnodes
        exact Node.closure_group hnodes
      | _ => exact .error _
    | literal role argument direct =>
      cases n with
      | literal title text n form =>
        have hconclude : ∀ {step : Step Node} {k : Closure}, Ensures (fun r => r.2.closure = k) step →
            Ensures (fun r => r.2.closure = k) (concluding role step) :=
          fun h => h.map fun _ => id
        rw [call]
        cases role.subject? c record with
        | none => exact .ok rfl
        | some subject =>
          apply hconclude
          split
          · cases form.force c.engine.registry argument with
            | error e => exact .ok rfl
            | ok m => exact (ih m.closure subject m).map fun _ _ => rfl
          · apply (ih direct subject n).map
            rintro ⟨outcome, m⟩ hm
            exact congrArg (Closure.literal title text) hm
      | _ => exact .error _

/-- Calling the closure of a matcher is testing with the matcher. -/
theorem Node.call_closure (c : Context) (fuel : Nat) (record : Value) (n : Node) :
  n.closure.call c fuel record n = Node.test c fuel record n
  := by
  induction fuel generalizing record n with
  | zero => rfl
  | succ fuel ih =>
    have hbelow : ∀ k record m, m.closure = k →
        Coincide (fun m => m.closure = k) (k.call c fuel record m) (Node.test c fuel record m) := by
      rintro _ record m rfl
      exact ⟨ih record m, Closure.call_ensures c fuel m.closure record m⟩
    cases n with
    | leaf l => rfl
    | within negated argument bounds =>
      rw [closure, Closure.call, Node.test]
      rw [(Coincide.within (hbelow bounds.closure) record negated rfl).eq]
    | elements quantifier argument inner =>
      rw [closure, Closure.call, Node.test]
      rw [(Coincide.elements (hbelow inner.closure) record c quantifier rfl).eq]
    | group grouping argument children =>
      have hturn : inTurn grouping.decisive ((closures children).map (Closure.call c fuel)) record children
          = untilDecided grouping.decisive (Node.test c fuel record) children := by
        rw [closures_eq_map, List.map_map]
        exact inTurn_map fun n _ => ih record n
      rw [closure, Closure.call, hturn, Node.test]
      simp only [allOf_eq, anyOf_eq]
      cases grouping <;> rfl
    | literal role argument direct form =>
      rw [closure, Closure.call, Node.test]
      dsimp only
      cases role.subject? c record with
      | none => rfl
      | some subject =>
        cases form.force c.engine.registry argument with
        | error e =>
          dsimp only
          rw [ih]
        | ok m =>
          dsimp only
          rw [ih, ih]

/-- Evaluating a matcher keeps its closure. -/
theorem Node.evaluate_ensures (c : Context) (fuel : Nat) (n : Node) (record : Value) :
  Ensures (fun r => r.2.closure = n.closure) (n.evaluate c fuel record)
  := by
  rw [← test_eq_evaluate, ← call_closure]
  apply Closure.call_ensures

/-- Tracing a matcher keeps its closure. -/
theorem Node.traced_ensures (c : Context) (fuel : Nat) (n : Node) (record : Value) (t : Trace) :
  Ensures (fun r => r.2.1.closure = n.closure) (n.traced c fuel record t)
  := by
  induction fuel generalizing n record t with
  | zero => exact .error _
  | succ fuel ih =>
    have hscan : ∀ {k : Closure} (f : Value → Value) (n : Node) record t, n.closure = k →
        Ensures (fun r => r.2.1.closure = k) (n.traced c fuel (f record) t) := by
      rintro _ f n record t rfl
      apply ih
    rw [traced, Trace.scope]
    apply Ensures.bind (P := fun r => r.2.1.closure = n.closure)
    · cases n with
      | leaf l =>
        dsimp only
        cases l.test c.surroundings record with
        | error abort => exact .error abort
        | ok outcome => exact .ok rfl
      | within negated argument bounds =>
        dsimp only
        split
        · apply (ensures_traceScan (P := fun m => m.closure = bounds.closure) (hscan id) _ rfl _).bind
          rintro ⟨outcomes, m, t⟩ hm
          exact .ok (congrArg (Closure.within negated) hm)
        · apply (ih bounds record _).bind
          rintro ⟨outcome, m, t⟩ hm
          exact .ok (congrArg (Closure.within negated) hm)
      | elements quantifier argument inner =>
        dsimp only
        split
        · apply (ensures_traceScan (P := fun m => m.closure = inner.closure) (hscan c.taken) _ rfl _).bind
          rintro ⟨outcomes, m, t⟩ hm
          exact .ok (congrArg (Closure.elements quantifier) hm)
        · exact .ok rfl
      | group grouping argument children =>
        apply (ensures_traceAll (fun n t => ih n record t) children _).bind
        rintro ⟨outcomes, nodes, t⟩ hnodes
        exact .ok (closure_group hnodes)
      | literal role argument direct form =>
        dsimp only
        split
        · exact .ok rfl
        · split
          · exact .ok rfl
          · rename_i m _
            apply (ih m _ _).bind
            rintro ⟨outcome, m, t⟩ hm
            exact .ok rfl
        · apply (ih direct _ _).bind
          rintro ⟨outcome, m, t⟩ hm
          exact .ok (congrArg (Closure.literal role argument) hm)
    · rintro ⟨outcome, m, t⟩ hm
      exact .ok hm

end DocQuery
