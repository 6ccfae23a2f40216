import DocQuery.Matcher.Direct
import DocQuery.Proofs.Building

/-!
# Verdicts

The verdict of a matcher on a record is what evaluating it comes to, said without forms for
arrays being kept: whatever forms a matcher holds, its verdict builds them anew. An evaluation of
a matcher whose forms were built from their own arguments comes to its verdict, and leaves behind
the same matcher with, perhaps, more forms built.
-/

namespace DocQuery

/-! ### Answers in turn -/

/-- What several answers come to, taken in turn up to the first that aborts, fails or decides. -/
def decided (decisive : Bool) : List (Except Abort Outcome) → Except Abort Outcome
  | [] => .ok (.ok (!decisive))
  | .error abort :: _ => .error abort
  | .ok (.error e) :: _ => .ok (.error e)
  | .ok (.ok b) :: rest => if b = decisive then .ok (.ok decisive) else decided decisive rest

/-- A step comes to an answer and leaves behind something with a property. -/
inductive Yields {α : Type} (P : α → Prop) : Step α → Except Abort Outcome → Prop
  | aborted (abort : Abort) : Yields P (.error abort) (.error abort)
  | finished (outcome : Outcome) (x : α) (h : P x) : Yields P (.ok (outcome, x)) (.ok outcome)

/-- The answer a step yields is its own. -/
theorem Yields.map_fst {α : Type} {P : α → Prop} {step : Step α} {answer : Except Abort Outcome}
    (h : Yields P step answer) :
  step.map Prod.fst = answer
  := by
  cases h <;> rfl

/-- What a finished step leaves behind has the property. -/
theorem Yields.leaves {α : Type} {P : α → Prop} {step : Step α} {answer : Except Abort Outcome}
    (h : Yields P step answer) {outcome : Outcome} {x : α} (hs : step = .ok (outcome, x)) :
  answer = .ok outcome ∧ P x
  := by
  subst hs
  cases h with
  | finished _ _ hx => exact ⟨rfl, hx⟩

/-- A step yields what is left behind with a weaker property, too. -/
theorem Yields.imp {α : Type} {P Q : α → Prop} {step : Step α} {answer : Except Abort Outcome}
    (h : Yields P step answer) (hPQ : ∀ x, P x → Q x) :
  Yields Q step answer
  := by
  cases h with
  | aborted abort => exact .aborted abort
  | finished outcome x hx => exact .finished outcome x (hPQ x hx)

/-- A step goes on to yield what a function makes of its answer and of what it leaves behind. -/
theorem Yields.map {α β : Type} {P : α → Prop} {Q : β → Prop} {step : Step α}
    {answer : Except Abort Outcome} (h : Yields P step answer) (f : Outcome → Outcome) (g : α → β)
    (hg : ∀ x, P x → Q (g x)) :
  Yields Q (Except.bind step fun (outcome, x) => pure (f outcome, g x)) (answer.map f)
  := by
  cases h with
  | aborted abort => exact .aborted abort
  | finished outcome x hx => exact .finished (f outcome) (g x) (hg x hx)

/-- A step goes on to yield the same answer when a function applies to what it leaves behind. -/
theorem Yields.leaving {α β : Type} {P : α → Prop} {Q : β → Prop} {step : Step α}
    {answer : Except Abort Outcome} (h : Yields P step answer) (g : α → β)
    (hg : ∀ x, P x → Q (g x)) :
  Yields Q (Except.bind step fun (outcome, x) => pure (outcome, g x)) answer
  := by
  cases h with
  | aborted abort => exact .aborted abort
  | finished outcome x hx => exact .finished outcome (g x) (hg x hx)

/-- Evaluating a list in turn comes to what the answers of its items come to in turn. What is
left behind has the property of the items, and the same image under a function that the items
keep. -/
theorem untilDecided_yields {α β : Type} {decisive : Bool} {eval : α → Step α}
    {answer : α → Except Abort Outcome} {P : α → Prop} {f : α → β} {xs : List α}
    (hxs : ∀ x ∈ xs, P x) (h : ∀ x ∈ xs, Yields (fun y => P y ∧ f y = f x) (eval x) (answer x)) :
  Yields (fun ys => (∀ y ∈ ys, P y) ∧ ys.map f = xs.map f)
    (untilDecided decisive eval xs) (decided decisive (xs.map answer))
  := by
  induction xs with
  | nil => exact .finished _ _ ⟨hxs, rfl⟩
  | cons x rest ih =>
    obtain ⟨-, hrest⟩ := List.forall_mem_cons.mp hxs
    obtain ⟨hx, h⟩ := List.forall_mem_cons.mp h
    have hys := ih hrest h
    rw [untilDecided]
    change Yields _ _ (decided decisive (answer x :: rest.map answer))
    generalize eval x = step, answer x = a at hx ⊢
    cases hx with
    | aborted abort => exact .aborted abort
    | finished outcome y hy =>
      have hleft : (∀ z ∈ y :: rest, P z) ∧ (y :: rest).map f = (x :: rest).map f :=
        ⟨List.forall_mem_cons.mpr ⟨hy.1, hrest⟩, by rw [List.map_cons, hy.2, List.map_cons]⟩
      cases outcome with
      | error e => exact .finished _ _ hleft
      | ok b =>
        change Yields _ (if b = decisive then _ else _) (if b = decisive then _ else _)
        split
        · exact .finished _ _ hleft
        · generalize untilDecided decisive eval rest = step,
            decided decisive (rest.map answer) = a at hys ⊢
          cases hys with
          | aborted abort => exact .aborted abort
          | finished outcome ys hys =>
            apply Yields.finished
            constructor
            · apply List.forall_mem_cons.mpr ⟨hy.1, hys.1⟩
            · rw [List.map_cons, List.map_cons, hy.2, hys.2]

/-- Scanning records comes to what the answers on the records come to in turn. -/
theorem scan_yields {α : Type} {decisive : Bool} {eval : α → Value → Step α}
    {answer : Value → Except Abort Outcome} {P : α → Prop} {records : List Value}
    (h : ∀ x record, P x → Yields P (eval x record) (answer record)) {x : α} (hx : P x) :
  Yields P (scan decisive eval x records) (decided decisive (records.map answer))
  := by
  induction records generalizing x with
  | nil => exact .finished _ _ hx
  | cons record rest ih =>
    have hs := h x record hx
    rw [scan, List.map_cons]
    generalize eval x record = step, answer record = a at hs ⊢
    cases hs with
    | aborted abort => exact .aborted abort
    | finished outcome y hy =>
      cases outcome with
      | error e => exact .finished _ _ hy
      | ok b =>
        change Yields _ (if b = decisive then _ else _) (if b = decisive then _ else _)
        split
        · exact .finished _ _ hy
        · apply ih hy

/-! ### The verdict of a matcher -/

/-- What a matcher comes to on a record, in at most so many nested steps. The form of a literal
argument for arrays is built anew. -/
def Node.verdict (c : Context) : Nat → Node → Value → Except Abort Outcome
  | 0, _, _ => .error .exhausted
  | _ + 1, .leaf l, record => l.test c.surroundings record
  | fuel + 1, .within negated _ bounds, record =>
    match record with
    | .array items => decided (!negated) (items.map (bounds.verdict c fuel))
    | _ => bounds.verdict c fuel record
  | fuel + 1, .elements quantifier _ inner, record =>
    match record with
    | .array (item :: items) =>
      decided quantifier.decisive ((item :: items).map fun item => inner.verdict c fuel (c.taken item))
    | _ => .ok (.ok false)
  | fuel + 1, .group grouping _ children, record =>
    decided grouping.decisive (children.map fun child => child.verdict c fuel record)
  | fuel + 1, .literal role argument direct _, record =>
    match role.subject? c record with
    | none => .ok (.ok false)
    | some (.array items) =>
      match Operator.arrayRecord.build? c.engine.registry argument with
      | .error e => .ok (role.conclude (.error (.construction e)))
      | .ok n => (n.verdict c fuel (.array items)).map fun outcome => role.conclude outcome
    | some subject => (direct.verdict c fuel subject).map fun outcome => role.conclude outcome

/-- A literal argument in a role does what it does as a whole on the value that the role looks
at. -/
theorem Node.verdict_literal (c : Context) (k : Nat) (role : Role) (argument : Value) (direct : Node)
    (form : Form) (record : Value) :
  (Node.literal role argument direct form).verdict c (k + 1) record
    = match role.subject? c record with
      | none => .ok (.ok false)
      | some x => ((Node.literal .whole argument direct .unbuilt).verdict c (k + 1) x).map
          fun outcome => role.conclude outcome
  := by
  simp only [Node.verdict]
  cases role.subject? c record with
  | none => rfl
  | some x =>
    cases x with
    | array items =>
      dsimp only [Role.subject?]
      cases Operator.arrayRecord.build? c.engine.registry argument with
      | error e => rfl
      | ok n =>
        dsimp only
        cases n.verdict c k (.array items) <;> rfl
    | _ =>
      dsimp only [Role.subject?]
      cases direct.verdict c k _ <;> rfl

/-! ### Forms -/

mutual

/-- The matcher as it was compiled, with no form for arrays built. -/
def Node.fresh : Node → Node
  | .leaf l => .leaf l
  | .within negated argument bounds => .within negated argument bounds.fresh
  | .elements quantifier argument inner => .elements quantifier argument inner.fresh
  | .group grouping argument children => .group grouping argument (freshAll children)
  | .literal role argument direct _ => .literal role argument direct.fresh .unbuilt

/-- Several matchers as they were compiled. -/
def freshAll : List Node → List Node
  | [] => []
  | n :: rest => n.fresh :: freshAll rest

end

theorem freshAll_eq_map (nodes : List Node) :
  freshAll nodes = nodes.map Node.fresh
  := by
  induction nodes with
  | nil => rfl
  | cons n rest ih => rw [freshAll, ih, List.map_cons]

mutual

/-- Every form in the matcher is what building it from its own argument gives. -/
def Node.Consistent (r : Registry) : Node → Prop
  | .leaf _ => True
  | .within _ _ bounds => bounds.Consistent r
  | .elements _ _ inner => inner.Consistent r
  | .group _ _ children => consistentAll r children
  | .literal _ argument direct form => direct.Consistent r ∧ form.Consistent r argument

/-- Every form in the matchers is what building it from its own argument gives. -/
def consistentAll (r : Registry) : List Node → Prop
  | [] => True
  | n :: rest => n.Consistent r ∧ consistentAll r rest

/-- The form is what building it from the argument gives, and so are the forms in it. -/
def Form.Consistent (r : Registry) (argument : Value) : Form → Prop
  | .unbuilt => True
  | .refused e => Operator.arrayRecord.build? r argument = .error e
  | .built n => Operator.arrayRecord.build? r argument = .ok n.fresh ∧ n.Consistent r

end

theorem consistentAll_iff (r : Registry) (nodes : List Node) :
  consistentAll r nodes ↔ ∀ n ∈ nodes, n.Consistent r
  := by
  induction nodes with
  | nil => simp [consistentAll]
  | cons n rest ih => rw [consistentAll, ih, List.forall_mem_cons]

mutual

/-- Nothing is left to build anew in a matcher as it was compiled. -/
theorem Node.fresh_fresh : ∀ n : Node, n.fresh.fresh = n.fresh
  | .leaf _ => rfl
  | .within _ _ bounds => by rw [Node.fresh, Node.fresh, bounds.fresh_fresh]
  | .elements _ _ inner => by rw [Node.fresh, Node.fresh, inner.fresh_fresh]
  | .group _ _ children => by rw [Node.fresh, Node.fresh, freshAll_freshAll children]
  | .literal _ _ direct _ => by rw [Node.fresh, Node.fresh, direct.fresh_fresh]

theorem freshAll_freshAll : ∀ nodes : List Node, freshAll (freshAll nodes) = freshAll nodes
  | [] => rfl
  | n :: rest => by rw [freshAll, freshAll, n.fresh_fresh, freshAll_freshAll rest]

end

mutual

/-- A matcher as it was compiled is consistent. -/
theorem Node.consistent_fresh (r : Registry) : ∀ n : Node, n.fresh.Consistent r
  | .leaf _ => trivial
  | .within _ _ bounds => bounds.consistent_fresh r
  | .elements _ _ inner => inner.consistent_fresh r
  | .group _ _ children => consistentAll_freshAll r children
  | .literal _ _ direct _ => ⟨direct.consistent_fresh r, trivial⟩

theorem consistentAll_freshAll (r : Registry) :
    ∀ nodes : List Node, consistentAll r (freshAll nodes)
  | [] => trivial
  | n :: rest => ⟨n.consistent_fresh r, consistentAll_freshAll r rest⟩

end

/-- The verdict of a matcher does not depend on the forms that it holds. -/
theorem Node.verdict_fresh (c : Context) (fuel : Nat) (n : Node) (record : Value) :
  n.fresh.verdict c fuel record = n.verdict c fuel record
  := by
  induction fuel generalizing n record with
  | zero => rfl
  | succ fuel ih =>
    cases n with
    | leaf l => rfl
    | within negated argument bounds =>
      rw [fresh]
      cases record <;> simp only [verdict, ih]
      congr 1
      apply List.map_congr_left
      intro item _
      apply ih
    | elements quantifier argument inner =>
      rw [fresh]
      unfold verdict
      simp only [ih]
    | group grouping argument children =>
      simp only [fresh, verdict, freshAll_eq_map, List.map_map, Function.comp_def, ih]
    | literal role argument direct form =>
      rw [fresh]
      unfold verdict
      simp only [ih]

/-- Matchers that were compiled alike have the same verdict. -/
theorem Node.verdict_congr {n m : Node} (h : n.fresh = m.fresh) (c : Context) (fuel : Nat)
    (record : Value) :
  n.verdict c fuel record = m.verdict c fuel record
  := by
  rw [← verdict_fresh, h, verdict_fresh]

/-! ### Evaluation -/

/-- A matcher may become another one by forms being built in it. -/
def Node.Becomes (r : Registry) (n m : Node) : Prop := m.Consistent r ∧ m.fresh = n.fresh

theorem Node.Becomes.refl {r : Registry} {n : Node} (h : n.Consistent r) :
  n.Becomes r n
  := ⟨h, rfl⟩

theorem Node.Becomes.trans {r : Registry} {n m k : Node} (h : n.Becomes r m) (h' : m.Becomes r k) :
  n.Becomes r k
  := ⟨h'.1, h'.2.trans h.2⟩

/-- A group whose children become others becomes the group of these. -/
theorem Node.Becomes.group {r : Registry} {grouping : Grouping} {argument : Value}
    {children children' : List Node} (h : ∀ n ∈ children', n.Consistent r)
    (hfresh : children'.map Node.fresh = children.map Node.fresh) :
  (Node.group grouping argument children).Becomes r (.group grouping argument children')
  := by
  constructor
  · apply (consistentAll_iff r children').mpr h
  · rw [fresh, fresh, freshAll_eq_map, freshAll_eq_map, hfresh]

/-- A literal argument whose matcher and form become others becomes the literal argument of
these. -/
theorem Node.Becomes.literal {r : Registry} {role : Role} {argument : Value} {direct direct' : Node}
    {form form' : Form} (h : direct.Becomes r direct') (hf : form'.Consistent r argument) :
  (Node.literal role argument direct form).Becomes r (.literal role argument direct' form')
  := by
  constructor
  · exact ⟨h.1, hf⟩
  · rw [fresh, fresh, h.2]

/-- No form for arrays is built in a matcher when it is built itself. -/
theorem fresh_of_build {r : Registry} {fuel : Nat} {operator : Operator} {argument : Value}
    {n : Node} (h : build r fuel operator argument = .ok n) :
  n.fresh = n
  := by
  refine build_forall (P := fun n => n.fresh = n) (fun _ => rfl) ?_ ?_ ?_ ?_ h
  · intro negated argument n hn
    rw [Node.fresh, hn]
  · intro quantifier argument n hn
    rw [Node.fresh, hn]
  · intro grouping argument nodes hnodes
    rw [Node.fresh, freshAll_eq_map, List.map_congr_left hnodes, List.map_id']
  · intro role argument n hn
    rw [Node.fresh, hn]

/-- The form of a literal argument is what building it gives, whether it was built before or
not. -/
theorem Form.Consistent.force {r : Registry} {argument : Value} {form : Form}
    (h : form.Consistent r argument) :
  (∃ e, form.force r argument = .error e ∧ Operator.arrayRecord.build? r argument = .error e)
    ∨ ∃ n, form.force r argument = .ok n ∧ n.Consistent r
      ∧ Operator.arrayRecord.build? r argument = .ok n.fresh
  := by
  cases form with
  | unbuilt =>
    cases hb : Operator.arrayRecord.build? r argument with
    | error e => exact .inl ⟨e, hb, rfl⟩
    | ok n =>
      have hfresh := fresh_of_build hb
      refine .inr ⟨n, hb, ?_, by rw [hfresh]⟩
      rw [← hfresh]
      apply Node.consistent_fresh
  | refused e => exact .inl ⟨e, rfl, h⟩
  | built n => exact .inr ⟨n, rfl, h.2, h.1⟩

/-- An evaluation comes to the verdict of the matcher and leaves the matcher behind with, perhaps,
more forms built. -/
theorem Node.evaluate_yields (c : Context) (fuel : Nat) {n : Node}
    (hn : n.Consistent c.engine.registry) (record : Value) :
  Yields (n.Becomes c.engine.registry) (n.evaluate c fuel record) (n.verdict c fuel record)
  := by
  induction fuel generalizing n record with
  | zero => exact .aborted _
  | succ fuel ih =>
    cases n with
    | leaf l =>
      rw [evaluate, verdict]
      cases l.test c.surroundings record with
      | error abort => exact .aborted abort
      | ok outcome => exact .finished _ _ (.refl trivial)
    | within negated argument bounds =>
      have hbounds : ∀ m, bounds.Becomes c.engine.registry m →
          (within negated argument bounds).Becomes c.engine.registry (within negated argument m) :=
        fun m hm => ⟨hm.1, by rw [fresh, fresh, hm.2]⟩
      have hstep : ∀ m record, bounds.Becomes c.engine.registry m →
          Yields (bounds.Becomes c.engine.registry) (m.evaluate c fuel record)
            (bounds.verdict c fuel record) := by
        intro m record hm
        rw [← verdict_congr hm.2]
        apply (ih hm.1 record).imp
        exact fun k hk => hm.trans hk
      cases record with
      | array items => exact (scan_yields hstep (.refl hn)).leaving _ hbounds
      | _ => exact (hstep bounds _ (.refl hn)).leaving _ hbounds
    | elements quantifier argument inner =>
      have hinner : ∀ m, inner.Becomes c.engine.registry m →
          (elements quantifier argument inner).Becomes c.engine.registry
            (elements quantifier argument m) :=
        fun m hm => ⟨hm.1, by rw [fresh, fresh, hm.2]⟩
      have hstep : ∀ m item, inner.Becomes c.engine.registry m →
          Yields (inner.Becomes c.engine.registry) (m.evaluate c fuel (c.taken item))
            (inner.verdict c fuel (c.taken item)) := by
        intro m item hm
        rw [← verdict_congr hm.2]
        apply (ih hm.1 _).imp
        exact fun k hk => hm.trans hk
      have hnone := Yields.finished (.ok false) _ (hinner inner (.refl hn))
      cases record with
      | array items =>
        cases items with
        | nil => exact hnone
        | cons item items => exact (scan_yields hstep (.refl hn)).leaving _ hinner
      | _ => exact hnone
    | group grouping argument children =>
      have hchildren := (consistentAll_iff _ _).mp hn
      have hleft : ∀ nodes, (∀ n ∈ nodes, n.Consistent c.engine.registry)
          ∧ nodes.map fresh = children.map fresh →
          (group grouping argument children).Becomes c.engine.registry (group grouping argument nodes) :=
        fun nodes hnodes => Becomes.group hnodes.1 hnodes.2
      apply (untilDecided_yields hchildren fun n hmem => ih (hchildren n hmem) record).leaving _ hleft
    | literal role argument direct form =>
      rw [evaluate, verdict]
      cases role.subject? c record with
      | none => exact .finished _ _ (.refl hn)
      | some subject =>
        have hdirect : ∀ m, direct.Becomes c.engine.registry m →
            (literal role argument direct form).Becomes c.engine.registry
              (literal role argument m form) :=
          fun m hm => Becomes.literal hm hn.2
        cases subject with
        | array items =>
          obtain ⟨e, hforce, hbuild⟩ | ⟨n, hforce, hn', hbuild⟩ := hn.2.force
          · simp only [hforce, hbuild]
            exact .finished _ _ (.literal (.refl hn.1) hbuild)
          · simp only [hforce, hbuild]
            rw [verdict_fresh]
            have hform : ∀ m, n.Becomes c.engine.registry m →
                (literal role argument direct form).Becomes c.engine.registry
                  (literal role argument direct (.built m)) :=
              fun m hm => Becomes.literal (.refl hn.1) ⟨hm.2 ▸ hbuild, hm.1⟩
            apply (ih hn' _).map role.conclude _ hform
        | _ => exact (ih hn.1 _).map role.conclude _ hdirect

end DocQuery
