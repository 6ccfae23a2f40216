import DocQuery.Proofs.Evaluations

/-!
# Visits

A traced evaluation visits a matcher, and inside it the matchers below it, so its visits make up
trees. The visit of a matcher is said here without a trace and without forms for arrays being
kept. A traced evaluation comes to the outcome of that visit, records just the visits, the inner ones
first, and leaves behind the same matcher with, perhaps, more forms built.
-/

namespace DocQuery

/-- A visit to a matcher: its title, the text of the record it saw, what it came to, and the visits
inside it in turn. -/
inductive Visit
  | node (title record : String) (outcome : Outcome) (below : List Visit)

namespace Visit

/-- What a visit came to. -/
def outcome : Visit → Outcome
  | node _ _ outcome _ => outcome

mutual

/-- The entries of a visit in the order in which they are finished. -/
def entries (level : Nat) : Visit → List TraceEntry
  | node title record outcome below =>
    entriesOfAll (level + 1) below ++ [⟨level, title, record, outcome⟩]

/-- The entries of several visits, one after the other. -/
def entriesOfAll (level : Nat) : List Visit → List TraceEntry
  | [] => []
  | v :: rest => v.entries level ++ entriesOfAll level rest

end

theorem entriesOfAll_singleton (level : Nat) (v : Visit) :
  entriesOfAll level [v] = v.entries level
  := by
  rw [entriesOfAll, entriesOfAll, List.append_nil]

end Visit

/-- A trace goes on with the entries of several visits. -/
def Trace.after (t : Trace) (visits : List Visit) : Trace :=
  ⟨(Visit.entriesOfAll t.level visits).reverse ++ t.latest, t.level⟩

/-- Visits one after the other are recorded one after the other. -/
theorem Trace.after_cons (t : Trace) (v : Visit) (rest : List Visit) :
  t.after (v :: rest) = (t.after [v]).after rest
  := by
  rw [after, after, after, Visit.entriesOfAll_singleton, Visit.entriesOfAll, List.reverse_append,
    List.append_assoc]

/-! ### The visit of a matcher -/

/-- A visit as its outcome with the list of the one visit. -/
def Visit.report (v : Visit) : Outcome × List Visit := (v.outcome, [v])

/-- Several visits as their outcomes with the visits. -/
def Visit.reports (visits : List Visit) : List Outcome × List Visit :=
  (visits.map Visit.outcome, visits)

/-- Several visits as what they come to together, with the visits. -/
def Visit.joined (decisive : Bool) (visits : List Visit) : Outcome × List Visit :=
  (foldOutcomes decisive (visits.map Visit.outcome), visits)

/-- What a traced evaluation of a matcher comes to on a record, with the visits inside it, in at most
so many nested steps. The form of a literal argument for arrays is built anew. -/
def Node.visit (c : Context) : Nat → Node → Value → Except Abort Visit
  | 0, _, _ => .error .exhausted
  | fuel + 1, n, record =>
    let inside : Except Abort (Outcome × List Visit) :=
      match n with
      | .leaf l => (l.test c.surroundings record).map fun outcome => (outcome, [])
      | .within negated _ bounds =>
        match record with
        | .array items => (items.mapM (bounds.visit c fuel)).map (Visit.joined (!negated))
        | _ => (bounds.visit c fuel record).map Visit.report
      | .elements quantifier _ inner =>
        match record with
        | .array (item :: items) =>
          ((item :: items).mapM fun item => inner.visit c fuel (c.taken item)).map
            (Visit.joined quantifier.decisive)
        | _ => .ok (.ok false, [])
      | .group grouping _ children =>
        (children.mapM fun child => Node.visit c fuel child record).map
          (Visit.joined grouping.decisive)
      | .literal role argument direct _ =>
        match role.subject? c record with
        | none => .ok (.ok false, [])
        | some (.array items) =>
          match Operator.arrayRecord.build? c.engine.registry argument with
          | .error e => .ok (role.conclude (.error (.construction e)), [])
          | .ok n => (n.visit c fuel (.array items)).map fun v => (role.conclude v.outcome, [v])
        | some subject => (direct.visit c fuel subject).map fun v => (role.conclude v.outcome, [v])
    inside.map fun (outcome, below) => .node n.title record.text outcome below

/-- The title of a matcher does not depend on the forms in it. -/
theorem Node.title_fresh (n : Node) :
  n.fresh.title = n.title
  := by
  cases n <;> rfl

/-- The visit of a matcher does not depend on the forms that it holds. -/
theorem Node.visit_fresh (c : Context) (fuel : Nat) (n : Node) (record : Value) :
  n.fresh.visit c fuel record = n.visit c fuel record
  := by
  induction fuel generalizing n record with
  | zero => rfl
  | succ fuel ih =>
    unfold visit
    rw [title_fresh]
    cases n with
    | leaf l => rfl
    | within negated argument bounds =>
      have hbounds : bounds.fresh.visit c fuel = bounds.visit c fuel := by
        funext record
        apply ih
      simp only [fresh, hbounds]
    | elements quantifier argument inner => simp only [fresh, ih]
    | group grouping argument children =>
      simp only [fresh, freshAll_eq_map, List.mapM_map, Function.comp_def, ih]
    | literal role argument direct form => simp only [fresh, ih]

/-- Matchers that were compiled alike have the same visit. -/
theorem Node.visit_congr {n m : Node} (h : n.fresh = m.fresh) (c : Context) (fuel : Nat)
    (record : Value) :
  n.visit c fuel record = m.visit c fuel record
  := by
  rw [← visit_fresh, h, visit_fresh]

/-! ### Following visits -/

/-- An evaluation that starts with a trace aborts as the visits do, or it comes to what they show,
records them, and leaves behind something with a property. -/
inductive Follows {ν β α : Type} (view : ν → β × List Visit) (P : α → Prop) (t : Trace) :
    Except Abort (β × α × Trace) → Except Abort ν → Prop
  | aborted (abort : Abort) : Follows view P t (.error abort) (.error abort)
  | finished (v : ν) (x : α) (h : P x) :
    Follows view P t (.ok ((view v).1, x, t.after (view v).2)) (.ok v)

section

variable {ν ν' α β γ δ : Type} {view : ν → γ × List Visit} {view' : ν' → δ × List Visit}
  {P : α → Prop} {Q : β → Prop} {t : Trace} {step : Except Abort (γ × α × Trace)}
  {visits : Except Abort ν}

theorem Follows.imp {P' : α → Prop} (h : Follows view P t step visits) (hP : ∀ x, P x → P' x) :
  Follows view P' t step visits
  := by
  cases h with
  | aborted abort => exact .aborted abort
  | finished v x hx => exact .finished v x (hP x hx)

/-- An evaluation that finishes has recorded the visits that it follows. -/
theorem Follows.leaves (h : Follows view P t step visits) {b : γ} {x : α} {t' : Trace}
    (hs : step = .ok (b, x, t')) :
  ∃ v, visits = .ok v ∧ b = (view v).1 ∧ t' = t.after (view v).2 ∧ P x
  := by
  subst hs
  cases h with
  | finished v x hx => exact ⟨v, rfl, rfl, rfl, hx⟩

/-- What is found out without a visit follows no visits. -/
theorem Follows.unvisited (outcome : Outcome) (x : α) (h : P x) :
  Follows id P t (.ok (outcome, x, t)) (.ok (outcome, []))
  := .finished (outcome, []) x h

/-- An evaluation that follows visits goes on to follow what is made of them without further ones. -/
theorem Follows.map (h : Follows view P t step visits) (f : γ → δ) (g : α → β) (k : ν → ν')
    (hk : ∀ v, view' (k v) = (f (view v).1, (view v).2)) (hg : ∀ x, P x → Q (g x)) :
  Follows view' Q t (Except.bind step fun (b, x, t) => pure (f b, g x, t)) (visits.map k)
  := by
  cases h with
  | aborted abort => exact .aborted abort
  | finished v x hx =>
    have h : Follows view' Q t _ _ := .finished (k v) (g x) (hg x hx)
    rw [hk] at h
    apply h

/-- Recording an evaluation puts the visits that it follows inside one. -/
theorem Follows.scope {body : Trace → Except Abort (Outcome × α × Trace)}
    {inside : Except Abort (Outcome × List Visit)} (h : ∀ t, Follows id P t (body t) inside)
    (t : Trace) (title : String) (record : Value) :
  Follows Visit.report P t (t.scope title record body)
    (inside.map fun (outcome, below) => .node title record.text outcome below)
  := by
  rw [Trace.scope]
  have h := h { t with level := t.level + 1 }
  generalize body { t with level := t.level + 1 } = step at h ⊢
  cases h with
  | aborted abort => exact .aborted abort
  | finished v x hx =>
    have h : Follows Visit.report P t _ _ := .finished (.node title record.text v.1 v.2) x hx
    rw [Visit.report, Visit.outcome, Trace.after, Visit.entriesOfAll_singleton, Visit.entries,
      List.reverse_append] at h
    exact h

/-- An evaluation that follows a visit and goes on to follow further ones follows them in turn. -/
theorem Follows.cons {first : Except Abort (Outcome × α × Trace)} {visit : Except Abort Visit}
    (hfirst : Follows Visit.report P t first visit)
    {rest : α → Trace → Except Abort (List Outcome × β × Trace)} {g : α → β → δ} {R : δ → Prop}
    {visits : Except Abort (List Visit)}
    (hrest : ∀ x t, P x → Follows Visit.reports (fun y => R (g x y)) t (rest x t) visits) :
  Follows Visit.reports R t
    (Except.bind first fun (outcome, x, t) =>
      Except.bind (rest x t) fun (outcomes, y, t) => pure (outcome :: outcomes, g x y, t))
    (Except.bind visit fun v => Except.bind visits fun vs => pure (v :: vs))
  := by
  cases hfirst with
  | aborted abort => exact .aborted abort
  | finished v x hx =>
    have hrest := hrest x (t.after [v]) hx
    change Follows _ _ _ (Except.bind (rest x (t.after [v])) _) (Except.bind visits _)
    generalize rest x (t.after [v]) = step at hrest ⊢
    cases hrest with
    | aborted abort => exact .aborted abort
    | finished vs y hy =>
      have h : Follows Visit.reports R t _ _ := .finished (v :: vs) (g x y) hy
      rw [Visit.reports, Trace.after_cons] at h
      apply h

/-- Tracing records in turn follows their visits in turn. -/
theorem traceScan_follows {eval : α → Value → Trace → Except Abort (Outcome × α × Trace)}
    {visit : Value → Except Abort Visit}
    (h : ∀ x record t, P x → Follows Visit.report P t (eval x record t) (visit record))
    (records : List Value) {x : α} (hx : P x) (t : Trace) :
  Follows Visit.reports P t (traceScan eval x records t) (records.mapM visit)
  := by
  induction records generalizing x t with
  | nil => exact .finished [] x hx
  | cons record rest ih =>
    rw [traceScan, List.mapM_cons]
    exact (h x record t hx).cons (g := fun _ y => y) fun y t hy => ih hy t

/-- Tracing a list in turn follows the visits of its items in turn. What is left behind has the
property of the items, and the same image under a function that the items keep. -/
theorem traceAll_follows {f : α → β} {eval : α → Trace → Except Abort (Outcome × α × Trace)}
    {visit : α → Except Abort Visit} {xs : List α}
    (h : ∀ x ∈ xs, ∀ t, Follows Visit.report (fun y => P y ∧ f y = f x) t (eval x t) (visit x))
    (t : Trace) :
  Follows Visit.reports (fun ys => (∀ y ∈ ys, P y) ∧ ys.map f = xs.map f) t (traceAll eval xs t)
    (xs.mapM visit)
  := by
  induction xs generalizing t with
  | nil => exact .finished [] [] ⟨by simp, rfl⟩
  | cons x rest ih =>
    obtain ⟨hx, hrest⟩ := List.forall_mem_cons.mp h
    have hstep : ∀ y t, P y ∧ f y = f x →
        Follows Visit.reports (fun ys => (∀ z ∈ y :: ys, P z) ∧ (y :: ys).map f = (x :: rest).map f)
          t (traceAll eval rest t) (rest.mapM visit) := by
      intro y t hy
      apply (ih hrest t).imp
      intro ys hys
      constructor
      · apply List.forall_mem_cons.mpr ⟨hy.1, hys.1⟩
      · rw [List.map_cons, List.map_cons, hy.2, hys.2]
    rw [traceAll, List.mapM_cons]
    exact (hx t).cons (g := List.cons)
      (R := fun ys => (∀ y ∈ ys, P y) ∧ ys.map f = (x :: rest).map f) hstep

end

/-- A traced evaluation of a matcher follows its visit, and leaves the matcher behind with, perhaps,
more forms built. -/
theorem Node.traced_follows (c : Context) (fuel : Nat) {n : Node}
    (hn : n.Consistent c.engine.registry) (record : Value) (t : Trace) :
  Follows Visit.report (n.Becomes c.engine.registry) t (n.traced c fuel record t)
    (n.visit c fuel record)
  := by
  induction fuel generalizing n record t with
  | zero => exact .aborted _
  | succ fuel ih =>
    rw [traced]
    unfold visit
    apply Follows.scope
    intro t
    cases n with
    | leaf l =>
      dsimp only
      cases l.test c.surroundings record with
      | error abort => exact .aborted abort
      | ok outcome => exact .unvisited outcome _ (.refl trivial)
    | within negated argument bounds =>
      have hbounds : ∀ m, bounds.Becomes c.engine.registry m →
          (within negated argument bounds).Becomes c.engine.registry (within negated argument m) :=
        fun m hm => ⟨hm.1, by rw [fresh, fresh, hm.2]⟩
      have hstep : ∀ m record t, bounds.Becomes c.engine.registry m →
          Follows Visit.report (bounds.Becomes c.engine.registry) t (m.traced c fuel record t)
            (bounds.visit c fuel record) := by
        intro m record t hm
        rw [← visit_congr hm.2]
        apply (ih hm.1 record t).imp
        exact fun k hk => hm.trans hk
      cases record with
      | array items =>
        exact (traceScan_follows hstep items (.refl hn) t).map (foldOutcomes (!negated)) _
          (Visit.joined (!negated)) (fun _ => rfl) hbounds
      | _ => exact (hstep bounds _ t (.refl hn)).map id _ Visit.report (fun _ => rfl) hbounds
    | elements quantifier argument inner =>
      have hinner : ∀ m, inner.Becomes c.engine.registry m →
          (elements quantifier argument inner).Becomes c.engine.registry
            (elements quantifier argument m) :=
        fun m hm => ⟨hm.1, by rw [fresh, fresh, hm.2]⟩
      have hstep : ∀ m item t, inner.Becomes c.engine.registry m →
          Follows Visit.report (inner.Becomes c.engine.registry) t (m.traced c fuel (c.taken item) t)
            (inner.visit c fuel (c.taken item)) := by
        intro m item t hm
        rw [← visit_congr hm.2]
        apply (ih hm.1 _ t).imp
        exact fun k hk => hm.trans hk
      have hnone := Follows.unvisited (t := t) (.ok false) _ (hinner inner (.refl hn))
      cases record with
      | array items =>
        cases items with
        | nil => exact hnone
        | cons item items =>
          exact (traceScan_follows hstep (item :: items) (.refl hn) t).map
            (foldOutcomes quantifier.decisive) _ (Visit.joined quantifier.decisive) (fun _ => rfl)
            hinner
      | _ => exact hnone
    | group grouping argument children =>
      have hchildren := (consistentAll_iff _ _).mp hn
      have hleft : ∀ nodes, (∀ n ∈ nodes, n.Consistent c.engine.registry)
          ∧ nodes.map fresh = children.map fresh →
          (group grouping argument children).Becomes c.engine.registry (group grouping argument nodes) :=
        fun nodes hnodes => Becomes.group hnodes.1 hnodes.2
      exact (traceAll_follows (fun n hmem t => ih (hchildren n hmem) record t) t).map
        (foldOutcomes grouping.decisive) _ (Visit.joined grouping.decisive) (fun _ => rfl) hleft
    | literal role argument direct form =>
      dsimp only
      cases role.subject? c record with
      | none => exact .unvisited (.ok false) _ (.refl hn)
      | some subject =>
        have hdirect : ∀ m, direct.Becomes c.engine.registry m →
            (literal role argument direct form).Becomes c.engine.registry
              (literal role argument m form) :=
          fun m hm => Becomes.literal hm hn.2
        have hconclude : ∀ v : Visit, id (role.conclude v.outcome, [v])
            = (role.conclude v.report.1, v.report.2) := fun _ => rfl
        cases subject with
        | array items =>
          obtain ⟨e, hforce, hbuild⟩ | ⟨n, hforce, hn', hbuild⟩ := hn.2.force
          · simp only [hforce, hbuild]
            exact .unvisited _ _ (.literal (.refl hn.1) hbuild)
          · simp only [hforce, hbuild]
            rw [visit_fresh]
            have hform : ∀ m, n.Becomes c.engine.registry m →
                (literal role argument direct form).Becomes c.engine.registry
                  (literal role argument direct (.built m)) :=
              fun m hm => Becomes.literal (.refl hn.1) ⟨hm.2 ▸ hbuild, hm.1⟩
            exact (ih hn' _ t).map role.conclude _ _ hconclude hform
        | _ => exact (ih hn.1 _ t).map role.conclude _ _ hconclude hdirect

end DocQuery
