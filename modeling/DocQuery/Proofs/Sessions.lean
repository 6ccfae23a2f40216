import DocQuery.Proofs.Agreement
import DocQuery.Proofs.Visits
import DocQuery.Session

/-!
# Sessions

What is done in a session changes its queries: forms for arrays are built, and predicates are
prepared. A session is compared here with one in which no evaluation leaves anything behind, because
each takes place on a copy of the query that is compiled for it alone. Step by step the queries of
both sessions stay twins, with the same condition in the same context, and the closure of each
predicate stays that of its query, so all evaluations are answered alike.
-/

namespace DocQuery

/-! ### Evaluations and their replies -/

/-- A way to evaluate a query on a record. -/
inductive Evaluation
  | isMatch (record : Value)
  | evaluate (record : Value)
  | satisfies (record : Value)
  | test (record : Value)
  | trace (record : Value)

/-- What something that is done in a session is answered with. -/
inductive Reply
  | done
  | unknown
  | refused (e : CompileError)
  | drawn (lines : List String) (text : String)
  | matched (b : Bool)
  | concluded (outcome : Outcome)
  | traced (t : Trace)

/-- The reply without the drawing of a matcher tree, which shows the forms that have been built. -/
def Reply.undrawn : Reply → Reply
  | drawn _ _ => done
  | reply => reply

/-- Evaluates a query as it is, its predicate with the closure that the query has by then. -/
def Query.perform (q : Query) (evaluation : Evaluation) : Except Abort (Reply × Query) :=
  match evaluation with
  | .isMatch record => (q.isMatch record).map fun (b, q) => (.matched b, q)
  | .evaluate record => (q.evaluate record).map fun (outcome, q) => (.concluded outcome, q)
  | .satisfies record => (q.satisfies record).map fun (b, q) => (.matched b, q)
  | .test record => (q.test record).map fun (outcome, q) => (.concluded outcome, q)
  | .trace record => (q.trace record).map fun (t, q) => (.traced t, q)

/-- How queries are evaluated: with the reply comes the query as it is left behind. The evaluations of a
predicate are given the closure that it holds. -/
abbrev Performance := Query → Option Closure → Evaluation → Except Abort (Reply × Query)

/-- Evaluates a query as it is. A predicate calls the closure that it holds. -/
def Query.performHeld : Performance := fun q held evaluation =>
  match held, evaluation with
  | some k, .satisfies record =>
    (q.call k record).map fun (outcome, q) => (.matched outcome.isMatch, q)
  | some k, .test record => (q.call k record).map fun (outcome, q) => (.concluded outcome, q)
  | _, evaluation => q.perform evaluation

/-- Compiles the condition of a query again, with all settings as they are. -/
def Query.compileAgain? (q : Query) : Except CompileError Query :=
  (Query.compile? q.context.engine (.normalized q.condition) q.context.config).map fun copy =>
    copy.setConverting q.context.converting

/-- Evaluates a copy of a query that is compiled for this evaluation alone, with no closure from
before, and leaves the query as it is. -/
def Query.performAnew : Performance := fun q _ evaluation =>
  match q.compileAgain? with
  | .error e => .ok (.refused e, q)
  | .ok copy => (copy.perform evaluation).map fun (reply, _) => (reply, q)

/-! ### Runs of a session -/

namespace Session

/-- Something that is done in a session. Queries and predicates are known by their names. -/
inductive Action
  | compile (name : String) (raw : Condition.Raw) (config : Entries)
  | recompile (name : String) (config : Entries) (as : String)
  | prepare (name as : String)
  | setConverting (name : String) (converting : Bool)
  | draw (name : String)
  | evaluate (name : String) (evaluation : Evaluation)

/-- The place of the query that an evaluation is about. Predicates go by names of their own. -/
def evaluationPlace? (s : Session) (name : String) : Evaluation → Option Nat
  | .satisfies _ => s.predicatePlace? name
  | .test _ => s.predicatePlace? name
  | _ => s.place? name

/-- The closure held by the predicate that an evaluation is about. -/
def heldClosure? (s : Session) (name : String) : Evaluation → Option Closure
  | .satisfies _ => (s.predicate? name).map Predicate.closure
  | .test _ => (s.predicate? name).map Predicate.closure
  | _ => none

/-- Puts a query under a name if it could be compiled. -/
def storeIfCompiled (s : Session) (name : String) :
    Except CompileError Query → Reply × Session
  | .error e => (.refused e, s)
  | .ok q => (.done, s.store name q)

/-- Does something with the query at a place, if there is one. -/
def atPlace (s : Session) (place? : Option Nat)
    (use : Nat → Query → Except Abort (Reply × Session)) : Except Abort (Reply × Session) :=
  match place?.bind fun place => (s.queryAt? place).map (place, ·) with
  | none => .ok (.unknown, s)
  | some (place, q) => use place q

/-- Does something in a session with an engine. -/
def act (perform : Performance) (e : Engine) (s : Session) :
    Action → Except Abort (Reply × Session)
  | .compile name raw config => .ok (s.storeIfCompiled name (Query.compile? e raw config))
  | .recompile name config as =>
    s.atPlace (s.place? name) fun _ q => .ok (s.storeIfCompiled as (q.withConfig? config))
  | .prepare name as =>
    s.atPlace (s.place? name) fun place q =>
      .ok (.done, (s.update place q.prepare).keepPredicate as place)
  | .setConverting name converting =>
    s.atPlace (s.place? name) fun place q => .ok (.done, s.update place (q.setConverting converting))
  | .draw name => s.atPlace (s.place? name) fun _ q => .ok (.drawn q.tree q.explain, s)
  | .evaluate name evaluation =>
    s.atPlace (s.evaluationPlace? name evaluation) fun place q =>
      (perform q (s.heldClosure? name evaluation) evaluation).map fun (reply, q) =>
        (reply, s.update place q)

/-- Does one thing after the other in a session. -/
def run (perform : Performance) (e : Engine) (s : Session) :
    List Action → Except Abort (List Reply × Session)
  | [] => .ok ([], s)
  | action :: rest => do
    let (reply, s) ← s.act perform e action
    let (replies, s) ← s.run perform e rest
    return (reply :: replies, s)

end Session

/-! ### Closures -/

mutual

/-- The closure of a matcher does not depend on the forms that have been built. -/
theorem Node.closure_fresh : ∀ n : Node, n.fresh.closure = n.closure
  | .leaf _ => rfl
  | .within _ _ bounds => by rw [Node.fresh, Node.closure, Node.closure, bounds.closure_fresh]
  | .elements _ _ inner => by rw [Node.fresh, Node.closure, Node.closure, inner.closure_fresh]
  | .group _ _ children => by rw [Node.fresh, Node.closure, Node.closure, closures_freshAll children]
  | .literal _ _ direct _ => by rw [Node.fresh, Node.closure, Node.closure, direct.closure_fresh]

theorem closures_freshAll : ∀ nodes : List Node, closures (freshAll nodes) = closures nodes
  | [] => rfl
  | n :: rest => by rw [freshAll, closures, closures, n.closure_fresh, closures_freshAll rest]

end

/-- Calling its closure evaluates a query. -/
theorem Query.call_eq_evaluate (q : Query) {k : Closure} (hk : k = q.closure)
    (record : Value) :
  q.call k record = q.evaluate record
  := by
  rw [call, evaluate, q.matcher.call_eq_evaluate (hk.trans q.matcher.closure_eq)]

/-! ### Twins -/

/-- What holds of a query whatever has been done with it: it is in use, and its tree is what its
condition is compiled to, with perhaps some forms built. -/
structure Query.Kept (e : Engine) (q : Query) : Prop extends q.InUse e where
  depth : q.condition.value.depth ≤ maxDepth
  compiled : Operator.condition.build? e.registry q.condition.value = .ok q.matcher.node.fresh

/-- Two queries have the same condition in the same context. -/
structure Query.Twins (e : Engine) (q q' : Query) : Prop where
  left : q.Kept e
  right : q'.Kept e
  condition : q.condition = q'.condition
  context : q.context = q'.context

section

variable {e : Engine} {q q' q'' : Query}

theorem Query.kept_of_compiled {c : Context} (hcurrent : c.current = none) {condition : Condition}
    (h : Query.ofCondition? c condition = .ok q) :
  q.Kept c.engine
  := by
  have hq := inUse_of_compiled hcurrent h
  rw [ofCondition?] at h
  split at h
  · cases h
  · rename_i hdepth
    obtain ⟨m, hm, rfl⟩ := map_eq_ok_iff.mp h
    obtain ⟨n, hn, rfl⟩ := map_eq_ok_iff.mp hm
    refine ⟨hq, Nat.le_of_not_gt hdepth, ?_⟩
    rw [hn]
    exact congrArg Except.ok (fresh_of_build hn).symm

theorem Query.Twins.refl (h : q.Kept e) :
  q.Twins e q
  := ⟨h, h, rfl, rfl⟩

theorem Query.Twins.symm (h : q.Twins e q') :
  q'.Twins e q
  := ⟨h.right, h.left, h.condition.symm, h.context.symm⟩

theorem Query.Twins.trans (h : q.Twins e q') (h' : q'.Twins e q'') :
  q.Twins e q''
  := ⟨h.left, h'.right, h.condition.trans h'.condition, h.context.trans h'.context⟩

/-- The trees of twins differ only in the forms that have been built. -/
theorem Query.Twins.fresh (h : q.Twins e q') :
  q.matcher.node.fresh = q'.matcher.node.fresh
  := by
  have hcompiled := h.left.compiled
  rw [h.condition, h.right.compiled] at hcompiled
  exact (Except.ok.inj hcompiled).symm

/-- Twins are prepared to the same closure. -/
theorem Query.Twins.closure (h : q.Twins e q') :
  q.closure = q'.closure
  := by
  rw [Query.closure, Query.closure, Matcher.closure_eq, Matcher.closure_eq, ← Node.closure_fresh, h.fresh,
    Node.closure_fresh]

/-- A query that is still in use, and whose tree has at most had forms built, is a twin of what it
was. -/
theorem Query.Kept.twins (h : q.Kept e) (h' : q'.InUse e) (hcondition : q'.condition = q.condition)
    (hcontext : q'.context = q.context)
    (hnode : q.matcher.node.Becomes e.registry q'.matcher.node) :
  q.Twins e q'
  := by
  have hkept : q'.Kept e := by
    refine ⟨h', ?_, ?_⟩
    · rw [hcondition]
      apply h.depth
    · rw [hcondition, hnode.2]
      apply h.compiled
  apply Twins.mk h hkept hcondition.symm hcontext.symm

theorem Query.Kept.setConverting (h : q.Kept e) (converting : Bool) :
  (q.setConverting converting).Kept e
  := ⟨⟨h.engine, h.current, h.argument, h.node⟩, h.depth, h.compiled⟩

/-- Preparing a query makes a twin of it. -/
theorem Query.Kept.prepare (h : q.Kept e) :
  q.Twins e q.prepare
  := ⟨h, ⟨⟨h.engine, h.current, h.argument, h.node⟩, h.depth, h.compiled⟩, rfl, rfl⟩

theorem Query.Twins.setConverting (h : q.Twins e q') (converting : Bool) :
  (q.setConverting converting).Twins e (q'.setConverting converting)
  := by
  have hcontext : (q.setConverting converting).context = (q'.setConverting converting).context :=
    congrArg (fun c : Context => { c with converting }) h.context
  exact ⟨h.left.setConverting converting, h.right.setConverting converting, h.condition, hcontext⟩

theorem Query.Twins.prepare (h : q.Twins e q') :
  q.prepare.Twins e q'.prepare
  := h.left.prepare.symm.trans (h.trans h.right.prepare)

/-- Twins are compiled alike with other settings. -/
theorem Query.Twins.withConfig (h : q.Twins e q') (config : Entries) :
  q.withConfig? config = q'.withConfig? config
  := by
  rw [withConfig?, withConfig?, h.context, h.condition]

/-- A query can be compiled again, to a twin. -/
theorem Query.Kept.compileAgain (h : q.Kept e) :
  ∃ copy, q.compileAgain? = .ok copy ∧ q.Twins e copy
  := by
  have hcompiled := h.compiled
  rw [← h.engine] at hcompiled
  let c := Context.new q.context.engine q.context.config
  have hcopy : ofCondition? c q.condition
      = .ok ⟨q.condition, .new c q.condition.value q.matcher.node.fresh⟩ := by
    rw [ofCondition?, if_neg (Nat.not_lt.mpr h.depth)]
    apply map_eq_ok_iff.mpr ⟨_, map_eq_ok_iff.mpr ⟨_, hcompiled, rfl⟩, rfl⟩
  have hkept := kept_of_compiled rfl hcopy
  rw [show c.engine = e from h.engine] at hkept
  have hcontext : q.context = { c with converting := q.context.converting } := by
    change q.context = ⟨q.context.engine, q.context.config, q.context.converting, none⟩
    rw [← h.current]
  refine ⟨_, map_eq_ok_iff.mpr ⟨_, hcopy, rfl⟩, ?_⟩
  exact ⟨h, hkept.setConverting q.context.converting, rfl, hcontext⟩

/-! ### Evaluations of twins -/

/-- A matcher in use is consistent, whatever operators its engine has. -/
theorem Node.Arises.consistent {argument : Value} {n : Node} (h : n.Arises e argument) :
  n.Consistent e.registry
  := by
  induction h with
  | compiled _ h =>
    rw [← fresh_of_build h]
    apply consistent_fresh
  | @field name _ h =>
    obtain ⟨m, fuel, rfl, hliteral⟩ := literal_of_fieldNode h
    have hconsistent := consistent_fresh e.registry (.literal .whole argument m .unbuilt)
    rw [fresh_of_build hliteral] at hconsistent
    exact hconsistent
  | child _ hm ih => exact ih.of_child hm
  | @evaluated _ _ c fuel record _ _ hc _ h ih =>
    subst hc
    obtain ⟨-, hm⟩ := (evaluate_yields c fuel ih record).leaves h
    exact hm.1
  | @tested _ _ c fuel record _ _ hc _ h ih =>
    subst hc
    rw [test_eq_evaluate] at h
    obtain ⟨-, hm⟩ := (evaluate_yields c fuel ih record).leaves h
    exact hm.1
  | @traced _ _ c fuel record t _ _ _ hc _ h ih =>
    subst hc
    obtain ⟨-, -, -, -, hm⟩ := (traced_follows c fuel ih record t).leaves h
    exact hm.1

/-- What is visited when a query in use is traced. -/
def Query.visit (q : Query) (record : Value) : Except Abort Visit :=
  q.matcher.node.visit (q.context.tracing (q.normalizeRecord record))
    (evaluationBound q.condition.value (q.normalizeRecord record)) (q.normalizeRecord record)

/-- Tracing a query in use records its visit, and leaves its matcher behind with, perhaps, more forms
built. -/
theorem Query.InUse.trace_follows (h : q.InUse e) {record : Value} {t : Trace} {k : Query}
    (hk : q.trace record = .ok (t, k)) :
  (∃ v, q.visit record = .ok v ∧ t = Trace.new.after [v]) ∧ k.condition = q.condition
    ∧ k.context = q.context ∧ q.matcher.node.Becomes e.registry k.matcher.node
  := by
  rw [q.trace_eq, h.argument] at hk
  obtain ⟨⟨outcome, n, _⟩, _, hn, hk⟩ := Ensures.pmap_eq_ok_iff.mp hk
  cases hk
  have hconsistent := h.node.consistent
  have hengine : (q.context.tracing (q.normalizeRecord record)).engine = e := h.engine
  rw [← hengine] at hconsistent
  have hfollows := Node.traced_follows _
    (evaluationBound q.condition.value (q.normalizeRecord record)) hconsistent
    (q.normalizeRecord record) .new
  obtain ⟨v, hv, -, ht, hbecomes⟩ := hfollows.leaves hn
  rw [hengine] at hbecomes
  exact ⟨⟨v, hv, ht⟩, rfl, congrArg (fun current => { q.context with current }) h.current.symm, hbecomes⟩

theorem Query.Twins.normalizeRecord (h : q.Twins e q') (record : Value) :
  q.normalizeRecord record = q'.normalizeRecord record
  := by
  rw [Query.normalizeRecord, Query.normalizeRecord, h.context]

/-- Twins have the same answer. -/
theorem Query.Twins.answer (h : q.Twins e q') (record : Value) :
  q.answer record = q'.answer record
  := by
  rw [Query.answer, Query.answer, h.context, h.condition]
  apply Node.verdict_congr h.fresh

/-- Twins are visited alike. -/
theorem Query.Twins.visit (h : q.Twins e q') (record : Value) :
  q.visit record = q'.visit record
  := by
  rw [Query.visit, Query.visit, h.context, h.condition, h.normalizeRecord]
  apply Node.visit_congr h.fresh

/-- A use of a query finishes with a result and leaves a twin behind. -/
inductive Query.Finishes (e : Engine) (q : Query) {β : Type} (b : β) :
    Except Abort (β × Query) → Prop
  | leaving (k : Query) (h : q.Twins e k) : Finishes e q b (.ok (b, k))

/-- Uses of two queries finish with the same result and leave twins behind. -/
def Query.Agree (e : Engine) (q q' : Query) {β : Type} (step step' : Except Abort (β × Query)) :
    Prop :=
  ∃ b, q.Finishes e b step ∧ q'.Finishes e b step'

/-- Uses that agree go on to agree on what is made of their result. -/
theorem Query.Agree.map {β γ : Type} {step step' : Except Abort (β × Query)}
    (h : q.Agree e q' step step') (f : β → γ) (g : Query → Query)
    (hg : ∀ k : Query, k.Kept e → k.Twins e (g k)) :
  q.Agree e q' (step.map fun (b, k) => (f b, g k)) (step'.map fun (b, k) => (f b, g k))
  := by
  obtain ⟨b, ⟨k, hk⟩, ⟨k', hk'⟩⟩ := h
  refine ⟨f b, .leaving (g k) ?_, .leaving (g k') ?_⟩
  · apply hk.trans (hg k hk.right)
  · apply hk'.trans (hg k' hk'.right)

/-- Tracing a query follows its visit and leaves a twin behind. -/
theorem Query.Kept.traced (h : q.Kept e) {record : Value} {t : Trace} {k : Query}
    (hk : q.trace record = .ok (t, k)) :
  (∃ v, q.visit record = .ok v ∧ t = Trace.new.after [v]) ∧ q.Twins e k
  := by
  obtain ⟨hvisit, hcondition, hcontext, hbecomes⟩ := h.toInUse.trace_follows hk
  exact ⟨hvisit, h.twins (h.toInUse.traced hk) hcondition hcontext hbecomes⟩

section

variable (he : e.Sound) (hover : ¬e.Overflows)

include he

/-- Evaluating a query leaves a twin behind. -/
theorem Query.Kept.evaluated (h : q.Kept e) {record : Value} {outcome : Outcome} {k : Query}
    (hk : q.evaluate record = .ok (outcome, k)) :
  q.Twins e k
  := by
  have huse := h.toInUse.evaluated hk
  rw [evaluate_eq] at hk
  obtain ⟨⟨_, n⟩, _, hn, hk⟩ := Ensures.pmap_eq_ok_iff.mp hk
  cases hk
  obtain ⟨hconsistent, -⟩ := he.invariant h.node
  have hengine : q.matcher.context.engine = e := h.engine
  rw [← hengine] at hconsistent
  obtain ⟨-, hbecomes⟩ := (Node.evaluate_yields _ _ hconsistent _).leaves hn
  rw [hengine] at hbecomes
  apply h.twins huse rfl rfl hbecomes

/-- A query in use has the tree that its condition is compiled to, with perhaps some forms built. -/
theorem Query.Arises.kept (h : q.Arises e) :
  q.Kept e
  := by
  have htested : ∀ {q k : Query} {record outcome}, q.Kept e → q.test record = .ok (outcome, k) →
      k.Kept e := by
    intro q k record outcome hq h
    rw [test_eq] at h
    obtain ⟨⟨_, k'⟩, hk, h⟩ := map_eq_ok_iff.mp h
    cases h
    apply (hq.evaluated he hk).right.prepare.right
  induction h with
  | compiled h => exact kept_of_compiled rfl h
  | @recompiled q q' config _ h ih =>
    rw [← ih.engine]
    apply kept_of_compiled (c := q.context.fork config) rfl h
  | evaluated _ h ih => exact (ih.evaluated he h).right
  | matched _ h ih =>
    obtain ⟨⟨_, k⟩, hk, h⟩ := map_eq_ok_iff.mp h
    cases h
    apply (ih.evaluated he hk).right
  | tested _ h ih => exact htested ih h
  | satisfied _ h ih =>
    obtain ⟨⟨_, k⟩, hk, h⟩ := map_eq_ok_iff.mp h
    cases h
    apply htested ih hk
  | traced _ h ih => exact (ih.traced h).2.right
  | prepared _ ih => exact ih.prepare.right
  | converting _ converting ih => exact ih.setConverting converting

include hover

/-- Evaluating a query finishes with its answer. -/
theorem Query.Kept.evaluate (h : q.Kept e) (record : Value) :
  ∃ outcome, q.answer record = .ok outcome ∧ q.Finishes e outcome (q.evaluate record)
  := by
  have hanswer := he.query_evaluate h.toInUse record
  cases hstep : q.evaluate record with
  | error abort =>
    rw [hstep] at hanswer
    exact absurd (he.answer_overflow h.engine h.node hanswer.symm).2 hover
  | ok result =>
    obtain ⟨outcome, k⟩ := result
    rw [hstep] at hanswer
    exact ⟨outcome, hanswer.symm, .leaving k (h.evaluated he hstep)⟩

/-- Tracing a query finishes with the trace of its visit. -/
theorem Query.Kept.trace (h : q.Kept e) (record : Value) :
  ∃ v, q.visit record = .ok v ∧ q.Finishes e (Trace.new.after [v]) (q.trace record)
  := by
  obtain ⟨t, k, htrace⟩ | ⟨-, h⟩ := he.query_trace_finishes h.toInUse record
  · obtain ⟨⟨v, hv, rfl⟩, hk⟩ := h.traced htrace
    rw [htrace]
    exact ⟨v, hv, .leaving k hk⟩
  · exact absurd h hover

theorem Query.Twins.evaluate (h : q.Twins e q') (record : Value) :
  q.Agree e q' (q.evaluate record) (q'.evaluate record)
  := by
  obtain ⟨outcome, hanswer, hfinish⟩ := h.left.evaluate he hover record
  obtain ⟨outcome', hanswer', hfinish'⟩ := h.right.evaluate he hover record
  rw [← h.answer, hanswer] at hanswer'
  cases hanswer'
  exact ⟨outcome, hfinish, hfinish'⟩

/-- Evaluations of twins agree. -/
theorem Query.Twins.perform (h : q.Twins e q') (evaluation : Evaluation) :
  q.Agree e q' (q.perform evaluation) (q'.perform evaluation)
  := by
  have hsame : ∀ k : Query, k.Kept e → k.Twins e (id k) := fun k hk => .refl hk
  have htest : ∀ record, q.Agree e q' (q.test record) (q'.test record) := by
    intro record
    rw [test_eq, test_eq]
    apply (h.evaluate he hover record).map id Query.prepare fun k hk => hk.prepare
  cases evaluation with
  | isMatch record =>
    have hmatch : q.Agree e q' (q.isMatch record) (q'.isMatch record) := by
      unfold Query.isMatch
      rw [h.normalizeRecord]
      apply (h.evaluate he hover _).map Outcome.isMatch id hsame
    apply hmatch.map Reply.matched id hsame
  | evaluate record => apply (h.evaluate he hover record).map Reply.concluded id hsame
  | satisfies record =>
    have hmatch : q.Agree e q' (q.satisfies record) (q'.satisfies record) :=
      (htest record).map Outcome.isMatch id hsame
    apply hmatch.map Reply.matched id hsame
  | test record => apply (htest record).map Reply.concluded id hsame
  | trace record =>
    obtain ⟨v, hv, hfinish⟩ := h.left.trace he hover record
    obtain ⟨v', hv', hfinish'⟩ := h.right.trace he hover record
    rw [← h.visit, hv] at hv'
    cases hv'
    have htrace : q.Agree e q' (q.trace record) (q'.trace record) := ⟨_, hfinish, hfinish'⟩
    apply htrace.map Reply.traced id hsame

/-- Calling the closure of a query agrees with testing with a twin. -/
theorem Query.Twins.call (h : q.Twins e q') {k : Closure} (hk : k = q.closure)
    (record : Value) :
  q.Agree e q' (q.call k record) (q'.test record)
  := by
  obtain ⟨outcome, hfinish, hfinish'⟩ := h.evaluate he hover record
  rw [q.call_eq_evaluate hk, test_eq]
  refine ⟨outcome, hfinish, ?_⟩
  generalize q'.evaluate record = step at hfinish' ⊢
  cases hfinish' with
  | leaving k' hk' => exact .leaving k'.prepare (hk'.trans hk'.right.prepare)

/-- Evaluations of twins agree, also if the predicate of one calls a closure that it holds. -/
theorem Query.Twins.performHeld (h : q.Twins e q') {held : Option Closure}
    (hheld : ∀ k ∈ held, k = q.closure) (evaluation : Evaluation) :
  q.Agree e q' (q.performHeld held evaluation) (q'.perform evaluation)
  := by
  cases held with
  | none => apply h.perform he hover
  | some k =>
    have hcall := h.call he hover (hheld k rfl)
    have hsame : ∀ k : Query, k.Kept e → k.Twins e (id k) := fun k hk => .refl hk
    cases evaluation with
    | satisfies record =>
      have hsatisfies : q'.perform (.satisfies record)
          = (q'.test record).map fun (outcome, l) => (.matched outcome.isMatch, l) := by
        rw [Query.perform, satisfies]
        cases q'.test record <;> rfl
      rw [hsatisfies]
      apply (hcall record).map (fun outcome => Reply.matched outcome.isMatch) id hsame
    | test record => apply (hcall record).map Reply.concluded id hsame
    | isMatch record => exact h.perform he hover (.isMatch record)
    | evaluate record => exact h.perform he hover (.evaluate record)
    | trace record => exact h.perform he hover (.trace record)

/-- Evaluating a query agrees with evaluating its twin on a copy that is compiled anew. -/
theorem Query.Twins.performAnew (h : q.Twins e q') {held : Option Closure}
    (hheld : ∀ k ∈ held, k = q.closure) (held' : Option Closure)
    (evaluation : Evaluation) :
  q.Agree e q' (q.performHeld held evaluation) (q'.performAnew held' evaluation)
  := by
  obtain ⟨copy, hcopy, htwins⟩ := h.right.compileAgain
  obtain ⟨reply, hfinish, hfinish'⟩ := (h.trans htwins).performHeld he hover hheld evaluation
  refine ⟨reply, hfinish, ?_⟩
  rw [Query.performAnew, hcopy]
  dsimp only
  generalize copy.perform evaluation = step at hfinish'
  cases hfinish' with
  | leaving k hk => exact .leaving q' (.refl h.right)

end

end

/-! ### Sessions with twins -/

/-- The elements at a place of two related lists are related, if there are any. -/
theorem getElem?_of_forall₂ {α β : Type} {R : α → β → Prop} {xs : List α} {ys : List β}
    (h : List.Forall₂ R xs ys) (i : Nat) :
  (xs[i]? = none ∧ ys[i]? = none) ∨ ∃ x y, xs[i]? = some x ∧ ys[i]? = some y ∧ R x y
  := by
  induction h generalizing i with
  | nil => exact .inl ⟨rfl, rfl⟩
  | cons hxy _ ih =>
    cases i with
    | zero => exact .inr ⟨_, _, rfl, rfl, hxy⟩
    | succ i => apply ih i

/-- Related lists stay related when related elements are put at a place. -/
theorem forall₂_set {α β : Type} {R : α → β → Prop} {xs : List α} {ys : List β}
    (h : List.Forall₂ R xs ys) (i : Nat) {x : α} {y : β} (hxy : R x y) :
  List.Forall₂ R (xs.set i x) (ys.set i y)
  := by
  induction h generalizing i with
  | nil => exact .nil
  | cons hfirst hrest ih =>
    cases i with
    | zero => exact .cons hxy hrest
    | succ i => exact .cons hfirst (ih i)

namespace Session

/-- The sessions know the same names and the same predicates, and hold twins in the same places. Each
predicate has the closure of its query. -/
structure Alike (e : Engine) (s s' : Session) : Prop where
  names : s.names = s'.names
  predicates : s.predicates = s'.predicates
  queries : List.Forall₂ (Query.Twins e) s.queries s'.queries
  held : ∀ name p, s.predicate? name = some p →
    ∃ q, s.queryAt? p.place = some q ∧ p.closure = q.closure

section

variable {e : Engine} {s s' : Session}

/-- Putting a query at its place again keeps its closure at that place. -/
theorem queryAt?_update {place : Nat} {old q : Query} (hold : s.queryAt? place = some old)
    (hclosure : q.closure = old.closure) {i : Nat} {k : Closure}
    (h : ∃ l, s.queryAt? i = some l ∧ k = l.closure) :
  ∃ l, (s.update place q).queryAt? i = some l ∧ k = l.closure
  := by
  obtain ⟨l, hl, rfl⟩ := h
  rw [queryAt?] at hold hl
  rw [queryAt?, Session.update, List.getElem?_set]
  split
  · rename_i hplace
    obtain ⟨hlt, -⟩ := List.getElem?_eq_some_iff.mp hold
    rw [if_pos hlt]
    cases hold.symm.trans (hplace ▸ hl)
    exact ⟨q, rfl, hclosure.symm⟩
  · exact ⟨l, hl, rfl⟩

/-- Putting twins at the places of queries with their closure leaves sessions alike. -/
theorem Alike.update (h : s.Alike e s') {place : Nat} {old q q' : Query}
    (hq : q.Twins e q') (hold : s.queryAt? place = some old) (hclosure : q.closure = old.closure) :
  (s.update place q).Alike e (s'.update place q')
  where
  names := h.names
  predicates := h.predicates
  queries := forall₂_set h.queries place hq
  held name p hp := queryAt?_update hold hclosure (h.held name p hp)

theorem Alike.store (h : s.Alike e s') (name : String) {q : Query} (hq : q.Kept e) :
  (s.store name q).Alike e (s'.store name q)
  where
  names := by rw [Session.store, Session.store, h.names, h.queries.length_eq]
  predicates := h.predicates
  queries := List.rel_append h.queries (.cons (.refl hq) .nil)
  held name p hp := by
    obtain ⟨k, hk, hclosure⟩ := h.held name p hp
    obtain ⟨hlt, -⟩ := List.getElem?_eq_some_iff.mp hk
    refine ⟨k, ?_, hclosure⟩
    rw [← hk]
    apply List.getElem?_append_left hlt

theorem Alike.keepPredicate (h : s.Alike e s') (name : String) (place : Nat) :
  (s.keepPredicate name place).Alike e (s'.keepPredicate name place)
  := by
  unfold Session.keepPredicate queryAt?
  obtain ⟨hq, hq'⟩ | ⟨q, q', hq, hq', htwins⟩ := getElem?_of_forall₂ h.queries place
  · rw [hq, hq']
    exact h
  · rw [hq, hq']
    refine ⟨h.names, ?_, h.queries, ?_⟩
    · dsimp only
      rw [h.predicates, htwins.closure]
    · intro other p hp
      rw [predicate?, List.lookup_cons] at hp
      cases hother : other == name with
      | true =>
        rw [hother] at hp
        cases hp
        exact ⟨q, hq, rfl⟩
      | false =>
        rw [hother] at hp
        apply h.held other p hp

/-- Something that is done in two sessions finishes with replies that differ at most in a drawing, and
leaves the sessions alike. -/
def Agree (e : Engine) (step step' : Except Abort (Reply × Session)) : Prop :=
  ∃ reply reply' s s', step = .ok (reply, s) ∧ step' = .ok (reply', s')
    ∧ reply.undrawn = reply'.undrawn ∧ s.Alike e s'

theorem Alike.replies (h : s.Alike e s') (reply : Reply) :
  Agree e (.ok (reply, s)) (.ok (reply, s'))
  := ⟨reply, reply, s, s', rfl, rfl, rfl, h⟩

theorem Alike.storeIfCompiled (h : s.Alike e s') (name : String) {compiled : Except CompileError Query}
    (hcompiled : ∀ q, compiled = .ok q → q.Kept e) :
  Agree e (.ok (s.storeIfCompiled name compiled)) (.ok (s'.storeIfCompiled name compiled))
  := by
  cases compiled with
  | error e => apply h.replies
  | ok q => apply (h.store name (hcompiled q rfl)).replies

/-- What is done with the queries at a place agrees if it does on twins. -/
theorem Alike.atPlace (h : s.Alike e s') (place? : Option Nat)
    {use use' : Nat → Query → Except Abort (Reply × Session)}
    (huse : ∀ place q q', place? = some place → s.queryAt? place = some q → q.Twins e q' →
      Agree e (use place q) (use' place q')) :
  Agree e (s.atPlace place? use) (s'.atPlace place? use')
  := by
  cases place? with
  | none => apply h.replies
  | some place =>
    rw [Session.atPlace, Session.atPlace, Option.bind_some, Option.bind_some, queryAt?, queryAt?]
    obtain ⟨hq, hq'⟩ | ⟨q, q', hq, hq', htwins⟩ := getElem?_of_forall₂ h.queries place
    · rw [hq, hq']
      apply h.replies
    · rw [hq, hq']
      apply huse place q q' rfl hq htwins

/-- A predicate that an evaluation is about has the closure of the query that it is about. -/
theorem Alike.heldClosure (h : s.Alike e s') {name : String} {evaluation : Evaluation} {place : Nat}
    {q : Query} (hplace : s.evaluationPlace? name evaluation = some place)
    (hq : s.queryAt? place = some q) {k : Closure} (hk : k ∈ s.heldClosure? name evaluation) :
  k = q.closure
  := by
  have hpredicate : s.predicatePlace? name = some place →
      k ∈ (s.predicate? name).map Predicate.closure → k = q.closure := by
    intro hplace hk
    obtain ⟨p, hp, rfl⟩ := Option.map_eq_some_iff.mp hplace
    obtain ⟨l, hl, hclosure⟩ := h.held name p hp
    cases hl.symm.trans hq
    rw [hp] at hk
    cases hk
    exact hclosure
  cases evaluation with
  | satisfies record => exact hpredicate hplace hk
  | test record => exact hpredicate hplace hk
  | _ => cases hk

variable (he : e.Sound) (hover : ¬e.Overflows)

include he hover

/-- One step leaves sessions alike, and is answered alike, whether queries are evaluated as they are or
on copies that are compiled anew. -/
theorem Alike.act (h : s.Alike e s') (action : Action) :
  Agree e (s.act Query.performHeld e action) (s'.act Query.performAnew e action)
  := by
  have hplace : ∀ name, s.place? name = s'.place? name := by
    intro name
    rw [place?, place?, h.names]
  cases action with
  | compile name raw config =>
    apply h.storeIfCompiled name
    intro q hq
    apply Query.kept_of_compiled (c := .new e config) rfl hq
  | recompile name config as =>
    rw [Session.act, Session.act, hplace]
    apply h.atPlace
    intro place q q' _ _ htwins
    rw [htwins.withConfig]
    apply h.storeIfCompiled as
    intro k hk
    have hkept := Query.kept_of_compiled (c := q'.context.fork config) rfl hk
    rw [← htwins.right.engine]
    apply hkept
  | prepare name as =>
    rw [Session.act, Session.act, hplace]
    apply h.atPlace
    intro place q q' _ hq htwins
    apply ((h.update htwins.prepare hq rfl).keepPredicate as place).replies
  | setConverting name converting =>
    rw [Session.act, Session.act, hplace]
    apply h.atPlace
    intro place q q' _ hq htwins
    apply (h.update (htwins.setConverting converting) hq rfl).replies
  | draw name =>
    rw [Session.act, Session.act, hplace]
    apply h.atPlace
    intro place q q' _ _ htwins
    exact ⟨_, _, s, s', rfl, rfl, rfl, h⟩
  | evaluate name evaluation =>
    have hevaluation : s.evaluationPlace? name evaluation = s'.evaluationPlace? name evaluation := by
      cases evaluation <;>
        simp only [evaluationPlace?, predicatePlace?, predicate?, h.predicates, hplace]
    rw [Session.act, Session.act, ← hevaluation]
    apply h.atPlace
    intro place q q' hevaluated hq htwins
    obtain ⟨reply, hfinish, hfinish'⟩ := htwins.performAnew he hover
      (fun k hk => h.heldClosure hevaluated hq hk) (s'.heldClosure? name evaluation) evaluation
    generalize q.performHeld _ evaluation = step at hfinish ⊢
    generalize q'.performAnew _ evaluation = step' at hfinish' ⊢
    obtain ⟨k, hk⟩ := hfinish
    obtain ⟨k', hk'⟩ := hfinish'
    apply (h.update (hk.symm.trans (htwins.trans hk')) hq hk.closure.symm).replies

/-- A whole run leaves sessions alike, and is answered alike. -/
theorem Alike.run (h : s.Alike e s') (actions : List Action) :
  ∃ replies replies' k k',
    s.run Query.performHeld e actions = .ok (replies, k)
      ∧ s'.run Query.performAnew e actions = .ok (replies', k')
      ∧ replies.map Reply.undrawn = replies'.map Reply.undrawn ∧ k.Alike e k'
  := by
  induction actions generalizing s s' with
  | nil => exact ⟨[], [], s, s', rfl, rfl, rfl, h⟩
  | cons action rest ih =>
    obtain ⟨reply, reply', k, k', hact, hact', hreply, hk⟩ := h.act he hover action
    obtain ⟨replies, replies', l, l', hrun, hrun', hreplies, hl⟩ := ih hk
    refine ⟨reply :: replies, reply' :: replies', l, l', ?_, ?_, ?_, hl⟩
    · rw [Session.run, hact]
      simp only [bind, Except.bind, hrun]
      rfl
    · rw [Session.run, hact']
      simp only [bind, Except.bind, hrun']
      rfl
    · rw [List.map_cons, List.map_cons, hreply, hreplies]

end

theorem new_alike (e : Engine) :
  new.Alike e new
  := ⟨rfl, rfl, .nil, nofun⟩

/-- However long ago a predicate was taken from its query, and whatever has been done with the query since,
calling the closure that it holds is testing with the query as it is. -/
theorem predicate_call {actions : List Action} {replies : List Reply} {s : Session}
    (h : new.run Query.performHeld .core actions = .ok (replies, s)) {name : String} {p : Predicate}
    (hp : s.predicate? name = some p) :
  ∃ q, s.queryAt? p.place = some q ∧ ∀ c fuel record,
    p.closure.call c fuel record q.matcher.node = Node.test c fuel record q.matcher.node
  := by
  obtain ⟨_, _, _, _, hrun, -, -, halike⟩ :=
    (new_alike .core).run Engine.core_sound Engine.core_not_overflows actions
  cases hrun.symm.trans h
  obtain ⟨q, hq, hclosure⟩ := halike.held name p hp
  refine ⟨q, hq, fun c fuel record => ?_⟩
  rw [hclosure, Query.closure, q.matcher.closure_eq]
  apply Node.call_closure

end Session

/-- Whatever is done in a session with the usual operators, in whatever order, every evaluation is
answered as it is when each query is evaluated on a copy that is compiled for this evaluation alone,
with the settings that the query has at that time. Predicates call the closures that they hold, and
the copies have none. -/
theorem evaluations_do_not_interfere (actions : List Session.Action) :
  ∃ replies replies' s s',
    Session.new.run Query.performHeld .core actions = .ok (replies, s)
      ∧ Session.new.run Query.performAnew .core actions = .ok (replies', s')
      ∧ replies.map Reply.undrawn = replies'.map Reply.undrawn
  := by
  obtain ⟨replies, replies', s, s', hrun, hrun', hreplies, -⟩ :=
    (Session.new_alike .core).run Engine.core_sound Engine.core_not_overflows actions
  exact ⟨replies, replies', s, s', hrun, hrun', hreplies⟩

/-- A predicate goes on with its query when another query gets the name. -/
example :
    (Session.new.run Query.performHeld .core [
      .compile "q" (.normalized ⟨.map [("a", .map [("b", .int 1)])]⟩) [],
      .prepare "q" "p",
      .evaluate "q" (.isMatch (.map [("a", .array [.map [("b", .int 1)]])])),
      .compile "q" (.normalized ⟨.map [("a", .int 2)]⟩) [],
      .evaluate "p" (.satisfies (.map [("a", .map [("b", .int 1)])]))]).map Prod.fst
    = .ok [.done, .done, .matched true, .done, .matched true]
  := by
  set_option maxRecDepth 4000 in rfl

end DocQuery
