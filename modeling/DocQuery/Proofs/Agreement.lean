import DocQuery.Extension.Operators
import DocQuery.Proofs.Reachable

/-!
# Agreement of the evaluations

Direct evaluation, the prepared test and the traced evaluation of a matcher in use come to the same
answer, whatever forms for arrays the matcher holds. So a query, its predicate and its trace agree.
A trace may abort where the others do not, when a matcher of the application overflows on something
that they do not look at.
-/

namespace DocQuery

/-- What an engine takes for granted: the usual operators are under their keys, and the matchers of
further operators do not look at the record that is being traced and never run out of steps. -/
structure Engine.Sound (e : Engine) : Prop where
  faithful : e.registry.Faithful
  steady : ∀ p, e.registry.HasProbe p → ∀ config current record,
    p.test ⟨config, current⟩ record = p.test ⟨config, none⟩ record
  finite : ∀ p, e.registry.HasProbe p → ∀ s record, p.test s record ≠ .error .exhausted

/-- Some matcher of the application overflows on some record. -/
def Engine.Overflows (e : Engine) : Prop :=
  ∃ p, e.registry.HasProbe p ∧ ∃ s record, p.test s record = .error .overflow

section

variable {e : Engine}

/-- A leaf aborts only by an overflow of a matcher of the application. -/
theorem Engine.Sound.overflow (he : e.Sound) {l : Leaf} (hl : e.registry.HasLeaf l)
    {s : Surroundings} {record : Value} {abort : Abort} (h : l.test s record = .error abort) :
  abort = .overflow ∧ e.Overflows
  := by
  cases l with
  | probe p =>
    have hp := hl p rfl
    cases abort with
    | overflow => exact ⟨rfl, p, hp, s, record, h⟩
    | exhausted => exact absurd h (he.finite p hp s record)
  | _ => cases h

/-- A leaf does not look at the record that is being traced. -/
theorem Engine.Sound.unmoved (he : e.Sound) {l : Leaf} (hl : e.registry.HasLeaf l) (config : Entries)
    (current : Option Value) (record : Value) :
  l.test ⟨config, current⟩ record = l.test ⟨config, none⟩ record
  := by
  cases l with
  | probe p => exact he.steady p (hl p rfl) config current record
  | _ => rfl

/-- A matcher in use is consistent, and its leaves are usual ones or those of the engine. -/
theorem Engine.Sound.invariant (he : e.Sound) {argument : Value} {n : Node}
    (hn : n.Arises e argument) :
  n.Consistent e.registry
    ∧ n.Fits e.registry e.registry.HasLeaf (fun _ => True) (4 * argument.depth + 3)
  := by
  apply hn.invariant he.faithful e.registry.hereditary_offers
  · exact fun _ _ _ hoperator hl => hoperator.hasLeaf hl
  · exact fun _ _ => trivial
  · exact fun _ _ _ hoperator _ => hoperator

/-- What a matcher in use comes to on a record. -/
def Node.answer (c : Context) (argument : Value) (n : Node) (record : Value) :
    Except Abort Outcome :=
  n.verdict c (4 * argument.depth + 3) record

variable {c : Context} {argument : Value} {n : Node}

theorem Engine.Sound.evaluate (he : e.Sound) (hc : c.engine = e) (hn : n.Arises e argument)
    {record : Value} {fuel : Nat} (hfuel : evaluationBound argument record ≤ fuel) :
  (n.evaluate c fuel record).map Prod.fst = n.answer c argument record
  := by
  subst hc
  obtain ⟨hconsistent, hfits⟩ := he.invariant hn
  rw [(n.evaluate_yields c fuel hconsistent record).map_fst]
  apply Node.verdict_stable rfl rfl (fun _ _ _ => rfl) _ hfits
  apply Nat.le_trans (levels_le_evaluationBound argument record) hfuel

/-- The answer of a matcher aborts only by an overflow of a matcher of the application. -/
theorem Engine.Sound.answer_overflow (he : e.Sound) (hc : c.engine = e) (hn : n.Arises e argument)
    {record : Value} {abort : Abort} (h : n.answer c argument record = .error abort) :
  abort = .overflow ∧ e.Overflows
  := by
  subst hc
  have hanswers := Node.answers_verdict
    (F := fun a => ∀ abort, a = .error abort → abort = .overflow ∧ c.engine.Overflows)
    (fun l hl record => .inr fun _ h => he.overflow hl h) (fun _ _ _ _ _ h => by cases h)
    (he.invariant hn).2 record
  obtain ⟨b, hb⟩ | hF := hanswers
  · rw [Node.answer, hb] at h
    cases h
  · apply hF abort h

/-- A trace comes to the answer of the matcher, unless it overflows. -/
theorem Engine.Sound.traced (he : e.Sound) (hc : c.engine = e) (hn : n.Arises e argument)
    {record : Value} {fuel : Nat} (hfuel : evaluationBound argument record ≤ fuel) (t : Trace) :
  Traces (fun abort => abort = .overflow ∧ e.Overflows) (n.Becomes e.registry)
    (n.traced c fuel record t) (n.answer c argument record)
  := by
  subst hc
  obtain ⟨hconsistent, hfits⟩ := he.invariant hn
  have hbound := Nat.le_trans (levels_le_evaluationBound argument record) hfuel
  rw [Node.answer, ← Node.verdict_stable rfl rfl (fun _ _ _ => rfl) hbound hfits]
  apply n.traced_traces (fun l hl _ _ h => he.overflow hl h) fuel hconsistent (hfits.mono hbound)
    record t

/-! ### Queries -/

variable {q : Query}

/-- The query with the tree that an evaluation leaves behind. -/
def Query.become (q : Query) (n : Node) (h : n.closure = q.matcher.node.closure) : Query :=
  { q with matcher := q.matcher.become n h }

/-- Evaluating a query evaluates its matcher. -/
theorem Query.evaluate_eq (q : Query) (record : Value) :
  q.evaluate record
    = (q.matcher.node.evaluate_ensures q.context (evaluationBound q.matcher.argument record) record).pmap
        fun (outcome, n) h => (outcome, q.become n h)
  := by
  rw [evaluate, Matcher.evaluate, Ensures.map_pmap]
  rfl

/-- The query with the tree that a trace leaves behind. No record is being traced any more. -/
def Query.becomeTraced (q : Query) (n : Node) (h : n.closure = q.matcher.node.closure) : Query :=
  { q with matcher := { q.matcher.become n h with context := { q.context with current := none } } }

/-- Tracing a query traces its matcher. -/
theorem Query.trace_eq (q : Query) (record : Value) :
  q.trace record
    = (q.matcher.node.traced_ensures (q.context.tracing (q.normalizeRecord record))
        (evaluationBound q.matcher.argument (q.normalizeRecord record)) (q.normalizeRecord record)
        .new).pmap fun (_, n, t) h => (t, q.becomeTraced n h)
  := by
  rw [trace, Matcher.traced, Ensures.map_pmap]
  rfl

/-- What a query in use comes to on a record as it is. -/
def Query.answer (q : Query) (record : Value) : Except Abort Outcome :=
  q.matcher.node.answer q.context q.condition.value record

theorem Engine.Sound.query_evaluate (he : e.Sound) (hq : q.InUse e) (record : Value) :
  (q.evaluate record).map Prod.fst = q.answer record
  := by
  rw [Query.answer, ← he.evaluate hq.engine hq.node (Nat.le_refl _), ← hq.argument, Query.evaluate]
  rw [Query.context, ← q.matcher.evaluate_fst]
  cases q.matcher.evaluate record <;> rfl

/-- A query matches a record if its matcher does when the record has been converted. -/
theorem Engine.Sound.query_isMatch (he : e.Sound) (hq : q.InUse e) (record : Value) :
  (q.isMatch record).map Prod.fst = (q.answer (q.normalizeRecord record)).map Outcome.isMatch
  := by
  rw [← he.query_evaluate hq, Query.isMatch]
  cases q.evaluate (q.normalizeRecord record) <;> rfl

theorem Engine.Sound.query_test (he : e.Sound) (hq : q.InUse e) (record : Value) :
  (q.test record).map Prod.fst = q.answer record
  := by
  rw [← he.query_evaluate hq, q.test_eq]
  cases q.evaluate record <;> rfl

/-- While a record is being traced a matcher in use comes to the same answer. -/
theorem Engine.Sound.answer_tracing (he : e.Sound) (hc : c.engine = e) (hcurrent : c.current = none)
    (hn : n.Arises e argument) (current record : Value) :
  n.answer (c.tracing current) argument record = n.answer c argument record
  := by
  subst hc
  have hleaf : ∀ l, c.engine.registry.HasLeaf l → ∀ record,
      l.test (c.tracing current).surroundings record = l.test c.surroundings record := by
    intro l hl record
    rw [Context.surroundings, Context.surroundings, hcurrent]
    apply he.unmoved hl c.config (some current) record
  have hengine : (c.tracing current).engine = c.engine := rfl
  apply Node.verdict_stable hengine rfl hleaf (Nat.le_refl _) (he.invariant hn).2 record

theorem Engine.Sound.query_trace (he : e.Sound) (hq : q.InUse e) (record : Value) :
  (q.trace record).map (fun (t, _) => t.result)
      = (q.answer (q.normalizeRecord record)).map (fun outcome => some outcome.isMatch)
    ∨ q.trace record = .error .overflow ∧ e.Overflows
  := by
  have hengine : (q.context.tracing (q.normalizeRecord record)).engine = e := hq.engine
  have hfuel := Nat.le_refl (evaluationBound q.condition.value (q.normalizeRecord record))
  have htraces := he.traced hengine hq.node hfuel .new
  rw [he.answer_tracing hq.engine hq.current hq.node, ← Query.answer] at htraces
  rw [← hq.argument] at htraces
  cases htraced : q.matcher.node.traced (q.context.tracing (q.normalizeRecord record))
      (evaluationBound q.matcher.argument (q.normalizeRecord record)) (q.normalizeRecord record) .new with
  | error abort =>
    obtain ⟨rfl, hover⟩ := htraces.aborts htraced
    rw [q.trace_eq]
    exact .inr ⟨Ensures.pmap_eq_error_iff.mpr htraced, hover⟩
  | ok result =>
    obtain ⟨outcome, m, t⟩ := result
    obtain ⟨hanswer, -⟩ := htraces.leaves htraced
    obtain ⟨rest, hlatest⟩ := Node.latest_of_traced htraced
    have hresult : (q.trace record).map (fun (t, _) => t.result) = .ok t.result := by
      rw [q.trace_eq, Ensures.map_pmap]
      apply Ensures.pmap_of_eq_ok _ _ htraced
    left
    rw [hanswer, hresult]
    simp [Except.map, Trace.result, hlatest, Trace.new]

/-- Tracing a query finishes, unless a matcher of the application overflows. -/
theorem Engine.Sound.query_trace_finishes (he : e.Sound) (hq : q.InUse e) (record : Value) :
  (∃ t k, q.trace record = .ok (t, k)) ∨ q.trace record = .error .overflow ∧ e.Overflows
  := by
  cases htrace : q.trace record with
  | ok result => exact .inl ⟨result.1, result.2, rfl⟩
  | error abort =>
    right
    obtain hanswer | ⟨heq, hover⟩ := he.query_trace hq record
    · rw [htrace] at hanswer
      cases h : q.answer (q.normalizeRecord record) with
      | ok outcome =>
        rw [h] at hanswer
        cases hanswer
      | error abort' =>
        rw [h] at hanswer
        cases hanswer
        obtain ⟨rfl, hover⟩ := he.answer_overflow hq.engine hq.node h
        exact ⟨rfl, hover⟩
    · cases htrace.symm.trans heq
      exact ⟨rfl, hover⟩

end

/-! ### The engines -/

/-- What was registered last under a key is found under it, and all else as before. -/
theorem Registry.lookup?_register (r : Registry) (name key : String) (operator : Operator)
    (other : String) :
  (r.register name key operator).lookup? other
    = if other = key then some ⟨name, key, operator⟩ else r.lookup? other
  := by
  have hothers : (r.entries.filter fun e => e.key != key).find? (fun e => e.key == other)
      = if other = key then none else r.lookup? other := by
    rw [List.find?_filter]
    split
    · rename_i h
      subst h
      rw [List.find?_eq_none]
      simp
    · rename_i h
      congr 1
      funext e
      by_cases hkey : e.key = other
      · simp [hkey, h]
      · simp [hkey]
  rw [lookup?, register, List.find?_append, hothers]
  split
  · rename_i h
    subst h
    simp
  · rename_i h
    have hnew : ([⟨name, key, operator⟩] : List RegistryEntry).find? (fun e => e.key == other) = none := by
      simpa using fun h' => h h'.symm
    rw [hnew, Option.or_none]

/-- The engine with the usual operators has no others. -/
theorem Engine.core_probes (p : Probe) :
  ¬Engine.core.registry.HasProbe p
  := by
  rintro ⟨e, he, x, v, hop, -⟩
  apply (Registry.core_usual e he).2 x hop

theorem Engine.core_not_overflows :
  ¬Engine.core.Overflows
  := by
  rintro ⟨p, hp, -⟩
  exact Engine.core_probes p hp

/-- An engine with the usual operators is sound, whatever rules it has. -/
theorem Engine.sound_of_registry {e : Engine} (h : e.registry = .core) :
  e.Sound
  := by
  have hprobes : ∀ p, ¬e.registry.HasProbe p := by
    rw [h]
    exact core_probes
  constructor
  · rw [h]
    exact fun _ d hd => ⟨d, hd, rfl⟩
  · exact fun p hp => absurd hp (hprobes p)
  · exact fun p hp => absurd hp (hprobes p)

theorem Engine.core_sound :
  Engine.core.Sound
  := sound_of_registry rfl

/-- The remainder operator is the only further one of the extended engine. -/
theorem Engine.extended_probes {p : Probe} (h : Engine.extended.registry.HasProbe p) :
  ∃ m : Remainder, p = m.probe
  := by
  obtain ⟨e, he, x, v, hop, hv⟩ := h
  obtain he | he := List.mem_append.mp he
  · exact absurd ⟨e, (List.mem_filter.mp he).1, x, v, hop, hv⟩ (core_probes p)
  · obtain rfl := List.mem_singleton.mp he
    cases hop
    dsimp only at hv
    split at hv
    · rename_i m _
      cases hv
      exact ⟨m, rfl⟩
    · cases hv

theorem Engine.extended_sound :
  Engine.extended.Sound
  where
  faithful key e h := by
    refine ⟨e, ?_, rfl⟩
    rw [show Engine.extended.registry = Registry.core.register "mod" "$mod" remainderOperator from rfl,
      Registry.lookup?_register, if_neg, h]
    rintro rfl
    cases h
  steady p hp config current record := by
    obtain ⟨m, rfl⟩ := extended_probes hp
    rfl
  finite p hp s record h := by
    obtain ⟨m, rfl⟩ := extended_probes hp
    have htest := map_eq_error_iff.mp h
    unfold Remainder.test at htest
    split at htest
    · split at htest <;> cases htest
    · cases htest

/-- The evaluations of every matcher in use come to one answer, which does not depend on the steps
that are allowed, and so do the uses of every query. Only a matcher of the application makes them
abort, by an overflow, and a trace may overflow where the others do not. -/
theorem evaluations_agree {e : Engine} (he : e.Sound) :
  (∀ (c : Context) (argument : Value) (n : Node) (record : Value),
      c.engine = e → n.Arises e argument →
      ∃ answer, (∀ abort, answer = .error abort → abort = .overflow ∧ e.Overflows)
        ∧ ∀ fuel, evaluationBound argument record ≤ fuel →
          (n.evaluate c fuel record).map Prod.fst = answer
            ∧ (Node.test c fuel record n).map Prod.fst = answer
            ∧ ∀ t, (n.traced c fuel record t).map Prod.fst = answer
              ∨ n.traced c fuel record t = .error .overflow ∧ e.Overflows)
    ∧ ∀ (q : Query) (record : Value), q.Arises e →
      (∀ abort, q.isMatch record = .error abort → abort = .overflow ∧ e.Overflows)
        ∧ (q.isMatch record).map Prod.fst = (q.satisfies (q.normalizeRecord record)).map Prod.fst
        ∧ ((q.trace record).map (fun (t, _) => t.result)
            = (q.isMatch record).map (fun (b, _) => some b)
          ∨ q.trace record = .error .overflow ∧ e.Overflows)
  := by
  constructor
  · intro c argument n record hc hn
    refine ⟨n.answer c argument record, fun _ h => he.answer_overflow hc hn h, ?_⟩
    intro fuel hfuel
    have hevaluate := he.evaluate hc hn hfuel
    refine ⟨hevaluate, ?_, ?_⟩
    · rw [Node.test_eq_evaluate, hevaluate]
    · intro t
      have htraces := he.traced hc hn hfuel t
      cases htraced : n.traced c fuel record t with
      | error abort =>
        obtain ⟨rfl, hover⟩ := htraces.aborts htraced
        exact .inr ⟨rfl, hover⟩
      | ok result =>
        obtain ⟨outcome, m, t'⟩ := result
        obtain ⟨hanswer, -⟩ := htraces.leaves htraced
        exact .inl hanswer.symm
  · intro q record hq
    have hevaluate := he.query_evaluate hq.inUse (q.normalizeRecord record)
    have htest := he.query_test hq.inUse (q.normalizeRecord record)
    have htrace := he.query_trace hq.inUse record
    unfold Query.isMatch Query.satisfies
    refine ⟨?_, ?_, ?_⟩
    · intro abort h
      rw [map_eq_error_iff.mp h] at hevaluate
      apply he.answer_overflow hq.inUse.engine hq.inUse.node hevaluate.symm
    · rw [← hevaluate] at htest
      generalize q.evaluate (q.normalizeRecord record) = step,
        q.test (q.normalizeRecord record) = step' at htest ⊢
      rcases step with abort | ⟨outcome, q₁⟩ <;> rcases step' with abort' | ⟨outcome', q₂⟩ <;>
        cases htest <;> rfl
    · apply htrace.imp_left
      intro h
      rw [h, ← hevaluate]
      cases q.evaluate (q.normalizeRecord record) <;> rfl

/-- A query for odd numbers under a field: its matcher has one answer, and the query and its
predicate find the number three. -/
theorem evaluations_agree_remainder :
  ∃ q, Query.compile? .extended
      (.normalized ⟨.map [("a", .map [("$mod", .array [.int 2, .int 1])])]⟩) [] = .ok q
    ∧ (∃ answer, ∀ fuel, evaluationBound q.condition.value (.map [("a", .int 3)]) ≤ fuel →
        (q.matcher.node.evaluate q.context fuel (.map [("a", .int 3)])).map Prod.fst = answer
          ∧ (Node.test q.context fuel (.map [("a", .int 3)]) q.matcher.node).map Prod.fst = answer)
    ∧ (q.isMatch (.map [("a", .int 3)])).map Prod.fst = .ok true
    ∧ (q.satisfies (q.normalizeRecord (.map [("a", .int 3)]))).map Prod.fst = .ok true
  := by
  obtain ⟨q, hq⟩ : ∃ q, Query.compile? .extended
      (.normalized ⟨.map [("a", .map [("$mod", .array [.int 2, .int 1])])]⟩) [] = .ok q := ⟨_, rfl⟩
  have harises := Query.Arises.compiled hq
  obtain ⟨hnodes, hqueries⟩ := evaluations_agree Engine.extended_sound
  obtain ⟨answer, -, hanswer⟩ := hnodes q.context q.condition.value q.matcher.node
    (.map [("a", .int 3)]) harises.inUse.engine harises.inUse.node
  obtain ⟨-, hagree, -⟩ := hqueries q (.map [("a", .int 3)]) harises
  have hmatch : (q.isMatch (.map [("a", .int 3)])).map Prod.fst = .ok true := by
    cases hq
    set_option maxRecDepth 2000 in rfl
  refine ⟨q, hq, ⟨answer, ?_⟩, hmatch, ?_⟩
  · intro fuel hfuel
    obtain ⟨hevaluate, htest, -⟩ := hanswer fuel hfuel
    exact ⟨hevaluate, htest⟩
  · rw [← hagree, hmatch]

end DocQuery
