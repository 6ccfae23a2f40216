import DocQuery.Proofs.Agreement
import DocQuery.Proofs.WellFormed

/-!
# Evaluations do not fail

On the engines with the usual operators, with the remainder operator or without it, every form for
arrays can be built that an evaluation asks for, because what a well-formed condition becomes on an
array is well-formed. So no evaluation of a compiled condition fails.
-/

namespace DocQuery

/-- What an engine takes for granted if no evaluation is to fail: further operators take no maps, and
their matchers do not fail. -/
structure Engine.Faultless (e : Engine) : Prop extends e.Sound where
  plain : e.registry.Plain
  unfailing : ∀ p, e.registry.HasProbe p → ∀ s record failure, p.test s record ≠ .ok (.error failure)

theorem Context.registry_of_core {c : Context} (hc : c.engine = .core) :
  c.engine.registry = .core
  := by
  rw [hc]
  rfl

theorem Engine.core_faultless :
  Engine.core.Faultless
  where
  toSound := core_sound
  plain.faithful := core_sound.faithful
  plain.others key e h hnone := by
    rw [show Engine.core.registry = Registry.core from rfl, hnone] at h
    cases h
  unfailing p hp := absurd hp (core_probes p)

theorem Engine.extended_faultless :
  Engine.extended.Faultless
  where
  toSound := extended_sound
  plain.faithful := extended_sound.faithful
  plain.others key e h hnone := by
    rw [show Engine.extended.registry = Registry.core.register "mod" "$mod" remainderOperator from rfl,
      Registry.lookup?_register, hnone] at h
    split at h
    · cases h
      refine ⟨_, rfl, ?_⟩
      intro entries p hp
      cases hp
    · cases h
  unfailing p hp s record failure h := by
    obtain ⟨m, rfl⟩ := extended_probes hp
    obtain ⟨b, -, h⟩ := map_eq_ok_iff.mp h
    cases h

section

variable {e : Engine} {argument : Value} {n : Node}

/-- A literal argument in use has a form for arrays. -/
theorem Engine.Faultless.invariant (he : e.Faultless) (hn : n.Arises e argument) :
  n.Consistent e.registry
    ∧ n.Fits e.registry e.registry.HasLeaf
      (fun a => ∃ m, Operator.arrayRecord.build? e.registry a = .ok m) (4 * argument.depth + 3)
  := by
  apply hn.invariant he.faithful (e.registry.hereditary_offers.and (hereditary_suits he.plain))
  · exact fun _ _ _ hcall hl => hcall.1.hasLeaf hl
  · exact fun _ hcall => exists_build?_arrayRecord he.plain hcall.2
  · exact fun _ _ _ hoperator h => ⟨hoperator, suits_of_build h⟩

/-- The answer of a matcher in use is a truth value, unless a matcher of the application
overflows. -/
theorem Engine.Faultless.answer (he : e.Faultless) {c : Context} (hc : c.engine = e)
    (hn : n.Arises e argument) (record : Value) :
  (∃ b, n.answer c argument record = .ok (.ok b))
    ∨ n.answer c argument record = .error .overflow ∧ e.Overflows
  := by
  subst hc
  apply Node.answers_verdict
    (F := fun answer => answer = .error .overflow ∧ c.engine.Overflows) _ _ (he.invariant hn).2
  · intro l hl record
    cases htest : l.test c.surroundings record with
    | error abort =>
      obtain ⟨rfl, hover⟩ := he.overflow hl htest
      exact .inr ⟨rfl, hover⟩
    | ok outcome =>
      cases outcome with
      | ok b => exact .inl ⟨b, rfl⟩
      | error failure =>
        cases l with
        | probe p => exact absurd htest (he.unfailing p (hl p rfl) _ record failure)
        | _ => cases htest
  · rintro a ⟨m, hm⟩ failure hfailure
    rw [hm] at hfailure
    cases hfailure

/-- The form of a literal argument in use can be built, or is built already. -/
theorem Engine.Faultless.force (he : e.Faultless) {role : Role} {a : Value} {direct : Node}
    {form : Form} (hn : (Node.literal role a direct form).Arises e argument) :
  ∃ m, form.force e.registry a = .ok m
  := by
  obtain ⟨hconsistent, hfits⟩ := he.invariant hn
  obtain ⟨⟨m, hm⟩, -⟩ := hfits
  obtain ⟨failure, -, hfailure⟩ | ⟨m', hforce, -⟩ := hconsistent.2.force
  · rw [hm] at hfailure
    cases hfailure
  · exact ⟨m', hforce⟩

end

/-- An evaluation comes to a truth value, or the remainder of a division is too large. -/
def Answered {α : Type} (e : Engine) (step : Except Abort (Outcome × α)) : Prop :=
  (∃ b x, step = .ok (.ok b, x)) ∨ e = .extended ∧ step = .error .overflow

/-- No evaluation of a compiled condition fails: every form for arrays that a literal argument in
its tree may need can be built, in whatever state the tree is, and all three evaluations of its
matchers come to a truth value. -/
theorem no_evaluation_fails {e : Engine} (he : e = .core ∨ e = .extended) {raw : Condition.Raw}
    {config : Entries} {q : Query} (hq : Query.compile? e raw config = .ok q) :
  q.matcher.node.Arises e q.condition.value
    ∧ ∀ (c : Context) (n : Node) (record : Value) (fuel : Nat), c.engine = e →
      n.Arises e q.condition.value → evaluationBound q.condition.value record ≤ fuel →
      (∀ role a direct form, n = .literal role a direct form →
          ∃ m, form.force e.registry a = .ok m)
        ∧ Answered e (n.evaluate c fuel record)
        ∧ Answered e (Node.test c fuel record n)
        ∧ ∀ t, Answered e (n.traced c fuel record t)
  := by
  have hfaultless : e.Faultless := by
    obtain rfl | rfl := he
    · exact Engine.core_faultless
    · exact Engine.extended_faultless
  have hextended : e.Overflows → e = .extended := by
    rintro ⟨p, hp, -⟩
    obtain rfl | rfl := he
    · exact absurd hp (Engine.core_probes p)
    · rfl
  refine ⟨(Query.Arises.compiled hq).inUse.node, ?_⟩
  intro c n record fuel hc hn hfuel
  have hanswer := hfaultless.answer hc hn record
  have hevaluate : Answered e (n.evaluate c fuel record) := by
    have h := hfaultless.evaluate hc hn hfuel
    cases hstep : n.evaluate c fuel record with
    | error abort =>
      rw [hstep] at h
      obtain ⟨rfl, hover⟩ := hfaultless.answer_overflow hc hn h.symm
      exact .inr ⟨hextended hover, rfl⟩
    | ok result =>
      obtain ⟨outcome, m⟩ := result
      rw [hstep] at h
      obtain ⟨b, hb⟩ | ⟨hover, -⟩ := hanswer
      · cases h.trans hb
        exact .inl ⟨b, m, rfl⟩
      · cases h.trans hover
  refine ⟨?_, hevaluate, ?_, ?_⟩
  · rintro role a direct form rfl
    apply hfaultless.force hn
  · rw [Node.test_eq_evaluate]
    exact hevaluate
  · intro t
    have htraces := hfaultless.traced hc hn hfuel t
    cases hstep : n.traced c fuel record t with
    | error abort =>
      obtain ⟨rfl, hover⟩ := htraces.aborts hstep
      exact .inr ⟨hextended hover, rfl⟩
    | ok result =>
      obtain ⟨outcome, m, t'⟩ := result
      obtain ⟨h, -⟩ := htraces.leaves hstep
      obtain ⟨b, hb⟩ | ⟨hover, -⟩ := hanswer
      · cases h.symm.trans hb
        exact .inl ⟨b, (m, t'), rfl⟩
      · cases h.symm.trans hover

/-- A condition on a field of a field: on an array it becomes a condition on elements, and the matcher
finds one that satisfies it. -/
theorem no_evaluation_fails_element :
  ∃ q, Query.compile? .core
      (.normalized ⟨.map [("a", .map [("b", .map [("$not", .int 1)])])]⟩) [] = .ok q
    ∧ Answered .core (q.matcher.node.evaluate q.context
        (evaluationBound q.condition.value (.map [("a", .array [.map [("b", .int 2)]])]))
        (.map [("a", .array [.map [("b", .int 2)]])]))
    ∧ (q.isMatch (.map [("a", .array [.map [("b", .int 2)]])])).map Prod.fst = .ok true
  := by
  obtain ⟨q, hq⟩ : ∃ q, Query.compile? .core
      (.normalized ⟨.map [("a", .map [("b", .map [("$not", .int 1)])])]⟩) [] = .ok q := ⟨_, rfl⟩
  obtain ⟨hroot, hall⟩ := no_evaluation_fails (.inl rfl) hq
  obtain ⟨-, hevaluate, -⟩ := hall q.context q.matcher.node
    (.map [("a", .array [.map [("b", .int 2)]])]) _ (Query.Arises.compiled hq).inUse.engine hroot
    (Nat.le_refl _)
  refine ⟨q, hq, hevaluate, ?_⟩
  cases hq
  set_option maxRecDepth 2000 in rfl

end DocQuery
