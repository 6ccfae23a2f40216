import DocQuery.Proofs.Nesting
import DocQuery.Proofs.Sessions

/-!
# Outcomes

Every matcher on the engine with the usual operators settles on a truth value, which depends only on the
record and on whether the values that are taken out of it are converted. So a query comes to what its tree
settles on before any form has been built, whatever has been done with it and in whatever way it is
evaluated.
-/

namespace DocQuery

/-! ### Matchers -/

/-- What a leaf on the engine with the usual operators comes to does not depend on what surrounds it. -/
theorem test_core_congr {l : Leaf} (hl : Registry.core.HasLeaf l) (s s' : Surroundings) (record : Value) :
  l.test s record = l.test s' record
  := by
  cases l with
  | probe p => exact absurd (hl p rfl) (Engine.core_probes p)
  | _ => rfl

/-- A matcher all of whose forms can be built settles on a truth value on every record. This depends only on
whether the values that are taken out of records are converted. -/
theorem Node.Unfolds.exists_settles {k : Nat} {n : Node} (h : n.Unfolds k) (converting : Bool) :
  ∃ test : Value → Bool, ∀ c : Context, c.engine = .core → c.converting = converting →
    ∀ record, n.Settles c record (test record)
  := by
  let c₀ : Context := ⟨.core, [], converting, none⟩
  have hverdict : ∀ record, ∃ b, n.verdict c₀ k record = .ok (.ok b) := exists_verdict_core rfl h
  choose test htest using hverdict
  refine ⟨test, ?_⟩
  intro c hc hconverting record k' hk'
  have hleft : n.verdict c (max k k') record = n.verdict c₀ k record :=
    Node.verdict_stable (c := c₀) hc hconverting (fun l hl record => test_core_congr hl _ _ record)
      (Nat.le_max_left k k') h record
  have hright : n.verdict c (max k k') record = n.verdict c k' record :=
    Node.verdict_stable rfl rfl (fun _ _ _ => rfl) (Nat.le_max_right k k')
      (by rw [Context.registry_of_core hc]; exact hk') record
  rw [← hright, hleft, htest]

/-! ### Queries -/

/-- The query comes to the truth value on the record as it is, and so does its predicate. -/
structure Query.Concludes (q : Query) (record : Value) (b : Bool) : Prop where
  evaluate : (q.evaluate record).map Prod.fst = .ok (.ok b)
  test : (q.test record).map Prod.fst = .ok (.ok b)

/-- The query comes to the truth value on the record once it has been converted, with a trace and without
one. -/
structure Query.Decides (q : Query) (record : Value) (b : Bool) : Prop where
  isMatch : (q.isMatch record).map Prod.fst = .ok b
  trace : (q.trace record).map (fun (t, _) => t.result) = .ok (some b)

section

variable {q : Query} (hq : q.Kept .core) {record : Value} {b : Bool}

include hq

/-- What the tree of a query settles on, with no form built, is the answer of the query. -/
theorem Query.Kept.answer_of_settles (h : q.matcher.node.fresh.Settles q.context record b) :
  q.answer record = .ok (.ok b)
  := by
  obtain ⟨-, hfits⟩ := Engine.core_faultless.invariant hq.node
  rw [Query.answer, Node.answer, ← Node.verdict_fresh]
  apply h _ (Node.fits_fresh.mpr hfits)

/-- If the condition is legible, the tree settles on what the condition holds. -/
theorem Query.Kept.settles_of_legible {heap : Heap} (h : q.condition.value.Legible heap) :
  q.matcher.node.fresh.Settles q.context record
    (Operator.condition.holds q.context.taken q.condition.value record)
  := by
  apply settlesBelow (Context.registry_of_core hq.engine) heap _ _ .condition _ _ (Nat.lt_succ_self _)
    (Registry.offers_of_ne (by simp)) h hq.compiled

theorem Query.Kept.concludes (h : q.matcher.node.fresh.Settles q.context record b) :
  q.Concludes record b
  := by
  have hanswer := hq.answer_of_settles h
  constructor
  · rw [Engine.core_sound.query_evaluate hq.toInUse, hanswer]
  · rw [Engine.core_sound.query_test hq.toInUse, hanswer]

theorem Query.Kept.decides
    (h : q.matcher.node.fresh.Settles q.context (q.normalizeRecord record) b) :
  q.Decides record b
  := by
  have hanswer := hq.answer_of_settles h
  constructor
  · rw [Engine.core_sound.query_isMatch hq.toInUse, hanswer]
    rfl
  · obtain htrace | ⟨-, hover⟩ := Engine.core_sound.query_trace hq.toInUse record
    · rw [htrace, hanswer]
      rfl
    · exact absurd hover Engine.core_not_overflows

end

end DocQuery
