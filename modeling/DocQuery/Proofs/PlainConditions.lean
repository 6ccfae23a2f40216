import DocQuery.Proofs.Compiled

/-!
# Plain conditions

A condition of plain data stays plain in normal form, and texts tell plain data apart. So a compiled
plain condition matches a record exactly if interpreting the condition says so.
-/

namespace DocQuery

/-- The value is plain data without floating point numbers. -/
inductive Value.Plain : Value → Prop
  | null : Plain .null
  | bool (b : Bool) : Plain (.bool b)
  | int (n : Int64) : Plain (.int n)
  | string (s : String) : Plain (.string s)
  | array {items : List Value} (h : ∀ v ∈ items, Plain v) : Plain (.array items)
  | map {entries : Entries} (h : ∀ e ∈ entries, Plain e.2) : Plain (.map entries)

theorem Value.plain_map_iff {entries : Entries} :
  (Value.map entries).Plain ↔ ∀ e ∈ entries, e.2.Plain
  := by
  constructor
  · intro h
    cases h with
    | map h => exact h
  · exact .map

theorem Value.plain_array_iff {items : List Value} :
  (Value.array items).Plain ↔ ∀ v ∈ items, v.Plain
  := by
  constructor
  · intro h
    cases h with
    | array h => exact h
  · exact .array

/-- Plain data is legible. -/
theorem Value.Plain.legible {v : Value} (h : v.Plain) (heap : Heap) :
  v.Legible heap
  := by
  induction h with
  | null => exact .null
  | bool b => exact .bool b
  | int n => exact .int n
  | string s => exact .string s
  | array _ ih => exact .array ih
  | map _ ih => exact .map ih

/-- A condition is plain if the values in it are. -/
def Condition.Raw.Plain : Condition.Raw → Prop
  | pairs ps => ∀ p ∈ ps, p.2.Plain
  | value v => v.Plain
  | normalized c => c.value.Plain

/-! ### Normal forms -/

theorem plain_merge {m m' : Entries} (h : ∀ e ∈ m, e.2.Plain) (h' : ∀ e ∈ m', e.2.Plain) :
  ∀ e ∈ Entries.merge m m', e.2.Plain
  := Entries.forall_merge_values (fun _ => Value.plain_map_iff) h h'

theorem plain_expandPath (path : String) {v : Value} (h : v.Plain) :
  ∀ e ∈ expandPath path v, e.2.Plain
  := by
  have hnest : ∀ segments, (nest segments v).Plain := by
    intro segments
    induction segments with
    | nil => exact h
    | cons segment rest ih => exact .map (List.forall_mem_singleton.mpr ih)
  unfold expandPath
  split
  · exact fun e he => absurd he List.not_mem_nil
  · exact List.forall_mem_singleton.mpr (hnest _)

namespace Normalizer

variable (z : Normalizer)

theorem normalizeItems_eq (items : List Value) :
  z.normalizeItems items = items.map z.normalizeValue
  := by
  induction items with
  | nil => rw [normalizeItems, List.map_nil]
  | cons v rest ih => rw [normalizeItems, ih, List.map_cons]

theorem plain_normalizeEntries {entries merged : Entries}
    (h : ∀ e ∈ entries, (z.normalizeValue e.2).Plain) (hmerged : ∀ e ∈ merged, e.2.Plain) :
  ∀ e ∈ z.normalizeEntries merged entries, e.2.Plain
  := by
  induction entries generalizing merged with
  | nil => rwa [normalizeEntries]
  | cons d rest ih =>
    obtain ⟨path, v⟩ := d
    obtain ⟨hv, hrest⟩ := List.forall_mem_cons.mp h
    rw [normalizeEntries]
    apply ih hrest
    apply plain_merge hmerged
    apply plain_expandPath path hv

/-- Plain data in a condition stays plain. -/
theorem plain_normalizeValue {v : Value} (h : v.Plain) :
  (z.normalizeValue v).Plain
  := by
  induction h with
  | null => exact .null
  | bool b => exact .bool b
  | int n => exact .int n
  | string s => exact .string s
  | array _ ih =>
    rw [normalizeValue, normalizeItems_eq]
    exact .array (List.forall_mem_map.mpr ih)
  | map _ ih =>
    rw [normalizeValue]
    apply Value.Plain.map
    apply z.plain_normalizeEntries ih
    exact fun e he => absurd he List.not_mem_nil

theorem plain_mergePairs {pairs : List (Condition.Key × Value)} (h : ∀ p ∈ pairs, p.2.Plain) :
  ∀ e ∈ z.mergePairs pairs, e.2.Plain
  := by
  have hpair : ∀ key v, v.Plain → ∀ e ∈ z.normalizePair key v, e.2.Plain := by
    intro key v hv
    cases key with
    | path path => exact plain_expandPath path (z.plain_normalizeValue hv)
    | operator key =>
      apply plain_expandPath key.field
      exact .map (List.forall_mem_singleton.mpr (z.plain_normalizeValue hv))
    | normalized key => exact List.forall_mem_singleton.mpr hv
  apply List.foldlRecOn (motive := fun merged : Entries => ∀ e ∈ merged, e.2.Plain)
  · exact fun e he => absurd he List.not_mem_nil
  · intro merged hmerged p hp
    apply plain_merge hmerged (hpair p.1 p.2 (h p hp))

/-- The normal form of a plain condition is plain. -/
theorem plain_normalize {raw : Condition.Raw} (h : raw.Plain) :
  (z.normalize raw).value.Plain
  := by
  cases raw with
  | pairs ps => exact .map (z.plain_mergePairs h)
  | value v => exact z.plain_normalizeValue h
  | normalized c => exact h

end Normalizer

/-! ### Compiled conditions -/

/-- A query that was compiled holds the normal form of its condition and the matcher that is built of
it. -/
theorem Query.built_of_compile {e : Engine} {raw : Condition.Raw} {config : Entries} {q : Query}
    (h : Query.compile? e raw config = .ok q) :
  q.condition = e.normalizer.normalize raw
    ∧ Operator.condition.build? e.registry q.condition.value = .ok q.matcher.node
  := by
  rw [compile?, ofCondition?] at h
  split at h
  · cases h
  · obtain ⟨m, hm, rfl⟩ := map_eq_ok_iff.mp h
    obtain ⟨n, hn, rfl⟩ := map_eq_ok_iff.mp hm
    exact ⟨rfl, hn⟩

/-- The matcher of a compiled condition that is legible, in whatever state evaluations may have left it,
comes to what the condition holds. -/
theorem Query.verdict_of_compile {raw : Condition.Raw} {config : Entries} {q : Query}
    (hq : Query.compile? .core raw config = .ok q) {heap : Heap}
    (hlegible : q.condition.value.Legible heap) {c : Context} (hc : c.engine = .core) {n : Node}
    (hn : q.matcher.node.Becomes Registry.core n) (record : Value) {k : Nat}
    (hk : 4 * q.condition.value.depth + 3 ≤ k) :
  n.verdict c k record = .ok (.ok (Operator.condition.holds c.taken q.condition.value record))
  := by
  have hregistry : c.engine.registry = Registry.core := by
    rw [hc]
    rfl
  obtain ⟨-, hfits⟩ := Engine.core_faultless.invariant (Query.Arises.compiled hq).inUse.node
  rw [Node.verdict_congr hn.2]
  apply settlesBelow hregistry heap _ _ .condition _ _ (Nat.lt_succ_self _) _ hlegible
    (Query.built_of_compile hq).2
  · apply hfits.mono hk
  · apply Registry.offers_of_ne (by simp)

/-- The matcher of a compiled condition, in whatever state evaluations may have left it, matches a
record exactly if the normal form of the condition holds of it, and so does the query. -/
theorem plain_condition_holds {raw : Condition.Raw} (hraw : raw.Plain) {config : Entries} {q : Query}
    (hq : Query.compile? .core raw config = .ok q) :
  (∀ (c : Context) (n : Node) (record : Value) (fuel : Nat), c.engine = .core →
      q.matcher.node.Becomes Registry.core n →
      evaluationBound (Normalizer.core.normalize raw).value record ≤ fuel →
        (n.evaluate c fuel record).map Prod.fst
          = .ok (.ok (Operator.condition.holds c.taken (Normalizer.core.normalize raw).value record)))
    ∧ ∀ record : Value, (q.isMatch record).map Prod.fst
        = .ok (Operator.condition.holds q.context.taken (Normalizer.core.normalize raw).value
            (q.normalizeRecord record))
  := by
  have hvalue : q.condition.value = (Normalizer.core.normalize raw).value :=
    congrArg Condition.value (Query.built_of_compile hq).1
  have huse := (Query.Arises.compiled hq).inUse
  obtain ⟨hconsistent, -⟩ := Engine.core_faultless.invariant huse.node
  have hlegible : q.condition.value.Legible default := by
    rw [hvalue]
    apply (Normalizer.core.plain_normalize hraw).legible
  rw [← hvalue]
  constructor
  · intro c n record fuel hc hn hfuel
    have hyields := n.evaluate_yields c fuel (by rw [hc]; exact hn.1) record
    rw [hyields.map_fst]
    apply Query.verdict_of_compile hq hlegible hc hn record
    apply Nat.le_trans (levels_le_evaluationBound _ record) hfuel
  · intro record
    have hanswer := Engine.core_sound.query_evaluate huse (q.normalizeRecord record)
    rw [Query.answer, Node.answer, Query.verdict_of_compile hq hlegible huse.engine (.refl hconsistent) _
      (Nat.le_refl _)] at hanswer
    unfold Query.isMatch
    cases hstep : q.evaluate (q.normalizeRecord record) with
    | error abort =>
      rw [hstep] at hanswer
      cases hanswer
    | ok result =>
      rw [hstep] at hanswer
      have hfst := Except.ok.inj hanswer
      change Except.ok result.1.isMatch = _
      rw [hfst]
      rfl

/-- Two branches that are the same: one of them is dropped and the other stands alone, and on an array
it becomes a condition on elements, as interpreting the disjunction says. -/
theorem plain_condition_holds_branches :
  ∃ raw q, Condition.Raw.Plain raw ∧ Query.compile? .core raw [] = .ok q
    ∧ (q.isMatch (.map [("a", .array [.map [("b", .int 1)]])])).map Prod.fst
      = .ok (Operator.condition.holds q.context.taken (Normalizer.core.normalize raw).value
        (.map [("a", .array [.map [("b", .int 1)]])]))
    ∧ (q.isMatch (.map [("a", .array [.map [("b", .int 1)]])])).map Prod.fst = .ok true
  := by
  obtain ⟨q, hq⟩ : ∃ q, Query.compile? .core (.value (.map [("$or", .array
      [.map [("a.b", .int 1)], .map [("a.b", .int 1)]])])) [] = .ok q := ⟨_, rfl⟩
  have hraw : Condition.Raw.Plain (.value (.map [("$or", .array
      [.map [("a.b", .int 1)], .map [("a.b", .int 1)]])])) := by
    apply Value.Plain.map
    refine List.forall_mem_singleton.mpr (.array ?_)
    have hbranch : (Value.map [("a.b", .int 1)]).Plain :=
      .map (List.forall_mem_singleton.mpr (.int 1))
    apply List.forall_mem_cons.mpr ⟨hbranch, List.forall_mem_singleton.mpr hbranch⟩
  obtain ⟨-, hmatch⟩ := plain_condition_holds hraw hq
  refine ⟨_, q, hraw, hq, hmatch _, ?_⟩
  cases hq
  set_option maxRecDepth 2000 in rfl

end DocQuery
