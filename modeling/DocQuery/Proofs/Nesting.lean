import DocQuery.Proofs.Acceptance
import DocQuery.Proofs.PlainConditions

/-!
# Nesting of matchers

The tree of a compiled condition can be unfolded: all forms for arrays in it can be built, and then
those in the forms, and this comes to an end. However much of the tree is unfolded, no path in it has
more than four matchers for each level of the condition, and so many nested steps are enough to
evaluate it on any record.
-/

namespace DocQuery

/-! ### Unfolded matchers -/

mutual

/-- All forms for arrays in the matcher are built. -/
def Node.Unfolded : Node → Prop
  | .leaf _ => True
  | .within _ _ bounds => bounds.Unfolded
  | .elements _ _ inner => inner.Unfolded
  | .group _ _ children => unfoldedAll children
  | .literal _ _ direct form => direct.Unfolded ∧ form.Unfolded

/-- All forms for arrays in the matchers are built. -/
def unfoldedAll : List Node → Prop
  | [] => True
  | n :: rest => n.Unfolded ∧ unfoldedAll rest

/-- The form is built, and so are all forms in it. -/
def Form.Unfolded : Form → Prop
  | .built n => n.Unfolded
  | _ => False

end

/-- The matchers lie one below the other. -/
def Node.Path (path : List Node) : Prop := path.IsChain fun n m => m ∈ n.children

section

variable {r : Registry} {L : Leaf → Prop} {Q : Value → Prop}

/-- A path below a matcher has no more matchers than the matcher has levels. -/
theorem Node.Fits.length_le {k : Nat} {n : Node} {below : List Node} (h : n.Fits r L Q k)
    (hn : n.Consistent r) (hpath : Node.Path (n :: below)) :
  (n :: below).length ≤ k
  := by
  induction below generalizing n k with
  | nil =>
    cases k with
    | zero => cases h
    | succ k => exact Nat.succ_le_succ (Nat.zero_le k)
  | cons m below ih =>
    obtain ⟨hm, hpath⟩ := List.isChain_cons_cons.mp hpath
    cases k with
    | zero => cases h
    | succ k =>
      obtain ⟨hm, hfits⟩ := h.of_child hn hm
      apply Nat.succ_le_succ (ih hfits hm hpath)

/-- Members of a list that become unfolded become an unfolded list. -/
theorem exists_unfoldedAll {nodes : List Node}
    (h : ∀ n ∈ nodes, ∃ full, n.Becomes r full ∧ full.Unfolded) :
  ∃ full : List Node, (∀ m ∈ full, m.Consistent r) ∧ full.map Node.fresh = nodes.map Node.fresh
    ∧ unfoldedAll full
  := by
  induction nodes with
  | nil => exact ⟨[], by simp, rfl, trivial⟩
  | cons n rest ih =>
    obtain ⟨⟨m, hm, hunfolded⟩, hrest⟩ := List.forall_mem_cons.mp h
    obtain ⟨full, hconsistent, hfresh, hall⟩ := ih hrest
    refine ⟨m :: full, List.forall_mem_cons.mpr ⟨hm.1, hconsistent⟩, ?_, hunfolded, hall⟩
    rw [List.map_cons, List.map_cons, hm.2, hfresh]

/-- A matcher all of whose forms can be built can be unfolded. -/
theorem Node.Fits.exists_unfolded
    (hQ : ∀ a, Q a → ∃ m, Operator.arrayRecord.build? r a = .ok m) {k : Nat} {n : Node}
    (h : n.Fits r L Q k) :
  ∃ full, n.Becomes r full ∧ full.Unfolded
  := by
  induction k generalizing n with
  | zero => cases h
  | succ k ih =>
    cases n with
    | leaf l => exact ⟨.leaf l, .refl trivial, trivial⟩
    | within negated argument n =>
      obtain ⟨m, hm, hunfolded⟩ := ih (n := n) h
      refine ⟨.within negated argument m, ⟨hm.1, ?_⟩, hunfolded⟩
      rw [fresh, fresh, hm.2]
    | elements quantifier argument n =>
      obtain ⟨m, hm, hunfolded⟩ := ih (n := n) h
      refine ⟨.elements quantifier argument m, ⟨hm.1, ?_⟩, hunfolded⟩
      rw [fresh, fresh, hm.2]
    | group grouping argument nodes =>
      obtain ⟨full, hconsistent, hfresh, hall⟩ := exists_unfoldedAll fun n hn => ih (h n hn)
      exact ⟨.group grouping argument full, .group hconsistent hfresh, hall⟩
    | literal role argument n form =>
      obtain ⟨hargument, hdirect, hform⟩ := h
      obtain ⟨m, hm, hunfolded⟩ := ih hdirect
      obtain ⟨built, hbuilt⟩ := hQ argument hargument
      obtain ⟨whole, hwhole, hwholeUnfolded⟩ := ih (hform built hbuilt)
      have hfresh : whole.fresh = built := hwhole.2.trans (fresh_of_build hbuilt)
      refine ⟨.literal role argument m (.built whole), .literal hm ⟨?_, hwhole.1⟩, hunfolded,
        hwholeUnfolded⟩
      rw [hfresh]
      exact hbuilt

end

/-! ### Compiled conditions -/

/-- The argument has a form for arrays on the engine with the usual operators. -/
def HasForm (argument : Value) : Prop := ∃ m, Operator.arrayRecord.build? .core argument = .ok m

/-- The matcher of a condition has four levels for each level of the condition, and all forms in it
can be built. -/
theorem fits_condition {fuel : Nat} {v : Value} {n : Node}
    (h : build .core fuel .condition v = .ok n) :
  n.Fits .core Registry.core.HasLeaf HasForm (4 * v.depth)
  := by
  have hplain := Engine.core_faultless.plain
  have hS := Registry.core.hereditary_offers.and (hereditary_suits hplain)
  have hL : ∀ operator v l, Registry.core.Offers operator ∧ Suits .core operator v →
      operator.Makes v l → Registry.core.HasLeaf l := fun _ _ _ hcall hl => hcall.1.hasLeaf hl
  have hQ : ∀ v, Registry.core.Offers .literal ∧ Suits .core .literal v → HasForm v :=
    fun _ hcall => exists_build?_arrayRecord hplain hcall.2
  have hoffers : Registry.core.Offers .condition := Registry.offers_of_ne (by simp)
  apply fits_condition_step hS _ (Nat.le_refl _) ⟨hoffers, suits_of_build h⟩ h
  apply fitsBelow hS hL hplain.faithful hQ

/-- A condition that can be built is built in two steps for each of its levels, and four more. -/
theorem build_condition {fuel fuel' : Nat} {v : Value} {n : Node}
    (h : build .core fuel .condition v = .ok n) (hfuel : 2 * v.depth + 4 ≤ fuel') :
  build .core fuel' .condition v = .ok n
  := by
  have hplain := Engine.core_faultless.plain
  obtain ⟨m, hm⟩ := exists_condition_step hplain (buildsBelow hplain _) (Nat.le_refl _)
    (suits_of_build h) hfuel
  rwa [build_unique h hm]

/-- A leaf on the engine with the usual operators has a truth value on every record. -/
theorem exists_test_core {l : Leaf} (hl : Registry.core.HasLeaf l) (s : Surroundings)
    (record : Value) :
  ∃ b, l.test s record = .ok (.ok b)
  := by
  cases l with
  | probe p => exact absurd (hl p rfl) (Engine.core_probes p)
  | _ => exact ⟨_, rfl⟩

/-- A matcher has a truth value on every record within as many nested steps as it has levels. -/
theorem exists_verdict_core {c : Context} (hc : c.engine = .core) {k : Nat} {n : Node}
    (hfits : n.Fits .core Registry.core.HasLeaf HasForm k) (record : Value) :
  ∃ b, n.verdict c k record = .ok (.ok b)
  := by
  rw [← Context.registry_of_core hc] at hfits
  have hanswers := Node.answers_verdict (c := c) (F := fun _ => False)
    (fun l hl record => .inl (exists_test_core (Context.registry_of_core hc ▸ hl) _ record))
    (by
      rintro a ⟨m, hm⟩ failure hfailure
      rw [Context.registry_of_core hc] at hfailure
      cases hm.symm.trans hfailure)
    hfits record
  exact hanswers.resolve_right id

/-- A matcher has a truth value on every record within as many nested steps as it has levels, and all
three evaluations come to it. -/
theorem exists_answer_core {c : Context} (hc : c.engine = .core) {k : Nat} {n : Node}
    (hn : n.Consistent .core) (hfits : n.Fits .core Registry.core.HasLeaf HasForm k)
    (record : Value) :
  ∃ b, ∀ fuel, k ≤ fuel →
    (n.evaluate c fuel record).map Prod.fst = .ok (.ok b)
      ∧ (Node.test c fuel record n).map Prod.fst = .ok (.ok b)
      ∧ ∀ t, (n.traced c fuel record t).map Prod.fst = .ok (.ok b)
  := by
  obtain ⟨b, hb⟩ := exists_verdict_core hc hfits record
  obtain ⟨engine, config, converting, current⟩ := c
  subst hc
  set c : Context := ⟨.core, config, converting, current⟩
  refine ⟨b, fun fuel hfuel => ?_⟩
  have hverdict : n.verdict c fuel record = .ok (.ok b) := by
    rw [← hb]
    apply Node.verdict_stable rfl rfl (fun _ _ _ => rfl) hfuel hfits
  have hevaluate : (n.evaluate c fuel record).map Prod.fst = .ok (.ok b) := by
    rw [(n.evaluate_yields c fuel hn record).map_fst, hverdict]
  refine ⟨hevaluate, ?_, fun t => ?_⟩
  · rw [Node.test_eq_evaluate, hevaluate]
  · have htraces := n.traced_traces (c := c) (A := fun _ => False)
      (fun l hl record abort h => by
        obtain ⟨b, hb⟩ := exists_test_core hl c.surroundings record
        cases hb.symm.trans h)
      fuel hn (hfits.mono hfuel) record t
    rw [hverdict] at htraces
    cases hstep : n.traced c fuel record t with
    | error abort => exact absurd (htraces.aborts hstep) id
    | ok result =>
      obtain ⟨outcome, m, t'⟩ := result
      cases (htraces.leaves hstep).1
      rfl

/-- Compiling a condition, unfolding its matcher and evaluating it all come to an end. No path in the
tree, however much of it is unfolded, has more than four matchers for each level of the condition, and
so many nested steps are enough for all three evaluations. -/
theorem nesting_bounded {raw : Condition.Raw} {config : Entries} {q : Query}
    (hq : Query.compile? .core raw config = .ok q) :
  1 ≤ q.condition.value.depth ∧ 4 * q.condition.value.depth ≤ 256
    ∧ (∀ fuel, 2 * q.condition.value.depth + 4 ≤ fuel →
        build .core fuel .condition q.condition.value = .ok q.matcher.node)
    ∧ (∃ full, q.matcher.node.Becomes .core full ∧ full.Unfolded)
    ∧ ∀ n, q.matcher.node.Becomes .core n →
      (∀ below, Node.Path (n :: below) → (n :: below).length ≤ 4 * q.condition.value.depth)
        ∧ ∀ (c : Context) (record : Value), c.engine = .core →
          ∃ b, ∀ fuel, 4 * q.condition.value.depth ≤ fuel →
            (n.evaluate c fuel record).map Prod.fst = .ok (.ok b)
              ∧ (Node.test c fuel record n).map Prod.fst = .ok (.ok b)
              ∧ ∀ t, (n.traced c fuel record t).map Prod.fst = .ok (.ok b)
  := by
  obtain ⟨hcondition, hbuild⟩ := Query.built_of_compile hq
  obtain ⟨hdepth, -⟩ := (Query.exists_ofCondition?_iff _ _).mp ⟨q, hq⟩
  rw [← hcondition, maxDepth] at hdepth
  obtain ⟨entries, hentries⟩ := (suits_of_build hbuild).map
  have hfits := fits_condition hbuild
  refine ⟨?_, by omega, fun fuel => build_condition hbuild, hfits.exists_unfolded fun _ h => h, ?_⟩
  · rw [hentries]
    apply Nat.succ_pos
  · intro n hn
    have hfits := hn.fits hfits
    constructor
    · intro below hpath
      apply hfits.length_le hn.1 hpath
    · intro c record hc
      apply exists_answer_core hc hn.1 hfits record

/-- The bound is met: of a condition of one level with a null the matcher has a path of four matchers,
through its field and the disjunction that null stands for. -/
theorem nesting_bounded_null :
  ∃ q, Query.compile? .core (.value (.map [("a", .null), ("b", .int 1)])) [] = .ok q
    ∧ q.condition.value.depth = 1
    ∧ (∃ below, Node.Path (q.matcher.node :: below) ∧ (q.matcher.node :: below).length = 4)
    ∧ ∀ below, Node.Path (q.matcher.node :: below) → (q.matcher.node :: below).length ≤ 4
  := by
  obtain ⟨q, hq⟩ : ∃ q, Query.compile? .core
      (.value (.map [("a", .null), ("b", .int 1)])) [] = .ok q := ⟨_, rfl⟩
  obtain ⟨hconsistent, -⟩ := Engine.core_faultless.invariant (Query.Arises.compiled hq).inUse.node
  obtain ⟨-, -, -, -, hpaths⟩ := nesting_bounded hq
  obtain ⟨hlength, -⟩ := hpaths q.matcher.node (.refl hconsistent)
  refine ⟨q, hq, ?_, ⟨?_, ?_⟩, ?_⟩
  · cases hq
    rfl
  · let disjunction : Node := .group .disjunction absentOrNull
      [.leaf (.existence false), .leaf (.compare .equal .null)]
    exact [.literal (.field "a") .null disjunction .unbuilt, disjunction, .leaf (.existence false)]
  · cases hq
    refine ⟨?_, rfl⟩
    apply List.isChain_cons_cons.mpr ⟨.head _, _⟩
    apply List.isChain_cons_cons.mpr ⟨.head _, _⟩
    apply List.isChain_cons_cons.mpr ⟨.head _, .singleton _⟩
  · cases hq
    apply hlength

end DocQuery
