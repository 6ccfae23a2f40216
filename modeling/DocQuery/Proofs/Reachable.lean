import DocQuery.Proofs.Evaluations
import DocQuery.Query

/-!
# Matchers and queries in use

A matcher that is in use was compiled, or is part of one that is in use, or was left behind by an
evaluation. Its forms are consistent, and it has no more levels than its argument allows. A query
that is in use holds such a matcher.
-/

namespace DocQuery

/-! ### Engines -/

/-- The operator comes with every registry, or it was put into this one. -/
def Registry.Offers (r : Registry) (operator : Operator) : Prop :=
  ∀ x, operator = .extension x → ∃ e ∈ r.entries, e.operator = .extension x

/-- The matcher is one that an operator of the registry makes. -/
def Registry.HasProbe (r : Registry) (p : Probe) : Prop :=
  ∃ e ∈ r.entries, ∃ x v, e.operator = .extension x ∧ x.build v = .ok p

/-- The leaf is a usual one, or it is one that an operator of the registry makes. -/
def Registry.HasLeaf (r : Registry) (l : Leaf) : Prop := ∀ p, l = .probe p → r.HasProbe p

/-- Every registry offers the usual operators. -/
theorem Registry.offers_of_ne {r : Registry} {operator : Operator}
    (h : ∀ x, operator ≠ .extension x) :
  r.Offers operator
  := fun x hx => absurd hx (h x)

theorem Registry.offers_of_lookup {r : Registry} {key : String} {e : RegistryEntry}
    (h : r.lookup? key = some e) :
  r.Offers e.operator
  := fun _ hx => ⟨e, List.mem_of_find?_eq_some h, hx⟩

/-- The usual registry holds neither forms for arrays nor further operators. -/
theorem Registry.core_usual :
  ∀ e ∈ Registry.core.entries, e.operator ≠ .arrayRecord ∧ ∀ x, e.operator ≠ .extension x
  := by
  simp [core]

/-- Only operators that are offered are used when such an operator is built. -/
theorem Registry.hereditary_offers (r : Registry) :
  Hereditary r fun operator _ => r.Offers operator
  where
  entry {_ key _} _ _ := by
    cases h : r.lookup? key with
    | some e =>
      rw [operatorFor_of_lookup h]
      apply offers_of_lookup h
    | none =>
      rw [operatorFor_of_none h]
      apply offers_of_ne (by simp)
  literal _ _ := offers_of_ne (by simp)
  direct {v} _ _ hx := by cases v <;> cases hx
  arrayRecord _ := offers_of_ne (by simp)
  arrayCalls {v calls} _ hcalls c hc x hx := by
    have hnone : ∀ c ∈ calls, c.1 = .condition ∨ c.1 = .compare .equal ∨ c.1 = .elements .any := by
      cases v with
      | map entries =>
        obtain ⟨_, -, rfl⟩ := map_eq_ok_iff.mp hcalls
        simp
      | _ =>
        cases hcalls
        simp
    rcases hnone c hc with h | h | h <;> rw [h] at hx <;> cases hx
  elements _ := offers_of_ne (by simp)
  within _ := offers_of_ne (by simp)
  conjunction _ _ _ := offers_of_ne (by simp)
  disjunction _ _ _ := offers_of_ne (by simp)

/-- An operator that is offered makes leaves of the registry. -/
theorem Registry.Offers.hasLeaf {r : Registry} {operator : Operator} (h : r.Offers operator)
    {v : Value} {l : Leaf} (hl : operator.Makes v l) :
  r.HasLeaf l
  := by
  rintro p rfl
  cases hl with
  | probe hp =>
    obtain ⟨e, he, hop⟩ := h _ rfl
    exact ⟨e, he, _, _, hop, hp⟩

/-! ### Steps that are enough -/

mutual

theorem Value.depth_le_height : ∀ v : Value, v.depth ≤ v.height
  | .array items => by
    rw [depth, height]
    apply Nat.succ_le_succ (depthOfItems_le_heightOfItems items)
  | .map entries => by
    rw [depth, height]
    apply Nat.succ_le_succ (depthOfEntries_le_heightOfEntries entries)
  | .null | .missing | .bool _ | .int _ | .float _ | .string _ | .regex _ | .range _ _ _
  | .host _ _ _ => Nat.zero_le _

theorem Value.depthOfItems_le_heightOfItems :
    ∀ items : List Value, depthOfItems items ≤ heightOfItems items
  | [] => Nat.le_refl _
  | v :: rest => by
    have hv := v.depth_le_height
    have hrest := depthOfItems_le_heightOfItems rest
    rw [depthOfItems, heightOfItems]
    omega

theorem Value.depthOfEntries_le_heightOfEntries :
    ∀ entries : List (String × Value), depthOfEntries entries ≤ heightOfEntries entries
  | [] => Nat.le_refl _
  | (_, v) :: rest => by
    have hv := v.depth_le_height
    have hrest := depthOfEntries_le_heightOfEntries rest
    rw [depthOfEntries, heightOfEntries]
    omega

end

/-- An evaluation may take as many steps as its matcher has levels. -/
theorem levels_le_evaluationBound (argument record : Value) :
  4 * argument.depth + 3 ≤ evaluationBound argument record
  := by
  have h := argument.depth_le_height
  unfold evaluationBound
  calc 4 * argument.depth + 3
    _ ≤ 64 * (argument.height + 4) * 1 := by omega
    _ ≤ 64 * (argument.height + 4) * (record.height + 4) := by
      apply Nat.mul_le_mul_left
      omega

/-! ### Matchers -/

/-- A matcher in the tree that was compiled of an argument, in a state in which evaluations may have
left it. -/
inductive Node.Arises (e : Engine) (argument : Value) : Node → Prop
  | compiled {operator : Operator} {n : Node} (hoperator : e.registry.Offers operator)
      (h : operator.build? e.registry argument = .ok n) : Arises e argument n
  | field {name : String} {n : Node} (h : fieldNode? e.registry name argument = .ok n) :
    Arises e argument n
  | child {n m : Node} (hn : Arises e argument n) (h : m ∈ n.children) : Arises e argument m
  | evaluated {n m : Node} {c : Context} {fuel : Nat} {record : Value} {outcome : Outcome}
      (hn : Arises e argument n) (hc : c.engine = e)
      (hfuel : evaluationBound argument record ≤ fuel)
      (h : n.evaluate c fuel record = .ok (outcome, m)) : Arises e argument m
  | tested {n m : Node} {c : Context} {fuel : Nat} {record : Value} {outcome : Outcome}
      (hn : Arises e argument n) (hc : c.engine = e)
      (hfuel : evaluationBound argument record ≤ fuel)
      (h : Node.test c fuel record n = .ok (outcome, m)) : Arises e argument m
  | traced {n m : Node} {c : Context} {fuel : Nat} {record : Value} {t t' : Trace}
      {outcome : Outcome} (hn : Arises e argument n) (hc : c.engine = e)
      (hfuel : evaluationBound argument record ≤ fuel)
      (h : n.traced c fuel record t = .ok (outcome, m, t')) : Arises e argument m

section

variable {r : Registry} {L : Leaf → Prop} {Q : Value → Prop}

/-- A child of a consistent matcher is consistent. -/
theorem Node.Consistent.of_child {n m : Node} (hn : n.Consistent r) (hm : m ∈ n.children) :
  m.Consistent r
  := by
  cases n with
  | leaf l => cases hm
  | within negated argument n =>
    obtain rfl := List.mem_singleton.mp hm
    exact hn
  | elements quantifier argument n =>
    obtain rfl := List.mem_singleton.mp hm
    exact hn
  | group grouping argument nodes => exact (consistentAll_iff r nodes).mp hn m hm
  | literal role argument n form =>
    obtain rfl | hm := List.mem_cons.mp hm
    · exact hn.1
    · cases form with
      | built k =>
        obtain rfl := List.mem_singleton.mp hm
        exact hn.2.2
      | _ => cases hm

/-- A child of a matcher has a level less. -/
theorem Node.Fits.of_child {k : Nat} {n m : Node} (h : n.Fits r L Q (k + 1)) (hn : n.Consistent r)
    (hm : m ∈ n.children) :
  m.Consistent r ∧ m.Fits r L Q k
  := by
  refine ⟨hn.of_child hm, ?_⟩
  cases n with
  | leaf l => cases hm
  | within negated argument n =>
    obtain rfl := List.mem_singleton.mp hm
    exact h
  | elements quantifier argument n =>
    obtain rfl := List.mem_singleton.mp hm
    exact h
  | group grouping argument nodes => exact h m hm
  | literal role argument n form =>
    obtain ⟨-, hdirect, hform⟩ := h
    obtain rfl | hm := List.mem_cons.mp hm
    · exact hdirect
    · cases form with
      | built k =>
        obtain rfl := List.mem_singleton.mp hm
        exact fits_fresh.mp (hform _ hn.2.1)
      | _ => cases hm

/-- A child of a matcher has no more levels. -/
theorem Node.Fits.child {k : Nat} {n m : Node} (h : n.Fits r L Q k) (hn : n.Consistent r)
    (hm : m ∈ n.children) :
  m.Consistent r ∧ m.Fits r L Q k
  := by
  cases k with
  | zero => cases h
  | succ k =>
    obtain ⟨hconsistent, hfits⟩ := h.of_child hn hm
    exact ⟨hconsistent, hfits.succ⟩

/-- A matcher that another one may become has the same levels. -/
theorem Node.Becomes.fits {k : Nat} {n m : Node} (h : n.Becomes r m) (hn : n.Fits r L Q k) :
  m.Fits r L Q k
  := fits_fresh.mp (h.2 ▸ fits_fresh.mpr hn)

/-- The literal argument under a field is built as it is without a field. -/
theorem literal_of_fieldNode {name : String} {argument : Value} {n : Node}
    (h : fieldNode? r name argument = .ok n) :
  ∃ m fuel, n = .literal (.field name) argument m .unbuilt
    ∧ build r fuel .literal argument = .ok (.literal .whole argument m .unbuilt)
  := by
  obtain ⟨m, hm, rfl⟩ := map_eq_ok_iff.mp h
  exact ⟨m, _, rfl, build_of_built (.literal .literal hm)⟩

end

/-- A matcher in use is consistent and has no more levels than its argument allows. What operators
and arguments pass on holds in it. -/
theorem Node.Arises.invariant {e : Engine} {S : Operator → Value → Prop} {L : Leaf → Prop}
    {Q : Value → Prop} (hr : e.registry.Faithful) (hS : Hereditary e.registry S)
    (hL : ∀ operator v l, S operator v → operator.Makes v l → L l) (hQ : ∀ v, S .literal v → Q v)
    {argument : Value}
    (hcall : ∀ fuel operator n, e.registry.Offers operator →
      build e.registry fuel operator argument = .ok n → S operator argument)
    {n : Node} (h : n.Arises e argument) :
  n.Consistent e.registry ∧ n.Fits e.registry L Q (4 * argument.depth + 3)
  := by
  induction h with
  | compiled hoperator h =>
    constructor
    · rw [← fresh_of_build h]
      apply consistent_fresh
    · apply fits_of_build hS hL hr hQ (hcall _ _ _ hoperator h) h
  | field h =>
    obtain ⟨m, fuel, rfl, hliteral⟩ := literal_of_fieldNode h
    have hm := fresh_of_build hliteral
    constructor
    · have hc := consistent_fresh e.registry (.literal .whole argument m .unbuilt)
      rw [hm] at hc
      exact hc
    · have hfits := fits_of_build hS hL hr hQ
        (hcall fuel .literal _ (Registry.offers_of_ne (by simp)) hliteral) hliteral
      exact hfits
  | child _ hm ih => exact ih.2.child ih.1 hm
  | @evaluated n m c fuel record outcome _ hc _ h ih =>
    subst hc
    obtain ⟨-, hm⟩ := (evaluate_yields c fuel ih.1 record).leaves h
    exact ⟨hm.1, hm.fits ih.2⟩
  | @tested n m c fuel record outcome _ hc _ h ih =>
    subst hc
    rw [test_eq_evaluate] at h
    obtain ⟨-, hm⟩ := (evaluate_yields c fuel ih.1 record).leaves h
    exact ⟨hm.1, hm.fits ih.2⟩
  | @traced n m c fuel record t t' outcome _ hc hfuel h ih =>
    subst hc
    have hfits := ih.2.mono (Nat.le_trans (levels_le_evaluationBound argument record) hfuel)
    have htraces := traced_traces (A := fun _ => True) (fun _ _ _ _ _ => trivial) fuel ih.1 hfits
      record t
    obtain ⟨-, hm⟩ := htraces.leaves h
    exact ⟨hm.1, hm.fits ih.2⟩

/-! ### Queries -/

/-- A query that was compiled, in a state in which its use may have left it. -/
inductive Query.Arises (e : Engine) : Query → Prop
  | compiled {raw : Condition.Raw} {config : Entries} {q : Query}
      (h : Query.compile? e raw config = .ok q) : Arises e q
  | recompiled {q q' : Query} {config : Entries} (hq : Arises e q)
      (h : q.withConfig? config = .ok q') : Arises e q'
  | evaluated {q q' : Query} {record : Value} {outcome : Outcome} (hq : Arises e q)
      (h : q.evaluate record = .ok (outcome, q')) : Arises e q'
  | matched {q q' : Query} {record : Value} {b : Bool} (hq : Arises e q)
      (h : q.isMatch record = .ok (b, q')) : Arises e q'
  | tested {q q' : Query} {record : Value} {outcome : Outcome} (hq : Arises e q)
      (h : q.test record = .ok (outcome, q')) : Arises e q'
  | satisfied {q q' : Query} {record : Value} {b : Bool} (hq : Arises e q)
      (h : q.satisfies record = .ok (b, q')) : Arises e q'
  | traced {q q' : Query} {record : Value} {t : Trace} (hq : Arises e q)
      (h : q.trace record = .ok (t, q')) : Arises e q'
  | prepared {q : Query} (hq : Arises e q) : Arises e q.prepare
  | converting {q : Query} (hq : Arises e q) (converting : Bool) :
    Arises e (q.setConverting converting)

/-- The context while a record is being traced. -/
def Context.tracing (c : Context) (record : Value) : Context := { c with current := some record }

/-- What holds of a query in use: it has a context of the engine in which no record is being traced,
and a matcher in use for its condition. -/
structure Query.InUse (e : Engine) (q : Query) : Prop where
  engine : q.context.engine = e
  current : q.context.current = none
  argument : q.matcher.argument = q.condition.value
  node : q.matcher.node.Arises e q.condition.value

theorem Query.inUse_of_compiled {c : Context} (hcurrent : c.current = none) {condition : Condition}
    {q : Query} (h : Query.ofCondition? c condition = .ok q) :
  q.InUse c.engine
  := by
  rw [ofCondition?] at h
  split at h
  · cases h
  · obtain ⟨m, hm, rfl⟩ := map_eq_ok_iff.mp h
    obtain ⟨n, hn, rfl⟩ := map_eq_ok_iff.mp hm
    refine ⟨rfl, hcurrent, rfl, .compiled ?_ hn⟩
    intro _ hx
    cases hx

theorem Query.InUse.evaluated {e : Engine} {q q' : Query} (hq : q.InUse e) {record : Value}
    {outcome : Outcome} (h : q.evaluate record = .ok (outcome, q')) :
  q'.InUse e
  := by
  obtain ⟨⟨_, m⟩, hm, h⟩ := map_eq_ok_iff.mp h
  cases h
  obtain ⟨⟨_, n⟩, _, hn, hm⟩ := Ensures.pmap_eq_ok_iff.mp hm
  cases hm
  rw [hq.argument] at hn
  exact ⟨hq.engine, hq.current, hq.argument, hq.node.evaluated hq.engine (Nat.le_refl _) hn⟩

/-- Testing a query is evaluating it and preparing it. -/
theorem Query.test_eq (q : Query) (record : Value) :
  q.test record = (q.evaluate record).map fun (outcome, k) => (outcome, k.prepare)
  := by
  rw [test, Matcher.test_eq, evaluate]
  cases q.matcher.evaluate record <;> rfl

theorem Query.InUse.tested {e : Engine} {q q' : Query} (hq : q.InUse e) {record : Value}
    {outcome : Outcome} (h : q.test record = .ok (outcome, q')) :
  q'.InUse e
  := by
  rw [test_eq] at h
  obtain ⟨⟨_, k⟩, hk, h⟩ := map_eq_ok_iff.mp h
  cases h
  obtain ⟨hengine, hcurrent, hargument, hnode⟩ := hq.evaluated hk
  exact ⟨hengine, hcurrent, hargument, hnode⟩

theorem Query.InUse.traced {e : Engine} {q q' : Query} (hq : q.InUse e) {record : Value}
    {t : Trace} (h : q.trace record = .ok (t, q')) :
  q'.InUse e
  := by
  obtain ⟨⟨_, m, _⟩, hm, h⟩ := map_eq_ok_iff.mp h
  cases h
  obtain ⟨⟨_, n, _⟩, _, hn, hm⟩ := Ensures.pmap_eq_ok_iff.mp hm
  cases hm
  dsimp only at hn
  rw [hq.argument] at hn
  have hengine : (q.context.tracing (q.normalizeRecord record)).engine = e := hq.engine
  exact ⟨hq.engine, rfl, hq.argument, hq.node.traced hengine (Nat.le_refl _) hn⟩

/-- All that is done with a query leaves it in use. -/
theorem Query.Arises.inUse {e : Engine} {q : Query} (h : q.Arises e) :
  q.InUse e
  := by
  induction h with
  | compiled h => exact inUse_of_compiled rfl h
  | @recompiled q q' config _ h ih =>
    rw [← ih.engine]
    apply inUse_of_compiled (c := q.context.fork config) rfl h
  | evaluated _ h ih => exact ih.evaluated h
  | matched _ h ih =>
    obtain ⟨⟨_, q⟩, hq, h⟩ := map_eq_ok_iff.mp h
    cases h
    apply ih.evaluated hq
  | tested _ h ih => exact ih.tested h
  | satisfied _ h ih =>
    obtain ⟨⟨_, q⟩, hq, h⟩ := map_eq_ok_iff.mp h
    cases h
    apply ih.tested hq
  | traced _ h ih => exact ih.traced h
  | prepared _ ih => exact ⟨ih.engine, ih.current, ih.argument, ih.node⟩
  | converting _ _ ih => exact ⟨ih.engine, ih.current, ih.argument, ih.node⟩

end DocQuery
