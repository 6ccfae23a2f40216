import DocQuery.Matcher
import DocQuery.Proofs.Compiled
import DocQuery.Proofs.Evaluations
import DocQuery.Proofs.Reachable

/-!
# Elements of arrays

A truth value, an integer or a text matches an array if an element equals it. The matcher for arrays
asks the elements for a condition of `$eq`, and the engine looks this key up like any other. If `$eq` is
equality, no other operator matters. If there is no operator under `$eq`, the key names a field, which
elements that are plain values do not have.
-/

namespace DocQuery

/-- The value is a truth value, an integer or a text. -/
inductive Value.Basic : Value → Prop
  | bool (b : Bool) : Basic (.bool b)
  | int (n : Int64) : Basic (.int n)
  | string (s : String) : Basic (.string s)

section

variable {v : Value} (hv : v.Basic)

include hv

theorem Value.Basic.height_eq :
  v.height = 0
  := by
  cases hv <;> rfl

theorem Value.Basic.directCall_eq :
  directCall v = (.compare .equal, v)
  := by
  cases hv <;> rfl

theorem Value.Basic.arrayCalls_eq (r : Registry) :
  arrayCalls r v = .ok [(.elements .any, .map [("$eq", v)])]
  := by
  cases hv <;> rfl

/-- Nothing that is missing equals such a value, and neither does null. -/
theorem Value.Basic.orNull_beq (x : Value) :
  (x.orNull == v) = (x == v)
  := by
  cases hv <;> cases x <;> rfl

/-! ### Matchers -/

/-- The matcher of such a value tests for equality. -/
theorem Value.Basic.build_literal (r : Registry) :
  Operator.literal.build? r v = .ok (.literal .whole v (.leaf (.compare .equal v)) .unbuilt)
  := by
  apply DocQuery.build_literal
  rw [hv.directCall_eq]
  rfl

/-- The form for arrays asks the elements for what the engine makes of `$eq`. -/
theorem Value.Basic.build_arrayRecord {r : Registry} {inner : Node}
    (h : ∀ fuel, entryNode r (build r (fuel + 1)) "$eq" v = .ok inner) :
  Operator.arrayRecord.build? r v = .ok (.elements .any (.map [("$eq", v)]) inner)
  := by
  have hcondition : build r 254 .condition (.map [("$eq", v)]) = .ok inner :=
    build_of_built (.condition (.cons (h 252) .nil))
  have helements : build r 255 (.elements .any) (.map [("$eq", v)])
      = .ok (.elements .any (.map [("$eq", v)]) inner) :=
    build_of_built (.elements hcondition)
  rw [Operator.build?, buildBound, hv.height_eq]
  apply build_of_built (.arrayRecord (hv.arrayCalls_eq r) (.cons helements .nil))

end

section

variable {m : Matcher} {direct inner : Node} {argument : Value} {items : List Value}

/-- The matcher of a literal argument whose form for arrays is a test of elements matches an array if
one of the elements, taken out of it, matches. -/
theorem Matcher.evaluate_elements {f : Value → Bool}
    (hm : (Node.literal .whole m.argument direct .unbuilt).Becomes m.context.engine.registry m.node)
    (hform : Operator.arrayRecord.build? m.context.engine.registry m.argument
      = .ok (.elements .any argument inner))
    (h : ∀ fuel, ∀ item ∈ items, inner.verdict m.context (fuel + 1) (m.context.taken item)
      = .ok (.ok (f item))) :
  (m.evaluate (.array items)).map Prod.fst = .ok (.ok (items.any f))
    ∧ (m.test (.array items)).map Prod.fst = .ok (.ok (items.any f))
  := by
  obtain ⟨fuel, hfuel⟩ : ∃ fuel, evaluationBound m.argument (.array items) = fuel + 3 := by
    apply Nat.exists_eq_add_of_le'
    apply Nat.le_trans _ (levels_le_evaluationBound _ _)
    apply Nat.le_add_left
  have helements : (Node.elements .any argument inner).verdict m.context (fuel + 2) (.array items)
      = .ok (.ok (items.any f)) := by
    cases items with
    | nil => rfl
    | cons item items =>
      rw [Node.verdict]
      apply decided_map
      apply h
  have hverdict : m.node.verdict m.context (fuel + 3) (.array items) = .ok (.ok (items.any f)) := by
    rw [Node.verdict_congr hm.2, Node.verdict]
    dsimp only [Role.subject?]
    rw [hform]
    dsimp only
    rw [helements]
    rfl
  have hevaluate : (m.node.evaluate m.context (evaluationBound m.argument (.array items))
      (.array items)).map Prod.fst = .ok (.ok (items.any f)) := by
    rw [hfuel, (Node.evaluate_yields m.context _ hm.1 _).map_fst, hverdict]
  rw [← m.evaluate_fst] at hevaluate
  rw [test_eq, ← hevaluate]
  cases m.evaluate (.array items) <;> exact ⟨rfl, rfl⟩

end

/-! ### Engines with equality and without -/

/-- On an engine whose `$eq` is equality a truth value, an integer or a text matches an array if an
element, taken out of it, equals it, whatever other operators the engine has. -/
theorem literal_matches_element {e : Engine} (hequal : e.registry.operatorFor "$eq" = .compare .equal)
    {v : Value} (hv : v.Basic) :
  ∃ n, Operator.literal.build? e.registry v = .ok n ∧ ∀ m : Matcher, m.context.engine = e →
      m.argument = v → n.Becomes e.registry m.node → ∀ items,
        (m.evaluate (.array items)).map Prod.fst
            = .ok (.ok (items.any fun item => m.context.taken item == v))
          ∧ (m.test (.array items)).map Prod.fst
            = .ok (.ok (items.any fun item => m.context.taken item == v))
  := by
  refine ⟨_, hv.build_literal _, ?_⟩
  rintro m rfl rfl hm items
  have hentry : ∀ fuel, entryNode m.context.engine.registry (build m.context.engine.registry (fuel + 1))
      "$eq" m.argument = .ok (.leaf (.compare .equal m.argument)) :=
    fun fuel => entryNode_of_operatorFor hequal (by simp) _
  apply Matcher.evaluate_elements hm (hv.build_arrayRecord hentry)
  intro fuel item _
  rw [Node.verdict, Leaf.test, Comparison.holds, hv.orNull_beq]

/-- On an engine with no operator but equality a text matches an array with an equal symbol in it, if
values that are taken out of records are converted. -/
theorem literal_matches_element_symbol :
  ∃ m : Matcher, Matcher.ofOperator?
      (.new ⟨Registry.empty.register "eq" "$eq" (.compare .equal), .core⟩ []) .literal (.string "x")
        = .ok m
    ∧ (m.evaluate (.array [.int 2, .host 0 (.symbol "x") none])).map Prod.fst = .ok (.ok true)
    ∧ ((m.setConverting false).evaluate (.array [.int 2, .host 0 (.symbol "x") none])).map Prod.fst
        = .ok (.ok false)
  := by
  let e : Engine := ⟨Registry.empty.register "eq" "$eq" (.compare .equal), .core⟩
  obtain ⟨n, hn, hmatches⟩ := literal_matches_element (e := e) rfl (.string "x")
  have hbecomes : n.Becomes e.registry n := by
    apply Node.Becomes.refl
    rw [← fresh_of_build hn]
    apply Node.consistent_fresh
  let m : Matcher := .new (.new e []) (.string "x") n
  refine ⟨m, map_eq_ok_iff.mpr ⟨n, hn, rfl⟩, ?_, ?_⟩
  · obtain ⟨hevaluate, -⟩ := hmatches m rfl rfl hbecomes _
    exact hevaluate
  · obtain ⟨hevaluate, -⟩ := hmatches (m.setConverting false) rfl rfl hbecomes _
    exact hevaluate

/-- On an engine without an operator under `$eq` such a value matches no array whose elements have no
fields, whether they equal it or not. -/
theorem literal_misses_elements {e : Engine} (hnone : e.registry.lookup? "$eq" = none) {v : Value}
    (hv : v.Basic) :
  ∃ n, Operator.literal.build? e.registry v = .ok n ∧ ∀ m : Matcher, m.context.engine = e →
      m.argument = v → n.Becomes e.registry m.node → ∀ items,
        (∀ item ∈ items, (m.context.taken item).dig? "$eq" = none) →
          (m.evaluate (.array items)).map Prod.fst = .ok (.ok false)
            ∧ (m.test (.array items)).map Prod.fst = .ok (.ok false)
  := by
  refine ⟨_, hv.build_literal _, ?_⟩
  rintro m rfl rfl hm items hitems
  have hentry : ∀ fuel, entryNode m.context.engine.registry (build m.context.engine.registry (fuel + 1))
      "$eq" m.argument
      = .ok (.literal (.field "$eq") m.argument (.leaf (.compare .equal m.argument)) .unbuilt) := by
    intro fuel
    apply entryNode_eq_ok_iff.mpr (.inr ⟨hnone, _, ?_, rfl⟩)
    rw [hv.directCall_eq]
    rfl
  have hany : items.any (fun _ => false) = false := List.any_eq_false.mpr (by simp)
  rw [← hany]
  apply Matcher.evaluate_elements hm (hv.build_arrayRecord hentry)
  intro fuel item hitem
  rw [Node.verdict, Role.subject?, hitems item hitem]
  rfl

/-- On the engine without operators 1 matches itself, and it does not match an array with it alone. -/
theorem literal_misses_one :
  ∃ m : Matcher, Matcher.ofOperator? (.new .empty []) .literal (.int 1) = .ok m
    ∧ (m.evaluate (.int 1)).map Prod.fst = .ok (.ok true)
    ∧ ([Value.int 1].any fun item => m.context.taken item == .int 1) = true
    ∧ (m.evaluate (.array [.int 1])).map Prod.fst = .ok (.ok false)
  := by
  let n : Node := .literal .whole (.int 1) (.leaf (.compare .equal (.int 1))) .unbuilt
  refine ⟨.new (.new .empty []) (.int 1) n, rfl, ?_, rfl, ?_⟩
  · rw [Matcher.evaluate_fst]
    rfl
  · rw [Matcher.evaluate_fst]
    rfl

end DocQuery
