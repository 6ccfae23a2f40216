import DocQuery.Proofs.Absence
import DocQuery.Proofs.Interchange

/-!
# Groups of several matchers

Matchers whose keys were seen before are dropped wherever matchers are put together, and a group that is
down to one matcher is left out. So every group in a tree has matchers with different keys, and never
just one. This is what one step of building sees to. It holds of a whole tree as it is compiled, and it
goes on to hold when forms for arrays are built in the tree, because these are built by the same steps.
-/

namespace DocQuery

/-! ### What one step makes -/

/-- The matcher is one that a step of building makes of an operator and an argument with a property. If
it is a group, its matchers have different keys, and there is not just one of them. -/
inductive Node.Formed (S : Operator → Value → Prop) : Node → Prop
  | leaf {operator : Operator} {v : Value} {l : Leaf} (hcall : S operator v) (h : operator.Makes v l) :
    Formed S (.leaf l)
  | within {negated : Bool} {v : Value} (bounds : Node) (hcall : S (.member negated) v) :
    Formed S (.within negated v bounds)
  | elements {quantifier : Quantifier} {v : Value} (inner : Node) (hcall : S (.elements quantifier) v) :
    Formed S (.elements quantifier v inner)
  | group {grouping : Grouping} {v : Value} {children : List Node} (hcall : S grouping.operator v)
      (hkeys : (children.map Node.key).Nodup) (hlength : children.length ≠ 1) :
    Formed S (.group grouping v children)
  | literal {v : Value} (role : Role) (direct : Node) (form : Form) (hcall : S .literal v) :
    Formed S (.literal role v direct form)

/-- The property holds of the matcher and of all matchers below it. -/
inductive Node.Everywhere (P : Node → Prop) : Node → Prop
  | intro {n : Node} (here : P n) (children : ∀ m ∈ n.children, Everywhere P m) : Everywhere P n

namespace Node.Everywhere

variable {P : Node → Prop} {n : Node}

theorem here (h : n.Everywhere P) :
  P n
  := by
  cases h with
  | intro here children => exact here

theorem children (h : n.Everywhere P) :
  ∀ m ∈ n.children, m.Everywhere P
  := by
  cases h with
  | intro here children => exact children

end Node.Everywhere

section

variable {r : Registry} {S : Operator → Value → Prop}

/-- Forms for arrays do not matter for what a matcher was made of. -/
theorem Node.Formed.of_fresh {n : Node} (h : n.fresh.Formed S) :
  n.Formed S
  := by
  cases n with
  | leaf l => exact h
  | within negated v bounds =>
    cases h with
    | within _ hcall => exact .within bounds hcall
  | elements quantifier v inner =>
    cases h with
    | elements _ hcall => exact .elements inner hcall
  | group grouping v children =>
    have hkeys : (freshAll children).map key = children.map key := by
      rw [freshAll_eq_map, List.map_map]
      apply List.map_congr_left
      exact fun n _ => n.key_fresh
    have hlength : (freshAll children).length = children.length := by
      rw [freshAll_eq_map, List.length_map]
    cases h with
    | group hcall hnodup hne => exact .group hcall (hkeys ▸ hnodup) (hlength ▸ hne)
  | literal role v direct form =>
    cases h with
    | literal _ _ _ hcall => exact .literal role direct form hcall

/-- What becomes of a group is formed as a whole, if the matchers in it are. -/
theorem everywhere_unwrap (grouping : Grouping) {v : Value} (hcall : S grouping.operator v)
    {nodes : List Node} (h : ∀ n ∈ nodes, n.Everywhere (Node.Formed S)) :
  (unwrap (distinct nodes) (.group grouping v)).Everywhere (Node.Formed S)
  := by
  have hkept : ∀ n ∈ distinct nodes, n.Everywhere (Node.Formed S) :=
    fun n hn => h n (distinct_subset nodes n hn)
  obtain ⟨n, hn, heq⟩ | ⟨hlength, heq⟩ := unwrap_cases (distinct nodes) (.group grouping v)
  · rw [heq]
    apply hkept n hn
  · rw [heq]
    exact .intro (.group hcall (nodup_distinct nodes) hlength) hkept

theorem everywhere_literal {role : Role} {v : Value} (hcall : S .literal v) {direct : Node}
    (h : direct.Everywhere (Node.Formed S)) :
  (Node.literal role v direct .unbuilt).Everywhere (Node.Formed S)
  := .intro (.literal role direct .unbuilt hcall) (List.forall_mem_singleton.mpr h)

/-- All that is built in so many steps is formed as a whole. -/
def FormedBelow (r : Registry) (S : Operator → Value → Prop) (fuel : Nat) : Prop :=
  ∀ operator v n, S operator v → build r fuel operator v = .ok n → n.Everywhere (Node.Formed S)

/-- The matchers for the entries of a condition are formed as a whole. -/
theorem everywhere_entries (hS : Hereditary r S) {fuel : Nat} (ih : FormedBelow r S fuel)
    {entries : Entries} (hentries : S .condition (.map entries)) {nodes : List Node}
    (h : List.Forall₂ (fun e n => entryNode r (build r fuel) e.1 e.2 = .ok n) entries nodes) :
  ∀ n ∈ nodes, n.Everywhere (Node.Formed S)
  := by
  intro n hn
  obtain ⟨⟨key, v⟩, hmem, hentry⟩ := exists_left_of_forall₂ h n hn
  have hcall := hS.entry hentries hmem
  obtain ⟨e, he, hbuild⟩ | ⟨hnone, m, hm, rfl⟩ := entryNode_eq_ok_iff.mp hentry
  · rw [Registry.operatorFor_of_lookup he] at hcall
    apply ih _ _ _ hcall hbuild
  · rw [Registry.operatorFor_of_none hnone] at hcall
    apply everywhere_literal hcall
    apply ih _ _ _ (hS.direct hcall) hm

/-- A matcher is formed as a whole when it is built. -/
theorem everywhere_of_build (hS : Hereditary r S) (fuel : Nat) :
  FormedBelow r S fuel
  := by
  induction fuel with
  | zero =>
    intro operator v n _ h
    cases h
  | succ fuel ih =>
    intro operator v n hcall h
    have hbuilt := built_of_build h
    clear h
    cases hbuilt with
    | leaf h => exact .intro (.leaf hcall h) fun m hm => absurd hm List.not_mem_nil
    | @within _ _ _ _ bounds h =>
      have hbounds := ih _ _ _ (hS.within hcall) h
      exact .intro (.within bounds hcall) (List.forall_mem_singleton.mpr hbounds)
    | @elements _ _ inner h =>
      have hinner := ih _ _ _ (hS.elements hcall) h
      exact .intro (.elements inner hcall) (List.forall_mem_singleton.mpr hinner)
    | literal hrole h =>
      rw [directNode_eq] at h
      have hliteral := hS.literal hrole hcall
      apply everywhere_literal hliteral
      apply ih _ _ _ (hS.direct hliteral) h
    | condition h =>
      apply everywhere_unwrap .condition hcall
      apply everywhere_entries hS ih hcall h
    | conjunction _ h =>
      apply everywhere_unwrap .conjunction hcall
      intro n hn
      obtain ⟨ns, hns, hmem⟩ := List.mem_flatten.mp hn
      obtain ⟨w, hw, hbranch⟩ := exists_left_of_forall₂ h ns hns
      obtain ⟨entries, nodes, rfl, rfl, hnodes⟩ := entryNodes_eq_ok_iff.mp hbranch
      apply everywhere_entries hS ih (hS.conjunction hcall _ hw) hnodes
      apply distinct_subset nodes n hmem
    | disjunction _ h =>
      apply everywhere_unwrap .disjunction hcall
      intro n hn
      obtain ⟨w, hw, hbuild⟩ := exists_left_of_forall₂ h n hn
      apply ih _ _ _ (hS.disjunction hcall w hw) hbuild
    | arrayRecord hcalls h =>
      apply everywhere_unwrap .arrayRecord hcall
      intro n hn
      obtain ⟨c, hc, hbuild⟩ := exists_left_of_forall₂ h n hn
      apply ih _ _ _ (hS.arrayCalls hcall hcalls c hc) hbuild

/-- The children of a matcher are formed as a whole, the form for arrays included, which was built of the
argument of the matcher. -/
theorem Node.Everywhere.of_child (hS : Hereditary r S) {n m : Node} (hn : n.Consistent r)
    (h : n.fresh.Everywhere (Node.Formed S)) (hm : m ∈ n.children) :
  m.fresh.Everywhere (Node.Formed S)
  := by
  cases n with
  | leaf l => cases hm
  | within negated v bounds =>
    obtain rfl := List.mem_singleton.mp hm
    apply h.children
    apply List.mem_singleton_self
  | elements quantifier v inner =>
    obtain rfl := List.mem_singleton.mp hm
    apply h.children
    apply List.mem_singleton_self
  | group grouping v children =>
    apply h.children
    rw [fresh, freshAll_eq_map]
    apply List.mem_map_of_mem hm
  | literal role v direct form =>
    obtain rfl | hm := List.mem_cons.mp hm
    · apply h.children
      apply List.mem_singleton_self
    · cases form with
      | built k =>
        obtain rfl := List.mem_singleton.mp hm
        have hcall : S .literal v := by
          cases h.here with
          | literal _ _ _ hcall => exact hcall
        apply everywhere_of_build hS _ _ _ _ (hS.arrayRecord hcall) hn.2.1
      | _ => cases hm

end

/-! ### Matchers in use -/

/-- What compiled matchers have, and what matchers pass on to their children and to what becomes of them
when forms are built, all matchers in use have. -/
theorem Node.Arises.carries {e : Engine} {argument : Value} {P : Node → Prop}
    (compiled : ∀ operator n, e.registry.Offers operator →
      operator.build? e.registry argument = .ok n → P n)
    (field : ∀ name n, fieldNode? e.registry name argument = .ok n → P n)
    (child : ∀ n m, n.Consistent e.registry → P n → m ∈ n.children → P m)
    (becomes : ∀ n m, n.Becomes e.registry m → P n → P m) {n : Node} (h : n.Arises e argument) :
  P n
  := by
  induction h with
  | compiled hoperator h => apply compiled _ _ hoperator h
  | field h => apply field _ _ h
  | child hn hm ih => apply child _ _ hn.consistent ih hm
  | @evaluated n m c fuel record _ hn hc _ h ih =>
    subst hc
    obtain ⟨-, hm⟩ := (evaluate_yields c fuel hn.consistent record).leaves h
    apply becomes n m hm ih
  | @tested n m c fuel record _ hn hc _ h ih =>
    subst hc
    rw [test_eq_evaluate] at h
    obtain ⟨-, hm⟩ := (evaluate_yields c fuel hn.consistent record).leaves h
    apply becomes n m hm ih
  | @traced n m c fuel record t _ _ hn hc _ h ih =>
    subst hc
    obtain ⟨-, -, -, -, hm⟩ := (traced_follows c fuel hn.consistent record t).leaves h
    apply becomes n m hm ih

section

variable {e : Engine} {S : Operator → Value → Prop} {argument : Value}

/-- A matcher in use is formed as a whole, if what operators and arguments pass on holds of its
argument. -/
theorem Node.Arises.everywhere (hS : Hereditary e.registry S)
    (hcall : ∀ operator, e.registry.Offers operator → S operator argument) {n : Node}
    (h : n.Arises e argument) :
  n.fresh.Everywhere (Node.Formed S)
  := by
  apply h.carries (P := fun n => n.fresh.Everywhere (Node.Formed S))
  · intro operator n hoperator h
    rw [fresh_of_build h]
    apply everywhere_of_build hS _ _ _ _ (hcall operator hoperator) h
  · intro name n h
    obtain ⟨m, fuel, rfl, hliteral⟩ := literal_of_fieldNode h
    have hargument : S .literal argument := hcall .literal (Registry.offers_of_ne (by simp))
    have heverywhere := everywhere_of_build hS _ _ _ _ hargument hliteral
    rw [← fresh_of_build hliteral] at heverywhere
    apply everywhere_literal hargument
    apply heverywhere.children
    apply List.mem_singleton_self
  · intro n m hn h hm
    apply h.of_child hS hn hm
  · intro n m hm h
    rwa [hm.2]

/-- What is below a matcher that is formed as a whole is formed, however many forms have been built. -/
theorem Node.Everywhere.formed (hS : Hereditary e.registry S) {n m : Node}
    (hn : n.Consistent e.registry) (h : n.fresh.Everywhere (Node.Formed S)) (hm : n.Contains m) :
  m.Formed S
  := by
  have hinvariant : m.Consistent e.registry ∧ m.fresh.Everywhere (Node.Formed S) := by
    induction hm with
    | refl => exact ⟨hn, h⟩
    | tail _ hk ih => exact ⟨ih.1.of_child hk, ih.2.of_child hS ih.1 hk⟩
  exact hinvariant.2.here.of_fresh

end

/-- Whatever forms for arrays have been built in the tree of a matcher in use, every condition,
conjunction, disjunction and form for arrays in it that is a group has matchers with different keys, and
never just one. -/
theorem groups_irredundant {e : Engine} {argument : Value} {root tree : Node}
    (hroot : root.Arises e argument) (htree : root.Becomes e.registry tree) {grouping : Grouping}
    {v : Value} {children : List Node} (hgroup : tree.Contains (.group grouping v children)) :
  (children.map Node.key).Nodup ∧ children.length ≠ 1
  := by
  have hS := e.registry.hereditary_offers
  have heverywhere := hroot.everywhere hS fun _ hoperator => hoperator
  rw [← htree.2] at heverywhere
  cases heverywhere.formed hS htree.1 hgroup with
  | group _ hkeys hlength => exact ⟨hkeys, hlength⟩

/-- A conjunction in which a branch comes twice has two matchers, and so has the form for arrays that is
built in one of them when the query is evaluated. -/
theorem groups_irredundant_built :
  ∃ (q q' : Query) (v : Value) (children forms : List Node),
    Query.compile? .core (.value (.map [("$and", .array
        [.map [("a", .int 1)], .map [("a", .int 1)], .map [("b", .array [.int 2])]])])) [] = .ok q
      ∧ q.evaluate (.map [("a", .int 1), ("b", .array [.int 2])]) = .ok (.ok true, q')
      ∧ q'.matcher.node = .group .conjunction v children
      ∧ q'.matcher.node.Contains (.group .arrayRecord (.array [.int 2]) forms)
      ∧ children.length = 2 ∧ (children.map Node.key).Nodup
      ∧ forms.length = 2 ∧ (forms.map Node.key).Nodup
  := by
  obtain ⟨q, hq⟩ : ∃ q, Query.compile? .core (.value (.map [("$and", .array
      [.map [("a", .int 1)], .map [("a", .int 1)], .map [("b", .array [.int 2])]])])) [] = .ok q :=
    ⟨_, rfl⟩
  obtain ⟨q', hq'⟩ : ∃ q', q.evaluate (.map [("a", .int 1), ("b", .array [.int 2])])
      = .ok (.ok true, q') := by
    cases hq
    set_option maxRecDepth 4000 in exact ⟨_, rfl⟩
  have hnode := ((Query.Arises.compiled hq).evaluated hq').inUse.node
  obtain ⟨v, field, direct, forms, hform, hlength⟩ : ∃ v field direct forms, q'.matcher.node
        = .group .conjunction v [field, .literal (.field "b") (.array [.int 2]) direct
          (.built (.group .arrayRecord (.array [.int 2]) forms))]
      ∧ forms.length = 2 := by
    cases hq
    cases hq'
    set_option maxRecDepth 4000 in exact ⟨_, _, _, _, rfl, rfl⟩
  have hcontains : q'.matcher.node.Contains (.group .arrayRecord (.array [.int 2]) forms) := by
    rw [hform]
    apply Relation.ReflTransGen.head (List.mem_cons_of_mem _ List.mem_cons_self)
    apply Relation.ReflTransGen.single (List.mem_cons_of_mem _ List.mem_cons_self)
  have htree := Node.Becomes.refl hnode.consistent
  obtain ⟨hchildren, -⟩ := groups_irredundant hnode htree (by rw [hform]; exact .refl)
  obtain ⟨hforms, -⟩ := groups_irredundant hnode htree hcontains
  exact ⟨q, q', v, _, forms, hq, hq', hform, hcontains, rfl, hchildren, hlength, hforms⟩

end DocQuery
