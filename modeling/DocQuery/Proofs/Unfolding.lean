import DocQuery.Proofs.Merge
import DocQuery.Proofs.Verdict

/-!
# Unfolding matchers

The matchers in a tree are the children of other matchers, or the forms for arrays of literal
arguments. The tree of a compiled condition with all forms in it has at most four levels for each
level of the condition. What operators and arguments pass on while they are being built holds
everywhere in it.
-/

namespace DocQuery

/-- Every usual operator is found under its own key. -/
def Registry.Faithful (r : Registry) : Prop :=
  ∀ key e, Registry.core.lookup? key = some e →
    ∃ e', r.lookup? key = some e' ∧ e'.operator = e.operator

theorem Registry.Faithful.operatorFor {r : Registry} (hr : r.Faithful) {key : String}
    {operator : Operator}
    (h : (Registry.core.lookup? key).map RegistryEntry.operator = some operator) :
  r.operatorFor key = operator
  := by
  obtain ⟨e, he, rfl⟩ := Option.map_eq_some_iff.mp h
  obtain ⟨e', he', hop⟩ := hr key e he
  rw [operatorFor_of_lookup he', hop]

theorem Registry.Faithful.operatorFor_elemMatch {r : Registry} (hr : r.Faithful) :
  r.operatorFor "$elemMatch" = .elements .any
  := hr.operatorFor rfl

/-! ### Levels -/

/-- The matcher, with all forms for arrays in it, has at most so many levels. A property holds of
its leaves, and another one of the literal arguments. -/
def Node.Fits (r : Registry) (L : Leaf → Prop) (Q : Value → Prop) : Nat → Node → Prop
  | 0, _ => False
  | _ + 1, .leaf l => L l
  | k + 1, .within _ _ n => n.Fits r L Q k
  | k + 1, .elements _ _ n => n.Fits r L Q k
  | k + 1, .group _ _ nodes => ∀ n ∈ nodes, n.Fits r L Q k
  | k + 1, .literal _ argument n _ =>
    Q argument ∧ n.Fits r L Q k
      ∧ ∀ m, Operator.arrayRecord.build? r argument = .ok m → m.Fits r L Q k

section

variable {r : Registry} {L : Leaf → Prop} {Q : Value → Prop}

theorem Node.Fits.succ {k : Nat} {n : Node} (h : n.Fits r L Q k) :
  n.Fits r L Q (k + 1)
  := by
  induction k generalizing n with
  | zero => cases h
  | succ k ih =>
    cases n with
    | leaf l => exact h
    | within negated argument n => exact ih (n := n) h
    | elements quantifier argument n => exact ih (n := n) h
    | group grouping argument nodes => exact fun n hn => ih (h n hn)
    | literal role argument n form =>
      obtain ⟨hQ, hn, hform⟩ := h
      exact ⟨hQ, ih hn, fun m hm => ih (hform m hm)⟩

theorem Node.Fits.mono {k k' : Nat} {n : Node} (h : n.Fits r L Q k) (hk : k ≤ k') :
  n.Fits r L Q k'
  := by
  induction hk with
  | refl => exact h
  | step _ ih => exact ih.succ

/-- The levels of a matcher do not depend on the forms that it holds. -/
theorem Node.fits_fresh {k : Nat} {n : Node} :
  n.fresh.Fits r L Q k ↔ n.Fits r L Q k
  := by
  induction k generalizing n with
  | zero => rfl
  | succ k ih =>
    cases n with
    | leaf l => rfl
    | within negated argument n => exact ih (n := n)
    | elements quantifier argument n => exact ih (n := n)
    | group grouping argument nodes =>
      rw [fresh, freshAll_eq_map]
      simp only [Fits, List.forall_mem_map, ih]
    | literal role argument n form =>
      rw [fresh]
      simp only [Fits, ih]

/-- A group has one level more than its matchers. -/
theorem fits_group {k : Nat} {grouping : Grouping} {argument : Value} {nodes : List Node}
    (h : ∀ n ∈ nodes, n.Fits r L Q k) :
  (unwrap (distinct nodes) (.group grouping argument)).Fits r L Q (k + 1)
  := by
  apply unwrap_distinct (P := Node.Fits r L Q (k + 1))
  · exact fun n hn => (h n hn).succ
  · exact fun n hn => h n (distinct_subset nodes n hn)

/-- A matcher alone is no group. -/
theorem unwrap_distinct_singleton (n : Node) (wrap : List Node → Node) :
  unwrap (distinct [n]) wrap = n
  := rfl

end

/-! ### What is passed on -/

/-- A property of operators with arguments that passes on to those that are built on the way. -/
structure Hereditary (r : Registry) (S : Operator → Value → Prop) : Prop where
  entry {entries : Entries} {key : String} {v : Value} :
    S .condition (.map entries) → (key, v) ∈ entries → S (r.operatorFor key) v
  literal {operator : Operator} {role : Role} {v : Value} :
    Role.Of operator role → S operator v → S .literal v
  direct {v : Value} : S .literal v → S (directCall v).1 (directCall v).2
  arrayRecord {v : Value} : S .literal v → S .arrayRecord v
  arrayCalls {v : Value} {calls : List (Operator × Value)} :
    S .arrayRecord v → arrayCalls r v = .ok calls → ∀ c ∈ calls, S c.1 c.2
  elements {quantifier : Quantifier} {entries : Entries} :
    S (.elements quantifier) (.map entries) → S .condition (.map entries)
  within {negated exclusive : Bool} {start stop : Option Value} :
    S (.member negated) (.range start stop exclusive) →
      S .condition (bounds negated start stop exclusive)
  conjunction {items : List Value} : S .conjunction (.array items) → ∀ v ∈ items, S .condition v
  disjunction {items : List Value} : S .disjunction (.array items) → ∀ v ∈ items, S .condition v

/-- Two properties that are passed on are passed on together. -/
theorem Hereditary.and {r : Registry} {S S' : Operator → Value → Prop} (h : Hereditary r S)
    (h' : Hereditary r S') :
  Hereditary r fun operator v => S operator v ∧ S' operator v
  where
  entry hcall hmem := ⟨h.entry hcall.1 hmem, h'.entry hcall.2 hmem⟩
  literal hrole hcall := ⟨h.literal hrole hcall.1, h'.literal hrole hcall.2⟩
  direct hcall := ⟨h.direct hcall.1, h'.direct hcall.2⟩
  arrayRecord hcall := ⟨h.arrayRecord hcall.1, h'.arrayRecord hcall.2⟩
  arrayCalls hcall hcalls c hc := ⟨h.arrayCalls hcall.1 hcalls c hc, h'.arrayCalls hcall.2 hcalls c hc⟩
  elements hcall := ⟨h.elements hcall.1, h'.elements hcall.2⟩
  within hcall := ⟨h.within hcall.1, h'.within hcall.2⟩
  conjunction hcall v hv := ⟨h.conjunction hcall.1 v hv, h'.conjunction hcall.2 v hv⟩
  disjunction hcall v hv := ⟨h.disjunction hcall.1 v hv, h'.disjunction hcall.2 v hv⟩

section

variable {r : Registry} {S : Operator → Value → Prop} {L : Leaf → Prop} {Q : Value → Prop}

/-- All that is built from arguments of less depth has as many levels as that allows. -/
def FitsBelow (r : Registry) (S : Operator → Value → Prop) (L : Leaf → Prop) (Q : Value → Prop)
    (d : Nat) : Prop :=
  ∀ fuel operator v n, v.depth < d → S operator v → build r fuel operator v = .ok n →
    n.Fits r L Q (4 * d - 1)

/-- The matcher for an entry of less depth has as many levels as that allows. -/
theorem fits_entryNode (hS : Hereditary r S) {d : Nat} (ih : FitsBelow r S L Q d)
    {entries : Entries} (hentries : S .condition (.map entries)) {fuel : Nat} {key : String}
    {v : Value} {n : Node} (hmem : (key, v) ∈ entries) (hv : v.depth < d)
    (h : entryNode r (build r fuel) key v = .ok n) :
  n.Fits r L Q (4 * d - 1)
  := by
  have hcall := hS.entry hentries hmem
  obtain ⟨e, he, h⟩ | ⟨hnone, m, hm, rfl⟩ := entryNode_eq_ok_iff.mp h
  · rw [Registry.operatorFor_of_lookup he] at hcall
    apply ih fuel e.operator v n hv hcall h
  · rw [Registry.operatorFor_of_none hnone] at hcall
    have hfits := ih (fuel + 1) .literal v _ hv hcall (build_literal hm)
    obtain ⟨k, hk⟩ := Nat.exists_eq_succ_of_ne_zero (show 4 * d - 1 ≠ 0 by omega)
    rw [hk] at hfits ⊢
    exact hfits

/-- A condition has four levels for each level of its argument. -/
theorem fits_condition_step (hS : Hereditary r S) {d : Nat} (ih : FitsBelow r S L Q d) {fuel : Nat}
    {v : Value} {n : Node} (hv : v.depth ≤ d) (hcall : S .condition v)
    (h : build r fuel .condition v = .ok n) :
  n.Fits r L Q (4 * d)
  := by
  obtain ⟨entries, nodes, rfl, hnodes, rfl⟩ := entries_of_build h
  have hpos : 0 < d := Nat.lt_of_lt_of_le (Nat.succ_pos _) hv
  obtain ⟨k, hk⟩ : ∃ k, 4 * d = k + 1 := ⟨4 * d - 1, by omega⟩
  rw [hk]
  apply fits_group
  intro n hn
  obtain ⟨e, he, hentry⟩ := exists_left_of_forall₂ hnodes n hn
  have hdepth := Nat.lt_of_lt_of_le (Value.depth_lt_of_mem he) hv
  have hfits := fits_entryNode hS ih hcall he hdepth hentry
  rwa [hk] at hfits

/-- What a condition becomes on an array has two levels more than the condition. -/
theorem fits_arrayCondition (hr : r.Faithful) (hS : Hereditary r S) {d : Nat}
    (ih : FitsBelow r S L Q d) {fuel : Nat} {entries whole : Entries} {n : Node}
    (hd : (Value.map entries).depth ≤ d) (hwhole : arrayCondition r entries = .ok whole)
    (hcall : S .condition (.map whole)) (h : build r fuel .condition (.map whole) = .ok n) :
  n.Fits r L Q (4 * d + 2)
  := by
  have hpos : 0 < d := Nat.lt_of_lt_of_le (Nat.succ_pos _) hd
  obtain ⟨_, nodes, ⟨⟩, hnodes, rfl⟩ := entries_of_build h
  apply fits_group
  intro n hn
  obtain ⟨e, he, hentry⟩ := exists_left_of_forall₂ hnodes n hn
  obtain ⟨element, rfl, hdepth⟩ | hmem := depth_arrayCondition hd hwhole e he
  · have hcall' := hS.entry hcall he
    rw [hr.operatorFor_elemMatch] at hcall'
    have hbuild := build_of_entryNode hr.operatorFor_elemMatch (by simp) hentry
    obtain ⟨m, hm, rfl, -⟩ := inner_of_build hbuild
    apply fits_condition_step hS ih hdepth (hS.elements hcall') hm
  · have hdepth := Nat.lt_of_lt_of_le (Value.depth_lt_of_mem hmem) hd
    apply (fits_entryNode hS ih hcall he hdepth hentry).mono (by omega)

/-! ### Conditions that are made on the way -/

/-- The usual operators that make matchers without matchers below them of every argument that they
take. -/
inductive Operator.Flat : Operator → Prop
  | compare (c : Comparison) : Flat (.compare c)
  | existence : Flat .existence
  | regex : Flat .regex

/-- The key is that of a flat operator. -/
def Flat (r : Registry) (key : String) : Prop := (r.operatorFor key).Flat

theorem flat_of_compare {key : String} (h : ∃ c, r.operatorFor key = .compare c) :
  Flat r key
  := by
  obtain ⟨c, hc⟩ := h
  rw [Flat, hc]
  exact .compare c

theorem Registry.Faithful.flat (hr : r.Faithful) {key : String} {operator : Operator}
    (h : (Registry.core.lookup? key).map RegistryEntry.operator = some operator)
    (hflat : operator.Flat) :
  Flat r key
  := by
  rwa [Flat, hr.operatorFor h]

/-- To lie in a range is to compare with its ends. -/
theorem bounds_inside (hr : r.Faithful) (start stop : Option Value) (exclusive : Bool) :
  ∃ entries, bounds false start stop exclusive = .map entries
    ∧ ∀ e ∈ entries, ∃ c, r.operatorFor e.1 = .compare c
  := by
  refine ⟨_, rfl, ?_⟩
  intro e he
  obtain he | he := List.mem_append.mp he
  · obtain ⟨v, -, rfl⟩ := Option.map_eq_some_iff.mp (Option.mem_toList.mp he)
    exact ⟨_, hr.operatorFor rfl⟩
  · obtain ⟨v, -, rfl⟩ := Option.map_eq_some_iff.mp (Option.mem_toList.mp he)
    cases exclusive <;> exact ⟨_, hr.operatorFor rfl⟩

/-- To lie outside a range is to compare with one of its ends. -/
theorem bounds_outside (hr : r.Faithful) (start stop : Option Value) (exclusive : Bool) :
  ∃ items, bounds true start stop exclusive = .map [("$or", .array items)]
    ∧ ∀ v ∈ items, ∃ key w, v = .map [(key, w)] ∧ ∃ c, r.operatorFor key = .compare c
  := by
  refine ⟨_, rfl, ?_⟩
  intro v hv
  obtain hv | hv := List.mem_append.mp hv
  · obtain ⟨w, -, rfl⟩ := Option.map_eq_some_iff.mp (Option.mem_toList.mp hv)
    exact ⟨_, w, rfl, _, hr.operatorFor rfl⟩
  · obtain ⟨w, -, rfl⟩ := Option.map_eq_some_iff.mp (Option.mem_toList.mp hv)
    cases exclusive <;> exact ⟨_, w, rfl, _, hr.operatorFor rfl⟩

/-- To be null or not to be there takes two conditions of flat operators. -/
theorem absentOrNull_eq (hr : r.Faithful) :
  ∃ items, absentOrNull = .array items
    ∧ ∀ v ∈ items, ∃ key w, v = .map [(key, w)] ∧ Flat r key
  := by
  refine ⟨_, rfl, ?_⟩
  intro v hv
  obtain rfl | hv := List.mem_cons.mp hv
  · exact ⟨_, _, rfl, hr.flat rfl .existence⟩
  · obtain rfl := List.mem_singleton.mp hv
    exact ⟨_, _, rfl, hr.flat rfl (.compare .equal)⟩

theorem leaf_of_flat {fuel : Nat} {operator : Operator} {v : Value} {n : Node}
    (hflat : operator.Flat) (h : build r fuel operator v = .ok n) :
  ∃ l, n = .leaf l ∧ operator.Makes v l
  := by
  cases fuel with
  | zero => cases h
  | succ fuel =>
    have hbuilt := built_of_build h
    clear h
    cases hbuilt with
    | leaf h => exact ⟨_, rfl, h⟩
    | literal hrole => cases hrole <;> cases hflat
    | _ => cases hflat

section

variable (hS : Hereditary r S) (hL : ∀ operator v l, S operator v → operator.Makes v l → L l)

include hS hL

theorem fits_flat {entries : Entries} (hcall : S .condition (.map entries)) {fuel : Nat}
    {key : String} {v : Value} {n : Node} (hmem : (key, v) ∈ entries) (hflat : Flat r key)
    (h : entryNode r (build r fuel) key v = .ok n) :
  n.Fits r L Q 1
  := by
  have hne : r.operatorFor key ≠ .literal := by
    intro h
    rw [Flat, h] at hflat
    cases hflat
  obtain ⟨l, rfl, hl⟩ := leaf_of_flat hflat (build_of_entryNode rfl hne h)
  apply hL _ _ l (hS.entry hcall hmem) hl

/-- A condition whose only key is that of a flat operator has one level. -/
theorem fits_flat_singleton {fuel : Nat} {key : String} {v : Value} {n : Node}
    (hcall : S .condition (.map [(key, v)])) (hflat : Flat r key)
    (h : build r fuel .condition (.map [(key, v)]) = .ok n) :
  n.Fits r L Q 1
  := fits_flat hS hL hcall (List.mem_singleton_self _) hflat (entry_of_build h)

/-- A condition on elements whose only key is that of a flat operator has two levels. -/
theorem fits_flat_element {fuel : Nat} {key : String} {v : Value} {n : Node}
    (hcall : S (.elements .any) (.map [(key, v)])) (hflat : Flat r key)
    (h : build r fuel (.elements .any) (.map [(key, v)]) = .ok n) :
  n.Fits r L Q 2
  := by
  obtain ⟨m, hm, rfl, -⟩ := inner_of_build h
  apply fits_flat_singleton hS hL (hS.elements hcall) hflat hm

/-- A disjunction of such conditions has two levels. -/
theorem fits_flat_disjunction {fuel : Nat} {items : List Value} {n : Node}
    (hcall : S .disjunction (.array items))
    (hflat : ∀ v ∈ items, ∃ key w, v = .map [(key, w)] ∧ Flat r key)
    (h : build r fuel .disjunction (.array items) = .ok n) :
  n.Fits r L Q 2
  := by
  obtain ⟨_, nodes, ⟨⟩, hnodes, rfl⟩ := branches_of_build h
  apply fits_group
  intro n hn
  obtain ⟨v, hv, hbuild⟩ := exists_left_of_forall₂ hnodes n hn
  obtain ⟨key, w, rfl, hkey⟩ := hflat v hv
  apply fits_flat_singleton hS hL (hS.disjunction hcall _ hv) hkey hbuild

/-- The condition that a membership test of a range stands for has two levels. -/
theorem fits_bounds (hr : r.Faithful) {negated exclusive : Bool} {start stop : Option Value}
    {fuel : Nat} {n : Node} (hcall : S .condition (bounds negated start stop exclusive))
    (h : build r fuel .condition (bounds negated start stop exclusive) = .ok n) :
  n.Fits r L Q 2
  := by
  cases negated
  · obtain ⟨entries, heq, hkeys⟩ := bounds_inside hr start stop exclusive
    rw [heq] at hcall h
    obtain ⟨_, nodes, ⟨⟩, hnodes, rfl⟩ := entries_of_build h
    apply fits_group
    intro n hn
    obtain ⟨e, he, hentry⟩ := exists_left_of_forall₂ hnodes n hn
    apply fits_flat hS hL hcall he (flat_of_compare (hkeys e he)) hentry
  · obtain ⟨items, heq, hitems⟩ := bounds_outside hr start stop exclusive
    rw [heq] at hcall h
    have hkey : r.operatorFor "$or" = .disjunction := hr.operatorFor rfl
    have hbuild := build_of_entryNode hkey (by simp) (entry_of_build h)
    have hcall := hS.entry hcall (List.mem_singleton_self _)
    rw [hkey] at hcall
    apply fits_flat_disjunction hS hL hcall _ hbuild
    intro v hv
    obtain ⟨key, w, rfl, hc⟩ := hitems v hv
    exact ⟨key, w, rfl, flat_of_compare hc⟩

/-- The condition of being null or not being there has two levels. -/
theorem fits_absentOrNull (hr : r.Faithful) {fuel : Nat} {n : Node}
    (hcall : S .disjunction absentOrNull) (h : build r fuel .disjunction absentOrNull = .ok n) :
  n.Fits r L Q 2
  := by
  obtain ⟨items, heq, hitems⟩ := absentOrNull_eq hr
  rw [heq] at hcall h
  apply fits_flat_disjunction hS hL hcall hitems h

/-! ### All that is built -/

/-- The matcher for a literal argument and records that are no arrays has four levels for each
level of the argument, or two. -/
theorem fits_direct (hr : r.Faithful) {d : Nat} (ih : FitsBelow r S L Q d) {fuel : Nat} {v : Value}
    {n : Node} (hv : v.depth ≤ d) (hcall : S .literal v)
    (h : build r fuel (directCall v).1 (directCall v).2 = .ok n) :
  n.Fits r L Q (4 * d + 2)
  := by
  have hdirect := hS.direct hcall
  have hleaf : ∀ operator : Operator, operator.Flat → S operator v →
      build r fuel operator v = .ok n → n.Fits r L Q (4 * d + 2) := by
    intro operator hflat hS h
    obtain ⟨l, rfl, hl⟩ := leaf_of_flat hflat h
    apply hL operator v l hS hl
  cases v with
  | map entries => exact (fits_condition_step hS ih hv hdirect h).mono (by omega)
  | regex p => exact hleaf .regex .regex hdirect h
  | null => exact (fits_absentOrNull hS hL hr hdirect h).mono (by omega)
  | _ => exact hleaf (.compare .equal) (.compare .equal) hdirect h

/-- The form of a literal argument for arrays has four levels for each level of the argument, and
two more. -/
theorem fits_arrayRecord (hr : r.Faithful) {d : Nat} (ih : FitsBelow r S L Q d) {fuel : Nat}
    {v : Value} {n : Node} (hv : v.depth ≤ d) (hcall : S .arrayRecord v)
    (h : build r fuel .arrayRecord v = .ok n) :
  n.Fits r L Q (4 * d + 2)
  := by
  have helement : ∀ {fuel key w n}, Flat r key → S (.elements .any) (.map [(key, w)]) →
      build r fuel (.elements .any) (.map [(key, w)]) = .ok n → n.Fits r L Q (4 * d + 2) :=
    fun hkey hcall h => (fits_flat_element hS hL hcall hkey h).mono (by omega)
  obtain ⟨calls, nodes, hcalls, hnodes, rfl⟩ := calls_of_build h
  have hpassed := hS.arrayCalls hcall hcalls
  cases v with
  | map entries =>
    obtain ⟨whole, hwhole, rfl⟩ := map_eq_ok_iff.mp hcalls
    obtain ⟨n, hn, rfl⟩ := exists_singleton_of_forall₂ hnodes
    apply fits_arrayCondition hr hS ih hv hwhole (hpassed _ (List.mem_singleton_self _)) hn
  | array items =>
    cases hcalls
    have hpos : 0 < d := Nat.lt_of_lt_of_le (Nat.succ_pos _) hv
    apply fits_group
    intro n hn
    obtain ⟨c, hc, hbuild⟩ := exists_left_of_forall₂ hnodes n hn
    obtain rfl | hc := List.mem_cons.mp hc
    · obtain ⟨l, rfl, hl⟩ := leaf_of_flat (.compare .equal) hbuild
      apply hL _ _ l (hpassed _ List.mem_cons_self) hl
    · obtain rfl := List.mem_singleton.mp hc
      have hcall := hpassed _ (List.mem_cons_of_mem _ (List.mem_singleton_self _))
      apply (fits_flat_element hS hL hcall (hr.flat rfl (.compare .equal)) hbuild).mono
      omega
  | regex p =>
    cases hcalls
    obtain ⟨n, hn, rfl⟩ := exists_singleton_of_forall₂ hnodes
    apply helement (hr.flat rfl .regex) (hpassed _ (List.mem_singleton_self _)) hn
  | _ =>
    cases hcalls
    obtain ⟨n, hn, rfl⟩ := exists_singleton_of_forall₂ hnodes
    apply helement (hr.flat rfl (.compare .equal)) (hpassed _ (List.mem_singleton_self _)) hn

/-- A matcher has four levels for each level of its argument, and three more. -/
theorem fits_step (hr : r.Faithful) (hQ : ∀ v, S .literal v → Q v) {d : Nat}
    (ih : FitsBelow r S L Q d) {fuel : Nat} {operator : Operator} {v : Value} {n : Node}
    (hv : v.depth ≤ d) (hcall : S operator v) (h : build r fuel operator v = .ok n) :
  n.Fits r L Q (4 * d + 3)
  := by
  cases fuel with
  | zero => cases h
  | succ fuel =>
    have hbuilt := built_of_build h
    cases hbuilt with
    | leaf hmakes => exact hL operator v _ hcall hmakes
    | @within negated start stop exclusive n hn =>
      have hcall := hS.within hcall
      apply Node.Fits.mono (k := 3) _ (by omega)
      apply fits_bounds hS hL hr hcall hn
    | elements hn =>
      have hfits := fits_condition_step hS ih hv (hS.elements hcall) hn
      apply Node.Fits.mono (k := 4 * d + 1) hfits (by omega)
    | literal hrole hn =>
      have hliteral := hS.literal hrole hcall
      rw [directNode_eq] at hn
      refine ⟨hQ v hliteral, fits_direct hS hL hr ih hv hliteral hn, ?_⟩
      exact fun m hm => fits_arrayRecord hS hL hr ih hv (hS.arrayRecord hliteral) hm
    | condition => exact (fits_condition_step hS ih hv hcall h).mono (by omega)
    | @conjunction items nodes _ hnodes =>
      apply fits_group
      intro n hn
      obtain ⟨ns, hns, hn⟩ := List.mem_flatten.mp hn
      obtain ⟨w, hw, hw'⟩ := exists_left_of_forall₂ hnodes ns hns
      obtain ⟨entries, nodes', rfl, rfl, hentries⟩ := entryNodes_eq_ok_iff.mp hw'
      obtain ⟨e, he, hentry⟩ := exists_left_of_forall₂ hentries n (distinct_subset _ n hn)
      have hdepth : e.2.depth < d := by
        have hentry := Value.depth_lt_of_mem he
        have hitem := Value.depth_lt_of_mem_items hw
        omega
      apply (fits_entryNode hS ih (hS.conjunction hcall _ hw) he hdepth hentry).mono (by omega)
    | @disjunction items nodes _ hnodes =>
      apply fits_group
      intro n hn
      obtain ⟨w, hw, hbuild⟩ := exists_left_of_forall₂ hnodes n hn
      have hdepth := Nat.lt_of_lt_of_le (Value.depth_lt_of_mem_items hw) hv
      apply (ih fuel _ w n hdepth (hS.disjunction hcall w hw) hbuild).mono (by omega)
    | arrayRecord => exact (fits_arrayRecord hS hL hr ih hv hcall h).mono (by omega)

theorem fitsBelow (hr : r.Faithful) (hQ : ∀ v, S .literal v → Q v) (d : Nat) :
  FitsBelow r S L Q d
  := by
  induction d with
  | zero =>
    intro fuel operator v n hv
    cases hv
  | succ d ih =>
    intro fuel operator v n hv hcall h
    apply (fits_step hS hL hr hQ ih (Nat.le_of_lt_succ hv) hcall h).mono
    omega

/-- A built matcher, with all forms for arrays in it, has four levels for each level of its
argument, and at most three more. -/
theorem fits_of_build (hr : r.Faithful) (hQ : ∀ v, S .literal v → Q v) {fuel : Nat}
    {operator : Operator} {v : Value} {n : Node} (hcall : S operator v)
    (h : build r fuel operator v = .ok n) :
  n.Fits r L Q (4 * v.depth + 3)
  := fits_step hS hL hr hQ (fitsBelow hS hL hr hQ _) (Nat.le_refl _) hcall h

end

end

end DocQuery
