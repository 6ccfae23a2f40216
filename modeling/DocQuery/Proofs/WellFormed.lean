import DocQuery.Proofs.Reachable

/-!
# Well-formed conditions

An argument suits an operator when it has the shape that the operator takes, at every depth. What
suits an operator can be built, and nothing else can. Merging keeps well-formed conditions
well-formed, and so does taking a condition apart for arrays: the form of a literal argument for
arrays can be built whenever its matcher was.
-/

namespace DocQuery

/-- The value has the shape that the operator takes as an argument. -/
inductive Suits (r : Registry) : Operator → Value → Prop
  | compare (c : Comparison) (v : Value) : Suits r (.compare c) v
  | existence (b : Bool) : Suits r .existence (.bool b)
  | presence (b : Bool) : Suits r .presence (.bool b)
  | regex {v : Value} {p : Pattern} (h : patternArgument v = .ok p) : Suits r .regex v
  | items (negated : Bool) (items : List Value) : Suits r (.member negated) (.array items)
  | range (negated : Bool) (start stop : Option Value) (exclusive : Bool) :
    Suits r (.member negated) (.range start stop exclusive)
  | conjunction {items : List Value} (h : ∀ v ∈ items, Suits r .condition v) :
    Suits r .conjunction (.array items)
  | disjunction {items : List Value} (h : ∀ v ∈ items, Suits r .condition v) :
    Suits r .disjunction (.array items)
  | elements (quantifier : Quantifier) {entries : Entries} (h : Suits r .condition (.map entries)) :
    Suits r (.elements quantifier) (.map entries)
  | plain {operator : Operator} {role : Role} {v : Value} (hrole : Role.Of operator role)
      (h : v.isMap = false) : Suits r operator v
  | literal {operator : Operator} {role : Role} {entries : Entries}
      (hrole : Role.Of operator role) (h : Suits r .condition (.map entries)) :
    Suits r operator (.map entries)
  | condition {entries : Entries} (h : ∀ e ∈ entries, Suits r (r.operatorFor e.1) e.2) :
    Suits r .condition (.map entries)
  | arrayRecord {v : Value} {calls : List (Operator × Value)} (hcalls : arrayCalls r v = .ok calls)
      (h : ∀ c ∈ calls, Suits r c.1 c.2) : Suits r .arrayRecord v
  | extension {x : Extension} {v : Value} {p : Probe} (h : x.build v = .ok p) :
    Suits r (.extension x) v

section

variable {r : Registry}

/-! ### Inversion -/

theorem Suits.entries {entries : Entries} (h : Suits r .condition (.map entries)) :
  ∀ e ∈ entries, Suits r (r.operatorFor e.1) e.2
  := by
  cases h with
  | plain hrole => cases hrole
  | literal hrole => cases hrole
  | condition h => exact h

/-- An entry of a condition that suits is a condition that suits. -/
theorem Suits.singleton {entries : Entries} (h : Suits r .condition (.map entries))
    {e : String × Value} (he : e ∈ entries) :
  Suits r .condition (.map [e])
  := .condition (List.forall_mem_singleton.mpr (h.entries e he))

theorem Suits.inner {quantifier : Quantifier} {v : Value} (h : Suits r (.elements quantifier) v) :
  Suits r .condition v
  := by
  cases h with
  | plain hrole => cases hrole
  | literal hrole => cases hrole
  | elements _ h => exact h

theorem Suits.isMap {v : Value} (h : Suits r .condition v) :
  v.isMap
  := by
  cases h with
  | plain hrole => cases hrole
  | literal hrole => cases hrole
  | condition => rfl

theorem Suits.map {v : Value} (h : Suits r .condition v) :
  ∃ entries, v = .map entries
  := by
  cases h with
  | plain hrole => cases hrole
  | literal hrole => cases hrole
  | condition => exact ⟨_, rfl⟩

theorem Suits.branches {items : List Value} (h : Suits r .disjunction (.array items)) :
  ∀ v ∈ items, Suits r .condition v
  := by
  cases h with
  | plain hrole => cases hrole
  | disjunction h => exact h

/-- What suits one operator that takes its argument literally suits all of them. -/
theorem Suits.of_role {operator operator' : Operator} {role role' : Role}
    (hrole : Role.Of operator role) (hrole' : Role.Of operator' role') {v : Value}
    (h : Suits r operator v) :
  Suits r operator' v
  := by
  cases h with
  | plain _ h => exact .plain hrole' h
  | literal _ h => exact .literal hrole' h
  | _ => cases hrole

/-! ### What is made on the way -/

/-- A condition all of whose keys are comparisons suits. -/
theorem suits_comparisons {entries : Entries}
    (h : ∀ e ∈ entries, ∃ c, r.operatorFor e.1 = .compare c) :
  Suits r .condition (.map entries)
  := by
  apply Suits.condition
  intro e he
  obtain ⟨c, hc⟩ := h e he
  rw [hc]
  exact .compare c e.2

variable (hr : r.Faithful)

include hr

theorem suits_bounds (negated exclusive : Bool) (start stop : Option Value) :
  Suits r .condition (bounds negated start stop exclusive)
  := by
  cases negated
  · obtain ⟨entries, heq, hkeys⟩ := bounds_inside hr start stop exclusive
    rw [heq]
    apply suits_comparisons hkeys
  · obtain ⟨items, heq, hitems⟩ := bounds_outside hr start stop exclusive
    rw [heq]
    apply Suits.condition
    refine List.forall_mem_singleton.mpr ?_
    rw [hr.operatorFor rfl]
    apply Suits.disjunction
    intro v hv
    obtain ⟨key, w, rfl, hc⟩ := hitems v hv
    apply suits_comparisons (List.forall_mem_singleton.mpr hc)

theorem suits_absentOrNull :
  Suits r .disjunction absentOrNull
  := by
  apply Suits.disjunction
  intro v hv
  obtain rfl | hv := List.mem_cons.mp hv
  · apply Suits.condition
    intro e he
    obtain rfl := List.mem_singleton.mp he
    rw [hr.operatorFor rfl]
    exact .existence false
  · obtain rfl := List.mem_singleton.mp hv
    apply suits_comparisons
    exact List.forall_mem_singleton.mpr ⟨_, hr.operatorFor rfl⟩

/-- What suits as a literal argument suits on records that are no arrays. -/
theorem Suits.direct {v : Value} (h : Suits r .literal v) :
  Suits r (directCall v).1 (directCall v).2
  := by
  cases v with
  | map entries =>
    cases h with
    | plain _ h => cases h
    | literal _ h => exact h
  | regex p => exact .regex rfl
  | null => exact suits_absentOrNull hr
  | _ => exact .compare .equal _

/-- A test whether an element equals a value suits. -/
theorem suits_element (v : Value) :
  Suits r (.elements .any) (.map [("$eq", v)])
  := by
  apply Suits.elements
  apply suits_comparisons
  exact List.forall_mem_singleton.mpr ⟨_, hr.operatorFor rfl⟩

omit hr

/-! ### Merging -/

/-- The usual operators are under their keys, and no further operator takes a map. -/
structure Registry.Plain (r : Registry) : Prop where
  faithful : r.Faithful
  others : ∀ key e, r.lookup? key = some e → Registry.core.lookup? key = none →
    ∃ x, e.operator = .extension x ∧ ∀ entries p, x.build (.map entries) ≠ .ok p

/-- The operator of an entry is a usual one, a literal one, or one that takes no maps. -/
theorem Registry.Plain.operatorFor (hr : r.Plain) (key : String) :
  (∃ e ∈ Registry.core.entries, r.operatorFor key = e.operator) ∨ r.operatorFor key = .literal
    ∨ ∃ x, r.operatorFor key = .extension x ∧ ∀ entries p, x.build (.map entries) ≠ .ok p
  := by
  cases hcore : Registry.core.lookup? key with
  | some e =>
    have hop : (Registry.core.lookup? key).map RegistryEntry.operator = some e.operator := by
      rw [hcore]
      rfl
    exact .inl ⟨e, List.mem_of_find?_eq_some hcore, hr.faithful.operatorFor hop⟩
  | none =>
    cases h : r.lookup? key with
    | none => exact .inr (.inl (operatorFor_of_none h))
    | some e =>
      obtain ⟨x, hx, hmaps⟩ := hr.others key e h hcore
      exact .inr (.inr ⟨x, by rw [operatorFor_of_lookup h, hx], hmaps⟩)

/-- No entry of a condition stands for the form of a literal argument for arrays. -/
theorem Registry.Plain.operatorFor_ne_arrayRecord (hr : r.Plain) (key : String) :
  r.operatorFor key ≠ .arrayRecord
  := by
  obtain ⟨e, he, hop⟩ | hop | ⟨x, hop, -⟩ := hr.operatorFor key
  · rw [hop]
    apply (core_usual e he).1
  · rw [hop]
    simp
  · rw [hop]
    simp

/-- When two maps suit the operator of an entry, their merge does, if this is so for conditions. -/
theorem Suits.merge_of_condition (hr : r.Plain) {key : String} {m m' : Entries}
    (h : Suits r (r.operatorFor key) (.map m)) (h' : Suits r (r.operatorFor key) (.map m'))
    (hmerge : Suits r .condition (.map m) → Suits r .condition (.map m') →
      Suits r .condition (.map (Entries.merge m m'))) :
  Suits r (r.operatorFor key) (.map (Entries.merge m m'))
  := by
  generalize hop : r.operatorFor key = operator at h h' ⊢
  cases h with
  | compare c => exact .compare c _
  | regex h => cases h
  | elements quantifier h => exact .elements quantifier (hmerge h h'.inner)
  | plain _ h => cases h
  | literal hrole h =>
    cases h' with
    | plain _ h' => cases h'
    | literal _ h' => exact .literal hrole (hmerge h h')
    | _ => cases hrole
  | condition h => exact hmerge (.condition h) h'
  | arrayRecord => exact absurd hop (hr.operatorFor_ne_arrayRecord key)
  | @extension x _ p h =>
    obtain ⟨e, he, hop'⟩ | hop' | ⟨y, hop', hmaps⟩ := hr.operatorFor key
    · exact absurd (hop'.symm.trans hop) ((Registry.core_usual e he).2 x)
    · rw [hop] at hop'
      cases hop'
    · rw [hop] at hop'
      cases hop'
      exact absurd h (hmaps m p)

/-- The merge of two well-formed conditions is well-formed. -/
theorem Suits.merge (hr : r.Plain) {m m' : Entries} (h : Suits r .condition (.map m))
    (h' : Suits r .condition (.map m')) :
  Suits r .condition (.map (Entries.merge m m'))
  := by
  generalize hd : (Value.map m').depth = d
  induction d using Nat.strongRecOn generalizing m m' with
  | ind d ih =>
    apply Suits.condition
    apply Entries.forall_merge (P := fun key v => Suits r (r.operatorFor key) v) h.entries h'.entries
    intro key k k' hmem hk hk'
    apply hk.merge_of_condition hr hk'
    intro hk hk'
    apply ih _ (hd ▸ Value.depth_lt_of_mem hmem) hk hk' rfl

/-! ### Conditions on arrays -/

/-- A condition can be taken apart for arrays if what it holds for elements is a map. -/
theorem exists_arrayCondition {entries : Entries}
    (h : ∀ v, ("$elemMatch", v) ∈ entries → v.isMap) :
  ∃ whole, arrayCondition r entries = .ok whole
  := by
  have hall : ∀ (rest : Entries) (c : ArrayCondition), (∀ e ∈ rest, e ∈ entries) →
      ∃ c', c.addAll r rest = .ok c' := by
    intro rest
    induction rest with
    | nil => exact fun c _ => ⟨c, rfl⟩
    | cons e rest ih =>
      intro c hrest
      obtain ⟨key, v⟩ := e
      obtain ⟨hmem, hrest⟩ := List.forall_mem_cons.mp hrest
      obtain ⟨c', hc'⟩ : ∃ c', c.add r key v = .ok c' := by
        unfold ArrayCondition.add
        by_cases hkey : key = "$elemMatch"
        · subst hkey
          cases v with
          | map body => exact ⟨_, rfl⟩
          | _ => cases h _ hmem
        · rw [if_neg hkey]
          split
          · exact ⟨_, rfl⟩
          · split <;> exact ⟨_, rfl⟩
      obtain ⟨c'', hc''⟩ := ih c' hrest
      exact ⟨c'', bind_eq_ok_iff.mpr ⟨c', hc', hc''⟩⟩
  obtain ⟨c, hc⟩ := hall entries ⟨[], []⟩ fun _ he => he
  exact ⟨c.entries, map_eq_ok_iff.mpr ⟨c, hc, rfl⟩⟩

/-- A well-formed condition can be taken apart for arrays. -/
theorem Suits.exists_arrayCondition (hr : r.Plain) {entries : Entries}
    (h : Suits r .condition (.map entries)) :
  ∃ whole, DocQuery.arrayCondition r entries = .ok whole
  := by
  apply DocQuery.exists_arrayCondition
  intro v hmem
  have hinner := h.entries _ hmem
  rw [hr.faithful.operatorFor_elemMatch] at hinner
  exact hinner.inner.isMap

/-- What a well-formed condition becomes on an array is well-formed. -/
theorem Suits.arrayCondition (hr : r.Plain) {entries whole : Entries}
    (h : Suits r .condition (.map entries)) (hwhole : arrayCondition r entries = .ok whole) :
  Suits r .condition (.map whole)
  := by
  have hbody : ∀ body, ("$elemMatch", Value.map body) ∈ entries → Suits r .condition (.map body) := by
    intro body hmem
    have hinner := h.entries _ hmem
    rw [hr.faithful.operatorFor_elemMatch] at hinner
    exact hinner.inner
  obtain ⟨element, helement, hkind⟩ := forall_arrayCondition
    (P := fun key v => Suits r (r.operatorFor key) v)
    (fun key m m' h h' => h.merge_of_condition hr h' (Suits.merge hr)) (fun e he _ => h.entries e he)
    (fun body hmem => (hbody body hmem).entries) hwhole
  apply Suits.condition
  intro e he
  obtain rfl | ⟨-, hmem, -⟩ := hkind e he
  · rw [hr.faithful.operatorFor_elemMatch]
    exact .elements .any (.condition helement)
  · apply h.entries e hmem

/-- What suits as a literal argument suits for arrays. -/
theorem Suits.form (hr : r.Plain) {v : Value} (h : Suits r .literal v) :
  Suits r .arrayRecord v
  := by
  have helement : ∀ w, Suits r (.elements .any) (.map [("$eq", w)]) := suits_element hr.faithful
  cases v with
  | map entries =>
    have hcondition : Suits r .condition (.map entries) := h.direct hr.faithful
    obtain ⟨whole, hwhole⟩ := hcondition.exists_arrayCondition hr
    refine .arrayRecord (map_eq_ok_iff.mpr ⟨whole, hwhole, rfl⟩) ?_
    exact List.forall_mem_singleton.mpr (hcondition.arrayCondition hr hwhole)
  | regex p =>
    refine .arrayRecord rfl (List.forall_mem_singleton.mpr ?_)
    apply Suits.elements
    apply Suits.condition
    refine List.forall_mem_singleton.mpr ?_
    have hkey : r.operatorFor "$regex" = .regex := hr.faithful.operatorFor rfl
    rw [hkey]
    exact .regex rfl
  | array items =>
    refine .arrayRecord rfl (List.forall_mem_cons.mpr ⟨.compare .equal _, ?_⟩)
    exact List.forall_mem_singleton.mpr (helement _)
  | _ => exact .arrayRecord rfl (List.forall_mem_singleton.mpr (helement _))

/-- What is well-formed passes on well-formed arguments to what is built on the way. -/
theorem hereditary_suits (hr : r.Plain) :
  Hereditary r (Suits r)
  where
  entry h hmem := h.entries _ hmem
  literal hrole h := h.of_role hrole .literal
  direct h := h.direct hr.faithful
  arrayRecord h := h.form hr
  arrayCalls h hcalls := by
    cases h with
    | plain hrole => cases hrole
    | literal hrole => cases hrole
    | arrayRecord hcalls' h =>
      cases hcalls.symm.trans hcalls'
      exact h
  elements h := h.inner
  within _ := suits_bounds hr.faithful _ _ _ _
  conjunction h := by
    cases h with
    | plain hrole => cases hrole
    | conjunction h => exact h
  disjunction h := h.branches

/-! ### Building -/

/-- A literal argument suits when its matcher for records that are no arrays can be built of an
argument that suits. -/
theorem suits_literal {operator : Operator} {role : Role} (hrole : Role.Of operator role) {v : Value}
    (h : Suits r (directCall v).1 (directCall v).2) :
  Suits r operator v
  := by
  cases v with
  | map entries => exact .literal hrole h
  | _ => exact .plain hrole rfl

/-- Only what suits an operator can be built. -/
theorem suits_of_build {fuel : Nat} {operator : Operator} {v : Value} {n : Node}
    (h : build r fuel operator v = .ok n) :
  Suits r operator v
  := by
  induction fuel generalizing operator v n with
  | zero => cases h
  | succ fuel ih =>
    have hentry : ∀ {entries : Entries} {nodes : List Node},
        List.Forall₂ (fun e n => entryNode r (build r fuel) e.1 e.2 = .ok n) entries nodes →
        Suits r .condition (.map entries) := by
      intro entries nodes h
      apply Suits.condition
      intro e he
      obtain ⟨n, -, hn⟩ := exists_right_of_forall₂ h e he
      obtain ⟨d, hd, hn⟩ | ⟨hnone, m, hm, -⟩ := entryNode_eq_ok_iff.mp hn
      · rw [Registry.operatorFor_of_lookup hd]
        apply ih hn
      · rw [Registry.operatorFor_of_none hnone]
        apply suits_literal .literal (ih hm)
    have hbuilt := built_of_build h
    clear h
    cases hbuilt with
    | leaf hmakes =>
      cases hmakes with
      | compare c => exact .compare c v
      | existence b => exact .existence b
      | presence b => exact .presence b
      | regex h => exact .regex h
      | member negated items => exact .items negated items
      | probe h => exact .extension h
    | within => exact .range _ _ _ _
    | elements h => exact .elements _ (ih h)
    | literal hrole h =>
      rw [directNode_eq] at h
      apply suits_literal hrole (ih h)
    | condition h => exact hentry h
    | conjunction _ h =>
      apply Suits.conjunction
      intro v hv
      obtain ⟨ns, -, hns⟩ := exists_right_of_forall₂ h v hv
      obtain ⟨entries, nodes, rfl, -, h⟩ := entryNodes_eq_ok_iff.mp hns
      apply hentry h
    | disjunction _ h =>
      apply Suits.disjunction
      intro v hv
      obtain ⟨n, -, hn⟩ := exists_right_of_forall₂ h v hv
      apply ih hn
    | arrayRecord hcalls h =>
      apply Suits.arrayRecord hcalls
      intro c hc
      obtain ⟨n, -, hn⟩ := exists_right_of_forall₂ h c hc
      apply ih hn

/-- A condition can be built when the matchers of its entries can. -/
theorem exists_condition {fuel : Nat} {entries : Entries}
    (h : ∀ e ∈ entries, ∃ n, entryNode r (build r fuel) e.1 e.2 = .ok n) :
  ∃ n, build r (fuel + 1) .condition (.map entries) = .ok n
  := by
  obtain ⟨nodes, hnodes⟩ := exists_forall₂ h
  exact ⟨_, build_of_built (.condition hnodes)⟩

/-- The matcher of an entry can be built when that of its operator can. -/
theorem exists_entryNode {fuel : Nat} {key : String} {v : Value}
    (h : ∀ fuel', fuel ≤ fuel' → ∃ n, build r fuel' (r.operatorFor key) v = .ok n) :
  ∃ n, entryNode r (build r fuel) key v = .ok n
  := by
  cases hlookup : r.lookup? key with
  | some e =>
    obtain ⟨n, hn⟩ := h fuel (Nat.le_refl _)
    rw [Registry.operatorFor_of_lookup hlookup] at hn
    exact ⟨n, entryNode_eq_ok_iff.mpr (.inl ⟨e, hlookup, hn⟩)⟩
  | none =>
    obtain ⟨n, hn⟩ := h (fuel + 1) (Nat.le_succ _)
    rw [Registry.operatorFor_of_none hlookup] at hn
    obtain ⟨m, hm, -⟩ := map_eq_ok_iff.mp hn
    rw [directNode_eq] at hm
    exact ⟨_, entryNode_eq_ok_iff.mpr (.inr ⟨hlookup, m, hm, rfl⟩)⟩

/-- An argument that suits a flat operator can be built in one step. -/
theorem exists_flat {operator : Operator} {v : Value} (hflat : operator.Flat) (h : Suits r operator v)
    {fuel : Nat} (hfuel : 0 < fuel) :
  ∃ n, build r fuel operator v = .ok n
  := by
  obtain ⟨fuel, rfl⟩ := Nat.exists_eq_add_of_le' hfuel
  cases h with
  | compare c => exact ⟨_, build_of_built (.leaf (.compare c v))⟩
  | existence b => exact ⟨_, build_of_built (.leaf (.existence b))⟩
  | regex h => exact ⟨_, build_of_built (.leaf (.regex h))⟩
  | plain hrole => cases hrole <;> cases hflat
  | literal hrole => cases hrole <;> cases hflat
  | _ => cases hflat

/-- A condition all of whose keys are those of flat operators can be built in two steps. -/
theorem exists_flat_condition {entries : Entries} (hflat : ∀ e ∈ entries, Flat r e.1)
    (h : Suits r .condition (.map entries)) {fuel : Nat} (hfuel : 1 < fuel) :
  ∃ n, build r fuel .condition (.map entries) = .ok n
  := by
  obtain ⟨fuel, rfl⟩ := Nat.exists_eq_add_of_le' hfuel
  apply exists_condition
  intro e he
  apply exists_entryNode
  intro fuel' hfuel'
  apply exists_flat (hflat e he) (h.entries e he) (by omega)

/-- A disjunction of such conditions can be built in three steps. -/
theorem exists_flat_disjunction {items : List Value}
    (hflat : ∀ v ∈ items, ∃ key w, v = .map [(key, w)] ∧ Flat r key)
    (h : ∀ v ∈ items, Suits r .condition v) {fuel : Nat} (hfuel : 2 < fuel) :
  ∃ n, build r fuel .disjunction (.array items) = .ok n
  := by
  obtain ⟨fuel, rfl⟩ := Nat.exists_eq_add_of_le' hfuel
  have hnodes : ∀ v ∈ items, ∃ n, build r (fuel + 2) .condition v = .ok n := by
    intro v hv
    obtain ⟨key, w, rfl, hkey⟩ := hflat v hv
    apply exists_flat_condition _ (h _ hv) (by omega)
    exact List.forall_mem_singleton.mpr hkey
  obtain ⟨nodes, hnodes⟩ := exists_forall₂ hnodes
  exact ⟨_, build_of_built (.disjunction (fun v hv => (h v hv).isMap) hnodes)⟩

/-- The condition that a membership test of a range stands for can be built in four steps. -/
theorem exists_bounds (hr : r.Faithful) (negated exclusive : Bool) (start stop : Option Value)
    {fuel : Nat} (hfuel : 3 < fuel) :
  ∃ n, build r fuel .condition (bounds negated start stop exclusive) = .ok n
  := by
  have hsuits := suits_bounds hr negated exclusive start stop
  cases negated
  · obtain ⟨entries, heq, hkeys⟩ := bounds_inside hr start stop exclusive
    rw [heq] at hsuits ⊢
    apply exists_flat_condition (fun e he => flat_of_compare (hkeys e he)) hsuits (by omega)
  · obtain ⟨items, heq, hitems⟩ := bounds_outside hr start stop exclusive
    rw [heq]
    obtain ⟨fuel, rfl⟩ := Nat.exists_eq_add_of_le' hfuel
    apply exists_condition
    refine List.forall_mem_singleton.mpr (exists_entryNode ?_)
    intro fuel' hfuel'
    rw [hr.operatorFor rfl]
    refine exists_flat_disjunction ?_ ?_ (Nat.lt_of_lt_of_le (by omega) hfuel')
    · intro v hv
      obtain ⟨key, w, rfl, hc⟩ := hitems v hv
      exact ⟨key, w, rfl, flat_of_compare hc⟩
    · intro v hv
      obtain ⟨key, w, rfl, hc⟩ := hitems v hv
      apply suits_comparisons (List.forall_mem_singleton.mpr hc)

/-- What an argument stands for as a literal one can be built, if conditions can. -/
theorem exists_direct (hr : r.Faithful) {v : Value} (h : Suits r .literal v) {fuel : Nat}
    (hfuel : 2 < fuel)
    (hcondition : ∀ entries, v = .map entries → ∃ n, build r fuel .condition v = .ok n) :
  ∃ n, build r fuel (directCall v).1 (directCall v).2 = .ok n
  := by
  have hdirect := h.direct hr
  cases v with
  | map entries => exact hcondition entries rfl
  | regex p => exact exists_flat .regex hdirect (by omega)
  | null =>
    obtain ⟨items, heq, hitems⟩ := absentOrNull_eq hr
    change ∃ n, build r fuel .disjunction absentOrNull = .ok n
    change Suits r .disjunction absentOrNull at hdirect
    rw [heq] at hdirect ⊢
    apply exists_flat_disjunction hitems hdirect.branches (by omega)
  | _ => exact exists_flat (.compare .equal) hdirect (by omega)

/-- All arguments of less depth that suit can be built in as many steps as that takes. -/
def BuildsBelow (r : Registry) (d : Nat) : Prop :=
  ∀ fuel operator v, v.depth < d → operator ≠ .arrayRecord → Suits r operator v →
    2 * d + 3 ≤ fuel → ∃ n, build r fuel operator v = .ok n

/-- A condition that suits can be built. -/
theorem exists_condition_step (hr : r.Plain) {d : Nat} (ih : BuildsBelow r d) {v : Value}
    (hv : v.depth ≤ d) (h : Suits r .condition v) {fuel : Nat} (hfuel : 2 * d + 4 ≤ fuel) :
  ∃ n, build r fuel .condition v = .ok n
  := by
  obtain ⟨entries, rfl⟩ := h.map
  obtain ⟨fuel, rfl⟩ := Nat.exists_eq_add_of_le' (Nat.lt_of_lt_of_le (Nat.succ_pos _) hfuel)
  apply exists_condition
  intro e he
  apply exists_entryNode
  intro fuel' hfuel'
  have hdepth := Nat.lt_of_lt_of_le (Value.depth_lt_of_mem he) hv
  apply ih fuel' _ _ hdepth (hr.operatorFor_ne_arrayRecord e.1) (h.entries e he) (by omega)

/-- What suits an operator can be built. -/
theorem exists_step (hr : r.Plain) {d : Nat} (ih : BuildsBelow r d) {operator : Operator} {v : Value}
    (hv : v.depth ≤ d) (hne : operator ≠ .arrayRecord) (h : Suits r operator v) {fuel : Nat}
    (hfuel : 2 * d + 5 ≤ fuel) :
  ∃ n, build r fuel operator v = .ok n
  := by
  obtain ⟨fuel, rfl⟩ := Nat.exists_eq_add_of_le' (Nat.lt_of_lt_of_le (Nat.succ_pos _) hfuel)
  have hliteral : ∀ {operator role}, Role.Of operator role → Suits r operator v →
      ∃ n, build r (fuel + 1) operator v = .ok n := by
    intro operator role hrole h
    have hdirect := h.of_role hrole .literal
    have hcondition : ∀ entries, v = .map entries → ∃ n, build r fuel .condition v = .ok n := by
      rintro entries rfl
      apply exists_condition_step hr ih hv (hdirect.direct hr.faithful) (by omega)
    obtain ⟨m, hm⟩ := exists_direct hr.faithful hdirect (by omega) hcondition
    rw [← directNode_eq (build r fuel)] at hm
    exact ⟨_, build_of_built (.literal hrole hm)⟩
  cases h with
  | compare c => exact exists_flat (.compare c) (.compare c v) (Nat.succ_pos fuel)
  | existence b => exact exists_flat .existence (.existence b) (Nat.succ_pos fuel)
  | presence b => exact ⟨_, build_of_built (.leaf (.presence b))⟩
  | regex h => exact exists_flat .regex (.regex h) (Nat.succ_pos fuel)
  | items negated items => exact ⟨_, build_of_built (.leaf (.member negated items))⟩
  | range negated start stop exclusive =>
    have hfuel : 3 < fuel := by omega
    obtain ⟨m, hm⟩ := exists_bounds hr.faithful negated exclusive start stop hfuel
    exact ⟨_, build_of_built (.within hm)⟩
  | @conjunction items h =>
    have hnodes : ∀ w ∈ items, ∃ ns, entryNodes r (build r fuel) w = .ok ns := by
      intro w hw
      obtain ⟨entries, rfl⟩ := (h w hw).map
      have hentries : ∀ e ∈ entries, ∃ n, entryNode r (build r fuel) e.1 e.2 = .ok n := by
        intro e he
        apply exists_entryNode
        intro fuel' hfuel'
        have hentry := Value.depth_lt_of_mem he
        have hitem := Value.depth_lt_of_mem_items hw
        apply ih fuel' _ _ (by omega) (hr.operatorFor_ne_arrayRecord e.1) ((h _ hw).entries e he)
          (by omega)
      obtain ⟨nodes, hnodes⟩ := exists_forall₂ hentries
      exact ⟨_, entryNodes_eq_ok_iff.mpr ⟨entries, nodes, rfl, rfl, hnodes⟩⟩
    obtain ⟨nodes, hnodes⟩ := exists_forall₂ hnodes
    exact ⟨_, build_of_built (.conjunction (fun w hw => (h w hw).isMap) hnodes)⟩
  | @disjunction items h =>
    have hnodes : ∀ w ∈ items, ∃ n, build r fuel .condition w = .ok n := by
      intro w hw
      have hdepth := Nat.lt_of_lt_of_le (Value.depth_lt_of_mem_items hw) hv
      apply ih fuel _ w hdepth (by simp) (h w hw) (by omega)
    obtain ⟨nodes, hnodes⟩ := exists_forall₂ hnodes
    exact ⟨_, build_of_built (.disjunction (fun w hw => (h w hw).isMap) hnodes)⟩
  | elements quantifier h =>
    have hfuel : 2 * d + 4 ≤ fuel := by omega
    obtain ⟨m, hm⟩ := exists_condition_step hr ih hv h hfuel
    exact ⟨_, build_of_built (.elements hm)⟩
  | plain hrole hmap => exact hliteral hrole (.plain hrole hmap)
  | literal hrole h => exact hliteral hrole (.literal hrole h)
  | condition h => exact exists_condition_step hr ih hv (.condition h) (by omega)
  | arrayRecord => exact absurd rfl hne
  | extension h => exact ⟨_, build_of_built (.leaf (.probe h))⟩

theorem buildsBelow (hr : r.Plain) (d : Nat) :
  BuildsBelow r d
  := by
  induction d with
  | zero =>
    intro fuel operator v hv
    cases hv
  | succ d ih =>
    intro fuel operator v hv hne h hfuel
    apply exists_step hr ih (Nat.le_of_lt_succ hv) hne h (by omega)

/-- A condition on elements whose only key is that of a flat operator can be built in three steps. -/
theorem exists_flat_element {key : String} {v : Value} (hflat : Flat r key)
    (h : Suits r (.elements .any) (.map [(key, v)])) {fuel : Nat} (hfuel : 2 < fuel) :
  ∃ n, build r fuel (.elements .any) (.map [(key, v)]) = .ok n
  := by
  obtain ⟨fuel, rfl⟩ := Nat.exists_eq_add_of_le' hfuel
  have hfuel : 1 < fuel + 2 := by omega
  obtain ⟨m, hm⟩ := exists_flat_condition (List.forall_mem_singleton.mpr hflat) h.inner hfuel
  exact ⟨_, build_of_built (.elements hm)⟩

/-- The form of a literal argument for arrays can be built when the argument suits. -/
theorem exists_form (hr : r.Plain) {v : Value} (h : Suits r .literal v) {fuel : Nat}
    (hfuel : 2 * v.depth + 7 ≤ fuel) :
  ∃ n, build r fuel .arrayRecord v = .ok n
  := by
  obtain ⟨fuel, rfl⟩ := Nat.exists_eq_add_of_le' (Nat.lt_of_lt_of_le (Nat.succ_pos _) hfuel)
  have hform := h.form hr
  cases hform with
  | plain hrole => cases hrole
  | literal hrole => cases hrole
  | @arrayRecord _ calls hcalls hcalls' =>
    have hall : ∀ c ∈ calls, ∃ n, build r fuel c.1 c.2 = .ok n := by
      intro c hc
      have hsuits := hcalls' c hc
      have heq : Flat r "$eq" := hr.faithful.flat rfl (.compare .equal)
      cases v with
      | map entries =>
        obtain ⟨whole, hwhole, rfl⟩ := map_eq_ok_iff.mp hcalls
        obtain rfl := List.mem_singleton.mp hc
        obtain ⟨fuel, rfl⟩ := Nat.exists_eq_add_of_le' (show 0 < fuel by omega)
        apply exists_condition
        intro e he
        apply exists_entryNode
        intro fuel' hfuel'
        have hdepth : e.2.depth < (Value.map entries).depth + 1 := by
          obtain ⟨element, rfl, hdepth⟩ | hmem := depth_arrayCondition (Nat.le_refl _) hwhole e he
          · apply Nat.lt_succ_of_le hdepth
          · apply Nat.lt_succ_of_lt (Value.depth_lt_of_mem hmem)
        apply buildsBelow hr _ fuel' _ _ hdepth (hr.operatorFor_ne_arrayRecord e.1)
          (hsuits.entries e he) (by omega)
      | array items =>
        cases hcalls
        obtain rfl | hc := List.mem_cons.mp hc
        · apply exists_flat (.compare .equal) hsuits (by omega)
        · obtain rfl := List.mem_singleton.mp hc
          apply exists_flat_element heq hsuits (by omega)
      | regex p =>
        cases hcalls
        obtain rfl := List.mem_singleton.mp hc
        apply exists_flat_element (hr.faithful.flat rfl .regex) hsuits (by omega)
      | _ =>
        cases hcalls
        obtain rfl := List.mem_singleton.mp hc
        apply exists_flat_element heq hsuits (by omega)
    obtain ⟨nodes, hnodes⟩ := exists_forall₂ hall
    exact ⟨_, build_of_built (.arrayRecord hcalls hnodes)⟩

/-- The form of a literal argument that suits is built. -/
theorem exists_build?_arrayRecord (hr : r.Plain) {v : Value} (h : Suits r .literal v) :
  ∃ n, Operator.arrayRecord.build? r v = .ok n
  := by
  apply exists_form hr h
  have hdepth := v.depth_le_height
  unfold buildBound
  omega

end

end DocQuery
