import DocQuery.Proofs.Unfolding

/-!
# Conditions that compare scalars

A condition compares scalars if no array and no map is compared as a whole: what is taken literally and
what has to be equal is neither, unless it is a map of further conditions, and what has to be among
given items is among scalars. This is passed on to all that is built on the way, also to what the
condition becomes on an array, so that the leaves of its matcher compare scalars.
-/

namespace DocQuery

/-- Whether the value is neither an array nor a map. -/
def Value.isScalar : Value → Bool
  | .array _ => false
  | .map _ => false
  | _ => true

mutual

/-- Whether no array and no map is compared as a whole when the operator takes the argument. -/
def Operator.comparesScalars (r : Registry) (operator : Operator) : Value → Bool
  | .map entries => match operator with
    | .compare .equal => false
    | .compare .notEqual => false
    | .elements _ => entriesCompareScalars r entries
    | .condition => entriesCompareScalars r entries
    | .negation => entriesCompareScalars r entries
    | .size => entriesCompareScalars r entries
    | .literal => entriesCompareScalars r entries
    | .arrayRecord => entriesCompareScalars r entries
    | _ => true
  | .array items => match operator with
    | .compare .equal => false
    | .compare .notEqual => false
    | .negation => false
    | .size => false
    | .literal => false
    | .arrayRecord => false
    | .member _ => items.all Value.isScalar
    | .conjunction => branchesCompareScalars r items
    | .disjunction => branchesCompareScalars r items
    | _ => true
  | _ => true
termination_by structural v => v

/-- Whether all branches compare scalars. -/
def branchesCompareScalars (r : Registry) : List Value → Bool
  | [] => true
  | v :: rest => Operator.condition.comparesScalars r v && branchesCompareScalars r rest
termination_by structural items => items

/-- Whether all entries of a condition compare scalars. -/
def entriesCompareScalars (r : Registry) : List (String × Value) → Bool
  | [] => true
  | (key, v) :: rest => (r.operatorFor key).comparesScalars r v && entriesCompareScalars r rest
termination_by structural entries => entries

end

section

variable {r : Registry}

theorem entriesCompareScalars_iff (entries : Entries) :
  entriesCompareScalars r entries ↔ ∀ e ∈ entries, (r.operatorFor e.1).comparesScalars r e.2
  := by
  induction entries with
  | nil => simp [entriesCompareScalars]
  | cons e rest ih => rw [entriesCompareScalars, Bool.and_eq_true, ih, List.forall_mem_cons]

theorem branchesCompareScalars_iff (items : List Value) :
  branchesCompareScalars r items ↔ ∀ v ∈ items, Operator.condition.comparesScalars r v
  := by
  induction items with
  | nil => simp [branchesCompareScalars]
  | cons v rest ih => rw [branchesCompareScalars, Bool.and_eq_true, ih, List.forall_mem_cons]

/-- Nothing but a scalar is compared when the argument is one. -/
theorem comparesScalars_of_isScalar {v : Value} (h : v.isScalar) (operator : Operator) :
  operator.comparesScalars r v
  := by
  cases v with
  | array items => cases h
  | map entries => cases h
  | _ => rfl

/-! ### Merging -/

/-- What compares scalars with two maps does so with their merge, if this is so for conditions. -/
theorem comparesScalars_merge_of_entries {operator : Operator} {m m' : Entries}
    (h : operator.comparesScalars r (.map m)) (h' : operator.comparesScalars r (.map m'))
    (hmerge : entriesCompareScalars r m → entriesCompareScalars r m' →
      entriesCompareScalars r (Entries.merge m m')) :
  operator.comparesScalars r (.map (Entries.merge m m'))
  := by
  cases operator with
  | compare c =>
    cases c with
    | equal => cases h
    | notEqual => cases h
    | _ => rfl
  | elements _ => exact hmerge h h'
  | condition => exact hmerge h h'
  | negation => exact hmerge h h'
  | size => exact hmerge h h'
  | literal => exact hmerge h h'
  | arrayRecord => exact hmerge h h'
  | _ => rfl

/-- The merge of two conditions that compare scalars compares scalars. -/
theorem entriesCompareScalars_merge {m m' : Entries} (h : entriesCompareScalars r m)
    (h' : entriesCompareScalars r m') :
  entriesCompareScalars r (Entries.merge m m')
  := by
  generalize hd : (Value.map m').depth = d
  induction d using Nat.strongRecOn generalizing m m' with
  | ind d ih =>
    rw [entriesCompareScalars_iff] at h h' ⊢
    apply Entries.forall_merge (P := fun key v => (r.operatorFor key).comparesScalars r v) h h'
    intro key k k' hmem hk hk'
    apply comparesScalars_merge_of_entries hk hk'
    intro hk hk'
    apply ih _ (hd ▸ Value.depth_lt_of_mem hmem) hk hk' rfl

/-! ### What is passed on -/

/-- A condition of one entry compares scalars if its entry does. -/
theorem comparesScalars_singleton {key : String} {v : Value}
    (h : (r.operatorFor key).comparesScalars r v) :
  Operator.condition.comparesScalars r (.map [(key, v)])
  := (entriesCompareScalars_iff _).mpr (List.forall_mem_singleton.mpr h)

/-- The comparisons that need an order compare nothing as a whole. -/
theorem comparesScalars_compare {c : Comparison} (h : c ≠ .equal) (h' : c ≠ .notEqual) (v : Value) :
  (Operator.compare c).comparesScalars r v
  := by
  cases c with
  | equal => exact absurd rfl h
  | notEqual => exact absurd rfl h'
  | _ => cases v <;> rfl

/-- The condition that a membership test of a range stands for compares its ends by order only. -/
theorem comparesScalars_bounds (hr : r.Faithful) (negated exclusive : Bool)
    (start stop : Option Value) :
  Operator.condition.comparesScalars r (bounds negated start stop exclusive)
  := by
  have hcompare : ∀ (key : String) (c : Comparison), c ≠ .equal → c ≠ .notEqual →
      (Registry.core.lookup? key).map RegistryEntry.operator = some (.compare c) →
      ∀ v, (r.operatorFor key).comparesScalars r v := by
    intro key c h h' hkey v
    rw [hr.operatorFor hkey]
    apply comparesScalars_compare h h'
  have hless := hcompare "$lt" .less nofun nofun rfl
  have hlessOrEqual := hcompare "$lte" .lessOrEqual nofun nofun rfl
  have hgreater := hcompare "$gt" .greater nofun nofun rfl
  have hgreaterOrEqual := hcompare "$gte" .greaterOrEqual nofun nofun rfl
  have hdisjunction : r.operatorFor "$or" = .disjunction := hr.operatorFor rfl
  cases negated
  · apply (entriesCompareScalars_iff _).mpr
    intro e he
    obtain he | he := List.mem_append.mp he
    · obtain ⟨v, -, rfl⟩ := Option.map_eq_some_iff.mp (Option.mem_toList.mp he)
      apply hgreaterOrEqual
    · obtain ⟨v, -, rfl⟩ := Option.map_eq_some_iff.mp (Option.mem_toList.mp he)
      cases exclusive
      · apply hlessOrEqual
      · apply hless
  · apply comparesScalars_singleton
    rw [hdisjunction]
    apply (branchesCompareScalars_iff _).mpr
    intro v hv
    obtain hv | hv := List.mem_append.mp hv
    · obtain ⟨w, -, rfl⟩ := Option.map_eq_some_iff.mp (Option.mem_toList.mp hv)
      apply comparesScalars_singleton (hless w)
    · obtain ⟨w, -, rfl⟩ := Option.map_eq_some_iff.mp (Option.mem_toList.mp hv)
      apply comparesScalars_singleton
      cases exclusive
      · apply hgreater
      · apply hgreaterOrEqual

/-- To be null or not to be there compares scalars. -/
theorem comparesScalars_absentOrNull :
  Operator.disjunction.comparesScalars r absentOrNull
  := by
  apply (branchesCompareScalars_iff _).mpr
  have hscalar : ∀ {key v}, v.isScalar → Operator.condition.comparesScalars r (.map [(key, v)]) :=
    fun h => comparesScalars_singleton (comparesScalars_of_isScalar h _)
  exact List.forall_mem_cons.mpr ⟨hscalar rfl, List.forall_mem_singleton.mpr (hscalar rfl)⟩

/-- A condition that compares scalars does so as it applies to an array. -/
theorem entriesCompareScalars_arrayCondition (hr : r.Faithful) {entries whole : Entries}
    (h : entriesCompareScalars r entries) (hwhole : arrayCondition r entries = .ok whole) :
  entriesCompareScalars r whole
  := by
  rw [entriesCompareScalars_iff] at h ⊢
  have hbody : ∀ body, ("$elemMatch", Value.map body) ∈ entries → entriesCompareScalars r body := by
    intro body hmem
    have hinner := h _ hmem
    rw [hr.operatorFor_elemMatch] at hinner
    exact hinner
  obtain ⟨element, helement, hkind⟩ := forall_arrayCondition
    (P := fun key v => (r.operatorFor key).comparesScalars r v)
    (fun key m m' h h' => comparesScalars_merge_of_entries h h' entriesCompareScalars_merge)
    (fun e he _ => h e he)
    (fun body hmem => (entriesCompareScalars_iff body).mp (hbody body hmem)) hwhole
  intro e he
  obtain rfl | ⟨-, hmem, -⟩ := hkind e he
  · rw [hr.operatorFor_elemMatch]
    exact (entriesCompareScalars_iff element).mpr helement
  · apply h e hmem

/-- What compares scalars passes this on to all that is built on the way. -/
theorem hereditary_comparesScalars (hr : r.Faithful) :
  Hereditary r fun operator v => operator.comparesScalars r v
  where
  entry h hmem := (entriesCompareScalars_iff _).mp h _ hmem
  literal {operator role v} hrole h := by
    cases hrole <;> cases v <;> first | rfl | exact h
  direct {v} h := by
    cases v with
    | map entries => exact h
    | array items => cases h
    | null => exact comparesScalars_absentOrNull
    | _ => rfl
  arrayRecord {v} h := by
    cases v with
    | map entries => exact h
    | array items => cases h
    | _ => rfl
  arrayCalls {v calls} h hcalls := by
    have hscalar : ∀ {key w}, w.isScalar →
        ∀ c ∈ [(Operator.elements .any, Value.map [(key, w)])], c.1.comparesScalars r c.2 :=
      fun h => List.forall_mem_singleton.mpr
        (comparesScalars_singleton (comparesScalars_of_isScalar h _))
    cases v with
    | map entries =>
      obtain ⟨whole, hwhole, rfl⟩ := map_eq_ok_iff.mp hcalls
      exact List.forall_mem_singleton.mpr (entriesCompareScalars_arrayCondition hr h hwhole)
    | array items => cases h
    | _ =>
      cases hcalls
      exact hscalar rfl
  elements h := h
  within _ := comparesScalars_bounds hr _ _ _ _
  conjunction h := (branchesCompareScalars_iff _).mp h
  disjunction h := (branchesCompareScalars_iff _).mp h

/-! ### Leaves -/

/-- The leaf compares no array and no map as a whole. -/
def Leaf.ComparesScalars : Leaf → Prop
  | .compare .equal argument => argument.isScalar
  | .compare .notEqual argument => argument.isScalar
  | .member _ items => ∀ v ∈ items, v.isScalar
  | _ => True

/-- An operator and an argument that compare scalars make leaves that do. -/
theorem Operator.Makes.comparesScalars {operator : Operator} {v : Value} {l : Leaf}
    (hl : operator.Makes v l) (h : operator.comparesScalars r v) :
  l.ComparesScalars
  := by
  cases hl with
  | compare c v =>
    cases c with
    | equal => cases v <;> first | rfl | cases h
    | notEqual => cases v <;> first | rfl | cases h
    | _ => trivial
  | member negated items => exact List.all_eq_true.mp h
  | _ => trivial

end

end DocQuery
