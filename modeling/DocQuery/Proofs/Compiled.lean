import DocQuery.Proofs.Faultless
import DocQuery.Proofs.Interpreter
import DocQuery.Proofs.Keys

/-!
# Compiled conditions hold where conditions hold

The matcher of a legible condition comes to what interpreting the condition comes to, on every
record. No matcher is lost when those with equal keys are dropped, a matcher alone does what its
group would do, and forms for arrays are what they would be if they had been there from the start.
-/

namespace DocQuery

/-! ### Answers that are truth values -/

/-- Answers that are truth values come to one that decides if one of them does. -/
theorem decided_eq {decisive b : Bool} {answers : List (Except Abort Outcome)}
    (hall : ∀ a ∈ answers, ∃ b', a = .ok (.ok b') ∧ (b' = decisive → b = decisive))
    (hb : b = decisive → .ok (.ok decisive) ∈ answers) :
  decided decisive answers = .ok (.ok b)
  := by
  induction answers with
  | nil =>
    have hne : b ≠ decisive := fun h => absurd (hb h) List.not_mem_nil
    rw [decided, Bool.eq_not.mpr hne]
  | cons a rest ih =>
    obtain ⟨⟨b', rfl, hdecides⟩, hrest⟩ := List.forall_mem_cons.mp hall
    rw [decided]
    split
    · rename_i hb'
      rw [hdecides hb']
    · rename_i hb'
      apply ih hrest
      intro h
      obtain heq | hmem := List.mem_cons.mp (hb h)
      · cases heq
        exact absurd rfl hb'
      · exact hmem

/-- Answers that are truth values, taken in turn. -/
theorem decided_map {α : Type} (decisive : Bool) {xs : List α} {answer : α → Except Abort Outcome}
    {f : α → Bool} (h : ∀ x ∈ xs, answer x = .ok (.ok (f x))) :
  decided decisive (xs.map answer) = .ok (.ok (if decisive then xs.any f else xs.all f))
  := by
  apply decided_eq
  · rw [List.forall_mem_map]
    intro x hx
    refine ⟨f x, h x hx, ?_⟩
    intro hf
    cases decisive with
    | false => exact List.all_eq_false.mpr ⟨x, hx, by simp [hf]⟩
    | true => exact List.any_eq_true.mpr ⟨x, hx, hf⟩
  · intro hb
    rw [List.mem_map]
    cases decisive with
    | false =>
      obtain ⟨x, hx, hf⟩ := List.all_eq_false.mp hb
      refine ⟨x, hx, ?_⟩
      rw [h x hx, Bool.eq_false_iff.mpr hf]
    | true =>
      obtain ⟨x, hx, hf⟩ := List.any_eq_true.mp hb
      exact ⟨x, hx, by rw [h x hx, hf]⟩

/-! ### Matchers that settle -/

/-- The matcher has so many levels, and all forms for arrays in it can be built. -/
def Node.Unfolds (k : Nat) (n : Node) : Prop :=
  n.Fits Registry.core Registry.core.HasLeaf
    (fun a => ∃ m, Operator.arrayRecord.build? Registry.core a = .ok m) k

/-- The matcher comes to a truth value on a record in as many steps as it has levels. -/
def Node.Settles (c : Context) (n : Node) (record : Value) (b : Bool) : Prop :=
  ∀ k, n.Unfolds k → n.verdict c k record = .ok (.ok b)

section

variable {c : Context} {record : Value}

theorem settles_leaf {l : Leaf} {b : Bool} (h : l.test c.surroundings record = .ok (.ok b)) :
  (Node.leaf l).Settles c record b
  := by
  intro k hk
  cases k with
  | zero => cases hk
  | succ k => exact h

/-- A leaf that an operator makes comes to what the operator holds. -/
theorem settles_makes {operator : Operator} {v : Value} {l : Leaf} (h : operator.Makes v l)
    (hne : ∀ x, operator ≠ .extension x) :
  (Node.leaf l).Settles c record (operator.holds c.taken v record)
  := by
  apply settles_leaf
  cases h with
  | compare c argument => rw [Operator.holds]; rfl
  | existence b => rw [Operator.holds]; rfl
  | presence b => rw [Operator.holds]; rfl
  | regex hp =>
    rw [Operator.holds, hp]
    rfl
  | member negated items => rw [Operator.holds]; rfl
  | probe => exact absurd rfl (hne _)

/-- A test of elements takes them out of the array one by one. -/
theorem settles_elements {quantifier : Quantifier} {argument : Value} {inner : Node}
    {f : Value → Bool} (h : ∀ item, inner.Settles c item (f item)) :
  (Node.elements quantifier argument inner).Settles c record (quantifier.holds c.taken record f)
  := by
  intro k hk
  cases k with
  | zero => cases hk
  | succ k =>
    cases record with
    | array items =>
      cases items with
      | nil => cases quantifier <;> rfl
      | cons item rest =>
        rw [Node.verdict, decided_map _ fun item _ => h (c.taken item) k hk]
        cases quantifier <;> rfl
    | _ => cases quantifier <;> rfl

/-- A membership test of a range tests the record, or its elements if it is an array. -/
theorem settles_within {negated : Bool} {argument : Value} {inner : Node} {f : Value → Bool}
    (h : ∀ item, inner.Settles c item (f item)) :
  (Node.within negated argument inner).Settles c record (withinHolds negated record f)
  := by
  intro k hk
  cases k with
  | zero => cases hk
  | succ k =>
    cases record with
    | array items =>
      rw [Node.verdict, decided_map _ fun item _ => h item k hk]
      cases negated <;> rfl
    | _ => exact h _ k hk

/-- A group comes to the truth value that decides it if one of its matchers does, and to the other
one if none does. -/
theorem settles_group {grouping : Grouping} {argument : Value} {nodes : List Node} {b : Bool}
    (hnodes : ∀ n ∈ nodes, ∃ b', n.Settles c record b' ∧ (b' = grouping.decisive → b = grouping.decisive))
    (hb : b = grouping.decisive → ∃ n ∈ nodes, n.Settles c record grouping.decisive) :
  (Node.group grouping argument nodes).Settles c record b
  := by
  intro k hk
  cases k with
  | zero => cases hk
  | succ k =>
    apply decided_eq
    · rw [List.forall_mem_map]
      intro n hn
      obtain ⟨b', hsettles, hdecides⟩ := hnodes n hn
      exact ⟨b', hsettles k (hk n hn), hdecides⟩
    · intro h
      obtain ⟨n, hn, hsettles⟩ := hb h
      rw [List.mem_map]
      exact ⟨n, hn, hsettles k (hk n hn)⟩

/-- A matcher alone comes to what its group would come to. -/
theorem settles_unwrap {grouping : Grouping} {argument : Value} {nodes : List Node} {b : Bool}
    (hnodes : ∀ n ∈ nodes, ∃ b', n.Settles c record b' ∧ (b' = grouping.decisive → b = grouping.decisive))
    (hb : b = grouping.decisive → ∃ n ∈ nodes, n.Settles c record grouping.decisive) :
  (unwrap nodes (.group grouping argument)).Settles c record b
  := by
  unfold unwrap
  split
  · rename_i n
    obtain ⟨b', hn, hdecides⟩ := hnodes n (List.mem_singleton_self n)
    by_cases hdecided : b = grouping.decisive
    · obtain ⟨m, hm, hdecisive⟩ := hb hdecided
      rw [hdecided]
      rwa [List.mem_singleton.mp hm] at hdecisive
    · have hother : b' = b := by
        rw [Bool.eq_not.mpr hdecided]
        apply Bool.eq_not.mpr fun h => hdecided (hdecides h)
      rwa [hother] at hn
  · exact settles_group hnodes hb

/-- What comes of a group of which matchers with keys seen before are dropped comes to what the group
of all would come to. -/
theorem settles_distinct (heap : Heap) {grouping : Grouping} {argument : Value} {nodes : List Node}
    {b : Bool} (horiginal : ∀ n ∈ nodes, n.Original Registry.core heap)
    (hnodes : ∀ n ∈ nodes, ∃ b', n.Settles c record b' ∧ (b' = grouping.decisive → b = grouping.decisive))
    (hb : b = grouping.decisive → ∃ n ∈ nodes, n.Settles c record grouping.decisive) :
  (unwrap (distinct nodes) (.group grouping argument)).Settles c record b
  := by
  have hmem : ∀ {n}, n ∈ distinct nodes ↔ n ∈ nodes :=
    mem_distinct_iff Registry.usual_core horiginal
  exact settles_unwrap (fun n hn => hnodes n (hmem.mp hn))
    fun h => (hb h).imp fun n hn => ⟨hmem.mpr hn.1, hn.2⟩

/-- The matcher for a literal argument comes to what the matcher for the kind of the record comes
to. -/
theorem settles_whole (hc : c.engine.registry = Registry.core) {argument : Value} {direct : Node}
    {form : Form} {b : Bool} (hdirect : record.isArray = false → direct.Settles c record b)
    (harray : record.isArray → ∀ m, Operator.arrayRecord.build? Registry.core argument = .ok m →
      m.Settles c record b) :
  (Node.literal .whole argument direct form).Settles c record b
  := by
  intro k hk
  cases k with
  | zero => cases hk
  | succ k =>
    obtain ⟨⟨m, hm⟩, hfits, hform⟩ := hk
    rw [Node.verdict]
    cases record with
    | array items =>
      dsimp only [Role.subject?]
      rw [hc, hm]
      dsimp only
      rw [harray rfl m hm k (hform m hm)]
      rfl
    | _ =>
      dsimp only [Role.subject?]
      rw [hdirect rfl k hfits]
      rfl

/-- What a literal argument holds in a role, given what it holds as a whole. -/
def Role.holds (c : Context) (record : Value) (test : Value → Bool) (role : Role) : Bool :=
  match role.subject? c record with
  | some x => if role = .negation then !test x else test x
  | none => false

theorem Role.holds_size (c : Context) (record : Value) (test : Value → Bool) :
  Role.size.holds c record test
    = match record.asArray? with
      | some items => test (.ofInt items.length)
      | none => false
  := by
  rw [holds, subject?]
  cases record.asArray? <;> rfl

/-- A literal argument in a role comes to what it comes to on the value that the role looks at. -/
theorem settles_role {role : Role} {argument : Value} {direct : Node} {form : Form}
    {test : Value → Bool}
    (h : ∀ x, (Node.literal .whole argument direct .unbuilt).Settles c x (test x)) :
  (Node.literal role argument direct form).Settles c record (role.holds c record test)
  := by
  intro k hk
  cases k with
  | zero => cases hk
  | succ k =>
    rw [Node.verdict_literal, Role.holds]
    cases role.subject? c record with
    | none => rfl
    | some x =>
      have hwhole : (Node.literal .whole argument direct .unbuilt).Unfolds (k + 1) := hk
      dsimp only
      rw [h x (k + 1) hwhole]
      cases role <;> rfl

/-! ### Groups of conditions -/

section

variable {heap : Heap} {fuel : Nat}

/-- The matcher of a condition comes to what the condition holds if the matchers of its entries come
to what these hold. -/
theorem settles_condition {entries : Entries} (hlegible : ∀ e ∈ entries, e.2.Legible heap)
    (hentries : ∀ e ∈ entries, ∀ n, entryNode .core (build .core (fuel - 1)) e.1 e.2 = .ok n →
      n.Settles c record (entryHolds c.taken e.1 e.2 record)) {n : Node}
    (h : build .core fuel .condition (.map entries) = .ok n) :
  n.Settles c record (Operator.condition.holds c.taken (.map entries) record)
  := by
  obtain ⟨_, nodes, ⟨⟩, hnodes, rfl⟩ := entries_of_build h
  rw [holds_condition]
  apply settles_distinct heap
  · intro n hn
    obtain ⟨e, he, hentry⟩ := exists_left_of_forall₂ hnodes n hn
    apply original_entryNode (original_of_build Registry.usual_core _) (hlegible e he) hentry
  · intro n hn
    obtain ⟨e, he, hentry⟩ := exists_left_of_forall₂ hnodes n hn
    refine ⟨_, hentries e he n hentry, ?_⟩
    exact fun hfalse => List.all_eq_false.mpr ⟨e, he, by simp [hfalse, Grouping.decisive]⟩
  · intro hfalse
    obtain ⟨e, he, hholds⟩ := List.all_eq_false.mp hfalse
    obtain ⟨n, hn, hentry⟩ := exists_right_of_forall₂ hnodes e he
    refine ⟨n, hn, ?_⟩
    have hsettles := hentries e he n hentry
    rwa [Bool.eq_false_iff.mpr hholds] at hsettles

/-- The matcher of a disjunction comes to what the disjunction holds if the matchers of its branches
come to what these hold. -/
theorem settles_disjunction {items : List Value} (hlegible : ∀ v ∈ items, v.Legible heap)
    (hitems : ∀ v ∈ items, ∀ n, build .core (fuel - 1) .condition v = .ok n →
      n.Settles c record (Operator.condition.holds c.taken v record)) {n : Node}
    (h : build .core fuel .disjunction (.array items) = .ok n) :
  n.Settles c record (Operator.disjunction.holds c.taken (.array items) record)
  := by
  obtain ⟨_, nodes, ⟨⟩, hnodes, rfl⟩ := branches_of_build h
  rw [holds_disjunction]
  apply settles_distinct heap
  · intro n hn
    obtain ⟨v, hv, hbuild⟩ := exists_left_of_forall₂ hnodes n hn
    apply original_of_build Registry.usual_core _ _ _ _ _ (hlegible v hv) hbuild
    apply Registry.offers_of_ne (by simp)
  · intro n hn
    obtain ⟨v, hv, hbuild⟩ := exists_left_of_forall₂ hnodes n hn
    refine ⟨_, hitems v hv n hbuild, ?_⟩
    exact fun htrue => List.any_eq_true.mpr ⟨v, hv, htrue⟩
  · intro htrue
    obtain ⟨v, hv, hholds⟩ := List.any_eq_true.mp htrue
    obtain ⟨n, hn, hbuild⟩ := exists_right_of_forall₂ hnodes v hv
    refine ⟨n, hn, ?_⟩
    have hsettles := hitems v hv n hbuild
    rwa [hholds] at hsettles

section

variable {items : List Value} {nodes : List (List Node)} (hlegible : ∀ v ∈ items, v.Legible heap)
  (hnodes : List.Forall₂ (fun v ns => entryNodes .core (build .core fuel) v = .ok ns) items nodes)

include hlegible hnodes

/-- The matchers of all branches are those of the entries of all branches. -/
theorem mem_flatten_branches_iff (n : Node) :
  n ∈ nodes.flatten ↔ ∃ entries, Value.map entries ∈ items ∧ ∃ e ∈ entries,
      entryNode .core (build .core fuel) e.1 e.2 = .ok n ∧ n.Original .core heap
  := by
  have horiginal : ∀ entries, .map entries ∈ items → ∀ e ∈ entries, ∀ n,
      entryNode .core (build .core fuel) e.1 e.2 = .ok n → n.Original .core heap := by
    intro entries hmem e he n hentry
    have hv := (hlegible _ hmem).entries e he
    apply original_entryNode (original_of_build Registry.usual_core _) hv hentry
  rw [List.mem_flatten]
  constructor
  · rintro ⟨ns, hns, hn⟩
    obtain ⟨v, hv, hbranch⟩ := exists_left_of_forall₂ hnodes ns hns
    obtain ⟨entries, nodes', rfl, rfl, hentries⟩ := entryNodes_eq_ok_iff.mp hbranch
    obtain ⟨e, he, hentry⟩ := exists_left_of_forall₂ hentries n (distinct_subset _ n hn)
    exact ⟨entries, hv, e, he, hentry, horiginal entries hv e he n hentry⟩
  · rintro ⟨entries, hmem, e, he, hentry, -⟩
    obtain ⟨ns, hns, hbranch⟩ := exists_right_of_forall₂ hnodes _ hmem
    obtain ⟨_, nodes', ⟨⟩, rfl, hentries⟩ := entryNodes_eq_ok_iff.mp hbranch
    obtain ⟨m, hm, hentry'⟩ := exists_right_of_forall₂ hentries e he
    cases hentry.symm.trans hentry'
    have hnodes' : ∀ k ∈ nodes', k.Original .core heap := by
      intro k hk
      obtain ⟨d, hd, hd'⟩ := exists_left_of_forall₂ hentries k hk
      apply horiginal entries hmem d hd k hd'
    exact ⟨_, hns, (mem_distinct_iff Registry.usual_core hnodes').mpr hm⟩

/-- The matcher of a conjunction comes to what the conjunction holds if the matchers of the entries
of its branches come to what these hold. -/
theorem settles_conjunction (hitems : ∀ entries, .map entries ∈ items → ∀ e ∈ entries, ∀ n,
      entryNode .core (build .core fuel) e.1 e.2 = .ok n →
        n.Settles c record (entryHolds c.taken e.1 e.2 record)) :
  (unwrap (distinct nodes.flatten) (.group .conjunction (.array items))).Settles c record
    (Operator.conjunction.holds c.taken (.array items) record)
  := by
  have hflatten := mem_flatten_branches_iff hlegible hnodes
  rw [holds_conjunction]
  apply settles_distinct heap
  · intro n hn
    obtain ⟨-, -, -, -, -, horiginal⟩ := (hflatten n).mp hn
    exact horiginal
  · intro n hn
    obtain ⟨entries, hmem, e, he, hentry, -⟩ := (hflatten n).mp hn
    refine ⟨_, hitems entries hmem e he n hentry, ?_⟩
    intro hfalse
    have hbranch : Operator.condition.holds c.taken (.map entries) record = false := by
      rw [holds_condition]
      apply List.all_eq_false.mpr ⟨e, he, by simp [hfalse, Grouping.decisive]⟩
    apply List.all_eq_false.mpr ⟨_, hmem, by simp [hbranch]⟩
  · intro hfalse
    obtain ⟨v, hv, hbranch⟩ := List.all_eq_false.mp hfalse
    obtain ⟨ns, hns, hentries⟩ := exists_right_of_forall₂ hnodes v hv
    obtain ⟨entries, nodes', rfl, -, hnodes'⟩ := entryNodes_eq_ok_iff.mp hentries
    rw [holds_condition] at hbranch
    obtain ⟨e, he, hholds⟩ := List.all_eq_false.mp (Bool.eq_false_iff.mpr hbranch)
    obtain ⟨n, -, hentry⟩ := exists_right_of_forall₂ hnodes' e he
    have hv' := (hlegible _ hv).entries e he
    have horiginal := original_entryNode (original_of_build Registry.usual_core _) hv' hentry
    refine ⟨n, (hflatten n).mpr ⟨entries, hv, e, he, hentry, horiginal⟩, ?_⟩
    have hsettles := hitems entries hv e he n hentry
    rwa [Bool.eq_false_iff.mpr hholds] at hsettles

end

/-! ### Conditions of flat operators -/

theorem entryHolds_of_lookup {key : String} {e : RegistryEntry}
    (h : Registry.core.lookup? key = some e) (taken : Value → Value) (v record : Value) :
  entryHolds taken key v record = e.operator.holds taken v record
  := by
  rw [entryHolds]
  split
  · rename_i e' h'
    cases h.symm.trans h'
    rfl
  · rename_i h'
    cases h.symm.trans h'

/-- An entry whose key is no operator holds of a record if its value, taken literally, holds of the field. -/
theorem entryHolds_of_none {key : String} (h : Registry.core.lookup? key = none)
    (taken : Value → Value) (v record : Value) :
  entryHolds taken key v record
    = (record.dig? key).any fun x => Operator.literal.holds taken v (taken x)
  := by
  rw [entryHolds]
  split
  · rename_i h'
    cases h.symm.trans h'
  · cases record.dig? key <;> rfl

/-- The same goes for a condition on one field. -/
theorem holds_field {field : String} (h : Registry.core.lookup? field = none) (taken : Value → Value)
    (v record : Value) :
  Operator.condition.holds taken (.map [(field, v)]) record
    = (record.dig? field).any fun x => Operator.literal.holds taken v (taken x)
  := (holds_condition_singleton taken record field v).trans (entryHolds_of_none h taken v record)

/-- The matcher for an entry of a flat operator comes to what the entry holds. -/
theorem settles_flat_entry {key : String} (hflat : Flat .core key) {v : Value} {n : Node}
    (h : entryNode .core (build .core fuel) key v = .ok n) :
  n.Settles c record (entryHolds c.taken key v record)
  := by
  obtain ⟨e, he, hbuild⟩ | ⟨hnone, -⟩ := entryNode_eq_ok_iff.mp h
  · rw [Flat, Registry.operatorFor_of_lookup he] at hflat
    obtain ⟨l, rfl, hmakes⟩ := leaf_of_flat hflat hbuild
    rw [entryHolds_of_lookup he]
    apply settles_makes hmakes
    rintro x hx
    rw [hx] at hflat
    cases hflat
  · rw [Flat, Registry.operatorFor_of_none hnone] at hflat
    cases hflat

/-- The matcher of a condition of flat operators comes to what the condition holds. -/
theorem settles_flat_condition {entries : Entries} (hlegible : ∀ e ∈ entries, e.2.Legible heap)
    (hflat : ∀ e ∈ entries, Flat .core e.1) {n : Node}
    (h : build .core fuel .condition (.map entries) = .ok n) :
  n.Settles c record (Operator.condition.holds c.taken (.map entries) record)
  := by
  apply settles_condition hlegible _ h
  intro e he n hentry
  apply settles_flat_entry (hflat e he) hentry

/-- The matcher of a disjunction of such conditions comes to what the disjunction holds. -/
theorem settles_flat_disjunction {items : List Value} (hlegible : ∀ v ∈ items, v.Legible heap)
    (hflat : ∀ v ∈ items, ∃ key w, v = .map [(key, w)] ∧ Flat .core key) {n : Node}
    (h : build .core fuel .disjunction (.array items) = .ok n) :
  n.Settles c record (Operator.disjunction.holds c.taken (.array items) record)
  := by
  apply settles_disjunction hlegible _ h
  intro v hv n hbuild
  obtain ⟨key, w, rfl, hkey⟩ := hflat v hv
  apply settles_flat_condition (hlegible _ hv).entries _ hbuild
  exact List.forall_mem_singleton.mpr hkey

/-- The matcher of an element of an array that satisfies a flat operator comes to what such an element
takes. -/
theorem settles_flat_element {key : String} (hflat : Flat .core key) {v : Value}
    (hv : v.Legible heap) {n : Node}
    (h : build .core fuel (.elements .any) (.map [(key, v)]) = .ok n) :
  n.Settles c record (Quantifier.any.holds c.taken record fun item => entryHolds c.taken key v item)
  := by
  obtain ⟨m, hm, rfl, -⟩ := inner_of_build h
  apply settles_elements
  intro item
  have hsettles : m.Settles c item _ := settles_flat_condition (List.forall_mem_singleton.mpr hv)
    (List.forall_mem_singleton.mpr hflat) hm
  rwa [holds_condition_singleton] at hsettles

/-! ### Conditions that are made on the way -/

theorem entryHolds_of_operator {key : String} (operator : Operator)
    (h : (Registry.core.lookup? key).map RegistryEntry.operator = some operator)
    (taken : Value → Value) (v record : Value) :
  entryHolds taken key v record = operator.holds taken v record
  := by
  obtain ⟨e, he, rfl⟩ := Option.map_eq_some_iff.mp h
  apply entryHolds_of_lookup he

theorem entryHolds_compare {key : String} {comparison : Comparison}
    (h : (Registry.core.lookup? key).map RegistryEntry.operator = some (.compare comparison))
    (taken : Value → Value) (v record : Value) :
  entryHolds taken key v record = comparison.holds record.orNull v
  := by
  rw [entryHolds_of_operator _ h, Operator.holds]

theorem entryHolds_equal (taken : Value → Value) (v record : Value) :
  entryHolds taken "$eq" v record = Comparison.equal.holds record.orNull v
  := entryHolds_compare rfl taken v record

/-- The condition of being null or not being there holds where it should. -/
theorem holds_absentOrNull (taken : Value → Value) (record : Value) :
  Operator.disjunction.holds taken absentOrNull record
    = (record.isMissing || Comparison.equal.holds record.orNull .null)
  := by
  have hexists : entryHolds taken "$exists" (.bool false) record = record.isMissing := by
    rw [entryHolds_of_operator .existence rfl, Operator.holds]
    simp
  rw [absentOrNull, holds_disjunction]
  simp [holds_condition, hexists, entryHolds_equal]

/-! ### Comparisons with the ends of ranges -/

/-- The key of a comparison. -/
def Comparison.key : Comparison → String
  | equal => "$eq"
  | notEqual => "$ne"
  | greater => "$gt"
  | greaterOrEqual => "$gte"
  | less => "$lt"
  | lessOrEqual => "$lte"

theorem Comparison.operatorFor_key (comparison : Comparison) :
  Registry.core.operatorFor comparison.key = .compare comparison
  := by
  cases comparison <;> rfl

/-- The comparisons with the ends of a range of which a value that lies in it satisfies all, or a value that
lies outside it satisfies one. -/
def boundComparisons (negated : Bool) (start stop : Option Value) (exclusive : Bool) :
    List (Comparison × Value) :=
  if negated then
    (start.map (Comparison.less, ·)).toList
      ++ (stop.map (if exclusive then Comparison.greaterOrEqual else .greater, ·)).toList
  else
    (start.map (Comparison.greaterOrEqual, ·)).toList
      ++ (stop.map (if exclusive then Comparison.less else .lessOrEqual, ·)).toList

section

variable (negated : Bool) (start stop : Option Value) (exclusive : Bool)

theorem nodup_boundComparisons :
  ((boundComparisons negated start stop exclusive).map Prod.fst).Nodup
  := by
  cases negated <;> cases start <;> cases stop <;> cases exclusive <;> simp [boundComparisons]

theorem boundsHold_eq (record : Value) :
  boundsHold negated start stop exclusive record
    = if negated then
        (boundComparisons negated start stop exclusive).any fun x => x.1.holds record.orNull x.2
      else
        (boundComparisons negated start stop exclusive).all fun x => x.1.holds record.orNull x.2
  := by
  cases negated <;> cases start <;> cases stop <;> simp [boundComparisons, boundsHold]

theorem insideRange_eq :
  insideRange start stop exclusive
    = .map ((boundComparisons false start stop exclusive).map fun x => (x.1.key, x.2))
  := by
  cases start <;> cases stop <;> cases exclusive <;> rfl

theorem outsideRange_eq :
  outsideRange start stop exclusive
    = .map [("$or", .array
        ((boundComparisons true start stop exclusive).map fun x => .map [(x.1.key, x.2)]))]
  := by
  cases start <;> cases stop <;> cases exclusive <;> rfl

end

/-- The matcher that compares a record with a value. -/
def comparisonNode (x : Comparison × Value) : Node := .leaf (.compare x.1 x.2)

/-- Matchers with equal keys compare in the same way. -/
theorem comparison_eq_of_key_eq {x y : Comparison × Value}
    (h : (comparisonNode x).key = (comparisonNode y).key) :
  x.1 = y.1
  := by
  obtain ⟨-, hoperator, -⟩ := Node.call_of_key_eq (n := comparisonNode x) (m := comparisonNode y) rfl rfl
    (by simp) (by simp) h
  exact Operator.compare.inj hoperator

section

variable {xs : List (Comparison × Value)}

/-- The matcher for an entry of a comparison compares with its value. -/
theorem comparisonNode_of_entryNode {x : Comparison × Value} {n : Node}
    (h : entryNode .core (build .core fuel) x.1.key x.2 = .ok n) :
  n = comparisonNode x
  := by
  have hbuild := build_of_entryNode x.1.operatorFor_key (by simp) h
  cases fuel with
  | zero => cases hbuild
  | succ fuel =>
    cases hbuild
    rfl

/-- The matchers that are made one by one of comparisons compare with their values. -/
theorem eq_map_comparisonNode {α : Type} {R : α → Node → Prop} {f : Comparison × Value → α}
    (hR : ∀ x n, R (f x) n → n = comparisonNode x) {nodes : List Node}
    (h : List.Forall₂ R (xs.map f) nodes) :
  nodes = xs.map comparisonNode
  := by
  rw [List.forall₂_map_left_iff] at h
  induction h with
  | nil => rfl
  | cons hx _ ih => rw [hR _ _ hx, ih, List.map_cons]

/-- Of comparisons that are made in different ways none is dropped, and they come to whether all of them
hold, or one. -/
theorem settles_comparisons (hxs : (xs.map Prod.fst).Nodup) {grouping : Grouping} {argument : Value} :
  (unwrap (distinct (xs.map comparisonNode)) (.group grouping argument)).Settles c record
    (if grouping.decisive then xs.any fun x => x.1.holds record.orNull x.2
      else xs.all fun x => x.1.holds record.orNull x.2)
  := by
  have hkeys : ((xs.map comparisonNode).map Node.key).Nodup := by
    rw [List.map_map]
    apply List.pairwise_map.mpr
    apply (List.pairwise_map.mp hxs).imp
    exact fun hne hkey => hne (comparison_eq_of_key_eq hkey)
  have hnode : ∀ x : Comparison × Value,
      (comparisonNode x).Settles c record (x.1.holds record.orNull x.2) := fun _ => settles_leaf rfl
  rw [distinct_of_nodup hkeys]
  cases hdecisive : grouping.decisive with
  | false =>
    apply settles_unwrap
    · rw [List.forall_mem_map, hdecisive]
      intro x hx
      refine ⟨_, hnode x, ?_⟩
      exact fun hfalse => List.all_eq_false.mpr ⟨x, hx, by simp [hfalse]⟩
    · rw [hdecisive]
      intro hfalse
      obtain ⟨x, hx, hholds⟩ := List.all_eq_false.mp hfalse
      refine ⟨_, List.mem_map_of_mem hx, ?_⟩
      rw [← Bool.eq_false_iff.mpr hholds]
      exact hnode x
  | true =>
    apply settles_unwrap
    · rw [List.forall_mem_map, hdecisive]
      intro x hx
      refine ⟨_, hnode x, ?_⟩
      exact fun htrue => List.any_eq_true.mpr ⟨x, hx, htrue⟩
    · rw [hdecisive]
      intro htrue
      obtain ⟨x, hx, hholds⟩ := List.any_eq_true.mp htrue
      refine ⟨_, List.mem_map_of_mem hx, ?_⟩
      rw [← hholds]
      exact hnode x

end

/-- The matcher of the condition that a membership test of a range stands for comes to how the record
compares with the ends of the range. -/
theorem settles_bounds {negated : Bool} {start stop : Option Value} {exclusive : Bool} {n : Node}
    (h : build .core fuel .condition (bounds negated start stop exclusive) = .ok n) :
  n.Settles c record (boundsHold negated start stop exclusive record)
  := by
  rw [boundsHold_eq]
  have hnodup := nodup_boundComparisons negated start stop exclusive
  cases negated with
  | false =>
    rw [bounds, if_neg (by simp), insideRange_eq] at h
    obtain ⟨_, nodes, ⟨⟩, hnodes, rfl⟩ := entries_of_build h
    rw [eq_map_comparisonNode (fun x n => comparisonNode_of_entryNode) hnodes]
    apply settles_comparisons hnodup
  | true =>
    rw [bounds, if_pos rfl, outsideRange_eq] at h
    have hkey : Registry.core.operatorFor "$or" = .disjunction := rfl
    have hbuild := build_of_entryNode hkey (by simp) (entry_of_build h)
    obtain ⟨_, nodes, ⟨⟩, hnodes, rfl⟩ := branches_of_build hbuild
    rw [eq_map_comparisonNode (fun x n hn => comparisonNode_of_entryNode (entry_of_build hn)) hnodes]
    apply settles_comparisons hnodup

/-! ### All that is built -/

/-- All that is built of legible arguments, with an operator of less weight, comes to what its
operator holds. -/
def SettlesBelow (c : Context) (heap : Heap) (w : Nat) : Prop :=
  ∀ fuel operator v n, operator.weight v < w → Registry.core.Offers operator → v.Legible heap →
    build .core fuel operator v = .ok n →
      ∀ record, n.Settles c record (operator.holds c.taken v record)

variable {w : Nat}

/-- The matcher for an entry comes to what the entry holds. -/
theorem settles_entry (ih : SettlesBelow c heap w) {key : String} {v : Value} (hv : v.Legible heap)
    (hw : (Registry.core.operatorFor key).weight v < w) {n : Node}
    (h : entryNode .core (build .core fuel) key v = .ok n) :
  n.Settles c record (entryHolds c.taken key v record)
  := by
  obtain ⟨e, he, hbuild⟩ | ⟨hnone, m, hm, rfl⟩ := entryNode_eq_ok_iff.mp h
  · rw [Registry.operatorFor_of_lookup he] at hw
    rw [entryHolds_of_lookup he]
    apply ih fuel e.operator v n hw (Registry.offers_of_lookup he) hv hbuild record
  · rw [Registry.operatorFor_of_none hnone] at hw
    have hwhole := ih (fuel + 1) .literal v _ hw (Registry.offers_of_ne (by simp)) hv
      (build_literal hm)
    have hsettles : (Node.literal (.field key) v m .unbuilt).Settles c record _ :=
      settles_role hwhole
    have hholds : (Role.field key).holds c record (Operator.literal.holds c.taken v)
        = entryHolds c.taken key v record := by
      rw [entryHolds]
      split
      · rename_i e he
        cases hnone.symm.trans he
      · rw [Role.holds, Role.subject?]
        cases record.dig? key <;> rfl
    rwa [hholds] at hsettles

/-- The matcher of a literal argument comes to what the argument holds by the kind of the record. -/
theorem settles_literal (hc : c.engine.registry = Registry.core) {v : Value}
    (ih : SettlesBelow c heap (Operator.literal.weight v)) (hv : v.Legible heap) {n : Node}
    (h : build .core fuel (directCall v).1 (directCall v).2 = .ok n) (form : Form) :
  (Node.literal .whole v n form).Settles c record (Operator.literal.holds c.taken v record)
  := by
  apply settles_whole hc
  · intro hrecord
    rw [holds_literal_of_not_isArray _ _ (Bool.eq_false_iff.mp hrecord)]
    have hflat : ∀ operator : Operator, operator.Flat → build .core fuel operator v = .ok n →
        n.Settles c record (operator.holds c.taken v record) := by
      intro operator hflat hbuild
      obtain ⟨l, rfl, hmakes⟩ := leaf_of_flat hflat hbuild
      apply settles_makes hmakes
      rintro x rfl
      cases hflat
    cases v with
    | map entries =>
      apply ih fuel .condition _ n (by simp [Operator.weight, Operator.rank])
        (Registry.offers_of_ne (by simp)) hv h record
    | regex p =>
      have hsettles := hflat .regex .regex h
      rwa [Operator.holds] at hsettles
    | null =>
      obtain ⟨items, heq, hitems⟩ := absentOrNull_eq Engine.core_sound.faithful
      have hlegible := legible_absentOrNull heap
      rw [← holds_absentOrNull c.taken]
      change build .core fuel .disjunction absentOrNull = .ok n at h
      rw [heq] at h hlegible ⊢
      apply settles_flat_disjunction hlegible.items hitems h
    | _ =>
      have hsettles := hflat (.compare .equal) (.compare .equal) h
      rwa [Operator.holds] at hsettles
  · intro hrecord m hm
    rw [holds_literal_of_isArray _ _ hrecord]
    apply ih _ .arrayRecord v m (by simp [Operator.weight, Operator.rank])
      (Registry.offers_of_ne (by simp)) hv hm record

/-- The matcher for an array, as a whole or as an element, comes to whether one of both is equal to
it. -/
theorem settles_array_or_element {items : List Value} (hv : (Value.array items).Legible heap)
    {n m : Node} (hn : build .core fuel (.compare .equal) (.array items) = .ok n)
    (hm : build .core fuel (.elements .any) (.map [("$eq", .array items)]) = .ok m) :
  (unwrap (distinct [n, m]) (.group .arrayRecord (.array items))).Settles c record
    (Comparison.equal.holds record.orNull (.array items)
      || Quantifier.any.holds c.taken record fun item =>
        Comparison.equal.holds item.orNull (.array items))
  := by
  have hequal : Flat .core "$eq" := Engine.core_sound.faithful.flat rfl (.compare .equal)
  have hwhole : n.Settles c record (Comparison.equal.holds record.orNull (.array items)) := by
    obtain ⟨l, rfl, hmakes⟩ := leaf_of_flat (.compare .equal) hn
    have hsettles : (Node.leaf l).Settles c record _ := settles_makes hmakes (by simp)
    rwa [Operator.holds] at hsettles
  have helement : m.Settles c record _ := settles_flat_element hequal hv hm
  simp only [entryHolds_equal] at helement
  have horiginal : n.Original .core heap ∧ m.Original .core heap := by
    constructor
    · apply original_of_build Registry.usual_core _ (.compare .equal) _ n
        (Registry.offers_of_ne (by simp)) hv hn
    · apply original_of_build Registry.usual_core _ (.elements .any) _ m
        (Registry.offers_of_ne (by simp)) (Value.legible_singleton hv "$eq") hm
  apply settles_distinct heap
  · simpa using horiginal
  · refine List.forall_mem_cons.mpr ⟨⟨_, hwhole, ?_⟩, List.forall_mem_singleton.mpr ⟨_, helement, ?_⟩⟩
    · intro h
      rw [h]
      rfl
    · intro h
      rw [h, Grouping.decisive, Bool.or_true]
  · intro h
    obtain h | h := Bool.or_eq_true_iff.mp h
    · rw [h] at hwhole
      exact ⟨n, List.mem_cons_self, hwhole⟩
    · rw [h] at helement
      exact ⟨m, List.mem_cons_of_mem _ (List.mem_singleton_self m), helement⟩

/-- The form of a literal argument for arrays comes to what the argument holds for arrays. -/
theorem settles_arrayRecord {v : Value} (ih : SettlesBelow c heap (Operator.arrayRecord.weight v))
    (hv : v.Legible heap) {n : Node} (h : build .core fuel .arrayRecord v = .ok n) :
  n.Settles c record (Operator.arrayRecord.holds c.taken v record)
  := by
  have hequal : Flat .core "$eq" := Engine.core_sound.faithful.flat rfl (.compare .equal)
  obtain ⟨calls, nodes, hcalls, hnodes, rfl⟩ := calls_of_build h
  cases v with
  | map entries =>
    obtain ⟨whole, hwhole, rfl⟩ := map_eq_ok_iff.mp hcalls
    obtain ⟨n, hn, rfl⟩ := exists_singleton_of_forall₂ hnodes
    have hlegible := Value.Legible.arrayCondition hv.entries hwhole
    rw [holds_arrayRecord _ _ hwhole, ← holds_condition]
    apply settles_condition hlegible _ hn
    intro e he m hentry
    have hw := Operator.weight_whole_lt hwhole he
    apply settles_entry ih (hlegible e he) (Nat.lt_of_succ_lt hw) hentry
  | regex p =>
    cases hcalls
    obtain ⟨n, hn, rfl⟩ := exists_singleton_of_forall₂ hnodes
    have hregex : Flat .core "$regex" := Engine.core_sound.faithful.flat rfl .regex
    have hpattern : ∀ item, entryHolds c.taken "$regex" (.regex p) item
        = item.asString?.any p.isMatch := by
      intro item
      rw [entryHolds_of_operator .regex rfl, Operator.holds]
      rfl
    have hsettles : n.Settles c record _ := settles_flat_element hregex hv hn
    rw [Operator.holds]
    simpa only [hpattern, unwrap_distinct_singleton] using hsettles
  | array items =>
    cases hcalls
    obtain ⟨n, _, hn, hrest, rfl⟩ := List.forall₂_cons_left_iff.mp hnodes
    obtain ⟨m, hm, rfl⟩ := exists_singleton_of_forall₂ hrest
    rw [Operator.holds]
    apply settles_array_or_element hv hn hm
  | _ =>
    cases hcalls
    obtain ⟨n, hn, rfl⟩ := exists_singleton_of_forall₂ hnodes
    have hsettles : n.Settles c record _ := settles_flat_element hequal hv hn
    rw [Operator.holds.eq_def]
    simpa only [entryHolds_equal, unwrap_distinct_singleton] using hsettles

/-- What is built of a legible argument comes to what its operator holds, if all that has less weight
does. -/
theorem settles_step (hc : c.engine.registry = Registry.core) {operator : Operator} {v : Value}
    (ih : SettlesBelow c heap (operator.weight v)) (hoffers : Registry.core.Offers operator)
    (hv : v.Legible heap) {n : Node} (h : build .core fuel operator v = .ok n) :
  n.Settles c record (operator.holds c.taken v record)
  := by
  cases fuel with
  | zero => cases h
  | succ fuel =>
    have hbuilt := built_of_build h
    cases hbuilt with
    | leaf hmakes => exact settles_makes hmakes (Registry.usual_core.ne_extension hoffers)
    | @within negated start stop exclusive m hm =>
      rw [Operator.holds]
      apply settles_within
      intro item
      apply settles_bounds hm
    | elements hm =>
      rw [Operator.holds]
      apply settles_elements
      intro item
      apply ih fuel .condition _ _ (by simp [Operator.weight, Operator.rank])
        (Registry.offers_of_ne (by simp)) hv hm item
    | @literal _ role _ m hrole hm =>
      rw [directNode_eq] at hm
      have hwhole : Operator.literal.weight v < operator.weight v → ∀ x,
          (Node.literal .whole v m .unbuilt).Settles c x (Operator.literal.holds c.taken v x) :=
        fun hw => ih (fuel + 1) .literal v _ hw (Registry.offers_of_ne (by simp)) hv (build_literal hm)
      cases hrole with
      | literal => exact settles_literal hc ih hv hm .unbuilt
      | negation =>
        rw [Operator.holds]
        apply settles_role (hwhole (by simp [Operator.weight, Operator.rank]))
      | size =>
        have hsettles : (Node.literal .size v m .unbuilt).Settles c record _ :=
          settles_role (hwhole (by simp [Operator.weight, Operator.rank]))
        rw [Role.holds_size] at hsettles
        rw [Operator.holds]
        exact hsettles
    | condition =>
      apply settles_condition hv.entries _ h
      intro e he n hentry
      have hw := Operator.weight_lt_of_depth_lt (Registry.core.operatorFor e.1) .condition
        (Value.depth_lt_of_mem he)
      apply settles_entry ih (hv.entries e he) (Nat.lt_of_succ_lt hw) hentry
    | conjunction _ hnodes =>
      apply settles_conjunction hv.items hnodes
      intro entries hmem e he n hentry
      have hw := Operator.weight_lt_of_depth_lt (Registry.core.operatorFor e.1) .conjunction
        (Nat.lt_trans (Value.depth_lt_of_mem he) (Value.depth_lt_of_mem_items hmem))
      apply settles_entry ih ((hv.items _ hmem).entries e he) (Nat.lt_of_succ_lt hw) hentry
    | disjunction =>
      apply settles_disjunction hv.items _ h
      intro w hw n hbuild
      have hweight := Operator.weight_lt_of_depth_lt .condition .disjunction
        (Value.depth_lt_of_mem_items hw)
      apply ih _ .condition w n (Nat.lt_of_succ_lt hweight) (Registry.offers_of_ne (by simp))
        (hv.items w hw) hbuild record
    | arrayRecord => exact settles_arrayRecord ih hv h

/-- What is built of a legible argument comes to what its operator holds. -/
theorem settlesBelow (hc : c.engine.registry = Registry.core) (heap : Heap) (w : Nat) :
  SettlesBelow c heap w
  := by
  induction w with
  | zero => exact fun _ _ _ _ hw => absurd hw (Nat.not_lt_zero _)
  | succ w ih =>
    intro fuel operator v n hw hoffers hv h record
    apply settles_step hc _ hoffers hv h
    intro fuel' operator' v' n' hw'
    apply ih fuel' operator' v' n' (Nat.lt_of_lt_of_le hw' (Nat.le_of_lt_succ hw))

end

end

end DocQuery
