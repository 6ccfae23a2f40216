import DocQuery.Proofs.Elements
import DocQuery.Proofs.EqualityArguments
import DocQuery.Proofs.Forms
import DocQuery.Proofs.Outcomes

/-!
# Membership

To be no member of an array is the opposite of being a member. To lie outside a range is not quite the opposite
of lying inside: both take a comparison with the ends, and a value that does not compare with an end does
neither, unless the other end keeps it out. A membership test of null, truth values, integers and texts is a
disjunction of these values.
-/

namespace DocQuery

/-! ### Opposite comparisons -/

/-- The comparison that holds where the other one does not. -/
def Comparison.opposite : Comparison → Comparison
  | equal => notEqual
  | notEqual => equal
  | greater => lessOrEqual
  | greaterOrEqual => less
  | less => greaterOrEqual
  | lessOrEqual => greater

section

variable {comparison : Comparison} {x v : Value}

theorem Comparison.holds_eq_false_of_opposite (h : comparison.opposite.holds x v) :
  comparison.holds x v = false
  := by
  cases comparison with
  | equal | notEqual => simpa [opposite, holds] using h
  | _ =>
    simp only [opposite, holds] at h ⊢
    generalize x.compare? v = order at h ⊢
    rcases order with _ | _ | _ | _ <;> first | rfl | cases h

/-- Of values with an order one of two opposite comparisons holds. -/
theorem Comparison.holds_opposite (h : x.compare? v ≠ none) :
  comparison.opposite.holds x v = !comparison.holds x v
  := by
  cases comparison with
  | equal | notEqual => simp [opposite, holds]
  | _ =>
    simp only [opposite, holds]
    generalize x.compare? v = order at h ⊢
    rcases order with _ | _ | _ | _ <;> first | rfl | exact absurd rfl h

end

/-! ### Ranges -/

/-- The value lies neither in the range nor outside it: it does not compare with an end, and no end keeps
it out. -/
structure Unplaced (start stop : Option Value) (exclusive : Bool) (x : Value) : Prop where
  incomparable : ∃ v, (v ∈ start ∨ v ∈ stop) ∧ x.orNull.compare? v = none
  admitted : boundsHold true start stop exclusive x = false

section

variable (start stop : Option Value) (exclusive : Bool)

/-- To lie outside a range takes the opposites of the comparisons that lying inside takes. -/
theorem boundComparisons_true :
  boundComparisons true start stop exclusive
    = (boundComparisons false start stop exclusive).map fun e => (e.1.opposite, e.2)
  := by
  cases start <;> cases stop <;> cases exclusive <;> rfl

theorem mem_of_mem_boundComparisons {e : Comparison × Value}
    (h : e ∈ boundComparisons false start stop exclusive) :
  e.2 ∈ start ∨ e.2 ∈ stop
  := by
  obtain h | h := List.mem_append.mp h
  · obtain ⟨v, hv, rfl⟩ := Option.map_eq_some_iff.mp (Option.mem_toList.mp h)
    exact .inl hv
  · obtain ⟨v, hv, rfl⟩ := Option.map_eq_some_iff.mp (Option.mem_toList.mp h)
    exact .inr hv

theorem boundsHold_false_eq (x : Value) :
  boundsHold false start stop exclusive x
    = (boundComparisons false start stop exclusive).all fun e => e.1.holds x.orNull e.2
  :=
  boundsHold_eq false start stop exclusive x

theorem boundsHold_true_eq (x : Value) :
  boundsHold true start stop exclusive x
    = (boundComparisons false start stop exclusive).any fun e => e.1.opposite.holds x.orNull e.2
  := by
  rw [boundsHold_eq, if_pos rfl, boundComparisons_true, List.any_map]
  rfl

/-- A value lies outside a range exactly if it does not lie inside, unless it is unplaced. -/
theorem outside_iff (x : Value) :
  boundsHold true start stop exclusive x
    ↔ boundsHold false start stop exclusive x = false ∧ ¬Unplaced start stop exclusive x
  := by
  constructor
  · intro houtside
    refine ⟨?_, fun h => by rw [h.admitted] at houtside; cases houtside⟩
    rw [boundsHold_true_eq] at houtside
    obtain ⟨e, he, hopposite⟩ := List.any_eq_true.mp houtside
    rw [boundsHold_false_eq]
    apply List.all_eq_false.mpr ⟨e, he, _⟩
    rw [Comparison.holds_eq_false_of_opposite hopposite]
    exact Bool.false_ne_true
  · rintro ⟨hinside, hplaced⟩
    by_contra houtside
    have hcompare : ∀ v, v ∈ start ∨ v ∈ stop → x.orNull.compare? v ≠ none :=
      fun v hv hnone => hplaced ⟨⟨v, hv, hnone⟩, Bool.eq_false_iff.mpr houtside⟩
    rw [boundsHold_false_eq] at hinside
    obtain ⟨e, he, hfails⟩ := List.all_eq_false.mp hinside
    rw [boundsHold_true_eq] at houtside
    apply houtside
    apply List.any_eq_true.mpr ⟨e, he, _⟩
    rw [Comparison.holds_opposite (hcompare _ (mem_of_mem_boundComparisons _ _ _ he)),
      Bool.eq_false_iff.mpr hfails]
    rfl

end

/-! ### Membership tests -/

/-- What a membership test looks at: the elements of an array, and any other record itself. -/
def Value.parts : Value → List Value
  | .array items => items
  | record => [record]

theorem withinHolds_eq (negated : Bool) (record : Value) (test : Value → Bool) :
  withinHolds negated record test = if negated then record.parts.all test else record.parts.any test
  := by
  cases record with
  | array items => rfl
  | _ => cases negated <;> simp [withinHolds, Value.parts]

/-- The argument is a range, and of what a membership test looks at in the record something lies neither in
it nor outside. -/
def Value.Unplaces (argument record : Value) : Prop :=
  ∃ start stop exclusive, argument = .range start stop exclusive
    ∧ ∃ x ∈ record.parts, Unplaced start stop exclusive x

/-- The test for not being a member holds exactly if the test for being one does not, unless something is
unplaced. -/
theorem holds_excluded_iff {v : Value} (hv : v.isArray ∨ v.isRange) (taken : Value → Value)
    (record : Value) :
  (Operator.member true).holds taken v record
    ↔ (Operator.member false).holds taken v record = false ∧ ¬v.Unplaces record
  := by
  cases v with
  | array items =>
    have hplaced : ¬(Value.array items).Unplaces record := by
      rintro ⟨_, _, _, ⟨⟩, -⟩
    rw [Operator.holds, Operator.holds, and_iff_left hplaced]
    cases intersects record items <;> simp
  | range start stop exclusive =>
    have hunplaces : (Value.range start stop exclusive).Unplaces record
        ↔ ∃ x ∈ record.parts, Unplaced start stop exclusive x := by
      constructor
      · rintro ⟨_, _, _, ⟨⟩, h⟩
        exact h
      · exact fun h => ⟨start, stop, exclusive, rfl, h⟩
    rw [Operator.holds, Operator.holds, withinHolds_eq, withinHolds_eq, if_pos rfl, if_neg (by simp),
      hunplaces, List.all_eq_true, List.any_eq_false]
    simp only [outside_iff, Bool.not_eq_true, not_exists, not_and, ← forall₂_and]
  | _ => rcases hv with hv | hv <;> cases hv

section

variable {c : Context} {record v : Value} {fuel : Nat}

/-- The matcher of a membership test settles on what the test holds. -/
theorem settles_member {negated : Bool} {n : Node} (h : build .core fuel (.member negated) v = .ok n) :
  n.Settles c record ((Operator.member negated).holds c.taken v record)
  := by
  cases fuel with
  | zero => cases h
  | succ fuel =>
    have hbuilt := built_of_build h
    cases hbuilt with
    | leaf hmakes => exact settles_makes hmakes (by simp)
    | within hm =>
      rw [Operator.holds]
      apply settles_within
      intro item
      apply settles_bounds hm
    | literal hrole => cases hrole

/-- The operator has a matcher for the argument, and in whatever way it is evaluated on the record it comes
to the truth value. -/
def Operator.ComesTo (c : Context) (operator : Operator) (argument record : Value) (b : Bool) : Prop :=
  ∃ n, operator.build? c.engine.registry argument = .ok n
    ∧ ∀ fuel, evaluationBound argument record ≤ fuel →
      (n.evaluate c fuel record).map Prod.fst = .ok (.ok b)
        ∧ (Node.test c fuel record n).map Prod.fst = .ok (.ok b)
        ∧ ∀ t, (n.traced c fuel record t).map Prod.fst = .ok (.ok b)

theorem comesTo_of_settles {operator : Operator} (hc : c.engine = .core)
    (hoffers : Registry.core.Offers operator) {n : Node} (hn : operator.build? .core v = .ok n) {b : Bool}
    (h : n.Settles c record b) :
  operator.ComesTo c v record b
  := by
  have harises : n.Arises .core v := .compiled hoffers hn
  obtain ⟨hconsistent, hfits⟩ := Engine.core_faultless.invariant harises
  obtain ⟨b', hb'⟩ := exists_answer_core hc hconsistent hfits record
  have hvalue := Engine.core_sound.evaluate hc harises (Nat.le_refl (evaluationBound v record))
  rw [Node.answer, h _ hfits, (hb' _ (levels_le_evaluationBound v record)).1] at hvalue
  cases hvalue
  refine ⟨n, by rw [Context.registry_of_core hc]; exact hn, ?_⟩
  exact fun fuel hfuel => hb' fuel (Nat.le_trans (levels_le_evaluationBound v record) hfuel)

/-- Of an array or a range both membership tests have matchers. The one for not being a member matches
exactly if the one for being a member does not, unless something in the record lies neither in the range nor
outside it. Then it does not match either. -/
theorem exclusion_complements_membership (hc : c.engine = .core) (hv : v.isArray ∨ v.isRange)
    (record : Value) :
  ∃ included excluded, (Operator.member false).ComesTo c v record included
    ∧ (Operator.member true).ComesTo c v record excluded
    ∧ (excluded ↔ included = false ∧ ¬v.Unplaces record)
  := by
  have hsuits : ∀ negated, Suits .core (.member negated) v := by
    intro negated
    cases v with
    | array items => exact .items negated items
    | range start stop exclusive => exact .range negated start stop exclusive
    | _ => rcases hv with hv | hv <;> cases hv
  have hcomes : ∀ negated, (Operator.member negated).ComesTo c v record
      ((Operator.member negated).holds c.taken v record) := by
    intro negated
    obtain ⟨n, hn⟩ := exists_build? Engine.core_faultless.plain (by simp) (hsuits negated)
    apply comesTo_of_settles hc (Registry.offers_of_ne (by simp)) hn (settles_member hn)
  exact ⟨_, _, hcomes false, hcomes true, holds_excluded_iff hv c.taken record⟩

end

/-- All elements of an array lie outside a range of integers, and the array with a text among them is neither
included nor excluded. -/
theorem exclusion_complements_membership_integers :
  (Operator.member true).ComesTo (.new .core []) (.range (some (.int 1)) (some (.int 5)) false)
      (.array [.int 0, .int 7]) true
    ∧ (Operator.member true).ComesTo (.new .core []) (.range (some (.int 1)) (some (.int 5)) false)
      (.array [.int 0, .string "x"]) false
  := by
  have hrange : (Value.range (some (.int 1)) (some (.int 5)) false).isRange := rfl
  have hincomparable : Unplaced (some (.int 1)) (some (.int 5)) false (.string "x") :=
    ⟨⟨.int 1, .inl rfl, rfl⟩, rfl⟩
  constructor
  · obtain ⟨included, excluded, ⟨n, hn, hincluded⟩, hexcluded, hiff⟩ :=
      exclusion_complements_membership (c := .new .core []) rfl (.inr hrange) (.array [.int 0, .int 7])
    have hnone : included = false := by
      cases hn
      cases (hincluded _ (Nat.le_refl _)).1
      rfl
    have hplaced : ¬(Value.range (some (.int 1)) (some (.int 5)) false).Unplaces
        (.array [.int 0, .int 7]) := by
      rintro ⟨_, _, _, ⟨⟩, x, hx, hunplaced⟩
      have hadmitted := hunplaced.admitted
      simp only [Value.parts, List.mem_cons, List.not_mem_nil, or_false] at hx
      obtain rfl | rfl := hx <;> cases hadmitted
    rwa [hiff.mpr ⟨hnone, hplaced⟩] at hexcluded
  · obtain ⟨included, excluded, -, hexcluded, hiff⟩ :=
      exclusion_complements_membership (c := .new .core []) rfl (.inr hrange)
        (.array [.int 0, .string "x"])
    have hfalse : excluded = false := by
      apply Bool.eq_false_iff.mpr
      intro htrue
      apply (hiff.mp htrue).2
      refine ⟨_, _, _, rfl, .string "x", ?_, hincomparable⟩
      exact List.mem_cons_of_mem _ (List.mem_singleton_self _)
    rwa [hfalse] at hexcluded

/-- A text is neither a member of a range of integers nor no member of it. -/
theorem text_neither_in_nor_outside :
  (∃ n, (Operator.member false).build? .core (.range (some (.int 1)) (some (.int 5)) false) = .ok n
      ∧ (n.evaluate (.new .core []) (evaluationBound (.range (some (.int 1)) (some (.int 5)) false)
          (.string "x")) (.string "x")).map Prod.fst = .ok (.ok false))
    ∧ ∃ n, (Operator.member true).build? .core (.range (some (.int 1)) (some (.int 5)) false) = .ok n
      ∧ (n.evaluate (.new .core []) (evaluationBound (.range (some (.int 1)) (some (.int 5)) false)
          (.string "x")) (.string "x")).map Prod.fst = .ok (.ok false)
  :=
  ⟨⟨_, rfl, rfl⟩, ⟨_, rfl, rfl⟩⟩

/-! ### Members one by one -/

/-- The value is null, a truth value, an integer or a text. -/
def Value.Candidate (v : Value) : Prop := v = .null ∨ v.Basic

section

variable {v : Value} (hv : v.Candidate)

include hv

theorem Value.Candidate.plain :
  v.Plain
  := by
  obtain rfl | h := hv
  · exact .null
  · cases h with
    | bool b => exact .bool b
    | int n => exact .int n
    | string s => exact .string s

theorem Value.Candidate.depth_eq :
  v.depth = 0
  := by
  obtain rfl | h := hv
  · rfl
  · cases h <;> rfl

theorem Value.Candidate.normalizeValue_eq (z : Normalizer) :
  z.normalizeValue v = v
  := by
  obtain rfl | h := hv
  · rfl
  · cases h <;> rfl

theorem Value.Candidate.accepted :
  Operator.literal.accepts v
  := by
  obtain rfl | h := hv
  · rfl
  · cases h <;> rfl

/-- It does not matter on which side of an equation such a value stands. -/
theorem Value.Candidate.beq_comm (x : Value) :
  (v == x) = (x == v)
  := by
  obtain rfl | h := hv
  · cases x <;> rfl
  · cases h with
    | bool b =>
      cases x with
      | bool b' => exact BEq.comm (a := b) (b := b')
      | _ => rfl
    | int n =>
      cases x with
      | int m => exact BEq.comm (a := n) (b := m)
      | _ => rfl
    | string t =>
      cases x with
      | string u => exact BEq.comm (a := t) (b := u)
      | _ => rfl

/-- As a literal argument such a value holds of what equals it, and of what is missing if it is null. -/
theorem Value.Candidate.holds_of_not_isArray (taken : Value → Value) {x : Value} (hx : ¬x.isArray) :
  Operator.literal.holds taken v x = (x.orNull == v)
  := by
  rw [holds_literal_of_not_isArray _ _ hx]
  obtain rfl | h := hv
  · cases x <;> rfl
  · cases h <;> rfl

/-- It holds of an array with an element, taken out of it, that equals it. -/
theorem Value.Candidate.holds_array (taken : Value → Value) (items : List Value) :
  Operator.literal.holds taken v (.array items) = items.any fun item => (taken item).orNull == v
  := by
  rw [holds_literal_of_isArray _ _ rfl, Operator.holds.eq_def]
  obtain rfl | h := hv
  · rfl
  · cases h <;> rfl

/-- If nothing is converted and no element is missing, that is to be the only member. -/
theorem Value.Candidate.holds_eq_intersects {taken : Value → Value}
    (htaken : ∀ x : Value, x.hasHost = false → taken x = x) {x : Value} (hx : x.hasHost = false)
    (hmissing : ¬x.Holds .missing) :
  Operator.literal.holds taken v x = intersects x [v]
  := by
  obtain ⟨items, rfl⟩ | hrecord := x.isArray_cases
  · have hitem : ∀ item ∈ items, ((taken item).orNull == v) = [v].any (· == item) := by
      intro item hitem
      rw [htaken item (Value.Holds.hasHost_eq (.element hitem) hx), List.any_cons, List.any_nil,
        Bool.or_false, hv.beq_comm]
      cases item with
      | missing => exact absurd (.element hitem) hmissing
      | _ => rfl
    rw [hv.holds_array, intersects, Bool.eq_iff_iff, List.any_eq_true, List.any_eq_true]
    exact exists_congr fun item => and_congr_right fun h => Bool.eq_iff_iff.mp (hitem item h)
  · rw [hv.holds_of_not_isArray taken (Bool.eq_false_iff.mp hrecord), ← hv.beq_comm]
    cases x with
    | array items => cases hrecord
    | _ => simp [intersects]

end

/-- To be among some items is to be the one or the other. -/
theorem intersects_eq_any (x : Value) (items : List Value) :
  intersects x items = items.any fun v => intersects x [v]
  := by
  rw [Bool.eq_iff_iff]
  cases x with
  | array elements =>
    simp only [intersects, List.any_eq_true, List.any_cons, List.any_nil, Bool.or_false]
    constructor
    · rintro ⟨element, helement, v, hv, heq⟩
      exact ⟨v, hv, element, helement, heq⟩
    · rintro ⟨v, hv, element, helement, heq⟩
      exact ⟨element, helement, v, hv, heq⟩
  | _ => simp [intersects]

/-- What is looked up in a record without host values has none. -/
theorem Value.hasHost_of_dig {record x : Value} {field : String} (hx : record.dig? field = some x)
    (hrecord : record.hasHost = false) :
  x.hasHost = false
  := by
  obtain rfl | hholds := Value.holds_of_dig hx
  · rfl
  · apply hholds.hasHost_eq hrecord

/-- The condition that a field has one of the values as a member. -/
def fieldMember (field : String) (vs : List Value) : Value := .map [(field, .map [("$in", .array vs)])]

/-- The condition that a field matches one of the values. -/
def fieldCandidates (field : String) (vs : List Value) : Value :=
  .map [("$or", .array (vs.map fun v => .map [(field, v)]))]

section

variable {taken : Value → Value} (htaken : ∀ x : Value, x.hasHost = false → taken x = x) {field : String}
  (hfield : Registry.core.lookup? field = none) {vs : List Value} {record : Value}
  (hrecord : record.hasHost = false)

include htaken hfield hrecord

/-- A membership test on a field applies to an array as a whole. -/
theorem holds_fieldMember :
  Operator.condition.holds taken (fieldMember field vs) record
    = (record.dig? field).any fun x => intersects x vs
  := by
  rw [fieldMember, holds_field hfield]
  cases hx : record.dig? field with
  | none => rfl
  | some x =>
    rw [Option.any_some, Option.any_some, htaken x (Value.hasHost_of_dig hx hrecord),
      holds_literal_of_arrayCondition _ _ rfl, holds_condition_singleton,
      entryHolds_of_operator (.member false) rfl, Operator.holds, Bool.bne_false]

/-- Of a record in which nothing is missing the disjunction holds alike. -/
theorem holds_fieldCandidates (hvs : ∀ v ∈ vs, v.Candidate) (hmissing : ¬record.Reaches .missing) :
  Operator.condition.holds taken (fieldCandidates field vs) record
    = (record.dig? field).any fun x => intersects x vs
  := by
  have hbranch : ∀ v ∈ vs, Operator.condition.holds taken (.map [(field, v)]) record
      = (record.dig? field).any fun x => intersects x [v] := by
    intro v hv
    rw [holds_field hfield]
    cases hx : record.dig? field with
    | none => rfl
    | some x =>
      have hhost := Value.hasHost_of_dig hx hrecord
      have hnone : ¬x.Holds .missing := by
        obtain rfl | hholds := Value.holds_of_dig hx
        · exact fun h => nomatch h
        · exact fun h => hmissing (.head hholds (.single h))
      rw [Option.any_some, Option.any_some, htaken x hhost,
        (hvs v hv).holds_eq_intersects htaken hhost hnone]
  rw [fieldCandidates, holds_condition_singleton, entryHolds_of_operator .disjunction rfl,
    holds_disjunction, List.any_map, Bool.eq_iff_iff, List.any_eq_true]
  cases hx : record.dig? field with
  | none =>
    simp only [Option.any_none, Bool.false_eq_true, iff_false]
    rintro ⟨v, hv, hholds⟩
    rw [Function.comp_apply, hbranch v hv, hx] at hholds
    cases hholds
  | some x =>
    rw [Option.any_some, intersects_eq_any, List.any_eq_true]
    apply exists_congr
    intro v
    apply and_congr_right
    intro hv
    rw [Function.comp_apply, hbranch v hv, hx, Option.any_some]

end

section

variable {field : String} {vs : List Value} (hvs : ∀ v ∈ vs, v.Candidate)

include hvs

theorem plain_fieldMember :
  (fieldMember field vs).Plain
  := .map (List.forall_mem_singleton.mpr (.map (List.forall_mem_singleton.mpr
    (.array fun v hv => (hvs v hv).plain))))

theorem plain_fieldCandidates :
  (fieldCandidates field vs).Plain
  := .map (List.forall_mem_singleton.mpr (.array (List.forall_mem_map.mpr
    fun v hv => .map (List.forall_mem_singleton.mpr (hvs v hv).plain))))

theorem normalizeValue_fieldMember (z : Normalizer) (hdot : '.' ∉ field.toList) :
  z.normalizeValue (fieldMember field vs) = fieldMember field vs
  := by
  have hitems : vs.map z.normalizeValue = vs :=
    map_eq_self_iff.mpr fun v hv => (hvs v hv).normalizeValue_eq z
  rw [fieldMember, Normalizer.normalizeValue_singleton hdot, Normalizer.normalizeValue_singleton (by decide),
    Normalizer.normalizeValue, Normalizer.normalizeItems_eq, hitems]

theorem normalizeValue_fieldCandidates (z : Normalizer) (hdot : '.' ∉ field.toList) :
  z.normalizeValue (fieldCandidates field vs) = fieldCandidates field vs
  := by
  have hbranches : (vs.map fun v => Value.map [(field, v)]).map z.normalizeValue
      = vs.map fun v => Value.map [(field, v)] := by
    apply map_eq_self_iff.mpr (List.forall_mem_map.mpr _)
    intro v hv
    rw [Normalizer.normalizeValue_singleton hdot, (hvs v hv).normalizeValue_eq]
  rw [fieldCandidates, Normalizer.normalizeValue_singleton (by decide), Normalizer.normalizeValue,
    Normalizer.normalizeItems_eq, hbranches]

theorem depth_fieldMember_le :
  (fieldMember field vs).depth ≤ 3
  := by
  apply Value.depth_map_le (List.forall_mem_singleton.mpr (Nat.lt_succ_of_le _)) (by decide)
  apply Value.depth_map_le (List.forall_mem_singleton.mpr (Nat.lt_succ_of_le _)) (by decide)
  apply Value.depth_array_le _ (by decide)
  intro v hv
  rw [(hvs v hv).depth_eq]
  exact Nat.zero_lt_one

theorem depth_fieldCandidates_le :
  (fieldCandidates field vs).depth ≤ 3
  := by
  apply Value.depth_map_le (List.forall_mem_singleton.mpr (Nat.lt_succ_of_le _)) (by decide)
  apply Value.depth_array_le (List.forall_mem_map.mpr _) (by decide)
  intro v hv
  apply Nat.lt_succ_of_le
  apply Value.depth_map_le (List.forall_mem_singleton.mpr _) (by decide)
  rw [(hvs v hv).depth_eq]
  exact Nat.zero_lt_one

theorem compiles_fieldMember (hdot : '.' ∉ field.toList) (hfield : Registry.core.lookup? field = none)
    (config : Entries) :
  ∃ q, Query.compile? .core (.value (fieldMember field vs)) config = .ok q
  := by
  apply (compiles_iff _ _).mpr
  refine ⟨[(field, .map [("$in", .array vs)])], normalizeValue_fieldMember hvs .core hdot,
    Nat.le_trans (depth_fieldMember_le hvs) (by decide), ?_⟩
  apply (entriesAccepted_iff _).mpr (List.forall_mem_singleton.mpr _)
  rw [Registry.operatorFor_of_none hfield]
  rfl

theorem compiles_fieldCandidates (hdot : '.' ∉ field.toList)
    (hfield : Registry.core.lookup? field = none) (config : Entries) :
  ∃ q, Query.compile? .core (.value (fieldCandidates field vs)) config = .ok q
  := by
  apply (compiles_iff _ _).mpr
  refine ⟨[("$or", .array (vs.map fun v => .map [(field, v)]))],
    normalizeValue_fieldCandidates hvs .core hdot,
    Nat.le_trans (depth_fieldCandidates_le hvs) (by decide), ?_⟩
  apply (entriesAccepted_iff _).mpr (List.forall_mem_singleton.mpr _)
  apply (branchesAccepted_iff _).mpr (List.forall_mem_map.mpr _)
  intro v hv
  have hliteral : (Registry.core.operatorFor field).accepts v := by
    rw [Registry.operatorFor_of_none hfield]
    exact (hvs v hv).accepted
  exact (entriesAccepted_iff _).mpr (List.forall_mem_singleton.mpr hliteral)

end

/-- Nothing is missing in plain data. -/
theorem Value.Plain.not_reaches_missing {v : Value} (h : v.Plain) :
  ¬v.Reaches .missing
  := by
  have hreached : ∀ w, v.Reaches w → w.Plain := by
    intro w hw
    induction hw with
    | refl => exact h
    | tail _ hholds ih =>
      cases hholds with
      | element hmem => exact plain_array_iff.mp ih _ hmem
      | entry hmem => exact plain_map_iff.mp ih _ hmem
      | field _ => cases ih
  intro hmissing
  cases hreached _ hmissing

/-- In whatever state a query for a plain condition is, on a record without host values it comes to what the
condition holds. -/
theorem Query.Kept.outcome_of_plain {q : Query} (hq : q.Kept .core) {v : Value}
    (hcondition : q.condition.value = v) (hv : v.Plain) {record : Value} (hrecord : record.hasHost = false) :
  q.Concludes record (Operator.condition.holds q.context.taken v record)
    ∧ q.Decides record (Operator.condition.holds q.context.taken v record)
  := by
  subst hcondition
  have hsettles : q.matcher.node.fresh.Settles q.context record _ :=
    hq.settles_of_legible (hv.legible default)
  refine ⟨hq.concludes hsettles, hq.decides ?_⟩
  rwa [q.normalizeRecord_of_hasHost hrecord]

/-- That a field has one of some values as a member, and the disjunction of these values for the field, are
conditions that compile. In whatever state the two queries are, they agree on every record with neither host
values nor missing ones in it. -/
theorem membership_iff_equalities {field : String} (hdot : '.' ∉ field.toList)
    (hfield : Registry.core.has field = false) {vs : List Value} (hvs : ∀ v ∈ vs, v.Candidate) :
  (∀ config, ∃ q, Query.compile? .core (.value (fieldMember field vs)) config = .ok q)
    ∧ (∀ config, ∃ q, Query.compile? .core (.value (fieldCandidates field vs)) config = .ok q)
    ∧ ∀ q q' : Query, q.Arises .core → q'.Arises .core →
      q.condition = Normalizer.core.normalize (.value (fieldMember field vs)) →
      q'.condition = Normalizer.core.normalize (.value (fieldCandidates field vs)) →
      ∀ record : Value, record.hasHost = false → ¬record.Reaches .missing → ∃ b,
        (q.Concludes record b ∧ q.Decides record b) ∧ q'.Concludes record b ∧ q'.Decides record b
  := by
  have hnone := Registry.lookup?_eq_none_of_has hfield
  refine ⟨compiles_fieldMember hvs hdot hnone, compiles_fieldCandidates hvs hdot hnone, ?_⟩
  intro q q' hq hq' hcondition hcondition' record hrecord hmissing
  have hmember := (hq.kept Engine.core_sound).outcome_of_plain
    ((congrArg Condition.value hcondition).trans (normalizeValue_fieldMember hvs .core hdot))
    (plain_fieldMember hvs) hrecord
  have hcandidates := (hq'.kept Engine.core_sound).outcome_of_plain
    ((congrArg Condition.value hcondition').trans (normalizeValue_fieldCandidates hvs .core hdot))
    (plain_fieldCandidates hvs) hrecord
  rw [holds_fieldMember (fun x => Context.taken_of_hasHost _) hnone hrecord] at hmember
  rw [holds_fieldCandidates (fun x => Context.taken_of_hasHost _) hnone hrecord hvs hmissing]
    at hcandidates
  exact ⟨_, hmember, hcandidates⟩

/-- Null is a member of a field that is not there, and not of an array that has it only in an element. -/
theorem membership_iff_equalities_null :
  ∃ q q', Query.compile? .core (.value (fieldMember "a" [.null, .int 1])) [] = .ok q
    ∧ Query.compile? .core (.value (fieldCandidates "a" [.null, .int 1])) [] = .ok q'
    ∧ (q.Decides (.map []) true ∧ q'.Decides (.map []) true)
    ∧ q.Decides (.map [("a", .array [.array [.null]])]) false
    ∧ q'.Decides (.map [("a", .array [.array [.null]])]) false
  := by
  have hvs : ∀ v ∈ [Value.null, .int 1], v.Candidate :=
    List.forall_mem_cons.mpr ⟨.inl rfl, List.forall_mem_singleton.mpr (.inr (.int 1))⟩
  have hnested : (Value.map [("a", .array [.array [.null]])]).Plain :=
    .map (List.forall_mem_singleton.mpr (.array (List.forall_mem_singleton.mpr
      (.array (List.forall_mem_singleton.mpr .null)))))
  have hempty : (Value.map []).Plain := .map (List.forall_mem_nil _)
  have hdot : '.' ∉ "a".toList := by decide
  obtain ⟨hcompile, hcompile', hagree⟩ := membership_iff_equalities hdot rfl hvs
  obtain ⟨q, hq⟩ := hcompile []
  obtain ⟨q', hq'⟩ := hcompile' []
  have hboth {record : Value} (hrecord : record.Plain) {b : Bool}
      (hmatch : (q.isMatch record).map Prod.fst = .ok b) : q.Decides record b ∧ q'.Decides record b := by
    obtain ⟨b', ⟨-, hdecides⟩, -, hdecides'⟩ := hagree q q' (.compiled hq) (.compiled hq')
      (Query.built_of_compile hq).1 (Query.built_of_compile hq').1 record hrecord.hasHost_eq
      hrecord.not_reaches_missing
    cases hdecides.isMatch.symm.trans hmatch
    exact ⟨hdecides, hdecides'⟩
  refine ⟨q, q', hq, hq', hboth hempty ?_, hboth hnested ?_⟩
  · cases hq
    set_option maxRecDepth 2000 in rfl
  · cases hq
    set_option maxRecDepth 2000 in rfl

end DocQuery
