import DocQuery.Proofs.Faultless

/-!
# Conditions that compile

A condition is well-formed if every entry is: an operator has an argument of a shape that it takes,
and the value of a field is well-formed if it is a map. This is a recursion over the condition alone,
in which nothing is built. A condition compiles exactly if its normal form is a map that is
well-formed and not too deep.
-/

namespace DocQuery

/-! ### The shapes of arguments -/

mutual

/-- Whether the value has a shape that the operator takes as its argument. What is taken literally may
be anything, but a map has to be a condition. -/
def Operator.accepts : Operator → Value → Bool
  | .compare _, _ => true
  | .existence, .bool _ => true
  | .presence, .bool _ => true
  | .regex, .regex _ => true
  | .regex, .string source => (Pattern.ofSource? source "").isOk
  | .member _, .array _ => true
  | .member _, .range _ _ _ => true
  | .conjunction, .array items => branchesAccepted items
  | .disjunction, .array items => branchesAccepted items
  | .elements _, .map entries => entriesAccepted entries
  | .condition, .map entries => entriesAccepted entries
  | .negation, .map entries => entriesAccepted entries
  | .size, .map entries => entriesAccepted entries
  | .literal, .map entries => entriesAccepted entries
  | .negation, _ => true
  | .size, _ => true
  | .literal, _ => true
  | _, _ => false
termination_by structural _ v => v

/-- Whether all branches are maps of accepted entries. -/
def branchesAccepted : List Value → Bool
  | [] => true
  | v :: rest => Operator.condition.accepts v && branchesAccepted rest
termination_by structural items => items

/-- Whether all entries are accepted: an operator has to take its argument, and a key that is no
operator takes its value literally. -/
def entriesAccepted : List (String × Value) → Bool
  | [] => true
  | (key, v) :: rest => (Registry.core.operatorFor key).accepts v && entriesAccepted rest
termination_by structural entries => entries

end

theorem entriesAccepted_iff (entries : Entries) :
  entriesAccepted entries ↔ ∀ e ∈ entries, (Registry.core.operatorFor e.1).accepts e.2
  := by
  induction entries with
  | nil => simp [entriesAccepted]
  | cons e rest ih =>
    rw [entriesAccepted, Bool.and_eq_true, ih, List.forall_mem_cons]

theorem branchesAccepted_iff (items : List Value) :
  branchesAccepted items ↔ ∀ v ∈ items, Operator.condition.accepts v
  := by
  induction items with
  | nil => simp [branchesAccepted]
  | cons v rest ih =>
    rw [branchesAccepted, Bool.and_eq_true, ih, List.forall_mem_cons]

/-- A text is accepted as a pattern exactly if it can be read as one. -/
theorem isOk_ofSource?_iff (source : String) :
  (Pattern.ofSource? source "").isOk ↔ ∃ p, patternArgument (.string source) = .ok p
  := by
  rw [patternArgument]
  cases Pattern.ofSource? source "" <;> simp [Except.isOk, Except.toBool, Except.mapError]

/-! ### Accepted arguments are those that suit -/

/-- No entry of a condition on the usual engine stands for the form of a literal argument for arrays
or for a further operator. -/
theorem Registry.core_operatorFor (key : String) :
  Registry.core.operatorFor key ≠ .arrayRecord
    ∧ ∀ x, Registry.core.operatorFor key ≠ .extension x
  := by
  cases h : Registry.core.lookup? key with
  | none =>
    rw [operatorFor_of_none h]
    simp
  | some e =>
    rw [operatorFor_of_lookup h]
    apply core_usual e (List.mem_of_find?_eq_some h)

/-- An argument that suits an operator is accepted. -/
theorem Suits.accepts {operator : Operator} {v : Value} (h : Suits .core operator v)
    (hform : operator ≠ .arrayRecord) (hextension : ∀ x, operator ≠ .extension x) :
  operator.accepts v
  := by
  induction h with
  | compare c v => cases v <;> rfl
  | existence | presence | items | range => rfl
  | @regex v p h =>
    cases v with
    | regex p => rfl
    | string source => exact (isOk_ofSource?_iff source).mpr ⟨p, h⟩
    | _ => cases h
  | conjunction _ ih | disjunction _ ih =>
    apply (branchesAccepted_iff _).mpr
    exact fun v hv => ih v hv (by simp) (by simp)
  | elements _ _ ih => exact ih (by simp) (by simp)
  | @plain operator role v hrole h =>
    cases v with
    | map entries => cases h
    | _ => cases hrole <;> rfl
  | literal hrole _ ih =>
    have hentries := ih (by simp) (by simp)
    cases hrole <;> exact hentries
  | condition _ ih =>
    apply (entriesAccepted_iff _).mpr
    intro e he
    obtain ⟨hform, hextension⟩ := Registry.core_operatorFor e.1
    apply ih e he hform hextension
  | arrayRecord => exact absurd rfl hform
  | extension => exact absurd rfl (hextension _)

/-- An argument that is neither an array nor a map suits the operator that accepts it. -/
theorem Operator.suits_of_accepts_single {operator : Operator} {v : Value} (harray : v.isArray = false)
    (hmap : v.isMap = false) (h : operator.accepts v) :
  Suits .core operator v
  := by
  cases operator with
  | compare c => exact .compare c v
  | existence =>
    cases v with
    | bool b => exact .existence b
    | _ => cases h
  | presence =>
    cases v with
    | bool b => exact .presence b
    | _ => cases h
  | regex =>
    cases v with
    | regex p => exact .regex rfl
    | string source =>
      obtain ⟨p, hp⟩ := (isOk_ofSource?_iff source).mp h
      exact .regex hp
    | _ => cases h
  | member negated =>
    cases v with
    | array items => cases harray
    | range start stop exclusive => exact .range negated start stop exclusive
    | _ => cases h
  | negation => exact .plain .negation hmap
  | size => exact .plain .size hmap
  | literal => exact .plain .literal hmap
  | conjunction | disjunction =>
    cases v with
    | array items => cases harray
    | _ => cases h
  | elements | condition =>
    cases v with
    | map entries => cases hmap
    | _ => cases h
  | arrayRecord | extension => cases v <;> cases h

mutual

/-- An argument that is accepted suits the operator. -/
theorem Operator.suits_of_accepts (operator : Operator) :
    ∀ v : Value, operator.accepts v → Suits .core operator v
  | .array items, h => by
    have hbranches := suits_of_branchesAccepted items
    cases operator with
    | compare c => exact .compare c _
    | member negated => exact .items negated items
    | conjunction => exact .conjunction (hbranches h)
    | disjunction => exact .disjunction (hbranches h)
    | negation => exact .plain .negation rfl
    | size => exact .plain .size rfl
    | literal => exact .plain .literal rfl
    | _ => cases h
  | .map entries, h => by
    have hcondition := suits_of_entriesAccepted entries
    cases operator with
    | compare c => exact .compare c _
    | elements quantifier => exact .elements quantifier (hcondition h)
    | condition => exact hcondition h
    | negation => exact .literal .negation (hcondition h)
    | size => exact .literal .size (hcondition h)
    | literal => exact .literal .literal (hcondition h)
    | _ => cases h
  | .null, h | .missing, h | .bool _, h | .int _, h | .float _, h | .string _, h | .regex _, h
  | .range _ _ _, h | .host _ _ _, h => Operator.suits_of_accepts_single rfl rfl h

theorem suits_of_branchesAccepted :
    ∀ items : List Value, branchesAccepted items → ∀ v ∈ items, Suits .core .condition v
  | [], _ => fun v hv => absurd hv List.not_mem_nil
  | w :: rest, h => by
    obtain ⟨hw, hrest⟩ := Bool.and_eq_true_iff.mp h
    have hfirst := Operator.suits_of_accepts .condition w hw
    have hothers := suits_of_branchesAccepted rest hrest
    exact List.forall_mem_cons.mpr ⟨hfirst, hothers⟩

theorem suits_of_entriesAccepted :
    ∀ entries : List (String × Value), entriesAccepted entries → Suits .core .condition (.map entries)
  | [], _ => .condition fun e he => absurd he List.not_mem_nil
  | (key, w) :: rest, h => by
    obtain ⟨hw, hrest⟩ := Bool.and_eq_true_iff.mp h
    have hfirst := Operator.suits_of_accepts (Registry.core.operatorFor key) w hw
    have hothers := suits_of_entriesAccepted rest hrest
    exact .condition (List.forall_mem_cons.mpr ⟨hfirst, hothers.entries⟩)

end

/-! ### Compiling -/

/-- An argument that suits is built within the steps that building allows. -/
theorem exists_build? {r : Registry} (hr : r.Plain) {operator : Operator} {v : Value}
    (hne : operator ≠ .arrayRecord) (h : Suits r operator v) :
  ∃ n, operator.build? r v = .ok n
  := by
  apply buildsBelow hr (v.depth + 1) _ operator v (Nat.lt_succ_self _) hne h
  have hdepth := v.depth_le_height
  unfold buildBound
  omega

/-- A condition in normal form compiles exactly if it is not too deep and its matcher can be built. -/
theorem Query.exists_ofCondition?_iff (c : Context) (condition : Condition) :
  (∃ q, Query.ofCondition? c condition = .ok q)
    ↔ condition.value.depth ≤ maxDepth
      ∧ ∃ n, Operator.condition.build? c.engine.registry condition.value = .ok n
  := by
  rw [Query.ofCondition?]
  split
  · rename_i hdepth
    constructor
    · rintro ⟨q, hq⟩
      cases hq
    · rintro ⟨hle, -⟩
      exact absurd hle (Nat.not_le_of_lt hdepth)
  · rename_i hdepth
    constructor
    · rintro ⟨q, hq⟩
      obtain ⟨m, hm, -⟩ := map_eq_ok_iff.mp hq
      obtain ⟨n, hn, -⟩ := map_eq_ok_iff.mp hm
      exact ⟨Nat.le_of_not_lt hdepth, n, hn⟩
    · rintro ⟨-, n, hn⟩
      exact ⟨_, map_eq_ok_iff.mpr ⟨_, map_eq_ok_iff.mpr ⟨n, hn, rfl⟩, rfl⟩⟩

/-- A condition compiles exactly if its normal form is a map that is not too deep and whose entries are
all accepted. -/
theorem compiles_iff (raw : Condition.Raw) (config : Entries) :
  (∃ q, Query.compile? .core raw config = .ok q)
    ↔ ∃ entries, (Normalizer.core.normalize raw).value = .map entries
      ∧ (Value.map entries).depth ≤ 64 ∧ entriesAccepted entries
  := by
  rw [Query.compile?, Query.exists_ofCondition?_iff]
  constructor
  · rintro ⟨hdepth, n, hn⟩
    have hsuits := suits_of_build hn
    obtain ⟨entries, hentries⟩ := hsuits.map
    rw [hentries] at hdepth hsuits
    refine ⟨entries, hentries, hdepth, ?_⟩
    exact hsuits.accepts (by simp) (by simp)
  · rintro ⟨entries, hentries, hdepth, haccepted⟩
    have hsuits := suits_of_entriesAccepted entries haccepted
    have hbuild := exists_build? Engine.core_faultless.plain (by simp) hsuits
    rw [← hentries] at hdepth hbuild
    exact ⟨hdepth, hbuild⟩

end DocQuery
