import DocQuery.Matcher.Step
import DocQuery.Proofs.Unfolding

/-!
# Interpreting conditions

A condition can be interpreted as it stands, without being compiled: a map holds if all its entries
do, a branch if its map does, and a literal argument by the kind of the record. The recursion is on
the condition itself. Only for arrays a condition is first taken apart, and then it calls for no
more than the condition it was, because what applies to elements is as deep as the condition.
-/

namespace DocQuery

/-- Whether a value compares with the ends of a range as lying in it takes, or as lying outside it
takes. -/
def boundsHold (negated : Bool) (start stop : Option Value) (exclusive : Bool) (record : Value) :
    Bool :=
  if negated then
    start.any (Comparison.less.holds record.orNull)
      || stop.any ((if exclusive then Comparison.greaterOrEqual else .greater).holds record.orNull)
  else
    start.all (Comparison.greaterOrEqual.holds record.orNull)
      && stop.all ((if exclusive then Comparison.less else .lessOrEqual).holds record.orNull)

/-- Whether a record passes a test. An array has to have an element that passes it, or, of a negated
test, only such elements. -/
def withinHolds (negated : Bool) (record : Value) (test : Value → Bool) : Bool :=
  match record with
  | .array items => if negated then items.all test else items.any test
  | _ => test record

/-- Whether the elements of an array, taken out one by one, hold as often as the quantifier says. -/
def Quantifier.holds (quantifier : Quantifier) (taken : Value → Value) (record : Value)
    (test : Value → Bool) : Bool :=
  match quantifier, record with
  | .any, .array items => items.any fun item => test (taken item)
  | .every, .array items => !items.isEmpty && items.all fun item => test (taken item)
  | _, _ => false

/-- A rank that decreases where a condition is interpreted again with the same argument. -/
def Operator.rank : Operator → Nat
  | condition => 0
  | elements _ => 1
  | arrayRecord => 2
  | literal => 3
  | _ => 4

theorem Operator.rank_le (operator : Operator) :
  operator.rank ≤ 4
  := by
  cases operator <;> simp [rank]

/-- The weight of an operator with an argument. It decreases where a condition is interpreted, with
room for the step from an entry to its operator. -/
def Operator.weight (operator : Operator) (argument : Value) : Nat :=
  10 * argument.depth + 2 * operator.rank

/-- An operator with an argument of less depth has less weight than any operator. -/
theorem Operator.weight_lt_of_depth_lt (operator operator' : Operator) {v w : Value}
    (h : v.depth < w.depth) :
  operator.weight v + 1 < operator'.weight w
  := by
  have hrank := operator.rank_le
  unfold weight
  omega

/-- What a condition becomes on an array has entries of less weight than the form for arrays. -/
theorem Operator.weight_whole_lt {entries whole : Entries}
    (h : arrayCondition Registry.core entries = .ok whole) {e : String × Value} (he : e ∈ whole) :
  (Registry.core.operatorFor e.1).weight e.2 + 1 < Operator.arrayRecord.weight (.map entries)
  := by
  obtain ⟨element, rfl, hdepth⟩ | hmem := depth_arrayCondition (Nat.le_refl _) h e he
  · change 10 * (Value.map element).depth + 2 * 1 + 1 < 10 * (Value.map entries).depth + 2 * 2
    omega
  · apply weight_lt_of_depth_lt
    apply Value.depth_lt_of_mem hmem

mutual

/-- Whether a record satisfies an operator with its argument. -/
def Operator.holds (taken : Value → Value) (operator : Operator) (argument record : Value) : Bool :=
  match operator, argument with
  | .compare c, v => c.holds record.orNull v
  | .existence, .bool b => (!record.isMissing) == b
  | .presence, .bool b => record.isPresent == b
  | .regex, v => (patternArgument v).toOption.any fun p => record.asString?.any p.isMatch
  | .member negated, .array items => intersects record items != negated
  | .member negated, .range start stop exclusive =>
    withinHolds negated record (boundsHold negated start stop exclusive)
  | .conjunction, .array items =>
    items.attach.all fun ⟨v, _⟩ => Operator.condition.holds taken v record
  | .disjunction, .array items =>
    items.attach.any fun ⟨v, _⟩ => Operator.condition.holds taken v record
  | .negation, v => !Operator.literal.holds taken v record
  | .size, v =>
    match record.asArray? with
    | some items => Operator.literal.holds taken v (.ofInt items.length)
    | none => false
  | .elements quantifier, .map entries =>
    quantifier.holds taken record fun item => Operator.condition.holds taken (.map entries) item
  | .condition, .map entries => entries.attach.all fun ⟨e, _⟩ => entryHolds taken e.1 e.2 record
  | .literal, v =>
    if record.isArray then Operator.arrayRecord.holds taken v record
    else match v with
      | .map entries => Operator.condition.holds taken (.map entries) record
      | .regex p => record.asString?.any p.isMatch
      | .null => record.isMissing || Comparison.equal.holds record.orNull .null
      | v => Comparison.equal.holds record.orNull v
  | .arrayRecord, .map entries =>
    match _h : arrayCondition Registry.core entries with
    | .ok whole => whole.attach.all fun ⟨e, _⟩ => entryHolds taken e.1 e.2 record
    | .error _ => false
  | .arrayRecord, .regex p =>
    Quantifier.any.holds taken record fun item => item.asString?.any p.isMatch
  | .arrayRecord, .array items =>
    Comparison.equal.holds record.orNull (.array items)
      || Quantifier.any.holds taken record fun item =>
        Comparison.equal.holds item.orNull (.array items)
  | .arrayRecord, v =>
    Quantifier.any.holds taken record fun item => Comparison.equal.holds item.orNull v
  | _, _ => false
termination_by operator.weight argument
decreasing_by
  · apply Nat.lt_of_succ_lt
    apply Operator.weight_lt_of_depth_lt
    apply Value.depth_lt_of_mem_items ‹_›
  · apply Nat.lt_of_succ_lt
    apply Operator.weight_lt_of_depth_lt
    apply Value.depth_lt_of_mem_items ‹_›
  · simp [Operator.weight, Operator.rank]
  · simp [Operator.weight, Operator.rank]
  · simp [Operator.weight, Operator.rank]
  · apply Operator.weight_lt_of_depth_lt
    apply Value.depth_lt_of_mem ‹_›
  · simp [Operator.weight, Operator.rank]
  · simp [Operator.weight, Operator.rank]
  · apply Operator.weight_whole_lt ‹_› ‹_›

/-- Whether a record satisfies an entry of a condition. -/
def entryHolds (taken : Value → Value) (key : String) (v record : Value) : Bool :=
  match _h : Registry.core.lookup? key with
  | some e => e.operator.holds taken v record
  | none =>
    match record.dig? key with
    | some x => Operator.literal.holds taken v (taken x)
    | none => false
termination_by (Registry.core.operatorFor key).weight v + 1
decreasing_by
  · rw [Registry.operatorFor_of_lookup ‹_›]
    apply Nat.lt_succ_self
  · rw [Registry.operatorFor_of_none ‹_›]
    apply Nat.lt_succ_self

end

section

variable (taken : Value → Value) (record : Value)

theorem all_attach_entries (entries : Entries) :
  (entries.attach.all fun ⟨e, _⟩ => entryHolds taken e.1 e.2 record)
    = entries.all fun e => entryHolds taken e.1 e.2 record
  := by
  rw [List.all_subtype fun _ _ => rfl, List.unattach_attach]

/-- A condition holds if all its entries do. -/
theorem holds_condition (entries : Entries) :
  Operator.condition.holds taken (.map entries) record
    = entries.all fun e => entryHolds taken e.1 e.2 record
  := by
  rw [Operator.holds, all_attach_entries]

/-- A condition with a single entry holds if the entry does. -/
theorem holds_condition_singleton (key : String) (v : Value) :
  Operator.condition.holds taken (.map [(key, v)]) record = entryHolds taken key v record
  := by
  rw [holds_condition, List.all_cons, List.all_nil, Bool.and_true]

/-- A conjunction holds if all its branches do. -/
theorem holds_conjunction (items : List Value) :
  Operator.conjunction.holds taken (.array items) record
    = items.all fun v => Operator.condition.holds taken v record
  := by
  rw [Operator.holds]
  simp

/-- A disjunction holds if one of its branches does. -/
theorem holds_disjunction (items : List Value) :
  Operator.disjunction.holds taken (.array items) record
    = items.any fun v => Operator.condition.holds taken v record
  := by
  rw [Operator.holds]
  simp

/-- On an array a literal argument holds in one of the ways in which it can hold for arrays. -/
theorem holds_literal_of_isArray (h : record.isArray) (v : Value) :
  Operator.literal.holds taken v record = Operator.arrayRecord.holds taken v record
  := by
  rw [Operator.holds.eq_def]
  apply if_pos h

/-- On any other record a literal argument holds by its own kind. -/
theorem holds_literal_of_not_isArray (h : ¬record.isArray) (v : Value) :
  Operator.literal.holds taken v record
    = match v with
      | .map entries => Operator.condition.holds taken (.map entries) record
      | .regex p => record.asString?.any p.isMatch
      | .null => record.isMissing || Comparison.equal.holds record.orNull .null
      | v => Comparison.equal.holds record.orNull v
  := by
  rw [Operator.holds.eq_def]
  apply if_neg h

/-- On an array a condition holds if all entries of what it becomes do. -/
theorem holds_arrayRecord {entries whole : Entries}
    (h : arrayCondition Registry.core entries = .ok whole) :
  Operator.arrayRecord.holds taken (.map entries) record
    = whole.all fun e => entryHolds taken e.1 e.2 record
  := by
  rw [Operator.holds]
  split
  · rename_i whole' h'
    rw [h] at h'
    cases h'
    apply all_attach_entries
  · rename_i h'
    rw [h] at h'
    cases h'

/-- A literal map that is the same condition on an array holds of all records alike. -/
theorem holds_literal_of_arrayCondition {entries : Entries}
    (h : arrayCondition Registry.core entries = .ok entries) :
  Operator.literal.holds taken (.map entries) record
    = Operator.condition.holds taken (.map entries) record
  := by
  by_cases hrecord : record.isArray
  · rw [holds_literal_of_isArray taken record hrecord, holds_arrayRecord taken record h, holds_condition]
  · rw [holds_literal_of_not_isArray taken record hrecord]

end

end DocQuery
