import DocQuery.Extension.Operators
import DocQuery.Matcher
import Mathlib.Algebra.Order.Group.Unbundled.Int

/-!
# Remainders

The remainder operator takes a pair of whole numbers whose first is not zero, and nothing else. Whether it
is prepared or not, its matcher finds the whole numbers that leave the given remainder, which is never
negative. It comes to an answer on every record but one: the least number overflows when it is divided by
minus one.
-/

namespace DocQuery

namespace Remainder

/-- An argument is accepted if it is a pair of whole numbers and the first is not zero. -/
theorem ofValue?_eq_some_iff {argument : Value} {m : Remainder} :
  ofValue? argument = some m
    ↔ argument = .array [.int m.divisor, .int m.remainder] ∧ m.divisor ≠ 0
  := by
  obtain ⟨divisor, remainder⟩ := m
  constructor
  · intro h
    unfold ofValue? at h
    split at h
    · split at h
      · cases h
      · rename_i hne
        cases h
        exact ⟨rfl, hne⟩
    · cases h
  · rintro ⟨rfl, hne⟩
    exact if_neg hne

/-- The division of the record overflows. -/
def Overflows (m : Remainder) (record : Value) : Prop := record = .int Int64.minValue ∧ m.divisor = -1

/-- The record leaves the remainder: the rest behind a multiple of the divisor, neither negative nor as
large as the divisor. -/
def Leaves (m : Remainder) (record : Value) : Prop :=
  ∃ (n : Int64) (quotient : ℤ), record = .int n
    ∧ n.toInt = m.divisor.toInt * quotient + m.remainder.toInt
    ∧ 0 ≤ m.remainder.toInt ∧ m.remainder.toInt < |m.divisor.toInt|

theorem test_of_overflows {m : Remainder} {record : Value} (h : m.Overflows record) :
  m.test record = .error .overflow
  := by
  obtain ⟨rfl, hdivisor⟩ := h
  exact if_pos ⟨rfl, hdivisor⟩

/-- The rest of a division that is neither negative nor as large as the divisor is the remainder. -/
theorem emod_eq_iff_exists {n divisor remainder : ℤ} (h : divisor ≠ 0) :
  n % divisor = remainder
    ↔ ∃ quotient, n = divisor * quotient + remainder ∧ 0 ≤ remainder ∧ remainder < |divisor|
  := by
  constructor
  · rintro rfl
    exact ⟨n / divisor, (Int.mul_ediv_add_emod n divisor).symm, Int.emod_nonneg n h,
      Int.emod_lt_abs n h⟩
  · rintro ⟨quotient, rfl, hnonneg, hlt⟩
    rw [Int.mul_add_emod_self_left, ← Int.emod_abs, Int.emod_eq_of_lt hnonneg hlt]

theorem test_of_not_overflows {m : Remainder} (hdivisor : m.divisor ≠ 0) {record : Value}
    (h : ¬m.Overflows record) :
  ∃ b, m.test record = .ok b ∧ (b = true ↔ m.Leaves record)
  := by
  have hne : m.divisor.toInt ≠ 0 := fun h => hdivisor (Int64.toInt_inj.mp h)
  cases record with
  | int n =>
    have hfits : ¬(n = Int64.minValue ∧ m.divisor = -1) := by
      rintro ⟨rfl, hminus⟩
      exact h ⟨rfl, hminus⟩
    refine ⟨_, if_neg hfits, ?_⟩
    rw [beq_iff_eq, emod_eq_iff_exists hne]
    constructor
    · rintro ⟨quotient, hquotient⟩
      exact ⟨n, quotient, rfl, hquotient⟩
    · rintro ⟨_, quotient, ⟨⟩, hquotient⟩
      exact ⟨quotient, hquotient⟩
  | _ => exact ⟨false, rfl, by simp [Leaves]⟩

end Remainder

/-- What the remainder operator compiles to is a matcher with its test. -/
theorem ofOperator?_remainder_eq_ok_iff {c : Context} {argument : Value} {m : Matcher} :
  Matcher.ofOperator? c remainderOperator argument = .ok m
    ↔ ∃ x : Remainder, Remainder.ofValue? argument = some x
      ∧ m = .new c argument (.leaf (.probe x.probe))
  := by
  have hbound : buildBound argument = 64 * argument.height + 255 + 1 := by
    unfold buildBound
    omega
  rw [Matcher.ofOperator?, Operator.build?, hbound, remainderOperator, build]
  cases h : Remainder.ofValue? argument with
  | none => simp [h, Except.map]
  | some x => simp [h, Except.map, eq_comm]

/-- The matcher of a pair of whole numbers. -/
theorem ofOperator?_remainder_of_ne (c : Context) (divisor remainder : Int64)
    (h : divisor ≠ 0) :
  Matcher.ofOperator? c remainderOperator (.array [.int divisor, .int remainder])
    = .ok (.new c (.array [.int divisor, .int remainder])
      (.leaf (.probe (Remainder.mk divisor remainder).probe)))
  := by
  apply ofOperator?_remainder_eq_ok_iff.mpr
  exact ⟨⟨divisor, remainder⟩, Remainder.ofValue?_eq_some_iff.mpr ⟨rfl, h⟩, rfl⟩

/-- A matcher with a remainder answers as the test of the remainder does, and stays what it is. -/
theorem Matcher.answers_remainder (c : Context) (argument : Value) (x : Remainder) (record : Value) :
  let m : Matcher := .new c argument (.leaf (.probe x.probe))
  m.evaluate record = (x.test record).map (fun b => (.ok b, m))
    ∧ m.test record = (x.test record).map fun b => (.ok b, m.prepare)
  := by
  have hbound : ∃ k, evaluationBound argument record = k + 1 := by
    apply Nat.exists_eq_add_of_le'
    exact Nat.mul_pos (Nat.mul_pos (by decide) (Nat.succ_pos _)) (Nat.succ_pos _)
  obtain ⟨k, hk⟩ := hbound
  intro m
  have hstep : m.node.evaluate m.context (evaluationBound m.argument record) record
      = (x.test record).map fun b => (.ok b, m.node) := by
    rw [show evaluationBound m.argument record = k + 1 from hk]
    simp only [m, Matcher.new, Node.evaluate, Leaf.test, Remainder.probe]
    cases x.test record <;> rfl
  have hevaluate : m.evaluate record = (x.test record).map fun b => (.ok b, m) := by
    cases h : x.test record with
    | error abort =>
      rw [h] at hstep
      apply Ensures.pmap_eq_error_iff.mpr hstep
    | ok b =>
      rw [h] at hstep
      apply Ensures.pmap_of_eq_ok _ _ hstep
  refine ⟨hevaluate, ?_⟩
  rw [m.test_eq, hevaluate]
  cases x.test record <;> rfl

/-- The remainder operator takes exactly the pairs of whole numbers whose first is not zero. Unless the
least number is divided by minus one, which overflows, its matcher comes to a truth value, prepared or not,
and matches exactly the whole numbers that leave the remainder. -/
theorem remainder_matches_iff {c : Context} {argument : Value} {m : Matcher}
    (h : Matcher.ofOperator? c remainderOperator argument = .ok m) (record : Value) :
  ∃ x : Remainder, argument = .array [.int x.divisor, .int x.remainder] ∧ x.divisor ≠ 0
    ∧ (¬x.Overflows record →
      ∃ b, m.evaluate record = .ok (.ok b, m) ∧ m.test record = .ok (.ok b, m.prepare)
        ∧ (b = true ↔ x.Leaves record))
    ∧ (x.Overflows record →
      m.evaluate record = .error .overflow ∧ m.test record = .error .overflow)
  := by
  obtain ⟨x, hx, rfl⟩ := ofOperator?_remainder_eq_ok_iff.mp h
  obtain ⟨hargument, hdivisor⟩ := Remainder.ofValue?_eq_some_iff.mp hx
  obtain ⟨hevaluate, htest⟩ := Matcher.answers_remainder c argument x record
  refine ⟨x, hargument, hdivisor, ?_, ?_⟩
  · intro hfits
    obtain ⟨b, hb, hiff⟩ := Remainder.test_of_not_overflows hdivisor hfits
    rw [hb] at hevaluate htest
    exact ⟨b, hevaluate, htest, hiff⟩
  · intro hover
    rw [Remainder.test_of_overflows hover] at hevaluate htest
    exact ⟨hevaluate, htest⟩

/-- The least number leaves one when it is divided by minus three. -/
theorem remainder_matches_iff_least :
  ∃ m, Matcher.ofOperator? (.new .extended []) remainderOperator (.array [.int (-3), .int 1]) = .ok m
    ∧ m.evaluate (.int Int64.minValue) = .ok (.ok true, m)
    ∧ m.test (.int Int64.minValue) = .ok (.ok true, m.prepare)
  := by
  have hbuild := ofOperator?_remainder_of_ne (.new .extended []) (-3) 1 (by decide)
  obtain ⟨⟨_, _⟩, ⟨⟩, -, hfits, -⟩ := remainder_matches_iff hbuild (.int Int64.minValue)
  obtain ⟨b, hevaluate, htest, hiff⟩ := hfits (fun h => absurd h.2 (by decide))
  have hleaves : Remainder.Leaves ⟨-3, 1⟩ (.int Int64.minValue) :=
    ⟨_, 3074457345618258603, rfl, by decide⟩
  rw [hiff.mpr hleaves] at hevaluate htest
  exact ⟨_, hbuild, hevaluate, htest⟩

/-- The least number leaves nothing when it is divided by minus one, but the division overflows. -/
theorem least_number_overflows :
  ∃ m, Matcher.ofOperator? (.new .extended []) remainderOperator (.array [.int (-1), .int 0]) = .ok m
    ∧ Remainder.Leaves ⟨-1, 0⟩ (.int Int64.minValue)
    ∧ m.evaluate (.int Int64.minValue) = .error .overflow
    ∧ m.test (.int Int64.minValue) = .error .overflow
  := by
  have hbuild := ofOperator?_remainder_of_ne (.new .extended []) (-1) 0 (by decide)
  obtain ⟨hevaluate, htest⟩ :=
    Matcher.answers_remainder (.new .extended []) (.array [.int (-1), .int 0]) ⟨-1, 0⟩ (.int Int64.minValue)
  rw [Remainder.test_of_overflows ⟨rfl, rfl⟩] at hevaluate htest
  exact ⟨_, hbuild, ⟨_, 9223372036854775808, rfl, by decide⟩, hevaluate, htest⟩

end DocQuery
