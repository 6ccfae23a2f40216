import DocQuery.Proofs.Numerals
import Mathlib.Tactic.Linarith
import Mathlib.Tactic.NormNum
import Mathlib.Tactic.Positivity

/-!
# The shortest decimal rounds to the number

The shortest decimal of a number lies in the interval of the reals that round to the number. On a
grid that is finer than the interval one of the two neighbours of the number lies in it, and with
seventeen digits the grid is fine enough.
-/

namespace DocQuery

/-! ### Decimals -/

/-- A power as a quotient of powers, of which one is trivial. -/
theorem zpow_eq_div (a : ℚ) (k : ℤ) :
  a ^ k = a ^ k.toNat / a ^ (-k).toNat
  := by
  cases k with
  | ofNat n => simp
  | negSucc n =>
    rw [zpow_negSucc]
    simp [Int.neg_negSucc]

/-- Zeros at the end of the digits of a number are factors of ten. -/
theorem digits_eq_mul (n : Nat) :
  n = n / 10 ^ ((decimalDigits n).reverse.takeWhile (· = '0')).length
    * 10 ^ ((decimalDigits n).reverse.takeWhile (· = '0')).length
  := by
  have hvalue := digitsValue_decimalDigits n
  generalize decimalDigits n = digits at hvalue
  have hsplit := List.takeWhile_append_dropWhile (p := (· = '0')) (l := digits.reverse)
  have hzeros : ∀ c ∈ digits.reverse.takeWhile (· = '0'), c = '0' := by
    intro c hc
    simpa using List.all_eq_true.mp List.all_takeWhile c hc
  generalize digits.reverse.takeWhile (· = '0') = tail at hsplit hzeros
  have hreverse : digits = (digits.reverse.dropWhile (· = '0')).reverse ++ zeros tail.length := by
    rw [zeros, ← List.reverse_replicate, ← List.eq_replicate_of_mem hzeros, ← List.reverse_append,
      hsplit, List.reverse_reverse]
  rw [hreverse, digitsValue_append_zeros] at hvalue
  rw [← hvalue, Nat.mul_div_cancel _ (Nat.pow_pos (by decide))]

/-- A decimal without the zeros at the end of its digits is the same number. -/
theorem Decimal.value_strip (d : Decimal) :
  d.strip.value = d.value
  := by
  unfold strip
  dsimp only
  split
  · rfl
  · have hdigits := digits_eq_mul d.digits
    generalize ((decimalDigits d.digits).reverse.takeWhile (· = '0')).length = k at hdigits ⊢
    unfold value
    have hcast : (d.digits : ℚ) = ((d.digits / Nat.pow 10 k : ℕ) : ℚ) * 10 ^ k := by
      exact_mod_cast hdigits
    rw [hcast, zpow_add₀ (by norm_num), zpow_natCast]
    ring

/-! ### Grids -/

namespace Rounding

/-- The number lies in the interval. -/
def Contains (r : Rounding) (x : ℚ) : Prop :=
  if r.closed then r.low ≤ x * r.unit ∧ x * r.unit ≤ r.high
  else r.low < x * r.unit ∧ x * r.unit < r.high

/-- The number lies inside its interval, and the interval is not too small for decimals of seventeen
digits. -/
structure Wide (r : Rounding) : Prop where
  unit : 0 < r.unit
  low : r.low < r.mid
  high : r.mid < r.high
  wide : (r.mid : ℚ) < (r.high - r.low) * 10 ^ 16

variable {r : Rounding}

theorem holds_iff {factor n : Nat} (hfactor : 0 < factor) {x : ℚ} (hx : x * r.unit * factor = n) :
  r.holds factor n ↔ r.Contains x
  := by
  have hpos : (0 : ℚ) < factor := Nat.cast_pos.mpr hfactor
  have hle : ∀ m : Nat, m * factor ≤ n ↔ (m : ℚ) ≤ x * r.unit := by
    intro m
    rw [← mul_le_mul_iff_left₀ hpos, hx]
    exact_mod_cast Iff.rfl
  have hge : ∀ m : Nat, n ≤ m * factor ↔ x * r.unit ≤ (m : ℚ) := by
    intro m
    rw [← mul_le_mul_iff_left₀ hpos, hx]
    exact_mod_cast Iff.rfl
  unfold holds Contains
  split
  · simp [hle, hge]
  · simp only [Bool.and_eq_true, decide_eq_true_eq, ← Nat.not_le, hle, hge, not_le]

/-- A multiple of a power of ten on the grid. -/
theorem grid_holds_iff (k : ℤ) (b : Nat) :
  r.holds (Nat.pow 10 (-k).toNat) (b * (r.unit * Nat.pow 10 k.toNat)) ↔ r.Contains (b * 10 ^ k)
  := by
  apply holds_iff (Nat.pow_pos (by decide))
  rw [zpow_eq_div]
  have hne : (10 : ℚ) ^ (-k).toNat ≠ 0 := by positivity
  push_cast [Nat.pow_eq]
  field_simp

/-- What is found on a grid lies in the interval. -/
theorem contains_of_onGrid? {k : ℤ} {d : Nat} (h : r.onGrid? k = some d) :
  r.Contains (d * 10 ^ k)
  := by
  unfold onGrid? at h
  dsimp only at h
  split at h
  · rename_i hbelow habove
    cases h
    split
    · apply (grid_holds_iff k _).mp hbelow
    · apply (grid_holds_iff k _).mp habove
  · rename_i hbelow _
    cases h
    apply (grid_holds_iff k _).mp hbelow
  · rename_i _ habove
    cases h
    apply (grid_holds_iff k _).mp habove
  · cases h

/-- On a grid that is finer than the interval something is found. -/
theorem exists_onGrid? (hr : r.Wide) {k : ℤ} (hk : (r.unit : ℚ) * 10 ^ k < r.high - r.low) :
  ∃ d, r.onGrid? k = some d
  := by
  unfold onGrid?
  dsimp only
  split
  · exact ⟨_, rfl⟩
  · exact ⟨_, rfl⟩
  · exact ⟨_, rfl⟩
  · rename_i hbelow habove
    exfalso
    have hlow : (r.low : ℚ) < r.mid := Nat.cast_lt.mpr hr.low
    have hhigh : (r.mid : ℚ) < r.high := Nat.cast_lt.mpr hr.high
    have hunit : (0 : ℚ) < r.unit := Nat.cast_pos.mpr hr.unit
    have hfactor : (0 : ℚ) < 10 ^ (-k).toNat := by positivity
    have hstep : 0 < r.unit * Nat.pow 10 k.toNat := Nat.mul_pos hr.unit (Nat.pow_pos (by decide))
    have hscale : (10 : ℚ) ^ k * 10 ^ (-k).toNat = 10 ^ k.toNat := by
      rw [zpow_eq_div 10]
      field_simp
    have hfloor := Nat.div_mul_le_self (r.mid * Nat.pow 10 (-k).toNat) (r.unit * Nat.pow 10 k.toNat)
    have hceil := Nat.lt_div_mul_add hstep (a := r.mid * Nat.pow 10 (-k).toNat)
    have hbelow := mt (grid_holds_iff k _).mpr (Bool.eq_false_iff.mp hbelow)
    have habove := mt (grid_holds_iff k _).mpr (Bool.eq_false_iff.mp habove)
    generalize r.mid * Nat.pow 10 (-k).toNat / (r.unit * Nat.pow 10 k.toNat) = b
      at hfloor hceil hbelow habove
    have hmid : (b : ℚ) * 10 ^ k * r.unit ≤ r.mid := by
      have h : (b : ℚ) * (r.unit * 10 ^ k.toNat) ≤ r.mid * 10 ^ (-k).toNat := by exact_mod_cast hfloor
      rw [← hscale] at h
      apply le_of_mul_le_mul_right _ hfactor
      linarith
    have hmid' : (r.mid : ℚ) < ((b + 1 : ℕ) : ℚ) * 10 ^ k * r.unit := by
      have h : (r.mid : ℚ) * 10 ^ (-k).toNat < b * (r.unit * 10 ^ k.toNat) + r.unit * 10 ^ k.toNat := by
        exact_mod_cast hceil
      rw [← hscale] at h
      apply lt_of_mul_lt_mul_right _ hfactor.le
      push_cast
      linarith
    have hleft : (b : ℚ) * 10 ^ k * r.unit ≤ r.low := by
      unfold Contains at hbelow
      by_contra h
      split at hbelow <;> apply hbelow <;> constructor <;> linarith
    have hright : (r.high : ℚ) ≤ ((b + 1 : ℕ) : ℚ) * 10 ^ k * r.unit := by
      unfold Contains at habove
      by_contra h
      split at habove <;> apply habove <;> constructor <;> linarith
    push_cast at hright
    linarith

/-- The number has a digit at the place where its digits are said to begin. -/
theorem unit_mul_magnitude_le (hunit : 0 < r.unit) (hmid : 0 < r.mid) :
  (r.unit : ℚ) * 10 ^ r.magnitude ≤ r.mid
  := by
  have hlength : ∀ n k, 0 < k → ((decimalDigits n).length ≤ k ↔ n < 10 ^ k) :=
    fun n k => Nat.length_toDigits_le_iff (by decide)
  have hpos : ∀ n, 0 < (decimalDigits n).length := fun n => List.length_pos_iff.mpr (decimalDigits_ne_nil n)
  unfold magnitude
  split
  · rename_i hle
    have hq := Nat.div_mul_le_self r.mid r.unit
    have hq' : 0 < r.mid / r.unit := Nat.div_pos hle hunit
    have hk := hlength (r.mid / r.unit)
    have hp := hpos (r.mid / r.unit)
    generalize (decimalDigits (r.mid / r.unit)).length = k at hk hp
    obtain ⟨k, rfl⟩ := Nat.exists_eq_add_of_lt hp
    have hpow : 10 ^ k ≤ r.mid / r.unit := by
      cases k with
      | zero => exact hq'
      | succ k =>
        by_contra h
        have := (hk (k + 1) (Nat.succ_pos k)).mpr (Nat.lt_of_not_le h)
        omega
    have hnat : r.unit * 10 ^ k ≤ r.mid := by
      calc r.unit * 10 ^ k
        _ ≤ r.unit * (r.mid / r.unit) := Nat.mul_le_mul_left _ hpow
        _ = r.mid / r.unit * r.unit := Nat.mul_comm _ _
        _ ≤ r.mid := hq
    have hexponent : ((0 + k + 1 : ℕ) : ℤ) - 1 = (k : ℤ) := by omega
    rw [hexponent, zpow_natCast]
    exact_mod_cast hnat
  · rename_i hlt
    have hq := Nat.lt_div_mul_add hmid (a := r.unit - 1)
    have hk := (hlength ((r.unit - 1) / r.mid) _ (hpos _)).mp (Nat.le_refl _)
    generalize (decimalDigits ((r.unit - 1) / r.mid)).length = k at hk
    generalize (r.unit - 1) / r.mid = q at hq hk
    have hnat : r.unit ≤ r.mid * 10 ^ k := by
      calc r.unit
        _ ≤ q * r.mid + r.mid := by omega
        _ = r.mid * (q + 1) := by ring
        _ ≤ r.mid * 10 ^ k := Nat.mul_le_mul_left _ hk
    have hcast : (r.unit : ℚ) ≤ r.mid * 10 ^ k := by exact_mod_cast hnat
    rw [zpow_neg, zpow_natCast, ← div_eq_mul_inv, div_le_iff₀ (by positivity)]
    exact hcast

/-- The shortest decimal lies in the interval. -/
theorem contains_shortest (hr : r.Wide) :
  r.Contains r.shortest.value
  := by
  unfold shortest
  dsimp only
  rw [Decimal.value_strip]
  have hmid : 0 < r.mid := Nat.lt_of_le_of_lt (Nat.zero_le _) hr.low
  have hfine : (r.unit : ℚ) * 10 ^ (r.magnitude - ((16 : ℕ) : ℤ)) < r.high - r.low := by
    have hmagnitude := unit_mul_magnitude_le hr.unit hmid
    have hwide := hr.wide
    rw [zpow_sub₀ (by norm_num), zpow_natCast, ← mul_div_assoc, div_lt_iff₀ (by positivity)]
    linarith
  obtain ⟨d, hd⟩ := exists_onGrid? hr hfine
  generalize hgrids : (List.range maxDigits).map (fun n : ℕ => r.magnitude - (n : ℤ)) = grids
  have hmem : r.magnitude - ((16 : ℕ) : ℤ) ∈ grids := by
    rw [← hgrids]
    apply List.mem_map_of_mem (f := fun n : ℕ => r.magnitude - (n : ℤ)) (List.mem_range.mpr (by decide))
  have hsome : (grids.findSome? fun k => (r.onGrid? k).map fun d => Decimal.mk d k).isSome := by
    rw [List.findSome?_isSome_iff]
    exact ⟨_, hmem, by rw [hd]; rfl⟩
  obtain ⟨found, hfound⟩ := Option.isSome_iff_exists.mp hsome
  rw [hfound]
  obtain ⟨k, -, hk⟩ := List.exists_of_findSome?_eq_some hfound
  obtain ⟨d, hd, rfl⟩ := Option.map_eq_some_iff.mp hk
  apply contains_of_onGrid? hd

end Rounding

end DocQuery
