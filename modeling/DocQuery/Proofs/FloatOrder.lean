import DocQuery.Proofs.Floats
import DocQuery.Value.Json
import DocQuery.Value.Order
import Mathlib

/-!
# The order of floating point numbers

A floating point number denotes a rational number or one of the two infinities, unless it is no number. It
is written in only one way as a whole number times a power of two, with as many digits as there are. So
numbers are compared by their powers first, and two floating point numbers have the order of what they
denote.
-/

namespace DocQuery

open Float.Model (UnpackedFloat)

/-! ### What is denoted -/

/-- The rational numbers and two infinities. -/
abbrev Extended := WithBot (WithTop ℚ)

/-- A rational number among them. -/
def Extended.ofRat (q : ℚ) : Extended := ((q : WithTop ℚ) : WithBot (WithTop ℚ))

/-- A number with a sign. -/
def signed : UnpackedFloat.Sign → ℚ → ℚ
  | .negative, q => -q
  | .positive, q => q

/-- What an unpacked number denotes. -/
def denoted? : UnpackedFloat → Option Extended
  | .notANumber => none
  | .infinity .positive => some ⊤
  | .infinity .negative => some ⊥
  | .zero _ => some (.ofRat 0)
  | .finite sign m e _ => some (.ofRat (signed sign (m * 2 ^ e)))

/-- The number that a floating point number denotes, unless it is no number. -/
def floatNumber? (x : Float) : Option Extended := denoted? x.toModel.unpack

/-- A whole number and a power of two as they are used for a floating point number: the whole number has 53
binary digits, or else the power is the least one. -/
structure Canonical (m : ℕ) (e : ℤ) : Prop where
  lt : m < 2 ^ 53
  least : -1074 ≤ e
  full : 2 ^ 52 ≤ m ∨ e = -1074

/-- A finite number is in the form that is used for it. -/
def Stored : UnpackedFloat → Prop
  | .finite _ m e _ => Canonical m e ∧ e ≤ 971
  | _ => True

theorem mul_two_zpow_pos {m : ℕ} (h : 0 < m) (e : ℤ) :
  (0 : ℚ) < m * 2 ^ e
  := mul_pos (Nat.cast_pos.mpr h) (zpow_pos two_pos e)

/-- The larger power of two belongs to the larger number. -/
theorem Canonical.lt_of_lt {m m' : ℕ} {e e' : ℤ} (h : Canonical m e) (h' : Canonical m' e') (he : e < e') :
  (m : ℚ) * 2 ^ e < m' * 2 ^ e'
  := by
  have hfull : 2 ^ 52 ≤ m' := h'.full.resolve_right (by have := h.least; omega)
  have hm : (m : ℚ) < 2 ^ 53 := by exact_mod_cast h.lt
  have hm' : (2 : ℚ) ^ 52 ≤ m' := by exact_mod_cast hfull
  have hpow : (2 : ℚ) ^ (e + 1) ≤ 2 ^ e' := zpow_le_zpow_right₀ one_le_two he
  calc (m : ℚ) * 2 ^ e
    _ < 2 ^ 53 * 2 ^ e := mul_lt_mul_of_pos_right hm (zpow_pos two_pos e)
    _ = 2 ^ 52 * 2 ^ (e + 1) := by rw [zpow_add_one₀ two_ne_zero]; ring
    _ ≤ m' * 2 ^ e' := mul_le_mul hm' hpow (zpow_nonneg two_pos.le _) (Nat.cast_nonneg m')

/-- Comparing the powers first, and then the whole numbers, compares the numbers. -/
theorem Canonical.compare_eq {m m' : ℕ} {e e' : ℤ} (h : Canonical m e) (h' : Canonical m' e') :
  (compare e e').then (compare m m') = compare ((m : ℚ) * 2 ^ e) (m' * 2 ^ e')
  := by
  obtain hlt | rfl | hgt := lt_trichotomy e e'
  · rw [compare_lt_iff_lt.mpr hlt, compare_lt_iff_lt.mpr (h.lt_of_lt h' hlt)]
    rfl
  · have hmono : StrictMono fun m : ℕ => (m : ℚ) * 2 ^ e := fun m m' hlt =>
      mul_lt_mul_of_pos_right (Nat.cast_lt.mpr hlt) (zpow_pos two_pos e)
    rw [compare_eq_iff_eq.mpr rfl, ← cmp_eq_compare, ← cmp_eq_compare]
    exact (hmono.cmp_map_eq m m').symm
  · rw [compare_gt_iff_gt.mpr hgt, compare_gt_iff_gt.mpr (h'.lt_of_lt h hgt)]
    rfl

theorem toNat_unpackExponent (x : Float) :
  (@UnpackedFloat.unpackExponent Float.Model.Format.binary64 x.toModel.toBits.toBitVec).toNat
    = (FloatParts.of x).exponent
  := by
  simp [UnpackedFloat.unpackExponent, Nat.shiftRight_eq_div_pow]
  rfl

theorem toNat_unpackMantissa (x : Float) :
  (@UnpackedFloat.unpackMantissa Float.Model.Format.binary64 x.toModel.toBits.toBitVec).toNat
    = (FloatParts.of x).fraction
  := by
  simp [UnpackedFloat.unpackMantissa]
  rfl

theorem unpackExponent_eq_iff (x : Float) (n : BitVec 11) :
  @UnpackedFloat.unpackExponent Float.Model.Format.binary64 x.toModel.toBits.toBitVec = n
    ↔ (FloatParts.of x).exponent = n.toNat
  := by
  rw [← toNat_unpackExponent]
  apply BitVec.toNat_inj.symm

/-- A number is finite exactly if its exponent is not the greatest one. -/
theorem isFiniteNumber_eq (x : Float) :
  isFiniteNumber x = x.isFinite
  := by
  unfold isFiniteNumber Float.isFinite Float.Model.isFinite Float.Model.unpack UnpackedFloat.unpack
  dsimp only
  have hmax := unpackExponent_eq_iff x (-1#11)
  change _ ↔ _ = 2047 at hmax
  split
  · rename_i h
    rw [hmax.mp h]
    split <;> rfl
  · rename_i h
    rw [bne_iff_ne.mpr (mt hmax.mpr h)]
    split
    · split <;> rfl
    · rfl

/-- Floating point numbers are unpacked in the form that is used for them. -/
theorem stored_unpack (x : Float) :
  Stored x.toModel.unpack
  := by
  have hbias : Float.Model.Format.binary64.exponentBias = 1023 := by decide
  have hmax := unpackExponent_eq_iff x (-1#11)
  change _ ↔ _ = 2047 at hmax
  have hzero := unpackExponent_eq_iff x 0
  change _ ↔ _ = 0 at hzero
  have hlt : (FloatParts.of x).exponent < 2 ^ 11 := Nat.mod_lt _ (by decide)
  have hlt' := FloatParts.fraction_of_lt x
  unfold Float.Model.unpack UnpackedFloat.unpack
  dsimp only
  rw [hbias, toNat_unpackExponent]
  split
  · split <;> trivial
  · rename_i h
    replace h := mt hmax.mpr h
    split
    · rename_i h'
      replace h' := hzero.mp h'
      split
      · trivial
      · rw [Stored, toNat_unpackMantissa, h']
        exact ⟨⟨by omega, by decide, .inr (by decide)⟩, by decide⟩
    · rename_i h'
      replace h' := mt hzero.mpr h'
      rw [Stored, BitVec.toNat_append, ← Nat.shiftLeft_add_eq_or_of_lt (BitVec.isLt _),
        toNat_unpackMantissa]
      change Canonical (2 ^ 52 + (FloatParts.of x).fraction) _ ∧ _
      exact ⟨⟨by omega, by omega, .inl (by omega)⟩, by omega⟩

/-! ### The order -/

theorem Extended.ofRat_strictMono :
  StrictMono ofRat
  := WithBot.coe_strictMono.comp WithTop.coe_strictMono

theorem Extended.cases (p : Extended) :
  p = ⊥ ∨ p = ⊤ ∨ ∃ q, p = ofRat q
  := by
  induction p using WithBot.recBotCoe with
  | bot => exact .inl rfl
  | coe p =>
    induction p using WithTop.recTopCoe with
    | top => exact .inr (.inl rfl)
    | coe q => exact .inr (.inr ⟨q, rfl⟩)

theorem Extended.compare_ofRat (p q : ℚ) :
  compare (ofRat p) (ofRat q) = compare p q
  := by
  rw [← cmp_eq_compare, ← cmp_eq_compare]
  apply ofRat_strictMono.cmp_map_eq

/-- Two finite numbers have the order of what they denote. -/
theorem compare_finite {s s' : UnpackedFloat.Sign} {m m' : ℕ} {e e' : ℤ} (hm : 0 < m) (hm' : 0 < m')
    (h : Canonical m e) (h' : Canonical m' e') :
  (UnpackedFloat.finite s m e hm).compare (.finite s' m' e' hm')
    = some (compare (signed s (m * 2 ^ e)) (signed s' (m' * 2 ^ e')))
  := by
  have hpos := mul_two_zpow_pos hm e
  have hpos' := mul_two_zpow_pos hm' e'
  cases s <;> cases s' <;> rw [signed, signed]
  · have hneg : StrictAnti fun q : ℚ => -q := fun _ _ => neg_lt_neg
    rw [← cmp_eq_compare, hneg.cmp_map_eq, cmp_eq_compare, Std.OrientedOrd.eq_swap, ← h.compare_eq h']
    rfl
  · rw [compare_lt_iff_lt.mpr ((neg_neg_of_pos hpos).trans hpos')]
    rfl
  · rw [compare_gt_iff_gt.mpr ((neg_neg_of_pos hpos').trans hpos)]
    rfl
  · exact congrArg some (h.compare_eq h')

/-- Unpacked numbers are compared by what they denote. -/
theorem Stored.compare_eq {u v : UnpackedFloat} (hu : Stored u) (hv : Stored v) :
  u.compare v = Option.map₂ compare (denoted? u) (denoted? v)
  := by
  cases u with
  | notANumber => cases v <;> rfl
  | infinity s =>
    cases v with
    | notANumber => cases s <;> rfl
    | infinity s' => cases s <;> cases s' <;> rfl
    | zero s' => cases s <;> rfl
    | finite s' m e hm => cases s <;> cases s' <;> rfl
  | zero s =>
    cases v with
    | notANumber => rfl
    | infinity s' => cases s <;> cases s' <;> rfl
    | zero s' => cases s <;> cases s' <;> rfl
    | finite s' m e hm =>
      change _ = some (compare (Extended.ofRat _) _)
      rw [Extended.compare_ofRat]
      cases s' <;> rw [signed]
      · rw [compare_gt_iff_gt.mpr (neg_neg_of_pos (mul_two_zpow_pos hm e))]
        rfl
      · rw [compare_lt_iff_lt.mpr (mul_two_zpow_pos hm e)]
        rfl
  | finite s m e hm =>
    cases v with
    | notANumber => cases s <;> rfl
    | infinity s' => cases s <;> cases s' <;> rfl
    | zero s' =>
      change _ = some (compare (Extended.ofRat _) _)
      rw [Extended.compare_ofRat]
      cases s <;> rw [signed]
      · rw [compare_lt_iff_lt.mpr (neg_neg_of_pos (mul_two_zpow_pos hm e))]
        rfl
      · rw [compare_gt_iff_gt.mpr (mul_two_zpow_pos hm e)]
        rfl
    | finite s' m' e' hm' =>
      rw [compare_finite hm hm' hu.1 hv.1]
      exact congrArg some (Extended.compare_ofRat _ _).symm

theorem float_lt_iff (x y : Float) :
  x < y ↔ Option.map₂ compare (floatNumber? x) (floatNumber? y) = some .lt
  := by
  have hlt : x < y ↔ (x.toModel.unpack.compare y.toModel.unpack == some .lt) = true := by
    simp [LT.lt, Float.lt, Float.Model.lt, UnpackedFloat.lt]
  rw [hlt, beq_iff_eq, (stored_unpack x).compare_eq (stored_unpack y)]
  rfl

theorem float_beq_iff (x y : Float) :
  x == y ↔ Option.map₂ compare (floatNumber? x) (floatNumber? y) = some .eq
  := by
  have hbeq : x == y ↔ (x.toModel.unpack.compare y.toModel.unpack == some .eq) = true := Iff.rfl
  rw [hbeq, beq_iff_eq, (stored_unpack x).compare_eq (stored_unpack y)]
  rfl

/-- Floating point numbers are compared by what they denote. -/
theorem compareFloats?_eq (x y : Float) :
  compareFloats? x y = Option.map₂ compare (floatNumber? x) (floatNumber? y)
  := by
  unfold compareFloats?
  simp only [float_lt_iff, float_beq_iff]
  cases floatNumber? x with
  | none => simp
  | some p =>
    cases floatNumber? y with
    | none => simp
    | some q =>
      simp only [Option.map₂_some_some, Option.some.injEq]
      rw [Std.OrientedOrd.eq_swap (a := q) (b := p)]
      cases compare p q <;> rfl

/-- Floating point numbers are equal if they are compared as such. -/
theorem float_beq_iff_compareFloats? (x y : Float) :
  x == y ↔ compareFloats? x y = some .eq
  := by
  rw [compareFloats?_eq, float_beq_iff]

/-- Only what denotes numbers is compared. -/
theorem compareFloats?_eq_some {x y : Float} {o : Ordering} (h : compareFloats? x y = some o) :
  ∃ p q, floatNumber? x = some p ∧ floatNumber? y = some q ∧ compare p q = o
  := by
  rwa [compareFloats?_eq, Option.map₂_eq_some_iff] at h

theorem compareFloats?_swap (x y : Float) :
  compareFloats? y x = (compareFloats? x y).map Ordering.swap
  := by
  rw [compareFloats?_eq, compareFloats?_eq]
  cases floatNumber? x <;> cases floatNumber? y <;> try rfl
  exact congrArg some Std.OrientedOrd.eq_swap

end DocQuery
