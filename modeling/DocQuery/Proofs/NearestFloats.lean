import DocQuery.Proofs.FloatOrder

/-!
# The nearest floating point number

An integer is rounded to a floating point number. If it has more than 53 binary digits, the further ones are
shifted out one by one. Of these it is kept which half of the last digit they amount to, and whether they
are more than the beginning of the half. So the number is rounded to the nearest one with 53 digits, and no
other floating point number is nearer to the integer.
-/

namespace DocQuery

open Float.Model
open UnpackedFloat (ExtendedMantissa)

/-! ### Packing -/

/-- A whole number with 53 binary digits and a power of two that is neither too small nor too large. -/
structure Normal (m : ℕ) (e : ℤ) : Prop where
  full : 2 ^ 52 ≤ m
  lt : m < 2 ^ 53
  least : -1074 ≤ e
  le : e ≤ 971

theorem Normal.pos {m : ℕ} {e : ℤ} (h : Normal m e) :
  0 < m
  := Nat.lt_of_lt_of_le (by decide) h.full

theorem Normal.log2 {m : ℕ} {e : ℤ} (h : Normal m e) :
  m.log2 = 52
  := (Nat.log2_eq_iff h.pos.ne').mpr ⟨h.full, h.lt⟩

theorem Normal.canonical {m : ℕ} {e : ℤ} (h : Normal m e) :
  Canonical m e
  := ⟨h.lt, h.least, .inl h.full⟩

/-- A normal number is packed into its sign, its exponent, and its digits but the first one. -/
theorem Normal.pack_eq {m : ℕ} {e : ℤ} (h : Normal m e) (sign : UnpackedFloat.Sign) :
  UnpackedFloat.pack .binary64 (.finite sign m e h.pos)
    = UnpackedFloat.packComponents .binary64 sign (BitVec.ofNat 11 (e + 1075).toNat) (BitVec.ofNat 52 m)
  := by
  have hbias : Format.binary64.exponentBias = 1023 := by decide
  have hbiased : (e + (1023 : ℕ) + (52 : ℕ)).toNat = (e + 1075).toNat := by omega
  have hle := h.le
  rw [UnpackedFloat.pack]
  dsimp only
  rw [h.log2, hbias, hbiased, if_neg (by omega), if_pos (by decide)]

/-- A normal number is unpacked as it was packed. -/
theorem Normal.unpack_pack {m : ℕ} {e : ℤ} (h : Normal m e) (sign : UnpackedFloat.Sign) :
  (Float.Model.pack (.finite sign m e h.pos)).unpack = .finite sign m e h.pos
  := by
  have hbias : Format.binary64.exponentBias = 1023 := by decide
  have hleast := h.least
  have hle := h.le
  have hexponent : (BitVec.ofNat 11 (e + 1075).toNat).toNat = (e + 1075).toNat := by
    rw [BitVec.toNat_ofNat]
    omega
  have hmantissa : (1#1 ++ BitVec.ofNat 52 m).toNat = m := by
    rw [BitVec.toNat_append, ← Nat.shiftLeft_add_eq_or_of_lt (BitVec.isLt _), BitVec.toNat_ofNat]
    have hfull := h.full
    have hlt := h.lt
    change 2 ^ 52 + m % 2 ^ 52 = m
    omega
  change UnpackedFloat.unpack .binary64 (UnpackedFloat.pack .binary64 _) = _
  rw [h.pack_eq, UnpackedFloat.unpack]
  dsimp only
  rw [UnpackedFloat.unpackExponent_packComponents, if_neg, if_neg, UnpackedFloat.finite.injEq]
  · refine ⟨?_, ?_, ?_⟩
    · rw [UnpackedFloat.unpackSign_packComponents, UnpackedFloat.Sign.ofBitVec_toBitVec]
    · rw [UnpackedFloat.unpackMantissa_packComponents, hmantissa]
    · rw [hexponent, hbias]
      omega
  · intro heq
    have hzero := congrArg BitVec.toNat heq
    rw [hexponent] at hzero
    change _ = 0 at hzero
    omega
  · intro heq
    have hmax := congrArg BitVec.toNat heq
    rw [hexponent] at hmax
    change _ = 2047 at hmax
    omega

/-! ### Rounding -/

/-- Between two whole numbers, which half a number is in, and whether it is at the beginning of the half. -/
def Describes (em : ExtendedMantissa) (v : ℚ) : Prop :=
  match em.roundBit, em.stickyBit with
  | false, false => v = em.mantissa
  | false, true => em.mantissa < v ∧ v < em.mantissa + 1 / 2
  | true, false => v = em.mantissa + 1 / 2
  | true, true => em.mantissa + 1 / 2 < v ∧ v < em.mantissa + 1

theorem Describes.shiftRightOne {em : ExtendedMantissa} {v : ℚ} (h : Describes em v) :
  Describes em.shiftRightOne (v / 2)
  := by
  obtain ⟨m, half, rest⟩ := em
  obtain ⟨q, rfl | rfl⟩ := Nat.even_or_odd' m
  · have hshift : (ExtendedMantissa.mk (2 * q) half rest).shiftRightOne = ⟨q, false, half || rest⟩ := by
      simp [ExtendedMantissa.shiftRightOne]
    rw [hshift]
    cases half <;> cases rest <;> simp only [Describes, Bool.or_false, Bool.or_true] at h ⊢ <;>
      push_cast at h ⊢
    · linarith
    all_goals constructor <;> linarith
  · have hshift : (ExtendedMantissa.mk (2 * q + 1) half rest).shiftRightOne = ⟨q, true, half || rest⟩ := by
      simp [ExtendedMantissa.shiftRightOne]
      omega
    rw [hshift]
    cases half <;> cases rest <;> simp only [Describes, Bool.or_false, Bool.or_true] at h ⊢ <;>
      push_cast at h ⊢
    · linarith
    all_goals constructor <;> linarith

theorem Describes.shiftRight {em : ExtendedMantissa} {v : ℚ} (h : Describes em v) (k : ℕ) :
  Describes (em >>> k) (v / 2 ^ k)
  := by
  induction k with
  | zero =>
    rw [pow_zero, div_one]
    exact h
  | succ k ih =>
    rw [pow_succ, ← div_div]
    exact ih.shiftRightOne

/-- No whole number is much nearer to what is described than the one it is rounded to. -/
theorem Describes.abs_sub_le {em : ExtendedMantissa} {v : ℚ} (h : Describes em v) :
  |em.roundedMantissa - v| ≤ 1 / 2
  := by
  obtain ⟨m, half, rest⟩ := em
  have hmod : m % 2 = 0 ∨ m % 2 = 1 := Nat.mod_two_eq_zero_or_one m
  rw [abs_le]
  cases half <;> cases rest <;> simp only [Describes] at h <;>
    simp only [ExtendedMantissa.roundedMantissa, ExtendedMantissa.accuracy,
      UnpackedFloat.Accuracy.roundToNearestEven]
  · constructor <;> linarith
  · constructor <;> linarith
  · obtain hmod | hmod := hmod <;> rw [hmod] <;> push_cast <;> constructor <;> linarith
  · push_cast
    constructor <;> linarith

theorem shiftToTargetExponent_eq {m : ℕ} {e : ℤ} (hm : 2 ^ 52 ≤ m) (he : -1074 ≤ e + (m.log2 - 52 : ℕ)) :
  UnpackedFloat.shiftToTargetExponent .binary64 m e .exact
    = (ExtendedMantissa.mk m false false >>> (m.log2 - 52), e + (m.log2 - 52 : ℕ))
  := by
  have hlog : 52 ≤ m.log2 := (Nat.le_log2 (by omega)).mpr hm
  have htarget : Format.binary64.targetExponent (totalExponent m e) = e + (m.log2 - 52 : ℕ) := by
    have hbits : Format.binary64.mantissaBits = 53 := by decide
    have hleast : Format.binary64.minExponent = -1074 := by decide
    unfold Format.targetExponent totalExponent
    rw [hbits, hleast]
    omega
  have hamount : (e + (m.log2 - 52 : ℕ) - e).toNat = m.log2 - 52 := by omega
  unfold UnpackedFloat.shiftToTargetExponent UnpackedFloat.shiftToExponent
  dsimp only
  rw [htarget, hamount]
  rfl

/-- Of a number with 53 binary digits or more, 53 digits are before the point if the others are put behind
it. -/
theorem div_two_pow_log2 {m : ℕ} (hm : 2 ^ 52 ≤ m) :
  (2 : ℚ) ^ 52 ≤ m / 2 ^ (m.log2 - 52) ∧ (m : ℚ) / 2 ^ (m.log2 - 52) < 2 ^ 53
  := by
  have hlog : 52 ≤ m.log2 := (Nat.le_log2 (by omega)).mpr hm
  have hpow : (0 : ℚ) < 2 ^ (m.log2 - 52) := pow_pos two_pos _
  have hle : 2 ^ m.log2 ≤ m := Nat.log2_self_le (by omega)
  have hlt : m < 2 ^ (m.log2 + 1) := Nat.lt_log2_self
  rw [le_div_iff₀ hpow, div_lt_iff₀ hpow, ← pow_add, ← pow_add, show 52 + (m.log2 - 52) = m.log2 by omega,
    show 53 + (m.log2 - 52) = m.log2 + 1 by omega]
  exact ⟨by exact_mod_cast hle, by exact_mod_cast hlt⟩

/-- A number with 53 binary digits or more is rounded to the nearest one with 53 digits and zeros. -/
theorem roundWithAccuracy_eq (sign : UnpackedFloat.Sign) {m : ℕ} {e : ℤ} (hm : 2 ^ 52 ≤ m)
    (hleast : -1074 ≤ e + (m.log2 - 52 : ℕ)) (hmost : e + (m.log2 - 52 : ℕ) ≤ 970) :
  ∃ (m' : ℕ) (e' : ℤ) (h : Normal m' e') (r : ℕ),
    UnpackedFloat.roundWithAccuracy .binary64 sign m e .exact = .finite sign m' e' h.pos
    ∧ e + (m.log2 - 52 : ℕ) ≤ e' ∧ (m' : ℚ) * 2 ^ e' = r * 2 ^ (e + (m.log2 - 52 : ℕ))
    ∧ |(r : ℚ) - m / 2 ^ (m.log2 - 52)| ≤ 1 / 2
  := by
  obtain ⟨hv, hv'⟩ := div_two_pow_log2 hm
  have hshift := shiftToTargetExponent_eq hm hleast
  have hdescribes : Describes (ExtendedMantissa.mk m false false) m := rfl
  have hnear := (hdescribes.shiftRight (m.log2 - 52)).abs_sub_le
  generalize e + (m.log2 - 52 : ℕ) = t at *
  generalize hr : (ExtendedMantissa.mk m false false >>> (m.log2 - 52)).roundedMantissa = r at hnear
  have hbounds := abs_le.mp hnear
  have hfull : 2 ^ 52 ≤ r := by
    have hlt : (2 ^ 52 : ℚ) < r + 1 := by linarith
    exact Nat.lt_succ_iff.mp (by exact_mod_cast hlt)
  have hle : r ≤ 2 ^ 53 := by
    have hlt : (r : ℚ) < 2 ^ 53 + 1 := by linarith
    exact Nat.lt_succ_iff.mp (by exact_mod_cast hlt)
  unfold UnpackedFloat.roundWithAccuracy
  rw [hshift]
  dsimp only
  rw [hr]
  obtain hlt | rfl := Nat.lt_or_eq_of_le hle
  · have hnormal : Normal r t := ⟨hfull, hlt, hleast, by omega⟩
    have hagain : UnpackedFloat.shiftToTargetExponent .binary64 r t .exact = (⟨r, false, false⟩, t) := by
      rw [shiftToTargetExponent_eq hfull (by omega), hnormal.log2]
      exact congrArg _ (add_zero t)
    refine ⟨r, t, hnormal, r, ?_, le_refl t, rfl, hnear⟩
    simp only [hagain]
    exact dif_neg hnormal.pos.ne'
  · have hnormal : Normal (2 ^ 52) (t + 1) := ⟨le_refl _, by decide, by omega, by omega⟩
    have hagain : UnpackedFloat.shiftToTargetExponent .binary64 (2 ^ 53) t .exact
        = (⟨2 ^ 52, false, false⟩, t + 1) := by
      rw [shiftToTargetExponent_eq hfull (by omega), Nat.log2_two_pow]
      rfl
    refine ⟨2 ^ 52, t + 1, hnormal, 2 ^ 53, ?_, by omega, ?_, hnear⟩
    · simp only [hagain]
      exact dif_neg hnormal.pos.ne'
    · rw [zpow_add_one₀ two_ne_zero]
      push_cast
      ring

/-! ### Nearness -/

/-- A number is one that floating point numbers can denote: zero, or a whole number and a power of two as
they are used for it, with a sign. -/
def Representable (q : ℚ) : Prop := q = 0 ∨ ∃ sign m e, Canonical m e ∧ q = signed sign (m * 2 ^ e)

theorem representable_of_floatNumber? {x : Float} {q : ℚ} (h : floatNumber? x = some (.ofRat q)) :
  Representable q
  := by
  have hstored := stored_unpack x
  unfold floatNumber? at h
  generalize x.toModel.unpack = u at h hstored
  cases u with
  | notANumber => cases h
  | infinity sign => cases sign <;> cases h
  | zero sign => exact .inl (Extended.ofRat_strictMono.injective (Option.some.inj h)).symm
  | finite sign m e hm =>
    exact .inr ⟨sign, m, e, hstored.1, (Extended.ofRat_strictMono.injective (Option.some.inj h)).symm⟩

theorem Representable.neg {q : ℚ} (h : Representable q) :
  Representable (-q)
  := by
  obtain rfl | ⟨sign, m, e, hcanonical, rfl⟩ := h
  · exact .inl neg_zero
  · cases sign
    · exact .inr ⟨.positive, m, e, hcanonical, neg_neg _⟩
    · exact .inr ⟨.negative, m, e, hcanonical, rfl⟩

/-- No number that floating point numbers can denote is nearer to the number than the given one. -/
def Nearest (n r : ℚ) : Prop := ∀ q, Representable q → |r - n| ≤ |q - n|

theorem Nearest.refl (n : ℚ) :
  Nearest n n
  := by
  intro q _
  rw [sub_self, abs_zero]
  apply abs_nonneg

theorem Nearest.neg {n r : ℚ} (h : Nearest n r) :
  Nearest (-n) (-r)
  := by
  intro q hq
  calc |-r - -n|
    _ = |r - n| := by rw [neg_sub_neg, abs_sub_comm]
    _ ≤ |-q - n| := h (-q) hq.neg
    _ = |q - -n| := by rw [abs_sub_comm, sub_neg_eq_add, sub_neg_eq_add, add_comm]

/-- A large number that is written with 53 binary digits is a multiple of a large power of two. -/
theorem Canonical.exists_mul {m : ℕ} {e t : ℤ} (h : Canonical m e)
    (hlt : (2 : ℚ) ^ 52 * 2 ^ t < m * 2 ^ e) :
  ∃ k : ℕ, (m : ℚ) * 2 ^ e = k * 2 ^ t
  := by
  have hle : t ≤ e := by
    by_contra hgt
    have hm : (m : ℚ) < 2 ^ 53 := by exact_mod_cast h.lt
    have hpow : (2 : ℚ) ^ (e + 1) ≤ 2 ^ t := zpow_le_zpow_right₀ one_le_two (by omega)
    have hpos : (0 : ℚ) < 2 ^ e := zpow_pos two_pos e
    rw [zpow_add_one₀ two_ne_zero] at hpow
    nlinarith
  obtain ⟨j, rfl⟩ := Int.le.dest hle
  refine ⟨m * 2 ^ j, ?_⟩
  rw [zpow_add₀ two_ne_zero, zpow_natCast]
  push_cast
  ring

/-- Of a number with 53 binary digits before the point the nearest whole number is nearest among the
floating point numbers as well: those that are closer together lie below a power of two, which is whole. -/
theorem nearest_of_abs_le {n : ℚ} {t : ℤ} {r : ℕ} (hn : 2 ^ 52 * 2 ^ t ≤ n)
    (h : |(r : ℚ) - n / 2 ^ t| ≤ 1 / 2) :
  Nearest n (r * 2 ^ t)
  := by
  have hpos : (0 : ℚ) < 2 ^ t := zpow_pos two_pos t
  have hmultiple (k : ℕ) : |(r : ℚ) * 2 ^ t - n| ≤ |k * 2 ^ t - n| := by
    have hscale (k : ℕ) : |(k : ℚ) * 2 ^ t - n| = |k - n / 2 ^ t| * 2 ^ t := by
      rw [← abs_of_pos hpos, ← abs_mul, abs_of_pos hpos, sub_mul, div_mul_cancel₀ _ hpos.ne']
    rw [hscale, hscale]
    apply mul_le_mul_of_nonneg_right _ hpos.le
    obtain rfl | hne := eq_or_ne k r
    · rfl
    · have hone : (1 : ℚ) ≤ |(k : ℚ) - r| := by
        have hint : (1 : ℤ) ≤ |(k : ℤ) - r| := Int.one_le_abs (sub_ne_zero.mpr (by exact_mod_cast hne))
        exact_mod_cast hint
      have htriangle := abs_sub_le (k : ℚ) (n / 2 ^ t) r
      rw [abs_sub_comm (n / 2 ^ t) (r : ℚ)] at htriangle
      linarith
  intro q hq
  obtain hle | hlt := le_or_gt q (2 ^ 52 * 2 ^ t)
  · have hpower := hmultiple (2 ^ 52)
    rw [Nat.cast_pow, Nat.cast_ofNat, abs_of_nonpos (sub_nonpos.mpr hn)] at hpower
    rw [abs_of_nonpos (sub_nonpos.mpr (hle.trans hn))]
    linarith
  · have hq' : 0 < q := (mul_pos (pow_pos two_pos 52) hpos).trans hlt
    obtain rfl | ⟨sign, m, e, hcanonical, rfl⟩ := hq
    · exact absurd hq' (lt_irrefl 0)
    · cases sign
      · have hm : (0 : ℚ) ≤ m * 2 ^ e := mul_nonneg (Nat.cast_nonneg m) (zpow_pos two_pos e).le
        rw [signed] at hq'
        linarith
      · obtain ⟨k, hk⟩ := hcanonical.exists_mul hlt
        rw [signed, hk]
        exact hmultiple k

/-! ### Whole numbers -/

theorem log2_mul_two_pow {n : ℕ} (hn : n ≠ 0) (j : ℕ) :
  (n * 2 ^ j).log2 = n.log2 + j
  := by
  have hpos : 0 < 2 ^ j := Nat.two_pow_pos j
  rw [Nat.log2_eq_iff (Nat.mul_ne_zero hn hpos.ne'), pow_add, Nat.add_right_comm, pow_add]
  exact ⟨Nat.mul_le_mul_right _ (Nat.log2_self_le hn), Nat.mul_lt_mul_of_pos_right Nat.lt_log2_self hpos⟩

/-- A number that needs no rounding is left as it is. -/
theorem roundWithAccuracy_exact (sign : UnpackedFloat.Sign) {m : ℕ} {e : ℤ} (h : Normal m e) (he : e ≤ 970)
    (j : ℕ) :
  UnpackedFloat.roundWithAccuracy .binary64 sign (m * 2 ^ j) (e - j) .exact = .finite sign m e h.pos
  := by
  have hlog : (m * 2 ^ j).log2 - 52 = j := by
    rw [log2_mul_two_pow h.pos.ne', h.log2]
    omega
  have hm : 2 ^ 52 ≤ m * 2 ^ j := Nat.le_trans h.full (Nat.le_mul_of_pos_right m (Nat.two_pow_pos j))
  have hleast := h.least
  obtain ⟨m', e', h', r, hround, -, hvalue, hnear⟩ :=
    roundWithAccuracy_eq sign (m := m * 2 ^ j) (e := e - j) hm (by omega) (by omega)
  rw [hlog, sub_add_cancel] at hvalue
  rw [hlog, Nat.cast_mul, Nat.cast_pow, Nat.cast_ofNat,
    mul_div_cancel_right₀ _ (pow_pos two_pos j).ne'] at hnear
  have hr : r = m := by
    have hlt : |(r : ℚ) - m| < 1 := lt_of_le_of_lt hnear (by norm_num)
    have hint : |(r : ℤ) - m| < 1 := by exact_mod_cast hlt
    have hzero := Int.abs_lt_one_iff.mp hint
    omega
  have hcompare := h'.canonical.compare_eq h.canonical
  rw [hvalue, hr, compare_eq_iff_eq.mpr rfl] at hcompare
  obtain ⟨hexponent, hmantissa⟩ := Ordering.then_eq_eq.mp hcompare
  obtain rfl := compare_eq_iff_eq.mp hexponent
  obtain rfl := compare_eq_iff_eq.mp hmantissa
  exact hround

/-- A whole number with at most 53 binary digits has 53 with zeros behind it. -/
theorem exists_normal {n : ℕ} (hn : 0 < n) (hlt : n < 2 ^ 53) :
  ∃ j : ℕ, n.log2 + j = 52 ∧ Normal (n * 2 ^ j) (-j) ∧ ((n * 2 ^ j : ℕ) : ℚ) * 2 ^ (-j : ℤ) = n
  := by
  have hlog : n.log2 ≤ 52 := Nat.lt_succ_iff.mp ((Nat.log2_lt hn.ne').mpr hlt)
  obtain ⟨j, hj⟩ := Nat.exists_eq_add_of_le hlog
  have hlog' := log2_mul_two_pow hn.ne' j
  rw [← hj, Nat.log2_eq_iff (Nat.mul_ne_zero hn.ne' (Nat.two_pow_pos j).ne')] at hlog'
  refine ⟨j, hj.symm, ⟨hlog'.1, hlog'.2, by omega, by omega⟩, ?_⟩
  rw [zpow_neg, zpow_natCast]
  push_cast
  exact mul_inv_cancel_right₀ (pow_pos two_pos j).ne' _

/-- A whole number below two to the power of 53 is held as it is. -/
theorem unpack_toFloat {n : ℕ} (hn : 0 < n) (hlt : n < 2 ^ 53) :
  ∃ (m : ℕ) (e : ℤ) (h : Normal m e), n.toUInt64.toFloat.toModel.unpack = .finite .positive m e h.pos
    ∧ e ≤ 0 ∧ (m : ℚ) * 2 ^ e = n
  := by
  obtain ⟨j, hj, hnormal, hvalue⟩ := exists_normal hn hlt
  have hround : UnpackedFloat.round .binary64 .positive n 0
      = .finite .positive (n * 2 ^ j) (-j) hnormal.pos := by
    have htarget : Format.binary64.targetExponent (totalExponent n 0) = -j := by
      have hbits : Format.binary64.mantissaBits = 53 := by decide
      have hleast : Format.binary64.minExponent = -1074 := by decide
      unfold Format.targetExponent totalExponent
      rw [hbits, hleast]
      omega
    have hexact := roundWithAccuracy_exact .positive hnormal (by omega) 0
    rw [pow_zero, mul_one, Nat.cast_zero, sub_zero] at hexact
    unfold UnpackedFloat.round UnpackedFloat.decreaseExponent
    dsimp only
    rw [htarget, zero_sub, neg_neg, Int.toNat_natCast, Nat.shiftLeft_eq, zero_sub, hexact]
  have hnat : n.toUInt64.toNat = n := UInt64.toNat_ofNat_of_lt' (hlt.trans (by decide))
  have hpack : n.toUInt64.toFloat.toModel
      = Float.Model.pack (.finite .positive (n * 2 ^ j) (-j) hnormal.pos) := by
    unfold UInt64.toFloat Float.Model.ofUInt64 UnpackedFloat.ofUInt64 UnpackedFloat.ofNat
      UnpackedFloat.ofInt UnpackedFloat.normalize
    rw [hnat, compare_gt_iff_gt.mpr (Int.natCast_pos.mpr hn), ← hround]
    rfl
  refine ⟨_, _, hnormal, ?_, by omega, hvalue⟩
  rw [hpack, hnormal.unpack_pack]

/-- A small whole number is held as it is, and multiplied by one. -/
theorem unpack_ofNat_of_lt {n : ℕ} (hn : 0 < n) (hlt : n < 2 ^ 53) :
  ∃ (m : ℕ) (e : ℤ) (h : Normal m e), (Float.ofNat n).toModel.unpack = .finite .positive m e h.pos
    ∧ (m : ℚ) * 2 ^ e = n
  := by
  obtain ⟨m, e, h, hunpack, he, hvalue⟩ := unpack_toFloat hn hlt
  have hone : Float.exactlyRepresentablePowersOfTen[0].toModel.unpack
      = .finite .positive (2 ^ 52) (-52) (by decide) := rfl
  have hofNat : Float.ofNat n = n.toUInt64.toFloat * Float.exactlyRepresentablePowersOfTen[0] :=
    dif_pos ⟨hlt, by decide⟩
  have hmul : (n.toUInt64.toFloat * Float.exactlyRepresentablePowersOfTen[0]).toModel
      = Float.Model.pack (UnpackedFloat.mul .binary64 n.toUInt64.toFloat.toModel.unpack
        Float.exactlyRepresentablePowersOfTen[0].toModel.unpack) := rfl
  have hexact : UnpackedFloat.mul .binary64 (.finite .positive m e h.pos)
      (.finite .positive (2 ^ 52) (-52) (by decide)) = .finite .positive m e h.pos :=
    roundWithAccuracy_exact .positive h (by omega) 52
  rw [hunpack, hone, hexact] at hmul
  refine ⟨m, e, h, ?_, hvalue⟩
  rw [hofNat, hmul, h.unpack_pack]

theorem ofScientific_zero {n : ℕ} (hn : 0 < n) :
  UnpackedFloat.ofScientific .binary64 n 0
    = UnpackedFloat.roundWithAccuracy .binary64 .positive (n * 2 ^ 53) (-53) .exact
  := by
  unfold UnpackedFloat.ofScientific
  rw [dif_neg hn.ne', if_neg (by decide), if_neg, if_pos (le_refl 0)]
  · change UnpackedFloat.roundWithAccuracy .binary64 .positive ((n <<< 53) * 1) (-53 + 0) .exact = _
    rw [Nat.shiftLeft_eq, Nat.mul_one, add_zero]
  · have hpos : (0 : ℤ) ≤ 2 ^ Format.binary64.exponentBits + n.log2 := by positivity
    omega

/-- A large whole number is rounded, and no other floating point number is nearer to it. -/
theorem unpack_ofNat_of_le {n : ℕ} (hle : 2 ^ 53 ≤ n) (hn' : n < 2 ^ 64) :
  ∃ (m : ℕ) (e : ℤ) (h : Normal m e), (Float.ofNat n).toModel.unpack = .finite .positive m e h.pos
    ∧ Nearest n (m * 2 ^ e)
  := by
  have hn : 0 < n := Nat.lt_of_lt_of_le (by decide) hle
  have hofNat : Float.ofNat n = Float.ofModel (Float.Model.ofScientific n 0) :=
    dif_neg fun h => Nat.not_le_of_lt h.1 hle
  have hlog : (n * 2 ^ 53).log2 = n.log2 + 53 := log2_mul_two_pow hn.ne' 53
  have hlog' : 53 ≤ n.log2 := (Nat.le_log2 hn.ne').mpr hle
  have hlog'' : n.log2 < 64 := (Nat.log2_lt hn.ne').mpr hn'
  obtain ⟨m, e, h, r, hround, -, hvalue, hnear⟩ :=
    roundWithAccuracy_eq .positive (m := n * 2 ^ 53) (e := -53) (by omega) (by omega) (by omega)
  have htarget : (-53 + ((n * 2 ^ 53).log2 - 52 : ℕ) : ℤ) = (n.log2 - 52 : ℕ) := by omega
  have hshift : ((n * 2 ^ 53 : ℕ) : ℚ) / 2 ^ ((n * 2 ^ 53).log2 - 52) = n / 2 ^ (n.log2 - 52) := by
    rw [hlog, show n.log2 + 53 - 52 = (n.log2 - 52) + 53 by omega, pow_add, Nat.cast_mul, Nat.cast_pow,
      Nat.cast_ofNat, mul_div_mul_right _ _ (pow_pos two_pos 53).ne']
  rw [htarget] at hvalue
  rw [hshift] at hnear
  refine ⟨m, e, h, ?_, ?_⟩
  · rw [hofNat]
    change (Float.Model.pack (UnpackedFloat.ofScientific .binary64 n 0)).unpack = _
    rw [ofScientific_zero hn, hround, h.unpack_pack]
  · rw [hvalue]
    apply nearest_of_abs_le
    · rw [zpow_natCast, ← pow_add, Nat.add_sub_cancel' (by omega)]
      exact_mod_cast Nat.log2_self_le hn.ne'
    · rwa [zpow_natCast]

/-- The floating point number of a positive whole number is normal, and no other one is nearer. -/
theorem unpack_ofNat {n : ℕ} (hn : 0 < n) (hn' : n < 2 ^ 64) :
  ∃ (m : ℕ) (e : ℤ) (h : Normal m e), (Float.ofNat n).toModel.unpack = .finite .positive m e h.pos
    ∧ Nearest n (m * 2 ^ e)
  := by
  obtain hlt | hle := Nat.lt_or_ge n (2 ^ 53)
  · obtain ⟨m, e, h, hunpack, hvalue⟩ := unpack_ofNat_of_lt hn hlt
    exact ⟨m, e, h, hunpack, hvalue ▸ .refl _⟩
  · exact unpack_ofNat_of_le hle hn'

/-- What an integer is rounded to is a number, and no other floating point number is nearer to the integer.
-/
theorem nearestFloat_nearest (n : Int64) :
  ∃ r, floatNumber? (nearestFloat n) = some (.ofRat r) ∧ Nearest n.toInt r
  := by
  have hlt := n.toInt_lt
  have hge := n.le_toInt
  unfold nearestFloat
  generalize n.toInt = k at *
  obtain ⟨k, rfl | rfl⟩ := k.eq_nat_or_neg
  · obtain rfl | hk := Nat.eq_zero_or_pos k
    · refine ⟨0, rfl, ?_⟩
      rw [Int.cast_natCast, Nat.cast_zero]
      apply Nearest.refl
    · obtain ⟨m, e, h, hunpack, hnearest⟩ := unpack_ofNat hk (by omega)
      exact ⟨m * 2 ^ e, congrArg denoted? hunpack, hnearest⟩
  · obtain rfl | hk := Nat.eq_zero_or_pos k
    · refine ⟨0, rfl, ?_⟩
      rw [Nat.cast_zero, neg_zero, Int.cast_zero]
      apply Nearest.refl
    · obtain ⟨m, e, h, hunpack, hnearest⟩ := unpack_ofNat hk (by omega)
      obtain ⟨k, rfl⟩ := Nat.exists_eq_succ_of_ne_zero hk.ne'
      have hneg : (Float.ofInt (-(k + 1 : ℕ))).toModel
          = Float.Model.pack (Float.ofNat (k + 1)).toModel.unpack.neg := rfl
      rw [hunpack] at hneg
      refine ⟨-(m * 2 ^ e), ?_, ?_⟩
      · unfold floatNumber?
        rw [hneg]
        exact congrArg denoted? (h.unpack_pack .negative)
      · rw [Int.cast_neg]
        exact hnearest.neg

/-! ### The order of what is rounded -/

namespace Nearest

variable {n n' r r' q : ℚ}

/-- A number is not rounded up past one that need not be rounded. -/
theorem le_of_le (h : Nearest n r) (hq : Representable q) (hle : n ≤ q) :
  r ≤ q
  := by
  have hnear := h q hq
  rw [abs_of_nonneg (sub_nonneg.mpr hle)] at hnear
  have habs := le_abs_self (r - n)
  linarith

/-- A number is not rounded down past one that need not be rounded. -/
theorem le_of_ge (h : Nearest n r) (hq : Representable q) (hle : q ≤ n) :
  q ≤ r
  := by
  have hneg := h.neg.le_of_le hq.neg (neg_le_neg hle)
  exact neg_le_neg_iff.mp hneg

/-- Of two numbers the smaller one is not rounded to a greater one: the other one would be nearer to what
that is rounded to. -/
theorem mono (h : Nearest n r) (h' : Nearest n' r') (hr : Representable r) (hr' : Representable r')
    (hlt : n < n') :
  r ≤ r'
  := by
  obtain hle | hgt := le_or_gt n r'
  · exact h.le_of_le hr' hle
  · by_contra hnot
    have hnear := h r' hr'
    have hnear' := h' r hr
    rw [abs_sub_comm r' n, abs_of_pos (sub_pos.mpr hgt)] at hnear
    rw [abs_sub_comm r' n', abs_of_pos (sub_pos.mpr (hgt.trans hlt))] at hnear'
    have habs := le_abs_self (r - n)
    obtain hle | hle := abs_cases (r - n') <;> linarith [hle.1, hle.2]

/-- A number that need not be rounded is left as it is. -/
theorem eq_of_representable (h : Nearest n r) (hn : Representable n) :
  r = n
  := le_antisymm (h.le_of_le hn (le_refl n)) (h.le_of_ge hn (le_refl n))

end Nearest

/-- Integers up to two to the power of 53 need not be rounded. -/
theorem representable_of_natAbs_le {n : ℤ} (h : n.natAbs ≤ 2 ^ 53) :
  Representable n
  := by
  have hnat : ∀ k : ℕ, k ≤ 2 ^ 53 → Representable k := by
    intro k hk
    obtain hlt | rfl := Nat.lt_or_eq_of_le hk
    · obtain rfl | hpos := Nat.eq_zero_or_pos k
      · exact .inl Nat.cast_zero
      · obtain ⟨j, -, hnormal, hvalue⟩ := exists_normal hpos hlt
        exact .inr ⟨.positive, _, _, hnormal.canonical, hvalue.symm⟩
    · exact .inr ⟨.positive, 2 ^ 52, 1, ⟨by decide, by decide, .inl (le_refl _)⟩, by norm_num [signed]⟩
  obtain ⟨k, rfl | rfl⟩ := n.eq_nat_or_neg
  · rw [Int.natAbs_natCast] at h
    exact_mod_cast hnat k h
  · rw [Int.natAbs_neg, Int.natAbs_natCast] at h
    rw [Int.cast_neg]
    exact_mod_cast (hnat k h).neg

end DocQuery
