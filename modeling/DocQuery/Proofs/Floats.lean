import DocQuery.Proofs.Rounding

/-!
# Reading floating point numbers

The intervals of two floating point numbers have no real in common, because of two intervals that meet
only one is closed. The shortest decimal of a number lies in the interval of the number, so a number
is determined by its text.
-/

namespace DocQuery

/-! ### Intervals of numbers -/

/-- The place of a positive number among all of them. -/
def FloatParts.index (p : FloatParts) : Nat := p.exponent * 2 ^ 52 + p.fraction

/-- The whole number that gives the number at a place, times a power of two. -/
def significand (n : Nat) : Nat :=
  if n / 2 ^ 52 = 0 then n % 2 ^ 52 else n % 2 ^ 52 + 2 ^ 52

/-- The power of two that belongs to the whole number. -/
def power (n : Nat) : ℤ := if n / 2 ^ 52 = 0 then -1074 else (n / 2 ^ 52 : ℕ) - 1075

/-- How far the interval reaches below the number at a place, in quarters. -/
def reach (n : Nat) : Nat := if n / 2 ^ 52 ≠ 0 ∧ n % 2 ^ 52 = 0 then 1 else 2

/-- The lower end of the interval at a place. -/
def lower (n : Nat) : ℚ := (4 * significand n - reach n) * 2 ^ (power n - 2)

/-- The upper end of the interval at a place. -/
def upper (n : Nat) : ℚ := (4 * significand n + 2) * 2 ^ (power n - 2)

theorem reach_pos (n : Nat) :
  0 < reach n
  := by
  unfold reach
  split <;> decide

theorem lower_lt_upper (n : Nat) :
  lower n < upper n
  := by
  have hreach : (0 : ℚ) < reach n := Nat.cast_pos.mpr (reach_pos n)
  have hpow : (0 : ℚ) < 2 ^ (power n - 2) := zpow_pos (by norm_num) _
  apply mul_lt_mul_of_pos_right _ hpow
  linarith

/-- The interval at a place ends where the next one begins, or before. -/
theorem upper_le_lower_succ (n : Nat) :
  upper n ≤ lower (n + 1)
  := by
  unfold upper lower
  by_cases hlast : n % 2 ^ 52 + 1 < 2 ^ 52
  · have hdiv : (n + 1) / 2 ^ 52 = n / 2 ^ 52 := by omega
    have hmod : (n + 1) % 2 ^ 52 = n % 2 ^ 52 + 1 := by omega
    have hreach : reach (n + 1) = 2 := by
      unfold reach
      rw [hmod]
      simp
    have hpower : power (n + 1) = power n := by
      unfold power
      rw [hdiv]
    have hsignificand : significand (n + 1) = significand n + 1 := by
      unfold significand
      rw [hdiv, hmod]
      split <;> omega
    rw [hreach, hpower, hsignificand]
    push_cast
    apply le_of_eq
    ring
  · have hdiv : (n + 1) / 2 ^ 52 = n / 2 ^ 52 + 1 := by omega
    have hmod : (n + 1) % 2 ^ 52 = 0 := by omega
    have hreach : reach (n + 1) = 1 := by
      unfold reach
      rw [hdiv, hmod]
      simp
    have hsignificand : significand (n + 1) = 2 ^ 52 := by
      unfold significand
      rw [hdiv, hmod]
      simp
    rw [hreach, hsignificand]
    unfold significand power
    rw [hdiv]
    by_cases hzero : n / 2 ^ 52 = 0
    · have hmod' : n % 2 ^ 52 = 2 ^ 52 - 1 := by omega
      rw [hzero, hmod']
      norm_num
    · have hmod' : n % 2 ^ 52 + 2 ^ 52 = 2 ^ 53 - 1 := by omega
      have hpower : ((n / 2 ^ 52 + 1 : ℕ) : ℤ) - 1075 - 2 = ((n / 2 ^ 52 : ℕ) : ℤ) - 1075 - 2 + 1 := by
        push_cast
        ring
      rw [if_neg hzero, if_neg hzero, if_neg (Nat.succ_ne_zero _), hmod', hpower,
        zpow_add_one₀ (by norm_num)]
      apply le_of_eq
      norm_num
      ring

/-- Of two intervals the earlier one ends where the other begins, or before. They meet only if they
are next to each other. -/
theorem upper_le_lower {n m : Nat} (h : n < m) :
  upper n ≤ lower m ∧ (upper n = lower m → m = n + 1)
  := by
  induction h with
  | refl => exact ⟨upper_le_lower_succ n, fun _ => rfl⟩
  | @step m h ih =>
    have hlt : upper n < lower (m + 1) := by
      calc upper n
        _ ≤ lower m := ih.1
        _ < upper m := lower_lt_upper m
        _ ≤ lower (m + 1) := upper_le_lower_succ m
    exact ⟨hlt.le, fun heq => absurd heq hlt.ne⟩

/-- The ends of the interval of a binary number. -/
theorem ofBinary_ends {m : Nat} (hm : 0 < m) (e : ℤ) (isPower : Bool) :
  0 < (Rounding.ofBinary m e isPower).unit
    ∧ ((Rounding.ofBinary m e isPower).low : ℚ)
      = (4 * m - (if isPower then 1 else 2 : ℕ)) * 2 ^ (e - 2) * (Rounding.ofBinary m e isPower).unit
    ∧ ((Rounding.ofBinary m e isPower).mid : ℚ)
      = 4 * m * 2 ^ (e - 2) * (Rounding.ofBinary m e isPower).unit
    ∧ ((Rounding.ofBinary m e isPower).high : ℚ)
      = (4 * m + 2) * 2 ^ (e - 2) * (Rounding.ofBinary m e isPower).unit
  := by
  have hle : (if isPower then 1 else 2) ≤ 4 * m := by
    split <;> omega
  have hscale : (2 : ℚ) ^ (e - 2) * 2 ^ (2 - e).toNat = 2 ^ (e - 2).toNat := by
    rw [zpow_eq_div, neg_sub]
    field_simp
  unfold Rounding.ofBinary
  dsimp only
  refine ⟨Nat.pow_pos (by decide), ?_, ?_, ?_⟩ <;>
  · push_cast [Nat.pow_eq, Nat.cast_sub hle]
    rw [mul_assoc _ _ ((2 : ℚ) ^ (2 - e).toNat), hscale]

namespace FloatParts

/-- The number is finite and not zero. -/
structure Ordinary (p : FloatParts) : Prop where
  fraction : p.fraction < 2 ^ 52
  ne_zero : ¬(p.exponent = 0 ∧ p.fraction = 0)

variable {p q : FloatParts}

theorem Ordinary.exponent_eq (hp : p.Ordinary) :
  p.index / 2 ^ 52 = p.exponent
  := by
  have h := hp.fraction
  unfold index
  omega

theorem Ordinary.fraction_eq (hp : p.Ordinary) :
  p.index % 2 ^ 52 = p.fraction
  := by
  have h := hp.fraction
  unfold index
  omega

theorem Ordinary.significand_pos (hp : p.Ordinary) :
  0 < significand p.index
  := by
  have h := hp.ne_zero
  unfold significand
  rw [hp.exponent_eq, hp.fraction_eq]
  split <;> omega

/-- The interval of a number is that at its place. -/
theorem Ordinary.rounding_eq (hp : p.Ordinary) :
  p.rounding = .ofBinary (significand p.index) (power p.index)
    (decide (p.exponent ≠ 0 ∧ p.fraction = 0))
  := by
  unfold rounding significand power
  rw [hp.exponent_eq, hp.fraction_eq]
  by_cases h : p.exponent = 0
  · simp [h]
  · simp [h, fractionUnit]
    rfl

theorem Ordinary.reach_eq (hp : p.Ordinary) :
  reach p.index = if decide (p.exponent ≠ 0 ∧ p.fraction = 0) then 1 else 2
  := by
  unfold reach
  rw [hp.exponent_eq, hp.fraction_eq]
  simp

/-- A real lies in the interval of a number when it lies between the ends at its place. -/
theorem Ordinary.contains_iff (hp : p.Ordinary) (x : ℚ) :
  p.rounding.Contains x ↔
    if significand p.index % 2 = 0 then lower p.index ≤ x ∧ x ≤ upper p.index
    else lower p.index < x ∧ x < upper p.index
  := by
  have hclosed : p.rounding.closed = (significand p.index % 2 == 0) := by
    rw [hp.rounding_eq]
    rfl
  obtain ⟨hunit, hlow, -, hhigh⟩ := ofBinary_ends hp.significand_pos (power p.index)
    (decide (p.exponent ≠ 0 ∧ p.fraction = 0))
  rw [← hp.rounding_eq] at hunit hlow hhigh
  rw [← hp.reach_eq] at hlow
  have hpos : (0 : ℚ) < p.rounding.unit := Nat.cast_pos.mpr hunit
  unfold Rounding.Contains
  rw [hclosed, hlow, hhigh]
  change (if _ then lower p.index * _ ≤ _ ∧ _ ≤ upper p.index * _
    else lower p.index * _ < _ ∧ _ < upper p.index * _) ↔ _
  rw [mul_le_mul_iff_left₀ hpos, mul_le_mul_iff_left₀ hpos, mul_lt_mul_iff_left₀ hpos,
    mul_lt_mul_iff_left₀ hpos]
  simp

theorem Ordinary.wide (hp : p.Ordinary) :
  p.rounding.Wide
  := by
  obtain ⟨hunit, hlow, hmid, hhigh⟩ := ofBinary_ends hp.significand_pos (power p.index)
    (decide (p.exponent ≠ 0 ∧ p.fraction = 0))
  rw [← hp.rounding_eq] at hunit hlow hmid hhigh
  rw [← hp.reach_eq] at hlow
  have hscale : (0 : ℚ) < 2 ^ (power p.index - 2) * p.rounding.unit :=
    mul_pos (zpow_pos (by norm_num) _) (Nat.cast_pos.mpr hunit)
  have hreach : (1 : ℚ) ≤ reach p.index := by exact_mod_cast reach_pos p.index
  have hsmall : 4 * significand p.index < (reach p.index + 2) * 10 ^ 16 := by
    have h := hp.fraction
    unfold significand reach
    rw [hp.exponent_eq, hp.fraction_eq]
    split <;> split <;> omega
  have hsmall : (4 * significand p.index : ℚ) < (reach p.index + 2) * 10 ^ 16 := by
    exact_mod_cast hsmall
  refine ⟨hunit, ?_, ?_, ?_⟩
  · apply Nat.cast_lt (α := ℚ).mp
    rw [hlow, hmid, mul_assoc _ _ (p.rounding.unit : ℚ), mul_assoc _ _ (p.rounding.unit : ℚ)]
    apply mul_lt_mul_of_pos_right _ hscale
    linarith
  · apply Nat.cast_lt (α := ℚ).mp
    rw [hmid, hhigh, mul_assoc _ _ (p.rounding.unit : ℚ), mul_assoc _ _ (p.rounding.unit : ℚ)]
    apply mul_lt_mul_of_pos_right _ hscale
    linarith
  · have heq : (p.rounding.high - p.rounding.low : ℚ) * 10 ^ 16
        = (reach p.index + 2) * 10 ^ 16 * (2 ^ (power p.index - 2) * p.rounding.unit) := by
      rw [hlow, hhigh]
      ring
    rw [hmid, heq, mul_assoc]
    apply mul_lt_mul_of_pos_right hsmall hscale

/-- The real in the interval of an ordinary number is positive. -/
theorem Ordinary.pos_of_contains (hp : p.Ordinary) {x : ℚ} (hx : p.rounding.Contains x) :
  0 < x
  := by
  have hle : lower p.index ≤ x := by
    have h := (hp.contains_iff x).mp hx
    split at h
    · exact h.1
    · exact h.1.le
  apply lt_of_lt_of_le _ hle
  have hreach : reach p.index ≤ 2 := by
    unfold reach
    split <;> decide
  have hreach : (reach p.index : ℚ) ≤ 2 := by exact_mod_cast hreach
  have hsignificand : (1 : ℚ) ≤ significand p.index := by exact_mod_cast hp.significand_pos
  apply mul_pos _ (zpow_pos (by norm_num) _)
  linarith

/-- No real lies in the intervals at two places. Intervals that meet are next to each other, so one of
them is open. -/
theorem Ordinary.not_lt_of_contains (hp : p.Ordinary) (hq : q.Ordinary) {x : ℚ}
    (hx : p.rounding.Contains x) (hx' : q.rounding.Contains x) :
  ¬p.index < q.index
  := by
  intro hlt
  obtain ⟨hle, hnext⟩ := upper_le_lower hlt
  have hp' := (hp.contains_iff x).mp hx
  have hq' := (hq.contains_iff x).mp hx'
  split at hp'
  · rename_i heven
    split at hq'
    · rename_i heven'
      have hsucc := hnext (le_antisymm hle (hq'.1.trans hp'.2))
      have hparity : ∀ n, significand n % 2 = n % 2 := by
        intro n
        unfold significand
        split <;> omega
      rw [hparity] at heven heven'
      omega
    · linarith [hp'.2, hq'.1]
  · split at hq'
    · linarith [hp'.2, hq'.1]
    · linarith [hp'.2, hq'.1]

/-- Two numbers with a real in the intervals of both have the same exponent and fraction. -/
theorem Ordinary.eq_of_contains (hp : p.Ordinary) (hq : q.Ordinary) {x : ℚ}
    (hx : p.rounding.Contains x) (hx' : q.rounding.Contains x) :
  p.exponent = q.exponent ∧ p.fraction = q.fraction
  := by
  have hindex : p.index = q.index :=
    Nat.le_antisymm (Nat.le_of_not_lt (hq.not_lt_of_contains hp hx' hx))
      (Nat.le_of_not_lt (hp.not_lt_of_contains hq hx hx'))
  rw [← hp.exponent_eq, ← hq.exponent_eq, ← hp.fraction_eq, ← hq.fraction_eq, hindex]
  exact ⟨rfl, rfl⟩

end FloatParts

/-! ### Floating point numbers -/

/-- A floating point number is determined by its representation. -/
theorem float_eq_of_toBits_eq {x y : Float} (h : x.toBits = y.toBits) :
  x = y
  := by
  obtain ⟨⟨bits, hx⟩⟩ := x
  obtain ⟨⟨bits', hy⟩⟩ := y
  cases h
  rfl

/-- The representation of what is no number. -/
theorem toBits_of_nan {x : Float} (he : x.toBits.toNat / 2 ^ 52 % 2 ^ 11 = 2047)
    (hf : x.toBits.toNat % 2 ^ 52 ≠ 0) :
  x.toBits.toNat = 2047 * 2 ^ 52 + 2 ^ 51
  := by
  obtain ⟨⟨bits, hvalid⟩⟩ := x
  change bits.toNat / 2 ^ 52 % 2 ^ 11 = 2047 at he
  change bits.toNat % 2 ^ 52 ≠ 0 at hf
  change bits.toNat = _
  have hexponent : @Float.Model.UnpackedFloat.unpackExponent Float.Model.Format.binary64
      bits.toBitVec = -1 := by
    apply BitVec.eq_of_toNat_eq
    simp [Float.Model.UnpackedFloat.unpackExponent, Nat.shiftRight_eq_div_pow]
    omega
  have hmantissa : @Float.Model.UnpackedFloat.unpackMantissa Float.Model.Format.binary64
      bits.toBitVec ≠ 0 := by
    intro h
    have hzero := congrArg BitVec.toNat h
    simp [Float.Model.UnpackedFloat.unpackMantissa] at hzero
    omega
  have hbits := congrArg BitVec.toNat (hvalid.eq_packedNaN hexponent hmantissa)
  exact hbits

namespace FloatParts

theorem fraction_of_lt (x : Float) :
  (FloatParts.of x).fraction < 2 ^ 52
  := Nat.mod_lt _ (Nat.pow_pos (by decide))

/-- A floating point number is determined by its parts. -/
theorem of_injective {x y : Float} (hn : (FloatParts.of x).negative = (FloatParts.of y).negative)
    (he : (FloatParts.of x).exponent = (FloatParts.of y).exponent)
    (hf : (FloatParts.of x).fraction = (FloatParts.of y).fraction) :
  x = y
  := by
  apply float_eq_of_toBits_eq
  apply UInt64.toNat_inj.mp
  have hx := x.toBits.toNat_lt
  have hy := y.toBits.toNat_lt
  simp only [FloatParts.of, fractionUnit, Nat.pow_eq, beq_eq_beq] at hn he hf
  omega

/-- There is only one floating point number that is no number. -/
theorem eq_of_nan {x y : Float} (hx : (FloatParts.of x).exponent = 2047)
    (hx' : (FloatParts.of x).fraction ≠ 0) (hy : (FloatParts.of y).exponent = 2047)
    (hy' : (FloatParts.of y).fraction ≠ 0) :
  x = y
  := by
  apply float_eq_of_toBits_eq
  apply UInt64.toNat_inj.mp
  rw [toBits_of_nan hx hx', toBits_of_nan hy hy']

/-- The sign of a number as it is written. -/
def sign (p : FloatParts) : List Char := if p.negative then ['-'] else []

end FloatParts

/-- A floating point number is written as what is no number, as infinite, or as a numeral, whose
value is zero or lies in the interval of the number. -/
theorem floatText_cases (x : Float) :
  ((FloatParts.of x).exponent = 2047 ∧ (FloatParts.of x).fraction ≠ 0
      ∧ (floatText x).toList = ['N', 'a', 'N'])
    ∨ ((FloatParts.of x).exponent = 2047 ∧ (FloatParts.of x).fraction = 0
      ∧ (floatText x).toList = (FloatParts.of x).sign ++ ['i', 'n', 'f'])
    ∨ ∃ n : Numeral, n.Proper ∧ (floatText x).toList = (FloatParts.of x).sign ++ n.chars
      ∧ (((FloatParts.of x).exponent = 0 ∧ (FloatParts.of x).fraction = 0) ∧ n.value = 0
        ∨ (FloatParts.of x).Ordinary ∧ (FloatParts.of x).rounding.Contains n.value)
  := by
  unfold floatText
  dsimp only
  split
  · rename_i hexponent
    split
    · rename_i hfraction
      exact .inr (.inl ⟨hexponent, hfraction, String.toList_ofList⟩)
    · rename_i hfraction
      exact .inl ⟨hexponent, hfraction, rfl⟩
  · split
    · rename_i hzero
      have hproper : Numeral.Proper ⟨['0'], ['0'], none⟩ :=
        ⟨by simp, by simp, by simp, .inl (by simp)⟩
      refine .inr (.inr ⟨⟨['0'], ['0'], none⟩, hproper, String.toList_ofList, .inl ⟨hzero, ?_⟩⟩)
      simp [Numeral.value, digitsValue]
    · rename_i hzero
      have hordinary : (FloatParts.of x).Ordinary := ⟨FloatParts.fraction_of_lt x, hzero⟩
      obtain ⟨n, hn, hchars, hvalue⟩ := exists_numeral (FloatParts.of x).rounding.shortest
      refine .inr (.inr ⟨n, hn, ?_, .inr ⟨hordinary, ?_⟩⟩)
      · rw [String.toList_ofList, hchars]
        rfl
      · rw [hvalue]
        apply Rounding.contains_shortest hordinary.wide

/-- A sign and what begins with no sign are determined. -/
theorem sign_append_inj {p q : FloatParts} {us vs : List Char} (hu : us.head? ≠ some '-')
    (hv : vs.head? ≠ some '-') (h : p.sign ++ us = q.sign ++ vs) :
  p.negative = q.negative ∧ us = vs
  := by
  unfold FloatParts.sign at h
  cases hp : p.negative <;> cases hq : q.negative <;> rw [hp, hq] at h
  · exact ⟨rfl, h⟩
  · exact absurd (congrArg List.head? h) hu
  · exact absurd (congrArg List.head? h).symm hv
  · exact ⟨rfl, (List.cons.inj h).2⟩

theorem Numeral.Proper.head_ne {n : Numeral} (hn : n.Proper) {c : Char} (hc : ¬c.isDigit) :
  n.chars.head? ≠ some c
  := by
  obtain ⟨d, rest, heq, hd⟩ := hn.head
  rw [heq]
  rintro ⟨⟩
  apply hc hd

/-- A floating point number is determined by its text. -/
theorem floatText_injective {x y : Float} (h : floatText x = floatText y) :
  x = y
  := by
  have hlist := congrArg String.toList h
  have hnan : ∀ {p : FloatParts} {cs : List Char}, cs.head? ≠ some 'N' → ['N', 'a', 'N'] ≠ p.sign ++ cs := by
    intro p cs hcs heq
    unfold FloatParts.sign at heq
    split at heq
    · cases heq
    · apply hcs (congrArg List.head? heq).symm
  obtain ⟨hxe, hxf, hx⟩ | ⟨hxe, hxf, hx⟩ | ⟨n, hn, hx, hxv⟩ := floatText_cases x <;>
  obtain ⟨hye, hyf, hy⟩ | ⟨hye, hyf, hy⟩ | ⟨m, hm, hy, hyv⟩ := floatText_cases y <;>
  rw [hx, hy] at hlist
  · apply FloatParts.eq_of_nan hxe hxf hye hyf
  · exact absurd hlist (hnan (by decide))
  · exact absurd hlist (hnan (hm.head_ne (by decide)))
  · exact absurd hlist.symm (hnan (by decide))
  · obtain ⟨hsign, -⟩ := sign_append_inj (by decide) (by decide) hlist
    apply FloatParts.of_injective hsign (hxe.trans hye.symm) (hxf.trans hyf.symm)
  · obtain ⟨-, htext⟩ := sign_append_inj (by decide) (hm.head_ne (by decide)) hlist
    exact absurd (congrArg List.head? htext).symm (hm.head_ne (by decide))
  · exact absurd hlist.symm (hnan (hn.head_ne (by decide)))
  · obtain ⟨-, htext⟩ := sign_append_inj (hn.head_ne (by decide)) (by decide) hlist
    exact absurd (congrArg List.head? htext) (hn.head_ne (by decide))
  · obtain ⟨hsign, htext⟩ :=
      sign_append_inj (hn.head_ne (by decide)) (hm.head_ne (by decide)) hlist
    obtain rfl := Numeral.chars_injective hn hm htext
    obtain ⟨hzero, hvalue⟩ | ⟨hordinary, hcontains⟩ := hxv
    · obtain ⟨hzero', -⟩ | ⟨hordinary', hcontains'⟩ := hyv
      · apply FloatParts.of_injective hsign (hzero.1.trans hzero'.1.symm)
          (hzero.2.trans hzero'.2.symm)
      · exact absurd hvalue (hordinary'.pos_of_contains hcontains').ne'
    · obtain ⟨-, hvalue⟩ | ⟨hordinary', hcontains'⟩ := hyv
      · exact absurd hvalue (hordinary.pos_of_contains hcontains).ne'
      · obtain ⟨hexponent, hfraction⟩ := hordinary.eq_of_contains hordinary' hcontains hcontains'
        apply FloatParts.of_injective hsign hexponent hfraction

/-! ### What stands in the text of a number -/

/-- The character may stand in the text of a number. -/
def isNumberChar (c : Char) : Bool := c.isDigit || ['.', 'e', '-', 'i', 'n', 'f', 'N', 'a'].contains c

theorem eq_minus_of_mem_sign {p : FloatParts} {c : Char} (h : c ∈ p.sign) :
  c = '-'
  := by
  unfold FloatParts.sign at h
  split at h
  · apply List.mem_singleton.mp h
  · cases h

theorem isNumberChar_of_mem_floatText {x : Float} {c : Char} (h : c ∈ (floatText x).toList) :
  isNumberChar c
  := by
  have hchars : ∀ cs : List Char, (∀ c ∈ cs, isNumberChar c) →
      c ∈ (FloatParts.of x).sign ++ cs → isNumberChar c := by
    intro cs hcs hc
    obtain hc | hc := List.mem_append.mp hc
    · rw [eq_minus_of_mem_sign hc]
      rfl
    · apply hcs c hc
  obtain ⟨-, -, hx⟩ | ⟨-, -, hx⟩ | ⟨n, hn, hx, -⟩ := floatText_cases x <;> rw [hx] at h
  · have hall : ∀ c ∈ ['N', 'a', 'N'], isNumberChar c := by simp [isNumberChar]
    apply hall c h
  · apply hchars _ (by simp [isNumberChar]) h
  · apply hchars n.chars _ h
    intro c hc
    obtain hc | rfl | rfl | rfl := hn.mem hc
    · simp [isNumberChar, hc]
    · rfl
    · rfl
    · rfl

/-- Nothing in the text of a number looks like its end. -/
theorem seamless_floatText (x : Float) :
  Seamless (floatText x).toList
  := by
  have hsign : ∀ c ∈ (FloatParts.of x).sign, ¬isCloser c ∧ c ≠ '.' := by
    intro c hc
    rw [eq_minus_of_mem_sign hc]
    decide
  obtain ⟨-, -, hx⟩ | ⟨-, -, hx⟩ | ⟨n, hn, hx, -⟩ := floatText_cases x <;> rw [hx]
  · apply seamless_of_forall (by simp [isCloser])
  · apply Numeral.seamless_append hsign (seamless_of_forall (by simp [isCloser]))
  · apply Numeral.seamless_append hsign hn.seamless

/-- A floating point number is not written as an integer is. -/
theorem floatText_ne_signedDigits (x : Float) (n : Int) :
  (floatText x).toList ≠ signedDigits n
  := by
  intro h
  have habsent : ∀ c : Char, c ≠ '-' → ¬c.isDigit → c ∉ (floatText x).toList := by
    intro c hc hdigit hmem
    rw [h] at hmem
    obtain hmem | hmem := mem_signedDigits hmem
    · apply hc hmem
    · apply hdigit hmem
  obtain ⟨-, -, hx⟩ | ⟨-, -, hx⟩ | ⟨n, hn, hx, -⟩ := floatText_cases x <;> rw [hx] at habsent
  · apply habsent 'N' (by decide) (by decide) List.mem_cons_self
  · apply habsent 'i' (by decide) (by decide)
    apply List.mem_append_right _ List.mem_cons_self
  · obtain hmem | hmem := hn.mem_chars
    · apply habsent '.' (by decide) (by decide) (List.mem_append_right _ hmem)
    · apply habsent 'e' (by decide) (by decide) (List.mem_append_right _ hmem)

end DocQuery
