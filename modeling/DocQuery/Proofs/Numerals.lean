import DocQuery.Proofs.Reading
import DocQuery.Decimal.FloatText
import Mathlib.Algebra.Order.Field.Rat
import Mathlib.Tactic.FieldSimp
import Mathlib.Tactic.Ring

/-!
# Reading numbers

A whole number is read back from its digits. A decimal is written as a numeral: digits, perhaps a
point with more digits, and perhaps an exponent. The parts of a numeral can be told apart, so a
numeral has one value, and this is the value of the decimal.
-/

namespace DocQuery

/-! ### Whole numbers -/

theorem isDigit_of_mem_decimalDigits {n : Nat} {c : Char} (h : c ∈ decimalDigits n) :
  c.isDigit
  := Nat.isDigit_of_mem_toDigits (by decide) (by decide) h

theorem decimalDigits_ne_nil (n : Nat) :
  decimalDigits n ≠ []
  := Nat.toDigits_ne_nil

theorem decimalDigits_injective {n m : Nat} (h : decimalDigits n = decimalDigits m) :
  n = m
  := toDigits_injective (by decide) (by decide) h

/-- The digits of a number denote the number. -/
theorem digitsValue_decimalDigits (n : Nat) :
  digitsValue (decimalDigits n) = n
  := Nat.ofDigitChars_toDigits (by decide) (by decide)

theorem signedDigits_eq (n : Int) :
  signedDigits n = (if n < 0 then ['-'] else []) ++ decimalDigits n.natAbs
  := by
  unfold signedDigits
  split <;> rfl

theorem minus_notMem_decimalDigits (n : Nat) :
  '-' ∉ decimalDigits n
  := fun h => absurd (isDigit_of_mem_decimalDigits h) (by decide)

theorem mem_signedDigits {n : Int} {c : Char} (h : c ∈ signedDigits n) :
  c = '-' ∨ c.isDigit
  := by
  rw [signedDigits_eq] at h
  obtain h | h := List.mem_append.mp h
  · split at h
    · exact .inl (List.mem_singleton.mp h)
    · cases h
  · exact .inr (isDigit_of_mem_decimalDigits h)

theorem signedDigits_ne_nil (n : Int) :
  signedDigits n ≠ []
  := by
  rw [signedDigits_eq]
  apply List.append_ne_nil_of_right_ne_nil
  apply decimalDigits_ne_nil

/-- A whole number is determined by its sign and digits. -/
theorem signedDigits_injective {n m : Int} (h : signedDigits n = signedDigits m) :
  n = m
  := by
  unfold signedDigits at h
  split at h
  · split at h
    · have habs := decimalDigits_injective (List.cons.inj h).2
      omega
    · exact absurd (h ▸ List.mem_cons_self) (minus_notMem_decimalDigits _)
  · split at h
    · exact absurd (h ▸ List.mem_cons_self) (minus_notMem_decimalDigits _)
    · have habs := decimalDigits_injective h
      omega

/-- The text of a whole number is its sign and its digits. -/
theorem toList_toString_int (n : Int) :
  (toString n).toList = signedDigits n
  := by
  change n.repr.toList = _
  cases n with
  | ofNat m =>
    change (Nat.repr m).toList = _
    rw [Nat.toList_repr]
    rfl
  | negSucc m =>
    change ("-" ++ Nat.repr (m + 1)).toList = _
    rw [String.toList_append, Nat.toList_repr, signedDigits, if_pos (Int.negSucc_lt_zero m)]
    rfl

theorem toList_toString_int64 (n : Int64) :
  (toString n).toList = signedDigits n.toInt
  := toList_toString_int n.toInt

/-! ### Numerals -/

/-- A number in digits: those before the point, those behind it, and an exponent. -/
structure Numeral where
  whole : List Char
  fraction : List Char
  exponent : Option Int

namespace Numeral

/-- The exponent of a numeral as it is written. -/
def mark (n : Numeral) : List Char :=
  match n.exponent with
  | none => []
  | some e => 'e' :: signedDigits e

/-- A numeral as it is written. -/
def chars (n : Numeral) : List Char :=
  n.whole ++ ((if n.fraction = [] then [] else '.' :: n.fraction) ++ n.mark)

/-- The number that a numeral denotes. -/
def value (n : Numeral) : ℚ :=
  digitsValue (n.whole ++ n.fraction) * 10 ^ (n.exponent.getD 0 - n.fraction.length)

/-- A numeral has digits before the point, and a point or an exponent. -/
structure Proper (n : Numeral) : Prop where
  whole : ∀ c ∈ n.whole, c.isDigit
  fraction : ∀ c ∈ n.fraction, c.isDigit
  whole_ne : n.whole ≠ []
  marked : n.fraction ≠ [] ∨ n.exponent.isSome

end Numeral

/-- A text that starts with digits has them in common with every other text that it equals. -/
theorem digits_append_inj {xs ys us vs : List Char} (hx : ∀ c ∈ xs, c.isDigit)
    (hy : ∀ c ∈ ys, c.isDigit) (hu : ∀ c ∈ us.head?, ¬c.isDigit) (hv : ∀ c ∈ vs.head?, ¬c.isDigit)
    (h : xs ++ us = ys ++ vs) :
  xs = ys ∧ us = vs
  := by
  have hshortest : ∀ {xs us : List Char}, (∀ c ∈ xs, c.isDigit) → ∀ as bs, xs = as ++ bs → bs ≠ [] →
      ¬∀ c ∈ (bs ++ us).head?, ¬c.isDigit := by
    rintro xs us hdigits as bs rfl hne hnone
    cases bs with
    | nil => exact hne rfl
    | cons b bs => exact hnone b rfl (hdigits b (List.mem_append_right as List.mem_cons_self))
  apply append_inj_of_shortest (E := fun cs => ∀ c ∈ cs.head?, ¬c.isDigit) (hshortest hx)
    (hshortest hy) hu hv h

namespace Numeral

theorem mark_injective {n m : Numeral} (h : n.mark = m.mark) :
  n.exponent = m.exponent
  := by
  unfold mark at h
  cases hn : n.exponent with
  | none => cases hm : m.exponent with
    | none => rfl
    | some e => simp [hn, hm] at h
  | some e => cases hm : m.exponent with
    | none => simp [hn, hm] at h
    | some e' =>
      simp only [hn, hm] at h
      rw [signedDigits_injective (List.cons.inj h).2]

theorem head_mark {n : Numeral} {c : Char} (h : c ∈ n.mark.head?) :
  c = 'e'
  := by
  unfold mark at h
  split at h
  · cases h
  · cases h
    rfl

/-- The parts of a numeral can be told apart. -/
theorem chars_injective {n m : Numeral} (hn : n.Proper) (hm : m.Proper) (h : n.chars = m.chars) :
  n = m
  := by
  have hmark : ∀ n : Numeral, ∀ c ∈ n.mark.head?, ¬c.isDigit := by
    intro n c hc
    rw [head_mark hc]
    decide
  have htail : ∀ n : Numeral, ∀ c ∈ ((if n.fraction = [] then [] else '.' :: n.fraction)
      ++ n.mark).head?, ¬c.isDigit := by
    intro n c hc
    split at hc
    · apply hmark n c hc
    · cases hc
      decide
  obtain ⟨hwhole, hrest⟩ := digits_append_inj hn.whole hm.whole (htail n) (htail m) h
  have hdot : ∀ {n m : Numeral} {cs : List Char}, '.' :: cs ++ n.mark = m.mark → False := by
    intro n m cs h
    have hhead : '.' ∈ m.mark.head? := by
      rw [← h]
      rfl
    exact absurd (head_mark hhead) (by decide)
  obtain ⟨whole, fraction, exponent⟩ := n
  obtain ⟨whole', fraction', exponent'⟩ := m
  obtain rfl : whole = whole' := hwhole
  have hparts : fraction = fraction' ∧ exponent = exponent' := by
    split at hrest
    · rename_i hnil
      split at hrest
      · rename_i hnil'
        exact ⟨hnil.trans hnil'.symm, mark_injective hrest⟩
      · apply (hdot hrest.symm).elim
    · split at hrest
      · apply (hdot hrest).elim
      · obtain ⟨hfraction, hrest⟩ :=
          digits_append_inj hn.fraction hm.fraction (hmark _) (hmark _) (List.cons.inj hrest).2
        exact ⟨hfraction, mark_injective hrest⟩
  rw [hparts.1, hparts.2]

/-- A numeral begins with a digit. -/
theorem Proper.head {n : Numeral} (hn : n.Proper) :
  ∃ c rest, n.chars = c :: rest ∧ c.isDigit
  := by
  have hne := hn.whole_ne
  have hdigit := hn.whole
  unfold chars
  cases hwhole : n.whole with
  | nil => exact absurd hwhole hne
  | cons c rest => exact ⟨c, _, rfl, hdigit c (hwhole ▸ List.mem_cons_self)⟩

theorem mem_mark {n : Numeral} {c : Char} (h : c ∈ n.mark) :
  c.isDigit ∨ c = 'e' ∨ c = '-'
  := by
  unfold mark at h
  split at h
  · cases h
  · obtain rfl | h := List.mem_cons.mp h
    · exact .inr (.inl rfl)
    · obtain h | h := mem_signedDigits h
      · exact .inr (.inr h)
      · exact .inl h

/-- What stands in a numeral: digits, a point, the mark of the exponent and its sign. -/
theorem Proper.mem {n : Numeral} (hn : n.Proper) {c : Char} (h : c ∈ n.chars) :
  c.isDigit ∨ c = '.' ∨ c = 'e' ∨ c = '-'
  := by
  have hmark : c ∈ n.mark → c.isDigit ∨ c = '.' ∨ c = 'e' ∨ c = '-' := by
    intro h
    obtain h | h := mem_mark h
    · exact .inl h
    · exact .inr (.inr h)
  obtain h | h := List.mem_append.mp h
  · exact .inl (hn.whole c h)
  · split at h
    · apply hmark h
    · obtain h | h := List.mem_append.mp h
      · obtain rfl | h := List.mem_cons.mp h
        · exact .inr (.inl rfl)
        · exact .inl (hn.fraction c h)
      · apply hmark h

/-- A numeral is no whole number: it has a point or an exponent. -/
theorem Proper.mem_chars {n : Numeral} (hn : n.Proper) :
  '.' ∈ n.chars ∨ 'e' ∈ n.chars
  := by
  unfold chars mark
  obtain h | h := hn.marked
  · rw [if_neg h]
    simp
  · obtain ⟨e, he⟩ := Option.isSome_iff_exists.mp h
    rw [he]
    simp

theorem not_closer {c : Char} (h : c.isDigit ∨ c = 'e' ∨ c = '-') :
  ¬isCloser c ∧ c ≠ '.'
  := by
  constructor
  · intro hcloser
    simp only [isCloser, Bool.or_eq_true, beq_iff_eq] at hcloser
    obtain (rfl | rfl) | rfl := hcloser <;> exact absurd h (by decide)
  · rintro rfl
    exact absurd h (by decide)

theorem seamless_append {xs ys : List Char} (hx : ∀ c ∈ xs, ¬isCloser c ∧ c ≠ '.')
    (hy : Seamless ys) :
  Seamless (xs ++ ys)
  := by
  induction xs with
  | nil => exact hy
  | cons x xs ih =>
    obtain ⟨hx, hxs⟩ := List.forall_mem_cons.mp hx
    exact ⟨hx.1, fun hdot => absurd hdot hx.2, ih hxs⟩

/-- Nothing in a numeral looks like its end: a digit stands behind the point. -/
theorem Proper.seamless {n : Numeral} (hn : n.Proper) :
  Seamless n.chars
  := by
  have hmark : Seamless n.mark := seamless_of_forall fun c hc => not_closer (mem_mark hc)
  apply seamless_append fun c hc => not_closer (.inl (hn.whole c hc))
  split
  · exact hmark
  · rename_i hne
    have hfraction : Seamless (n.fraction ++ n.mark) :=
      seamless_append (fun c hc => not_closer (.inl (hn.fraction c hc))) hmark
    refine ⟨by decide, fun _ => ?_, hfraction⟩
    cases hcs : n.fraction with
    | nil => exact absurd hcs hne
    | cons c cs =>
      have hdigit := hn.fraction c (hcs ▸ List.mem_cons_self)
      exact ⟨c, rfl, (not_closer (.inl hdigit)).2⟩

end Numeral

/-! ### Writing decimals -/

/-- The number that a decimal denotes. -/
def Decimal.value (d : Decimal) : ℚ := d.digits * 10 ^ d.exponent

theorem digitsValue_append_zeros (cs : List Char) (k : Nat) :
  digitsValue (cs ++ zeros k) = digitsValue cs * 10 ^ k
  := by
  change Nat.ofDigitChars 10 (cs ++ List.replicate k '0') 0 = Nat.ofDigitChars 10 cs 0 * 10 ^ k
  rw [Nat.ofDigitChars_append, Nat.ofDigitChars_replicate_zero, Nat.mul_comm]

theorem digitsValue_zeros_append (cs : List Char) (k : Nat) :
  digitsValue (zeros k ++ cs) = digitsValue cs
  := by
  change Nat.ofDigitChars 10 (List.replicate k '0' ++ cs) 0 = Nat.ofDigitChars 10 cs 0
  rw [Nat.ofDigitChars_append, Nat.ofDigitChars_replicate_zero, Nat.mul_zero]

theorem isDigit_of_mem_zeros {k : Nat} {c : Char} (h : c ∈ zeros k) :
  c.isDigit
  := by
  rw [List.eq_of_mem_replicate h]
  rfl

section

variable {digits : List Char} (hdigit : ∀ c ∈ digits, c.isDigit)

include hdigit

/-- Digits behind a point and zeros make a numeral. -/
theorem exists_numeral_behind (hne : digits ≠ []) {e : Int} (he : digits.length + e ≤ 0) :
  ∃ n : Numeral, n.Proper
    ∧ ['0', '.'] ++ zeros (-(digits.length + e)).toNat ++ digits = n.chars
    ∧ n.value = digitsValue digits * 10 ^ e
  := by
  refine ⟨⟨['0'], zeros (-(digits.length + e)).toNat ++ digits, none⟩, ?_, ?_, ?_⟩
  · refine ⟨by simp, ?_, by simp, .inl (by simp [hne])⟩
    intro c hc
    obtain hc | hc := List.mem_append.mp hc
    · apply isDigit_of_mem_zeros hc
    · apply hdigit c hc
  · simp [Numeral.chars, Numeral.mark, hne]
  · change (digitsValue (zeros 1 ++ (zeros _ ++ digits)) : ℚ) * _ = _
    rw [digitsValue_zeros_append, digitsValue_zeros_append]
    congr 2
    simp only [List.length_append, zeros, List.length_replicate, Option.getD_none]
    omega

/-- Digits and zeros in front of a point make a numeral. -/
theorem exists_numeral_before (hne : digits ≠ []) (k : Nat) :
  ∃ n : Numeral, n.Proper ∧ digits ++ zeros k ++ ['.', '0'] = n.chars
    ∧ n.value = digitsValue digits * 10 ^ (k : Int)
  := by
  refine ⟨⟨digits ++ zeros k, ['0'], none⟩, ?_, ?_, ?_⟩
  · refine ⟨?_, by simp, by simp [hne], .inl (by simp)⟩
    intro c hc
    obtain hc | hc := List.mem_append.mp hc
    · apply hdigit c hc
    · apply isDigit_of_mem_zeros hc
  · simp [Numeral.chars, Numeral.mark]
  · change (digitsValue (digits ++ zeros k ++ zeros 1) : ℚ) * 10 ^ (-1 : Int) = _
    rw [digitsValue_append_zeros, digitsValue_append_zeros]
    push_cast
    rw [zpow_neg_one, zpow_natCast]
    field_simp

/-- Digits around a point make a numeral. -/
theorem exists_numeral_around {k : Nat} (hk : 0 < k) (hlength : k < digits.length) :
  ∃ n : Numeral, n.Proper ∧ digits.take k ++ '.' :: digits.drop k = n.chars
    ∧ n.value = digitsValue digits * 10 ^ ((k : Int) - digits.length)
  := by
  have hdrop : digits.drop k ≠ [] := by
    intro h
    have := List.drop_eq_nil_iff.mp h
    omega
  refine ⟨⟨digits.take k, digits.drop k, none⟩, ?_, ?_, ?_⟩
  · refine ⟨?_, ?_, ?_, .inl hdrop⟩
    · intro c hc
      apply hdigit c (List.mem_of_mem_take hc)
    · intro c hc
      apply hdigit c (List.mem_of_mem_drop hc)
    · intro h
      have hlen := congrArg List.length h
      simp only [List.length_take, List.length_nil] at hlen
      omega
  · simp [Numeral.chars, Numeral.mark, hdrop]
  · change (digitsValue (digits.take k ++ digits.drop k) : ℚ) * _ = _
    rw [List.take_append_drop]
    congr 2
    simp only [List.length_drop, Option.getD_none]
    omega

/-- Digits with a point behind the first and an exponent make a numeral. -/
theorem exists_numeral_marked (hne : digits ≠ []) (e : Int) :
  ∃ n : Numeral, n.Proper
    ∧ digits.take 1 ++ (if (digits.drop 1).isEmpty then [] else '.' :: digits.drop 1)
        ++ 'e' :: signedDigits e = n.chars
    ∧ n.value = digitsValue digits * 10 ^ (e - (digits.length - 1))
  := by
  have hlength : 0 < digits.length := List.length_pos_iff.mpr hne
  refine ⟨⟨digits.take 1, digits.drop 1, some e⟩, ?_, ?_, ?_⟩
  · refine ⟨?_, ?_, ?_, .inr rfl⟩
    · intro c hc
      apply hdigit c (List.mem_of_mem_take hc)
    · intro c hc
      apply hdigit c (List.mem_of_mem_drop hc)
    · intro h
      have hlen := congrArg List.length h
      simp only [List.length_take, List.length_nil] at hlen
      omega
  · simp [Numeral.chars, Numeral.mark]
  · change (digitsValue (digits.take 1 ++ digits.drop 1) : ℚ) * _ = _
    rw [List.take_append_drop]
    congr 2
    simp only [List.length_drop, Option.getD_some]
    omega

end

/-- A decimal is written as a numeral with its value. -/
theorem exists_numeral (d : Decimal) :
  ∃ n : Numeral, n.Proper ∧ valueLayout.write d = n.chars ∧ n.value = d.value
  := by
  have hdigit : ∀ c ∈ decimalDigits d.digits, c.isDigit := fun c => isDigit_of_mem_decimalDigits
  have hvalue := digitsValue_decimalDigits d.digits
  have hne := decimalDigits_ne_nil d.digits
  unfold Layout.write Decimal.value
  generalize decimalDigits d.digits = digits at hdigit hvalue hne
  have hlength : 0 < digits.length := List.length_pos_iff.mpr hne
  rw [← hvalue]
  dsimp only
  split
  · split
    · rename_i hpoint
      apply exists_numeral_behind hdigit hne hpoint
    · split
      · rename_i hpoint hlarge
        obtain ⟨n, hn, hchars, hn'⟩ := exists_numeral_before hdigit hne
          (digits.length + d.exponent - digits.length).toNat
        refine ⟨n, hn, hchars, ?_⟩
        rw [hn']
        congr 2
        omega
      · rename_i hpoint hsmall
        obtain ⟨n, hn, hchars, hn'⟩ := exists_numeral_around hdigit
          (k := (digits.length + d.exponent).toNat) (by omega) (by omega)
        refine ⟨n, hn, hchars, ?_⟩
        rw [hn']
        congr 2
        omega
  · obtain ⟨n, hn, hchars, hn'⟩ := exists_numeral_marked hdigit hne (digits.length + d.exponent - 1)
    refine ⟨n, hn, hchars, ?_⟩
    rw [hn']
    congr 2
    omega

end DocQuery
