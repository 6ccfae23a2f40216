import DocQuery.Conversion
import DocQuery.Value.Order
import Mathlib.Algebra.Order.Monoid.Unbundled.Basic
import Mathlib.Algebra.Order.Ring.Nat
import Mathlib.Data.Char
import Mathlib.Order.Compare

/-!
# Dates and their texts

Dates and times are compared as texts. The fields of a text have a fixed width, so the first field that
differs decides, and the calendar counts days in the same way: by years, then months, then days. Only the
second is not what is counted: a leap second is shown as the next one.
-/

namespace DocQuery

/-! ### Counting -/

/-- How much comes before a place, if each place has its length. -/
def before (length : ℕ → ℕ) : ℕ → ℕ
  | 0 => 0
  | n + 1 => before length n + length n

theorem before_add_length_le (length : ℕ → ℕ) {n n' : ℕ} (h : n < n') :
  before length n + length n ≤ before length n'
  := by
  induction h with
  | refl => rfl
  | step _ ih => exact Nat.le_trans ih (Nat.le_add_right _ _)

/-- What is counted has the order of the places, and within a place that of the rest. -/
theorem compare_before_add {length : ℕ → ℕ} {n n' k k' : ℕ} (h : k < length n) (h' : k' < length n') :
  compare (before length n + k) (before length n' + k') = (compare n n').then (compare k k')
  := by
  obtain hlt | rfl | hgt := lt_trichotomy n n'
  · have hle := before_add_length_le length hlt
    rw [compare_lt_iff_lt.mpr hlt, compare_lt_iff_lt.mpr (by omega)]
    rfl
  · rw [compare_eq_iff_eq.mpr rfl, Ordering.eq_then, ← cmp_eq_compare, ← cmp_eq_compare, cmp_add_left]
  · have hle := before_add_length_le length hgt
    rw [compare_gt_iff_gt.mpr hgt, compare_gt_iff_gt.mpr (by omega)]
    rfl

theorem before_const (length n : ℕ) :
  before (fun _ => length) n = n * length
  := by
  induction n with
  | zero => rw [before, Nat.zero_mul]
  | succ n ih => rw [before, ih, Nat.succ_mul]

theorem compare_mul_add {length n n' k k' : ℕ} (h : k < length) (h' : k' < length) :
  compare (n * length + k) (n' * length + k') = (compare n n').then (compare k k')
  := by
  rw [← before_const, ← before_const]
  exact compare_before_add h h'

/-! ### Texts of a fixed width -/

/-- Texts are compared character by character. -/
theorem compare_ofList (cs ds : List Char) :
  compare (String.ofList cs) (String.ofList ds) = compare cs ds
  := by
  change compareOfLessAndEq _ _ = _
  unfold compareOfLessAndEq
  simp only [String.lt_iff, String.ofList_inj, String.toList_ofList]
  induction cs generalizing ds with
  | nil => cases ds <;> simp
  | cons c cs ih =>
    cases ds with
    | nil => simp
    | cons d ds =>
      rw [List.compare_cons_cons, ← ih ds]
      simp only [List.cons_lt_cons_iff, List.cons.injEq]
      obtain hlt | rfl | hgt := lt_trichotomy c d
      · rw [compare_lt_iff_lt.mpr hlt, if_pos (.inl hlt)]
        rfl
      · rw [compare_eq_iff_eq.mpr rfl, Ordering.eq_then]
        simp
      · rw [compare_gt_iff_gt.mpr hgt, if_neg, if_neg]
        · rfl
        · exact fun h => hgt.ne' h.1
        · rintro (h | ⟨h, -⟩)
          · exact lt_asymm h hgt
          · exact hgt.ne' h

theorem compare_append {p q : List Char} (h : p.length = q.length) (r s : List Char) :
  compare (p ++ r) (q ++ s) = (compare p q).then (compare r s)
  := by
  induction p generalizing q with
  | nil =>
    obtain rfl := List.length_eq_zero_iff.mp h.symm
    rfl
  | cons c p ih =>
    cases q with
    | nil => cases h
    | cons d q =>
      rw [List.cons_append, List.cons_append, List.compare_cons_cons, ih (Nat.succ.inj h),
        List.compare_cons_cons, Ordering.then_assoc]

/-- A number with one more digit is padded by padding what is in front of its last digit. -/
theorem padded_succ {width : ℕ} (h : 0 < width) (n : ℕ) :
  padded (width + 1) n = padded width (n / 10) ++ [(n % 10).digitChar]
  := by
  unfold padded decimalDigits
  dsimp only
  rw [Nat.toDigits_eq_if (n := n) (by decide)]
  split
  · rename_i hn
    rw [Nat.div_eq_of_lt hn, Nat.mod_eq_of_lt hn]
    obtain ⟨width, rfl⟩ := Nat.exists_eq_succ_of_ne_zero h.ne'
    change List.replicate (width + 1) '0' ++ _ = List.replicate width '0' ++ ['0'] ++ _
    rw [List.replicate_succ']
  · rw [List.length_append, List.length_singleton, Nat.add_sub_add_right, List.append_assoc]

theorem length_padded {width : ℕ} (h : 0 < width) {n : ℕ} (hn : n < 10 ^ width) :
  (padded width n).length = width
  := by
  have hle : (decimalDigits n).length ≤ width := (Nat.length_toDigits_le_iff (by decide) h).mpr hn
  rw [padded, List.length_append, List.length_replicate]
  omega

/-- Padded numbers have the order of the numbers. -/
theorem compare_padded {width : ℕ} (h : 0 < width) {n n' : ℕ} (hn : n < 10 ^ width)
    (hn' : n' < 10 ^ width) :
  compare (padded width n) (padded width n') = compare n n'
  := by
  have hdigit : ∀ i j : Fin 10, compare [i.val.digitChar] [j.val.digitChar] = compare i.val j.val := by
    decide
  induction width, h using Nat.le_induction generalizing n n' with
  | base =>
    have hone : ∀ {n : ℕ}, n < 10 → padded 1 n = [n.digitChar] := by
      intro n hn
      rw [padded, decimalDigits, Nat.toDigits_of_lt_base hn]
      rfl
    rw [hone hn, hone hn']
    exact hdigit ⟨n, hn⟩ ⟨n', hn'⟩
  | succ width h ih =>
    have hlt : n / 10 < 10 ^ width := Nat.div_lt_of_lt_mul (by rwa [← Nat.pow_succ'])
    have hlt' : n' / 10 < 10 ^ width := Nat.div_lt_of_lt_mul (by rwa [← Nat.pow_succ'])
    have hmod : ∀ n : ℕ, n % 10 < 10 := fun n => Nat.mod_lt n (by decide)
    calc compare (padded (width + 1) n) (padded (width + 1) n')
      _ = (compare (padded width (n / 10)) (padded width (n' / 10))).then
          (compare [(n % 10).digitChar] [(n' % 10).digitChar]) := by
        rw [padded_succ h, padded_succ h, compare_append]
        rw [length_padded h hlt, length_padded h hlt']
      _ = (compare (n / 10) (n' / 10)).then (compare (n % 10) (n' % 10)) := by
        rw [ih hlt hlt']
        exact congrArg _ (hdigit ⟨_, hmod n⟩ ⟨_, hmod n'⟩)
      _ = compare (n / 10 * 10 + n % 10) (n' / 10 * 10 + n' % 10) :=
        (compare_mul_add (hmod n) (hmod n')).symm
      _ = compare n n' := by rw [Nat.div_add_mod', Nat.div_add_mod']

/-- A padded number at the beginning of a text comes first. -/
theorem compare_padded_append {width : ℕ} (h : 0 < width) {n n' : ℕ} (hn : n < 10 ^ width)
    (hn' : n' < 10 ^ width) (r s : List Char) :
  compare (padded width n ++ r) (padded width n' ++ s) = (compare n n').then (compare r s)
  := by
  rw [compare_append, compare_padded h hn hn']
  rw [length_padded h hn, length_padded h hn']

/-- What both texts begin with does not matter. -/
theorem compare_cons_self (c : Char) (r s : List Char) :
  compare (c :: r) (c :: s) = compare r s
  := by
  rw [List.compare_cons_cons, compare_eq_iff_eq.mpr rfl, Ordering.eq_then]

/-! ### The calendar -/

/-- Whether the year has a leap day. -/
def isLeapYear (year : ℕ) : Bool := year % 4 = 0 ∧ (year % 100 ≠ 0 ∨ year % 400 = 0)

/-- The days of a month, in a leap year or another one. There is no month zero. -/
def monthLength (leap : Bool) : ℕ → ℕ
  | 0 => 0
  | 2 => if leap then 29 else 28
  | 4 | 6 | 9 | 11 => 30
  | _ => 31

/-- The days of a year: those before a thirteenth month. -/
def yearLength (year : ℕ) : ℕ := before (monthLength (isLeapYear year)) 13

namespace Date

/-- The date is in the calendar, and its year has at most four digits. -/
structure Valid (d : Date) : Prop where
  nonneg : 0 ≤ d.year
  year : d.year ≤ 9999
  month : d.month ≤ 12
  pos : 0 < d.day
  day : d.day ≤ monthLength (isLeapYear d.year.toNat) d.month

/-- The days before the date, within its year. -/
def dayOfYear (d : Date) : ℕ := before (monthLength (isLeapYear d.year.toNat)) d.month + (d.day - 1)

/-- The days before the date, from the beginning of the year zero. -/
def dayNumber (d : Date) : ℕ := before yearLength d.year.toNat + d.dayOfYear

variable {a b : Date}

theorem Valid.dayOfYear_lt (ha : a.Valid) :
  a.dayOfYear < yearLength a.year.toNat
  := by
  have hlt : a.month < 13 := Nat.lt_succ_of_le ha.month
  have hle := before_add_length_le (monthLength (isLeapYear a.year.toNat)) hlt
  have hday := ha.day
  have hpos := ha.pos
  unfold dayOfYear yearLength
  omega

/-- Days are counted by years, then months, then days. -/
theorem compare_dayNumber (ha : a.Valid) (hb : b.Valid) :
  compare a.dayNumber b.dayNumber
    = (compare a.year.toNat b.year.toNat).then ((compare a.month b.month).then (compare a.day b.day))
  := by
  rw [dayNumber, dayNumber, compare_before_add ha.dayOfYear_lt hb.dayOfYear_lt]
  cases hyear : compare a.year.toNat b.year.toNat with
  | eq =>
    have hlengths := congrArg isLeapYear (compare_eq_iff_eq.mp hyear)
    obtain ⟨k, hk⟩ := Nat.exists_eq_add_of_lt ha.pos
    obtain ⟨k', hk'⟩ := Nat.exists_eq_add_of_lt hb.pos
    have hday := ha.day
    have hday' := hb.day
    rw [Ordering.eq_then, Ordering.eq_then, dayOfYear, dayOfYear, ← hlengths, compare_before_add]
    · rw [hk, hk', ← cmp_eq_compare (_ - 1), ← cmp_eq_compare (_ + 1), cmp_add_right]
      rfl
    · omega
    · rw [hlengths]
      omega
  | lt => rfl
  | gt => rfl

/-- A date is determined by the days before it. -/
theorem dayNumber_inj (ha : a.Valid) (hb : b.Valid) :
  a.dayNumber = b.dayNumber ↔ a = b
  := by
  constructor
  · intro h
    have hcompare := compare_dayNumber ha hb
    rw [compare_eq_iff_eq.mpr h] at hcompare
    obtain ⟨hyear, hrest⟩ := Ordering.then_eq_eq.mp hcompare.symm
    obtain ⟨hmonth, hday⟩ := Ordering.then_eq_eq.mp hrest
    have hnonneg := ha.nonneg
    have hnonneg' := hb.nonneg
    have hyear : a.year = b.year := by
      have htoNat := compare_eq_iff_eq.mp hyear
      omega
    cases a
    cases b
    cases hyear
    cases compare_eq_iff_eq.mp hmonth
    cases compare_eq_iff_eq.mp hday
    rfl
  · rintro rfl
    rfl

theorem Valid.month_lt (ha : a.Valid) :
  a.month < 10 ^ 2
  := Nat.lt_of_le_of_lt ha.month (by decide)

theorem Valid.day_lt (ha : a.Valid) :
  a.day < 10 ^ 2
  := by
  have hlength : ∀ (leap : Bool) (month : Fin 13), monthLength leap month < 10 ^ 2 := by decide
  exact Nat.lt_of_le_of_lt ha.day (hlength _ ⟨a.month, Nat.lt_succ_of_le ha.month⟩)

theorem Valid.year_lt (ha : a.Valid) :
  a.year.toNat < 10 ^ 4
  := by
  have hyear := ha.year
  omega

/-- Texts that begin with dates have the order of the days first. -/
theorem compare_text_append (ha : a.Valid) (hb : b.Valid) (r s : List Char) :
  compare (a.text ++ r) (b.text ++ s) = (compare a.dayNumber b.dayNumber).then (compare r s)
  := by
  rw [text, text, yearText, yearText, if_pos ⟨ha.nonneg, ha.year⟩, if_pos ⟨hb.nonneg, hb.year⟩]
  simp only [List.append_assoc, List.cons_append]
  rw [compare_padded_append (by decide) ha.year_lt hb.year_lt, compare_cons_self,
    compare_padded_append (by decide) ha.month_lt hb.month_lt, compare_cons_self,
    compare_padded_append (by decide) ha.day_lt hb.day_lt, compare_dayNumber ha hb,
    Ordering.then_assoc, Ordering.then_assoc]

end Date

namespace TimeOfDay

/-- The fields of a time of day are within their bounds. The nanoseconds of a leap second count on from
those of the second before it. -/
structure Valid (t : TimeOfDay) : Prop where
  hour : t.hour < 24
  minute : t.minute < 60
  second : t.second < 60
  nanosecond : t.nanosecond < 2 * secondLength

/-- The second within its minute, where a leap second is the next one. -/
def shownSecond (t : TimeOfDay) : ℕ := if t.isLeap then t.second + 1 else t.second

variable {a b : TimeOfDay}

theorem Valid.hour_lt (ha : a.Valid) :
  a.hour < 10 ^ 2
  := Nat.lt_trans ha.hour (by decide)

theorem Valid.minute_lt (ha : a.Valid) :
  a.minute < 10 ^ 2
  := Nat.lt_trans ha.minute (by decide)

theorem Valid.shownSecond_lt (ha : a.Valid) :
  a.shownSecond < 10 ^ 2
  := by
  have hsecond := ha.second
  unfold shownSecond
  split <;> omega

/-- Texts that begin with times have the order of the hours first, then of the minutes, and then of the
seconds that are shown. -/
theorem compare_text_append (ha : a.Valid) (hb : b.Valid) (r s : List Char) :
  compare (a.text ++ r) (b.text ++ s)
    = (compare (a.hour * 60 + a.minute) (b.hour * 60 + b.minute)).then
      ((compare a.shownSecond b.shownSecond).then (compare r s))
  := by
  rw [text, text]
  simp only [List.append_assoc, List.cons_append]
  rw [compare_padded_append (by decide) ha.hour_lt hb.hour_lt, compare_cons_self,
    compare_padded_append (by decide) ha.minute_lt hb.minute_lt, compare_cons_self,
    compare_mul_add ha.minute hb.minute, Ordering.then_assoc]
  exact congrArg _ (congrArg _
    (compare_padded_append (by decide) ha.shownSecond_lt hb.shownSecond_lt r s))

end TimeOfDay

namespace DateTime

/-- The date and the time of day exist. -/
structure Valid (t : DateTime) : Prop where
  date : t.date.Valid
  time : t.time.Valid

/-- The minutes before the time, from the beginning of the year zero. -/
def minuteNumber (t : DateTime) : ℕ := t.date.dayNumber * 1440 + (t.time.hour * 60 + t.time.minute)

/-- The seconds before the time, from the beginning of the year zero. Leap seconds are not counted. -/
def secondNumber (t : DateTime) : ℕ := t.minuteNumber * 60 + t.time.second

/-- A time is not after another one: it is in an earlier second, or in the same one, its leap second
included, and its nanoseconds are not more. -/
def NotAfter (a b : DateTime) : Prop :=
  a.secondNumber < b.secondNumber
    ∨ a.secondNumber = b.secondNumber ∧ a.time.nanosecond ≤ b.time.nanosecond

/-- Two times agree down to the second. -/
def SameSecond (a b : DateTime) : Prop :=
  a.date = b.date ∧ a.time.hour = b.time.hour ∧ a.time.minute = b.time.minute
    ∧ a.time.shownSecond = b.time.shownSecond

variable {a b : DateTime}

/-- The text of a time has the order of the minutes first, and then of the seconds that are shown. -/
theorem compare_text_append (ha : a.Valid) (hb : b.Valid) (tail : List Char) :
  compare (a.text ++ tail) (b.text ++ tail)
    = (compare a.minuteNumber b.minuteNumber).then (compare a.time.shownSecond b.time.shownSecond)
  := by
  have hday : ∀ {t : TimeOfDay}, t.Valid → t.hour * 60 + t.minute < 1440 := by
    intro t ht
    have hhour := ht.hour
    have hminute := ht.minute
    omega
  have htail : compare tail tail = .eq := Std.ReflCmp.compare_self
  rw [text, text, List.append_assoc, List.append_assoc, Date.compare_text_append ha.date hb.date,
    List.cons_append, List.cons_append, compare_cons_self, TimeOfDay.compare_text_append ha.time hb.time,
    htail, Ordering.then_eq, minuteNumber, minuteNumber, compare_mul_add (hday ha.time) (hday hb.time),
    Ordering.then_assoc]

/-- A time is not after one on a later day. -/
theorem NotAfter.of_dayNumber_lt (ha : a.Valid) (h : a.date.dayNumber < b.date.dayNumber) :
  a.NotAfter b
  := by
  left
  have hhour := ha.time.hour
  have hminute := ha.time.minute
  have hsecond := ha.time.second
  unfold secondNumber minuteNumber
  omega

theorem NotAfter.minuteNumber_le (ha : a.Valid) (hb : b.Valid) (h : a.NotAfter b) :
  a.minuteNumber < b.minuteNumber
    ∨ a.minuteNumber = b.minuteNumber ∧ a.time.shownSecond ≤ b.time.shownSecond
  := by
  have hsecond := ha.time.second
  have hsecond' := hb.time.second
  unfold NotAfter secondNumber at h
  unfold TimeOfDay.shownSecond TimeOfDay.isLeap
  simp only [decide_eq_true_eq]
  split <;> split <;> omega

theorem sameSecond_iff (ha : a.Valid) (hb : b.Valid) :
  a.minuteNumber = b.minuteNumber ∧ a.time.shownSecond = b.time.shownSecond ↔ a.SameSecond b
  := by
  have hhour := ha.time.hour
  have hhour' := hb.time.hour
  have hminute := ha.time.minute
  have hminute' := hb.time.minute
  rw [SameSecond, ← Date.dayNumber_inj ha.date hb.date]
  unfold minuteNumber
  omega

/-- Unless a leap second is not at the end of a minute, two times agree down to the second if they do so in
all fields and both are in a leap second or neither is. -/
theorem sameSecond_iff_of_regular (ha : a.Valid) (hb : b.Valid) (hleap : a.time.isLeap → a.time.second = 59)
    (hleap' : b.time.isLeap → b.time.second = 59) :
  a.SameSecond b
    ↔ a.secondNumber = b.secondNumber ∧ a.time.isLeap = b.time.isLeap
  := by
  have hsecond := ha.time.second
  have hsecond' := hb.time.second
  rw [← sameSecond_iff ha hb, secondNumber, secondNumber, TimeOfDay.shownSecond, TimeOfDay.shownSecond]
  cases hisLeap : a.time.isLeap <;> cases hisLeap' : b.time.isLeap <;> simp_all <;> omega

/-- Of two times the text of the one that is not after the other is not greater, and it is equal exactly if
they agree down to the second. -/
theorem NotAfter.compare_text (ha : a.Valid) (hb : b.Valid) (h : a.NotAfter b) (tail : List Char) :
  compare (a.text ++ tail) (b.text ++ tail) ≠ .gt
    ∧ (compare (a.text ++ tail) (b.text ++ tail) = .eq ↔ a.SameSecond b)
  := by
  rw [compare_text_append ha hb, ← sameSecond_iff ha hb, Ordering.then_eq_eq, compare_eq_iff_eq,
    compare_eq_iff_eq, and_iff_left Iff.rfl]
  obtain hlt | ⟨heq, hle⟩ := h.minuteNumber_le ha hb
  · rw [compare_lt_iff_lt.mpr hlt]
    exact Ordering.noConfusion
  · rw [compare_eq_iff_eq.mpr heq, Ordering.eq_then]
    exact compare_le_iff_le.mpr hle

end DateTime

/-! ### Conversion -/

namespace Host

/-- A date or time is not after another one of its kind. -/
inductive NotAfter : Host → Host → Prop
  | instant {a b : DateTime} (ha : a.Valid) (hb : b.Valid) (h : a.NotAfter b) :
    NotAfter (.instant a) (.instant b)
  | localTime {a b : DateTime} (ha : a.Valid) (hb : b.Valid) (h : a.NotAfter b) :
    NotAfter (.localTime a) (.localTime b)
  | date {a b : Date} (ha : a.Valid) (hb : b.Valid) (h : a.dayNumber ≤ b.dayNumber) :
    NotAfter (.date a) (.date b)

/-- Two times agree down to the second, or two dates are the same. -/
def Agrees : Host → Host → Prop
  | instant a, instant b => a.SameSecond b
  | localTime a, localTime b => a.SameSecond b
  | date a, date b => a = b
  | _, _ => False

end Host

theorem compare?_ofList (cs ds : List Char) :
  (Value.string (String.ofList cs)).compare? (.string (String.ofList ds)) = some (compare cs ds)
  := congrArg some (compare_ofList cs ds)

/-- Of two instants, local times or dates with years of four digits, the one that is not after the other is
converted to a text that is not greater. The texts are equal exactly if the times agree down to the second,
or the dates are the same. -/
theorem compare?_converted {x y : Host} (h : x.NotAfter y) (i j : ℕ) (fields others : Option Entries) :
  ∃ s t o, Normalizer.core.convert (.host i x fields) = .string s
    ∧ Normalizer.core.convert (.host j y others) = .string t
    ∧ (Value.string s).compare? (.string t) = some o ∧ o ≠ .gt ∧ (o = .eq ↔ x.Agrees y)
  := by
  cases h with
  | instant ha hb h =>
    exact ⟨_, _, _, rfl, rfl, compare?_ofList _ _, h.compare_text ha hb ['Z']⟩
  | localTime ha hb h =>
    have hcompare := h.compare_text ha hb []
    rw [List.append_nil, List.append_nil] at hcompare
    exact ⟨_, _, _, rfl, rfl, compare?_ofList _ _, hcompare⟩
  | @date a b ha hb h =>
    refine ⟨_, _, _, rfl, rfl, compare?_ofList _ _, ?_⟩
    have hcompare := Date.compare_text_append ha hb [] []
    rw [List.append_nil, List.append_nil, List.compare_nil_nil, Ordering.then_eq] at hcompare
    rw [hcompare, Host.Agrees, ← Date.dayNumber_inj ha hb, compare_eq_iff_eq]
    exact ⟨compare_le_iff_le.mpr h, Iff.rfl⟩

/-- The leap second at the end of a year, and the second after it. -/
theorem compare?_converted_leap_second :
  ∃ s t, Normalizer.core.convert
      (.host 0 (.instant ⟨⟨2016, 12, 31⟩, ⟨23, 59, 59, 1500000000⟩⟩) none) = .string s
    ∧ Normalizer.core.convert (.host 1 (.instant ⟨⟨2017, 1, 1⟩, ⟨0, 0, 0, 0⟩⟩) none) = .string t
    ∧ (Value.string s).compare? (.string t) = some .lt
  := by
  have ha : DateTime.Valid ⟨⟨2016, 12, 31⟩, ⟨23, 59, 59, 1500000000⟩⟩ :=
    ⟨⟨by decide, by decide, by decide, by decide, by decide⟩,
      ⟨by decide, by decide, by decide, by decide⟩⟩
  have hb : DateTime.Valid ⟨⟨2017, 1, 1⟩, ⟨0, 0, 0, 0⟩⟩ :=
    ⟨⟨by decide, by decide, by decide, by decide, by decide⟩,
      ⟨by decide, by decide, by decide, by decide⟩⟩
  have hday : Date.dayNumber ⟨2016, 12, 31⟩ < Date.dayNumber ⟨2017, 1, 1⟩ := by
    apply compare_lt_iff_lt.mp
    rw [Date.compare_dayNumber ha.date hb.date]
    decide
  have h := DateTime.NotAfter.of_dayNumber_lt (b := ⟨⟨2017, 1, 1⟩, ⟨0, 0, 0, 0⟩⟩) ha hday
  obtain ⟨s, t, o, hs, ht, hcompare, hgt, heq⟩ :=
    compare?_converted (.instant ha hb h) 0 1 none none
  refine ⟨s, t, hs, ht, ?_⟩
  cases o with
  | lt => exact hcompare
  | eq => exact absurd (heq.mp rfl).1 (by decide)
  | gt => exact absurd rfl hgt

end DocQuery
