import DocQuery.Proofs.Equality
import DocQuery.Proofs.NearestFloats

/-!
# Comparisons

An integer is rounded when it is compared with a floating point number. Rounding keeps the order, so values
that are compared are equal exactly if neither is less, and what is less than something less is less. But
two integers may be rounded to one floating point number, and then both are equal to it. Where this does not
happen, numbers are compared exactly, and equality and the order are transitive.
-/

namespace DocQuery

/-! ### Numbers -/

/-- What an integer counts as beside floating point numbers. -/
def roundedNumber (n : Int64) : Extended := (floatNumber? (nearestFloat n)).getD ⊥

theorem exists_roundedNumber (n : Int64) :
  ∃ r, floatNumber? (nearestFloat n) = some (.ofRat r) ∧ roundedNumber n = .ofRat r ∧ Nearest n.toInt r
    ∧ Representable r
  := by
  obtain ⟨r, hr, hnearest⟩ := nearestFloat_nearest n
  exact ⟨r, hr, by rw [roundedNumber, hr]; rfl, hnearest, representable_of_floatNumber? hr⟩

theorem floatNumber?_nearestFloat (n : Int64) :
  floatNumber? (nearestFloat n) = some (roundedNumber n)
  := by
  obtain ⟨r, h, hr, -⟩ := exists_roundedNumber n
  rw [h, hr]

/-- Integers keep their order when they are rounded. -/
theorem roundedNumber_mono {n m : Int64} (h : n.toInt ≤ m.toInt) :
  roundedNumber n ≤ roundedNumber m
  := by
  obtain ⟨r, -, hr, hnearest, hrepresentable⟩ := exists_roundedNumber n
  obtain ⟨r', -, hr', hnearest', hrepresentable'⟩ := exists_roundedNumber m
  obtain hlt | heq := lt_or_eq_of_le h
  · rw [hr, hr', Extended.ofRat_strictMono.le_iff_le]
    apply hnearest.mono hnearest' hrepresentable hrepresentable'
    exact_mod_cast hlt
  · rw [Int64.toInt_inj.mp heq]

/-- Up to two to the power of 53 an integer counts as itself. -/
theorem roundedNumber_of_natAbs_le {n : Int64} (h : n.toInt.natAbs ≤ 2 ^ 53) :
  roundedNumber n = .ofRat n.toInt
  := by
  obtain ⟨r, -, hr, hnearest, -⟩ := exists_roundedNumber n
  rw [hr, hnearest.eq_of_representable (representable_of_natAbs_le h)]

/-- An integer is not rounded up past a floating point number. -/
theorem roundedNumber_le {n : Int64} {x : Float} {p : Extended} (hp : floatNumber? x = some p)
    (h : .ofRat n.toInt ≤ p) :
  roundedNumber n ≤ p
  := by
  obtain ⟨r, -, hr, hnearest, -⟩ := exists_roundedNumber n
  obtain rfl | rfl | ⟨q, rfl⟩ := p.cases
  · exact absurd h (not_le_of_gt (WithBot.bot_lt_coe _))
  · exact le_top
  · rw [hr, Extended.ofRat_strictMono.le_iff_le]
    exact hnearest.le_of_le (representable_of_floatNumber? hp) (Extended.ofRat_strictMono.le_iff_le.mp h)

/-- An integer is not rounded down past a floating point number. -/
theorem le_roundedNumber {n : Int64} {x : Float} {p : Extended} (hp : floatNumber? x = some p)
    (h : p ≤ .ofRat n.toInt) :
  p ≤ roundedNumber n
  := by
  obtain ⟨r, -, hr, hnearest, -⟩ := exists_roundedNumber n
  obtain rfl | rfl | ⟨q, rfl⟩ := p.cases
  · exact bot_le
  · exact absurd h (not_le_of_gt (WithBot.coe_lt_coe.mpr (WithTop.coe_lt_top _)))
  · rw [hr, Extended.ofRat_strictMono.le_iff_le]
    exact hnearest.le_of_ge (representable_of_floatNumber? hp) (Extended.ofRat_strictMono.le_iff_le.mp h)

namespace Value

/-- The number that a value denotes. -/
def number? : Value → Option Extended
  | int n => some (.ofRat n.toInt)
  | float x => floatNumber? x
  | _ => none

/-- The value is an integer or a floating point number. It denotes the first number, and counts as the
second one where an integer is compared with a floating point number. -/
inductive Denotes : Value → Extended → Extended → Prop
  | int (n : Int64) : Denotes (.int n) (.ofRat n.toInt) (roundedNumber n)
  | float {x : Float} {p : Extended} (h : floatNumber? x = some p) : Denotes (.float x) p p

theorem exists_denotes {a : Value} {p : Extended} (h : a.number? = some p) :
  ∃ p', a.Denotes p p'
  := by
  cases a with
  | int n =>
    cases h
    exact ⟨_, .int n⟩
  | float x => exact ⟨_, .float h⟩
  | _ => cases h

namespace Denotes

variable {a b c : Value} {p p' q q' : Extended}

theorem isSome_asFloat? (h : a.Denotes p p') :
  a.asFloat?.isSome
  := by
  cases h <;> rfl

/-- Numbers keep their order when they are rounded. -/
theorem mono (ha : a.Denotes p p') (hb : b.Denotes q q') (h : p ≤ q) :
  p' ≤ q'
  := by
  cases ha with
  | int n =>
    cases hb with
    | int m => exact roundedNumber_mono (by exact_mod_cast Extended.ofRat_strictMono.le_iff_le.mp h)
    | float hq => exact roundedNumber_le hq h
  | float hp =>
    cases hb with
    | int m => exact le_roundedNumber hp h
    | float hq => exact h

/-- Two integers are compared by the numbers that they denote, and other numbers by what they count as. -/
theorem compare?_eq (ha : a.Denotes p p') (hb : b.Denotes q q') :
  a.compare? b = some (if a.asInt?.isSome ∧ b.asInt?.isSome then compare p q else compare p' q')
  := by
  cases ha with
  | int n =>
    cases hb with
    | int m =>
      have hmono : StrictMono fun k : ℤ => (k : ℚ) := Int.cast_strictMono
      rw [if_pos ⟨rfl, rfl⟩, Extended.compare_ofRat, ← cmp_eq_compare, hmono.cmp_map_eq, cmp_eq_compare]
      rfl
    | float hq => rw [compare?, compareFloats?_eq, floatNumber?_nearestFloat, hq]; rfl
  | float hp =>
    cases hb with
    | int m => rw [compare?, compareFloats?_eq, floatNumber?_nearestFloat, hp]; rfl
    | float hq => rw [compare?, compareFloats?_eq, hp, hq]; rfl

/-- What is less denotes a smaller number. -/
theorem lt_of_compare? (ha : a.Denotes p p') (hb : b.Denotes q q') (h : a.compare? b = some .lt) :
  p < q
  := by
  by_contra hnot
  have hle : q ≤ p := le_of_not_gt hnot
  rw [ha.compare?_eq hb, Option.some.injEq] at h
  split at h
  · exact absurd (compare_lt_iff_lt.mp h) hnot
  · exact absurd (compare_lt_iff_lt.mp h) (not_lt_of_ge (hb.mono ha hle))

/-- What is less and is not compared as an integer with an integer counts as a smaller number. -/
theorem lt_of_compare?_of_not (ha : a.Denotes p p') (hb : b.Denotes q q') (h : a.compare? b = some .lt)
    (hints : ¬(a.asInt?.isSome ∧ b.asInt?.isSome)) :
  p' < q'
  := by
  rw [ha.compare?_eq hb, if_neg hints, Option.some.injEq] at h
  exact compare_lt_iff_lt.mp h

/-- Of numbers the first is less than the third if it is less than the second, and this less than the third.
-/
theorem compare?_lt_trans {r r' : Extended} (ha : a.Denotes p p') (hb : b.Denotes q q')
    (hc : c.Denotes r r') (h : a.compare? b = some .lt) (h' : b.compare? c = some .lt) :
  a.compare? c = some .lt
  := by
  have hlt := ha.lt_of_compare? hb h
  have hlt' := hb.lt_of_compare? hc h'
  rw [ha.compare?_eq hc]
  split
  · rw [compare_lt_iff_lt.mpr (hlt.trans hlt')]
  · rename_i hints
    suffices hrounded : p' < r' by rw [compare_lt_iff_lt.mpr hrounded]
    by_cases hfirst : a.asInt?.isSome ∧ b.asInt?.isSome
    · have hlast := hb.lt_of_compare?_of_not hc h' fun hlast => hints ⟨hfirst.1, hlast.2⟩
      exact lt_of_le_of_lt (ha.mono hb hlt.le) hlast
    · exact lt_of_lt_of_le (ha.lt_of_compare?_of_not hb h hfirst) (hb.mono hc hlt'.le)

/-- Numbers that count as different unless they are the same are compared exactly. -/
theorem compare?_eq_compare (ha : a.Denotes p p') (hb : b.Denotes q q')
    (h : ¬(a.asInt?.isSome ∧ b.asInt?.isSome) → p' = q' → p = q) :
  a.compare? b = some (compare p q)
  := by
  rw [ha.compare?_eq hb]
  split
  · rfl
  · rename_i hints
    replace h := h hints
    obtain hlt | rfl | hgt := lt_trichotomy p q
    · have hlt' : p' < q' := lt_of_le_of_ne (ha.mono hb hlt.le) fun heq => hlt.ne (h heq)
      rw [compare_lt_iff_lt.mpr hlt, compare_lt_iff_lt.mpr hlt']
    · have heq : p' = q' := le_antisymm (ha.mono hb (le_refl p)) (hb.mono ha (le_refl p))
      rw [compare_eq_iff_eq.mpr rfl, compare_eq_iff_eq.mpr heq]
    · have hgt' : q' < p' := lt_of_le_of_ne (hb.mono ha hgt.le) fun heq => hgt.ne' (h heq.symm)
      rw [compare_gt_iff_gt.mpr hgt, compare_gt_iff_gt.mpr hgt']

end Denotes

variable {a b c : Value}

/-- Two values are compared only if both are strings or both denote numbers. -/
theorem compare?_eq_some {o : Ordering} (h : a.compare? b = some o) :
  (∃ s t, a = .string s ∧ b = .string t ∧ o = compare s t)
    ∨ ∃ p p' q q', a.Denotes p p' ∧ b.Denotes q q'
  := by
  unfold compare? at h
  split at h
  · exact .inr ⟨_, _, _, _, .int _, .int _⟩
  · obtain ⟨p, q, hp, hq, -⟩ := compareFloats?_eq_some h
    exact .inr ⟨_, _, _, _, .float hp, .float hq⟩
  · obtain ⟨p, q, -, hq, -⟩ := compareFloats?_eq_some h
    exact .inr ⟨_, _, _, _, .int _, .float hq⟩
  · obtain ⟨p, q, hp, -, -⟩ := compareFloats?_eq_some h
    exact .inr ⟨_, _, _, _, .float hp, .int _⟩
  · exact .inl ⟨_, _, rfl, rfl, (Option.some.inj h).symm⟩
  · cases h

/-- A number is equal to what it is compared with as such, and to nothing else. -/
theorem beq_iff_compare? (ha : a.asFloat?.isSome) :
  a == b ↔ a.compare? b = some .eq
  := by
  cases a with
  | int n =>
    cases b with
    | int m =>
      rw [compare?, Option.some.injEq, compare_eq_iff_eq, Int64.toInt_inj]
      exact beq_iff_eq (a := n) (b := m)
    | float y => apply float_beq_iff_compareFloats?
    | _ => exact ⟨nofun, nofun⟩
  | float x =>
    cases b with
    | int m =>
      have hsymm : nearestFloat m == x ↔ x == nearestFloat m := ⟨BEq.symm, BEq.symm⟩
      exact hsymm.trans (float_beq_iff_compareFloats? x (nearestFloat m))
    | float y => apply float_beq_iff_compareFloats?
    | _ => exact ⟨nofun, nofun⟩
  | _ => cases ha

/-- The order is reversed when the values are exchanged. -/
theorem compare?_swap (a b : Value) :
  b.compare? a = (a.compare? b).map Ordering.swap
  := by
  have hints (n m : Int64) : compare m.toInt n.toInt = (compare n.toInt m.toInt).swap :=
    Std.OrientedOrd.eq_swap
  have hstrings (s t : String) : compare t s = (compare s t).swap := Std.OrientedOrd.eq_swap
  cases a with
  | int n =>
    cases b with
    | int m => exact congrArg some (hints n m)
    | float y => apply compareFloats?_swap
    | _ => rfl
  | float x =>
    cases b with
    | int m => apply compareFloats?_swap
    | float y => apply compareFloats?_swap
    | _ => rfl
  | string s =>
    cases b with
    | string t => exact congrArg some (hstrings s t)
    | _ => rfl
  | _ => cases b <;> rfl

/-- Of two values that are compared, one is equal to the other exactly if neither is less. -/
theorem beq_iff_of_compare? {o : Ordering} (h : a.compare? b = some o) :
  a == b ↔ o = .eq
  := by
  obtain ⟨s, t, rfl, rfl, rfl⟩ | ⟨p, p', q, q', ha, hb⟩ := compare?_eq_some h
  · rw [Std.LawfulEqCmp.compare_eq_iff_eq]
    exact beq_iff_eq (a := s) (b := t)
  · rw [beq_iff_compare? ha.isSome_asFloat?, h, Option.some.injEq]

/-- If a value is compared with a second one and this with a third one, then the first is compared with the
third. It is less if it is less than the second, and this less than the third. -/
theorem compare?_trans_lt {o o' : Ordering} (h : a.compare? b = some o) (h' : b.compare? c = some o') :
  (a.compare? c).isSome ∧ (o = .lt → o' = .lt → a.compare? c = some .lt)
  := by
  obtain ⟨s, t, rfl, rfl, rfl⟩ | ⟨p, p', q, q', ha, hb⟩ := compare?_eq_some h
  · obtain ⟨_, u, ⟨⟩, rfl, rfl⟩ | ⟨_, _, _, _, ⟨⟩, _⟩ := compare?_eq_some h'
    refine ⟨rfl, fun hlt hlt' => congrArg some ?_⟩
    exact Std.TransCmp.lt_trans hlt hlt'
  · obtain ⟨_, _, rfl, -⟩ | ⟨_, _, r, r', -, hc⟩ := compare?_eq_some h'
    · cases hb
    · refine ⟨by rw [ha.compare?_eq hc]; rfl, ?_⟩
      rintro rfl rfl
      exact ha.compare?_lt_trans hb hc h h'

/-! ### Equality -/

theorem forall₂_swap {α β : Type} {R : α → β → Prop} {S : β → α → Prop} {xs : List α} {ys : List β}
    (hall : ∀ x ∈ xs, ∀ y ∈ ys, R x y → S y x) (h : List.Forall₂ R xs ys) :
  List.Forall₂ S ys xs
  := by
  induction h with
  | nil => exact .nil
  | cons hxy _ ih =>
    refine .cons (hall _ List.mem_cons_self _ List.mem_cons_self hxy) (ih ?_)
    exact fun x hx y hy => hall x (List.mem_cons_of_mem _ hx) y (List.mem_cons_of_mem _ hy)

/-- If each entry of one map has an equal one in another map, and the maps are of one size, then so has each
entry of the other map in the first one. -/
theorem beq_map_swap {entries others : Entries} (hkeys : entries.keys.Nodup) (hkeys' : others.keys.Nodup)
    (hall : ∀ e ∈ entries, ∀ f ∈ others, e.2 == f.2 → f.2 == e.2) (h : map entries == .map others) :
  map others == .map entries
  := by
  rw [beq_map_iff] at h ⊢
  obtain ⟨hlength, hvalues⟩ := h
  have hsubset : entries.keys ⊆ others.keys := by
    intro key hkey
    obtain ⟨e, he, rfl⟩ := List.mem_map.mp hkey
    obtain ⟨w, hw, -⟩ := hvalues e he
    exact List.mem_map.mpr ⟨_, Entries.mem_of_get?_eq_some hw, rfl⟩
  have hperm : entries.keys.Perm others.keys := by
    apply (List.subperm_of_subset hkeys hsubset).perm_of_length_le
    rw [Entries.keys, Entries.keys, List.length_map, List.length_map, hlength]
  refine ⟨hlength.symm, fun f hf => ?_⟩
  obtain ⟨e, he, heq⟩ := List.mem_map.mp (hperm.mem_iff.mpr (List.mem_map_of_mem hf))
  obtain ⟨w, hw, hbeq⟩ := hvalues e he
  rw [heq, Entries.get?_of_mem hkeys' hf, Option.some.injEq] at hw
  refine ⟨e.2, ?_, ?_⟩
  · rw [← heq, Entries.get?_of_mem hkeys he]
  · exact hall e he f hf (hw ▸ hbeq)

theorem beq_range_iff {start stop start' stop' : Option Value} {exclusive exclusive' : Bool} :
  range start stop exclusive == .range start' stop' exclusive'
    ↔ sameEnd start start' ∧ sameEnd stop stop' ∧ exclusive = exclusive'
  := by
  change (sameEnd start start' && sameEnd stop stop' && exclusive == exclusive') = true ↔ _
  rw [Bool.and_eq_true, Bool.and_eq_true, beq_iff_eq, and_assoc]

theorem sameEnd_comm {stop stop' : Option Value} (h : ∀ v ∈ stop, ∀ w ∈ stop', v == w ↔ w == v) :
  sameEnd stop stop' ↔ sameEnd stop' stop
  := by
  cases stop with
  | none => cases stop' <;> exact Iff.rfl
  | some v =>
    cases stop' with
    | none => exact Iff.rfl
    | some w => exact h v rfl w rfl

/-- Equality of values is symmetric. -/
theorem Distinct.beq_comm (ha : a.Distinct) (hb : b.Distinct) :
  a == b ↔ b == a
  := by
  have hsymm {α : Type} [BEq α] [PartialEquivBEq α] (x y : α) : x == y ↔ y == x := ⟨BEq.symm, BEq.symm⟩
  induction ha generalizing b with
  | @array items h ih =>
    cases b with
    | array others =>
      have hall := throughout_array_iff.mp hb
      rw [beq_array_iff, beq_array_iff]
      constructor
      · exact forall₂_swap fun v hv w hw => (ih v hv (hall w hw)).mp
      · exact forall₂_swap fun w hw v hv => (ih v hv (hall w hw)).mpr
    | _ => exact Iff.rfl
  | @map entries hkeys h ih =>
    cases b with
    | map others =>
      obtain ⟨hkeys', hall⟩ := throughout_map_iff.mp hb
      constructor
      · exact beq_map_swap hkeys hkeys' fun e he f hf => (ih e he (hall f hf)).mp
      · exact beq_map_swap hkeys' hkeys fun f hf e he => (ih e he (hall f hf)).mpr
    | _ => exact Iff.rfl
  | @range start stop exclusive hstart hstop ihstart ihstop =>
    cases b with
    | range start' stop' exclusive' =>
      obtain ⟨hstart', hstop'⟩ := throughout_range_iff.mp hb
      rw [beq_range_iff, beq_range_iff, sameEnd_comm fun v hv w hw => ihstart v hv (hstart' w hw),
        sameEnd_comm fun v hv w hw => ihstop v hv (hstop' w hw), eq_comm (a := exclusive)]
    | _ => exact Iff.rfl
  | int n =>
    cases b with
    | int m => exact hsymm n m
    | _ => exact Iff.rfl
  | float x =>
    cases b with
    | float y => exact hsymm x y
    | _ => exact Iff.rfl
  | bool x =>
    cases b with
    | bool y => exact hsymm x y
    | _ => exact Iff.rfl
  | string s =>
    cases b with
    | string t => exact hsymm s t
    | _ => exact Iff.rfl
  | regex p =>
    cases b with
    | regex q => exact hsymm p q
    | _ => exact Iff.rfl
  | @host i _ _ _ =>
    cases b with
    | host j _ _ => exact hsymm i j
    | _ => exact Iff.rfl
  | null => cases b <;> exact Iff.rfl
  | missing => cases b <;> exact Iff.rfl

/-! ### Values that are kept apart -/

/-- A value occurs in another one: it is that value, or it occurs in an element, in the value of an entry or
at an end of a range. -/
inductive Occurs (w : Value) : Value → Prop
  | self : Occurs w w
  | element {items : List Value} {v : Value} (hv : v ∈ items) (h : Occurs w v) : Occurs w (.array items)
  | entry {entries : Entries} {e : String × Value} (he : e ∈ entries) (h : Occurs w e.2) :
    Occurs w (.map entries)
  | start {start stop : Option Value} {exclusive : Bool} {v : Value} (hv : v ∈ start) (h : Occurs w v) :
    Occurs w (.range start stop exclusive)
  | stop {start stop : Option Value} {exclusive : Bool} {v : Value} (hv : v ∈ stop) (h : Occurs w v) :
    Occurs w (.range start stop exclusive)

/-- No integer that occurs in the values is rounded to a floating point number that occurs in them, unless
this is the same number. -/
def Apart (values : List Value) : Prop :=
  ∀ v ∈ values, ∀ w ∈ values, ∀ (n : Int64) (x : Float), (int n).Occurs v → (float x).Occurs w →
    nearestFloat n == x → floatNumber? x = some (.ofRat n.toInt)

/-- Values are kept apart if all integers in them are at most two to the power of 53. -/
theorem Apart.of_natAbs_le {values : List Value}
    (h : ∀ v ∈ values, ∀ n : Int64, (int n).Occurs v → n.toInt.natAbs ≤ 2 ^ 53) :
  Apart values
  := by
  intro v hv w _ n x hn _ hbeq
  rw [float_beq_iff, floatNumber?_nearestFloat, roundedNumber_of_natAbs_le (h v hv n hn),
    Option.map₂_eq_some_iff] at hbeq
  obtain ⟨p, q, hp, hq, heq⟩ := hbeq
  cases hp
  rw [hq, compare_eq_iff_eq.mp heq]

/-- Parts of values that are kept apart are kept apart. -/
theorem Apart.parts {u v w : Value} (h : Apart [a, b, c]) (hu : ∀ x : Value, x.Occurs u → x.Occurs a)
    (hv : ∀ x : Value, x.Occurs v → x.Occurs b) (hw : ∀ x : Value, x.Occurs w → x.Occurs c) :
  Apart [u, v, w]
  := by
  have hpart : ∀ part ∈ [u, v, w], ∃ whole ∈ [a, b, c], ∀ x : Value, x.Occurs part → x.Occurs whole := by
    simp only [List.forall_mem_cons]
    exact ⟨⟨a, by simp, hu⟩, ⟨b, by simp, hv⟩, ⟨c, by simp, hw⟩, List.forall_mem_nil _⟩
  intro part hmem part' hmem' n x hn hx
  obtain ⟨whole, hwhole, hoccurs⟩ := hpart part hmem
  obtain ⟨whole', hwhole', hoccurs'⟩ := hpart part' hmem'
  exact h whole hwhole whole' hwhole' n x (hoccurs _ hn) (hoccurs' _ hx)

/-- Numbers that are kept apart are compared exactly. -/
theorem Apart.compare?_eq {values : List Value} (h : Apart values) (hamem : a ∈ values) (hbmem : b ∈ values)
    {p p' q q' : Extended} (ha : a.Denotes p p') (hb : b.Denotes q q') :
  a.compare? b = some (compare p q)
  := by
  have hapart : ∀ {n x v w}, v ∈ values → w ∈ values → (int n).Occurs v → (float x).Occurs w →
      floatNumber? x = some (roundedNumber n) → some (Extended.ofRat n.toInt) = some (roundedNumber n) := by
    intro n x v w hv hw hn hx hrounded
    rw [← hrounded]
    refine (h v hv w hw n x hn hx ?_).symm
    rw [float_beq_iff, floatNumber?_nearestFloat, hrounded]
    exact congrArg some (compare_eq_iff_eq.mpr rfl)
  apply ha.compare?_eq_compare hb
  intro hints heq
  cases ha with
  | int n =>
    cases hb with
    | int m => exact absurd ⟨rfl, rfl⟩ hints
    | float hq =>
      rw [← heq] at hq ⊢
      exact Option.some.inj (hapart hamem hbmem .self .self hq)
  | float hp =>
    cases hb with
    | int m =>
      rw [heq] at hp ⊢
      exact (Option.some.inj (hapart hbmem hamem .self .self hp)).symm
    | float hq => exact heq

/-- Numbers that are kept apart are equal if they are the same. -/
theorem Apart.beq_iff {values : List Value} (h : Apart values) (hamem : a ∈ values) (hbmem : b ∈ values)
    {p p' q q' : Extended} (ha : a.Denotes p p') (hb : b.Denotes q q') :
  a == b ↔ p = q
  := by
  rw [beq_iff_compare? ha.isSome_asFloat?, h.compare?_eq hamem hbmem ha hb, Option.some.injEq,
    compare_eq_iff_eq]

theorem beq_trans_of_number (ha : a.asFloat?.isSome) (h : Apart [a, b, c]) (hab : a == b) (hbc : b == c) :
  a == c
  := by
  obtain ⟨_, _, rfl, -⟩ | ⟨p, p', q, q', hp, hq⟩ := compare?_eq_some ((beq_iff_compare? ha).mp hab)
  · cases ha
  · have hcompare := (beq_iff_compare? hq.isSome_asFloat?).mp hbc
    obtain ⟨_, _, rfl, -⟩ | ⟨-, -, r, r', -, hr⟩ := compare?_eq_some hcompare
    · cases hq
    · rw [h.beq_iff (by simp) (by simp) hp hq] at hab
      rw [h.beq_iff (by simp) (by simp) hq hr] at hbc
      rw [h.beq_iff (by simp) (by simp) hp hr, hab, hbc]

theorem forall₂_trans {α : Type} {R : α → α → Prop} {xs ys zs : List α}
    (hall : ∀ x ∈ xs, ∀ y ∈ ys, ∀ z ∈ zs, R x y → R y z → R x z) (h : List.Forall₂ R xs ys)
    (h' : List.Forall₂ R ys zs) :
  List.Forall₂ R xs zs
  := by
  induction h generalizing zs with
  | nil => exact h'
  | cons hxy _ ih =>
    cases h' with
    | cons hyz h' =>
      refine .cons (hall _ List.mem_cons_self _ List.mem_cons_self _ List.mem_cons_self hxy hyz) (ih ?_ h')
      exact fun x hx y hy z hz =>
        hall x (List.mem_cons_of_mem _ hx) y (List.mem_cons_of_mem _ hy) z (List.mem_cons_of_mem _ hz)

theorem sameEnd_trans {stop stop' stop'' : Option Value}
    (hall : ∀ v ∈ stop, ∀ w ∈ stop', ∀ u ∈ stop'', v == w → w == u → v == u) (h : sameEnd stop stop')
    (h' : sameEnd stop' stop'') :
  sameEnd stop stop''
  := by
  cases stop' with
  | none =>
    cases stop with
    | none => exact h'
    | some v => cases h
  | some w =>
    cases stop with
    | none => cases h
    | some v =>
      cases stop'' with
      | none => cases h'
      | some u => exact hall v rfl w rfl u rfl h h'

/-- Among values that are kept apart equality is transitive. -/
theorem Distinct.beq_trans (ha : a.Distinct) (h : Apart [a, b, c]) (hab : a == b) (hbc : b == c) :
  a == c
  := by
  induction ha generalizing b c with
  | int n => exact beq_trans_of_number rfl h hab hbc
  | float x => exact beq_trans_of_number rfl h hab hbc
  | @array items _ ih =>
    cases b with
    | array bs =>
      cases c with
      | array cs =>
        rw [beq_array_iff] at hab hbc ⊢
        refine forall₂_trans (fun v hv w hw u hu => ih v hv (h.parts ?_ ?_ ?_)) hab hbc
        · exact fun _ => .element hv
        · exact fun _ => .element hw
        · exact fun _ => .element hu
      | _ => cases hbc
    | _ => cases hab
  | @map entries _ _ ih =>
    cases b with
    | map bs =>
      cases c with
      | map cs =>
        rw [beq_map_iff] at hab hbc ⊢
        refine ⟨hab.1.trans hbc.1, fun e he => ?_⟩
        obtain ⟨w, hw, hew⟩ := hab.2 e he
        obtain ⟨u, hu, hwu⟩ := hbc.2 _ (Entries.mem_of_get?_eq_some hw)
        refine ⟨u, hu, ih e he (h.parts ?_ ?_ ?_) hew hwu⟩
        · exact fun _ => .entry he
        · exact fun _ => .entry (Entries.mem_of_get?_eq_some hw)
        · exact fun _ => .entry (Entries.mem_of_get?_eq_some hu)
      | _ => cases hbc
    | _ => cases hab
  | @range start stop exclusive _ _ ihstart ihstop =>
    cases b with
    | range start' stop' exclusive' =>
      cases c with
      | range start'' stop'' exclusive'' =>
        rw [beq_range_iff] at hab hbc ⊢
        obtain ⟨hstart, hstop, rfl⟩ := hab
        obtain ⟨hstart', hstop', rfl⟩ := hbc
        refine ⟨sameEnd_trans ?_ hstart hstart', sameEnd_trans ?_ hstop hstop', rfl⟩
        · exact fun v hv w hw u hu =>
            ihstart v hv (h.parts (fun _ => .start hv) (fun _ => .start hw) fun _ => .start hu)
        · exact fun v hv w hw u hu =>
            ihstop v hv (h.parts (fun _ => .stop hv) (fun _ => .stop hw) fun _ => .stop hu)
      | _ => cases hbc
    | _ => cases hab
  | null =>
    cases b with
    | null => exact hbc
    | _ => cases hab
  | missing =>
    cases b with
    | missing => exact hbc
    | _ => cases hab
  | bool x =>
    cases b with
    | bool y =>
      obtain rfl : x = y := beq_iff_eq.mp hab
      exact hbc
    | _ => cases hab
  | string s =>
    cases b with
    | string t =>
      obtain rfl : s = t := beq_iff_eq.mp hab
      exact hbc
    | _ => cases hab
  | regex p =>
    cases b with
    | regex q =>
      obtain rfl : p = q := beq_iff_eq.mp hab
      exact hbc
    | _ => cases hab
  | @host i _ _ _ =>
    cases b with
    | host j _ _ =>
      obtain rfl : i = j := beq_iff_eq.mp hab
      cases c with
      | host => exact hbc
      | _ => cases hbc
    | _ => cases hab

/-- Of two steps in an order of which neither goes down, the first that goes up decides. -/
theorem compare_then {α : Type} [Ord α] [Std.TransOrd α] {x y z : α} (h : compare x y ≠ .gt)
    (h' : compare y z ≠ .gt) :
  compare x z = (compare x y).then (compare y z)
  := by
  cases hxy : compare x y with
  | eq => rw [Std.TransCmp.congr_left hxy, Ordering.eq_then]
  | lt =>
    cases hyz : compare y z with
    | eq =>
      rw [← Std.TransCmp.congr_right hyz, hxy]
      rfl
    | lt => exact Std.TransCmp.lt_trans hxy hyz
    | gt => exact absurd hyz h'
  | gt => exact absurd hxy h

/-- Among values that are kept apart the order is transitive. -/
theorem Apart.compare?_trans {o o' : Ordering} (h : Apart [a, b, c]) (hab : a.compare? b = some o)
    (hbc : b.compare? c = some o') (ho : o ≠ .gt) (ho' : o' ≠ .gt) :
  a.compare? c = some (o.then o')
  := by
  obtain ⟨s, t, rfl, rfl, rfl⟩ | ⟨p, p', q, q', ha, hb⟩ := compare?_eq_some hab
  · obtain ⟨_, u, ⟨⟩, rfl, rfl⟩ | ⟨_, _, _, _, ⟨⟩, _⟩ := compare?_eq_some hbc
    exact congrArg some (compare_then ho ho')
  · obtain ⟨_, _, rfl, -⟩ | ⟨_, _, r, r', -, hc⟩ := compare?_eq_some hbc
    · cases hb
    · rw [h.compare?_eq (by simp) (by simp) ha hb, Option.some.injEq] at hab
      rw [h.compare?_eq (by simp) (by simp) hb hc, Option.some.injEq] at hbc
      subst hab hbc
      rw [h.compare?_eq (by simp) (by simp) ha hc, compare_then ho ho']

end Value

/-- Equality is symmetric, the order is reversed when two values are exchanged, two values that are compared
are equal exactly if neither is less, and what is less than something less is less. If no integer in three
values is rounded to a floating point number in them that is another number, then equality and the order are
transitive, and numbers are compared exactly. -/
theorem comparisons_agree {a b : Value} (ha : a.Distinct) (hb : b.Distinct) (c : Value) :
  (a == b) = (b == a)
    ∧ b.compare? a = (a.compare? b).map Ordering.swap
    ∧ (∀ o, a.compare? b = some o → (a == b ↔ o = .eq))
    ∧ (∀ o o', a.compare? b = some o → b.compare? c = some o' →
      (a.compare? c).isSome ∧ (o = .lt → o' = .lt → a.compare? c = some .lt))
    ∧ (Value.Apart [a, b, c] →
      (a == b → b == c → a == c)
        ∧ (∀ o o', a.compare? b = some o → b.compare? c = some o' → o ≠ .gt → o' ≠ .gt →
          a.compare? c = some (o.then o'))
        ∧ ∀ p q, a.number? = some p → b.number? = some q →
          a.compare? b = some (compare p q) ∧ (a == b ↔ p = q))
  := by
  refine ⟨Bool.eq_iff_iff.mpr (ha.beq_comm hb), Value.compare?_swap a b, fun o => Value.beq_iff_of_compare?,
    fun o o' => Value.compare?_trans_lt, ?_⟩
  intro hapart
  refine ⟨ha.beq_trans hapart, fun o o' => hapart.compare?_trans, fun p q hp hq => ?_⟩
  obtain ⟨p', hp'⟩ := Value.exists_denotes hp
  obtain ⟨q', hq'⟩ := Value.exists_denotes hq
  exact ⟨hapart.compare?_eq (by simp) (by simp) hp' hq', hapart.beq_iff (by simp) (by simp) hp' hq'⟩

/-- One as an integer and as a floating point number, and one and a half. -/
theorem comparisons_agree_one :
  (Value.int 1).compare? (.float 1.0) = some .eq ∧ (Value.float 1.0).compare? (.float 1.5) = some .lt
    ∧ (Value.int 1).compare? (.float 1.5) = some .lt
  := by
  have hapart : Value.Apart [.int 1, .float 1.0, .float 1.5] := by
    apply Value.Apart.of_natAbs_le
    intro v hv n hn
    simp only [List.mem_cons, List.not_mem_nil, or_false] at hv
    obtain rfl | rfl | rfl := hv <;> cases hn
    decide
  have hab : (Value.int 1).compare? (.float 1.0) = some .eq := by decide +kernel
  have hbc : (Value.float 1.0).compare? (.float 1.5) = some .lt := by decide +kernel
  obtain ⟨-, -, -, -, hlaws⟩ := comparisons_agree (.int 1) (.float 1.0) (.float 1.5)
  obtain ⟨-, htrans, -⟩ := hlaws hapart
  exact ⟨hab, hbc, htrans _ _ hab hbc nofun nofun⟩

/-- Two to the power of 53 is what the integer after it is rounded to, and what the integer itself is. -/
theorem rounding_merges_integers :
  (Value.int 9007199254740992 == .float 9007199254740992.0) = true
    ∧ (Value.float 9007199254740992.0 == .int 9007199254740993) = true
    ∧ (Value.int 9007199254740992 == .int 9007199254740993) = false
    ∧ (Value.int 9007199254740992).compare? (.float 9007199254740992.0) = some .eq
    ∧ (Value.float 9007199254740992.0).compare? (.int 9007199254740993) = some .eq
    ∧ (Value.int 9007199254740992).compare? (.int 9007199254740993) = some .lt
    ∧ (Value.float 9007199254740992.0).number? ≠ (Value.int 9007199254740993).number?
  := by
  refine ⟨by decide +kernel, by decide +kernel, by decide +kernel, by decide +kernel, by decide +kernel,
    by decide +kernel, ?_⟩
  change some (Extended.ofRat ((2 ^ 52 : ℕ) * 2 ^ (1 : ℤ))) ≠ some (.ofRat (9007199254740993 : ℤ))
  rw [ne_eq, Option.some.injEq, Extended.ofRat_strictMono.injective.eq_iff]
  norm_num

end DocQuery
