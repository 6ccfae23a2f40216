import DocQuery.Proofs.Membership
import DocQuery.Proofs.Negation

/-!
# Positions in arrays

A key of digits, perhaps behind a minus sign, denotes a number of any size, and under it a condition is about
one element of an array: a negative number counts from the end, and where there is no element something
is missing. The position is found in the arithmetic of 64 bits. A number that these do not hold is no
position in any array, and for all others nothing overflows.
-/

namespace DocQuery

/-! ### Numbers of keys -/

/-- The number that a key of digits, perhaps behind a minus sign, denotes. -/
def keyNumber (key : String) : Int :=
  match key.toList with
  | '-' :: digits => -digitsValue digits
  | digits => digitsValue digits

theorem keyNumber_cases (key : String) :
  (∃ digits, key.toList = '-' :: digits ∧ keyNumber key = -digitsValue digits)
    ∨ (∀ digits, key.toList ≠ '-' :: digits) ∧ keyNumber key = digitsValue key.toList
  := by
  rw [keyNumber]
  split
  · exact .inl ⟨_, ‹_›, rfl⟩
  · exact .inr ⟨‹_›, rfl⟩

/-- The element of an array at a position, or missing. A negative position counts from the end. -/
def elementAt (items : List Value) (i : Int) : Value :=
  if 0 ≤ i then items[i.toNat]?.getD .missing
  else if -items.length ≤ i then items[(items.length + i).toNat]?.getD .missing
  else .missing

section

variable {key : String} (hkey : isIndexKey key)

include hkey

/-- The position of a key counts from the start or from the end. -/
theorem arrayIndex?_eq (length : Nat) :
  arrayIndex? key length
    = if 0 ≤ keyNumber key then some (keyNumber key).toNat
      else if -length ≤ keyNumber key then some (length + keyNumber key).toNat
      else none
  := by
  rw [arrayIndex?, if_pos hkey]
  obtain ⟨digits, hlist, hnumber⟩ | ⟨hlist, hnumber⟩ := keyNumber_cases key
  · rw [hlist, hnumber]
    change (if digitsValue digits = 0 then some 0
      else if digitsValue digits ≤ length then some (length - digitsValue digits) else none) = _
    generalize digitsValue digits = n
    by_cases hzero : n = 0
    · rw [hzero]
      rfl
    · have hnegative : ¬(0 : Int) ≤ -n := by omega
      have hsum : (length + -(n : Int)).toNat = length - n := by omega
      rw [if_neg hzero, if_neg hnegative, hsum]
      simp only [Int.neg_le_neg_iff, Nat.cast_le]
  · rw [hnumber, if_pos (Int.natCast_nonneg _), Int.toNat_natCast]
    split
    · exact absurd ‹_› (hlist _)
    · rfl

/-- An array has under a key the element at the position of the key. -/
theorem dig?_array (items : List Value) :
  (Value.array items).dig? key = some (elementAt items (keyNumber key))
  := by
  rw [Value.dig?, arrayIndex?_eq hkey, elementAt]
  split
  · rfl
  · split <;> rfl

theorem dot_notMem_of_isIndexKey :
  '.' ∉ key.toList
  := by
  intro hdot
  have hdigits : ∀ digits : List Char, '.' ∈ digits → (!digits.isEmpty && digits.all Char.isDigit) = false := by
    intro digits h
    rw [List.all_eq_false.mpr ⟨'.', h, by decide⟩, Bool.and_false]
  have hsign : ∀ rest, key.toList = '-' :: rest → '.' ∈ rest := by
    intro rest h
    rw [h] at hdot
    exact List.mem_of_ne_of_mem (by decide) hdot
  simp only [isIndexKey] at hkey
  split at hkey
  · rw [hdigits _ (hsign _ ‹_›)] at hkey
    cases hkey
  · rw [hdigits _ hdot] at hkey
    cases hkey

/-- No operator has such a key. -/
theorem lookup?_of_isIndexKey :
  Registry.core.lookup? key = none
  := by
  cases h : Registry.core.lookup? key with
  | none => rfl
  | some e =>
    have hnone : ∀ e ∈ Registry.core.entries, isIndexKey e.key = false := by decide
    have heq : e.key = key := by simpa using List.find?_some h
    have hindex := hnone e (List.mem_of_find?_eq_some h)
    rw [heq, hkey] at hindex
    cases hindex

/-- A condition under such a key applies to an array as a whole. -/
theorem arrayCondition_position (r : Registry) (v : Value) :
  arrayCondition r [(key, v)] = .ok [(key, v)]
  := by
  have hne : "$elemMatch" ≠ key := by
    rintro rfl
    revert hkey
    decide
  have hhas : Entries.has [(key, v)] "$elemMatch" = false := by
    rw [Entries.has, Entries.get?_cons, if_neg hne]
    rfl
  have hadd : ArrayCondition.add r ⟨[], []⟩ key v = .ok ⟨[(key, v)], []⟩ := if_pos hkey
  have hentries : ArrayCondition.entries ⟨[(key, v)], []⟩ = [(key, v)] := by
    rw [ArrayCondition.entries, hhas]
    rfl
  rw [arrayCondition, ArrayCondition.addAll, hadd]
  exact congrArg Except.ok hentries

end

/-! ### The arithmetic of 64 bits -/

/-- A number in 64 bits, if they hold it. -/
def int64? (n : Int) : Option Int64 :=
  if Int64.minValue.toInt ≤ n ∧ n ≤ Int64.maxValue.toInt then some (Int64.ofInt n) else none

/-- The sum of two numbers of 64 bits, which overflows if they do not hold it. -/
def addChecked (m n : Int64) : Except Abort Int64 :=
  match int64? (m.toInt + n.toInt) with
  | some sum => .ok sum
  | none => .error .overflow

/-- The position that a number denotes in an array: a negative number is added to the length. -/
def resolveChecked (length index : Int64) : Except Abort Int64 :=
  if index < 0 then addChecked length index else .ok index

/-- The position that a key denotes in an array of the given length, in the arithmetic of 64 bits. It has
to be below the length, and a number that 64 bits do not hold is no position. -/
def checkedIndex? (key : String) (length : Nat) : Except Abort (Option Nat) :=
  if isIndexKey key then
    match int64? (keyNumber key), int64? length with
    | some index, some length => do
      let resolved ← resolveChecked length index
      return if 0 ≤ resolved ∧ resolved < length then some resolved.toInt.toNat else none
    | _, _ => return none
  else return none

theorem int64?_eq_some {n : Int} (h : Int64.minValue.toInt ≤ n) (h' : n ≤ Int64.maxValue.toInt) :
  ∃ m : Int64, int64? n = some m ∧ m.toInt = n
  := by
  refine ⟨Int64.ofInt n, if_pos ⟨h, h'⟩, ?_⟩
  apply Int64.toInt_ofInt_of_le
  · exact h
  · exact Int.lt_of_le_of_lt h' (by decide)

theorem int64?_eq_none {n : Int} (h : ¬(Int64.minValue.toInt ≤ n ∧ n ≤ Int64.maxValue.toInt)) :
  int64? n = none
  := if_neg h

/-- A negative number can always be added to a length. -/
theorem resolveChecked_eq_ok {length : Int64} (hlength : 0 ≤ length.toInt) (index : Int64) :
  ∃ resolved, resolveChecked length index = .ok resolved
    ∧ resolved.toInt = if index.toInt < 0 then length.toInt + index.toInt else index.toInt
  := by
  simp only [resolveChecked, Int64.lt_iff_toInt_lt, Int64.toInt_zero]
  split
  · have hlow := index.minValue_le_toInt
    have hhigh := length.toInt_le
    obtain ⟨sum, hsum, hvalue⟩ := int64?_eq_some (n := length.toInt + index.toInt) (by omega) (by omega)
    refine ⟨sum, ?_, hvalue⟩
    rw [addChecked, hsum]
  · exact ⟨index, rfl, rfl⟩

/-- A position below the length of an array, found by adding the length to a negative number. -/
theorem filter_arrayIndex?_eq {key : String} (hkey : isIndexKey key) (length : Nat) {resolved : Int}
    (hresolved : resolved = if keyNumber key < 0 then length + keyNumber key else keyNumber key) :
  (arrayIndex? key length).filter (· < length)
    = if 0 ≤ resolved ∧ resolved < length then some resolved.toNat else none
  := by
  rw [arrayIndex?_eq hkey]
  generalize keyNumber key = i at hresolved
  obtain hi | hi := Int.lt_or_le i 0
  · rw [if_pos hi] at hresolved
    rw [if_neg (Int.not_le.mpr hi), hresolved]
    by_cases hlow : -length ≤ i
    · have hposition : (length + i).toNat < length := by omega
      rw [if_pos hlow, if_pos ⟨by omega, by omega⟩, Option.filter_some, if_pos (decide_eq_true hposition)]
    · rw [if_neg hlow, if_neg (fun h => hlow (by omega)), Option.filter_none]
  · rw [if_neg (Int.not_lt.mpr hi)] at hresolved
    rw [if_pos hi, hresolved, Option.filter_some]
    apply ite_congr _ (fun _ => rfl) (fun _ => rfl)
    rw [decide_eq_true_eq, eq_iff_iff]
    omega

/-- In the arithmetic of 64 bits nothing overflows, and the position of a key in an array that can be
counted in 64 bits is found. -/
theorem checkedIndex?_eq {key : String} (hkey : isIndexKey key) (length : Nat) :
  checkedIndex? key length
    = .ok (if length ≤ Int64.maxValue.toInt then (arrayIndex? key length).filter (· < length) else none)
  := by
  rw [checkedIndex?, if_pos hkey]
  by_cases hlength : length ≤ Int64.maxValue.toInt
  swap
  · rw [int64?_eq_none (fun h => hlength h.2), if_neg hlength]
    cases int64? (keyNumber key) <;> rfl
  have hmin : Int64.minValue.toInt = -2 ^ 63 := rfl
  have hmax : Int64.maxValue.toInt = 2 ^ 63 - 1 := rfl
  obtain ⟨l, hl, hlValue⟩ := int64?_eq_some (n := length) (by omega) hlength
  rw [if_pos hlength, hl, filter_arrayIndex?_eq hkey length rfl]
  by_cases hnumber : Int64.minValue.toInt ≤ keyNumber key ∧ keyNumber key ≤ Int64.maxValue.toInt
  swap
  · have hnone : ¬(0 ≤ (if keyNumber key < 0 then length + keyNumber key else keyNumber key)
        ∧ (if keyNumber key < 0 then length + keyNumber key else keyNumber key) < length) := by
      split <;> omega
    rw [int64?_eq_none hnumber, if_neg hnone]
    rfl
  obtain ⟨index, hindex, hindexValue⟩ := int64?_eq_some hnumber.1 hnumber.2
  have hnonneg : 0 ≤ l.toInt := by omega
  obtain ⟨resolved, hresolved, hvalue⟩ := resolveChecked_eq_ok hnonneg index
  rw [hindexValue, hlValue] at hvalue
  rw [hindex, ← hvalue, ← hlValue]
  dsimp only
  rw [hresolved]
  simp only [Int64.le_iff_toInt_le, Int64.lt_iff_toInt_lt, Int64.toInt_zero]
  rfl

/-- The position that is found has the element, or it is missing there and everywhere else. -/
theorem exists_checkedIndex? {key : String} (hkey : isIndexKey key) (length : Nat) :
  ∃ position, checkedIndex? key length = .ok position
    ∧ ∀ items : List Value, items.length = length → length ≤ Int64.maxValue.toInt →
      (position.bind (items[·]?)).getD .missing = elementAt items (keyNumber key)
  := by
  refine ⟨_, checkedIndex?_eq hkey length, ?_⟩
  rintro items rfl hlength
  have hfilter : ((arrayIndex? key items.length).filter (· < items.length)).bind (items[·]?)
      = (arrayIndex? key items.length).bind (items[·]?) := by
    cases arrayIndex? key items.length with
    | none => rfl
    | some i =>
      obtain hi | hi := Nat.lt_or_ge i items.length
      · rw [Option.filter_some, if_pos (decide_eq_true hi)]
      · rw [Option.filter_some, if_neg (by simpa using hi)]
        exact (List.getElem?_eq_none hi).symm
  have hdig := dig?_array hkey items
  rw [Value.dig?] at hdig
  rw [if_pos hlength, hfilter, Option.some.inj hdig]

/-! ### Matchers -/

/-- A field of a record holds what is asked of it if the value in it does. -/
theorem Role.holds_field_of_dig {c : Context} {name : String} {record x : Value}
    (h : record.dig? name = some x) (test : Value → Bool) :
  (Role.field name).holds c record test = test (c.taken x)
  := by
  rw [holds, subject?, h]
  rfl

section

variable {c : Context} {fuel : Nat} {w : Value} {m : Node} {test : Value → Bool}
  (htest : ∀ x, (Node.literal .whole w m .unbuilt).Settles c x (test x))

include htest

/-- A condition on a position settles on what the condition settles on at the position, whether the record
is an array or not. -/
theorem settles_literal_position (hregistry : c.engine.registry = Registry.core) {key : String}
    (hkey : isIndexKey key)
    (hn : build .core fuel .condition (.map [(key, w)]) = .ok (.literal (.field key) w m .unbuilt))
    (x : Value) :
  (Node.literal .whole (.map [(key, w)]) (.literal (.field key) w m .unbuilt) .unbuilt).Settles c x
    ((Role.field key).holds c x test)
  := by
  apply settles_literal_singleton hregistry (arrayCondition_position hkey _ _)
  · exact fun _ _ h => build_unique h hn
  · exact settles_role htest

/-- A literal argument comes to what its matcher settles on. -/
theorem comesTo_of_settles_literal (hc : c.engine = .core)
    (hm : build .core fuel (directCall w).1 (directCall w).2 = .ok m) (x : Value) :
  Operator.literal.ComesTo c w x (test x)
  := by
  have hliteral := build_literal hm
  obtain ⟨l, hl⟩ := exists_build? Engine.core_faultless.plain (by simp) (suits_of_build hliteral)
  obtain rfl := build_unique hliteral hl
  apply comesTo_of_settles hc (Registry.offers_of_ne (by simp)) hl (htest x)

end

/-! ### Queries -/

/-- A query for the element at a position of a field matches a record with an array there exactly if the
element matches literally, and so does a query for an element that is missing. -/
theorem position_matches_element {field key : String} (hdot : '.' ∉ field.toList)
    (hfield : Registry.core.has field = false) (hkey : isIndexKey key) {v : Value} {q : Query}
    (hq : q.Arises .core)
    (hcondition : q.condition
      = Normalizer.core.normalize (.value (.map [(field, .map [(key, v)])]))) :
  (∀ record items, record.dig? field = some (.array items) → ∃ b, q.Concludes record b
    ∧ Operator.literal.ComesTo q.context (Normalizer.core.normalizeValue v)
      (q.context.taken (elementAt items (keyNumber key))) b)
  ∧ (∀ record items, (q.normalizeRecord record).dig? field = some (.array items) → ∃ b, q.Decides record b
    ∧ Operator.literal.ComesTo q.context (Normalizer.core.normalizeValue v)
      (q.context.taken (elementAt items (keyNumber key))) b)
  ∧ ∀ length : Nat, ∃ position, checkedIndex? key length = .ok position
    ∧ ∀ items : List Value, items.length = length → length ≤ Int64.maxValue.toInt →
      (position.bind (items[·]?)).getD .missing = elementAt items (keyNumber key)
  := by
  have hnone := Registry.lookup?_eq_none_of_has hfield
  have hkept := hq.kept Engine.core_sound
  set w := Normalizer.core.normalizeValue v
  have hvalue : q.condition.value = .map [(field, .map [(key, w)])] := by
    rw [hcondition]
    apply (Normalizer.core.normalizeValue_singleton hdot _).trans
    rw [Normalizer.core.normalizeValue_singleton (dot_notMem_of_isIndexKey hkey)]
  obtain ⟨n, hn, hnode⟩ := literal_of_condition hnone (hvalue ▸ hkept.compiled)
  obtain ⟨m, hm, rfl⟩ := literal_of_condition (lookup?_of_isIndexKey hkey) hn
  obtain ⟨-, hfits⟩ := Engine.core_faultless.invariant hkept.node
  have hfresh := Node.fits_fresh.mpr hfits
  rw [hnode] at hfresh
  have hunfolds : (Node.literal .whole w m .unbuilt).Unfolds (4 * q.condition.value.depth + 2) :=
    hfresh.2.1
  obtain ⟨test, htest⟩ := hunfolds.exists_settles q.context.converting
  have hliteral := htest q.context hkept.engine rfl
  have hposition := settles_literal_position hliteral (Context.registry_of_core hkept.engine) hkey hn
  have hquery : ∀ record items, record.dig? field = some (.array items) →
      q.matcher.node.fresh.Settles q.context record
        (test (q.context.taken (elementAt items (keyNumber key)))) := by
    intro record items hrecord
    have hsettles : q.matcher.node.fresh.Settles q.context record ((Role.field field).holds q.context
        record fun x => (Role.field key).holds q.context x test) := by
      rw [hnode]
      exact settles_role hposition
    have htaken : q.context.taken (.array items) = .array items := ite_self _
    rwa [Role.holds_field_of_dig hrecord, htaken, Role.holds_field_of_dig (dig?_array hkey items)]
      at hsettles
  have hcomes := comesTo_of_settles_literal hliteral hkept.engine hm
  refine ⟨?_, ?_, exists_checkedIndex? hkey⟩
  · exact fun record items h => ⟨_, hkept.concludes (hquery record items h), hcomes _⟩
  · exact fun record items h => ⟨_, hkept.decides (hquery _ items h), hcomes _⟩

/-- A query for the last element of a field that is an array of two, which is a text. -/
theorem position_matches_element_last :
  ∃ q record, Query.compile? .core (.value (.map [("a", .map [("-01", .string "x")])])) [] = .ok q
    ∧ record = Value.map [("a", .array [.int 1, .string "x"])]
    ∧ '.' ∉ "a".toList ∧ Registry.core.has "a" = false ∧ isIndexKey "-01"
    ∧ q.Decides record true
    ∧ Operator.literal.ComesTo q.context (.string "x") (.string "x") true
    ∧ checkedIndex? "-01" 2 = .ok (some 1)
  := by
  obtain ⟨q, hq⟩ : ∃ q, Query.compile? .core (.value (.map [("a", .map [("-01", .string "x")])])) []
      = .ok q := ⟨_, rfl⟩
  let record : Value := .map [("a", .array [.int 1, .string "x"])]
  have hdot : '.' ∉ "a".toList := by decide
  have hkey : isIndexKey "-01" := by decide
  obtain ⟨-, hdecides, -⟩ := position_matches_element hdot rfl hkey (.compiled hq)
    (Query.built_of_compile hq).1
  have hrecord : (q.normalizeRecord record).dig? "a" = some (.array [.int 1, .string "x"]) := by
    cases hq
    rfl
  obtain ⟨b, hb, hcomes⟩ := hdecides record _ hrecord
  have hmatch : (q.isMatch record).map Prod.fst = .ok true := by
    cases hq
    set_option maxRecDepth 2000 in rfl
  cases hb.isMatch.symm.trans hmatch
  have helement : q.context.taken (elementAt [.int 1, .string "x"] (keyNumber "-01")) = .string "x" :=
    ite_self _
  rw [helement] at hcomes
  exact ⟨q, record, hq, rfl, hdot, rfl, hkey, hb, hcomes, by decide⟩

end DocQuery
