import DocQuery.Proofs.Building
import Mathlib.Data.List.Nodup

/-!
# Merged entries

What holds of all entries of two maps holds of all entries of their merge, if it holds of merged
maps. The same goes for the entries of a condition and what becomes of it on an array record.
-/

namespace DocQuery

namespace Entries

/-- An entry after a value has been put in is the new one or was there before. -/
theorem eq_or_mem_of_mem_insert {entries : Entries} {key : String} {v : Value}
    {e : String × Value} (h : e ∈ entries.insert key v) :
  e = (key, v) ∨ e ∈ entries
  := by
  induction entries with
  | nil => exact .inl (List.mem_singleton.mp h)
  | cons d rest ih =>
    rw [insert] at h
    split at h
    · obtain rfl | h := List.mem_cons.mp h
      · exact .inl rfl
      · exact .inr (List.mem_cons_of_mem d h)
    · obtain rfl | h := List.mem_cons.mp h
      · exact .inr List.mem_cons_self
      · apply (ih h).imp_right (List.mem_cons_of_mem d)

/-- What is found under a key is an entry. -/
theorem mem_of_get?_eq_some {entries : Entries} {key : String} {v : Value}
    (h : entries.get? key = some v) :
  (key, v) ∈ entries
  := by
  induction entries with
  | nil => cases h
  | cons e rest ih =>
    obtain ⟨k, w⟩ := e
    rw [get?_cons] at h
    split at h
    · rename_i hk
      cases h
      rw [hk]
      apply List.mem_cons_self
    · apply List.mem_cons_of_mem _ (ih h)

/-- Something is found under a key exactly when it is among the keys. -/
theorem has_iff_mem_keys {entries : Entries} {key : String} :
  entries.has key ↔ key ∈ entries.keys
  := by
  induction entries with
  | nil => simp [has, get?, keys]
  | cons e rest ih =>
    obtain ⟨k, w⟩ := e
    rw [has, get?_cons, keys_cons, List.mem_cons, ← ih, has]
    split <;> simp [*]

/-- Distinct keys stay distinct when a value is put in. -/
theorem nodup_keys_insert {entries : Entries} (h : entries.keys.Nodup) (key : String) (v : Value) :
  (entries.insert key v).keys.Nodup
  := by
  rw [keys_insert]
  split
  · exact h
  · rename_i hkey
    rw [List.nodup_append]
    refine ⟨h, List.nodup_singleton key, ?_⟩
    rintro k hk _ hmem rfl
    apply hkey (List.mem_singleton.mp hmem ▸ hk)

/-- Among distinct keys a new value leaves no old one under its key. -/
theorem eq_or_ne_of_mem_insert {entries : Entries} (h : entries.keys.Nodup) {key : String}
    {v : Value} {e : String × Value} (he : e ∈ entries.insert key v) :
  e = (key, v) ∨ e ∈ entries ∧ e.1 ≠ key
  := by
  induction entries with
  | nil => exact .inl (List.mem_singleton.mp he)
  | cons d rest ih =>
    obtain ⟨hd, hrest⟩ := List.nodup_cons.mp h
    rw [insert] at he
    split at he
    · rename_i hkey
      obtain rfl | he := List.mem_cons.mp he
      · exact .inl rfl
      · refine .inr ⟨List.mem_cons_of_mem d he, ?_⟩
        intro hsame
        apply hd
        rw [hkey, ← hsame]
        apply List.mem_map_of_mem he
    · rename_i hkey
      obtain rfl | he := List.mem_cons.mp he
      · exact .inr ⟨List.mem_cons_self, hkey⟩
      · apply (ih hrest he).imp_right (And.imp_left (List.mem_cons_of_mem d))

/-- What holds of the entries of two maps, and of a merged map under a key when it holds of both
maps under it, holds of the entries of their merge. -/
theorem forall_merge {P : String → Value → Prop} {entries new : Entries}
    (hold : ∀ e ∈ entries, P e.1 e.2) (hnew : ∀ e ∈ new, P e.1 e.2)
    (hP : ∀ key m m', (key, Value.map m') ∈ new → P key (.map m) → P key (.map m') →
      P key (.map (Entries.merge m m'))) :
  ∀ e ∈ Entries.merge entries new, P e.1 e.2
  := by
  induction new generalizing entries with
  | nil => exact hold
  | cons d rest ih =>
    obtain ⟨key, v⟩ := d
    obtain ⟨hv, hrest⟩ := List.forall_mem_cons.mp hnew
    have hmerged : P key (v.mergedInto (entries.get? key)) := by
      unfold Value.mergedInto
      split
      · split
        · rename_i m' _ m hget
          apply hP key m m' List.mem_cons_self (hold _ (mem_of_get?_eq_some hget)) hv
        · exact hv
      · exact hv
    rw [merge]
    apply ih _ hrest fun key m m' h => hP key m m' (List.mem_cons_of_mem _ h)
    intro e he
    obtain rfl | he := eq_or_mem_of_mem_insert he
    · exact hmerged
    · apply hold e he

end Entries

/-! ### What entries apply to -/

/-- What the entries of a condition apply to when it is matched with an array: to the array, or, as
the entries of a condition on elements or on their own, to an element. -/
inductive Level
  | array
  | elements
  | element
deriving DecidableEq

/-- What an entry under a key applies to. -/
def Registry.level (r : Registry) (key : String) : Level :=
  if isIndexKey key then .array
  else if key = "$elemMatch" then .elements
  else if r.has key then .array
  else .element

theorem Registry.level_elemMatch (r : Registry) :
  r.level "$elemMatch" = .elements
  := by
  have hindex : ¬isIndexKey "$elemMatch" := by decide
  rw [level, if_neg hindex, if_pos rfl]

theorem Registry.level_of_ne (r : Registry) {key : String} (h : key ≠ "$elemMatch") :
  r.level key = if isIndexKey key ∨ r.has key then .array else .element
  := by
  unfold level
  by_cases hindex : isIndexKey key
  · simp [hindex]
  · simp [hindex, h]

/-- A key is that of entries that apply to the array if it is a position, or the key of an operator but
not that of conditions on elements. -/
theorem Registry.level_eq_array_iff (r : Registry) (key : String) :
  r.level key = .array ↔ isIndexKey key ∨ r.has key ∧ key ≠ "$elemMatch"
  := by
  by_cases h : key = "$elemMatch"
  · subst h
    have hindex : ¬isIndexKey "$elemMatch" := by decide
    simp [r.level_elemMatch, hindex]
  · rw [r.level_of_ne h, and_iff_left h]
    split <;> simp [*]

theorem Registry.eq_elemMatch_of_level {r : Registry} {key : String} (h : r.level key = .elements) :
  key = "$elemMatch"
  := by
  by_contra hne
  rw [r.level_of_ne hne] at h
  split at h <;> cases h

namespace ArrayCondition

/-- What sorting an entry can do. -/
theorem add_cases {r : Registry} {c c' : ArrayCondition} {key : String} {v : Value}
    (h : c.add r key v = .ok c') :
  r.level key = .array ∧ c' = { c with whole := c.whole.insert key v }
    ∨ (∃ body : Entries, key = "$elemMatch" ∧ v = .map body
      ∧ c' = reserve { c with element := c.element.merge body })
    ∨ r.level key = .element ∧ c' = reserve { c with element := c.element.insert key v }
  := by
  unfold add at h
  unfold Registry.level
  by_cases hindex : isIndexKey key
  · rw [if_pos hindex] at h ⊢
    cases h
    exact .inl ⟨rfl, rfl⟩
  · rw [if_neg hindex] at h ⊢
    by_cases hkey : key = "$elemMatch"
    · rw [if_pos hkey] at h
      cases v with
      | map body =>
        cases h
        exact .inr (.inl ⟨body, hkey, rfl, rfl⟩)
      | _ => cases h
    · rw [if_neg hkey] at h ⊢
      by_cases hhas : r.has key
      · rw [if_pos hhas] at h ⊢
        cases h
        exact .inl ⟨rfl, rfl⟩
      · rw [if_neg hhas] at h ⊢
        cases h
        exact .inr (.inr ⟨rfl, rfl⟩)

/-- What is kept while a condition is taken apart: what applies to the array are positions and
operators of the condition, beside the place that is reserved for the condition on elements. -/
structure Sound (r : Registry) (condition : Entries) (P : String → Value → Prop)
    (c : ArrayCondition) : Prop where
  nodup : c.whole.keys.Nodup
  whole : ∀ e ∈ c.whole, e.1 ≠ "$elemMatch" →
    e ∈ condition ∧ (isIndexKey e.1 ∨ r.has e.1)
  element : ∀ e ∈ c.element, P e.1 e.2

variable {r : Registry} {condition : Entries} {P : String → Value → Prop} {c : ArrayCondition}

theorem Sound.reserve (h : c.Sound r condition P) :
  c.reserve.Sound r condition P
  := by
  rw [ArrayCondition.reserve]
  split
  · exact h
  · refine ⟨Entries.nodup_keys_insert h.nodup _ _, ?_, h.element⟩
    intro e he hne
    obtain rfl | he := Entries.eq_or_mem_of_mem_insert he
    · exact absurd rfl hne
    · apply h.whole e he hne

/-- What is put under a position or an operator is an entry of the condition. -/
theorem Sound.insert_whole (h : c.Sound r condition P) {key : String} {v : Value}
    (hmem : (key, v) ∈ condition) (hkey : isIndexKey key ∨ r.has key) :
  Sound r condition P { c with whole := c.whole.insert key v }
  := by
  refine ⟨Entries.nodup_keys_insert h.nodup _ _, ?_, h.element⟩
  intro e he hne
  obtain rfl | he := Entries.eq_or_mem_of_mem_insert he
  · exact ⟨hmem, hkey⟩
  · apply h.whole e he hne

/-- What is put into the condition on elements has the property of all that is in it. -/
theorem Sound.put_element (h : c.Sound r condition P) {element : Entries}
    (helement : ∀ e ∈ element, P e.1 e.2) :
  Sound r condition P { c with element := element }
  := ⟨h.nodup, h.whole, helement⟩

/-- Sorting an entry of the condition keeps what applies to the array and what applies to an
element apart. -/
theorem Sound.add (h : c.Sound r condition P)
    (hP : ∀ key m m', P key (.map m) → P key (.map m') → P key (.map (Entries.merge m m')))
    {key : String} {v : Value} (hmem : (key, v) ∈ condition)
    (hentry : key ≠ "$elemMatch" → P key v)
    (hbody : ∀ body, key = "$elemMatch" → v = .map body → ∀ e ∈ body, P e.1 e.2)
    {c' : ArrayCondition} (hc : c.add r key v = .ok c') :
  c'.Sound r condition P
  := by
  obtain ⟨hlevel, rfl⟩ | ⟨body, rfl, rfl, rfl⟩ | ⟨hlevel, rfl⟩ := add_cases hc
  · apply h.insert_whole hmem (((r.level_eq_array_iff key).mp hlevel).imp_right And.left)
  · apply (h.put_element _).reserve
    apply Entries.forall_merge h.element (hbody body rfl rfl) fun key m m' _ => hP key m m'
  · apply (h.put_element _).reserve
    intro e he
    obtain rfl | he := Entries.eq_or_mem_of_mem_insert he
    · apply hentry
      rintro rfl
      rw [r.level_elemMatch] at hlevel
      cases hlevel
    · apply h.element e he

/-- Sorting several entries of the condition keeps what applies to the array and what applies to an
element apart. -/
theorem Sound.addAll (h : c.Sound r condition P)
    (hP : ∀ key m m', P key (.map m) → P key (.map m') → P key (.map (Entries.merge m m')))
    (hentry : ∀ e ∈ condition, e.1 ≠ "$elemMatch" → P e.1 e.2)
    (hbody : ∀ body, ("$elemMatch", Value.map body) ∈ condition → ∀ e ∈ body, P e.1 e.2)
    {entries : Entries} (hentries : ∀ e ∈ entries, e ∈ condition) {c' : ArrayCondition}
    (hc : c.addAll r entries = .ok c') :
  c'.Sound r condition P
  := by
  induction entries generalizing c with
  | nil =>
    cases hc
    exact h
  | cons d rest ih =>
    obtain ⟨key, v⟩ := d
    obtain ⟨hmem, hrest⟩ := List.forall_mem_cons.mp hentries
    obtain ⟨c₁, hadd, hc⟩ := bind_eq_ok_iff.mp hc
    apply ih _ hrest hc
    apply h.add hP hmem (hentry _ hmem) _ hadd
    rintro body rfl rfl
    apply hbody body hmem

end ArrayCondition

/-- On an array record a condition keeps its positions and operators. All else goes into one
condition on elements, of whose entries everything holds that holds of those of the condition and
of merged maps. -/
theorem forall_arrayCondition {r : Registry} {condition whole : Entries}
    {P : String → Value → Prop}
    (hP : ∀ key m m', P key (.map m) → P key (.map m') → P key (.map (Entries.merge m m')))
    (hentry : ∀ e ∈ condition, e.1 ≠ "$elemMatch" → P e.1 e.2)
    (hbody : ∀ body, ("$elemMatch", Value.map body) ∈ condition → ∀ e ∈ body, P e.1 e.2)
    (h : arrayCondition r condition = .ok whole) :
  ∃ element : Entries, (∀ e ∈ element, P e.1 e.2) ∧ ∀ e ∈ whole, e = ("$elemMatch", .map element)
    ∨ e.1 ≠ "$elemMatch" ∧ e ∈ condition ∧ (isIndexKey e.1 ∨ r.has e.1)
  := by
  obtain ⟨c, hc, rfl⟩ := map_eq_ok_iff.mp h
  have hnew : ArrayCondition.Sound r condition P ⟨[], []⟩ :=
    ⟨List.nodup_nil, fun e he => absurd he List.not_mem_nil, fun e he => absurd he List.not_mem_nil⟩
  have hsound := hnew.addAll hP hentry hbody (fun e he => he) hc
  refine ⟨c.element, hsound.element, ?_⟩
  intro e he
  by_cases hkey : e.1 = "$elemMatch"
  · left
    have hhas : c.whole.has "$elemMatch" := by
      by_contra hno
      rw [ArrayCondition.entries, if_neg hno] at he
      apply hno
      rw [Entries.has_iff_mem_keys, ← hkey]
      apply List.mem_map_of_mem he
    rw [ArrayCondition.entries, if_pos hhas] at he
    obtain he | ⟨-, hne⟩ := Entries.eq_or_ne_of_mem_insert hsound.nodup he
    · exact he
    · exact absurd hkey hne
  · right
    have hmem : e ∈ c.whole := by
      rw [ArrayCondition.entries] at he
      split at he
      · obtain rfl | he := Entries.eq_or_mem_of_mem_insert he
        · exact absurd rfl hkey
        · exact he
      · exact he
    obtain ⟨hcondition, hkind⟩ := hsound.whole e hmem hkey
    exact ⟨hkey, hcondition, hkind⟩

/-! ### Depth -/

theorem Value.depthOfEntries_le_iff (entries : Entries) (d : Nat) :
  Value.depthOfEntries entries ≤ d ↔ ∀ e ∈ entries, e.2.depth ≤ d
  := by
  induction entries with
  | nil => simp [depthOfEntries]
  | cons e rest ih =>
    rw [depthOfEntries, Nat.max_le, ih, List.forall_mem_cons]

/-- The entries of a map are less deep than the map. -/
theorem Value.depth_lt_of_mem {entries : Entries} {e : String × Value} (h : e ∈ entries) :
  e.2.depth < (Value.map entries).depth
  := Nat.lt_succ_of_le ((depthOfEntries_le_iff entries _).mp (Nat.le_refl _) e h)

theorem Value.depthOfItems_le_iff (items : List Value) (d : Nat) :
  Value.depthOfItems items ≤ d ↔ ∀ v ∈ items, v.depth ≤ d
  := by
  induction items with
  | nil => simp [depthOfItems]
  | cons v rest ih =>
    rw [depthOfItems, Nat.max_le, ih, List.forall_mem_cons]

/-- The items of an array are less deep than the array. -/
theorem Value.depth_lt_of_mem_items {items : List Value} {v : Value} (h : v ∈ items) :
  v.depth < (Value.array items).depth
  := Nat.lt_succ_of_le ((depthOfItems_le_iff items _).mp (Nat.le_refl _) v h)

/-- A map is as deep as a bound allows when its entries are less deep. -/
theorem Value.depth_map_le {entries : Entries} {d : Nat} (h : ∀ e ∈ entries, e.2.depth < d)
    (hd : 0 < d) :
  (Value.map entries).depth ≤ d
  := by
  obtain ⟨d, rfl⟩ := Nat.exists_eq_succ_of_ne_zero (Nat.ne_of_gt hd)
  apply Nat.succ_le_succ
  apply (depthOfEntries_le_iff entries d).mpr
  exact fun e he => Nat.le_of_lt_succ (h e he)

/-- An array is as deep as a bound allows when its items are less deep. -/
theorem Value.depth_array_le {items : List Value} {d : Nat} (h : ∀ v ∈ items, v.depth < d) (hd : 0 < d) :
  (Value.array items).depth ≤ d
  := by
  obtain ⟨d, rfl⟩ := Nat.exists_eq_succ_of_ne_zero (Nat.ne_of_gt hd)
  apply Nat.succ_le_succ
  apply (depthOfItems_le_iff items d).mpr
  exact fun v hv => Nat.le_of_lt_succ (h v hv)

/-- What holds of a map exactly if it holds of its values is kept when maps are merged. -/
theorem Entries.forall_merge_values {P : Value → Prop}
    (hP : ∀ entries, P (.map entries) ↔ ∀ e ∈ entries, P e.2) {m m' : Entries}
    (h : ∀ e ∈ m, P e.2) (h' : ∀ e ∈ m', P e.2) :
  ∀ e ∈ Entries.merge m m', P e.2
  := by
  generalize hd : (Value.map m').depth = d
  induction d using Nat.strongRecOn generalizing m m' with
  | ind d ih =>
    apply Entries.forall_merge (P := fun _ v => P v) h h'
    intro key k k' hmem hk hk'
    rw [hP] at hk hk' ⊢
    apply ih _ (hd ▸ Value.depth_lt_of_mem hmem) hk hk' rfl

/-- Maps that are not deeper than a bound stay so when they are merged. -/
theorem Value.depth_merge_le {d : Nat} {m m' : Entries} (h : (Value.map m).depth ≤ d)
    (h' : (Value.map m').depth ≤ d) :
  (Value.map (Entries.merge m m')).depth ≤ d
  := by
  induction d generalizing m m' with
  | zero => cases h
  | succ d ih =>
    apply Nat.succ_le_succ
    apply (depthOfEntries_le_iff _ d).mpr
    apply Entries.forall_merge (P := fun _ v => v.depth ≤ d)
    · apply (depthOfEntries_le_iff m d).mp (Nat.le_of_succ_le_succ h)
    · apply (depthOfEntries_le_iff m' d).mp (Nat.le_of_succ_le_succ h')
    · exact fun _ _ _ _ h h' => ih h h'

/-- What a condition becomes on an array is no deeper, apart from the condition on elements, which
is as deep as the condition. -/
theorem depth_arrayCondition {r : Registry} {entries whole : Entries} {d : Nat}
    (hd : (Value.map entries).depth ≤ d) (h : arrayCondition r entries = .ok whole) :
  ∀ e ∈ whole,
    (∃ element, e = ("$elemMatch", .map element) ∧ (Value.map element).depth ≤ d) ∨ e ∈ entries
  := by
  have hpos : 0 < d := Nat.lt_of_lt_of_le (Nat.succ_pos _) hd
  have hentries : ∀ e ∈ entries, e.2.depth < d :=
    fun e he => Nat.lt_of_lt_of_le (Value.depth_lt_of_mem he) hd
  obtain ⟨element, helement, hkind⟩ := forall_arrayCondition (P := fun _ v => v.depth < d)
    (fun _ m m' hm hm' => Nat.lt_of_le_pred hpos
      (Value.depth_merge_le (Nat.le_pred_of_lt hm) (Nat.le_pred_of_lt hm')))
    (fun e he _ => hentries e he)
    (fun body hbody e he => Nat.lt_trans (Value.depth_lt_of_mem he) (hentries _ hbody)) h
  intro e he
  obtain he | ⟨-, hmem, -⟩ := hkind e he
  · exact .inl ⟨element, he, Value.depth_map_le helement hpos⟩
  · exact .inr hmem

end DocQuery
