import DocQuery.Proofs.ArrayRecords
import DocQuery.Proofs.EqualityArguments

/-!
# Rearranged conditions

The order of the entries of a map says nothing, in a condition as in data, and neither does the order of the
branches of a conjunction or a disjunction. The items of any other array have their places. So a plain
condition may be rearranged wherever it likes: it compiles as before and matches the same records. On an
array this asks that no entries meet, because otherwise the order tells which of them is lost.
-/

namespace DocQuery

/-! ### Rearrangements -/

/-- What is read in an argument: data, a condition, or the branches of a connective. -/
inductive Reading
  | data
  | condition
  | branches

/-- How an operator reads its argument. -/
def Operator.reading : Operator → Reading
  | conjunction | disjunction => .branches
  | elements _ | condition | negation | size | literal | arrayRecord => .condition
  | _ => .data

/-- How a value under a key is read. -/
def Reading.entry : Reading → String → Reading
  | condition, key => (Registry.core.operatorFor key).reading
  | _, _ => data

/-- How an item of an array is read. -/
def Reading.item : Reading → Reading
  | branches => condition
  | _ => data

/-- The entries of a map or the branches of a connective are permuted, at one place in a value. -/
inductive Rearrangement : Reading → Value → Value → Prop
  | entries {reading : Reading} {entries others : Entries} (h : entries.Perm others) :
    Rearrangement reading (.map entries) (.map others)
  | branches {items others : List Value} (h : items.Perm others) :
    Rearrangement .branches (.array items) (.array others)
  | entry {reading : Reading} (before : Entries) (key : String) (after : Entries) {v w : Value}
      (h : Rearrangement (reading.entry key) v w) :
    Rearrangement reading (.map (before ++ (key, v) :: after)) (.map (before ++ (key, w) :: after))
  | item {reading : Reading} (before after : List Value) {v w : Value}
      (h : Rearrangement reading.item v w) :
    Rearrangement reading (.array (before ++ v :: after)) (.array (before ++ w :: after))

/-- No map in the value has two entries with one key, or an entry that applies to an element under a key of
its own condition on elements. -/
inductive Value.Separated : Value → Prop
  | single {v : Value} (harray : v.isArray = false) (hmap : v.isMap = false) : Separated v
  | array {items : List Value} (h : ∀ v ∈ items, Separated v) : Separated (.array items)
  | map {entries : Entries} (hentries : entries.Separate .core) (h : ∀ e ∈ entries, Separated e.2) :
    Separated (.map entries)

theorem Value.separated_array_iff {items : List Value} :
  (Value.array items).Separated ↔ ∀ v ∈ items, v.Separated
  := by
  constructor
  · intro h
    cases h with
    | single harray => cases harray
    | array h => exact h
  · exact .array

theorem Value.separated_map_iff {entries : Entries} :
  (Value.map entries).Separated ↔ entries.Separate .core ∧ ∀ e ∈ entries, e.2.Separated
  := by
  constructor
  · intro h
    cases h with
    | single _ hmap => cases hmap
    | map hentries h => exact ⟨hentries, h⟩
  · exact fun ⟨hentries, h⟩ => .map hentries h

/-! ### What a rearrangement keeps -/

theorem Entries.keys_replace (before : Entries) (key : String) (v w : Value) (after : Entries) :
  keys (before ++ (key, v) :: after) = keys (before ++ (key, w) :: after)
  := by
  simp [keys]

theorem Entries.keys_perm {entries others : Entries} (h : entries.Perm others) :
  entries.keys.Perm others.keys
  := h.map Prod.fst

theorem Entries.get?_eq_some_iff {entries : Entries} (h : entries.keys.Nodup) {key : String} {v : Value} :
  entries.get? key = some v ↔ (key, v) ∈ entries
  := ⟨mem_of_get?_eq_some, get?_of_mem h⟩

theorem forall₂_replace {α β : Type} {R : α → β → Prop} {v w : β} (h : ∀ x, R x v ↔ R x w)
    (before after : List β) {xs : List α} :
  List.Forall₂ R xs (before ++ v :: after) ↔ List.Forall₂ R xs (before ++ w :: after)
  := by
  induction before generalizing xs with
  | nil => cases xs <;> simp [h]
  | cons y before ih => cases xs <;> simp [ih]

theorem forall₂_replace_left {α β : Type} {R : α → β → Prop} {v w : α} (h : ∀ x, R v x ↔ R w x)
    (before after : List α) {xs : List β} :
  List.Forall₂ R (before ++ v :: after) xs ↔ List.Forall₂ R (before ++ w :: after) xs
  := by
  have hflip : List.Forall₂ (flip R) xs (before ++ v :: after)
      ↔ List.Forall₂ (flip R) xs (before ++ w :: after) := forall₂_replace h before after
  exact ⟨fun h => (hflip.mp h.flip).flip, fun h => (hflip.mpr h.flip).flip⟩

namespace Rearrangement

variable {reading : Reading} {v w : Value}

theorem plain (h : Rearrangement reading v w) (hv : v.Plain) :
  w.Plain
  := by
  induction h with
  | entries h =>
    rw [Value.plain_map_iff] at hv ⊢
    exact fun e he => hv e (h.mem_iff.mpr he)
  | branches h =>
    rw [Value.plain_array_iff] at hv ⊢
    exact fun v hmem => hv v (h.mem_iff.mpr hmem)
  | entry before key after _ ih =>
    rw [Value.plain_map_iff, List.forall_mem_append, List.forall_mem_cons] at hv ⊢
    exact ⟨hv.1, ih hv.2.1, hv.2.2⟩
  | item before after _ ih =>
    rw [Value.plain_array_iff, List.forall_mem_append, List.forall_mem_cons] at hv ⊢
    exact ⟨hv.1, ih hv.2.1, hv.2.2⟩

theorem depth_eq (h : Rearrangement reading v w) :
  v.depth = w.depth
  := by
  have hmap {entries others : Entries}
      (h : ∀ d, (∀ e ∈ entries, e.2.depth ≤ d) ↔ ∀ e ∈ others, e.2.depth ≤ d) :
      (Value.map entries).depth = (Value.map others).depth := by
    apply congrArg (· + 1)
    apply eq_of_forall_ge_iff
    intro d
    rw [Value.depthOfEntries_le_iff, Value.depthOfEntries_le_iff, h d]
  have harray {items others : List Value}
      (h : ∀ d, (∀ v ∈ items, v.depth ≤ d) ↔ ∀ v ∈ others, v.depth ≤ d) :
      (Value.array items).depth = (Value.array others).depth := by
    apply congrArg (· + 1)
    apply eq_of_forall_ge_iff
    intro d
    rw [Value.depthOfItems_le_iff, Value.depthOfItems_le_iff, h d]
  induction h with
  | entries h =>
    apply hmap
    intro d
    simp only [h.mem_iff]
  | branches h =>
    apply harray
    intro d
    simp only [h.mem_iff]
  | entry before key after _ ih =>
    apply hmap
    intro d
    simp only [List.forall_mem_append, List.forall_mem_cons, ih]
  | item before after _ ih =>
    apply harray
    intro d
    simp only [List.forall_mem_append, List.forall_mem_cons, ih]

/-- A map is rearranged to a map with the same keys. -/
theorem exists_entries (h : Rearrangement reading v w) {others : Entries} (hw : w = .map others) :
  ∃ entries : Entries, v = .map entries ∧ entries.keys.Perm others.keys
  := by
  cases h with
  | @entries _ entries _ h =>
    cases hw
    exact ⟨entries, rfl, Entries.keys_perm h⟩
  | entry before key after h =>
    cases hw
    refine ⟨_, rfl, ?_⟩
    rw [Entries.keys_replace]
  | branches | item => cases hw

theorem separated (h : Rearrangement reading v w) (hv : v.Separated) :
  w.Separated
  := by
  induction h with
  | @entries _ entries others h =>
    rw [Value.separated_map_iff] at hv ⊢
    obtain ⟨hseparate, hv⟩ := hv
    have hkeys := Entries.keys_perm h
    refine ⟨⟨?_, ?_⟩, fun e he => hv e (h.mem_iff.mpr he)⟩
    · apply hkeys.nodup hseparate.nodup
    · intro body hbody
      obtain ⟨hnodup, hmeets⟩ := hseparate.body body (h.mem_iff.mpr hbody)
      exact ⟨hnodup, fun key hkey hmem => hmeets key hkey (hkeys.mem_iff.mpr hmem)⟩
  | branches h =>
    rw [Value.separated_array_iff] at hv ⊢
    exact fun v hmem => hv v (h.mem_iff.mpr hmem)
  | @entry _ before key after v w h ih =>
    rw [Value.separated_map_iff] at hv ⊢
    obtain ⟨hseparate, hv⟩ := hv
    have hkeys := Entries.keys_replace before key v w after
    rw [List.forall_mem_append, List.forall_mem_cons] at hv ⊢
    refine ⟨⟨hkeys ▸ hseparate.nodup, ?_⟩, hv.1, ih hv.2.1, hv.2.2⟩
    rw [← hkeys]
    intro body hbody
    obtain hmem | hmem := List.mem_append.mp hbody
    · exact hseparate.body body (List.mem_append_left _ hmem)
    · obtain heq | hmem := List.mem_cons.mp hmem
      · cases heq
        obtain ⟨old, rfl, hperm⟩ := h.exists_entries rfl
        obtain ⟨hnodup, hmeets⟩ := hseparate.body old (by simp)
        refine ⟨hperm.nodup hnodup, ?_⟩
        exact fun key hkey => hmeets key (hperm.mem_iff.mpr hkey)
      · exact hseparate.body body (List.mem_append_right _ (List.mem_cons_of_mem _ hmem))
  | item before after _ ih =>
    rw [Value.separated_array_iff, List.forall_mem_append, List.forall_mem_cons] at hv ⊢
    exact ⟨hv.1, ih hv.2.1, hv.2.2⟩

/-- An operator takes what is rearranged as it takes the argument. -/
theorem accepts_eq (h : Rearrangement reading v w) {operator : Operator}
    (hreading : operator.reading = reading) :
  operator.accepts v = operator.accepts w
  := by
  induction h generalizing operator with
  | @entries _ entries others h =>
    have hentries : entriesAccepted entries = entriesAccepted others := by
      rw [Bool.eq_iff_iff, entriesAccepted_iff, entriesAccepted_iff]
      simp only [h.mem_iff]
    cases operator with
    | elements | condition | negation | size | literal => exact hentries
    | _ => rfl
  | @branches items others h =>
    have hbranches : branchesAccepted items = branchesAccepted others := by
      rw [Bool.eq_iff_iff, branchesAccepted_iff, branchesAccepted_iff]
      simp only [h.mem_iff]
    cases operator with
    | conjunction | disjunction => exact hbranches
    | _ => rfl
  | @entry _ before key after v w _ ih =>
    have hentries (hkey : (Registry.core.operatorFor key).accepts v
          = (Registry.core.operatorFor key).accepts w) :
        entriesAccepted (before ++ (key, v) :: after) = entriesAccepted (before ++ (key, w) :: after) := by
      rw [Bool.eq_iff_iff, entriesAccepted_iff, entriesAccepted_iff]
      simp only [List.forall_mem_append, List.forall_mem_cons, hkey]
    cases operator with
    | elements | condition | negation | size | literal =>
      cases hreading
      exact hentries (ih rfl)
    | _ => rfl
  | @item _ before after v w _ ih =>
    have hbranches (hitem : Operator.condition.accepts v = Operator.condition.accepts w) :
        branchesAccepted (before ++ v :: after) = branchesAccepted (before ++ w :: after) := by
      rw [Bool.eq_iff_iff, branchesAccepted_iff, branchesAccepted_iff]
      simp only [List.forall_mem_append, List.forall_mem_cons, hitem]
    cases operator with
    | conjunction | disjunction =>
      cases hreading
      exact hbranches (ih rfl)
    | _ => rfl

/-! ### Rearranged data -/

/-- Rearranged data is equal to the same values, from either side. -/
theorem beq_iff (h : Rearrangement reading v w) (hdata : reading = .data) (hv : v.Separated) (x : Value) :
  (x == v ↔ x == w) ∧ (v == x ↔ w == x)
  := by
  have hw := h.separated hv
  induction h generalizing x with
  | @entries _ entries others h =>
    rw [Value.separated_map_iff] at hv hw
    cases x with
    | map xs =>
      simp only [Value.beq_map_iff, h.length_eq, Entries.get?_eq_some_iff hv.1.nodup,
        Entries.get?_eq_some_iff hw.1.nodup, h.mem_iff, and_self]
    | _ => exact ⟨.rfl, .rfl⟩
  | branches => cases hdata
  | @entry _ before key after v w h ih =>
    subst hdata
    rw [Value.separated_map_iff] at hv hw
    have hsame := fun x => ih rfl (hv.2 (key, v) (by simp)) x (hw.2 (key, w) (by simp))
    rw [forall_and] at hsame
    cases x with
    | map xs =>
      rw [Value.beq_map_iff, Value.beq_map_iff, Value.beq_map_iff, Value.beq_map_iff,
        List.length_append, List.length_append, List.length_cons, List.length_cons]
      constructor
      · simp only [Entries.get?_eq_some_iff hv.1.nodup, Entries.get?_eq_some_iff hw.1.nodup,
          List.mem_append, List.mem_cons, Prod.mk.injEq, or_and_right, exists_or, and_assoc,
          exists_and_left, exists_eq_left, hsame.1]
      · simp only [List.forall_mem_append, List.forall_mem_cons, hsame.2]
    | _ => exact ⟨.rfl, .rfl⟩
  | @item _ before after v w h ih =>
    subst hdata
    rw [Value.separated_array_iff] at hv hw
    have hsame := fun x => ih rfl (hv v (by simp)) x (hw w (by simp))
    rw [forall_and] at hsame
    cases x with
    | array xs =>
      rw [Value.beq_array_iff, Value.beq_array_iff, Value.beq_array_iff, Value.beq_array_iff]
      exact ⟨forall₂_replace hsame.1 before after, forall₂_replace_left hsame.2 before after⟩
    | _ => exact ⟨.rfl, .rfl⟩

end Rearrangement

/-! ### What a rearranged condition holds of -/

theorem Operator.accepts_elements (quantifier : Quantifier) (v : Value) :
  (Operator.elements quantifier).accepts v = Operator.condition.accepts v
  := by
  cases v <;> rfl

/-- An operator that reads a condition accepts maps of accepted entries. -/
theorem entriesAccepted_of_reading {operator : Operator} (hreading : operator.reading = .condition)
    {entries : Entries} (h : operator.accepts (.map entries)) :
  entriesAccepted entries
  := by
  cases operator with
  | elements | condition | negation | size | literal => exact h
  | arrayRecord => cases h
  | _ => cases hreading

theorem branchesAccepted_of_reading {operator : Operator} (hreading : operator.reading = .branches)
    {items : List Value} (h : operator.accepts (.array items)) :
  branchesAccepted items
  := by
  cases operator with
  | conjunction | disjunction => exact h
  | _ => cases hreading

section

variable {taken : Value → Value}

/-- A comparison does not tell values apart that are equal to the same values and in the same order with
them. -/
theorem Comparison.holds_congr {v w : Value} (c : Comparison) (hequal : ∀ x, x == v ↔ x == w)
    (horder : ∀ x : Value, x.compare? v = x.compare? w) (record : Value) :
  c.holds record v = c.holds record w
  := by
  have hequal : (record == v) = (record == w) := Bool.eq_iff_iff.mpr (hequal record)
  cases c <;> simp only [holds, hequal, horder]

/-- Two entries are alike if they hold of the same records, and of the same elements if they are conditions
on elements. -/
structure Alike (taken : Value → Value) (e d : String × Value) : Prop where
  key : e.1 = d.1
  holds : ∀ record, entryHolds taken e.1 e.2 record = entryHolds taken d.1 d.2 record
  element : e.1 = "$elemMatch" → ∀ item,
    Operator.condition.holds taken e.2 item = Operator.condition.holds taken d.2 item

theorem Alike.refl (e : String × Value) :
  Alike taken e e
  := ⟨rfl, fun _ => rfl, fun _ _ => rfl⟩

theorem Alike.symm {e d : String × Value} (h : Alike taken e d) :
  Alike taken d e
  := ⟨h.key.symm, fun record => (h.holds record).symm,
    fun hkey item => (h.element (h.key.trans hkey) item).symm⟩

theorem exists_alike_replace {key : String} {v w : Value} (before after : Entries)
    (h : Alike taken (key, v) (key, w)) :
  ∀ d ∈ before ++ (key, w) :: after, ∃ e ∈ before ++ (key, v) :: after, Alike taken e d
  := by
  rw [List.forall_mem_append, List.forall_mem_cons]
  refine ⟨?_, ⟨(key, v), by simp, h⟩, ?_⟩
  · exact fun e he => ⟨e, List.mem_append_left _ he, .refl e⟩
  · exact fun e he => ⟨e, List.mem_append_right _ (List.mem_cons_of_mem _ he), .refl e⟩

variable {entries others : Entries}

/-- A condition holds where another one does that has an entry alike to each of its entries. -/
theorem holds_condition_of_alike (halike : ∀ d ∈ others, ∃ e ∈ entries, Alike taken e d) {record : Value}
    (h : Operator.condition.holds taken (.map entries) record) :
  Operator.condition.holds taken (.map others) record
  := by
  rw [holds_condition, List.all_eq_true] at h ⊢
  intro d hd
  obtain ⟨e, he, hed⟩ := halike d hd
  rw [← hed.holds]
  apply h e he

/-- The same goes for a condition that is taken literally, if no entries meet. -/
theorem holds_literal_of_alike (hsuits : Suits .core .condition (.map entries))
    (hsuits' : Suits .core .condition (.map others)) (hseparate : entries.Separate .core)
    (hseparate' : others.Separate .core) (halike : ∀ d ∈ others, ∃ e ∈ entries, Alike taken e d)
    {record : Value} (h : Operator.literal.holds taken (.map entries) record) :
  Operator.literal.holds taken (.map others) record
  := by
  by_cases hrecord : record.isArray
  · cases record with
    | array items =>
      rw [holds_literal_array hsuits hseparate.nodup fun e he => hseparate.clear he] at h
      rw [holds_literal_array hsuits' hseparate'.nodup fun e he => hseparate'.clear he]
      obtain ⟨harray, hany⟩ := h
      constructor
      · intro d hd hlevel
        obtain ⟨e, he, hed⟩ := halike d hd
        rw [← hed.holds]
        apply harray e he (hed.key ▸ hlevel)
      · rintro ⟨d, hd, hlevel⟩
        obtain ⟨e, he, hed⟩ := halike d hd
        obtain ⟨item, hitem, hall⟩ := hany ⟨e, he, hed.key ▸ hlevel⟩
        refine ⟨item, hitem, ?_⟩
        rw [forall_elementEntries_iff] at hall ⊢
        obtain ⟨helement, hbody⟩ := hall
        constructor
        · intro d hd hlevel
          obtain ⟨e, he, hed⟩ := halike d hd
          rw [← hed.holds]
          apply helement e he (hed.key ▸ hlevel)
        · intro body hmem
          obtain ⟨⟨key, v⟩, he, hed⟩ := halike _ hmem
          obtain rfl : key = "$elemMatch" := hed.key
          have hinner : Suits .core (.elements .any) v := hsuits.entries _ he
          obtain ⟨old, rfl⟩ := hinner.inner.map
          have hsame := hed.element rfl (taken item)
          rw [holds_condition, holds_condition, Bool.eq_iff_iff, List.all_eq_true, List.all_eq_true]
            at hsame
          apply hsame.mp (hbody old he)
    | _ => cases hrecord
  · rw [holds_literal_of_not_isArray _ _ hrecord] at h ⊢
    apply holds_condition_of_alike halike h

/-- An operator holds of the same records with two maps if, read as it reads them, they say the same. -/
theorem Operator.holds_map_eq {operator : Operator} (haccepts : operator.accepts (.map entries))
    (hdata : operator.reading = .data → ∀ x, x == Value.map entries ↔ x == Value.map others)
    (hcondition : operator.reading = .condition → ∀ record,
      Operator.condition.holds taken (.map entries) record
          = Operator.condition.holds taken (.map others) record
        ∧ Operator.literal.holds taken (.map entries) record
          = Operator.literal.holds taken (.map others) record) (record : Value) :
  operator.holds taken (.map entries) record = operator.holds taken (.map others) record
  := by
  cases operator with
  | compare c =>
    rw [holds, holds]
    apply c.holds_congr (hdata rfl)
    intro x
    cases x <;> rfl
  | elements quantifier =>
    rw [holds, holds]
    simp only [hcondition rfl]
  | condition => exact (hcondition rfl record).1
  | negation => rw [holds, holds, (hcondition rfl record).2]
  | size =>
    rw [holds, holds]
    cases record.asArray? with
    | none => rfl
    | some items => exact (hcondition rfl _).2
  | literal => exact (hcondition rfl record).2
  | _ => cases haccepts

/-- The same goes for two arrays. -/
theorem Operator.holds_array_eq {items others : List Value} {operator : Operator}
    (haccepts : operator.accepts (.array items))
    (hequal : operator.reading ≠ .branches → ∀ x, x == Value.array items ↔ x == Value.array others)
    (hmember : operator.reading = .data → ∀ record, intersects record items = intersects record others)
    (hbranches : operator.reading = .branches → ∀ record,
      (items.all fun v => Operator.condition.holds taken v record)
          = (others.all fun v => Operator.condition.holds taken v record)
        ∧ (items.any fun v => Operator.condition.holds taken v record)
          = others.any fun v => Operator.condition.holds taken v record) (record : Value) :
  operator.holds taken (.array items) record = operator.holds taken (.array others) record
  := by
  have hcompare (h : operator.reading ≠ .branches) (c : Comparison) (x : Value) :
      c.holds x (.array items) = c.holds x (.array others) := by
    apply c.holds_congr (hequal h)
    intro x
    cases x <;> rfl
  have hliteral (h : operator.reading ≠ .branches) (record : Value) :
      Operator.literal.holds taken (.array items) record
        = Operator.literal.holds taken (.array others) record := by
    by_cases hrecord : record.isArray
    · rw [holds_literal_of_isArray _ _ hrecord, holds_literal_of_isArray _ _ hrecord, holds, holds]
      simp only [hcompare h]
    · rw [holds_literal_of_not_isArray _ _ hrecord, holds_literal_of_not_isArray _ _ hrecord]
      apply hcompare h
  cases operator with
  | compare c =>
    rw [holds, holds]
    apply hcompare (by simp [reading])
  | member negated => rw [holds, holds, hmember rfl]
  | conjunction => rw [holds_conjunction, holds_conjunction, (hbranches rfl record).1]
  | disjunction => rw [holds_disjunction, holds_disjunction, (hbranches rfl record).2]
  | negation => rw [holds, holds, hliteral (by simp [reading])]
  | size =>
    rw [holds, holds]
    cases record.asArray? with
    | none => rfl
    | some items => exact hliteral (by simp [reading]) _
  | literal => exact hliteral (by simp [reading]) record
  | _ => cases haccepts

theorem entryHolds_congr {key : String} {v w : Value}
    (h : ∀ record, (Registry.core.operatorFor key).holds taken v record
      = (Registry.core.operatorFor key).holds taken w record) (record : Value) :
  entryHolds taken key v record = entryHolds taken key w record
  := by
  cases hlookup : Registry.core.lookup? key with
  | none =>
    rw [Registry.operatorFor_of_none hlookup] at h
    rw [entryHolds_of_none hlookup, entryHolds_of_none hlookup]
    simp only [h]
  | some e =>
    rw [Registry.operatorFor_of_lookup hlookup] at h
    rw [entryHolds_of_lookup hlookup, entryHolds_of_lookup hlookup, h]

namespace Rearrangement

variable {reading : Reading}

theorem intersects_eq {before after : List Value} {v w : Value} (h : Rearrangement .data v w)
    (hv : v.Separated) (record : Value) :
  intersects record (before ++ v :: after) = intersects record (before ++ w :: after)
  := by
  have hsame : ∀ x, (v == x) = (w == x) := fun x => Bool.eq_iff_iff.mpr (h.beq_iff rfl hv x).2
  cases record <;> simp only [intersects, List.any_append, List.any_cons, hsame]

/-- An operator holds of the same records with a map that is rearranged, if the entries of the one are alike
to those of the other where the operator reads a condition. -/
theorem holds_map_eq (h : Rearrangement reading (.map entries) (.map others))
    (hseparated : (Value.map entries).Separated) {operator : Operator}
    (hreading : operator.reading = reading) (haccepts : operator.accepts (.map entries))
    (hforward : reading = .condition → ∀ d ∈ others, ∃ e ∈ entries, Alike taken e d)
    (hback : reading = .condition → ∀ e ∈ entries, ∃ d ∈ others, Alike taken d e) (record : Value) :
  operator.holds taken (.map entries) record = operator.holds taken (.map others) record
  := by
  apply Operator.holds_map_eq haccepts
  · exact fun hdata x => (h.beq_iff (hreading.symm.trans hdata) hseparated x).1
  · intro hcondition record
    have hsuits := suits_of_entriesAccepted _ (entriesAccepted_of_reading hcondition haccepts)
    have hsuits' := suits_of_entriesAccepted _
      (entriesAccepted_of_reading hcondition (h.accepts_eq hreading ▸ haccepts))
    have hseparate := (Value.separated_map_iff.mp hseparated).1
    have hseparate' := (Value.separated_map_iff.mp (h.separated hseparated)).1
    have hforward := hforward (hreading.symm.trans hcondition)
    have hback := hback (hreading.symm.trans hcondition)
    constructor
    · exact Bool.eq_iff_iff.mpr ⟨holds_condition_of_alike hforward, holds_condition_of_alike hback⟩
    · exact Bool.eq_iff_iff.mpr ⟨holds_literal_of_alike hsuits hsuits' hseparate hseparate' hforward,
        holds_literal_of_alike hsuits' hsuits hseparate' hseparate hback⟩

/-- An operator holds of the same records with an argument that is rearranged. -/
theorem holds_eq {v w : Value} (h : Rearrangement reading v w) (hv : v.Separated) {operator : Operator}
    (hreading : operator.reading = reading) (haccepts : operator.accepts v) (record : Value) :
  operator.holds taken v record = operator.holds taken w record
  := by
  induction h generalizing operator record with
  | @entries _ entries others h =>
    apply holds_map_eq (.entries h) hv hreading haccepts
    · exact fun _ d hd => ⟨d, h.mem_iff.mpr hd, .refl d⟩
    · exact fun _ e he => ⟨e, h.mem_iff.mp he, .refl e⟩
  | @branches items others h =>
    apply Operator.holds_array_eq haccepts
    · exact fun hne => absurd hreading hne
    · exact fun hdata => nomatch hreading.symm.trans hdata
    · intro _ record
      constructor
      · rw [Bool.eq_iff_iff, List.all_eq_true, List.all_eq_true]
        simp only [h.mem_iff]
      · rw [Bool.eq_iff_iff, List.any_eq_true, List.any_eq_true]
        simp only [h.mem_iff]
  | @entry _ before key after v w h ih =>
    subst hreading
    have halike (hcondition : operator.reading = .condition) : Alike taken (key, v) (key, w) := by
      rw [hcondition] at ih
      have hsub := (Value.separated_map_iff.mp hv).2 (key, v) (by simp)
      have hentry := (entriesAccepted_iff _).mp (entriesAccepted_of_reading hcondition haccepts)
        (key, v) (by simp)
      constructor
      · rfl
      · apply entryHolds_congr
        exact fun record => ih hsub rfl hentry record
      · rintro (rfl : key = "$elemMatch") item
        apply ih hsub rfl
        rwa [← Operator.accepts_elements .any]
    apply holds_map_eq (.entry before key after h) hv rfl haccepts
    · exact fun hcondition => exists_alike_replace before after (halike hcondition)
    · exact fun hcondition => exists_alike_replace before after (halike hcondition).symm
  | @item _ before after v w h ih =>
    subst hreading
    have hsub := Value.separated_array_iff.mp hv v (by simp)
    apply Operator.holds_array_eq haccepts
    · intro hne x
      have hitem : operator.reading.item = .data := by
        cases hreading : operator.reading <;> simp_all [Reading.item]
      rw [hitem] at h
      have hwhole : Rearrangement .data (.array (before ++ v :: after)) (.array (before ++ w :: after)) :=
        .item before after h
      exact (hwhole.beq_iff rfl hv x).1
    · intro hdata
      rw [hdata] at h
      apply h.intersects_eq hsub
    · intro hbranches record
      rw [hbranches] at ih
      have hitem := (branchesAccepted_iff _).mp (branchesAccepted_of_reading hbranches haccepts) v (by simp)
      simp only [List.all_append, List.all_cons, List.any_append, List.any_cons, ih hsub rfl hitem,
        and_self]

end Rearrangement

end

/-! ### Rearranged queries -/

theorem Query.context_of_compile {e : Engine} {raw : Condition.Raw} {config : Entries} {q : Query}
    (h : Query.compile? e raw config = .ok q) :
  q.context = .new e config
  := by
  rw [compile?, ofCondition?] at h
  split at h
  · cases h
  · obtain ⟨m, hm, rfl⟩ := map_eq_ok_iff.mp h
    obtain ⟨n, -, rfl⟩ := map_eq_ok_iff.mp hm
    rfl

/-- A condition compiles exactly if its normal form is accepted as a condition and not too deep. -/
theorem exists_compile?_iff (raw : Condition.Raw) (config : Entries) :
  (∃ q, Query.compile? .core raw config = .ok q)
    ↔ (Normalizer.core.normalize raw).value.depth ≤ maxDepth
      ∧ Operator.condition.accepts (Normalizer.core.normalize raw).value
  := by
  rw [Query.compile?, Query.exists_ofCondition?_iff]
  apply and_congr_right
  intro _
  constructor
  · rintro ⟨n, hn⟩
    exact (suits_of_build hn).accepts (by simp) (by simp)
  · intro h
    exact exists_build? Engine.core_faultless.plain (by simp) (Operator.suits_of_accepts _ _ h)

/-- However often a value is rearranged, it keeps its kind and its depth, and an operator takes it as before
and holds of the same records. -/
theorem Rearrangement.run {reading : Reading} {v w : Value}
    (h : Relation.ReflTransGen (Rearrangement reading) v w) (hplain : v.Plain) (hv : v.Separated)
    {operator : Operator} (hreading : operator.reading = reading) :
  w.Plain ∧ w.Separated ∧ v.depth = w.depth ∧ operator.accepts v = operator.accepts w
    ∧ (operator.accepts v → ∀ taken record,
      operator.holds taken v record = operator.holds taken w record)
  := by
  induction h with
  | refl => exact ⟨hplain, hv, rfl, rfl, fun _ _ _ => rfl⟩
  | tail _ hstep ih =>
    obtain ⟨hplain, hv, hdepth, haccepts, hholds⟩ := ih
    refine ⟨hstep.plain hplain, hstep.separated hv, hdepth.trans hstep.depth_eq,
      haccepts.trans (hstep.accepts_eq hreading), ?_⟩
    intro h taken record
    rw [hholds h, hstep.holds_eq hv hreading (haccepts ▸ h)]

/-- Two plain conditions whose normal forms differ by the order of the entries of maps and of the branches of
connectives, at any depth, and in which no map has an entry that applies to an element under a key of its
condition on elements: both compile or neither does, and the two queries match the same records. -/
theorem rearranged_condition_matches {raw raw' : Condition.Raw}
    (hplain : (Normalizer.core.normalize raw).value.Plain)
    (hseparated : (Normalizer.core.normalize raw).value.Separated)
    (h : Relation.ReflTransGen (Rearrangement .condition) (Normalizer.core.normalize raw).value
      (Normalizer.core.normalize raw').value) (config config' : Entries) :
  ((∃ q, Query.compile? .core raw config = .ok q) ↔ ∃ q, Query.compile? .core raw' config' = .ok q)
    ∧ ∀ q q', Query.compile? .core raw config = .ok q → Query.compile? .core raw' config' = .ok q' →
      ∀ record, ∃ b, (q.isMatch record).map Prod.fst = .ok b ∧ (q'.isMatch record).map Prod.fst = .ok b
  := by
  have hreading : Operator.condition.reading = .condition := rfl
  obtain ⟨hplain', -, hdepth, haccepts, hholds⟩ := Rearrangement.run h hplain hseparated hreading
  constructor
  · rw [exists_compile?_iff, exists_compile?_iff, hdepth, haccepts]
  · intro q q' hq hq' record
    obtain ⟨-, haccepted⟩ := (exists_compile?_iff raw config).mp ⟨q, hq⟩
    have hvalue := congrArg Condition.value (Query.built_of_compile hq).1
    have hvalue' := congrArg Condition.value (Query.built_of_compile hq').1
    change q.condition.value = (Normalizer.core.normalize raw).value at hvalue
    change q'.condition.value = (Normalizer.core.normalize raw').value at hvalue'
    refine ⟨_, Query.isMatch_of_compile hq (hvalue ▸ hplain) record, ?_⟩
    rw [Query.isMatch_of_compile hq' (hvalue' ▸ hplain') record, hvalue, hvalue', hholds haccepted,
      Query.normalizeRecord, Query.normalizeRecord, Query.context_of_compile hq,
      Query.context_of_compile hq']
    rfl

/-- Branches in another order, and in one of them a field before the condition on elements beside it. -/
theorem rearranged_condition_matches_branches :
  ∃ q q', Query.compile? .core (.normalized ⟨.map [("$or", .array [.map [("a", .int 1)],
        .map [("b", .map [("$elemMatch", .map [("c", .int 1)]), ("d", .int 2)])]])]⟩) [] = .ok q
    ∧ Query.compile? .core (.normalized ⟨.map [("$or", .array
        [.map [("b", .map [("d", .int 2), ("$elemMatch", .map [("c", .int 1)])])],
        .map [("a", .int 1)]])]⟩) [] = .ok q'
    ∧ (q.isMatch (.map [("b", .array [.map [("c", .int 1), ("d", .int 2)]])])).map Prod.fst = .ok true
    ∧ (q'.isMatch (.map [("b", .array [.map [("c", .int 1), ("d", .int 2)]])])).map Prod.fst = .ok true
  := by
  have hbody : (Value.map [("c", .int 1)]).Plain := .map (List.forall_mem_singleton.mpr (.int 1))
  have hplain : (Value.map [("$or", .array [.map [("a", .int 1)],
      .map [("b", .map [("$elemMatch", .map [("c", .int 1)]), ("d", .int 2)])]])]).Plain := by
    refine .map (List.forall_mem_singleton.mpr (.array (List.forall_mem_cons.mpr ⟨?_, ?_⟩)))
    · exact .map (List.forall_mem_singleton.mpr (.int 1))
    · refine List.forall_mem_singleton.mpr (.map (List.forall_mem_singleton.mpr (.map ?_)))
      exact List.forall_mem_cons.mpr ⟨hbody, List.forall_mem_singleton.mpr (.int 2)⟩
  have hsingle (key : String) (v : Value) (hkey : key ≠ "$elemMatch") : Entries.Separate .core [(key, v)] :=
    ⟨List.nodup_singleton key, fun body hbody =>
      absurd (Prod.ext_iff.mp (List.mem_singleton.mp hbody)).1.symm hkey⟩
  have hseparate : Entries.Separate .core [("$elemMatch", .map [("c", .int 1)]), ("d", .int 2)] := by
    refine ⟨by decide, fun body hbody => ?_⟩
    obtain rfl : body = [("c", .int 1)] := by simpa using hbody
    decide
  have hint (n : Int64) : (Value.int n).Separated := .single rfl rfl
  have hseparated : (Value.map [("$or", .array [.map [("a", .int 1)],
      .map [("b", .map [("$elemMatch", .map [("c", .int 1)]), ("d", .int 2)])]])]).Separated := by
    refine .map (hsingle _ _ (by decide)) (List.forall_mem_singleton.mpr (.array
      (List.forall_mem_cons.mpr ⟨?_, List.forall_mem_singleton.mpr ?_⟩)))
    · exact .map (hsingle _ _ (by decide)) (List.forall_mem_singleton.mpr (hint 1))
    · refine .map (hsingle _ _ (by decide)) (List.forall_mem_singleton.mpr (.map hseparate
        (List.forall_mem_cons.mpr ⟨?_, List.forall_mem_singleton.mpr (hint 2)⟩)))
      exact .map (hsingle _ _ (by decide)) (List.forall_mem_singleton.mpr (hint 1))
  obtain ⟨q, hq⟩ : ∃ q, Query.compile? .core (.normalized ⟨.map [("$or", .array [.map [("a", .int 1)],
      .map [("b", .map [("$elemMatch", .map [("c", .int 1)]), ("d", .int 2)])]])]⟩) [] = .ok q :=
    ⟨_, rfl⟩
  have hrearranged : Relation.ReflTransGen (Rearrangement .condition) (.map [("$or", .array
      [.map [("a", .int 1)], .map [("b", .map [("$elemMatch", .map [("c", .int 1)]), ("d", .int 2)])]])])
      (.map [("$or", .array [.map [("b", .map [("d", .int 2), ("$elemMatch", .map [("c", .int 1)])])],
        .map [("a", .int 1)]])]) := by
    apply Relation.ReflTransGen.tail (.single (.entry [] "$or" [] (.branches (.swap _ _ _))))
    exact .entry [] "$or" [] (.item [] _ (.entry [] "b" [] (.entries (.swap _ _ _))))
  obtain ⟨hcompile, hmatch⟩ :=
    @rearranged_condition_matches (.normalized ⟨_⟩) (.normalized ⟨_⟩) hplain hseparated hrearranged [] []
  obtain ⟨q', hq'⟩ := hcompile.mp ⟨q, hq⟩
  have htrue : (q.isMatch (.map [("b", .array [.map [("c", .int 1), ("d", .int 2)]])])).map Prod.fst
      = .ok true := by
    cases hq
    set_option maxRecDepth 4000 in rfl
  obtain ⟨b, hb, hb'⟩ := hmatch q q' hq hq' (.map [("b", .array [.map [("c", .int 1), ("d", .int 2)]])])
  rw [htrue] at hb
  cases hb
  exact ⟨q, q', hq, hq', htrue, hb'⟩

end DocQuery
