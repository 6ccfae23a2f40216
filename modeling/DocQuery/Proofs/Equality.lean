import DocQuery.Proofs.NormalForms
import Mathlib.Data.Finset.Max

/-!
# Equality

Arrays are equal item by item, and maps of the same size if each entry of the one has an equal entry in the
other. So plain data is equal to itself. It is equal to its normal form exactly if no key in it has a dot:
the keys of a normal form are what paths start with, and a path with a dot starts with something shorter.
-/

namespace DocQuery

/-! ### Equal arrays and maps -/

theorem Value.beq_array_iff {items others : List Value} :
  Value.array items == .array others ↔ List.Forall₂ (fun v w => v == w) items others
  := by
  change sameItems items others ↔ _
  induction items generalizing others with
  | nil => cases others <;> simp [sameItems]
  | cons v rest ih =>
    cases others with
    | nil => simp [sameItems]
    | cons w others =>
      rw [sameItems, Bool.and_eq_true, ih, List.forall₂_cons]
      rfl

theorem Value.beq_map_iff {entries others : Entries} :
  Value.map entries == .map others
    ↔ entries.length = others.length ∧ ∀ e ∈ entries, ∃ w, others.get? e.1 = some w ∧ e.2 == w
  := by
  have hentries : sameEntries entries others
      ↔ ∀ e ∈ entries, ∃ w, others.get? e.1 = some w ∧ e.2 == w := by
    induction entries with
    | nil => simp [sameEntries]
    | cons e rest ih =>
      obtain ⟨key, v⟩ := e
      rw [sameEntries, Bool.and_eq_true, ih, List.forall_mem_cons, Entries.get?]
      apply and_congr_left'
      cases others.lookup key with
      | none => simp
      | some w =>
        simp only [Option.some.injEq, exists_eq_left']
        rfl
  change (entries.length == others.length && sameEntries entries others) = true ↔ _
  rw [Bool.and_eq_true, beq_iff_eq, hentries]

namespace Entries

theorem get?_of_mem {entries : Entries} (h : entries.keys.Nodup) {e : String × Value} (he : e ∈ entries) :
  entries.get? e.1 = some e.2
  := by
  induction entries with
  | nil => cases he
  | cons d rest ih =>
    obtain ⟨k, v⟩ := d
    obtain ⟨hnew : k ∉ keys rest, hrest⟩ := List.nodup_cons.mp h
    rw [get?_cons]
    obtain rfl | he := List.mem_cons.mp he
    · apply if_pos rfl
    · have hkey : e.1 ∈ keys rest := List.mem_map_of_mem he
      rw [if_neg (ne_of_mem_of_not_mem hkey hnew), ih hrest he]

/-- A map with distinct keys is equal to what a change of its values makes of it, if each of its values is
equal to what it becomes. -/
theorem beq_map_values_iff {entries : Entries} (h : entries.keys.Nodup) (f : Value → Value) :
  Value.map entries == .map (entries.map fun e => (e.1, f e.2)) ↔ ∀ e ∈ entries, e.2 == f e.2
  := by
  have hkeys : keys (entries.map fun e => (e.1, f e.2)) = entries.keys := by
    rw [keys, List.map_map]
    rfl
  rw [Value.beq_map_iff, List.length_map, and_iff_right rfl]
  apply forall₂_congr
  intro e he
  have hget := get?_of_mem (hkeys ▸ h) (List.mem_map_of_mem he)
  rw [hget]
  simp

end Entries

/-- Plain data is equal to itself. -/
theorem Value.Plain.beq_self {v : Value} (h : v.Plain) (hkeys : v.Distinct) :
  v == v
  := by
  induction h with
  | null => rfl
  | bool b => apply beq_self_eq_true b
  | int n => apply beq_self_eq_true n
  | string s => apply beq_self_eq_true s
  | array _ ih =>
    rw [Distinct, throughout_array_iff] at hkeys
    rw [beq_array_iff, List.forall₂_same]
    exact fun v hv => ih v hv (hkeys v hv)
  | @map entries _ ih =>
    rw [Distinct, throughout_map_iff] at hkeys
    have hself := (Entries.beq_map_values_iff hkeys.1 id).mpr fun e he => ih e he (hkeys.2 e he)
    simpa using hself

/-! ### Equal normal forms -/

/-- What a path starts with is no longer than the path, and shorter if the path has a dot. -/
theorem length_start_of_pathSegments {segment cs start : List Char} {rest : List (List Char)}
    (h : pathSegments segment cs = start :: rest) :
  start.length ≤ segment.length + cs.length
    ∧ ('.' ∈ cs → start.length < segment.length + cs.length)
  := by
  fun_induction pathSegments segment cs with
  | case1 segment =>
    cases h
    simp
  | case2 segment cs ih =>
    have hle := (ih h).1
    simp only [List.length_cons] at hle ⊢
    omega
  | case3 segment c cs =>
    cases h
    simp only [List.length_reverse, List.length_cons]
    omega
  | case4 segment c cs _ hdot ih =>
    obtain ⟨hle, hlt⟩ := ih h
    simp only [List.length_cons] at hle hlt ⊢
    refine ⟨by omega, fun hmem => ?_⟩
    have hlt := hlt ((List.mem_cons.mp hmem).resolve_left (Ne.symm hdot))
    omega

/-- If what a path starts with has a dot, then so has the path, and it is longer. -/
theorem length_lt_of_splitPath {path start : String} (h : (splitPath path).head? = some start)
    (hdot : '.' ∈ start.toList) :
  '.' ∈ path.toList ∧ start.length < path.length
  := by
  obtain ⟨cs, rest, hsegments⟩ := List.exists_cons_of_ne_nil (pathSegments_ne_nil [] path.toList)
  rw [splitPath, hsegments] at h
  cases h
  rw [String.toList_ofList] at hdot
  have hpath : '.' ∈ path.toList := by
    by_contra hnone
    rw [pathSegments_of_notMem hnone] at hsegments
    cases hsegments
    exact hnone hdot
  have hlt := (length_start_of_pathSegments hsegments).2 hpath
  rw [List.length_nil, Nat.zero_add, String.length_toList] at hlt
  refine ⟨hpath, ?_⟩
  rwa [String.length_ofList]

/-- If each of the keys is what one of them, as a path, starts with, then none of them has a dot: a
longest key with a dot would be what a longer one with a dot starts with. -/
theorem notMem_of_starts {keys : List String}
    (h : ∀ key ∈ keys, ∃ path ∈ keys, (splitPath path).head? = some key) :
  ∀ key ∈ keys, '.' ∉ key.toList
  := by
  intro key hkey hdot
  obtain ⟨longest, hlongest, hmax⟩ := Finset.exists_max_image
    (keys.toFinset.filter fun key => '.' ∈ key.toList) String.length
    ⟨key, by simp [hkey, hdot]⟩
  simp only [Finset.mem_filter, List.mem_toFinset] at hlongest hmax
  obtain ⟨path, hpath, hstart⟩ := h longest hlongest.1
  obtain ⟨hdots, hlt⟩ := length_lt_of_splitPath hstart hlongest.2
  apply Nat.not_le_of_lt hlt
  apply hmax path ⟨hpath, hdots⟩

namespace Normalizer

variable {z : Normalizer}

/-- A key of a normal form is what one of the paths starts with. -/
theorem mem_keys_normalizeEntries {entries merged : Entries} {key : String}
    (h : key ∈ (z.normalizeEntries merged entries).keys) :
  key ∈ merged.keys ∨ ∃ path ∈ entries.keys, (splitPath path).head? = some key
  := by
  induction entries generalizing merged with
  | nil => exact .inl h
  | cons e rest ih =>
    obtain ⟨path, v⟩ := e
    rw [normalizeEntries] at h
    obtain h | ⟨path', hpath', hstart⟩ := ih h
    · apply ((Entries.extends_merge merged _).keys key h).imp_right
      intro hkey
      obtain ⟨segment, segments, hsplit, hexpand⟩ := exists_expandPath path (z.normalizeValue v)
      rw [hexpand] at hkey
      obtain rfl := List.mem_singleton.mp hkey
      exact ⟨path, List.mem_cons_self, by rw [hsplit, List.head?_cons]⟩
    · exact .inr ⟨path', List.mem_cons_of_mem _ hpath', hstart⟩

/-- A map that is equal to its normal form has no dot in a key. -/
theorem notMem_of_beq_normalizeValue {entries : Entries}
    (h : Value.map entries == z.normalizeValue (.map entries)) :
  ∀ key ∈ entries.keys, '.' ∉ key.toList
  := by
  rw [normalizeValue, Value.beq_map_iff] at h
  apply notMem_of_starts
  intro key hkey
  obtain ⟨e, he, rfl⟩ := List.mem_map.mp hkey
  obtain ⟨w, hget, -⟩ := h.2 e he
  have hnormal : e.1 ∈ (z.normalizeEntries [] entries).keys := by
    rw [← Entries.has_iff_mem_keys, Entries.has, hget, Option.isSome_some]
  apply (mem_keys_normalizeEntries hnormal).resolve_left List.not_mem_nil

/-- Plain data is equal to its normal form exactly if no key in it has a dot. -/
theorem beq_normalizeValue_iff {v : Value} (hv : v.Plain) (hkeys : v.Distinct) :
  v == z.normalizeValue v ↔ v.Undotted
  := by
  induction hv with
  | null => exact iff_of_true rfl .null
  | bool b => exact iff_of_true (beq_self_eq_true b) (.bool b)
  | int n => exact iff_of_true (beq_self_eq_true n) (.int n)
  | string s => exact iff_of_true (beq_self_eq_true s) (.string s)
  | array _ ih =>
    rw [Value.Distinct, Value.throughout_array_iff] at hkeys
    rw [normalizeValue, normalizeItems_eq, Value.beq_array_iff, List.forall₂_map_right_iff,
      List.forall₂_same, Value.Undotted, Value.throughout_array_iff]
    apply forall₂_congr
    exact fun v hv => ih v hv (hkeys v hv)
  | @map entries _ ih =>
    rw [Value.Distinct, Value.throughout_map_iff] at hkeys
    have hvalues (hdots : ∀ key ∈ entries.keys, '.' ∉ key.toList) :
        Value.map entries == z.normalizeValue (.map entries) ↔ ∀ e ∈ entries, e.2.Undotted := by
      rw [normalizeValue_map hkeys.1 hdots, Entries.beq_map_values_iff hkeys.1]
      apply forall₂_congr
      exact fun e he => ih e he (hkeys.2 e he)
    rw [Value.Undotted, Value.throughout_map_iff]
    constructor
    · intro h
      have hdots := notMem_of_beq_normalizeValue h
      exact ⟨hdots, (hvalues hdots).mp h⟩
    · rintro ⟨hdots, h⟩
      apply (hvalues hdots).mpr h

end Normalizer

/-- Plain data has no host value that could be converted. -/
theorem Value.Plain.converted {v : Value} (h : v.Plain) (hkeys : v.Distinct) (z : Normalizer) :
  z.Converted v
  := by
  induction h with
  | null => exact .null
  | bool b => exact .bool b
  | int n => exact .int n
  | string s => exact .string s
  | array _ ih =>
    rw [Distinct, throughout_array_iff] at hkeys
    exact .array fun v hv => ih v hv (hkeys v hv)
  | map _ ih =>
    rw [Distinct, throughout_map_iff] at hkeys
    exact .map hkeys.1 fun e he => ih e he (hkeys.2 e he)

end DocQuery
