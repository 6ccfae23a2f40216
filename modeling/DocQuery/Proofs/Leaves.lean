import DocQuery.Proofs.NormalForms

/-!
# The leaves of merged maps

A path of keys leads down from a map to the maps in it, and to a leaf, which is no map. When a second map is
merged into a first one, all leaves of the second are kept. A leaf of the first is kept where the second is
open: it holds nothing at the end of the path, and nothing but maps on the way there. In maps that both
hold, the keys of the first one come first, in their order, and then the new keys of the second one in theirs.
-/

namespace DocQuery

/-! ### One level -/

namespace Entries

/-- Under a key of the second map there is what its value makes of the old one, and under every other key
there is what was there before. -/
theorem get?_merge {entries new : Entries} (h : new.keys.Nodup) (key : String) :
  (entries.merge new).get? key = match new.get? key with
    | none => entries.get? key
    | some v => some (v.mergedInto (entries.get? key))
  := by
  induction new generalizing entries with
  | nil => rw [merge, get?_nil]
  | cons e rest ih =>
    obtain ⟨k, v⟩ := e
    obtain ⟨hnew : k ∉ keys rest, hrest⟩ := List.nodup_cons.mp h
    rw [merge, ih hrest, get?_cons]
    by_cases hkey : key = k
    · subst hkey
      rw [if_pos rfl, get?_of_notMem hnew]
      dsimp only
      rw [get?_insert, if_pos rfl]
    · rw [if_neg hkey, get?_insert, if_neg hkey]

/-- The old keys come first, and then those that are new. -/
theorem keys_merge {entries new : Entries} (h : new.keys.Nodup) :
  (entries.merge new).keys = entries.keys ++ new.keys.filter fun key => key ∉ entries.keys
  := by
  induction new generalizing entries with
  | nil => rw [merge, show keys [] = [] from rfl, List.filter_nil, List.append_nil]
  | cons e rest ih =>
    obtain ⟨key, v⟩ := e
    obtain ⟨hnew : key ∉ keys rest, hrest⟩ := List.nodup_cons.mp h
    rw [merge, ih hrest, keys_insert, keys_cons]
    by_cases hkey : key ∈ entries.keys
    · rw [if_pos hkey, List.filter_cons_of_neg (by simpa using hkey)]
    · have hlater : (keys rest).filter (fun k => k ∉ entries.keys ++ [key])
          = (keys rest).filter fun k => k ∉ entries.keys := by
        apply List.filter_congr
        intro k hk
        simp [ne_of_mem_of_not_mem hk hnew]
      rw [if_neg hkey, hlater, List.filter_cons_of_pos (by simpa using hkey), List.append_assoc,
        List.singleton_append]

end Entries

/-- A map that meets a map is merged into it, and every other value takes the place of the old one. -/
theorem Value.mergedInto_cases (v : Value) (old : Option Value) :
  (∃ m m', old = some (.map m) ∧ v = .map m' ∧ v.mergedInto old = .map (Entries.merge m m'))
    ∨ v.mergedInto old = v ∧ (v.isMap → ∀ w ∈ old, ¬w.isMap)
  := by
  cases v with
  | map m' =>
    cases old with
    | none => exact .inr ⟨rfl, by simp⟩
    | some w =>
      cases w with
      | map m => exact .inl ⟨m, m', rfl, rfl, rfl⟩
      | _ => exact .inr ⟨rfl, by rintro - _ ⟨⟩ ⟨⟩⟩
  | _ => exact .inr ⟨rfl, by rintro ⟨⟩⟩

/-! ### Paths of keys -/

namespace Value

/-- The value at the end of a path of keys, which leads through maps. -/
def along? : List String → Value → Option Value
  | [], v => some v
  | key :: path, v => v.asMap?.bind fun entries => (entries.get? key).bind (along? path)

theorem along?_cons_map (entries : Entries) (key : String) (path : List String) :
  (map entries).along? (key :: path) = (entries.get? key).bind (along? path)
  := rfl

/-- From a value that is no map only the empty path leads anywhere. -/
theorem eq_nil_of_along? {v x : Value} (hv : ¬v.isMap) {path : List String} (h : v.along? path = some x) :
  path = []
  := by
  cases path with
  | nil => rfl
  | cons key path =>
    cases v with
    | map entries => exact absurd rfl hv
    | _ => cases h

/-- What holds throughout a value holds throughout what it holds along a path. -/
theorem Throughout.along? {K : List String → Prop} {H : Nat → Host → Prop} {v x : Value}
    (hv : v.Throughout K H) {path : List String} (h : v.along? path = some x) :
  x.Throughout K H
  := by
  induction path generalizing v with
  | nil =>
    cases h
    exact hv
  | cons key path ih =>
    cases v with
    | map entries =>
      rw [along?_cons_map] at h
      obtain ⟨w, hw, h⟩ := Option.bind_eq_some_iff.mp h
      apply ih ((throughout_map_iff.mp hv).2 _ (Entries.mem_of_get?_eq_some hw)) h
    | _ => cases h

/-- The value is open along the path: it holds nothing at its end, and nothing but maps before. -/
def Open (path : List String) (v : Value) : Prop :=
  v.along? path = none ∧ ∀ start, start <+: path → start ≠ path → ∀ x, v.along? start = some x → x.isMap

theorem not_open_nil (v : Value) :
  ¬v.Open []
  := fun h => nomatch h.1

/-- A value that is no map is open along no path. -/
theorem Open.isMap {v : Value} {path : List String} (h : v.Open path) :
  v.isMap
  := by
  cases path with
  | nil => exact absurd h v.not_open_nil
  | cons key path => exact h.2 [] List.nil_prefix (List.cons_ne_nil key path).symm v rfl

/-- A map is open along a path if what it holds under the first key is open along the rest. -/
theorem open_cons_iff {entries : Entries} {key : String} {path : List String} :
  (map entries).Open (key :: path) ↔ ∀ v, entries.get? key = some v → v.Open path
  := by
  constructor
  · rintro ⟨hend, hstart⟩ v hv
    rw [along?_cons_map, hv] at hend
    refine ⟨hend, fun start hprefix hne x hx => ?_⟩
    apply hstart (key :: start) ((List.prefix_cons_inj key).mpr hprefix)
    · exact fun h => hne (List.cons.inj h).2
    · rw [along?_cons_map, hv]
      exact hx
  · intro h
    constructor
    · cases hget : entries.get? key with
      | none => rw [along?_cons_map, hget, Option.bind_none]
      | some v => rw [along?_cons_map, hget, Option.bind_some, (h v hget).1]
    · intro start hprefix hne x hx
      cases start with
      | nil =>
        cases hx
        rfl
      | cons k start =>
        obtain ⟨rfl, hrest⟩ := List.cons_prefix_cons.mp hprefix
        rw [along?_cons_map] at hx
        obtain ⟨v, hv, hx⟩ := Option.bind_eq_some_iff.mp hx
        apply (h v hv).2 start hrest (fun h => hne (congrArg _ h)) x hx

/-! ### Leaves -/

/-- A merged map has a leaf that the second map has, and a leaf of the first map along a path along which
the second one is open. -/
theorem along?_merge_iff {old new : Entries} (hnew : (map new).Distinct) {path : List String} {x : Value}
    (hx : ¬x.isMap) :
  (map (old.merge new)).along? path = some x
    ↔ (map new).along? path = some x ∨ (map old).along? path = some x ∧ (map new).Open path
  := by
  induction path generalizing old new with
  | nil =>
    have hnone : ∀ entries : Entries, (map entries).along? [] ≠ some x := by
      rintro entries ⟨⟩
      exact hx rfl
    simp [hnone]
  | cons key path ih =>
    obtain ⟨hkeys, hvalues⟩ := throughout_map_iff.mp hnew
    rw [along?_cons_map, along?_cons_map, along?_cons_map, open_cons_iff, Entries.get?_merge hkeys]
    cases hget : new.get? key with
    | none => simp
    | some v =>
      have hv : v.Distinct := hvalues _ (Entries.mem_of_get?_eq_some hget)
      simp only [Option.bind_some, Option.some.injEq, forall_eq']
      obtain ⟨m, m', hm, rfl, hmerged⟩ | ⟨hmerged, hnomap⟩ := v.mergedInto_cases (old.get? key)
      · rw [hmerged, hm, Option.bind_some]
        apply ih hv
      · rw [hmerged]
        apply (or_iff_left _).symm
        rintro ⟨hleaf, hopen⟩
        obtain ⟨w, hw, hleaf⟩ := Option.bind_eq_some_iff.mp hleaf
        obtain rfl := eq_nil_of_along? (hnomap hopen.isMap w hw) hleaf
        apply v.not_open_nil hopen

/-- Where both maps hold a map, the merged map holds their merge. -/
theorem along?_merge_of_maps {old new m m' : Entries} (hnew : (map new).Distinct) {path : List String}
    (hm : (map old).along? path = some (map m)) (hm' : (map new).along? path = some (map m')) :
  (map (old.merge new)).along? path = some (map (m.merge m'))
  := by
  induction path generalizing old new with
  | nil =>
    cases hm
    cases hm'
    rfl
  | cons key path ih =>
    obtain ⟨hkeys, hvalues⟩ := throughout_map_iff.mp hnew
    rw [along?_cons_map] at hm hm'
    obtain ⟨v, hv, hm⟩ := Option.bind_eq_some_iff.mp hm
    obtain ⟨v', hv', hm'⟩ := Option.bind_eq_some_iff.mp hm'
    have hisMap : ∀ {v : Value} {m : Entries}, v.along? path = some (map m) → v.isMap := by
      intro v m h
      by_contra hv
      obtain rfl := eq_nil_of_along? hv h
      cases h
      exact hv rfl
    obtain ⟨k, k', hk, rfl, hmerged⟩ | ⟨-, hnomap⟩ := v'.mergedInto_cases (old.get? key)
    · cases hv.symm.trans hk
      rw [along?_cons_map, Entries.get?_merge hkeys, hv']
      dsimp only
      rw [hmerged, Option.bind_some]
      apply ih (hvalues _ (Entries.mem_of_get?_eq_some hv')) hm hm'
    · exact absurd (hisMap hm) (hnomap (hisMap hm') v hv)

end Value

/-- Merging a second map into a first one keeps the leaves of the second, and those leaves of the first at
whose paths the second one holds nothing and before whose paths end it holds nothing but maps. At every path
at which both hold a map, the merged map has the keys of the first in their order and behind them those that
only the second has, in theirs. -/
theorem merged_leaves_and_keys {old new : Entries} (hnew : (Value.map new).Distinct) :
  (∀ (path : List String) (x : Value), ¬x.isMap →
      ((Value.map (old.merge new)).along? path = some x
        ↔ (Value.map new).along? path = some x
          ∨ (Value.map old).along? path = some x ∧ (Value.map new).along? path = none
            ∧ ∀ start, start <+: path → start ≠ path →
                ∀ y, (Value.map new).along? start = some y → y.isMap))
    ∧ ∀ (path : List String) (m m' : Entries), (Value.map old).along? path = some (.map m) →
      (Value.map new).along? path = some (.map m') →
      ∃ merged : Entries, (Value.map (old.merge new)).along? path = some (.map merged)
        ∧ merged.keys = m.keys ++ m'.keys.filter fun key => key ∉ m.keys
  := by
  constructor
  · intro path x hx
    apply Value.along?_merge_iff hnew hx
  · intro path m m' hm hm'
    obtain ⟨hkeys, -⟩ := Value.throughout_map_iff.mp (hnew.along? hm')
    exact ⟨m.merge m', Value.along?_merge_of_maps hnew hm hm', Entries.keys_merge hkeys⟩

/-- Of the leaves that meet something else in the second map none is kept, and the leaf beside them is. -/
theorem merged_leaves_and_keys_conflict :
  ∃ old new : Entries,
    old = [("a", .map [("p", .int 1), ("q", .map [("r", .int 2)])]), ("b", .int 3)]
      ∧ new = [("c", .int 4), ("a", .map [("s", .int 5), ("q", .int 6)]), ("b", .map [])]
      ∧ (Value.map new).Distinct
      ∧ (Value.map (old.merge new)).along? ["a", "p"] = some (.int 1)
      ∧ (Value.map (old.merge new)).along? ["a", "q", "r"] ≠ some (.int 2)
      ∧ (Value.map (old.merge new)).along? ["b"] ≠ some (.int 3)
      ∧ ∃ merged : Entries, (Value.map (old.merge new)).along? ["a"] = some (.map merged)
        ∧ merged.keys = ["p", "q", "s"]
  := by
  refine ⟨_, _, rfl, rfl, ?_⟩
  generalize hold : ([("a", .map [("p", .int 1), ("q", .map [("r", .int 2)])]), ("b", .int 3)] : Entries)
    = old
  generalize hnew : ([("c", .int 4), ("a", .map [("s", .int 5), ("q", .int 6)]), ("b", .map [])] : Entries)
    = new
  have hdistinct : (Value.map new).Distinct := by
    rw [← hnew]
    simp [Value.Distinct, Value.throughout_map_iff, Entries.keys, Value.Throughout.int]
  obtain ⟨hleaves, hkeys⟩ := @merged_leaves_and_keys old new hdistinct
  have hopen : (Value.map new).Open ["a", "p"] := by
    rw [← hnew, Value.open_cons_iff]
    rintro _ ⟨⟩
    rw [Value.open_cons_iff]
    rintro _ ⟨⟩
  refine ⟨hdistinct, (hleaves ["a", "p"] (.int 1) (by decide)).mpr (.inr ⟨?_, hopen⟩), ?_, ?_, ?_⟩
  · rw [← hold]
    rfl
  · intro h
    obtain h | ⟨-, -, hmaps⟩ := (hleaves ["a", "q", "r"] (.int 2) (by decide)).mp h
    · rw [← hnew] at h
      cases h
    · have hleaf : (Value.map new).along? ["a", "q"] = some (.int 6) := by
        rw [← hnew]
        rfl
      cases hmaps ["a", "q"] (by decide) (by decide) _ hleaf
  · intro h
    obtain h | ⟨-, hnone, -⟩ := (hleaves ["b"] (.int 3) (by decide)).mp h
    · rw [← hnew] at h
      cases h
    · rw [← hnew] at hnone
      cases hnone
  · obtain ⟨merged, hmerged, hmergedKeys⟩ := hkeys ["a"] _ _ (by rw [← hold]; rfl) (by rw [← hnew]; rfl)
    exact ⟨merged, hmerged, hmergedKeys⟩

end DocQuery
