import DocQuery.Proofs.PlainConditions
import DocQuery.Proofs.Separation

/-!
# Extending conditions

Normalizing a condition folds its pairs into a map, one after the other. A map in normal form, pair by
pair, folds into itself, so whether a condition is normalized before or after it is extended makes no
difference. A condition that is no map becomes the only branch of a conjunction, and so it is refused,
unless one of the pairs puts other branches in its place.
-/

namespace DocQuery

/-! ### Folding entries into a map -/

namespace Entries

theorem merge_singleton (entries : Entries) (key : String) (v : Value) :
  entries.merge [(key, v)] = entries.insert key (v.mergedInto (entries.get? key))
  := rfl

/-- A value under a new key is put in at the end. -/
theorem insert_of_notMem {entries : Entries} {key : String} (h : key ∉ entries.keys) (v : Value) :
  entries.insert key v = entries ++ [(key, v)]
  := by
  induction entries with
  | nil => rfl
  | cons e rest ih =>
    obtain ⟨k, w⟩ := e
    rw [keys_cons, List.mem_cons, not_or] at h
    rw [insert, if_neg (Ne.symm h.1), ih h.2, List.cons_append]

theorem get?_of_notMem {entries : Entries} {key : String} (h : key ∉ entries.keys) :
  entries.get? key = none
  := by
  rw [← Option.not_isSome_iff_eq_none]
  exact fun hsome => h (has_iff_mem_keys.mp hsome)

theorem merge_singleton_of_notMem {entries : Entries} {key : String} (h : key ∉ entries.keys)
    (v : Value) :
  entries.merge [(key, v)] = entries ++ [(key, v)]
  := by
  have hv : v.mergedInto none = v := by
    cases v <;> rfl
  rw [merge_singleton, get?_of_notMem h, hv, insert_of_notMem h]

/-- Entries under distinct new keys are folded into a map by appending them. -/
theorem foldl_merge_of_nodup {α : Type} {part : α → Entries} {entry : α → String × Value}
    {items : List α} (hpart : ∀ x ∈ items, part x = [entry x]) {entries : Entries}
    (h : (entries ++ items.map entry).keys.Nodup) :
  items.foldl (fun merged x => merged.merge (part x)) entries = entries ++ items.map entry
  := by
  induction items generalizing entries with
  | nil => rw [List.map_nil, List.append_nil, List.foldl_nil]
  | cons x rest ih =>
    obtain ⟨hx, hrest⟩ := List.forall_mem_cons.mp hpart
    have hnew : (entry x).1 ∉ entries.keys := by
      rw [keys, List.map_append, List.nodup_append] at h
      exact fun hmem => h.2.2 _ hmem _ (by simp) rfl
    have hmerge : entries.merge (part x) = entries ++ [entry x] := by
      rw [hx]
      apply merge_singleton_of_notMem hnew
    have happend : entries ++ (x :: rest).map entry = (entries ++ [entry x]) ++ rest.map entry := by
      rw [List.map_cons, List.append_assoc, List.singleton_append]
    rw [happend] at h ⊢
    rw [List.foldl_cons, hmerge, ih hrest h]

end Entries

/-- A path with a value stands for one entry, under what the path starts with. -/
theorem exists_expandPath (path : String) (v : Value) :
  ∃ segment rest, splitPath path = segment :: rest ∧ expandPath path v = [(segment, nest rest v)]
  := by
  obtain ⟨segment, rest, hsplit⟩ := List.exists_cons_of_ne_nil (splitPath_ne_nil path)
  exact ⟨segment, rest, hsplit, by rw [expandPath, hsplit]⟩

namespace Normalizer

open Condition

variable (z : Normalizer)

/-- A key with a value stands for one entry. -/
theorem exists_normalizePair (key : Key) (v : Value) :
  ∃ k w, z.normalizePair key v = [(k, w)]
  := by
  have hpath : ∀ path w, ∃ k x, expandPath path w = [(k, x)] := by
    intro path w
    obtain ⟨segment, rest, -, hexpand⟩ := exists_expandPath path w
    exact ⟨segment, nest rest w, hexpand⟩
  cases key with
  | path path => apply hpath
  | operator key => apply hpath
  | normalized key => exact ⟨key, v, rfl⟩

/-- The given entries merged with what keys with values stand for, in order. -/
def mergeInto (merged : Entries) (pairs : List (Key × Value)) : Entries :=
  pairs.foldl (fun merged (key, v) => merged.merge (z.normalizePair key v)) merged

theorem mergeInto_cons (merged : Entries) (p : Key × Value) (rest : List (Key × Value)) :
  z.mergeInto merged (p :: rest) = z.mergeInto (merged.merge (z.normalizePair p.1 p.2)) rest
  := rfl

theorem mergePairs_append (pairs further : List (Key × Value)) :
  z.mergePairs (pairs ++ further) = z.mergeInto (z.mergePairs pairs) further
  := List.foldl_append

/-- Normalizing the entries of a map is merging them as paths with values. -/
theorem normalizeEntries_eq_mergeInto (entries merged : Entries) :
  z.normalizeEntries merged entries
    = z.mergeInto merged (entries.map fun (path, v) => (.path path, v))
  := by
  induction entries generalizing merged with
  | nil => rfl
  | cons e rest ih =>
    rw [normalizeEntries, ih]
    rfl

/-- What pairs are folded into has distinct keys. -/
theorem nodup_keys_mergePairs (pairs : List (Key × Value)) :
  (z.mergePairs pairs).keys.Nodup
  := by
  apply List.foldlRecOn (motive := fun merged : Entries => merged.keys.Nodup)
  · exact List.nodup_nil
  · intro merged hmerged p _
    apply (Entries.extends_merge merged _).nodup hmerged

/-- The entries of a map in normal form are folded into the same map. -/
theorem mergePairs_normalized {entries : Entries} (h : entries.keys.Nodup) :
  z.mergePairs (entries.map fun (key, v) => (.normalized key, v)) = entries
  := by
  have hpart : ∀ e ∈ entries, z.normalizePair (.normalized e.1) e.2 = [id e] := fun _ _ => rfl
  rw [mergePairs, List.foldl_map]
  apply (Entries.foldl_merge_of_nodup hpart _).trans
  · rw [List.nil_append, List.map_id]
  · rwa [List.nil_append, List.map_id]

end Normalizer

/-! ### Extended conditions -/

namespace Condition.Raw

/-- Adds keys with values, one after the other. -/
def extendedAll (raw : Raw) (further : List (Key × Value)) : Raw :=
  further.foldl (fun raw (key, v) => raw.extended key v) raw

/-- The condition is given by keys with values or by a map. -/
inductive IsKeyed : Raw → Prop
  | pairs (ps : List (Key × Value)) : IsKeyed (.pairs ps)
  | map (entries : Entries) : IsKeyed (.value (.map entries))

theorem toPairs_extendedAll (raw : Raw) (further : List (Key × Value)) :
  (raw.extendedAll further).toPairs = raw.toPairs ++ further
  := by
  induction further generalizing raw with
  | nil => rw [List.append_nil, extendedAll, List.foldl_nil]
  | cons p rest ih =>
    change ((raw.extended p.1 p.2).extendedAll rest).toPairs = _
    rw [ih, extended, toPairs, List.append_assoc, List.singleton_append]

/-- An extended condition is given by its keys with values. -/
theorem extendedAll_eq_pairs (raw : Raw) {further : List (Key × Value)} (h : further ≠ []) :
  raw.extendedAll further = .pairs (raw.toPairs ++ further)
  := by
  obtain ⟨last, p, rfl⟩ := List.eq_nil_or_concat further |>.resolve_left h
  have hlast : raw.extendedAll (last ++ [p]) = (raw.extendedAll last).extended p.1 p.2 := by
    rw [extendedAll, List.foldl_append]
    rfl
  rw [List.concat_eq_append, hlast, extended, toPairs_extendedAll, List.append_assoc]

end Condition.Raw

namespace Normalizer

open Condition

variable (z : Normalizer)

/-- The normal form of a condition that is given by keys with values is what these are folded into. -/
theorem normalize_eq_mergePairs {raw : Raw} (h : raw.IsKeyed) :
  z.normalize raw = ⟨.map (z.mergePairs raw.toPairs)⟩
  := by
  cases h with
  | pairs ps => rfl
  | map entries =>
    rw [normalize, normalizeValue, normalizeEntries_eq_mergeInto]
    rfl

theorem normalize_extendedAll (raw : Raw) {further : List (Key × Value)} (h : further ≠ []) :
  z.normalize (raw.extendedAll further) = ⟨.map (z.mergePairs (raw.toPairs ++ further))⟩
  := by
  rw [raw.extendedAll_eq_pairs h, normalize]

/-- A condition can be extended before or after it is normalized: the normal form is the same. -/
theorem normalize_extendedAll_normalized {raw : Raw} (h : raw.IsKeyed)
    (further : List (Key × Value)) :
  z.normalize ((Raw.normalized (z.normalize raw)).extendedAll further)
    = z.normalize (raw.extendedAll further)
  := by
  by_cases hnil : further = []
  · subst hnil
    rfl
  · have hfolded : z.mergePairs (Raw.normalized ⟨.map (z.mergePairs raw.toPairs)⟩).toPairs
        = z.mergePairs raw.toPairs :=
      z.mergePairs_normalized (z.nodup_keys_mergePairs _)
    rw [z.normalize_extendedAll _ hnil, z.normalize_extendedAll _ hnil, z.normalize_eq_mergePairs h,
      z.mergePairs_append, hfolded, z.mergePairs_append]

/-- A condition with a dot in a key, and a field that a path reaches into and a later pair replaces. -/
theorem normalize_extendedAll_normalized_dots :
  core.normalize ((Raw.normalized (core.normalize
      (.value (.map [("a\\.b", .int 1), ("c.d", .int 2)])))).extendedAll
        [(.path "a.b", .int 3), (.operator ⟨"c.e", "$gt"⟩, .int 4), (.normalized "a", .null)])
    = core.normalize ((Raw.value (.map [("a\\.b", .int 1), ("c.d", .int 2)])).extendedAll
        [(.path "a.b", .int 3), (.operator ⟨"c.e", "$gt"⟩, .int 4), (.normalized "a", .null)])
    ∧ (core.normalize ((Raw.value (.map [("a\\.b", .int 1), ("c.d", .int 2)])).extendedAll
        [(.path "a.b", .int 3), (.operator ⟨"c.e", "$gt"⟩, .int 4),
          (.normalized "a", .null)])).value
      = .map [("a.b", .int 1), ("c", .map [("d", .int 2), ("e", .map [("$gt", .int 4)])]), ("a", .null)]
  := ⟨core.normalize_extendedAll_normalized (.map _) _, rfl⟩

end Normalizer

/-! ### Conditions that are no maps -/

/-- Conditions with the same normal form compile alike. -/
theorem Query.compile?_congr {e : Engine} {raw raw' : Condition.Raw}
    (h : e.normalizer.normalize raw = e.normalizer.normalize raw') (config : Entries) :
  Query.compile? e raw config = Query.compile? e raw' config
  := by
  unfold compile?
  rw [h]

/-- The value can be the argument of a conjunction as far as its branches are maps. -/
def Value.AreBranches (v : Value) : Prop := ∃ items, v = .array items ∧ ∀ w ∈ items, w.isMap

theorem Value.isArray_mergedInto (v : Value) (old : Option Value) :
  (v.mergedInto old).isArray = v.isArray
  := by
  unfold mergedInto
  split
  · split <;> rfl
  · rfl

/-- A condition with anything but branches under the key of conjunctions does not compile. -/
theorem not_compiles_of_not_areBranches {raw : Condition.Raw} {entries : Entries} {v : Value}
    (hraw : (Normalizer.core.normalize raw).value = .map entries)
    (hget : entries.get? "$and" = some v) (hv : ¬v.AreBranches) (config : Entries) :
  ¬∃ q, Query.compile? .core raw config = .ok q
  := by
  rintro ⟨q, hq⟩
  obtain ⟨hcondition, hbuilt⟩ := Query.built_of_compile hq
  rw [hcondition] at hbuilt
  change Operator.condition.build? .core (Normalizer.core.normalize raw).value = _ at hbuilt
  rw [hraw] at hbuilt
  have hsuits : Suits .core .conjunction v :=
    (suits_of_build hbuilt).entries _ (Entries.mem_of_get?_eq_some hget)
  cases hsuits with
  | plain hrole => cases hrole
  | literal hrole => cases hrole
  | conjunction hitems => exact hv ⟨_, rfl, fun w hw => (hitems w hw).isMap⟩

namespace Normalizer

open Condition

variable (z : Normalizer)

/-- The pair puts an array under the key of conjunctions, whatever was there before. -/
def BringsBranches (p : Key × Value) : Prop :=
  ∃ items, z.normalizePair p.1 p.2 = [("$and", .array items)]

/-- A pair that brings no branches makes no branches of what is none. -/
theorem not_areBranches_merge {p : Key × Value} (hp : ¬z.BringsBranches p) {merged : Entries}
    (h : ∃ v, merged.get? "$and" = some v ∧ ¬v.AreBranches) :
  ∃ v, (merged.merge (z.normalizePair p.1 p.2)).get? "$and" = some v ∧ ¬v.AreBranches
  := by
  obtain ⟨key, w, hpair⟩ := z.exists_normalizePair p.1 p.2
  rw [hpair, Entries.merge_singleton, Entries.get?_insert]
  split
  · rename_i hkey
    subst hkey
    refine ⟨_, rfl, ?_⟩
    rintro ⟨items, hitems, -⟩
    have harray := w.isArray_mergedInto (merged.get? "$and")
    rw [hitems] at harray
    cases w with
    | array ws => exact hp ⟨ws, hpair⟩
    | _ => cases harray
  · exact h

/-- Pairs that bring no branches make no branches of what is none. -/
theorem not_areBranches_mergeInto {pairs : List (Key × Value)} (hpairs : ∀ p ∈ pairs, ¬z.BringsBranches p)
    {merged : Entries} (h : ∃ v, merged.get? "$and" = some v ∧ ¬v.AreBranches) :
  ∃ v, (z.mergeInto merged pairs).get? "$and" = some v ∧ ¬v.AreBranches
  := by
  apply List.foldlRecOn (motive := fun merged : Entries =>
    ∃ v, merged.get? "$and" = some v ∧ ¬v.AreBranches)
  · exact h
  · intro merged hmerged p hp
    apply z.not_areBranches_merge (hpairs p hp) hmerged

/-- Once a pair has brought branches, it does not matter which array was in their place. -/
theorem mergeInto_bringsBranches {pairs : List (Key × Value)} (h : ∃ p ∈ pairs, z.BringsBranches p)
    (items items' : List Value) (merged : Entries) :
  z.mergeInto (("$and", .array items) :: merged) pairs
    = z.mergeInto (("$and", .array items') :: merged) pairs
  := by
  induction pairs generalizing merged with
  | nil => exact absurd h (by simp)
  | cons p rest ih =>
    obtain ⟨key, w, hpair⟩ := z.exists_normalizePair p.1 p.2
    rw [mergeInto_cons, mergeInto_cons, hpair]
    by_cases hkey : key = "$and"
    · subst hkey
      have hmerge : ∀ items, Entries.merge (("$and", .array items) :: merged) [("$and", w)]
          = ("$and", w) :: merged := by
        intro items
        rw [Entries.merge_singleton, Entries.get?_cons, if_pos rfl, Entries.insert, if_pos rfl]
        cases w <;> rfl
      rw [hmerge, hmerge]
    · have hmerge : ∀ items, Entries.merge (("$and", .array items) :: merged) [(key, w)]
          = ("$and", .array items) :: Entries.merge merged [(key, w)] := by
        intro items
        rw [Entries.merge_singleton, Entries.merge_singleton, Entries.get?_cons, if_neg hkey,
          Entries.insert, if_neg (Ne.symm hkey)]
      rw [hmerge, hmerge]
      apply ih
      obtain ⟨p', hp', hbrings⟩ := h
      obtain rfl | hp' := List.mem_cons.mp hp'
      · obtain ⟨ws, hws⟩ := hbrings
        rw [hpair] at hws
        cases hws
        exact absurd rfl hkey
      · exact ⟨p', hp', hbrings⟩

end Normalizer

/-- What is extended after a conjunction has the pairs merged into the conjunction. -/
theorem Normalizer.normalize_extendedAll_conjunction (z : Normalizer) {raw : Condition.Raw}
    {items : List Value} (hraw : raw.toPairs = [(.path "$and", .array items)])
    {further : List (Condition.Key × Value)} (h : further ≠ []) :
  z.normalize (raw.extendedAll further)
    = ⟨.map (z.mergeInto [("$and", .array (z.normalizeItems items))] further)⟩
  := by
  rw [z.normalize_extendedAll raw h, hraw, mergePairs_append]
  rfl

section

variable {v : Value} (hv : (Normalizer.core.normalizeValue v).isMap = false)

include hv

/-- A condition that is no map is the only branch of a conjunction when it is extended. -/
theorem toPairs_of_normalizeValue :
  (Condition.Raw.value v).toPairs = [(.path "$and", .array [v])]
  := by
  cases v with
  | map entries => cases hv
  | _ => rfl

/-- A condition whose normal form is no map does not compile, however it has been extended by pairs that
bring no branches. -/
theorem not_compiles_extendedAll {further : List (Condition.Key × Value)}
    (hfurther : ∀ p ∈ further, ¬Normalizer.core.BringsBranches p) (config : Entries) :
  ¬∃ q, Query.compile? .core ((Condition.Raw.value v).extendedAll further) config = .ok q
  := by
  by_cases hnil : further = []
  · subst hnil
    rintro ⟨q, hq⟩
    obtain ⟨hcondition, hbuilt⟩ := Query.built_of_compile hq
    have hmap := (suits_of_build hbuilt).isMap
    rw [hcondition] at hmap
    exact absurd hmap (Bool.eq_false_iff.mp hv)
  · have hnormal := Normalizer.core.normalize_extendedAll_conjunction (toPairs_of_normalizeValue hv) hnil
    have hbranches : ∃ w, Entries.get? [("$and", .array (Normalizer.core.normalizeItems [v]))] "$and"
        = some w ∧ ¬w.AreBranches := by
      refine ⟨_, rfl, ?_⟩
      rintro ⟨items, hitems, hmaps⟩
      cases hitems
      exact absurd (hmaps _ List.mem_cons_self) (Bool.eq_false_iff.mp hv)
    obtain ⟨w, hget, hw⟩ := Normalizer.core.not_areBranches_mergeInto hfurther hbranches
    apply not_compiles_of_not_areBranches (congrArg Condition.value hnormal) hget hw

/-- A condition whose normal form is no map, extended by a pair that brings branches, has the same normal
form as an empty conjunction that is extended so. -/
theorem normalize_extendedAll_of_bringsBranches {further : List (Condition.Key × Value)}
    (h : ∃ p ∈ further, Normalizer.core.BringsBranches p) :
  Normalizer.core.normalize ((Condition.Raw.value v).extendedAll further)
    = Normalizer.core.normalize
      ((Condition.Raw.pairs [(.path "$and", .array [])]).extendedAll further)
  := by
  have hnil : further ≠ [] := by
    rintro rfl
    simp at h
  have hempty : (Condition.Raw.pairs [(.path "$and", .array [])]).toPairs
      = [(.path "$and", .array [])] := rfl
  rw [Normalizer.core.normalize_extendedAll_conjunction (toPairs_of_normalizeValue hv) hnil,
    Normalizer.core.normalize_extendedAll_conjunction hempty hnil,
    Normalizer.core.mergeInto_bringsBranches h]

/-- A condition whose normal form is no map, once it has been extended, compiles exactly if one of the
pairs puts an array in its place and the pairs compile after an empty conjunction. -/
theorem extended_compiles_iff (further : List (Condition.Key × Value)) (config : Entries) :
  (∃ q, Query.compile? .core ((Condition.Raw.value v).extendedAll further) config = .ok q)
    ↔ (∃ p ∈ further, Normalizer.core.BringsBranches p)
      ∧ ∃ q, Query.compile? .core
        ((Condition.Raw.pairs [(.path "$and", .array [])]).extendedAll further) config = .ok q
  := by
  by_cases hbrings : ∃ p ∈ further, Normalizer.core.BringsBranches p
  · rw [and_iff_right hbrings,
      Query.compile?_congr (e := .core) (normalize_extendedAll_of_bringsBranches hv hbrings)]
  · have hnone : ∀ p ∈ further, ¬Normalizer.core.BringsBranches p :=
      fun p hp hp' => hbrings ⟨p, hp, hp'⟩
    simp only [not_compiles_extendedAll hv hnone config, hbrings, false_and]

end

/-- A number that is extended by pairs that reach into the conjunction and beside it is refused. -/
theorem extended_compiles_iff_path :
  (Normalizer.core.normalizeValue (.int 1)).isMap = false
    ∧ ¬∃ q, Query.compile? .core ((Condition.Raw.value (.int 1)).extendedAll
      [(.path "b", .array []), (.path "$and.c", .int 2)]) [] = .ok q
  := by
  refine ⟨rfl, fun h => ?_⟩
  obtain ⟨⟨p, hp, items, hitems⟩, -⟩ := (extended_compiles_iff rfl _ _).mp h
  obtain rfl | hp := List.mem_cons.mp hp
  · have hkeys : ["b"] = ["$and"] := congrArg Entries.keys hitems
    exact absurd hkeys (by decide)
  · obtain rfl := List.mem_singleton.mp hp
    cases hitems

/-- A number that is extended by a conjunction without branches is forgotten, and the condition
compiles. -/
theorem extended_forgets_number :
  (Normalizer.core.normalizeValue (.int 1)).isMap = false
    ∧ ∃ q, Query.compile? .core ((Condition.Raw.value (.int 1)).extendedAll
      [(.path "$and", .array [])]) [] = .ok q
  := ⟨rfl, _, rfl⟩

end DocQuery
