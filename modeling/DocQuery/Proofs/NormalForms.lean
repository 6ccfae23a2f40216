import DocQuery.Proofs.Extending

/-!
# Normal forms

A value in a condition has been converted if its maps have distinct keys and no host value in it has a rule
any more. Normalizing converts a value. Where no key has a dot, normalizing a value again goes through its
arrays, maps and ranges entry by entry, and so it changes nothing exactly if the value has been converted.
-/

namespace DocQuery

/-! ### Throughout a value -/

/-- What is asked of the keys of maps and of host values holds throughout the value: in arrays, in maps
and at the ends of ranges. -/
inductive Value.Throughout (K : List String → Prop) (H : Nat → Host → Prop) : Value → Prop
  | null : Throughout K H .null
  | missing : Throughout K H .missing
  | bool (b : Bool) : Throughout K H (.bool b)
  | int (n : Int64) : Throughout K H (.int n)
  | float (x : Float) : Throughout K H (.float x)
  | string (s : String) : Throughout K H (.string s)
  | array {items : List Value} (h : ∀ v ∈ items, Throughout K H v) : Throughout K H (.array items)
  | map {entries : Entries} (hkeys : K entries.keys) (h : ∀ e ∈ entries, Throughout K H e.2) :
    Throughout K H (.map entries)
  | regex (p : Pattern) : Throughout K H (.regex p)
  | range {start stop : Option Value} (exclusive : Bool) (hstart : ∀ v ∈ start, Throughout K H v)
      (hstop : ∀ v ∈ stop, Throughout K H v) : Throughout K H (.range start stop exclusive)
  | host {identity : Nat} {content : Host} (fields : Option Entries) (h : H identity content) :
    Throughout K H (.host identity content fields)

/-- No key of a map in the value has a dot. -/
def Value.Undotted : Value → Prop :=
  Throughout (fun keys => ∀ key ∈ keys, '.' ∉ key.toList) fun _ _ => True

/-- The maps in the value have distinct keys. -/
def Value.Distinct : Value → Prop := Throughout List.Nodup fun _ _ => True

/-- The maps in the value have distinct keys, and no host value in it has a rule for conditions. -/
def Normalizer.Converted (z : Normalizer) : Value → Prop :=
  Value.Throughout List.Nodup fun identity content => z.conditionRule? identity content = none

section

variable {K : List String → Prop} {H : Nat → Host → Prop}

theorem Value.throughout_array_iff {items : List Value} :
  (Value.array items).Throughout K H ↔ ∀ v ∈ items, v.Throughout K H
  := by
  constructor
  · intro h
    cases h with
    | array h => exact h
  · exact .array

theorem Value.throughout_map_iff {entries : Entries} :
  (Value.map entries).Throughout K H ↔ K entries.keys ∧ ∀ e ∈ entries, e.2.Throughout K H
  := by
  constructor
  · intro h
    cases h with
    | map hkeys h => exact ⟨hkeys, h⟩
  · exact fun ⟨hkeys, h⟩ => .map hkeys h

theorem Value.throughout_range_iff {start stop : Option Value} {exclusive : Bool} :
  (Value.range start stop exclusive).Throughout K H
    ↔ (∀ v ∈ start, v.Throughout K H) ∧ ∀ v ∈ stop, v.Throughout K H
  := by
  constructor
  · intro h
    cases h with
    | range _ hstart hstop => exact ⟨hstart, hstop⟩
  · exact fun ⟨hstart, hstop⟩ => .range exclusive hstart hstop

theorem Value.throughout_host_iff {identity : Nat} {content : Host} {fields : Option Entries} :
  (Value.host identity content fields).Throughout K H ↔ H identity content
  := by
  constructor
  · intro h
    cases h with
    | host _ h => exact h
  · exact .host fields

/-- What holds throughout two maps holds throughout their merge, if it does so of the keys of maps. -/
theorem Value.throughout_merge
    (hK : ∀ m m' : Entries, K m.keys → K m'.keys → K (Entries.merge m m').keys) {m m' : Entries}
    (h : (Value.map m).Throughout K H) (h' : (Value.map m').Throughout K H) :
  (Value.map (Entries.merge m m')).Throughout K H
  := by
  generalize hd : (Value.map m').depth = d
  induction d using Nat.strongRecOn generalizing m m' with
  | ind d ih =>
    rw [throughout_map_iff] at h h' ⊢
    refine ⟨hK m m' h.1 h'.1, ?_⟩
    apply Entries.forall_merge (P := fun _ v => v.Throughout K H) h.2 h'.2
    intro key k k' hmem hk hk'
    apply ih _ (hd ▸ Value.depth_lt_of_mem hmem) hk hk' rfl

end

/-! ### Paths without dots -/

theorem pathSegments_of_notMem {cs : List Char} (h : '.' ∉ cs) (segment : List Char) :
  pathSegments segment cs = [segment.reverse ++ cs]
  := by
  fun_induction pathSegments segment cs with
  | case1 segment => rw [List.append_nil]
  | case2 segment rest => simp at h
  | case3 => simp at h
  | case4 segment c rest _ _ ih =>
    rw [ih (List.not_mem_of_not_mem_cons h), List.reverse_cons, List.append_assoc,
      List.singleton_append]

/-- A path without a dot is its only segment. -/
theorem splitPath_of_notMem {path : String} (h : '.' ∉ path.toList) :
  splitPath path = [path]
  := by
  rw [splitPath, pathSegments_of_notMem h, List.reverse_nil, List.nil_append, List.map_singleton,
    String.ofList_toList]

theorem expandPath_of_notMem {path : String} (h : '.' ∉ path.toList) (v : Value) :
  expandPath path v = [(path, v)]
  := by
  rw [expandPath, splitPath_of_notMem h]
  rfl

/-! ### Normalizing entry by entry -/

theorem map_eq_self_iff {α : Type} {f : α → α} {items : List α} :
  items.map f = items ↔ ∀ x ∈ items, f x = x
  := by
  have h : items.map f = items.map id ↔ ∀ x ∈ items, f x = id x := List.map_inj_left
  rwa [List.map_id] at h

namespace Normalizer

variable {z : Normalizer}

/-- Where no key has a dot, a map is normalized entry by entry. -/
theorem normalizeValue_map {entries : Entries} (hkeys : entries.keys.Nodup)
    (hdots : ∀ key ∈ entries.keys, '.' ∉ key.toList) :
  z.normalizeValue (.map entries) = .map (entries.map fun e => (e.1, z.normalizeValue e.2))
  := by
  have hpart : ∀ e ∈ entries, z.normalizePair (.path e.1) e.2 = [(e.1, z.normalizeValue e.2)] :=
    fun e he => expandPath_of_notMem (hdots _ (List.mem_map_of_mem he)) _
  rw [normalizeValue, normalizeEntries_eq_mergeInto, mergeInto, List.foldl_map]
  congr 1
  apply Entries.foldl_merge_of_nodup hpart
  rwa [List.nil_append, Entries.keys, List.map_map]

theorem normalizeValue_singleton {key : String} (hdot : '.' ∉ key.toList) (v : Value) :
  z.normalizeValue (.map [(key, v)]) = .map [(key, z.normalizeValue v)]
  := normalizeValue_map (List.nodup_singleton key) (List.forall_mem_singleton.mpr hdot)

theorem normalizeEnd_eq_self_iff {stop : Option Value} :
  z.normalizeEnd stop = stop ↔ ∀ v ∈ stop, z.normalizeValue v = v
  := by
  cases stop <;> simp [normalizeEnd]

/-- A map without dots in its keys is in normal form if the keys are distinct and the values are in
normal form. -/
theorem normalizeValue_map_eq_self_iff {entries : Entries}
    (hdots : ∀ key ∈ entries.keys, '.' ∉ key.toList) :
  z.normalizeValue (.map entries) = .map entries
    ↔ entries.keys.Nodup ∧ ∀ e ∈ entries, z.normalizeValue e.2 = e.2
  := by
  have hvalues (hkeys : entries.keys.Nodup) :
      z.normalizeValue (.map entries) = .map entries ↔ ∀ e ∈ entries, z.normalizeValue e.2 = e.2 := by
    rw [normalizeValue_map hkeys hdots, Value.map.injEq, map_eq_self_iff]
    simp only [Prod.ext_iff, true_and]
  constructor
  · intro h
    have hkeys : entries.keys.Nodup := by
      rw [normalizeValue, normalizeEntries_eq_mergeInto] at h
      rw [← Value.map.inj h]
      apply z.nodup_keys_mergePairs
    exact ⟨hkeys, (hvalues hkeys).mp h⟩
  · rintro ⟨hkeys, h⟩
    apply (hvalues hkeys).mpr h

/-- What a rule makes of a host value in a condition has been converted. -/
def Thorough (z : Normalizer) : Prop :=
  ∀ identity content v, z.conditionRule? identity content = some v → z.Converted v

theorem core_thorough :
  Thorough .core
  := by
  intro identity content v h
  cases content with
  | symbol _ | instant _ | localTime _ | date _ =>
    cases h
    apply Value.Throughout.string
  | _ => cases h

variable (hz : z.Thorough)

include hz

/-- A host value is left as it is exactly if it has no rule. -/
theorem Thorough.normalizeValue_host_eq_self_iff (identity : Nat) (content : Host)
    (fields : Option Entries) :
  z.normalizeValue (.host identity content fields) = .host identity content fields
    ↔ z.conditionRule? identity content = none
  := by
  rw [normalizeValue]
  cases hrule : z.conditionRule? identity content with
  | none => simp
  | some v =>
    simp only [Option.getD_some, reduceCtorEq, iff_false]
    rintro rfl
    have hnone := Value.throughout_host_iff.mp (hz identity content _ hrule)
    rw [hrule] at hnone
    cases hnone

/-- Where no key has a dot, normalizing leaves a value as it is exactly if it has been converted. -/
theorem Thorough.normalizeValue_eq_self_iff {v : Value} (hdots : v.Undotted) :
  z.normalizeValue v = v ↔ z.Converted v
  := by
  induction hdots with
  | @array items _ ih =>
    rw [normalizeValue, normalizeItems_eq, Value.array.injEq, map_eq_self_iff, forall₂_congr ih]
    apply Value.throughout_array_iff.symm
  | @map entries hkeys _ ih =>
    rw [normalizeValue_map_eq_self_iff hkeys, forall₂_congr ih]
    apply Value.throughout_map_iff.symm
  | @range start stop exclusive _ _ ihstart ihstop =>
    rw [normalizeValue, Value.range.injEq, normalizeEnd_eq_self_iff, normalizeEnd_eq_self_iff,
      forall₂_congr ihstart, forall₂_congr ihstop, and_iff_left rfl]
    apply Value.throughout_range_iff.symm
  | @host identity content fields _ =>
    rw [hz.normalizeValue_host_eq_self_iff, Converted, Value.throughout_host_iff]
  | null => exact iff_of_true rfl .null
  | missing => exact iff_of_true rfl .missing
  | bool b => exact iff_of_true rfl (.bool b)
  | int n => exact iff_of_true rfl (.int n)
  | float x => exact iff_of_true rfl (.float x)
  | string s => exact iff_of_true rfl (.string s)
  | regex p => exact iff_of_true rfl (.regex p)

omit hz

/-! ### What normalizing yields -/

theorem converted_nil :
  z.Converted (.map [])
  := by
  apply Value.Throughout.map
  · exact List.nodup_nil
  · exact fun _ he => absurd he List.not_mem_nil

/-- The merge of converted maps has been converted. -/
theorem converted_merge {m m' : Entries} (h : z.Converted (.map m)) (h' : z.Converted (.map m')) :
  z.Converted (.map (Entries.merge m m'))
  := Value.throughout_merge (fun m m' hm _ => (Entries.extends_merge m m').nodup hm) h h'

theorem converted_singleton (key : String) {v : Value} (h : z.Converted v) :
  z.Converted (.map [(key, v)])
  := .map (List.nodup_singleton key) (List.forall_mem_singleton.mpr h)

theorem converted_expandPath (path : String) {v : Value} (h : z.Converted v) :
  z.Converted (.map (expandPath path v))
  := by
  have hnest : ∀ segments, z.Converted (nest segments v) := by
    intro segments
    induction segments with
    | nil => exact h
    | cons segment rest ih => exact converted_singleton segment ih
  obtain ⟨segment, rest, -, hexpand⟩ := exists_expandPath path v
  rw [hexpand]
  exact converted_singleton segment (hnest rest)

mutual

/-- Normalizing converts a value. -/
theorem Thorough.converted_normalizeValue (hz : z.Thorough) :
    ∀ v : Value, z.Converted (z.normalizeValue v)
  | .array items => .array (hz.converted_normalizeItems items)
  | .map entries => hz.converted_normalizeEntries converted_nil entries
  | .range start stop exclusive =>
    .range exclusive (hz.converted_normalizeEnd start) (hz.converted_normalizeEnd stop)
  | .host identity content fields => by
    rw [normalizeValue]
    cases hrule : z.conditionRule? identity content with
    | none => exact .host fields hrule
    | some v => exact hz identity content v hrule
  | .null => .null
  | .missing => .missing
  | .bool b => .bool b
  | .int n => .int n
  | .float x => .float x
  | .string s => .string s
  | .regex p => .regex p

theorem Thorough.converted_normalizeItems (hz : z.Thorough) :
    ∀ items : List Value, ∀ v ∈ z.normalizeItems items, z.Converted v
  | [] => nofun
  | v :: rest =>
    List.forall_mem_cons.mpr ⟨hz.converted_normalizeValue v, hz.converted_normalizeItems rest⟩

theorem Thorough.converted_normalizeEntries (hz : z.Thorough) {merged : Entries}
    (h : z.Converted (.map merged)) :
    ∀ entries : List (String × Value), z.Converted (.map (z.normalizeEntries merged entries))
  | [] => h
  | (path, v) :: rest => by
    rw [normalizeEntries]
    apply hz.converted_normalizeEntries _ rest
    apply converted_merge h
    apply converted_expandPath path (hz.converted_normalizeValue v)

theorem Thorough.converted_normalizeEnd (hz : z.Thorough) :
    ∀ stop : Option Value, ∀ v ∈ z.normalizeEnd stop, z.Converted v
  | none => nofun
  | some v => by
    rintro _ ⟨⟩
    apply hz.converted_normalizeValue v

end

end Normalizer

/-! ### Normalizing again -/

/-- What the condition says is in normal form already has been converted: the values under normal keys, or
the whole condition. -/
def Condition.Raw.Converted (z : Normalizer) : Condition.Raw → Prop
  | pairs ps => ∀ key v, (.normalized key, v) ∈ ps → z.Converted v
  | value _ => True
  | normalized c => z.Converted c.value

namespace Normalizer

variable {z : Normalizer}

theorem Thorough.converted_normalizePair (hz : z.Thorough) {key : Condition.Key} {v : Value}
    (h : ∀ k, key = .normalized k → z.Converted v) :
  z.Converted (.map (z.normalizePair key v))
  := by
  cases key with
  | path path => exact converted_expandPath path (hz.converted_normalizeValue v)
  | operator key =>
    apply converted_expandPath key.field
    exact converted_singleton key.operator (hz.converted_normalizeValue v)
  | normalized k => exact converted_singleton k (h k rfl)

/-- The normal form of a condition has been converted. -/
theorem Thorough.converted_normalize (hz : z.Thorough) {raw : Condition.Raw} (h : raw.Converted z) :
  z.Converted (z.normalize raw).value
  := by
  cases raw with
  | pairs ps =>
    apply List.foldlRecOn (motive := fun merged : Entries => z.Converted (.map merged))
    · apply converted_nil
    · intro merged hmerged p hp
      apply converted_merge hmerged
      apply hz.converted_normalizePair
      exact fun key hkey => h key p.2 (hkey ▸ hp)
  | value v => exact hz.converted_normalizeValue v
  | normalized c => exact h

/-- If no key in the normal form of a condition has a dot, then normalizing it again as a value changes
nothing, provided that what the condition says is in normal form already has been converted. It changes
nothing exactly if the normal form has been converted. -/
theorem normalize_normalize {raw : Condition.Raw} (hdots : (core.normalize raw).value.Undotted) :
  (raw.Converted core → core.normalize (.value (core.normalize raw).value) = core.normalize raw)
    ∧ (core.normalize (.value (core.normalize raw).value) = core.normalize raw
      ↔ core.Converted (core.normalize raw).value)
  := by
  have hiff : core.normalize (.value (core.normalize raw).value) = core.normalize raw
      ↔ core.Converted (core.normalize raw).value := by
    rw [← core_thorough.normalizeValue_eq_self_iff hdots]
    exact ⟨congrArg Condition.value, congrArg Condition.mk⟩
  refine ⟨?_, hiff⟩
  intro hconverted
  apply hiff.mpr (core_thorough.converted_normalize hconverted)

/-- A path into an array with a symbol and a condition, beside a range under a key that is normal. -/
theorem normalize_normalize_array :
  ∃ raw : Condition.Raw, raw = .pairs
      [(.path "a.b", .array [.host 0 (.symbol "x") none, .map [("c.d", .int 1)]]),
        (.normalized "e", .range (some (.string "y")) none false)]
    ∧ (core.normalize raw).value = .map
      [("a", .map [("b", .array [.string "x", .map [("c", .map [("d", .int 1)])]])]),
        ("e", .range (some (.string "y")) none false)]
    ∧ core.normalize (.value (core.normalize raw).value) = core.normalize raw
  := by
  have hrange : ∀ K H, Value.Throughout K H (.range (some (.string "y")) none false) :=
    fun _ _ => .range false (by rintro _ ⟨⟩; exact .string "y") nofun
  have hcondition : Value.Undotted (.map [("c", .map [("d", .int 1)])]) :=
    .map (by decide) (List.forall_mem_singleton.mpr
      (.map (by decide) (List.forall_mem_singleton.mpr (.int 1))))
  have hitems : Value.Undotted (.array [.string "x", .map [("c", .map [("d", .int 1)])]]) :=
    .array (List.forall_mem_cons.mpr ⟨.string "x", List.forall_mem_singleton.mpr hcondition⟩)
  have hfield : Value.Undotted
      (.map [("b", .array [.string "x", .map [("c", .map [("d", .int 1)])]])]) :=
    .map (by decide) (List.forall_mem_singleton.mpr hitems)
  have hdots : Value.Undotted (.map
      [("a", .map [("b", .array [.string "x", .map [("c", .map [("d", .int 1)])]])]),
        ("e", .range (some (.string "y")) none false)]) :=
    .map (by decide) (List.forall_mem_cons.mpr
      ⟨hfield, List.forall_mem_singleton.mpr (hrange _ _)⟩)
  refine ⟨_, rfl, rfl, ?_⟩
  refine (normalize_normalize ?_).1 ?_
  · exact hdots
  · intro key v hmem
    obtain ⟨-, rfl⟩ : key = "e" ∧ v = .range (some (.string "y")) none false := by
      simpa using hmem
    apply hrange

/-- A symbol under a key that is normal is left in the normal form, and normalizing that again as a value
converts it. -/
theorem normalize_normalize_symbol :
  ∃ raw : Condition.Raw, raw = .pairs [(.normalized "a", .host 0 (.symbol "x") none)]
    ∧ (core.normalize raw).value.Undotted
    ∧ (core.normalize raw).value = .map [("a", .host 0 (.symbol "x") none)]
    ∧ (core.normalize (.value (core.normalize raw).value)).value = .map [("a", .string "x")]
    ∧ core.normalize (.value (core.normalize raw).value) ≠ core.normalize raw
  := by
  refine ⟨_, rfl, ?_, rfl, rfl, ?_⟩
  · exact .map (by decide) (List.forall_mem_singleton.mpr (.host none trivial))
  · intro h
    cases h

end Normalizer

end DocQuery
