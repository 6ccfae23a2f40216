import DocQuery.Proofs.NormalForms
import DocQuery.Proofs.Upfront

/-!
# Conversions

Host values stand in the arrays and maps of a value and at the ends of its ranges. Converting a record takes
away those that have a rule, except at the ends of ranges, which are left as they are. So the host values
in a record that has been converted have no rule, provided that those at the ends of ranges had none. A value
without ranges and without dots in its keys is converted alike in a record and in a condition, if there
are no further rules for conditions.
-/

namespace DocQuery

/-! ### Host values in a value -/

/-- A host value that occurs in a value, and whether it occurs at an end of a range. -/
structure HostPlace where
  identity : Nat
  content : Host
  bounded : Bool

namespace Value

mutual

/-- The host values in a value that may itself be at an end of a range. -/
def hostPlaces (bounded : Bool) : Value → List HostPlace
  | .array items => hostPlacesOfItems bounded items
  | .map entries => hostPlacesOfEntries bounded entries
  | .range start stop _ => hostPlacesOfEnd start ++ hostPlacesOfEnd stop
  | .host identity content _ => [⟨identity, content, bounded⟩]
  | _ => []

/-- The host values in several values. -/
def hostPlacesOfItems (bounded : Bool) : List Value → List HostPlace
  | [] => []
  | v :: rest => v.hostPlaces bounded ++ hostPlacesOfItems bounded rest

/-- The host values in the values of entries. -/
def hostPlacesOfEntries (bounded : Bool) : List (String × Value) → List HostPlace
  | [] => []
  | (_, v) :: rest => v.hostPlaces bounded ++ hostPlacesOfEntries bounded rest

/-- The host values at an end of a range. -/
def hostPlacesOfEnd : Option Value → List HostPlace
  | none => []
  | some v => v.hostPlaces true

end

/-- The host values in a value. -/
def hosts (v : Value) : List HostPlace := v.hostPlaces false

mutual

/-- No host value occurs in a value exactly if there are none in it. -/
theorem hasHost_eq_false_iff (bounded : Bool) :
  ∀ v : Value, v.hasHost = false ↔ v.hostPlaces bounded = []
  | .array items => by rw [hasHost, hostPlaces, hostPlacesOfItems_eq_nil_iff bounded items]
  | .map entries => by rw [hasHost, hostPlaces, hostPlacesOfEntries_eq_nil_iff bounded entries]
  | .range start stop _ => by
    rw [hasHost, hostPlaces, Bool.or_eq_false_iff, List.append_eq_nil_iff,
      hostPlacesOfEnd_eq_nil_iff start, hostPlacesOfEnd_eq_nil_iff stop]
  | .host _ _ _ => iff_of_false nofun (List.cons_ne_nil _ _)
  | .null | .missing | .bool _ | .int _ | .float _ | .string _ | .regex _ => iff_of_true rfl rfl

theorem hostPlacesOfItems_eq_nil_iff (bounded : Bool) :
  ∀ items : List Value, anyHost items = false ↔ hostPlacesOfItems bounded items = []
  | [] => iff_of_true rfl rfl
  | v :: rest => by
    rw [anyHost, hostPlacesOfItems, Bool.or_eq_false_iff, List.append_eq_nil_iff,
      hasHost_eq_false_iff bounded v, hostPlacesOfItems_eq_nil_iff bounded rest]

theorem hostPlacesOfEntries_eq_nil_iff (bounded : Bool) :
  ∀ entries : List (String × Value),
    anyHostEntry entries = false ↔ hostPlacesOfEntries bounded entries = []
  | [] => iff_of_true rfl rfl
  | (_, v) :: rest => by
    rw [anyHostEntry, hostPlacesOfEntries, Bool.or_eq_false_iff, List.append_eq_nil_iff,
      hasHost_eq_false_iff bounded v, hostPlacesOfEntries_eq_nil_iff bounded rest]

theorem hostPlacesOfEnd_eq_nil_iff :
  ∀ stop : Option Value, hasHostEnd stop = false ↔ hostPlacesOfEnd stop = []
  | none => iff_of_true rfl rfl
  | some v => hasHost_eq_false_iff true v

end

theorem hasHost_iff_hosts (v : Value) :
  v.hasHost ↔ v.hosts ≠ []
  := by
  rw [hosts, ne_eq, ← hasHost_eq_false_iff, Bool.not_eq_false]

mutual

/-- All that is at an end of a range is known to be there. -/
theorem bounded_of_mem_hostPlaces :
  ∀ v : Value, ∀ h ∈ v.hostPlaces true, h.bounded = true
  | .array items, h, hmem => bounded_of_mem_hostPlacesOfItems items h hmem
  | .map entries, h, hmem => bounded_of_mem_hostPlacesOfEntries entries h hmem
  | .range start stop _, h, hmem => by
    obtain hmem | hmem := List.mem_append.mp hmem
    · exact bounded_of_mem_hostPlacesOfEnd start h hmem
    · exact bounded_of_mem_hostPlacesOfEnd stop h hmem
  | .host _ _ _, h, hmem => by rw [List.mem_singleton.mp hmem]
  | .null, _, hmem | .missing, _, hmem | .bool _, _, hmem | .int _, _, hmem | .float _, _, hmem
  | .string _, _, hmem | .regex _, _, hmem => absurd hmem List.not_mem_nil

theorem bounded_of_mem_hostPlacesOfItems :
  ∀ items : List Value, ∀ h ∈ hostPlacesOfItems true items, h.bounded = true
  | [], _, hmem => absurd hmem List.not_mem_nil
  | v :: rest, h, hmem => by
    obtain hmem | hmem := List.mem_append.mp hmem
    · exact bounded_of_mem_hostPlaces v h hmem
    · exact bounded_of_mem_hostPlacesOfItems rest h hmem

theorem bounded_of_mem_hostPlacesOfEntries :
  ∀ entries : List (String × Value), ∀ h ∈ hostPlacesOfEntries true entries, h.bounded = true
  | [], _, hmem => absurd hmem List.not_mem_nil
  | (_, v) :: rest, h, hmem => by
    obtain hmem | hmem := List.mem_append.mp hmem
    · exact bounded_of_mem_hostPlaces v h hmem
    · exact bounded_of_mem_hostPlacesOfEntries rest h hmem

theorem bounded_of_mem_hostPlacesOfEnd :
  ∀ stop : Option Value, ∀ h ∈ hostPlacesOfEnd stop, h.bounded = true
  | none, _, hmem => absurd hmem List.not_mem_nil
  | some v, h, hmem => bounded_of_mem_hostPlaces v h hmem

end

end Value

/-! ### Converting records -/

namespace Normalizer

variable {n : Normalizer}

/-- The host value is left when a record is converted: it is at an end of a range, or it has no rule. -/
def leaves (n : Normalizer) (h : HostPlace) : Bool :=
  h.bounded || (n.recordRule? h.identity h.content).isNone

mutual

/-- Of the host values in a record conversion leaves those that it leaves one by one. All that is in a range
is left. -/
theorem YieldsData.hostPlaces_convert (hn : n.YieldsData) :
  ∀ v : Value, (n.convert v).hostPlaces false = (v.hostPlaces false).filter n.leaves
  | .array items => by
    rw [convert, Value.hostPlaces, Value.hostPlaces, hn.hostPlacesOfItems_convertItems items]
  | .map entries => by
    rw [convert, Value.hostPlaces, Value.hostPlaces, hn.hostPlacesOfEntries_convertEntries entries]
  | .range start stop exclusive => by
    have hleft : ∀ h ∈ (Value.range start stop exclusive).hostPlaces false, n.leaves h = true := by
      intro h hmem
      have hbounded := (Value.range start stop exclusive).bounded_of_mem_hostPlaces h hmem
      rw [leaves, hbounded, Bool.true_or]
    exact (List.filter_eq_self.mpr hleft).symm
  | .host identity content fields => by
    rw [convert, Value.hostPlaces]
    cases hrule : n.recordRule? identity content with
    | none => simp [leaves, hrule, Value.hostPlaces]
    | some w =>
      have hnone := (w.hasHost_eq_false_iff false).mp (hn identity content w hrule)
      simp [leaves, hrule, hnone]
  | .null | .missing | .bool _ | .int _ | .float _ | .string _ | .regex _ => rfl

theorem YieldsData.hostPlacesOfItems_convertItems (hn : n.YieldsData) :
  ∀ items : List Value, Value.hostPlacesOfItems false (n.convertItems items)
    = (Value.hostPlacesOfItems false items).filter n.leaves
  | [] => rfl
  | v :: rest => by
    rw [convertItems, Value.hostPlacesOfItems, Value.hostPlacesOfItems, List.filter_append,
      hn.hostPlaces_convert v, hn.hostPlacesOfItems_convertItems rest]

theorem YieldsData.hostPlacesOfEntries_convertEntries (hn : n.YieldsData) :
  ∀ entries : List (String × Value), Value.hostPlacesOfEntries false (n.convertEntries entries)
    = (Value.hostPlacesOfEntries false entries).filter n.leaves
  | [] => rfl
  | (_, v) :: rest => by
    rw [convertEntries, Value.hostPlacesOfEntries, Value.hostPlacesOfEntries, List.filter_append,
      hn.hostPlaces_convert v, hn.hostPlacesOfEntries_convertEntries rest]

end

/-- The host values in a record that has been converted are those in the record that have no rule or are
at the ends of ranges. So none of them has a rule exactly if none at an end of a range has one. -/
theorem hosts_of_normalizeRecord (hn : n.YieldsData) (record : Value) :
  ((n.normalizeRecord record).hasHost ↔ (n.normalizeRecord record).hosts ≠ [])
    ∧ (n.normalizeRecord record).hosts = record.hosts.filter n.leaves
    ∧ ((∀ h ∈ (n.normalizeRecord record).hosts, n.recordRule? h.identity h.content = none)
      ↔ ∀ h ∈ record.hosts, h.bounded → n.recordRule? h.identity h.content = none)
  := by
  have hhosts : (n.normalizeRecord record).hosts = record.hosts.filter n.leaves := by
    rw [normalizeRecord_eq]
    apply hn.hostPlaces_convert
  refine ⟨Value.hasHost_iff_hosts _, hhosts, ?_⟩
  rw [hhosts]
  apply forall_congr'
  intro h
  rw [List.mem_filter, leaves, Bool.or_eq_true, Option.isNone_iff_eq_none]
  constructor
  · exact fun hall hmem hbounded => hall ⟨hmem, .inl hbounded⟩
  · rintro hall ⟨hmem, hbounded | hnone⟩
    · exact hall hmem hbounded
    · exact hnone

/-- Of two symbols and a point in an array the point is left. -/
theorem hosts_of_normalizeRecord_array :
  core.YieldsData ∧ ∃ record, record = Value.array [.host 0 (.symbol "a") none,
      .map [("p", .host 1 (.point 1 2) none), ("s", .host 2 (.symbol "b") none)]]
    ∧ (core.normalizeRecord record).hasHost
    ∧ (core.normalizeRecord record).hosts = [⟨1, .point 1 2, false⟩]
    ∧ ∀ h ∈ (core.normalizeRecord record).hosts, core.recordRule? h.identity h.content = none
  := by
  have hdata := core_yieldsStrings.yieldsData
  let record : Value := .array [.host 0 (.symbol "a") none,
    .map [("p", .host 1 (.point 1 2) none), ("s", .host 2 (.symbol "b") none)]]
  obtain ⟨hiff, hhosts, hnone⟩ := hosts_of_normalizeRecord hdata record
  refine ⟨hdata, record, rfl, hiff.mpr ?_, hhosts, hnone.mpr ?_⟩
  · rw [hhosts]
    exact List.cons_ne_nil _ _
  · have hopen : ∀ h ∈ record.hosts, h.bounded = false :=
      List.forall_mem_cons.mpr ⟨rfl, List.forall_mem_cons.mpr ⟨rfl, List.forall_mem_singleton.mpr rfl⟩⟩
    intro h hmem hbounded
    cases (hopen h hmem).symm.trans hbounded

/-- The symbols at the ends of a range are left, although they have a rule. -/
theorem range_keeps_symbols :
  core.YieldsData ∧ ∃ record, record = Value.range (some (.host 0 (.symbol "a") none))
      (some (.host 1 (.symbol "m") none)) false
    ∧ (core.normalizeRecord record).hasHost
    ∧ (core.normalizeRecord record).hosts = [⟨0, .symbol "a", true⟩, ⟨1, .symbol "m", true⟩]
    ∧ core.recordRule? 0 (.symbol "a") = some (.string "a")
    ∧ core.recordRule? 1 (.symbol "m") = some (.string "m")
  := ⟨core_yieldsStrings.yieldsData, _, rfl, rfl, rfl, rfl, rfl⟩

end Normalizer

/-! ### Converting alike -/

mutual

/-- Whether a range occurs in the value. -/
def Value.hasRange : Value → Bool
  | .array items => anyRange items
  | .map entries => anyRangeEntry entries
  | .range _ _ _ => true
  | _ => false

/-- Whether a range occurs in one of the values. -/
def Value.anyRange : List Value → Bool
  | [] => false
  | v :: rest => v.hasRange || anyRange rest

/-- Whether a range occurs in the value of one of the entries. -/
def Value.anyRangeEntry : List (String × Value) → Bool
  | [] => false
  | (_, v) :: rest => v.hasRange || anyRangeEntry rest

end

theorem Value.anyRange_eq_false_iff (items : List Value) :
  anyRange items = false ↔ ∀ v ∈ items, v.hasRange = false
  := by
  induction items with
  | nil => simp [anyRange]
  | cons v rest ih => rw [anyRange, Bool.or_eq_false_iff, ih, List.forall_mem_cons]

theorem Value.anyRangeEntry_eq_false_iff (entries : Entries) :
  anyRangeEntry entries = false ↔ ∀ e ∈ entries, e.2.hasRange = false
  := by
  induction entries with
  | nil => simp [anyRangeEntry]
  | cons e rest ih => rw [anyRangeEntry, Bool.or_eq_false_iff, ih, List.forall_mem_cons]

namespace Normalizer

variable {n : Normalizer}

theorem convertEntries_eq_map (entries : Entries) :
  n.convertEntries entries = entries.map fun e => (e.1, n.convert e.2)
  := by
  induction entries with
  | nil => rfl
  | cons e rest ih => rw [convertEntries, ih, List.map_cons]

/-- Without further rules for conditions a host value has the same rule in a condition as in a record. -/
theorem conditionRule?_of_conditions (hrules : n.conditions = []) (identity : Nat) (content : Host) :
  n.conditionRule? identity content = n.recordRule? identity content
  := by
  rw [conditionRule?, hrules]
  rfl

/-- A value without ranges and without dots in its keys is converted alike in a condition and in a record,
if there are no further rules for conditions. -/
theorem normalizeValue_eq_normalizeRecord (hrules : n.conditions = []) {v : Value}
    (hranges : v.hasRange = false) (hdots : v.Undotted) (hkeys : v.Distinct) :
  n.normalizeValue v = n.normalizeRecord v
  := by
  rw [normalizeRecord_eq]
  induction hdots with
  | @array items _ ih =>
    have hitems := (Value.anyRange_eq_false_iff items).mp hranges
    have hdistinct := Value.throughout_array_iff.mp hkeys
    rw [normalizeValue, convert, normalizeItems_eq, convertItems_eq_map]
    congr 1
    apply List.map_congr_left
    exact fun v hv => ih v hv (hitems v hv) (hdistinct v hv)
  | @map entries hdots _ ih =>
    have hvalues := (Value.anyRangeEntry_eq_false_iff entries).mp hranges
    obtain ⟨hnodup, hdistinct⟩ := Value.throughout_map_iff.mp hkeys
    rw [normalizeValue_map hnodup hdots, convert, convertEntries_eq_map]
    congr 1
    apply List.map_congr_left
    exact fun e he => congrArg (Prod.mk e.1) (ih e he (hvalues e he) (hdistinct e he))
  | range => cases hranges
  | host =>
    rw [normalizeValue, convert, conditionRule?_of_conditions hrules]
  | _ => rfl

/-- A symbol in an array under a key. -/
theorem normalizeValue_eq_normalizeRecord_symbol :
  ∃ v, v = Value.map [("b", .array [.host 0 (.symbol "x") none, .null]), ("a", .int 1)]
    ∧ core.conditions = [] ∧ v.hasRange = false ∧ v.Undotted ∧ v.Distinct
    ∧ core.normalizeValue v = core.normalizeRecord v
    ∧ core.normalizeRecord v = .map [("b", .array [.string "x", .null]), ("a", .int 1)]
  := by
  let v : Value := .map [("b", .array [.host 0 (.symbol "x") none, .null]), ("a", .int 1)]
  have hthroughout : ∀ K : List String → Prop, K ["b", "a"] → v.Throughout K fun _ _ => True := by
    intro K hK
    have hitems : (Value.array [.host 0 (.symbol "x") none, .null]).Throughout K fun _ _ => True :=
      .array (List.forall_mem_cons.mpr ⟨.host none trivial, List.forall_mem_singleton.mpr .null⟩)
    exact .map hK (List.forall_mem_cons.mpr ⟨hitems, List.forall_mem_singleton.mpr (.int 1)⟩)
  have hdots : v.Undotted := hthroughout _ (by decide)
  have hkeys : v.Distinct := hthroughout _ (by decide)
  exact ⟨v, rfl, rfl, rfl, hdots, hkeys, normalizeValue_eq_normalizeRecord rfl rfl hdots hkeys, rfl⟩

end Normalizer

end DocQuery
