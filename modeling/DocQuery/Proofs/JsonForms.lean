import DocQuery.Proofs.FloatOrder
import DocQuery.Proofs.NormalForms

/-!
# JSON forms

The JSON form of plain data, read back, is the data again: numbers keep their kind, and entries their order.
The JSON form of what a document is read as is the document again. Neither holds of anything else: an object
with a name twice and a number that is not finite are no JSON, and what JSON cannot say is lost.
-/

namespace DocQuery

/-! ### What can be expressed -/

/-- The value is data that JSON can express. -/
inductive Value.Expressible : Value → Prop
  | null : Expressible .null
  | bool (b : Bool) : Expressible (.bool b)
  | int (n : Int64) : Expressible (.int n)
  | float {x : Float} (h : x.isFinite) : Expressible (.float x)
  | string (s : String) : Expressible (.string s)
  | array {items : List Value} (h : ∀ v ∈ items, Expressible v) : Expressible (.array items)
  | map {entries : Entries} (hkeys : entries.keys.Nodup) (h : ∀ e ∈ entries, Expressible e.2) :
    Expressible (.map entries)

/-- The names in the objects of the document are distinct, and its numbers finite. -/
inductive Json.Proper : Json → Prop
  | null : Proper .null
  | bool (b : Bool) : Proper (.bool b)
  | int (n : Int64) : Proper (.int n)
  | float {x : Float} (h : x.isFinite) : Proper (.float x)
  | string (s : String) : Proper (.string s)
  | array {items : List Json} (h : ∀ j ∈ items, Proper j) : Proper (.array items)
  | object {members : List (String × Json)} (hnames : (members.map Prod.fst).Nodup)
    (h : ∀ m ∈ members, Proper m.2) : Proper (.object members)

theorem Value.expressible_array_iff {items : List Value} :
  (Value.array items).Expressible ↔ ∀ v ∈ items, v.Expressible
  := by
  constructor
  · intro h
    cases h with
    | array h => exact h
  · exact .array

theorem Value.expressible_map_iff {entries : Entries} :
  (Value.map entries).Expressible ↔ entries.keys.Nodup ∧ ∀ e ∈ entries, e.2.Expressible
  := by
  constructor
  · intro h
    cases h with
    | map hkeys h => exact ⟨hkeys, h⟩
  · exact fun ⟨hkeys, h⟩ => .map hkeys h

theorem Json.proper_array_iff {items : List Json} :
  (Json.array items).Proper ↔ ∀ j ∈ items, j.Proper
  := by
  constructor
  · intro h
    cases h with
    | array h => exact h
  · exact .array

theorem Json.proper_object_iff {members : List (String × Json)} :
  (Json.object members).Proper ↔ (members.map Prod.fst).Nodup ∧ ∀ m ∈ members, m.2.Proper
  := by
  constructor
  · intro h
    cases h with
    | object hnames h => exact ⟨hnames, h⟩
  · exact fun ⟨hnames, h⟩ => .object hnames h

/-! ### Arrays and objects -/

namespace Value

theorem itemsToJson_eq (items : List Value) :
  itemsToJson items = items.map toJson
  := by
  induction items with
  | nil => rfl
  | cons v rest ih => rw [itemsToJson, ih, List.map_cons]

theorem entriesToJson_eq (entries : Entries) :
  entriesToJson entries = entries.map fun e => (e.1, e.2.toJson)
  := by
  induction entries with
  | nil => rfl
  | cons e rest ih => rw [entriesToJson, ih, List.map_cons]

theorem itemsOfJson_eq (items : List Json) :
  itemsOfJson items = items.map ofJson
  := by
  induction items with
  | nil => rfl
  | cons j rest ih => rw [itemsOfJson, ih, List.map_cons]

/-- Whatever the names of an object are, the entries that it is read as have distinct keys. -/
theorem nodup_entriesOfJson (entries : Entries) (h : entries.keys.Nodup) (members : List (String × Json)) :
  (entriesOfJson entries members).keys.Nodup
  := by
  induction members generalizing entries with
  | nil => exact h
  | cons m rest ih => exact ih _ (Entries.nodup_keys_insert h m.1 (ofJson m.2))

theorem entriesOfJson_append {entries : Entries} {members : List (String × Json)}
    (h : (entries.keys ++ members.map Prod.fst).Nodup) :
  entriesOfJson entries members = entries ++ members.map fun m => (m.1, ofJson m.2)
  := by
  induction members generalizing entries with
  | nil => rw [entriesOfJson, List.map_nil, List.append_nil]
  | cons m rest ih =>
    have hnew : m.1 ∉ entries.keys := fun hmem =>
      (List.nodup_append.mp h).2.2 _ hmem _ List.mem_cons_self rfl
    have hkeys := Entries.keys_insert entries m.1 (ofJson m.2)
    rw [if_neg hnew] at hkeys
    rw [List.map_cons, List.append_cons, ← hkeys] at h
    rw [entriesOfJson, ih h, Entries.insert_of_notMem hnew, List.append_assoc, List.map_cons,
      List.singleton_append]

/-- An object with distinct names is read member by member. -/
theorem entriesOfJson_nil {members : List (String × Json)} (h : (members.map Prod.fst).Nodup) :
  entriesOfJson [] members = members.map fun m => (m.1, ofJson m.2)
  := entriesOfJson_append h

end Value

/-- Pairs stay what they are under a change of their second parts exactly if all of these do. -/
theorem map_snd_eq_self_iff {α β : Type} {f : β → β} {items : List (α × β)} :
  (items.map fun e => (e.1, f e.2)) = items ↔ ∀ e ∈ items, f e.2 = e.2
  := by
  rw [map_eq_self_iff]
  apply forall₂_congr
  exact fun e _ => Prod.ext_iff.trans (and_iff_right rfl)

/-! ### There and back -/

namespace Value

theorem ofJson_toJson_map_iff {entries : Entries} :
  ofJson (map entries).toJson = map entries
    ↔ entries.keys.Nodup ∧ ∀ e ∈ entries, ofJson e.2.toJson = e.2
  := by
  have hnames : (entriesToJson entries).map Prod.fst = entries.keys := by
    rw [entriesToJson_eq, List.map_map]
    rfl
  have hentries (h : entries.keys.Nodup) :
      entriesOfJson [] (entriesToJson entries) = entries ↔ ∀ e ∈ entries, ofJson e.2.toJson = e.2 := by
    rw [entriesOfJson_nil (hnames ▸ h), entriesToJson_eq, List.map_map]
    exact map_snd_eq_self_iff (f := fun v : Value => ofJson v.toJson)
  rw [toJson, ofJson, Value.map.injEq]
  constructor
  · intro h
    have hnodup : entries.keys.Nodup := h ▸ nodup_entriesOfJson [] List.nodup_nil _
    exact ⟨hnodup, (hentries hnodup).mp h⟩
  · exact fun ⟨hnodup, h⟩ => (hentries hnodup).mpr h

mutual

/-- The JSON form of a value is read as the value exactly if JSON can express it. -/
theorem ofJson_toJson_eq_self_iff : ∀ v : Value, ofJson v.toJson = v ↔ v.Expressible
  | .null => iff_of_true rfl .null
  | .bool b => iff_of_true rfl (.bool b)
  | .int n => iff_of_true rfl (.int n)
  | .string s => iff_of_true rfl (.string s)
  | .float x => by
    rw [toJson, isFiniteNumber_eq]
    split
    · rename_i h
      exact iff_of_true rfl (.float h)
    · rename_i h
      apply iff_of_false nofun
      rintro ⟨⟩
      contradiction
  | .array items => by
    rw [toJson, ofJson, itemsOfJson_eq, itemsToJson_eq, List.map_map, Value.array.injEq, map_eq_self_iff,
      expressible_array_iff]
    apply forall₂_congr (ofJson_toJson_eq_self_iff_items items)
  | .map entries => by
    rw [ofJson_toJson_map_iff, expressible_map_iff]
    apply and_congr_right'
    apply forall₂_congr (ofJson_toJson_eq_self_iff_entries entries)
  | .missing => iff_of_false nofun nofun
  | .regex p => iff_of_false nofun nofun
  | .range start stop exclusive => iff_of_false nofun nofun
  | .host identity content fields => iff_of_false nofun nofun

theorem ofJson_toJson_eq_self_iff_items :
    ∀ items : List Value, ∀ v ∈ items, (ofJson v.toJson = v ↔ v.Expressible)
  | [] => nofun
  | v :: rest =>
    List.forall_mem_cons.mpr ⟨ofJson_toJson_eq_self_iff v, ofJson_toJson_eq_self_iff_items rest⟩

theorem ofJson_toJson_eq_self_iff_entries :
    ∀ entries : List (String × Value), ∀ e ∈ entries, (ofJson e.2.toJson = e.2 ↔ e.2.Expressible)
  | [] => nofun
  | (_, v) :: rest =>
    List.forall_mem_cons.mpr ⟨ofJson_toJson_eq_self_iff v, ofJson_toJson_eq_self_iff_entries rest⟩

end

theorem toJson_ofJson_object_iff {members : List (String × Json)} :
  (ofJson (.object members)).toJson = .object members
    ↔ (members.map Prod.fst).Nodup ∧ ∀ m ∈ members, (ofJson m.2).toJson = m.2
  := by
  have hmembers (h : (members.map Prod.fst).Nodup) :
      entriesToJson (entriesOfJson [] members) = members ↔ ∀ m ∈ members, (ofJson m.2).toJson = m.2 := by
    rw [entriesOfJson_nil h, entriesToJson_eq, List.map_map]
    exact map_snd_eq_self_iff (f := fun j => (ofJson j).toJson)
  rw [ofJson, toJson, Json.object.injEq]
  constructor
  · intro h
    have hnodup : (members.map Prod.fst).Nodup := by
      rw [← h, entriesToJson_eq, List.map_map]
      exact nodup_entriesOfJson [] List.nodup_nil members
    exact ⟨hnodup, (hmembers hnodup).mp h⟩
  · exact fun ⟨hnodup, h⟩ => (hmembers hnodup).mpr h

mutual

/-- What a document is read as has the document as its JSON form exactly if its names are distinct and its
numbers finite. -/
theorem toJson_ofJson_eq_self_iff : ∀ j : Json, (ofJson j).toJson = j ↔ j.Proper
  | .null => iff_of_true rfl .null
  | .bool b => iff_of_true rfl (.bool b)
  | .int n => iff_of_true rfl (.int n)
  | .string s => iff_of_true rfl (.string s)
  | .float x => by
    rw [ofJson, toJson, isFiniteNumber_eq]
    split
    · rename_i h
      exact iff_of_true rfl (.float h)
    · rename_i h
      apply iff_of_false nofun
      rintro ⟨⟩
      contradiction
  | .array items => by
    rw [ofJson, toJson, itemsToJson_eq, itemsOfJson_eq, List.map_map, Json.array.injEq, map_eq_self_iff,
      Json.proper_array_iff]
    apply forall₂_congr (toJson_ofJson_eq_self_iff_items items)
  | .object members => by
    rw [toJson_ofJson_object_iff, Json.proper_object_iff]
    apply and_congr_right'
    apply forall₂_congr (toJson_ofJson_eq_self_iff_members members)

theorem toJson_ofJson_eq_self_iff_items :
    ∀ items : List Json, ∀ j ∈ items, ((ofJson j).toJson = j ↔ j.Proper)
  | [] => nofun
  | j :: rest =>
    List.forall_mem_cons.mpr ⟨toJson_ofJson_eq_self_iff j, toJson_ofJson_eq_self_iff_items rest⟩

theorem toJson_ofJson_eq_self_iff_members :
    ∀ members : List (String × Json), ∀ m ∈ members, ((ofJson m.2).toJson = m.2 ↔ m.2.Proper)
  | [] => nofun
  | (_, j) :: rest =>
    List.forall_mem_cons.mpr ⟨toJson_ofJson_eq_self_iff j, toJson_ofJson_eq_self_iff_members rest⟩

end

end Value

/-- A value is what its JSON form is read as exactly if it is data that JSON can express, and a document is
the JSON form of what it is read as exactly if its names are distinct and its numbers finite. -/
theorem json_round_trip :
  (∀ v : Value, Value.ofJson v.toJson = v ↔ v.Expressible)
    ∧ ∀ j : Json, (Value.ofJson j).toJson = j ↔ j.Proper
  := ⟨Value.ofJson_toJson_eq_self_iff, Value.toJson_ofJson_eq_self_iff⟩

end DocQuery
