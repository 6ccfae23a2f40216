import DocQuery.Proofs.EqualityArguments

/-!
# Documents as conditions

A plain map without operators and dots among its keys is a condition that asks for just the fields it has.
So it compiles, and it matches itself and every record that has more fields: in the map itself, in its
fields, and so on. Arrays are compared as a whole, and so they have to stay as they are.
-/

namespace DocQuery

/-- No key of a map in the value is an operator. -/
def Value.Inert : Value → Prop :=
  Throughout (fun keys => ∀ key ∈ keys, Registry.core.has key = false) fun _ _ => True

/-- A value includes another one if it is the other one with further entries in maps outside arrays. -/
inductive Value.Includes : Value → Value → Prop
  | same (v : Value) : Includes v v
  | map {entries new : Entries} (value : String → Value)
      (hget : ∀ e ∈ entries, new.get? e.1 = some (value e.1))
      (h : ∀ e ∈ entries, Includes (value e.1) e.2) : Includes (.map new) (.map entries)

/-- A map, taken literally, holds of a map as a condition does. -/
theorem holds_literal_map (taken : Value → Value) (entries new : Entries) :
  Operator.literal.holds taken (.map entries) (.map new)
    = Operator.condition.holds taken (.map entries) (.map new)
  := holds_literal_of_not_isArray taken (.map new) Bool.false_ne_true (.map entries)

/-- Plain data other than a map holds, taken literally, of itself. -/
theorem Value.Plain.holds_literal_self {v : Value} (h : v.Plain) (hkeys : v.Distinct)
    (hmap : v.isMap = false) (taken : Value → Value) :
  Operator.literal.holds taken v v
  := by
  have hself := h.beq_self hkeys
  cases h with
  | null | bool | int | string =>
    rw [holds_literal_of_not_isArray]
    · exact hself
    · exact Bool.false_ne_true
  | array =>
    rw [holds_literal_of_isArray _ _ rfl, Operator.holds, Bool.or_eq_true]
    exact .inl hself
  | map => cases hmap

namespace Value.Includes

variable {v w : Value}

/-- What includes a map is a map whose entries include those of the other. -/
theorem entries {entries : Entries} (hkeys : entries.keys.Nodup) (h : w.Includes (.map entries)) :
  ∃ new : Entries, w = .map new ∧ ∀ e ∈ entries, ∃ x, new.get? e.1 = some x ∧ x.Includes e.2
  := by
  cases h with
  | same =>
    refine ⟨entries, rfl, ?_⟩
    exact fun e he => ⟨e.2, Entries.get?_of_mem hkeys he, .same e.2⟩
  | @map _ new value hget h => exact ⟨new, rfl, fun e he => ⟨value e.1, hget e he, h e he⟩⟩

/-- Plain data is still included in a record that has been converted. -/
theorem convert (h : w.Includes v) (hplain : v.Plain) (n : Normalizer) :
  (n.convert w).Includes v
  := by
  induction h with
  | same v =>
    rw [Normalizer.convert_of_hasHost v hplain.hasHost_eq]
    exact .same v
  | @map entries new value hget _ ih =>
    rw [Normalizer.convert]
    apply Includes.map fun key => n.convert (value key)
    · intro e he
      rw [Normalizer.get?_convertEntries, hget e he, Option.map_some]
    · exact fun e he => ih e he (plain_map_iff.mp hplain e he)

/-- What includes plain data is taken out of a record as it is. -/
theorem taken_eq (h : w.Includes v) (hplain : v.Plain) (c : Context) :
  c.taken w = w
  := by
  cases h with
  | same => exact c.taken_of_hasHost hplain.hasHost_eq
  | map =>
    rw [Context.taken]
    apply ite_self

/-- A document holds, taken literally, of all that includes it. -/
theorem holds_literal (h : w.Includes v) (hplain : v.Plain) (hkeys : v.Distinct) (hinert : v.Inert)
    (c : Context) :
  Operator.literal.holds c.taken v w
  := by
  induction hplain generalizing w with
  | @map entries hplain ih =>
    rw [Distinct, throughout_map_iff] at hkeys
    rw [Inert, throughout_map_iff] at hinert
    obtain ⟨new, rfl, hnew⟩ := h.entries hkeys.1
    rw [holds_literal_map, holds_condition, List.all_eq_true]
    intro e he
    obtain ⟨x, hget, hx⟩ := hnew e he
    have hnone := Registry.lookup?_eq_none_of_has (hinert.1 e.1 (List.mem_map_of_mem he))
    have hdig : (Value.map new).dig? e.1 = some x := by
      rw [dig?, hget, Option.getD_some]
    rw [entryHolds_of_none hnone, hdig, Option.any_some, hx.taken_eq (hplain e he)]
    exact ih e he hx (hkeys.2 e he) (hinert.2 e he)
  | null =>
    cases h
    exact Plain.null.holds_literal_self hkeys rfl _
  | bool b =>
    cases h
    exact (Plain.bool b).holds_literal_self hkeys rfl _
  | int n =>
    cases h
    exact (Plain.int n).holds_literal_self hkeys rfl _
  | string s =>
    cases h
    exact (Plain.string s).holds_literal_self hkeys rfl _
  | array hitems =>
    cases h
    exact (Plain.array hitems).holds_literal_self hkeys rfl _

end Value.Includes

/-- A document, taken literally, is a condition that can be built. -/
theorem suits_of_inert {v : Value} (hplain : v.Plain) (hinert : v.Inert) :
  Suits .core .literal v
  := by
  induction hplain with
  | null | bool | int | string | array => exact .plain .literal rfl
  | map _ ih =>
    rw [Value.Inert, Value.throughout_map_iff] at hinert
    refine .literal .literal (.condition fun e he => ?_)
    have hnone := Registry.lookup?_eq_none_of_has (hinert.1 e.1 (List.mem_map_of_mem he))
    rw [Registry.operatorFor_of_none hnone]
    exact ih e he (hinert.2 e he)

/-- A document without operators and dots among its keys, and not too deep, compiles as it is, and the query
matches the document itself and every record that includes it. -/
theorem document_matches {entries : Entries} (hplain : (Value.map entries).Plain)
    (hkeys : (Value.map entries).Distinct) (hdots : (Value.map entries).Undotted)
    (hinert : (Value.map entries).Inert) (hdepth : (Value.map entries).depth ≤ 64) (config : Entries) :
  ∃ q, Query.compile? .core (.value (.map entries)) config = .ok q
    ∧ (q.isMatch (.map entries)).map Prod.fst = .ok true
    ∧ ∀ w : Value, w.Includes (.map entries) → (q.isMatch w).map Prod.fst = .ok true
  := by
  have hnormal : Normalizer.core.normalizeValue (.map entries) = .map entries :=
    (Normalizer.core_thorough.normalizeValue_eq_self_iff hdots).mpr (hplain.converted hkeys _)
  have hsuits : Suits .core .condition (.map entries) :=
    (suits_of_inert hplain hinert).direct Engine.core_faultless.plain.faithful
  obtain ⟨q, hq⟩ : ∃ q, Query.compile? .core (.value (.map entries)) config = .ok q := by
    rw [Query.compile?, Query.exists_ofCondition?_iff]
    change (Normalizer.core.normalizeValue (.map entries)).depth ≤ 64
      ∧ ∃ n, Operator.condition.build? .core (Normalizer.core.normalizeValue (.map entries)) = .ok n
    rw [hnormal]
    exact ⟨hdepth, exists_build? Engine.core_faultless.plain (by simp) hsuits⟩
  have hvalue : q.condition.value = .map entries := by
    rw [(Query.built_of_compile hq).1]
    exact hnormal
  have hmatch : ∀ w : Value, w.Includes (.map entries) → (q.isMatch w).map Prod.fst = .ok true := by
    intro w hw
    have hincludes : (q.normalizeRecord w).Includes (.map entries) := by
      rw [Query.normalizeRecord, Normalizer.normalizeRecord_eq]
      apply hw.convert hplain
    have hholds := hincludes.holds_literal hplain hkeys hinert q.context
    obtain ⟨new, hnew, -⟩ := hincludes.entries (Value.throughout_map_iff.mp hkeys).1
    rw [hnew, holds_literal_map] at hholds
    rw [Query.isMatch_of_compile hq (hvalue ▸ hplain), hvalue, hnew]
    exact congrArg Except.ok hholds
  exact ⟨q, hq, hmatch _ (.same _), hmatch⟩

/-- A document with a nested null and an array, and a record with further fields beside both. -/
theorem document_matches_nested :
  ∃ q, Query.compile? .core
      (.value (.map [("a", .map [("0", .null)]), ("b", .array [.int 1])])) [] = .ok q
    ∧ (q.isMatch (.map [("c", .int 2), ("b", .array [.int 1]),
        ("a", .map [("d", .host 0 (.symbol "x") none), ("0", .null)])])).map Prod.fst = .ok true
  := by
  have hthroughout {K : List String → Prop} (hK : K ["a", "b"]) (hK' : K ["0"]) : Value.Throughout K
      (fun _ _ => True) (.map [("a", .map [("0", .null)]), ("b", .array [.int 1])]) :=
    .map hK (List.forall_mem_cons.mpr ⟨.map hK' (List.forall_mem_singleton.mpr .null),
      List.forall_mem_singleton.mpr (.array (List.forall_mem_singleton.mpr (.int 1)))⟩)
  have hplain : (Value.map [("a", .map [("0", .null)]), ("b", .array [.int 1])]).Plain :=
    .map (List.forall_mem_cons.mpr ⟨.map (List.forall_mem_singleton.mpr .null),
      List.forall_mem_singleton.mpr (.array (List.forall_mem_singleton.mpr (.int 1)))⟩)
  have hfield : Value.Includes (.map [("d", .host 0 (.symbol "x") none), ("0", .null)])
      (.map [("0", .null)]) :=
    .map (fun _ => .null) (List.forall_mem_singleton.mpr rfl) (List.forall_mem_singleton.mpr (.same _))
  have hincludes : Value.Includes (.map [("c", .int 2), ("b", .array [.int 1]),
      ("a", .map [("d", .host 0 (.symbol "x") none), ("0", .null)])])
      (.map [("a", .map [("0", .null)]), ("b", .array [.int 1])]) :=
    .map (fun key => if key = "a" then .map [("d", .host 0 (.symbol "x") none), ("0", .null)]
        else .array [.int 1])
      (List.forall_mem_cons.mpr ⟨rfl, List.forall_mem_singleton.mpr rfl⟩)
      (List.forall_mem_cons.mpr ⟨hfield, List.forall_mem_singleton.mpr (.same _)⟩)
  obtain ⟨q, hq, -, hmatch⟩ := document_matches hplain (hthroughout (by decide) (by decide))
    (hthroughout (by decide) (by decide)) (hthroughout (by decide) (by decide)) (by decide) []
  exact ⟨q, hq, hmatch _ hincludes⟩

end DocQuery
