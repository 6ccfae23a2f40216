import DocQuery.Proofs.Acceptance
import DocQuery.Proofs.Equality
import DocQuery.Proofs.Outcomes
import DocQuery.Proofs.Upfront

/-!
# Arguments of equality

The argument of equality is brought into normal form as if it were a condition, and the record is left as it
is. So a query for a field that is equal to a value matches a record if the field is equal to the normal form
of the value. That is the value itself exactly if no key in it has a dot.
-/

namespace DocQuery

/-! ### Plain records -/

theorem Value.Plain.hasHost_eq {v : Value} (h : v.Plain) :
  v.hasHost = false
  := by
  induction h with
  | null | bool | int | string => rfl
  | array _ ih => exact (anyHost_eq_false_iff _).mpr ih
  | map _ ih => exact (anyHostEntry_eq_false_iff _).mpr ih

theorem Value.Plain.orNull_eq {v : Value} (h : v.Plain) :
  v.orNull = v
  := by
  cases h <;> rfl

/-- A value without host values is taken out of a record as it is. -/
theorem Context.taken_of_hasHost (c : Context) {v : Value} (h : v.hasHost = false) :
  c.taken v = v
  := by
  have hconvert : c.engine.normalizer.convertTop v = v := by
    cases v with
    | host identity content fields => cases h
    | _ => rfl
  rw [taken, hconvert, ite_self]

/-- A record without host values is left as it is. -/
theorem Query.normalizeRecord_of_hasHost (q : Query) {record : Value} (h : record.hasHost = false) :
  q.normalizeRecord record = record
  := by
  rw [normalizeRecord, Normalizer.normalizeRecord_eq, Normalizer.convert_of_hasHost record h]

/-! ### Equal fields -/

/-- The condition that a field is equal to a value. -/
def fieldEquals (field : String) (v : Value) : Value := .map [(field, .map [("$eq", v)])]

theorem depth_fieldEquals (field : String) (v : Value) :
  (fieldEquals field v).depth = v.depth + 2
  := by
  simp [fieldEquals, Value.depth, Value.depthOfEntries]

theorem plain_fieldEquals (field : String) {v : Value} (h : v.Plain) :
  (fieldEquals field v).Plain
  := .map (List.forall_mem_singleton.mpr (.map (List.forall_mem_singleton.mpr h)))

/-- In the condition that a field is equal to a value, only the value is brought into normal form. -/
theorem normalizeValue_fieldEquals (z : Normalizer) {field : String} (hdot : '.' ∉ field.toList)
    (v : Value) :
  z.normalizeValue (fieldEquals field v) = fieldEquals field (z.normalizeValue v)
  := by
  rw [fieldEquals, Normalizer.normalizeValue_singleton hdot,
    Normalizer.normalizeValue_singleton (by decide), fieldEquals]

/-- Equality applies to an array as a whole, so it holds of all records alike. -/
theorem holds_literal_eq (taken : Value → Value) (v record : Value) :
  Operator.literal.holds taken (.map [("$eq", v)]) record = (record.orNull == v)
  := by
  rw [holds_literal_of_arrayCondition taken record rfl, holds_condition_singleton, entryHolds_equal]
  rfl

section

variable {field : String} (hfield : Registry.core.lookup? field = none)

include hfield

/-- The condition holds of a record with just the field if what is taken out of it is equal to the value. -/
theorem holds_fieldEquals (taken : Value → Value) (v w : Value) :
  Operator.condition.holds taken (fieldEquals field v) (.map [(field, w)])
    = ((taken w).orNull == v)
  := by
  have hdig : (Value.map [(field, w)]).dig? field = some w := by
    rw [Value.dig?, Entries.get?_cons, if_pos rfl, Option.getD_some]
  rw [fieldEquals, holds_field hfield, hdig, Option.any_some, holds_literal_eq]

theorem suits_fieldEquals (v : Value) :
  Suits .core .condition (fieldEquals field v)
  := by
  have heq : Suits .core .condition (.map [("$eq", v)]) :=
    .condition (List.forall_mem_singleton.mpr (.compare .equal v))
  have hliteral : Suits .core (Registry.core.operatorFor field) (.map [("$eq", v)]) := by
    rw [Registry.operatorFor_of_none hfield]
    exact .literal .literal heq
  exact .condition (List.forall_mem_singleton.mpr hliteral)

/-- The condition that a field is equal to a value compiles exactly if the value is not too deep. -/
theorem exists_ofCondition?_fieldEquals_iff (v : Value) (config : Entries) :
  (∃ q, Query.ofCondition? (.new .core config) ⟨fieldEquals field v⟩ = .ok q) ↔ v.depth + 2 ≤ maxDepth
  := by
  have hbuild := exists_build? Engine.core_faultless.plain (by simp) (suits_fieldEquals hfield v)
  rw [Query.exists_ofCondition?_iff, depth_fieldEquals]
  apply and_iff_left hbuild

end

/-! ### Compiled queries -/

/-- A query that was compiled of a plain condition matches a record exactly if the condition holds of
it. -/
theorem Query.isMatch_of_compile {raw : Condition.Raw} {config : Entries} {q : Query}
    (hq : Query.compile? .core raw config = .ok q) (hplain : q.condition.value.Plain) (record : Value) :
  (q.isMatch record).map Prod.fst
    = .ok (Operator.condition.holds q.context.taken q.condition.value (q.normalizeRecord record))
  := by
  have hkept := (Query.Arises.compiled hq).kept Engine.core_sound
  exact (hkept.decides (hkept.settles_of_legible (hplain.legible default))).isMatch

/-- The query for a field that is equal to a value compiles if the normal form of the value is not too deep.
It then matches a plain record exactly if the field is equal to the normal form of the value. A value
without dots in its keys is its own normal form, and for no other value is the query true of just the
records whose field is equal to the value. -/
theorem equality_argument {field : String} (hdot : '.' ∉ field.toList)
    (hfield : Registry.core.has field = false) {v : Value} (hv : v.Plain) (hkeys : v.Distinct)
    (config : Entries) :
  (v.Undotted → Normalizer.core.normalizeValue v = v)
    ∧ ((∃ q, Query.compile? .core (.value (fieldEquals field v)) config = .ok q)
      ↔ (Normalizer.core.normalizeValue v).depth + 2 ≤ maxDepth)
    ∧ ∀ q, Query.compile? .core (.value (fieldEquals field v)) config = .ok q →
      (∀ w, w.Plain → (q.isMatch (.map [(field, w)])).map Prod.fst
          = .ok (w == Normalizer.core.normalizeValue v))
        ∧ ((∀ w, w.Plain → (q.isMatch (.map [(field, w)])).map Prod.fst = .ok (w == v))
          ↔ v.Undotted)
  := by
  have hnone := Registry.lookup?_eq_none_of_has hfield
  have hnormal : Normalizer.core.normalize (.value (fieldEquals field v))
      = ⟨fieldEquals field (Normalizer.core.normalizeValue v)⟩ :=
    congrArg Condition.mk (normalizeValue_fieldEquals .core hdot v)
  have hself (hundotted : v.Undotted) : Normalizer.core.normalizeValue v = v :=
    (Normalizer.core_thorough.normalizeValue_eq_self_iff hundotted).mpr (hv.converted hkeys _)
  refine ⟨hself, ?_, ?_⟩
  · rw [← exists_ofCondition?_fieldEquals_iff hnone _ config, ← hnormal]
    rfl
  · intro q hq
    have hcondition : q.condition = ⟨fieldEquals field (Normalizer.core.normalizeValue v)⟩ :=
      (Query.built_of_compile hq).1.trans hnormal
    have hplain : q.condition.value.Plain := by
      rw [hcondition]
      apply plain_fieldEquals field (Normalizer.core.plain_normalizeValue hv)
    have hmatch : ∀ w, w.Plain → (q.isMatch (.map [(field, w)])).map Prod.fst
        = .ok (w == Normalizer.core.normalizeValue v) := by
      intro w hw
      have hrecord : (Value.map [(field, w)]).Plain := .map (List.forall_mem_singleton.mpr hw)
      rw [Query.isMatch_of_compile hq hplain, q.normalizeRecord_of_hasHost hrecord.hasHost_eq, hcondition,
        holds_fieldEquals hnone, Context.taken_of_hasHost _ hw.hasHost_eq, hw.orNull_eq]
    refine ⟨hmatch, ?_⟩
    constructor
    · intro h
      rw [← Normalizer.beq_normalizeValue_iff (z := .core) hv hkeys]
      have hsame := (hmatch v hv).symm.trans (h v hv)
      rw [Except.ok.inj hsame]
      apply hv.beq_self hkeys
    · intro hundotted
      rwa [hself hundotted] at hmatch

/-- An array of maps is equal to a field whatever the order of the entries, and to none that holds just the
element. -/
theorem equality_argument_array :
  ∃ q, Query.compile? .core
      (.value (fieldEquals "f" (.array [.map [("a", .int 1), ("b", .null)]]))) [] = .ok q
    ∧ (q.isMatch (.map [("f", .array [.map [("b", .null), ("a", .int 1)]])])).map Prod.fst = .ok true
    ∧ (q.isMatch (.map [("f", .map [("a", .int 1), ("b", .null)])])).map Prod.fst = .ok false
  := by
  have hmap : (Value.map [("a", .int 1), ("b", .null)]).Plain :=
    .map (List.forall_mem_cons.mpr ⟨.int 1, List.forall_mem_singleton.mpr .null⟩)
  have hturned : (Value.map [("b", .null), ("a", .int 1)]).Plain :=
    .map (List.forall_mem_cons.mpr ⟨.null, List.forall_mem_singleton.mpr (.int 1)⟩)
  have hentries {K : List String → Prop} (hK : K ["a", "b"]) :
      (Value.array [.map [("a", .int 1), ("b", .null)]]).Throughout K fun _ _ => True :=
    .array (List.forall_mem_singleton.mpr (.map hK
      (List.forall_mem_cons.mpr ⟨.int 1, List.forall_mem_singleton.mpr .null⟩)))
  have hundotted : (Value.array [.map [("a", .int 1), ("b", .null)]]).Undotted := hentries (by decide)
  have hdot : '.' ∉ "f".toList := by decide
  obtain ⟨hself, hcompile, hmatch⟩ := equality_argument hdot rfl
    (.array (List.forall_mem_singleton.mpr hmap)) (hentries (by decide)) []
  obtain ⟨q, hq⟩ := hcompile.mpr (by rw [hself hundotted]; decide)
  have hequal := (hmatch q hq).2.mpr hundotted
  refine ⟨q, hq, ?_, ?_⟩
  · exact hequal _ (.array (List.forall_mem_singleton.mpr hturned))
  · exact hequal _ hmap

/-- A query for a field that is equal to a map with a dot in its key does not match a record whose field is
this map. -/
theorem dotted_argument_misses_itself :
  '.' ∉ "f".toList ∧ Registry.core.has "f" = false
    ∧ (Value.map [("a.b", .int 1)]).Plain
    ∧ (Value.map [("a.b", .int 1)] == .map [("a.b", .int 1)]) = true
    ∧ ∃ q, Query.compile? .core (.value (fieldEquals "f" (.map [("a.b", .int 1)]))) [] = .ok q
      ∧ (q.isMatch (.map [("f", .map [("a.b", .int 1)])])).map Prod.fst = .ok false
  := by
  obtain ⟨q, hq⟩ : ∃ q, Query.compile? .core (.value (fieldEquals "f" (.map [("a.b", .int 1)]))) []
      = .ok q := ⟨_, rfl⟩
  refine ⟨by decide, rfl, .map (List.forall_mem_singleton.mpr (.int 1)), rfl, q, hq, ?_⟩
  cases hq
  set_option maxRecDepth 2000 in rfl

end DocQuery
