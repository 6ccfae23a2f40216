import DocQuery.Proofs.NormalForms
import DocQuery.Proofs.Outcomes
import DocQuery.Proofs.Upfront

/-!
# Negated fields

A negated condition on a field is a condition with a single operator in it. The operator applies to an array
as a whole, and so what the field holds satisfies either the condition or its negation, whether it is an
array or not. A query for a field and the query for its negation have opposite outcomes on every record in
which the field can be looked for.
-/

namespace DocQuery

/-! ### Matchers of literal arguments -/

/-- A negated argument is built of the matcher for records that are no arrays. -/
theorem direct_of_negation {r : Registry} {fuel : Nat} {v : Value} {n : Node}
    (h : build r fuel .negation v = .ok n) :
  ∃ m, build r (fuel - 1) (directCall v).1 (directCall v).2 = .ok m
    ∧ n = .literal .negation v m .unbuilt
  := by
  cases fuel with
  | zero => cases h
  | succ fuel =>
    obtain ⟨m, hm, rfl⟩ := map_eq_ok_iff.mp h
    rw [directNode_eq] at hm
    exact ⟨m, hm, rfl⟩

/-- The matcher of a condition on one field takes the argument literally. -/
theorem literal_of_condition {r : Registry} {field : String} (hfield : r.lookup? field = none)
    {fuel : Nat} {v : Value} {n : Node} (h : build r fuel .condition (.map [(field, v)]) = .ok n) :
  ∃ m, build r (fuel - 1) (directCall v).1 (directCall v).2 = .ok m
    ∧ n = .literal (.field field) v m .unbuilt
  := by
  obtain ⟨e, he, -⟩ | ⟨-, hdirect⟩ := entryNode_eq_ok_iff.mp (entry_of_build h)
  · cases hfield.symm.trans he
  · exact hdirect

/-- The matcher of a negation in a map is that of the negation. -/
theorem negation_of_condition {fuel : Nat} {v : Value} {n : Node}
    (h : build .core fuel .condition (.map [("$not", v)]) = .ok n) :
  ∃ m, build .core (fuel - 1 - 1) (directCall v).1 (directCall v).2 = .ok m
    ∧ n = .literal .negation v m .unbuilt
  := by
  have hkey : Registry.core.operatorFor "$not" = .negation := rfl
  apply direct_of_negation (build_of_entryNode hkey (by simp) (entry_of_build h))

/-- A condition on one key that applies to an array as a whole settles on the same as a literal argument,
on arrays and elsewhere. -/
theorem settles_literal_singleton {c : Context} (hregistry : c.engine.registry = Registry.core)
    {key : String} {v : Value} (hwhole : arrayCondition .core [(key, v)] = .ok [(key, v)]) {n : Node}
    (hn : ∀ fuel n', build .core fuel .condition (.map [(key, v)]) = .ok n' → n' = n)
    {record : Value} {b : Bool} (h : n.Settles c record b) :
  (Node.literal .whole (.map [(key, v)]) n .unbuilt).Settles c record b
  := by
  apply settles_whole hregistry
  · exact fun _ => h
  · intro _ m hm
    obtain ⟨calls, nodes, hcalls, hnodes, rfl⟩ := calls_of_build hm
    rw [arrayCalls, hwhole] at hcalls
    cases hcalls
    obtain ⟨n', hn', rfl⟩ := exists_singleton_of_forall₂ hnodes
    rw [unwrap_distinct_singleton, hn _ _ hn']
    exact h

/-- A negation as a literal argument settles on the opposite of what the argument itself settles on, on
arrays too: its only key is that of an operator, so on an array it is what it is elsewhere. -/
theorem settles_literal_negation {c : Context} (hregistry : c.engine.registry = Registry.core)
    {fuel : Nat} {v : Value} {m : Node}
    (hm : build .core fuel (directCall v).1 (directCall v).2 = .ok m) {test : Value → Bool}
    (h : ∀ x, (Node.literal .whole v m .unbuilt).Settles c x (test x)) (record : Value) :
  (Node.literal .whole (.map [("$not", v)]) (.literal .negation v m .unbuilt) .unbuilt).Settles c record
    (!test record)
  := by
  apply settles_literal_singleton hregistry rfl
  · intro _ n hn
    obtain ⟨m', hm', rfl⟩ := negation_of_condition hn
    rw [build_unique hm' hm]
  · exact settles_role h

/-! ### Queries -/

/-- A record that can be looked into and has no rule can still be looked into when it has been converted. -/
theorem Normalizer.isSome_dig?_convert {z : Normalizer} {record : Value} {key : String}
    (hrule : z.convertsTop record = false) (h : (record.dig? key).isSome) :
  ((z.convert record).dig? key).isSome
  := by
  obtain heq | hcontainer := z.convert_cases hrule
  · rwa [heq]
  · rw [hcontainer.dig?_convert, Option.isSome_map]
    exact h

/-- A field that can be looked for in a record satisfies either a condition or its negation, in whatever
state the queries for the two are and in whatever way the record is evaluated. -/
theorem negated_field_complements {field : String} (hdot : '.' ∉ field.toList)
    (hfield : Registry.core.has field = false) {v : Value} {q q' : Query} (hq : q.Arises .core)
    (hq' : q'.Arises .core)
    (hcondition : q.condition = Normalizer.core.normalize (.value (.map [(field, v)])))
    (hcondition' : q'.condition
      = Normalizer.core.normalize (.value (.map [(field, .map [("$not", v)])])))
    (hconverting : q'.context.converting = q.context.converting) {record : Value}
    (hrecord : (record.dig? field).isSome) :
  (∃ b, q.Concludes record b ∧ q'.Concludes record (!b))
    ∧ (Normalizer.core.convertsTop record = false → ∃ b, q.Decides record b ∧ q'.Decides record (!b))
  := by
  have hnone := Registry.lookup?_eq_none_of_has hfield
  have hkept := hq.kept Engine.core_sound
  have hkept' := hq'.kept Engine.core_sound
  set w := Normalizer.core.normalizeValue v
  have hvalue : q.condition.value = .map [(field, w)] := by
    rw [hcondition]
    apply Normalizer.core.normalizeValue_singleton hdot
  have hvalue' : q'.condition.value = .map [(field, .map [("$not", w)])] := by
    rw [hcondition']
    apply (Normalizer.core.normalizeValue_singleton hdot _).trans
    rw [Normalizer.core.normalizeValue_singleton (by decide)]
  obtain ⟨m, hm, hnode⟩ := literal_of_condition hnone (hvalue ▸ hkept.compiled)
  obtain ⟨_, hdirect', hnode'⟩ := literal_of_condition hnone (hvalue' ▸ hkept'.compiled)
  obtain ⟨m', hm', rfl⟩ := negation_of_condition hdirect'
  obtain rfl := build_unique hm hm'
  obtain ⟨-, hfits⟩ := Engine.core_faultless.invariant hkept.node
  have hunfolds : (Node.literal .whole w m .unbuilt).Unfolds (4 * q.condition.value.depth + 3) := by
    have hfresh := Node.fits_fresh.mpr hfits
    rw [hnode] at hfresh
    exact hfresh
  obtain ⟨test, htest⟩ := hunfolds.exists_settles q.context.converting
  have hsettles : ∀ record : Value, (record.dig? field).isSome → ∃ b,
      q.matcher.node.fresh.Settles q.context record b
        ∧ q'.matcher.node.fresh.Settles q'.context record (!b) := by
    intro record hrecord
    obtain ⟨x, hx⟩ := Option.isSome_iff_exists.mp hrecord
    have hholds : ∀ (c : Context) (test : Value → Bool),
        (Role.field field).holds c record test = test (c.taken x) := by
      intro c test
      rw [Role.holds, Role.subject?, hx]
      rfl
    have htaken : q'.context.taken x = q.context.taken x := by
      rw [Context.taken, Context.taken, hconverting, hkept.engine, hkept'.engine]
    refine ⟨test (q.context.taken x), ?_, ?_⟩
    · have hsettles : (Node.literal (.field field) w m .unbuilt).Settles q.context record _ :=
        settles_role (htest q.context hkept.engine rfl)
      rw [hholds] at hsettles
      rwa [hnode]
    · have hnegation := settles_literal_negation (Context.registry_of_core hkept'.engine) hm
        (htest q'.context hkept'.engine hconverting)
      have hsettles : (Node.literal (.field field) (.map [("$not", w)])
          (.literal .negation w m .unbuilt) .unbuilt).Settles q'.context record _ := settles_role hnegation
      rw [hholds, htaken] at hsettles
      rwa [hnode']
  constructor
  · obtain ⟨b, hb, hb'⟩ := hsettles record hrecord
    exact ⟨b, hkept.concludes hb, hkept'.concludes hb'⟩
  · intro hrule
    have hsame : ∀ k : Query, k.Kept .core → k.normalizeRecord record = Normalizer.core.convert record := by
      intro k hk
      rw [Query.normalizeRecord, hk.engine]
      apply Normalizer.normalizeRecord_eq
    obtain ⟨b, hb, hb'⟩ := hsettles _ (Normalizer.isSome_dig?_convert hrule hrecord)
    rw [← hsame q hkept] at hb
    rw [← hsame q' hkept'] at hb'
    exact ⟨b, hkept.decides hb, hkept'.decides hb'⟩

/-- A field that is to have an element without a value: the array has one, so the query for the field matches
it, and the query for the negation does not. -/
theorem negated_field_complements_null :
  ∃ q q' record, Query.compile? .core (.value (.map [("a", .map [("b", .null)])])) [] = .ok q
    ∧ Query.compile? .core (.value (.map [("a", .map [("$not", .map [("b", .null)])])])) [] = .ok q'
    ∧ record = Value.map [("a", .array [.map [("b", .int 1)], .map []])]
    ∧ (record.dig? "a").isSome
    ∧ q.Decides record true ∧ q'.Decides record false
  := by
  obtain ⟨q, hq⟩ : ∃ q, Query.compile? .core (.value (.map [("a", .map [("b", .null)])])) []
      = .ok q := ⟨_, rfl⟩
  obtain ⟨q', hq'⟩ : ∃ q', Query.compile? .core
      (.value (.map [("a", .map [("$not", .map [("b", .null)])])])) [] = .ok q' := ⟨_, rfl⟩
  let record : Value := .map [("a", .array [.map [("b", .int 1)], .map []])]
  have hrecord : (record.dig? "a").isSome := rfl
  have hconverting : q'.context.converting = q.context.converting := by
    cases hq
    cases hq'
    rfl
  obtain ⟨-, hdecides⟩ := negated_field_complements (by decide) rfl (.compiled hq) (.compiled hq')
    (Query.built_of_compile hq).1 (Query.built_of_compile hq').1 hconverting hrecord
  obtain ⟨b, hb, hb'⟩ := hdecides rfl
  have hmatch : (q.isMatch record).map Prod.fst = .ok true := by
    cases hq
    set_option maxRecDepth 2000 in rfl
  cases hb.isMatch.symm.trans hmatch
  exact ⟨q, q', record, hq, hq', rfl, hrecord, hb, hb'⟩

end DocQuery
