import DocQuery.Proofs.Groups

/-!
# Keys of plain conditions

The text of plain data spells it out, with the order of keys, and no string can pass for anything that is
not a string. Only plain data is made of plain data on the way to a matcher. So the matchers of plain
conditions are known by their keys: the key of a matcher determines the operator, the field and the data
that the matcher was made of.
-/

namespace DocQuery

/-- Plain data is the same if its texts are. -/
theorem Value.Plain.uniqueText_eq_iff {v w : Value} (hv : v.Plain) (hw : w.Plain) :
  v.uniqueText = w.uniqueText ↔ v = w
  := by
  constructor
  · apply (hv.legible default).eq_of_uniqueText_eq (hw.legible default)
  · rintro rfl
    rfl

theorem Value.compositional_plain :
  Compositional Plain
  where
  null := .null
  bool := .bool
  array := plain_array_iff
  map := plain_map_iff
  ends h := nomatch h

/-! ### Keys -/

/-- The matcher was made of an operator and plain data, or of a pattern, which may have been read from
plain data. -/
def Node.OfPlain (n : Node) : Prop :=
  ∃ operator v, n.call? = some (operator, v) ∧ (operator = .regex ∨ v.Plain)

namespace Node

/-- The operator of a usual matcher is a usual one. -/
theorem ne_extension_of_call {n : Node} {operator : Operator} {v : Value}
    (h : n.call? = some (operator, v)) (x : Extension) :
  operator ≠ .extension x
  := by
  rintro rfl
  cases n with
  | leaf l => cases l <;> cases h
  | group grouping => cases grouping <;> cases h
  | literal role => cases role <;> cases h
  | _ => cases h

/-- The key of a matcher that was made of plain data determines the operator, the data and the field. -/
theorem OfPlain.key_eq_iff {n m : Node} (hn : n.OfPlain) (hm : m.OfPlain) :
  n.key = m.key ↔ n.call? = m.call? ∧ n.field? = m.field?
  := by
  obtain ⟨operator, v, hcall, hv⟩ := hn
  obtain ⟨operator', w, hcall', hw⟩ := hm
  constructor
  · intro hkey
    obtain ⟨hfield, rfl, htext⟩ := call_of_key_eq hcall hcall' (ne_extension_of_call hcall)
      (ne_extension_of_call hcall') hkey
    have hargument : v = w := by
      by_cases hregex : operator = .regex
      · subst hregex
        obtain ⟨p, rfl⟩ := exists_pattern hcall
        obtain ⟨q, rfl⟩ := exists_pattern hcall'
        have hrender : p.render = q.render := htext
        rw [Pattern.render_injective hrender]
      · apply ((hv.resolve_left hregex).uniqueText_eq_iff (hw.resolve_left hregex)).mp htext
    rw [hcall, hcall', hargument]
    exact ⟨rfl, hfield⟩
  · rintro ⟨hsame, hfield⟩
    apply String.toList_inj.mp
    rw [key_eq hcall, key_eq (hsame ▸ hcall), hfield]

/-- A matcher that is made of plain data in one step is known by it. -/
theorem Formed.ofPlain {r : Registry} (hr : r.Usual) {n : Node}
    (h : n.Formed fun operator v => r.Offers operator ∧ v.Plain) :
  n.OfPlain
  := by
  cases h with
  | leaf hcall h =>
    cases h with
    | regex => exact ⟨_, _, rfl, .inl rfl⟩
    | probe => exact absurd rfl (hr.ne_extension hcall.1 _)
    | compare | existence | presence | member => exact ⟨_, _, rfl, .inr hcall.2⟩
  | within _ hcall | elements _ hcall | group hcall | literal _ _ _ hcall =>
    exact ⟨_, _, rfl, .inr hcall.2⟩

/-- A matcher in use for a plain condition was made of plain data, or of a pattern. -/
theorem Arises.ofPlain {e : Engine} (he : e.registry.Usual) {v : Value} (hv : v.Plain) {n : Node}
    (h : n.Arises e v) :
  n.OfPlain
  := by
  have hS := e.registry.hereditary_offers.and (Value.compositional_plain.hereditary e.registry)
  have heverywhere := h.everywhere hS fun _ hoperator => ⟨hoperator, hv⟩
  apply heverywhere.here.of_fresh.ofPlain he

end Node

/-- Plain data with equal texts is the same. The matchers of plain conditions, wherever they are in the
tree and whatever forms for arrays have been built, are made of an operator and plain data, or of a
pattern, and those with equal keys are made of the same, for the same field. -/
theorem plain_keys_determine_conditions {e : Engine} (he : e.registry.Usual) {v w : Value}
    (hv : v.Plain) (hw : w.Plain) :
  (v.uniqueText = w.uniqueText ↔ v = w)
    ∧ (∀ n : Node, n.Arises e v →
        ∃ operator condition, n.call? = some (operator, condition)
          ∧ (operator = .regex ∨ condition.Plain))
    ∧ ∀ n m : Node, n.Arises e v → m.Arises e w →
      (n.key = m.key ↔ n.call? = m.call? ∧ n.field? = m.field?)
  := by
  refine ⟨hv.uniqueText_eq_iff hw, fun n hn => hn.ofPlain he hv, fun n m hn hm => ?_⟩
  apply (hn.ofPlain he hv).key_eq_iff (hm.ofPlain he hw)

/-- A string with all that would end it and begin another entry does not pass for the entry, neither in
the text of the condition nor in the key of a field. -/
theorem plain_keys_determine_conditions_quoted :
  ∃ (v w : Value) (n m : Node),
    v = .map [("a", .string "1\", \"b\": \"2")] ∧ w = .map [("a", .string "1"), ("b", .string "2")]
      ∧ fieldNode? .core "c" v = .ok n ∧ fieldNode? .core "c" w = .ok m
      ∧ v.uniqueText ≠ w.uniqueText ∧ n.key ≠ m.key
  := by
  have hv : (Value.map [("a", .string "1\", \"b\": \"2")]).Plain := Value.compositional_plain.singleton (.string _) _
  have hw : (Value.map [("a", .string "1"), ("b", .string "2")]).Plain := by
    apply Value.plain_map_iff.mpr
    simp [Value.Plain.string]
  have hne : Value.map [("a", .string "1\", \"b\": \"2")]
      ≠ .map [("a", .string "1"), ("b", .string "2")] := by simp
  generalize hv' : Value.map [("a", .string "1\", \"b\": \"2")] = v at hv hne ⊢
  generalize hw' : Value.map [("a", .string "1"), ("b", .string "2")] = w at hw hne ⊢
  obtain ⟨n, hn, hcall⟩ : ∃ n, fieldNode? .core "c" v = .ok n ∧ n.call? = some (.literal, v) := by
    rw [← hv']
    exact ⟨_, rfl, rfl⟩
  obtain ⟨m, hm, hcall'⟩ : ∃ m, fieldNode? .core "c" w = .ok m ∧ m.call? = some (.literal, w) := by
    rw [← hw']
    exact ⟨_, rfl, rfl⟩
  obtain ⟨htext, -, hkeys⟩ := plain_keys_determine_conditions (e := .core) Registry.usual_core hv hw
  refine ⟨v, w, n, m, rfl, rfl, hn, hm, fun h => hne (htext.mp h), fun h => hne ?_⟩
  obtain ⟨hsame, -⟩ := (hkeys n m (.field hn) (.field hm)).mp h
  rw [hcall, hcall'] at hsame
  exact (Prod.mk.inj (Option.some.inj hsame)).2

end DocQuery
