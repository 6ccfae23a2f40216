import DocQuery.Proofs.Converting
import DocQuery.Proofs.Scalars

/-!
# Converting up front

A record may be converted as a whole before a query evaluates it, or it may be left as it is, and the
query converts what it takes out. Where rules yield plain data and a condition compares scalars only,
the two come to the same, with one exception: a membership test does not convert the elements of the
array that it looks at. If no membership test is asked about an array with an element that has a rule,
converting up front changes nothing.
-/

namespace DocQuery

/-! ### Converted values -/

theorem Value.anyHost_eq_false_iff (items : List Value) :
  anyHost items = false ↔ ∀ v ∈ items, v.hasHost = false
  := by
  induction items with
  | nil => simp [anyHost]
  | cons v rest ih => rw [anyHost, Bool.or_eq_false_iff, ih, List.forall_mem_cons]

theorem Value.anyHostEntry_eq_false_iff (entries : Entries) :
  anyHostEntry entries = false ↔ ∀ e ∈ entries, e.2.hasHost = false
  := by
  induction entries with
  | nil => simp [anyHostEntry]
  | cons e rest ih => rw [anyHostEntry, Bool.or_eq_false_iff, ih, List.forall_mem_cons]

/-- What the rules make of host values in records is plain data. -/
def Normalizer.YieldsData (n : Normalizer) : Prop :=
  ∀ identity content v, n.recordRule? identity content = some v → v.hasHost = false

/-- What the rules make of host values in records are strings. -/
def Normalizer.YieldsStrings (n : Normalizer) : Prop :=
  ∀ identity content v, n.recordRule? identity content = some v → ∃ s, v = .string s

theorem Normalizer.YieldsStrings.yieldsData {n : Normalizer} (hn : n.YieldsStrings) :
  n.YieldsData
  := by
  intro identity content v hv
  obtain ⟨s, rfl⟩ := hn identity content v hv
  rfl

/-- The value is an array or a map. -/
def Value.IsContainer (v : Value) : Prop := v.isArray ∨ v.isMap

section

variable {n : Normalizer}

theorem Normalizer.convertItems_eq_map (items : List Value) :
  n.convertItems items = items.map n.convert
  := by
  induction items with
  | nil => rfl
  | cons v rest ih => rw [convertItems, ih, List.map_cons]

theorem Normalizer.get?_convertEntries (entries : Entries) (key : String) :
  Entries.get? (n.convertEntries entries) key = (Entries.get? entries key).map n.convert
  := by
  induction entries with
  | nil => rfl
  | cons e rest ih =>
    obtain ⟨k, v⟩ := e
    rw [convertEntries, Entries.get?_cons, Entries.get?_cons, ih]
    split <;> rfl

mutual

/-- Plain data is not changed by converting it. -/
theorem Normalizer.convert_of_hasHost : ∀ v : Value, v.hasHost = false → n.convert v = v
  | .array items, h => by rw [convert, convertItems_of_hasHost items h]
  | .map entries, h => by rw [convert, convertEntries_of_hasHost entries h]
  | .host _ _ _, h => by cases h
  | .null, _ | .missing, _ | .bool _, _ | .int _, _ | .float _, _ | .string _, _ | .regex _, _
  | .range _ _ _, _ => rfl

theorem Normalizer.convertItems_of_hasHost :
    ∀ items : List Value, Value.anyHost items = false → n.convertItems items = items
  | [], _ => rfl
  | v :: rest, h => by
    obtain ⟨hv, hrest⟩ := Bool.or_eq_false_iff.mp h
    rw [convertItems, convert_of_hasHost v hv, convertItems_of_hasHost rest hrest]

theorem Normalizer.convertEntries_of_hasHost :
    ∀ entries : List (String × Value), Value.anyHostEntry entries = false →
      n.convertEntries entries = entries
  | [], _ => rfl
  | (key, v) :: rest, h => by
    obtain ⟨hv, hrest⟩ := Bool.or_eq_false_iff.mp h
    rw [convertEntries, convert_of_hasHost v hv, convertEntries_of_hasHost rest hrest]

end

/-- Normalizing a record is converting it. -/
theorem Normalizer.normalizeRecord_eq (record : Value) :
  n.normalizeRecord record = n.convert record
  := by
  rw [normalizeRecord]
  split
  · rfl
  · rename_i h
    rw [convert_of_hasHost record (Bool.eq_false_iff.mpr h)]

/-- A value without a rule is not changed by converting it, or it is an array or a map. -/
theorem Normalizer.convert_cases {v : Value} (h : n.convertsTop v = false) :
  n.convert v = v ∨ v.IsContainer
  := by
  cases v with
  | array items => exact .inr (.inl rfl)
  | map entries => exact .inr (.inr rfl)
  | host identity content fields => exact .inl (n.convertTop_eq h)
  | _ => exact .inl rfl

variable (hn : n.YieldsData)

include hn

/-- What is taken out of a record has no rule any more. -/
theorem Normalizer.YieldsData.convertsTop_convertTop (v : Value) :
  n.convertsTop (n.convertTop v) = false
  := by
  cases v with
  | host identity content fields =>
    rw [convertTop]
    cases hrule : n.recordRule? identity content with
    | none => rw [Option.getD_none, convertsTop, hrule, Option.isSome_none]
    | some w =>
      have hdata := hn identity content w hrule
      cases w with
      | host _ _ _ => cases hdata
      | _ => rfl
  | _ => rfl

/-- A value that was converted is taken as it is. -/
theorem Normalizer.YieldsData.convertTop_convert (v : Value) :
  n.convertTop (n.convert v) = n.convert v
  := by
  cases v with
  | host identity content fields =>
    apply n.convertTop_eq (hn.convertsTop_convertTop (.host identity content fields))
  | _ => rfl

/-- A value that was taken out of a record is converted to what the value itself is converted to. -/
theorem Normalizer.YieldsData.convert_convertTop (v : Value) :
  n.convert (n.convertTop v) = n.convert v
  := by
  cases v with
  | host identity content fields =>
    rw [convertTop, convert]
    cases hrule : n.recordRule? identity content with
    | none => rw [Option.getD_none, convert, hrule, Option.getD_none]
    | some w => exact convert_of_hasHost w (hn identity content w hrule)
  | _ => rfl

end

/-! ### Leaves -/

section

variable {n : Normalizer}

/-- A scalar equals no array and no map. -/
theorem Value.beq_container {v w : Value} (h : v.isScalar) (hw : w.IsContainer) :
  (v == w) = false ∧ (w == v) = false
  := by
  cases w with
  | array items => cases v <;> first | exact ⟨rfl, rfl⟩ | cases h
  | map entries => cases v <;> first | exact ⟨rfl, rfl⟩ | cases h
  | _ => cases hw <;> contradiction

/-- Converting an array or a map makes an array or a map of it. -/
theorem Value.IsContainer.convert {v : Value} (h : v.IsContainer) :
  (n.convert v).IsContainer
  := by
  cases v with
  | array items => exact .inl rfl
  | map entries => exact .inr rfl
  | _ => cases h <;> contradiction

/-- What a converted array or map has under a key is what the array or map has under it, converted. -/
theorem Value.IsContainer.dig?_convert {v : Value} (h : v.IsContainer) (key : String) :
  (n.convert v).dig? key = (v.dig? key).map n.convert
  := by
  cases v with
  | array items =>
    rw [Normalizer.convert, Normalizer.convertItems_eq_map, Value.dig?, Value.dig?, List.length_map]
    cases arrayIndex? key items.length with
    | none => rfl
    | some i =>
      rw [Option.bind_some, Option.bind_some, List.getElem?_map]
      cases items[i]? <;> rfl
  | map entries =>
    rw [Normalizer.convert, Value.dig?, Value.dig?, Normalizer.get?_convertEntries]
    cases Entries.get? entries key <;> rfl
  | _ => cases h <;> contradiction

/-- All arrays and maps compare alike with an argument that is not compared with them as a whole. -/
theorem Comparison.holds_container {c : Comparison} {argument : Value}
    (hscalar : (Leaf.compare c argument).ComparesScalars) {v w : Value} (hv : v.IsContainer)
    (hw : w.IsContainer) :
  c.holds v.orNull argument = c.holds w.orNull argument
  := by
  have hcompare : ∀ {x : Value}, x.IsContainer → x.orNull = x ∧ x.compare? argument = none := by
    intro x hx
    cases x with
    | array items => cases argument <;> exact ⟨rfl, rfl⟩
    | map entries => cases argument <;> exact ⟨rfl, rfl⟩
    | _ => cases hx <;> contradiction
  obtain ⟨hvnull, hvcompare⟩ := hcompare hv
  obtain ⟨hwnull, hwcompare⟩ := hcompare hw
  rw [hvnull, hwnull]
  unfold holds
  cases c with
  | equal => rw [(Value.beq_container hscalar hv).2, (Value.beq_container hscalar hw).2]
  | notEqual => rw [(Value.beq_container hscalar hv).2, (Value.beq_container hscalar hw).2]
  | _ => simp only [hvcompare, hwcompare]

/-- The value is an array with an element that has a rule. -/
def Value.hasConvertible (n : Normalizer) : Value → Bool
  | .array items => items.any n.convertsTop
  | _ => false

theorem Value.convertsTop_of_mem {items : List Value} {v : Value}
    (h : (Value.array items).hasConvertible n = false) (hv : v ∈ items) :
  n.convertsTop v = false
  := by
  have hnone := List.any_eq_false.mp h v hv
  exact Bool.eq_false_iff.mpr hnone

/-- Whether an array or a map, or an element of it, is among scalars does not depend on converting it,
if no element has a rule. -/
theorem intersects_convert {record : Value} (hrecord : record.IsContainer)
    (h : record.hasConvertible n = false) {items : List Value} (hitems : ∀ v ∈ items, v.isScalar) :
  intersects (n.convert record) items = intersects record items
  := by
  have hnone : ∀ {v : Value}, v.IsContainer → items.any (· == v) = false := by
    intro v hv
    apply List.any_eq_false.mpr
    intro w hw
    rw [(Value.beq_container (hitems w hw) hv).1]
    exact Bool.false_ne_true
  cases record with
  | array elements =>
    have helement : ∀ v ∈ elements, items.any (· == n.convert v) = items.any (· == v) := by
      intro v hv
      obtain heq | hcontainer := n.convert_cases (Value.convertsTop_of_mem h hv)
      · rw [heq]
      · rw [hnone hcontainer, hnone hcontainer.convert]
    rw [Normalizer.convert, Normalizer.convertItems_eq_map, intersects, intersects, List.any_map,
      Bool.eq_iff_iff, List.any_eq_true, List.any_eq_true]
    apply exists_congr
    intro v
    apply and_congr_right
    intro hv
    rw [← helement v hv]
    rfl
  | map entries => exact (hnone (.inr rfl)).trans (hnone (.inr rfl)).symm
  | _ => cases hrecord <;> contradiction

/-- The matcher is a membership test. -/
def Node.isMembership : Node → Bool
  | .leaf (.member _ _) => true
  | .within _ _ _ => true
  | _ => false

/-- A leaf that compares scalars comes to the same on an array or a map when this is converted, if the
leaf is no membership test of an array with an element that has a rule. -/
theorem Leaf.test_convert {s : Surroundings} {l : Leaf} (hl : l.ComparesScalars) {record : Value}
    (hrecord : record.IsContainer)
    (hprobe : ∀ p, l = .probe p → p.test s (n.convert record) = p.test s record)
    (hmember : (Node.leaf l).isMembership → record.hasConvertible n = false) :
  l.test s (n.convert record) = l.test s record
  := by
  cases l with
  | compare c argument => rw [test, test, Comparison.holds_container hl hrecord.convert hrecord]
  | member negated items => rw [test, test, intersects_convert hrecord (hmember rfl) hl]
  | probe p => exact hprobe p rfl
  | _ =>
    cases record with
    | array items => cases items <;> rfl
    | map entries => cases entries <;> rfl
    | _ => cases hrecord <;> contradiction

end

/-! ### Evaluations that descend -/

/-- To evaluate a matcher on a record, another matcher may be evaluated on another record. -/
inductive Asks (c : Context) : Node × Value → Node × Value → Prop
  | bounds {negated : Bool} {argument record : Value} {bounds : Node} (h : record.isArray = false) :
    Asks c (.within negated argument bounds, record) (bounds, record)
  | item {negated : Bool} {argument : Value} {bounds : Node} {items : List Value} {v : Value}
      (h : v ∈ items) : Asks c (.within negated argument bounds, .array items) (bounds, v)
  | element {quantifier : Quantifier} {argument : Value} {inner : Node} {items : List Value} {v : Value}
      (h : v ∈ items) :
    Asks c (.elements quantifier argument inner, .array items) (inner, c.taken v)
  | child {grouping : Grouping} {argument record : Value} {children : List Node} {n : Node}
      (h : n ∈ children) : Asks c (.group grouping argument children, record) (n, record)
  | direct {role : Role} {argument record x : Value} {direct : Node} {form : Form}
      (hx : role.subject? c record = some x) (h : x.isArray = false) :
    Asks c (.literal role argument direct form, record) (direct, x)
  | form {role : Role} {argument record x : Value} {direct n : Node} {form : Form}
      (hx : role.subject? c record = some x) (h : x.isArray)
      (hn : Operator.arrayRecord.build? c.engine.registry argument = .ok n) :
    Asks c (.literal role argument direct form, record) (n, x)

/-- No membership test to which evaluating the matcher on the record may come is asked about an array
with an element that has a rule. -/
def Node.Spared (c : Context) (n : Node) (record : Value) : Prop :=
  ∀ m x, Relation.ReflTransGen (Asks c) (n, record) (m, x) → m.isMembership →
    x.hasConvertible c.engine.normalizer = false

theorem Node.Spared.of_asks {c : Context} {n m : Node} {record x : Value} (h : n.Spared c record)
    (hasks : Asks c (n, record) (m, x)) :
  m.Spared c x
  := fun k y hy => h k y (.head hasks hy)

section

variable {c : Context} {record : Value}

/-- A matcher is spared if it overlooks nothing itself and all that it asks is spared. -/
theorem Node.spared_of_asks {n : Node}
    (hn : n.isMembership → record.hasConvertible c.engine.normalizer = false)
    (h : ∀ m x, Asks c (n, record) (m, x) → m.Spared c x) :
  n.Spared c record
  := by
  intro m x hreaches
  obtain heq | ⟨⟨k, y⟩, hasks, hreaches⟩ := Relation.ReflTransGen.cases_head hreaches
  · cases heq
    exact hn
  · apply h k y hasks m x hreaches

theorem Node.spared_leaf {l : Leaf}
    (h : (leaf l).isMembership → record.hasConvertible c.engine.normalizer = false) :
  (leaf l).Spared c record
  := spared_of_asks h fun _ _ hasks => nomatch hasks

theorem Node.spared_elements {quantifier : Quantifier} {argument : Value} {inner : Node}
    {items : List Value} (h : ∀ v ∈ items, inner.Spared c (c.taken v)) :
  (elements quantifier argument inner).Spared c (.array items)
  := by
  refine spared_of_asks (fun h => ?_) ?_
  · cases h
  · rintro m x (_ | _ | hv)
    apply h _ hv

theorem Node.spared_group {grouping : Grouping} {argument : Value} {children : List Node}
    (h : ∀ n ∈ children, n.Spared c record) :
  (group grouping argument children).Spared c record
  := by
  refine spared_of_asks (fun h => ?_) ?_
  · cases h
  · rintro m x (_ | _ | _ | hm)
    apply h m hm

/-- A literal argument is spared if its matcher is, or its form for arrays, on what it is matched
with. -/
theorem Node.spared_literal {role : Role} {argument x : Value} {direct : Node} {form : Form}
    (hx : role.subject? c record = some x) (hdirect : x.isArray = false → direct.Spared c x)
    (hform : x.isArray → ∀ n, Operator.arrayRecord.build? c.engine.registry argument = .ok n →
      n.Spared c x) :
  (literal role argument direct form).Spared c record
  := by
  refine spared_of_asks (fun h => ?_) ?_
  · cases h
  · intro m y hasks
    cases hasks with
    | direct hy h =>
      cases hx.symm.trans hy
      apply hdirect h
    | form hy h hn =>
      cases hx.symm.trans hy
      apply hform h m hn

end

/-- The matchers of further operators do not look into arrays and maps. -/
def Engine.Shallow (e : Engine) : Prop :=
  ∀ p, e.registry.HasProbe p → ∀ s v, v.IsContainer →
    p.test s (e.normalizer.convert v) = p.test s v

section

variable {c : Context} (hconverting : c.converting = true) (hdata : c.engine.normalizer.YieldsData)

include hconverting hdata

/-- What is taken out of a record has no rule any more. -/
theorem Context.convertsTop_taken (v : Value) :
  c.engine.normalizer.convertsTop (c.taken v) = false
  := by
  rw [taken, if_pos hconverting, hdata.convertsTop_convertTop]

/-- Taking a value out of a converted record is converting what is taken out of the record. -/
theorem Context.taken_convert (v : Value) :
  c.taken (c.engine.normalizer.convert v) = c.engine.normalizer.convert (c.taken v)
  := by
  rw [taken, taken, if_pos hconverting, if_pos hconverting, hdata.convertTop_convert,
    hdata.convert_convertTop]

/-- What a literal argument is matched with has no rule. -/
theorem Role.convertsTop_subject {role : Role} {record x : Value}
    (h : c.engine.normalizer.convertsTop record = false) (hx : role.subject? c record = some x) :
  c.engine.normalizer.convertsTop x = false
  := by
  cases role with
  | field name =>
    obtain ⟨v, -, rfl⟩ := Option.map_eq_some_iff.mp hx
    apply Context.convertsTop_taken hconverting hdata
  | size =>
    obtain ⟨items, -, rfl⟩ := Option.map_eq_some_iff.mp hx
    apply Normalizer.settled_ofInt _ _ .refl
  | _ =>
    cases hx
    exact h

/-- What a literal argument is matched with in a converted array or map is what it is matched with in
the array or map, converted. -/
theorem Role.subject_convert (role : Role) {record : Value} (h : record.IsContainer) :
  role.subject? c (c.engine.normalizer.convert record)
    = (role.subject? c record).map c.engine.normalizer.convert
  := by
  cases role with
  | field name =>
    rw [subject?, subject?, h.dig?_convert, Option.map_map, Option.map_map]
    apply Option.map_congr
    exact fun v _ => Context.taken_convert hconverting hdata v
  | size =>
    cases record with
    | array items =>
      have hlength : (c.engine.normalizer.convertItems items).length = items.length := by
        rw [Normalizer.convertItems_eq_map, List.length_map]
      have hsettled := Normalizer.settled_ofInt (n := c.engine.normalizer) items.length
      rw [Normalizer.convert, subject?, subject?, Value.asArray?, Value.asArray?, Option.map_some,
        Option.map_some, Option.map_some, hlength, hsettled.convert_eq]
    | map entries => rfl
    | _ => cases h <;> contradiction
  | _ => rfl

/-- The verdict of a matcher whose leaves compare scalars is the same on a record as it is and on the
record converted up front, unless it comes to a membership test of an array with an element that has a
rule. -/
theorem Node.verdict_convert (hshallow : c.engine.Shallow) {Q : Value → Prop} {k : Nat} {n : Node}
    (hfits : n.Fits c.engine.registry (fun l => c.engine.registry.HasLeaf l ∧ l.ComparesScalars) Q k)
    {record : Value} (hrecord : c.engine.normalizer.convertsTop record = false)
    (hspared : n.Spared c record) :
  n.verdict c k (c.engine.normalizer.convert record) = n.verdict c k record
  := by
  induction k generalizing n record with
  | zero => cases hfits
  | succ k ih =>
    obtain heq | hcontainer := c.engine.normalizer.convert_cases hrecord
    · rw [heq]
    · cases n with
      | leaf l =>
        apply Leaf.test_convert hfits.2 hcontainer
        · rintro p rfl
          apply hshallow p (hfits.1 p rfl) _ record hcontainer
        · exact hspared _ _ .refl
      | within negated argument bounds =>
        cases record with
        | array items =>
          have hitem : ∀ v ∈ items, c.engine.normalizer.convertsTop v = false :=
            fun v hv => Value.convertsTop_of_mem (hspared _ _ .refl rfl) hv
          rw [Normalizer.convert, Normalizer.convertItems_eq_map, verdict, verdict, List.map_map]
          congr 1
          apply List.map_congr_left
          exact fun v hv => ih (n := bounds) hfits (hitem v hv) (hspared.of_asks (.item hv))
        | map entries => exact ih (n := bounds) hfits hrecord (hspared.of_asks (.bounds rfl))
        | _ => cases hcontainer <;> contradiction
      | elements quantifier argument inner =>
        cases record with
        | array items =>
          cases items with
          | nil => rfl
          | cons item items =>
            rw [Normalizer.convert, Normalizer.convertItems_eq_map, List.map_cons, verdict, verdict,
              ← List.map_cons, List.map_map]
            congr 1
            apply List.map_congr_left
            intro v hv
            rw [Function.comp_apply, Context.taken_convert hconverting hdata]
            apply ih (n := inner) hfits (Context.convertsTop_taken hconverting hdata v)
              (hspared.of_asks (.element hv))
        | map entries => rfl
        | _ => cases hcontainer <;> contradiction
      | group grouping argument children =>
        rw [verdict, verdict]
        congr 1
        apply List.map_congr_left
        exact fun m hm => ih (hfits m hm) hrecord (hspared.of_asks (.child hm))
      | literal role argument direct form =>
        obtain ⟨-, hdirect, hform⟩ := hfits
        rw [verdict, verdict, Role.subject_convert hconverting hdata role hcontainer]
        cases hx : role.subject? c record with
        | none => rfl
        | some x =>
          have hxrule := Role.convertsTop_subject hconverting hdata hrecord hx
          obtain heq | hxcontainer := c.engine.normalizer.convert_cases hxrule
          · rw [Option.map_some, heq]
          · cases x with
            | array items =>
              cases hbuild : Operator.arrayRecord.build? c.engine.registry argument with
              | error e => rfl
              | ok m =>
                have hverdict := ih (hform m hbuild) hxrule (hspared.of_asks (.form hx rfl hbuild))
                rw [Normalizer.convert] at hverdict
                simp only [Option.map_some, Normalizer.convert, hverdict]
            | map entries =>
              have hverdict := ih hdirect hxrule (hspared.of_asks (.direct hx rfl))
              rw [Normalizer.convert] at hverdict
              simp only [Option.map_some, Normalizer.convert, hverdict]
            | _ => cases hxcontainer <;> contradiction

end

/-! ### Queries -/

/-- The rules that every engine has make strings of host values. -/
theorem Normalizer.core_yieldsStrings :
  Normalizer.core.YieldsStrings
  := by
  intro identity content v h
  cases content with
  | symbol _ | instant _ | localTime _ | date _ =>
    cases h
    exact ⟨_, rfl⟩
  | _ => cases h

/-- An engine with the usual operators has no further ones that could look into a record. -/
theorem Engine.shallow_of_registry {e : Engine} (h : e.registry = .core) :
  e.Shallow
  := by
  intro p hp
  rw [h] at hp
  exact absurd hp (core_probes p)

/-- The matcher of a query whose condition compares scalars has leaves that do. -/
theorem Query.Kept.fits_comparesScalars {e : Engine} (he : e.Sound) {q : Query} (hq : q.Kept e)
    (hscalars : Operator.condition.comparesScalars e.registry q.condition.value) :
  q.matcher.node.Fits e.registry (fun l => e.registry.HasLeaf l ∧ l.ComparesScalars) (fun _ => True)
    (4 * q.condition.value.depth + 3)
  := by
  have hS := e.registry.hereditary_offers.and (hereditary_comparesScalars he.faithful)
  have hoffers : e.registry.Offers .condition := Registry.offers_of_ne (by simp)
  apply Node.fits_fresh.mp
  apply fits_of_build hS _ he.faithful (fun _ _ => trivial) ⟨hoffers, hscalars⟩ hq.compiled
  exact fun _ _ _ hcall hl => ⟨hcall.1.hasLeaf hl, hl.comparesScalars hcall.2⟩

/-- Converting a map up front does not change what a query comes to that converts what it takes out and
compares scalars only, unless it comes to a membership test of an array with an element that has a
rule. -/
theorem upfront_conversion_agrees {e : Engine} (he : e.Sound) (hdata : e.normalizer.YieldsData)
    (hshallow : e.Shallow) {q : Query} (hq : q.Arises e) (hconverting : q.context.converting = true)
    (hscalars : Operator.condition.comparesScalars e.registry q.condition.value) {entries : Entries}
    (hspared : q.matcher.node.Spared q.context (.map entries)) :
  (q.evaluate (.map entries)).map Prod.fst
      = (q.evaluate (q.normalizeRecord (.map entries))).map Prod.fst
    ∧ AbortsByOverflow e (q.evaluate (.map entries))
  := by
  have hkept := hq.kept he
  have hfits := hkept.fits_comparesScalars he hscalars
  constructor
  · rw [he.query_evaluate hq.inUse, he.query_evaluate hq.inUse]
    obtain rfl := hkept.engine
    rw [Query.normalizeRecord, Normalizer.normalizeRecord_eq]
    exact (Node.verdict_convert hconverting hdata hshallow hfits rfl hspared).symm
  · apply (he.abortsByOverflow hq.inUse _).1

/-- An array of symbols under one field and a symbol under another: the first is looked into by a
condition on elements, and the membership test sees the second after it has been converted. -/
theorem upfront_conversion_agrees_symbols :
  ∃ q, ∃ entries : Entries, Query.compile? .core
      (.value (.map [("a", .string "x"), ("b", .map [("$in", .array [.string "y"])])])) [] = .ok q
    ∧ q.matcher.node.Spared q.context (.map entries)
    ∧ (q.evaluate (.map entries)).map Prod.fst
      = (q.evaluate (q.normalizeRecord (.map entries))).map Prod.fst
    ∧ (q.evaluate (.map entries)).map Prod.fst = .ok (.ok true)
  := by
  obtain ⟨q, hq⟩ : ∃ q, Query.compile? .core
      (.value (.map [("a", .string "x"), ("b", .map [("$in", .array [.string "y"])])])) [] = .ok q :=
    ⟨_, rfl⟩
  let entries : Entries :=
    [("a", .array [.host 0 (.symbol "x") none]), ("b", .host 1 (.symbol "y") none)]
  have hspared : q.matcher.node.Spared q.context (.map entries) := by
    cases hq
    apply Node.spared_group
    refine List.forall_mem_cons.mpr ⟨?_, List.forall_mem_singleton.mpr ?_⟩
    · refine Node.spared_literal rfl (fun h => ?_) ?_
      · cases h
      · intro _ n hn
        cases hn
        apply Node.spared_elements
        refine fun v _ => Node.spared_leaf fun h => ?_
        cases h
    · refine Node.spared_literal rfl (fun _ => Node.spared_leaf fun _ => rfl) (fun h => ?_)
      cases h
  have hscalars : Operator.condition.comparesScalars Engine.core.registry q.condition.value := by
    cases hq
    rfl
  have hconverting : q.context.converting = true := by
    cases hq
    rfl
  obtain ⟨hagree, -⟩ := upfront_conversion_agrees Engine.core_sound Normalizer.core_yieldsStrings.yieldsData
    (Engine.shallow_of_registry rfl) (.compiled hq) hconverting hscalars hspared
  refine ⟨q, entries, hq, hspared, hagree, ?_⟩
  cases hq
  set_option maxRecDepth 2000 in rfl

/-- A symbol in an array under a field that a membership test looks at: the query matches the record that
was converted up front, and it does not match the record as it is, although it converts. -/
theorem membership_overlooks_symbol :
  Engine.core.Sound ∧ Engine.core.normalizer.YieldsData ∧ ∃ q, ∃ entries : Entries,
    Query.compile? .core (.value (.map [("a", .map [("$in", .array [.string "x"])])])) [] = .ok q
    ∧ q.context.converting = true
    ∧ Operator.condition.comparesScalars Engine.core.registry q.condition.value
    ∧ (q.evaluate (.map entries)).map Prod.fst = .ok (.ok false)
    ∧ (q.evaluate (q.normalizeRecord (.map entries))).map Prod.fst = .ok (.ok true)
  := by
  refine ⟨Engine.core_sound, Normalizer.core_yieldsStrings.yieldsData, _,
    [("a", .array [.host 0 (.symbol "x") none])], rfl, rfl, rfl, ?_, ?_⟩
  · set_option maxRecDepth 2000 in rfl
  · set_option maxRecDepth 2000 in rfl

end DocQuery
