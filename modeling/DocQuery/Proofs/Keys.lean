import DocQuery.Proofs.Reachable
import DocQuery.Proofs.Texts

/-!
# Keys identify matchers

The key of a matcher names the operator that made it and spells out its argument. Building is a
function of the two, so where texts determine arguments, keys determine matchers: of matchers with
equal keys only one is kept, and the others are the same. A group then has the matchers that it
would have without dropping any.
-/

namespace DocQuery

/-! ### What a matcher was made of -/

/-- The operator and the argument that make a leaf, if it is a usual one. -/
def Leaf.call? : Leaf → Option (Operator × Value)
  | compare c argument => some (.compare c, argument)
  | existence expected => some (.existence, .bool expected)
  | presence expected => some (.presence, .bool expected)
  | regex p => some (.regex, .regex p)
  | member negated items => some (.member negated, .array items)
  | probe _ => none

/-- The operator that makes groups of a kind. -/
def Grouping.operator : Grouping → Operator
  | condition => .condition
  | conjunction => .conjunction
  | disjunction => .disjunction
  | arrayRecord => .arrayRecord

/-- The operator that takes its argument literally in a role. -/
def Role.operator : Role → Operator
  | whole => .literal
  | field _ => .literal
  | negation => .negation
  | size => .size

namespace Node

/-- The operator and the argument that make a matcher, if it is a usual one. -/
def call? : Node → Option (Operator × Value)
  | leaf l => l.call?
  | within negated argument _ => some (.member negated, argument)
  | elements quantifier argument _ => some (.elements quantifier, argument)
  | group grouping argument _ => some (grouping.operator, argument)
  | literal role argument _ _ => some (role.operator, argument)

/-- The name of the field that a matcher looks into. -/
def field? : Node → Option String
  | literal (.field name) _ _ _ => some name
  | _ => none

/-- The matcher without the field that it looks into. -/
def bare : Node → Node
  | literal (.field _) argument direct form => .literal .whole argument direct form
  | n => n

/-- The matcher and the field that it looks into are all of it. -/
theorem eq_of_bare_eq {n m : Node} {operator : Operator} {v : Value}
    (hn : n.call? = some (operator, v)) (hm : m.call? = some (operator, v))
    (hfield : n.field? = m.field?) (hbare : n.bare = m.bare) :
  n = m
  := by
  have hfields : ∀ {n : Node}, n.field? = none → n.bare = n := by
    intro n h
    cases n with
    | literal role => cases role <;> first | rfl | cases h
    | _ => rfl
  cases hf : m.field? with
  | none => rwa [hfields (hfield.trans hf), hfields hf] at hbare
  | some name =>
    have hliteral : ∀ {n : Node}, n.field? = some name →
        ∃ v direct form, n = .literal (.field name) v direct form := by
      intro n h
      cases n with
      | literal role =>
        cases role with
        | field _ =>
          cases h
          exact ⟨_, _, _, rfl⟩
        | _ => cases h
      | _ => cases h
    obtain ⟨v, direct, form, rfl⟩ := hliteral (hfield.trans hf)
    obtain ⟨v', direct', form', rfl⟩ := hliteral hf
    cases hbare
    rfl

end Node

/-! ### The text of a key -/

/-- The name of an operator in keys. -/
def Operator.sign : Operator → String
  | compare c => c.name
  | existence => "Exists"
  | presence => "Present"
  | regex => "Regex"
  | member negated => memberName negated
  | conjunction => Grouping.conjunction.name
  | disjunction => Grouping.disjunction.name
  | negation => "Not"
  | elements quantifier => quantifier.name
  | size => "Size"
  | condition => Grouping.condition.name
  | arrayRecord => Grouping.arrayRecord.name
  | literal => "Literal"
  | extension _ => ""

/-- The operators by their names in keys. -/
def signs : List (String × Operator) :=
  [.compare .equal, .compare .notEqual, .compare .greater, .compare .greaterOrEqual, .compare .less,
    .compare .lessOrEqual, .existence, .presence, .regex, .member false, .member true, .conjunction,
    .disjunction, .negation, .elements .any, .elements .every, .size, .condition, .arrayRecord,
    .literal].map fun operator : Operator => (operator.sign, operator)

/-- The operator is found under its name. -/
theorem lookup_sign {operator : Operator} (h : ∀ x, operator ≠ .extension x) :
  signs.lookup operator.sign = some operator
  := by
  cases operator with
  | compare c => cases c <;> rfl
  | member negated => cases negated <;> rfl
  | elements quantifier => cases quantifier <;> rfl
  | extension x => exact absurd rfl (h x)
  | _ => rfl

/-- The name of an operator has no colon and is not that of fields. -/
theorem sign_plain (operator : Operator) :
  ':' ∉ operator.sign.toList ∧ operator.sign.toList ≠ "Field".toList
  := by
  cases operator with
  | compare c => cases c <;> decide
  | member negated => cases negated <;> decide
  | elements quantifier => cases quantifier <;> decide
  | extension x =>
    change ':' ∉ "".toList ∧ "".toList ≠ "Field".toList
    decide
  | _ => decide

namespace Node

/-- The key of a matcher names its operator, or its field, and spells out its argument. -/
theorem key_eq {n : Node} {operator : Operator} {v : Value} (h : n.call? = some (operator, v)) :
  n.key.toList = match n.field? with
    | none => operator.sign.toList ++ ':' :: v.uniqueText.toList
    | some name => "Field".toList ++ ':' :: ((Text.quote name).toList ++ ':' :: v.uniqueText.toList)
  := by
  have hkey : n.key = match n.field? with
      | none => operator.sign ++ ":" ++ v.uniqueText
      | some name => "Field:" ++ Text.quote name ++ ":" ++ v.uniqueText := by
    cases n with
    | leaf l =>
      cases l with
      | probe p => cases h
      | _ =>
        cases h
        rfl
    | group grouping argument children =>
      cases h
      cases grouping <;> rfl
    | literal role argument direct form =>
      cases h
      cases role <;> rfl
    | _ =>
      cases h
      rfl
  rw [hkey]
  cases n.field? with
  | none => simp
  | some name => simp

theorem exists_pattern {n : Node} {v : Value} (h : n.call? = some (.regex, v)) :
  ∃ p, v = .regex p
  := by
  cases n with
  | leaf l =>
    cases l with
    | regex p =>
      cases h
      exact ⟨p, rfl⟩
    | _ => cases h
  | group grouping => cases grouping <;> cases h
  | literal role => cases role <;> cases h
  | _ => cases h

/-- Matchers with equal keys look into the same field and have the same operator, and their
arguments have the same text. -/
theorem call_of_key_eq {n m : Node} {operator operator' : Operator} {v v' : Value}
    (hn : n.call? = some (operator, v)) (hm : m.call? = some (operator', v'))
    (hne : ∀ x, operator ≠ .extension x) (hne' : ∀ x, operator' ≠ .extension x)
    (h : n.key = m.key) :
  n.field? = m.field? ∧ operator = operator' ∧ v.uniqueText = v'.uniqueText
  := by
  have hliteral : ∀ {n : Node} {operator v name}, n.call? = some (operator, v) →
      n.field? = some name → operator = .literal := by
    intro n operator v name h hf
    cases n with
    | literal role =>
      cases role with
      | field _ =>
        cases h
        rfl
      | _ => cases hf
    | _ => cases hf
  have hcolon : ':' ∉ "Field".toList := by decide
  have hkeys := congrArg String.toList h
  rw [key_eq hn, key_eq hm] at hkeys
  cases hf : n.field? with
  | none =>
    cases hf' : m.field? with
    | none =>
      simp only [hf, hf'] at hkeys
      obtain ⟨hsign, htext⟩ := append_cons_inj (sign_plain _).1 (sign_plain _).1 hkeys
      refine ⟨rfl, ?_, String.toList_inj.mp htext⟩
      have hlookup := lookup_sign hne
      rw [String.toList_inj.mp hsign, lookup_sign hne'] at hlookup
      apply (Option.some.inj hlookup).symm
    | some name =>
      simp only [hf, hf'] at hkeys
      exact absurd (append_cons_inj (sign_plain _).1 hcolon hkeys).1 (sign_plain _).2
  | some name =>
    cases hf' : m.field? with
    | none =>
      simp only [hf, hf'] at hkeys
      exact absurd (append_cons_inj hcolon (sign_plain _).1 hkeys).1.symm (sign_plain _).2
    | some name' =>
      simp only [hf, hf'] at hkeys
      obtain ⟨-, hrest⟩ := append_cons_inj hcolon hcolon hkeys
      obtain ⟨rfl, htext⟩ := Text.quote_append_inj hrest
      refine ⟨rfl, ?_, String.toList_inj.mp (List.cons.inj htext).2⟩
      rw [hliteral hn hf, hliteral hm hf']

end Node

/-! ### Building again -/

theorem entryNode_mono {r : Registry} {make make' : Maker}
    (hmake : ∀ operator v n, make operator v = .ok n → make' operator v = .ok n) {key : String}
    {v : Value} {n : Node} (h : entryNode r make key v = .ok n) :
  entryNode r make' key v = .ok n
  := by
  obtain ⟨e, he, h⟩ | ⟨hnone, m, hm, rfl⟩ := entryNode_eq_ok_iff.mp h
  · apply entryNode_eq_ok_iff.mpr (.inl ⟨e, he, hmake _ _ _ h⟩)
  · apply entryNode_eq_ok_iff.mpr (.inr ⟨hnone, m, hmake _ _ _ hm, rfl⟩)

/-- What one step makes of matchers it makes as well of matchers that are made in another way, if
they are the same. -/
theorem Built.mono {r : Registry} {make make' : Maker}
    (hmake : ∀ operator v n, make operator v = .ok n → make' operator v = .ok n)
    {operator : Operator} {v : Value} {n : Node} (h : Built r make operator v n) :
  Built r make' operator v n
  := by
  cases h with
  | leaf h => exact .leaf h
  | within h => exact .within (hmake _ _ _ h)
  | elements h => exact .elements (hmake _ _ _ h)
  | literal hrole h =>
    apply Built.literal hrole
    rw [directNode_eq] at h ⊢
    apply hmake _ _ _ h
  | condition h => exact .condition (h.imp fun e n he => entryNode_mono hmake he)
  | conjunction hitems h =>
    apply Built.conjunction hitems
    apply h.imp
    intro v ns hns
    obtain ⟨entries, nodes, rfl, rfl, hnodes⟩ := entryNodes_eq_ok_iff.mp hns
    have hnodes' := hnodes.imp fun e n he => entryNode_mono hmake he
    apply entryNodes_eq_ok_iff.mpr ⟨entries, nodes, rfl, rfl, hnodes'⟩
  | disjunction hitems h => exact .disjunction hitems (h.imp fun v n hn => hmake _ _ _ hn)
  | arrayRecord hcalls h => exact .arrayRecord hcalls (h.imp fun c n hn => hmake _ _ _ hn)

/-- What is built in so many steps is built in more steps as well. -/
theorem build_mono {r : Registry} {fuel fuel' : Nat} (hfuel : fuel ≤ fuel') {operator : Operator}
    {v : Value} {n : Node} (h : build r fuel operator v = .ok n) :
  build r fuel' operator v = .ok n
  := by
  induction fuel generalizing fuel' operator v n with
  | zero => cases h
  | succ fuel ih =>
    obtain ⟨fuel', rfl⟩ := Nat.exists_eq_add_of_le' (Nat.lt_of_lt_of_le (Nat.succ_pos _) hfuel)
    apply build_of_built
    apply (built_of_build h).mono
    intro operator v n h
    apply ih (Nat.le_of_succ_le_succ hfuel) h

/-- Building comes to one matcher, however many steps it takes. -/
theorem build_unique {r : Registry} {fuel fuel' : Nat} {operator : Operator} {v : Value}
    {n m : Node} (hn : build r fuel operator v = .ok n) (hm : build r fuel' operator v = .ok m) :
  n = m
  := by
  have hn' := build_mono (Nat.le_max_left fuel fuel') hn
  have hm' := build_mono (Nat.le_max_right fuel fuel') hm
  apply Except.ok.inj (hn'.symm.trans hm')

/-! ### Arguments made of arguments -/

/-- The property is one of data as a whole: arrays and maps have it exactly if all that they hold has it,
and ranges pass it on to their ends. -/
structure Value.Compositional (Q : Value → Prop) : Prop where
  null : Q .null
  bool (b : Bool) : Q (.bool b)
  array {items : List Value} : Q (.array items) ↔ ∀ v ∈ items, Q v
  map {entries : Entries} : Q (.map entries) ↔ ∀ e ∈ entries, Q e.2
  ends {start stop : Option Value} {exclusive : Bool} :
    Q (.range start stop exclusive) → (∀ v ∈ start, Q v) ∧ ∀ v ∈ stop, Q v

namespace Value.Compositional

variable {Q : Value → Prop} (hQ : Compositional Q)

include hQ

theorem singleton {v : Value} (h : Q v) (key : String) :
  Q (.map [(key, v)])
  := hQ.map.mpr (List.forall_mem_singleton.mpr h)

/-- What a condition becomes on an array has the properties of the condition. -/
theorem arrayCondition {r : Registry} {entries whole : Entries} (h : ∀ e ∈ entries, Q e.2)
    (hwhole : arrayCondition r entries = .ok whole) :
  ∀ e ∈ whole, Q e.2
  := by
  obtain ⟨element, helement, hkind⟩ := forall_arrayCondition (P := fun _ v => Q v)
    (fun _ m m' hm hm' => hQ.map.mpr
      (Entries.forall_merge_values (fun _ => hQ.map) (hQ.map.mp hm) (hQ.map.mp hm')))
    (fun e he _ => h e he)
    (fun body hmem => hQ.map.mp (h _ hmem)) hwhole
  intro e he
  obtain rfl | ⟨-, hmem, -⟩ := hkind e he
  · exact hQ.map.mpr helement
  · apply h e hmem

/-- The condition that a membership test of a range stands for compares with its ends. -/
theorem bounds {start stop : Option Value} {exclusive : Bool} (h : Q (.range start stop exclusive))
    (negated : Bool) :
  Q (bounds negated start stop exclusive)
  := by
  obtain ⟨hstart, hstop⟩ := hQ.ends h
  cases negated with
  | false =>
    apply hQ.map.mpr
    intro e he
    obtain he | he := List.mem_append.mp he
    · obtain ⟨v, hv, rfl⟩ := Option.map_eq_some_iff.mp (Option.mem_toList.mp he)
      apply hstart v hv
    · obtain ⟨v, hv, rfl⟩ := Option.map_eq_some_iff.mp (Option.mem_toList.mp he)
      apply hstop v hv
  | true =>
    apply hQ.singleton
    apply hQ.array.mpr
    intro v hv
    obtain hv | hv := List.mem_append.mp hv
    · obtain ⟨w, hw, rfl⟩ := Option.map_eq_some_iff.mp (Option.mem_toList.mp hv)
      apply hQ.singleton (hstart w hw)
    · obtain ⟨w, hw, rfl⟩ := Option.map_eq_some_iff.mp (Option.mem_toList.mp hv)
      apply hQ.singleton (hstop w hw)

theorem absentOrNull :
  Q absentOrNull
  := by
  apply hQ.array.mpr
  refine List.forall_mem_cons.mpr ⟨?_, List.forall_mem_singleton.mpr ?_⟩
  · apply hQ.singleton (hQ.bool false)
  · apply hQ.singleton hQ.null

/-- Of arguments with the property only arguments with the property are made. -/
theorem hereditary (r : Registry) :
  Hereditary r fun _ v => Q v
  where
  entry h hmem := hQ.map.mp h _ hmem
  literal _ h := h
  direct {v} h := by
    cases v with
    | null => exact hQ.absentOrNull
    | _ => exact h
  arrayRecord h := h
  arrayCalls {v calls} h hcalls := by
    cases v with
    | map entries =>
      obtain ⟨whole, hwhole, rfl⟩ := map_eq_ok_iff.mp hcalls
      refine List.forall_mem_singleton.mpr (hQ.map.mpr ?_)
      apply hQ.arrayCondition (hQ.map.mp h) hwhole
    | array items =>
      cases hcalls
      refine List.forall_mem_cons.mpr ⟨h, List.forall_mem_singleton.mpr ?_⟩
      apply hQ.singleton h
    | _ =>
      cases hcalls
      exact List.forall_mem_singleton.mpr (hQ.singleton h _)
  elements h := h
  within h := hQ.bounds h _
  conjunction h := hQ.array.mp h
  disjunction h := hQ.array.mp h

end Value.Compositional

/-! ### Legible arguments -/

theorem Value.compositional_legible (heap : Heap) :
  Compositional fun v => v.Legible heap
  where
  null := .null
  bool := .bool
  array := ⟨fun h => h.items, .array⟩
  map := ⟨fun h => h.entries, .map⟩
  ends h := by
    cases h with
    | range _ hstart hstop _ _ => exact ⟨hstart, hstop⟩

/-- What a legible condition becomes on an array is legible. -/
theorem Value.Legible.arrayCondition {r : Registry} {heap : Heap} {entries whole : Entries}
    (h : ∀ e ∈ entries, e.2.Legible heap) (hwhole : arrayCondition r entries = .ok whole) :
  ∀ e ∈ whole, e.2.Legible heap
  := (compositional_legible heap).arrayCondition h hwhole

theorem Value.legible_singleton {heap : Heap} {v : Value} (h : v.Legible heap) (key : String) :
  (Value.map [(key, v)]).Legible heap
  := (compositional_legible heap).singleton h key

theorem legible_absentOrNull (heap : Heap) :
  absentOrNull.Legible heap
  := (Value.compositional_legible heap).absentOrNull

/-- Of legible arguments only legible arguments are made. -/
theorem hereditary_legible (r : Registry) (heap : Heap) :
  Hereditary r fun _ v => v.Legible heap
  := (Value.compositional_legible heap).hereditary r

/-! ### Matchers by their arguments -/

/-- The registry has the usual operators only, under whatever keys. -/
def Registry.Usual (r : Registry) : Prop := ∀ e ∈ r.entries, ∀ x, e.operator ≠ .extension x

theorem Registry.usual_core :
  Registry.core.Usual
  := fun e he => (core_usual e he).2

theorem Registry.Usual.ne_extension {r : Registry} (hr : r.Usual) {operator : Operator}
    (h : r.Offers operator) (x : Extension) :
  operator ≠ .extension x
  := by
  intro hx
  obtain ⟨e, he, hop⟩ := h x hx
  apply hr e he x hop

/-- The matcher is what building gives of its operator and its argument, which is legible, or a
pattern that may have been read from a text. -/
def Node.Original (r : Registry) (heap : Heap) (n : Node) : Prop :=
  ∃ operator v fuel, n.call? = some (operator, v) ∧ build r fuel operator v = .ok n.bare
    ∧ r.Offers operator ∧ (operator = .regex ∨ v.Legible heap)

section

variable {r : Registry} {heap : Heap}

/-- A group is made of its argument, if its matchers are made of theirs. -/
theorem original_group {fuel : Nat} {grouping : Grouping} {v : Value} {nodes : List Node}
    (hoffers : r.Offers grouping.operator) (hv : v.Legible heap)
    (h : build r fuel grouping.operator v = .ok (unwrap (distinct nodes) (.group grouping v)))
    (hnodes : ∀ n ∈ nodes, n.Original r heap) :
  (unwrap (distinct nodes) (.group grouping v)).Original r heap
  := by
  obtain ⟨n, hn, heq⟩ | ⟨-, heq⟩ := unwrap_cases (distinct nodes) (.group grouping v)
  · rw [heq]
    apply hnodes n (distinct_subset nodes n hn)
  · rw [heq] at h ⊢
    exact ⟨grouping.operator, v, fuel, rfl, h, hoffers, .inr hv⟩

/-- All that is built of legible arguments in so many steps is made of its own argument. -/
def OriginalBelow (r : Registry) (heap : Heap) (fuel : Nat) : Prop :=
  ∀ operator v n, r.Offers operator → v.Legible heap → build r fuel operator v = .ok n →
    n.Original r heap

/-- The matcher for an entry is made of its own argument. -/
theorem original_entryNode {fuel : Nat} (ih : OriginalBelow r heap fuel) {key : String} {v : Value}
    {n : Node} (hv : v.Legible heap) (h : entryNode r (build r fuel) key v = .ok n) :
  n.Original r heap
  := by
  obtain ⟨e, he, hbuild⟩ | ⟨-, m, hm, rfl⟩ := entryNode_eq_ok_iff.mp h
  · apply ih e.operator v n (Registry.offers_of_lookup he) hv hbuild
  · exact ⟨.literal, v, fuel + 1, rfl, build_literal hm, Registry.offers_of_ne (by simp), .inr hv⟩

/-- What is built of a legible argument is what building gives of its own operator and its own
argument. -/
theorem original_of_build (hr : r.Usual) (fuel : Nat) :
  OriginalBelow r heap fuel
  := by
  have hS := (Registry.hereditary_offers r).and (hereditary_legible r heap)
  induction fuel with
  | zero =>
    intro operator v n _ _ h
    cases h
  | succ fuel ih =>
    intro operator v n hoffers hv h
    have hcall := And.intro hoffers hv
    have hbuilt := built_of_build h
    cases hbuilt with
    | leaf hmakes =>
      cases hmakes with
      | regex => exact ⟨.regex, _, 1, rfl, rfl, hoffers, .inl rfl⟩
      | probe => exact absurd rfl (hr.ne_extension hoffers _)
      | compare | existence | presence | member =>
        exact ⟨_, _, fuel + 1, rfl, h, hoffers, .inr hv⟩
    | within | elements => exact ⟨_, _, fuel + 1, rfl, h, hoffers, .inr hv⟩
    | literal hrole => cases hrole <;> exact ⟨_, _, fuel + 1, rfl, h, hoffers, .inr hv⟩
    | condition hnodes =>
      apply original_group hoffers hv h
      intro n hn
      obtain ⟨e, he, hentry⟩ := exists_left_of_forall₂ hnodes n hn
      apply original_entryNode ih (hv.entries e he) hentry
    | conjunction hitems hnodes =>
      apply original_group hoffers hv h
      intro n hn
      obtain ⟨ns, hns, hmem⟩ := List.mem_flatten.mp hn
      obtain ⟨w, hw, hbranch⟩ := exists_left_of_forall₂ hnodes ns hns
      obtain ⟨entries, nodes, rfl, rfl, hnodes'⟩ := entryNodes_eq_ok_iff.mp hbranch
      obtain ⟨e, he, hentry⟩ := exists_left_of_forall₂ hnodes' n (distinct_subset _ n hmem)
      apply original_entryNode ih ((hv.items _ hw).entries e he) hentry
    | disjunction hitems hnodes =>
      apply original_group hoffers hv h
      intro n hn
      obtain ⟨w, hw, hbuild⟩ := exists_left_of_forall₂ hnodes n hn
      obtain ⟨hcondition, hlegible⟩ := hS.disjunction hcall _ hw
      apply ih _ _ _ hcondition hlegible hbuild
    | arrayRecord hcalls hnodes =>
      apply original_group hoffers hv h
      intro n hn
      obtain ⟨c, hc, hbuild⟩ := exists_left_of_forall₂ hnodes n hn
      obtain ⟨hoffers', hlegible⟩ := hS.arrayCalls hcall hcalls c hc
      apply ih _ _ _ hoffers' hlegible hbuild

/-- Of matchers that were made of legible arguments, those with equal keys are equal. -/
theorem Node.Original.eq_of_key_eq (hr : r.Usual) {n m : Node} (hn : n.Original r heap)
    (hm : m.Original r heap) (h : n.key = m.key) :
  n = m
  := by
  obtain ⟨operator, v, fuel, hcall, hbuild, hoffers, hv⟩ := hn
  obtain ⟨operator', w, fuel', hcall', hbuild', hoffers', hw⟩ := hm
  obtain ⟨hfield, rfl, htext⟩ :=
    call_of_key_eq hcall hcall' (hr.ne_extension hoffers) (hr.ne_extension hoffers') h
  have hargument : v = w := by
    by_cases hregex : operator = .regex
    · subst hregex
      obtain ⟨p, rfl⟩ := exists_pattern hcall
      obtain ⟨q, rfl⟩ := exists_pattern hcall'
      have hrender : p.render = q.render := htext
      rw [Pattern.render_injective hrender]
    · apply (hv.resolve_left hregex).eq_of_uniqueText_eq (hw.resolve_left hregex) htext
  subst hargument
  apply eq_of_bare_eq hcall hcall' hfield (build_unique hbuild hbuild')

/-- No matcher that was made of a legible argument is lost when those with keys seen before are
dropped. -/
theorem mem_distinct_iff (hr : r.Usual) {nodes : List Node} (h : ∀ n ∈ nodes, n.Original r heap)
    {n : Node} :
  n ∈ distinct nodes ↔ n ∈ nodes
  := by
  constructor
  · apply distinct_subset
  · intro hn
    obtain ⟨m, hm, hkey⟩ := exists_mem_distinct nodes n hn
    rwa [← (h m (distinct_subset nodes m hm)).eq_of_key_eq hr (h n hn) hkey]

end

end DocQuery
