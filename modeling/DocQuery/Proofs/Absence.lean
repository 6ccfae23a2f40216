import DocQuery.Proofs.Nesting
import DocQuery.Proofs.NormalForms
import DocQuery.Proofs.Sessions
import DocQuery.Proofs.Upfront

/-!
# Missing values

Without a test of existence in a condition, a value that is missing is as good as null: a comparison takes
null for it, and no other matcher finds anything in either. Only the test that a null in the condition stands
for tells the two apart, and the disjunction that it is part of holds of both. So a query does not see
whether a field is null or not there.
-/

namespace DocQuery

/-! ### Values without a key -/

/-- The key is no key of a map in the value. -/
def Value.Lacks (key : String) : Value → Prop := Throughout (fun keys => key ∉ keys) fun _ _ => True

theorem Value.lacks_map_iff {key : String} {entries : Entries} :
  (Value.map entries).Lacks key ↔ ∀ e ∈ entries, e.1 ≠ key ∧ e.2.Lacks key
  := by
  rw [Lacks, throughout_map_iff, Entries.keys, List.mem_map, forall₂_and, not_exists]
  apply and_congr_left
  intro _
  exact forall_congr' fun e => not_and

theorem Value.lacks_singleton {key k : String} (h : k ≠ key) {v : Value} (hv : v.Lacks key) :
  (Value.map [(k, v)]).Lacks key
  := lacks_map_iff.mpr (List.forall_mem_singleton.mpr ⟨h, hv⟩)

/-- What a condition without a key becomes on an array does not have it either. -/
theorem Value.Lacks.arrayCondition {r : Registry} {key : String} (hkey : "$elemMatch" ≠ key)
    {entries whole : Entries} (h : (Value.map entries).Lacks key)
    (hwhole : arrayCondition r entries = .ok whole) :
  (Value.map whole).Lacks key
  := by
  rw [lacks_map_iff] at h
  have hmerge : ∀ m m' : Entries, key ∉ m.keys → key ∉ m'.keys → key ∉ (Entries.merge m m').keys :=
    fun m m' hm hm' hmem => ((Entries.extends_merge m m').keys key hmem).elim hm hm'
  obtain ⟨element, helement, hkind⟩ := forall_arrayCondition (P := fun k v => k ≠ key ∧ v.Lacks key)
    (fun k m m' hm hm' => ⟨hm.1, throughout_merge hmerge hm.2 hm'.2⟩)
    (fun e he _ => h e he)
    (fun body hmem => lacks_map_iff.mp (h _ hmem).2) hwhole
  rw [lacks_map_iff]
  intro e he
  obtain rfl | ⟨-, hmem, -⟩ := hkind e he
  · exact ⟨hkey, lacks_map_iff.mpr helement⟩
  · apply h e hmem

/-- The condition that a membership test of a range stands for has comparisons and connectives as keys. -/
theorem Value.Lacks.bounds {key : String} (hkeys : key ∉ ["$or", "$gt", "$gte", "$lt", "$lte"])
    {start stop : Option Value} {exclusive : Bool} (h : (Value.range start stop exclusive).Lacks key)
    (negated : Bool) :
  (bounds negated start stop exclusive).Lacks key
  := by
  rw [Lacks, throughout_range_iff] at h
  obtain ⟨hstart, hstop⟩ := h
  have hne : ∀ k ∈ ["$or", "$gt", "$gte", "$lt", "$lte"], k ≠ key :=
    fun k hk => ne_of_mem_of_not_mem hk hkeys
  cases negated with
  | false =>
    apply lacks_map_iff.mpr
    intro e he
    obtain he | he := List.mem_append.mp he
    · obtain ⟨v, hv, rfl⟩ := Option.map_eq_some_iff.mp (Option.mem_toList.mp he)
      exact ⟨hne _ (by simp), hstart v hv⟩
    · obtain ⟨v, hv, rfl⟩ := Option.map_eq_some_iff.mp (Option.mem_toList.mp he)
      exact ⟨hne _ (by cases exclusive <;> simp), hstop v hv⟩
  | true =>
    apply lacks_singleton (hne _ (by simp))
    apply throughout_array_iff.mpr
    intro v hv
    obtain hv | hv := List.mem_append.mp hv
    · obtain ⟨w, hw, rfl⟩ := Option.map_eq_some_iff.mp (Option.mem_toList.mp hv)
      apply lacks_singleton (hne _ (by simp)) (hstart w hw)
    · obtain ⟨w, hw, rfl⟩ := Option.map_eq_some_iff.mp (Option.mem_toList.mp hv)
      apply lacks_singleton (hne _ (by cases exclusive <;> simp)) (hstop w hw)

/-! ### Matchers that do not see what is missing -/

/-- The matcher of the disjunction that a null in a condition stands for. -/
def Node.absentOrNull : Node :=
  .group .disjunction DocQuery.absentOrNull
    [.leaf (.existence false), .leaf (.compare .equal .null)]

/-- A matcher on the engine with the usual operators that has a test of existence only where a null stands
for it, whatever forms for arrays it holds. -/
inductive Node.Veiled : Node → Prop
  | leaf {l : Leaf} (hexistence : ∀ b, l ≠ .existence b) (hprobe : ∀ p, l ≠ .probe p) : Veiled (.leaf l)
  | within {bounds : Node} (negated : Bool) (argument : Value) (h : Veiled bounds) :
    Veiled (.within negated argument bounds)
  | elements {inner : Node} (quantifier : Quantifier) (argument : Value) (h : Veiled inner) :
    Veiled (.elements quantifier argument inner)
  | group {children : List Node} (grouping : Grouping) (argument : Value)
      (h : ∀ n ∈ children, Veiled n) : Veiled (.group grouping argument children)
  | absentOrNull : Veiled absentOrNull
  | literal {argument : Value} {direct : Node} (role : Role) (form : Form)
      (hargument : argument.Lacks "$exists") (h : Veiled direct) :
    Veiled (.literal role argument direct form)

namespace Node.Veiled

variable {n : Node}

/-- It does not matter which forms the matcher holds. -/
theorem of_fresh (h : n.fresh.Veiled) :
  n.Veiled
  := by
  generalize hfresh : n.fresh = x at h
  induction h generalizing n with
  | leaf hexistence hprobe =>
    cases n with
    | leaf l =>
      cases hfresh
      exact .leaf hexistence hprobe
    | _ => cases hfresh
  | within negated argument _ ih =>
    cases n with
    | within _ _ bounds =>
      cases hfresh
      exact .within _ _ (ih rfl)
    | _ => cases hfresh
  | elements quantifier argument _ ih =>
    cases n with
    | elements _ _ inner =>
      cases hfresh
      exact .elements _ _ (ih rfl)
    | _ => cases hfresh
  | group grouping argument _ ih =>
    cases n with
    | group _ _ children =>
      cases hfresh
      refine .group _ _ fun n hn => ih n.fresh ?_ rfl
      rw [freshAll_eq_map]
      apply List.mem_map_of_mem hn
    | _ => cases hfresh
  | absentOrNull =>
    cases n with
    | group grouping argument children =>
      have hleaf : ∀ {n l}, Node.fresh n = .leaf l → n = .leaf l := by
        intro n l h
        cases n with
        | leaf => exact h
        | _ => cases h
      obtain ⟨rfl, rfl, hchildren⟩ := Node.group.inj hfresh
      rw [freshAll_eq_map] at hchildren
      obtain ⟨n, rest, rfl, hn, hrest⟩ := List.map_eq_cons_iff.mp hchildren
      obtain ⟨m, rest, rfl, hm, hrest⟩ := List.map_eq_cons_iff.mp hrest
      cases List.map_eq_nil_iff.mp hrest
      rw [hleaf hn, hleaf hm]
      exact .absentOrNull
    | _ => cases hfresh
  | literal role form hargument _ ih =>
    cases n with
    | literal _ _ direct _ =>
      cases hfresh
      exact .literal _ _ hargument (ih rfl)
    | _ => cases hfresh

/-- The matcher comes to the same on what is missing and on null. -/
theorem verdict_eq (h : n.Veiled) (c : Context) (k : Nat) :
  n.verdict c k .missing = n.verdict c k .null
  := by
  induction h generalizing k with
  | @leaf l hexistence hprobe =>
    cases k with
    | zero => rfl
    | succ k =>
      cases l with
      | existence b => exact absurd rfl (hexistence b)
      | probe p => exact absurd rfl (hprobe p)
      | _ => rfl
  | within negated argument _ ih =>
    cases k with
    | zero => rfl
    | succ k => exact ih k
  | elements => cases k <;> rfl
  | group grouping argument _ ih =>
    cases k with
    | zero => rfl
    | succ k =>
      rw [verdict, verdict]
      congr 1
      apply List.map_congr_left
      exact fun n hn => ih n hn k
  | absentOrNull =>
    cases k with
    | zero => rfl
    | succ k => cases k <;> rfl
  | literal role form _ _ ih =>
    cases k with
    | zero => rfl
    | succ k =>
      cases role with
      | field name => rfl
      | size => rfl
      | whole => exact congrArg (Except.map _) (ih k)
      | negation => exact congrArg (Except.map _) (ih k)

end Node.Veiled

/-! ### Conditions without tests of existence -/

theorem Registry.operatorFor_ne_existence {key : String} (h : key ≠ "$exists") :
  Registry.core.operatorFor key ≠ .existence
  := by
  have hcore : ∀ e ∈ Registry.core.entries, e.operator = .existence → e.key = "$exists" := by
    simp [core]
  cases hlookup : Registry.core.lookup? key with
  | none =>
    rw [operatorFor_of_none hlookup]
    intro hoperator
    cases hoperator
  | some e =>
    rw [operatorFor_of_lookup hlookup]
    intro hoperator
    apply h
    rw [← hcore e (List.mem_of_find?_eq_some hlookup) hoperator]
    have hkey := List.find?_some (p := fun e : RegistryEntry => e.key == key) hlookup
    exact (beq_iff_eq.mp hkey).symm

theorem veiled_unwrap {nodes : List Node} (h : ∀ n ∈ nodes, n.Veiled) (grouping : Grouping)
    (argument : Value) :
  (unwrap (distinct nodes) (.group grouping argument)).Veiled
  := by
  apply unwrap_distinct h
  exact .group grouping argument fun n hn => h n (distinct_subset nodes n hn)

/-- On an array an argument without a test of existence is matched in ways without one. -/
theorem lacks_arrayCalls {v : Value} (hv : v.Lacks "$exists") {calls : List (Operator × Value)}
    (h : arrayCalls .core v = .ok calls) :
  ∀ call ∈ calls, call.1 ≠ .existence ∧ (∀ x, call.1 ≠ .extension x) ∧ call.2.Lacks "$exists"
  := by
  have helement {key : String} (hkey : key ≠ "$exists") {v : Value} (hv : v.Lacks "$exists") :
      Operator.elements .any ≠ .existence ∧ (∀ x, Operator.elements .any ≠ .extension x)
        ∧ (Value.map [(key, v)]).Lacks "$exists" :=
    ⟨by simp, by simp, Value.lacks_singleton hkey hv⟩
  cases v with
  | map entries =>
    obtain ⟨whole, hwhole, rfl⟩ := map_eq_ok_iff.mp h
    refine List.forall_mem_singleton.mpr ⟨by simp, by simp, ?_⟩
    apply hv.arrayCondition (by decide) hwhole
  | array items =>
    cases h
    refine List.forall_mem_cons.mpr ⟨⟨by simp, by simp, hv⟩, ?_⟩
    exact List.forall_mem_singleton.mpr (helement (by decide) hv)
  | _ =>
    cases h
    exact List.forall_mem_singleton.mpr (helement (by decide) hv)

/-- What is built of an argument without tests of existence is veiled. -/
theorem veiled_of_build {fuel : Nat} {operator : Operator} (hexistence : operator ≠ .existence)
    (hextension : ∀ x, operator ≠ .extension x) {v : Value} (hv : v.Lacks "$exists") {n : Node}
    (h : build .core fuel operator v = .ok n) :
  n.Veiled
  := by
  induction fuel generalizing operator v n with
  | zero => cases h
  | succ fuel ih =>
    have hdirect {v : Value} (hv : v.Lacks "$exists") {n : Node}
        (h : directNode (build .core fuel) v = .ok n) : n.Veiled := by
      cases v with
      | null =>
        have habsent : build .core 4 .disjunction absentOrNull = .ok .absentOrNull := rfl
        rw [build_unique h habsent]
        exact .absentOrNull
      | _ => exact ih (by simp) (by simp) hv h
    have hentry {entries : Entries} (hv : (Value.map entries).Lacks "$exists") {e : String × Value}
        (he : e ∈ entries) {n : Node} (h : entryNode .core (build .core fuel) e.1 e.2 = .ok n) :
        n.Veiled := by
      obtain ⟨hkey, hlacks⟩ := Value.lacks_map_iff.mp hv e he
      obtain ⟨d, hd, h⟩ | ⟨-, m, hm, rfl⟩ := entryNode_eq_ok_iff.mp h
      · have hoperator := Registry.operatorFor_of_lookup hd
        apply ih _ _ hlacks h
        · rw [← hoperator]
          apply Registry.operatorFor_ne_existence hkey
        · rw [← hoperator]
          apply (Registry.core_operatorFor e.1).2
      · exact .literal _ _ hlacks (hdirect hlacks ((directNode_eq _ _).trans hm))
    have hbuilt := built_of_build h
    cases hbuilt with
    | @leaf _ _ l hmakes =>
      apply Node.Veiled.leaf
      · rintro b rfl
        cases hmakes
        exact hexistence rfl
      · rintro p rfl
        cases hmakes
        exact hextension _ rfl
    | within hn => exact .within _ _ (ih (by simp) (by simp) (hv.bounds (by decide) _) hn)
    | elements hn => exact .elements _ _ (ih (by simp) (by simp) hv hn)
    | literal _ hn => exact .literal _ _ hv (hdirect hv hn)
    | condition hnodes =>
      apply veiled_unwrap
      intro n hn
      obtain ⟨e, he, hbuild⟩ := exists_left_of_forall₂ hnodes n hn
      apply hentry hv he hbuild
    | conjunction _ hnodes =>
      apply veiled_unwrap
      intro n hn
      obtain ⟨ns, hns, hn⟩ := List.mem_flatten.mp hn
      obtain ⟨w, hw, hbuild⟩ := exists_left_of_forall₂ hnodes ns hns
      obtain ⟨entries, nodes, rfl, rfl, hentries⟩ := entryNodes_eq_ok_iff.mp hbuild
      obtain ⟨e, he, hbuild⟩ := exists_left_of_forall₂ hentries n (distinct_subset _ n hn)
      apply hentry (Value.throughout_array_iff.mp hv _ hw) he hbuild
    | disjunction _ hnodes =>
      apply veiled_unwrap
      intro n hn
      obtain ⟨w, hw, hbuild⟩ := exists_left_of_forall₂ hnodes n hn
      apply ih (by simp) (by simp) (Value.throughout_array_iff.mp hv w hw) hbuild
    | arrayRecord hcalls hnodes =>
      apply veiled_unwrap
      intro n hn
      obtain ⟨call, hcall, hbuild⟩ := exists_left_of_forall₂ hnodes n hn
      obtain ⟨hexistence, hextension, hlacks⟩ := lacks_arrayCalls hv hcalls call hcall
      apply ih hexistence hextension hlacks hbuild

/-- The children of a veiled matcher are veiled, except in the disjunction that null stands for. -/
theorem Node.Veiled.of_mem_children {n m : Node} (h : n.Veiled) (hn : n.Consistent .core)
    (hm : m ∈ n.children) :
  m.Veiled ∨ n = .absentOrNull ∧ m = .leaf (.existence false)
  := by
  cases h with
  | leaf => cases hm
  | within _ _ h | elements _ _ h =>
    obtain rfl := List.mem_singleton.mp hm
    exact .inl h
  | group _ _ h => exact .inl (h m hm)
  | absentOrNull =>
    obtain rfl | hm := List.mem_cons.mp hm
    · exact .inr ⟨rfl, rfl⟩
    · obtain rfl := List.mem_singleton.mp hm
      exact .inl (.leaf nofun nofun)
  | literal role form hargument h =>
    obtain rfl | hm := List.mem_cons.mp hm
    · exact .inl h
    · cases form with
      | built k =>
        obtain rfl := List.mem_singleton.mp hm
        obtain ⟨hbuild, -⟩ := hn.2
        exact .inl (.of_fresh (veiled_of_build (by simp) (by simp) hargument hbuild))
      | _ => cases hm

/-! ### Trees -/

/-- The matcher is in the tree of another one: it is that matcher, or a child of one in the tree. -/
def Node.Contains (n m : Node) : Prop := Relation.ReflTransGen (fun n m => m ∈ n.children) n m

section

variable {L : Leaf → Prop} {Q : Value → Prop}

/-- In the tree of a veiled matcher all matchers are veiled, except a test of existence in a disjunction
that null stands for. -/
theorem Node.Veiled.of_contains {n m : Node} {k : Nat} (h : n.Veiled) (hn : n.Consistent .core)
    (hfits : n.Fits .core L Q k) (hm : n.Contains m) :
  (m.Consistent .core ∧ m.Fits .core L Q k)
    ∧ (m.Veiled ∨ m = .leaf (.existence false) ∧ n.Contains .absentOrNull)
  := by
  induction hm with
  | refl => exact ⟨⟨hn, hfits⟩, .inl h⟩
  | @tail p m hp hm ih =>
    obtain ⟨⟨hconsistent, hfits⟩, hveiled | ⟨rfl, -⟩⟩ := ih
    · refine ⟨hfits.child hconsistent hm, ?_⟩
      apply (hveiled.of_mem_children hconsistent hm).imp_right
      rintro ⟨rfl, rfl⟩
      exact ⟨rfl, hp⟩
    · cases hm

end

/-- If a matcher has the same verdict on two records, then all its evaluations come to the same on both. -/
theorem exists_answer_alike {c : Context} (hc : c.engine = .core) {k : Nat} {n : Node}
    (hn : n.Consistent .core) (hfits : n.Fits .core Registry.core.HasLeaf HasForm k)
    {record record' : Value} (h : n.verdict c k record = n.verdict c k record') :
  ∃ b, ∀ x, x = record ∨ x = record' → ∀ fuel, k ≤ fuel →
    (n.evaluate c fuel x).map Prod.fst = .ok (.ok b)
      ∧ (Node.test c fuel x n).map Prod.fst = .ok (.ok b)
      ∧ ∀ t, (n.traced c fuel x t).map Prod.fst = .ok (.ok b)
  := by
  have hconsistent : n.Consistent c.engine.registry := by
    rw [hc]
    exact hn
  obtain ⟨b, hb⟩ := exists_answer_core hc hn hfits record
  obtain ⟨b', hb'⟩ := exists_answer_core hc hn hfits record'
  have hverdict := (n.evaluate_yields c k hconsistent record).map_fst
  rw [h, ← (n.evaluate_yields c k hconsistent record').map_fst, (hb k (Nat.le_refl k)).1,
    (hb' k (Nat.le_refl k)).1] at hverdict
  cases hverdict
  refine ⟨b, ?_⟩
  rintro x (rfl | rfl)
  · exact hb
  · exact hb'

/-! ### Fields that are null or missing -/

theorem Entries.get?_erase_self {entries : Entries} (h : entries.keys.Nodup) (key : String) :
  (entries.erase key).get? key = none
  := by
  induction entries with
  | nil => rfl
  | cons e rest ih =>
    obtain ⟨k, v⟩ := e
    obtain ⟨hnew, hrest⟩ := List.nodup_cons.mp h
    rw [erase]
    split
    · rename_i hkey
      subst hkey
      apply get?_of_notMem hnew
    · rename_i hkey
      rw [get?_cons, if_neg (Ne.symm hkey), ih hrest]

/-- A veiled matcher for a field comes to the same whether the field is null or not there. -/
theorem Node.Veiled.verdict_field_eq {field : String} {argument : Value} {direct : Node} {form : Form}
    (h : (Node.literal (.field field) argument direct form).Veiled) {entries others : Entries}
    (hnull : entries.get? field = some .null) (hnone : others.get? field = none) (c : Context) (k : Nat) :
  (Node.literal (.field field) argument direct form).verdict c k (.map entries)
    = (Node.literal (.field field) argument direct form).verdict c k (.map others)
  := by
  cases h with
  | literal _ _ _ h =>
    have htaken : c.taken .null = .null ∧ c.taken .missing = .missing := ⟨ite_self _, ite_self _⟩
    cases k with
    | zero => rfl
    | succ k =>
      simp only [verdict, Role.subject?, Value.dig?, hnull, hnone, Option.getD_some, Option.getD_none,
        Option.map_some, htaken, h.verdict_eq]

/-- Of a condition without tests of existence every matcher, in whatever state, comes to the same on what is
missing and on null, except the test of existence in the disjunction that a null in the condition stands for.
A query for one field does not tell a record where the field is null from the record without it. -/
theorem missing_like_null {q : Query} (hq : q.Arises .core) (hlacks : q.condition.value.Lacks "$exists") :
  (∀ n m, q.matcher.node.Becomes .core n → n.Contains m →
      (m = .leaf (.existence false) ∧ n.Contains .absentOrNull)
        ∨ ∀ c : Context, c.engine = .core → ∃ b, ∀ record, record = .missing ∨ record = .null →
          ∀ fuel, 4 * q.condition.value.depth ≤ fuel →
            (m.evaluate c fuel record).map Prod.fst = .ok (.ok b)
              ∧ (Node.test c fuel record m).map Prod.fst = .ok (.ok b)
              ∧ ∀ t, (m.traced c fuel record t).map Prod.fst = .ok (.ok b))
    ∧ ∀ field c, q.condition.value = .map [(field, c)] → Registry.core.has field = false →
      ∀ entries : Entries, entries.keys.Nodup →
        ∃ b, (q.isMatch (.map (entries.insert field .null))).map Prod.fst = .ok b
          ∧ (q.isMatch (.map (entries.erase field))).map Prod.fst = .ok b
  := by
  have hkept := hq.kept Engine.core_sound
  have hfresh : q.matcher.node.fresh.Veiled :=
    veiled_of_build (by simp) (by simp) hlacks hkept.compiled
  constructor
  · intro n m hn hm
    have hveiled : n.Veiled := .of_fresh (hn.2 ▸ hfresh)
    have hfits := hn.fits (Node.fits_fresh.mp (fits_condition hkept.compiled))
    obtain ⟨⟨hconsistent, hfits⟩, hveiled | hexistence⟩ := hveiled.of_contains hn.1 hfits hm
    · right
      intro c hc
      apply exists_answer_alike hc hconsistent hfits (hveiled.verdict_eq c _)
    · exact .inl hexistence
  · intro field c hvalue hfield entries hkeys
    obtain ⟨direct, hnode⟩ : ∃ direct,
        q.matcher.node.fresh = .literal (.field field) c direct .unbuilt := by
      have hcompiled := hkept.compiled
      rw [hvalue] at hcompiled
      obtain ⟨e, he, -⟩ | ⟨-, direct, -, hnode⟩ := entryNode_eq_ok_iff.mp (entry_of_build hcompiled)
      · cases (Registry.lookup?_eq_none_of_has hfield).symm.trans he
      · exact ⟨direct, hnode⟩
    have hsame : q.answer (q.normalizeRecord (.map (entries.insert field .null)))
        = q.answer (q.normalizeRecord (.map (entries.erase field))) := by
      have hconvert : ∀ entries : Entries,
          Entries.get? (q.context.engine.normalizer.convertEntries entries) field
            = (entries.get? field).map q.context.engine.normalizer.convert :=
        fun entries => Normalizer.get?_convertEntries entries field
      have hnull := hconvert (entries.insert field .null)
      have hnone := hconvert (entries.erase field)
      rw [Entries.get?_insert, if_pos rfl] at hnull
      rw [Entries.get?_erase_self hkeys] at hnone
      rw [hnode] at hfresh
      rw [Query.normalizeRecord, Query.normalizeRecord, Normalizer.normalizeRecord_eq,
        Normalizer.normalizeRecord_eq, Query.answer, Query.answer, Node.answer, Node.answer,
        ← Node.verdict_fresh, ← Node.verdict_fresh _ _ q.matcher.node, hnode]
      apply hfresh.verdict_field_eq hnull hnone
    obtain ⟨b, hb⟩ := (Engine.core_faultless.answer hkept.engine hkept.node
      (q.normalizeRecord (.map (entries.erase field)))).resolve_right fun h => Engine.core_not_overflows h.2
    change q.answer _ = _ at hb
    refine ⟨b, ?_, ?_⟩
    · rw [Engine.core_sound.query_isMatch hkept.toInUse, hsame, hb]
      rfl
    · rw [Engine.core_sound.query_isMatch hkept.toInUse, hb]
      rfl

/-- A query for a field with a number among its elements: its matcher comes to the same on what is missing
and on null, and so does the query for the field. -/
theorem missing_like_null_number :
  ∃ q, Query.compile? .core (.value (.map [("a", .map [("$ne", .int 1)])])) [] = .ok q
    ∧ (∃ b, (q.matcher.node.evaluate q.context 8 .missing).map Prod.fst = .ok (.ok b)
      ∧ (q.matcher.node.evaluate q.context 8 .null).map Prod.fst = .ok (.ok b))
    ∧ ∃ b, (q.isMatch (.map [("b", .int 2), ("a", .null)])).map Prod.fst = .ok b
      ∧ (q.isMatch (.map [("b", .int 2)])).map Prod.fst = .ok b
  := by
  obtain ⟨q, hq⟩ : ∃ q, Query.compile? .core
      (.value (.map [("a", .map [("$ne", .int 1)])])) [] = .ok q := ⟨_, rfl⟩
  have harises := Query.Arises.compiled hq
  obtain ⟨hconsistent, -⟩ := Engine.core_faultless.invariant harises.inUse.node
  have hvalue : q.condition.value = .map [("a", .map [("$ne", .int 1)])] := by
    rw [(Query.built_of_compile hq).1]
    rfl
  have hlacks : q.condition.value.Lacks "$exists" := by
    rw [hvalue]
    apply Value.lacks_singleton (by decide)
    apply Value.lacks_singleton (by decide)
    exact .int 1
  obtain ⟨htree, hfield⟩ := missing_like_null harises hlacks
  refine ⟨q, hq, ?_, ?_⟩
  · obtain ⟨hexistence, -⟩ | halike := htree _ _ (.refl hconsistent) .refl
    · cases hq
      cases hexistence
    · obtain ⟨b, hb⟩ := halike q.context harises.inUse.engine
      have hbound : 4 * q.condition.value.depth ≤ 8 := by
        rw [hvalue]
        decide
      exact ⟨b, (hb .missing (.inl rfl) 8 hbound).1, (hb .null (.inr rfl) 8 hbound).1⟩
  · apply hfield "a" _ hvalue rfl [("b", .int 2), ("a", .null)]
    decide

/-- In the tree of a condition with a null there is a matcher that tells what is missing from null, although
the condition has no test of existence. -/
theorem null_tells_missing :
  ∃ q, Query.compile? .core (.value (.map [("a", .null)])) [] = .ok q
    ∧ q.condition.value.Lacks "$exists"
    ∧ ∃ m, q.matcher.node.Contains m
      ∧ (m.evaluate q.context 1 .missing).map Prod.fst = .ok (.ok true)
      ∧ (m.evaluate q.context 1 .null).map Prod.fst = .ok (.ok false)
  := by
  refine ⟨_, rfl, ?_, .leaf (.existence false), ?_, rfl, rfl⟩
  · apply Value.lacks_singleton (by decide)
    exact .null
  · apply Relation.ReflTransGen.tail (b := .absentOrNull)
    · apply Relation.ReflTransGen.single
      exact List.mem_cons_self
    · exact List.mem_cons_self

end DocQuery
