import DocQuery.Proofs.Growth
import DocQuery.Proofs.Upfront

/-!
# Forms that evaluations build

Evaluating a query on a record builds forms for arrays, and the predicate of the query builds the same
ones on it. A trace evaluates all children on all elements, and it evaluates the record that was
converted up front. Since rules make strings of host values, there are arrays in the converted record
just where the query meets them on the way. So a trace builds all the forms that an evaluation builds.
-/

namespace DocQuery

/-! ### Arrays in converted records -/

/-- No host value that can be reached from the value has both a rule and fields: what the rules are for,
such as symbols and dates, cannot be looked into. -/
def Normalizer.Seals (n : Normalizer) (v : Value) : Prop :=
  ∀ identity content fields, v.Reaches (.host identity content (some fields)) →
    n.recordRule? identity content = none

/-- The second value is the first one, or else what this is converted to. -/
def Normalizer.Represents (n : Normalizer) (v w : Value) : Prop := w = v ∨ n.Seals v ∧ w = n.convert v

section

variable {n : Normalizer} {v w x : Value}

theorem Normalizer.Seals.of_holds (h : n.Seals v) (hw : v.Holds w) :
  n.Seals w
  := fun identity content fields hreaches => h identity content fields (.head hw hreaches)

theorem Value.Holds.hasHost_eq {v w : Value} (h : v.Holds w) (hv : v.hasHost = false) :
  w.hasHost = false
  := by
  cases h with
  | element h => apply (Value.anyHost_eq_false_iff _).mp hv _ h
  | entry h => apply (Value.anyHostEntry_eq_false_iff _).mp hv _ h
  | field _ => cases hv

/-- There are no host values to be reached from plain data. -/
theorem Normalizer.seals_of_hasHost (h : v.hasHost = false) :
  n.Seals v
  := by
  intro identity content fields hreaches
  have hnone : (Value.host identity content (some fields)).hasHost = false := by
    generalize Value.host identity content (some fields) = w at hreaches ⊢
    induction hreaches with
    | refl => exact h
    | tail _ hholds ih => apply hholds.hasHost_eq ih
  cases hnone

/-- What represents an array is an array of what represents its elements. -/
theorem Normalizer.Represents.array {items : List Value} (h : n.Represents (.array items) w) :
  ∃ items', w = .array items' ∧ List.Forall₂ n.Represents items items'
  := by
  obtain rfl | ⟨hseals, rfl⟩ := h
  · exact ⟨items, rfl, List.forall₂_same.mpr fun _ _ => .inl rfl⟩
  · refine ⟨n.convertItems items, rfl, ?_⟩
    rw [Normalizer.convertItems_eq_map, List.forall₂_map_right_iff]
    apply List.forall₂_same.mpr
    exact fun v hv => .inr ⟨hseals.of_holds (.element hv), rfl⟩

/-- What represents a record has under a key what represents the value that the record has there. -/
theorem Normalizer.Represents.dig (h : n.Represents v w) {key : String} (hx : v.dig? key = some x) :
  ∃ y, w.dig? key = some y ∧ n.Represents x y
  := by
  obtain rfl | ⟨hseals, rfl⟩ := h
  · exact ⟨x, hx, .inl rfl⟩
  · have hcontainer : v.IsContainer → ∃ y, (n.convert v).dig? key = some y ∧ n.Represents x y := by
      intro hv
      refine ⟨n.convert x, ?_, ?_⟩
      · rw [hv.dig?_convert, hx, Option.map_some]
      · obtain rfl | hholds := Value.holds_of_dig hx
        · exact .inl rfl
        · exact .inr ⟨hseals.of_holds hholds, rfl⟩
    cases v with
    | array items => apply hcontainer (.inl rfl)
    | map entries => apply hcontainer (.inr rfl)
    | host identity content fields =>
      cases fields with
      | none => cases hx
      | some fields =>
        rw [convert, hseals identity content fields .refl, Option.getD_none]
        exact ⟨x, hx, .inl rfl⟩
    | _ => cases hx

variable (hn : n.YieldsStrings)

include hn

/-- What represents a value that is no array is none. -/
theorem Normalizer.Represents.isArray (h : n.Represents v w) (hv : v.isArray = false) :
  w.isArray = false
  := by
  obtain rfl | ⟨-, rfl⟩ := h
  · exact hv
  · cases v with
    | array items => cases hv
    | host identity content fields =>
      rw [convert]
      cases hrule : n.recordRule? identity content with
      | none => rfl
      | some x =>
        obtain ⟨s, rfl⟩ := hn identity content x hrule
        rfl
    | _ => rfl

/-- What is taken out of a record is represented by what its representation is converted to. -/
theorem Normalizer.Represents.convertTop (h : n.Represents v w) :
  n.Represents (n.convertTop v) (n.convertTop w)
  := by
  obtain rfl | ⟨hseals, rfl⟩ := h
  · exact .inl rfl
  · rw [hn.yieldsData.convertTop_convert]
    cases hrule : n.convertsTop v with
    | false =>
      rw [n.convertTop_eq hrule]
      exact .inr ⟨hseals, rfl⟩
    | true =>
      cases v with
      | host identity content fields => exact .inl rfl
      | _ => cases hrule

end

section

variable {c c' : Context} {v w x : Value} (hengine : c'.engine = c.engine)
  (hconverting : c'.converting = c.converting) (hn : c.engine.normalizer.YieldsStrings)

include hengine hconverting hn

/-- What is taken out of a record in two contexts that convert alike is represented alike. -/
theorem Normalizer.Represents.taken (h : c.engine.normalizer.Represents v w) :
  c.engine.normalizer.Represents (c.taken v) (c'.taken w)
  := by
  rw [Context.taken, Context.taken, hengine, hconverting]
  split
  · apply h.convertTop hn
  · exact h

/-- What a literal argument is matched with in a record is represented by what it is matched with in
what represents the record. -/
theorem Normalizer.Represents.subject (h : c.engine.normalizer.Represents v w) {role : Role}
    (hx : role.subject? c v = some x) :
  ∃ y, role.subject? c' w = some y ∧ c.engine.normalizer.Represents x y
  := by
  cases role with
  | field name =>
    obtain ⟨z, hz, rfl⟩ := Option.map_eq_some_iff.mp hx
    obtain ⟨y, hy, hrepresents⟩ := h.dig hz
    refine ⟨c'.taken y, ?_, hrepresents.taken hengine hconverting hn⟩
    rw [Role.subject?, hy, Option.map_some]
  | size =>
    obtain ⟨items, hitems, rfl⟩ := Option.map_eq_some_iff.mp hx
    cases v with
    | array items' =>
      cases hitems
      obtain ⟨others, rfl, hothers⟩ := h.array
      refine ⟨.ofInt others.length, rfl, ?_⟩
      rw [hothers.length_eq]
      exact .inl rfl
    | _ => cases hitems
  | _ =>
    cases hx
    exact ⟨w, rfl, h⟩

end

/-! ### What a trace builds -/

/-- A traced evaluation builds what an evaluation builds, of all to which the matcher that is evaluated
has grown. -/
structure Node.Covered (r : Registry) (eval : Node → Step Node)
    (eval' : Node → Trace → Except Abort (Outcome × Node × Trace)) : Prop where
  of_eq_ok {n n' m m' : Node} {t t' : Trace} {outcome outcome' : Outcome} (hm : m.Consistent r)
    (hgrows : n.Grows m) (h : eval n = .ok (outcome, n')) (h' : eval' m t = .ok (outcome', m', t')) :
    n'.Grows m'

/-- A traced evaluation leaves consistent matchers behind. -/
structure Node.StaysConsistent (r : Registry)
    (eval : Node → Trace → Except Abort (Outcome × Node × Trace)) : Prop where
  of_eq_ok {n m : Node} {t t' : Trace} {outcome : Outcome} (hn : n.Consistent r)
    (h : eval n t = .ok (outcome, m, t')) : m.Consistent r

section

variable {r : Registry} {decisive : Bool} {eval : Node → Value → Step Node}
  {eval' : Node → Value → Trace → Except Abort (Outcome × Node × Trace)} {R : Value → Value → Prop}

/-- A trace of all records builds what a scan of records that they represent builds. -/
theorem scan_covered (hlasting : ∀ record, LastingTrace Node.Grows fun n t => eval' n record t)
    (hconsistent : ∀ record, Node.StaysConsistent r fun n t => eval' n record t)
    (h : ∀ record record', R record record' →
      Node.Covered r (fun n => eval n record) (fun n t => eval' n record' t))
    {records records' : List Value} (hrecords : List.Forall₂ R records records') {n n' m m' : Node}
    {t t' : Trace} {outcome : Outcome} {outcomes : List Outcome} (hm : m.Consistent r)
    (hgrows : n.Grows m) (hscan : scan decisive eval n records = .ok (outcome, n'))
    (htrace : traceScan eval' m records' t = .ok (outcomes, m', t')) :
  n'.Grows m'
  := by
  induction hrecords generalizing n m t outcomes with
  | nil =>
    cases hscan
    cases htrace
    exact hgrows
  | @cons record record' _ rest' hrecord _ ih =>
    obtain ⟨first, k, hk, hrest⟩ := scan_cons_eq_ok_iff.mp hscan
    obtain ⟨first', l, inner, hl, others, hothers, -⟩ := traceScan_cons_eq_ok_iff.mp htrace
    have hkl := (h record record' hrecord).of_eq_ok hm hgrows hk hl
    obtain ⟨-, heq⟩ | ⟨-, hrest⟩ := hrest
    · cases heq
      apply hkl.trans ((traceScan_lasting hlasting rest').of_eq_ok hothers).1
    · apply ih ((hconsistent record').of_eq_ok hm hl) hkl hrest hothers

/-- A trace of all matchers builds what the evaluation of the matchers in turn builds. -/
theorem untilDecided_covered {eval : Node → Step Node}
    {eval' : Node → Trace → Except Abort (Outcome × Node × Trace)}
    (hlasting : LastingTrace Node.Grows eval') (h : Node.Covered r eval eval')
    {nodes nodes' others others' : List Node} {t t' : Trace} {outcome : Outcome}
    {outcomes : List Outcome} (hothers : ∀ m ∈ others, m.Consistent r) (hgrows : growAll nodes others)
    (heval : untilDecided decisive eval nodes = .ok (outcome, nodes'))
    (htrace : traceAll eval' others t = .ok (outcomes, others', t')) :
  growAll nodes' others'
  := by
  induction nodes generalizing nodes' others others' t outcomes with
  | nil =>
    obtain rfl := hgrows
    cases heval
    cases htrace
    rfl
  | cons n rest ih =>
    obtain ⟨m, rest', rfl, hnm, hrest'⟩ := hgrows
    obtain ⟨hm, hconsistent⟩ := List.forall_mem_cons.mp hothers
    obtain ⟨first, k, hk, hrest⟩ := untilDecided_cons_eq_ok_iff.mp heval
    obtain ⟨first', l, inner, hl, _, left, hleft, heq⟩ := traceAll_cons_eq_ok_iff.mp htrace
    cases heq
    have hkl := h.of_eq_ok hm hnm hk hl
    obtain ⟨-, heq⟩ | ⟨-, right, hright, rfl⟩ := hrest
    · cases heq
      have hlast := ((traceAll_lasting hlasting).of_eq_ok hleft).1
      exact ⟨l, left, rfl, hkl, growAll_trans hrest' hlast⟩
    · exact ⟨l, left, rfl, hkl, ih hconsistent hrest' hright hleft⟩

end

/-- A form that is built for a matcher and one that is built for a matcher to which this has grown are
refused alike, or the one has grown to the other. -/
theorem Form.Grows.force {r : Registry} {argument : Value} {form form' : Form} (h : form.Grows form')
    (hform : form'.Consistent r argument) :
  (∃ e, form.force r argument = .error e ∧ form'.force r argument = .error e)
    ∨ ∃ n m, form.force r argument = .ok n ∧ form'.force r argument = .ok m ∧ n.Grows m
      ∧ m.Consistent r
  := by
  cases form with
  | unbuilt =>
    obtain ⟨e, hforce, hbuild⟩ | ⟨m, hforce, hm, hbuild⟩ := hform.force
    · exact .inl ⟨e, hbuild, hforce⟩
    · exact .inr ⟨m.fresh, m, hbuild, hforce, m.grows_fresh, hm⟩
  | refused e =>
    obtain rfl := h
    exact .inl ⟨e, rfl, rfl⟩
  | built n =>
    obtain ⟨m, rfl, hnm⟩ := h
    exact .inr ⟨n, m, rfl, rfl, hnm, hform.2⟩

section

variable {c : Context} {fuel : Nat} {t : Trace}

theorem Node.evaluate_within {negated : Bool} {argument record : Value} {bounds : Node}
    (h : record.isArray = false) :
  (within negated argument bounds).evaluate c (fuel + 1) record
    = Except.bind (bounds.evaluate c fuel record) fun (outcome, bounds) =>
        pure (outcome, within negated argument bounds)
  := by
  cases record with
  | array items => cases h
  | _ => rfl

theorem Node.traced_within {negated : Bool} {argument record : Value} {bounds : Node}
    (h : record.isArray = false) :
  (within negated argument bounds).traced c (fuel + 1) record t
    = t.scope (within negated argument bounds).title record fun t =>
        Except.bind (bounds.traced c fuel record t) fun (outcome, bounds, t) =>
          pure (outcome, within negated argument bounds, t)
  := by
  cases record with
  | array items => cases h
  | _ => rfl

theorem Node.evaluate_literal {role : Role} {argument record x : Value} {direct : Node} {form : Form}
    (hx : role.subject? c record = some x) (h : x.isArray = false) :
  (literal role argument direct form).evaluate c (fuel + 1) record
    = Except.bind (direct.evaluate c fuel x) fun (outcome, direct) =>
        pure (role.conclude outcome, literal role argument direct form)
  := by
  rw [evaluate, hx]
  cases x with
  | array items => cases h
  | _ => rfl

theorem Node.traced_literal {role : Role} {argument record x : Value} {direct : Node} {form : Form}
    (hx : role.subject? c record = some x) (h : x.isArray = false) :
  (literal role argument direct form).traced c (fuel + 1) record t
    = t.scope (literal role argument direct form).title record fun t =>
        Except.bind (direct.traced c fuel x t) fun (outcome, direct, t) =>
          pure (role.conclude outcome, literal role argument direct form, t)
  := by
  rw [traced]
  simp only [hx]
  cases x with
  | array items => cases h
  | _ => rfl

end

theorem Value.isArray_cases (v : Value) :
  (∃ items, v = .array items) ∨ v.isArray = false
  := by
  cases v with
  | array items => exact .inl ⟨items, rfl⟩
  | _ => exact .inr rfl

/-- A trace leaves consistent matchers behind. -/
theorem Node.traced_staysConsistent (c : Context) (fuel : Nat) (record : Value) :
  StaysConsistent c.engine.registry fun n t => n.traced c fuel record t
  := by
  constructor
  intro n m t t' outcome hn h
  obtain ⟨_, -, -, -, hbecomes⟩ := (traced_follows c fuel hn record t).leaves h
  apply hbecomes.1

/-- What is left behind by an evaluation that puts what another one leaves behind into a matcher. -/
theorem exists_of_wrapped {α : Type} {step : Step α} (conclude : Outcome → Outcome) (f : α → Node)
    {outcome : Outcome} {n : Node}
    (h : (Except.bind step fun (outcome, x) => pure (conclude outcome, f x)) = .ok (outcome, n)) :
  ∃ first x, step = .ok (first, x) ∧ f x = n
  := by
  obtain ⟨⟨first, x⟩, hx, hn⟩ := bind_eq_ok_iff.mp h
  cases hn
  exact ⟨first, x, hx, rfl⟩

/-- What is left behind by a traced evaluation that puts what another one leaves behind into a matcher. -/
theorem exists_of_scope_wrapped {α β : Type} {eval : Trace → Except Abort (β × α × Trace)}
    (conclude : β → Outcome) (f : α → Node) {title : String} {record : Value} {t t' : Trace}
    {outcome : Outcome} {n : Node}
    (h : (t.scope title record fun t => Except.bind (eval t) fun (b, x, t) => pure (conclude b, f x, t))
      = .ok (outcome, n, t')) :
  ∃ b x inner, eval { t with level := t.level + 1 } = .ok (b, x, inner) ∧ f x = n
  := by
  obtain ⟨inner, hbody, -⟩ := Trace.scope_eq_ok_iff.mp h
  obtain ⟨⟨b, x, _⟩, hx, hn⟩ := bind_eq_ok_iff.mp hbody
  cases hn
  exact ⟨b, x, inner, hx, rfl⟩

section

variable {c c' : Context} {fuel fuel' : Nat} {v w : Value} {t t' : Trace} {outcome outcome' : Outcome}
  {argument : Value} {n' m' : Node} (hengine : c'.engine = c.engine)
  (hconverting : c'.converting = c.converting) (hrules : c.engine.normalizer.YieldsStrings)
  (h : c.engine.normalizer.Represents v w)
  (hbelow : ∀ x y, c.engine.normalizer.Represents x y →
    Node.Covered c.engine.registry (fun n => n.evaluate c fuel x) (fun n t => n.traced c' fuel' y t))

include h hbelow

theorem Node.covered_group {grouping : Grouping} {children children' : List Node}
    (hm : (group grouping argument children').Consistent c.engine.registry)
    (hgrows : growAll children children')
    (heval : (group grouping argument children).evaluate c (fuel + 1) v = .ok (outcome, n'))
    (htrace : (group grouping argument children').traced c' (fuel' + 1) w t = .ok (outcome', m', t')) :
  n'.Grows m'
  := by
  obtain ⟨_, k, hk, rfl⟩ := exists_of_wrapped id (group grouping argument) heval
  obtain ⟨_, l, _, hl, rfl⟩ :=
    exists_of_scope_wrapped (foldOutcomes grouping.decisive) (group grouping argument) htrace
  have hchildren := (consistentAll_iff _ children').mp hm
  have hkl := untilDecided_covered (traced_lasting c' fuel' w) (hbelow v w h) hchildren hgrows hk hl
  exact ⟨l, rfl, hkl⟩

include hengine hrules

theorem Node.covered_within {negated : Bool} {bounds bounds' : Node}
    (hm : (within negated argument bounds').Consistent c.engine.registry)
    (hgrows : bounds.Grows bounds')
    (heval : (within negated argument bounds).evaluate c (fuel + 1) v = .ok (outcome, n'))
    (htrace : (within negated argument bounds').traced c' (fuel' + 1) w t = .ok (outcome', m', t')) :
  n'.Grows m'
  := by
  have hm : bounds'.Consistent c.engine.registry := hm
  obtain ⟨items, rfl⟩ | harray := v.isArray_cases
  · obtain ⟨items', rfl, hitems⟩ := h.array
    obtain ⟨_, k, hk, rfl⟩ := exists_of_wrapped id (within negated argument) heval
    obtain ⟨_, l, _, hl, rfl⟩ :=
      exists_of_scope_wrapped (foldOutcomes (!negated)) (within negated argument) htrace
    have hconsistent := traced_staysConsistent c' fuel'
    rw [hengine] at hconsistent
    have hkl := scan_covered (traced_lasting c' fuel') hconsistent hbelow hitems hm hgrows hk hl
    exact ⟨l, rfl, hkl⟩
  · rw [evaluate_within harray] at heval
    rw [traced_within (h.isArray hrules harray)] at htrace
    obtain ⟨_, k, hk, rfl⟩ := exists_of_wrapped id (within negated argument) heval
    obtain ⟨_, l, _, hl, rfl⟩ := exists_of_scope_wrapped id (within negated argument) htrace
    exact ⟨l, rfl, (hbelow v w h).of_eq_ok hm hgrows hk hl⟩

include hconverting

theorem Node.covered_elements {quantifier : Quantifier} {inner inner' : Node}
    (hm : (elements quantifier argument inner').Consistent c.engine.registry)
    (hgrows : inner.Grows inner')
    (heval : (elements quantifier argument inner).evaluate c (fuel + 1) v = .ok (outcome, n'))
    (htrace : (elements quantifier argument inner').traced c' (fuel' + 1) w t = .ok (outcome', m', t')) :
  n'.Grows m'
  := by
  have hsame : n' = elements quantifier argument inner → n'.Grows m' := by
    rintro rfl
    have hfirst : (elements quantifier argument inner).Grows (elements quantifier argument inner') :=
      ⟨inner', rfl, hgrows⟩
    apply hfirst.trans ((traced_lasting c' _ w).of_eq_ok htrace).1
  cases v with
  | array items =>
    cases items with
    | nil =>
      cases heval
      apply hsame rfl
    | cons item items =>
      obtain ⟨items', rfl, hitems⟩ := h.array
      obtain ⟨item', items', -, -, rfl⟩ := List.forall₂_cons_left_iff.mp hitems
      obtain ⟨_, k, hk, rfl⟩ := exists_of_wrapped id (elements quantifier argument) heval
      obtain ⟨_, l, _, hl, rfl⟩ :=
        exists_of_scope_wrapped (foldOutcomes quantifier.decisive) (elements quantifier argument) htrace
      have hitem : ∀ x y, c.engine.normalizer.Represents x y →
          Covered c.engine.registry (fun n => n.evaluate c fuel (c.taken x))
            (fun n t => n.traced c' fuel' (c'.taken y) t) :=
        fun x y hxy => hbelow _ _ (hxy.taken hengine hconverting hrules)
      have hconsistent := fun item => traced_staysConsistent c' fuel' (c'.taken item)
      rw [hengine] at hconsistent
      have hm : inner'.Consistent c.engine.registry := hm
      have hkl := scan_covered (fun item => traced_lasting c' fuel' (c'.taken item)) hconsistent hitem
        hitems hm hgrows hk hl
      exact ⟨l, rfl, hkl⟩
  | _ =>
    cases heval
    apply hsame rfl

theorem Node.covered_literal {role : Role} {direct direct' : Node} {form form' : Form}
    (hm : (literal role argument direct' form').Consistent c.engine.registry)
    (hdirect : direct.Grows direct') (hform : form.Grows form')
    (heval : (literal role argument direct form).evaluate c (fuel + 1) v = .ok (outcome, n'))
    (htrace : (literal role argument direct' form').traced c' (fuel' + 1) w t = .ok (outcome', m', t')) :
  n'.Grows m'
  := by
  cases hx : role.subject? c v with
  | none =>
    rw [evaluate, hx] at heval
    cases heval
    have hfirst : (literal role argument direct form).Grows (literal role argument direct' form') :=
      ⟨direct', form', rfl, hdirect, hform⟩
    apply hfirst.trans ((traced_lasting c' _ w).of_eq_ok htrace).1
  | some x =>
    obtain ⟨y, hy, hxy⟩ := h.subject hengine hconverting hrules hx
    obtain ⟨items, rfl⟩ | harray := x.isArray_cases
    · obtain ⟨items', rfl, -⟩ := hxy.array
      rw [evaluate, hx] at heval
      dsimp only at heval
      obtain ⟨inner, hbody, -⟩ := Trace.scope_eq_ok_iff.mp htrace
      simp only [hy, hengine] at hbody
      obtain ⟨e, hforce, hforce'⟩ | ⟨k, l, hforce, hforce', hkl, hl⟩ := hform.force hm.2
      · rw [hforce] at heval
        rw [hforce'] at hbody
        cases heval
        cases hbody
        exact ⟨direct', .refused e, rfl, hdirect, rfl⟩
      · rw [hforce] at heval
        rw [hforce'] at hbody
        obtain ⟨⟨_, k'⟩, hk', heval⟩ := bind_eq_ok_iff.mp heval
        obtain ⟨⟨_, l', _⟩, hl', hbody⟩ := bind_eq_ok_iff.mp hbody
        cases heval
        cases hbody
        have hgrows := (hbelow _ _ hxy).of_eq_ok hl hkl hk' hl'
        exact ⟨direct', .built l', rfl, hdirect, l', rfl, hgrows⟩
    · rw [evaluate_literal hx harray] at heval
      rw [traced_literal hy (hxy.isArray hrules harray)] at htrace
      obtain ⟨_, k, hk, rfl⟩ := exists_of_wrapped role.conclude (literal role argument · form) heval
      obtain ⟨_, l, _, hl, rfl⟩ :=
        exists_of_scope_wrapped (fun o => role.conclude o) (literal role argument · form') htrace
      exact ⟨l, form', rfl, (hbelow x y hxy).of_eq_ok hm.1 hdirect hk hl, hform⟩

end

/-- A trace of a record builds all the forms that evaluating a record builds that it represents. -/
theorem Node.traced_covers {c c' : Context} (hengine : c'.engine = c.engine)
    (hconverting : c'.converting = c.converting) (hrules : c.engine.normalizer.YieldsStrings)
    (fuel fuel' : Nat) {v w : Value} (h : c.engine.normalizer.Represents v w) :
  Covered c.engine.registry (fun n => n.evaluate c fuel v) (fun n t => n.traced c' fuel' w t)
  := by
  induction fuel generalizing fuel' v w with
  | zero => exact ⟨fun _ _ h => nomatch h⟩
  | succ fuel ih =>
    cases fuel' with
    | zero => exact ⟨fun _ _ _ h => nomatch h⟩
    | succ fuel' =>
      constructor
      intro n n' m m' t t' outcome outcome' hm hgrows heval htrace
      have hbelow : ∀ x y, c.engine.normalizer.Represents x y →
          Covered c.engine.registry (fun n => n.evaluate c fuel x) (fun n t => n.traced c' fuel' y t) :=
        fun _ _ hxy => ih fuel' hxy
      cases n with
      | leaf l =>
        obtain ⟨_, -, hl⟩ := bind_eq_ok_iff.mp heval
        cases hl
        apply hgrows.trans ((traced_lasting c' _ w).of_eq_ok htrace).1
      | within negated argument bounds =>
        obtain ⟨bounds', rfl, hbounds⟩ := hgrows
        apply covered_within hengine hrules h hbelow hm hbounds heval htrace
      | elements quantifier argument inner =>
        obtain ⟨inner', rfl, hinner⟩ := hgrows
        apply covered_elements hengine hconverting hrules h hbelow hm hinner heval htrace
      | group grouping argument children =>
        obtain ⟨children', rfl, hchildren⟩ := hgrows
        apply covered_group h hbelow hm hchildren heval htrace
      | literal role argument direct form =>
        obtain ⟨direct', form', rfl, hdirect, hform⟩ := hgrows
        apply covered_literal hengine hconverting hrules h hbelow hm hdirect hform heval htrace

/-! ### Queries that grow -/

/-- A query grows to a query for the same argument whose matcher its own matcher grows to. -/
structure Query.GrowsTo (q k : Query) : Prop where
  argument : k.matcher.argument = q.matcher.argument
  node : q.matcher.node.Grows k.matcher.node

theorem Query.GrowsTo.refl (q : Query) :
  q.GrowsTo q
  := ⟨rfl, .refl _⟩

theorem Query.GrowsTo.trans {q k l : Query} (h : q.GrowsTo k) (h' : k.GrowsTo l) :
  q.GrowsTo l
  := ⟨h'.argument.trans h.argument, h.node.trans h'.node⟩

/-- A use of a query lasts if the query grows by it, and if the use comes to the same on all to which
the query then grows in the same context, and leaves the matcher of that as it is. -/
structure Query.Lasting {β : Type} (use : Query → Except Abort (β × Query)) : Prop where
  of_eq_ok {q k : Query} {b : β} (h : use q = .ok (b, k)) :
    q.GrowsTo k ∧ ∀ l, l.context = q.context → k.GrowsTo l →
      ∃ l', use l = .ok (b, l') ∧ l'.matcher.node = l.matcher.node

/-- A use lasts when what it comes to is looked at in another way, and the query is left with the same
matcher. -/
theorem Query.Lasting.map {β γ : Type} {use : Query → Except Abort (β × Query)} (h : Lasting use)
    (f : β → γ) {g : Query → Query} (hg : ∀ q : Query, (g q).matcher.argument = q.matcher.argument
      ∧ (g q).matcher.node = q.matcher.node) :
  Lasting fun q => (use q).map fun (b, k) => (f b, g k)
  := by
  constructor
  intro q k _ hk
  obtain ⟨⟨b, l⟩, hl, heq⟩ := map_eq_ok_iff.mp hk
  cases heq
  obtain ⟨hargument, hnode⟩ := hg l
  obtain ⟨hgrows, hagain⟩ := h.of_eq_ok hl
  constructor
  · exact ⟨hargument.trans hgrows.argument, hnode ▸ hgrows.node⟩
  · intro m hcontext hm
    have hlm : l.GrowsTo m := ⟨hm.argument.trans hargument, hnode ▸ hm.node⟩
    obtain ⟨m', hm', hnode'⟩ := hagain m hcontext hlm
    refine ⟨g m', map_eq_ok_iff.mpr ⟨(b, m'), hm', rfl⟩, (hg m').2.trans hnode'⟩

/-- Evaluating a query lasts. The record may depend on the context. -/
theorem Query.evaluate_lasting (record : Context → Value) :
  Lasting fun q => q.evaluate (record q.context)
  := by
  constructor
  intro q k outcome h
  rw [evaluate_eq] at h
  obtain ⟨⟨_, n⟩, _, hn, heq⟩ := Ensures.pmap_eq_ok_iff.mp h
  cases heq
  obtain ⟨hgrows, hagain⟩ := (Node.evaluate_lasting _ _ _).of_eq_ok hn
  refine ⟨⟨rfl, hgrows⟩, ?_⟩
  intro l hcontext hl
  have hargument : l.matcher.argument = q.matcher.argument := hl.argument
  refine ⟨l, ?_, rfl⟩
  rw [evaluate_eq, hcontext, hargument]
  apply Ensures.pmap_of_eq_ok _ _ (hagain _ hl.node)

/-- Tracing a query lasts. -/
theorem Query.trace_lasting (record : Value) :
  Lasting fun q => q.trace record
  := by
  constructor
  intro q k trace h
  rw [trace_eq] at h
  obtain ⟨⟨outcome, n, t⟩, _, hn, heq⟩ := Ensures.pmap_eq_ok_iff.mp h
  cases heq
  obtain ⟨hgrows, hagain⟩ := (Node.traced_lasting _ _ _).of_eq_ok hn
  refine ⟨⟨rfl, hgrows⟩, ?_⟩
  intro l hcontext hl
  have hargument : l.matcher.argument = q.matcher.argument := hl.argument
  have hnormalize : l.normalizeRecord record = q.normalizeRecord record := by
    rw [normalizeRecord, normalizeRecord, hcontext]
  refine ⟨l.becomeTraced l.matcher.node rfl, ?_, rfl⟩
  rw [trace_eq, hcontext, hargument, hnormalize]
  apply Ensures.pmap_of_eq_ok _ _ (hagain _ hl.node)

/-- Every evaluation of a query lasts. -/
theorem Query.perform_lasting (evaluation : Evaluation) :
  Lasting fun q => q.perform evaluation
  := by
  have hsame : ∀ q : Query, (id q).matcher.argument = q.matcher.argument
      ∧ (id q).matcher.node = q.matcher.node := fun _ => ⟨rfl, rfl⟩
  have htest : ∀ record, Lasting fun q => q.test record := by
    intro record
    simp only [test_eq]
    exact (evaluate_lasting fun _ => record).map id fun _ => ⟨rfl, rfl⟩
  cases evaluation with
  | isMatch record =>
    have hmatch := evaluate_lasting fun c => c.engine.normalizer.normalizeRecord record
    apply (hmatch.map Outcome.isMatch hsame).map Reply.matched hsame
  | evaluate record => apply (evaluate_lasting fun _ => record).map Reply.concluded hsame
  | satisfies record => apply ((htest record).map Outcome.isMatch hsame).map Reply.matched hsame
  | test record => apply (htest record).map Reply.concluded hsame
  | trace record => apply (trace_lasting record).map Reply.traced hsame

/-- A query is used: it is evaluated in some way, its predicate is prepared, or the conversion of values
that are taken out of records is turned on or off. -/
inductive Query.Used : Query → Query → Prop
  | performed {q k : Query} {evaluation : Evaluation} {reply : Reply}
      (h : q.perform evaluation = .ok (reply, k)) : Used q k
  | prepared (q : Query) : Used q q.prepare
  | converting (q : Query) (converting : Bool) : Used q (q.setConverting converting)

/-- A query grows by being used once. -/
theorem Query.Used.growsTo {q k : Query} (h : q.Used k) :
  q.GrowsTo k
  := by
  cases h with
  | performed h => apply ((perform_lasting _).of_eq_ok h).1
  | prepared => exact ⟨rfl, .refl _⟩
  | converting => exact ⟨rfl, .refl _⟩

/-- A query grows by being used any number of times. -/
theorem Query.growsTo_of_used {q k : Query} (h : Relation.ReflTransGen Used q k) :
  q.GrowsTo k
  := by
  induction h with
  | refl => exact .refl q
  | tail _ hused ih => apply ih.trans hused.growsTo

/-! ### What evaluations build -/

/-- A record that is converted up front represents the record if this is sealed. -/
theorem Normalizer.Seals.represents {n : Normalizer} {record : Value} (h : n.Seals record) :
  n.Represents record (n.normalizeRecord record)
  := by
  rw [normalizeRecord_eq]
  exact .inr ⟨h, rfl⟩

section

variable {q k : Query} (hq : q.Kept .core) {record : Value} {outcome : Outcome}
  (hk : q.evaluate record = .ok (outcome, k))

include hq hk

/-- A trace of what represents a record builds all the forms that evaluating a query with the usual
operators builds on the record. -/
theorem Query.Kept.formPlaces_subset {v : Value} (hv : Normalizer.core.Represents record v) {c : Context}
    (hengine : c.engine = q.context.engine) (hconverting : c.converting = q.context.converting)
    {fuel : Nat} {m : Node} {t t' : Trace} {o : Outcome}
    (hm : q.matcher.node.traced c fuel v t = .ok (o, m, t')) :
  k.matcher.node.formPlaces ⊆ m.formPlaces
  := by
  obtain ⟨hconsistent, -⟩ := Engine.core_sound.invariant hq.node
  rw [q.evaluate_eq] at hk
  obtain ⟨⟨_, n⟩, _, hn, heq⟩ := Ensures.pmap_eq_ok_iff.mp hk
  cases heq
  have hcore : q.context.engine = .core := hq.engine
  have hrules : q.context.engine.normalizer.YieldsStrings := by
    rw [hcore]
    apply Normalizer.core_yieldsStrings
  rw [← hcore] at hconsistent
  have hcovered := Node.traced_covers hengine hconverting hrules
    (evaluationBound q.matcher.argument record) fuel (by rwa [hcore])
  apply (hcovered.of_eq_ok hconsistent (.refl _) hn hm).formPlaces

/-- A trace of the matcher of a query builds all the forms that evaluating the query builds. -/
theorem Query.Kept.exists_matcher_traced :
  ∃ o m t, q.matcher.traced record = .ok (o, m, t) ∧ k.matcher.node.formPlaces ⊆ m.node.formPlaces
  := by
  have hengine : q.context.engine = .core := hq.engine
  have htraces := Engine.core_sound.traced hengine hq.node
    (Nat.le_refl (evaluationBound q.condition.value record)) .new
  rw [← hq.argument] at htraces
  unfold Matcher.traced
  cases htraced : q.matcher.node.traced q.context (evaluationBound q.matcher.argument record) record
      .new with
  | error abort =>
    rw [htraced] at htraces
    exact absurd (htraces.aborts rfl).2 Engine.core_not_overflows
  | ok result =>
    obtain ⟨o, n, t⟩ := result
    refine ⟨o, _, t, Ensures.pmap_of_eq_ok _ _ htraced, ?_⟩
    apply hq.formPlaces_subset hk (.inl rfl) rfl rfl htraced

/-- A trace of a sealed record builds all the forms that evaluating the query on the record builds. -/
theorem Query.Kept.exists_trace :
  ∃ t l, q.trace record = .ok (t, l)
    ∧ (Normalizer.core.Seals record → k.matcher.node.formPlaces ⊆ l.matcher.node.formPlaces)
  := by
  obtain ⟨v, -, hfinish⟩ := hq.trace Engine.core_sound Engine.core_not_overflows record
  generalize htrace : q.trace record = step at hfinish
  obtain ⟨l, -⟩ := hfinish
  refine ⟨_, l, rfl, fun hseals => ?_⟩
  rw [q.trace_eq] at htrace
  obtain ⟨⟨o, n, t⟩, _, htraced, heq⟩ := Ensures.pmap_eq_ok_iff.mp htrace
  cases heq
  have hnormalize : Normalizer.core.normalizeRecord record = q.normalizeRecord record := by
    rw [normalizeRecord, show q.context.engine = .core from hq.engine]
    rfl
  have hrepresents := hseals.represents
  rw [hnormalize] at hrepresents
  apply hq.formPlaces_subset (c := q.context.tracing (q.normalizeRecord record)) hk hrepresents rfl rfl htraced

end

/-- Evaluating a query with the usual operators on a record, and calling its predicate on it, leave the
same matcher. A trace of the record leaves at least the forms that are built in that. However the
query is used, no form is dropped or replaced, and the titles in the outline of its matcher stay, in
the same order. An evaluation that takes place again, at once or later in the same context, comes to the
same and leaves the matcher tree as it is. A trace converts the record up front, so host values with a
rule must have no fields there. -/
theorem built_forms_stay {q : Query} (hq : q.Arises .core) :
  (∀ record, ∃ outcome k k', q.evaluate record = .ok (outcome, k) ∧ q.test record = .ok (outcome, k')
      ∧ k'.matcher.node = k.matcher.node
      ∧ (∃ o m t, q.matcher.traced record = .ok (o, m, t)
        ∧ k.matcher.node.formPlaces ⊆ m.node.formPlaces)
      ∧ ∃ t l, q.trace record = .ok (t, l)
        ∧ (Normalizer.core.Seals record → k.matcher.node.formPlaces ⊆ l.matcher.node.formPlaces))
    ∧ (∀ l, Relation.ReflTransGen Query.Used q l → q.matcher.node.Grows l.matcher.node
      ∧ q.matcher.node.outline.titles.Sublist l.matcher.node.outline.titles)
    ∧ ∀ evaluation, ∃ reply k, q.perform evaluation = .ok (reply, k) ∧ k.context = q.context
      ∧ ∀ l, Relation.ReflTransGen Query.Used k l → l.context = q.context →
        ∃ l', l.perform evaluation = .ok (reply, l') ∧ l'.matcher.node = l.matcher.node
          ∧ l'.tree = l.tree
  := by
  have hkept := hq.kept Engine.core_sound
  refine ⟨?_, ?_, ?_⟩
  · intro record
    obtain ⟨outcome, -, hfinish⟩ := hkept.evaluate Engine.core_sound Engine.core_not_overflows record
    generalize hstep : q.evaluate record = step at hfinish
    obtain ⟨k, -⟩ := hfinish
    refine ⟨outcome, k, k.prepare, rfl, ?_, rfl, hkept.exists_matcher_traced hstep, hkept.exists_trace hstep⟩
    rw [q.test_eq, hstep]
    rfl
  · intro l hl
    have hgrows := (Query.growsTo_of_used hl).node
    exact ⟨hgrows, hgrows.titles⟩
  · intro evaluation
    obtain ⟨reply, hfinish, -⟩ := (Query.Twins.refl hkept).perform Engine.core_sound
      Engine.core_not_overflows evaluation
    generalize hstep : q.perform evaluation = step at hfinish
    cases hfinish with
    | leaving k hk =>
      refine ⟨reply, k, rfl, hk.context.symm, fun l hl hcontext => ?_⟩
      obtain ⟨-, hagain⟩ := (Query.perform_lasting evaluation).of_eq_ok hstep
      obtain ⟨l', hl', hnode⟩ := hagain l hcontext (Query.growsTo_of_used hl)
      refine ⟨l', hl', hnode, ?_⟩
      rw [Query.tree, Query.tree, Matcher.tree, Matcher.tree, hnode]

/-- A query for a number under a field: on an array under the field the form for arrays is built, which
has two titles. The predicate leaves the same matcher, a trace leaves the form, too, and evaluating the
record again leaves the tree. -/
theorem built_forms_stay_array :
  ∃ q outcome k k', ∃ record : Value, Query.compile? .core (.value (.map [("a", .int 1)])) [] = .ok q
    ∧ q.evaluate record = .ok (outcome, k) ∧ q.test record = .ok (outcome, k')
    ∧ [] ∉ q.matcher.node.formPlaces ∧ [] ∈ k.matcher.node.formPlaces
    ∧ q.matcher.node.outline.titles.length = 2 ∧ k.matcher.node.outline.titles.length = 4
    ∧ k'.matcher.node = k.matcher.node
    ∧ (∃ t l, q.trace record = .ok (t, l) ∧ k.matcher.node.formPlaces ⊆ l.matcher.node.formPlaces)
    ∧ ∃ l, k.perform (.evaluate record) = .ok (.concluded outcome, l) ∧ l.tree = k.tree
  := by
  obtain ⟨q, hq⟩ : ∃ q, Query.compile? .core (.value (.map [("a", .int 1)])) [] = .ok q := ⟨_, rfl⟩
  let record : Value := .map [("a", .array [.int 2, .int 1])]
  obtain ⟨hbuild, -, hagain⟩ := built_forms_stay (.compiled hq)
  obtain ⟨outcome, k, k', hk, hk', hnode, -, t, l, hl, hsubset⟩ := hbuild record
  obtain ⟨reply, m, hm, hcontext, hagain⟩ := hagain (.evaluate record)
  have hperform : q.perform (.evaluate record) = .ok (.concluded outcome, k) :=
    map_eq_ok_iff.mpr ⟨(outcome, k), hk, rfl⟩
  cases hperform.symm.trans hm
  obtain ⟨k'', hk'', -, htree⟩ := hagain k .refl hcontext
  have hplain : Normalizer.core.Seals record := Normalizer.seals_of_hasHost rfl
  refine ⟨q, outcome, k, k', record, hq, hk, hk', ?_, ?_, ?_, ?_, hnode, ⟨t, l, hl, hsubset hplain⟩,
    k'', hk'', htree⟩
  · cases hq
    rintro ⟨_, _, _, _, h⟩
    cases h
  · cases hq
    cases hk
    exact ⟨_, _, _, _, rfl⟩
  · cases hq
    rfl
  · cases hq
    cases hk
    rfl

end DocQuery
