import DocQuery.Proofs.Sessions

/-!
# Growing matcher trees

The forms for arrays in a matcher tree are built when the first arrays come, and then kept. So a tree
only grows: whatever is done with a query, each form stays at its place, and the titles of the tree
only gain further ones. An evaluation builds the forms that it needs, and needs no others when it takes
place again. A prepared predicate needs the same ones, and a trace needs at least these.
-/

namespace DocQuery

/-! ### Trees that grow -/

mutual

/-- A matcher grows to the same matcher with, perhaps, more forms built. -/
def Node.Grows : Node → Node → Prop
  | .leaf l, m => m = .leaf l
  | .within negated argument bounds, m =>
    ∃ bounds', m = .within negated argument bounds' ∧ bounds.Grows bounds'
  | .elements quantifier argument inner, m =>
    ∃ inner', m = .elements quantifier argument inner' ∧ inner.Grows inner'
  | .group grouping argument children, m =>
    ∃ children', m = .group grouping argument children' ∧ growAll children children'
  | .literal role argument direct form, m =>
    ∃ direct' form', m = .literal role argument direct' form' ∧ direct.Grows direct' ∧ form.Grows form'

/-- Each of several matchers grows. -/
def growAll : List Node → List Node → Prop
  | [], nodes => nodes = []
  | n :: rest, nodes => ∃ m rest', nodes = m :: rest' ∧ n.Grows m ∧ growAll rest rest'

/-- A form that is not built may be built or refused. One that was refused stays so, and one that was
built grows. -/
def Form.Grows : Form → Form → Prop
  | .unbuilt, _ => True
  | .refused e, form => form = .refused e
  | .built n, form => ∃ m, form = .built m ∧ n.Grows m

end

theorem growAll_iff {nodes nodes' : List Node} :
  growAll nodes nodes' ↔ List.Forall₂ Node.Grows nodes nodes'
  := by
  induction nodes generalizing nodes' with
  | nil =>
    rw [List.forall₂_nil_left_iff]
    rfl
  | cons n rest ih =>
    rw [growAll, List.forall₂_cons_left_iff]
    simp only [ih]
    constructor
    · rintro ⟨m, rest', rfl, hn, hrest⟩
      exact ⟨m, rest', hn, hrest, rfl⟩
    · rintro ⟨m, rest', hn, hrest, rfl⟩
      exact ⟨m, rest', rfl, hn, hrest⟩

mutual

theorem Node.Grows.refl : ∀ n : Node, n.Grows n
  | .leaf _ => rfl
  | .within _ _ bounds => ⟨bounds, rfl, .refl bounds⟩
  | .elements _ _ inner => ⟨inner, rfl, .refl inner⟩
  | .group _ _ children => ⟨children, rfl, growAll_refl children⟩
  | .literal _ _ direct form => ⟨direct, form, rfl, .refl direct, .refl form⟩

theorem growAll_refl : ∀ nodes : List Node, growAll nodes nodes
  | [] => rfl
  | n :: rest => ⟨n, rest, rfl, .refl n, growAll_refl rest⟩

theorem Form.Grows.refl : ∀ form : Form, form.Grows form
  | .unbuilt => trivial
  | .refused _ => rfl
  | .built n => ⟨n, rfl, .refl n⟩

end

mutual

theorem Node.Grows.trans : ∀ {n m k : Node}, n.Grows m → m.Grows k → n.Grows k
  | .leaf _, _, _, rfl, h => h
  | .within _ _ _, _, _, ⟨_, rfl, h⟩, ⟨_, rfl, h'⟩ => ⟨_, rfl, h.trans h'⟩
  | .elements _ _ _, _, _, ⟨_, rfl, h⟩, ⟨_, rfl, h'⟩ => ⟨_, rfl, h.trans h'⟩
  | .group _ _ _, _, _, ⟨_, rfl, h⟩, ⟨_, rfl, h'⟩ => ⟨_, rfl, growAll_trans h h'⟩
  | .literal _ _ _ _, _, _, ⟨_, _, rfl, h, hform⟩, ⟨_, _, rfl, h', hform'⟩ =>
    ⟨_, _, rfl, h.trans h', hform.trans hform'⟩

theorem growAll_trans : ∀ {nodes nodes' nodes'' : List Node},
    growAll nodes nodes' → growAll nodes' nodes'' → growAll nodes nodes''
  | [], _, _, rfl, h => h
  | _ :: _, _, _, ⟨_, _, rfl, h, hrest⟩, ⟨_, _, rfl, h', hrest'⟩ =>
    ⟨_, _, rfl, h.trans h', growAll_trans hrest hrest'⟩

theorem Form.Grows.trans : ∀ {form form' form'' : Form},
    form.Grows form' → form'.Grows form'' → form.Grows form''
  | .unbuilt, _, _, _, _ => trivial
  | .refused _, _, _, rfl, h => h
  | .built _, _, _, ⟨_, rfl, h⟩, ⟨_, rfl, h'⟩ => ⟨_, rfl, h.trans h'⟩

end

mutual

/-- A matcher as it was compiled grows to the matcher. -/
theorem Node.grows_fresh : ∀ n : Node, n.fresh.Grows n
  | .leaf _ => rfl
  | .within _ _ bounds => ⟨bounds, rfl, bounds.grows_fresh⟩
  | .elements _ _ inner => ⟨inner, rfl, inner.grows_fresh⟩
  | .group _ _ children => ⟨children, rfl, growAll_fresh children⟩
  | .literal _ _ direct form => ⟨direct, form, rfl, direct.grows_fresh, trivial⟩

theorem growAll_fresh : ∀ nodes : List Node, growAll (freshAll nodes) nodes
  | [] => rfl
  | n :: rest => ⟨n, rest, rfl, n.grows_fresh, growAll_fresh rest⟩

end

mutual

/-- When a matcher grows, the titles in its outline stay, in the same order. -/
theorem Node.Grows.titles : ∀ {n m : Node}, n.Grows m → n.outline.titles.Sublist m.outline.titles
  | .leaf _, _, rfl => .refl _
  | .within _ _ _, _, ⟨_, rfl, h⟩ => (h.titles.append (.refl [])).cons_cons _
  | .elements _ _ _, _, ⟨_, rfl, h⟩ => (h.titles.append (.refl [])).cons_cons _
  | .group _ _ _, _, ⟨_, rfl, h⟩ => (titles_of_growAll h).cons_cons _
  | .literal _ _ _ _, _, ⟨_, _, rfl, h, hform⟩ => (h.titles.append hform.titles).cons_cons _

theorem titles_of_growAll : ∀ {nodes nodes' : List Node}, growAll nodes nodes' →
    (Outline.titlesOfAll (outlines nodes)).Sublist (Outline.titlesOfAll (outlines nodes'))
  | [], _, rfl => .refl _
  | _ :: _, _, ⟨_, _, rfl, h, hrest⟩ => h.titles.append (titles_of_growAll hrest)

theorem Form.Grows.titles : ∀ {form form' : Form}, form.Grows form' →
    (Outline.titlesOfAll form.outlines).Sublist (Outline.titlesOfAll form'.outlines)
  | .unbuilt, _, _ => List.nil_sublist _
  | .refused _, _, rfl => .refl _
  | .built _, _, ⟨_, rfl, h⟩ => h.titles.append (.refl [])

end

/-- A form that cannot be built is refused from then on. -/
theorem Form.grows_refused {r : Registry} {argument : Value} {form : Form} {e : CompileError}
    (h : form.force r argument = .error e) :
  form.Grows (.refused e)
  := by
  cases form with
  | unbuilt => trivial
  | refused _ =>
    cases h
    rfl
  | built _ => cases h

/-- A form that can be built is built from then on. -/
theorem Form.grows_built {r : Registry} {argument : Value} {form : Form} {n m : Node}
    (h : form.force r argument = .ok n) (hm : n.Grows m) :
  form.Grows (.built m)
  := by
  cases form with
  | unbuilt => trivial
  | refused _ => cases h
  | built _ =>
    cases h
    exact ⟨m, rfl, hm⟩

/-! ### Places -/

/-- The matcher at a place in a tree. A place says which child to go to, level by level. -/
def Node.at? : List Nat → Node → Option Node
  | [], n => some n
  | i :: place, n => n.children[i]?.bind (Node.at? place)

/-- The places in a tree at which the form for arrays of a literal argument is built. -/
def Node.formPlaces (n : Node) : Set (List Nat) :=
  { place | ∃ role argument direct m, n.at? place = some (.literal role argument direct (.built m)) }

/-- When a matcher grows, its children do, each at its place. -/
theorem Node.Grows.child {n m x : Node} (h : n.Grows m) {i : Nat} (hx : n.children[i]? = some x) :
  ∃ y, m.children[i]? = some y ∧ x.Grows y
  := by
  have hlist : ∀ {nodes nodes' : List Node}, List.Forall₂ Node.Grows nodes nodes' →
      nodes[i]? = some x → ∃ y, nodes'[i]? = some y ∧ x.Grows y := by
    intro nodes nodes' hnodes hx
    obtain ⟨hnone, -⟩ | ⟨y, z, hy, hz, hgrows⟩ := getElem?_of_forall₂ hnodes i
    · cases hnone.symm.trans hx
    · cases hy.symm.trans hx
      exact ⟨z, hz, hgrows⟩
  cases n with
  | leaf l => cases hx
  | within negated argument bounds =>
    obtain ⟨bounds', rfl, h⟩ := h
    apply hlist (.cons h .nil) hx
  | elements quantifier argument inner =>
    obtain ⟨inner', rfl, h⟩ := h
    apply hlist (.cons h .nil) hx
  | group grouping argument children =>
    obtain ⟨children', rfl, h⟩ := h
    apply hlist (growAll_iff.mp h) hx
  | literal role argument direct form =>
    obtain ⟨direct', form', rfl, h, hform⟩ := h
    cases form with
    | built k =>
      obtain ⟨k', rfl, hk⟩ := hform
      apply hlist (.cons h (.cons hk .nil)) hx
    | _ =>
      cases i with
      | zero =>
        cases hx
        exact ⟨direct', rfl, h⟩
      | succ i => cases hx

/-- When a matcher grows, the matcher at each place does. -/
theorem Node.Grows.at? {n m x : Node} (h : n.Grows m) {place : List Nat} (hx : n.at? place = some x) :
  ∃ y, m.at? place = some y ∧ x.Grows y
  := by
  induction place generalizing n m with
  | nil =>
    cases hx
    exact ⟨m, rfl, h⟩
  | cons i place ih =>
    obtain ⟨k, hk, hx⟩ := Option.bind_eq_some_iff.mp hx
    obtain ⟨k', hk', hgrows⟩ := h.child hk
    obtain ⟨y, hy, hxy⟩ := ih hgrows hx
    exact ⟨y, Option.bind_eq_some_iff.mpr ⟨k', hk', hy⟩, hxy⟩

/-- When a matcher grows, all forms that are built stay at their places. -/
theorem Node.Grows.formPlaces {n m : Node} (h : n.Grows m) :
  n.formPlaces ⊆ m.formPlaces
  := by
  rintro place ⟨role, argument, direct, k, hk⟩
  obtain ⟨_, hy, direct', _, rfl, -, k', rfl, -⟩ := h.at? hk
  exact ⟨role, argument, direct', k', hy⟩

/-! ### Evaluations in turn -/

section

variable {α : Type} {decisive : Bool}

/-- A scan ends with the first record unless the outcome leaves it open. -/
theorem scan_cons_eq_ok_iff {eval : α → Value → Step α} {x y : α} {record : Value} {rest : List Value}
    {outcome : Outcome} :
  scan decisive eval x (record :: rest) = .ok (outcome, y)
    ↔ ∃ first z, eval x record = .ok (first, z)
      ∧ (first ≠ .ok (!decisive) ∧ (first, z) = (outcome, y)
        ∨ first = .ok (!decisive) ∧ scan decisive eval z rest = .ok (outcome, y))
  := by
  rw [scan, bind_eq_ok_iff, Prod.exists]
  refine exists_congr fun first => exists_congr fun z => and_congr_right fun _ => ?_
  cases first with
  | error e => simp [pure, Except.pure]
  | ok b => cases b <;> cases decisive <;> simp [pure, Except.pure]

/-- The evaluation of a list in turn ends with the first item unless the outcome leaves it open. -/
theorem untilDecided_cons_eq_ok_iff {eval : α → Step α} {x : α} {rest ys : List α}
    {outcome : Outcome} :
  untilDecided decisive eval (x :: rest) = .ok (outcome, ys)
    ↔ ∃ first z, eval x = .ok (first, z)
      ∧ (first ≠ .ok (!decisive) ∧ (first, z :: rest) = (outcome, ys)
        ∨ first = .ok (!decisive)
          ∧ ∃ rest', untilDecided decisive eval rest = .ok (outcome, rest') ∧ z :: rest' = ys)
  := by
  rw [untilDecided, bind_eq_ok_iff, Prod.exists]
  refine exists_congr fun first => exists_congr fun z => and_congr_right fun _ => ?_
  cases first with
  | error e => simp [pure, Except.pure]
  | ok b => cases b <;> cases decisive <;> simp [pure, Except.pure, bind_eq_ok_iff]

end

/-! ### Evaluations that last -/

/-- An evaluation that finishes leaves something behind to which its subject grows. On all to which
this grows in turn the evaluation comes to the same, and it leaves that as it is. -/
structure Lasting {α β : Type} (grows : α → α → Prop) (eval : α → Except Abort (β × α)) : Prop where
  of_eq_ok {x y : α} {b : β} (h : eval x = .ok (b, y)) : grows x y ∧ ∀ z, grows y z → eval z = .ok (b, z)

theorem scan_lasting {decisive : Bool} {eval : Node → Value → Step Node}
    (h : ∀ record, Lasting Node.Grows fun n => eval n record) (records : List Value) :
  Lasting Node.Grows fun n => scan decisive eval n records
  := by
  constructor
  induction records with
  | nil =>
    rintro n _ _ ⟨⟩
    exact ⟨.refl n, fun m _ => rfl⟩
  | cons record rest ih =>
    intro n n' outcome hn
    obtain ⟨first, k, hk, hrest⟩ := scan_cons_eq_ok_iff.mp hn
    obtain ⟨hgrows, hagain⟩ := (h record).of_eq_ok hk
    obtain ⟨hdecides, ⟨⟩⟩ | ⟨hopen, hrest⟩ := hrest
    · refine ⟨hgrows, fun m hm => ?_⟩
      apply scan_cons_eq_ok_iff.mpr ⟨_, m, hagain m hm, .inl ⟨hdecides, rfl⟩⟩
    · obtain ⟨hgrows', hagain'⟩ := ih hrest
      refine ⟨hgrows.trans hgrows', fun m hm => ?_⟩
      apply scan_cons_eq_ok_iff.mpr
      exact ⟨first, m, hagain m (hgrows'.trans hm), .inr ⟨hopen, hagain' m hm⟩⟩

theorem untilDecided_lasting {decisive : Bool} {eval : Node → Step Node}
    (h : Lasting Node.Grows eval) :
  Lasting growAll (untilDecided decisive eval)
  := by
  constructor
  intro nodes
  induction nodes with
  | nil =>
    rintro _ _ ⟨⟩
    refine ⟨rfl, ?_⟩
    rintro _ rfl
    rfl
  | cons n rest ih =>
    intro nodes' outcome hn
    obtain ⟨first, k, hk, hrest⟩ := untilDecided_cons_eq_ok_iff.mp hn
    obtain ⟨hgrows, hagain⟩ := h.of_eq_ok hk
    obtain ⟨hdecides, ⟨⟩⟩ | ⟨hopen, rest', hrest, rfl⟩ := hrest
    · refine ⟨⟨k, rest, rfl, hgrows, growAll_refl rest⟩, ?_⟩
      rintro _ ⟨m, rest', rfl, hm, -⟩
      apply untilDecided_cons_eq_ok_iff.mpr ⟨_, m, hagain m hm, .inl ⟨hdecides, rfl⟩⟩
    · obtain ⟨hgrows', hagain'⟩ := ih hrest
      refine ⟨⟨k, rest', rfl, hgrows, hgrows'⟩, ?_⟩
      rintro _ ⟨m, rest'', rfl, hm, hrest''⟩
      apply untilDecided_cons_eq_ok_iff.mpr
      exact ⟨first, m, hagain m hm, .inr ⟨hopen, rest'', hagain' rest'' hrest'', rfl⟩⟩

/-- An evaluation that puts what another one leaves behind into a matcher lasts if that one does. -/
theorem Lasting.wrap {α : Type} {grows : α → α → Prop} {eval : α → Step α} (h : Lasting grows eval)
    (f : α → Node) (hf : ∀ x m, (f x).Grows m ↔ ∃ y, m = f y ∧ grows x y) {whole : Node → Step Node}
    (hwhole : ∀ x, whole (f x) = Except.bind (eval x) fun (outcome, y) => pure (outcome, f y))
    {x : α} {outcome : Outcome} {n : Node} (hx : whole (f x) = .ok (outcome, n)) :
  (f x).Grows n ∧ ∀ m, n.Grows m → whole m = .ok (outcome, m)
  := by
  rw [hwhole] at hx
  obtain ⟨⟨_, y⟩, hy, hn⟩ := bind_eq_ok_iff.mp hx
  cases hn
  obtain ⟨hgrows, hagain⟩ := h.of_eq_ok hy
  refine ⟨(hf x (f y)).mpr ⟨y, rfl, hgrows⟩, fun m hm => ?_⟩
  obtain ⟨z, rfl, hz⟩ := (hf y m).mp hm
  rw [hwhole, hagain z hz]
  rfl

/-- Evaluating a literal argument lasts if evaluating its matcher and its form does. -/
theorem Node.evaluate_literal_lasting {c : Context} {fuel : Nat}
    (ih : ∀ record, Lasting Node.Grows fun n => n.evaluate c fuel record) {role : Role}
    {argument record : Value} {direct n' : Node} {form : Form} {outcome : Outcome}
    (h : (literal role argument direct form).evaluate c (fuel + 1) record = .ok (outcome, n')) :
  (literal role argument direct form).Grows n'
    ∧ ∀ m : Node, n'.Grows m → m.evaluate c (fuel + 1) record = .ok (outcome, m)
  := by
  cases hsubject : role.subject? c record with
  | none =>
    simp only [evaluate, hsubject] at h
    cases h
    refine ⟨.refl _, ?_⟩
    rintro _ ⟨direct', form', rfl, -, -⟩
    simp only [evaluate, hsubject]
  | some subject =>
    cases subject with
    | array items =>
      cases hforce : form.force c.engine.registry argument with
      | error e =>
        simp only [evaluate, hsubject, hforce] at h
        cases h
        refine ⟨⟨direct, _, rfl, .refl direct, Form.grows_refused hforce⟩, ?_⟩
        rintro _ ⟨direct', _, rfl, -, rfl⟩
        simp only [evaluate, hsubject]
        rfl
      | ok n =>
        simp only [evaluate, hsubject, hforce] at h
        obtain ⟨⟨first, m⟩, hm, hn⟩ := bind_eq_ok_iff.mp h
        cases hn
        obtain ⟨hgrows, hagain⟩ := (ih _).of_eq_ok hm
        refine ⟨⟨direct, _, rfl, .refl direct, Form.grows_built hforce hgrows⟩, ?_⟩
        rintro _ ⟨direct', _, rfl, -, k, rfl, hk⟩
        simp only [evaluate, hsubject, Form.force, hagain k hk]
        rfl
    | _ =>
      simp only [evaluate, hsubject] at h
      obtain ⟨⟨first, m⟩, hm, hn⟩ := bind_eq_ok_iff.mp h
      cases hn
      obtain ⟨hgrows, hagain⟩ := (ih _).of_eq_ok hm
      refine ⟨⟨m, form, rfl, hgrows, .refl form⟩, ?_⟩
      rintro _ ⟨direct', form', rfl, hdirect, -⟩
      simp only [evaluate, hsubject, hagain direct' hdirect]
      rfl

/-- Evaluating a matcher lasts. -/
theorem Node.evaluate_lasting (c : Context) (fuel : Nat) (record : Value) :
  Lasting Node.Grows fun n => n.evaluate c fuel record
  := by
  induction fuel generalizing record with
  | zero => exact ⟨fun h => nomatch h⟩
  | succ fuel ih =>
    constructor
    intro n n' outcome h
    cases n with
    | leaf l =>
      obtain ⟨first, hl, hn⟩ := bind_eq_ok_iff.mp h
      cases hn
      refine ⟨rfl, ?_⟩
      rintro _ rfl
      exact h
    | within negated argument bounds =>
      have hwrap := fun x m => Iff.refl ((within negated argument x).Grows m)
      cases record with
      | array items => apply (scan_lasting ih items).wrap _ hwrap (fun _ => rfl) h
      | _ => apply (ih _).wrap _ hwrap (fun _ => rfl) h
    | elements quantifier argument inner =>
      have hnone : Lasting Grows fun m : Node => (.ok (.ok false, m) : Step Node) := by
        constructor
        rintro n _ _ ⟨⟩
        exact ⟨.refl n, fun m _ => rfl⟩
      have hwrap := fun x m => Iff.refl ((elements quantifier argument x).Grows m)
      cases record with
      | array items =>
        cases items with
        | nil => apply hnone.wrap _ hwrap (fun _ => rfl) h
        | cons item items =>
          apply (scan_lasting (fun item => ih (c.taken item)) (item :: items)).wrap _ hwrap (fun _ => rfl) h
      | _ => apply hnone.wrap _ hwrap (fun _ => rfl) h
    | group grouping argument children =>
      have hwrap := fun x m => Iff.refl ((group grouping argument x).Grows m)
      apply (untilDecided_lasting (ih record)).wrap _ hwrap (fun _ => rfl) h
    | literal role argument direct form =>
      apply evaluate_literal_lasting ih h

/-! ### Traces that last -/

/-- A traced evaluation that finishes lasts as an evaluation does, and records the same again. -/
structure LastingTrace {α β : Type} (grows : α → α → Prop)
    (eval : α → Trace → Except Abort (β × α × Trace)) : Prop where
  of_eq_ok {x y : α} {t t' : Trace} {b : β} (h : eval x t = .ok (b, y, t')) :
    grows x y ∧ ∀ z, grows y z → eval z t = .ok (b, z, t')

section

variable {α : Type} {x y : α} {t t' : Trace}

theorem traceScan_cons_eq_ok_iff {eval : α → Value → Trace → Except Abort (Outcome × α × Trace)}
    {record : Value} {rest : List Value} {outcomes : List Outcome} :
  traceScan eval x (record :: rest) t = .ok (outcomes, y, t')
    ↔ ∃ first z inner, eval x record t = .ok (first, z, inner)
      ∧ ∃ others, traceScan eval z rest inner = .ok (others, y, t') ∧ first :: others = outcomes
  := by
  simp only [traceScan, bind_eq_ok_iff, Prod.exists]
  refine exists_congr fun first => exists_congr fun z => exists_congr fun inner => and_congr_right fun _ => ?_
  constructor
  · rintro ⟨others, w, u, hrest, h⟩
    cases h
    exact ⟨others, hrest, rfl⟩
  · rintro ⟨others, hrest, rfl⟩
    exact ⟨others, y, t', hrest, rfl⟩

theorem traceAll_cons_eq_ok_iff {eval : α → Trace → Except Abort (Outcome × α × Trace)}
    {rest ys : List α} {outcomes : List Outcome} :
  traceAll eval (x :: rest) t = .ok (outcomes, ys, t')
    ↔ ∃ first z inner, eval x t = .ok (first, z, inner)
      ∧ ∃ others rest', traceAll eval rest inner = .ok (others, rest', t')
        ∧ (first :: others, z :: rest') = (outcomes, ys)
  := by
  simp only [traceAll, bind_eq_ok_iff, Prod.exists]
  refine exists_congr fun first => exists_congr fun z => exists_congr fun inner => and_congr_right fun _ => ?_
  constructor
  · rintro ⟨others, rest', u, hrest, h⟩
    cases h
    exact ⟨others, rest', hrest, rfl⟩
  · rintro ⟨others, rest', hrest, h⟩
    cases h
    exact ⟨others, rest', t', hrest, rfl⟩

end

theorem traceScan_lasting {eval : Node → Value → Trace → Except Abort (Outcome × Node × Trace)}
    (h : ∀ record, LastingTrace Node.Grows fun n t => eval n record t) (records : List Value) :
  LastingTrace Node.Grows fun n t => traceScan eval n records t
  := by
  constructor
  induction records with
  | nil =>
    rintro n _ t _ _ ⟨⟩
    exact ⟨.refl n, fun m _ => rfl⟩
  | cons record rest ih =>
    intro n n' t t' outcomes hn
    obtain ⟨first, k, inner, hk, others, hrest, rfl⟩ := traceScan_cons_eq_ok_iff.mp hn
    obtain ⟨hgrows, hagain⟩ := (h record).of_eq_ok hk
    obtain ⟨hgrows', hagain'⟩ := ih hrest
    refine ⟨hgrows.trans hgrows', fun m hm => ?_⟩
    apply traceScan_cons_eq_ok_iff.mpr
    exact ⟨first, m, inner, hagain m (hgrows'.trans hm), others, hagain' m hm, rfl⟩

theorem traceAll_lasting {eval : Node → Trace → Except Abort (Outcome × Node × Trace)}
    (h : LastingTrace Node.Grows eval) :
  LastingTrace growAll (traceAll eval)
  := by
  constructor
  intro nodes
  induction nodes with
  | nil =>
    rintro _ t _ _ ⟨⟩
    refine ⟨rfl, ?_⟩
    rintro _ rfl
    rfl
  | cons n rest ih =>
    intro nodes' t t' outcomes hn
    obtain ⟨first, k, inner, hk, others, rest', hrest, heq⟩ := traceAll_cons_eq_ok_iff.mp hn
    cases heq
    obtain ⟨hgrows, hagain⟩ := h.of_eq_ok hk
    obtain ⟨hgrows', hagain'⟩ := ih hrest
    refine ⟨⟨k, rest', rfl, hgrows, hgrows'⟩, ?_⟩
    rintro _ ⟨m, rest'', rfl, hm, hrest''⟩
    apply traceAll_cons_eq_ok_iff.mpr
    exact ⟨first, m, inner, hagain m hm, others, rest'', hagain' rest'' hrest'', rfl⟩

theorem Trace.scope_eq_ok_iff {α : Type} {t t' : Trace} {title : String} {record : Value}
    {body : Trace → Except Abort (Outcome × α × Trace)} {outcome : Outcome} {x : α} :
  t.scope title record body = .ok (outcome, x, t')
    ↔ ∃ inner, body { t with level := t.level + 1 } = .ok (outcome, x, inner)
      ∧ ⟨⟨t.level, title, record.text, outcome⟩ :: inner.latest, t.level⟩ = t'
  := by
  simp only [scope, bind_eq_ok_iff, Prod.exists]
  constructor
  · rintro ⟨_, _, inner, hbody, h⟩
    cases h
    exact ⟨inner, hbody, rfl⟩
  · rintro ⟨inner, hbody, rfl⟩
    exact ⟨outcome, x, inner, hbody, rfl⟩

/-- A traced evaluation that puts what another one leaves behind into a matcher lasts if that one
does. -/
theorem LastingTrace.wrap {α β : Type} {grows : α → α → Prop}
    {eval : α → Trace → Except Abort (β × α × Trace)} (h : LastingTrace grows eval) (f : α → Node)
    (hf : ∀ x m, (f x).Grows m ↔ ∃ y, m = f y ∧ grows x y) (conclude : β → Outcome)
    {whole : Node → Trace → Except Abort (Outcome × Node × Trace)} {title : String} {record : Value}
    (hwhole : ∀ x t, whole (f x) t = t.scope title record fun t =>
      Except.bind (eval x t) fun (b, y, t) => pure (conclude b, f y, t))
    {x : α} {t t' : Trace} {outcome : Outcome} {n : Node}
    (hx : whole (f x) t = .ok (outcome, n, t')) :
  (f x).Grows n ∧ ∀ m, n.Grows m → whole m t = .ok (outcome, m, t')
  := by
  rw [hwhole] at hx
  obtain ⟨inner, hbody, rfl⟩ := Trace.scope_eq_ok_iff.mp hx
  obtain ⟨⟨b, y, _⟩, hy, hn⟩ := bind_eq_ok_iff.mp hbody
  cases hn
  obtain ⟨hgrows, hagain⟩ := h.of_eq_ok hy
  refine ⟨(hf x (f y)).mpr ⟨y, rfl, hgrows⟩, fun m hm => ?_⟩
  obtain ⟨z, rfl, hz⟩ := (hf y m).mp hm
  rw [hwhole]
  apply Trace.scope_eq_ok_iff.mpr ⟨inner, ?_, rfl⟩
  rw [hagain z hz]
  rfl

/-- Tracing a literal argument lasts if tracing its matcher and its form does. -/
theorem Node.traced_literal_lasting {c : Context} {fuel : Nat}
    (ih : ∀ record, LastingTrace Node.Grows fun n t => n.traced c fuel record t) {role : Role}
    {argument record : Value} {direct n' : Node} {form : Form} {t t' : Trace} {outcome : Outcome}
    (h : (literal role argument direct form).traced c (fuel + 1) record t = .ok (outcome, n', t')) :
  (literal role argument direct form).Grows n'
    ∧ ∀ m : Node, n'.Grows m → m.traced c (fuel + 1) record t = .ok (outcome, m, t')
  := by
  obtain ⟨inner, hbody, rfl⟩ := Trace.scope_eq_ok_iff.mp h
  dsimp only at hbody
  cases hsubject : role.subject? c record with
  | none =>
    simp only [hsubject] at hbody
    cases hbody
    refine ⟨.refl _, ?_⟩
    rintro _ ⟨direct', form', rfl, -, -⟩
    simp only [traced, hsubject]
    rfl
  | some subject =>
    cases subject with
    | array items =>
      cases hforce : form.force c.engine.registry argument with
      | error e =>
        simp only [hsubject, hforce] at hbody
        cases hbody
        refine ⟨⟨direct, _, rfl, .refl direct, Form.grows_refused hforce⟩, ?_⟩
        rintro _ ⟨direct', _, rfl, -, rfl⟩
        simp only [traced, hsubject]
        rfl
      | ok n =>
        simp only [hsubject, hforce] at hbody
        obtain ⟨⟨first, m, _⟩, hm, hn⟩ := bind_eq_ok_iff.mp hbody
        cases hn
        obtain ⟨hgrows, hagain⟩ := (ih _).of_eq_ok hm
        refine ⟨⟨direct, _, rfl, .refl direct, Form.grows_built hforce hgrows⟩, ?_⟩
        rintro _ ⟨direct', _, rfl, -, k, rfl, hk⟩
        simp only [traced, Trace.scope, hsubject, Form.force, hagain k hk]
        rfl
    | _ =>
      simp only [hsubject] at hbody
      obtain ⟨⟨first, m, _⟩, hm, hn⟩ := bind_eq_ok_iff.mp hbody
      cases hn
      obtain ⟨hgrows, hagain⟩ := (ih _).of_eq_ok hm
      refine ⟨⟨m, form, rfl, hgrows, .refl form⟩, ?_⟩
      rintro _ ⟨direct', form', rfl, hdirect, -⟩
      simp only [traced, Trace.scope, hsubject, hagain direct' hdirect]
      rfl

/-- Tracing a matcher lasts. -/
theorem Node.traced_lasting (c : Context) (fuel : Nat) (record : Value) :
  LastingTrace Node.Grows fun n t => n.traced c fuel record t
  := by
  induction fuel generalizing record with
  | zero => exact ⟨fun h => nomatch h⟩
  | succ fuel ih =>
    constructor
    intro n n' t t' outcome h
    cases n with
    | leaf l =>
      obtain ⟨inner, hbody, ht⟩ := Trace.scope_eq_ok_iff.mp h
      obtain ⟨first, hl, hn⟩ := bind_eq_ok_iff.mp hbody
      cases hn
      refine ⟨rfl, ?_⟩
      rintro _ rfl
      exact h
    | within negated argument bounds =>
      have hwrap := fun x m => Iff.refl ((within negated argument x).Grows m)
      cases record with
      | array items =>
        apply (traceScan_lasting ih items).wrap _ hwrap (foldOutcomes (!negated)) (fun _ _ => rfl) h
      | _ => apply (ih _).wrap _ hwrap id (fun _ _ => rfl) h
    | elements quantifier argument inner =>
      have hnone : LastingTrace Grows fun (m : Node) t => .ok ((.ok false : Outcome), m, t) := by
        constructor
        rintro n _ t _ _ ⟨⟩
        exact ⟨.refl n, fun m _ => rfl⟩
      have hwrap := fun x m => Iff.refl ((elements quantifier argument x).Grows m)
      cases record with
      | array items =>
        cases items with
        | nil => apply hnone.wrap _ hwrap id (fun _ _ => rfl) h
        | cons item items =>
          apply (traceScan_lasting (fun item => ih (c.taken item)) (item :: items)).wrap _ hwrap
            (foldOutcomes quantifier.decisive) (fun _ _ => rfl) h
      | _ => apply hnone.wrap _ hwrap id (fun _ _ => rfl) h
    | group grouping argument children =>
      have hwrap := fun x m => Iff.refl ((group grouping argument x).Grows m)
      apply (traceAll_lasting (ih record)).wrap _ hwrap (foldOutcomes grouping.decisive)
        (fun _ _ => rfl) h
    | literal role argument direct form =>
      apply traced_literal_lasting ih h

end DocQuery
