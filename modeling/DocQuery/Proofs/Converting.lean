import DocQuery.Proofs.Sessions
import Mathlib.Logic.Relation

/-!
# Converting on the way

A query may convert the values that it takes out of a record. If no host value that can be reached
from a record has a rule, nothing is converted, and so it does not matter whether the query converts:
all its evaluations come to the same, leave the same matcher behind and record the same trace.
-/

namespace DocQuery

/-! ### Values inside values -/

/-- A value holds another right inside: as an element, as the value of an entry, or as what a host
value has under a key. -/
inductive Value.Holds : Value → Value → Prop
  | element {items : List Value} {v : Value} (h : v ∈ items) : Holds (.array items) v
  | entry {entries : Entries} {key : String} {v : Value} (h : (key, v) ∈ entries) :
    Holds (.map entries) v
  | field {identity : Nat} {content : Host} {fields : Entries} {key : String} {v : Value}
      (h : Entries.get? fields key = some v) : Holds (.host identity content (some fields)) v

/-- A value reaches itself and all that is held inside it, at any depth. -/
def Value.Reaches : Value → Value → Prop := Relation.ReflTransGen Value.Holds

/-- No host value that can be reached from the value has a rule. -/
def Normalizer.Settled (n : Normalizer) (v : Value) : Prop :=
  ∀ w, v.Reaches w → n.convertsTop w = false

/-- What a record has under a key is held inside it, or missing. -/
theorem Value.holds_of_dig {record v : Value} {key : String} (h : record.dig? key = some v) :
  v = .missing ∨ record.Holds v
  := by
  have hgetD : ∀ {found : Option Value}, (∀ w, found = some w → record.Holds w) →
      found.getD .missing = v → v = .missing ∨ record.Holds v := by
    intro found hfound hv
    cases found with
    | none => exact .inl hv.symm
    | some w =>
      cases hv
      exact .inr (hfound w rfl)
  cases record with
  | map entries =>
    apply hgetD _ (Option.some.inj h)
    exact fun w hw => .entry (Entries.mem_of_get?_eq_some hw)
  | array items =>
    apply hgetD _ (Option.some.inj h)
    intro w hw
    obtain ⟨i, -, hi⟩ := Option.bind_eq_some_iff.mp hw
    exact .element (List.mem_of_getElem? hi)
  | host identity content fields =>
    cases fields with
    | none => cases h
    | some fields =>
      apply hgetD _ (Option.some.inj h)
      exact fun w hw => .field hw
  | _ => cases h

section

variable {n : Normalizer}

theorem Normalizer.Settled.of_holds {v w : Value} (h : n.Settled v) (hw : v.Holds w) :
  n.Settled w
  := fun x hx => h x (.head hw hx)

/-- A value is settled if it has no rule itself and all that it holds is settled. -/
theorem Normalizer.settled_of_forall_holds {v : Value} (hv : n.convertsTop v = false)
    (h : ∀ w, v.Holds w → n.Settled w) :
  n.Settled v
  := by
  intro w hw
  obtain rfl | ⟨x, hx, hw⟩ := Relation.ReflTransGen.cases_head hw
  · exact hv
  · apply h x hx w hw

theorem Normalizer.settled_missing :
  n.Settled .missing
  := settled_of_forall_holds rfl fun _ h => nomatch h

theorem Normalizer.settled_ofInt (i : Int) :
  n.Settled (.ofInt i)
  := by
  unfold Value.ofInt
  split <;> exact settled_of_forall_holds rfl fun _ h => nomatch h

/-- A map of settled values is settled. -/
theorem Normalizer.settled_map {entries : Entries} (h : ∀ e ∈ entries, n.Settled e.2) :
  n.Settled (.map entries)
  := by
  apply settled_of_forall_holds rfl
  rintro w (_ | he)
  apply h _ he

/-- A host value without a rule whose fields are settled is settled. -/
theorem Normalizer.settled_host {identity : Nat} {content : Host} {fields : Entries}
    (hrule : n.recordRule? identity content = none) (h : ∀ e ∈ fields, n.Settled e.2) :
  n.Settled (.host identity content (some fields))
  := by
  have hconverts : n.convertsTop (.host identity content (some fields)) = false := by
    rw [convertsTop, hrule, Option.isSome_none]
  apply settled_of_forall_holds hconverts
  rintro w (_ | _ | hget)
  apply h _ (Entries.mem_of_get?_eq_some hget)

/-- A value without a rule is taken as it is. -/
theorem Normalizer.convertTop_eq {v : Value} (h : n.convertsTop v = false) :
  n.convertTop v = v
  := by
  cases v with
  | host identity content fields =>
    rw [convertsTop, Option.isSome_eq_false_iff, Option.isNone_iff_eq_none] at h
    rw [convertTop, h, Option.getD_none]
  | _ => rfl

mutual

/-- Converting a settled value leaves it as it is. -/
theorem Normalizer.Settled.convert_eq : ∀ {v : Value}, n.Settled v → n.convert v = v
  | .array items, h => by rw [convert, convertItems_eq fun _ hv => h.of_holds (.element hv)]
  | .map entries, h => by rw [convert, convertEntries_eq fun _ he => h.of_holds (.entry he)]
  | .host identity content fields, h => convertTop_eq (v := .host identity content fields) (h _ .refl)
  | .null, _ | .missing, _ | .bool _, _ | .int _, _ | .float _, _ | .string _, _ | .regex _, _
  | .range _ _ _, _ => rfl

theorem Normalizer.Settled.convertItems_eq :
    ∀ {items : List Value}, (∀ v ∈ items, n.Settled v) → n.convertItems items = items
  | [], _ => rfl
  | v :: rest, h => by
    obtain ⟨hv, hrest⟩ := List.forall_mem_cons.mp h
    rw [convertItems, hv.convert_eq, convertItems_eq hrest]

theorem Normalizer.Settled.convertEntries_eq :
    ∀ {entries : List (String × Value)}, (∀ e ∈ entries, n.Settled e.2) →
      n.convertEntries entries = entries
  | [], _ => rfl
  | (key, v) :: rest, h => by
    obtain ⟨hv, hrest⟩ := List.forall_mem_cons.mp h
    rw [convertEntries, hv.convert_eq, convertEntries_eq hrest]

end

/-- A settled value that a query takes out of a record stays as it is. -/
theorem Normalizer.Settled.taken {c : Context} {v : Value} (h : c.engine.normalizer.Settled v) :
  c.taken v = v
  := by
  rw [Context.taken, convertTop_eq (h v .refl), ite_self]

/-- Whether a query converts does not matter to a settled value that it takes out of a record. -/
theorem Normalizer.Settled.taken_converting {c : Context} {v : Value}
    (h : c.engine.normalizer.Settled v) (converting : Bool) :
  Context.taken { c with converting } v = c.taken v
  := by
  rw [h.taken, h.taken (c := { c with converting })]

/-- What a settled record has under a key is settled. -/
theorem Normalizer.Settled.of_dig {record v : Value} (h : n.Settled record) {key : String}
    (hv : record.dig? key = some v) :
  n.Settled v
  := by
  obtain rfl | hv := Value.holds_of_dig hv
  · apply settled_missing
  · apply h.of_holds hv

variable {c : Context} {record : Value}

/-- What a literal argument is matched with in a settled record is settled. -/
theorem Normalizer.Settled.of_subject (h : c.engine.normalizer.Settled record) {role : Role}
    {x : Value} (hx : role.subject? c record = some x) :
  c.engine.normalizer.Settled x
  := by
  cases role with
  | field name =>
    obtain ⟨v, hv, rfl⟩ := Option.map_eq_some_iff.mp hx
    have hsettled := h.of_dig hv
    rw [hsettled.taken]
    exact hsettled
  | size =>
    obtain ⟨items, -, rfl⟩ := Option.map_eq_some_iff.mp hx
    apply settled_ofInt
  | _ =>
    cases hx
    exact h

/-- What a literal argument is matched with in a settled record does not depend on whether values are
converted. -/
theorem Normalizer.Settled.subject_eq (h : c.engine.normalizer.Settled record) (role : Role)
    (converting : Bool) :
  role.subject? { c with converting } record = role.subject? c record
  := by
  cases role with
  | field name =>
    apply Option.map_congr
    intro v hv
    apply (h.of_dig hv).taken_converting
  | _ => rfl

/-! ### Runs over several records -/

/-- Scanning depends only on what is done with the records that are scanned. -/
theorem scan_congr {α : Type} {decisive : Bool} {eval eval' : α → Value → Step α}
    {records : List Value} (h : ∀ x, ∀ record ∈ records, eval x record = eval' x record) (x : α) :
  scan decisive eval x records = scan decisive eval' x records
  := by
  induction records generalizing x with
  | nil => rfl
  | cons record rest ih =>
    have hrest := ih fun x record hmem => h x record (List.mem_cons_of_mem _ hmem)
    rw [scan, scan, h x record List.mem_cons_self]
    simp only [hrest]

/-- Tracing records in turn depends only on what is done with these records. -/
theorem traceScan_congr {α : Type}
    {eval eval' : α → Value → Trace → Except Abort (Outcome × α × Trace)} {records : List Value}
    (h : ∀ x, ∀ record ∈ records, ∀ t, eval x record t = eval' x record t) (x : α) (t : Trace) :
  traceScan eval x records t = traceScan eval' x records t
  := by
  induction records generalizing x t with
  | nil => rfl
  | cons record rest ih =>
    have hrest := ih fun x record hmem => h x record (List.mem_cons_of_mem _ hmem)
    rw [traceScan, traceScan, h x record List.mem_cons_self]
    simp only [hrest]

/-! ### Matchers -/

/-- Evaluating a matcher on a settled record does not depend on whether values are converted. -/
theorem Node.evaluate_converting (converting : Bool) (fuel : Nat) (n : Node)
    (h : c.engine.normalizer.Settled record) :
  n.evaluate { c with converting } fuel record = n.evaluate c fuel record
  := by
  induction fuel generalizing n record with
  | zero => rfl
  | succ fuel ih =>
    cases n with
    | leaf l => rfl
    | within negated argument bounds =>
      cases record with
      | array items =>
        rw [evaluate, evaluate, scan_congr fun n item hitem => ih n (h.of_holds (.element hitem))]
      | _ => simp only [evaluate, ih bounds h]
    | elements quantifier argument inner =>
      cases record with
      | array items =>
        cases items with
        | nil => rfl
        | cons item items =>
          have hscan : ∀ m : Node, ∀ x ∈ item :: items,
              m.evaluate { c with converting } fuel (Context.taken { c with converting } x)
                = m.evaluate c fuel (c.taken x) := by
            intro m x hx
            have hsettled := h.of_holds (.element hx)
            rw [hsettled.taken_converting, hsettled.taken, ih m hsettled]
          rw [evaluate, evaluate, scan_congr hscan]
      | _ => rfl
    | group grouping argument children =>
      rw [evaluate, evaluate]
      simp only [fun n => ih n h]
    | literal role argument direct form =>
      rw [evaluate, evaluate, h.subject_eq]
      cases hx : role.subject? c record with
      | none => rfl
      | some x =>
        have hsettled := h.of_subject hx
        cases x with
        | array items =>
          dsimp only
          cases form.force c.engine.registry argument with
          | error e => rfl
          | ok n => simp only [ih n hsettled]
        | _ => simp only [ih direct hsettled]

/-- Tracing a matcher on a settled record does not depend on whether values are converted. -/
theorem Node.traced_converting (converting : Bool) (fuel : Nat) (n : Node)
    (h : c.engine.normalizer.Settled record) (t : Trace) :
  n.traced { c with converting } fuel record t = n.traced c fuel record t
  := by
  induction fuel generalizing n record t with
  | zero => rfl
  | succ fuel ih =>
    rw [traced, traced]
    congr 1
    funext t
    cases n with
    | leaf l => rfl
    | within negated argument bounds =>
      cases record with
      | array items =>
        dsimp only
        rw [traceScan_congr fun n item hitem => ih n (h.of_holds (.element hitem))]
      | _ => simp only [ih bounds h]
    | elements quantifier argument inner =>
      cases record with
      | array items =>
        cases items with
        | nil => rfl
        | cons item items =>
          have hscan : ∀ m : Node, ∀ x ∈ item :: items, ∀ t,
              m.traced { c with converting } fuel (Context.taken { c with converting } x) t
                = m.traced c fuel (c.taken x) t := by
            intro m x hx t
            have hsettled := h.of_holds (.element hx)
            rw [hsettled.taken_converting, hsettled.taken, ih m hsettled]
          dsimp only
          rw [traceScan_congr hscan]
      | _ => rfl
    | group grouping argument children =>
      have heval : (fun (child : Node) => child.traced { c with converting } fuel record)
          = fun child => child.traced c fuel record := by
        funext child t
        apply ih child h
      simp only [heval]
    | literal role argument direct form =>
      dsimp only
      rw [h.subject_eq]
      cases hx : role.subject? c record with
      | none => rfl
      | some x =>
        have hsettled := h.of_subject hx
        cases x with
        | array items =>
          dsimp only
          cases form.force c.engine.registry argument with
          | error e => rfl
          | ok n => simp only [ih n hsettled]
        | _ => simp only [ih direct hsettled]

end

/-! ### Queries -/

section

variable {q : Query} {record : Value}

/-- A record that is settled once it is normalized is not changed by normalizing it again. -/
theorem Query.normalizeRecord_of_settled (h : q.context.engine.normalizer.Settled record) :
  q.normalizeRecord record = record
  := by
  rw [normalizeRecord, Normalizer.normalizeRecord, h.convert_eq, ite_self]

/-- Turning conversion on or off commutes with evaluating a query on a settled record. -/
theorem Query.evaluate_setConverting (h : q.context.engine.normalizer.Settled record)
    (converting : Bool) :
  (q.setConverting converting).evaluate record
    = (q.evaluate record).map fun (outcome, k) => (outcome, k.setConverting converting)
  := by
  have hnode : (q.setConverting converting).matcher.node.evaluate (q.setConverting converting).context
      (evaluationBound (q.setConverting converting).matcher.argument record) record
      = q.matcher.node.evaluate q.context (evaluationBound q.matcher.argument record) record :=
    Node.evaluate_converting (c := q.context) converting _ q.matcher.node h
  rw [evaluate_eq, evaluate_eq, Ensures.map_pmap]
  exact Ensures.pmap_congr hnode fun _ _ _ => rfl

/-- Turning conversion on or off commutes with testing a query on a settled record. -/
theorem Query.test_setConverting (h : q.context.engine.normalizer.Settled record)
    (converting : Bool) :
  (q.setConverting converting).test record
    = (q.test record).map fun (outcome, k) => (outcome, k.setConverting converting)
  := by
  rw [test_eq, test_eq, evaluate_setConverting h]
  cases q.evaluate record <;> rfl

/-- Turning conversion on or off commutes with tracing a query on a record that is settled once it is
normalized. -/
theorem Query.trace_setConverting (h : q.context.engine.normalizer.Settled (q.normalizeRecord record))
    (converting : Bool) :
  (q.setConverting converting).trace record
    = (q.trace record).map fun (t, k) => (t, k.setConverting converting)
  := by
  have hnode : (q.setConverting converting).matcher.node.traced
      ((q.setConverting converting).context.tracing ((q.setConverting converting).normalizeRecord record))
      (evaluationBound (q.setConverting converting).matcher.argument
        ((q.setConverting converting).normalizeRecord record))
      ((q.setConverting converting).normalizeRecord record) .new
      = q.matcher.node.traced (q.context.tracing (q.normalizeRecord record))
        (evaluationBound q.matcher.argument (q.normalizeRecord record)) (q.normalizeRecord record) .new :=
    Node.traced_converting (c := q.context.tracing (q.normalizeRecord record)) converting _
      q.matcher.node h .new
  rw [trace_eq, trace_eq, Ensures.map_pmap]
  exact Ensures.pmap_congr hnode fun _ _ _ => rfl

/-- A use of the query does the same whether the query converts values or not. -/
def Query.Indifferent (q : Query) {β : Type} (use : Query → Except Abort (β × Query)) : Prop :=
  use (q.setConverting true)
    = (use (q.setConverting false)).map fun (b, k) => (b, k.setConverting true)

/-- A use with which turning conversion on or off commutes does the same either way. -/
theorem Query.indifferent_of_commutes {β : Type} {use : Query → Except Abort (β × Query)}
    (h : ∀ converting, use (q.setConverting converting)
      = (use q).map fun (b, k) => (b, k.setConverting converting)) :
  q.Indifferent use
  := by
  rw [Indifferent, h, h]
  cases use q <;> rfl

/-- A use of a query comes to a result, unless a matcher of the application overflows. -/
def AbortsByOverflow (e : Engine) {β : Type} (step : Except Abort (β × Query)) : Prop :=
  ∀ abort, step = .error abort → abort = .overflow ∧ e.Overflows

/-- The uses of a query come to results, unless a matcher of the application overflows. -/
theorem Engine.Sound.abortsByOverflow {e : Engine} (he : e.Sound) (hq : q.InUse e) (record : Value) :
  AbortsByOverflow e (q.evaluate record) ∧ AbortsByOverflow e (q.test record)
    ∧ AbortsByOverflow e (q.trace record)
  := by
  have hanswer : ∀ {x abort}, q.answer x = .error abort → abort = .overflow ∧ e.Overflows :=
    fun h => he.answer_overflow hq.engine hq.node h
  refine ⟨fun abort h => ?_, fun abort h => ?_, fun abort h => ?_⟩
  · apply hanswer (x := record)
    rw [← he.query_evaluate hq, h]
    rfl
  · apply hanswer (x := record)
    rw [← he.query_test hq, h]
    rfl
  · obtain hresult | ⟨haborted, hover⟩ := he.query_trace hq record
    · rw [h] at hresult
      apply hanswer (map_eq_error_iff.mp hresult.symm)
    · cases h.symm.trans haborted
      exact ⟨rfl, hover⟩

/-- If no host value that can be reached from a normalized record has a rule, then a query evaluates,
tests and traces the record alike whether it converts values or not. On a sound engine it does come to
a result, unless a matcher of the application overflows. -/
theorem converting_irrelevant {normal : Value} (hnormal : normal = q.normalizeRecord record)
    (h : q.context.engine.normalizer.Settled normal) :
  (q.Indifferent fun k => k.evaluate normal) ∧ (q.Indifferent fun k => k.test normal)
    ∧ (q.Indifferent fun k => k.trace normal) ∧ (q.Indifferent fun k => k.trace record)
    ∧ ∀ e : Engine, e.Sound → q.Arises e → ∀ converting x,
      AbortsByOverflow e ((q.setConverting converting).evaluate x)
        ∧ AbortsByOverflow e ((q.setConverting converting).test x)
        ∧ AbortsByOverflow e ((q.setConverting converting).trace x)
  := by
  have htwice : q.normalizeRecord normal = normal := Query.normalizeRecord_of_settled h
  refine ⟨?_, ?_, ?_, ?_, ?_⟩
  · apply Query.indifferent_of_commutes
    apply Query.evaluate_setConverting h
  · apply Query.indifferent_of_commutes
    apply Query.test_setConverting h
  · apply Query.indifferent_of_commutes
    apply Query.trace_setConverting (htwice.symm ▸ h)
  · apply Query.indifferent_of_commutes
    apply Query.trace_setConverting (hnormal ▸ h)
  · intro e he hq converting x
    apply he.abortsByOverflow (hq.converting converting).inUse

/-- A record with an object whose fields a query looks into: objects have no rule, and the symbol
beside it has become its name. The query matches, converting or not. -/
theorem converting_irrelevant_object :
  ∃ q record, Query.compile? .core (.value (.map [("a.b", .int 1), ("c", .string "x")])) [] = .ok q
    ∧ (q.Indifferent fun k => k.evaluate (q.normalizeRecord record))
    ∧ (q.Indifferent fun k => k.trace record)
    ∧ AbortsByOverflow .core ((q.setConverting false).evaluate (q.normalizeRecord record))
    ∧ ((q.setConverting false).evaluate (q.normalizeRecord record)).map Prod.fst = .ok (.ok true)
  := by
  obtain ⟨q, hq⟩ : ∃ q, Query.compile? .core
      (.value (.map [("a.b", .int 1), ("c", .string "x")])) [] = .ok q := ⟨_, rfl⟩
  let object : Value := .host 0 (.object 1) (some [("b", .int 1)])
  let record : Value := .map [("a", object), ("c", .host 1 (.symbol "x") none)]
  let normal : Value := .map [("a", object), ("c", .string "x")]
  have hengine : q.context.engine = .core := (Query.Arises.compiled hq).inUse.engine
  have hnormal : normal = q.normalizeRecord record := by
    rw [Query.normalizeRecord, hengine]
    rfl
  have hsettled : q.context.engine.normalizer.Settled normal := by
    rw [hengine]
    have hobject : Normalizer.core.Settled object := by
      refine Normalizer.settled_host rfl (List.forall_mem_singleton.mpr ?_)
      apply Normalizer.settled_ofInt 1
    have hstring : Normalizer.core.Settled (.string "x") := by
      refine Normalizer.settled_of_forall_holds rfl fun _ h => ?_
      cases h
    apply Normalizer.settled_map
    exact List.forall_mem_cons.mpr ⟨hobject, List.forall_mem_singleton.mpr hstring⟩
  obtain ⟨hevaluate, -, -, htrace, haborts⟩ := converting_irrelevant hnormal hsettled
  obtain ⟨hfinishes, -⟩ := haborts _ Engine.core_sound (.compiled hq) false normal
  refine ⟨q, record, hq, hnormal ▸ hevaluate, htrace, hnormal ▸ hfinishes, ?_⟩
  cases hq
  set_option maxRecDepth 2000 in rfl

end

end DocQuery
