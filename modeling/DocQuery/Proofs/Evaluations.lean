import DocQuery.Matcher.Traced
import DocQuery.Proofs.Unfolding

/-!
# Traced evaluations of a matcher

A prepared matcher tests a record exactly as evaluating the matcher does, which is
`Node.test_eq_evaluate`. A trace looks at all children and elements, also behind the one that decides,
and still comes to the verdict, unless it aborts on the way.
-/

namespace DocQuery

/-- A traced evaluation comes to an answer and leaves behind something with a property, or it
aborts for a reason of the given kind. -/
inductive Traces {α : Type} (A : Abort → Prop) (P : α → Prop) :
    Except Abort (Outcome × α × Trace) → Except Abort Outcome → Prop
  | aborted (abort : Abort) (answer : Except Abort Outcome) (h : A abort) :
    Traces A P (.error abort) answer
  | finished (outcome : Outcome) (x : α) (t : Trace) (h : P x) :
    Traces A P (.ok (outcome, x, t)) (.ok outcome)

section

variable {α β : Type} {A : Abort → Prop} {P : α → Prop} {Q : β → Prop}
  {step : Except Abort (Outcome × α × Trace)} {answer : Except Abort Outcome}

theorem Traces.imp {P' : α → Prop} (h : Traces A P step answer) (hP : ∀ x, P x → P' x) :
  Traces A P' step answer
  := by
  cases h with
  | aborted abort answer h => exact .aborted abort answer h
  | finished outcome x t hx => exact .finished outcome x t (hP x hx)

/-- A traced evaluation that finishes comes to its outcome. -/
theorem Traces.leaves (h : Traces A P step answer) {outcome : Outcome} {x : α} {t : Trace}
    (hs : step = .ok (outcome, x, t)) :
  answer = .ok outcome ∧ P x
  := by
  subst hs
  cases h with
  | finished _ _ _ hx => exact ⟨rfl, hx⟩

/-- A traced evaluation that aborts does so for a reason of the given kind. -/
theorem Traces.aborts (h : Traces A P step answer) {abort : Abort} (hs : step = .error abort) :
  A abort
  := by
  subst hs
  cases h with
  | aborted _ _ h => exact h

theorem Traces.map (h : Traces A P step answer) (f : Outcome → Outcome) (g : α → β)
    (hg : ∀ x, P x → Q (g x)) :
  Traces A Q (Except.bind step fun (outcome, x, t) => pure (f outcome, g x, t)) (answer.map f)
  := by
  cases h with
  | aborted abort answer h => exact .aborted abort _ h
  | finished outcome x t hx => exact .finished (f outcome) (g x) t (hg x hx)

theorem Traces.leaving (h : Traces A P step answer) (g : α → β) (hg : ∀ x, P x → Q (g x)) :
  Traces A Q (Except.bind step fun (outcome, x, t) => pure (outcome, g x, t)) answer
  := by
  cases h with
  | aborted abort answer h => exact .aborted abort _ h
  | finished outcome x t hx => exact .finished outcome (g x) t (hg x hx)

/-- Recording an evaluation does not change what it comes to. -/
theorem Traces.scope {body : Trace → Except Abort (Outcome × α × Trace)}
    (h : ∀ t, Traces A P (body t) answer) (t : Trace) (title : String) (record : Value) :
  Traces A P (t.scope title record body) answer
  := by
  rw [Trace.scope]
  have h := h { t with level := t.level + 1 }
  generalize body { t with level := t.level + 1 } = step at h ⊢
  cases h with
  | aborted abort answer h => exact .aborted abort answer h
  | finished outcome x t hx => exact .finished outcome x _ hx

/-- An outcome before others that have been put together is put together with them. -/
theorem decided_cons {decisive : Bool} {outcome : Outcome} {outcomes : List Outcome}
    {answers : List (Except Abort Outcome)}
    (h : decided decisive answers = .ok (foldOutcomes decisive outcomes)) :
  decided decisive (.ok outcome :: answers) = .ok (foldOutcomes decisive (outcome :: outcomes))
  := by
  cases outcome with
  | error e => rfl
  | ok b =>
    rw [decided, foldOutcomes]
    split
    · rfl
    · exact h

/-- Tracing records in turn comes to what the answers on the records come to in turn. -/
theorem traceScan_traces {decisive : Bool}
    {eval : α → Value → Trace → Except Abort (Outcome × α × Trace)}
    {answer : Value → Except Abort Outcome}
    (h : ∀ x record t, P x → Traces A P (eval x record t) (answer record)) (g : α → β)
    (hg : ∀ x, P x → Q (g x)) (records : List Value) {x : α} (hx : P x) (t : Trace) :
  Traces A Q
    (Except.bind (traceScan eval x records t)
      fun (outcomes, y, t) => pure (foldOutcomes decisive outcomes, g y, t))
    (decided decisive (records.map answer))
  := by
  induction records generalizing x t with
  | nil => exact .finished _ _ t (hg x hx)
  | cons record rest ih =>
    have hs := h x record t hx
    rw [traceScan, List.map_cons]
    generalize eval x record t = step, answer record = a at hs ⊢
    cases hs with
    | aborted abort answer h => exact .aborted abort _ h
    | finished outcome y t hy =>
      have hrest := ih hy t
      generalize hb : decided decisive (rest.map answer) = b at hrest
      cases hscan : traceScan eval y rest t with
      | error abort =>
        rw [hscan] at hrest
        cases hrest with
        | aborted _ _ h =>
          simp only [bind, Except.bind, hscan]
          exact .aborted abort _ h
      | ok result =>
        obtain ⟨outcomes, z, t⟩ := result
        rw [hscan] at hrest
        cases hrest with
        | finished _ _ _ hz =>
          rw [decided_cons hb]
          simp only [bind, Except.bind, hscan]
          exact .finished _ _ t hz

/-- Tracing a list in turn comes to what the answers of its items come to in turn. -/
theorem traceAll_traces {γ δ : Type} {decisive : Bool} {f : α → δ} {Q : γ → Prop}
    {eval : α → Trace → Except Abort (Outcome × α × Trace)} {answer : α → Except Abort Outcome}
    {xs : List α} (h : ∀ x ∈ xs, ∀ t, Traces A (fun y => P y ∧ f y = f x) (eval x t) (answer x))
    (g : List α → γ) (hg : ∀ ys, (∀ y ∈ ys, P y) → ys.map f = xs.map f → Q (g ys)) (t : Trace) :
  Traces A Q
    (Except.bind (traceAll eval xs t)
      fun (outcomes, ys, t) => pure (foldOutcomes decisive outcomes, g ys, t))
    (decided decisive (xs.map answer))
  := by
  induction xs generalizing g t with
  | nil => exact .finished _ _ t (hg [] (fun y hy => absurd hy List.not_mem_nil) rfl)
  | cons x rest ih =>
    obtain ⟨hx, hrest⟩ := List.forall_mem_cons.mp h
    have hs := hx t
    rw [traceAll, List.map_cons]
    generalize eval x t = step, answer x = a at hs ⊢
    cases hs with
    | aborted abort answer h => exact .aborted abort _ h
    | finished outcome y t hy =>
      have hrest := ih hrest (fun ys => g (y :: ys))
        (fun ys hys hf => hg (y :: ys) (List.forall_mem_cons.mpr ⟨hy.1, hys⟩)
          (by rw [List.map_cons, hf, hy.2, List.map_cons])) t
      generalize hb : decided decisive (rest.map answer) = b at hrest
      cases hall : traceAll eval rest t with
      | error abort =>
        rw [hall] at hrest
        cases hrest with
        | aborted _ _ h =>
          simp only [bind, Except.bind, hall]
          exact .aborted abort _ h
      | ok result =>
        obtain ⟨outcomes, ys, t⟩ := result
        rw [hall] at hrest
        cases hrest with
        | finished _ _ _ hys =>
          rw [decided_cons hb]
          simp only [bind, Except.bind, hall]
          exact .finished _ _ t hys

end

/-- A traced evaluation comes to the verdict of the matcher, unless one of its leaves makes it
abort. -/
theorem Node.traced_traces {c : Context} {A : Abort → Prop} {L : Leaf → Prop} {Q : Value → Prop}
    (hL : ∀ l, L l → ∀ record abort, l.test c.surroundings record = .error abort → A abort)
    (fuel : Nat) {n : Node} (hn : n.Consistent c.engine.registry)
    (hfits : n.Fits c.engine.registry L Q fuel) (record : Value) (t : Trace) :
  Traces A (n.Becomes c.engine.registry) (n.traced c fuel record t) (n.verdict c fuel record)
  := by
  induction fuel generalizing n record t with
  | zero => cases hfits
  | succ fuel ih =>
    rw [traced]
    apply Traces.scope
    intro t
    cases n with
    | leaf l =>
      rw [verdict]
      dsimp only
      cases h : l.test c.surroundings record with
      | error abort => exact .aborted abort _ (hL l hfits record abort h)
      | ok outcome => exact .finished outcome _ t (Becomes.refl trivial)
    | within negated argument bounds =>
      have hbounds : ∀ m, bounds.Becomes c.engine.registry m →
          (within negated argument bounds).Becomes c.engine.registry (within negated argument m) :=
        fun m hm => ⟨hm.1, by rw [fresh, fresh, hm.2]⟩
      have hstep : ∀ m record t, bounds.Becomes c.engine.registry m →
          Traces A (bounds.Becomes c.engine.registry) (m.traced c fuel record t)
            (bounds.verdict c fuel record) := by
        intro m record t hm
        rw [← verdict_congr hm.2]
        apply (ih hm.1 (fits_fresh.mp (hm.2 ▸ fits_fresh.mpr hfits)) record t).imp
        exact fun k hk => hm.trans hk
      cases record with
      | array items => exact traceScan_traces hstep _ hbounds items (.refl hn) t
      | _ => exact (hstep bounds _ t (.refl hn)).leaving _ hbounds
    | elements quantifier argument inner =>
      have hinner : ∀ m, inner.Becomes c.engine.registry m →
          (elements quantifier argument inner).Becomes c.engine.registry
            (elements quantifier argument m) :=
        fun m hm => ⟨hm.1, by rw [fresh, fresh, hm.2]⟩
      have hstep : ∀ m item t, inner.Becomes c.engine.registry m →
          Traces A (inner.Becomes c.engine.registry) (m.traced c fuel (c.taken item) t)
            (inner.verdict c fuel (c.taken item)) := by
        intro m item t hm
        rw [← verdict_congr hm.2]
        apply (ih hm.1 (fits_fresh.mp (hm.2 ▸ fits_fresh.mpr hfits)) _ t).imp
        exact fun k hk => hm.trans hk
      have hnone := Traces.finished (A := A) (.ok false) _ t (hinner inner (.refl hn))
      cases record with
      | array items =>
        cases items with
        | nil => exact hnone
        | cons item items => exact traceScan_traces hstep _ hinner _ (.refl hn) t
      | _ => exact hnone
    | group grouping argument children =>
      have hchildren := (consistentAll_iff _ _).mp hn
      apply traceAll_traces (f := Node.fresh) (P := Node.Consistent c.engine.registry)
      · exact fun n hmem t => ih (hchildren n hmem) (hfits n hmem) record t
      · exact fun nodes hnodes hfresh => Becomes.group hnodes hfresh
    | literal role argument direct form =>
      obtain ⟨-, hdirect, hform⟩ := hfits
      rw [verdict]
      dsimp only
      cases role.subject? c record with
      | none => exact .finished _ _ t (Becomes.refl hn)
      | some subject =>
        have hleft : ∀ m, direct.Becomes c.engine.registry m →
            (literal role argument direct form).Becomes c.engine.registry
              (literal role argument m form) :=
          fun m hm => Becomes.literal hm hn.2
        cases subject with
        | array items =>
          obtain ⟨e, hforce, hbuild⟩ | ⟨n, hforce, hn', hbuild⟩ := hn.2.force
          · simp only [hforce, hbuild]
            exact .finished _ _ t (Becomes.literal (.refl hn.1) hbuild)
          · simp only [hforce, hbuild]
            rw [verdict_fresh]
            have hleft : ∀ m, n.Becomes c.engine.registry m →
                (literal role argument direct form).Becomes c.engine.registry
                  (literal role argument direct (.built m)) :=
              fun m hm => Becomes.literal (.refl hn.1) ⟨hm.2 ▸ hbuild, hm.1⟩
            apply (ih hn' (fits_fresh.mp (hform _ hbuild)) _ t).map role.conclude _ hleft
        | _ => exact (ih hn.1 hdirect _ t).map role.conclude _ hleft

/-- The latest entry of a trace says what the evaluation came to. -/
theorem Node.latest_of_traced {c : Context} {fuel : Nat} {n m : Node} {record : Value}
    {t t' : Trace} {outcome : Outcome} (h : n.traced c fuel record t = .ok (outcome, m, t')) :
  ∃ rest, t'.latest = ⟨t.level, n.title, record.text, outcome⟩ :: rest
  := by
  cases fuel with
  | zero => cases h
  | succ fuel =>
    rw [traced, Trace.scope] at h
    obtain ⟨⟨outcome', m', inner⟩, -, h⟩ := bind_eq_ok_iff.mp h
    cases h
    exact ⟨inner.latest, rfl⟩

/-! ### What verdicts depend on -/

/-- The answer is a truth value, or else it is one of the given ones. -/
def Answers (F : Except Abort Outcome → Prop) (answer : Except Abort Outcome) : Prop :=
  (∃ b, answer = .ok (.ok b)) ∨ F answer

/-- Taking answers in turn comes to a truth value or to one of them. -/
theorem Answers.decided {F : Except Abort Outcome → Prop} {decisive : Bool}
    {answers : List (Except Abort Outcome)} (h : ∀ a ∈ answers, Answers F a) :
  Answers F (decided decisive answers)
  := by
  induction answers with
  | nil => exact .inl ⟨!decisive, rfl⟩
  | cons a rest ih =>
    obtain ⟨ha, hrest⟩ := List.forall_mem_cons.mp h
    cases a with
    | error abort => exact ha
    | ok outcome =>
      cases outcome with
      | error e => exact ha
      | ok b =>
        rw [DocQuery.decided]
        split
        · exact .inl ⟨decisive, rfl⟩
        · apply ih hrest

/-- The opposite of an answer that is no truth value is the answer itself. -/
theorem Answers.conclude {F : Except Abort Outcome → Prop} {answer : Except Abort Outcome}
    (h : Answers F answer) (role : Role) :
  Answers F (answer.map fun outcome => role.conclude outcome)
  := by
  rcases answer with abort | e | b
  · exact h
  · cases role <;> exact h
  · cases role <;> exact .inl ⟨_, rfl⟩

/-- The verdict of a matcher is a truth value unless it is that of a leaf, or a form cannot be
built. -/
theorem Node.answers_verdict {c : Context} {F : Except Abort Outcome → Prop} {L : Leaf → Prop}
    {Q : Value → Prop} (hL : ∀ l, L l → ∀ record, Answers F (l.test c.surroundings record))
    (hQ : ∀ a, Q a → ∀ e, Operator.arrayRecord.build? c.engine.registry a = .error e →
      F (.ok (.error (.construction e))))
    {fuel : Nat} {n : Node} (hfits : n.Fits c.engine.registry L Q fuel) (record : Value) :
  Answers F (n.verdict c fuel record)
  := by
  induction fuel generalizing n record with
  | zero => cases hfits
  | succ fuel ih =>
    have hitems : ∀ {m : Node} (decisive : Bool) (f : Value → Value) (items : List Value),
        m.Fits c.engine.registry L Q fuel →
        Answers F (decided decisive (items.map fun item => m.verdict c fuel (f item))) := by
      intro m decisive f items hm
      apply Answers.decided
      intro a ha
      obtain ⟨item, -, rfl⟩ := List.mem_map.mp ha
      apply ih hm (f item)
    cases n with
    | leaf l => exact hL l hfits record
    | within negated argument bounds =>
      cases record with
      | array items => exact hitems (m := bounds) _ id items hfits
      | _ => exact ih (n := bounds) hfits _
    | elements quantifier argument inner =>
      cases record with
      | array items =>
        cases items with
        | nil => exact .inl ⟨false, rfl⟩
        | cons item items => exact hitems (m := inner) _ c.taken _ hfits
      | _ => exact .inl ⟨false, rfl⟩
    | group grouping argument children =>
      apply Answers.decided
      intro a ha
      obtain ⟨child, hmem, rfl⟩ := List.mem_map.mp ha
      apply ih (hfits child hmem) record
    | literal role argument direct form =>
      obtain ⟨hargument, hdirect, hform⟩ := hfits
      rw [verdict]
      cases role.subject? c record with
      | none => exact .inl ⟨false, rfl⟩
      | some subject =>
        have hdirect := (ih hdirect subject).conclude role
        cases subject with
        | array items =>
          cases hbuild : Operator.arrayRecord.build? c.engine.registry argument with
          | error e =>
            have herror : Answers F (.ok (.error (.construction e))) :=
              .inr (hQ argument hargument e hbuild)
            apply herror.conclude role
          | ok m => exact (ih (hform m hbuild) _).conclude role
        | _ => exact hdirect

/-- The verdict of a matcher depends neither on the steps that are allowed, if they are enough, nor
on what surrounds the evaluation, if no leaf looks at it. -/
theorem Node.verdict_stable {c c' : Context} {L : Leaf → Prop} {Q : Value → Prop}
    (hengine : c'.engine = c.engine) (hconverting : c'.converting = c.converting)
    (hL : ∀ l, L l → ∀ record, l.test c'.surroundings record = l.test c.surroundings record)
    {k fuel : Nat} (hk : k ≤ fuel) {n : Node} (hfits : n.Fits c.engine.registry L Q k)
    (record : Value) :
  n.verdict c' fuel record = n.verdict c k record
  := by
  have htaken : c'.taken = c.taken := by
    funext v
    rw [Context.taken, Context.taken, hengine, hconverting]
  have hsubject : ∀ (role : Role) (record : Value), role.subject? c' record = role.subject? c record := by
    intro role record
    cases role <;> simp only [Role.subject?, htaken]
  induction k generalizing fuel n record with
  | zero => cases hfits
  | succ k ih =>
    obtain ⟨fuel, rfl⟩ := Nat.exists_eq_add_of_le' (Nat.le_trans (Nat.succ_pos k) hk)
    have hk := Nat.le_of_succ_le_succ hk
    cases n with
    | leaf l => exact hL l hfits record
    | within negated argument bounds =>
      have hbounds : bounds.verdict c' fuel = bounds.verdict c k := by
        funext record
        apply ih hk hfits record
      cases record <;> simp only [verdict, hbounds]
    | elements quantifier argument inner =>
      have hinner : inner.verdict c' fuel = inner.verdict c k := by
        funext record
        apply ih hk hfits record
      unfold verdict
      simp only [htaken, hinner]
    | group grouping argument children =>
      rw [verdict, verdict]
      congr 1
      apply List.map_congr_left
      exact fun child hmem => ih hk (hfits child hmem) record
    | literal role argument direct form =>
      obtain ⟨-, hdirect, hform⟩ := hfits
      rw [verdict, verdict, hsubject, hengine]
      cases role.subject? c record with
      | none => rfl
      | some subject =>
        have hdirect := ih hk hdirect subject
        cases subject with
        | array items =>
          cases hbuild : Operator.arrayRecord.build? c.engine.registry argument with
          | error e => rfl
          | ok m => simp only [ih hk (hform m hbuild)]
        | _ => simp only [hdirect]

end DocQuery
