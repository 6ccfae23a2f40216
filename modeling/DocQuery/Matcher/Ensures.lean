import DocQuery.Matcher.Prepared
import DocQuery.Matcher.Traced

/-!
# What evaluations leave behind

An evaluation changes the matcher that it is about, and some of it stays. `Ensures` says that what a
computation comes to has a property. What is made of a result can then depend on the property
of the result. `Coincide` compares two steps on what has a property, and is proved once for each way in
which several tests make one.
-/

namespace DocQuery

/-! ### What computations come to -/

/-- Whatever a computation comes to has a property. -/
structure Ensures {α : Type} (P : α → Prop) (s : Except Abort α) : Prop where
  of_eq_ok {a : α} (h : s = .ok a) : P a

namespace Ensures

variable {α β γ : Type} {P : α → Prop} {Q : β → Prop} {s s' : Except Abort α}

theorem ok {a : α} (h : P a) :
  Ensures P (.ok a)
  := by
  constructor
  rintro _ ⟨⟩
  exact h

theorem error (abort : Abort) :
  Ensures P (.error abort)
  := ⟨nofun⟩

theorem bind (h : Ensures P s) {f : α → Except Abort β} (hf : ∀ a, P a → Ensures Q (f a)) :
  Ensures Q (s >>= f)
  := by
  cases s with
  | error abort => exact error abort
  | ok a => exact hf a (h.of_eq_ok rfl)

theorem map (h : Ensures P s) {f : α → β} (hf : ∀ a, P a → Q (f a)) :
  Ensures Q (s.map f)
  := by
  cases s with
  | error abort => exact error abort
  | ok a => exact ok (hf a (h.of_eq_ok rfl))

/-- What a computation comes to, passed on together with its property. -/
def pmap (h : Ensures P s) (f : (a : α) → P a → β) : Except Abort β :=
  match s, h with
  | .error abort, _ => .error abort
  | .ok a, h => .ok (f a (h.of_eq_ok rfl))

theorem pmap_eq_ok_iff {h : Ensures P s} {f : (a : α) → P a → β} {b : β} :
  h.pmap f = .ok b ↔ ∃ a ha, s = .ok a ∧ f a ha = b
  := by
  cases s with
  | error abort => simp [pmap]
  | ok a =>
    constructor
    · rintro ⟨⟩
      exact ⟨a, h.of_eq_ok rfl, rfl, rfl⟩
    · rintro ⟨_, _, ⟨⟩, rfl⟩
      rfl

theorem pmap_of_eq_ok (h : Ensures P s) (f : (a : α) → P a → β) {a : α} (hs : s = .ok a) :
  h.pmap f = .ok (f a (h.of_eq_ok hs))
  := by
  subst hs
  rfl

theorem pmap_eq_error_iff {h : Ensures P s} {f : (a : α) → P a → β} {abort : Abort} :
  h.pmap f = .error abort ↔ s = .error abort
  := by
  cases s with
  | error abort =>
    constructor
    · rintro ⟨⟩
      rfl
    · rintro ⟨⟩
      rfl
  | ok a => exact ⟨nofun, nofun⟩

/-- Passing on what equal computations come to is the same if the properties make no difference. -/
theorem pmap_congr {P' : α → Prop} {h : Ensures P s} {h' : Ensures P' s'} {f : (a : α) → P a → β}
    {g : (a : α) → P' a → β} (hs : s = s') (hfg : ∀ a ha ha', f a ha = g a ha') :
  h.pmap f = h'.pmap g
  := by
  subst hs
  cases s with
  | error abort => rfl
  | ok a => exact congrArg Except.ok (hfg a _ _)

theorem map_pmap (h : Ensures P s) (f : (a : α) → P a → β) (g : β → γ) :
  (h.pmap f).map g = h.pmap fun a ha => g (f a ha)
  := by
  cases s <;> rfl

/-- What is made of a result without its property is made of the result alone. -/
theorem pmap_eq_map (h : Ensures P s) (f : α → β) :
  h.pmap (fun a _ => f a) = s.map f
  := by
  cases s <;> rfl

end Ensures

/-! ### Traces -/

section

variable {α β : Type}

/-- Tracing records in turn keeps a property that each trace keeps. -/
theorem ensures_traceScan {P : α → Prop}
    {eval : α → Value → Trace → Except Abort (Outcome × α × Trace)}
    (h : ∀ x record t, P x → Ensures (fun r => P r.2.1) (eval x record t)) (records : List Value)
    {x : α} (hx : P x) (t : Trace) :
  Ensures (fun r => P r.2.1) (traceScan eval x records t)
  := by
  induction records generalizing x t with
  | nil => exact .ok hx
  | cons record rest ih =>
    rw [traceScan]
    apply (h x record t hx).bind
    rintro ⟨outcome, y, t⟩ hy
    apply (ih hy t).bind
    rintro ⟨outcomes, z, t⟩ hz
    exact .ok hz

/-- Tracing a list in turn keeps what each trace keeps of its item. -/
theorem ensures_traceAll {f : α → β} {eval : α → Trace → Except Abort (Outcome × α × Trace)}
    (h : ∀ x t, Ensures (fun r => f r.2.1 = f x) (eval x t)) (xs : List α) (t : Trace) :
  Ensures (fun r => r.2.1.map f = xs.map f) (traceAll eval xs t)
  := by
  induction xs generalizing t with
  | nil => exact .ok rfl
  | cons x rest ih =>
    rw [traceAll]
    apply (h x t).bind
    rintro ⟨outcome, y, t⟩ hy
    apply (ih t).bind
    rintro ⟨outcomes, ys, t⟩ hys
    apply Ensures.ok
    rw [List.map_cons, List.map_cons, hy, hys]

end

/-! ### Tests that coincide -/

/-- Two steps are the same, and leave something with a property behind. -/
structure Coincide {α : Type} (P : α → Prop) (step step' : Step α) : Prop where
  eq : step = step'
  ensures : Ensures (fun r => P r.2) step

namespace Coincide

variable {α : Type} {P : α → Prop} {test test' : Test α} {x : α}

/-- Scans coincide if the evaluations do on what has a property that they keep. -/
theorem scan {decisive : Bool} {eval eval' : α → Value → Step α}
    (h : ∀ x record, P x → Coincide P (eval x record) (eval' x record)) (records : List Value)
    (hx : P x) :
  Coincide P (scan decisive eval x records) (scan decisive eval' x records)
  := by
  induction records generalizing x with
  | nil => exact ⟨rfl, .ok hx⟩
  | cons record rest ih =>
    obtain ⟨heq, hkeeps⟩ := h x record hx
    rw [DocQuery.scan, DocQuery.scan, ← heq]
    cases hstep : eval x record with
    | error abort => exact ⟨rfl, .error abort⟩
    | ok result =>
      obtain ⟨outcome, y⟩ := result
      have hy := hkeeps.of_eq_ok hstep
      cases outcome with
      | error e => exact ⟨rfl, .ok hy⟩
      | ok b =>
        change Coincide P (if b = decisive then _ else _) (if b = decisive then _ else _)
        split
        · exact ⟨rfl, .ok hy⟩
        · exact ih hy

variable (h : ∀ record x, P x → Coincide P (test record x) (test' record x)) (record : Value)

include h

theorem everyRecord (records : List Value) (hx : P x) :
  Coincide P (Test.everyRecord test records x) (Test.everyRecord test' records x)
  := by
  rw [Test.everyRecord_eq, Test.everyRecord_eq]
  exact scan (fun x record => h record x) records hx

theorem anyRecord (records : List Value) (hx : P x) :
  Coincide P (Test.anyRecord test records x) (Test.anyRecord test' records x)
  := by
  rw [Test.anyRecord_eq, Test.anyRecord_eq]
  exact scan (fun x record => h record x) records hx

theorem within (negated : Bool) (hx : P x) :
  Coincide P (Test.within negated test record x) (Test.within negated test' record x)
  := by
  cases record with
  | array items =>
    cases negated
    · exact anyRecord h items hx
    · exact everyRecord h items hx
  | _ => exact h _ x hx

theorem elements (c : Context) (quantifier : Quantifier) (hx : P x) :
  Coincide P (Test.elements c quantifier test record x) (Test.elements c quantifier test' record x)
  := by
  unfold Test.elements
  split
  · exact anyRecord h _ hx
  · exact everyRecord h _ hx
  · exact ⟨rfl, .ok hx⟩

end Coincide

end DocQuery
