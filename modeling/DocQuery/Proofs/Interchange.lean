import DocQuery.Proofs.Keys

/-!
# Matchers with equal keys

Matchers with equal keys are interchangeable if the texts of their arguments tell the arguments
apart, and then a group does the same with and without the matchers whose keys were seen before.
A range that is an end of a range spoils this, because the ends of ranges are written without
brackets.
-/

namespace DocQuery

/-! ### Answers that are dropped -/

theorem decided_cons_congr {decisive : Bool} (a : Except Abort Outcome)
    {xs ys : List (Except Abort Outcome)} (h : decided decisive xs = decided decisive ys) :
  decided decisive (a :: xs) = decided decisive (a :: ys)
  := by
  cases a with
  | error abort => rfl
  | ok outcome =>
    cases outcome with
    | error failure => rfl
    | ok b => rw [decided, decided, h]

/-- An answer that does not decide can be dropped. -/
theorem decided_drop {decisive b : Bool} (hb : b ≠ decisive) (xs ys : List (Except Abort Outcome)) :
  decided decisive (xs ++ .ok (.ok b) :: ys) = decided decisive (xs ++ ys)
  := by
  induction xs with
  | nil => rw [List.nil_append, List.nil_append, decided, if_neg hb]
  | cons a xs ih =>
    rw [List.cons_append, List.cons_append]
    apply decided_cons_congr a ih

/-- An answer that was there before can be dropped. -/
theorem decided_drop_of_mem (decisive : Bool) {a : Except Abort Outcome}
    {xs : List (Except Abort Outcome)} (h : a ∈ xs) (ys : List (Except Abort Outcome)) :
  decided decisive (xs ++ a :: ys) = decided decisive (xs ++ ys)
  := by
  induction xs with
  | nil => cases h
  | cons a' xs ih =>
    rw [List.cons_append, List.cons_append]
    obtain rfl | h := List.mem_cons.mp h
    · cases a with
      | error abort => rfl
      | ok outcome =>
        cases outcome with
        | error failure => rfl
        | ok b =>
          rw [decided, decided]
          split
          · rfl
          · rename_i hb
            apply decided_drop hb
    · apply decided_cons_congr a' (ih h)

/-- Matchers whose keys were seen before can be dropped if their answers were, too. -/
theorem decided_distinctFrom {decisive : Bool} {answer : Node → Except Abort Outcome}
    {seen : List String} {answers : List (Except Abort Outcome)} {nodes : List Node}
    (hseen : ∀ n ∈ nodes, n.key ∈ seen → answer n ∈ answers)
    (hkeys : ∀ n ∈ nodes, ∀ m ∈ nodes, n.key = m.key → answer n = answer m) :
  decided decisive (answers ++ (distinctFrom seen nodes).map answer)
    = decided decisive (answers ++ nodes.map answer)
  := by
  induction nodes generalizing seen answers with
  | nil => rfl
  | cons n rest ih =>
    have hrest : ∀ m ∈ rest, ∀ k ∈ rest, m.key = k.key → answer m = answer k :=
      fun m hm k hk => hkeys m (List.mem_cons_of_mem n hm) k (List.mem_cons_of_mem n hk)
    rw [distinctFrom]
    split
    · rename_i hmem
      have hanswer := hseen n List.mem_cons_self (List.contains_iff_mem.mp hmem)
      rw [List.map_cons, decided_drop_of_mem decisive hanswer]
      apply ih _ hrest
      exact fun m hm => hseen m (List.mem_cons_of_mem n hm)
    · rw [List.map_cons, List.map_cons, List.append_cons answers, List.append_cons answers _ (rest.map _)]
      apply ih _ hrest
      intro m hm hkey
      rw [List.mem_append, List.mem_singleton]
      obtain hkey | hkey := List.mem_cons.mp hkey
      · right
        apply hkeys m (List.mem_cons_of_mem n hm) n List.mem_cons_self hkey
      · left
        apply hseen m (List.mem_cons_of_mem n hm) hkey

/-! ### Matchers in any state -/

/-- The key of a matcher does not depend on the forms that it holds. -/
theorem Node.key_fresh (n : Node) :
  n.fresh.key = n.key
  := by
  cases n <;> rfl

/-- The matcher was built of a legible argument, for an operator or for a field, in however many
steps, and evaluations have left it as it is. -/
def Node.Made (r : Registry) (heap : Heap) (n : Node) : Prop :=
  n.Consistent r ∧ ∃ argument fuel, argument.Legible heap
    ∧ ((∃ operator, r.Offers operator ∧ build r fuel operator argument = .ok n.fresh)
      ∨ ∃ name, literalNode (build r fuel) (.field name) argument = .ok n.fresh)

section

variable {r : Registry} {heap : Heap}

theorem Node.Made.original (hr : r.Usual) {n : Node} (h : n.Made r heap) :
  n.fresh.Original r heap
  := by
  obtain ⟨-, argument, fuel, hlegible, ⟨operator, hoffers, hbuild⟩ | ⟨name, hfield⟩⟩ := h
  · apply original_of_build hr fuel operator argument _ hoffers hlegible hbuild
  · obtain ⟨m, hm, heq⟩ := map_eq_ok_iff.mp hfield
    rw [directNode_eq] at hm
    rw [← heq]
    exact ⟨.literal, argument, fuel + 1, rfl, build_literal hm, Registry.offers_of_ne (by simp),
      .inr hlegible⟩

/-- Matchers with equal keys are the same but for the forms that they hold. -/
theorem Node.Made.fresh_eq (hr : r.Usual) {n m : Node} (hn : n.Made r heap) (hm : m.Made r heap)
    (h : n.key = m.key) :
  n.fresh = m.fresh
  := by
  apply (hn.original hr).eq_of_key_eq hr (hm.original hr)
  rw [key_fresh, key_fresh, h]

end

/-- Matchers with equal keys that were built of legible arguments come to the same on every record,
in whatever state they are. So a group of such matchers comes to the same when those with keys seen
before are dropped. -/
theorem interchangeable {r : Registry} (hr : r.Usual) (heap : Heap) {c : Context}
    (hc : c.engine.registry = r) (fuel : Nat) (record : Value) :
  (∀ n m : Node, n.Made r heap → m.Made r heap → n.key = m.key →
      (n.evaluate c fuel record).map Prod.fst = (m.evaluate c fuel record).map Prod.fst)
    ∧ ∀ (grouping : Grouping) (argument : Value) (nodes : List Node),
      (∀ n ∈ nodes, n.Made r heap) →
        ((Node.group grouping argument (distinct nodes)).evaluate c fuel record).map Prod.fst
          = ((Node.group grouping argument nodes).evaluate c fuel record).map Prod.fst
  := by
  subst hc
  have hverdict : ∀ n : Node, n.Consistent c.engine.registry →
      (n.evaluate c fuel record).map Prod.fst = n.verdict c fuel record :=
    fun n hn => (n.evaluate_yields c fuel hn record).map_fst
  constructor
  · intro n m hn hm hkey
    rw [hverdict n hn.1, hverdict m hm.1, Node.verdict_congr (hn.fresh_eq hr hm hkey)]
  · intro grouping argument nodes hnodes
    have hall : (Node.group grouping argument nodes).Consistent c.engine.registry :=
      (consistentAll_iff _ nodes).mpr fun n hn => (hnodes n hn).1
    have hdistinct : (Node.group grouping argument (distinct nodes)).Consistent c.engine.registry :=
      (consistentAll_iff _ _).mpr fun n hn => (hnodes n (distinct_subset nodes n hn)).1
    rw [hverdict _ hall, hverdict _ hdistinct]
    cases fuel with
    | zero => rfl
    | succ fuel =>
      have hequal : decided grouping.decisive
            ([] ++ (distinctFrom [] nodes).map fun n => n.verdict c fuel record)
          = decided grouping.decisive ([] ++ nodes.map fun n => n.verdict c fuel record) := by
        apply decided_distinctFrom
        · exact fun n _ hkey => absurd hkey List.not_mem_nil
        · intro n hn m hm hkey
          apply Node.verdict_congr
          apply (hnodes n hn).fresh_eq hr (hnodes m hm) hkey
      exact hequal

/-- What a matcher becomes was made of the same argument. -/
theorem Node.Becomes.made {r : Registry} {heap : Heap} {n m : Node} (h : n.Becomes r m)
    (hn : n.Made r heap) :
  m.Made r heap
  := by
  refine ⟨h.1, ?_⟩
  rw [h.2]
  exact hn.2

/-- A field that is compared with a number, as it was built and as it is left behind after an array:
the second one has a form for arrays, but the keys are equal, and the conjunction of both does the
same without it. -/
theorem interchangeable_field :
  ∃ n m : Node, n.key = m.key
    ∧ ((Node.group .conjunction .null (distinct [n, m])).evaluate (.new .core []) 40
          (.map [("a", .int 1)])).map Prod.fst
        = ((Node.group .conjunction .null [n, m]).evaluate (.new .core []) 40
          (.map [("a", .int 1)])).map Prod.fst
    ∧ ((Node.group .conjunction .null [n, m]).evaluate (.new .core []) 40
          (.map [("a", .int 1)])).map Prod.fst = .ok (.ok true)
  := by
  obtain ⟨n, hn⟩ : ∃ n, literalNode (build .core 3) (.field "a") (.int 1) = .ok n := ⟨_, rfl⟩
  obtain ⟨m, hm⟩ : ∃ m, n.evaluate (.new .core []) 40 (.map [("a", .array [.int 1])])
      = .ok (.ok true, m) := by
    cases hn
    exact ⟨_, rfl⟩
  have hfresh : n.fresh = n := by
    cases hn
    rfl
  have hconsistent : n.Consistent Registry.core := by
    rw [← hfresh]
    apply n.consistent_fresh
  have hmade : n.Made Registry.core default := by
    refine ⟨hconsistent, .int 1, 3, .int 1, .inr ⟨"a", ?_⟩⟩
    rw [hfresh]
    exact hn
  have hbecomes := (n.evaluate_yields (.new .core []) 40 hconsistent _).leaves hm
  have hmade' := hbecomes.2.made hmade
  have hkey : n.key = m.key := by
    rw [← n.key_fresh, ← hbecomes.2.2, m.key_fresh]
  obtain ⟨-, hgroups⟩ := interchangeable Registry.usual_core default
    (c := .new .core []) rfl 40 (.map [("a", .int 1)])
  have hnodes : ∀ k ∈ [n, m], k.Made Registry.core default :=
    List.forall_mem_cons.mpr ⟨hmade, List.forall_mem_singleton.mpr hmade'⟩
  refine ⟨n, m, hkey, hgroups .conjunction .null [n, m] hnodes, ?_⟩
  cases hn
  cases hm
  rfl

/-! ### Ranges within ranges -/

/-- The dots of a range do not say which of two ranges is the inner one. -/
theorem range_uniqueText_assoc (v w x : Option Value) (exclusive exclusive' : Bool) :
  (Value.range (some (.range v w exclusive)) x exclusive').uniqueText
    = (Value.range v (some (.range w x exclusive')) exclusive).uniqueText
  := by
  apply String.toList_inj.mp
  change (Value.range (some (.range v w exclusive)) x exclusive').chars
    = (Value.range v (some (.range w x exclusive')) exclusive).chars
  simp only [Value.chars_range, Value.endChars, Option.map_some, Option.getD_some, List.append_assoc]

/-- A range with a range as an end has the text of another range. -/
theorem exists_uniqueText_eq {start stop : Option Value} {exclusive : Bool}
    (h : (∃ v ∈ start, v.isRange) ∨ ∃ v ∈ stop, v.isRange) :
  ∃ v : Value, v ≠ .range start stop exclusive
    ∧ v.uniqueText = (Value.range start stop exclusive).uniqueText
  := by
  obtain ⟨v, rfl, hv⟩ | ⟨v, rfl, hv⟩ := h
  · cases v with
    | range w x exclusive' =>
      refine ⟨_, ?_, (range_uniqueText_assoc w x stop exclusive' exclusive).symm⟩
      intro heq
      have hsize := congrArg sizeOf (Value.range.inj heq).1
      simp at hsize
      omega
    | _ => cases hv
  · cases v with
    | range w x exclusive' =>
      refine ⟨_, ?_, range_uniqueText_assoc start w x exclusive exclusive'⟩
      intro heq
      have hsize := congrArg sizeOf (Value.range.inj heq).2.1
      simp at hsize
      omega
    | _ => cases hv

/-- Of the membership tests of two ranges with one text, six passes the first only. A conjunction of
both, which it should fail, is passed when the second one is dropped for its key. -/
theorem nested_ranges_alike :
  ∃ n m : Node,
    (Operator.member true).build? .core
        (.range (some (.range none none true)) (some (.int 5)) false) = .ok n
      ∧ (Operator.member true).build? .core
        (.range none (some (.range none (some (.int 5)) false)) true) = .ok m
      ∧ n.key = m.key
      ∧ (n.evaluate (.new .core []) 40 (.int 6)).map Prod.fst = .ok (.ok true)
      ∧ (m.evaluate (.new .core []) 40 (.int 6)).map Prod.fst = .ok (.ok false)
      ∧ ((Node.group .conjunction .null [n, m]).evaluate (.new .core []) 40 (.int 6)).map Prod.fst
        = .ok (.ok false)
      ∧ ((Node.group .conjunction .null (distinct [n, m])).evaluate (.new .core []) 40
          (.int 6)).map Prod.fst = .ok (.ok true)
  := by
  refine ⟨_, _, rfl, rfl, ?_, ?_, ?_, ?_, ?_⟩ <;> rfl

end DocQuery
