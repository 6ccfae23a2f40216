import DocQuery.Proofs.Acceptance
import DocQuery.Proofs.PlainConditions
import DocQuery.Proofs.Separation

/-!
# Array records

A condition whose parts have distinct keys matches an array if the array satisfies the entries that
apply to it, and one of its elements all that applies to an element. In any condition an entry that meets
no other is a constraint of its own. Where two keys meet, an entry takes the place of another, which is
lost.
-/

namespace DocQuery

/-! ### Conditions that hold for arrays -/

/-- On an array a condition holds if the array satisfies all entries that apply to it and, if there are
others, one of its elements satisfies all that is gathered from the entries for an element. -/
theorem exists_gathers_holds_literal {condition : Entries}
    (hsuits : Suits .core .condition (.map condition)) (hkeys : condition.keys.Nodup)
    (taken : Value → Value) (items : List Value) :
  ∃ element, Gathers .core condition element
    ∧ (Operator.literal.holds taken (.map condition) (.array items)
      ↔ (∀ e ∈ condition, Registry.core.level e.1 = .array → entryHolds taken e.1 e.2 (.array items))
        ∧ ((∃ d ∈ condition, Registry.core.level d.1 ≠ .array) →
          ∃ item ∈ items, ∀ e ∈ element, entryHolds taken e.1 e.2 (taken item)))
  := by
  obtain ⟨whole, hwhole⟩ := hsuits.exists_arrayCondition Engine.core_faultless.plain
  obtain ⟨element, hgathers, hmem⟩ := exists_gathers_arrayCondition hkeys hwhole
  have helement : entryHolds taken "$elemMatch" (.map element) (.array items)
      ↔ ∃ item ∈ items, ∀ e ∈ element, entryHolds taken e.1 e.2 (taken item) := by
    rw [entryHolds_of_operator (.elements .any) rfl, Operator.holds]
    simp [Quantifier.holds, holds_condition]
  refine ⟨element, hgathers, ?_⟩
  rw [holds_literal_of_isArray _ _ rfl, holds_arrayRecord _ _ hwhole, List.all_eq_true, ← helement]
  constructor
  · intro hall
    constructor
    · exact fun e he hlevel => hall e ((hmem e).mpr (.inl ⟨he, hlevel⟩))
    · exact fun hothers => hall _ ((hmem _).mpr (.inr ⟨rfl, hothers⟩))
  · rintro ⟨harray, hany⟩ e he
    obtain ⟨he, hlevel⟩ | ⟨rfl, hothers⟩ := (hmem e).mp he
    · apply harray e he hlevel
    · apply hany hothers

/-- Where no keys meet, this is all that the entries bring. -/
theorem holds_literal_array {condition : Entries} (hsuits : Suits .core .condition (.map condition))
    (hkeys : condition.keys.Nodup) (hclear : ∀ e ∈ condition, condition.Clear .core e)
    (taken : Value → Value) (items : List Value) :
  Operator.literal.holds taken (.map condition) (.array items)
    ↔ (∀ e ∈ condition, Registry.core.level e.1 = .array → entryHolds taken e.1 e.2 (.array items))
      ∧ ((∃ d ∈ condition, Registry.core.level d.1 ≠ .array) →
        ∃ item ∈ items, ∀ e ∈ elementEntries .core condition, entryHolds taken e.1 e.2 (taken item))
  := by
  obtain ⟨element, hgathers, hholds⟩ := exists_gathers_holds_literal hsuits hkeys taken items
  rw [hholds]
  simp only [hgathers.mem_iff hclear]

/-- If a condition holds, so does each of its entries as a condition of its own, unless it meets another
one on an array. -/
theorem holds_literal_singleton {condition : Entries}
    (hsuits : Suits .core .condition (.map condition)) (hkeys : condition.keys.Nodup)
    {taken : Value → Value} {record : Value}
    (h : Operator.literal.holds taken (.map condition) record) {e : String × Value}
    (he : e ∈ condition) (hclear : record.isArray → condition.Clear .core e) :
  Operator.literal.holds taken (.map [e]) record
  := by
  by_cases hrecord : record.isArray
  · replace hclear := hclear hrecord
    have hsingle : ∀ d ∈ [e], Entries.Clear .core [e] d :=
      List.forall_mem_singleton.mpr (hclear.mono (List.forall_mem_singleton.mpr he))
    cases record with
    | array items =>
      obtain ⟨element, hgathers, hholds⟩ := exists_gathers_holds_literal hsuits hkeys taken items
      obtain ⟨harray, helement⟩ := hholds.mp h
      apply (holds_literal_array (hsuits.singleton he) (List.nodup_singleton _) hsingle _ _).mpr
      constructor
      · exact List.forall_mem_singleton.mpr (harray e he)
      · rintro ⟨d, hd, hlevel⟩
        obtain rfl := List.mem_singleton.mp hd
        obtain ⟨item, hitem, hall⟩ := helement ⟨d, he, hlevel⟩
        refine ⟨item, hitem, fun x hx => hall x ?_⟩
        rw [elementEntries, List.flatMap_singleton] at hx
        apply hgathers.parts d he hclear x hx
    | _ => cases hrecord
  · rw [holds_literal_of_not_isArray _ _ hrecord] at h ⊢
    dsimp only at h ⊢
    rw [holds_condition, List.all_eq_true] at h ⊢
    exact List.forall_mem_singleton.mpr (h e he)

/-! ### Matchers for arrays -/

/-- The matcher of an operator with an argument matches a record. -/
def Operator.Matches (c : Context) (operator : Operator) (argument record : Value) : Prop :=
  ∃ n, operator.build? c.engine.registry argument = .ok n
    ∧ (n.evaluate c (evaluationBound argument record) record).map Prod.fst = .ok (.ok true)

/-- What can be built of a legible argument matches where its operator holds. -/
theorem Operator.matches_iff {c : Context} (hc : c.engine = .core) {heap : Heap} {operator : Operator}
    (hoffers : Registry.core.Offers operator) (hne : operator ≠ .arrayRecord) {v : Value}
    (hv : v.Legible heap) (h : Suits .core operator v) (record : Value) :
  operator.Matches c v record ↔ operator.holds c.taken v record
  := by
  obtain ⟨n, hn⟩ := exists_build? Engine.core_faultless.plain hne h
  have hregistry := Context.registry_of_core hc
  have harises : n.Arises .core v := .compiled hoffers hn
  obtain ⟨-, hfits⟩ := Engine.core_faultless.invariant harises
  have hvalue := Engine.core_sound.evaluate hc harises (Nat.le_refl (evaluationBound v record))
  rw [Node.answer, settlesBelow hregistry heap _ _ operator v n (Nat.lt_succ_self _) hoffers hv hn
    record _ hfits] at hvalue
  rw [Operator.Matches, hregistry]
  constructor
  · rintro ⟨m, hm, hmatch⟩
    cases hn.symm.trans hm
    rw [hvalue] at hmatch
    exact Except.ok.inj (Except.ok.inj hmatch)
  · intro hholds
    rw [hholds] at hvalue
    exact ⟨n, hn, hvalue⟩

/-- The matcher of a literal map matches where the map holds. -/
theorem matches_literal_iff {c : Context} (hc : c.engine = .core) {heap : Heap} {condition : Entries}
    (hv : (Value.map condition).Legible heap) (h : Suits .core .condition (.map condition))
    (record : Value) :
  Operator.literal.Matches c (.map condition) record
    ↔ Operator.literal.holds c.taken (.map condition) record
  := by
  apply Operator.matches_iff hc (Registry.offers_of_ne (by simp)) (by simp) hv (.literal .literal h)

/-- The matcher of a condition with one entry matches where the entry holds. -/
theorem matches_entry_iff {c : Context} (hc : c.engine = .core) {heap : Heap} {e : String × Value}
    (hv : e.2.Legible heap) (h : Suits .core .condition (.map [e])) (record : Value) :
  Operator.condition.Matches c (.map [e]) record ↔ entryHolds c.taken e.1 e.2 record
  := by
  rw [Operator.matches_iff hc (Registry.offers_of_ne (by simp)) (by simp)
    (Value.legible_singleton hv e.1) h, holds_condition]
  simp

/-- A literal argument of distinct entries matches an array if the array satisfies, each as a condition
of its own, all entries that apply to it and, if there are others, one of its elements satisfies
all entries that apply to an element and all entries of the condition on elements. -/
theorem matches_array_iff {c : Context} (hc : c.engine = .core) {condition : Entries}
    (hplain : (Value.map condition).Plain) (hseparate : condition.Separate .core) {n : Node}
    (hn : Operator.literal.build? .core (.map condition) = .ok n) (items : List Value) :
  Operator.literal.Matches c (.map condition) (.array items)
    ↔ (∀ e ∈ condition, Registry.core.level e.1 = .array →
        Operator.condition.Matches c (.map [e]) (.array items))
      ∧ ((∃ e ∈ condition, Registry.core.level e.1 ≠ .array) →
        ∃ item ∈ items,
          (∀ e ∈ condition, Registry.core.level e.1 = .element →
            Operator.condition.Matches c (.map [e]) (c.taken item))
          ∧ ∀ body : Entries, ("$elemMatch", Value.map body) ∈ condition →
            ∀ e ∈ body, Operator.condition.Matches c (.map [e]) (c.taken item))
  := by
  have hsuits : Suits .core .condition (.map condition) :=
    (suits_of_build hn).direct Engine.core_faultless.plain.faithful
  have hlegible := hplain.legible default
  have hentry : ∀ e ∈ condition, ∀ record, Operator.condition.Matches c (.map [e]) record
      ↔ entryHolds c.taken e.1 e.2 record :=
    fun e he => matches_entry_iff hc (hlegible.entries e he) (hsuits.singleton he)
  have hbody : ∀ body : Entries, ("$elemMatch", Value.map body) ∈ condition → ∀ e ∈ body, ∀ record,
      Operator.condition.Matches c (.map [e]) record ↔ entryHolds c.taken e.1 e.2 record := by
    intro body hmem e he
    have hinner : Suits .core (.elements .any) (.map body) := hsuits.entries _ hmem
    apply matches_entry_iff hc ((hlegible.entries _ hmem).entries e he) (hinner.inner.singleton he)
  rw [matches_literal_iff hc hlegible hsuits,
    holds_literal_array hsuits hseparate.nodup fun e he => hseparate.clear he]
  apply and_congr
  · exact forall₂_congr fun e he => imp_congr_right fun _ => (hentry e he _).symm
  · apply imp_congr_right
    intro _
    apply exists_congr
    intro item
    apply and_congr_right
    intro _
    rw [forall_elementEntries_iff]
    apply and_congr
    · exact forall₂_congr fun e he => imp_congr_right fun _ => (hentry e he _).symm
    · exact forall₂_congr fun body hmem => forall₂_congr fun e he => (hbody body hmem e he _).symm

/-- A condition on the number of elements and on an element, whose condition on elements has an entry under
another key. -/
theorem matches_array_iff_size :
  ∃ n, Operator.literal.build? .core (.map
      [("$size", .int 1), ("a", .int 1), ("$elemMatch", .map [("b", .int 2)])]) = .ok n
    ∧ Operator.literal.Matches (.new .core []) (.map
        [("$size", .int 1), ("a", .int 1), ("$elemMatch", .map [("b", .int 2)])])
        (.array [.map [("a", .int 1), ("b", .int 2)]])
    ∧ Operator.condition.Matches (.new .core []) (.map [("$size", .int 1)])
        (.array [.map [("a", .int 1), ("b", .int 2)]])
  := by
  have hbody : (Value.map [("b", .int 2)]).Plain := .map (List.forall_mem_singleton.mpr (.int 2))
  have hplain : (Value.map
      [("$size", .int 1), ("a", .int 1), ("$elemMatch", .map [("b", .int 2)])]).Plain := by
    apply Value.Plain.map
    refine List.forall_mem_cons.mpr ⟨.int 1, List.forall_mem_cons.mpr ⟨.int 1, ?_⟩⟩
    exact List.forall_mem_singleton.mpr hbody
  have hseparate : Entries.Separate .core
      [("$size", .int 1), ("a", .int 1), ("$elemMatch", .map [("b", .int 2)])] := by
    refine ⟨by decide, ?_⟩
    intro body hmem
    have hbody : body = [("b", .int 2)] := by simpa using hmem
    subst hbody
    decide
  obtain ⟨n, hn⟩ : ∃ n, Operator.literal.build? .core (.map
      [("$size", .int 1), ("a", .int 1), ("$elemMatch", .map [("b", .int 2)])]) = .ok n := ⟨_, rfl⟩
  have hmatch : Operator.literal.Matches (.new .core []) (.map
      [("$size", .int 1), ("a", .int 1), ("$elemMatch", .map [("b", .int 2)])])
      (.array [.map [("a", .int 1), ("b", .int 2)]]) := by
    set_option maxRecDepth 4000 in exact ⟨_, rfl, rfl⟩
  obtain ⟨harray, -⟩ := (matches_array_iff rfl hplain hseparate hn _).mp hmatch
  exact ⟨n, hn, hmatch, harray _ List.mem_cons_self (by decide)⟩

/-- If the matcher of a literal argument matches, so does that of each of its entries alone, unless on an
array the entry meets another one. -/
theorem entries_match {c : Context} (hc : c.engine = .core) {heap : Heap} {condition : Entries}
    (hlegible : (Value.map condition).Legible heap) (hkeys : condition.keys.Nodup) {record : Value}
    (h : Operator.literal.Matches c (.map condition) record) :
  ∀ e ∈ condition, (record.isArray → condition.Clear .core e) →
    Operator.literal.Matches c (.map [e]) record
  := by
  have hsuits : Suits .core .condition (.map condition) := by
    obtain ⟨n, hn, -⟩ := h
    rw [Context.registry_of_core hc] at hn
    apply (suits_of_build hn).direct Engine.core_faultless.plain.faithful
  rw [matches_literal_iff hc hlegible hsuits] at h
  intro e he hclear
  have hlegible' := Value.legible_singleton (hlegible.entries e he) e.1
  apply (matches_literal_iff hc hlegible' (hsuits.singleton he) record).mpr
  apply holds_literal_singleton hsuits hkeys h he hclear

/-- A field that does not meet the condition on elements beside it, where another one does. -/
theorem entries_match_element :
  Operator.literal.Matches (.new .core []) (.map
      [("$elemMatch", .map [("a", .int 1)]), ("a", .int 2), ("b", .int 2)])
      (.array [.map [("a", .int 2), ("b", .int 2)]])
    ∧ Operator.literal.Matches (.new .core []) (.map [("b", .int 2)])
      (.array [.map [("a", .int 2), ("b", .int 2)]])
  := by
  have hbody : (Value.map [("a", .int 1)]).Legible default :=
    .map (List.forall_mem_singleton.mpr (.int 1))
  have hlegible : (Value.map
      [("$elemMatch", .map [("a", .int 1)]), ("a", .int 2), ("b", .int 2)]).Legible default := by
    apply Value.Legible.map
    refine List.forall_mem_cons.mpr ⟨hbody, List.forall_mem_cons.mpr ⟨.int 2, ?_⟩⟩
    exact List.forall_mem_singleton.mpr (.int 2)
  have hclear : Entries.Clear .core
      [("$elemMatch", .map [("a", .int 1)]), ("a", .int 2), ("b", .int 2)] ("b", .int 2) :=
    ⟨by decide, by decide⟩
  have hmatch : Operator.literal.Matches (.new .core []) (.map
      [("$elemMatch", .map [("a", .int 1)]), ("a", .int 2), ("b", .int 2)])
      (.array [.map [("a", .int 2), ("b", .int 2)]]) := by
    set_option maxRecDepth 4000 in exact ⟨_, rfl, rfl⟩
  exact ⟨hmatch, entries_match rfl hlegible (by decide) hmatch _
    (List.mem_cons_of_mem _ (List.mem_cons_of_mem _ List.mem_cons_self)) fun _ => hclear⟩

/-- An entry beside a condition on elements takes the place of one in it: the matcher of both matches an
array that the condition on elements alone does not match. -/
theorem entry_displaced :
  Operator.literal.Matches (.new .core []) (.map
      [("$elemMatch", .map [("a", .int 1)]), ("a", .int 2)]) (.array [.map [("a", .int 2)]])
    ∧ ∃ n, Operator.literal.build? .core (.map [("$elemMatch", .map [("a", .int 1)])]) = .ok n
      ∧ (n.evaluate (.new .core []) (evaluationBound (.map [("$elemMatch", .map [("a", .int 1)])])
          (.array [.map [("a", .int 2)]])) (.array [.map [("a", .int 2)]])).map Prod.fst
        = .ok (.ok false)
  := by
  constructor
  · set_option maxRecDepth 4000 in exact ⟨_, rfl, rfl⟩
  · set_option maxRecDepth 4000 in exact ⟨_, rfl, rfl⟩

end DocQuery
