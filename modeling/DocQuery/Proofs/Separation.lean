import DocQuery.Proofs.Merge

/-!
# Conditions taken apart

For an array a condition falls into parts by its keys. Positions and operators apply to the array, all
other keys apply to an element, and a condition on elements brings entries of its own that apply to an
element. All that applies to an element is put together into one condition on elements. An entry that
shares no key with another one is kept there as it is. So nothing is lost if no keys meet.
-/

namespace DocQuery

/-! ### Putting entries into maps -/

namespace Entries

theorem mem_keys_insert {entries : Entries} {key k : String} {v : Value} :
  k ∈ (entries.insert key v).keys ↔ k ∈ entries.keys ∨ k = key
  := by
  rw [keys_insert]
  split
  · rename_i h
    rw [or_iff_left_of_imp]
    rintro rfl
    exact h
  · rw [List.mem_append, List.mem_singleton]

theorem mem_insert_self (entries : Entries) (key : String) (v : Value) :
  (key, v) ∈ entries.insert key v
  := by
  induction entries with
  | nil => apply List.mem_singleton_self
  | cons e rest ih =>
    rw [insert]
    split
    · apply List.mem_cons_self
    · apply List.mem_cons_of_mem _ ih

/-- A value that is put in leaves the entries under other keys as they are. -/
theorem mem_insert_of_ne {entries : Entries} {e : String × Value} (h : e ∈ entries) {key : String}
    (hne : e.1 ≠ key) (v : Value) :
  e ∈ entries.insert key v
  := by
  induction entries with
  | nil => cases h
  | cons d rest ih =>
    rw [insert]
    split
    · rename_i hkey
      obtain rfl | h := List.mem_cons.mp h
      · exact absurd hkey hne
      · apply List.mem_cons_of_mem _ h
    · obtain rfl | h := List.mem_cons.mp h
      · apply List.mem_cons_self
      · apply List.mem_cons_of_mem _ (ih h)

/-- Among distinct keys a value that is put in replaces just the one under its key. -/
theorem mem_insert_iff {entries : Entries} (h : entries.keys.Nodup) {key : String} {v : Value}
    {e : String × Value} :
  e ∈ entries.insert key v ↔ e = (key, v) ∨ e ∈ entries ∧ e.1 ≠ key
  := by
  constructor
  · apply eq_or_ne_of_mem_insert h
  · rintro (rfl | ⟨he, hne⟩)
    · apply mem_insert_self
    · apply mem_insert_of_ne he hne

/-- Further entries have been put into a map: those under other keys are as they were, and under new
keys the further ones are there as they are. -/
structure Extends (old part new : Entries) : Prop where
  nodup : old.keys.Nodup → new.keys.Nodup
  keys : ∀ key ∈ new.keys, key ∈ old.keys ∨ key ∈ part.keys
  kept : ∀ e ∈ old, e.1 ∉ part.keys → e ∈ new
  added : part.keys.Nodup → ∀ e ∈ part, e.1 ∉ old.keys → e ∈ new

theorem extends_nil (entries : Entries) :
  Extends entries [] entries
  := ⟨id, fun _ => .inl, fun _ he _ => he, fun _ _ he => absurd he List.not_mem_nil⟩

theorem extends_insert (entries : Entries) (key : String) (v : Value) :
  Extends entries [(key, v)] (entries.insert key v)
  where
  nodup h := nodup_keys_insert h key v
  keys k hk := (mem_keys_insert.mp hk).imp_right List.mem_singleton.mpr
  kept e he hne := mem_insert_of_ne he (fun h => hne (List.mem_singleton.mpr h)) v
  added _ e he _ := by
    obtain rfl := List.mem_singleton.mp he
    apply mem_insert_self

theorem extends_merge (entries new : Entries) :
  Extends entries new (merge entries new)
  := by
  induction new generalizing entries with
  | nil =>
    rw [merge]
    apply extends_nil
  | cons d rest ih =>
    obtain ⟨key, v⟩ := d
    rw [merge]
    have ih := ih (entries.insert key (v.mergedInto (entries.get? key)))
    constructor
    · exact fun h => ih.nodup (nodup_keys_insert h key _)
    · intro k hk
      rw [keys_cons, List.mem_cons, ← or_assoc, ← mem_keys_insert]
      apply ih.keys k hk
    · intro e he hne
      rw [keys_cons, List.mem_cons, not_or] at hne
      apply ih.kept e (mem_insert_of_ne he hne.1 _) hne.2
    · intro hnodup e he hnew
      obtain ⟨hkey, hrest⟩ := List.nodup_cons.mp hnodup
      obtain rfl | he := List.mem_cons.mp he
      · have hget : entries.get? key = none := by
          rw [← Option.not_isSome_iff_eq_none]
          exact fun hsome => hnew (has_iff_mem_keys.mp hsome)
        have hv : v.mergedInto none = v := by
          cases v <;> rfl
        apply ih.kept _ _ hkey
        rw [hget, hv]
        apply mem_insert_self
      · apply ih.added hrest e he
        rw [mem_keys_insert, not_or]
        refine ⟨hnew, ?_⟩
        intro hsame
        apply hkey
        rw [← hsame]
        apply List.mem_map_of_mem he

end Entries

/-! ### What an entry brings to an element -/

/-- The entries that an entry of a condition brings to the condition on elements. -/
def elementPart (r : Registry) (e : String × Value) : Entries :=
  match r.level e.1, e.2 with
  | .array, _ => []
  | .elements, .map body => body
  | .elements, _ => []
  | .element, _ => [e]

theorem elementPart_of_array {r : Registry} {key : String} (h : r.level key = .array) (v : Value) :
  elementPart r (key, v) = []
  := by
  simp only [elementPart, h]

theorem elementPart_elemMatch (r : Registry) (body : Entries) :
  elementPart r ("$elemMatch", .map body) = body
  := by
  simp only [elementPart, r.level_elemMatch]

theorem elementPart_of_element {r : Registry} {key : String} (h : r.level key = .element) (v : Value) :
  elementPart r (key, v) = [(key, v)]
  := by
  simp only [elementPart, h]

/-- An entry brings itself to the condition on elements, or it is a condition on elements and brings its
entries. -/
theorem mem_elementPart_iff {r : Registry} {e d : String × Value} :
  d ∈ elementPart r e ↔ d = e ∧ r.level e.1 = .element
    ∨ ∃ body : Entries, e = ("$elemMatch", .map body) ∧ d ∈ body
  := by
  obtain ⟨key, v⟩ := e
  by_cases hkey : key = "$elemMatch"
  · subst hkey
    cases v <;> simp [elementPart, r.level_elemMatch]
  · cases hlevel : r.level key with
    | elements => exact absurd (Registry.eq_elemMatch_of_level hlevel) hkey
    | _ => simp [elementPart, hlevel, hkey]

/-- All that the entries of a condition bring to the condition on elements. -/
def elementEntries (r : Registry) (condition : Entries) : Entries :=
  condition.flatMap (elementPart r)

/-- What holds of all that is brought to an element holds of the entries that apply to an element, and
of those of the conditions on elements. -/
theorem forall_elementEntries_iff {r : Registry} {condition : Entries} {P : String × Value → Prop} :
  (∀ e ∈ elementEntries r condition, P e) ↔ (∀ e ∈ condition, r.level e.1 = .element → P e)
    ∧ ∀ body : Entries, ("$elemMatch", Value.map body) ∈ condition → ∀ e ∈ body, P e
  := by
  simp only [elementEntries, List.mem_flatMap, mem_elementPart_iff]
  constructor
  · intro h
    constructor
    · exact fun e he hlevel => h e ⟨e, he, .inl ⟨rfl, hlevel⟩⟩
    · exact fun body hbody e he => h e ⟨_, hbody, .inr ⟨body, rfl, he⟩⟩
  · rintro ⟨hentry, hbody⟩ e ⟨d, hd, ⟨rfl, hlevel⟩ | ⟨body, rfl, he⟩⟩
    · apply hentry e hd hlevel
    · apply hbody body hd e he

/-! ### Entries that meet no other -/

/-- No other entry of a condition brings a key to the condition on elements that the entry brings. -/
structure Entries.Clear (r : Registry) (condition : Entries) (e : String × Value) : Prop where
  nodup : (elementPart r e).keys.Nodup
  apart : ∀ d ∈ condition, d.1 ≠ e.1 → ∀ key ∈ (elementPart r d).keys, key ∉ (elementPart r e).keys

theorem Entries.Clear.mono {r : Registry} {condition rest : Entries} {e : String × Value}
    (h : condition.Clear r e) (hrest : ∀ d ∈ rest, d ∈ condition) :
  rest.Clear r e
  := ⟨h.nodup, fun d hd => h.apart d (hrest d hd)⟩

/-- The keys of a condition are distinct, and so are those of a condition on elements in it, none of
which is the key of an entry beside it that applies to an element. -/
structure Entries.Separate (r : Registry) (condition : Entries) : Prop where
  nodup : condition.keys.Nodup
  body : ∀ body : Entries, ("$elemMatch", Value.map body) ∈ condition →
    body.keys.Nodup ∧ ∀ key ∈ body.keys, key ∈ condition.keys → r.level key ≠ .element

/-- An entry brings distinct keys if it is no condition on elements whose keys are not distinct. -/
theorem nodup_keys_elementPart {r : Registry} {e : String × Value}
    (h : ∀ body : Entries, e = ("$elemMatch", .map body) → body.keys.Nodup) :
  (elementPart r e).keys.Nodup
  := by
  obtain ⟨key, v⟩ := e
  cases hlevel : r.level key with
  | array =>
    rw [elementPart_of_array hlevel]
    apply List.nodup_nil
  | element =>
    rw [elementPart_of_element hlevel]
    apply List.nodup_singleton
  | elements =>
    cases Registry.eq_elemMatch_of_level hlevel
    cases v with
    | map body =>
      rw [elementPart_elemMatch]
      apply h body rfl
    | _ =>
      simp only [elementPart, hlevel]
      apply List.nodup_nil

/-- In a separate condition no keys meet. -/
theorem Entries.Separate.clear {r : Registry} {condition : Entries} (h : condition.Separate r)
    {e : String × Value} (he : e ∈ condition) :
  condition.Clear r e
  := by
  have hbody : ∀ e ∈ condition, r.level e.1 = .element → ∀ body : Entries,
      ("$elemMatch", Value.map body) ∈ condition → e.1 ∉ body.keys := by
    intro e he hlevel body hmem hkey
    apply (h.body body hmem).2 e.1 hkey (List.mem_map_of_mem he) hlevel
  constructor
  · apply nodup_keys_elementPart
    rintro body rfl
    apply (h.body body he).1
  · intro d hd hne key hkey hkey'
    obtain ⟨x, hx, rfl⟩ := List.mem_map.mp hkey
    obtain ⟨y, hy, hsame⟩ := List.mem_map.mp hkey'
    obtain ⟨rfl, hlevel⟩ | ⟨body, rfl, hbrought⟩ := mem_elementPart_iff.mp hx
    · obtain ⟨rfl, -⟩ | ⟨body, rfl, hbrought⟩ := mem_elementPart_iff.mp hy
      · exact hne hsame.symm
      · apply hbody x hd hlevel body he
        rw [← hsame]
        apply List.mem_map_of_mem hbrought
    · obtain ⟨rfl, hlevel⟩ | ⟨body', rfl, -⟩ := mem_elementPart_iff.mp hy
      · apply hbody y he hlevel body hd
        rw [hsame]
        apply List.mem_map_of_mem hbrought
      · exact hne rfl

/-! ### Taking a condition apart -/

/-- What has been put together for an element from some entries of a condition: there are no keys but
those brought by the entries, and what an entry brings is there unless it meets another one. -/
structure Gathers (r : Registry) (condition element : Entries) : Prop where
  nodup : element.keys.Nodup
  keys : ∀ key ∈ element.keys, ∃ d ∈ condition, key ∈ (elementPart r d).keys
  parts : ∀ e ∈ condition, condition.Clear r e → ∀ x ∈ elementPart r e, x ∈ element

/-- What an entry under a new key brings is put beside all that is there. -/
theorem Gathers.extend {r : Registry} {condition element element' : Entries}
    (h : Gathers r condition element) {e : String × Value} (hnew : e.1 ∉ condition.keys)
    (hextends : element.Extends (elementPart r e) element') :
  Gathers r (condition ++ [e]) element'
  := by
  have hne : ∀ d ∈ condition, d.1 ≠ e.1 := by
    intro d hd hsame
    apply hnew
    rw [← hsame]
    apply List.mem_map_of_mem hd
  have hlast : e ∈ condition ++ [e] := List.mem_append_right _ (List.mem_singleton_self e)
  constructor
  · apply hextends.nodup h.nodup
  · intro key hkey
    obtain hold | hpart := hextends.keys key hkey
    · obtain ⟨d, hd, hpart⟩ := h.keys key hold
      exact ⟨d, List.mem_append_left _ hd, hpart⟩
    · exact ⟨e, hlast, hpart⟩
  · intro d hd hclear x hx
    obtain hd | hd := List.mem_append.mp hd
    · apply hextends.kept x
      · apply h.parts d hd _ x hx
        apply hclear.mono fun _ => List.mem_append_left _
      · intro hmeets
        apply hclear.apart e hlast (hne d hd).symm x.1 hmeets (List.mem_map_of_mem hx)
    · obtain rfl := List.mem_singleton.mp hd
      apply hextends.added hclear.nodup x hx
      intro hmeets
      obtain ⟨d', hd', hpart⟩ := h.keys x.1 hmeets
      apply hclear.apart d' (List.mem_append_left _ hd') (hne d' hd') x.1 hpart
      apply List.mem_map_of_mem hx

/-- Where no keys meet, just all that the entries bring has been put together. -/
theorem Gathers.mem_iff {r : Registry} {condition element : Entries} (h : Gathers r condition element)
    (hclear : ∀ d ∈ condition, condition.Clear r d) (x : String × Value) :
  x ∈ element ↔ x ∈ elementEntries r condition
  := by
  have hparts : ∀ d ∈ condition, ∀ y ∈ elementPart r d, y ∈ element :=
    fun d hd => h.parts d hd (hclear d hd)
  rw [elementEntries, List.mem_flatMap]
  constructor
  · intro hx
    obtain ⟨d, hd, hkey⟩ := h.keys x.1 (List.mem_map_of_mem hx)
    obtain ⟨y, hy, hsame⟩ := List.mem_map.mp hkey
    obtain rfl := List.inj_on_of_nodup_map h.nodup (hparts d hd y hy) hx hsame
    exact ⟨d, hd, hy⟩
  · rintro ⟨d, hd, hx⟩
    apply hparts d hd x hx

namespace ArrayCondition

/-- Some entries of a condition have been sorted: those that apply to the array are kept, beside a place
for the condition on elements if there are others, which are gathered in it. -/
structure Sorts (r : Registry) (condition : Entries) (c : ArrayCondition) : Prop where
  nodup : c.whole.keys.Nodup
  mem_whole_iff : ∀ e, e ∈ c.whole ↔ e ∈ condition ∧ r.level e.1 = .array
    ∨ e = ("$elemMatch", .null) ∧ ∃ d ∈ condition, r.level d.1 ≠ .array
  element : Gathers r condition c.element

variable {r : Registry} {condition : Entries} {c : ArrayCondition}

/-- The place for the condition on elements is there once an entry does not apply to the array. -/
theorem Sorts.has_iff (h : c.Sorts r condition) :
  c.whole.has "$elemMatch" ↔ ∃ d ∈ condition, r.level d.1 ≠ .array
  := by
  rw [Entries.has_iff_mem_keys]
  constructor
  · intro hkey
    obtain ⟨e, he, hkey⟩ := List.mem_map.mp hkey
    obtain ⟨-, hlevel⟩ | ⟨-, hothers⟩ := (h.mem_whole_iff e).mp he
    · rw [hkey, r.level_elemMatch] at hlevel
      cases hlevel
    · exact hothers
  · intro hothers
    apply List.mem_map_of_mem ((h.mem_whole_iff _).mpr (.inr ⟨rfl, hothers⟩))

/-- An entry that applies to the array is kept as it is. -/
theorem Sorts.insert_whole (h : c.Sorts r condition) {key : String} {v : Value}
    (hnew : key ∉ condition.keys) (hlevel : r.level key = .array) :
  Sorts r (condition ++ [(key, v)]) { c with whole := c.whole.insert key v }
  := by
  have hne : ∀ e ∈ c.whole, e.1 ≠ key := by
    rintro e he rfl
    obtain ⟨he, -⟩ | ⟨rfl, -⟩ := (h.mem_whole_iff e).mp he
    · apply hnew (List.mem_map_of_mem he)
    · rw [r.level_elemMatch] at hlevel
      cases hlevel
  have hwhole : ∀ e, e ∈ condition ++ [(key, v)] ∧ r.level e.1 = .array
      ↔ e = (key, v) ∨ e ∈ condition ∧ r.level e.1 = .array := by
    intro e
    rw [List.mem_append, List.mem_singleton, or_and_right, or_comm]
    apply or_congr_left
    apply and_iff_left_of_imp
    rintro rfl
    exact hlevel
  have hothers : (∃ d ∈ condition ++ [(key, v)], r.level d.1 ≠ .array)
      ↔ ∃ d ∈ condition, r.level d.1 ≠ .array := by
    simp [or_and_right, exists_or, hlevel]
  constructor
  · apply Entries.nodup_keys_insert h.nodup
  · intro e
    rw [Entries.mem_insert_iff h.nodup, and_iff_left_of_imp (hne e), h.mem_whole_iff e, hwhole,
      hothers, or_assoc]
  · apply h.element.extend hnew
    rw [elementPart_of_array hlevel]
    apply Entries.extends_nil

/-- The place for the condition on elements is kept for an entry that does not apply to the array. -/
theorem Sorts.reserve (h : c.Sorts r condition) {e : String × Value} (hlevel : r.level e.1 ≠ .array)
    {element : Entries} (helement : Gathers r (condition ++ [e]) element) :
  Sorts r (condition ++ [e]) (ArrayCondition.reserve { c with element := element })
  := by
  have hothers : ∃ d ∈ condition ++ [e], r.level d.1 ≠ .array :=
    ⟨e, List.mem_append_right _ (List.mem_singleton_self e), hlevel⟩
  have hwhole : ∀ d, d ∈ condition ++ [e] ∧ r.level d.1 = .array
      ↔ d ∈ condition ∧ r.level d.1 = .array := by
    intro d
    apply and_congr_left
    intro hd
    rw [List.mem_append, List.mem_singleton, or_iff_left]
    rintro rfl
    exact hlevel hd
  rw [ArrayCondition.reserve]
  split
  · rename_i hhas
    refine ⟨h.nodup, ?_, helement⟩
    intro d
    rw [h.mem_whole_iff d, hwhole, and_iff_left hothers, and_iff_left (h.has_iff.mp hhas)]
  · rename_i hhas
    have hnone : ∀ d, d ∈ c.whole → d.1 ≠ "$elemMatch" := by
      intro d hd hkey
      apply hhas (Entries.has_iff_mem_keys.mpr _)
      rw [← hkey]
      apply List.mem_map_of_mem hd
    refine ⟨Entries.nodup_keys_insert h.nodup _ _, ?_, helement⟩
    intro d
    rw [Entries.mem_insert_iff h.nodup, and_iff_left_of_imp (hnone d), h.mem_whole_iff d, hwhole,
      and_iff_left hothers]
    constructor
    · rintro (rfl | hd | ⟨rfl, -⟩)
      · exact .inr rfl
      · exact .inl hd
      · exact .inr rfl
    · rintro (hd | rfl)
      · exact .inr (.inl hd)
      · exact .inl rfl

/-- Sorting an entry under a new key. -/
theorem Sorts.add (h : c.Sorts r condition) {key : String} {v : Value}
    (hnew : key ∉ condition.keys) {c' : ArrayCondition} (hc : c.add r key v = .ok c') :
  c'.Sorts r (condition ++ [(key, v)])
  := by
  obtain ⟨hlevel, rfl⟩ | ⟨body, rfl, rfl, rfl⟩ | ⟨hlevel, rfl⟩ := add_cases hc
  · apply h.insert_whole hnew hlevel
  · apply h.reserve
    · rw [r.level_elemMatch]
      exact Level.noConfusion
    · apply h.element.extend hnew
      rw [elementPart_elemMatch]
      apply Entries.extends_merge
  · apply h.reserve
    · rw [hlevel]
      exact Level.noConfusion
    · apply h.element.extend hnew
      rw [elementPart_of_element hlevel]
      apply Entries.extends_insert

/-- Sorting several entries under new keys. -/
theorem Sorts.addAll (h : c.Sorts r condition) {entries : Entries}
    (hkeys : (condition ++ entries).keys.Nodup) {c' : ArrayCondition}
    (hc : c.addAll r entries = .ok c') :
  c'.Sorts r (condition ++ entries)
  := by
  induction entries generalizing c condition with
  | nil =>
    cases hc
    rw [List.append_nil]
    exact h
  | cons d rest ih =>
    obtain ⟨key, v⟩ := d
    obtain ⟨c₁, hadd, hc⟩ := bind_eq_ok_iff.mp hc
    have hnew : key ∉ condition.keys := by
      rw [Entries.keys, List.map_append, List.nodup_append] at hkeys
      exact fun hmem => hkeys.2.2 key hmem key List.mem_cons_self rfl
    rw [List.append_cons] at hkeys ⊢
    apply ih (h.add hnew hadd) hkeys hc

end ArrayCondition

/-- On an array a condition with distinct keys becomes the entries that apply to the array and, if there
are others, a condition on elements, in which these are gathered. -/
theorem exists_gathers_arrayCondition {r : Registry} {condition whole : Entries}
    (hkeys : condition.keys.Nodup) (h : arrayCondition r condition = .ok whole) :
  ∃ element, Gathers r condition element
    ∧ ∀ e, e ∈ whole ↔ e ∈ condition ∧ r.level e.1 = .array
      ∨ e = ("$elemMatch", .map element) ∧ ∃ d ∈ condition, r.level d.1 ≠ .array
  := by
  obtain ⟨c, hc, rfl⟩ := map_eq_ok_iff.mp h
  have hnew : ArrayCondition.Sorts r [] ⟨[], []⟩ :=
    ⟨List.nodup_nil, by simp, List.nodup_nil, by simp [Entries.keys], by simp⟩
  have hsorts := hnew.addAll hkeys hc
  rw [List.nil_append] at hsorts
  refine ⟨c.element, hsorts.element, ?_⟩
  intro e
  rw [ArrayCondition.entries]
  split
  · rename_i hhas
    have hothers := hsorts.has_iff.mp hhas
    rw [Entries.mem_insert_iff hsorts.nodup, hsorts.mem_whole_iff, and_iff_left hothers,
      and_iff_left hothers]
    constructor
    · rintro (rfl | ⟨he | rfl, hne⟩)
      · exact .inr rfl
      · exact .inl he
      · exact absurd rfl hne
    · rintro (⟨he, hlevel⟩ | rfl)
      · refine .inr ⟨.inl ⟨he, hlevel⟩, ?_⟩
        intro hkey
        rw [hkey, r.level_elemMatch] at hlevel
        cases hlevel
      · exact .inl rfl
  · rename_i hhas
    rw [hsorts.has_iff] at hhas
    rw [hsorts.mem_whole_iff]
    simp only [hhas, and_false]

end DocQuery
