import DocQuery.Matcher.Build
import Mathlib.Data.List.Forall2

/-!
# One step of building

`Built` says what one step of building makes of an operator and its argument, given how matchers
are made one step further down. Results about compiled matchers go through its cases.
-/

namespace DocQuery

/-! ### Results -/

theorem map_eq_ok_iff {ε α β : Type} {x : Except ε α} {f : α → β} {b : β} :
  x.map f = .ok b ↔ ∃ a, x = .ok a ∧ f a = b
  := by
  cases x <;> simp [Except.map]

theorem map_eq_error_iff {ε α β : Type} {x : Except ε α} {f : α → β} {e : ε} :
  x.map f = .error e ↔ x = .error e
  := by
  cases x <;> simp [Except.map]

theorem bind_eq_ok_iff {ε α β : Type} {x : Except ε α} {f : α → Except ε β} {b : β} :
  x >>= f = .ok b ↔ ∃ a, x = .ok a ∧ f a = .ok b
  := by
  cases x <;> simp [bind, Except.bind]

/-- Making a list of things succeeds when each of them can be made. -/
theorem mapM_eq_ok_iff {ε α β : Type} {f : α → Except ε β} {xs : List α} {ys : List β} :
  xs.mapM f = .ok ys ↔ List.Forall₂ (fun x y => f x = .ok y) xs ys
  := by
  induction xs generalizing ys with
  | nil => simp [pure, Except.pure, eq_comm]
  | cons x xs ih =>
    rw [List.mapM_cons, bind_eq_ok_iff, List.forall₂_cons_left_iff]
    constructor
    · rintro ⟨y, hy, h⟩
      obtain ⟨zs, hzs, h⟩ := bind_eq_ok_iff.mp h
      cases h
      exact ⟨y, zs, hy, ih.mp hzs, rfl⟩
    · rintro ⟨y, zs, hy, hzs, rfl⟩
      exact ⟨y, hy, bind_eq_ok_iff.mpr ⟨zs, ih.mpr hzs, rfl⟩⟩

/-- What stands on the right of a related pair of lists is related to something on the left. -/
theorem exists_left_of_forall₂ {α β : Type} {R : α → β → Prop} {xs : List α} {ys : List β}
    (h : List.Forall₂ R xs ys) :
  ∀ y ∈ ys, ∃ x ∈ xs, R x y
  := by
  induction h with
  | nil => intro y hy; cases hy
  | cons hxy _ ih =>
    intro y hy
    obtain rfl | hy := List.mem_cons.mp hy
    · exact ⟨_, List.mem_cons_self, hxy⟩
    · obtain ⟨x, hx, hR⟩ := ih y hy
      exact ⟨x, List.mem_cons_of_mem _ hx, hR⟩

/-- What stands on the left of a related pair of lists is related to something on the right. -/
theorem exists_right_of_forall₂ {α β : Type} {R : α → β → Prop} {xs : List α} {ys : List β}
    (h : List.Forall₂ R xs ys) :
  ∀ x ∈ xs, ∃ y ∈ ys, R x y
  := exists_left_of_forall₂ h.flip

/-- What is related to a list of one thing is a list of one thing. -/
theorem exists_singleton_of_forall₂ {α β : Type} {R : α → β → Prop} {x : α} {ys : List β}
    (h : List.Forall₂ R [x] ys) :
  ∃ y, R x y ∧ ys = [y]
  := by
  obtain ⟨y, _, hy, hnil, rfl⟩ := List.forall₂_cons_left_iff.mp h
  cases hnil
  exact ⟨y, hy, rfl⟩

/-- When everything in a list is related to something, the list is related to a list. -/
theorem exists_forall₂ {α β : Type} {R : α → β → Prop} {xs : List α} (h : ∀ x ∈ xs, ∃ y, R x y) :
  ∃ ys, List.Forall₂ R xs ys
  := by
  induction xs with
  | nil => exact ⟨[], .nil⟩
  | cons x xs ih =>
    obtain ⟨⟨y, hy⟩, hxs⟩ := List.forall_mem_cons.mp h
    obtain ⟨ys, hys⟩ := ih hxs
    exact ⟨y :: ys, .cons hy hys⟩

/-! ### Groups -/

theorem distinctFrom_subset (seen : List String) (nodes : List Node) :
  ∀ n ∈ distinctFrom seen nodes, n ∈ nodes
  := by
  induction nodes generalizing seen with
  | nil => intro n hn; cases hn
  | cons m rest ih =>
    intro n hn
    rw [distinctFrom] at hn
    split at hn
    · apply List.mem_cons_of_mem m (ih seen n hn)
    · obtain rfl | hn := List.mem_cons.mp hn
      · apply List.mem_cons_self
      · apply List.mem_cons_of_mem m (ih _ n hn)

/-- No matcher is added when those with keys seen before are dropped. -/
theorem distinct_subset (nodes : List Node) :
  ∀ n ∈ distinct nodes, n ∈ nodes
  := distinctFrom_subset [] nodes

theorem exists_mem_distinctFrom (seen : List String) (nodes : List Node) :
  ∀ n ∈ nodes, n.key ∈ seen ∨ ∃ m ∈ distinctFrom seen nodes, m.key = n.key
  := by
  induction nodes generalizing seen with
  | nil => intro n hn; cases hn
  | cons m rest ih =>
    intro n hn
    rw [distinctFrom]
    split
    · rename_i hseen
      obtain rfl | hn := List.mem_cons.mp hn
      · exact .inl (List.contains_iff_mem.mp hseen)
      · apply ih seen n hn
    · obtain rfl | hn := List.mem_cons.mp hn
      · exact .inr ⟨n, List.mem_cons_self, rfl⟩
      · obtain hkey | ⟨k, hk, hkey⟩ := ih (m.key :: seen) n hn
        · obtain hkey | hkey := List.mem_cons.mp hkey
          · exact .inr ⟨m, List.mem_cons_self, hkey.symm⟩
          · exact .inl hkey
        · exact .inr ⟨k, List.mem_cons_of_mem m hk, hkey⟩

/-- A matcher of each key is kept. -/
theorem exists_mem_distinct (nodes : List Node) :
  ∀ n ∈ nodes, ∃ m ∈ distinct nodes, m.key = n.key
  := by
  intro n hn
  obtain h | h := exists_mem_distinctFrom [] nodes n hn
  · cases h
  · exact h

theorem distinctFrom_of_nodup {seen : List String} {nodes : List Node}
    (hseen : ∀ n ∈ nodes, n.key ∉ seen) (h : (nodes.map Node.key).Nodup) :
  distinctFrom seen nodes = nodes
  := by
  induction nodes generalizing seen with
  | nil => rfl
  | cons n rest ih =>
    obtain ⟨hn, hrest⟩ := List.forall_mem_cons.mp hseen
    obtain ⟨hnew, h⟩ := List.nodup_cons.mp h
    rw [distinctFrom, if_neg (by simpa using hn), ih _ h]
    intro m hm
    rw [List.mem_cons, not_or]
    exact ⟨fun hkey => hnew (hkey ▸ List.mem_map_of_mem hm), hrest m hm⟩

/-- Of matchers with different keys none is dropped. -/
theorem distinct_of_nodup {nodes : List Node} (h : (nodes.map Node.key).Nodup) :
  distinct nodes = nodes
  := distinctFrom_of_nodup (fun _ _ => List.not_mem_nil) h

theorem nodup_distinctFrom (seen : List String) (nodes : List Node) :
  (∀ n ∈ distinctFrom seen nodes, n.key ∉ seen) ∧ ((distinctFrom seen nodes).map Node.key).Nodup
  := by
  induction nodes generalizing seen with
  | nil => exact ⟨fun n hn => absurd hn List.not_mem_nil, List.nodup_nil⟩
  | cons m rest ih =>
    rw [distinctFrom]
    split
    · apply ih
    · rename_i hseen
      obtain ⟨hnew, hnodup⟩ := ih (m.key :: seen)
      have hkept : ∀ n ∈ distinctFrom (m.key :: seen) rest, n.key ≠ m.key ∧ n.key ∉ seen := by
        intro n hn
        rw [← not_or, ← List.mem_cons]
        apply hnew n hn
      constructor
      · apply List.forall_mem_cons.mpr ⟨by simpa using hseen, fun n hn => (hkept n hn).2⟩
      · refine List.nodup_cons.mpr ⟨?_, hnodup⟩
        rw [List.mem_map]
        rintro ⟨n, hn, hkey⟩
        apply (hkept n hn).1 hkey

/-- The matchers that are kept have different keys. -/
theorem nodup_distinct (nodes : List Node) :
  ((distinct nodes).map Node.key).Nodup
  := (nodup_distinctFrom [] nodes).2

/-- One matcher is left alone, and any other number of them makes a group. -/
theorem unwrap_cases (nodes : List Node) (wrap : List Node → Node) :
  (∃ n ∈ nodes, unwrap nodes wrap = n) ∨ nodes.length ≠ 1 ∧ unwrap nodes wrap = wrap nodes
  := by
  unfold unwrap
  split
  · rename_i n
    exact .inl ⟨n, List.mem_singleton_self n, rfl⟩
  · rename_i hne
    right
    refine ⟨fun hlength => ?_, rfl⟩
    obtain ⟨n, hn⟩ := List.length_eq_one_iff.mp hlength
    exact hne n hn

/-- What holds of the matchers of a group and of the group itself holds of what becomes of it. -/
theorem unwrap_distinct {P : Node → Prop} {nodes : List Node} {wrap : List Node → Node}
    (hnodes : ∀ n ∈ nodes, P n) (hwrap : P (wrap (distinct nodes))) :
  P (unwrap (distinct nodes) wrap)
  := by
  obtain ⟨n, hn, heq⟩ | ⟨-, heq⟩ := unwrap_cases (distinct nodes) wrap
  · rw [heq]
    apply hnodes n (distinct_subset nodes n hn)
  · rw [heq]
    exact hwrap

/-! ### Literal arguments -/

/-- The operator with an argument that a literal argument stands for on a record that is no
array. -/
def directCall : Value → Operator × Value
  | .map entries => (.condition, .map entries)
  | .regex p => (.regex, .regex p)
  | .null => (.disjunction, absentOrNull)
  | argument => (.compare .equal, argument)

theorem directNode_eq (make : Maker) (argument : Value) :
  directNode make argument = make (directCall argument).1 (directCall argument).2
  := by
  cases argument <;> rfl

/-- The operators with arguments of which one has to hold for an array, given a literal
argument. -/
def arrayCalls (r : Registry) : Value → Except CompileError (List (Operator × Value))
  | .map entries => (arrayCondition r entries).map fun condition => [(.condition, .map condition)]
  | .regex p => .ok [(.elements .any, .map [("$regex", .regex p)])]
  | .array items =>
    .ok [(.compare .equal, .array items), (.elements .any, .map [("$eq", .array items)])]
  | argument => .ok [(.elements .any, .map [("$eq", argument)])]

theorem arrayNodes_eq (r : Registry) (make : Maker) (argument : Value) :
  arrayNodes r make argument
    = (arrayCalls r argument).bind fun calls => calls.mapM fun (operator, v) => make operator v
  := by
  cases argument with
  | map entries =>
    rw [arrayNodes, arrayCalls]
    cases arrayCondition r entries <;> rfl
  | _ => rfl

/-! ### One step -/

/-- An operator makes a matcher of its argument that has no matchers below it. -/
inductive Operator.Makes : Operator → Value → Leaf → Prop
  | compare (c : Comparison) (argument : Value) : Makes (.compare c) argument (.compare c argument)
  | existence (b : Bool) : Makes .existence (.bool b) (.existence b)
  | presence (b : Bool) : Makes .presence (.bool b) (.presence b)
  | regex {argument : Value} {p : Pattern} (h : patternArgument argument = .ok p) :
    Makes .regex argument (.regex p)
  | member (negated : Bool) (items : List Value) :
    Makes (.member negated) (.array items) (.member negated items)
  | probe {e : Extension} {argument : Value} {p : Probe} (h : e.build argument = .ok p) :
    Makes (.extension e) argument (.probe p)

/-- The condition that a membership test of a range stands for. -/
def bounds (negated : Bool) (start stop : Option Value) (exclusive : Bool) : Value :=
  if negated then outsideRange start stop exclusive else insideRange start stop exclusive

/-- The operators that take their argument literally. -/
inductive Role.Of : Operator → Role → Prop
  | literal : Of .literal .whole
  | negation : Of .negation .negation
  | size : Of .size .size

/-- What one step of building makes of an operator and its argument, where `make` makes the
matchers one step further down. -/
inductive Built (r : Registry) (make : Maker) : Operator → Value → Node → Prop
  | leaf {operator : Operator} {argument : Value} {l : Leaf} (h : operator.Makes argument l) :
    Built r make operator argument (.leaf l)
  | within {negated : Bool} {start stop : Option Value} {exclusive : Bool} {n : Node}
      (h : make .condition (bounds negated start stop exclusive) = .ok n) :
    Built r make (.member negated) (.range start stop exclusive)
      (.within negated (.range start stop exclusive) n)
  | elements {quantifier : Quantifier} {entries : Entries} {n : Node}
      (h : make .condition (.map entries) = .ok n) :
    Built r make (.elements quantifier) (.map entries) (.elements quantifier (.map entries) n)
  | literal {operator : Operator} {role : Role} {argument : Value} {n : Node}
      (hrole : Role.Of operator role) (h : directNode make argument = .ok n) :
    Built r make operator argument (.literal role argument n .unbuilt)
  | condition {entries : Entries} {nodes : List Node}
      (h : List.Forall₂ (fun e n => entryNode r make e.1 e.2 = .ok n) entries nodes) :
    Built r make .condition (.map entries)
      (unwrap (distinct nodes) (.group .condition (.map entries)))
  | conjunction {items : List Value} {nodes : List (List Node)} (hitems : ∀ v ∈ items, v.isMap)
      (h : List.Forall₂ (fun v ns => entryNodes r make v = .ok ns) items nodes) :
    Built r make .conjunction (.array items)
      (unwrap (distinct nodes.flatten) (.group .conjunction (.array items)))
  | disjunction {items : List Value} {nodes : List Node} (hitems : ∀ v ∈ items, v.isMap)
      (h : List.Forall₂ (fun v n => make .condition v = .ok n) items nodes) :
    Built r make .disjunction (.array items)
      (unwrap (distinct nodes) (.group .disjunction (.array items)))
  | arrayRecord {argument : Value} {calls : List (Operator × Value)} {nodes : List Node}
      (hcalls : arrayCalls r argument = .ok calls)
      (h : List.Forall₂ (fun c n => make c.1 c.2 = .ok n) calls nodes) :
    Built r make .arrayRecord argument
      (unwrap (distinct nodes) (.group .arrayRecord argument))

theorem branches_eq_ok_iff {operator : String} {argument : Value} {items : List Value} :
  branches operator argument = .ok items
    ↔ argument = .array items ∧ ∀ v ∈ items, v.isMap
  := by
  unfold branches
  split
  · rename_i vs
    split
    · rename_i bad hbad
      have hmem := List.mem_of_find?_eq_some hbad
      have hno := List.find?_some hbad
      constructor
      · intro h
        cases h
      · rintro ⟨h, hmaps⟩
        cases h
        simp [hmaps bad hmem] at hno
    · rename_i hall
      rw [List.find?_eq_none] at hall
      constructor
      · intro h
        cases h
        exact ⟨rfl, fun v hv => by simpa using hall v hv⟩
      · rintro ⟨h, -⟩
        cases h
        rfl
  · rename_i hne
    constructor
    · intro h
      cases h
    · rintro ⟨rfl, -⟩
      exact absurd rfl (hne items)

theorem entryNodes_eq_ok_iff {r : Registry} {make : Maker} {v : Value} {ns : List Node} :
  entryNodes r make v = .ok ns
    ↔ ∃ entries nodes, v = .map entries ∧ ns = distinct nodes
      ∧ List.Forall₂ (fun e n => entryNode r make e.1 e.2 = .ok n) entries nodes
  := by
  cases v with
  | map entries =>
    rw [entryNodes, map_eq_ok_iff]
    constructor
    · rintro ⟨nodes, h, rfl⟩
      exact ⟨entries, nodes, rfl, rfl, mapM_eq_ok_iff.mp h⟩
    · rintro ⟨_, nodes, ⟨⟩, rfl, h⟩
      exact ⟨nodes, mapM_eq_ok_iff.mpr h, rfl⟩
  | _ =>
    constructor
    · intro h
      cases h
    · rintro ⟨_, _, ⟨⟩, _⟩

/-- Building succeeds only with what one step makes of matchers that are built with one step
less. -/
theorem built_of_build {r : Registry} {fuel : Nat} {operator : Operator} {argument : Value}
    {n : Node} (h : build r (fuel + 1) operator argument = .ok n) :
  Built r (build r fuel) operator argument n
  := by
  cases operator with
  | compare c =>
    cases h
    exact .leaf (.compare c argument)
  | existence =>
    cases argument with
    | bool b =>
      cases h
      exact .leaf (.existence b)
    | _ => cases h
  | presence =>
    cases argument with
    | bool b =>
      cases h
      exact .leaf (.presence b)
    | _ => cases h
  | regex =>
    obtain ⟨p, hp, rfl⟩ := map_eq_ok_iff.mp h
    exact .leaf (.regex hp)
  | member negated =>
    cases argument with
    | array items =>
      cases h
      exact .leaf (.member negated items)
    | range start stop exclusive =>
      obtain ⟨m, hm, rfl⟩ := map_eq_ok_iff.mp h
      exact .within hm
    | _ => cases h
  | conjunction =>
    obtain ⟨items, hitems, h⟩ := bind_eq_ok_iff.mp h
    obtain ⟨rfl, hmaps⟩ := branches_eq_ok_iff.mp hitems
    obtain ⟨nodes, hnodes, h⟩ := bind_eq_ok_iff.mp h
    cases h
    exact .conjunction hmaps (mapM_eq_ok_iff.mp hnodes)
  | disjunction =>
    obtain ⟨items, hitems, h⟩ := bind_eq_ok_iff.mp h
    obtain ⟨rfl, hmaps⟩ := branches_eq_ok_iff.mp hitems
    obtain ⟨nodes, hnodes, h⟩ := bind_eq_ok_iff.mp h
    cases h
    exact .disjunction hmaps (mapM_eq_ok_iff.mp hnodes)
  | negation =>
    obtain ⟨m, hm, rfl⟩ := map_eq_ok_iff.mp h
    exact .literal .negation hm
  | elements quantifier =>
    cases argument with
    | map entries =>
      obtain ⟨m, hm, rfl⟩ := map_eq_ok_iff.mp h
      exact .elements hm
    | _ => cases h
  | size =>
    obtain ⟨m, hm, rfl⟩ := map_eq_ok_iff.mp h
    exact .literal .size hm
  | condition =>
    obtain ⟨ns, hns, h⟩ := bind_eq_ok_iff.mp h
    obtain ⟨entries, nodes, rfl, rfl, hnodes⟩ := entryNodes_eq_ok_iff.mp hns
    cases h
    exact .condition hnodes
  | arrayRecord =>
    obtain ⟨nodes, hnodes, h⟩ := bind_eq_ok_iff.mp h
    rw [arrayNodes_eq] at hnodes
    obtain ⟨calls, hcalls, hnodes⟩ := bind_eq_ok_iff.mp hnodes
    cases h
    exact .arrayRecord hcalls (mapM_eq_ok_iff.mp hnodes)
  | literal =>
    obtain ⟨m, hm, rfl⟩ := map_eq_ok_iff.mp h
    exact .literal .literal hm
  | extension e =>
    obtain ⟨p, hp, rfl⟩ := map_eq_ok_iff.mp h
    exact .leaf (.probe hp)

/-- What one step makes of matchers that are built with one step less is what building gives. -/
theorem build_of_built {r : Registry} {fuel : Nat} {operator : Operator} {argument : Value}
    {n : Node} (h : Built r (build r fuel) operator argument n) :
  build r (fuel + 1) operator argument = .ok n
  := by
  cases h with
  | leaf h =>
    cases h with
    | compare | existence | presence | member => rfl
    | regex hp => exact map_eq_ok_iff.mpr ⟨_, hp, rfl⟩
    | probe hp => exact map_eq_ok_iff.mpr ⟨_, hp, rfl⟩
  | within h => exact map_eq_ok_iff.mpr ⟨_, h, rfl⟩
  | elements h => exact map_eq_ok_iff.mpr ⟨_, h, rfl⟩
  | literal hrole h => cases hrole <;> exact map_eq_ok_iff.mpr ⟨_, h, rfl⟩
  | condition h =>
    apply bind_eq_ok_iff.mpr
    exact ⟨_, entryNodes_eq_ok_iff.mpr ⟨_, _, rfl, rfl, h⟩, rfl⟩
  | conjunction hitems h =>
    apply bind_eq_ok_iff.mpr ⟨_, branches_eq_ok_iff.mpr ⟨rfl, hitems⟩, _⟩
    exact bind_eq_ok_iff.mpr ⟨_, mapM_eq_ok_iff.mpr h, rfl⟩
  | disjunction hitems h =>
    apply bind_eq_ok_iff.mpr ⟨_, branches_eq_ok_iff.mpr ⟨rfl, hitems⟩, _⟩
    exact bind_eq_ok_iff.mpr ⟨_, mapM_eq_ok_iff.mpr h, rfl⟩
  | @arrayRecord _ calls nodes hcalls h =>
    have hnodes : arrayNodes r (build r fuel) argument = .ok nodes := by
      rw [arrayNodes_eq]
      apply bind_eq_ok_iff.mpr ⟨calls, hcalls, mapM_eq_ok_iff.mpr h⟩
    exact bind_eq_ok_iff.mpr ⟨nodes, hnodes, rfl⟩

/-- A literal argument is built of the matcher for records that are no arrays. -/
theorem build_literal {r : Registry} {fuel : Nat} {v : Value} {n : Node}
    (h : build r fuel (directCall v).1 (directCall v).2 = .ok n) :
  build r (fuel + 1) .literal v = .ok (.literal .whole v n .unbuilt)
  := by
  apply build_of_built
  apply Built.literal .literal
  rwa [directNode_eq]

/-! ### Single operators -/

/-- A condition is a map, and its matcher groups those of its entries. -/
theorem entries_of_build {r : Registry} {fuel : Nat} {v : Value} {n : Node}
    (h : build r fuel .condition v = .ok n) :
  ∃ entries nodes, v = .map entries
    ∧ List.Forall₂ (fun e n => entryNode r (build r (fuel - 1)) e.1 e.2 = .ok n) entries nodes
    ∧ n = unwrap (distinct nodes) (.group .condition v)
  := by
  cases fuel with
  | zero => cases h
  | succ fuel =>
    have hbuilt := built_of_build h
    clear h
    cases hbuilt with
    | leaf h => cases h
    | literal hrole => cases hrole
    | condition h => exact ⟨_, _, rfl, h, rfl⟩

/-- The matcher of a condition with one entry is that of the entry. -/
theorem entry_of_build {r : Registry} {fuel : Nat} {key : String} {v : Value} {n : Node}
    (h : build r fuel .condition (.map [(key, v)]) = .ok n) :
  entryNode r (build r (fuel - 1)) key v = .ok n
  := by
  obtain ⟨_, _, ⟨⟩, hnodes, rfl⟩ := entries_of_build h
  obtain ⟨n, hn, rfl⟩ := exists_singleton_of_forall₂ hnodes
  exact hn

/-- A test of elements has a condition on them. -/
theorem inner_of_build {r : Registry} {fuel : Nat} {quantifier : Quantifier} {v : Value} {n : Node}
    (h : build r fuel (.elements quantifier) v = .ok n) :
  ∃ m, build r (fuel - 1) .condition v = .ok m ∧ n = .elements quantifier v m ∧ v.isMap
  := by
  cases fuel with
  | zero => cases h
  | succ fuel =>
    have hbuilt := built_of_build h
    clear h
    cases hbuilt with
    | leaf h => cases h
    | literal hrole => cases hrole
    | elements h => exact ⟨_, h, rfl, rfl⟩

/-- The branches of a disjunction are conditions. -/
theorem branches_of_build {r : Registry} {fuel : Nat} {v : Value} {n : Node}
    (h : build r fuel .disjunction v = .ok n) :
  ∃ items nodes, v = .array items
    ∧ List.Forall₂ (fun w n => build r (fuel - 1) .condition w = .ok n) items nodes
    ∧ n = unwrap (distinct nodes) (.group .disjunction v)
  := by
  cases fuel with
  | zero => cases h
  | succ fuel =>
    have hbuilt := built_of_build h
    clear h
    cases hbuilt with
    | leaf h => cases h
    | literal hrole => cases hrole
    | disjunction _ h => exact ⟨_, _, rfl, h, rfl⟩

/-- The form of a literal argument for arrays groups the ways in which it can hold for them. -/
theorem calls_of_build {r : Registry} {fuel : Nat} {v : Value} {n : Node}
    (h : build r fuel .arrayRecord v = .ok n) :
  ∃ calls nodes, arrayCalls r v = .ok calls
    ∧ List.Forall₂ (fun c n => build r (fuel - 1) c.1 c.2 = .ok n) calls nodes
    ∧ n = unwrap (distinct nodes) (.group .arrayRecord v)
  := by
  cases fuel with
  | zero => cases h
  | succ fuel =>
    have hbuilt := built_of_build h
    clear h
    cases hbuilt with
    | leaf h => cases h
    | literal hrole => cases hrole
    | arrayRecord hcalls h => exact ⟨_, _, hcalls, h, rfl⟩

/-! ### Entries -/

/-- The operator that an entry of a condition stands for. A key that is no operator takes its value
literally. -/
def Registry.operatorFor (r : Registry) (key : String) : Operator :=
  match r.lookup? key with
  | some e => e.operator
  | none => .literal

theorem Registry.operatorFor_of_lookup {r : Registry} {key : String} {e : RegistryEntry}
    (h : r.lookup? key = some e) :
  r.operatorFor key = e.operator
  := by
  rw [operatorFor, h]

theorem Registry.operatorFor_of_none {r : Registry} {key : String} (h : r.lookup? key = none) :
  r.operatorFor key = .literal
  := by
  rw [operatorFor, h]

theorem Registry.lookup?_eq_none_of_has {r : Registry} {key : String} (h : r.has key = false) :
  r.lookup? key = none
  := by
  rw [← Option.not_isSome_iff_eq_none, Bool.not_eq_true]
  exact h

/-- The matcher for an entry is that of its operator, or a field with a literal argument. -/
theorem entryNode_eq_ok_iff {r : Registry} {make : Maker} {key : String} {v : Value} {n : Node} :
  entryNode r make key v = .ok n
    ↔ (∃ e, r.lookup? key = some e ∧ make e.operator v = .ok n)
      ∨ r.lookup? key = none
        ∧ ∃ m, make (directCall v).1 (directCall v).2 = .ok m ∧ n = .literal (.field key) v m .unbuilt
  := by
  rw [entryNode]
  cases r.lookup? key with
  | some e => simp
  | none =>
    simp only [literalNode, directNode_eq]
    rw [map_eq_ok_iff]
    simp [eq_comm]

/-- The matcher for an entry that stands for another operator is that of the operator. -/
theorem entryNode_of_operatorFor {r : Registry} {make : Maker} {key : String} {operator : Operator}
    (hkey : r.operatorFor key = operator) (hne : operator ≠ .literal) (v : Value) :
  entryNode r make key v = make operator v
  := by
  rw [entryNode]
  cases h : r.lookup? key with
  | some e => rw [← hkey, Registry.operatorFor_of_lookup h]
  | none => exact absurd ((Registry.operatorFor_of_none h).symm.trans hkey) hne.symm

theorem build_of_entryNode {r : Registry} {make : Maker} {key : String} {operator : Operator}
    (hkey : r.operatorFor key = operator) (hne : operator ≠ .literal) {v : Value} {n : Node}
    (h : entryNode r make key v = .ok n) :
  make operator v = .ok n
  := by
  rwa [entryNode_of_operatorFor hkey hne] at h

/-- What matchers without matchers below them have, and every matcher has whose children have it,
built matchers have. -/
theorem build_forall {r : Registry} {P : Node → Prop} (leaf : ∀ l, P (.leaf l))
    (within : ∀ negated argument n, P n → P (.within negated argument n))
    (elements : ∀ quantifier argument n, P n → P (.elements quantifier argument n))
    (group : ∀ grouping argument nodes, (∀ n ∈ nodes, P n) → P (.group grouping argument nodes))
    (literal : ∀ role argument n, P n → P (.literal role argument n .unbuilt)) {fuel : Nat}
    {operator : Operator} {argument : Value} {n : Node}
    (h : build r fuel operator argument = .ok n) :
  P n
  := by
  induction fuel generalizing operator argument n with
  | zero => cases h
  | succ fuel ih =>
    have hentry : ∀ {entries : Entries} {nodes : List Node},
        List.Forall₂ (fun e n => entryNode r (build r fuel) e.1 e.2 = .ok n) entries nodes →
        ∀ n ∈ nodes, P n := by
      intro entries nodes h n hn
      obtain ⟨e, -, he⟩ := exists_left_of_forall₂ h n hn
      obtain ⟨_, -, he⟩ | ⟨-, m, hm, rfl⟩ := entryNode_eq_ok_iff.mp he
      · apply ih he
      · apply literal _ _ _ (ih hm)
    have hgroup : ∀ {grouping : Grouping} {argument : Value} {nodes : List Node},
        (∀ n ∈ nodes, P n) → P (unwrap (distinct nodes) (.group grouping argument)) :=
      fun h => unwrap_distinct h (group _ _ _ fun n hn => h n (distinct_subset _ n hn))
    have hbuilt := built_of_build h
    clear h
    cases hbuilt with
    | leaf => apply leaf
    | within h => exact within _ _ _ (ih h)
    | elements h => exact elements _ _ _ (ih h)
    | literal _ h =>
      rw [directNode_eq] at h
      apply literal _ _ _ (ih h)
    | condition h => exact hgroup (hentry h)
    | conjunction _ h =>
      apply hgroup
      intro n hn
      obtain ⟨ns, hns, hn⟩ := List.mem_flatten.mp hn
      obtain ⟨v, -, hv⟩ := exists_left_of_forall₂ h ns hns
      obtain ⟨entries, nodes, -, rfl, h⟩ := entryNodes_eq_ok_iff.mp hv
      apply hentry h n (distinct_subset nodes n hn)
    | disjunction _ h =>
      apply hgroup
      intro n hn
      obtain ⟨v, -, hv⟩ := exists_left_of_forall₂ h n hn
      apply ih hv
    | arrayRecord _ h =>
      apply hgroup
      intro n hn
      obtain ⟨c, -, hc⟩ := exists_left_of_forall₂ h n hn
      apply ih hc

end DocQuery
