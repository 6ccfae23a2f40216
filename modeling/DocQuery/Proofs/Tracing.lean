import DocQuery.Proofs.Sessions

/-!
# Tracing

Whatever is evaluated with a trace, the scopes that it opens make up a forest: those that are opened inside
a scope are below it, in the order in which they are opened. The trace has the entries of the forest with the
lower ones first, each at its depth, and display order has the same entries with the upper ones first. The
trace of a query is a single tree, in which every matcher that groups others has all of them below it.
-/

namespace DocQuery

/-! ### Display order -/

namespace Visit

mutual

/-- The entries of a visit in display order. -/
def displayed (level : Nat) : Visit → List TraceEntry
  | node title record outcome below =>
    ⟨level, title, record, outcome⟩ :: displayedOfAll (level + 1) below

/-- The entries of several visits in display order, one after the other. -/
def displayedOfAll (level : Nat) : List Visit → List TraceEntry
  | [] => []
  | v :: rest => v.displayed level ++ displayedOfAll level rest

end

mutual

/-- No entry of a visit is above the visit. -/
theorem le_level_of_mem_entries :
  ∀ (level : Nat) (v : Visit), ∀ e ∈ v.entries level, level ≤ e.level
  | level, node title record outcome below, e, he => by
    rw [entries] at he
    obtain he | he := List.mem_append.mp he
    · exact Nat.le_of_succ_le (le_level_of_mem_entriesOfAll (level + 1) below e he)
    · exact Nat.le_of_eq (congrArg TraceEntry.level (List.mem_singleton.mp he)).symm

theorem le_level_of_mem_entriesOfAll :
  ∀ (level : Nat) (visits : List Visit), ∀ e ∈ entriesOfAll level visits, level ≤ e.level
  | level, [], e, he => by cases he
  | level, v :: rest, e, he => by
    rw [entriesOfAll] at he
    obtain he | he := List.mem_append.mp he
    · exact le_level_of_mem_entries level v e he
    · exact le_level_of_mem_entriesOfAll level rest e he

end

mutual

/-- Display order has every entry once. -/
theorem displayed_perm :
  ∀ (level : Nat) (v : Visit), (v.displayed level).Perm (v.entries level)
  | level, node title record outcome below => by
    rw [displayed, entries]
    apply ((displayedOfAll_perm (level + 1) below).cons _).trans
    apply (List.perm_append_singleton _ _).symm

theorem displayedOfAll_perm :
  ∀ (level : Nat) (visits : List Visit),
    (displayedOfAll level visits).Perm (entriesOfAll level visits)
  | level, [] => .nil
  | level, v :: rest => by
    rw [displayedOfAll, entriesOfAll]
    apply (displayed_perm level v).append (displayedOfAll_perm level rest)

end

end Visit

/-- An entry of a level comes before the deeper ones that precede it, and these are put in order among
themselves. -/
theorem reorder_append_cons {level : Nat} {inner : List TraceEntry} (hinner : ∀ x ∈ inner, level < x.level)
    {e : TraceEntry} (he : e.level = level) (rest : List TraceEntry) :
  reorder level (inner ++ e :: rest) = e :: reorder (level + 1) inner ++ reorder level rest
  := by
  have hdeeper : ∀ x ∈ inner, (x.level != level) = true := by
    intro x hx
    exact bne_iff_ne.mpr (Nat.ne_of_gt (hinner x hx))
  have hdrop : (inner ++ e :: rest).dropWhile (fun x => x.level != level) = e :: rest := by
    rw [List.dropWhile_append_of_pos hdeeper, List.dropWhile_cons_of_neg (by simp [he])]
  have htake : (inner ++ e :: rest).takeWhile (fun x => x.level != level) = inner := by
    rw [List.takeWhile_append_of_pos hdeeper, List.takeWhile_cons_of_neg (by simp [he]),
      List.append_nil]
  rw [reorder]
  split
  · rename_i h
    cases hdrop.symm.trans h
  · rename_i h
    cases hdrop.symm.trans h
    simp only [htake]

/-- Putting the entries of visits in order brings them into display order. -/
theorem reorder_entriesOfAll :
  ∀ (level : Nat) (visits : List Visit),
    reorder level (Visit.entriesOfAll level visits) = Visit.displayedOfAll level visits
  | level, [] => by
    rw [Visit.entriesOfAll, Visit.displayedOfAll, reorder]
    rfl
  | level, .node title record outcome below :: rest => by
    rw [Visit.entriesOfAll, Visit.entries, List.append_assoc, List.singleton_append,
      reorder_append_cons (Visit.le_level_of_mem_entriesOfAll (level + 1) below) rfl,
      reorder_entriesOfAll (level + 1) below, reorder_entriesOfAll level rest, Visit.displayedOfAll,
      Visit.displayed]

/-! ### Scopes -/

/-- What may be done with a trace: a scope is opened, something is done in it, and what is done next may
depend on what it came to, until an outcome is there. -/
inductive Routine
  | done (outcome : Outcome)
  | scope (title : String) (record : Value) (body : Routine) (next : Outcome → Routine)

namespace Routine

/-- Does it with a trace. -/
def run : Routine → Trace → Except Abort (Outcome × Unit × Trace)
  | done outcome => fun t => .ok (outcome, (), t)
  | scope title record body next => fun t => do
    let (outcome, _, t) ← t.scope title record body.run
    (next outcome).run t

/-- What it comes to. -/
def outcome : Routine → Outcome
  | done outcome => outcome
  | scope _ _ body next => (next body.outcome).outcome

/-- The forest of the scopes that are opened. -/
def visits : Routine → List Visit
  | done _ => []
  | scope title record body next =>
    .node title record.text body.outcome body.visits :: (next body.outcome).visits

/-- All scopes are recorded, whatever is done in them. -/
theorem run_eq (routine : Routine) (t : Trace) :
  routine.run t = .ok (routine.outcome, (), t.after routine.visits)
  := by
  induction routine generalizing t with
  | done outcome => rfl
  | scope title record body next ihBody ihNext =>
    have hscope : t.scope title record body.run
        = .ok (body.outcome, (), t.after [.node title record.text body.outcome body.visits]) := by
      rw [Trace.scope, ihBody, Trace.after, Trace.after, Visit.entriesOfAll_singleton, Visit.entries,
        List.reverse_append]
      rfl
    rw [run, visits, Trace.after_cons, outcome, ← ihNext]
    beta_reduce
    rw [hscope]
    rfl

end Routine

/-- A new trace with visits has their entries, and reordering it brings them into display order. -/
theorem Trace.entries_after (visits : List Visit) :
  (new.after visits).entries = Visit.entriesOfAll 0 visits
    ∧ (new.after visits).reordered = Visit.displayedOfAll 0 visits
  := by
  have hentries : (new.after visits).entries = Visit.entriesOfAll 0 visits := by
    rw [entries, after, new, List.append_nil, List.reverse_reverse]
  refine ⟨hentries, ?_⟩
  rw [reordered, hentries, reorder_entriesOfAll]

/-! ### Trees of matchers -/

/-- The visit is one of the matcher. Inside it are visits of the matchers below: of all children of a group
in turn, of the same matcher for some elements of an array, or of the form that fits the record. -/
inductive Node.Shows (r : Registry) : Node → Visit → Prop
  | leaf {l : Leaf} {record : String} {outcome : Outcome} :
    Shows r (.leaf l) (.node l.title record outcome [])
  | within {negated : Bool} {argument : Value} {bounds : Node} {record : String} {outcome : Outcome}
      {below : List Visit} (h : ∀ v ∈ below, Shows r bounds v) :
    Shows r (.within negated argument bounds)
      (.node (Node.within negated argument bounds).title record outcome below)
  | elements {quantifier : Quantifier} {argument : Value} {inner : Node} {record : String}
      {outcome : Outcome} {below : List Visit} (h : ∀ v ∈ below, Shows r inner v) :
    Shows r (.elements quantifier argument inner)
      (.node (Node.elements quantifier argument inner).title record outcome below)
  | group {grouping : Grouping} {argument : Value} {children : List Node} {record : String}
      {outcome : Outcome} {below : List Visit} (h : List.Forall₂ (Shows r) children below) :
    Shows r (.group grouping argument children)
      (.node (Node.group grouping argument children).title record outcome below)
  | unread {role : Role} {argument : Value} {direct : Node} {form : Form} {record : String}
      {outcome : Outcome} :
    Shows r (.literal role argument direct form)
      (.node (Node.literal role argument direct form).title record outcome [])
  | direct {role : Role} {argument : Value} {direct : Node} {form : Form} {record : String}
      {outcome : Outcome} {v : Visit} (h : Shows r direct v) :
    Shows r (.literal role argument direct form)
      (.node (Node.literal role argument direct form).title record outcome [v])
  | array {role : Role} {argument : Value} {direct : Node} {form : Form} {record : String}
      {outcome : Outcome} {n : Node} (hn : Operator.arrayRecord.build? r argument = .ok n) {v : Visit}
      (h : Shows r n v) :
    Shows r (.literal role argument direct form)
      (.node (Node.literal role argument direct form).title record outcome [v])

/-- What is visited when a matcher is traced is a visit of the matcher. -/
theorem Node.shows_of_visit {c : Context} {fuel : Nat} {n : Node} {record : Value} {v : Visit}
    (h : n.visit c fuel record = .ok v) :
  n.Shows c.engine.registry v
  := by
  induction fuel generalizing n record v with
  | zero => cases h
  | succ fuel ih =>
    have hall : ∀ {f : Value → Value} {m : Node} {items : List Value} {below : List Visit},
        items.mapM (fun item => m.visit c fuel (f item)) = .ok below →
        ∀ v ∈ below, m.Shows c.engine.registry v := by
      intro f m items below hbelow v hv
      obtain ⟨item, -, hitem⟩ := exists_left_of_forall₂ (mapM_eq_ok_iff.mp hbelow) v hv
      exact ih hitem
    unfold visit at h
    obtain ⟨⟨outcome, below⟩, hinside, rfl⟩ := map_eq_ok_iff.mp h
    cases n with
    | leaf l =>
      obtain ⟨_, -, heq⟩ := map_eq_ok_iff.mp hinside
      cases heq
      exact .leaf
    | within negated argument bounds =>
      apply Shows.within
      cases record with
      | array items =>
        obtain ⟨_, hbelow, heq⟩ := map_eq_ok_iff.mp hinside
        cases heq
        exact hall (f := id) hbelow
      | _ =>
        obtain ⟨_, hv, heq⟩ := map_eq_ok_iff.mp hinside
        cases heq
        exact List.forall_mem_singleton.mpr (ih hv)
    | elements quantifier argument inner =>
      apply Shows.elements
      cases record with
      | array items =>
        cases items with
        | nil =>
          cases hinside
          exact List.forall_mem_nil _
        | cons item items =>
          obtain ⟨_, hbelow, heq⟩ := map_eq_ok_iff.mp hinside
          cases heq
          exact hall hbelow
      | _ =>
        cases hinside
        exact List.forall_mem_nil _
    | group grouping argument children =>
      obtain ⟨_, hbelow, heq⟩ := map_eq_ok_iff.mp hinside
      cases heq
      exact .group ((mapM_eq_ok_iff.mp hbelow).imp fun _ _ h => ih h)
    | literal role argument direct form =>
      dsimp only at hinside
      cases hsubject : role.subject? c record with
      | none =>
        rw [hsubject] at hinside
        cases hinside
        exact .unread
      | some subject =>
        rw [hsubject] at hinside
        cases subject with
        | array items =>
          cases hbuild : Operator.arrayRecord.build? c.engine.registry argument with
          | error e =>
            rw [hbuild] at hinside
            cases hinside
            exact .unread
          | ok n =>
            rw [hbuild] at hinside
            obtain ⟨_, hv, heq⟩ := map_eq_ok_iff.mp hinside
            cases heq
            exact .array hbuild (ih hv)
        | _ =>
          obtain ⟨_, hv, heq⟩ := map_eq_ok_iff.mp hinside
          cases heq
          exact .direct (ih hv)

/-! ### Traces of queries -/

/-- The trace of anything is a forest at its depths with the lower entries first, and display order has each
entry once with the upper ones first. The trace of a query is a tree, with all children of a group below the
group. -/
theorem trace_is_forest :
  (∀ routine : Routine, ∃ t, routine.run .new = .ok (routine.outcome, (), t)
    ∧ t.entries = Visit.entriesOfAll 0 routine.visits
    ∧ t.reordered = Visit.displayedOfAll 0 routine.visits
    ∧ t.reordered.Perm t.entries)
  ∧ ∀ (e : Engine) (q : Query) (record : Value), q.Arises e →
    (∀ t k, q.trace record = .ok (t, k) → ∃ v, q.matcher.node.Shows e.registry v
      ∧ t.entries = v.entries 0 ∧ t.reordered = v.displayed 0)
    ∧ (e.Sound → (∃ t k, q.trace record = .ok (t, k))
      ∨ q.trace record = .error .overflow ∧ e.Overflows)
  := by
  constructor
  · intro routine
    obtain ⟨hentries, hreordered⟩ := Trace.entries_after routine.visits
    refine ⟨_, routine.run_eq .new, hentries, hreordered, ?_⟩
    rw [hentries, hreordered]
    apply Visit.displayedOfAll_perm
  · intro e q record hq
    constructor
    · intro t k htrace
      obtain ⟨⟨v, hv, rfl⟩, -⟩ := hq.inUse.trace_follows htrace
      obtain ⟨hentries, hreordered⟩ := Trace.entries_after [v]
      have hengine : (q.context.tracing (q.normalizeRecord record)).engine = e := hq.inUse.engine
      refine ⟨v, hengine ▸ Node.shows_of_visit hv, ?_, ?_⟩
      · rw [hentries, Visit.entriesOfAll_singleton]
      · rw [hreordered, Visit.displayedOfAll, Visit.displayedOfAll, List.append_nil]
    · exact fun he => he.query_trace_finishes hq.inUse record

/-- A query for two fields, the first of which does not match: the second one is in the trace nevertheless. -/
theorem trace_is_forest_unmatched :
  ∃ q v t k, Query.compile? .core (.value (.map [("a", .int 1), ("b", .int 2)])) [] = .ok q
    ∧ q.Arises .core ∧ Engine.core.Sound
    ∧ q.trace (.map [("a", .int 3), ("b", .int 2)]) = .ok (t, k)
    ∧ q.matcher.node.Shows .core v ∧ t.entries = v.entries 0 ∧ t.reordered = v.displayed 0
    ∧ t.entries.map (fun e => (e.level, e.title)) = [(2, "Eq: 1"), (1, "Field: \"a\" to match: 1"),
      (2, "Eq: 2"), (1, "Field: \"b\" to match: 2"), (0, "HashCondition: \x7b\"a\": 1, \"b\": 2\x7d")]
  := by
  let record : Value := .map [("a", .int 3), ("b", .int 2)]
  obtain ⟨q, hq⟩ : ∃ q, Query.compile? .core (.value (.map [("a", .int 1), ("b", .int 2)])) []
      = .ok q := ⟨_, rfl⟩
  obtain ⟨hshows, hfinishes⟩ := trace_is_forest.2 .core q record (.compiled hq)
  obtain ⟨t, k, htrace⟩ | ⟨-, hover⟩ := hfinishes Engine.core_sound
  swap
  · exact absurd hover Engine.core_not_overflows
  obtain ⟨v, hv, hentries, hreordered⟩ := hshows t k htrace
  have htitles : (q.trace record).map (fun r => r.1.entries.map fun e => (e.level, e.title))
      = .ok [(2, "Eq: 1"), (1, "Field: \"a\" to match: 1"), (2, "Eq: 2"),
        (1, "Field: \"b\" to match: 2"), (0, "HashCondition: \x7b\"a\": 1, \"b\": 2\x7d")] := by
    cases hq
    set_option maxRecDepth 2000 in rfl
  rw [htrace] at htitles
  exact ⟨q, v, t, k, hq, .compiled hq, Engine.core_sound, htrace, hv, hentries, hreordered,
    Except.ok.inj htitles⟩

end DocQuery
