import Mathlib.Data.Set.Function
import DocQuery.Condition.Path

/-!
# Paths and their segments

Joining segments into a path writes a backslash before each dot inside a segment and a dot between two
segments. There is no escape for the backslash itself, so a segment that ends in one can only be the last.
On the lists of segments that keep to this, joining is the inverse of splitting.
-/

namespace DocQuery

/-! ### Segments as characters -/

/-- A segment with a backslash before each of its dots. -/
def escapedSegment (segment : List Char) : List Char :=
  segment.flatMap fun c => if c = '.' then ['\\', '.'] else [c]

theorem escapedSegment_append (s t : List Char) :
  escapedSegment (s ++ t) = escapedSegment s ++ escapedSegment t
  :=
  List.flatMap_append

theorem escapedSegment_dot_cons (s : List Char) :
  escapedSegment ('.' :: s) = '\\' :: '.' :: escapedSegment s
  :=
  rfl

theorem escapedSegment_cons {c : Char} (hc : c ≠ '.') (s : List Char) :
  escapedSegment (c :: s) = c :: escapedSegment s
  := by
  rw [escapedSegment, List.flatMap_cons, if_neg hc]
  rfl

/-- No segment but the last ends in a backslash. -/
def EndsApart (segments : List (List Char)) : Prop :=
  ∀ segment ∈ segments.dropLast, segment.getLast? ≠ some '\\'

/-- The characters of the path with these segments. -/
def joinedSegments (segments : List (List Char)) : List Char :=
  ['.'].intercalate (segments.map escapedSegment)

theorem joinedSegments_cons {segments : List (List Char)} (h : segments ≠ []) (s : List Char) :
  joinedSegments (s :: segments) = escapedSegment s ++ '.' :: joinedSegments segments
  := by
  cases segments with
  | nil => contradiction
  | cons t segments =>
    simp only [joinedSegments, List.map_cons, List.intercalate_cons_cons, List.append_assoc,
      List.singleton_append]

theorem joinedSegments_singleton (s : List Char) :
  joinedSegments [s] = escapedSegment s
  :=
  List.intercalate_singleton

theorem endsApart_cons_iff {segments : List (List Char)} (h : segments ≠ []) (s : List Char) :
  EndsApart (s :: segments) ↔ s.getLast? ≠ some '\\' ∧ EndsApart segments
  := by
  rw [EndsApart, List.dropLast_cons_of_ne_nil h, List.forall_mem_cons, EndsApart]

theorem endsApart_singleton (s : List Char) :
  EndsApart [s]
  :=
  List.forall_mem_nil _

/-! ### Reading a path -/

/-- A backslash and a dot together put a dot into the segment. -/
theorem pathSegments_escaped (segment rest : List Char) :
  pathSegments segment ('\\' :: '.' :: rest) = pathSegments ('.' :: segment) rest
  := by
  rw [pathSegments]

/-- A dot by itself ends the segment. -/
theorem pathSegments_dot (segment rest : List Char) :
  pathSegments segment ('.' :: rest) = segment.reverse :: pathSegments [] rest
  := by
  rw [pathSegments, if_pos rfl]
  simp

/-- Any other character is put into the segment, a backslash too if no dot follows it. -/
theorem pathSegments_cons {c : Char} {rest : List Char} (hc : c ≠ '.')
    (h : c = '\\' → rest.head? ≠ some '.') (segment : List Char) :
  pathSegments segment (c :: rest) = pathSegments (c :: segment) rest
  := by
  rw [pathSegments, if_neg hc]
  rintro _ rfl rfl
  exact h rfl rfl

/-- The dots of a segment that has been escaped do not end it, and its backslashes are kept as they are, if
its last one is not taken together with a dot that follows. -/
theorem pathSegments_escapedSegment_append {s rest : List Char}
    (h : s.getLast? = some '\\' → rest.head? ≠ some '.') (segment : List Char) :
  pathSegments segment (escapedSegment s ++ rest) = pathSegments (s.reverse ++ segment) rest
  := by
  induction s generalizing segment with
  | nil => rfl
  | cons c s ih =>
    have hs : s.getLast? = some '\\' → rest.head? ≠ some '.' := by
      intro hlast
      apply h
      rw [List.getLast?_cons, hlast, Option.getD_some]
    rw [List.reverse_cons, List.append_assoc, List.singleton_append]
    by_cases hc : c = '.'
    · subst hc
      rw [escapedSegment_dot_cons, List.cons_append, List.cons_append, pathSegments_escaped, ih hs]
    · rw [escapedSegment_cons hc, List.cons_append, pathSegments_cons hc, ih hs]
      rintro rfl
      cases s with
      | nil => exact h rfl
      | cons d s =>
        by_cases hd : d = '.'
        · simp [hd, escapedSegment_dot_cons]
        · simp [escapedSegment_cons hd, hd]

theorem pathSegments_joinedSegments {segments : List (List Char)} (hne : segments ≠ [])
    (h : EndsApart segments) :
  pathSegments [] (joinedSegments segments) = segments
  := by
  induction segments with
  | nil => contradiction
  | cons s segments ih =>
    rcases eq_or_ne segments [] with rfl | hsegments
    · have hjoined : joinedSegments [s] = escapedSegment s ++ [] := by
        rw [joinedSegments_singleton, List.append_nil]
      rw [hjoined, pathSegments_escapedSegment_append (by simp), List.append_nil, pathSegments,
        List.reverse_reverse]
    · rw [endsApart_cons_iff hsegments] at h
      rw [joinedSegments_cons hsegments, pathSegments_escapedSegment_append (absurd · h.1),
        List.append_nil, pathSegments_dot, List.reverse_reverse, ih hsegments h.2]

theorem joinedSegments_pathSegments (segment cs : List Char) :
  joinedSegments (pathSegments segment cs) = escapedSegment segment.reverse ++ cs
  := by
  fun_induction pathSegments segment cs with
  | case1 segment => rw [joinedSegments_singleton, List.append_nil]
  | case2 segment rest ih =>
    rw [ih, List.reverse_cons, escapedSegment_append, List.append_assoc]
    rfl
  | case3 segment rest _ ih =>
    rw [joinedSegments_cons (pathSegments_ne_nil _ _), ih]
    rfl
  | case4 segment c rest _ hc ih =>
    rw [ih, List.reverse_cons, escapedSegment_append, List.append_assoc, escapedSegment_cons hc]
    rfl

/-- The segment at hand never ends in a backslash when a dot comes next, since the two would have been read
together. -/
theorem endsApart_pathSegments {segment cs : List Char}
    (h : segment.head? = some '\\' → cs.head? ≠ some '.') :
  EndsApart (pathSegments segment cs)
  := by
  fun_induction pathSegments segment cs with
  | case1 segment => exact endsApart_singleton _
  | case2 segment rest ih => exact ih (by simp)
  | case3 segment rest _ ih =>
    rw [endsApart_cons_iff (pathSegments_ne_nil _ _), List.getLast?_reverse]
    exact ⟨fun hhead => h hhead rfl, ih (by simp)⟩
  | case4 segment c rest hrest hc ih =>
    apply ih
    intro hhead hdot
    obtain ⟨rest, rfl⟩ : ∃ rest', rest = '.' :: rest' := List.head?_eq_some_iff.mp hdot
    exact hrest rest (Option.some.inj hhead) rfl

/-! ### Splitting and joining -/

/-- The lists of segments that paths have: there is a segment, and none but the last ends in a backslash. -/
def pathSegmentLists : Set (List String) :=
  {segments | segments ≠ [] ∧ ∀ segment ∈ segments.dropLast, segment.toList.getLast? ≠ some '\\'}

/-- A segment with a backslash before each of its dots. -/
def escapeDots (segment : String) : String := String.ofList (escapedSegment segment.toList)

/-- The path with these segments: their dots are escaped, and dots join them. -/
def joinPath (segments : List String) : String := ".".intercalate (segments.map escapeDots)

theorem toList_joinPath (segments : List String) :
  (joinPath segments).toList = joinedSegments (segments.map String.toList)
  := by
  rw [joinPath, String.toList_intercalate, List.map_map, joinedSegments, List.map_map]
  congr 1
  apply List.map_congr_left
  intro segment _
  exact String.toList_ofList

theorem map_toList_splitPath (path : String) :
  (splitPath path).map String.toList = pathSegments [] path.toList
  := by
  rw [splitPath, List.map_map]
  exact (List.map_congr_left fun _ _ => String.toList_ofList).trans (List.map_id _)

theorem mem_pathSegmentLists_iff {segments : List String} :
  segments ∈ pathSegmentLists ↔ segments ≠ [] ∧ EndsApart (segments.map String.toList)
  := by
  rw [pathSegmentLists, Set.mem_ofPred_eq, EndsApart, ← List.map_dropLast, List.forall_mem_map]

theorem splitPath_mem_pathSegmentLists (path : String) :
  splitPath path ∈ pathSegmentLists
  := by
  rw [mem_pathSegmentLists_iff, map_toList_splitPath]
  exact ⟨splitPath_ne_nil path, endsApart_pathSegments (by simp)⟩

theorem joinPath_splitPath (path : String) :
  joinPath (splitPath path) = path
  := by
  rw [← String.toList_inj, toList_joinPath, map_toList_splitPath, joinedSegments_pathSegments]
  rfl

theorem splitPath_joinPath {segments : List String} (h : segments ∈ pathSegmentLists) :
  splitPath (joinPath segments) = segments
  := by
  rw [mem_pathSegmentLists_iff] at h
  rw [splitPath, toList_joinPath, pathSegments_joinedSegments (by simpa using h.1) h.2, List.map_map]
  exact (List.map_congr_left fun _ _ => String.ofList_toList).trans (List.map_id _)

theorem nest_eq_foldr (segments : List String) (v : Value) :
  nest segments v = segments.foldr (fun segment inner => .map [(segment, inner)]) v
  := by
  induction segments with
  | nil => rfl
  | cons segment segments ih => rw [nest, ih, List.foldr_cons]

/-- The entries that a path stands for are the nest of maps along its segments. -/
theorem map_expandPath (path : String) (v : Value) :
  Value.map (expandPath path v) = nest (splitPath path) v
  := by
  have hne := splitPath_ne_nil path
  rw [expandPath]
  cases hpath : splitPath path with
  | nil => contradiction
  | cons segment segments => rfl

/-- Splitting is a bijection from the paths onto the lists of segments in which none but the last ends in a
backslash, and joining is its inverse. So no two paths have the same segments, and a path with a value stands
for the nest of single entries along its segments, with the value at the end. -/
theorem splitPath_bijOn :
  Set.BijOn splitPath Set.univ pathSegmentLists
    ∧ Set.InvOn joinPath splitPath Set.univ pathSegmentLists
    ∧ Function.Injective splitPath
    ∧ ∀ path v, Value.map (expandPath path v)
        = (splitPath path).foldr (fun segment inner => .map [(segment, inner)]) v
  := by
  have hinv : Set.InvOn joinPath splitPath Set.univ pathSegmentLists :=
    ⟨fun path _ => joinPath_splitPath path, fun _ h => splitPath_joinPath h⟩
  have hbij : Set.BijOn splitPath Set.univ pathSegmentLists :=
    hinv.bijOn (fun path _ => splitPath_mem_pathSegmentLists path) fun _ _ => Set.mem_univ _
  refine ⟨hbij, hinv, Set.injOn_univ.mp hbij.injOn, ?_⟩
  intro path v
  rw [map_expandPath, nest_eq_foldr]

end DocQuery
