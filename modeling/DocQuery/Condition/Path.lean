import DocQuery.Value.Entries

/-!
# Paths

A path names a value inside nested maps. Dots separate its segments, and a backslash before a
dot makes the dot a part of the segment. A path with a value stands for the nest of maps that
leads to the value.
-/

namespace DocQuery

/-- The segments of a path, given the characters of the segment at hand in reverse. -/
def pathSegments (segment : List Char) : List Char → List (List Char)
  | [] => [segment.reverse]
  | '\\' :: '.' :: rest => pathSegments ('.' :: segment) rest
  | c :: rest =>
    if c = '.' then segment.reverse :: pathSegments [] rest
    else pathSegments (c :: segment) rest

theorem pathSegments_ne_nil (segment cs : List Char) :
  pathSegments segment cs ≠ []
  := by
  fun_induction pathSegments segment cs with
  | case1 => simp
  | case2 _ _ ih => exact ih
  | case3 => simp
  | case4 _ _ _ _ _ ih => exact ih

/-- The segments of a path. -/
def splitPath (path : String) : List String :=
  (pathSegments [] path.toList).map String.ofList

/-- A path has at least one segment. -/
theorem splitPath_ne_nil (path : String) :
  splitPath path ≠ []
  := by
  rw [splitPath, ne_eq, List.map_eq_nil_iff]
  apply pathSegments_ne_nil

/-- The nest of maps that leads along the segments to the value. -/
def nest : List String → Value → Value
  | [], value => value
  | segment :: rest, value => .map [(segment, nest rest value)]

/-- The entries that a path with a value stands for. -/
def expandPath (path : String) (value : Value) : Entries :=
  match splitPath path with
  | [] => []
  | segment :: rest => [(segment, nest rest value)]

end DocQuery
