import DocQuery.Value.Basic

/-!
# Ranges as conditions

To lie in a range is to satisfy a bound for each end that is not open. To lie outside is to
violate one of them. The lower end belongs to the range, and the upper end does unless it is
excluded.
-/

namespace DocQuery

/-- The condition of lying in a range. -/
def insideRange (start stop : Option Value) (exclusive : Bool) : Value :=
  .map ((start.map (("$gte", ·))).toList ++
    (stop.map ((if exclusive then "$lt" else "$lte", ·))).toList)

/-- The condition of lying outside a range. -/
def outsideRange (start stop : Option Value) (exclusive : Bool) : Value :=
  .map [("$or", .array
    ((start.map fun v => Value.map [("$lt", v)]).toList ++
      (stop.map fun v => Value.map [(if exclusive then "$gte" else "$gt", v)]).toList))]

end DocQuery
