import DocQuery.Value.Basic

/-!
# Comparing values

Integers and floating point numbers are compared as numbers, an integer after rounding. Maps are
equal whatever the order of their entries, patterns by source and flags, and host values by
identity. Only numbers and strings have an order.
-/

namespace DocQuery

/-- The floating point number nearest to an integer. -/
def nearestFloat (n : Int64) : Float := Float.ofInt n.toInt

/-- The order of two floating point numbers, unless one of them is no number. -/
def compareFloats? (x y : Float) : Option Ordering :=
  if x < y then some .lt
  else if x == y then some .eq
  else if y < x then some .gt
  else none

namespace Value

/-- The value of an integer: a floating point number if 64 bits do not hold it. -/
def ofInt (n : Int) : Value :=
  if Int64.minValue.toInt ≤ n ∧ n ≤ Int64.maxValue.toInt then int (Int64.ofInt n)
  else float (Float.ofInt n)

/-- The number of an integer or a floating point number. -/
def asFloat? : Value → Option Float
  | int n => some (nearestFloat n)
  | float x => some x
  | _ => none

mutual

/-- Whether two values are equal. -/
def same : Value → Value → Bool
  | null, null => true
  | missing, missing => true
  | bool a, bool b => a == b
  | int a, int b => a == b
  | float x, float y => x == y
  | int a, float y => nearestFloat a == y
  | float x, int b => nearestFloat b == x
  | string s, string t => s == t
  | array as, array bs => sameItems as bs
  | map as, map bs => as.length == bs.length && sameEntries as bs
  | regex p, regex q => p == q
  | range start stop exclusive, range start' stop' exclusive' =>
    sameEnd start start' && sameEnd stop stop' && exclusive == exclusive'
  | host identity _ _, host identity' _ _ => identity == identity'
  | _, _ => false
termination_by structural v => v

/-- Whether two lists of values are equal item by item. -/
def sameItems : List Value → List Value → Bool
  | [], [] => true
  | a :: as, b :: bs => same a b && sameItems as bs
  | _, _ => false
termination_by structural v => v

/-- Whether each of the entries has an equal one with its key among the others. -/
def sameEntries : List (String × Value) → List (String × Value) → Bool
  | [], _ => true
  | (key, a) :: rest, bs =>
    (match bs.lookup key with
      | some b => same a b
      | none => false) && sameEntries rest bs
termination_by structural v => v

/-- Whether two ends of ranges are equal. -/
def sameEnd : Option Value → Option Value → Bool
  | none, none => true
  | some a, some b => same a b
  | _, _ => false
termination_by structural v => v

end

instance : BEq Value := ⟨same⟩

/-- The order of two values, if they have one. -/
def compare? : Value → Value → Option Ordering
  | int a, int b => some (compare a.toInt b.toInt)
  | float x, float y => compareFloats? x y
  | int a, float y => compareFloats? (nearestFloat a) y
  | float x, int b => compareFloats? x (nearestFloat b)
  | string s, string t => some (compare s t)
  | _, _ => none

end Value

end DocQuery
