import DocQuery.Registry

/-!
# Conditions on arrays

When a condition is matched with an array, positions and operators apply to the array as a whole.
All other entries have to hold for one and the same element: together with the entries that were
meant for an element already they make up one condition on elements, which takes the place of the
first of them.
-/

namespace DocQuery

/-- Whether a key is a position in an array: digits, perhaps behind a minus sign. -/
def isIndexKey (key : String) : Bool :=
  let digits := match key.toList with
    | '-' :: rest => rest
    | cs => cs
  !digits.isEmpty && digits.all Char.isDigit

/-- A condition that is being taken apart: what applies to the array as a whole, and what applies
to an element. -/
structure ArrayCondition where
  whole : Entries
  element : Entries

/-- Reserves the place of the condition on elements, at its first key. -/
def ArrayCondition.reserve (c : ArrayCondition) : ArrayCondition :=
  if c.whole.has "$elemMatch" then c else { c with whole := c.whole.insert "$elemMatch" .null }

/-- Sorts an entry of a condition. -/
def ArrayCondition.add (r : Registry) (c : ArrayCondition) (key : String) (v : Value) :
    Except CompileError ArrayCondition :=
  if isIndexKey key then .ok { c with whole := c.whole.insert key v }
  else if key = "$elemMatch" then
    match v with
    | .map body => .ok { c with element := c.element.merge body }.reserve
    | _ => .error (.unexpected "$elemMatch" "a map" v)
  else if r.has key then .ok { c with whole := c.whole.insert key v }
  else .ok { c with element := c.element.insert key v }.reserve

/-- Sorts several entries of a condition. -/
def ArrayCondition.addAll (r : Registry) (c : ArrayCondition) :
    List (String × Value) → Except CompileError ArrayCondition
  | [] => .ok c
  | (key, v) :: rest => do (← c.add r key v).addAll r rest

/-- The entries of the whole condition, with the condition on elements in its place. -/
def ArrayCondition.entries (c : ArrayCondition) : Entries :=
  if c.whole.has "$elemMatch" then c.whole.insert "$elemMatch" (.map c.element) else c.whole

/-- A condition as it applies to an array. Positions and operators apply to the array, and all
else to an element. -/
def arrayCondition (r : Registry) (condition : Entries) : Except CompileError Entries :=
  (ArrayCondition.addAll r ⟨[], []⟩ condition).map ArrayCondition.entries

end DocQuery
