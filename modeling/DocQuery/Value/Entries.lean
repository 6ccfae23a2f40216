import DocQuery.Value.Basic

/-!
# The entries of a map

A new entry comes last, and a new value takes the place of the old one. Merging one map into
another merges the maps that both hold under a key, and otherwise takes the value of the
second.
-/

namespace DocQuery

namespace Entries

/-- The value under a key. -/
def get? (entries : Entries) (key : String) : Option Value := entries.lookup key

/-- Whether there is a value under the key. -/
def has (entries : Entries) (key : String) : Bool := (entries.get? key).isSome

/-- The keys, in order. -/
def keys (entries : Entries) : List String := entries.map Prod.fst

/-- The values, in order. -/
def values (entries : Entries) : List Value := entries.map Prod.snd

/-- Puts a value under a key: in the place of the old value, or else at the end. -/
def insert : Entries → String → Value → Entries
  | [], key, value => [(key, value)]
  | (k, v) :: rest, key, value =>
    if k = key then (key, value) :: rest else (k, v) :: insert rest key value

/-- Removes the value under a key, and keeps the order of the others. -/
def erase : Entries → String → Entries
  | [], _ => []
  | (k, v) :: rest, key => if k = key then rest else (k, v) :: erase rest key

/-- The map with the given entries, put in one after the other. -/
def ofList (pairs : List (String × Value)) : Entries :=
  pairs.foldl (fun entries (key, value) => entries.insert key value) []

theorem get?_nil (key : String) :
  get? [] key = none
  := rfl

theorem get?_cons (k : String) (v : Value) (rest : Entries) (key : String) :
  get? ((k, v) :: rest) key = if key = k then some v else get? rest key
  := by
  rw [get?, List.lookup_cons]
  by_cases h : key = k
  · simp [h]
  · have hb : (key == k) = false := by simp [h]
    rw [hb, if_neg h]
    rfl

theorem keys_cons (k : String) (v : Value) (rest : Entries) :
  keys ((k, v) :: rest) = k :: keys rest
  := rfl

/-- A value that has been put under a key is found there, and all others are found as before. -/
theorem get?_insert (entries : Entries) (key : String) (v : Value) (other : String) :
  (entries.insert key v).get? other = if other = key then some v else entries.get? other
  := by
  induction entries with
  | nil => rw [insert, get?_cons, get?_nil]
  | cons e rest ih =>
    obtain ⟨k, w⟩ := e
    rw [insert]
    split
    · rename_i h
      rw [get?_cons, get?_cons, h]
      split <;> rfl
    · rename_i h
      rw [get?_cons, get?_cons, ih]
      by_cases h' : other = k
      · subst h'
        simp [h]
      · simp [h']

/-- A new key comes last, and an old one keeps its place. -/
theorem keys_insert (entries : Entries) (key : String) (v : Value) :
  (entries.insert key v).keys = if key ∈ entries.keys then entries.keys else entries.keys ++ [key]
  := by
  induction entries with
  | nil => rfl
  | cons e rest ih =>
    obtain ⟨k, w⟩ := e
    rw [insert]
    split
    · rename_i h
      simp [keys_cons, h]
    · rename_i h
      have h' : ¬key = k := fun e => h e.symm
      rw [keys_cons, keys_cons, ih]
      by_cases hm : key ∈ keys rest
      · simp [hm]
      · simp [hm, h']

end Entries

mutual

/-- The value that a new value makes of an old one: two maps are merged, and otherwise the new
value wins. -/
def Value.mergedInto (old : Option Value) : Value → Value
  | .map new => match old with
    | some (.map entries) => .map (Entries.merge entries new)
    | _ => .map new
  | new => new

/-- Merges the second map into the first, entry by entry. -/
def Entries.merge (entries : Entries) : List (String × Value) → Entries
  | [] => entries
  | (key, new) :: rest =>
    Entries.merge (entries.insert key (new.mergedInto (entries.get? key))) rest

end

end DocQuery
