import DocQuery.Engine

/-!
# Rules for host values

Conversions that an application may choose from. Each applies to one kind of host values.
-/

namespace DocQuery

/-- The identity of the host value that a rule makes of another one. The given ones have even
identities. -/
def derivedIdentity (identity : Nat) : Nat := 2 * identity + 1

/-- The rules by name. -/
def ruleTable : List (String × Rule) := [
  ("celsius", fun
    | _, .celsius degrees => some (.float degrees)
    | _, _ => none),
  ("celsius_f", fun
    | _, .celsius degrees => some (.float (degrees * 9 / 5 + 32))
    | _, _ => none),
  ("point_sum", fun
    | _, .point x y => some (.int (x + y))
    | _, _ => none),
  ("point_text", fun
    | _, .point x y => some (.string (toString x ++ "," ++ toString y))
    | _, _ => none),
  ("point_map", fun
    | _, .point x y => some (.map [("x", .int x), ("y", .int y)])
    | _, _ => none),
  ("point_array", fun
    | _, .point x y => some (.array [.int x, .int y])
    | _, _ => none),
  ("point_symbol", fun
    | identity, .point x y =>
      some (.host (derivedIdentity identity) (.symbol (toString x ++ "/" ++ toString y)) none)
    | _, _ => none),
  ("symbol_colon", fun
    | _, .symbol name => some (.string (":" ++ name))
    | _, _ => none),
  ("symbol_range", fun
    | _, .symbol name => some (.range (some (.string name)) (some (.string "z")) false)
    | _, _ => none),
  ("obj_id", fun
    | _, .object number => some (.int (Int64.ofInt number))
    | _, _ => none),
  ("obj_missing", fun
    | _, .object _ => some .missing
    | _, _ => none)]

/-- The rule of a name. -/
def rule? (name : String) : Option Rule := ruleTable.lookup name

end DocQuery
