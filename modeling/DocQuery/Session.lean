import DocQuery.Query

/-!
# Sessions

A session holds queries and predicates under names. A predicate has the closure of the query that it
was taken from. It goes on with the forms for arrays of that query, also when the name of the query
is given to another one.
-/

namespace DocQuery

/-- The closure of the query at a place. -/
structure Predicate where
  place : Nat
  closure : Closure

/-- Queries, with the names of queries and predicates. -/
structure Session where
  queries : List Query
  names : List (String × Nat)
  predicates : List (String × Predicate)

namespace Session

/-- The session without queries. -/
def new : Session := ⟨[], [], []⟩

/-- Puts a new query under a name. -/
def store (s : Session) (name : String) (q : Query) : Session :=
  { s with queries := s.queries ++ [q], names := (name, s.queries.length) :: s.names }

/-- The query at a place. -/
def queryAt? (s : Session) (place : Nat) : Option Query := s.queries[place]?

/-- The place of the query under a name. -/
def place? (s : Session) (name : String) : Option Nat := s.names.lookup name

/-- The predicate under a name. -/
def predicate? (s : Session) (name : String) : Option Predicate := s.predicates.lookup name

/-- The place of the query whose predicate is under a name. -/
def predicatePlace? (s : Session) (name : String) : Option Nat :=
  (s.predicate? name).map Predicate.place

/-- Puts the predicate of the query at a place, if there is one, under a name. -/
def keepPredicate (s : Session) (name : String) (place : Nat) : Session :=
  match s.queryAt? place with
  | none => s
  | some q => { s with predicates := (name, ⟨place, q.closure⟩) :: s.predicates }

/-- Puts the query at a place as it has become. -/
def update (s : Session) (place : Nat) (q : Query) : Session :=
  { s with queries := s.queries.set place q }

end Session

end DocQuery
