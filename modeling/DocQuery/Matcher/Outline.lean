/-!
# Outlines

An outline is a tree of titles. It is drawn with one line for each title.
-/

namespace DocQuery

/-- A title with the outlines below it. -/
inductive Outline
  | node (title : String) (below : List Outline)

namespace Outline

mutual

/-- The lines of an outline. Its first line follows a connector, and the others are moved in. -/
def linesFrom (indent : String) (last : Bool) : Outline → List String
  | node title below =>
    (indent ++ (if last then "└─ " else "├─ ") ++ title) ::
      linesOfAll (indent ++ (if last then "   " else "│  ")) below

/-- The lines of several outlines, one below the other. -/
def linesOfAll (indent : String) : List Outline → List String
  | [] => []
  | o :: rest => linesFrom indent rest.isEmpty o ++ linesOfAll indent rest

end

/-- The lines of an outline. -/
def lines (o : Outline) : List String := o.linesFrom "" true

mutual

/-- The titles of an outline, each before those below it. -/
def titles : Outline → List String
  | node title below => title :: titlesOfAll below

/-- The titles of several outlines. -/
def titlesOfAll : List Outline → List String
  | [] => []
  | o :: rest => o.titles ++ titlesOfAll rest

end

end Outline

end DocQuery
