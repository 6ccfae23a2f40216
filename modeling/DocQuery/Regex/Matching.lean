import DocQuery.Regex.Term

/-!
# Finding a regular expression in a text

A term is turned into an automaton: states that read a character of a set, that pass where an
anchor holds, or that lead to two others. An anchor holds or not at the place between two
characters. `Term.occursIn` follows the states that can be reached through a text and starts a
new match at every place.
-/

namespace DocQuery.Regex

open DocQuery.Unicode

/-- A place in a text, given by the characters around it. -/
structure Spot where
  before : Option Char
  after : Option Char

/-- Whether the character, if there is one, belongs to a word. -/
def isWordAt (unicode : Bool) (c : Option Char) : Bool :=
  c.any (Shorthand.word.set unicode).contains

/-- Whether the words around a place are as asked. -/
def WordPlace.holds (before after : Bool) : WordPlace → Bool
  | .edge => before != after
  | .inside => before == after
  | .start => !before && after
  | .stop => before && !after
  | .halfStart => !before
  | .halfStop => !after

/-- Whether an anchor holds at a place. -/
def Anchor.holds (p : Spot) : Anchor → Bool
  | .textStart => p.before.isNone
  | .textEnd => p.after.isNone
  | .lineStart false => p.before.isNone || p.before == some '\n'
  | .lineStart true =>
    p.before.isNone || p.before == some '\n' || (p.before == some '\r' && p.after != some '\n')
  | .lineEnd false => p.after.isNone || p.after == some '\n'
  | .lineEnd true =>
    p.after.isNone || p.after == some '\r' || (p.after == some '\n' && p.before != some '\r')
  | .word place unicode => place.holds (isWordAt unicode p.before) (isWordAt unicode p.after)

/-! ### Automata -/

/-- A state of an automaton. States are known by their numbers. -/
inductive Move
  | accept
  | read (s : CharSet) (next : Nat)
  | pass (a : Anchor) (next : Nat)
  | fork (left right : Nat)

/-- The states of an automaton in the making, and the one to enter it by. -/
structure Assembly where
  moves : Array Move
  entry : Nat

/-- Adds a state and enters by it. -/
def Assembly.push (m : Assembly) (move : Move) : Assembly :=
  let entry := m.moves.size
  ⟨m.moves.push move, entry⟩

/-- Adds something `n` times, each time in front of what is there. -/
def Assembly.times (step : Assembly → Assembly) : Nat → Assembly → Assembly
  | 0, m => m
  | n + 1, m => Assembly.times step n (step m)

/-- Adds something that may be left out. -/
def Assembly.optional (step : Assembly → Assembly) (skip : Nat) (m : Assembly) : Assembly :=
  let m := step m
  m.push (.fork m.entry skip)

/-- Adds something that may be done any number of times. It leads back to a state that is added
before it and completed after it. -/
def Assembly.loop (step : Assembly → Assembly) (m : Assembly) : Assembly :=
  let back := m.moves.size
  let inner := step (m.push .accept)
  ⟨inner.moves.setIfInBounds back (.fork inner.entry m.entry), back⟩

/-- Adds the states of a term in front of the state that follows it. -/
def Term.assemble : Term → Assembly → Assembly
  | .empty, m => m
  | .anchor a, m => m.push (.pass a m.entry)
  | .set s, m => m.push (.read s m.entry)
  | .seq first second, m => first.assemble (second.assemble m)
  | .alt first second, m =>
    let right := second.assemble m
    let left := first.assemble ⟨right.moves, m.entry⟩
    left.push (.fork left.entry right.entry)
  | .captured body, m => body.assemble m
  | .repeated body least none, m => Assembly.times body.assemble least (m.loop body.assemble)
  | .repeated body least (some most), m =>
    Assembly.times body.assemble least
      (Assembly.times (Assembly.optional body.assemble m.entry) (most - least) m)

/-- The automaton of a term. -/
def Term.automaton (t : Term) : Assembly := t.assemble ⟨#[.accept], 0⟩

/-! ### Running -/

/-- The states that read a character, among those that can be reached at a place from the states
to be visited, or nothing if the accepting state can be reached. Each state is visited once, so
that the number of steps is bounded. -/
def Assembly.reachable? (m : Assembly) (p : Spot) :
    Nat → List Nat → Array Bool → List (CharSet × Nat) → Option (List (CharSet × Nat))
  | 0, _, _, readers => some readers
  | _ + 1, [], _, readers => some readers
  | fuel + 1, s :: rest, seen, readers =>
    if seen.getD s true then m.reachable? p fuel rest seen readers
    else
      let seen := seen.setIfInBounds s true
      match m.moves[s]? with
      | none => m.reachable? p fuel rest seen readers
      | some .accept => none
      | some (.read set next) => m.reachable? p fuel rest seen ((set, next) :: readers)
      | some (.pass a next) =>
        m.reachable? p fuel (if a.holds p then next :: rest else rest) seen readers
      | some (.fork left right) => m.reachable? p fuel (left :: right :: rest) seen readers

/-- The states that read a character at a place, or nothing if a match ends there. A match may
begin there, too. -/
def Assembly.readers? (m : Assembly) (p : Spot) (ready : List Nat) :
    Option (List (CharSet × Nat)) :=
  m.reachable? p (ready.length + 2 * m.moves.size + 2) (m.entry :: ready)
    (Array.replicate m.moves.size false) []

/-- Whether a match that starts at one of the next places, or one that has come to one of the
ready states, ends in the rest of the text. -/
def Assembly.runs (m : Assembly) (before : Option Char) (ready : List Nat) : List Char → Bool
  | [] => (m.readers? ⟨before, none⟩ ready).isNone
  | c :: rest =>
    match m.readers? ⟨before, some c⟩ ready with
    | none => true
    | some readers =>
      m.runs (some c)
        (readers.filterMap fun (set, next) => if set.contains c then some next else none) rest

/-- Whether some part of the text matches the term. -/
def Term.occursIn (t : Term) (text : String) : Bool := t.automaton.runs none [] text.toList

end DocQuery.Regex
