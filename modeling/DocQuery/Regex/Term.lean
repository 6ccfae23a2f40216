import DocQuery.Regex.Grammar

/-!
# The meaning of regular expressions

A `Term` is a regular expression in which every flag has taken effect: it is built from places
in the text and sets of characters alone. `Expr.toTerm` resolves the flags, which hold from
where they are set to the end of the surrounding group.
-/

namespace DocQuery.Regex

open DocQuery.Unicode

/-- A relation between a place in the text and the words around it. -/
inductive WordPlace
  | edge
  | inside
  | start
  | stop
  | halfStart
  | halfStop
deriving DecidableEq, Repr

/-- A condition on a place in the text. -/
inductive Anchor
  | textStart
  | textEnd
  | lineStart (carriageReturn : Bool)
  | lineEnd (carriageReturn : Bool)
  | word (place : WordPlace) (unicode : Bool)
deriving DecidableEq, Repr

/-- A regular expression without flags. -/
inductive Term
  | empty
  | anchor (a : Anchor)
  | set (s : CharSet)
  | seq (first second : Term)
  | alt (first second : Term)
  | captured (body : Term)
  | repeated (body : Term) (least : Nat) (most : Option Nat)
deriving DecidableEq, Repr

/-- The flags in force. -/
structure Flags where
  ignoreCase : Bool
  multiLine : Bool
  dotAll : Bool
  unicode : Bool
  carriageReturn : Bool
deriving DecidableEq, Repr

/-- Turns one flag on or off. -/
def Flags.set (fs : Flags) (value : Bool) : Flag → Flags
  | .ignoreCase => { fs with ignoreCase := value }
  | .multiLine => { fs with multiLine := value }
  | .dotAll => { fs with dotAll := value }
  | .unicode => { fs with unicode := value }
  | .carriageReturn => { fs with carriageReturn := value }
  | .lazy => fs
  | .verbose => fs

/-- The flags after a change. -/
def Flags.apply (fs : Flags) (change : FlagChange) : Flags :=
  change.off.foldl (·.set false) (change.on.foldl (·.set true) fs)

/-! ### Sets of characters -/

/-- The set together with the other cases of its members, if case is ignored. -/
def Flags.fold (fs : Flags) (s : CharSet) : CharSet :=
  if fs.ignoreCase then (if fs.unicode then s.foldCase else s.foldAsciiCase) else s

/-- The set or its complement. Without Unicode a complement could match parts of a character,
and is refused. -/
def Flags.negate (fs : Flags) (negated : Bool) (s : CharSet) : Except Fault CharSet :=
  if negated then (if fs.unicode then .ok s.compl else .error .notText) else .ok s

/-- The character, unless it is a byte that is no character by itself. -/
def Flags.character (fs : Flags) (w : Written) : Except Fault Char :=
  if !fs.unicode && w.byte && w.char.toNat ≥ 0x80 then .error .notText else .ok w.char

/-- The characters that a letter after a backslash names. -/
def Shorthand.set (unicode : Bool) : Shorthand → CharSet
  | .digit => if unicode then digits else .range '0' '9'
  | .blank => if unicode then blanks else .ofIntervals [⟨0x09, 0x0D⟩, ⟨0x20, 0x20⟩]
  | .word => if unicode then wordCharacters
    else .unions [.range '0' '9', .range 'A' 'Z', .single '_', .range 'a' 'z']

/-- The characters that have a property, and whether the complement is asked for. -/
def PropertyName.set? : PropertyName → Option (CharSet × Bool)
  | .loose name => (namedClass? name).map (·, false)
  | .valued property value negated => (valuedClass? property value).map (·, negated)

/-- The set of two classes that an operation joins. -/
def ClassOperation.apply (s t : CharSet) : ClassOperation → CharSet
  | .inter => s.inter t
  | .diff => s.diff t
  | .symmDiff => s.symmDiff t

mutual

/-- The characters of a class. Case is folded before a complement is taken. -/
def ClassExpr.set (fs : Flags) : ClassExpr → Except Fault CharSet
  | .range low high => do
    if !fs.unicode && (low.char.toNat ≥ 0x80 || high.char.toNat ≥ 0x80) then throw .notText
    return .range low.char high.char
  | .shorthand kind negated => fs.negate negated (kind.set fs.unicode)
  | .property name negated => do
    if !fs.unicode then throw .notText
    match name.set? with
    | some (s, other) => fs.negate (negated != other) (fs.fold s)
    | none => throw .badProperty
  | .ascii s negated => fs.negate negated (fs.fold s)
  | .bracket negated body => do fs.negate negated (fs.fold (← body.set fs))
  | .union items => do return .unions (← ClassExpr.sets fs items)
  | .operation op left right => do
    let s ← left.set fs
    let t ← right.set fs
    return op.apply (fs.fold s) (fs.fold t)

/-- The characters of each of several classes. -/
def ClassExpr.sets (fs : Flags) : List ClassExpr → Except Fault (List CharSet)
  | [] => .ok []
  | item :: rest => do
    let s ← item.set fs
    return s :: (← sets fs rest)

end

/-! ### Resolving flags -/

/-- The sequence of two terms, where an empty one leaves no trace. -/
def Term.andThen : Term → Term → Term
  | .empty, t => t
  | s, .empty => s
  | s, t => .seq s t

/-- The sequence of several terms. -/
def Term.sequence (ts : List Term) : Term := ts.foldr Term.andThen .empty

/-- The branches of a choice. -/
def Term.branches : Term → List Term
  | .alt first second => first :: second.branches
  | t => [t]

/-- The sets of terms that are all sets. -/
def Term.sets? (ts : List Term) : Option (List CharSet) :=
  ts.mapM fun t => match t with
    | .set s => some s
    | _ => none

/-- The choice between the branches of a list. -/
def Term.choiceOf : List Term → Term
  | [] => .set .empty
  | [t] => t
  | t :: rest => .alt t (choiceOf rest)

/-- The choice between several terms. Single characters, or sets of other sizes, are one set. -/
def Term.choice (ts : List Term) : Term :=
  let ts := ts.flatMap Term.branches
  match Term.sets? ts with
  | some sets =>
    let singles := sets.filter fun s => s.single?.isSome
    if singles.isEmpty || singles.length = sets.length then .set (.unions sets)
    else .choiceOf ts
  | none => .choiceOf ts

/-- Whether all matches of a term are empty. -/
def Term.isZeroWidth : Term → Bool
  | .empty => true
  | .anchor _ => true
  | .set _ => false
  | .seq first second => first.isZeroWidth && second.isZeroWidth
  | .alt first second => first.isZeroWidth && second.isZeroWidth
  | .captured body => body.isZeroWidth
  | .repeated body _ _ => body.isZeroWidth

/-- The least number of characters in a match of a term, if there can be a match. -/
def Term.minLength? : Term → Option Nat
  | .empty => some 0
  | .anchor _ => some 0
  | .set s => if s.intervals.isEmpty then none else some 1
  | .seq first second => do return (← first.minLength?) + (← second.minLength?)
  | .alt first second => do return min (← first.minLength?) (← second.minLength?)
  | .captured body => body.minLength?
  | .repeated body least _ => do return least * (← body.minLength?)

/-- Whether a term is known to match no empty text. -/
def Term.consumes (t : Term) : Bool := t.minLength?.any (0 < ·)

/-- A term that is repeated. What matches the empty text only need not be repeated, and one round
is the term itself. -/
def Term.times (body : Term) (least : Nat) (most : Option Nat) : Term :=
  let (least, most) :=
    if body.isZeroWidth then (min least 1, some (min (most.getD 1) 1)) else (least, most)
  if most = some 0 then .empty
  else if least = 1 && most = some 1 then body
  else .repeated body least most

/-- The condition that a place stands for. -/
def Place.anchor (fs : Flags) : Place → Anchor
  | .lineStart => if fs.multiLine then .lineStart fs.carriageReturn else .textStart
  | .lineEnd => if fs.multiLine then .lineEnd fs.carriageReturn else .textEnd
  | .textStart => .textStart
  | .textEnd => .textEnd
  | .wordEdge => .word .edge fs.unicode
  | .noWordEdge => .word .inside fs.unicode
  | .wordStart => .word .start fs.unicode
  | .wordEnd => .word .stop fs.unicode
  | .halfWordStart => .word .halfStart fs.unicode
  | .halfWordEnd => .word .halfStop fs.unicode

/-- The characters that a dot stands for. -/
def Flags.dot (fs : Flags) : Except Fault CharSet :=
  if !fs.unicode then .error .notText
  else if fs.dotAll then .ok .all
  else if fs.carriageReturn then .ok (CharSet.unions [.single '\n', .single '\r']).compl
  else .ok (CharSet.single '\n').compl

mutual

/-- The term of an expression, and the flags in force behind it. -/
def Expr.toTerm (fs : Flags) : Expr → Except Fault (Term × Flags)
  | .empty => .ok (.empty, fs)
  | .literal w => do return (.set (fs.fold (.single (← fs.character w))), fs)
  | .dot => do return (.set (← fs.dot), fs)
  | .place p => .ok (.anchor (p.anchor fs), fs)
  | .charClass c => do return (.set (← c.set fs), fs)
  | .repeated body least most => do
    let (t, fs') ← body.toTerm fs
    return (t.times least most, fs')
  | .group captured change body => do
    let (t, _) ← body.toTerm (fs.apply change)
    return (if captured then .captured t else t, fs)
  | .setFlags change => .ok (.empty, fs.apply change)
  | .alternation branches => do
    let (ts, fs') ← Expr.toTerms fs branches
    return (.choice ts, fs')
  | .concat parts => do
    let (ts, fs') ← Expr.toTerms fs parts
    return (.sequence ts, fs')

/-- The terms of several expressions, each under the flags that the ones before it leave. -/
def Expr.toTerms (fs : Flags) : List Expr → Except Fault (List Term × Flags)
  | [] => .ok ([], fs)
  | e :: rest => do
    let (t, fs') ← e.toTerm fs
    let (ts, fs'') ← toTerms fs' rest
    return (t :: ts, fs'')

end

end DocQuery.Regex
