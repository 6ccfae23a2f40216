import DocQuery.Unicode.Classes

/-!
# The grammar of regular expressions

`Expr` is what a regular expression says, before any flag has taken effect; `Expr.ofSource?`
reads it. The reader keeps an explicit stack of open groups, and one of open brackets inside a
character class, and consumes at least one character in each round, so that the length of the
source bounds its work.
-/

namespace DocQuery.Regex

open DocQuery.Unicode

/-- The reason for which a regular expression is refused. -/
inductive Fault
  | unclosedGroup
  | unopenedGroup
  | unclosedClass
  | nothingToRepeat
  | badCount
  | badEscape
  | badClass
  | badFlag
  | badName
  | badProperty
  | lookAround
  | backReference
  | notText
  | tooDeep
  | tooLarge
deriving DecidableEq, Repr

/-- A switch that an expression can turn on or off. -/
inductive Flag
  | ignoreCase
  | multiLine
  | dotAll
  | lazy
  | unicode
  | carriageReturn
  | verbose
deriving DecidableEq, Repr

/-- The switches that a group turns on and off. -/
structure FlagChange where
  on : List Flag
  off : List Flag
deriving DecidableEq, Repr

/-- A place in the text. -/
inductive Place
  | lineStart
  | lineEnd
  | textStart
  | textEnd
  | wordEdge
  | noWordEdge
  | wordStart
  | wordEnd
  | halfWordStart
  | halfWordEnd
deriving DecidableEq, Repr

/-- The classes that a letter after a backslash names. -/
inductive Shorthand
  | digit
  | blank
  | word
deriving DecidableEq, Repr

/-- The way in which a class by property is asked for. -/
inductive PropertyName
  | loose (name : List Char)
  | valued (property value : List Char) (negated : Bool)
deriving DecidableEq, Repr

/-- The operations that join two classes. -/
inductive ClassOperation
  | inter
  | diff
  | symmDiff
deriving DecidableEq, Repr

/-- A character as it is written: `byte` marks one that is given by two hexadecimal digits. -/
structure Written where
  char : Char
  byte : Bool
deriving DecidableEq, Repr

/-- A class of characters. -/
inductive ClassExpr
  | range (low high : Written)
  | shorthand (kind : Shorthand) (negated : Bool)
  | property (name : PropertyName) (negated : Bool)
  | ascii (set : CharSet) (negated : Bool)
  | bracket (negated : Bool) (body : ClassExpr)
  | union (items : List ClassExpr)
  | operation (op : ClassOperation) (left right : ClassExpr)

/-- A regular expression. -/
inductive Expr
  | empty
  | literal (c : Written)
  | dot
  | place (p : Place)
  | charClass (c : ClassExpr)
  | repeated (body : Expr) (least : Nat) (most : Option Nat)
  | group (captured : Bool) (change : FlagChange) (body : Expr)
  | setFlags (change : FlagChange)
  | alternation (branches : List Expr)
  | concat (parts : List Expr)

/-! ### The source -/

/-- The rest of the source, and whether blanks and comments in it are skipped. -/
structure Source where
  rest : List Char
  verbose : Bool

/-- Whether the character is white space. -/
def isBlank (c : Char) : Bool := blanks.contains c

/-- What follows a comment that starts here. -/
def afterComment : List Char → List Char
  | [] => []
  | c :: rest => if c = '\n' then rest else afterComment rest

theorem length_afterComment_le (cs : List Char) :
  (afterComment cs).length ≤ cs.length
  := by
  induction cs with
  | nil => simp [afterComment]
  | cons c rest ih =>
    rw [afterComment]
    split
    · simp
    · simp only [List.length_cons]
      omega

/-- The source without the blanks and comments at its start. -/
def skipBlanks (cs : List Char) : List Char :=
  match cs with
  | [] => []
  | c :: rest =>
    if isBlank c then skipBlanks rest
    else if c = '#' then skipBlanks (afterComment rest)
    else c :: rest
termination_by cs.length
decreasing_by
  · simp
  · have := length_afterComment_le rest
    simp only [List.length_cons]
    omega

/-- Skips blanks and comments if the source is verbose. -/
def Source.skip (s : Source) : Source :=
  if s.verbose then { s with rest := skipBlanks s.rest } else s

/-- The source after its first character. -/
def Source.next (s : Source) : Source := { s with rest := s.rest.drop 1 }

/-- The source after its first character and the blanks behind it. -/
def Source.advance (s : Source) : Source := s.next.skip

/-- The first character. -/
def Source.first (s : Source) : Option Char := s.rest.head?

/-- The character after the first one. -/
def Source.second (s : Source) : Option Char := s.next.first

/-- The character after the first one, blanks and the mark of a comment skipped. -/
def Source.secondPastBlanks (s : Source) : Option Char :=
  if s.verbose then
    match s.next.rest.dropWhile isBlank with
    | '#' :: rest => (rest.dropWhile isBlank).head?
    | rest => rest.head?
  else s.second

/-- The rest of the source after the given start, if it has this start. -/
def Source.after? (start : String) (s : Source) : Option Source :=
  if start.toList.isPrefixOf s.rest then
    some { s with rest := s.rest.drop start.length }
  else none

/-! ### Numbers and escapes -/

/-- Reads characters that satisfy `p`, skipping blanks after each. -/
def takeSkipping (p : Char → Bool) : Nat → Source → List Char × Source
  | 0, s => ([], s)
  | fuel + 1, s =>
    match s.first with
    | none => ([], s)
    | some c =>
      if p c then
        let (more, s') := takeSkipping p fuel s.advance
        (c :: more, s')
      else ([], s)

/-- Reads the characters that satisfy `p` at the start of the source. -/
def takeWhileSkipping (p : Char → Bool) (s : Source) : List Char × Source :=
  takeSkipping p s.rest.length s

/-- Drops the white space at the start of the source. -/
def Source.dropBlanks (s : Source) : Source := { s with rest := s.rest.dropWhile isBlank }

/-- The largest count that a repetition may name. -/
def maxCount : Nat := 0xFFFFFFFF

/-- Reads a count. The result is `none` where no digit is found. -/
def readCount (s : Source) : Except Fault (Option Nat × Source) :=
  let (digits, s') := takeWhileSkipping Char.isDigit s.dropBlanks
  let s'' := (takeWhileSkipping isBlank s').2
  if digits.isEmpty then .ok (none, s'')
  else
    let n := digits.foldl (fun n c => 10 * n + (c.toNat - '0'.toNat)) 0
    if n ≤ maxCount then .ok (some n, s'') else .error .badCount

/-- Whether the number is the code of a character. -/
def charOfCode? (n : Nat) : Option Char :=
  if h : n.isValidChar then some (Char.ofNatAux n h) else none

/-- Whether the character is a hexadecimal digit. -/
def isHexDigit (c : Char) : Bool := (hexValue? c).isSome

/-- Reads a given number of hexadecimal digits, blanks allowed between them. -/
def readHexDigits : Nat → Source → Except Fault (List Char × Source)
  | 0, s => .ok ([], s)
  | n + 1, s =>
    match s.first with
    | some c =>
      if isHexDigit c then do
        let (more, s') ← readHexDigits n s.advance
        return (c :: more, s')
      else throw .badEscape
    | none => throw .badEscape

/-- Reads the code of a character after `\x`, `\u` or `\U`: as many digits as the letter asks
for, or any number of them in braces. -/
def readHexEscape (letter : Char) (s : Source) : Except Fault (Written × Source) := do
  if s.first = some '\x7b' then
    let (ds, s') := takeWhileSkipping isHexDigit s.advance
    if s'.first ≠ some '\x7d' || ds.isEmpty then throw .badEscape
    match charOfCode? (hexNumber ds) with
    | some c => return (⟨c, false⟩, s'.advance)
    | none => throw .badEscape
  else
    let width := if letter = 'x' then 2 else if letter = 'u' then 4 else 8
    let (ds, s') ← readHexDigits width s
    match charOfCode? (hexNumber ds) with
    | some c => return (⟨c, letter = 'x'⟩, s')
    | none => throw .badEscape

/-- The part of `cs` before and after the first occurrence of `mark`. -/
def splitAt? (mark : List Char) : List Char → Option (List Char × List Char)
  | [] => if mark.isEmpty then some ([], []) else none
  | c :: rest =>
    if mark.isPrefixOf (c :: rest) then some ([], (c :: rest).drop mark.length)
    else (splitAt? mark rest).map fun (before, after) => (c :: before, after)

/-- The property that a text in braces asks for. -/
def PropertyName.ofText (text : List Char) : PropertyName :=
  match splitAt? ['!', '='] text with
  | some (name, value) => .valued name value true
  | none => match splitAt? [':'] text with
    | some (name, value) => .valued name value false
    | none => match splitAt? ['='] text with
      | some (name, value) => .valued name value false
      | none => .loose text

/-- Reads the name of a property: one letter, or a text in braces. -/
def readProperty (s : Source) : Except Fault (PropertyName × Source) :=
  match s.first with
  | none => .error .badEscape
  | some '\x7b' =>
    let (text, s') := takeWhileSkipping (· ≠ '\x7d') s.advance
    if s'.first = some '\x7d' then .ok (.ofText text, s'.next) else .error .badEscape
  | some c => if c = '\\' then .error .badProperty else .ok (.loose [c], s.advance)

/-- The characters with a meaning of their own. -/
def isMeta (c : Char) : Bool := "\\.+*?()|[]\x7b\x7d^$#&-~".toList.contains c

/-- Whether a backslash may stand before the character without giving it a meaning. -/
def isEscapable (c : Char) : Bool :=
  isMeta c || (c.toNat < 0x80 && !c.isAlphanum && c ≠ '<' && c ≠ '>')

/-- What a backslash and the characters behind it say. -/
inductive Escape
  | char (c : Written)
  | shorthand (kind : Shorthand) (negated : Bool)
  | property (name : PropertyName) (negated : Bool)
  | place (p : Place)

/-- The control character that a letter stands for. -/
def controlChar? (c : Char) : Option Char :=
  [('a', '\x07'), ('f', '\x0c'), ('t', '\t'), ('n', '\n'), ('r', '\r'), ('v', '\x0b')].lookup c

/-- The class that a letter stands for, and whether it is the complement. -/
def shorthand? (c : Char) : Option (Shorthand × Bool) :=
  [('d', .digit, false), ('D', .digit, true), ('s', .blank, false), ('S', .blank, true),
    ('w', .word, false), ('W', .word, true)].lookup c

/-- The place that a letter stands for. -/
def place? (c : Char) : Option Place :=
  [('A', .textStart), ('z', .textEnd), ('b', .wordEdge), ('B', .noWordEdge),
    ('<', .wordStart), ('>', .wordEnd)].lookup c

/-- The place that a word in braces after `\b` names. -/
def namedPlace? (word : List Char) : Option Place :=
  [("start", .wordStart), ("end", .wordEnd), ("start-half", .halfWordStart),
    ("end-half", .halfWordEnd)].lookup (String.ofList word)

/-- Reads what may follow `\b` in braces. A brace that holds no word belongs to a repetition. -/
def readWordPlace (s : Source) : Except Fault (Place × Source) := do
  if s.first ≠ some '\x7b' then return (.wordEdge, s)
  let inner := s.advance
  let isWord (c : Char) : Bool := c.isAlpha || c = '-'
  match inner.first with
  | none => throw .badCount
  | some c =>
    if isWord c then
      let (word, s') := takeWhileSkipping isWord inner
      match s'.first, namedPlace? word with
      | some '\x7d', some p => return (p, s'.next)
      | _, _ => throw .badEscape
    else return (.wordEdge, s)

/-- Reads what stands behind a backslash. -/
def readEscape (s : Source) : Except Fault (Escape × Source) := do
  match s.first with
  | none => throw .badEscape
  | some c =>
    if c.isDigit then throw .backReference
    if c = 'x' || c = 'u' || c = 'U' then
      let (w, s') ← readHexEscape c s.advance
      return (.char w, s')
    if c = 'p' || c = 'P' then
      let (name, s') ← readProperty s.advance
      return (.property name (c = 'P'), s')
    match shorthand? c with
    | some (kind, negated) => return (.shorthand kind negated, s.next)
    | none =>
      if isEscapable c then return (.char ⟨c, false⟩, s.next)
      match controlChar? c with
      | some control => return (.char ⟨control, false⟩, s.next)
      | none =>
        if c = 'b' then
          let (p, s') ← readWordPlace s.next
          return (.place p, s')
        match place? c with
        | some p => return (.place p, s.next)
        | none => throw .badEscape

/-! ### Classes -/

/-- The classes of ASCII characters that have a name. -/
def asciiClass? (name : List Char) : Option CharSet :=
  let of (pairs : List (Char × Char)) : CharSet :=
    .ofIntervals (pairs.map fun (low, high) => ⟨low.toNat, high.toNat⟩)
  [("alnum", of [('0', '9'), ('A', 'Z'), ('a', 'z')]),
    ("alpha", of [('A', 'Z'), ('a', 'z')]),
    ("ascii", of [('\x00', '\x7f')]),
    ("blank", of [('\t', '\t'), (' ', ' ')]),
    ("cntrl", of [('\x00', '\x1f'), ('\x7f', '\x7f')]),
    ("digit", of [('0', '9')]),
    ("graph", of [('!', '~')]),
    ("lower", of [('a', 'z')]),
    ("print", of [(' ', '~')]),
    ("punct", of [('!', '/'), (':', '@'), ('[', '\x60'), ('\x7b', '~')]),
    ("space", of [('\t', '\r'), (' ', ' ')]),
    ("upper", of [('A', 'Z')]),
    ("word", of [('0', '9'), ('A', 'Z'), ('_', '_'), ('a', 'z')]),
    ("xdigit", of [('0', '9'), ('A', 'F'), ('a', 'f')])].lookup (String.ofList name)

/-- Reads a class such as `[:alpha:]`, if one stands here. -/
def readAsciiClass? (s : Source) : Option (ClassExpr × Source) := do
  let body ← s.after? "[:"
  let (negated, body) := match body.after? "^" with
    | some rest => (true, rest)
    | none => (false, body)
  let name := body.rest.takeWhile (· ≠ ':')
  let rest ← Source.after? ":]" { body with rest := body.rest.drop name.length }
  let set ← asciiClass? name
  return (.ascii set negated, rest)

/-- The class of what has been read at a place where a class may stand. -/
def Escape.toClass : Escape → Except Fault ClassExpr
  | .char c => .ok (.range c c)
  | .shorthand kind negated => .ok (.shorthand kind negated)
  | .property name negated => .ok (.property name negated)
  | .place _ => .error .badClass

/-- The character of what has been read at an end of a range. -/
def Escape.toChar : Escape → Except Fault Written
  | .char c => .ok c
  | _ => .error .badClass

/-- Reads one member of a class. -/
def readMember (s : Source) : Except Fault (Escape × Source) :=
  match s.first with
  | none => .error .unclosedClass
  | some '\\' => readEscape s.next
  | some c => .ok (.char ⟨c, false⟩, s.next)

/-- Reads a member of a class or a range of characters. -/
def readRange (s : Source) : Except Fault (ClassExpr × Source) := do
  let (low, s') ← readMember s
  let s' := s'.skip
  if s'.rest.isEmpty then throw .unclosedClass
  let past := s'.secondPastBlanks
  if s'.first ≠ some '-' || past = some ']' || past = some '-' then
    return (← low.toClass, s')
  let s'' := s'.advance
  if s''.rest.isEmpty then throw .unclosedClass
  let (high, s''') ← readMember s''
  let lowChar ← low.toChar
  let highChar ← high.toChar
  if lowChar.char ≤ highChar.char then return (.range lowChar highChar, s''')
  else throw .badClass

/-- A bracket that is still open: the operand and operation before the items that have been
read last, and these items in reverse. -/
structure OpenClass where
  negated : Bool
  operand : Option (ClassOperation × ClassExpr)
  items : List ClassExpr

/-- The class that an open bracket holds so far. -/
def OpenClass.body (o : OpenClass) : ClassExpr :=
  match o.operand with
  | none => .union o.items.reverse
  | some (op, left) => .operation op left (.union o.items.reverse)

/-- Adds an item. -/
def OpenClass.push (o : OpenClass) (item : ClassExpr) : OpenClass :=
  { o with items := item :: o.items }

/-- Makes what has been read the left operand of an operation. -/
def OpenClass.operate (o : OpenClass) (op : ClassOperation) : OpenClass :=
  { o with operand := some (op, o.body), items := [] }

/-- Reads the start of a bracket: a caret, hyphens that stand for themselves, and a closing
bracket that comes first. -/
def readBracketStart (s : Source) : Except Fault (OpenClass × Source) := do
  let s := s.advance
  let (negated, s) := if s.first = some '^' then (true, s.advance) else (false, s)
  let (hyphens, s) := takeWhileSkipping (· = '-') s
  let literal (c : Char) : ClassExpr := .range ⟨c, false⟩ ⟨c, false⟩
  let items := hyphens.map literal
  let (items, s) := if items.isEmpty && s.first = some ']' then ([literal ']'], s.advance)
    else (items, s)
  if s.rest.isEmpty then throw .unclosedClass
  return (⟨negated, none, items⟩, s)

/-- The operation that stands here. -/
def classOperation? (s : Source) : Option ClassOperation :=
  match s.first, s.second with
  | some '&', some '&' => some .inter
  | some '-', some '-' => some .diff
  | some '~', some '~' => some .symmDiff
  | _, _ => none

/-- Reads the rest of a class inside the bracket `top`, whose surrounding brackets are
`below`. -/
def readClassBody : Nat → List OpenClass → OpenClass → Source →
    Except Fault (ClassExpr × Source)
  | 0, _, _, _ => .error .unclosedClass
  | fuel + 1, below, top, s => do
    let s := s.skip
    match s.first with
    | none => throw .unclosedClass
    | some '[' =>
      match readAsciiClass? s with
      | some (item, s') => readClassBody fuel below (top.push item) s'
      | none =>
        let (inner, s') ← readBracketStart s
        readClassBody fuel (top :: below) inner s'
    | some ']' =>
      let closed : ClassExpr := .bracket top.negated top.body
      match below with
      | [] => return (closed, s.next)
      | outer :: rest => readClassBody fuel rest (outer.push closed) s.next
    | some _ =>
      match classOperation? s with
      | some op => readClassBody fuel below (top.operate op) s.next.next
      | none =>
        let (item, s') ← readRange s
        readClassBody fuel below (top.push item) s'

/-- Reads a class in brackets. -/
def readClass (s : Source) : Except Fault (ClassExpr × Source) := do
  let (top, s') ← readBracketStart s
  readClassBody (s.rest.length + 1) [] top s'

/-! ### Groups -/

/-- The switch that a letter names. -/
def flag? (c : Char) : Option Flag :=
  [('i', .ignoreCase), ('m', .multiLine), ('s', .dotAll), ('U', .lazy), ('u', .unicode),
    ('R', .carriageReturn), ('x', .verbose)].lookup c

/-- Reads switches up to the end of their list. No switch may be named twice, and a hyphen
neither repeated nor last. -/
def readFlags (negated dangling : Bool) (change : FlagChange) :
    List Char → Except Fault (FlagChange × List Char)
  | [] => .error .badFlag
  | c :: rest =>
    if c = ':' || c = ')' then
      if dangling then .error .badFlag else .ok (change, c :: rest)
    else if c = '-' then
      if negated then .error .badFlag else readFlags true true change rest
    else match flag? c with
      | none => .error .badFlag
      | some f =>
        if change.on.contains f || change.off.contains f then .error .badFlag
        else
          let change := if negated then { change with off := f :: change.off }
            else { change with on := f :: change.on }
          readFlags negated false change rest

/-- The verbose switch after a change. -/
def FlagChange.verbose (change : FlagChange) (current : Bool) : Bool :=
  if change.on.contains .verbose then true
  else if change.off.contains .verbose then false
  else current

/-- Whether the character may stand in the name of a group. -/
def isNameChar (first : Bool) (c : Char) : Bool :=
  c = '_' || nameLetters.contains c ||
    (!first && (c = '.' || c = '[' || c = ']' || nameNumbers.contains c))

/-- Whether the text is the name of a group. -/
def isName : List Char → Bool
  | [] => false
  | c :: rest => isNameChar true c && rest.all (isNameChar false)

/-- What an opening parenthesis starts. -/
inductive Opening
  | group (captured : Bool) (change : FlagChange) (name : Option (List Char)) (s : Source)
  | switch (change : FlagChange) (s : Source)

/-- Reads what stands behind an opening parenthesis. -/
def readOpening (s : Source) : Except Fault Opening := do
  let s := s.skip
  if ["?=", "?!", "?<=", "?<!"].any fun start => (s.after? start).isSome then
    throw .lookAround
  match (s.after? "?P<").or (s.after? "?<") with
  | some s' =>
    let name := s'.rest.takeWhile (· ≠ '>')
    let s'' := { s' with rest := s'.rest.drop name.length }
    if isName name && s''.first = some '>' then return .group true ⟨[], []⟩ (some name) s''.next
    else throw .badName
  | none =>
    match s.after? "?" with
    | none => return .group true ⟨[], []⟩ none s
    | some s' =>
      if s'.rest.isEmpty then throw .unclosedGroup
      let (change, rest) ← readFlags false false ⟨[], []⟩ s'.rest
      let s'' := Source.next { s' with rest }
      if rest.head? = some ')' then
        if change.on.isEmpty && change.off.isEmpty then throw .nothingToRepeat
        return .switch change s''
      else return .group false change none s''

/-! ### Expressions -/

/-- A group that is still open: the branches and the parts of the last branch that have been
read, in reverse, whether its part of a text is captured, the switches that the group changes,
and the verbose switch outside it. -/
structure OpenGroup where
  captured : Bool
  change : FlagChange
  outerVerbose : Bool
  branches : List Expr
  parts : List Expr

/-- The expression of a list of parts in reverse. -/
def Expr.ofParts : List Expr → Expr
  | [] => .empty
  | [part] => part
  | parts => .concat parts.reverse

/-- The expression that an open group holds so far. -/
def OpenGroup.body (g : OpenGroup) : Expr :=
  match g.branches with
  | [] => .ofParts g.parts
  | branches => .alternation (Expr.ofParts g.parts :: branches).reverse

/-- Adds a part to the last branch. -/
def OpenGroup.push (g : OpenGroup) (part : Expr) : OpenGroup :=
  { g with parts := part :: g.parts }

/-- Starts a new branch. -/
def OpenGroup.branch (g : OpenGroup) : OpenGroup :=
  { g with branches := .ofParts g.parts :: g.branches, parts := [] }

/-- Whether the expression can be repeated. -/
def Expr.isRepeatable : Expr → Bool
  | .empty => false
  | .setFlags _ => false
  | _ => true

/-- Repeats the last part of a group. -/
def OpenGroup.repeatLast (g : OpenGroup) (least : Nat) (most : Option Nat) :
    Except Fault OpenGroup :=
  match g.parts with
  | [] => .error .nothingToRepeat
  | part :: rest =>
    if part.isRepeatable then .ok { g with parts := .repeated part least most :: rest }
    else .error .nothingToRepeat

/-- The source without a question mark at its start, which makes a repetition lazy. -/
def Source.dropLazy (s : Source) : Source :=
  if s.first = some '?' then s.next else s

/-- Reads a counted repetition. -/
def readRepetition (s : Source) : Except Fault (Nat × Option Nat × Source) := do
  let (least?, s') ← readCount s.advance
  if s'.first = some ',' then
    let s'' := s'.advance
    if s''.rest.isEmpty then throw .badCount
    match least? with
    | none => throw .badCount
    | some least =>
      if s''.first = some '\x7d' then return (least, none, s''.advance.dropLazy)
      let (most?, s''') ← readCount s''
      match most? with
      | none => throw .badCount
      | some most =>
        if s'''.first ≠ some '\x7d' || most < least then throw .badCount
        return (least, some most, s'''.advance.dropLazy)
  else
    match least? with
    | none => throw .badCount
    | some least =>
      if s'.first ≠ some '\x7d' then throw .badCount
      return (least, some least, s'.advance.dropLazy)

/-- The expression of what stands behind a backslash. -/
def Escape.toExpr : Escape → Expr
  | .char c => .literal c
  | .shorthand kind negated => .charClass (.shorthand kind negated)
  | .property name negated => .charClass (.property name negated)
  | .place p => .place p

/-- Reads a character, a dot, an anchor or an escape. -/
def readAtom (c : Char) (s : Source) : Except Fault (Expr × Source) :=
  match c with
  | '\\' => do
    let (escape, s') ← readEscape s.next
    return (escape.toExpr, s')
  | '.' => .ok (.dot, s.next)
  | '^' => .ok (.place .lineStart, s.next)
  | '$' => .ok (.place .lineEnd, s.next)
  | c => .ok (.literal ⟨c, false⟩, s.next)

/-- Reads the rest of an expression inside the group `top`, whose surrounding groups are
`below`; `names` are those of the groups so far. -/
def readBody : Nat → List (List Char) → List OpenGroup → OpenGroup → Source → Except Fault Expr
  | 0, _, _, _, _ => .error .unclosedGroup
  | fuel + 1, names, below, top, s => do
    let s := s.skip
    match s.first with
    | none => if below.isEmpty then return top.body else throw .unclosedGroup
    | some '(' =>
      match ← readOpening s.next with
      | .switch change s' =>
        readBody fuel names below (top.push (.setFlags change))
          { s' with verbose := change.verbose s'.verbose }
      | .group captured change name s' =>
        if name.any names.contains then throw .badName
        readBody fuel (name.toList ++ names) (top :: below) ⟨captured, change, s'.verbose, [], []⟩
          { s' with verbose := change.verbose s'.verbose }
    | some ')' =>
      match below with
      | [] => throw .unopenedGroup
      | outer :: rest =>
        readBody fuel names rest (outer.push (.group top.captured top.change top.body))
          { s.next with verbose := top.outerVerbose }
    | some '|' => readBody fuel names below top.branch s.next
    | some '[' =>
      let (c, s') ← readClass s
      readBody fuel names below (top.push (.charClass c)) s'
    | some '?' => readBody fuel names below (← top.repeatLast 0 (some 1)) s.next.dropLazy
    | some '*' => readBody fuel names below (← top.repeatLast 0 none) s.next.dropLazy
    | some '+' => readBody fuel names below (← top.repeatLast 1 none) s.next.dropLazy
    | some '\x7b' =>
      let (least, most, s') ← readRepetition s
      readBody fuel names below (← top.repeatLast least most) s'
    | some c =>
      let (part, s') ← readAtom c s
      readBody fuel names below (top.push part) s'

/-! ### Depth -/

mutual

/-- How deep brackets, operations and lists of several items nest in a class. -/
def ClassExpr.depth : ClassExpr → Nat
  | .bracket _ body => body.depth + 1
  | .union items => ClassExpr.depthOfItems items + (if items.length ≤ 1 then 0 else 1)
  | .operation _ left right => max left.depth right.depth + 1
  | _ => 0

/-- How deep the deepest of several items nests. -/
def ClassExpr.depthOfItems : List ClassExpr → Nat
  | [] => 0
  | item :: rest => max item.depth (depthOfItems rest)

end

mutual

/-- How deep groups, repetitions, branches and sequences nest in an expression. -/
def Expr.depth : Expr → Nat
  | .charClass c => c.depth
  | .repeated body _ _ => body.depth + 1
  | .group _ _ body => body.depth + 1
  | .alternation branches => Expr.depthOfParts branches + 1
  | .concat parts => Expr.depthOfParts parts + 1
  | _ => 0

/-- How deep the deepest of several expressions nests. -/
def Expr.depthOfParts : List Expr → Nat
  | [] => 0
  | part :: rest => max part.depth (depthOfParts rest)

end

/-- The depth up to which an expression may nest. -/
def maxNesting : Nat := 250

/-- Reads a regular expression. -/
def Expr.ofSource? (source : String) (verbose : Bool) : Except Fault Expr := do
  let cs := source.toList
  let e ← readBody (cs.length + 1) [] [] ⟨false, ⟨[], []⟩, verbose, [], []⟩ ⟨cs, verbose⟩
  if e.depth ≤ maxNesting then return e else throw .tooDeep

end DocQuery.Regex
