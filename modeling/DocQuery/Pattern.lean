import DocQuery.Regex.Matching
import DocQuery.Regex.Size

/-!
# Patterns

A pattern is a regular expression with the letters of its flags. Two patterns are equal when
their sources and flags are.
-/

namespace DocQuery

/-- The number of bytes up to which the source of a pattern may be long. -/
def maxPatternLength : Nat := 4096

/-- The reason for which a pattern is refused. -/
inductive PatternError
  | tooLong (length : Nat)
  | unknownFlag (source : String) (flag : Char)
  | malformed (source : String) (fault : Regex.Fault)
deriving DecidableEq, Repr

/-- The flags of a pattern: those of the expression, and whether blanks in it are skipped. -/
structure PatternFlags where
  flags : Regex.Flags
  verbose : Bool

/-- The flags of a pattern without letters. -/
def PatternFlags.none : PatternFlags := ⟨⟨false, false, false, true, false⟩, false⟩

/-- Turns on the flag of a letter. -/
def PatternFlags.add? (f : PatternFlags) : Char → Option PatternFlags
  | 'i' => some { f with flags := { f.flags with ignoreCase := true } }
  | 'm' => some { f with flags := { f.flags with multiLine := true } }
  | 's' => some { f with flags := { f.flags with dotAll := true } }
  | 'x' => some { f with verbose := true }
  | _ => Option.none

/-- The flags of a list of letters, or the first letter that is none. -/
def PatternFlags.ofLetters (f : PatternFlags) : List Char → Except Char PatternFlags
  | [] => .ok f
  | c :: rest => match f.add? c with
    | some f' => f'.ofLetters rest
    | Option.none => .error c

/-- The term that a source with flags means. The length is checked first and the letters of
the flags before the source. -/
def Pattern.read (source flags : String) : Except PatternError Regex.Term :=
  if source.utf8ByteSize > maxPatternLength then .error (.tooLong source.utf8ByteSize)
  else match PatternFlags.none.ofLetters flags.toList with
    | .error c => .error (.unknownFlag source c)
    | .ok f => match Regex.Term.ofSource? source f.flags f.verbose with
      | .error fault => .error (.malformed source fault)
      | .ok t => .ok t

/-- A regular expression that has been read. -/
structure Pattern where
  source : String
  flags : String
  term : Regex.Term
  read_eq : Pattern.read source flags = .ok term

namespace Pattern

/-- The pattern of a source with flags. -/
def ofSource? (source flags : String) : Except PatternError Pattern :=
  match h : read source flags with
  | .ok term => .ok ⟨source, flags, term, h⟩
  | .error e => .error e

instance : BEq Pattern := ⟨fun p q => p.source == q.source && p.flags == q.flags⟩

/-- A pattern is determined by its source and flags. -/
theorem ext_of_source {p q : Pattern} (hs : p.source = q.source) (hf : p.flags = q.flags) :
  p = q
  := by
  obtain ⟨s, f, t, h⟩ := p
  obtain ⟨s', f', t', h'⟩ := q
  subst hs hf
  have ht : t = t' := Except.ok.inj (h.symm.trans h')
  subst ht
  rfl

instance : LawfulBEq Pattern where
  rfl := by simp [BEq.beq]
  eq_of_beq h := by
    simp only [BEq.beq, Bool.and_eq_true, decide_eq_true_eq] at h
    apply ext_of_source h.1 h.2

/-- Whether some part of the text matches the pattern. -/
def isMatch (p : Pattern) (text : String) : Bool := p.term.occursIn text

/-- The pattern between slashes, with its flags behind. -/
def render (p : Pattern) : String := "/" ++ p.source ++ "/" ++ p.flags

/-- The full text of a pattern. -/
def dump (p : Pattern) : String := "Pattern(" ++ p.render ++ ")"

end Pattern

end DocQuery
