import DocQuery.Unicode.Classes

/-!
# Quoted text

A text is quoted between double quotes. A quote and a backslash inside it follow a backslash,
four control characters have letters of their own, and every other character that would not be
seen by itself is given by its number in braces.
-/

namespace DocQuery.Text

open DocQuery.Unicode

/-- The characters that are not seen by themselves: control and format characters, blanks other
than the space, unassigned and private code points, characters that join the one before them,
and characters that may be ignored in display. -/
def hidden : CharSet :=
  CharSet.diff
    (.unions [(assigned.union newCharacters).compl, majorCategory 'c', majorCategory 'z',
      graphemeExtend, newExtenders, ignorable])
    (.single ' ')

/-- Whether the character stands for itself between quotes. -/
def isPlain (c : Char) : Bool :=
  if c.toNat < 0x80 then 0x20 ≤ c.toNat && c.toNat < 0x7F else !hidden.contains c

/-- The letter that stands for a character after a backslash. -/
def escapeLetter? (c : Char) : Option Char :=
  match c with
  | '"' => some '"'
  | '\\' => some '\\'
  | '\t' => some 't'
  | '\n' => some 'n'
  | '\r' => some 'r'
  | '\x00' => some '0'
  | _ => none

/-- The digits of a number in base sixteen. -/
def hexDigits (n : Nat) : List Char := Nat.toDigits 16 n

/-- A character as it is written between quotes. -/
def escape (c : Char) : List Char :=
  match escapeLetter? c with
  | some letter => ['\\', letter]
  | none => if isPlain c then [c] else ['\\', 'u', '\x7b'] ++ hexDigits c.toNat ++ ['\x7d']

/-- The text between double quotes. -/
def quote (s : String) : String :=
  String.ofList ('"' :: s.toList.flatMap escape ++ ['"'])

end DocQuery.Text
