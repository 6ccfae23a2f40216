import DocQuery.Unicode.Derived

/-!
# Segments of a text

A text falls into units that are seen as one character, into words and into sentences. Where it
falls depends on the class of the characters on both sides, and each kind of unit has classes
of its own. A character belongs to at most one class of a kind.
-/

namespace DocQuery.Unicode

/-! ### Units that are seen as one character -/

/-- The syllables of Hangul without a final consonant. Each is followed by its 27 syllables
with one. -/
def openSyllables : CharSet := .ofCodes ((List.range 399).map fun n => 0xAC00 + 28 * n)

/-- The characters that control a text, and code points that are to be ignored. -/
def controls : CharSet :=
  ((withCategory ["cc", "cf", "zl", "zp"]).union (ignorable.diff assigned)).diff
    (.unions [exceptions "a d 200d", withProperty "pcm", graphemeExtend])

/-- The classes of characters in units that are seen as one. -/
def graphemeClasses : List DerivedSet := [
  ⟨["cn", "control"], fun _ => controls⟩,
  ⟨["cr"], fun _ => exceptions "d"⟩,
  ⟨["ex", "extend"], fun _ => graphemeExtend.union (withProperty "emod")⟩,
  ⟨["l"], fun _ => hangulLeading⟩,
  ⟨["lf"], fun _ => exceptions "a"⟩,
  ⟨["lv"], fun _ => openSyllables⟩,
  ⟨["lvt"], fun _ => (exceptions "ac00-d7a3").diff openSyllables⟩,
  ⟨["pp", "prepend"], fun _ => (withProperty "pcm").union prependedLetters⟩,
  ⟨["ri", "regionalindicator"], fun _ => withProperty "ri"⟩,
  ⟨["sm", "spacingmark"], fun _ =>
    ((withCategory ["mc"]).diff (graphemeExtend.union unjoinedMarks)).union
      (exceptions "e33 eb3")⟩,
  ⟨["t"], fun _ => hangulTrailing⟩,
  ⟨["v"], fun _ => hangulVowels⟩,
  ⟨["zwj"], fun _ => exceptions "200d"⟩]

/-! ### Words -/

/-- The characters that count as digits. -/
def numerals : CharSet := digits.union numberLikes

/-- The characters that extend the character before them in a word. -/
def wordExtend : CharSet :=
  .unions [graphemeExtend, withCategory ["mc"], withProperty "emod"]

/-- The classes of characters in words. -/
def wordClasses : List DerivedSet := [
  ⟨["le", "aletter"], fun _ =>
    (alphabetic.union letterLikes).diff
      (.unions [withProperty "ideo", katakanaLetters, hebrewLetters, unspacedLetters,
        wordExtend])⟩,
  ⟨["cr"], fun _ => exceptions "d"⟩,
  ⟨["dq", "doublequote"], fun _ => exceptions "22"⟩,
  ⟨["ex", "extendnumlet"], fun _ => connectingMarks⟩,
  ⟨["extend"], fun _ => wordExtend⟩,
  ⟨["fo", "format"], fun _ =>
    (withCategory ["cf"]).diff
      (.unions [numerals, letterLikes, wordExtend, exceptions "200b 200d"])⟩,
  ⟨["hl", "hebrewletter"], fun _ => hebrewLetters⟩,
  ⟨["ka", "katakana"], fun _ => katakanaLetters⟩,
  ⟨["lf"], fun _ => exceptions "a"⟩,
  ⟨["mb", "midnumlet"], fun _ => innerMarks⟩,
  ⟨["ml", "midletter"], fun _ => innerLetterMarks⟩,
  ⟨["mn", "midnum"], fun _ => innerNumberMarks⟩,
  ⟨["nl", "newline"], fun _ => newlines⟩,
  ⟨["nu", "numeric"], fun _ => numerals.diff innerNumberMarks⟩,
  ⟨["ri", "regionalindicator"], fun _ => withProperty "ri"⟩,
  ⟨["sq", "singlequote"], fun _ => exceptions "27"⟩,
  ⟨["wsegspace"], fun _ => wordBlanks⟩,
  ⟨["zwj"], fun _ => exceptions "200d"⟩]

/-! ### Sentences -/

/-- The characters that extend the character before them in a sentence. -/
def sentenceExtend : CharSet :=
  .unions [graphemeExtend, withCategory ["mc"], exceptions "200d"]

/-- The small letters, after which a sentence may go on. -/
def smallLetters : CharSet := lowercase.diff (graphemeExtend.union caselessSmall)

/-- The capital letters, which may start a sentence. -/
def capitalLetters : CharSet := capitals.diff caselessCapitals

/-- The classes of characters in sentences. -/
def sentenceClasses : List DerivedSet := [
  ⟨["at", "aterm"], fun _ => fullStops⟩,
  ⟨["cl", "close"], fun _ =>
    (CharSet.unions [withCategory ["ps", "pe", "pi", "pf"], withProperty "qmark",
      closingOrnaments]).diff (exceptions "ff02 ff07")⟩,
  ⟨["cr"], fun _ => exceptions "d"⟩,
  ⟨["ex", "extend"], fun _ => sentenceExtend⟩,
  ⟨["fo", "format"], fun _ => (withCategory ["cf"]).diff (numerals.union sentenceExtend)⟩,
  ⟨["le", "oletter"], fun _ =>
    (alphabetic.union (exceptions "5f3")).diff
      (.unions [smallLetters, capitalLetters, sentenceExtend])⟩,
  ⟨["lf"], fun _ => exceptions "a"⟩,
  ⟨["lo", "lower"], fun _ => smallLetters⟩,
  ⟨["nu", "numeric"], fun _ => numerals⟩,
  ⟨["sc", "scontinue"], fun _ => continuingMarks⟩,
  ⟨["se", "sep"], fun _ => paragraphMarks⟩,
  ⟨["sp"], fun _ => blanks.diff (paragraphMarks.union (exceptions "a d"))⟩,
  ⟨["st", "sterm"], fun _ => (withProperty "sterm").diff fullStops⟩,
  ⟨["up", "upper"], fun _ => capitalLetters⟩]

end DocQuery.Unicode
