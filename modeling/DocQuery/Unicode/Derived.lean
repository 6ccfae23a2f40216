import DocQuery.Unicode.Boundary
import DocQuery.Unicode.CaseFold
import DocQuery.Unicode.Category
import DocQuery.Unicode.Property

/-!
# Derived properties

Some properties of characters follow from others: the larger categories are unions of the
two-letter ones, a letter is alphabetic, and a mark that does not take room of its own extends
the character before it. The standard says how, and the sets here are worked out as it says.
-/

namespace DocQuery.Unicode

/-- The characters with one of the two-letter categories. -/
def withCategory (names : List String) : CharSet :=
  .unions (names.map (namedSet categoryTable))

/-- The characters with a property of its own. -/
def withProperty (name : String) : CharSet := namedSet propertyTable name

/-- The few characters that a rule treats apart. -/
def exceptions (row : String) : CharSet := .ofRows [row]

/-! ### General categories -/

/-- The two-letter categories whose names start with the given letter. -/
def majorCategory (letter : Char) : CharSet :=
  let isOf (name : String) : Bool := name.length == 2 && name.startsWith letter.toString
  .unions ((categoryTable.filter fun t => t.names.any isOf).map Table.set)

/-- Every character with an assigned category. -/
def assigned : CharSet := .unions (categoryTable.map Table.set)

/-- The characters on both sides of the surrogates, and the surrogates, in one interval. -/
def acrossSurrogates : CharSet := ⟨[.spanning beforeSurrogates behindSurrogates]⟩

/-- The categories that are unions of others. -/
def unionCategories : List DerivedSet := [
  ⟨["l", "letter"], fun _ => majorCategory 'l'⟩,
  ⟨["m", "mark", "combiningmark"], fun _ => majorCategory 'm'⟩,
  ⟨["n", "number"], fun _ => majorCategory 'n'⟩,
  ⟨["p", "punctuation", "punct"], fun _ => majorCategory 'p'⟩,
  ⟨["s", "symbol"], fun _ => majorCategory 's'⟩,
  ⟨["z", "separator"], fun _ => majorCategory 'z'⟩,
  ⟨["c", "other"], fun _ => .unions [majorCategory 'c', assigned.compl, acrossSurrogates]⟩,
  ⟨["cn", "unassigned"], fun _ => assigned.compl⟩,
  ⟨["lc", "casedletter"], fun _ => withCategory ["lu", "ll", "lt"]⟩,
  ⟨["any"], fun _ => .all⟩,
  ⟨["assigned"], fun _ => assigned⟩,
  ⟨["ascii"], fun _ => ⟨[⟨0, 0x7F⟩]⟩⟩]

/-! ### Letters, digits and marks -/

/-- The alphabetic characters: letters, numbers that are letters, and some marks and signs. -/
def alphabetic : CharSet :=
  .unions [majorCategory 'l', withCategory ["nl"], withProperty "oalpha"]

/-- The decimal digits of all scripts. -/
def digits : CharSet := withCategory ["nd"]

/-- The characters of white space. -/
def blanks : CharSet := withProperty "wspace"

/-- The small letters. -/
def lowercase : CharSet := (withCategory ["ll"]).union (withProperty "olower")

/-- The capital letters. -/
def uppercase : CharSet := (withCategory ["lu"]).union (withProperty "oupper")

/-- The capital letters and the letters that start with one. -/
def capitals : CharSet := uppercase.union (withCategory ["lt"])

/-- The marks that extend the character before them. -/
def graphemeExtend : CharSet := (withCategory ["me", "mn"]).union (withProperty "ogrext")

/-- The characters that a display may ignore if it does not support them. -/
def ignorable : CharSet :=
  (CharSet.unions [withProperty "odi", withCategory ["cf"], withProperty "vs"]).diff
    (.unions [blanks, exceptions "fff9-fffb 13430-13440", withProperty "pcm"])

/-! ### Identifiers -/

/-- The characters that patterns keep for themselves. -/
def patternCharacters : CharSet := (withProperty "patsyn").union (withProperty "patws")

/-- The characters that start an identifier. -/
def identifierStart : CharSet :=
  (CharSet.unions [majorCategory 'l', withCategory ["nl"], withProperty "oids"]).diff
    patternCharacters

/-- The characters that go on with an identifier. -/
def identifierContinue : CharSet :=
  (CharSet.unions [identifierStart, withCategory ["mn", "mc", "nd", "pc"],
    withProperty "oidc"]).diff patternCharacters

/-- The characters that can go on with an identifier, but not after normalization. -/
def unstableContinue : CharSet :=
  exceptions "37a 309b-309c fc5e-fc63 fdfa-fdfb fe70 fe72 fe74 fe76 fe78 fe7a fe7c fe7e"

/-- The characters that can start an identifier, but not after normalization. -/
def unstableStart : CharSet := unstableContinue.union (exceptions "e33 eb3 ff9e-ff9f")

/-! ### Changes of case -/

/-- The groups of characters that differ only in case. The first one of a group is what folding
makes of all. -/
def caseGroups : List (List Nat) := tableWords caseGroupRows

/-- The set of the characters with the given codes. -/
def CharSet.ofCodes (codes : List Nat) : CharSet :=
  .ofIntervals (codes.map fun code => ⟨code, code⟩)

/-- The characters that come in more than one case. -/
def caseVariants : CharSet := .ofCodes caseGroups.flatten

/-- The characters that folding makes of others. -/
def foldedForms : CharSet := .ofCodes (caseGroups.filterMap List.head?)

/-- The small letters that several characters stand for in capitals. -/
def expandingLetters : CharSet :=
  .ofRows ["131 149 1f0 587 1e96-1e9a 1f50 1f52 1f54 1f56 1fb2 1fb4 1fb6-1fb7 1fc2 1fc4 1fc6-1fc7",
    "1fd2 1fd6-1fd7 1fe2 1fe4 1fe6-1fe7 1ff2 1ff4 1ff6-1ff7 fb00-fb04 fb13-fb17"]

/-- The characters that several characters stand for when folded. -/
def expandingFolds : CharSet :=
  .ofRows ["df 130 149 587 1e9a 1f80-1f87 1f90-1f97 1fa0-1fa7 1fb2-1fb4 1fb7 1fc2-1fc4 1fc7",
    "1ff2-1ff4 1ff7 fb00-fb04 fb06 fb13-fb17"]

/-- The characters that change in small letters. -/
def changesInSmall : CharSet := (caseVariants.inter capitals).union (exceptions "130")

/-- The characters that change in capitals. -/
def changesInCapitals : CharSet := (caseVariants.diff uppercase).union expandingLetters

/-- The characters that change at the start of a title. The letters of Georgian do not, and
capital letters that stand for two do. -/
def changesInTitles : CharSet :=
  .unions [caseVariants.diff (capitals.union (exceptions "10d0-10fa 10fd-10ff")),
    expandingLetters, exceptions "1c4 1c7 1ca 1f1"]

/-- The characters that change when folded, after being taken apart. -/
def changesInFolding : CharSet :=
  ((caseVariants.diff foldedForms).union expandingFolds).diff (exceptions "1fbe 1fd3 1fe3")

/-! ### The derived properties -/

/-- The properties that follow from others. -/
def derivedProperties : List DerivedSet := [
  ⟨["alpha", "alphabetic"], fun _ => alphabetic⟩,
  ⟨["ci", "caseignorable"], fun _ =>
    .unions [withCategory ["mn", "me", "cf", "lm", "sk"], innerLetterMarks, innerMarks,
      exceptions "27"]⟩,
  ⟨["cased"], fun _ => lowercase.union capitals⟩,
  ⟨["cwcf", "changeswhencasefolded"], fun _ => changesInFolding⟩,
  ⟨["cwcm", "changeswhencasemapped"], fun _ =>
    .unions [changesInSmall, changesInCapitals, changesInTitles]⟩,
  ⟨["cwl", "changeswhenlowercased"], fun _ => changesInSmall⟩,
  ⟨["cwt", "changeswhentitlecased"], fun _ => changesInTitles⟩,
  ⟨["cwu", "changeswhenuppercased"], fun _ => changesInCapitals⟩,
  ⟨["di", "defaultignorablecodepoint"], fun _ => ignorable⟩,
  ⟨["grbase", "graphemebase"], fun _ =>
    assigned.diff ((withCategory ["cc", "cf", "co", "zl", "zp"]).union graphemeExtend)⟩,
  ⟨["grext", "graphemeextend"], fun _ => graphemeExtend⟩,
  ⟨["idc", "idcontinue"], fun _ => identifierContinue⟩,
  ⟨["ids", "idstart"], fun _ => identifierStart⟩,
  ⟨["lower", "lowercase"], fun _ => lowercase⟩,
  ⟨["math"], fun _ => (withCategory ["sm"]).union (withProperty "omath")⟩,
  ⟨["upper", "uppercase"], fun _ => uppercase⟩,
  ⟨["xidc", "xidcontinue"], fun _ => identifierContinue.diff unstableContinue⟩,
  ⟨["xids", "xidstart"], fun _ => identifierStart.diff unstableStart⟩]

end DocQuery.Unicode
