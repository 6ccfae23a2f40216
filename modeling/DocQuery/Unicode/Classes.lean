import DocQuery.Unicode.Age
import DocQuery.Unicode.NextEdition
import DocQuery.Unicode.Script
import DocQuery.Unicode.Segment

/-!
# Named classes of characters

A class of characters is asked for by a loose name, in which case, blanks, hyphens and
underscores and a leading `is` do not matter, or by a property and a value. The classes of
words, digits and blanks are those of Unicode.
-/

namespace DocQuery.Unicode

/-- The normal form of a loosely written name. -/
def looseName (name : List Char) : List Char :=
  let lower := name.map Char.toLower
  let (stripped, body) := match lower with
    | 'i' :: 's' :: rest => (true, rest)
    | _ => (false, lower)
  let kept := body.filter fun c => c != ' ' && c != '_' && c != '-' && c.toNat < 0x80
  if stripped && kept == ['c'] then ['i', 's', 'c'] else kept

/-! ### Properties and their values -/

/-- The characters of a general category given by its normal name. -/
def category? (name : String) : Option CharSet :=
  (findDerived? unionCategories name).or ((findTable? categoryTable name).map Table.set)

/-- The characters that have a property given by its normal name. -/
def property? (name : String) : Option CharSet :=
  (findDerived? derivedProperties name).or ((findTable? propertyTable name).map Table.set)

/-- The characters of a script given by its normal name. -/
def script? (name : String) : Option CharSet :=
  (findTable? scriptTable name).map Table.set

/-- The characters that are used with a script given by its normal name. What is common to all
scripts, or takes the script of the character before it, is used with no script in
particular. -/
def scriptExtension? (name : String) : Option CharSet :=
  (findTable? scriptTable name).map fun t =>
    if t.names.contains "common" || t.names.contains "inherited" then
      t.set.diff (.unions (scriptExtensionTable.map Table.set))
    else t.set.union (namedSet scriptExtensionTable name)

/-- The code points in use by the edition of the given name, where the list holds the editions
to come and `earlier` what the ones before brought into use. -/
def usedBy? (name : String) (earlier : List CharSet) : List Table → Option CharSet
  | [] => none
  | t :: later =>
    if t.names.contains name then some (.unions (t.set :: earlier))
    else usedBy? name (t.set :: earlier) later

/-- The class with a loose name: a property, a category or a script. The names `cf`, `sc` and
`lc` are categories. -/
def namedClass? (name : List Char) : Option CharSet :=
  let key := String.ofList (looseName name)
  let asProperty := if key = "cf" || key = "sc" || key = "lc" then none else property? key
  (asProperty.or (category? key)).or (script? key)

/-- The class of the characters for which a property has a value, both loosely named. -/
def valuedClass? (property value : List Char) : Option CharSet :=
  let key := String.ofList (looseName property)
  let name := String.ofList (looseName value)
  if key = "gc" || key = "generalcategory" then category? name
  else if key = "sc" || key = "script" then script? name
  else if key = "scx" || key = "scriptextensions" then scriptExtension? name
  else if key = "age" then usedBy? name [] ageTable
  else if key = "gcb" || key = "graphemeclusterbreak" then findDerived? graphemeClasses name
  else if key = "wb" || key = "wordbreak" then findDerived? wordClasses name
  else if key = "sb" || key = "sentencebreak" then findDerived? sentenceClasses name
  else none

/-! ### Words and names -/

/-- The characters of words: alphabetic characters, marks, decimal digits, connectors and
joiners. -/
def wordCharacters : CharSet :=
  .unions [alphabetic, majorCategory 'm', digits, withCategory ["pc"], withProperty "joinc"]

/-- The letters of names, which follow the next edition. -/
def nameLetters : CharSet := alphabetic.union newLetters

/-- The numbers in names, which follow the next edition. -/
def nameNumbers : CharSet := (majorCategory 'n').union newNumbers

/-! ### Case -/

/-- The set together with every character that differs only in case from one of its members. -/
def CharSet.foldCase (s : CharSet) : CharSet :=
  let touched := caseGroups.filter fun group => group.any fun code => holds code s.intervals
  .ofIntervals (s.intervals ++ touched.flatMap fun group => group.map fun code => ⟨code, code⟩)

/-- The set together with the other case of its ASCII letters. -/
def CharSet.foldAsciiCase (s : CharSet) : CharSet :=
  let letters := (List.range 26).map (0x41 + ·)
  let touched := letters.filter fun code =>
    holds code s.intervals || holds (code + 32) s.intervals
  .ofIntervals (s.intervals ++ touched.flatMap fun code => [⟨code, code⟩, ⟨code + 32, code + 32⟩])

end DocQuery.Unicode
