import DocQuery.Unicode.CharSet

/-!
# Boundaries

The characters that matter for where a text falls into units that are seen as one character,
into words and into sentences, as far as other properties do not tell, as rows of code point
intervals in hexadecimal.
-/

namespace DocQuery.Unicode

/-! ### Units that are seen as one character -/

/-- The consonants that start a syllable of Hangul. -/
def hangulLeading : CharSet := .ofRows
  ["1100-115f a960-a97c"]

/-- The vowels of Hangul and of scripts that join vowels alike. -/
def hangulVowels : CharSet := .ofRows
  ["1160-11a7 d7b0-d7c6 16d63 16d67-16d6a"]

/-- The consonants that end a syllable of Hangul. -/
def hangulTrailing : CharSet := .ofRows
  ["11a8-11ff d7cb-d7fb"]

/-- The letters and signs that join the character behind them. -/
def prependedLetters : CharSet := .ofRows
  ["d4e 111c2-111c3 113d1 1193f 11941 11a3a 11a84-11a89 11d46 11f02"]

/-- The spacing marks that do not join the character before them. -/
def unjoinedMarks : CharSet := .ofRows
  ["102b-102c 1038 1062-1064 1067-106d 1083 1087-108c 108f 109a-109c 1a61 1a63-1a64 aa7b aa7d",
   "11720-11721"]

/-! ### Words -/

/-- The letters and marks of Katakana. -/
def katakanaLetters : CharSet := .ofRows
  ["3031-3035 309b-309c 30a0-30fa 30fc-30ff 31f0-31ff 32d0-32fe 3300-3357 ff66-ff9d 1aff0-1aff3",
   "1aff5-1affb 1affd-1affe 1b000 1b120-1b122 1b155 1b164-1b167"]

/-- The letters of Hebrew. -/
def hebrewLetters : CharSet := .ofRows
  ["5d0-5ea 5ef-5f2 fb1d fb1f-fb28 fb2a-fb36 fb38-fb3c fb3e fb40-fb41 fb43-fb44 fb46-fb4f"]

/-- The characters that count as letters of words without being alphabetic. -/
def letterLikes : CharSet := .ofRows
  ["b8 2c2-2c5 2d2-2d7 2de-2df 2e5-2eb 2ed 2ef-2ff 55a-55c 55e 58a 5f3 70f a708-a716 a720-a721",
   "a789-a78a ab5b"]

/-- The letters of scripts that are written without blanks between words. -/
def unspacedLetters : CharSet := .ofRows
  ["e01-e30 e32-e33 e40-e46 e81-e82 e84 e86-e8a e8c-ea3 ea5 ea7-eb0 eb2-eb3 ebd ec0-ec4 ec6",
   "edc-edf 1000-102a 103f 1050-1055 105a-105d 1061 1065-1066 106e-1070 1075-1081 108e",
   "1780-17b3 17d7 17dc 1950-196d 1970-1974 1980-19ab 19b0-19c9 1a20-1a54 1aa7 3041-3096",
   "309d-309f a9e0-a9e4 a9e6-a9ef a9fa-a9fe aa60-aa76 aa7a aa7e-aaaf aab1 aab5-aab6 aab9-aabd",
   "aac0 aac2 aadb-aadd 11700-1171a 11740-11746 1b001-1b11f 1b132 1b150-1b152"]

/-- The characters that count as digits without being decimal digits. -/
def numberLikes : CharSet := .ofRows
  ["600-605 66b-66c 6dd 890-891 8e2 19da 110bd 110cd"]

/-- The characters that join words and numbers. -/
def connectingMarks : CharSet := .ofRows
  ["5f 202f 203f-2040 2054 fe33-fe34 fe4d-fe4f ff3f"]

/-- The characters that join letters only. -/
def innerLetterMarks : CharSet := .ofRows
  ["3a b7 387 55f 5f4 2027 fe13 fe55 ff1a"]

/-- The characters that join digits only. -/
def innerNumberMarks : CharSet := .ofRows
  ["2c 3b 37e 589 60c-60d 66c 7f8 2044 fe50 fe54 ff0c ff1b"]

/-- The characters that join letters as well as digits. -/
def innerMarks : CharSet := .ofRows
  ["2e 2018-2019 2024 fe52 ff07 ff0e"]

/-- The characters that end a line. -/
def newlines : CharSet := .ofRows
  ["b-c 85 2028-2029"]

/-- The blanks that stay together between words. -/
def wordBlanks : CharSet := .ofRows
  ["20 1680 2000-2006 2008-200a 205f 3000"]

/-! ### Sentences -/

/-- The full stops, which may also stand inside a sentence. -/
def fullStops : CharSet := .ofRows
  ["2e 2024 fe52 ff0e"]

/-- The quotation marks and brackets that no other property tells. -/
def closingOrnaments : CharSet := .ofRows
  ["275b-2760 2e00-2e01 2e06-2e08 2e0b 1f676-1f678"]

/-- The characters after which a sentence goes on. -/
def continuingMarks : CharSet := .ofRows
  ["2c-2d 3a-3b 37e 55d 60c-60d 7f8 1802 1808 2013-2014 3001 fe10-fe11 fe13-fe14 fe31-fe32",
   "fe50-fe51 fe54-fe55 fe58 fe63 ff0c-ff0d ff1a-ff1b ff64"]

/-- The characters that end a paragraph. -/
def paragraphMarks : CharSet := .ofRows
  ["85 2028-2029"]

/-- The small letters that stand at the start of a sentence, too. -/
def caselessSmall : CharSet := .ofRows
  ["10d0-10fa 10fd-10ff"]

/-- The capital letters that do not start a sentence. -/
def caselessCapitals : CharSet := .ofRows
  ["1c90-1cba 1cbd-1cbf"]

end DocQuery.Unicode
