import Packrat.Text.Property

/-!
# Segments of text

The classes of characters by which a text is parted into clusters that look like one character, into
words, and into sentences. Every class follows other properties up to a few characters, and is
written down so.
-/

namespace Packrat.Text

/-- A class of characters: its names, the properties whose characters are in it, the properties
whose characters are not though they have one of the former, the characters that are in it besides,
and those that are not. -/
structure Segment where
  names : List String
  properties : List String
  without : List String
  others : String
  exceptions : String

/-- The characters that have any of the properties with the given names. -/
def Ranges.ofProperties (names : List String) : Ranges :=
  names.foldl (fun table name => table.union ((property? name).getD [])) []

/-- The characters of a class. -/
def Segment.ranges (s : Segment) : Ranges :=
  let named := (Ranges.ofProperties s.properties).inter (Ranges.compl (.ofProperties s.without))
  (named.union (.ofText s.others)).inter (Ranges.compl (.ofText s.exceptions))

/-- The class with a name. -/
def Segment.find? (classes : List Segment) (name : String) : Option Ranges :=
  (classes.find? (·.names.contains name)).map Segment.ranges

/-- The classes of clusters, but for the syllables of Hangul. -/
def clusterClasses : List Segment :=
  [⟨["cr"], [], [],
    "d",
    ""⟩,
   ⟨["control", "cn"], ["cc", "cf", "zl", "zp", "defaultignorablecodepoint"], ["graphemeextend"],
    "",
    "a d 600-605 6dd 70f 890-891 8e2 115f-1160 200d 3164 ffa0 110bd 110cd"⟩,
   ⟨["extend", "ex"], ["graphemeextend"], [],
    "1f3fb-1f3ff",
    ""⟩,
   ⟨["l"], [], [],
    "1100-115f a960-a97c",
    ""⟩,
   ⟨["lf"], [], [],
    "a",
    ""⟩,
   ⟨["prepend", "pp"], ["prependedconcatenationmark"], [],
    "d4e 111c2-111c3 113d1 1193f 11941 11a3a 11a84-11a89 11d46 11f02",
    ""⟩,
   ⟨["regionalindicator", "ri"], ["regionalindicator"], [],
    "",
    ""⟩,
   ⟨["spacingmark", "sm"], ["mc"], ["graphemeextend"],
    "e33 eb3",
    "102b-102c 1038 1062-1064 1067-106d 1083 1087-108c 108f 109a-109c 1a61 1a63-1a64 aa7b aa7d
    11720-11721"⟩,
   ⟨["t"], [], [],
    "11a8-11ff d7cb-d7fb",
    ""⟩,
   ⟨["v"], [], [],
    "1160-11a7 d7b0-d7c6 16d63 16d67-16d6a",
    ""⟩,
   ⟨["zwj"], [], [],
    "200d",
    ""⟩]

/-- The syllables of Hangul, in blocks of twenty-eight with the same beginning: those from the place
`first` to the place `last` of each block. -/
def syllables (first last : Nat) : Ranges :=
  (List.range 399).map fun block => (0xac00 + 28 * block + first, 0xac00 + 28 * block + last)

/-- The class of clusters with a name. The first syllable of a block has no consonant at its end. -/
def clusterClass? (name : String) : Option Ranges :=
  if name = "lv" then some (syllables 0 0)
  else if name = "lvt" then some (syllables 1 27)
  else Segment.find? clusterClasses name

/-- The classes of words. -/
def wordClasses : List Segment :=
  [⟨["aletter", "le"], ["alphabetic"],
    ["ideographic", "graphemeextend", "mc", "thai", "lao", "khmer", "myanmar", "taile",
     "newtailue", "taitham", "taiviet", "ahom", "hiragana", "katakana", "hebrew"],
    "2c2-2c5 2d2-2d7 2de-2df 2e5-2eb 2ed 2ef-2ff 55a-55c 55e 58a 5f3 70f a708-a716 a720-a721
    a789-a78a ab5b",
    "3031-3035 30fc ff70"⟩,
   ⟨["cr"], [], [],
    "d",
    ""⟩,
   ⟨["doublequote", "dq"], [], [],
    "22",
    ""⟩,
   ⟨["extend"], ["graphemeextend", "mc", "emojimodifier"], [],
    "",
    ""⟩,
   ⟨["extendnumlet", "ex"], ["pc"], [],
    "202f",
    ""⟩,
   ⟨["format", "fo"], ["cf"], [],
    "",
    "600-605 6dd 70f 890-891 8e2 200b-200d 110bd 110cd e0020-e007f"⟩,
   ⟨["hebrewletter", "hl"], [], [],
    "5d0-5ea 5ef-5f2 fb1d fb1f-fb28 fb2a-fb36 fb38-fb3c fb3e fb40-fb41 fb43-fb44 fb46-fb4f",
    ""⟩,
   ⟨["katakana", "ka"], ["katakana"], [],
    "3031-3035 309b-309c 30a0 30fc ff70",
    ""⟩,
   ⟨["lf"], [], [],
    "a",
    ""⟩,
   ⟨["midletter", "ml"], [], [],
    "3a b7 387 55f 5f4 2027 fe13 fe55 ff1a",
    ""⟩,
   ⟨["midnum", "mn"], [], [],
    "2c 3b 37e 589 60c-60d 66c 7f8 2044 fe50 fe54 ff0c ff1b",
    ""⟩,
   ⟨["midnumlet", "mb"], [], [],
    "2e 2018-2019 2024 fe52 ff07 ff0e",
    ""⟩,
   ⟨["newline", "nl"], [], [],
    "b-c 85 2028-2029",
    ""⟩,
   ⟨["numeric", "nu"], ["nd"], [],
    "600-605 66b 6dd 890-891 8e2 19da 110bd 110cd",
    ""⟩,
   ⟨["regionalindicator", "ri"], ["regionalindicator"], [],
    "",
    ""⟩,
   ⟨["singlequote", "sq"], [], [],
    "27",
    ""⟩,
   ⟨["wsegspace"], [], [],
    "20 1680 2000-2006 2008-200a 205f 3000",
    ""⟩,
   ⟨["zwj"], [], [],
    "200d",
    ""⟩]

/-- The classes of sentences. -/
def sentenceClasses : List Segment :=
  [⟨["aterm", "at"], [], [],
    "2e 2024 fe52 ff0e",
    ""⟩,
   ⟨["cr"], [], [],
    "d",
    ""⟩,
   ⟨["close", "cl"], ["ps", "pe", "pi", "pf"], [],
    "22 27 275b-2760 2e00-2e01 2e06-2e08 2e0b 1f676-1f678",
    ""⟩,
   ⟨["extend", "ex"], ["graphemeextend", "mc"], [],
    "200d",
    ""⟩,
   ⟨["format", "fo"], ["cf"], [],
    "",
    "600-605 6dd 890-891 8e2 200c-200d 110bd 110cd e0020-e007f"⟩,
   ⟨["lf"], [], [],
    "a",
    ""⟩,
   ⟨["lower", "lo"], ["lowercase"], [],
    "",
    "345 10d0-10fa 10fd-10ff"⟩,
   ⟨["numeric", "nu"], ["nd"], [],
    "600-605 66b-66c 6dd 890-891 8e2 19da 110bd 110cd",
    ""⟩,
   ⟨["oletter", "le"], ["alphabetic"], ["lowercase", "uppercase", "lt", "graphemeextend", "mc"],
    "5f3 10d0-10fa 10fd-10ff 1c90-1cba 1cbd-1cbf",
    ""⟩,
   ⟨["scontinue", "sc"], [], [],
    "2c-2d 3a-3b 37e 55d 60c-60d 7f8 1802 1808 2013-2014 3001 fe10-fe11 fe13-fe14 fe31-fe32
    fe50-fe51 fe54-fe55 fe58 fe63 ff0c-ff0d ff1a-ff1b ff64",
    ""⟩,
   ⟨["sterm", "st"], ["sentenceterminal"], [],
    "",
    "2e 2024 fe52 ff0e"⟩,
   ⟨["sep", "se"], [], [],
    "85 2028-2029",
    ""⟩,
   ⟨["sp"], ["zs"], [],
    "9 b-c",
    ""⟩,
   ⟨["upper", "up"], ["uppercase", "lt"], [],
    "",
    "1c90-1cba 1cbd-1cbf"⟩]

end Packrat.Text
