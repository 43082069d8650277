import ImageryJobs.Unicode.Property
import ImageryJobs.Unicode.Script

/-!
How characters stand in the segments of a text: in what readers take for one character, in words
and in sentences. Every class is given by its characters.
-/

namespace ImageryJobs.Unicode

def carriageReturn : CharSet := .single 0xD
def lineFeed : CharSet := .single 0xA
def zeroWidthNonJoiner : CharSet := .single 0x200C
def zeroWidthJoiner : CharSet := .single 0x200D

def spacingMarks : CharSet := Category.spacingMark.chars

namespace Grapheme

def extend : CharSet := graphemeExtend.union emojiModifier

/-- Signs that stand before the letter they belong to. -/
def prepend : CharSet :=
  prependedConcatenationMark.union
    (.ofTable ["D4E 111C2-111C3 113D1 1193F 11941 11A3A 11A84-11A89 11D46 11F02"])

def control : CharSet :=
  (CharSet.unionAll
    [ofCategories [.lineSeparator, .paragraphSeparator, .control, .format],
     assigned.complement.inter defaultIgnorable]).diff
      (.unionAll
        [carriageReturn, lineFeed, zeroWidthNonJoiner, zeroWidthJoiner,
         prependedConcatenationMark, extend])

/-- Spacing marks that stand apart from the letter before them. -/
def separateMark : CharSet :=
  .ofTable
    ["102B-102C 1038 1062-1064 1067-106D 1083 1087-108C 108F 109A-109C 1A61 1A63-1A64 AA7B AA7D",
     "11720-11721"]

def leadingJamo : CharSet := .ofTable ["1100-115F A960-A97C"]
def vowelJamo : CharSet := .ofTable ["1160-11A7 D7B0-D7C6 16D63 16D67-16D6A"]
def trailingJamo : CharSet := .ofTable ["11A8-11FF D7CB-D7FB"]

/-- The syllables that end in their vowel. -/
def openSyllable : CharSet := .ofTable ["AC00-D788/1C"]
def syllable : CharSet := .range 0xAC00 0xD7A3

def spacingMark : CharSet :=
  (spacingMarks.union (.ofTable ["E33 EB3"])).diff (.unionAll [extend, separateMark, vowelJamo])

/-- The classes of breaks between what readers take for characters. -/
def breaks : List NamedSet :=
  [⟨["cr"], carriageReturn⟩,
   ⟨["cn", "control"], control⟩,
   ⟨["ex", "extend"], extend⟩,
   ⟨["l"], leadingJamo⟩,
   ⟨["lf"], lineFeed⟩,
   ⟨["lv"], openSyllable⟩,
   ⟨["lvt"], syllable.diff openSyllable⟩,
   ⟨["pp", "prepend"], prepend⟩,
   ⟨["ri", "regionalindicator"], regionalIndicator⟩,
   ⟨["sm", "spacingmark"], spacingMark⟩,
   ⟨["t"], trailingJamo⟩,
   ⟨["v"], vowelJamo⟩,
   ⟨["zwj"], zeroWidthJoiner⟩]

end Grapheme

/-- Digits with the signs that are set among them. -/
def numeric : CharSet :=
  decimalDigits.union (.ofTable ["600-605 66B-66C 6DD 890-891 8E2 110BD 110CD"])

namespace Word

def extend : CharSet :=
  (CharSet.unionAll [graphemeExtend, spacingMarks, emojiModifier]).diff zeroWidthJoiner

def format : CharSet :=
  Category.format.chars.diff
    (.unionAll
      [.single 0x200B, zeroWidthNonJoiner, zeroWidthJoiner, Grapheme.prepend, extend])

def ofScript (name : String) : CharSet := ((script? name).map Script.chars).getD .empty

def katakana : CharSet :=
  (ofScript "kana").union (.ofTable ["3031-3035 309B-309C 30A0 30FC FF70"])

def hebrewLetter : CharSet := (ofScript "hebr").inter Category.otherLetter.chars

/-- Letters of scripts that do not part words by blanks. -/
def unspacedLetter : CharSet :=
  .ofTable
    ["E01-E30 E32-E33 E40-E46 E81-E82 E84 E86-E8A E8C-EA3 EA5 EA7-EB0 EB2-EB3 EBD EC0-EC4 EC6",
     "EDC-EDF 1000-102A 103F 1050-1055 105A-105D 1061 1065-1066 106E-1070 1075-1081 108E",
     "1780-17B3 17D7 17DC 1950-196D 1970-1974 1980-19AB 19B0-19C9 1A20-1A54 1AA7 A9E0-A9E4",
     "A9E6-A9EF A9FA-A9FE AA60-AA76 AA7A AA7E-AAAF AAB1 AAB5-AAB6 AAB9-AABD AAC0 AAC2 AADB-AADD",
     "11700-1171A 11740-11746"]

def letter : CharSet :=
  (alphabetic.union
    (.ofTable
      ["2C2-2C5 2D2-2D7 2DE-2DF 2E5-2EB 2ED 2EF-2FF 55A-55C 55E 58A 5F3 70F A708-A716 A720-A721",
       "A789-A78A AB5B"])).diff
    (.unionAll [ideographic, katakana, unspacedLetter, ofScript "hira", extend, hebrewLetter])

/-- The classes of breaks between words. -/
def breaks : List NamedSet :=
  [⟨["cr"], carriageReturn⟩,
   ⟨["dq", "doublequote"], .single 0x22⟩,
   ⟨["ex", "extendnumlet"], Category.connectorPunctuation.chars.union (.single 0x202F)⟩,
   ⟨["extend"], extend⟩,
   ⟨["fo", "format"], format⟩,
   ⟨["hl", "hebrewletter"], hebrewLetter⟩,
   ⟨["ka", "katakana"], katakana⟩,
   ⟨["le", "aletter"], letter⟩,
   ⟨["lf"], lineFeed⟩,
   ⟨["mb", "midnumlet"], midNumberOrLetter⟩,
   ⟨["ml", "midletter"], midLetter⟩,
   ⟨["mn", "midnum"],
     .ofTable ["2C 3B 37E 589 60C-60D 66C 7F8 2044 FE10 FE14 FE50 FE54 FF0C FF1B"]⟩,
   ⟨["nl", "newline"], .ofTable ["B-C 85 2028-2029"]⟩,
   ⟨["nu", "numeric"], numeric.diff (.single 0x66C)⟩,
   ⟨["ri", "regionalindicator"], regionalIndicator⟩,
   ⟨["sq", "singlequote"], .single 0x27⟩,
   ⟨["wsegspace"], Category.spaceSeparator.chars.diff (.ofTable ["A0 2007 202F"])⟩,
   ⟨["zwj"], zeroWidthJoiner⟩]

end Word

namespace Sentence

def extend : CharSet := .unionAll [graphemeExtend, zeroWidthJoiner, spacingMarks]

def format : CharSet :=
  Category.format.chars.diff
    (.unionAll [zeroWidthNonJoiner, zeroWidthJoiner, Grapheme.prepend, extend])

def separator : CharSet := .ofTable ["85 2028-2029"]

/-- Lower and upper case, for which a script that does not begin sentences in upper case has no
use. -/
def lower : CharSet :=
  lowercase.diff (graphemeExtend.union (.ofTable ["10D0-10FA 10FD-10FF"]))
def upper : CharSet :=
  (uppercase.union Category.titlecaseLetter.chars).diff (.ofTable ["1C90-1CBA 1CBD-1CBF"])

/-- Full stops that need not end a sentence. -/
def ambiguousStop : CharSet := .ofTable ["2E 2024 FE52 FF0E"]
def stop : CharSet := sentenceTerminal.diff ambiguousStop

def continues : CharSet :=
  .ofTable
    ["2C-2D 3A-3B 37E 55D 60C-60D 7F8 1802 1808 2013-2014 3001 FE10-FE11 FE13-FE14 FE31-FE32",
     "FE50-FE51 FE54-FE55 FE58 FE63 FF0C-FF0D FF1A-FF1B FF64"]

def closing : CharSet :=
  ((ofCategories Category.brackets).union
    (.ofTable ["22 27 275B-2760 2E00-2E01 2E06-2E08 2E0B 1F676-1F678"])).diff
      (ambiguousStop.union stop)

/-- The classes of breaks between sentences. -/
def breaks : List NamedSet :=
  [⟨["at", "aterm"], ambiguousStop⟩,
   ⟨["cl", "close"], closing⟩,
   ⟨["cr"], carriageReturn⟩,
   ⟨["ex", "extend"], extend⟩,
   ⟨["fo", "format"], format⟩,
   ⟨["le", "oletter"],
     (alphabetic.union (.ofTable ["5F3 70F"])).diff (.unionAll [lower, upper, extend])⟩,
   ⟨["lf"], lineFeed⟩,
   ⟨["lo", "lower"], lower⟩,
   ⟨["nu", "numeric"], numeric⟩,
   ⟨["sc", "scontinue"], continues⟩,
   ⟨["se", "sep"], separator⟩,
   ⟨["sp"], whiteSpace.diff (.unionAll [separator, carriageReturn, lineFeed])⟩,
   ⟨["st", "sterm"], stop⟩,
   ⟨["up", "upper"], upper⟩]

end Sentence
end ImageryJobs.Unicode
