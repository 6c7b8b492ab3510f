import Gallery.Regex.Property.Binary
import Gallery.Regex.Property.Script

/-!
# `Gallery.Regex.Property.Break` — how characters break a text

A text is divided into clusters of characters, into words and into sentences.  For each of the
three, every character has one value that says how it takes part; most values follow from the
categories and the other properties.

## Contents
- `graphemeBreaks`, `wordBreaks` and `sentenceBreaks`, the characters of each value with its names.
-/

namespace Gallery.Regex

open Gallery.Text

/-- The letters of the scripts that write no blanks between words. -/
def complexContextRuns : List CodeRun := [
  ⟨0xE01, 0xE30, 1⟩, ⟨0xE32, 0xE33, 1⟩, ⟨0xE40, 0xE46, 1⟩, ⟨0xE81, 0xE82, 1⟩, ⟨0xE84, 0xE84, 1⟩,
  ⟨0xE86, 0xE8A, 1⟩, ⟨0xE8C, 0xEA3, 1⟩, ⟨0xEA5, 0xEA5, 1⟩, ⟨0xEA7, 0xEB0, 1⟩, ⟨0xEB2, 0xEB3, 1⟩,
  ⟨0xEBD, 0xEBD, 1⟩, ⟨0xEC0, 0xEC4, 1⟩, ⟨0xEC6, 0xEC6, 1⟩, ⟨0xEDC, 0xEDF, 1⟩, ⟨0x1000, 0x102A, 1⟩,
  ⟨0x103F, 0x103F, 1⟩, ⟨0x1050, 0x1055, 1⟩, ⟨0x105A, 0x105D, 1⟩, ⟨0x1061, 0x1061, 1⟩,
  ⟨0x1065, 0x1066, 1⟩, ⟨0x106E, 0x1070, 1⟩, ⟨0x1075, 0x1081, 1⟩, ⟨0x108E, 0x108E, 1⟩,
  ⟨0x1780, 0x17B3, 1⟩, ⟨0x17D7, 0x17D7, 1⟩, ⟨0x17DC, 0x17DC, 1⟩, ⟨0x1950, 0x196D, 1⟩,
  ⟨0x1970, 0x1974, 1⟩, ⟨0x1980, 0x19AB, 1⟩, ⟨0x19B0, 0x19C9, 1⟩, ⟨0x1A20, 0x1A54, 1⟩,
  ⟨0x1AA7, 0x1AA7, 1⟩, ⟨0xA9E0, 0xA9E4, 1⟩, ⟨0xA9E6, 0xA9EF, 1⟩, ⟨0xA9FA, 0xA9FE, 1⟩,
  ⟨0xAA60, 0xAA76, 1⟩, ⟨0xAA7A, 0xAA7A, 1⟩, ⟨0xAA7E, 0xAAAF, 1⟩, ⟨0xAAB1, 0xAAB1, 1⟩,
  ⟨0xAAB5, 0xAAB6, 1⟩, ⟨0xAAB9, 0xAABD, 1⟩, ⟨0xAAC0, 0xAAC0, 1⟩, ⟨0xAAC2, 0xAAC2, 1⟩,
  ⟨0xAADB, 0xAADD, 1⟩, ⟨0x11700, 0x1171A, 1⟩, ⟨0x11740, 0x11746, 1⟩]

/-- The quotation marks that open or close, and ornaments like them. -/
def quoteRuns : List CodeRun := [
  ⟨0x22, 0x22, 1⟩, ⟨0x27, 0x27, 1⟩, ⟨0xAB, 0xAB, 1⟩, ⟨0xBB, 0xBB, 1⟩, ⟨0x2018, 0x2019, 1⟩,
  ⟨0x201B, 0x201D, 1⟩, ⟨0x201F, 0x201F, 1⟩, ⟨0x2039, 0x203A, 1⟩, ⟨0x275B, 0x2760, 1⟩,
  ⟨0x2E00, 0x2E0D, 1⟩, ⟨0x2E1C, 0x2E1D, 1⟩, ⟨0x2E20, 0x2E21, 1⟩, ⟨0x1F676, 0x1F678, 1⟩]

namespace CharClass

/-- The class of some characters. -/
def chars (l : List Char) : CharClass := unions (l.map single)

/-- The zero width joiner. -/
def joiner : CharClass := single '\u200D'

/-! ## Clusters -/

/-- Marks and skin tones, which stay with the character before them. -/
def clusterExtend : CharClass := union graphemeExtend (table emojiModifierRuns)

/-- The letters and signs that stay with the character behind them. -/
def clusterPrepend : CharClass :=
  table (prependedMarkRuns ++ [⟨0xD4E, 0xD4E, 1⟩, ⟨0x111C2, 0x111C3, 1⟩, ⟨0x113D1, 0x113D1, 1⟩,
    ⟨0x1193F, 0x1193F, 1⟩, ⟨0x11941, 0x11941, 1⟩, ⟨0x11A84, 0x11A89, 1⟩, ⟨0x11D46, 0x11D46, 1⟩,
    ⟨0x11F02, 0x11F02, 1⟩])

/-- Controls, separators and what is not shown. -/
def clusterControl : CharClass :=
  diff (union (ofCategories [.lineSeparator, .paragraphSeparator, .control, .format])
      (inter (ofCategory .unassigned) defaultIgnorable))
    (unions [chars ['\r', '\n', '\u200D'], clusterExtend, clusterPrepend])

/-- The spacing marks that stay with the character before them. -/
def clusterSpacingMark : CharClass :=
  diff (union (ofCategory .spacingMark) (chars ['\u0E33', '\u0EB3']))
    (union clusterExtend (table [⟨0x102B, 0x102C, 1⟩, ⟨0x1038, 0x1038, 1⟩, ⟨0x1062, 0x1064, 1⟩,
      ⟨0x1067, 0x106D, 1⟩, ⟨0x1083, 0x1083, 1⟩, ⟨0x1087, 0x108C, 1⟩, ⟨0x108F, 0x108F, 1⟩,
      ⟨0x109A, 0x109C, 1⟩, ⟨0x1A61, 0x1A61, 1⟩, ⟨0x1A63, 0x1A64, 1⟩, ⟨0xAA7B, 0xAA7B, 1⟩,
      ⟨0xAA7D, 0xAA7D, 1⟩, ⟨0x11720, 0x11721, 1⟩]))

/-- The syllables of a consonant and a vowel; 27 with a final consonant follow each. -/
def openSyllable : CharClass := table [⟨0xAC00, 0xD788, 28⟩]

end CharClass

/-- How a character takes part in clusters. -/
def graphemeBreaks : List (List String × CharClass) := [
  (["cn", "control"], .clusterControl),
  (["cr"], .single '\r'),
  (["ex", "extend"], .clusterExtend),
  (["l"], .table [⟨0x1100, 0x115F, 1⟩, ⟨0xA960, 0xA97C, 1⟩]),
  (["lf"], .single '\n'),
  (["lv"], .openSyllable),
  (["lvt"], .diff (.interval '\uAC00' '\uD7A3') .openSyllable),
  (["pp", "prepend"], .clusterPrepend),
  (["ri", "regionalindicator"], .table regionalIndicatorRuns),
  (["sm", "spacingmark"], .clusterSpacingMark),
  (["t"], .table [⟨0x11A8, 0x11FF, 1⟩, ⟨0xD7CB, 0xD7FB, 1⟩]),
  (["v"], .table [⟨0x1160, 0x11A7, 1⟩, ⟨0xD7B0, 0xD7C6, 1⟩, ⟨0x16D63, 0x16D63, 1⟩,
    ⟨0x16D67, 0x16D6A, 1⟩]),
  (["zwj"], .joiner)]

namespace CharClass

/-! ## Words -/

/-- Marks and skin tones, which do not end a word. -/
def wordExtend : CharClass :=
  diff (unions [graphemeExtend, ofCategory .spacingMark, table emojiModifierRuns]) joiner

/-- Katakana, and the signs that are used with it. -/
def wordKatakana : CharClass :=
  union (ofScript .katakana) (table [⟨0x3031, 0x3035, 1⟩, ⟨0x309B, 0x309C, 1⟩, ⟨0x30A0, 0x30A0, 1⟩,
    ⟨0x30FC, 0x30FC, 1⟩, ⟨0xFF70, 0xFF70, 1⟩])

/-- The letters of Hebrew, which quotation marks may join. -/
def wordHebrew : CharClass := inter (ofScript .hebrew) (ofCategory .otherLetter)

/-- The signs that are part of a word like letters. -/
def wordSign : CharClass :=
  table [⟨0xB8, 0xB8, 1⟩, ⟨0x2C2, 0x2C5, 1⟩, ⟨0x2D2, 0x2D7, 1⟩, ⟨0x2DE, 0x2DF, 1⟩,
    ⟨0x2E5, 0x2EB, 1⟩, ⟨0x2ED, 0x2ED, 1⟩, ⟨0x2EF, 0x2FF, 1⟩, ⟨0x55A, 0x55C, 1⟩, ⟨0x55E, 0x55E, 1⟩,
    ⟨0x58A, 0x58A, 1⟩, ⟨0x5F3, 0x5F3, 1⟩, ⟨0x70F, 0x70F, 1⟩, ⟨0xA708, 0xA716, 1⟩,
    ⟨0xA720, 0xA721, 1⟩, ⟨0xA789, 0xA78A, 1⟩, ⟨0xAB5B, 0xAB5B, 1⟩]

/-- The letters of the scripts that write blanks between words. -/
def wordLetter : CharClass :=
  diff (union alphabetic wordSign)
    (unions [tables [unifiedIdeographRuns, otherIdeographRuns, complexContextRuns],
      ofScript .hiragana, wordKatakana, wordHebrew, wordExtend])

/-- Digits, and the signs that span them. -/
def numeric : CharClass :=
  diff (unions [ofCategory .decimalNumber, chars ['\u066B', '\u19DA'], table prependedMarkRuns])
    (single '\u070F')

/-- The format characters, which do not end a word. -/
def wordFormat : CharClass :=
  diff (ofCategory .format)
    (unions [single '\u200B', joinControl, table prependedMarkRuns, wordExtend])

/-- The blanks that are not kept together with what is beside them. -/
def wordBlank : CharClass :=
  diff (ofCategory .spaceSeparator) (chars ['\u00A0', '\u2007', '\u202F'])

end CharClass

/-- How a character takes part in words. -/
def wordBreaks : List (List String × CharClass) := [
  (["le", "aletter"], .wordLetter),
  (["cr"], .single '\r'),
  (["dq", "doublequote"], .single '\x22'),
  (["extend"], .wordExtend),
  (["ex", "extendnumlet"], .union (.ofCategory .connectorPunctuation) (.single '\u202F')),
  (["fo", "format"], .wordFormat),
  (["hl", "hebrewletter"], .wordHebrew),
  (["ka", "katakana"], .wordKatakana),
  (["lf"], .single '\n'),
  (["ml", "midletter"], .chars [':', '\u00B7', '\u0387', '\u055F', '\u05F4', '\u2027', '\uFE13',
    '\uFE55', '\uFF1A']),
  (["mn", "midnum"], .chars [',', ';', '\u037E', '\u0589', '\u060C', '\u060D', '\u066C', '\u07F8',
    '\u2044', '\uFE50', '\uFE54', '\uFF0C', '\uFF1B']),
  (["mb", "midnumlet"], .chars ['.', '\u2018', '\u2019', '\u2024', '\uFE52', '\uFF07', '\uFF0E']),
  (["nl", "newline"], .chars ['\x0B', '\x0C', '\u0085', '\u2028', '\u2029']),
  (["nu", "numeric"], .numeric),
  (["ri", "regionalindicator"], .table regionalIndicatorRuns),
  (["sq", "singlequote"], .single '\x27'),
  (["wsegspace"], .wordBlank),
  (["zwj"], .joiner)]

namespace CharClass

/-! ## Sentences -/

/-- Marks and joiners, which stay with the character before them. -/
def sentenceExtend : CharClass := unions [graphemeExtend, ofCategory .spacingMark, joiner]

/-- The characters that separate paragraphs. -/
def sentenceSeparator : CharClass := chars ['\u0085', '\u2028', '\u2029']

/-- The small letters; those of Georgian start sentences like any letter. -/
def sentenceLower : CharClass :=
  diff lowercase (union graphemeExtend (table [⟨0x10D0, 0x10FA, 1⟩, ⟨0x10FD, 0x10FF, 1⟩]))

/-- The capital letters, without those of Georgian. -/
def sentenceUpper : CharClass :=
  diff (union (ofCategory .titlecaseLetter) uppercase)
    (table [⟨0x1C90, 0x1CBA, 1⟩, ⟨0x1CBD, 0x1CBF, 1⟩])

/-- The letters that are neither small nor capital. -/
def sentenceLetter : CharClass :=
  diff (union alphabetic (single '\u05F3')) (unions [sentenceLower, sentenceUpper, sentenceExtend])

/-- The full stops, which end abbreviations and numbers, too. -/
def fullStop : CharClass := chars ['.', '\u2024', '\uFE52', '\uFF0E']

/-- The other signs that end a sentence. -/
def sentenceEnd : CharClass := diff (table sentenceTerminalRuns) fullStop

/-- Brackets and quotation marks. -/
def sentenceClose : CharClass :=
  union (ofCategories [.openPunctuation, .closePunctuation]) (table quoteRuns)

/-- The format characters, which do not end a sentence. -/
def sentenceFormat : CharClass :=
  diff (ofCategory .format)
    (union (diff (table prependedMarkRuns) (single '\u070F')) (union joinControl sentenceExtend))

end CharClass

/-- How a character takes part in sentences. -/
def sentenceBreaks : List (List String × CharClass) := [
  (["at", "aterm"], .fullStop),
  (["cr"], .single '\r'),
  (["cl", "close"], .sentenceClose),
  (["ex", "extend"], .sentenceExtend),
  (["fo", "format"], .sentenceFormat),
  (["lf"], .single '\n'),
  (["lo", "lower"], .sentenceLower),
  (["nu", "numeric"], .union .numeric (.single '\u066C')),
  (["le", "oletter"], .sentenceLetter),
  (["sc", "scontinue"], .chars [',', '-', ':', ';', '\u037E', '\u055D', '\u060C', '\u060D', '\u07F8',
    '\u1802', '\u1808', '\u2013', '\u2014', '\u3001', '\uFE10', '\uFE11', '\uFE13', '\uFE14',
    '\uFE31', '\uFE32', '\uFE50', '\uFE51', '\uFE54', '\uFE55', '\uFE58', '\uFE63', '\uFF0C',
    '\uFF0D', '\uFF1A', '\uFF1B', '\uFF64']),
  (["st", "sterm"], .sentenceEnd),
  (["se", "sep"], .sentenceSeparator),
  (["sp"], .diff (.table whitespace) (.union .sentenceSeparator (.chars ['\r', '\n']))),
  (["up", "upper"], .sentenceUpper)]

end Gallery.Regex
