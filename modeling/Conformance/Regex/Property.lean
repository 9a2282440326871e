import Conformance.Regex.Tables.Age
import Conformance.Regex.Tables.Casing
import Conformance.Regex.Tables.Category
import Conformance.Regex.Tables.Emoji
import Conformance.Regex.Tables.Script
import Conformance.Regex.Tables.Segmentation
import Conformance.Regex.Tables.Traits

/-! Sets of code points named by properties: traits that a code point has or lacks, and properties
with a value such as the general category, the script or the age. Derived traits are built from
categories and contributory sets by the rules of the character standard. -/
namespace Conformance.Regex

namespace CharSet

/-- The code points of the listed general categories. -/
def category (labels : List String) : CharSet := ofRuns Tables.categories labels.contains

def letter : CharSet := category ["Ll", "Lm", "Lo", "Lt", "Lu"]

def mark : CharSet := category ["Mc", "Me", "Mn"]

def digit : CharSet := category ["Nd"]

/-- Digits and other characters that stand for numbers. -/
def numeric : CharSet := category ["Nd", "Nl", "No"]

def blank : CharSet := Tables.whiteSpace

def alphabetic : CharSet := unionAll [letter, category ["Nl"], Tables.otherAlphabetic]

def lowercase : CharSet := union (category ["Ll"]) Tables.otherLowercase

def uppercase : CharSet := union (category ["Lu"]) Tables.otherUppercase

/-- The characters of words: alphabetic ones, marks, decimal digits, connectors and joiners. -/
def word : CharSet := unionAll [alphabetic, mark, category ["Nd", "Pc"], Tables.joinControl]

def cased : CharSet := unionAll [lowercase, uppercase, category ["Lt"]]

/-- Passed over when the cases around a character are looked at. -/
def caseIgnorable : CharSet :=
  union (category ["Mn", "Me", "Cf", "Lm", "Sk"])
    (ofRuns Tables.wordRoles ["ML", "MB", "SQ"].contains)

def graphemeExtend : CharSet := union (category ["Me", "Mn"]) Tables.otherGraphemeExtend

def graphemeBase : CharSet :=
  compl (union (category ["Cc", "Cf", "Cs", "Co", "Cn", "Zl", "Zp"]) graphemeExtend)

def patternReserved : CharSet := union Tables.patternSyntax Tables.patternWhiteSpace

def idStart : CharSet :=
  diff (unionAll [letter, category ["Nl"], Tables.otherIdStart]) patternReserved

def idContinue : CharSet :=
  diff (unionAll [idStart, category ["Mn", "Mc", "Nd", "Pc"], Tables.otherIdContinue])
    patternReserved

/-- Shown as nothing where no font knows them. -/
def defaultIgnorable : CharSet :=
  diff (unionAll [Tables.otherDefaultIgnorable, category ["Cf"], Tables.variationSelector])
    (unionAll [Tables.whiteSpace, Tables.prependedConcatenationMark, range 0xFFF9 0xFFFB,
      range 0x13430 0x13440])

/-- Reserved for internal use: a block of thirty-two and the last two of each plane. -/
def noncharacter : CharSet :=
  union (range 0xFDD0 0xFDEF)
    (unionAll ((List.range 17).map fun plane => range (plane * 0x10000 + 0xFFFE)
      (plane * 0x10000 + 0xFFFF)))

def regionalIndicator : CharSet := range 0x1F1E6 0x1F1FF

def asciiHexDigit : CharSet := ofRanges [('0', '9'), ('A', 'F'), ('a', 'f')]

def changesWhenCasemapped : CharSet :=
  unionAll [Tables.changesWhenLowercased, Tables.changesWhenUppercased,
    Tables.changesWhenTitlecased]

/-- Traits with their names, in lower case without separators. -/
def traits : List (List String × CharSet) := [
  (["asciihexdigit", "ahex"], asciiHexDigit),
  (["alphabetic", "alpha"], alphabetic),
  (["bidicontrol", "bidic"], Tables.bidiControl),
  (["bidimirrored", "bidim"], Tables.bidiMirrored),
  (["caseignorable", "ci"], caseIgnorable),
  (["cased"], cased),
  (["changeswhencasefolded", "cwcf"], Tables.changesWhenCasefolded),
  (["changeswhencasemapped", "cwcm"], changesWhenCasemapped),
  (["changeswhenlowercased", "cwl"], Tables.changesWhenLowercased),
  (["changeswhentitlecased", "cwt"], Tables.changesWhenTitlecased),
  (["changeswhenuppercased", "cwu"], Tables.changesWhenUppercased),
  (["dash"], Tables.dash),
  (["defaultignorablecodepoint", "di"], defaultIgnorable),
  (["deprecated", "dep"], Tables.deprecated),
  (["diacritic", "dia"], Tables.diacritic),
  (["emoji"], Tables.emoji),
  (["emojicomponent", "ecomp"], Tables.emojiComponent),
  (["emojimodifier", "emod"], range 0x1F3FB 0x1F3FF),
  (["emojimodifierbase", "ebase"], Tables.emojiModifierBase),
  (["emojipresentation", "epres"], Tables.emojiPresentation),
  (["extendedpictographic", "extpict"], Tables.extendedPictographic),
  (["extender", "ext"], Tables.extender),
  (["graphemebase", "grbase"], graphemeBase),
  (["graphemeextend", "grext"], graphemeExtend),
  (["graphemelink", "grlink"], Tables.graphemeLink),
  (["hexdigit", "hex"], Tables.hexDigit),
  (["hyphen"], Tables.hyphen),
  (["idsbinaryoperator", "idsb"], Tables.idsBinaryOperator),
  (["idstrinaryoperator", "idst"], Tables.idsTrinaryOperator),
  (["idsunaryoperator", "idsu"], Tables.idsUnaryOperator),
  (["idcompatmathcontinue"], Tables.idCompatMathContinue),
  (["idcompatmathstart"], Tables.idCompatMathStart),
  (["idcontinue", "idc"], idContinue),
  (["idstart", "ids"], idStart),
  (["ideographic", "ideo"], Tables.ideographic),
  (["joincontrol", "joinc"], Tables.joinControl),
  (["logicalorderexception", "loe"], Tables.logicalOrderException),
  (["lowercase", "lower"], lowercase),
  (["math"], union (category ["Sm"]) Tables.otherMath),
  (["modifiercombiningmark", "mcm"], Tables.modifierCombiningMark),
  (["noncharactercodepoint", "nchar"], noncharacter),
  (["otheralphabetic", "oalpha"], Tables.otherAlphabetic),
  (["otherdefaultignorablecodepoint", "odi"], Tables.otherDefaultIgnorable),
  (["othergraphemeextend", "ogrext"], Tables.otherGraphemeExtend),
  (["otheridcontinue", "oidc"], Tables.otherIdContinue),
  (["otheridstart", "oids"], Tables.otherIdStart),
  (["otherlowercase", "olower"], Tables.otherLowercase),
  (["othermath", "omath"], Tables.otherMath),
  (["otheruppercase", "oupper"], Tables.otherUppercase),
  (["patternsyntax", "patsyn"], Tables.patternSyntax),
  (["patternwhitespace", "patws"], Tables.patternWhiteSpace),
  (["prependedconcatenationmark", "pcm"], Tables.prependedConcatenationMark),
  (["quotationmark", "qmark"], Tables.quotationMark),
  (["radical"], Tables.radical),
  (["regionalindicator", "ri"], regionalIndicator),
  (["sentenceterminal", "sterm"], Tables.sentenceTerminal),
  (["softdotted", "sd"], Tables.softDotted),
  (["terminalpunctuation", "term"], Tables.terminalPunctuation),
  (["unifiedideograph", "uideo"], Tables.unifiedIdeograph),
  (["uppercase", "upper"], uppercase),
  (["variationselector", "vs"], Tables.variationSelector),
  (["whitespace", "wspace", "space"], blank),
  (["xidcontinue", "xidc"], diff idContinue Tables.notXidContinue),
  (["xidstart", "xids"], diff idStart Tables.notXidStart)]

def trait? (name : String) : Option CharSet := (traits.find? (·.1.contains name)).map (·.2)

/-- Property names compare without case, separators and a leading `is`. -/
def normalName (name : List Char) : String :=
  let lower := name.map Char.toLower
  let (isLead, body) := match lower with
    | 'i' :: 's' :: rest => (true, rest)
    | _ => (false, lower)
  let kept := body.filter fun c => c.toNat < 128 && c != ' ' && c != '_' && c != '-'
  if isLead && kept == ['c'] then "isc" else String.ofList kept

def category? (name : String) : Option CharSet :=
  match name with
  | "any" => some any
  | "assigned" => some (compl (category ["Cn"]))
  | "ascii" => some (range 0 127)
  | _ => (Tables.categoryNames.find? (·.1.contains name)).map fun entry => category entry.2

/-- The label of a script with a given name. -/
def scriptLabel? (name : String) : Option String :=
  (Tables.scriptNames.find? (·.2.contains name)).map (·.1)

def script (label : String) : CharSet := ofRuns Tables.scripts (· == label)

def script? (name : String) : Option CharSet := (scriptLabel? name).map script

/-- The code points whose scripts are listed apart. -/
def scriptExtended : CharSet := unionAll (Tables.scriptExtensions.map fun (_, gaps) => ofGaps gaps)

/-- The code points that a script uses: its own, but for those listed apart the lists decide. -/
def scriptUse (label : String) : CharSet :=
  let listed := Tables.scriptExtensions.filter fun (labels, _) =>
    (CharTable.words labels).contains label.toList
  union (diff (script label) scriptExtended) (unionAll (listed.map fun (_, gaps) => ofGaps gaps))

/-- Versions of the character standard, the earliest first. -/
def versions : List (Nat × Nat) := [
  (1, 1), (2, 0), (2, 1), (3, 0), (3, 1), (3, 2), (4, 0), (4, 1), (5, 0), (5, 1), (5, 2), (6, 0),
  (6, 1), (6, 2), (6, 3), (7, 0), (8, 0), (9, 0), (10, 0), (11, 0), (12, 0), (12, 1), (13, 0),
  (14, 0), (15, 0), (15, 1), (16, 0)]

/-- The code points assigned in a version or before it. -/
def age? (name : String) : Option CharSet :=
  let isNamed (version : Nat × Nat) : Bool :=
    name == s!"{version.1}.{version.2}" || name == s!"v{version.1}{version.2}"
  if versions.any isNamed then
    let later := (versions.dropWhile fun v => !isNamed v).tail
    let excluded := "x" :: later.map fun v => s!"v{v.1}.{v.2}"
    some (ofRuns Tables.ages fun label => !excluded.contains label)
  else none

/-- Hangul syllables of a leading consonant and a vowel: one in twenty-eight. -/
def openSyllables : CharSet :=
  unionAll ((List.range 399).map fun i => range (0xAC00 + 28 * i) (0xAC00 + 28 * i))

/-- Roles in grapheme clusters. -/
def graphemeRole? (name : String) : Option CharSet :=
  let role (label : String) : Option CharSet := some (ofRuns Tables.graphemeRoles (· == label))
  match name with
  | "cn" | "control" => role "CN"
  | "cr" => role "CR"
  | "ex" | "extend" => role "EX"
  | "l" => role "L"
  | "lf" => role "LF"
  | "lv" => some openSyllables
  | "lvt" => (role "H").map fun syllables => diff syllables openSyllables
  | "pp" | "prepend" => role "PP"
  | "ri" | "regionalindicator" => role "RI"
  | "sm" | "spacingmark" => role "SM"
  | "t" => role "T"
  | "v" => role "V"
  | "zwj" => role "ZWJ"
  | _ => none

/-- Roles in words. -/
def wordRole? (name : String) : Option CharSet :=
  let role (label : String) : Option CharSet := some (ofRuns Tables.wordRoles (· == label))
  match name with
  | "le" | "aletter" => role "LE"
  | "cr" => role "CR"
  | "dq" | "doublequote" => role "DQ"
  | "extend" => role "Extend"
  | "ex" | "extendnumlet" => role "EX"
  | "fo" | "format" => role "FO"
  | "hl" | "hebrewletter" => role "HL"
  | "ka" | "katakana" => role "KA"
  | "lf" => role "LF"
  | "mb" | "midnumlet" => role "MB"
  | "ml" | "midletter" => role "ML"
  | "mn" | "midnum" => role "MN"
  | "nl" | "newline" => role "NL"
  | "nu" | "numeric" => role "NU"
  | "ri" | "regionalindicator" => role "RI"
  | "sq" | "singlequote" => role "SQ"
  | "wsegspace" => role "WS"
  | "zwj" => role "ZWJ"
  | _ => none

/-- Roles in sentences. -/
def sentenceRole? (name : String) : Option CharSet :=
  let role (label : String) : Option CharSet := some (ofRuns Tables.sentenceRoles (· == label))
  match name with
  | "at" | "aterm" => role "AT"
  | "cl" | "close" => role "CL"
  | "cr" => role "CR"
  | "ex" | "extend" => role "EX"
  | "fo" | "format" => role "FO"
  | "le" | "oletter" => role "LE"
  | "lf" => role "LF"
  | "lo" | "lower" => role "LO"
  | "nu" | "numeric" => role "NU"
  | "sc" | "scontinue" => role "SC"
  | "se" | "sep" => role "SE"
  | "sp" => role "SP"
  | "st" | "sterm" => role "ST"
  | "up" | "upper" => role "UP"
  | _ => none

/-- A set named by one word: a trait, a general category or a script. -/
def property? (name : List Char) : Option CharSet :=
  let name := normalName name
  ((trait? name).or (category? name)).or (script? name)

/-- A set named by a property and its value. -/
def propertyValue? (name value : List Char) : Option CharSet :=
  let value := normalName value
  match normalName name with
  | "gc" | "generalcategory" => category? value
  | "sc" | "script" => script? value
  | "scx" | "scriptextensions" => (scriptLabel? value).map scriptUse
  | "age" => age? value
  | "gcb" | "graphemeclusterbreak" => graphemeRole? value
  | "wb" | "wordbreak" => wordRole? value
  | "sb" | "sentencebreak" => sentenceRole? value
  | _ => none

end CharSet

end Conformance.Regex
