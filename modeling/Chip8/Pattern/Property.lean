import Chip8.Character.Age
import Chip8.Character.Case
import Chip8.Character.Script
import Chip8.Character.Segment
import Chip8.Pattern.Tree

/-!
# Properties

The properties of characters that a pattern may ask about, by the names of the
character database. A name counts in any case and with blanks, hyphens and low
lines anywhere.
-/

namespace Chip8.Pattern.Property

open Character

/-- A property or a value of one: its names, with blanks between them, and the
characters that have it. -/
structure Entry where
  names : String
  members : CharSet

/-- The characters of ASCII. -/
def ascii : CharSet := .range 0 0x7F

/-- Characters that do not count in the context of a change of case. -/
def caseIgnorable : CharSet :=
  .unions [nonspacingMark, enclosingMark, format, modifierLetter, modifierSymbol, midLetter,
    midNumLet, .ofPoints [0x27]]

/-- The properties that a character has or lacks. -/
def features : List Entry :=
  [⟨"asciihexdigit ahex", asciiHexDigit⟩, ⟨"alphabetic alpha", alphabetic⟩,
    ⟨"bidicontrol bidic", bidiControl⟩, ⟨"bidimirrored bidim", bidiMirrored⟩,
    ⟨"caseignorable ci", caseIgnorable⟩, ⟨"cased", cased⟩,
    ⟨"changeswhencasefolded cwcf", changesWhenCasefolded⟩,
    ⟨"changeswhencasemapped cwcm", changesWhenCasemapped⟩,
    ⟨"changeswhenlowercased cwl", changesWhenLowercased⟩,
    ⟨"changeswhentitlecased cwt", changesWhenTitlecased⟩,
    ⟨"changeswhenuppercased cwu", changesWhenUppercased⟩, ⟨"dash", dash⟩,
    ⟨"defaultignorablecodepoint di", defaultIgnorable⟩, ⟨"deprecated dep", deprecated⟩,
    ⟨"diacritic dia", diacritic⟩, ⟨"emoji", emoji⟩, ⟨"emojicomponent ecomp", emojiComponent⟩,
    ⟨"emojimodifier emod", emojiModifier⟩, ⟨"emojimodifierbase ebase", emojiModifierBase⟩,
    ⟨"emojipresentation epres", emojiPresentation⟩,
    ⟨"extendedpictographic extpict", extendedPictographic⟩, ⟨"extender ext", extender⟩,
    ⟨"graphemebase grbase", graphemeBase⟩, ⟨"graphemeextend grext", graphemeExtend⟩,
    ⟨"graphemelink grlink", graphemeLink⟩, ⟨"hexdigit hex", hexDigit⟩, ⟨"hyphen", hyphen⟩,
    ⟨"idsbinaryoperator idsb", idsBinaryOperator⟩, ⟨"idstrinaryoperator idst", idsTrinaryOperator⟩,
    ⟨"idsunaryoperator idsu", idsUnaryOperator⟩, ⟨"idcompatmathcontinue", idCompatMathContinue⟩,
    ⟨"idcompatmathstart", idCompatMathStart⟩, ⟨"idcontinue idc", idContinue⟩,
    ⟨"idstart ids", idStart⟩, ⟨"ideographic ideo", ideographic⟩,
    ⟨"joincontrol joinc", joinControl⟩, ⟨"logicalorderexception loe", logicalOrderException⟩,
    ⟨"lowercase lower", lowercase⟩, ⟨"math", math⟩,
    ⟨"modifiercombiningmark mcm", modifierCombiningMark⟩,
    ⟨"noncharactercodepoint nchar", noncharacter⟩, ⟨"otheralphabetic oalpha", otherAlphabetic⟩,
    ⟨"otherdefaultignorablecodepoint odi", otherIgnorable⟩,
    ⟨"othergraphemeextend ogrext", otherGraphemeExtend⟩, ⟨"otheridcontinue oidc", otherIdContinue⟩,
    ⟨"otheridstart oids", otherIdStart⟩, ⟨"otherlowercase olower", otherLowercase⟩,
    ⟨"othermath omath", otherMath⟩, ⟨"otheruppercase oupper", otherUppercase⟩,
    ⟨"patternsyntax patsyn", patternSyntax⟩, ⟨"patternwhitespace patws", patternWhiteSpace⟩,
    ⟨"prependedconcatenationmark pcm", prependedConcatenationMark⟩,
    ⟨"quotationmark qmark", quotationMark⟩, ⟨"radical", radical⟩,
    ⟨"regionalindicator ri", regionalIndicator⟩, ⟨"sentenceterminal sterm", sentenceTerminal⟩,
    ⟨"softdotted sd", softDotted⟩, ⟨"terminalpunctuation term", terminalPunctuation⟩,
    ⟨"unifiedideograph uideo", unifiedIdeograph⟩, ⟨"uppercase upper", uppercase⟩,
    ⟨"variationselector vs", variationSelector⟩, ⟨"whitespace wspace space", whiteSpace⟩,
    ⟨"xidcontinue xidc", xidContinue⟩, ⟨"xidstart xids", xidStart⟩]

/-- The general categories and groups of them. -/
def categories : List Entry :=
  [⟨"any", .all⟩, ⟨"assigned", assigned⟩, ⟨"ascii", ascii⟩, ⟨"casedletter lc", casedLetter⟩,
    ⟨"closepunctuation pe", closePunctuation⟩, ⟨"connectorpunctuation pc", connectorPunctuation⟩,
    ⟨"control cntrl cc", control⟩, ⟨"currencysymbol sc", currencySymbol⟩,
    ⟨"dashpunctuation pd", dashPunctuation⟩, ⟨"decimalnumber digit nd", decimalNumber⟩,
    ⟨"enclosingmark me", enclosingMark⟩, ⟨"finalpunctuation pf", finalPunctuation⟩,
    ⟨"format cf", format⟩, ⟨"initialpunctuation pi", initialPunctuation⟩, ⟨"letter l", letter⟩,
    ⟨"letternumber nl", letterNumber⟩, ⟨"lineseparator zl", lineSeparator⟩,
    ⟨"lowercaseletter ll", lowercaseLetter⟩, ⟨"combiningmark mark m", mark⟩,
    ⟨"mathsymbol sm", mathSymbol⟩, ⟨"modifierletter lm", modifierLetter⟩,
    ⟨"modifiersymbol sk", modifierSymbol⟩, ⟨"nonspacingmark mn", nonspacingMark⟩,
    ⟨"number n", number⟩, ⟨"openpunctuation ps", openPunctuation⟩, ⟨"other c", other⟩,
    ⟨"otherletter lo", otherLetter⟩, ⟨"othernumber no", otherNumber⟩,
    ⟨"otherpunctuation po", otherPunctuation⟩, ⟨"othersymbol so", otherSymbol⟩,
    ⟨"paragraphseparator zp", paragraphSeparator⟩, ⟨"privateuse co", privateUse⟩,
    ⟨"punctuation punct p", punctuation⟩, ⟨"separator z", separator⟩,
    ⟨"spaceseparator zs", spaceSeparator⟩, ⟨"spacingmark mc", spacingMark⟩, ⟨"symbol s", symbol⟩,
    ⟨"titlecaseletter lt", titlecaseLetter⟩, ⟨"unassigned cn", unassigned⟩,
    ⟨"uppercaseletter lu", uppercaseLetter⟩]

/-- How characters hold together. -/
def clusterBreaks : List Entry :=
  [⟨"cr", .ofPoints [0xD]⟩, ⟨"control cn", clusterControl⟩, ⟨"extend ex", clusterExtend⟩,
    ⟨"l", leadingJamo⟩, ⟨"lf", .ofPoints [0xA]⟩, ⟨"lv", openSyllable⟩, ⟨"lvt", closedSyllable⟩,
    ⟨"prepend pp", clusterPrepend⟩, ⟨"regionalindicator ri", regionalIndicator⟩,
    ⟨"spacingmark sm", clusterSpacingMark⟩, ⟨"t", trailingJamo⟩, ⟨"v", vowelJamo⟩,
    ⟨"zwj", .ofPoints [0x200D]⟩]

/-- How characters stand in words. -/
def wordBreaks : List Entry :=
  [⟨"aletter le", wordLetter⟩, ⟨"cr", .ofPoints [0xD]⟩, ⟨"doublequote dq", .ofPoints [0x22]⟩,
    ⟨"extend", wordExtend⟩, ⟨"extendnumlet ex", extendNumLet⟩, ⟨"format fo", wordFormat⟩,
    ⟨"hebrewletter hl", hebrewLetter⟩, ⟨"katakana ka", wordKatakana⟩, ⟨"lf", .ofPoints [0xA]⟩,
    ⟨"midletter ml", midLetter⟩, ⟨"midnum mn", midNum⟩, ⟨"midnumlet mb", midNumLet⟩,
    ⟨"newline nl", newline⟩, ⟨"numeric nu", wordNumeric⟩,
    ⟨"regionalindicator ri", regionalIndicator⟩, ⟨"singlequote sq", .ofPoints [0x27]⟩,
    ⟨"wsegspace", wordSpace⟩, ⟨"zwj", .ofPoints [0x200D]⟩]

/-- How characters stand in sentences. -/
def sentenceBreaks : List Entry :=
  [⟨"aterm at", fullStop⟩, ⟨"cr", .ofPoints [0xD]⟩, ⟨"close cl", sentenceClose⟩,
    ⟨"extend ex", sentenceExtend⟩, ⟨"format fo", sentenceFormat⟩, ⟨"lf", .ofPoints [0xA]⟩,
    ⟨"lower lo", sentenceLower⟩, ⟨"numeric nu", sentenceNumeric⟩, ⟨"oletter le", sentenceLetter⟩,
    ⟨"scontinue sc", sentenceContinue⟩, ⟨"sterm st", sentenceEnd⟩, ⟨"sep se", sentenceSeparator⟩,
    ⟨"sp", sentenceSpace⟩, ⟨"upper up", sentenceUpper⟩]

/-- The properties that are known by name only. -/
def unsupported : List (List Char) :=
  ["bc bidiclass bidimirroringglyph bidipairedbracket bidipairedbrackettype blk block bmg bpb",
    "bpt canonicalcombiningclass casefolding ccc ce cf changeswhennfkccasefolded",
    "cjkaccountingnumeric cjkcompatibilityvariant cjkiicore cjkirggsource cjkirghsource",
    "cjkirgjsource cjkirgkpsource cjkirgksource cjkirgmsource cjkirgssource cjkirgtsource",
    "cjkirguksource cjkirgusource cjkirgvsource cjkothernumeric cjkprimarynumeric cjkrsunicode",
    "compex compositionexclusion cwkcf decompositionmapping decompositiontype dm dt ea",
    "eastasianwidth equideo equivalentunifiedideograph expandsonnfc expandsonnfd expandsonnfkc",
    "expandsonnfkd fcnfkc fcnfkcclosure fullcompositionexclusion hangulsyllabletype hst incb",
    "indicconjunctbreak indicpositionalcategory indicsyllabiccategory inpc insc isc",
    "jamoshortname jg joininggroup joiningtype jsn jt kaccountingnumeric kcompatibilityvariant",
    "kehcat kehdesc kehhg kehifao kehjsesh kehnomirror kehnorotate kiicore kirggsource",
    "kirghsource kirgjsource kirgkpsource kirgksource kirgmsource kirgssource kirgtsource",
    "kirguksource kirgusource kirgvsource kothernumeric kprimarynumeric krsunicode lb lc",
    "linebreak lowercasemapping na na1 name namealias nfcqc nfcquickcheck nfdqc nfdquickcheck",
    "nfkccasefold nfkccf nfkcqc nfkcquickcheck nfkcscf nfkcsimplecasefold nfkdqc nfkdquickcheck",
    "nt numerictype numericvalue nv ocomment scf sfc simplecasefolding simplelowercasemapping",
    "simpletitlecasemapping simpleuppercasemapping slc stc suc tc titlecasemapping uc",
    "unicode1name unicoderadicalstroke uppercasemapping urs verticalorientation vo xonfc xonfd",
    "xonfkc xonfkd"].flatMap CharSet.words

/-- The categories and scripts that are known by name only. -/
def withoutMembers : List (List Char) :=
  CharSet.words "surrogate cs hrkt katakanaorhiragana zzzz unknown"

/-- The entry with a name. -/
def find? (entries : List Entry) (name : List Char) : Option CharSet :=
  (entries.find? fun e => (CharSet.words e.names).contains name).map (·.members)

/-- The script with a name. -/
def script? (name : List Char) : Option Script := Script.table.find? (·.isCalled name)

/-- The properties whose values may be asked for. -/
def valued : List (String × (List Char → Option CharSet)) :=
  [("generalcategory gc", find? categories),
    ("script sc", fun name => (script? name).map (·.members)),
    ("scriptextensions scx", fun name => (script? name).map (·.extension)),
    ("age", Version.members?), ("graphemeclusterbreak gcb", find? clusterBreaks),
    ("wordbreak wb", find? wordBreaks), ("sentencebreak sb", find? sentenceBreaks)]

/-- Signs that do not count in a name. -/
def isFiller (c : Char) : Bool := c = ' ' || c = '_' || c = '-' || 0x7F < c.toNat

/-- A name as it is looked up: in small letters, without fillers and without
`is` in front. A name that only `is` tells from the letter c keeps it. -/
def plain (name : List Char) : List Char :=
  let isQuestion := (name.take 2).map Char.toLower = ['i', 's']
  let rest := if isQuestion then name.drop 2 else name
  let letters := (rest.filter (!isFiller ·)).map Char.toLower
  if isQuestion && letters = ['c'] then ['i', 's', 'c'] else letters

/-- A set, or else a cause to complain. -/
def orCause (cause : Cause) : Option CharSet → Except Cause CharSet
  | some s => .ok s
  | none => .error cause

/-- The characters that have a property, or belong to a category or script, by
its name. -/
def named (name : List Char) : Except Cause CharSet :=
  if withoutMembers.contains name then .error .propertyValueUnknown
  else
    orCause .propertyUnknown <|
      (find? features name).or ((find? categories name).or ((script? name).map (·.members)))

/-- The characters that have a value of a property. -/
def withValue (name value : List Char) : Except Cause CharSet :=
  match valued.find? fun (names, _) => (CharSet.words names).contains name with
  | some (_, members) => orCause .propertyValueUnknown (members value)
  | none =>
    if (find? features name).isSome || unsupported.contains name then .error .propertyValueUnknown
    else .error .propertyUnknown

/-- The characters that a query is about. -/
def ask : Query → Except Cause CharSet
  | .named name => named (plain name)
  | .valued name value => withValue (plain name) (plain value)

end Chip8.Pattern.Property
