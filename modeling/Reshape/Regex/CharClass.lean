/-
# Named sets of characters

The sets that a regular expression may name: by a letter (`\d`, `\s`, `\w`), by a word
between brackets (`[:alpha:]`), by a Unicode property, category or script (`\p{Greek}`), or by
a property and its value (`\p{Age=6.0}`).  Names of the last two kinds are read without regard
to case, blanks, dashes, underscores and a leading "is".
-/
import Reshape.Regex.Basic
import Reshape.Unicode.Age
import Reshape.Unicode.Break
import Reshape.Unicode.FoldTable
import Reshape.Unicode.Script
import Reshape.Unicode.ScriptExtension

namespace Reshape.Regex

open Unicode (NamedSet Ranges)

/-! ## 1. Sets named by a letter or a word -/

/-- Decimal digits. -/
def digitSet (unicode : Bool) : Ranges :=
  if unicode then Ranges.ofText Unicode.Category.decimalNumber else [('0'.toNat, '9'.toNat)]

/-- White characters. -/
def spaceSet (unicode : Bool) : Ranges :=
  if unicode then Ranges.ofText Unicode.Property.whiteSpace else [(9, 13), (32, 32)]

/-- Characters of words. -/
def wordSetOf (unicode : Bool) : Ranges :=
  if unicode then wordSet
  else [('0'.toNat, '9'.toNat), ('A'.toNat, 'Z'.toNat), ('_'.toNat, '_'.toNat),
    ('a'.toNat, 'z'.toNat)]

/-- The sets of ASCII characters that a word between `[:` and `:]` names. -/
def asciiSet? (name : String) : Option Ranges :=
  match name with
  | "alnum" => some [(0x30, 0x39), (0x41, 0x5A), (0x61, 0x7A)]
  | "alpha" => some [(0x41, 0x5A), (0x61, 0x7A)]
  | "ascii" => some [(0, 0x7F)]
  | "blank" => some [(9, 9), (0x20, 0x20)]
  | "cntrl" => some [(0, 0x1F), (0x7F, 0x7F)]
  | "digit" => some [(0x30, 0x39)]
  | "graph" => some [(0x21, 0x7E)]
  | "lower" => some [(0x61, 0x7A)]
  | "print" => some [(0x20, 0x7E)]
  | "punct" => some [(0x21, 0x2F), (0x3A, 0x40), (0x5B, 0x60), (0x7B, 0x7E)]
  | "space" => some [(9, 13), (0x20, 0x20)]
  | "upper" => some [(0x41, 0x5A)]
  | "word" => some [(0x30, 0x39), (0x41, 0x5A), (0x5F, 0x5F), (0x61, 0x7A)]
  | "xdigit" => some [(0x30, 0x39), (0x41, 0x46), (0x61, 0x66)]
  | _ => none

/-! ## 2. Sets named by a Unicode name -/

/-- A name as it is compared: ASCII letters in lower case and digits, without blanks, dashes
and underscores, and without a leading "is" unless only "c" follows it. -/
def plainName (name : String) : String :=
  let keep := (name.toList.filter fun c => c.toNat < 128 && c ≠ ' ' && c ≠ '-' && c ≠ '_').map
    Char.toLower
  match keep, (name.toList.take 2).map Char.toLower with
  | 'i' :: 's' :: rest, ['i', 's'] =>
    if rest = ['c'] then "isc" else String.ofList rest
  | keep, _ => String.ofList keep

/-- General categories by their names, with the tables that make them up. -/
def categories : List (List String × List String) :=
  let lu := Unicode.Category.uppercaseLetter
  let ll := Unicode.Category.lowercaseLetter
  let lt := Unicode.Category.titlecaseLetter
  let lm := Unicode.Category.modifierLetter
  let lo := Unicode.Category.otherLetter
  let mn := Unicode.Category.nonspacingMark
  let mc := Unicode.Category.spacingMark
  let me := Unicode.Category.enclosingMark
  let nd := Unicode.Category.decimalNumber
  let nl := Unicode.Category.letterNumber
  let no := Unicode.Category.otherNumber
  let pc := Unicode.Category.connectorPunctuation
  let pd := Unicode.Category.dashPunctuation
  let ps := Unicode.Category.openPunctuation
  let pe := Unicode.Category.closePunctuation
  let pi := Unicode.Category.initialPunctuation
  let pf := Unicode.Category.finalPunctuation
  let po := Unicode.Category.otherPunctuation
  let sm := Unicode.Category.mathSymbol
  let sc := Unicode.Category.currencySymbol
  let sk := Unicode.Category.modifierSymbol
  let so := Unicode.Category.otherSymbol
  let zs := Unicode.Category.spaceSeparator
  let zl := Unicode.Category.lineSeparator
  let zp := Unicode.Category.paragraphSeparator
  let cc := Unicode.Category.control
  let cf := Unicode.Category.format
  let co := Unicode.Category.privateUse
  [(["lu", "uppercaseletter"], [lu]), (["ll", "lowercaseletter"], [ll]),
    (["lt", "titlecaseletter"], [lt]), (["lm", "modifierletter"], [lm]),
    (["lo", "otherletter"], [lo]), (["lc", "casedletter"], [lu, ll, lt]),
    (["l", "letter"], [lu, ll, lt, lm, lo]),
    (["mn", "nonspacingmark"], [mn]), (["mc", "spacingmark"], [mc]),
    (["me", "enclosingmark"], [me]), (["m", "mark", "combiningmark"], [mn, mc, me]),
    (["nd", "decimalnumber", "digit"], [nd]), (["nl", "letternumber"], [nl]),
    (["no", "othernumber"], [no]), (["n", "number"], [nd, nl, no]),
    (["pc", "connectorpunctuation"], [pc]), (["pd", "dashpunctuation"], [pd]),
    (["ps", "openpunctuation"], [ps]), (["pe", "closepunctuation"], [pe]),
    (["pi", "initialpunctuation"], [pi]), (["pf", "finalpunctuation"], [pf]),
    (["po", "otherpunctuation"], [po]),
    (["p", "punct", "punctuation"], [pc, pd, ps, pe, pi, pf, po]),
    (["sm", "mathsymbol"], [sm]), (["sc", "currencysymbol"], [sc]),
    (["sk", "modifiersymbol"], [sk]), (["so", "othersymbol"], [so]),
    (["s", "symbol"], [sm, sc, sk, so]),
    (["zs", "spaceseparator"], [zs]), (["zl", "lineseparator"], [zl]),
    (["zp", "paragraphseparator"], [zp]), (["z", "separator"], [zs, zl, zp]),
    (["cc", "control", "cntrl"], [cc]), (["cf", "format"], [cf]), (["co", "privateuse"], [co])]

/-- The characters that belong to a category. -/
def assignedSet : Ranges :=
  Ranges.canonical ((categories.filter fun e => e.2.length = 1).flatMap fun e =>
    e.2.flatMap Ranges.ofText)

/-- The set that a category name stands for. -/
def categorySet? (name : String) : Option Ranges :=
  match name with
  | "any" => some [(0, Ranges.maxCode)]
  | "ascii" => some [(0, 0x7F)]
  | "assigned" => some assignedSet
  | "cn" => some assignedSet.complement
  | "unassigned" => some assignedSet.complement
  | "cs" => some []
  | "surrogate" => some []
  | "c" => some (otherSet)
  | "other" => some (otherSet)
  | name =>
    (categories.find? fun e => e.1.contains name).map fun e =>
      Ranges.canonical (e.2.flatMap Ranges.ofText)
where
  otherSet : Ranges :=
    Ranges.union assignedSet.complement <|
      [Unicode.Category.control, Unicode.Category.format, Unicode.Category.privateUse].flatMap
        Ranges.ofText

/-- Is this, in plain form, one of the names of a set? -/
def isNameOf (name : String) (s : NamedSet) : Bool := (s.names.map plainName).contains name

/-- The set with a name. -/
def namedSet? (sets : List NamedSet) (name : String) : Option Ranges :=
  (sets.find? (isNameOf name)).map fun s => Ranges.ofText s.ranges

/-- The set that a script name stands for. -/
def scriptSet? (name : String) : Option Ranges := namedSet? Unicode.scripts name

/-- Properties by their names. -/
def properties : List (List String × String) :=
  [(["alpha", "alphabetic"], Unicode.Property.alphabetic),
    (["ahex", "asciihexdigit"], Unicode.Property.asciiHexDigit),
    (["bidic", "bidicontrol"], Unicode.Property.bidiControl),
    (["bidim", "bidimirrored"], Unicode.Property.bidiMirrored),
    (["ci", "caseignorable"], Unicode.Property.caseIgnorable),
    (["cased"], Unicode.Property.cased),
    (["cwcf", "changeswhencasefolded"], Unicode.Property.changesWhenCasefolded),
    (["cwcm", "changeswhencasemapped"], Unicode.Property.changesWhenCasemapped),
    (["cwl", "changeswhenlowercased"], Unicode.Property.changesWhenLowercased),
    (["cwt", "changeswhentitlecased"], Unicode.Property.changesWhenTitlecased),
    (["cwu", "changeswhenuppercased"], Unicode.Property.changesWhenUppercased),
    (["dash"], Unicode.Property.dash),
    (["di", "defaultignorablecodepoint"], Unicode.Property.defaultIgnorableCodePoint),
    (["dep", "deprecated"], Unicode.Property.deprecated),
    (["dia", "diacritic"], Unicode.Property.diacritic),
    (["emoji"], Unicode.Property.emoji),
    (["ecomp", "emojicomponent"], Unicode.Property.emojiComponent),
    (["emod", "emojimodifier"], Unicode.Property.emojiModifier),
    (["ebase", "emojimodifierbase"], Unicode.Property.emojiModifierBase),
    (["epres", "emojipresentation"], Unicode.Property.emojiPresentation),
    (["extpict", "extendedpictographic"], Unicode.Property.extendedPictographic),
    (["ext", "extender"], Unicode.Property.extender),
    (["grbase", "graphemebase"], Unicode.Property.graphemeBase),
    (["grext", "graphemeextend"], Unicode.Property.graphemeExtend),
    (["grlink", "graphemelink"], Unicode.Property.graphemeLink),
    (["hex", "hexdigit"], Unicode.Property.hexDigit),
    (["hyphen"], Unicode.Property.hyphen),
    (["idcompatmathcontinue"], Unicode.Property.idCompatMathContinue),
    (["idcompatmathstart"], Unicode.Property.idCompatMathStart),
    (["idc", "idcontinue"], Unicode.Property.idContinue),
    (["ids", "idstart"], Unicode.Property.idStart),
    (["ideo", "ideographic"], Unicode.Property.ideographic),
    (["idsb", "idsbinaryoperator"], Unicode.Property.idsBinaryOperator),
    (["idst", "idstrinaryoperator"], Unicode.Property.idsTrinaryOperator),
    (["idsu", "idsunaryoperator"], Unicode.Property.idsUnaryOperator),
    (["joinc", "joincontrol"], Unicode.Property.joinControl),
    (["loe", "logicalorderexception"], Unicode.Property.logicalOrderException),
    (["lower", "lowercase"], Unicode.Property.lowercase),
    (["math"], Unicode.Property.math),
    (["mcm", "modifiercombiningmark"], Unicode.Property.modifierCombiningMark),
    (["nchar", "noncharactercodepoint"], Unicode.Property.noncharacterCodePoint),
    (["oalpha", "otheralphabetic"], Unicode.Property.otherAlphabetic),
    (["odi", "otherdefaultignorablecodepoint"],
      Unicode.Property.otherDefaultIgnorableCodePoint),
    (["ogrext", "othergraphemeextend"], Unicode.Property.otherGraphemeExtend),
    (["oidc", "otheridcontinue"], Unicode.Property.otherIdContinue),
    (["oids", "otheridstart"], Unicode.Property.otherIdStart),
    (["olower", "otherlowercase"], Unicode.Property.otherLowercase),
    (["omath", "othermath"], Unicode.Property.otherMath),
    (["oupper", "otheruppercase"], Unicode.Property.otherUppercase),
    (["patsyn", "patternsyntax"], Unicode.Property.patternSyntax),
    (["patws", "patternwhitespace"], Unicode.Property.patternWhiteSpace),
    (["pcm", "prependedconcatenationmark"], Unicode.Property.prependedConcatenationMark),
    (["qmark", "quotationmark"], Unicode.Property.quotationMark),
    (["radical"], Unicode.Property.radical),
    (["ri", "regionalindicator"], Unicode.Property.regionalIndicator),
    (["sterm", "sentenceterminal"], Unicode.Property.sentenceTerminal),
    (["sd", "softdotted"], Unicode.Property.softDotted),
    (["term", "terminalpunctuation"], Unicode.Property.terminalPunctuation),
    (["uideo", "unifiedideograph"], Unicode.Property.unifiedIdeograph),
    (["upper", "uppercase"], Unicode.Property.uppercase),
    (["vs", "variationselector"], Unicode.Property.variationSelector),
    (["wspace", "whitespace", "space"], Unicode.Property.whiteSpace),
    (["xidc", "xidcontinue"], Unicode.Property.xidContinue),
    (["xids", "xidstart"], Unicode.Property.xidStart)]

/-- The set that a property, category or script name stands for. -/
def unicodeSet? (name : String) : Option Ranges :=
  let name := plainName name
  match properties.find? fun e => e.1.contains name with
  | some e => some (Ranges.ofText e.2)
  | none => (categorySet? name).orElse fun _ => scriptSet? name

/-- Why a set that is named by a property and a value does not exist. -/
inductive NameFault where
  | property
  | value

/-- Properties that are known by name, but neither of sets nor with values that are known. -/
def otherProperties : List String :=
  ["bc", "bidiclass", "blk", "block", "bmg", "bidimirroringglyph", "bpb", "bidipairedbracket",
    "bpt", "bidipairedbrackettype", "ccc", "canonicalcombiningclass", "ce",
    "compositionexclusion", "cf", "casefolding", "compex", "fullcompositionexclusion", "cwkcf",
    "changeswhennfkccasefolded", "dm", "decompositionmapping", "dt", "decompositiontype", "ea",
    "eastasianwidth", "equideo", "equivalentunifiedideograph", "fcnfkc", "fcnfkcclosure", "hst",
    "hangulsyllabletype", "incb", "indicconjunctbreak", "inpc", "indicpositionalcategory",
    "insc", "indicsyllabiccategory", "isc", "jg", "joininggroup", "jsn", "jamoshortname", "jt",
    "joiningtype", "lb", "linebreak", "lc", "lowercasemapping", "na", "name", "na1",
    "unicode1name", "namealias", "nfcqc", "nfcquickcheck", "nfdqc", "nfdquickcheck", "nfkccf",
    "nfkccasefold", "nfkcscf", "nfkcsimplecasefold", "nfkcqc", "nfkcquickcheck", "nfkdqc",
    "nfkdquickcheck", "nt", "numerictype", "nv", "numericvalue", "scf", "sfc",
    "simplecasefolding", "slc", "simplelowercasemapping", "stc", "simpletitlecasemapping",
    "suc", "simpleuppercasemapping", "tc", "titlecasemapping", "uc", "uppercasemapping", "vo",
    "verticalorientation", "xonfc", "expandsonnfc", "xonfd", "expandsonnfd", "xonfkc",
    "expandsonnfkc", "xonfkd", "expandsonnfkd"]

/-- The characters that are written in a script: those of the script itself, but for what is
written in other scripts, and what is written in it among others. -/
def scriptExtensionSet? (name : String) : Option Ranges :=
  (Unicode.scripts.find? (isNameOf name)).map fun s =>
    let all := Unicode.sharedCharacters
    let shared := all.filter fun e => e.scripts.any s.names.contains
    let rangesOf (es : List Unicode.SharedCharacters) : Ranges :=
      Ranges.canonical (es.flatMap fun e => Ranges.ofText e.ranges)
    Ranges.union ((Ranges.ofText s.ranges).diff (rangesOf all)) (rangesOf shared)

/-- The characters that a version of Unicode has: it brought them, or one before it did. -/
def versionSet? (name : String) : Option Ranges :=
  match Unicode.versions.span fun v => !isNameOf name v with
  | (_, []) => none
  | (before, v :: _) =>
    some (Ranges.canonical ((before ++ [v]).flatMap fun v => Ranges.ofText v.ranges))

/-- Properties with values by their names, with the sets of the values. -/
def valuedProperties : List (List String × (String → Option Ranges)) :=
  [(["gc", "generalcategory"], categorySet?), (["sc", "script"], scriptSet?),
    (["scx", "scriptextensions"], scriptExtensionSet?), (["age"], versionSet?),
    (["gcb", "graphemeclusterbreak"], namedSet? Unicode.clusterBreaks),
    (["wb", "wordbreak"], namedSet? Unicode.wordBreaks),
    (["sb", "sentencebreak"], namedSet? Unicode.sentenceBreaks)]

/-- The set of the characters for which a property has a value. -/
def unicodeValueSet (property value : String) : Except NameFault Ranges :=
  let property := plainName property
  match valuedProperties.find? fun e => e.1.contains property with
  | some e =>
    match e.2 (plainName value) with
    | some rs => .ok rs
    | none => .error .value
  | none =>
    let known := otherProperties.contains property || properties.any (·.1.contains property)
    .error (if known then .value else .property)

/-! ## 3. Without regard to case -/

/-- The pairs of a run. -/
def runPairs (r : Unicode.CaseRun) : List (List Nat) :=
  (List.range ((r.last - r.first) / r.step + 1)).map fun i =>
    let c := r.first + i * r.step
    [c, ((c : Int) + r.delta).toNat]

/-- The groups of characters that differ in case only. -/
def foldClasses : List (List Nat) := Unicode.foldPairs.flatMap runPairs ++ Unicode.foldGroups

/-- A set with all characters that differ from one of it in case only. -/
def foldSet (unicode : Bool) (rs : Ranges) : Ranges :=
  let classes := if unicode then foldClasses else
    (List.range 26).map fun i => ['A'.toNat + i, 'a'.toNat + i]
  let more := classes.filter fun g => g.any rs.holds
  Ranges.canonical (rs ++ more.flatMap fun g => g.map fun c => (c, c))

end Reshape.Regex
