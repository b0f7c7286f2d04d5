import Descent.Text.Alphabetic
import Descent.Text.Blank
import Descent.Text.Category
import Descent.Text.Script

/-!
# Character properties

The properties of Unicode characters that a pattern may name, as in `\p{Greek}`.
Names are compared in lower case, without spaces, underscores and hyphens, and
without a leading `is`.
-/
namespace Descent

/-- A set of characters that has a name. These are the ones that the engine of this library knows;
other engines know more of them. -/
inductive Property where
  | alphabetic | whiteSpace | lowercase | uppercase | idStart | idContinue | xidStart | xidContinue
  | hexDigit | asciiHexDigit | ideographic | dash | joinControl | emoji
  /-- What `\w` stands for. -/
  | word
  | anything | assigned | ascii
  | category (c : Category)
  | categories (first : Char)
  | casedLetter
  | script (name : String)
  deriving DecidableEq, Repr

namespace Property

def otherLowercaseRanges : Ranges :=
  [(0xAA, 0xAA), (0xBA, 0xBA), (0x2B0, 0x2B8), (0x2C0, 0x2C1), (0x2E0, 0x2E4), (0x345, 0x345),
   (0x37A, 0x37A), (0x10FC, 0x10FC), (0x1D2C, 0x1D6A), (0x1D78, 0x1D78), (0x1D9B, 0x1DBF),
   (0x2071, 0x2071), (0x207F, 0x207F), (0x2090, 0x209C), (0x2170, 0x217F), (0x24D0, 0x24E9),
   (0x2C7C, 0x2C7D), (0xA69C, 0xA69D), (0xA770, 0xA770), (0xA7F1, 0xA7F4), (0xA7F8, 0xA7F9),
   (0xAB5C, 0xAB5F), (0xAB69, 0xAB69), (0x10780, 0x10780), (0x10783, 0x10785),
   (0x10787, 0x107B0), (0x107B2, 0x107BA), (0x1E030, 0x1E06D)]

def otherUppercaseRanges : Ranges :=
  [(0x2160, 0x216F), (0x24B6, 0x24CF), (0x1F130, 0x1F149), (0x1F150, 0x1F169),
   (0x1F170, 0x1F189)]

def otherIdStartRanges : Ranges :=
  [(0x1885, 0x1886), (0x2118, 0x2118), (0x212E, 0x212E), (0x309B, 0x309C)]

def otherIdContinueRanges : Ranges :=
  [(0xB7, 0xB7), (0x387, 0x387), (0x1369, 0x1371), (0x19DA, 0x19DA), (0x200C, 0x200D),
   (0x30FB, 0x30FB), (0xFF65, 0xFF65)]

def unstableIdStartRanges : Ranges :=
  [(0x37A, 0x37A), (0xE33, 0xE33), (0xEB3, 0xEB3), (0x309B, 0x309C), (0xFC5E, 0xFC63),
   (0xFDFA, 0xFDFB), (0xFE70, 0xFE70), (0xFE72, 0xFE72), (0xFE74, 0xFE74), (0xFE76, 0xFE76),
   (0xFE78, 0xFE78), (0xFE7A, 0xFE7A), (0xFE7C, 0xFE7C), (0xFE7E, 0xFE7E), (0xFF9E, 0xFF9F)]

def unstableIdContinueRanges : Ranges :=
  [(0x37A, 0x37A), (0x309B, 0x309C), (0xFC5E, 0xFC63), (0xFDFA, 0xFDFB), (0xFE70, 0xFE70),
   (0xFE72, 0xFE72), (0xFE74, 0xFE74), (0xFE76, 0xFE76), (0xFE78, 0xFE78), (0xFE7A, 0xFE7A),
   (0xFE7C, 0xFE7C), (0xFE7E, 0xFE7E)]

def hexDigitRanges : Ranges :=
  [(0x30, 0x39), (0x41, 0x46), (0x61, 0x66), (0xFF10, 0xFF19), (0xFF21, 0xFF26),
   (0xFF41, 0xFF46)]

def asciiHexDigitRanges : Ranges :=
  [(0x30, 0x39), (0x41, 0x46), (0x61, 0x66)]

def ideographicRanges : Ranges :=
  [(0x3006, 0x3007), (0x3021, 0x3029), (0x3038, 0x303A), (0x3400, 0x4DBF), (0x4E00, 0x9FFF),
   (0xF900, 0xFA6D), (0xFA70, 0xFAD9), (0x16FE4, 0x16FE4), (0x16FF2, 0x16FF6),
   (0x17000, 0x18CD5), (0x18CFF, 0x18D1E), (0x18D80, 0x18DF2), (0x1B170, 0x1B2FB),
   (0x20000, 0x2A6DF), (0x2A700, 0x2B81D), (0x2B820, 0x2CEAD), (0x2CEB0, 0x2EBE0),
   (0x2EBF0, 0x2EE5D), (0x2F800, 0x2FA1D), (0x30000, 0x3134A), (0x31350, 0x33479)]

def dashRanges : Ranges :=
  [(0x2D, 0x2D), (0x58A, 0x58A), (0x5BE, 0x5BE), (0x1400, 0x1400), (0x1806, 0x1806),
   (0x2010, 0x2015), (0x2053, 0x2053), (0x207B, 0x207B), (0x208B, 0x208B), (0x2212, 0x2212),
   (0x2E17, 0x2E17), (0x2E1A, 0x2E1A), (0x2E3A, 0x2E3B), (0x2E40, 0x2E40), (0x2E5D, 0x2E5D),
   (0x301C, 0x301C), (0x3030, 0x3030), (0x30A0, 0x30A0), (0xFE31, 0xFE32), (0xFE58, 0xFE58),
   (0xFE63, 0xFE63), (0xFF0D, 0xFF0D), (0x10D6E, 0x10D6E), (0x10EAD, 0x10EAD)]

def emojiRanges : Ranges :=
  [(0x23, 0x23), (0x2A, 0x2A), (0x30, 0x39), (0xA9, 0xA9), (0xAE, 0xAE), (0x203C, 0x203C),
   (0x2049, 0x2049), (0x2122, 0x2122), (0x2139, 0x2139), (0x2194, 0x2199), (0x21A9, 0x21AA),
   (0x231A, 0x231B), (0x2328, 0x2328), (0x23CF, 0x23CF), (0x23E9, 0x23F3), (0x23F8, 0x23FA),
   (0x24C2, 0x24C2), (0x25AA, 0x25AB), (0x25B6, 0x25B6), (0x25C0, 0x25C0), (0x25FB, 0x25FE),
   (0x2600, 0x2604), (0x260E, 0x260E), (0x2611, 0x2611), (0x2614, 0x2615), (0x2618, 0x2618),
   (0x261D, 0x261D), (0x2620, 0x2620), (0x2622, 0x2623), (0x2626, 0x2626), (0x262A, 0x262A),
   (0x262E, 0x262F), (0x2638, 0x263A), (0x2640, 0x2640), (0x2642, 0x2642), (0x2648, 0x2653),
   (0x265F, 0x2660), (0x2663, 0x2663), (0x2665, 0x2666), (0x2668, 0x2668), (0x267B, 0x267B),
   (0x267E, 0x267F), (0x2692, 0x2697), (0x2699, 0x2699), (0x269B, 0x269C), (0x26A0, 0x26A1),
   (0x26A7, 0x26A7), (0x26AA, 0x26AB), (0x26B0, 0x26B1), (0x26BD, 0x26BE), (0x26C4, 0x26C5),
   (0x26C8, 0x26C8), (0x26CE, 0x26CF), (0x26D1, 0x26D1), (0x26D3, 0x26D4), (0x26E9, 0x26EA),
   (0x26F0, 0x26F5), (0x26F7, 0x26FA), (0x26FD, 0x26FD), (0x2702, 0x2702), (0x2705, 0x2705),
   (0x2708, 0x270D), (0x270F, 0x270F), (0x2712, 0x2712), (0x2714, 0x2714), (0x2716, 0x2716),
   (0x271D, 0x271D), (0x2721, 0x2721), (0x2728, 0x2728), (0x2733, 0x2734), (0x2744, 0x2744),
   (0x2747, 0x2747), (0x274C, 0x274C), (0x274E, 0x274E), (0x2753, 0x2755), (0x2757, 0x2757),
   (0x2763, 0x2764), (0x2795, 0x2797), (0x27A1, 0x27A1), (0x27B0, 0x27B0), (0x27BF, 0x27BF),
   (0x2934, 0x2935), (0x2B05, 0x2B07), (0x2B1B, 0x2B1C), (0x2B50, 0x2B50), (0x2B55, 0x2B55),
   (0x3030, 0x3030), (0x303D, 0x303D), (0x3297, 0x3297), (0x3299, 0x3299), (0x1F004, 0x1F004),
   (0x1F0CF, 0x1F0CF), (0x1F170, 0x1F171), (0x1F17E, 0x1F17F), (0x1F18E, 0x1F18E),
   (0x1F191, 0x1F19A), (0x1F1E6, 0x1F1FF), (0x1F201, 0x1F202), (0x1F21A, 0x1F21A),
   (0x1F22F, 0x1F22F), (0x1F232, 0x1F23A), (0x1F250, 0x1F251), (0x1F300, 0x1F321),
   (0x1F324, 0x1F393), (0x1F396, 0x1F397), (0x1F399, 0x1F39B), (0x1F39E, 0x1F3F0),
   (0x1F3F3, 0x1F3F5), (0x1F3F7, 0x1F4FD), (0x1F4FF, 0x1F53D), (0x1F549, 0x1F54E),
   (0x1F550, 0x1F567), (0x1F56F, 0x1F570), (0x1F573, 0x1F57A), (0x1F587, 0x1F587),
   (0x1F58A, 0x1F58D), (0x1F590, 0x1F590), (0x1F595, 0x1F596), (0x1F5A4, 0x1F5A5),
   (0x1F5A8, 0x1F5A8), (0x1F5B1, 0x1F5B2), (0x1F5BC, 0x1F5BC), (0x1F5C2, 0x1F5C4),
   (0x1F5D1, 0x1F5D3), (0x1F5DC, 0x1F5DE), (0x1F5E1, 0x1F5E1), (0x1F5E3, 0x1F5E3),
   (0x1F5E8, 0x1F5E8), (0x1F5EF, 0x1F5EF), (0x1F5F3, 0x1F5F3), (0x1F5FA, 0x1F64F),
   (0x1F680, 0x1F6C5), (0x1F6CB, 0x1F6D2), (0x1F6D5, 0x1F6D8), (0x1F6DC, 0x1F6E5),
   (0x1F6E9, 0x1F6E9), (0x1F6EB, 0x1F6EC), (0x1F6F0, 0x1F6F0), (0x1F6F3, 0x1F6FC),
   (0x1F7E0, 0x1F7EB), (0x1F7F0, 0x1F7F0), (0x1F90C, 0x1F93A), (0x1F93C, 0x1F945),
   (0x1F947, 0x1F9FF), (0x1FA70, 0x1FA7C), (0x1FA80, 0x1FA8A), (0x1FA8E, 0x1FAC6),
   (0x1FAC8, 0x1FAC8), (0x1FACD, 0x1FADC), (0x1FADF, 0x1FAEA), (0x1FAEF, 0x1FAF8)]

/-- The categories of which the one-letter name is the first letter. -/
def group (first : Char) : List Category :=
  match first with
  | 'l' => [.lu, .ll, .lt, .lm, .lo]
  | 'm' => [.mn, .mc, .me]
  | 'n' => [.nd, .nl, .no]
  | 'p' => [.pc, .pd, .ps, .pe, .pi, .pf, .po]
  | 's' => [.sm, .sc, .sk, .so]
  | 'z' => [.zs, .zl, .zp]
  | 'c' => [.cc, .cf, .co]
  | _ => []

def inAnyOf (categories : List Category) (c : Char) : Bool :=
  categories.any fun category => category.contains c

def isAssigned (c : Char) : Bool := inAnyOf Category.all c

def isIdStart (c : Char) : Bool :=
  (inAnyOf (.nl :: group 'l') c || otherIdStartRanges.contains c) && c.toNat != 0x2E2F

def isIdContinue (c : Char) : Bool :=
  isIdStart c || inAnyOf [.mn, .mc, .nd, .pc] c || otherIdContinueRanges.contains c

def isJoinControl (c : Char) : Bool := c.toNat == 0x200C || c.toNat == 0x200D

def contains : Property → Char → Bool
  | alphabetic, c => isAlphabetic c
  | whiteSpace, c => isBlank c
  | lowercase, c => Category.contains .ll c || otherLowercaseRanges.contains c
  | uppercase, c => Category.contains .lu c || otherUppercaseRanges.contains c
  | idStart, c => isIdStart c
  | idContinue, c => isIdContinue c
  | xidStart, c => isIdStart c && !unstableIdStartRanges.contains c
  | xidContinue, c => isIdContinue c && !unstableIdContinueRanges.contains c
  | hexDigit, c => hexDigitRanges.contains c
  | asciiHexDigit, c => asciiHexDigitRanges.contains c
  | ideographic, c => ideographicRanges.contains c
  | dash, c => dashRanges.contains c
  | joinControl, c => isJoinControl c
  | emoji, c => emojiRanges.contains c
  | word, c => isAlphabetic c || inAnyOf [.mn, .mc, .me, .nd, .pc] c || isJoinControl c
  | anything, _ => true
  | assigned, c => isAssigned c
  | ascii, c => c.toNat < 128
  | category k, c => k.contains c
  | categories first, c => inAnyOf (group first) c || (first == 'c' && !isAssigned c)
  | casedLetter, c => inAnyOf [.lu, .ll, .lt] c
  | script name, c => ((scriptRanges? name).map (·.contains c)).getD false

/-- The form in which names are compared. -/
def normalizeName (name : List Char) : String :=
  let plain (cs : List Char) :=
    (cs.filter fun c => c != ' ' && c != '_' && c != '-' && c.toNat < 128).map Char.toLower
  match name with
  | i :: s :: rest =>
    if i.toLower = 'i' ∧ s.toLower = 's' then
      if plain rest = ['c'] then "isc" else String.ofList (plain rest)
    else String.ofList (plain name)
  | _ => String.ofList (plain name)

/-- The properties that hold or do not hold of a character. -/
def ofBinaryName? : String → Option Property
  | "alphabetic" | "alpha" => some alphabetic
  | "whitespace" | "wspace" | "space" => some whiteSpace
  | "lowercase" | "lower" => some lowercase
  | "uppercase" | "upper" => some uppercase
  | "idstart" | "ids" => some idStart
  | "idcontinue" | "idc" => some idContinue
  | "xidstart" | "xids" => some xidStart
  | "xidcontinue" | "xidc" => some xidContinue
  | "hexdigit" | "hex" => some hexDigit
  | "asciihexdigit" | "ahex" => some asciiHexDigit
  | "ideographic" | "ideo" => some ideographic
  | "dash" => some dash
  | "joincontrol" | "joinc" => some joinControl
  | "emoji" => some emoji
  | _ => none

def ofCategoryName? : String → Option Property
  | "any" => some anything
  | "assigned" => some assigned
  | "ascii" => some ascii
  | "c" | "other" => some (categories 'c')
  | "cc" | "control" | "cntrl" => some (category .cc)
  | "cf" | "format" => some (category .cf)
  | "co" | "privateuse" => some (category .co)
  | "l" | "letter" => some (categories 'l')
  | "lc" | "casedletter" => some casedLetter
  | "ll" | "lowercaseletter" => some (category .ll)
  | "lm" | "modifierletter" => some (category .lm)
  | "lo" | "otherletter" => some (category .lo)
  | "lt" | "titlecaseletter" => some (category .lt)
  | "lu" | "uppercaseletter" => some (category .lu)
  | "m" | "mark" | "combiningmark" => some (categories 'm')
  | "mc" | "spacingmark" => some (category .mc)
  | "me" | "enclosingmark" => some (category .me)
  | "mn" | "nonspacingmark" => some (category .mn)
  | "n" | "number" => some (categories 'n')
  | "nd" | "decimalnumber" | "digit" => some (category .nd)
  | "nl" | "letternumber" => some (category .nl)
  | "no" | "othernumber" => some (category .no)
  | "p" | "punctuation" | "punct" => some (categories 'p')
  | "pc" | "connectorpunctuation" => some (category .pc)
  | "pd" | "dashpunctuation" => some (category .pd)
  | "pe" | "closepunctuation" => some (category .pe)
  | "pf" | "finalpunctuation" => some (category .pf)
  | "pi" | "initialpunctuation" => some (category .pi)
  | "po" | "otherpunctuation" => some (category .po)
  | "ps" | "openpunctuation" => some (category .ps)
  | "s" | "symbol" => some (categories 's')
  | "sc" | "currencysymbol" => some (category .sc)
  | "sk" | "modifiersymbol" => some (category .sk)
  | "sm" | "mathsymbol" => some (category .sm)
  | "so" | "othersymbol" => some (category .so)
  | "z" | "separator" => some (categories 'z')
  | "zl" | "lineseparator" => some (category .zl)
  | "zp" | "paragraphseparator" => some (category .zp)
  | "zs" | "spaceseparator" => some (category .zs)
  | _ => none

def ofScriptName? (name : String) : Option Property :=
  (scriptRanges? name).map fun _ => script name

/-- A name on its own is a property, a category or a script. -/
def ofName? (name : List Char) : Option Property :=
  let name := normalizeName name
  ofBinaryName? name <|> ofCategoryName? name <|> ofScriptName? name

/-- A name with a value is a category or a script. -/
def ofPair? (name value : List Char) : Option Property :=
  match normalizeName name with
  | "gc" | "generalcategory" => ofCategoryName? (normalizeName value)
  | "sc" | "script" => ofScriptName? (normalizeName value)
  | _ => none

end Property

end Descent
