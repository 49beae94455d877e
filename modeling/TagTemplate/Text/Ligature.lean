import TagTemplate.Text.Range
import TagTemplate.Text.Table.Joinless
import TagTemplate.Text.Table.ZeroWidth

/-!
Ligatures that take fewer columns than their letters, script by script. A text is read from its end,
so a ligature begins with its last letter and is extended by the characters before it.
-/
namespace TagTemplate.Text

def joiner : Char := '\u200D'

inductive Ligature where
  /-- Arabic alef, which joins a lam before it. -/
  | alef
  /-- Hebrew lamed, which joins an alef. -/
  | lamed
  /-- Buginese ya, and the vowel sign i before it. -/
  | ya
  | vowelYa
  /-- A Tifinagh consonant, and the consonant joiner before it. -/
  | consonant
  | joinedConsonant
  /-- The second letter of a pair of Lisu tone letters. -/
  | toneLetter
  /-- Old Turkic i of the Orkhon inscriptions. -/
  | orkhonI
  /-- A Khmer letter that may be written below the one before it. -/
  | khmerLetter
  /-- The Kirat Rai vowel signs that are composed of several characters. -/
  | vowelE
  | vowelAi
  deriving DecidableEq, Repr

namespace Ligature

def alefs : List (Nat × Nat) :=
  [(0x622, 0x623), (0x625, 0x625), (0x627, 0x627), (0x671, 0x673), (0x675, 0x675), (0x773, 0x774),
   (0x870, 0x882)]

def lams : List (Nat × Nat) :=
  [(0x644, 0x644), (0x6B5, 0x6B8), (0x76A, 0x76A), (0x8A6, 0x8A6), (0x8C7, 0x8C7)]

def khmerLetters : List (Nat × Nat) :=
  [(0x1780, 0x1782), (0x1784, 0x1787), (0x1789, 0x178C), (0x178E, 0x1793), (0x1795, 0x1798),
   (0x179B, 0x179D), (0x17A0, 0x17A0), (0x17A2, 0x17A2), (0x17A7, 0x17A7), (0x17AB, 0x17AC),
   (0x17AF, 0x17AF)]

def consonants : List (Nat × Nat) := [(0x2D31, 0x2D65), (0x2D6F, 0x2D6F)]

/-- The ligature that a character may end; such a character alone takes one column. -/
def ofChar? (c : Char) : Option Ligature :=
  if inRanges alefs c then some alef
  else if inRanges khmerLetters c then some khmerLetter
  else if inRanges consonants c then some consonant
  else match c.toNat with
    | 0x5DC => some lamed
    | 0x1A10 => some ya
    | 0xA4FC | 0xA4FD => some toneLetter
    | 0x10C03 => some orkhonI
    | 0x16D67 => some vowelE
    | 0x16D68 => some vowelAi
    | _ => none

/-- Marks that may stand anywhere in a ligature, the Arabic one apart. -/
def isIgnored (c : Char) : Bool :=
  inRanges [(0x34F, 0x34F), (0x17B4, 0x17B5), (0x180B, 0x180D), (0x180F, 0x180F), (0xFE00, 0xFE0F),
    (0xE0100, 0xE01EF)] c

/-- Whether a character between two Arabic letters lets them join. -/
def isTransparent (c : Char) : Bool := inRanges Table.zeroWidth c && !inRanges Table.joinless c

/-- The columns that the character before adds, and what has been read then. `joined` tells whether
    a joiner stands between. -/
def extend? (l : Ligature) (joined : Bool) (c : Char) : Option (Int × Option Ligature) :=
  match l, joined with
  | alef, _ =>
    if inRanges lams c then some (0, none)
    else if isTransparent c then some (0, some alef)
    else none
  | lamed, true => if c = '\u05D0' then some (0, none) else none
  | ya, true => if c = '\u1A17' then some (0, some vowelYa) else none
  | vowelYa, _ => if c = '\u1A15' then some (0, none) else none
  | consonant, joined =>
    if c = '\u2D7F' then some (1, some joinedConsonant)
    else if joined && inRanges consonants c then some (0, none)
    else none
  | joinedConsonant, _ => if inRanges consonants c then some (-1, none) else none
  | toneLetter, _ => if inRanges [(0xA4F8, 0xA4FB)] c then some (0, none) else none
  | orkhonI, true => if c.toNat = 0x10C32 then some (0, none) else none
  | khmerLetter, _ => if c = '\u17D2' then some (-1, none) else none
  | vowelE, false =>
    match c.toNat with
    | 0x16D63 | 0x16D69 => some (0, none)
    | 0x16D67 => some (0, some vowelAi)
    | 0x16D68 => some (1, some vowelE)
    | _ => none
  | vowelAi, false => if c.toNat = 0x16D63 then some (0, none) else none
  | _, _ => none

end Ligature

end TagTemplate.Text
