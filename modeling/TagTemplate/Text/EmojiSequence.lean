import TagTemplate.Text.Ligature
import TagTemplate.Text.Table.Emoji
import TagTemplate.Text.Table.SkinTone

/-!
Emoji that are written by several characters and shown as one picture of two columns: pairs of
regional indicators, emoji with a skin tone, and sequences held together by joiners. A text is read
from its end, so a sequence begins with its last character.
-/
namespace TagTemplate.Text

inductive EmojiSequence where
  | emoji
  | skinTone
  /-- One regional indicator, and several of them. -/
  | regional
  | regionals
  /-- A joiner that waits for the emoji before it. -/
  | joiner
  /-- The sign of a keycap before a joiner. -/
  | keycap
  /-- Regional indicators before a joiner: one, an even number, or an odd number from three on. -/
  | joinedRegional
  | joinedEven
  | joinedOdd
  /-- The tags of a flag before a joiner: letters, or digits with letters behind them. -/
  | tagLetters (count : Nat)
  | tagDigits (count : Nat)
  deriving DecidableEq, Repr

namespace EmojiSequence

def isRegional (c : Char) : Bool := inRanges [(0x1F1E6, 0x1F1FF)] c

def isSkinTone (c : Char) : Bool := inRanges [(0x1F3FB, 0x1F3FF)] c

def isEmoji (c : Char) : Bool := inRanges Table.emoji c

def isTagLetter (c : Char) : Bool := inRanges [(0xE0061, 0xE007A)] c

def isTagDigit (c : Char) : Bool := inRanges [(0xE0030, 0xE0039)] c

def isFlag (c : Char) : Bool := c.toNat == 0x1F3F4

/-- The columns of a character that may end a sequence, and the sequence. -/
def ofChar? (c : Char) : Option (Int × EmojiSequence) :=
  if isRegional c then some (1, regional)
  else if isSkinTone c then some (2, skinTone)
  else if isEmoji c then some (2, emoji)
  else none

/-- A joiner before a sequence that stands for an emoji. -/
def join? (c : Char) : Option (Int × EmojiSequence) :=
  if c = Text.joiner then some (0, joiner) else none

/-- The columns that the character before adds, and what has been read then. A regional indicator
    next to a joiner takes its column back when the pair is complete. -/
def extend? (e : EmojiSequence) (c : Char) : Option (Int × EmojiSequence) :=
  match e with
  | emoji => join? c
  | skinTone => if inRanges Table.skinTone c then some (0, emoji) else join? c
  | regional => if isRegional c then some (1, regionals) else none
  | regionals => if isRegional c then some (1, regionals) else join? c
  | joiner =>
    if c = '\u20E3' then some (0, keycap)
    else if isRegional c then some (1, joinedRegional)
    else if isSkinTone c then some (0, skinTone)
    else if c.toNat = 0xE007F then some (0, tagLetters 0)
    else if isEmoji c then some (0, emoji)
    else none
  | keycap => none
  | joinedRegional => if isRegional c then some (-1, joinedEven) else none
  | joinedEven => if isRegional c then some (3, joinedOdd) else join? c
  | joinedOdd => if isRegional c then some (-1, joinedEven) else join? c
  | tagLetters n =>
    if isTagLetter c ∧ n < 6 then some (0, tagLetters (n + 1))
    else if isTagDigit c ∧ n < 5 then some (0, tagDigits 1)
    else if isFlag c ∧ 3 ≤ n then some (0, emoji)
    else none
  | tagDigits n =>
    if isTagDigit c ∧ n < 3 then some (0, tagDigits (n + 1))
    else if isFlag c ∧ n = 3 then some (0, emoji)
    else none

end EmojiSequence

end TagTemplate.Text
