import TagTemplate.Text.EmojiSequence
import TagTemplate.Text.Table.Styled
import TagTemplate.Text.Table.Wide

/-!
The columns a text fills on a terminal. The text is read from its end, since what a character adds
depends on what follows it: a variation selector, the rest of a ligature or of an emoji. Up to the
no-break space every character takes one column, tabs and other controls included, a line feed none
and a carriage return before it none.
-/
namespace TagTemplate.Text

inductive Style where
  | picture
  | text
  deriving DecidableEq, Repr

/-- What the text begins with, as far as it matters to the character before. -/
inductive Head where
  | plain
  | lineFeed
  | emoji (e : EmojiSequence)
  | ligature (l : Ligature) (joined : Bool)
  deriving DecidableEq, Repr

/-- The beginning of a text: a variation selector, if one stands there, and what follows it. -/
structure Behind where
  head : Head := .plain
  style : Option Style := none
  deriving DecidableEq, Repr

/-- The columns of a character on its own, and what it may be the end of. -/
def standing (c : Char) : Int × Head :=
  if c = '\n' then (0, .lineFeed)
  else if c.toNat ≤ 0xA0 then (1, .plain)
  else match Ligature.ofChar? c, EmojiSequence.ofChar? c with
    | some l, _ => (1, .ligature l false)
    | none, some (n, e) => (n, .emoji e)
    | none, none =>
      if inRanges Table.zeroWidth c then (0, .plain)
      else if c = '\u17D8' then (3, .plain)
      else if inRanges Table.wide c ∨ c = '\u17A4' then (2, .plain)
      else (1, .plain)

/-- What a ligature becomes by the character before it. -/
def Ligature.headBefore? (l : Ligature) (joined : Bool) (c : Char) : Option (Int × Head) :=
  if l ≠ alef ∧ c = Text.joiner then some (0, .ligature l true)
  else if l ≠ alef ∧ isIgnored c then some (0, .ligature l joined)
  else (l.extend? joined c).map fun (n, l) => (n, l.elim .plain (.ligature · false))

def Head.before (h : Head) (c : Char) : Int × Head :=
  let longer : Option (Int × Head) := match h with
    | plain => none
    | lineFeed => if c = '\r' then some (0, plain) else none
    | emoji e => (e.extend? c).map fun (n, e) => (n, emoji e)
    | ligature l joined => l.headBefore? joined c
  longer.getD (standing c)

/-- A selector before a text. It may stand within a ligature, and the one for pictures behind the
    character that a joiner or the sign of a keycap waits for. -/
def Head.select (h : Head) (style : Style) : Behind :=
  match h, style with
  | ligature .., _ | emoji .joiner, .picture | emoji .keycap, .picture => ⟨h, some style⟩
  | _, _ => ⟨plain, some style⟩

/-- Drops a selector that the character before it does not take. -/
def Behind.withoutStyle (b : Behind) : Head :=
  match b with
  | ⟨.ligature l joined, _⟩ => .ligature l joined
  | ⟨h, none⟩ => h
  | ⟨_, some _⟩ => .plain

def isStyled (c : Char) : Bool := inRanges Table.styled c

/-- A picture that a selector turns into a text of one column; the squared ideographs stay wide. -/
def narrowsToText (c : Char) : Bool :=
  isStyled c && EmojiSequence.isEmoji c && !inRanges [(0x1F200, 0x1F2FF)] c

def Behind.before (b : Behind) (c : Char) : Int × Behind :=
  if b.style = some .picture ∧ isStyled c then
    match b.head with
    | .emoji _ => (0, ⟨.emoji .emoji, none⟩)
    | _ => (2, ⟨.emoji .emoji, none⟩)
  else if b.style = some .text ∧ narrowsToText c then (1, {})
  else if c = '\uFE0F' then (0, b.withoutStyle.select .picture)
  else if c = '\uFE0E' then (0, b.withoutStyle.select .text)
  else
    let (n, h) := b.withoutStyle.before c
    (n, ⟨h, none⟩)

def measure (s : List Char) : Int × Behind :=
  s.foldr (fun c (n, b) => let (k, b) := b.before c; (n + k, b)) (0, {})

def width (s : List Char) : Nat := (measure s).1.toNat

end TagTemplate.Text
