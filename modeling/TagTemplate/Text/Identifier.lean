import TagTemplate.Text.Range
import TagTemplate.Text.Table.IdentifierExtra
import TagTemplate.Text.Table.IdentifierStart

/-!
The characters of identifiers: the Unicode properties `XID_Start` and `XID_Continue`, together with
the dollar sign and, at the start, the low line. ASCII is decided without the tables.
-/
namespace TagTemplate.Text

def isDigit (c : Char) : Bool := '0' ≤ c && c ≤ '9'

def isAsciiLetter (c : Char) : Bool := ('a' ≤ c && c ≤ 'z') || ('A' ≤ c && c ≤ 'Z')

def isIdentifierStart (c : Char) : Bool :=
  if c.toNat < 128 then isAsciiLetter c || c == '_' || c == '$'
  else inRanges Table.identifierStart c

def isIdentifierPart (c : Char) : Bool :=
  if c.toNat < 128 then isAsciiLetter c || isDigit c || c == '_' || c == '$'
  else inRanges Table.identifierStart c || inRanges Table.identifierExtra c

theorem identifier_part_of_start (c : Char) (h : isIdentifierStart c = true) :
    isIdentifierPart c = true := by
  unfold isIdentifierStart at h
  unfold isIdentifierPart
  split at h <;> rename_i small
  · rw [if_pos small]
    revert h
    cases isAsciiLetter c <;> cases isDigit c <;> simp
  · rw [if_neg small, h, Bool.true_or]

theorem ascii_of_digit {c : Char} (digit : isDigit c = true) : c.toNat < 128 := by
  have last : c ≤ '9' := of_decide_eq_true (Bool.and_eq_true_iff.mp digit).2
  exact Nat.lt_of_le_of_lt (UInt32.le_iff_toNat_le.mp last) (by decide)

theorem identifier_part_of_digit {c : Char} (digit : isDigit c = true) :
    isIdentifierPart c = true := by
  rw [isIdentifierPart, if_pos (ascii_of_digit digit), digit]
  simp

/-- Digits are parts of identifiers and begin none. -/
theorem not_start_of_digit {c : Char} (digit : isDigit c = true) :
    isIdentifierStart c = false := by
  have all : ∀ n < 128, isDigit (Char.ofNat n) = true → isIdentifierStart (Char.ofNat n) = false := by
    decide
  have here := all c.toNat (ascii_of_digit digit)
  rw [Char.ofNat_toNat] at here
  exact here digit

end TagTemplate.Text
