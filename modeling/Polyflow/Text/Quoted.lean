/-
# Quoted text

The written form of a text stands between double quotes. The quote and the
backslash are escaped, so the end can be found; four control characters have a
letter of their own; every other character that does not show by itself is
written by its number, so that two texts that differ also look different.
-/

import Polyflow.Text.DefaultIgnorable
import Polyflow.Text.GraphemeExtend
import Polyflow.Text.Unprintable

namespace Polyflow.Text

/-- The letter that stands for a character behind a backslash. -/
def escapeLetter? : Char → Option Char
  | '"' => some '"'
  | '\\' => some '\\'
  | '\x00' => some '0'
  | '\t' => some 't'
  | '\n' => some 'n'
  | '\r' => some 'r'
  | _ => none

/-- The halfwidth katakana sound marks. They extend the grapheme before them, but
unlike all others that do they are letters with a place of their own. -/
def halfwidthSoundMarks : Ranges :=
  [(0xff9e, 0xff9f)]

/-- Whether a character attaches to the one before it, without a place of its
own. -/
def attaches (c : Char) : Bool :=
  graphemeExtend.contains c.toNat && !halfwidthSoundMarks.contains c.toNat

/-- Whether a character shows by itself inside a quoted text. -/
def isVisible (c : Char) : Bool :=
  !attaches c && !defaultIgnorable.contains c.toNat && !unprintable.contains c.toNat

/-- A character shows by itself unless a range of one of the three properties covers it. The
halfwidth sound marks are covered by one, and show all the same. -/
theorem isVisible_iff (c : Char) :
    isVisible c = true ↔
      (graphemeExtend.Covers c.toNat → halfwidthSoundMarks.Covers c.toNat) ∧
        ¬ defaultIgnorable.Covers c.toNat ∧ ¬ unprintable.Covers c.toNat := by
  have soundMarks_ascending : halfwidthSoundMarks.ascending = true := rfl
  rw [← Ranges.contains_iff_covers graphemeExtend_ascending,
    ← Ranges.contains_iff_covers defaultIgnorable_ascending,
    ← Ranges.contains_iff_covers unprintable_ascending,
    ← Ranges.contains_iff_covers soundMarks_ascending, isVisible, attaches]
  cases graphemeExtend.contains c.toNat <;> cases halfwidthSoundMarks.contains c.toNat <;> simp

/-- A character written by its number, in hexadecimal without leading zeros. -/
def escapeNumber (c : Char) : List Char :=
  ['\\', 'u', '\x7b'] ++ Nat.toDigits 16 c.toNat ++ ['\x7d']

/-- The written form of one character inside a quoted text. -/
def escape (c : Char) : List Char :=
  match escapeLetter? c with
  | some letter => ['\\', letter]
  | none => if isVisible c then [c] else escapeNumber c

/-- A text between double quotes, with all that does not show escaped. -/
def quote (text : String) : String :=
  String.ofList ('"' :: text.toList.flatMap escape ++ ['"'])

end Polyflow.Text
