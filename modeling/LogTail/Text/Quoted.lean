import LogTail.Text.Hex
import LogTail.Text.GraphemeExtend
import LogTail.Text.Unprintable

/-!
# Quoted text

Texts and byte strings as messages show them: between double quotes, with a backslash before a quote or
a backslash, short escapes for the common controls, the code point of a character that would not show
alone, and the two digits of a byte that is no part of a character.
-/

namespace LogTail.Text.Quoted

/-- The halfwidth sound marks, which extend a grapheme but take a place of their own. -/
def soundMarkRanges : RangeTable := [(0xff9e, 0xff9f)]

/-- Whether a character alone would not show: it is unprintable, or it joins the one before it. -/
def isHidden (c : Char) : Bool :=
  unprintableRanges.contains c.toNat ||
    (graphemeExtendRanges.contains c.toNat && !soundMarkRanges.contains c.toNat)

def escape (c : Char) : List Char :=
  match c with
  | '\x00' => ['\\', '0']
  | '\t' => ['\\', 't']
  | '\r' => ['\\', 'r']
  | '\n' => ['\\', 'n']
  | '"' => ['\\', '"']
  | '\\' => ['\\', '\\']
  | c =>
    if isHidden c then ['\\', 'u', '\x7b'] ++ Nat.toDigits 16 c.toNat ++ ['\x7d']
    else [c]

def escapePiece : Utf8.Piece → List Char
  | .scalar c => escape c
  | .broken bytes =>
    bytes.flatMap fun b => ['\\', 'x'] ++ (Hex.ofByte b).map Char.toUpper

def ofText (s : String) : String := String.ofList ('"' :: s.toList.flatMap escape ++ ['"'])

def ofBytes (bs : Bytes) : String :=
  String.ofList ('"' :: (Utf8.pieces bs).flatMap escapePiece ++ ['"'])

end LogTail.Text.Quoted
