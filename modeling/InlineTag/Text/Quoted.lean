import InlineTag.Text.Unprintable
import InlineTag.Text.GraphemeExtend

/-!
# InlineTag.Text.Quoted

The quoted form of a text: between double quotes, with everything that would not show as itself
written as an escape. Five characters have short escapes, the backslash and the double quote are
escaped by a backslash, and unprintable or attaching characters are written by their code point
in lower case hexadecimal. The single quote stands as it is.
-/

namespace InlineTag
namespace Text

/-- Whether a quoted text shows the character only by its code point. -/
def isVeiled (c : Char) : Bool :=
  if 0x20 ≤ c.toNat && c.toNat ≤ 0x7E then false
  else isGraphemeExtend c || isUnprintable c

/-- An escape by code point: the digits stand between braces. -/
def codePointEscape (c : Char) : List Char :=
  '\\' :: 'u' :: '{' :: (Nat.toDigits 16 c.toNat ++ ['}'])

def quotedChar (c : Char) : List Char :=
  if c = '\t' then ['\\', 't']
  else if c = '\n' then ['\\', 'n']
  else if c = '\r' then ['\\', 'r']
  else if c = '\x00' then ['\\', '0']
  else if c = '\\' then ['\\', '\\']
  else if c = '"' then ['\\', '"']
  else if isVeiled c then codePointEscape c
  else [c]

def quoted (text : String) : String :=
  String.ofList ('"' :: (text.toList.flatMap quotedChar ++ ['"']))

/-- A list of quoted texts, in brackets. -/
def quotedList (texts : List String) : String :=
  "[" ++ ", ".intercalate (texts.map quoted) ++ "]"

end Text
end InlineTag
