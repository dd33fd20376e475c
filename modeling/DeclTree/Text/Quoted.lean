/-
Quoted text. A text is shown between double quotes with every character that would mislead a reader
escaped: the marks of the form itself behind a backslash, four controls by a letter or digit, and
whatever cannot be seen on its own as its code point in hexadecimal. All other characters stand for
themselves.
-/

import DeclTree.Text.Unprintable
import DeclTree.Text.GraphemeExtend

namespace DeclTree.Text

/-- A character that can be seen on its own: it is printable and does not extend another one. -/
def isVisible (c : Char) : Bool :=
  !unprintable.contains c && !graphemeExtend.contains c

/-- The escape of a code point: its lowercase hexadecimal digits, without padding, in braces. -/
def codePointEscape (c : Char) : List Char :=
  ['\\', 'u', '\x7b'] ++ Nat.toDigits 16 c.toNat ++ ['\x7d']

/-- The written form of one character. The double quote and the backslash are put behind a
backslash; the apostrophe is not. -/
def escapeChar (c : Char) : List Char :=
  if c = '\x00' then ['\\', '0']
  else if c = '\t' then ['\\', 't']
  else if c = '\r' then ['\\', 'r']
  else if c = '\n' then ['\\', 'n']
  else if c = '"' ∨ c = '\\' then ['\\', c]
  else if isVisible c then [c]
  else codePointEscape c

/-- The written form of a text between double quotes. -/
def quote (text : String) : String :=
  String.ofList ('"' :: text.toList.flatMap escapeChar ++ ['"'])

end DeclTree.Text
