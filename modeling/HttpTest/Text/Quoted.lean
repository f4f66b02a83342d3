import HttpTest.Text.Basic
import HttpTest.Text.Unicode.Unprintable
import HttpTest.Text.Unicode.Combining

/-!
# Quoted strings

A string between double quotes, with everything escaped that would not be seen as itself: quotes and
backslashes, line breaks and tabs, characters that extend the one before, and characters that are
not printable.
-/

namespace HttpTest.Text

/-- The escape of a character by its code point, as in `\u{301}`. -/
def codePointEscape (c : Char) : List Char :=
  ['\\', 'u', '{'] ++ hexText c.toNat ++ ['}']

def quotedChar (c : Char) : List Char :=
  if c = '"' then ['\\', '"']
  else if c = '\\' then ['\\', '\\']
  else if c = '\n' then ['\\', 'n']
  else if c = '\r' then ['\\', 'r']
  else if c = '\t' then ['\\', 't']
  else if c.toNat = 0 then ['\\', '0']
  else if c.toNat < 0x7F && 0x20 ≤ c.toNat then [c]
  else if isCombining c then codePointEscape c
  else if isPrintable c then [c]
  else codePointEscape c

def quoted (s : String) : List Char :=
  '"' :: s.toList.flatMap quotedChar ++ ['"']

end HttpTest.Text
