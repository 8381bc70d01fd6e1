import HostBridge.Text.Unprintable
import HostBridge.Text.Extending

/-!
# Quoted text

A text in quotes, as messages show it: quotes and backslashes are escaped,
line ends, tabs and NUL have short escapes, and a character that has no
visible form, or that would be drawn on the character before it, is written
as its code point in braces.
-/

namespace HostBridge.Text

/-- A code point in braces. -/
def codePoint (c : Char) : List Char :=
  "\\u\x7b".toList ++ Nat.toDigits 16 c.toNat ++ ['\x7d']

/-- **A character inside quotes.** -/
def quoteChar (c : Char) : List Char :=
  if c = '"' then ['\\', '"']
  else if c = '\\' then ['\\', '\\']
  else if c = '\n' then ['\\', 'n']
  else if c = '\r' then ['\\', 'r']
  else if c = '\t' then ['\\', 't']
  else if c = '\x00' then ['\\', '0']
  else if ' ' ≤ c && c ≤ '~' then [c]
  else if isExtending c || isUnprintable c then codePoint c
  else [c]

/-- **A text in quotes.** -/
def quoted (s : String) : String :=
  String.ofList ('"' :: (s.toList.flatMap quoteChar ++ ['"']))

end HostBridge.Text
