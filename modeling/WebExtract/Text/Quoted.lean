import WebExtract.Text.Printable

/-!
# Quoted texts

A text in double quotes. Quote, backslash and the usual controls have short escapes; any other
character that does not print as itself is written by its code point.
-/
namespace WebExtract.Text

def escapeChar (c : Char) : List Char :=
  if c = '"' then ['\\', '"']
  else if c = '\\' then ['\\', '\\']
  else if c = '\n' then ['\\', 'n']
  else if c = '\r' then ['\\', 'r']
  else if c = '\t' then ['\\', 't']
  else if c = '\x00' then ['\\', '0']
  else if isPrintable c then [c]
  else '\\' :: 'u' :: '\x7b' :: Nat.toDigits 16 c.toNat ++ ['\x7d']

def quote (s : String) : List Char := '"' :: s.toList.flatMap escapeChar ++ ['"']

end WebExtract.Text
