import WebFetch.Unicode.Visibility

/-!
Text in double quotes, as it stands in messages: quotes and backslashes are escaped, common controls
have a letter, and every other character that cannot be seen on its own is shown by its number.
-/

set_option autoImplicit false

namespace WebFetch.Text.Quoted

def escapeChar (c : Char) : List Char :=
  if c = '\x00' then ['\\', '0']
  else if c = '\t' then ['\\', 't']
  else if c = '\r' then ['\\', 'r']
  else if c = '\n' then ['\\', 'n']
  else if c = '\\' then ['\\', '\\']
  else if c = '"' then ['\\', '"']
  else if Unicode.isHidden c then
    ['\\', 'u', '\x7b'] ++ Nat.toDigits 16 c.toNat ++ ['\x7d']
  else [c]

def render (s : String) : String :=
  String.ofList ('"' :: (s.toList.flatMap escapeChar ++ ['"']))

end WebFetch.Text.Quoted
