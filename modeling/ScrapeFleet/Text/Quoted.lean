import ScrapeFleet.Text.Hex
import ScrapeFleet.Unicode.Recent

/-!
Quoted text for messages.

A double quote and a backslash are escaped, the common control characters have
letter escapes, and every other character that has no visible form of its own is
written by its code point in hexadecimal between braces.
-/

namespace ScrapeFleet.Quoted

def escape (c : Char) : List Char :=
  if c = '\x00' then ['\\', '0']
  else if c = '\t' then ['\\', 't']
  else if c = '\r' then ['\\', 'r']
  else if c = '\n' then ['\\', 'n']
  else if c = '\\' then ['\\', '\\']
  else if c = '"' then ['\\', '"']
  else if ' ' ≤ c && c ≤ '~' then [c]
  else if Unicode.hidden.has c then ['\\', 'u', '\x7b'] ++ Hex.ofNat c.toNat ++ ['\x7d']
  else [c]

def quote (s : String) : String :=
  String.ofList ('"' :: s.toList.flatMap escape ++ ['"'])

end ScrapeFleet.Quoted
