import EventLedger.Text.Decimal
import EventLedger.Text.Printable

namespace EventLedger.Text

/-- A character inside a quoted text: quotes, backslashes and common controls have short
    escapes, other invisible characters are written by code point. -/
def quotedChar (c : Char) : List Char :=
  if c = '\x00' then ['\\', '0']
  else if c = '\t' then ['\\', 't']
  else if c = '\n' then ['\\', 'n']
  else if c = '\r' then ['\\', 'r']
  else if c = '"' then ['\\', '"']
  else if c = '\\' then ['\\', '\\']
  else if isInvisible c then ['\\', 'u', '\x7b'] ++ hexDigits c.toNat ++ ['\x7d']
  else [c]

def quoted (s : String) : String :=
  String.ofList (('"' :: s.toList.flatMap quotedChar) ++ ['"'])

end EventLedger.Text
