import SniffingRelay.Text.Numeral
import SniffingRelay.Text.Unprintable

set_option autoImplicit false

namespace SniffingRelay.Quoted

def escape (c : Char) : List Char :=
  if c = '\x00' then ['\\', '0']
  else if c = '\t' then ['\\', 't']
  else if c = '\r' then ['\\', 'r']
  else if c = '\n' then ['\\', 'n']
  else if c = '\\' ∨ c = '"' then ['\\', c]
  else if Unprintable.isUnprintable c then
    ['\\', 'u', '\x7b'] ++ (Numeral.hexadecimal c.toNat).toList ++ ['\x7d']
  else [c]

def quote (text : String) : String :=
  String.ofList ('"' :: text.toList.flatMap escape ++ ['"'])

end SniffingRelay.Quoted
