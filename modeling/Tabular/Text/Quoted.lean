import Tabular.Text.Hex
import Tabular.Text.Unprinted

/-!
# Quoted text

A text between double quotes, in which a reader sees every character: those
without a mark of their own are written by their code point.
-/

set_option autoImplicit false

namespace Tabular.Text

def quotedChar (c : Char) : List Char :=
  if c = '"' then ['\\', '"']
  else if c = '\\' then ['\\', '\\']
  else if c = '\n' then ['\\', 'n']
  else if c = '\r' then ['\\', 'r']
  else if c = '\t' then ['\\', 't']
  else if c.toNat = 0 then ['\\', '0']
  else if Unprinted.isUnprinted c then
    ['\\', 'u', '\x7b'] ++ (hexNat c.toNat).toList ++ ['\x7d']
  else [c]

def quoted (s : String) : String :=
  String.ofList ('"' :: s.toList.flatMap quotedChar ++ ['"'])

end Tabular.Text
