import SshTunnel.Text.Unprintable

/-!
# Quoted texts

`quoted` writes a text between double quotes so that every character of it can be seen: quotes and
backslashes get a backslash, the common controls their letter, and all other unprintable
characters their code point in braces.
-/

namespace SshTunnel.Text

/-- The lower-case hexadecimal digits of a number, without leading zeros. -/
def hexDigits (n : Nat) : List Char :=
  Nat.toDigits 16 n

def quoteChar (c : Char) : List Char :=
  if c = '"' then ['\\', '"']
  else if c = '\\' then ['\\', '\\']
  else if c = '\t' then ['\\', 't']
  else if c = '\r' then ['\\', 'r']
  else if c = '\n' then ['\\', 'n']
  else if c = '\x00' then ['\\', '0']
  else if c.toNat < 0x20 || isInside unprintableEdges c.toNat then
    ['\\', 'u', '\x7b'] ++ hexDigits c.toNat ++ ['\x7d']
  else [c]

def quoteChars (s : List Char) : List Char :=
  '"' :: s.flatMap quoteChar ++ ['"']

def quoted (s : String) : String :=
  String.ofList (quoteChars s.toList)

def quotedOption : Option String → String
  | none => "None"
  | some s => "Some(" ++ quoted s ++ ")"

theorem quoteChars_nil : quoteChars [] = ['"', '"'] := rfl

end SshTunnel.Text
