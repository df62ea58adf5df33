import SshTunnel.Text.Numeral
import SshTunnel.Text.Quoted

/-!
# JSON

Values with their fields in the order in which they are written, and the texts of values without
any blanks.
-/

namespace SshTunnel

inductive Json where
  | null
  | bool (b : Bool)
  | number (n : Nat)
  | string (s : String)
  | array (values : List Json)
  | object (fields : List (String × Json))
  deriving Repr

namespace Json

def escapeControl (c : Char) : List Char :=
  let digits := Text.hexDigits c.toNat
  ['\\', 'u'] ++ List.replicate (4 - digits.length) '0' ++ digits

def escapeChar (c : Char) : List Char :=
  if c = '"' then ['\\', '"']
  else if c = '\\' then ['\\', '\\']
  else if c = '\n' then ['\\', 'n']
  else if c = '\r' then ['\\', 'r']
  else if c = '\t' then ['\\', 't']
  else if c = '\x08' then ['\\', 'b']
  else if c = '\x0C' then ['\\', 'f']
  else if c.toNat < 0x20 then escapeControl c
  else [c]

def renderString (s : String) : String :=
  String.ofList ('"' :: s.toList.flatMap escapeChar ++ ['"'])

mutual

def render : Json → String
  | null => "null"
  | bool b => if b then "true" else "false"
  | number n => Text.decimal n
  | string s => renderString s
  | array values => "[" ++ ",".intercalate (renderAll values) ++ "]"
  | object fields => "\x7b" ++ ",".intercalate (renderFields fields) ++ "\x7d"

def renderAll : List Json → List String
  | [] => []
  | v :: values => render v :: renderAll values

def renderFields : List (String × Json) → List String
  | [] => []
  | (name, v) :: fields => (renderString name ++ ":" ++ render v) :: renderFields fields

end

def ofOption : Option String → Json
  | none => null
  | some s => string s

end Json

end SshTunnel
