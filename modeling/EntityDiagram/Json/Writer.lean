import EntityDiagram.Decimal.Notation
import EntityDiagram.Json.Basic

namespace EntityDiagram.Json

/-- A control character by its code point, in four hexadecimal digits. -/
def controlEscape (c : Char) : List Char :=
  let digits := Nat.toDigits 16 c.toNat
  '\\' :: 'u' :: List.replicate (4 - digits.length) '0' ++ digits

/-- How a character is written in a text: only quotes, backslashes and controls are escaped. -/
def escape (c : Char) : List Char :=
  if c = '"' ∨ c = '\\' then ['\\', c]
  else if c = '\x08' then ['\\', 'b']
  else if c = '\x0c' then ['\\', 'f']
  else if c = '\n' then ['\\', 'n']
  else if c = '\r' then ['\\', 'r']
  else if c = '\t' then ['\\', 't']
  else if c.toNat < 0x20 then controlEscape c
  else [c]

def quote (s : String) : String := String.ofList ('"' :: s.toList.flatMap escape ++ ['"'])

/-- The text of a value that holds no other; not a number and infinity are written as nothing. -/
def scalar : Json → String
  | bool true => "true"
  | bool false => "false"
  | int n => toString n
  | float x => (decimalText? x).getD "null"
  | text s => quote s
  | _ => "null"

mutual

/-- The text without any space. -/
def compact : Json → String
  | array items => "[" ++ ",".intercalate (compactItems items) ++ "]"
  | object entries => "\x7b" ++ ",".intercalate (compactEntries entries) ++ "\x7d"
  | value => value.scalar

def compactItems : List Json → List String
  | [] => []
  | v :: vs => v.compact :: compactItems vs

def compactEntries : List (String × Json) → List String
  | [] => []
  | (key, v) :: es => (quote key ++ ":" ++ v.compact) :: compactEntries es

end

/-- Lines between an opening and a closing mark; nothing at all stands between them without any. -/
def block (openMark closeMark indent : String) (lines : List String) : String :=
  if lines = [] then openMark ++ closeMark
  else
    let inner := "\n" ++ indent ++ "  "
    openMark ++ inner ++ ("," ++ inner).intercalate lines ++ "\n" ++ indent ++ closeMark

mutual

/-- The text with each entry on a line, two spaces deeper than what holds it. -/
def pretty (indent : String) : Json → String
  | array items => block "[" "]" indent (prettyItems (indent ++ "  ") items)
  | object entries => block "\x7b" "\x7d" indent (prettyEntries (indent ++ "  ") entries)
  | value => value.scalar

def prettyItems (indent : String) : List Json → List String
  | [] => []
  | v :: vs => v.pretty indent :: prettyItems indent vs

def prettyEntries (indent : String) : List (String × Json) → List String
  | [] => []
  | (key, v) :: es => (quote key ++ ": " ++ v.pretty indent) :: prettyEntries indent es

end

end EntityDiagram.Json
