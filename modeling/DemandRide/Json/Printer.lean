import DemandRide.Json.Basic
import DemandRide.Number.Style
import DemandRide.Text.Hex

/-! Writing JSON texts, on one line or laid out over lines. Only quotes, backslashes and
control characters are escaped; every other character stands for itself. -/
namespace DemandRide.Json

namespace Printer

def escape (c : Char) : List Char :=
  if c == '"' then ['\\', '"']
  else if c == '\\' then ['\\', '\\']
  else if c == '\x08' then ['\\', 'b']
  else if c == '\t' then ['\\', 't']
  else if c == '\n' then ['\\', 'n']
  else if c == '\x0c' then ['\\', 'f']
  else if c == '\r' then ['\\', 'r']
  else if c.toNat < 0x20 then ['\\', 'u', '0', '0'] ++ Text.hexPair c.toNat
  else [c]

def quoted (s : String) : String := String.ofList ('"' :: s.toList.flatMap escape ++ ['"'])

/-- A value that is not a container; one that could not be read has no better text than
`null`. -/
def leaf : Json Float → String
  | .bool true => "true"
  | .bool false => "false"
  | .int n => toString n
  | .real x => NumberStyle.document.text x
  | .str s => quoted s
  | _ => "null"

mutual

def compact : Json Float → String
  | .arr items => "[" ++ String.intercalate "," (compactItems items) ++ "]"
  | .obj members => "\x7b" ++ String.intercalate "," (compactMembers members) ++ "\x7d"
  | json => leaf json

def compactItems : List (Json Float) → List String
  | [] => []
  | item :: rest => compact item :: compactItems rest

def compactMembers : List (String × Json Float) → List String
  | [] => []
  | (name, content) :: rest => (quoted name ++ ":" ++ compact content) :: compactMembers rest

end

/-- A container with one part to a line, each indented by two spaces a level. -/
def block (opening closing : String) (indent : String) : List String → String
  | [] => opening ++ closing
  | parts =>
    opening ++ "\n" ++ String.intercalate ",\n" (parts.map fun part => indent ++ "  " ++ part) ++
      "\n" ++ indent ++ closing

mutual

def pretty (indent : String) : Json Float → String
  | .arr items => block "[" "]" indent (prettyItems (indent ++ "  ") items)
  | .obj members => block "\x7b" "\x7d" indent (prettyMembers (indent ++ "  ") members)
  | json => leaf json

def prettyItems (indent : String) : List (Json Float) → List String
  | [] => []
  | item :: rest => pretty indent item :: prettyItems indent rest

def prettyMembers (indent : String) : List (String × Json Float) → List String
  | [] => []
  | (name, content) :: rest =>
    (quoted name ++ ": " ++ pretty indent content) :: prettyMembers indent rest

end

end Printer

/-- The text of a value on one line, without blanks. -/
def compact (json : Json Float) : String := Printer.compact json

/-- The text of a value over several lines. -/
def pretty (json : Json Float) : String := Printer.pretty "" json

end DemandRide.Json
