import LiveConsole.Json.Basic
import LiveConsole.Text.Quoted

/-! The text of a JSON document, on one line or indented by two spaces a level. -/
namespace LiveConsole.Json

def fourDigits (n : Nat) : String :=
  let digits := Text.hexadecimal n
  Number.zeros (4 - digits.length) ++ digits

def escapedChar (c : Char) : String :=
  if c = '"' then "\\\""
  else if c = '\\' then "\\\\"
  else if c = '\x08' then "\\b"
  else if c = '\x0c' then "\\f"
  else if c = '\n' then "\\n"
  else if c = '\r' then "\\r"
  else if c = '\t' then "\\t"
  else if c.toNat < 0x20 then "\\u" ++ fourDigits c.toNat
  else c.toString

def stringLiteral (text : String) : String :=
  "\"" ++ String.join (text.toList.map escapedChar) ++ "\""

def commaSeparated (texts : List String) : String := ",".intercalate texts

mutual

def compact : Json → String
  | .null => "null"
  | .bool value => if value then "true" else "false"
  | .number literal => literal
  | .string text => stringLiteral text
  | .array items => "[" ++ commaSeparated (compactItems items) ++ "]"
  | .object members => "\x7b" ++ commaSeparated (compactMembers members) ++ "\x7d"

def compactItems : List Json → List String
  | [] => []
  | item :: rest => compact item :: compactItems rest

def compactMembers : List (String × Json) → List String
  | [] => []
  | (name, value) :: rest => (stringLiteral name ++ ":" ++ compact value) :: compactMembers rest

end

def indentation (depth : Nat) : String := String.ofList (List.replicate (2 * depth) ' ')

def block (depth : Nat) (opening closing : String) (parts : List String) : String :=
  if parts.isEmpty then opening ++ closing
  else opening ++ commaSeparated (parts.map fun part => "\n" ++ indentation (depth + 1) ++ part)
    ++ "\n" ++ indentation depth ++ closing

mutual

def indented (depth : Nat) : Json → String
  | .null => "null"
  | .bool value => if value then "true" else "false"
  | .number literal => literal
  | .string text => stringLiteral text
  | .array items => block depth "[" "]" (indentedItems (depth + 1) items)
  | .object members => block depth "\x7b" "\x7d" (indentedMembers (depth + 1) members)

def indentedItems (depth : Nat) : List Json → List String
  | [] => []
  | item :: rest => indented depth item :: indentedItems depth rest

def indentedMembers (depth : Nat) : List (String × Json) → List String
  | [] => []
  | (name, value) :: rest =>
      (stringLiteral name ++ ": " ++ indented depth value) :: indentedMembers depth rest

end

def pretty (json : Json) : String := indented 0 json

end LiveConsole.Json
