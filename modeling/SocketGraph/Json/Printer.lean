import SocketGraph.Value
import SocketGraph.Text.Quoted

/-! The JSON text of a value, on one line or over several lines. -/
namespace SocketGraph.Json

def hexDigit (n : Nat) : Char := Nat.digitChar (n % 16)

/-- How one character stands in a JSON string: quotes, backslashes and controls are escaped. -/
def escapedCharacter (c : Char) : String :=
  match c with
  | '"' => "\\\""
  | '\\' => "\\\\"
  | '\x08' => "\\b"
  | '\t' => "\\t"
  | '\n' => "\\n"
  | '\x0c' => "\\f"
  | '\r' => "\\r"
  | c =>
    if c.toNat < 0x20 then
      "\\u00" ++ String.ofList [hexDigit (c.toNat / 16), hexDigit c.toNat]
    else c.toString

/-- A JSON string. -/
def stringText (s : String) : String :=
  "\"" ++ String.join (s.toList.map escapedCharacter) ++ "\""

mutual
/-- The text of a value without any blanks. -/
def compact : Value → String
  | .null => "null"
  | .bool b => if b then "true" else "false"
  | .number n => n.text
  | .string s => stringText s
  | .array items => "[" ++ compactItems items ++ "]"
  | .object fields => "\x7b" ++ compactFields fields ++ "\x7d"

def compactItems : List Value → String
  | [] => ""
  | [v] => compact v
  | v :: rest => compact v ++ "," ++ compactItems rest

def compactFields : List (String × Value) → String
  | [] => ""
  | [(key, v)] => stringText key ++ ":" ++ compact v
  | (key, v) :: rest => stringText key ++ ":" ++ compact v ++ "," ++ compactFields rest
end

/-- A line break followed by two blanks for each level. -/
def newLine (level : Nat) : String := "\n" ++ String.ofList (List.replicate (2 * level) ' ')

mutual
/-- The text of a value with each item and field on a line of its own. -/
def pretty (level : Nat) : Value → String
  | .array (v :: rest) => "[" ++ prettyItems (level + 1) (v :: rest) ++ newLine level ++ "]"
  | .object (f :: rest) => "\x7b" ++ prettyFields (level + 1) (f :: rest) ++ newLine level ++ "\x7d"
  | .array [] => "[]"
  | .object [] => "\x7b\x7d"
  | .null => "null"
  | .bool b => if b then "true" else "false"
  | .number n => n.text
  | .string s => stringText s

def prettyItems (level : Nat) : List Value → String
  | [] => ""
  | [v] => newLine level ++ pretty level v
  | v :: rest => newLine level ++ pretty level v ++ "," ++ prettyItems level rest

def prettyFields (level : Nat) : List (String × Value) → String
  | [] => ""
  | [(key, v)] => newLine level ++ stringText key ++ ": " ++ pretty level v
  | (key, v) :: rest =>
    newLine level ++ stringText key ++ ": " ++ pretty level v ++ "," ++ prettyFields level rest
end

example : compact (.array [.null, .bool true, .string "a"]) = "[null,true,\"a\"]" := by decide

end SocketGraph.Json
