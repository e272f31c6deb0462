import SocketGraph.Text.Shown

/-! Text in quotation marks, as error texts and descriptions show it: every character that would not
show is written by its code. -/
namespace SocketGraph.Text

def hexDigits (n : Nat) : String := String.ofList (Nat.toDigits 16 n)

/-- How one character stands inside quotation marks. -/
def quotedCharacter (c : Char) : String :=
  match c with
  | '\x00' => "\\0"
  | '\t' => "\\t"
  | '\r' => "\\r"
  | '\n' => "\\n"
  | '\\' => "\\\\"
  | '"' => "\\\""
  | c => if isShown c then c.toString else "\\u\x7b" ++ hexDigits c.toNat ++ "\x7d"

/-- A text in quotation marks. -/
def quoted (s : String) : String := "\"" ++ String.join (s.toList.map quotedCharacter) ++ "\""

example : quotedCharacter 'a' = "a" := by decide
example : quotedCharacter '"' = "\\\"" := by decide

end SocketGraph.Text
