import SocketGraph.Value
import SocketGraph.Text.Quoted

/-! Values as descriptions of components show them: each part under the name of its kind. -/
namespace SocketGraph.Value

mutual
/-- A value with the names of its kinds. -/
def description : Value → String
  | .null => "Null"
  | .bool b => "Bool(" ++ (if b then "true" else "false") ++ ")"
  | .number n => "Number(" ++ n.text ++ ")"
  | .string s => "String(" ++ Text.quoted s ++ ")"
  | .array items => "Array [" ++ describedItems items ++ "]"
  | .object fields => "Object \x7b" ++ describedFields fields ++ "\x7d"

def describedItems : List Value → String
  | [] => ""
  | [v] => description v
  | v :: rest => description v ++ ", " ++ describedItems rest

def describedFields : List (String × Value) → String
  | [] => ""
  | [(key, v)] => Text.quoted key ++ ": " ++ description v
  | (key, v) :: rest => Text.quoted key ++ ": " ++ description v ++ ", " ++ describedFields rest
end

end SocketGraph.Value
