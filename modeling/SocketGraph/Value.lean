import SocketGraph.Number
import SocketGraph.Table

/-! The values that flow along the edges of a graph. -/
namespace SocketGraph

/-- A value. The fields of an object stand in ascending key order without repetition wherever an
object is made from a table. -/
inductive Value
  | null
  | bool (b : Bool)
  | number (n : Number)
  | string (text : String)
  | array (items : List Value)
  | object (fields : List (String × Value))
  deriving Inhabited

namespace Value

mutual
/-- Equality of values is decided part by part. -/
def decideEq : (a b : Value) → Decidable (a = b)
  | .null, .null => .isTrue rfl
  | .bool a, .bool b => if h : a = b then .isTrue (by rw [h]) else .isFalse (by simp [h])
  | .number a, .number b => if h : a = b then .isTrue (by rw [h]) else .isFalse (by simp [h])
  | .string a, .string b => if h : a = b then .isTrue (by rw [h]) else .isFalse (by simp [h])
  | .array a, .array b =>
    match decideEqItems a b with
    | .isTrue h => .isTrue (by rw [h])
    | .isFalse h => .isFalse (by simp [h])
  | .object a, .object b =>
    match decideEqFields a b with
    | .isTrue h => .isTrue (by rw [h])
    | .isFalse h => .isFalse (by simp [h])
  | .null, .bool _ | .null, .number _ | .null, .string _ | .null, .array _ | .null, .object _
  | .bool _, .null | .bool _, .number _ | .bool _, .string _ | .bool _, .array _ | .bool _, .object _
  | .number _, .null | .number _, .bool _ | .number _, .string _ | .number _, .array _
  | .number _, .object _ | .string _, .null | .string _, .bool _ | .string _, .number _
  | .string _, .array _ | .string _, .object _ | .array _, .null | .array _, .bool _
  | .array _, .number _ | .array _, .string _ | .array _, .object _ | .object _, .null
  | .object _, .bool _ | .object _, .number _ | .object _, .string _ | .object _, .array _ =>
    .isFalse (by simp)

def decideEqItems : (a b : List Value) → Decidable (a = b)
  | [], [] => .isTrue rfl
  | [], _ :: _ | _ :: _, [] => .isFalse (by simp)
  | a :: as, b :: bs =>
    match decideEq a b, decideEqItems as bs with
    | .isTrue h, .isTrue t => .isTrue (by rw [h, t])
    | .isFalse h, _ => .isFalse (by simp [h])
    | _, .isFalse t => .isFalse (by simp [t])

def decideEqFields : (a b : List (String × Value)) → Decidable (a = b)
  | [], [] => .isTrue rfl
  | [], _ :: _ | _ :: _, [] => .isFalse (by simp)
  | (k, a) :: as, (l, b) :: bs =>
    if hk : k = l then
      match decideEq a b, decideEqFields as bs with
      | .isTrue h, .isTrue t => .isTrue (by rw [hk, h, t])
      | .isFalse h, _ => .isFalse (by simp [h])
      | _, .isFalse t => .isFalse (by simp [t])
    else .isFalse (by simp [hk])
end

instance : DecidableEq Value := decideEq

mutual
/-- Equality as the program of a handler sees it: numbers of one kind are compared by size, so the
two zeros are equal. -/
def agrees : Value → Value → Bool
  | .number a, .number b => a.agrees b
  | .array a, .array b => itemsAgree a b
  | .object a, .object b => fieldsAgree a b
  | .null, .null => true
  | .bool a, .bool b => a == b
  | .string a, .string b => a == b
  | _, _ => false

def itemsAgree : List Value → List Value → Bool
  | [], [] => true
  | a :: as, b :: bs => agrees a b && itemsAgree as bs
  | _, _ => false

def fieldsAgree : List (String × Value) → List (String × Value) → Bool
  | [], [] => true
  | (k, a) :: as, (l, b) :: bs => k == l && agrees a b && fieldsAgree as bs
  | _, _ => false
end

/-- The object whose fields are the entries of a table. -/
def ofTable (t : Table Value) : Value := .object t.entries

/-- The object with the given fields, in key order; of two fields with one key the later one
counts. -/
def record (fields : List (String × Value)) : Value := .ofTable (.ofList fields)

def int (n : Int) : Value := .number (.integer n)

def nat (n : Nat) : Value := .int n

/-- Lists of texts as values. -/
def texts (items : List String) : Value := .array (items.map .string)

end Value
end SocketGraph
