import SocketGraph.Document
import SocketGraph.Text.Quoted

/-! Reading records, tables and lists out of values and documents. A record may be written as a
mapping of its fields or, in most formats, as the sequence of its fields. -/
namespace SocketGraph.Decode

/-- What was found in a place. -/
inductive Found
  | value (v : Value)
  | sequence
  | mapping
  deriving DecidableEq

/-- How an error text names what was found. -/
def Found.text : Found → String
  | .value .null => "null"
  | .value (.bool b) => "boolean `" ++ (if b then "true" else "false") ++ "`"
  | .value (.number (.integer n)) => "integer `" ++ toString n ++ "`"
  | .value (.number (.float x)) => "floating point `" ++ x.text .compact ++ "`"
  | .value (.string s) => "string " ++ Text.quoted s
  | .value (.array _) | .sequence => "sequence"
  | .value (.object _) | .mapping => "map"

/-- Why something cannot be read. -/
inductive Problem
  | wrongKind (found : Found) (wanted : String)
  | wrongLength (length : Nat) (wanted : String)
  | missing (field : String)
  | repeated (field : String)
  | unusable
  deriving DecidableEq

def Problem.text : Problem → String
  | .wrongKind found wanted => "invalid type: " ++ found.text ++ ", expected " ++ wanted
  | .wrongLength length wanted => "invalid length " ++ toString length ++ ", expected " ++ wanted
  | .missing field => "missing field `" ++ field ++ "`"
  | .repeated field => "duplicate field `" ++ field ++ "`"
  | .unusable => "a number out of range"

abbrev Decoded (α : Type) := Except Problem α

/-- One layer of something that can be read. -/
inductive Form (δ : Type)
  | scalar (s : Scalar)
  | sequence (items : List δ)
  | mapping (entries : List (String × δ))

/-- Whether a record may be written as the sequence of its fields in their declared order: never,
with no more items than fields, or with any items after the fields. -/
inductive Listing
  | never
  | exact
  | leading
  deriving DecidableEq

/-- How to look into a tree, which value it stands for, and how its records may be listed. -/
structure Reading (δ : Type) where
  form : δ → Form δ
  value? : δ → Option Value
  listing : Listing

/-- The outermost layer of a value. -/
def valueForm : Value → Form Value
  | .array items => .sequence items
  | .object fields => .mapping fields
  | .string s => .scalar ⟨some (.string s), some s, .given⟩
  | .null => .scalar ⟨some .null, none, .null⟩
  | v => .scalar ⟨some v, none, .given⟩

/-- Values are read as they are. -/
def Reading.values : Reading Value := ⟨valueForm, some, .exact⟩

def documentForm : Document → Form Document
  | .scalar s => .scalar s
  | .sequence items => .sequence items
  | .mapping entries => .mapping entries

def Reading.documents (listing : Listing) : Reading Document :=
  ⟨documentForm, Document.value?, listing⟩

variable {δ α : Type} (r : Reading δ)

/-- The problem of finding something of another kind. -/
def unexpected (wanted : String) : Form δ → Problem
  | .scalar ⟨some v, _, _⟩ => .wrongKind (.value v) wanted
  | .scalar ⟨none, _, _⟩ => .unusable
  | .sequence _ => .wrongKind .sequence wanted
  | .mapping _ => .wrongKind .mapping wanted

/-- A text. -/
def text (d : δ) : Decoded String :=
  match r.form d with
  | .scalar ⟨_, some s, _⟩ => .ok s
  | form => .error (unexpected "a string" form)

/-- A natural number that fits into a word, written as an integer without a minus. -/
def natural (d : δ) : Decoded Nat :=
  match r.form d with
  | .scalar ⟨some (.number (.integer n)), text, _⟩ =>
    if isUnsigned n && !text.any (·.startsWith "-") then .ok n.toNat
    else .error (.wrongKind (.value (.int n)) "a natural number")
  | form => .error (unexpected "a natural number" form)

/-- Any value. -/
def value (d : δ) : Decoded Value :=
  match r.value? d with
  | some v => .ok v
  | none => .error .unusable

/-- A list. Nothing written is a list without items. -/
def list (item : δ → Decoded α) (d : δ) : Decoded (List α) :=
  match r.form d with
  | .sequence items => items.mapM item
  | .scalar ⟨_, _, .omitted⟩ => .ok []
  | form => .error (unexpected "a sequence" form)

def entry (item : δ → Decoded α) (e : String × δ) : Decoded (String × α) :=
  (item e.2).map (e.1, ·)

/-- A table. The last of several entries with one key counts; nothing written is an empty table. -/
def table (item : δ → Decoded α) (d : δ) : Decoded (Table α) :=
  match r.form d with
  | .mapping entries => (entries.mapM (entry item)).map Table.ofList
  | .scalar ⟨_, _, .omitted⟩ => .ok .empty
  | form => .error (unexpected "a map" form)

/-- Something that may be left out, also by writing null. -/
def optional (item : δ → Decoded α) (d : δ) : Decoded (Option α) :=
  match r.form d with
  | .scalar ⟨_, _, .given⟩ | .sequence _ | .mapping _ => (item d).map some
  | .scalar _ => .ok none

/-- The fields of a record that are present, and the length of the sequence if they were listed. -/
structure Fields (δ : Type) where
  entries : List (String × δ)
  listed : Option Nat

/-- Leave a field as it is until it is wanted. -/
def unchecked (_ : δ) : Decoded Unit := .ok ()

/-- The first name that occurs twice. -/
def repeated? : List String → Option String
  | [] => none
  | name :: rest => if name ∈ rest then some name else repeated? rest

/-- The fields of a record. Each field is checked in the order written; unknown fields of a mapping
are ignored, and no known field may be repeated. -/
def fields (type : String) (names : List String) (check : δ → Decoded Unit) (d : δ) :
    Decoded (Fields δ) :=
  match r.form d with
  | .mapping entries =>
    let known := entries.filter fun e => e.1 ∈ names
    match repeated? (known.map Prod.fst) with
    | some name => .error (.repeated name)
    | none => do
      known.forM fun e => check e.2
      pure ⟨known, none⟩
  | .scalar ⟨_, _, .omitted⟩ => .ok ⟨[], none⟩
  | .sequence items =>
    if r.listing = .never then .error (.wrongKind .sequence ("struct " ++ type))
    else do
      let known := names.zip items
      known.forM fun e => check e.2
      if r.listing = .exact ∧ names.length < items.length then
        .error (.wrongLength items.length "fewer elements in array")
      else .ok ⟨known, some items.length⟩
  | form => .error (unexpected ("struct " ++ type) form)

/-- A field that must be there. -/
def Fields.required (f : Fields δ) (type : String) (size : Nat) (name : String)
    (item : δ → Decoded α) : Decoded α :=
  match Table.lookup name f.entries with
  | some d => item d
  | none =>
    match f.listed with
    | some n =>
      .error (.wrongLength n ("struct " ++ type ++ " with " ++ toString size ++ " elements"))
    | none => .error (.missing name)

/-- A field with a default. -/
def Fields.withDefault (f : Fields δ) (name : String) (default : α) (item : δ → Decoded α) :
    Decoded α :=
  match Table.lookup name f.entries with
  | some d => item d
  | none => .ok default

end SocketGraph.Decode
