import SocketGraph.Document.Toml.Scalar
import SocketGraph.Document.Toml.Tree

/-! Documents written in TOML: assignments below headers. Strings over several lines and dates are
not among the values. -/
namespace SocketGraph.Toml

/-- How many keys a path may have. -/
def pathLimit : Nat := 79

/-- How deep values may be nested. -/
def nestingLimit : Nat := 79

/-! Lines. -/

def skipComment : List Char → List Char
  | '#' :: rest => rest.dropWhile isTextCharacter
  | cs => cs

def lineBreak? : List Char → Option (List Char)
  | '\n' :: rest => some rest
  | '\r' :: '\n' :: rest => some rest
  | _ => none

/-- The next line, if nothing but a comment is left of this one. -/
def nextLine? (cs : List Char) : Option (List Char) :=
  match skipComment (skipBlank cs) with
  | [] => some []
  | cs => lineBreak? cs

/-- Skip blanks, comments and line breaks. -/
def skipLines : Nat → List Char → List Char
  | 0, cs => cs
  | fuel + 1, cs =>
    match lineBreak? (skipComment (skipBlank cs)) with
    | some rest => skipLines fuel rest
    | none => skipBlank cs

/-! Values. -/

mutual
/-- A value at the start of a text, nested at most `depth` levels deep. -/
def value : Nat → Nat → List Char → Option (Document × List Char)
  | 0, _, _ => none
  | fuel + 1, depth, cs =>
    match cs with
    | '[' :: rest =>
      if depth = 0 then none
      else (items fuel (depth - 1) rest).map fun (ds, rest) => (.sequence ds, rest)
    | '\x7b' :: rest =>
      if depth = 0 then none
      else do
        let (assignments, rest) ←
          match skipBlank rest with
          | '\x7d' :: rest => pure ([], rest)
          | rest => assignments fuel (depth - 1) rest
        let entries ← assignAll assignments []
        pure (.mapping (entryDocuments entries), rest)
    | cs => scalar cs

/-- The items of an array up to its closing bracket, over any number of lines. -/
def items : Nat → Nat → List Char → Option (List Document × List Char)
  | 0, _, _ => none
  | fuel + 1, depth, cs =>
    match skipLines fuel cs with
    | ']' :: rest => some ([], rest)
    | cs => do
      let (d, rest) ← value fuel depth cs
      match skipLines fuel rest with
      | ',' :: rest =>
        let (ds, rest) ← items fuel depth rest
        pure (d :: ds, rest)
      | ']' :: rest => pure ([d], rest)
      | _ => none

/-- The assignments of a table in braces up to its closing brace, on one line. -/
def assignments : Nat → Nat → List Char → Option (List Assignment × List Char)
  | 0, _, _ => none
  | fuel + 1, depth, cs => do
    let (path, rest) ← keyPath pathLimit cs
    match rest with
    | '=' :: rest =>
      let (d, rest) ← value fuel depth (skipBlank rest)
      match skipBlank rest with
      | ',' :: rest =>
        let (more, rest) ← assignments fuel depth rest
        pure (⟨path, d⟩ :: more, rest)
      | '\x7d' :: rest => pure ([⟨path, d⟩], rest)
      | _ => none
    | _ => none
end

/-! Texts. -/

/-- The assignments before the next header, and the sections from there on. -/
def sections : Nat → List Char → Option (List Assignment × List Section)
  | 0, _ => none
  | fuel + 1, cs =>
    match skipBlank cs with
    | [] => some ([], [])
    | '[' :: '[' :: rest => do
      let (path, rest) ← keyPath pathLimit rest
      match rest with
      | ']' :: ']' :: rest =>
        let (assignments, more) ← sections fuel (← nextLine? rest)
        pure ([], ⟨true, path, assignments⟩ :: more)
      | _ => none
    | '[' :: rest => do
      let (path, rest) ← keyPath pathLimit rest
      match rest with
      | ']' :: rest =>
        let (assignments, more) ← sections fuel (← nextLine? rest)
        pure ([], ⟨false, path, assignments⟩ :: more)
      | _ => none
    | cs =>
      match nextLine? cs with
      | some rest => sections fuel rest
      | none => do
        let (path, rest) ← keyPath pathLimit cs
        match rest with
        | '=' :: rest =>
          let (d, rest) ← value (2 * rest.length + 2) nestingLimit (skipBlank rest)
          let (assignments, more) ← sections fuel (← nextLine? rest)
          pure (⟨path, d⟩ :: assignments, more)
        | _ => none

/-- The document that is the whole of a text; a byte order mark may stand first. -/
def readDocument (s : String) : Option Document := do
  let cs :=
    match s.toList with
    | c :: rest => if c.toNat == 0xfeff then rest else c :: rest
    | [] => []
  let (assignments, more) ← sections (cs.length + 1) cs
  build assignments more

end SocketGraph.Toml
