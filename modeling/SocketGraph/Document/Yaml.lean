import SocketGraph.Document.Yaml.Plain
import SocketGraph.Document.Yaml.Token

/-! Documents written in YAML: block collections by indentation, and collections in brackets. A text
holds one document. -/
namespace SocketGraph.Yaml

/-- The entry of a key that reads as a text. -/
def entry? : Document × Document → Option (String × Document)
  | (.scalar ⟨_, some key, _⟩, d) => some (key, d)
  | _ => none

/-- The mapping of some keys to documents. It stands for nothing if a key is not a scalar. -/
def mapping (pairs : List (Document × Document)) : Document :=
  match pairs.mapM entry? with
  | some entries => .mapping entries
  | none => .unusable

/-- Whether the next of some tokens is one of those given. -/
def goesOn (tokens : List Token) (choices : List Token) : Bool := tokens.head?.any (· ∈ choices)

/-- The tokens behind the comma in front of an item that is not the first. -/
def afterComma (first : Bool) (tokens : List Token) : Option (List Token) :=
  if first then some tokens
  else
    match tokens with
    | .comma :: rest => some rest
    | _ => none

mutual
/-- A node. Block collections start only outside of brackets; as the value of a key a sequence may
stand in the column of the key, without a start and an end of its own. -/
def node : Nat → Bool → Bool → List Token → Option (Document × List Token)
  | 0, _, _, _ => none
  | fuel + 1, block, beside, tokens =>
    match tokens with
    | .plain s :: rest => some (plain s, rest)
    | .quoted s :: rest => some (.text s, rest)
    | .openSequence :: rest =>
      (flowItems fuel true rest).map fun (ds, rest) => (.sequence ds, rest)
    | .openMapping :: rest => (flowEntries fuel true rest).map fun (ps, rest) => (mapping ps, rest)
    | .entry :: _ =>
      if beside then (itemsBeside fuel tokens).map fun (ds, rest) => (.sequence ds, rest) else none
    | .blockSequence :: rest =>
      if block then (blockItems fuel rest).map fun (ds, rest) => (.sequence ds, rest) else none
    | .blockMapping :: rest =>
      if block then (blockEntries fuel rest).map fun (ps, rest) => (mapping ps, rest) else none
    | _ => none

/-- The items of a block sequence up to its end. -/
def blockItems : Nat → List Token → Option (List Document × List Token)
  | 0, _ => none
  | fuel + 1, tokens =>
    match tokens with
    | .blockEnd :: rest => some ([], rest)
    | .entry :: rest => do
      let (d, rest) ←
        if goesOn rest [.entry, .blockEnd] then pure (.blank, rest) else node fuel true false rest
      let (ds, rest) ← blockItems fuel rest
      pure (d :: ds, rest)
    | _ => none

/-- The items of a sequence in the column of a key. -/
def itemsBeside : Nat → List Token → Option (List Document × List Token)
  | 0, _ => none
  | fuel + 1, tokens =>
    match tokens with
    | .entry :: rest => do
      let (d, rest) ←
        if goesOn rest [.entry, .key, .mapped, .blockEnd] then pure (.blank, rest)
        else node fuel true false rest
      let (ds, rest) ← itemsBeside fuel rest
      pure (d :: ds, rest)
    | _ => some ([], tokens)

/-- The entries of a block mapping up to its end. -/
def blockEntries : Nat → List Token → Option (List (Document × Document) × List Token)
  | 0, _ => none
  | fuel + 1, tokens =>
    match tokens with
    | .blockEnd :: rest => some ([], rest)
    | .key :: rest => do
      let (key, rest) ← blockPart fuel rest
      let (value, rest) ←
        match rest with
        | .mapped :: rest => blockPart fuel rest
        | rest => pure (.blank, rest)
      let (pairs, rest) ← blockEntries fuel rest
      pure ((key, value) :: pairs, rest)
    | _ => none

/-- A key or a value of a block mapping, which may be left out. -/
def blockPart : Nat → List Token → Option (Document × List Token)
  | 0, _ => none
  | fuel + 1, tokens =>
    if goesOn tokens [.key, .mapped, .blockEnd] then some (.blank, tokens)
    else node fuel true true tokens

/-- The items of a sequence in brackets up to its closing bracket, given whether none stands before
them. A key and a value make a mapping of their own. Where such a key is left out, the token in its
place is passed over. -/
def flowItems : Nat → Bool → List Token → Option (List Document × List Token)
  | 0, _, _ => none
  | fuel + 1, first, tokens =>
    match tokens with
    | .closeSequence :: rest => some ([], rest)
    | tokens => do
      match ← afterComma first tokens with
      | .closeSequence :: rest => pure ([], rest)
      | .key :: rest =>
        let (key, rest) ←
          if goesOn rest [.mapped, .comma, .closeSequence] then pure (.blank, rest.tail)
          else node fuel false false rest
        let (value, rest) ← flowValue fuel rest
        let (ds, rest) ← flowItems fuel false rest
        pure (mapping [(key, value)] :: ds, rest)
      | tokens =>
        let (d, rest) ← node fuel false false tokens
        let (ds, rest) ← flowItems fuel false rest
        pure (d :: ds, rest)

/-- The entries of a mapping in braces up to its closing brace, given whether none stands before
them. -/
def flowEntries : Nat → Bool → List Token → Option (List (Document × Document) × List Token)
  | 0, _, _ => none
  | fuel + 1, first, tokens =>
    match tokens with
    | .closeMapping :: rest => some ([], rest)
    | tokens => do
      match ← afterComma first tokens with
      | .closeMapping :: rest => pure ([], rest)
      | .key :: rest =>
        let (key, rest) ←
          if goesOn rest [.mapped, .comma, .closeMapping] then pure (.blank, rest)
          else node fuel false false rest
        let (value, rest) ← flowValue fuel rest
        let (pairs, rest) ← flowEntries fuel false rest
        pure ((key, value) :: pairs, rest)
      | tokens =>
        let (key, rest) ← node fuel false false tokens
        let (pairs, rest) ← flowEntries fuel false rest
        pure ((key, .blank) :: pairs, rest)

/-- The value of a key between brackets, with its colon; both may be left out. -/
def flowValue : Nat → List Token → Option (Document × List Token)
  | 0, _ => none
  | fuel + 1, tokens =>
    match tokens with
    | .mapped :: rest =>
      if goesOn rest [.comma, .closeSequence, .closeMapping] then some (.blank, rest)
      else node fuel false false rest
    | tokens => some (.blank, tokens)
end

/-- The tokens behind the dashes that start a document. The version may be given before them. -/
def afterStart? : List Token → Option (List Token)
  | .documentStart :: rest => some rest
  | .version major minor :: .documentStart :: rest =>
    if major = 1 ∧ (minor = 1 ∨ minor = 2) then some rest else none
  | _ => none

/-- Whether tokens start with what comes before a document. -/
def hasStart : List Token → Bool
  | .documentStart :: _ | .version _ _ :: _ => true
  | _ => false

/-- The document of some tokens. Nothing but end marks may follow it. -/
def ofTokens? (tokens : List Token) : Option Document := do
  let fuel := 4 * tokens.length + 4
  let (d, rest) ←
    if tokens.isEmpty then pure (.blank, [])
    else if hasStart tokens then
      let rest ← afterStart? tokens
      if rest.isEmpty || goesOn rest [.documentStart, .documentEnd] then pure (.blank, rest)
      else node fuel true false rest
    else node fuel true false tokens
  if rest.all (· = .documentEnd) then pure d else none

/-- How deep collections may be nested. -/
def nestingLimit : Nat := 128

/-- The document that is the whole of a text. -/
def readDocument (s : String) : Option Document :=
  ((tokens s).bind ofTokens?).map (·.withinDepth nestingLimit)

end SocketGraph.Yaml
