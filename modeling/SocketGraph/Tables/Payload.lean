import SocketGraph.Tables
import SocketGraph.Decode

/-! The stored form of the tables. Either table may be missing in storage; the names of the fields
are short. -/
namespace SocketGraph

/-- Tables as they are stored, before it is known that both are there. -/
structure Payload where
  exposed : Option ExposedIndex
  executable : Option Executable
  deriving DecidableEq

namespace Payload

def ofTables (t : Tables) : Payload := ⟨some t.exposed, some t.executable⟩

/-- The tables, or the stored name of the one that is missing. -/
def tables (p : Payload) : Except String Tables :=
  match p.exposed, p.executable with
  | none, _ => .error "x"
  | some _, none => .error "X"
  | some exposed, some executable => .ok ⟨exposed, executable⟩

end Payload

/-! Writing. -/

def Link.toValue (l : Link) : Value :=
  .object [("dk", .string l.socket), ("dn", .string l.node)]

/-- The table of values that some values are written as. -/
def Value.ofTableWith {α : Type} (write : α → Value) (t : Table α) : Value := .ofTable (t.map write)

def Value.ofListWith {α : Type} (write : α → Value) (items : List α) : Value :=
  .array (items.map write)

def NodeInfo.toValue (info : NodeInfo) : Value :=
  .object [("a", .ofTable info.attributes), ("c", .string info.component)]

def Executable.toValue (x : Executable) : Value :=
  .object [
    ("i2o", .ofTableWith (.ofListWith Link.toValue) x.valueEdges),
    ("nd", .ofTableWith NodeInfo.toValue x.nodes),
    ("o2i", .ofTableWith (.ofListWith Link.toValue) x.signalEdges)]

def ExposedSocket.toValue (s : ExposedSocket) : Value :=
  .object [("c", .string s.component), ("k", .string s.socket), ("n", .string s.node),
    ("t", .string s.typeTag)]

def ExposedIndex.toValue (x : ExposedIndex) : Value :=
  .object [
    ("o", .ofTableWith (.ofTableWith Value.texts) x.triggers),
    ("s", .ofTableWith ExposedSocket.toValue x.sockets)]

/-- The stored form; a missing table is left out. -/
def Payload.toValue (p : Payload) : Value :=
  .object ((p.executable.map fun x => ("X", x.toValue)).toList ++
    (p.exposed.map fun x => ("x", x.toValue)).toList)

/-! Reading. -/

namespace Decode
variable {δ : Type} (r : Reading δ)

/-- Both fields of a link are texts, and the first one that is not decides the problem. -/
def link (d : δ) : Decoded Link := do
  let f ← fields r "Link" ["dn", "dk"] (fun d => (text r d).map fun _ => ()) d
  let node ← f.required "Link" 2 "dn" (text r)
  let socket ← f.required "Link" 2 "dk" (text r)
  pure ⟨node, socket⟩

def nodeInfo (d : δ) : Decoded NodeInfo := do
  let f ← fields r "node" ["c", "a"] unchecked d
  let component ← f.required "node" 2 "c" (text r)
  let attributes ← f.withDefault "a" .empty (table r (value r))
  pure ⟨component, attributes⟩

def executable (d : δ) : Decoded Executable := do
  let f ← fields r "executable table" ["nd", "i2o", "o2i"] unchecked d
  let nodes ← f.withDefault "nd" .empty (table r (nodeInfo r))
  let valueEdges ← f.withDefault "i2o" .empty (table r (list r (link r)))
  let signalEdges ← f.withDefault "o2i" .empty (table r (list r (link r)))
  pure ⟨nodes, valueEdges, signalEdges⟩

def exposedSocket (d : δ) : Decoded ExposedSocket := do
  let f ← fields r "exposed socket" ["n", "k", "t", "c"] unchecked d
  let node ← f.required "exposed socket" 4 "n" (text r)
  let socket ← f.required "exposed socket" 4 "k" (text r)
  let typeTag ← f.required "exposed socket" 4 "t" (text r)
  let component ← f.required "exposed socket" 4 "c" (text r)
  pure ⟨node, socket, typeTag, component⟩

def exposedIndex (d : δ) : Decoded ExposedIndex := do
  let f ← fields r "exposed index" ["s", "o"] unchecked d
  let sockets ← f.withDefault "s" .empty (table r (exposedSocket r))
  let triggers ← f.withDefault "o" .empty (table r (table r (list r (text r))))
  pure ⟨sockets, triggers⟩

/-- A stored payload; either table may be missing or null. -/
def payload (d : δ) : Decoded Payload := do
  let f ← fields r "payload" ["x", "X"] unchecked d
  let exposed ← f.withDefault "x" none (optional r (exposedIndex r))
  let executable ← f.withDefault "X" none (optional r (executable r))
  pure ⟨exposed, executable⟩

end Decode

/-- The payload that a value stores. -/
def Payload.ofValue (v : Value) : Decode.Decoded Payload := Decode.payload .values v

end SocketGraph
