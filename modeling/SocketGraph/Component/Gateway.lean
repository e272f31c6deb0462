import SocketGraph.Component
import SocketGraph.Tables.Payload

/-! The gateway: a node that stands for a linked scene. Its attribute `gw` pairs each of its sockets
with a socket of the scene, as the parameters of a function are paired with its arguments. -/
namespace SocketGraph.Gateway

/-- The name of the gateway component. -/
def name : String := "scene.gateway"

/-- The attribute that holds the pairings. -/
def pairingAttribute : String := "gw"

def decodePairings (v : Value) : Decode.Decoded Pairings :=
  Decode.table .values (Decode.link .values) v

/-- The pairings of a gateway node; there are none without the attribute. -/
def pairings (attributes : Table Value) : Decode.Decoded Pairings :=
  match attributes.get? pairingAttribute with
  | none => .ok .empty
  | some v => decodePairings v

/-- Push values to the outputs of the gateway that are paired with their sockets. -/
def pushPaired (p : Pairings) (rest : Script) : List (Link × Value) → Script
  | [] => rest
  | (source, v) :: more =>
    (p.socketsFor source).foldr (fun socket next => .push socket v next) (pushPaired p rest more)

/-- Forward signals out of the outputs of the gateway that are paired with their sockets. -/
def forwardPaired (p : Pairings) (rest : Script) (signals : List Link) : Script :=
  (signals.flatMap p.socketsFor).foldr (fun socket next => .forward socket next) rest

/-- The values that one node exposes, with the sockets they stand at. -/
def exposedBy (node : NodeId) (exposed : Table Value) : List (Link × Value) :=
  exposed.entries.map fun e => (⟨node, e.1⟩, e.2)

/-- Run a script with the pairings and the target of a socket, if it is paired. -/
def enter (a : Activation) (socket : Option String) (inside : Pairings → Link → Script) : Script :=
  match pairings a.attributes with
  | .error problem => .fail (.badPairing a.node problem)
  | .ok p =>
    match socket with
    | none => .succeed
    | some socket =>
      match p.get? socket with
      | none => .succeed
      | some target =>
        .emit (.logged (.gatewayEntered a.node socket target.node target.socket)) (inside p target)

/-- Pull a paired output: evaluate its target in the linked scene and push what it exposes. -/
def update (a : Activation) : Script :=
  enter a a.requested? fun p target =>
    .pullScene p target fun
      | .error failure => .fail failure
      | .ok exposed => pushPaired p .succeed (exposedBy target.node exposed)

/-- Deliver a signal to the linked scene; the signals that it exposes are forwarded and its values
pushed, also when handlers failed. -/
def signal (a : Activation) (socket : String) : Script :=
  enter a (some socket) fun p target =>
    .pushScene p target fun result =>
      let finish : Script :=
        if result.succeeded then .succeed else .fail (.linkedScene a.node result.failures)
      forwardPaired p
        (pushPaired p finish (result.values.entries.flatMap fun e => exposedBy e.1 e.2))
        result.signals

/-- The gateway has no declared sockets: its sockets are those that are paired. -/
def component : Component := ⟨name, [], some update, some signal⟩

end SocketGraph.Gateway
