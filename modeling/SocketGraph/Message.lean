import SocketGraph.Value

/-! The messages that the engine logs: each has a text, a level and fields, as an event of its own
and as a span around what it announces. -/
namespace SocketGraph

inductive Level
  | debug
  | info
  | warn
  | error
  deriving DecidableEq

def Level.text : Level → String
  | .debug => "DEBUG"
  | .info => "INFO"
  | .warn => "WARN"
  | .error => "ERROR"

/-- A logged message. An error stands as its text. -/
inductive Message
  | activated (source : String) (nodes components : Nat)
  | terminated (openFrames : Nat)
  | inactive (operation : String)
  | notExposed (node socket : String)
  | componentMissing (component : String)
  | requestFailed (node socket error : String)
  | recursionLimit (node : String) (limit : Nat)
  | evaluating (node component : String) (socket : Option String) (depth : Nat)
  | requested (node socket : String)
  | triggered (socket : String) (sources : Nat)
  | handlerFailed (node socket error : String)
  | levelLimit (limit pending : Nat)
  | propagated (levels handled failed : Nat)
  | forwardIgnored (node socket : String)
  | signalIgnored (node socket : String)
  | sourceMissing (socket : String)
  | gatewayEntered (gateway socket targetNode targetSocket : String)
  | tablesLoaded (source format : String)
  | configLoaded (path : String) (recursionDepth signalLevels : Nat)
  deriving DecidableEq

/-- The fixed part of a span: its name, its level and its fields. -/
structure Span where
  name : String
  level : Level
  fields : List (String × Value)

namespace Message

def text : Message → String
  | .activated source nodes components =>
    "Engine activated from " ++ source ++ ": " ++ toString nodes ++ " nodes, " ++
      toString components ++ " registered components"
  | .terminated openFrames =>
    if openFrames = 0 then "Engine terminated"
    else "Engine terminated with " ++ toString openFrames ++ " frames still open"
  | .inactive operation => "'" ++ operation ++ "' called on an inactive engine"
  | .notExposed node socket => "Socket '" ++ node ++ "." ++ socket ++ "' is not an exposed socket"
  | .componentMissing component =>
    "Component '" ++ component ++ "' is used by the tables but not registered"
  | .requestFailed node socket error =>
    "Request for '" ++ node ++ "." ++ socket ++ "' failed: " ++ error
  | .recursionLimit node limit =>
    "Recursion limit of " ++ toString limit ++ " reached while evaluating '" ++ node ++ "'"
  | .evaluating node component (some socket) depth =>
    "Evaluating '" ++ node ++ "' (" ++ component ++ ") for socket '" ++ socket ++ "' at depth " ++
      toString depth
  | .evaluating node component none depth =>
    "Evaluating '" ++ node ++ "' (" ++ component ++ ") at depth " ++ toString depth
  | .requested node socket => "Value requested for '" ++ node ++ "." ++ socket ++ "'"
  | .triggered socket sources =>
    "Signal '" ++ socket ++ "' triggered on " ++ toString sources ++ " source nodes"
  | .handlerFailed node socket error =>
    "Signal handler of '" ++ node ++ "' failed on socket '" ++ socket ++ "': " ++ error
  | .levelLimit limit pending =>
    "Signal propagation stopped after " ++ toString limit ++ " levels with " ++ toString pending ++
      " links pending"
  | .propagated levels handled failed =>
    "Signal propagation completed: " ++ toString levels ++ " levels, " ++ toString handled ++
      " handlers run, " ++ toString failed ++ " failed"
  | .forwardIgnored node socket =>
    "Node '" ++ node ++ "' forwarded '" ++ socket ++ "' outside a signal cycle; ignored"
  | .signalIgnored node socket =>
    "Node '" ++ node ++ "' exposed signal '" ++ socket ++ "' outside a signal cycle; ignored"
  | .sourceMissing socket =>
    "Signal '" ++ socket ++ "' triggered without a component or node; nothing to do"
  | .gatewayEntered gateway socket targetNode targetSocket =>
    "Gateway '" ++ gateway ++ "." ++ socket ++ "' entering linked scene at '" ++ targetNode ++
      "." ++ targetSocket ++ "'"
  | .tablesLoaded source format => "Loaded " ++ format ++ " tables from " ++ source
  | .configLoaded path recursionDepth signalLevels =>
    "Loaded engine configuration from " ++ path ++ ": max_recursion_depth=" ++
      toString recursionDepth ++ ", max_signal_levels=" ++ toString signalLevels

/-- The level of a message as an event. An unbalanced termination is a warning. -/
def level : Message → Level
  | .activated _ _ _ | .triggered _ _ | .tablesLoaded _ _ | .configLoaded _ _ _ => .info
  | .terminated openFrames => if openFrames = 0 then .info else .warn
  | .inactive _ | .notExposed _ _ | .componentMissing _ | .forwardIgnored _ _
  | .sourceMissing _ => .warn
  | .requestFailed _ _ _ | .recursionLimit _ _ | .handlerFailed _ _ _ | .levelLimit _ _ => .error
  | .evaluating _ _ _ _ | .requested _ _ | .propagated _ _ _ | .signalIgnored _ _
  | .gatewayEntered _ _ _ _ => .debug

/-- The fields of a message, its text apart. A field without a value is left out. -/
def fields : Message → List (String × Value)
  | .activated source nodes components =>
    [("source", .string source), ("node_count", .nat nodes), ("component_count", .nat components)]
  | .terminated openFrames => [("open_frames", .nat openFrames)]
  | .inactive operation => [("operation", .string operation)]
  | .notExposed node socket => [("node", .string node), ("socket", .string socket)]
  | .componentMissing component => [("component", .string component)]
  | .requestFailed node socket error =>
    [("node", .string node), ("socket", .string socket), ("error", .string error)]
  | .recursionLimit node limit => [("node", .string node), ("limit", .nat limit)]
  | .evaluating node component socket depth =>
    [("node", .string node), ("component", .string component)] ++
      (socket.map fun s => ("socket", Value.string s)).toList ++ [("depth", .nat depth)]
  | .requested node socket => [("node", .string node), ("socket", .string socket)]
  | .triggered socket sources => [("socket", .string socket), ("source_count", .nat sources)]
  | .handlerFailed node socket error =>
    [("node", .string node), ("socket", .string socket), ("error", .string error)]
  | .levelLimit limit pending => [("limit", .nat limit), ("pending", .nat pending)]
  | .propagated levels handled failed =>
    [("levels", .nat levels), ("handled", .nat handled), ("failed", .nat failed)]
  | .forwardIgnored node socket => [("node", .string node), ("socket", .string socket)]
  | .signalIgnored node socket => [("node", .string node), ("socket", .string socket)]
  | .sourceMissing socket => [("socket", .string socket)]
  | .gatewayEntered gateway socket targetNode targetSocket =>
    [("gateway", .string gateway), ("socket", .string socket),
      ("target_node", .string targetNode), ("target_socket", .string targetSocket)]
  | .tablesLoaded source format => [("source", .string source), ("format", .string format)]
  | .configLoaded path recursionDepth signalLevels =>
    [("path", .string path), ("max_recursion_depth", .nat recursionDepth),
      ("max_signal_levels", .nat signalLevels)]

/-- The span around what a message announces; it carries some of the fields only. -/
def span : Message → Span
  | .activated source nodes _ =>
    ⟨"engine_activated", .info, [("source", .string source), ("node_count", .nat nodes)]⟩
  | .terminated openFrames => ⟨"engine_terminated", .info, [("open_frames", .nat openFrames)]⟩
  | .inactive operation => ⟨"engine_inactive", .warn, [("operation", .string operation)]⟩
  | .notExposed node socket =>
    ⟨"unknown_exposed_socket", .warn, [("node", .string node), ("socket", .string socket)]⟩
  | .componentMissing component => ⟨"component_missing", .warn, [("component", .string component)]⟩
  | .requestFailed node socket error =>
    ⟨"request_failed", .error,
      [("node", .string node), ("socket", .string socket), ("error", .string error)]⟩
  | .recursionLimit node limit =>
    ⟨"recursion_limit", .error, [("node", .string node), ("limit", .nat limit)]⟩
  | .evaluating node component _ depth =>
    ⟨"node", .debug,
      [("node", .string node), ("component", .string component), ("depth", .nat depth)]⟩
  | .requested node socket =>
    ⟨"request_value", .info, [("node", .string node), ("socket", .string socket)]⟩
  | .triggered socket sources =>
    ⟨"trigger_signal", .info, [("socket", .string socket), ("source_count", .nat sources)]⟩
  | .handlerFailed node socket _ =>
    ⟨"signal_handler_failed", .error, [("node", .string node), ("socket", .string socket)]⟩
  | .levelLimit limit _ => ⟨"signal_level_limit", .error, [("limit", .nat limit)]⟩
  | .propagated levels _ _ => ⟨"signal_propagation", .debug, [("levels", .nat levels)]⟩
  | .forwardIgnored node _ => ⟨"forward_outside_signal_cycle", .warn, [("node", .string node)]⟩
  | .signalIgnored node _ => ⟨"signal_expose_ignored", .debug, [("node", .string node)]⟩
  | .sourceMissing socket => ⟨"missing_signal_source", .warn, [("socket", .string socket)]⟩
  | .gatewayEntered gateway _ targetNode _ =>
    ⟨"scene_gateway", .debug, [("gateway", .string gateway), ("target_node", .string targetNode)]⟩
  | .tablesLoaded source format =>
    ⟨"data_source", .info, [("source", .string source), ("format", .string format)]⟩
  | .configLoaded path _ _ => ⟨"config", .info, [("path", .string path)]⟩

end Message
end SocketGraph
