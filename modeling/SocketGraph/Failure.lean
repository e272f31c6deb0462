import SocketGraph.Tables
import SocketGraph.Decode

/-! What can go wrong, by cause, with the text of each cause. -/
namespace SocketGraph

/-- Why a file cannot be read as text. -/
inductive FileFailure
  | notFound
  | isDirectory
  | notDirectory
  | nameTooLong
  | refused
  | invalidText
  deriving DecidableEq

def FileFailure.text : FileFailure → String
  | .notFound => "No such file or directory (os error 2)"
  | .isDirectory => "Is a directory (os error 21)"
  | .notDirectory => "Not a directory (os error 20)"
  | .nameTooLong => "File name too long (os error 36)"
  | .refused => "Permission denied (os error 13)"
  | .invalidText => "stream did not contain valid UTF-8"

/-- Why stored tables cannot be loaded. -/
inductive LoadFailure
  | notAFile (path : String)
  | unreadable (path : String) (cause : FileFailure)
  | unsupportedFormat (path : String)
  | malformed (path format reason : String)
  deriving DecidableEq

namespace LoadFailure

/-- The text up to the cause that the file or its contents gave. -/
def heading : LoadFailure → String
  | .notAFile path => "Data file does not exist or is not a regular file: " ++ path
  | .unreadable path _ => "Failed to read data file " ++ path ++ ": "
  | .unsupportedFormat path => "Unsupported data file format: " ++ path
  | .malformed path format _ => "Failed to parse " ++ format ++ " data from " ++ path ++ ": "

def text : LoadFailure → String
  | .unreadable path cause => heading (.unreadable path cause) ++ cause.text
  | .malformed path format reason => heading (.malformed path format reason) ++ reason
  | failure => heading failure

/-- The texts of the causes behind a failure, outermost first. -/
def causes : LoadFailure → List String
  | .unreadable _ cause => [cause.text]
  | _ => []

def kind : LoadFailure → String
  | .notAFile _ => "NotAFile"
  | .unreadable _ _ => "DataIo"
  | .unsupportedFormat _ => "UnsupportedFormat"
  | .malformed _ _ _ => "DataParse"

end LoadFailure

/-- Why a configuration cannot be used. -/
inductive ConfigFailure
  | unreadable (cause : FileFailure)
  | malformed (reason : String)
  | invalid (reason : String)
  deriving DecidableEq

namespace ConfigFailure

def heading : ConfigFailure → String
  | .unreadable _ => "Failed to read config file: "
  | .malformed _ => "Failed to parse config file: "
  | .invalid reason => "Invalid configuration: " ++ reason

def text : ConfigFailure → String
  | .unreadable cause => heading (.unreadable cause) ++ cause.text
  | .malformed reason => heading (.malformed reason) ++ reason
  | .invalid reason => heading (.invalid reason)

def causes : ConfigFailure → List String
  | .unreadable cause => [cause.text]
  | .malformed reason => [reason]
  | .invalid _ => []

def kind : ConfigFailure → String
  | .unreadable _ => "ConfigIo"
  | .malformed _ => "ConfigYaml"
  | .invalid _ => "ConfigInvalid"

end ConfigFailure

/-- Why the engine or a handler fails. -/
inductive Failure
  | notActive (operation : String)
  | alreadyActive
  | nothingBound
  | missingTable (name : String)
  | load (failure : LoadFailure)
  | notExposed (node : NodeId) (socket : String)
  | unknownNode (node : NodeId)
  | unknownComponent (node : NodeId) (component : String)
  | tooDeep (node : NodeId) (limit : Nat)
  | tooManyLevels (limit : Nat)
  | badPairing (node : NodeId) (problem : Decode.Problem)
  | linkedScene (node : NodeId) (failures : List Failure)
  | handler (node : NodeId) (component message : String)
  | openFrames (count : Nat)
  deriving Inhabited

namespace Failure

/-- The text up to the cause that a file or its contents gave. -/
def heading : Failure → String
  | .notActive operation => "Engine is not active, cannot " ++ operation
  | .alreadyActive => "Engine is active, terminate it before binding data or activating again"
  | .nothingBound => "No data source is bound to the engine"
  | .missingTable name => "Invalid data source: the '" ++ name ++ "' table is missing"
  | .load failure => failure.heading
  | .notExposed node socket => "Socket '" ++ socket ++ "' of node '" ++ node ++ "' is not exposed"
  | .unknownNode node => "Node '" ++ node ++ "' does not exist in the executable table"
  | .unknownComponent node component =>
    "Component '" ++ component ++ "' used by node '" ++ node ++ "' is not registered"
  | .tooDeep node limit =>
    "Recursion limit of " ++ toString limit ++ " reached while evaluating node '" ++ node ++ "'"
  | .tooManyLevels limit => "Signal propagation stopped after " ++ toString limit ++ " levels"
  | .badPairing node problem =>
    "Gateway node '" ++ node ++ "' has an invalid pairing: " ++ problem.text
  | .linkedScene node failures =>
    "Linked scene of gateway node '" ++ node ++ "' reported " ++ toString failures.length ++
      " signal failure(s)"
  | .handler node component message =>
    "Component '" ++ component ++ "' failed on node '" ++ node ++ "': " ++ message
  | .openFrames count => toString count ++ " stack frame(s) were still open at termination"

def text : Failure → String
  | .load failure => failure.text
  | failure => failure.heading

def causes : Failure → List String
  | .load failure => failure.causes
  | _ => []

/-- The name of the kind of a failure, as programs and hosts tell kinds apart. -/
def kind : Failure → String
  | .notActive _ => "Inactive"
  | .alreadyActive => "AlreadyActive"
  | .nothingBound => "NoDataSource"
  | .missingTable _ => "InvalidDataSource"
  | .load failure => failure.kind
  | .notExposed _ _ => "UnknownExposedSocket"
  | .unknownNode _ => "UnknownNode"
  | .unknownComponent _ _ => "UnknownComponent"
  | .tooDeep _ _ => "RecursionLimitExceeded"
  | .tooManyLevels _ => "SignalLevelLimitExceeded"
  | .badPairing _ _ => "InvalidGatewayPairing"
  | .linkedScene _ _ => "NestedSignalFailures"
  | .handler _ _ _ => "Handler"
  | .openFrames _ => "UnbalancedRenderCycles"

end Failure

/-- A result of the engine or of a handler. -/
abbrev Outcome (α : Type) := Except Failure α

end SocketGraph
