import SocketGraph.Files
import SocketGraph.Path
import SocketGraph.Watcher
import SocketGraph.Tables.Payload
import SocketGraph.Json.Reader
import SocketGraph.Document.Yaml
import SocketGraph.Document.Toml

/-! Where an engine takes its tables from: memory, or a file in one of three formats. -/
namespace SocketGraph

/-- The format of a data file. -/
inductive DataFormat
  | yaml
  | json
  | toml
  deriving DecidableEq

namespace DataFormat

def name : DataFormat → String
  | .yaml => "yaml"
  | .json => "json"
  | .toml => "toml"

/-- The format that the extension of a path stands for. -/
def ofPath? (path : String) : Option DataFormat :=
  match Path.extension? path with
  | some "yaml" | some "yml" => some .yaml
  | some "json" => some .json
  | some "toml" => some .toml
  | _ => none

/-- The document of a text. -/
def readDocument : DataFormat → String → Option Document
  | .yaml => Yaml.readDocument
  | .json => Json.readDocument
  | .toml => Toml.readDocument

/-- How records may be listed. -/
def listing : DataFormat → Decode.Listing
  | .yaml => .never
  | .json => .exact
  | .toml => .leading

/-- The payload of a text, or why there is none. -/
def readPayload (format : DataFormat) (text : String) : Except String Payload :=
  match format.readDocument text with
  | none => .error "malformed document"
  | some d =>
    match Decode.payload (.documents format.listing) d with
    | .error problem => .error problem.text
    | .ok p => .ok p

end DataFormat

/-- A file of tables. It is read whenever it is loaded. -/
structure DataFile where
  path : String
  format : DataFormat
  deriving DecidableEq

namespace DataFile

/-- A data file at a path where there is a file of a known format. -/
def ofPath (files : Files) (path : String) : Except LoadFailure DataFile :=
  if files.isFile path then
    match DataFormat.ofPath? path with
    | some format => .ok ⟨path, format⟩
    | none => .error (.unsupportedFormat path)
  else .error (.notAFile path)

/-- The payload that the file holds now. -/
def read (files : Files) (f : DataFile) : Except LoadFailure Payload :=
  match files.read f.path with
  | .error cause => .error (.unreadable f.path cause)
  | .ok text =>
    match f.format.readPayload text with
    | .error reason => .error (.malformed f.path f.format.name reason)
    | .ok p => .ok p

/-- Read the file and report it. -/
def load {ω : Type} (watch : Watcher ω) (files : Files) (f : DataFile) :
    StateM ω (Except LoadFailure Payload) := do
  match f.read files with
  | .error failure => pure (.error failure)
  | .ok p =>
    modify (watch.event (.logged (.tablesLoaded f.path f.format.name)))
    pure (.ok p)

end DataFile

/-- The source of tables that is bound to an engine. -/
inductive DataSource
  | memory (payload : Payload)
  | file (file : DataFile)

namespace DataSource

/-- The origin of the tables, as logs name it. -/
def origin : DataSource → String
  | .memory _ => "memory"
  | .file f => f.path

def load {ω : Type} (watch : Watcher ω) (files : Files) :
    DataSource → StateM ω (Except LoadFailure Payload)
  | .memory p => pure (.ok p)
  | .file f => f.load watch files

end DataSource
end SocketGraph
