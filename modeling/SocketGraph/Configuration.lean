import SocketGraph.Files
import SocketGraph.Limits
import SocketGraph.Watcher
import SocketGraph.Text.Blank
import SocketGraph.Document.Yaml

/-! Configurations: limits that are kept in a YAML file. What a file leaves out has its standard
value. -/
namespace SocketGraph

/-- Refuse limits that nothing could stay within. -/
def Limits.validate (l : Limits) : Except ConfigFailure Unit :=
  if l.recursionDepth = 0 then
    .error (.invalid "limits.max_recursion_depth must be greater than zero")
  else if l.signalLevels = 0 then
    .error (.invalid "limits.max_signal_levels must be greater than zero")
  else .ok ()

theorem Limits.validate_eq_ok {l : Limits} :
    l.validate = .ok () ↔ 0 < l.recursionDepth ∧ 0 < l.signalLevels := by
  unfold Limits.validate
  split
  · rename_i h
    simp [h]
  · split
    · rename_i h
      simp [h]
    · simp only [true_iff]
      omega

namespace Decode
variable {δ : Type} (r : Reading δ)

def limits (d : δ) : Decoded Limits := do
  let f ← fields r "limits" ["max_recursion_depth", "max_signal_levels"] unchecked d
  let recursionDepth ←
    f.withDefault "max_recursion_depth" Limits.standard.recursionDepth (natural r)
  let signalLevels ← f.withDefault "max_signal_levels" Limits.standard.signalLevels (natural r)
  pure ⟨recursionDepth, signalLevels⟩

/-- A configuration, which holds limits. -/
def configuration (d : δ) : Decoded Limits := do
  let f ← fields r "configuration" ["limits"] unchecked d
  f.withDefault "limits" .standard (limits r)

end Decode

namespace Limits

/-- The limits in the text of a configuration. -/
def ofText (text : String) : Except ConfigFailure Limits :=
  if Text.isBlankText text then .ok .standard
  else
    match Yaml.readDocument text with
    | none => .error (.malformed "malformed document")
    | some d =>
      match Decode.configuration (.documents .never) d with
      | .error problem => .error (.malformed problem.text)
      | .ok l => .ok l

/-- The limits in the configuration file at a path. -/
def read (files : Files) (path : String) : Except ConfigFailure Limits :=
  match files.read path with
  | .error cause => .error (.unreadable cause)
  | .ok text => ofText text

variable {ω : Type} (watch : Watcher ω)

/-- Read limits and report them. -/
def load (files : Files) (path : String) : StateM ω (Except ConfigFailure Limits) := do
  match read files path with
  | .error failure => pure (.error failure)
  | .ok l =>
    modify (watch.event (.logged (.configLoaded path l.recursionDepth l.signalLevels)))
    pure (.ok l)

/-- Load limits and validate them. They are reported in any case. -/
def loadValid (files : Files) (path : String) : StateM ω (Except ConfigFailure Limits) := do
  match ← load watch files path with
  | .error failure => pure (.error failure)
  | .ok l => pure (l.validate.map fun _ => l)

end Limits
end SocketGraph
