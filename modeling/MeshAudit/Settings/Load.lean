import MeshAudit.Settings.LayerFile
import MeshAudit.Settings.Lenient

/-!
# Loading settings

The defaults are the lowest layer, a file that may be named is the next, and the environment is the
highest. The settings that come out must break no rule.
-/

namespace MeshAudit.Settings

/-- The layer of a file that is named; without a name it is empty. -/
def fileLayer? (files : FileTree) : Option String → Option Layer
  | none => some []
  | some path => files.layer? path

/-- The settings before any rule is checked, if all layers can be read. -/
def gather? (files : FileTree) (environment : Environment) (path : Option String) :
    Option Settings := do
  let fileLayer ← fileLayer? files path
  let base : Settings := {}
  ofLayers? ((Layer.ofEnvironment environment).onto (fileLayer.onto base.toValue))

/-- Load the settings from an optional file and the environment. -/
def load (files : FileTree) (environment : Environment) (path : Option String) :
    Except Failure Settings :=
  match gather? files environment path with
  | none => .error .badLayers
  | some settings => do
    settings.validate
    return settings

/-- Settings that load break no rule. -/
theorem validate_of_load {files : FileTree} {environment : Environment} {path : Option String}
    {settings : Settings} (h : load files environment path = .ok settings) :
    settings.validate = .ok () := by
  unfold load at h
  split at h
  · simp at h
  · rename_i found _
    cases hv : found.validate with
    | error failure => simp [hv, bind, Except.bind] at h
    | ok u =>
      simp only [hv, bind, Except.bind, pure, Except.pure, Except.ok.injEq] at h
      rw [← h, hv]

end MeshAudit.Settings
