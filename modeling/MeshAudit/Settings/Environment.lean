import MeshAudit.Settings.Validation

/-!
# Settings from environment variables

The settings of the mesh alone can be given by one variable each. Variables that are not set leave
the defaults.
-/

namespace MeshAudit

/-- Environment variables by name. -/
abbrev Environment := List (String × String)

/-- Value of a variable that must be the word `true` or `false`. -/
def Environment.flag (environment : Environment) (name : String) (default : Bool) :
    Except Failure Bool :=
  match environment.lookup name with
  | none => .ok default
  | some "true" => .ok true
  | some "false" => .ok false
  | some _ =>
    .error ⟨.config, s!"Invalid value for {name}: provided string was not `true` or `false`"⟩

/-- Settings of the mesh from environment variables. -/
def MeshSettings.ofEnvironment (environment : Environment) : Except Failure MeshSettings := do
  let defaults : MeshSettings := {}
  let settings : MeshSettings := {
    identityDomain :=
      (environment.lookup "MESHLINT_IDENTITY_DOMAIN").getD defaults.identityDomain
    rootNamespace := (environment.lookup "MESHLINT_ROOT_NAMESPACE").getD defaults.rootNamespace
    autoMtls := ← environment.flag "MESHLINT_AUTO_MTLS" defaults.autoMtls
    allowPermissive := ← environment.flag "MESHLINT_ALLOW_PERMISSIVE" defaults.allowPermissive }
  settings.validate
  return settings

end MeshAudit
