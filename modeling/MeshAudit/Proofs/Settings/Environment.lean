import MeshAudit.Settings.Load

/-!
# Settings from the environment and loaded settings

Settings of the mesh can be read from four variables, or they are loaded with all other settings in
layers. Both ways look for the problems of every field, but only loading asks whether the root
namespace is a single label. So the environment can give settings that no loading gives, and a dot
in the root namespace is the only reason for it.
-/

namespace MeshAudit

/-- Of two readings one after the other, both have to succeed. -/
theorem bind_eq_ok_iff {ε α β : Type} {x : Except ε α} {f : α → Except ε β} {r : β} :
    x >>= f = .ok r ↔ ∃ a, x = .ok a ∧ f a = .ok r := by
  cases x with
  | error e => simp [bind, Except.bind]
  | ok a => simp [bind, Except.bind]

/-- Settings of the mesh are accepted alone exactly when they break no rule. -/
theorem MeshSettings.validate_eq_ok_iff {mesh : MeshSettings} {u : Unit} :
    mesh.validate = .ok u ↔ mesh.problems = [] := by
  rw [MeshSettings.validate]
  cases mesh.problems <;> simp

/-- The environment gives the settings that its four variables name, if both flags can be read and
no rule is broken. -/
theorem MeshSettings.ofEnvironment_eq_ok_iff {environment : Environment} {mesh : MeshSettings} :
    ofEnvironment environment = .ok mesh ↔
      mesh.identityDomain =
        (environment.lookup "MESHLINT_IDENTITY_DOMAIN").getD "svc.cluster.local" ∧
      mesh.rootNamespace = (environment.lookup "MESHLINT_ROOT_NAMESPACE").getD "istio-system" ∧
      environment.flag "MESHLINT_AUTO_MTLS" true = .ok mesh.autoMtls ∧
      environment.flag "MESHLINT_ALLOW_PERMISSIVE" false = .ok mesh.allowPermissive ∧
      mesh.problems = [] := by
  simp only [ofEnvironment, bind_eq_ok_iff, validate_eq_ok_iff, pure, Except.pure, Except.ok.injEq]
  constructor
  · rintro ⟨auto, hauto, permissive, hpermissive, _, hproblems, rfl⟩
    exact ⟨rfl, rfl, hauto, hpermissive, hproblems⟩
  · rintro ⟨hdomain, hroot, hauto, hpermissive, hproblems⟩
    obtain ⟨domain, root, auto, permissive⟩ := mesh
    obtain rfl := hdomain
    obtain rfl := hroot
    exact ⟨auto, hauto, permissive, hpermissive, (), hproblems, rfl⟩

/-- Settings of the mesh break the same rules beside the default settings for logging as alone. -/
theorem Settings.problems_of_mesh (mesh : MeshSettings) :
    ({ mesh } : Settings).problems = recordProblem "analyzer" mesh.problems := by
  have hlog : ({} : LogSettings).problems = [] := rfl
  rw [Settings.problems, hlog]
  simp [recordProblem]

/-- The failure of settings whose root namespace is more than one label. -/
def dottedRoot : Failure :=
  ⟨.validation (some "analyzer.root_namespace"), "Root namespace must be a single DNS label"⟩

/-- Settings without other problems are refused for a dot in the root namespace alone. -/
theorem Settings.validate_of_problems_eq_nil {settings : Settings} (h : settings.problems = []) :
    settings.validate =
      if '.' ∈ settings.mesh.rootNamespace.toList then .error dottedRoot else .ok () := by
  have hchar : settings.mesh.rootNamespace.toList.contains '.' = true ↔
      '.' ∈ settings.mesh.rootNamespace.toList := List.contains_iff_mem
  simp only [Settings.validate, h, List.isEmpty_nil, Bool.not_true, hchar, dottedRoot]
  rfl

/-- Loading gives the gathered settings exactly when they are accepted. -/
theorem Settings.load_of_gather {files : FileTree} {assigned : Environment}
    {path : Option String} {settings : Settings}
    (h : gather? files assigned path = some settings) :
    load files assigned path = settings.validate.map fun _ => settings := by
  simp only [load, h]
  cases settings.validate <;> rfl

/-- Settings that the environment gives break no rule but the one on dots. They are accepted with
the default settings for logging exactly when the variable for the root namespace has no dot, and
loading the same settings in layers is refused otherwise. -/
theorem environment_settings_accepted_iff {environment : Environment} {mesh : MeshSettings}
    (given : MeshSettings.ofEnvironment environment = .ok mesh) :
    let settings : Settings := { mesh }
    settings.validate =
      (if '.' ∈ mesh.rootNamespace.toList then .error dottedRoot else .ok ()) ∧
    (settings.validate = .ok () ↔
      ∀ root, environment.lookup "MESHLINT_ROOT_NAMESPACE" = some root → '.' ∉ root.toList) ∧
    ∀ files assigned path, Settings.gather? files assigned path = some settings →
      Settings.load files assigned path =
        if '.' ∈ mesh.rootNamespace.toList then .error dottedRoot else .ok settings := by
  intro settings
  obtain ⟨-, hroot, -, -, hproblems⟩ := MeshSettings.ofEnvironment_eq_ok_iff.1 given
  have hnone : settings.problems = [] := by
    rw [Settings.problems_of_mesh, hproblems, recordProblem_eq_nil]
  have hvalidate : settings.validate =
      if '.' ∈ mesh.rootNamespace.toList then .error dottedRoot else .ok () :=
    Settings.validate_of_problems_eq_nil hnone
  refine ⟨hvalidate, ?_, fun files assigned path hgather => ?_⟩
  · have haccepted : settings.validate = .ok () ↔ '.' ∉ mesh.rootNamespace.toList := by
      rw [hvalidate]
      by_cases hdot : '.' ∈ mesh.rootNamespace.toList
      · simp [hdot]
      · simp [hdot]
    rw [haccepted, hroot]
    cases environment.lookup "MESHLINT_ROOT_NAMESPACE" with
    | none => simp
    | some root => simp
  · rw [Settings.load_of_gather hgather, hvalidate]
    split <;> rfl

/-- Variables that name the default settings give them, and they are accepted and can be loaded. -/
theorem environment_settings_accepted_default :
    MeshSettings.ofEnvironment
      [("MESHLINT_ROOT_NAMESPACE", "istio-system"), ("MESHLINT_AUTO_MTLS", "true")] = .ok {} ∧
    Settings.gather? (fun _ => none) [] none = some {} ∧
    Settings.validate {} = .ok () ∧
    Settings.load (fun _ => none) [] none = .ok {} := by
  have hgiven : MeshSettings.ofEnvironment
      [("MESHLINT_ROOT_NAMESPACE", "istio-system"), ("MESHLINT_AUTO_MTLS", "true")] = .ok {} := by
    rfl
  have hgather : Settings.gather? (fun _ => none) [] none = some {} := by rfl
  obtain ⟨-, haccepted, hload⟩ := environment_settings_accepted_iff hgiven
  refine ⟨hgiven, hgather, haccepted.2 fun root hroot => ?_, hload _ [] none hgather⟩
  cases hroot
  decide

/-- The environment gives settings with a dot in the root namespace, which are refused with the
default settings for logging and which no loading gives. -/
theorem dotted_root_given_by_environment :
    let mesh : MeshSettings := { rootNamespace := "istio.system" }
    MeshSettings.ofEnvironment [("MESHLINT_ROOT_NAMESPACE", "istio.system")] = .ok mesh ∧
    Settings.validate { mesh } = .error dottedRoot ∧
    ∀ files assigned path, Settings.load files assigned path ≠ .ok { mesh } := by
  have hrefused : Settings.validate { mesh := { rootNamespace := "istio.system" } } =
      .error dottedRoot := by
    rfl
  refine ⟨by rfl, hrefused, fun files assigned path hload => ?_⟩
  have haccepted := Settings.validate_of_load hload
  rw [hrefused] at haccepted
  cases haccepted

end MeshAudit
