import TrustManager.Field

/-! The `Bundle` resource of `trust.cert-manager.io/v1alpha1`. A target is a key selector
(`Spec.Target.ConfigMap.Key`), the shape the webhook and the validation tests are
written against. -/
namespace TrustManager

structure LabelSelectorRequirement where
  key : String
  operator : String
  values : List String
  deriving DecidableEq, Repr

/-- `metav1.LabelSelector`; only the label-selector validator looks inside it. -/
structure LabelSelector where
  matchLabels : List (String × String)
  matchExpressions : List LabelSelectorRequirement
  deriving DecidableEq, Repr

structure SourceObjectKeySelector where
  name : String
  selector : Option LabelSelector
  key : String
  includeAllKeys : Bool
  deriving DecidableEq, Repr

/-- `UseDefaultCAs` is a `*bool`: absent and `false` are told apart. -/
structure BundleSource where
  configMap : Option SourceObjectKeySelector
  secret : Option SourceObjectKeySelector
  inLine : Option String
  useDefaultCAs : Option Bool
  deriving DecidableEq, Repr

/-- The key a target writes; its format and password are read by no check here. -/
structure KeySelector where
  key : String
  deriving DecidableEq, Repr

structure AdditionalFormats where
  jks : Option KeySelector
  pkcs12 : Option KeySelector
  deriving DecidableEq, Repr

structure BundleTarget where
  configMap : Option KeySelector
  secret : Option KeySelector
  additionalFormats : Option AdditionalFormats
  namespaceSelector : Option LabelSelector
  deriving DecidableEq, Repr

structure BundleSpec where
  sources : List BundleSource
  target : BundleTarget
  deriving DecidableEq, Repr

/-- Of the object metadata only the name is read. -/
structure Bundle where
  name : String
  spec : BundleSpec
  deriving DecidableEq, Repr

def Bundle.withSources (b : Bundle) (sources : List BundleSource) : Bundle :=
  { b with spec := { b.spec with sources := sources } }

@[simp] theorem Bundle.withSources_sources (b : Bundle) (sources : List BundleSource) :
    (b.withSources sources).spec.sources = sources := rfl

@[simp] theorem Bundle.withSources_target (b : Bundle) (sources : List BundleSource) :
    (b.withSources sources).spec.target = b.spec.target := rfl

@[simp] theorem Bundle.withSources_name (b : Bundle) (sources : List BundleSource) :
    (b.withSources sources).name = b.name := rfl

def Bundle.withTarget (b : Bundle) (target : BundleTarget) : Bundle :=
  { b with spec := { b.spec with target := target } }

@[simp] theorem Bundle.withSources_self (b : Bundle) : b.withSources b.spec.sources = b := rfl

/-- The bundle every validation test starts from: one default-CA source, a configMap target. -/
def validationBundle : Bundle :=
  ⟨"validation-", ⟨[⟨none, none, none, some true⟩], ⟨some ⟨"ca-bundle.crt"⟩, none, none, none⟩⟩⟩

/-- A `runtime.Object` handed to the webhook: a Bundle, or an object of another Go type. -/
inductive RuntimeObject
  | bundle (b : Bundle)
  | other (typeName : String)
  deriving DecidableEq, Repr

/-- The two kinds of object a source reads from and a target writes to. -/
inductive SourceKind
  | configMap
  | secret
  deriving DecidableEq, Repr

/-- The field name, as the webhook spells it in its paths. -/
def SourceKind.field : SourceKind → String
  | .configMap => "configMap"
  | .secret => "secret"

def SourceKind.source : SourceKind → BundleSource → Option SourceObjectKeySelector
  | .configMap, s => s.configMap
  | .secret, s => s.secret

def SourceKind.target : SourceKind → BundleTarget → Option KeySelector
  | .configMap, t => t.configMap
  | .secret, t => t.secret

end TrustManager
