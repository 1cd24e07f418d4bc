import TrustManager.Bundle

/-! The webhook's `validator`: `ValidateCreate`, `ValidateUpdate`, `ValidateDelete` and the
`validate` they share. apimachinery's label-selector check is a parameter reporting its
faults relative to the path it is handed, the way `ValidateLabelSelector` builds them. -/
namespace TrustManager.Webhook

open Field

/-- A fault of the label-selector check, under the path it was given. -/
structure SelectorFault where
  suffix : Path
  type : ErrorType
  badValue : String
  detail : String
  deriving DecidableEq, Repr

def SelectorFault.at (fldPath : Path) (f : SelectorFault) : Error :=
  ⟨f.type, (fldPath ++ f.suffix).string, f.badValue, f.detail⟩

abbrev Warnings := List String

/-- The `error` the validator returns: an aggregate, or a `fmt.Errorf` text. -/
inductive GoError
  | aggregate (errs : List Error)
  | errorf (text : String)
  deriving DecidableEq, Repr

/-- `%T` of a `*trustapi.Bundle`, nil or not. -/
def bundlePointerType : String := "*v1alpha1.Bundle"

section

variable (selectorFaults : LabelSelector → List SelectorFault)

def validateLabelSelector (ps : Option LabelSelector) (fldPath : Path) : ErrorList :=
  match ps with
  | none => []
  | some ps => (selectorFaults ps).map (SelectorFault.at fldPath)

def sourceSelectorErrors (path : Path) (kind : SourceKind) (source : BundleSource) : ErrorList :=
  match kind.source source with
  | none => []
  | some o => validateLabelSelector selectorFaults o.selector ((path.child kind.field []).child "selector" [])

/-- The first loop of `validate`. -/
def sourcesSelectorErrors (path : Path) (sources : List BundleSource) : ErrorList :=
  sources.enum.flatMap fun (i, source) =>
    let path := (path.child "sources" []).index i
    sourceSelectorErrors selectorFaults path .configMap source ++
      sourceSelectorErrors selectorFaults path .secret source

def sameSourceFault (path : Path) (kind : SourceKind) (i : Nat) (name key : String) : Error :=
  forbidden ((path.child "sources" []).child ("[" ++ toString i ++ "]") [kind.field, name, key])
    "cannot define the same source as target"

/-- The configMap loop of `validate`, or, for `.secret`, the secret loop. -/
def sameSourceErrors (path : Path) (kind : SourceKind) (bundle : Bundle) : ErrorList :=
  match kind.target bundle.spec.target with
  | none => []
  | some target =>
    bundle.spec.sources.enum.filterMap fun (i, source) =>
      match kind.source source with
      | some s =>
        if s.name = bundle.name ∧ s.key = target.key then some (sameSourceFault path kind i s.name s.key)
        else none
      | none => none

/-- Everything `validate` appends to `el`, in order. -/
def validateErrors (bundle : Bundle) : ErrorList :=
  let path := newPath "spec" []
  sourcesSelectorErrors selectorFaults path bundle.spec.sources ++
    sameSourceErrors path .configMap bundle ++ sameSourceErrors path .secret bundle ++
    validateLabelSelector selectorFaults bundle.spec.target.namespaceSelector
      (path.child "target" ["namespaceSelector"])

def validate (obj : RuntimeObject) : Warnings × Option GoError :=
  match obj with
  | .other typeName => ([], some (.errorf ("expected a Bundle, but got a " ++ typeName)))
  | .bundle bundle => ([], (toAggregate (validateErrors selectorFaults bundle)).map .aggregate)

def validateCreate (obj : RuntimeObject) : Warnings × Option GoError :=
  validate selectorFaults obj

/-- Removing a target ends the check at once; the type errors print the type of the
failed assertion's result, a nil `*trustapi.Bundle`. -/
def validateUpdate (oldObj newObj : RuntimeObject) : Warnings × Option GoError :=
  match oldObj, newObj with
  | .other _, _ => ([], some (.errorf ("expected a Bundle, but got a " ++ bundlePointerType)))
  | .bundle _, .other _ => ([], some (.errorf ("expected a Bundle, but got a " ++ bundlePointerType)))
  | .bundle oldBundle, .bundle newBundle =>
    let path := newPath "spec" []
    if oldBundle.spec.target.configMap.isSome && newBundle.spec.target.configMap.isNone then
      ([], (toAggregate [invalid (path.child "target" ["configmap"]) ""
        "target configMap removal is not allowed"]).map .aggregate)
    else if oldBundle.spec.target.secret.isSome && newBundle.spec.target.secret.isNone then
      ([], (toAggregate [invalid (path.child "target" ["secret"]) ""
        "target secret removal is not allowed"]).map .aggregate)
    else validate selectorFaults newObj

def validateDelete (_obj : RuntimeObject) : Warnings × Option GoError := ([], none)

end

def admits (result : Warnings × Option GoError) : Bool := result.2.isNone

def aggregateErrors (result : Warnings × Option GoError) : List Error :=
  match result.2 with
  | some (.aggregate errs) => errs
  | _ => []

theorem aggregateErrors_toAggregate (warnings : Warnings) (list : ErrorList) :
    aggregateErrors (warnings, (toAggregate list).map .aggregate) = (list.foldl keepFirst ([], [])).1 := by
  by_cases empty : list = []
  · subst empty; rfl
  · simp [aggregateErrors, toAggregate_of_ne_nil empty]

section

variable (selectorFaults : LabelSelector → List SelectorFault)

theorem validate_bundle (b : Bundle) :
    validate selectorFaults (.bundle b) = ([], (toAggregate (validateErrors selectorFaults b)).map .aggregate) :=
  rfl

theorem validateUpdate_of_kept (old new : Bundle)
    (configMap : old.spec.target.configMap.isSome → new.spec.target.configMap.isSome)
    (secret : old.spec.target.secret.isSome → new.spec.target.secret.isSome) :
    validateUpdate selectorFaults (.bundle old) (.bundle new) = validateCreate selectorFaults (.bundle new) := by
  simp only [validateUpdate, validateCreate]
  split_ifs with removed removed' <;> simp_all

end

end TrustManager.Webhook
