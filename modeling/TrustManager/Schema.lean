import TrustManager.Faults

/-! The schema the API server applies to a Bundle before it calls the webhook. Under it a
source that includes all keys names no key of its own, while no target key is empty,
so the webhook's same-source check never fires on such a source. -/
namespace TrustManager.Webhook

open Field

def exactlyOne (flags : List Bool) : Bool := flags.count true == 1

/-- Modelled from the spec: the Bundle CRD's rules on an object-key selector (the CRD is not
in src/): exactly one of `name` and `selector`, exactly one of `key` and `includeAllKeys`. -/
def keySelectorValid (o : SourceObjectKeySelector) : Bool :=
  exactlyOne [o.name != "", o.selector.isSome] && exactlyOne [o.key != "", o.includeAllKeys]

/-- Modelled from the spec: the Bundle CRD's rules on a source: exactly one of `configMap`,
`secret`, `inLine` and `useDefaultCAs: true`, and valid object-key selectors. -/
def sourceValid (s : BundleSource) : Bool :=
  exactlyOne [s.configMap.isSome, s.secret.isSome, s.inLine.isSome, s.useDefaultCAs == some true] &&
    s.configMap.all keySelectorValid && s.secret.all keySelectorValid

/-- Modelled from the spec: the Bundle CRD's rules on the target: a configMap or a secret,
keys of at least one character, additional-format keys apart from the configMap and
secret keys and from each other. -/
def targetValid (t : BundleTarget) : Bool :=
  let primary := [t.configMap, t.secret].filterMap id
  let additional := match t.additionalFormats with
    | some f => [f.jks, f.pkcs12].filterMap id
    | none => []
  (t.configMap.isSome || t.secret.isSome) && (primary ++ additional).all (·.key != "") &&
    additional.all (fun k => primary.all (·.key != k.key)) &&
    match t.additionalFormats with
    | some ⟨some jks, some pkcs12⟩ => jks.key != pkcs12.key
    | _ => true

/-- Modelled from the spec: the Bundle CRD: 1 to 100 sources, each valid, at most one of them
requesting the default CAs, and a valid target. -/
def schemaValid (b : Bundle) : Bool :=
  decide (1 ≤ b.spec.sources.length ∧ b.spec.sources.length ≤ 100) &&
    b.spec.sources.all sourceValid &&
    decide (b.spec.sources.countP (·.useDefaultCAs == some true) ≤ 1) &&
    targetValid b.spec.target

/-- Modelled from the spec: the CRD's faults on the source at `i`, at the paths and with the
texts of spec section 4.1 and the validation tests. -/
def sourceErrors (i : Nat) (s : BundleSource) : ErrorList :=
  let path := ((newPath "spec" []).child "sources" []).index i
  let selectorErrors (path : Path) (o : SourceObjectKeySelector) : ErrorList :=
    (if exactlyOne [o.name != "", o.selector.isSome] then []
      else [invalid path "object" "must specify one and only one of \x7bname, selector\x7d"]) ++
    (if exactlyOne [o.key != "", o.includeAllKeys] then []
      else [invalid path "object" "must specify key or includeAllKeys"])
  (if exactlyOne [s.configMap.isSome, s.secret.isSome, s.inLine.isSome, s.useDefaultCAs == some true]
    then [] else [invalid path "object" "must define exactly one source"]) ++
  [SourceKind.configMap, .secret].flatMap fun kind =>
    (kind.source s).elim [] (selectorErrors (path.child kind.field []))

/-- Modelled from the spec: the CRD's faults on the target, with the texts of spec section 4.2;
an empty key is reported at its own path, as the validation tests have it. -/
def targetErrors (t : BundleTarget) : ErrorList :=
  let path := (newPath "spec" []).child "target" []
  let keyErrors (path : Path) : Option KeySelector → ErrorList
    | some k => if k.key != "" then [] else
        [invalid path "" (path.string ++ " in body should be at least 1 chars long")]
    | none => []
  let primary := [t.configMap, t.secret].filterMap id
  let additional := match t.additionalFormats with
    | some f => [f.jks, f.pkcs12].filterMap id
    | none => []
  (if t.configMap.isSome || t.secret.isSome then []
    else [invalid path "object" "must define at least one target configMap/secret"]) ++
  keyErrors (path.child "configMap" ["key"]) t.configMap ++
  keyErrors (path.child "secret" ["key"]) t.secret ++
  keyErrors (path.child "additionalFormats" ["jks", "key"]) (t.additionalFormats.bind (·.jks)) ++
  keyErrors (path.child "additionalFormats" ["pkcs12", "key"]) (t.additionalFormats.bind (·.pkcs12)) ++
  (if additional.all (fun k => primary.all (·.key != k.key)) then []
    else [invalid path "object" "additional format keys must be different from configMap/secret keys"]) ++
  match t.additionalFormats with
  | some ⟨some jks, some pkcs12⟩ =>
    if jks.key != pkcs12.key then [] else [invalid path "object" "additional format keys must be unique"]
  | _ => []

/-- Modelled from the spec: every fault of the CRD's rules, the sources' in order, then the
default-CA count's, then the target's. -/
def schemaErrors (b : Bundle) : ErrorList :=
  (b.spec.sources.enum.flatMap fun (i, s) => sourceErrors i s) ++
  (if b.spec.sources.countP (·.useDefaultCAs == some true) ≤ 1 then []
    else [invalid ((newPath "spec" []).child "sources" []) "array" "must request default CAs at most once"]) ++
  targetErrors b.spec.target

theorem sourceErrors_eq_nil (i : Nat) (s : BundleSource) : sourceErrors i s = [] ↔ sourceValid s := by
  rcases s with ⟨_ | _, _ | _, inLine, useDefaultCAs⟩ <;>
    simp [sourceErrors, sourceValid, SourceKind.source, keySelectorValid, and_assoc]

theorem targetErrors_eq_nil (t : BundleTarget) : targetErrors t = [] ↔ targetValid t := by
  rcases t with ⟨configMap, secret, _ | ⟨jks, pkcs12⟩, _⟩ <;>
    cases configMap <;> cases secret <;> try (cases jks <;> cases pkcs12)
  all_goals simp [targetErrors, targetValid, and_assoc]

theorem schemaValid_iff (b : Bundle) :
    schemaValid b ↔ (1 ≤ b.spec.sources.length ∧ b.spec.sources.length ≤ 100) ∧ schemaErrors b = [] := by
  have sources : (b.spec.sources.enum.flatMap fun (i, s) => sourceErrors i s) = [] ↔
      b.spec.sources.all sourceValid := by
    simp only [List.flatMap_eq_nil_iff, sourceErrors_eq_nil, List.all_eq_true]
    exact forall_mem_enum (P := fun s => sourceValid s = true)
  simp [schemaValid, schemaErrors, sources, targetErrors_eq_nil, and_assoc]

theorem key_empty_of_includeAllKeys {b : Bundle} (valid : schemaValid b)
    {source : BundleSource} (member : source ∈ b.spec.sources) {kind : SourceKind}
    {s : SourceObjectKeySelector} (reads : kind.source source = some s)
    (includesAll : s.includeAllKeys = true) : s.key = "" := by
  have sourceOk : sourceValid source := by
    simp only [schemaValid, Bool.and_eq_true, List.all_eq_true] at valid
    exact valid.1.1.2 source member
  have selectorOk : keySelectorValid s := by
    cases kind <;> simp_all [sourceValid, SourceKind.source]
  simp [keySelectorValid, exactlyOne, includesAll, List.count_cons] at selectorOk
  exact selectorOk.2

theorem target_key_ne_empty {b : Bundle} (valid : schemaValid b) {kind : SourceKind}
    {t : KeySelector} (target : kind.target b.spec.target = some t) : t.key ≠ "" := by
  have targetOk : targetValid b.spec.target := by
    simp only [schemaValid, Bool.and_eq_true] at valid
    exact valid.2
  cases kind <;> simp_all [targetValid, SourceKind.target]

theorem includeAllKeys_never_reported (selectorFaults : LabelSelector → List SelectorFault)
    (b : Bundle) (valid : schemaValid b) (kind : SourceKind) (i : Nat) (source : BundleSource)
    (s : SourceObjectKeySelector) (found : b.spec.sources[i]? = some source)
    (reads : kind.source source = some s) (includesAll : s.includeAllKeys = true)
    (name key : String) :
    sameSourceFault (newPath "spec" []) kind i name key ∉
      aggregateErrors (validate selectorFaults (.bundle b)) := by
  have empty := key_empty_of_includeAllKeys valid (List.mem_iff_getElem?.mpr ⟨i, found⟩) reads includesAll
  obtain ⟨pre, post, eq, sub, sub'⟩ := aggregate_split selectorFaults b
  rw [eq]
  intro member
  rcases List.mem_append.mp member with member | member
  · rcases List.mem_append.mp member with member | member
    · exact selectorError_ne_sameSourceFault selectorFaults (.inl (sub.subset member)) _ _ _ _ rfl
    · rcases List.mem_append.mp member with member | member <;>
      · obtain ⟨j, t, target, index, same⟩ := mem_expectedSameSourceFaults member
        obtain ⟨rfl, rfl⟩ := sameSourceFault_message_inj (congrArg Error.error same)
        have keys := target_key_ne_empty valid target
        simp [selfReferencingIndices, found, readsOwnTarget, target, reads, empty] at index
        exact keys index.2.2.symm
  · exact selectorError_ne_sameSourceFault selectorFaults (.inr (sub'.subset member)) _ _ _ _ rfl

def selfReadingBundle : Bundle :=
  validationBundle.withSources [⟨some ⟨validationBundle.name, none, "", true⟩, none, none, none⟩]

theorem includeAllKeys_never_reported_example :
    sameSourceFault (newPath "spec" []) .configMap 0 validationBundle.name "" ∉
      aggregateErrors (validate (fun _ => []) (.bundle selfReadingBundle)) :=
  includeAllKeys_never_reported _ selfReadingBundle (by decide) .configMap 0 _ _ rfl rfl rfl _ _

end TrustManager.Webhook
