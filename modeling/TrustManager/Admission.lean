import TrustManager.Webhook

/-! What `validate` decides, said without its loops: a bundle is admitted exactly when
its namespace selector passes and every source passes on its own. The verdict on a
bundle therefore depends on its source list only as a set. -/
namespace TrustManager.Webhook

open Field

/-- The source names the object and key the bundle's own `kind` target writes. -/
def readsOwnTarget (kind : SourceKind) (b : Bundle) (source : BundleSource) : Bool :=
  match kind.target b.spec.target, kind.source source with
  | some t, some s => s.name == b.name && s.key == t.key
  | _, _ => false

@[simp] theorem readsOwnTarget_withSources (kind : SourceKind) (b : Bundle)
    (sources : List BundleSource) (source : BundleSource) :
    readsOwnTarget kind (b.withSources sources) source = readsOwnTarget kind b source := rfl

theorem forall_kind {P : SourceKind → Prop} : (∀ kind, P kind) ↔ P .configMap ∧ P .secret :=
  ⟨fun h => ⟨h _, h _⟩, fun h kind => by cases kind <;> simp [h]⟩

theorem forall_mem_enum {l : List α} {P : α → Prop} :
    (∀ p ∈ l.enum, P p.2) ↔ ∀ a ∈ l, P a := by
  constructor
  · intro h a member
    obtain ⟨i, found⟩ := List.mem_iff_getElem?.mp member
    exact h (i, a) (List.mk_mem_enum_iff_getElem?.mpr found)
  · exact fun h p member => h p.2 (List.snd_mem_of_mem_enum member)

section

variable (selectorFaults : LabelSelector → List SelectorFault)

/-- The label-selector check finds nothing (a nil selector included). -/
def selectorClean (ps : Option LabelSelector) : Bool :=
  ps.all fun s => (selectorFaults s).isEmpty

/-- The selectors of the source's configMap and secret pass. -/
def SelectorsClean (source : BundleSource) : Prop :=
  ∀ (kind : SourceKind) (o : SourceObjectKeySelector), kind.source source = some o →
    selectorClean selectorFaults o.selector

/-- What `validate` asks of one source. -/
structure SourceAdmissible (b : Bundle) (source : BundleSource) : Prop where
  selectors : SelectorsClean selectorFaults source
  noSelfRead : ∀ kind : SourceKind, readsOwnTarget kind b source = false

/-- What `validate` asks of a bundle. -/
structure Admissible (b : Bundle) : Prop where
  namespaceSelector : selectorClean selectorFaults b.spec.target.namespaceSelector
  sources : ∀ s ∈ b.spec.sources, SourceAdmissible selectorFaults b s

theorem validateLabelSelector_eq_nil (ps : Option LabelSelector) (fldPath : Path) :
    validateLabelSelector selectorFaults ps fldPath = [] ↔ selectorClean selectorFaults ps := by
  cases ps <;> simp [validateLabelSelector, selectorClean]

theorem sourceSelectorErrors_eq_nil (path : Path) (kind : SourceKind) (source : BundleSource) :
    sourceSelectorErrors selectorFaults path kind source = [] ↔
      ∀ o, kind.source source = some o → selectorClean selectorFaults o.selector := by
  unfold sourceSelectorErrors
  split <;> simp_all [validateLabelSelector_eq_nil]

theorem sourcesSelectorErrors_eq_nil (path : Path) (sources : List BundleSource) :
    sourcesSelectorErrors selectorFaults path sources = [] ↔
      ∀ s ∈ sources, SelectorsClean selectorFaults s := by
  have each (i : Nat) (s : BundleSource) :
      sourceSelectorErrors selectorFaults ((path.child "sources" []).index i) .configMap s ++
        sourceSelectorErrors selectorFaults ((path.child "sources" []).index i) .secret s = [] ↔
      SelectorsClean selectorFaults s := by
    simp only [List.append_eq_nil, sourceSelectorErrors_eq_nil, SelectorsClean, forall_kind]
  simp only [sourcesSelectorErrors, List.flatMap_eq_nil_iff, each]
  exact forall_mem_enum

theorem sameSourceErrors_eq_nil (path : Path) (kind : SourceKind) (b : Bundle) :
    sameSourceErrors path kind b = [] ↔ ∀ s ∈ b.spec.sources, readsOwnTarget kind b s = false := by
  unfold sameSourceErrors
  cases target : kind.target b.spec.target with
  | none => simp [readsOwnTarget, target]
  | some t =>
    rw [List.filterMap_eq_nil_iff, ← forall_mem_enum (P := fun s => readsOwnTarget kind b s = false)]
    refine forall₂_congr fun ⟨i, s⟩ _ => ?_
    cases read : kind.source s <;> simp [readsOwnTarget, target, read]

theorem validateErrors_eq_nil (b : Bundle) :
    validateErrors selectorFaults b = [] ↔ Admissible selectorFaults b := by
  simp only [validateErrors, List.append_eq_nil, sourcesSelectorErrors_eq_nil,
    sameSourceErrors_eq_nil, validateLabelSelector_eq_nil]
  constructor
  · rintro ⟨⟨⟨selectors, configMap⟩, secret⟩, ns⟩
    exact ⟨ns, fun s member =>
      ⟨selectors s member, forall_kind.mpr ⟨configMap s member, secret s member⟩⟩⟩
  · rintro ⟨ns, sources⟩
    exact ⟨⟨⟨fun s m => (sources s m).selectors, fun s m => (sources s m).noSelfRead _⟩,
      fun s m => (sources s m).noSelfRead _⟩, ns⟩

theorem admits_iff_validateErrors_nil (b : Bundle) :
    admits (validate selectorFaults (.bundle b)) ↔ validateErrors selectorFaults b = [] := by
  simp [admits, validate, toAggregate_eq_none]

/-- The executable check admits exactly the admissible bundles. -/
theorem validate_admits_iff (b : Bundle) :
    admits (validate selectorFaults (.bundle b)) ↔ Admissible selectorFaults b :=
  (admits_iff_validateErrors_nil selectorFaults b).trans (validateErrors_eq_nil selectorFaults b)

theorem admissible_withSources (b : Bundle) (sources : List BundleSource) :
    Admissible selectorFaults (b.withSources sources) ↔
      selectorClean selectorFaults b.spec.target.namespaceSelector ∧
        ∀ s ∈ sources, SourceAdmissible selectorFaults b s := by
  have same (s : BundleSource) :
      SourceAdmissible selectorFaults (b.withSources sources) s ↔ SourceAdmissible selectorFaults b s :=
    ⟨fun ⟨h, h'⟩ => ⟨h, by simpa using h'⟩, fun ⟨h, h'⟩ => ⟨h, by simpa using h'⟩⟩
  exact ⟨fun ⟨ns, h⟩ => ⟨ns, fun s m => (same s).mp (h s m)⟩,
    fun ⟨ns, h⟩ => ⟨ns, fun s m => (same s).mpr (h s m)⟩⟩

theorem admits_withSources_iff (b : Bundle) (sources : List BundleSource) :
    admits (validate selectorFaults (.bundle (b.withSources sources))) ↔
      selectorClean selectorFaults b.spec.target.namespaceSelector ∧
        ∀ s ∈ sources, SourceAdmissible selectorFaults b s :=
  ((admits_iff_validateErrors_nil selectorFaults _).trans (validateErrors_eq_nil selectorFaults _)).trans
    (admissible_withSources selectorFaults b sources)

/-- `validate` judges each source on its own: a bundle is rejected exactly when one of its
sources alone is, so neither order nor repetition matters, and dropping sources keeps
an admitted bundle admitted. -/
theorem validate_rejects_iff_single_source_rejects (b : Bundle) (nonempty : b.spec.sources ≠ []) :
    (admits (validate selectorFaults (.bundle b)) = false ↔
      ∃ s ∈ b.spec.sources, admits (validate selectorFaults (.bundle (b.withSources [s]))) = false) ∧
    (∀ sources : List BundleSource, (∀ s, s ∈ sources ↔ s ∈ b.spec.sources) →
      admits (validate selectorFaults (.bundle (b.withSources sources))) =
        admits (validate selectorFaults (.bundle b))) ∧
    (∀ sources ⊆ b.spec.sources, admits (validate selectorFaults (.bundle b)) →
      admits (validate selectorFaults (.bundle (b.withSources sources)))) := by
  have whole := admits_withSources_iff selectorFaults b b.spec.sources
  rw [Bundle.withSources_self] at whole
  refine ⟨?_, fun sources same => ?_, fun sources sub admitted => ?_⟩
  · obtain ⟨s₀, m₀⟩ := List.exists_mem_of_ne_nil _ nonempty
    simp only [Bool.eq_false_iff, ne_eq, whole, admits_withSources_iff, List.mem_singleton,
      forall_eq]
    by_cases ns : selectorClean selectorFaults b.spec.target.namespaceSelector
    · simp [ns]
    · simpa [ns] using ⟨s₀, m₀⟩
  · rw [Bool.eq_iff_iff, whole, admits_withSources_iff]
    simp only [same]
  · rw [whole] at admitted
    exact (admits_withSources_iff selectorFaults b sources).mpr
      ⟨admitted.1, fun s m => admitted.2 s (sub m)⟩

end

def selfReferencingBundle : Bundle := validationBundle.withSources
  [⟨none, none, some "x", none⟩, ⟨some ⟨validationBundle.name, none, "ca-bundle.crt", false⟩, none, none, none⟩]

theorem selfReferencingBundle_single_source :
    admits (validate (fun _ => []) (.bundle selfReferencingBundle)) = false ∧
    selfReferencingBundle.spec.sources ≠ [] ∧
    ((admits (validate (fun _ => []) (.bundle selfReferencingBundle)) = false ↔
      ∃ s ∈ selfReferencingBundle.spec.sources,
        admits (validate (fun _ => []) (.bundle (selfReferencingBundle.withSources [s]))) = false) ∧
    (∀ sources : List BundleSource, (∀ s, s ∈ sources ↔ s ∈ selfReferencingBundle.spec.sources) →
      admits (validate (fun _ => []) (.bundle (selfReferencingBundle.withSources sources))) =
        admits (validate (fun _ => []) (.bundle selfReferencingBundle))) ∧
    (∀ sources ⊆ selfReferencingBundle.spec.sources,
      admits (validate (fun _ => []) (.bundle selfReferencingBundle)) →
      admits (validate (fun _ => []) (.bundle (selfReferencingBundle.withSources sources))))) :=
  ⟨by decide, by decide, validate_rejects_iff_single_source_rejects _ _ (by decide)⟩

end TrustManager.Webhook
