import TrustManager.Admission

/-! Which errors reach the aggregate `validate` returns. Label-selector faults render under
`spec.sources[i]` or `spec.target`, a same-source fault under `spec.sources.[i]` (its
subscript is a child name), so `ToAggregate` can merge no same-source fault into
another error: each survives, in loop order. -/
namespace TrustManager.Webhook

open Field

theorem field_ne (kind : SourceKind) : kind.field ≠ "" := by cases kind <;> decide

def selectorPath (i : Nat) (kind : SourceKind) : Path :=
  ((((newPath "spec" []).child "sources" []).index i).child kind.field []).child "selector" []

def namespaceSelectorPath : Path := (newPath "spec" []).child "target" ["namespaceSelector"]

theorem selectorFault_data (i : Nat) (kind : SourceKind) (f : SelectorFault) :
    (f.at (selectorPath i kind)).error.data = "spec.sources[".data ++ (toString i).data ++
      ']' :: ("." ++ kind.field ++ ".selector" ++ renderFrom true f.suffix).data ++
      ':' :: ' ' :: (f.at (selectorPath i kind)).errorBody.data := by
  rw [error_data]
  simp [SelectorFault.at, selectorPath, Path.child, Path.index, newPath, Path.string, field_ne]

theorem namespaceFault_message (f : SelectorFault) :
    ∃ r, (f.at namespaceSelectorPath).error.data = "spec.target".data ++ r := by
  refine ⟨(".namespaceSelector" ++ renderFrom true f.suffix).data ++
    ':' :: ' ' :: (f.at namespaceSelectorPath).errorBody.data, ?_⟩
  rw [error_data]
  simp [SelectorFault.at, namespaceSelectorPath, Path.child, newPath, Path.string]

theorem sameSourceFault_message (kind : SourceKind) (i : Nat) (name key : String) :
    (sameSourceFault (newPath "spec" []) kind i name key).error.data =
      "spec.sources.[".data ++ (toString i).data ++ ']' :: ("." ++ kind.field ++
        renderFrom true [⟨name, ""⟩, ⟨key, ""⟩] ++
        ": Forbidden: cannot define the same source as target").data := by
  have subscript : "[" ++ toString i ++ "]" ≠ "" := by simp [String.ext_iff]
  simp [sameSourceFault, forbidden, Error.error, Error.errorBody, Path.child, newPath,
    Path.string, subscript, field_ne, ErrorType.string, String.isEmpty_iff]

/-- Two same-source faults with one message are for one kind and one index. -/
theorem sameSourceFault_message_inj {kind kind' : SourceKind} {i j : Nat} {name key name' key' : String}
    (same : (sameSourceFault (newPath "spec" []) kind i name key).error =
      (sameSourceFault (newPath "spec" []) kind' j name' key').error) :
    kind = kind' ∧ i = j := by
  have data := congrArg String.data same
  simp only [sameSourceFault_message, List.append_assoc, List.append_cancel_left_eq] at data
  obtain ⟨digits, rest⟩ := append_bracket_cancel (bracket_not_mem_repr i) (bracket_not_mem_repr j) data
  refine ⟨?_, repr_injective (String.ext digits)⟩
  cases kind <;> cases kind' <;> simp_all [SourceKind.field]

/-- Two selector faults with one message are for one source and one kind. -/
theorem selectorFault_message_inj {i j : Nat} {kind kind' : SourceKind} {f f' : SelectorFault}
    (same : (f.at (selectorPath i kind)).error = (f'.at (selectorPath j kind')).error) :
    i = j ∧ kind = kind' := by
  have data := congrArg String.data same
  simp only [selectorFault_data, List.append_assoc, List.append_cancel_left_eq] at data
  obtain ⟨digits, rest⟩ := append_bracket_cancel (bracket_not_mem_repr i) (bracket_not_mem_repr j) data
  refine ⟨repr_injective (String.ext digits), ?_⟩
  cases kind <;> cases kind' <;> simp_all [SourceKind.field]

theorem selectorFault_ne_sameSourceFault (i : Nat) (kind : SourceKind) (f : SelectorFault)
    (kind' : SourceKind) (j : Nat) (name key : String) :
    (f.at (selectorPath i kind)).error ≠ (sameSourceFault (newPath "spec" []) kind' j name key).error := by
  intro same
  have data := congrArg String.data same
  rw [selectorFault_data, sameSourceFault_message] at data
  simp at data

theorem namespaceFault_ne_sameSourceFault (f : SelectorFault) (kind : SourceKind) (j : Nat)
    (name key : String) :
    (f.at namespaceSelectorPath).error ≠ (sameSourceFault (newPath "spec" []) kind j name key).error := by
  obtain ⟨r, eq⟩ := namespaceFault_message f
  intro same
  have data := congrArg String.data same
  rw [eq, sameSourceFault_message] at data
  simp at data

theorem namespaceFault_ne_selectorFault (f f' : SelectorFault) (i : Nat) (kind : SourceKind) :
    (f.at namespaceSelectorPath).error ≠ (f'.at (selectorPath i kind)).error := by
  obtain ⟨r, eq⟩ := namespaceFault_message f
  intro same
  have data := congrArg String.data same
  rw [eq, selectorFault_data] at data
  simp at data

/-- Indices, ascending, of the sources that read the bundle's own `kind` target. -/
def selfReferencingIndices (kind : SourceKind) (b : Bundle) : List Nat :=
  (List.range b.spec.sources.length).filter fun i => b.spec.sources[i]?.any (readsOwnTarget kind b)

/-- One same-source fault for each of them, named by the bundle and its target key. -/
def expectedSameSourceFaults (kind : SourceKind) (b : Bundle) : ErrorList :=
  match kind.target b.spec.target with
  | none => []
  | some t => (selfReferencingIndices kind b).map fun i =>
      sameSourceFault (newPath "spec" []) kind i b.name t.key

theorem filterMap_enum (l : List α) (f : Nat × α → Option β) :
    l.enum.filterMap f = (List.range l.length).filterMap fun i => l[i]?.bind fun a => f (i, a) := by
  rw [← List.enum_map_fst, List.filterMap_map]
  refine List.filterMap_congr fun p member => ?_
  simp [List.mem_enum_iff_getElem?.mp member]

theorem filterMap_ite_some (l : List α) (p : α → Bool) (g : α → β) :
    l.filterMap (fun a => if p a then some (g a) else none) = (l.filter p).map g := by
  induction l with
  | nil => rfl
  | cons a l ih => by_cases h : p a <;> simp [List.filter_cons, h, ih]

theorem sameSourceErrors_eq_expected (kind : SourceKind) (b : Bundle) :
    sameSourceErrors (newPath "spec" []) kind b = expectedSameSourceFaults kind b := by
  unfold sameSourceErrors expectedSameSourceFaults selfReferencingIndices
  cases target : kind.target b.spec.target with
  | none => rfl
  | some t =>
    dsimp only
    rw [filterMap_enum, ← filterMap_ite_some]
    refine List.filterMap_congr fun i _ => ?_
    cases b.spec.sources[i]? with
    | none => rfl
    | some source =>
      cases read : kind.source source with
      | none => simp [read, readsOwnTarget, target]
      | some s => by_cases own : s.name = b.name ∧ s.key = t.key <;> simp_all [readsOwnTarget]

theorem mem_validateLabelSelector {e : Error} {selectorFaults : LabelSelector → List SelectorFault}
    {ps : Option LabelSelector} {fldPath : Path}
    (member : e ∈ validateLabelSelector selectorFaults ps fldPath) :
    ∃ s, ps = some s ∧ ∃ f ∈ selectorFaults s, e = f.at fldPath := by
  cases ps with
  | none => simp [validateLabelSelector] at member
  | some ps =>
    obtain ⟨f, fault, rfl⟩ := List.mem_map.mp member
    exact ⟨ps, rfl, f, fault, rfl⟩

theorem mem_sourcesSelectorErrors {e : Error} {selectorFaults : LabelSelector → List SelectorFault}
    {sources : List BundleSource}
    (member : e ∈ sourcesSelectorErrors selectorFaults (newPath "spec" []) sources) :
    ∃ (i : Nat) (source : BundleSource) (kind : SourceKind), sources[i]? = some source ∧
      ∃ o, kind.source source = some o ∧
        ∃ ps, o.selector = some ps ∧ ∃ f ∈ selectorFaults ps, e = f.at (selectorPath i kind) := by
  simp only [sourcesSelectorErrors, List.mem_flatMap, List.mem_append] at member
  obtain ⟨⟨i, source⟩, index, member⟩ := member
  have each (kind : SourceKind) (h : e ∈ sourceSelectorErrors selectorFaults
      (((newPath "spec" []).child "sources" []).index i) kind source) :
      ∃ o, kind.source source = some o ∧
        ∃ ps, o.selector = some ps ∧ ∃ f ∈ selectorFaults ps, e = f.at (selectorPath i kind) := by
    unfold sourceSelectorErrors at h
    split at h
    · simp at h
    · next o read => exact ⟨o, read, mem_validateLabelSelector h⟩
  rcases member with h | h <;> exact ⟨i, source, _, List.mem_enum_iff_getElem?.mp index, each _ h⟩

theorem mem_expectedSameSourceFaults {e : Error} {kind : SourceKind} {b : Bundle}
    (member : e ∈ expectedSameSourceFaults kind b) :
    ∃ j t, kind.target b.spec.target = some t ∧ j ∈ selfReferencingIndices kind b ∧
      e = sameSourceFault (newPath "spec" []) kind j b.name t.key := by
  unfold expectedSameSourceFaults at member
  split at member
  · simp at member
  · next t target =>
    obtain ⟨j, index, rfl⟩ := List.mem_map.mp member
    exact ⟨j, t, target, index, rfl⟩

theorem expectedSameSourceFaults_pairwise (kind : SourceKind) (b : Bundle) :
    (expectedSameSourceFaults kind b).Pairwise fun e e' => e.error ≠ e'.error := by
  unfold expectedSameSourceFaults
  split
  · exact List.Pairwise.nil
  · rw [List.pairwise_map]
    exact ((List.pairwise_lt_range _).filter _).imp fun lt same =>
      Nat.ne_of_lt lt (sameSourceFault_message_inj same).2

theorem sameSource_messages_nodup (b : Bundle) :
    ((expectedSameSourceFaults .configMap b ++ expectedSameSourceFaults .secret b).map
      Error.error).Nodup := by
  rw [List.Nodup, List.pairwise_map, List.pairwise_append]
  refine ⟨expectedSameSourceFaults_pairwise _ _, expectedSameSourceFaults_pairwise _ _,
    fun e member e' member' same => ?_⟩
  obtain ⟨i, t, -, -, rfl⟩ := mem_expectedSameSourceFaults member
  obtain ⟨j, t', -, -, rfl⟩ := mem_expectedSameSourceFaults member'
  exact absurd (sameSourceFault_message_inj same).1 (by decide)

section

variable (selectorFaults : LabelSelector → List SelectorFault)

theorem validateErrors_eq (b : Bundle) :
    validateErrors selectorFaults b =
      sourcesSelectorErrors selectorFaults (newPath "spec" []) b.spec.sources ++
        (expectedSameSourceFaults .configMap b ++ expectedSameSourceFaults .secret b) ++
        validateLabelSelector selectorFaults b.spec.target.namespaceSelector namespaceSelectorPath := by
  simp [validateErrors, sameSourceErrors_eq_expected, namespaceSelectorPath]

/-- `ToAggregate` keeps part of the selector faults, every same-source fault, and part of
the namespace-selector faults, in that order. -/
theorem aggregate_split (b : Bundle) :
    ∃ pre post, aggregateErrors (validate selectorFaults (.bundle b)) =
      pre ++ (expectedSameSourceFaults .configMap b ++ expectedSameSourceFaults .secret b) ++ post ∧
      pre.Sublist (sourcesSelectorErrors selectorFaults (newPath "spec" []) b.spec.sources) ∧
      post.Sublist (validateLabelSelector selectorFaults b.spec.target.namespaceSelector
        namespaceSelectorPath) := by
  rw [validate_bundle, aggregateErrors_toAggregate, validateErrors_eq, List.foldl_append,
    List.foldl_append]
  obtain ⟨pre, kept, sub⟩ := foldl_keepFirst_fst
    (sourcesSelectorErrors selectorFaults (newPath "spec" []) b.spec.sources) ([], [])
  have fresh : ∀ e ∈ expectedSameSourceFaults .configMap b ++ expectedSameSourceFaults .secret b,
      e.error ∉ ((sourcesSelectorErrors selectorFaults (newPath "spec" []) b.spec.sources).foldl
        keepFirst ([], [])).2 := by
    intro e member seen
    simp only [mem_foldl_keepFirst_snd, List.not_mem_nil, false_or, List.mem_map] at seen
    obtain ⟨a, memberA, same⟩ := seen
    obtain ⟨i, -, kind, -, -, -, -, -, f, -, rfl⟩ := mem_sourcesSelectorErrors memberA
    rcases List.mem_append.mp member with member | member <;>
    · obtain ⟨j, t, -, -, rfl⟩ := mem_expectedSameSourceFaults member
      exact selectorFault_ne_sameSourceFault i kind f _ j _ _ same
  rw [foldl_keepFirst_fresh _ _ fresh (sameSource_messages_nodup b)]
  obtain ⟨post, kept', sub'⟩ := foldl_keepFirst_fst
    (validateLabelSelector selectorFaults b.spec.target.namespaceSelector namespaceSelectorPath) _
  exact ⟨pre, post, by rw [kept', kept]; simp, sub, sub'⟩

/-- A fault the label-selector check reports is never a same-source fault. -/
theorem selectorError_ne_sameSourceFault {e : Error} {b : Bundle}
    (origin : e ∈ sourcesSelectorErrors selectorFaults (newPath "spec" []) b.spec.sources ∨
      e ∈ validateLabelSelector selectorFaults b.spec.target.namespaceSelector namespaceSelectorPath)
    (kind : SourceKind) (i : Nat) (name key : String) :
    e ≠ sameSourceFault (newPath "spec" []) kind i name key := fun same => by
  rcases origin with source | target
  · obtain ⟨j, -, kind', -, -, -, -, -, f, -, rfl⟩ := mem_sourcesSelectorErrors source
    exact selectorFault_ne_sameSourceFault j kind' f kind i name key (congrArg Error.error same)
  · obtain ⟨-, -, f, -, rfl⟩ := mem_validateLabelSelector target
    exact namespaceFault_ne_sameSourceFault f kind i name key (congrArg Error.error same)

/-- Each source reading its own bundle's target gets exactly one same-source fault in the
aggregate: in index order, the configMap loop's first, none lost to `ToAggregate`, and
no other error of the aggregate is a same-source fault. -/
theorem validate_reports_every_self_reference (b : Bundle) :
    ∃ pre post, aggregateErrors (validate selectorFaults (.bundle b)) =
      pre ++ (expectedSameSourceFaults .configMap b ++ expectedSameSourceFaults .secret b) ++ post ∧
      ∀ e ∈ pre ++ post,
        (e ∈ sourcesSelectorErrors selectorFaults (newPath "spec" []) b.spec.sources ∨
          e ∈ validateLabelSelector selectorFaults b.spec.target.namespaceSelector
            namespaceSelectorPath) ∧
        ∀ kind i name key, e ≠ sameSourceFault (newPath "spec" []) kind i name key := by
  obtain ⟨pre, post, eq, sub, sub'⟩ := aggregate_split selectorFaults b
  refine ⟨pre, post, eq, fun e member => ?_⟩
  have origin := (List.mem_append.mp member).imp (fun m => sub.subset m) (fun m => sub'.subset m)
  exact ⟨origin, selectorError_ne_sameSourceFault selectorFaults origin⟩

/-- The aggregate repeats no message, and every fault `validate` finds has its message
there: `ToAggregate` drops only exact repeats. -/
theorem validate_aggregate_messages (b : Bundle) :
    ((aggregateErrors (validate selectorFaults (.bundle b))).map Error.error).Nodup ∧
      ∀ e ∈ validateErrors selectorFaults b,
        e.error ∈ (aggregateErrors (validate selectorFaults (.bundle b))).map Error.error := by
  rw [validate_bundle, aggregateErrors_toAggregate]
  exact toAggregate_messages _

/-- `validate` returns what it finds, each error kept unless an earlier one has its message. -/
theorem validate_aggregate_firstOfMessage (b : Bundle) :
    aggregateErrors (validate selectorFaults (.bundle b)) =
      firstOfMessage (validateErrors selectorFaults b) := by
  rw [validate_bundle, aggregateErrors_toAggregate, foldl_keepFirst_firstOfMessage]

theorem selectorFault_mem_validateErrors {b : Bundle} {i : Nat} {source : BundleSource}
    {kind : SourceKind} {o : SourceObjectKeySelector} {ps : LabelSelector} {f : SelectorFault}
    (index : b.spec.sources[i]? = some source) (read : kind.source source = some o)
    (selected : o.selector = some ps) (fault : f ∈ selectorFaults ps) :
    f.at (selectorPath i kind) ∈ validateErrors selectorFaults b := by
  have inner : f.at (selectorPath i kind) ∈ sourceSelectorErrors selectorFaults
      (((newPath "spec" []).child "sources" []).index i) kind source := by
    simp only [sourceSelectorErrors, read, validateLabelSelector, selected]
    exact List.mem_map_of_mem _ fault
  rw [validateErrors_eq]
  refine List.mem_append_left _ (List.mem_append_left _ ?_)
  simp only [sourcesSelectorErrors, List.mem_flatMap, List.mem_append]
  exact ⟨(i, source), List.mem_enum_iff_getElem?.mpr index, by cases kind <;> simp [inner]⟩

theorem namespaceFault_mem_validateErrors {b : Bundle} {ps : LabelSelector} {f : SelectorFault}
    (selected : b.spec.target.namespaceSelector = some ps) (fault : f ∈ selectorFaults ps) :
    f.at namespaceSelectorPath ∈ validateErrors selectorFaults b := by
  rw [validateErrors_eq, selected]
  exact List.mem_append_right _ (List.mem_map_of_mem _ fault)

theorem represented_in_aggregate (b : Bundle) {e : Error} (found : e ∈ validateErrors selectorFaults b) :
    ∃ e' ∈ aggregateErrors (validate selectorFaults (.bundle b)),
      e' ∈ validateErrors selectorFaults b ∧ e'.error = e.error := by
  rw [validate_bundle, aggregateErrors_toAggregate]
  obtain ⟨list, eq, sub⟩ := foldl_keepFirst_fst (validateErrors selectorFaults b) ([], [])
  obtain ⟨e', kept, same⟩ := List.mem_map.mp ((toAggregate_messages _).2 e found)
  rw [eq, List.nil_append] at kept ⊢
  exact ⟨e', kept, sub.subset kept, same⟩

/-- An error found with the message of a fault of source `i`'s `kind` selector is a fault of
that same selector. -/
theorem sourceSelector_origin {b : Bundle} {e : Error} (found : e ∈ validateErrors selectorFaults b)
    {i : Nat} {source : BundleSource} {kind : SourceKind} {o : SourceObjectKeySelector}
    {ps : LabelSelector} {f : SelectorFault} (index : b.spec.sources[i]? = some source)
    (read : kind.source source = some o) (selected : o.selector = some ps)
    (same : e.error = (f.at (selectorPath i kind)).error) :
    ∃ f' ∈ selectorFaults ps, e = f'.at (selectorPath i kind) := by
  rw [validateErrors_eq] at found
  rcases List.mem_append.mp found with found | inTarget
  · rcases List.mem_append.mp found with inSources | inSame
    · obtain ⟨j, source', kind', index', o', read', ps', selected', f', fault, rfl⟩ :=
        mem_sourcesSelectorErrors inSources
      obtain ⟨rfl, rfl⟩ := selectorFault_message_inj same
      obtain rfl := Option.some.inj (index.symm.trans index')
      obtain rfl := Option.some.inj (read.symm.trans read')
      obtain rfl := Option.some.inj (selected.symm.trans selected')
      exact ⟨f', fault, rfl⟩
    · rcases List.mem_append.mp inSame with inSame | inSame <;>
      · obtain ⟨j, t, -, -, rfl⟩ := mem_expectedSameSourceFaults inSame
        exact absurd same.symm (selectorFault_ne_sameSourceFault i kind f _ j _ _)
  · obtain ⟨-, -, g, -, rfl⟩ := mem_validateLabelSelector inTarget
    exact absurd same (namespaceFault_ne_selectorFault g f i kind)

theorem namespaceSelector_origin {b : Bundle} {e : Error} (found : e ∈ validateErrors selectorFaults b)
    {ps : LabelSelector} {f : SelectorFault} (selected : b.spec.target.namespaceSelector = some ps)
    (same : e.error = (f.at namespaceSelectorPath).error) :
    ∃ f' ∈ selectorFaults ps, e = f'.at namespaceSelectorPath := by
  rw [validateErrors_eq] at found
  rcases List.mem_append.mp found with found | inTarget
  · rcases List.mem_append.mp found with inSources | inSame
    · obtain ⟨j, -, kind, -, -, -, -, -, f', -, rfl⟩ := mem_sourcesSelectorErrors inSources
      exact absurd same.symm (namespaceFault_ne_selectorFault f f' j kind)
    · rcases List.mem_append.mp inSame with inSame | inSame <;>
      · obtain ⟨j, t, -, -, rfl⟩ := mem_expectedSameSourceFaults inSame
        exact absurd same.symm (namespaceFault_ne_sameSourceFault f _ j _ _)
  · obtain ⟨ps', selected', f', fault, rfl⟩ := mem_validateLabelSelector inTarget
    obtain rfl := Option.some.inj (selected.symm.trans selected')
    exact ⟨f', fault, rfl⟩

/-- `ToAggregate` merges no fault into another selector's: each fault the label-selector
check finds, in a source's selector or in the namespace selector, is reported by a fault of
that same selector with the same message, filed under that selector's path. -/
theorem validate_reports_every_selector_fault (b : Bundle) :
    (∀ i source kind o ps, b.spec.sources[i]? = some source → kind.source source = some o →
      o.selector = some ps → ∀ f ∈ selectorFaults ps, ∃ f' ∈ selectorFaults ps,
        f'.at (selectorPath i kind) ∈ aggregateErrors (validate selectorFaults (.bundle b)) ∧
        (f'.at (selectorPath i kind)).error = (f.at (selectorPath i kind)).error) ∧
    (∀ ps, b.spec.target.namespaceSelector = some ps → ∀ f ∈ selectorFaults ps,
      ∃ f' ∈ selectorFaults ps,
        f'.at namespaceSelectorPath ∈ aggregateErrors (validate selectorFaults (.bundle b)) ∧
        (f'.at namespaceSelectorPath).error = (f.at namespaceSelectorPath).error) := by
  constructor
  · intro i source kind o ps index read selected f fault
    obtain ⟨e, kept, found, same⟩ := represented_in_aggregate selectorFaults b
      (selectorFault_mem_validateErrors selectorFaults index read selected fault)
    obtain ⟨f', fault', rfl⟩ := sourceSelector_origin selectorFaults found index read selected same
    exact ⟨f', fault', kept, same⟩
  · intro ps selected f fault
    obtain ⟨e, kept, found, same⟩ := represented_in_aggregate selectorFaults b
      (namespaceFault_mem_validateErrors selectorFaults selected fault)
    obtain ⟨f', fault', rfl⟩ := namespaceSelector_origin selectorFaults found selected same
    exact ⟨f', fault', kept, same⟩

end

end TrustManager.Webhook
