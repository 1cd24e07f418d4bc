import TrustManager.Webhook

/-! One bundle's stored versions between its create and its delete. The API server
replaces the stored version by a proposed one only when `ValidateUpdate` admits the
proposal against it; a rejected proposal leaves the stored version in place. -/
namespace TrustManager.Webhook

open Field

/-- Each target the older version sets, the later one sets too. -/
def KeepsTargets (older later : Bundle) : Prop :=
  (older.spec.target.configMap.isSome → later.spec.target.configMap.isSome) ∧
    (older.spec.target.secret.isSome → later.spec.target.secret.isSome)

theorem KeepsTargets.trans {a b c : Bundle} (first : KeepsTargets a b) (second : KeepsTargets b c) :
    KeepsTargets a c :=
  ⟨second.1 ∘ first.1, second.2 ∘ first.2⟩

section

variable (selectorFaults : LabelSelector → List SelectorFault)

/-- The version stored after one update request. -/
def store (stored proposed : Bundle) : Bundle :=
  if admits (validateUpdate selectorFaults (.bundle stored) (.bundle proposed)) then proposed else stored

/-- The stored versions: the created one, then one after each update request. -/
def history (created : Bundle) (proposals : List Bundle) : List Bundle :=
  proposals.scanl (store selectorFaults) created

theorem keepsTargets_of_admits_update {old new : Bundle}
    (admitted : admits (validateUpdate selectorFaults (.bundle old) (.bundle new))) :
    KeepsTargets old new := by
  simp only [validateUpdate] at admitted
  split_ifs at admitted with removed removed' <;>
    simp_all [admits, toAggregate_of_ne_nil, KeepsTargets, ← Option.isSome_iff_ne_none]

theorem admits_create_of_admits_update {old new : Bundle}
    (admitted : admits (validateUpdate selectorFaults (.bundle old) (.bundle new))) :
    admits (validateCreate selectorFaults (.bundle new)) := by
  rwa [validateUpdate_of_kept selectorFaults old new (keepsTargets_of_admits_update selectorFaults admitted).1
    (keepsTargets_of_admits_update selectorFaults admitted).2] at admitted

theorem store_admitted (stored proposed : Bundle)
    (admitted : admits (validateCreate selectorFaults (.bundle stored))) :
    admits (validateCreate selectorFaults (.bundle (store selectorFaults stored proposed))) := by
  unfold store
  split
  · next accepted => exact admits_create_of_admits_update selectorFaults accepted
  · exact admitted

theorem store_keepsTargets (stored proposed : Bundle) :
    KeepsTargets stored (store selectorFaults stored proposed) := by
  unfold store
  split
  · next accepted => exact keepsTargets_of_admits_update selectorFaults accepted
  · exact ⟨id, id⟩

/-- A property every update request preserves holds of every stored version. -/
theorem history_forall {P : Bundle → Prop} (step : ∀ stored proposed, P stored →
    P (store selectorFaults stored proposed)) (created : Bundle) (initial : P created)
    (proposals : List Bundle) : ∀ b ∈ history selectorFaults created proposals, P b := by
  induction proposals generalizing created with
  | nil => simpa [history] using initial
  | cons proposed proposals ih =>
    simp only [history, List.scanl_cons, List.singleton_append, List.mem_cons, forall_eq_or_imp]
    exact ⟨initial, ih _ (step _ _ initial)⟩

theorem history_getLast? (created : Bundle) (proposals : List Bundle) :
    (history selectorFaults created proposals).getLast? =
      some (proposals.foldl (store selectorFaults) created) := by
  induction proposals generalizing created with
  | nil => rfl
  | cons proposed proposals ih =>
    simp only [history, List.scanl_cons, List.singleton_append, List.foldl_cons] at ih ⊢
    rw [List.getLast?_cons, ih]
    rfl

theorem foldl_store_keepsTargets (created : Bundle) (proposals : List Bundle) :
    KeepsTargets created (proposals.foldl (store selectorFaults) created) := by
  induction proposals generalizing created with
  | nil => exact ⟨id, id⟩
  | cons proposed proposals ih =>
    exact (store_keepsTargets selectorFaults created proposed).trans (ih _)

/-- Every stored version is one `ValidateCreate` admits, and a target set in one stored
version is set in every later one. -/
theorem history_admitted_targets_kept (created : Bundle) (proposals : List Bundle)
    (admitted : admits (validateCreate selectorFaults (.bundle created))) :
    (∀ b ∈ history selectorFaults created proposals,
      admits (validateCreate selectorFaults (.bundle b))) ∧
    (history selectorFaults created proposals).Pairwise fun older later =>
      (older.spec.target.configMap.isSome → later.spec.target.configMap.isSome) ∧
      (older.spec.target.secret.isSome → later.spec.target.secret.isSome) := by
  refine ⟨history_forall selectorFaults (store_admitted selectorFaults) created admitted proposals, ?_⟩
  induction proposals generalizing created with
  | nil => simp [history]
  | cons proposed proposals ih =>
    simp only [history, List.scanl_cons, List.singleton_append, List.pairwise_cons]
    exact ⟨history_forall selectorFaults
        (fun stored p kept => kept.trans (store_keepsTargets selectorFaults stored p))
        _ (store_keepsTargets selectorFaults created proposed) proposals,
      ih _ (store_admitted selectorFaults created proposed admitted)⟩

end

def secretAdded : Bundle := validationBundle.withTarget ⟨some ⟨"ca-bundle.crt"⟩, some ⟨"ca.crt"⟩, none, none⟩

def configMapDropped : Bundle := validationBundle.withTarget ⟨none, some ⟨"ca.crt"⟩, none, none⟩

theorem validationBundle_history :
    admits (validateCreate (fun _ => []) (.bundle validationBundle)) ∧
    history (fun _ => []) validationBundle [secretAdded, configMapDropped] =
      [validationBundle, secretAdded, secretAdded] ∧
    ((∀ b ∈ history (fun _ => []) validationBundle [secretAdded, configMapDropped],
        admits (validateCreate (fun _ => []) (.bundle b))) ∧
      (history (fun _ => []) validationBundle [secretAdded, configMapDropped]).Pairwise
        fun older later =>
          (older.spec.target.configMap.isSome → later.spec.target.configMap.isSome) ∧
          (older.spec.target.secret.isSome → later.spec.target.secret.isSome)) :=
  ⟨by decide, by decide, history_admitted_targets_kept _ _ _ (by decide)⟩

end TrustManager.Webhook
