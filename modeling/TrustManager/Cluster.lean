import TrustManager.Lifecycle
import TrustManager.Schema

/-! The API server's store of Bundles, serving create, update and delete requests in any
order. Bundles are cluster-scoped, so a name is the whole key. A create or an update is
checked against the CRD schema, then by the webhook; only a request both admit is
written, and a refused request leaves the store as it was. -/
namespace TrustManager.Webhook

open Field

/-- A request on the Bundle resource. -/
inductive Request
  | create (bundle : Bundle)
  | update (bundle : Bundle)
  | delete (name : String)
  deriving DecidableEq, Repr

/-- Why the API server refuses a request. -/
inductive Refusal
  | invalid
  | denied (err : GoError)
  | alreadyExists
  | notFound
  deriving DecidableEq, Repr

def lookup (cluster : List Bundle) (name : String) : Option Bundle :=
  cluster.find? (·.name == name)

/-- The webhook's answer, as the API server enforces it. -/
def enforce (result : Warnings × Option GoError) : Except Refusal Unit :=
  match result.2 with
  | none => .ok ()
  | some err => .error (.denied err)

@[simp] theorem throw_eq_error (e : Refusal) : (throw e : Except Refusal α) = .error e := rfl

@[simp] theorem pure_eq_ok (a : α) : (pure a : Except Refusal α) = .ok a := rfl

@[simp] theorem error_bind (e : Refusal) (f : α → Except Refusal β) : (Except.error e >>= f) = .error e := rfl

@[simp] theorem ok_bind (a : α) (f : α → Except Refusal β) : (Except.ok a >>= f) = f a := rfl

section

variable (selectorFaults : LabelSelector → List SelectorFault)

/-- One request: the schema, then the webhook (`ValidateUpdate` against the stored version),
then the write. -/
def serve (cluster : List Bundle) : Request → Except Refusal (List Bundle)
  | .create b => do
    unless schemaValid b do throw .invalid
    enforce (validateCreate selectorFaults (.bundle b))
    if (lookup cluster b.name).isSome then throw .alreadyExists
    pure (cluster ++ [b])
  | .update b => do
    let some old := lookup cluster b.name | throw .notFound
    unless schemaValid b do throw .invalid
    enforce (validateUpdate selectorFaults (.bundle old) (.bundle b))
    pure (cluster.map fun x => if x.name = b.name then b else x)
  | .delete name => do
    let some old := lookup cluster name | throw .notFound
    enforce (validateDelete (.bundle old))
    pure (cluster.filter (·.name != name))

/-- The store after one request, refused or not. -/
def step (cluster : List Bundle) (request : Request) : List Bundle :=
  match serve selectorFaults cluster request with
  | .ok cluster' => cluster'
  | .error _ => cluster

def run (cluster : List Bundle) (requests : List Request) : List Bundle :=
  requests.foldl (step selectorFaults) cluster

theorem serve_create_ok {cluster cluster' : List Bundle} {b : Bundle} :
    serve selectorFaults cluster (.create b) = .ok cluster' ↔
      schemaValid b ∧ admits (validateCreate selectorFaults (.bundle b)) ∧
        lookup cluster b.name = none ∧ cluster ++ [b] = cluster' := by
  simp only [serve]
  cases schemaValid b <;> cases verdict : (validateCreate selectorFaults (.bundle b)).2 <;>
    cases lookup cluster b.name <;> simp [enforce, admits, verdict]

theorem serve_update_ok {cluster cluster' : List Bundle} {b : Bundle} :
    serve selectorFaults cluster (.update b) = .ok cluster' ↔
      ∃ old, lookup cluster b.name = some old ∧ schemaValid b ∧
        admits (validateUpdate selectorFaults (.bundle old) (.bundle b)) ∧
        (cluster.map fun x => if x.name = b.name then b else x) = cluster' := by
  simp only [serve]
  cases lookup cluster b.name with
  | none => simp
  | some old =>
    cases schemaValid b <;> cases verdict : (validateUpdate selectorFaults (.bundle old) (.bundle b)).2 <;>
      simp [enforce, admits, verdict]

theorem serve_delete_ok {cluster cluster' : List Bundle} {name : String} :
    serve selectorFaults cluster (.delete name) = .ok cluster' ↔
      (lookup cluster name).isSome ∧ cluster.filter (·.name != name) = cluster' := by
  simp only [serve]
  cases lookup cluster name <;> simp [enforce, validateDelete]

theorem lookup_append {cluster : List Bundle} {b : Bundle} (fresh : lookup cluster b.name = none)
    (name : String) :
    lookup (cluster ++ [b]) name = if b.name = name then some b else lookup cluster name := by
  unfold lookup at fresh ⊢
  split
  · next same => simp [← same, fresh]
  · next other => simp [other]

theorem lookup_replace (cluster : List Bundle) (b : Bundle) (name : String) :
    lookup (cluster.map fun x => if x.name = b.name then b else x) name =
      if b.name = name then (lookup cluster name).map (fun _ => b) else lookup cluster name := by
  unfold lookup
  have renamed : ((·.name == name) ∘ fun x => if x.name = b.name then b else x) = (·.name == name) := by
    funext x
    by_cases same : x.name = b.name <;> simp [same]
  rw [List.find?_map, renamed]
  cases found : cluster.find? (·.name == name) with
  | none => simp
  | some x =>
    have named : x.name = name := by simpa using List.find?_some found
    by_cases same : b.name = name <;> simp [same, named]
    exact fun h => absurd h.symm same

theorem lookup_filter (cluster : List Bundle) (deleted name : String) :
    lookup (cluster.filter (·.name != deleted)) name =
      if deleted = name then none else lookup cluster name := by
  unfold lookup
  rw [List.find?_filter]
  split
  · next same => simp [List.find?_eq_none, same]
  · next other =>
    congr 1
    funext x
    by_cases named : x.name = name <;> simp [named, Ne.symm other]

/-- The updates of `name` that pass the schema: what the lifecycle of that Bundle sees of a
request. -/
def Request.proposal (name : String) : Request → Option Bundle
  | .update b => if b.name = name ∧ schemaValid b then some b else none
  | _ => none

/-- One request that does not delete the Bundle moves its stored version by one step of
its lifecycle: a `store` of the proposal for a schema-valid update of it, nothing else. -/
theorem lookup_step {cluster : List Bundle} {name : String} {current : Bundle}
    (stored : lookup cluster name = some current) (request : Request)
    (kept : request ≠ .delete name) :
    lookup (step selectorFaults cluster request) name =
      some ((request.proposal name).elim current (store selectorFaults current)) := by
  unfold step
  cases request with
  | create b =>
    split
    · next served =>
      obtain ⟨-, -, fresh, rfl⟩ := (serve_create_ok selectorFaults).mp served
      have other : b.name ≠ name := fun same => by rw [same, stored] at fresh; cases fresh
      simp [lookup_append fresh, other, stored, Request.proposal]
    · simpa [Request.proposal] using stored
  | update b =>
    split
    · next served =>
      obtain ⟨old, found, valid, admitted, rfl⟩ := (serve_update_ok selectorFaults).mp served
      rw [lookup_replace]
      by_cases same : b.name = name
      · subst same
        obtain rfl := Option.some.inj (found.symm.trans stored)
        simp [Request.proposal, store, valid, admitted, stored]
      · simp [same, stored, Request.proposal]
    · next refused =>
      by_cases own : b.name = name ∧ schemaValid b
      · have rejected : ¬ admits (validateUpdate selectorFaults (.bundle current) (.bundle b)) :=
          fun admitted => by
            have served := (serve_update_ok selectorFaults).mpr
              ⟨current, own.1 ▸ stored, own.2, admitted, rfl⟩
            rw [refused] at served
            cases served
        simp [Request.proposal, own, store, rejected, stored]
      · simp [Request.proposal, own, stored]
  | delete deleted =>
    have other : deleted ≠ name := fun same => kept (same ▸ rfl)
    split
    · next served =>
      obtain ⟨-, rfl⟩ := (serve_delete_ok selectorFaults).mp served
      simp [lookup_filter, other, stored, Request.proposal]
    · simpa [Request.proposal] using stored

theorem lookup_run {cluster : List Bundle} {name : String} {current : Bundle}
    (stored : lookup cluster name = some current) (requests : List Request)
    (kept : Request.delete name ∉ requests) :
    lookup (run selectorFaults cluster requests) name =
      some ((requests.filterMap (Request.proposal name)).foldl (store selectorFaults) current) := by
  induction requests generalizing cluster current with
  | nil => exact stored
  | cons request requests ih =>
    rw [List.mem_cons, not_or] at kept
    have next := lookup_step selectorFaults stored request (Ne.symm kept.1)
    simp only [run, List.foldl_cons] at ih ⊢
    rw [ih next kept.2, List.filterMap_cons]
    cases request.proposal name <;> rfl

/-- Among requests on any other Bundles, a stored Bundle that no request deletes moves
exactly along the lifecycle of its schema-valid updates: its stored version is the last of
that history, and keeps every target the Bundle had. -/
theorem run_refines_history (cluster : List Bundle) (b : Bundle) (requests : List Request)
    (stored : lookup cluster b.name = some b) (kept : Request.delete b.name ∉ requests) :
    lookup (run selectorFaults cluster requests) b.name =
        (history selectorFaults b (requests.filterMap (Request.proposal b.name))).getLast? ∧
      ∃ current, lookup (run selectorFaults cluster requests) b.name = some current ∧
        KeepsTargets b current := by
  rw [lookup_run selectorFaults stored requests kept, history_getLast?]
  exact ⟨rfl, _, rfl, foldl_store_keepsTargets selectorFaults b _⟩

def otherBundle : Bundle := ⟨"other", ⟨[⟨none, none, some "x", none⟩], ⟨none, some ⟨"ca.crt"⟩, none, none⟩⟩⟩

def interleavedRequests : List Request :=
  [.update secretAdded, .delete otherBundle.name, .create otherBundle, .update configMapDropped,
    .update otherBundle]

theorem validationBundle_refines_history :
    lookup [validationBundle, otherBundle] validationBundle.name = some validationBundle ∧
    Request.delete validationBundle.name ∉ interleavedRequests ∧
    lookup (run (fun _ => []) [validationBundle, otherBundle] interleavedRequests)
      validationBundle.name = some secretAdded ∧
    (lookup (run (fun _ => []) [validationBundle, otherBundle] interleavedRequests)
        validationBundle.name =
      (history (fun _ => []) validationBundle
        (interleavedRequests.filterMap (Request.proposal validationBundle.name))).getLast? ∧
    ∃ current, lookup (run (fun _ => []) [validationBundle, otherBundle] interleavedRequests)
        validationBundle.name = some current ∧ KeepsTargets validationBundle current) :=
  ⟨by decide, by decide, by decide, run_refines_history _ _ _ _ (by decide) (by decide)⟩

/-- What every store the requests reach satisfies. -/
structure Consistent (cluster : List Bundle) : Prop where
  names : (cluster.map (·.name)).Nodup
  schema : ∀ b ∈ cluster, schemaValid b
  admitted : ∀ b ∈ cluster, admits (validateCreate selectorFaults (.bundle b))

theorem consistent_nil : Consistent selectorFaults [] := ⟨List.nodup_nil, by simp, by simp⟩

theorem serve_consistent {cluster cluster' : List Bundle} (consistent : Consistent selectorFaults cluster)
    {request : Request} (served : serve selectorFaults cluster request = .ok cluster') :
    Consistent selectorFaults cluster' := by
  cases request with
  | create b =>
    obtain ⟨valid, admitted, fresh, rfl⟩ := (serve_create_ok selectorFaults).mp served
    have unnamed : b.name ∉ cluster.map (·.name) := by
      simpa [lookup, List.find?_eq_none] using fresh
    refine ⟨?_, ?_, ?_⟩
    · simpa [List.nodup_append, unnamed] using consistent.names
    · simpa [valid, or_imp, forall_and] using consistent.schema
    · simpa [admitted, or_imp, forall_and] using consistent.admitted
  | update b =>
    obtain ⟨old, -, valid, admitted, rfl⟩ := (serve_update_ok selectorFaults).mp served
    have created := admits_create_of_admits_update selectorFaults admitted
    refine ⟨?_, ?_, ?_⟩
    · have renamed : (cluster.map fun x => if x.name = b.name then b else x).map (·.name) =
          cluster.map (·.name) := by
        rw [List.map_map]
        exact List.map_congr_left fun x _ => by by_cases same : x.name = b.name <;> simp [same]
      exact renamed ▸ consistent.names
    · simp only [List.mem_map]
      rintro _ ⟨x, member, rfl⟩
      split
      · exact valid
      · exact consistent.schema x member
    · simp only [List.mem_map]
      rintro _ ⟨x, member, rfl⟩
      split
      · exact created
      · exact consistent.admitted x member
  | delete name =>
    obtain ⟨-, rfl⟩ := (serve_delete_ok selectorFaults).mp served
    exact ⟨consistent.names.sublist ((List.filter_sublist _).map _),
      fun b member => consistent.schema b (List.mem_of_mem_filter member),
      fun b member => consistent.admitted b (List.mem_of_mem_filter member)⟩

theorem run_consistent {cluster : List Bundle} (consistent : Consistent selectorFaults cluster)
    (requests : List Request) : Consistent selectorFaults (run selectorFaults cluster requests) := by
  induction requests generalizing cluster with
  | nil => exact consistent
  | cons request requests ih =>
    apply ih
    unfold step
    split
    · next served => exact serve_consistent selectorFaults consistent served
    · exact consistent

/-- In every store the requests reach, in any order, no two Bundles share a name, and each
passes the schema and is admissible: none of its sources reads its own target by name and
key, and each of its label selectors passes. -/
theorem run_stored_admissible (requests : List Request) :
    ((run selectorFaults [] requests).map (·.name)).Nodup ∧
      ∀ b ∈ run selectorFaults [] requests, schemaValid b ∧ Admissible selectorFaults b := by
  have consistent := run_consistent selectorFaults (consistent_nil selectorFaults) requests
  exact ⟨consistent.names, fun b stored => ⟨consistent.schema b stored,
    ((admits_iff_validateErrors_nil selectorFaults b).trans (validateErrors_eq_nil selectorFaults b)).mp
      (consistent.admitted b stored)⟩⟩

theorem lookup_of_mem {cluster : List Bundle} (names : (cluster.map (·.name)).Nodup) {b : Bundle}
    (member : b ∈ cluster) : lookup cluster b.name = some b := by
  induction cluster with
  | nil => cases member
  | cons x cluster ih =>
    rw [List.map_cons, List.nodup_cons] at names
    rcases List.mem_cons.mp member with rfl | member
    · simp [lookup]
    · have other : x.name ≠ b.name := fun same => names.1 (same ▸ List.mem_map_of_mem _ member)
      simpa [lookup, other] using ih names.2 member

theorem filter_name_eq_erase {cluster : List Bundle} (names : (cluster.map (·.name)).Nodup)
    {b : Bundle} (member : b ∈ cluster) : cluster.filter (·.name != b.name) = cluster.erase b := by
  induction cluster with
  | nil => cases member
  | cons x cluster ih =>
    rw [List.map_cons, List.nodup_cons] at names
    rcases List.mem_cons.mp member with rfl | member
    · have alone : cluster.filter (·.name != b.name) = cluster :=
        List.filter_eq_self.mpr fun y member => by
          simpa using fun same : y.name = b.name => names.1 (same ▸ List.mem_map_of_mem _ member)
      simp [alone]
    · have other : x.name ≠ b.name := fun same => names.1 (same ▸ List.mem_map_of_mem _ member)
      have skip : (x :: cluster).erase b = x :: cluster.erase b :=
        List.erase_cons_tail (by simpa using fun same : x = b => other (same ▸ rfl))
      simp [other, skip, ih names.2 member]

/-- No stored Bundle is ever stuck: in every store the requests reach, a stored Bundle can be
re-applied unchanged, which writes nothing, and deleted, which removes it alone. -/
theorem stored_never_stuck (requests : List Request) (b : Bundle)
    (stored : b ∈ run selectorFaults [] requests) :
    serve selectorFaults (run selectorFaults [] requests) (.update b) =
        .ok (run selectorFaults [] requests) ∧
      serve selectorFaults (run selectorFaults [] requests) (.delete b.name) =
        .ok ((run selectorFaults [] requests).erase b) := by
  have consistent := run_consistent selectorFaults (consistent_nil selectorFaults) requests
  have found := lookup_of_mem consistent.names stored
  constructor
  · refine (serve_update_ok selectorFaults).mpr ⟨b, found, consistent.schema b stored, ?_, ?_⟩
    · rw [validateUpdate_of_kept selectorFaults b b id id]
      exact consistent.admitted b stored
    · refine (List.map_congr_left fun x member => ?_).trans (List.map_id _)
      split
      · next same => exact (List.inj_on_of_nodup_map consistent.names member stored same).symm
      · rfl
  · exact (serve_delete_ok selectorFaults).mpr
      ⟨by simp [found], filter_name_eq_erase consistent.names stored⟩

theorem validationBundle_never_stuck :
    validationBundle ∈ run (fun _ => []) [] [.create validationBundle] ∧
    (serve (fun _ => []) (run (fun _ => []) [] [.create validationBundle]) (.update validationBundle) =
        .ok (run (fun _ => []) [] [.create validationBundle]) ∧
      serve (fun _ => []) (run (fun _ => []) [] [.create validationBundle])
          (.delete validationBundle.name) =
        .ok ((run (fun _ => []) [] [.create validationBundle]).erase validationBundle)) :=
  ⟨by decide, stored_never_stuck _ _ _ (by decide)⟩

end

end TrustManager.Webhook
