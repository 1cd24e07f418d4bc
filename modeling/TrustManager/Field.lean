import Mathlib.Data.String.Basic
import Mathlib.Data.Nat.Digits
import Mathlib.Tactic.IntervalCases
import Mathlib.Tactic.Ring

/-! The part of apimachinery's `field` package the webhook relies on: paths as
`(*Path).String` renders them, errors as `(*Error).Error` renders them, and
`ErrorList.ToAggregate`, which keeps the first error of every message. -/
namespace TrustManager.Field

/-- A path element: a name, or, when the name is empty, a subscript. -/
structure PathElement where
  name : String
  index : String
  deriving DecidableEq, Repr

/-- Root first; `(*Path).String` walks the parent pointers the same way. -/
abbrev Path := List PathElement

def newPath (name : String) (moreNames : List String) : Path :=
  (name :: moreNames).map fun n => ⟨n, ""⟩

def Path.child (p : Path) (name : String) (moreNames : List String) : Path :=
  p ++ newPath name moreNames

/-- `Index` subscripts with `strconv.Itoa`. -/
def Path.index (p : Path) (index : Nat) : Path := p ++ [⟨"", toString index⟩]

/-- A dot before every named element that has a parent, brackets around a subscript. -/
def PathElement.render (hasParent : Bool) (e : PathElement) : String :=
  (if hasParent && !e.name.isEmpty then "." else "") ++
    (if e.name.isEmpty then "[" ++ e.index ++ "]" else e.name)

def renderFrom (hasParent : Bool) : Path → String
  | [] => ""
  | e :: rest => e.render hasParent ++ renderFrom true rest

def Path.string (p : Path) : String := renderFrom false p

inductive ErrorType
  | notFound | required | duplicate | invalid | notSupported
  | forbidden | tooLong | tooMany | internal
  deriving DecidableEq, Repr

def ErrorType.string : ErrorType → String
  | .notFound => "Not found"
  | .required => "Required value"
  | .duplicate => "Duplicate value"
  | .invalid => "Invalid value"
  | .notSupported => "Unsupported value"
  | .forbidden => "Forbidden"
  | .tooLong => "Too long"
  | .tooMany => "Too many"
  | .internal => "Internal error"

/-- Every bad value this webhook or a selector check passes is a string. -/
structure Error where
  type : ErrorType
  field : String
  badValue : String
  detail : String
  deriving DecidableEq, Repr

/-- Types without a value print alone; a string value is quoted as `%q` quotes it
(`String.quote` agrees with it on printable ASCII). -/
def Error.errorBody (v : Error) : String :=
  (match v.type with
    | .required | .forbidden | .tooLong | .internal => v.type.string
    | _ => v.type.string ++ ": " ++ v.badValue.quote) ++
  (if v.detail.isEmpty then "" else ": " ++ v.detail)

/-- The message `ToAggregate` compares errors by. -/
def Error.error (v : Error) : String := v.field ++ ": " ++ v.errorBody

def forbidden (field : Path) (detail : String) : Error := ⟨.forbidden, field.string, "", detail⟩

def invalid (field : Path) (value detail : String) : Error := ⟨.invalid, field.string, value, detail⟩

abbrev ErrorList := List Error

/-- One turn of `ToAggregate`'s loop over the errors and the set of messages seen. -/
def keepFirst (acc : List Error × List String) (err : Error) : List Error × List String :=
  if err.error ∈ acc.2 then acc else (acc.1 ++ [err], err.error :: acc.2)

/-- `utilerrors.NewAggregate` is nil on an empty list; none of these errors is nil. -/
def newAggregate (errs : List Error) : Option (List Error) :=
  if errs.isEmpty then none else some errs

def toAggregate (list : ErrorList) : Option (List Error) :=
  if list.isEmpty then none else newAggregate (list.foldl keepFirst ([], [])).1

@[simp] theorem renderFrom_nil (hasParent : Bool) : renderFrom hasParent [] = "" := rfl

@[simp] theorem renderFrom_cons (hasParent : Bool) (e : PathElement) (rest : Path) :
    renderFrom hasParent (e :: rest) = e.render hasParent ++ renderFrom true rest := rfl

@[simp] theorem render_named (hasParent : Bool) (name index : String) (named : name ≠ "") :
    PathElement.render hasParent ⟨name, index⟩ = (if hasParent then "." else "") ++ name := by
  have empty : name.isEmpty = false := by rw [← Bool.not_eq_true, String.isEmpty_iff]; exact named
  simp [PathElement.render, empty]

@[simp] theorem render_index (hasParent : Bool) (index : String) :
    PathElement.render hasParent ⟨"", index⟩ = "[" ++ index ++ "]" := by
  have empty : "".isEmpty = true := (String.isEmpty_iff "").mpr rfl
  simp [PathElement.render, empty]

theorem error_data (e : Error) : e.error.data = e.field.data ++ ':' :: ' ' :: e.errorBody.data := by
  simp [Error.error]

/-- The number a decimal text denotes: `%d` and `strconv.Itoa` print `Nat.repr`, which it
inverts, so distinct indices give distinct texts. -/
def decimalValue (ds : List Char) : Nat := ds.foldl (fun n c => 10 * n + (c.toNat - 48)) 0

theorem foldl_decimal (ds : List Char) (a : Nat) :
    ds.foldl (fun n c => 10 * n + (c.toNat - 48)) a = a * 10 ^ ds.length + decimalValue ds := by
  induction ds generalizing a with
  | nil => simp [decimalValue]
  | cons c ds ih =>
    simp only [decimalValue, List.foldl_cons, List.length_cons] at ih ⊢
    rw [ih, ih (10 * 0 + _)]
    ring

theorem digitChar_value (n : Nat) : (Nat.digitChar (n % 10)).toNat - 48 = n % 10 := by
  have small : n % 10 < 10 := Nat.mod_lt n (by decide)
  generalize n % 10 = k at small ⊢
  interval_cases k <;> rfl

theorem decimalValue_toDigitsCore (fuel n : Nat) (ds : List Char) (enough : n < fuel) :
    decimalValue (Nat.toDigitsCore 10 fuel n ds) = n * 10 ^ ds.length + decimalValue ds := by
  induction fuel generalizing n ds with
  | zero => omega
  | succ fuel ih =>
    have split := Nat.div_add_mod n 10
    have digit : decimalValue (Nat.digitChar (n % 10) :: ds) =
        n % 10 * 10 ^ ds.length + decimalValue ds := by
      rw [decimalValue, List.foldl_cons, foldl_decimal, Nat.mul_zero, Nat.zero_add, digitChar_value]
    simp only [Nat.toDigitsCore]
    split
    · rw [digit]; congr 2; omega
    · rw [ih (n / 10) _ (by omega), digit, List.length_cons]
      nth_rewrite 3 [← split]
      ring

theorem repr_injective {n m : Nat} (same : Nat.repr n = Nat.repr m) : n = m := by
  have digits : Nat.toDigits 10 n = Nat.toDigits 10 m := List.asString_inj.mp same
  have values := congrArg decimalValue digits
  rw [Nat.toDigits, Nat.toDigits, decimalValue_toDigitsCore _ _ _ (Nat.lt_succ_self n),
    decimalValue_toDigitsCore _ _ _ (Nat.lt_succ_self m)] at values
  simpa [decimalValue] using values

theorem digitChar_ne_bracket (n : Nat) : Nat.digitChar (n % 10) ≠ ']' := by
  have small : n % 10 < 10 := Nat.mod_lt n (by decide)
  generalize n % 10 = k at small ⊢
  interval_cases k <;> decide

theorem bracket_not_mem_toDigitsCore (fuel n : Nat) (ds : List Char) (clean : ']' ∉ ds) :
    ']' ∉ Nat.toDigitsCore 10 fuel n ds := by
  induction fuel generalizing n ds with
  | zero => exact clean
  | succ fuel ih =>
    have head : ']' ∉ Nat.digitChar (n % 10) :: ds := by
      simp only [List.mem_cons, not_or]
      exact ⟨fun h => digitChar_ne_bracket n h.symm, clean⟩
    simp only [Nat.toDigitsCore]
    split
    · exact head
    · exact ih _ _ head

theorem bracket_not_mem_repr (n : Nat) : ']' ∉ (toString n).data :=
  bracket_not_mem_toDigitsCore (n + 1) n [] (List.not_mem_nil _)

/-- A text splits at its first closing bracket. -/
theorem bracket_split (x s : List Char) (clean : ']' ∉ x) :
    (x ++ ']' :: s).takeWhile (· != ']') = x ∧ (x ++ ']' :: s).dropWhile (· != ']') = ']' :: s := by
  have before : ∀ c ∈ x, (c != ']') = true := fun c member =>
    bne_iff_ne.mpr fun bracket => clean (bracket ▸ member)
  simp [List.takeWhile_append_of_pos before, List.dropWhile_append_of_pos before]

theorem append_bracket_cancel {a a' r r' : List Char} (clean : ']' ∉ a) (clean' : ']' ∉ a')
    (same : a ++ ']' :: r = a' ++ ']' :: r') : a = a' ∧ r = r' := by
  have first := bracket_split a r clean
  have second := bracket_split a' r' clean'
  rw [same] at first
  exact ⟨first.1.symm.trans second.1, (List.cons.inj (first.2.symm.trans second.2)).2⟩

theorem keepFirst_of_mem (acc : List Error × List String) (err : Error)
    (seen : err.error ∈ acc.2) : keepFirst acc err = acc := if_pos seen

theorem keepFirst_of_not_mem (acc : List Error × List String) (err : Error)
    (fresh : err.error ∉ acc.2) : keepFirst acc err = (acc.1 ++ [err], err.error :: acc.2) :=
  if_neg fresh

theorem keepFirst_fst (acc : List Error × List String) (err : Error) :
    ∃ kept, (keepFirst acc err).1 = acc.1 ++ kept ∧ kept.Sublist [err] := by
  by_cases seen : err.error ∈ acc.2
  · exact ⟨[], by simp [keepFirst_of_mem acc err seen], List.nil_sublist _⟩
  · exact ⟨[err], by rw [keepFirst_of_not_mem acc err seen], .refl _⟩

theorem mem_keepFirst_snd (acc : List Error × List String) (err : Error) (m : String) :
    m ∈ (keepFirst acc err).2 ↔ m ∈ acc.2 ∨ m = err.error := by
  by_cases seen : err.error ∈ acc.2
  · rw [keepFirst_of_mem acc err seen]
    exact ⟨.inl, by rintro (h | rfl) <;> assumption⟩
  · simp [keepFirst_of_not_mem acc err seen, or_comm]

/-- What the loop keeps extends what it had, with a sublist of its input. -/
theorem foldl_keepFirst_fst (l : ErrorList) (acc : List Error × List String) :
    ∃ kept, (l.foldl keepFirst acc).1 = acc.1 ++ kept ∧ kept.Sublist l := by
  induction l generalizing acc with
  | nil => exact ⟨[], by simp, .slnil⟩
  | cons e l ih =>
    obtain ⟨first, step, sub⟩ := keepFirst_fst acc e
    obtain ⟨rest, run, sub'⟩ := ih (keepFirst acc e)
    exact ⟨first ++ rest, by rw [List.foldl_cons, run, step, List.append_assoc], sub.append sub'⟩

/-- The loop has seen exactly the messages it had and those of its input. -/
theorem mem_foldl_keepFirst_snd (l : ErrorList) (acc : List Error × List String) (m : String) :
    m ∈ (l.foldl keepFirst acc).2 ↔ m ∈ acc.2 ∨ m ∈ l.map Error.error := by
  induction l generalizing acc with
  | nil => simp
  | cons e l ih => simp [ih, mem_keepFirst_snd, or_assoc]

/-- Errors whose messages are new and pairwise distinct all survive, in order. -/
theorem foldl_keepFirst_fresh (mid : ErrorList) (acc : List Error × List String)
    (fresh : ∀ e ∈ mid, e.error ∉ acc.2) (distinct : (mid.map Error.error).Nodup) :
    mid.foldl keepFirst acc = (acc.1 ++ mid, (mid.map Error.error).reverse ++ acc.2) := by
  induction mid generalizing acc with
  | nil => simp
  | cons e mid ih =>
    simp only [List.map_cons, List.nodup_cons, List.mem_map] at distinct
    rw [List.foldl_cons, keepFirst_of_not_mem acc e (fresh e (List.mem_cons_self _ _)), ih]
    · simp
    · intro e' member
      simp only [List.mem_cons, not_or]
      exact ⟨fun h => distinct.1 ⟨e', member, h⟩, fresh e' (List.mem_cons_of_mem _ member)⟩
    · exact distinct.2

/-- What the loop has kept repeats no message, and it has seen exactly their messages. -/
def KeptWell (acc : List Error × List String) : Prop :=
  (acc.1.map Error.error).Nodup ∧ ∀ m, m ∈ acc.2 ↔ m ∈ acc.1.map Error.error

theorem keepFirst_keptWell {acc : List Error × List String} (err : Error) (inv : KeptWell acc) :
    KeptWell (keepFirst acc err) := by
  by_cases seen : err.error ∈ acc.2
  · rw [keepFirst_of_mem acc err seen]
    exact inv
  · rw [keepFirst_of_not_mem acc err seen]
    refine ⟨?_, fun m => ?_⟩
    · simpa [List.nodup_append, inv.1] using fun h => seen ((inv.2 _).mpr h)
    · simp [inv.2, or_comm]

theorem foldl_keepFirst_keptWell (l : ErrorList) {acc : List Error × List String}
    (inv : KeptWell acc) : KeptWell (l.foldl keepFirst acc) := by
  induction l generalizing acc with
  | nil => exact inv
  | cons e l ih => exact ih (keepFirst_keptWell e inv)

/-- The aggregate repeats no message and drops none. -/
theorem toAggregate_messages (list : ErrorList) :
    ((list.foldl keepFirst ([], [])).1.map Error.error).Nodup ∧
      ∀ e ∈ list, e.error ∈ (list.foldl keepFirst ([], [])).1.map Error.error := by
  have inv : KeptWell (list.foldl keepFirst ([], [])) :=
    foldl_keepFirst_keptWell list ⟨List.nodup_nil, by simp⟩
  exact ⟨inv.1, fun e member => (inv.2 _).mp
    ((mem_foldl_keepFirst_snd _ _ _).mpr (.inr (List.mem_map_of_mem _ member)))⟩

/-- On a non-empty list, the aggregate holds what the loop kept. -/
theorem toAggregate_of_ne_nil {list : ErrorList} (nonempty : list ≠ []) :
    toAggregate list = some (list.foldl keepFirst ([], [])).1 := by
  cases list with
  | nil => exact absurd rfl nonempty
  | cons e rest =>
    obtain ⟨kept, eq, -⟩ := foldl_keepFirst_fst rest ([e], [e.error])
    have first : keepFirst ([], []) e = ([e], [e.error]) :=
      keepFirst_of_not_mem _ _ (List.not_mem_nil _)
    simp [toAggregate, newAggregate, first, eq]

theorem toAggregate_eq_none (list : ErrorList) : toAggregate list = none ↔ list = [] := by
  by_cases empty : list = []
  · simp [empty, toAggregate]
  · simp [toAggregate_of_ne_nil empty, empty]

/-- Each error that no earlier error shares its message with, in order: what `ToAggregate`
is for, said without its set of seen messages. -/
def firstOfMessage (list : ErrorList) : ErrorList :=
  match list with
  | [] => []
  | e :: rest => e :: firstOfMessage (rest.filter fun x => x.error ≠ e.error)
termination_by list.length
decreasing_by exact Nat.lt_succ_of_le (List.length_filter_le _ _)

/-- The loop, from any state, keeps the first of each message it has not seen. -/
theorem foldl_keepFirst_eq (l : ErrorList) (kept : List Error) (seen : List String) :
    (l.foldl keepFirst (kept, seen)).1 = kept ++ firstOfMessage (l.filter fun x => x.error ∉ seen) := by
  induction l generalizing kept seen with
  | nil => simp [firstOfMessage]
  | cons x l ih =>
    by_cases old : x.error ∈ seen
    · rw [List.foldl_cons, keepFirst_of_mem _ _ old, ih]
      simp [List.filter_cons, old]
    · rw [List.foldl_cons, keepFirst_of_not_mem _ _ old, ih, List.filter_cons_of_pos (by simpa using old),
        firstOfMessage, List.filter_filter]
      simp [and_comm]

theorem foldl_keepFirst_firstOfMessage (l : ErrorList) :
    (l.foldl keepFirst ([], [])).1 = firstOfMessage l := by
  simpa using foldl_keepFirst_eq l [] []

end TrustManager.Field
