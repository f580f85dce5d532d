import Mathlib.Data.List.Forall2
import Mathlib.Data.List.Perm.Basic

/-!
# `SidecarInjection.Proofs.Outcome`: computations that may fail

Facts on `Except` that every proof about a `do` block uses, and on the matched lists that
traversals lead to.

* `bind_eq_ok`, `map_eq_ok`: when a computation in steps has a result.
* `fault_bind`: the error of a computation in steps is that of the first step that
  fails.
* `bind_eq_settle`: a computation in steps that is settled by the first fault of its steps.
* `mapM_eq_ok`: a traversal has a result when every step has one.
* `toOption_foldlM_perm`: steps that may be exchanged have the same result in any order.
* `forall₂_set`, `forall₂_meet`, `forall₂_getD_of_rel`: lists that are matched item by item.
-/

set_option autoImplicit false

namespace SidecarInjection.Outcome

variable {ε α β : Type}

/-- A step that succeeds hands its result to the next one. -/
@[simp] theorem ok_bind (a : α) (f : α → Except ε β) : (Except.ok a >>= f) = f a := rfl

/-- A step that fails ends the computation. -/
@[simp] theorem error_bind (e : ε) (f : α → Except ε β) :
    (Except.error e >>= f) = .error e := rfl

/-- A function is applied to a result. -/
@[simp] theorem map_ok (a : α) (f : α → β) : f <$> (Except.ok a : Except ε α) = .ok (f a) := rfl

/-- To throw an error is to fail with it. -/
@[simp] theorem throw_eq (e : ε) : (throw e : Except ε α) = .error e := rfl

/-- To return a value is to succeed with it. -/
@[simp] theorem pure_eq (a : α) : (pure a : Except ε α) = .ok a := rfl

/-- Two steps have a result when the first has one and the second has one from there. -/
theorem bind_eq_ok {x : Except ε α} {f : α → Except ε β} {b : β} :
    (x >>= f) = .ok b ↔ ∃ a, x = .ok a ∧ f a = .ok b := by
  cases x with
  | error e => simp
  | ok a => simp

/-- A mapped result comes from a result. -/
theorem map_eq_ok {x : Except ε α} {f : α → β} {b : β} :
    f <$> x = .ok b ↔ ∃ a, x = .ok a ∧ f a = b := by
  cases x with
  | error e => simp
  | ok a => simp

/-- Mapping leaves errors alone. -/
theorem map_eq_error {x : Except ε α} {f : α → β} {e : ε} :
    f <$> x = .error e ↔ x = .error e := by
  cases x with
  | error e' => simp
  | ok a => simp

/-- Mapping errors leaves results alone. -/
theorem mapError_eq_ok {ε' : Type} {x : Except ε α} {f : ε → ε'} {a : α} :
    x.mapError f = .ok a ↔ x = .ok a := by
  cases x with
  | error e => simp [Except.mapError]
  | ok b => simp [Except.mapError]

/-- A computation that is seen to succeed has a result. -/
theorem exists_of_toBool {x : Except ε α} (h : x.toBool = true) : ∃ a, x = .ok a := by
  cases x with
  | error e => cases h
  | ok a => exact ⟨a, rfl⟩

/-- A computation whose result is seen to pass a test has such a result. -/
theorem exists_of_any {x : Except ε α} {p : α → Bool} (h : x.toOption.any p = true) :
    ∃ a, x = .ok a ∧ p a = true := by
  cases x with
  | error e => cases h
  | ok a => exact ⟨a, rfl, h⟩

/-- The error of a computation that fails. -/
def fault : Except ε α → Option ε
  | .ok _ => none
  | .error e => some e

/-- A computation that succeeds has no error. -/
@[simp] theorem fault_ok (a : α) : fault (Except.ok a : Except ε α) = none := rfl

/-- A computation that fails has its error. -/
@[simp] theorem fault_error (e : ε) : fault (Except.error e : Except ε α) = some e := rfl

/-- Without an error there is a result. -/
theorem fault_eq_none {x : Except ε α} : fault x = none ↔ ∃ a, x = .ok a := by
  cases x with
  | error e => simp
  | ok a => simp

/-- The error is the one that the computation fails with. -/
theorem fault_eq_some {x : Except ε α} {e : ε} : fault x = some e ↔ x = .error e := by
  cases x with
  | error e' => simp
  | ok a => simp

/-- Mapping results leaves the error alone. -/
theorem fault_map (x : Except ε α) (f : α → β) : fault (f <$> x) = fault x := by
  cases x <;> rfl

/-- Two steps fail like the first one, or like the second one from the result of the
first. -/
theorem fault_bind {x : Except ε α} {f : α → Except ε β} {first second : Option ε}
    (hx : fault x = first) (hf : ∀ a, x = .ok a → fault (f a) = second) :
    fault (x >>= f) = first.or second := by
  subst hx
  cases x with
  | error e => rfl
  | ok a => exact hf a rfl

/-- A second step that never fails adds no error. -/
theorem fault_bind_of_ok {x : Except ε α} {f : α → Except ε β}
    (hf : ∀ a, x = .ok a → fault (f a) = none) : fault (x >>= f) = fault x := by
  cases x with
  | error e => rfl
  | ok a => exact hf a rfl

/-- The first of some faults, or a result if there is none. -/
def settle (faults : List (Option ε)) (result : α) : Except ε α :=
  match faults.findSome? id with
  | some e => .error e
  | none => .ok result

/-- The first fault is the error. -/
theorem settle_some (e : ε) (faults : List (Option ε)) (result : α) :
    settle (some e :: faults) result = .error e := rfl

/-- What is no fault is passed over. -/
theorem settle_none (faults : List (Option ε)) (result : α) :
    settle (none :: faults) result = settle faults result := rfl

/-- There is a result when there are no faults, and then it is the given one. -/
theorem settle_eq_ok {faults : List (Option ε)} {result a : α} :
    settle faults result = .ok a ↔ (∀ fault ∈ faults, fault = none) ∧ a = result := by
  unfold settle
  cases hfirst : faults.findSome? id with
  | some e =>
    obtain ⟨fault, hmem, hfault⟩ := List.exists_of_findSome?_eq_some hfirst
    -- Some fault is one, so the faults are not all absent.
    have hnot : ¬ ∀ fault ∈ faults, fault = none := by
      intro hnone
      cases (hnone fault hmem).symm.trans hfault
    simp [hnot]
  | none =>
    have hnone : ∀ fault ∈ faults, fault = none := List.findSome?_eq_none_iff.mp hfirst
    rw [Except.ok.injEq, eq_comm, iff_and_self]
    exact fun _ => hnone

/-- The error is that of the first fault. -/
theorem settle_eq_error {faults : List (Option ε)} {result : α} {e : ε} :
    settle faults result = .error e ↔ faults.findSome? id = some e := by
  unfold settle
  cases faults.findSome? id with
  | some e' => simp
  | none => simp

/-- A step that a fault settles, and the steps after it that other faults settle. -/
theorem bind_eq_settle {x : Except ε β} {f : β → Except ε α} {first : Option ε}
    {faults : List (Option ε)} {b : β} {result : α} (hx : x = settle [first] b)
    (hf : first = none → f b = settle faults result) :
    (x >>= f) = settle (first :: faults) result := by
  subst hx
  cases first with
  | some e => rfl
  | none => exact hf rfl

/-! ### Results -/

/-- Forgetting the error keeps the result. -/
theorem toOption_eq_some {x : Except ε α} {a : α} : x.toOption = some a ↔ x = .ok a := by
  cases x with
  | error e => simp [Except.toOption]
  | ok b => simp [Except.toOption]

/-- The result of two steps depends on their results only, not on the errors. -/
theorem toOption_bind (x : Except ε α) (f : α → Except ε β) :
    (x >>= f).toOption = x.toOption.bind fun a => (f a).toOption := by
  cases x <;> rfl

/-- Two steps have the same result as two others, when each of them has. -/
theorem toOption_bind_congr {x y : Except ε α} {f g : α → Except ε β}
    (h : x.toOption = y.toOption) (hrest : ∀ a, (f a).toOption = (g a).toOption) :
    (x >>= f).toOption = (y >>= g).toOption := by
  rw [toOption_bind, toOption_bind, h]
  exact congrArg _ (funext hrest)

/-- Steps any two of which may be exchanged have the same result in any order. Which error
they end in may depend on the order. -/
theorem toOption_foldlM_perm {f : β → α → Except ε β} {xs ys : List α} (h : xs.Perm ys)
    (hexchange : ∀ x ∈ xs, ∀ y ∈ xs, ∀ b,
      ([x, y].foldlM f b).toOption = ([y, x].foldlM f b).toOption) (b : β) :
    (xs.foldlM f b).toOption = (ys.foldlM f b).toOption := by
  induction h generalizing b with
  | nil => rfl
  | cons x _ ih =>
    rw [List.foldlM_cons, List.foldlM_cons]
    refine toOption_bind_congr rfl fun c => ih (fun y hy z hz => ?_) c
    exact hexchange y (List.mem_cons_of_mem _ hy) z (List.mem_cons_of_mem _ hz)
  | swap x y rest =>
    -- The two steps that change places are the first ones, and the rest runs from where they end.
    show (([y, x] ++ rest).foldlM f b).toOption = (([x, y] ++ rest).foldlM f b).toOption
    rw [List.foldlM_append, List.foldlM_append]
    exact toOption_bind_congr (hexchange y (by simp) x (by simp) b) fun _ => rfl
  | trans hfirst _ ih₁ ih₂ =>
    exact (ih₁ hexchange b).trans (ih₂ (fun x hx y hy =>
      hexchange x (hfirst.mem_iff.mpr hx) y (hfirst.mem_iff.mpr hy)) b)

/-! ### Traversals -/

/-- A traversal has a result when every step has one, and lists them in order. -/
theorem mapM_eq_ok {f : α → Except ε β} {xs : List α} {ys : List β} :
    xs.mapM f = .ok ys ↔ List.Forall₂ (fun x y => f x = .ok y) xs ys := by
  induction xs generalizing ys with
  | nil =>
    rw [List.mapM_nil, pure_eq, List.forall₂_nil_left_iff, Except.ok.injEq, eq_comm]
  | cons x xs ih =>
    -- The results are built from the front, as `Forall₂` is.
    rw [List.mapM_cons, bind_eq_ok, List.forall₂_cons_left_iff]
    constructor
    · rintro ⟨y, hy, hrest⟩
      obtain ⟨rest, hys, hok⟩ := bind_eq_ok.mp hrest
      exact ⟨y, rest, hy, ih.mp hys, (Except.ok.inj hok).symm⟩
    · rintro ⟨y, rest, hy, hys, rfl⟩
      exact ⟨y, hy, bind_eq_ok.mpr ⟨rest, ih.mpr hys, rfl⟩⟩

/-- A traversal with a function that keeps every element gives back the list. -/
theorem mapM_eq_self {f : α → Except ε α} {xs : List α} (h : ∀ x ∈ xs, f x = .ok x) :
    xs.mapM f = .ok xs :=
  mapM_eq_ok.mpr (List.forall₂_same.mpr h)

/-- Every item of a list belongs to one of a list that it is matched with. -/
theorem exists_of_forall₂ {R : α → β → Prop} {xs : List α} {ys : List β}
    (h : List.Forall₂ R xs ys) {y : β} (hy : y ∈ ys) : ∃ x ∈ xs, R x y := by
  induction h with
  | nil => cases hy
  | cons hxy _ ih =>
    rcases List.mem_cons.mp hy with rfl | hy
    · exact ⟨_, List.mem_cons_self, hxy⟩
    · obtain ⟨x, hx, hR⟩ := ih hy
      exact ⟨x, List.mem_cons_of_mem _ hx, hR⟩

/-- Setting one item of a list keeps what relates it to another list, when the new item is
related to its counterpart. -/
theorem forall₂_set {R : α → β → Prop} {xs : List α} {ys : List β} (h : List.Forall₂ R xs ys)
    {index : Nat} {y : β} (hy : ∀ x, xs[index]? = some x → R x y) :
    List.Forall₂ R xs (ys.set index y) := by
  induction h generalizing index with
  | nil => exact .nil
  | cons hxy hrest ih =>
    cases index with
    | zero => exact .cons (hy _ rfl) hrest
    | succ index => exact .cons hxy (ih hy)

/-- Lists that are matched with the same list are matched with each other. -/
theorem forall₂_meet {γ : Type} {R : α → β → Prop} {S : α → γ → Prop} {xs : List α} {ys : List β}
    {zs : List γ} (hR : List.Forall₂ R xs ys) (hS : List.Forall₂ S xs zs) :
    List.Forall₂ (fun y z => ∃ x, R x y ∧ S x z) ys zs := by
  induction hR generalizing zs with
  | nil =>
    cases hS
    exact .nil
  | @cons x _ _ _ hxy _ ih =>
    cases hS with
    | cons hxz hrest => exact .cons ⟨x, hxy, hxz⟩ (ih hrest)

/-- Lists that are both absent or matched are matched when nothing stands for an absent one. -/
theorem forall₂_getD_of_rel {R : α → β → Prop} {xs : Option (List α)} {ys : Option (List β)}
    (h : Option.Rel (List.Forall₂ R) xs ys) : List.Forall₂ R (xs.getD []) (ys.getD []) := by
  cases h with
  | none => exact .nil
  | some h => exact h

/-- Of two matched options, both are absent or neither is. -/
theorem isNone_eq_of_rel {R : α → β → Prop} {x : Option α} {y : Option β}
    (h : Option.Rel R x y) : x.isNone = y.isNone := by
  cases h with
  | none => rfl
  | some _ => rfl

/-- What is there is matched with something that is there. -/
theorem exists_of_rel_some {R : α → β → Prop} {x : α} {y : Option β}
    (h : Option.Rel R (some x) y) : ∃ b, y = some b ∧ R x b := by
  cases h with
  | some h => exact ⟨_, rfl, h⟩

/-- Every result of a traversal is the result of one of its steps. -/
theorem exists_of_mapM {f : α → Except ε β} {xs : List α} {ys : List β}
    (h : xs.mapM f = .ok ys) {y : β} (hy : y ∈ ys) : ∃ x ∈ xs, f x = .ok y :=
  exists_of_forall₂ (mapM_eq_ok.mp h) hy

end SidecarInjection.Outcome
