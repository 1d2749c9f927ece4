import Mathlib.Tactic

/-!
# Outcomes

A computation that can fail has an outcome: a result, or an error.  These are the
laws of outcomes that the rest of the theory uses.  The first ones rewrite the
next step of a computation whose outcome so far is known; the others say how a
list of computations runs, item by item and up to the first error.

Two runs of a computation agree if both have results that are related, or both have
errors that are; agreement passes from the steps of a computation to the whole.
-/

namespace CypherBatch
namespace Outcome

variable {ε α β γ : Type}

@[simp] theorem ok_bind (x : α) (f : α → Except ε β) :
    (Except.ok x).bind f = f x := by
  rfl

@[simp] theorem error_bind (e : ε) (f : α → Except ε β) :
    (Except.error e).bind f = .error e := by
  rfl

@[simp] theorem ok_map (x : α) (f : α → β) :
    (Except.ok x : Except ε α).map f = .ok (f x) := by
  rfl

@[simp] theorem error_map (e : ε) (f : α → β) :
    (Except.error e).map f = .error e := by
  rfl

@[simp] theorem bind_eq (x : Except ε α) (f : α → Except ε β) :
    (x >>= f) = x.bind f := by
  rfl

@[simp] theorem pure_eq (x : α) :
    (pure x : Except ε α) = .ok x := by
  rfl

theorem map_map (x : Except ε α) (f : α → β) (g : β → γ) :
    (x.map f).map g = x.map fun y => g (f y) := by
  cases x <;> rfl

/-- A computation gives a result exactly when its first part gives one that it goes on with. -/
theorem bind_eq_ok_iff {x : Except ε α} {f : α → Except ε β} {y : β} :
    x.bind f = .ok y ↔ ∃ a, x = .ok a ∧ f a = .ok y := by
  cases x <;> simp

theorem map_eq_ok_iff {x : Except ε α} {f : α → β} {y : β} :
    x.map f = .ok y ↔ ∃ a, x = .ok a ∧ f a = y := by
  cases x <;> simp

theorem mapError_eq_ok_iff {ε' : Type} {x : Except ε α} {f : ε → ε'} {a : α} :
    x.mapError f = .ok a ↔ x = .ok a := by
  cases x <;> simp [Except.mapError]

theorem toOption_eq_some_iff {x : Except ε α} {a : α} :
    x.toOption = some a ↔ x = .ok a := by
  cases x <;> simp [Except.toOption]

theorem map_map_some_eq_ok_iff {x : Except ε (List α)} {ys : List α} :
    x.map (List.map some) = .ok (ys.map some) ↔ x = .ok ys := by
  cases x with
  | error e =>
      simp
  | ok xs =>
      simp only [ok_map, Except.ok.injEq]
      exact (List.map_injective_iff.2 (Option.some_injective α)).eq_iff

/-- The items of a list run one behind another. -/
theorem mapM_cons (f : α → Except ε β) (x : α) (xs : List α) :
    (x :: xs).mapM f = (f x).bind fun y => (xs.mapM f).map (y :: ·) := by
  rw [List.mapM_cons]
  rfl

/-- Computations that agree on the items of a list agree on the list. -/
theorem mapM_congr {f g : α → Except ε β} {xs : List α}
    (h : ∀ x ∈ xs, f x = g x) :
    xs.mapM f = xs.mapM g := by
  induction xs with
  | nil =>
      rfl
  | cons x xs ih =>
      have hx : f x = g x := h x (by simp)
      have hxs : xs.mapM f = xs.mapM g := ih fun y hy => h y (by simp [hy])
      rw [mapM_cons, mapM_cons, hx, hxs]

/-- Computations that succeed on the items of a list succeed on the list. -/
theorem mapM_eq_ok_map {f : α → Except ε β} {g : α → β} {xs : List α}
    (h : ∀ x ∈ xs, f x = .ok (g x)) :
    xs.mapM f = .ok (xs.map g) := by
  induction xs with
  | nil =>
      rfl
  | cons x xs ih =>
      rw [mapM_cons, h x (by simp), ih fun y hy => h y (by simp [hy])]
      rfl

theorem exists_eq_ok_of_mapM
    {f : α → Except ε β} {xs : List α} {ys : List β} (h : xs.mapM f = .ok ys) :
    ∀ x ∈ xs, ∃ y, f x = .ok y := by
  induction xs generalizing ys with
  | nil =>
      simp
  | cons x xs ih =>
      rw [mapM_cons] at h
      obtain ⟨y, hy, h⟩ := bind_eq_ok_iff.1 h
      obtain ⟨zs, hzs, -⟩ := map_eq_ok_iff.1 h
      exact List.forall_mem_cons.2 ⟨⟨y, hy⟩, ih hzs⟩

theorem mapM_append (f : α → Except ε β) (xs ys : List α) :
    (xs ++ ys).mapM f = (xs.mapM f).bind fun zs => (ys.mapM f).map (zs ++ ·) := by
  rw [List.mapM_append]
  rfl

theorem length_of_mapM {f : α → Except ε β} {xs : List α} {ys : List β} (h : xs.mapM f = .ok ys) :
    ys.length = xs.length := by
  induction xs generalizing ys with
  | nil =>
      cases h
      rfl
  | cons x xs ih =>
      rw [mapM_cons] at h
      obtain ⟨y, -, h⟩ := bind_eq_ok_iff.1 h
      obtain ⟨zs, hzs, rfl⟩ := map_eq_ok_iff.1 h
      simp [ih hzs]

/-- A list fails as the first of its items that fails. -/
theorem mapM_eq_error_iff {f : α → Except ε β} {xs : List α} {e : ε} :
    xs.mapM f = .error e ↔
      ∃ before x after, xs = before ++ x :: after ∧ (∀ y ∈ before, ∃ z, f y = .ok z) ∧
        f x = .error e := by
  constructor
  · intro h
    induction xs with
    | nil =>
        cases h
    | cons x xs ih =>
        rw [mapM_cons] at h
        cases hx : f x with
        | error e' =>
            rw [hx, error_bind] at h
            obtain rfl : e' = e := Except.error.inj h
            exact ⟨[], x, xs, rfl, by simp, hx⟩
        | ok z =>
            rw [hx, ok_bind] at h
            have hrest : xs.mapM f = .error e := by
              cases hxs : xs.mapM f <;> simp_all
            obtain ⟨before, y, after, rfl, hbefore, hy⟩ := ih hrest
            exact ⟨x :: before, y, after, rfl, List.forall_mem_cons.2 ⟨⟨z, hx⟩, hbefore⟩, hy⟩
  · rintro ⟨before, x, after, rfl, hbefore, hx⟩
    induction before with
    | nil =>
        rw [List.nil_append, mapM_cons, hx, error_bind]
    | cons y before ih =>
        obtain ⟨⟨z, hz⟩, hbefore⟩ := List.forall_mem_cons.1 hbefore
        rw [List.cons_append, mapM_cons, hz, ok_bind, ih hbefore, error_map]

/-- Each result can be changed at once or when all are there. -/
theorem mapM_map_result (f : α → Except ε β) (h : β → γ) (xs : List α) :
    (xs.mapM fun x => (f x).map h) = (xs.mapM f).map (List.map h) := by
  induction xs with
  | nil =>
      rfl
  | cons x xs ih =>
      rw [mapM_cons, mapM_cons, ih]
      cases f x with
      | error e =>
          rfl
      | ok y =>
          cases xs.mapM f <;> rfl

/-- Do two outcomes agree, up to a relation of errors and one of results? -/
inductive Agree {ε' α' : Type} (R : ε → ε' → Prop) (S : α → α' → Prop) :
    Except ε α → Except ε' α' → Prop
  | ok {x : α} {y : α'} (h : S x y) : Agree R S (.ok x) (.ok y)
  | error {e : ε} {f : ε'} (h : R e f) : Agree R S (.error e) (.error f)

section Agreement

variable {R : ε → ε → Prop} {S : α → α → Prop} {T : β → β → Prop}

theorem Agree.bind
    {x y : Except ε α} {f g : α → Except ε β} (h : Agree R S x y)
    (hfg : ∀ a b, S a b → Agree R T (f a) (g b)) :
    Agree R T (x.bind f) (y.bind g) := by
  cases h with
  | ok h =>
      exact hfg _ _ h
  | error h =>
      exact .error h

theorem Agree.imp
    {R' : ε → ε → Prop} {S' : α → α → Prop} {x y : Except ε α} (h : Agree R S x y)
    (hR : ∀ e f, R e f → R' e f) (hS : ∀ a b, S a b → S' a b) :
    Agree R' S' x y := by
  cases h with
  | ok h =>
      exact .ok (hS _ _ h)
  | error h =>
      exact .error (hR _ _ h)

theorem Agree.map
    {x y : Except ε α} {f g : α → β} (h : Agree R S x y)
    (hfg : ∀ a b, S a b → T (f a) (g b)) :
    Agree R T (x.map f) (y.map g) := by
  cases h with
  | ok h =>
      exact .ok (hfg _ _ h)
  | error h =>
      exact .error h

/-- Outcomes that agree do so with the results that they have. -/
theorem Agree.and_eq
    {x y : Except ε α} (h : Agree R S x y) :
    Agree R (fun a b => x = .ok a ∧ y = .ok b ∧ S a b) x y := by
  cases h with
  | ok h =>
      exact .ok ⟨rfl, rfl, h⟩
  | error h =>
      exact .error h

/-- Outcomes that are one outcome after a change of the result agree up to that change. -/
theorem Agree.of_map_eq
    {x y : Except ε α} {f : α → β} (hrefl : ∀ e, R e e) (h : x.map f = y.map f) :
    Agree R (fun a b => f a = f b) x y := by
  match x, y with
  | .ok a, .ok b =>
      exact .ok (Except.ok.inj h)
  | .error e, .error f =>
      obtain rfl : e = f := Except.error.inj h
      exact .error (hrefl e)

/-- Outcomes whose results are one result after a change agree up to that change. -/
theorem Agree.of_toOption_map_eq
    {x y : Except ε α} {f : α → β} (h : x.toOption.map f = y.toOption.map f) :
    Agree (fun _ _ => True) (fun a b => f a = f b) x y := by
  match x, y with
  | .ok a, .ok b =>
      exact .ok (Option.some.inj h)
  | .error e, .error f =>
      exact .error trivial

theorem Agree.mapError
    {ε' : Type} {R' : ε' → ε' → Prop} {x y : Except ε α} {f : ε → ε'} (h : Agree R S x y)
    (hf : ∀ e e', R e e' → R' (f e) (f e')) :
    Agree R' S (x.mapError f) (y.mapError f) := by
  cases h with
  | ok h =>
      exact .ok h
  | error h =>
      exact .error (hf _ _ h)

/-- Two computations that agree on each item of a list agree on the list. -/
theorem Agree.mapM
    {f g : α → Except ε β} {xs : List α} (h : ∀ x ∈ xs, Agree R T (f x) (g x)) :
    Agree R (List.Forall₂ T) (xs.mapM f) (xs.mapM g) := by
  induction xs with
  | nil =>
      exact .ok .nil
  | cons x xs ih =>
      have hrest : Agree R (List.Forall₂ T) (xs.mapM f) (xs.mapM g) :=
        ih fun y hy => h y (by simp [hy])
      rw [mapM_cons, mapM_cons]
      exact (h x (by simp)).bind fun _ _ hab => hrest.map fun _ _ habs => .cons hab habs

end Agreement

end Outcome
end CypherBatch
