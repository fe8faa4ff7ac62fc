import Mathlib.Data.List.Forall2
/-!
# Outcomes of checks

A check yields a value or fails with an error. The lemmas here take a successful check apart, and
`outcome` forgets the value, so that two checks can be compared by how they end.
-/

namespace SpillSelection

variable {ε ε' α β γ : Type}

/-! ## Success -/

@[simp] theorem ok_bind_iff {x : Except ε α} {f : α → Except ε β} {b : β} :
    (x >>= f) = .ok b ↔ ∃ a, x = .ok a ∧ f a = .ok b := by
  cases x <;> simp [bind, Except.bind]

@[simp] theorem ok_map_iff {x : Except ε α} {f : α → β} {b : β} :
    f <$> x = .ok b ↔ ∃ a, x = .ok a ∧ f a = b := by
  cases x <;> simp [Functor.map, Except.map]

@[simp] theorem ok_mapError_iff {x : Except ε α} {f : ε → ε'} {a : α} :
    x.mapError f = .ok a ↔ x = .ok a := by
  cases x <;> simp [Except.mapError]

@[simp] theorem ok_pure_iff {a b : α} : (pure a : Except ε α) = .ok b ↔ a = b := by
  simp [pure, Except.pure]

theorem ok_bind (a : α) (f : α → Except ε β) : (Except.ok a >>= f) = f a := rfl

theorem toOption_eq_some_iff {x : Except ε α} {a : α} : x.toOption = some a ↔ x = .ok a := by
  cases x <;> simp [Except.toOption]

/-- What is made of the one value that a check can yield. -/
theorem ok_return_iff {x : Except ε α} {p : Prop} {a : α} (h : ∀ a', x = .ok a' ↔ p ∧ a = a')
    {f : α → β} {b : β} : (do return f (← x)) = Except.ok b ↔ p ∧ f a = b := by
  simp only [ok_bind_iff, ok_pure_iff, h]
  constructor
  · rintro ⟨_, ⟨hp, rfl⟩, rfl⟩
    exact ⟨hp, rfl⟩
  · rintro ⟨hp, rfl⟩
    exact ⟨a, ⟨hp, rfl⟩, rfl⟩

/-- A check of every item succeeds when each of them does. -/
theorem ok_mapM_iff {f : α → Except ε β} {xs : List α} {ys : List β} :
    xs.mapM f = .ok ys ↔ List.Forall₂ (fun x y => f x = .ok y) xs ys := by
  induction xs generalizing ys with
  | nil => cases ys <;> simp
  | cons x xs ih =>
    rw [List.mapM_cons]
    cases ys with
    | nil => simp
    | cons y ys =>
      simp only [ok_bind_iff, ok_pure_iff, ih, List.cons.injEq, List.forall₂_cons]
      constructor
      · rintro ⟨_, hx, _, hxs, rfl, rfl⟩
        exact ⟨hx, hxs⟩
      · rintro ⟨hx, hxs⟩
        exact ⟨y, hx, ys, hxs, rfl, rfl⟩

/-- What is made of a list by a check that can yield one value of each item. -/
theorem ok_mapM_map_iff {f : α → Except ε β} {p : α → Prop} {g : α → β}
    (h : ∀ x y, f x = .ok y ↔ p x ∧ g x = y) {xs : List α} {ys : List β} :
    xs.mapM f = .ok ys ↔ (∀ x ∈ xs, p x) ∧ xs.map g = ys := by
  simp only [ok_mapM_iff, h, List.forall₂_and_left]
  rw [← List.forall₂_map_left_iff, List.forall₂_eq_eq_eq]

/-- Every item is related to something exactly if the list is related to a list. -/
theorem exists_forall₂_iff {r : α → β → Prop} {xs : List α} :
    (∃ ys, List.Forall₂ r xs ys) ↔ ∀ x ∈ xs, ∃ y, r x y := by
  induction xs with
  | nil => simp
  | cons x xs ih =>
    simp only [List.forall₂_cons_left_iff, List.forall_mem_cons, ← ih]
    constructor
    · rintro ⟨_, y, ys, hx, hxs, rfl⟩
      exact ⟨⟨y, hx⟩, ys, hxs⟩
    · rintro ⟨⟨y, hx⟩, ys, hxs⟩
      exact ⟨_, y, ys, hx, hxs, rfl⟩

theorem mapM_succeeds_iff {f : α → Except ε β} {xs : List α} :
    (∃ ys, xs.mapM f = .ok ys) ↔ ∀ x ∈ xs, ∃ y, f x = .ok y := by
  simp only [ok_mapM_iff, exists_forall₂_iff]

theorem ok_forM_iff {f : α → Except ε Unit} {xs : List α} :
    xs.forM f = .ok () ↔ ∀ x ∈ xs, f x = .ok () := by
  induction xs with
  | nil => simp [ok_pure_iff]
  | cons x xs ih =>
    rw [List.forM, ok_bind_iff, List.forall_mem_cons, ← ih]
    exact ⟨fun ⟨_, first, rest⟩ => ⟨first, rest⟩, fun ⟨first, rest⟩ => ⟨(), first, rest⟩⟩

/-- An item of one of two related lists is related to an item of the other. -/
theorem exists_of_mem_forall₂ {r : α → β → Prop} {xs : List α} {ys : List β}
    (h : List.Forall₂ r xs ys) {y : β} (hy : y ∈ ys) : ∃ x ∈ xs, r x y := by
  induction h with
  | nil => cases hy
  | cons first _ ih =>
    rcases List.mem_cons.1 hy with rfl | hy
    · exact ⟨_, by simp, first⟩
    · obtain ⟨x, hx, related⟩ := ih hy
      exact ⟨x, by simp [hx], related⟩

/-- Lists that agree item by item in what two functions make of them. -/
theorem map_eq_map_of_forall₂ {r : α → β → Prop} {f : α → γ} {g : β → γ} {xs : List α}
    {ys : List β} (each : List.Forall₂ r xs ys) (same : ∀ x ∈ xs, ∀ y, r x y → f x = g y) :
    xs.map f = ys.map g := by
  induction each with
  | nil => rfl
  | cons h _ ih =>
    rw [List.map_cons, List.map_cons, same _ (by simp) _ h,
      ih fun x hx => same x (by simp [hx])]

/-! ## How a check ends -/

/-- The error of a check, or only that it succeeds. -/
def outcome (x : Except ε α) : Except ε Unit := (fun _ => ()) <$> x

@[simp] theorem outcome_ok (a : α) : outcome (.ok a : Except ε α) = .ok () := rfl

@[simp] theorem outcome_error (e : ε) : outcome (.error e : Except ε α) = .error e := rfl

@[simp] theorem outcome_map (f : α → β) (x : Except ε α) : outcome (f <$> x) = outcome x := by
  cases x <;> rfl

/-- Checks end the same way when their parts do, whatever the first part yields. -/
theorem outcome_bind_congr {x : Except ε α} {y : Except ε β} {f : α → Except ε γ}
    {g : β → Except ε γ} (h : outcome x = outcome y) (hfg : ∀ a b, outcome (f a) = outcome (g b)) :
    outcome (x >>= f) = outcome (y >>= g) := by
  cases x with
  | error e => cases y <;> simp_all [bind, Except.bind]
  | ok a =>
    cases y with
    | error e => simp at h
    | ok b => exact hfg a b

theorem outcome_mapM_congr {f g : α → Except ε β} {xs : List α}
    (h : ∀ x ∈ xs, outcome (f x) = outcome (g x)) : outcome (xs.mapM f) = outcome (xs.mapM g) := by
  induction xs with
  | nil => rfl
  | cons x xs ih =>
    rw [List.mapM_cons, List.mapM_cons]
    refine outcome_bind_congr (h x (by simp)) fun _ _ => ?_
    exact outcome_bind_congr (ih fun x hx => h x (by simp [hx])) fun _ _ => rfl

end SpillSelection
