import Mathlib
import TransitRevenue.Fault
/-!
Reading the outcome of a computation that may fail off the outcomes of its parts.

A bind succeeds exactly when both of its parts do (`Except.bind_eq_ok`); a map over a list
succeeds with the items mapped one by one (`Except.mapM_eq_ok_of`, and `Except.filterMapM_eq_ok_filterMap`
when each item's verdict is known), or, when each item only
succeeds somehow, with results that correspond to the items one to one and in order
(`Except.mapM_forall₂`).
-/

namespace TransitRevenue

namespace Except

variable {ε α β γ : Type}

theorem bind_eq_ok {x : Except ε α} {f : α → Except ε β} {y : β} :
    x >>= f = .ok y ↔ ∃ a, x = .ok a ∧ f a = .ok y := by
  cases x <;> simp [bind, Except.bind]

@[simp] theorem ok_bind {a : α} {f : α → Except ε β} : (Except.ok a >>= f) = f a := rfl

@[simp] theorem error_bind {e : ε} {f : α → Except ε β} : (Except.error e >>= f) = .error e := rfl

@[simp] theorem map_ok {f : α → β} {a : α} : (Except.ok a : Except ε α).map f = .ok (f a) := rfl

@[simp] theorem map_error {f : α → β} {e : ε} : (Except.error e : Except ε α).map f = .error e :=
  rfl

/-- Renaming the error changes no success. -/
theorem mapError_eq_ok {ε' : Type} {x : Except ε α} {g : ε → ε'} {a : α} :
    x.mapError g = .ok a ↔ x = .ok a := by
  cases x <;> simp [Except.mapError]

theorem exists_eq_ok_of_isOk {x : Except ε α} (h : x.isOk = true) : ∃ a, x = .ok a := by
  cases x with
  | ok a => exact ⟨a, rfl⟩
  | error e => simp [Except.isOk, Except.toBool] at h

/-- A bind whose first part succeeds, and whose second succeeds on what the first gives,
succeeds. -/
theorem bind_ok_of_exists {x : Except ε α} {f : α → Except ε β} {P : β → Prop} (hx : ∃ a, x = .ok a)
    (hf : ∀ a, x = .ok a → ∃ y, f a = .ok y ∧ P y) : ∃ y, x >>= f = .ok y ∧ P y := by
  obtain ⟨a, ha⟩ := hx
  rw [ha]
  exact hf a ha

/-- A map over a list whose every item maps to `g` of it gives the list mapped by `g`. -/
theorem mapM_eq_ok_of {f : α → Except ε β} {g : α → β} :
    ∀ {xs : List α}, (∀ x ∈ xs, f x = .ok (g x)) → xs.mapM f = .ok (xs.map g)
  | [], _ => rfl
  | x :: xs, h => by
    rw [List.mapM_cons, h x (by simp), ok_bind, mapM_eq_ok_of fun y hy => h y (by simp [hy])]
    rfl

/-- A map over a list whose every item succeeds, with a result related to it by `R`, succeeds
with results related one to one to the items. -/
theorem mapM_forall₂ {f : α → Except ε β} {R : α → β → Prop} :
    ∀ {l : List α}, (∀ x ∈ l, ∃ y, f x = .ok y ∧ R x y) →
      ∃ ys, l.mapM f = .ok ys ∧ List.Forall₂ R l ys
  | [], _ => ⟨[], rfl, .nil⟩
  | x :: xs, h => by
    obtain ⟨y, hy, hr⟩ := h x (by simp)
    obtain ⟨ys, hys, hrs⟩ := mapM_forall₂ (l := xs) fun z hz => h z (List.mem_cons_of_mem _ hz)
    refine ⟨y :: ys, ?_, .cons hr hrs⟩
    rw [List.mapM_cons, hy, ok_bind, hys]
    rfl

/-! Items and results related one to one, in order. -/

theorem forall₂_exists_left {R : α → β → Prop} :
    ∀ {xs : List α} {ys : List β}, List.Forall₂ R xs ys → ∀ x ∈ xs, ∃ y ∈ ys, R x y
  | _, _, .nil, _, hx => by simp at hx
  | _, _, .cons hr h, x, hx => by
    rcases List.mem_cons.1 hx with rfl | hx
    · exact ⟨_, List.mem_cons_self, hr⟩
    · obtain ⟨y, hy, hxy⟩ := forall₂_exists_left h x hx
      exact ⟨y, List.mem_cons_of_mem _ hy, hxy⟩

theorem forall₂_exists_right {R : α → β → Prop} :
    ∀ {xs : List α} {ys : List β}, List.Forall₂ R xs ys → ∀ y ∈ ys, ∃ x ∈ xs, R x y
  | _, _, .nil, _, hy => by simp at hy
  | _, _, .cons hr h, y, hy => by
    rcases List.mem_cons.1 hy with rfl | hy
    · exact ⟨_, List.mem_cons_self, hr⟩
    · obtain ⟨x, hx, hxy⟩ := forall₂_exists_right h y hy
      exact ⟨x, List.mem_cons_of_mem _ hx, hxy⟩

/-- An order among the items carries over to their results. -/
theorem forall₂_pairwise {R : α → β → Prop} {S : α → α → Prop} {T : β → β → Prop}
    (hRS : ∀ a a' b b', R a b → R a' b' → S a a' → T b b') :
    ∀ {xs : List α} {ys : List β}, List.Forall₂ R xs ys → xs.Pairwise S → ys.Pairwise T
  | _, _, .nil, _ => .nil
  | _, _, .cons hr h, hp => by
    rw [List.pairwise_cons] at hp ⊢
    refine ⟨fun b' hb' => ?_, forall₂_pairwise hRS h hp.2⟩
    obtain ⟨a', ha', hr'⟩ := forall₂_exists_right h b' hb'
    exact hRS _ _ _ _ hr hr' (hp.1 a' ha')

/-- A filtering map over a list whose every item succeeds with `g` of it gives the list
filtered by `g`. -/
theorem filterMapM_eq_ok_filterMap {f : α → Except ε (Option β)} {g : α → Option β} :
    ∀ {xs : List α}, (∀ x ∈ xs, f x = .ok (g x)) → xs.filterMapM f = .ok (xs.filterMap g)
  | [], _ => rfl
  | x :: xs, h => by
    rw [List.filterMapM_cons, h x (by simp), ok_bind, List.filterMap_cons]
    cases g x <;> simp only [filterMapM_eq_ok_filterMap fun y hy => h y (List.mem_cons_of_mem _ hy)]
    all_goals rfl

/-- A filtering map over a list whose every item keeps `g` of it gives the list mapped by `g`. -/
theorem filterMapM_eq_ok_of {f : α → Except ε (Option β)} {g : α → β}
    {xs : List α} (h : ∀ x ∈ xs, f x = .ok (some (g x))) : xs.filterMapM f = .ok (xs.map g) := by
  rw [filterMapM_eq_ok_filterMap h]
  exact congrArg _ (congrFun List.filterMap_eq_map xs)

end Except

end TransitRevenue
