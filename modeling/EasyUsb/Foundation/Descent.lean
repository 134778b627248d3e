import Mathlib.Tactic.Common

namespace Foundation

/-- Steps after each other, with the sum of their weights. -/
inductive Path {σ : Type} (Step : Nat → σ → σ → Prop) : Nat → σ → σ → Prop where
  | refl (s : σ) : Path Step 0 s s
  | cons {a w : Nat} {s t u : σ} (step : Step a s t) (rest : Path Step w t u) :
    Path Step (a + w) s u

namespace Path

variable {σ : Type} {Step : Nat → σ → σ → Prop}

theorem single {a : Nat} {s t : σ} (step : Step a s t) : Path Step a s t := .cons step (.refl t)

theorem trans {w w' : Nat} {s t u : σ} (first : Path Step w s t) (second : Path Step w' t u) :
    Path Step (w + w') s u := by
  induction first with
  | refl s => rwa [Nat.zero_add]
  | cons step rest ih =>
    rw [Nat.add_assoc]
    exact .cons step (ih second)

theorem map {τ : Type} {Step' : Nat → τ → τ → Prop} (f : σ → τ)
    (step : ∀ a s t, Step a s t → Step' a (f s) (f t)) {w : Nat} {s t : σ}
    (path : Path Step w s t) : Path Step' w (f s) (f t) := by
  induction path with
  | refl s => exact .refl _
  | cons taken rest ih => exact .cons (step _ _ _ taken) ih

theorem keeps {P : σ → σ → Prop} (refl : ∀ s, P s s)
    (trans : ∀ s t u, P s t → P t u → P s u) (step : ∀ a s t, Step a s t → P s t) {w : Nat}
    {s t : σ} (path : Path Step w s t) : P s t := by
  induction path with
  | refl s => exact refl s
  | cons taken rest ih => exact trans _ _ _ (step _ _ _ taken) ih

end Path

/-- Every step weighs something, and two steps from one state can be completed to
a common state by ways of the same total weight. -/
structure Balanced {σ : Type} (Step : Nat → σ → σ → Prop) : Prop where
  positive : ∀ a s t, Step a s t → 0 < a
  peak : ∀ a b s t u, Step a s t → Step b s u →
    ∃ p q v, Path Step p t v ∧ Path Step q u v ∧ a + p = b + q

/-- In a balanced system one way to a state where nothing moves is enough: all
ways lead there, and none is longer than it. -/
theorem Balanced.descent {σ : Type} {Step : Nat → σ → σ → Prop} (balanced : Balanced Step)
    {goal : σ} (final : ∀ a t, ¬Step a goal t) {total w : Nat} {s t : σ}
    (way : Path Step total s goal) (other : Path Step w s t) :
    ∃ rest, Path Step rest t goal ∧ w + rest = total := by
  induction total using Nat.strongRecOn generalizing s w t with
  | ind total ih =>
    cases other with
    | refl => exact ⟨total, way, Nat.zero_add _⟩
    | @cons b w' _ u _ step tail =>
      cases way with
      | refl => exact absurd step (final b u)
      | @cons a total' _ v _ step' tail' =>
        have pos := balanced.positive _ _ _ step
        have pos' := balanced.positive _ _ _ step'
        obtain ⟨p, q, meet, left, right, same⟩ := balanced.peak _ _ _ _ _ step' step
        -- The given way passes through the state where the two steps meet.
        obtain ⟨short, finish, sum⟩ := ih total' (by omega) tail' left
        have detour := right.trans finish
        obtain ⟨rest, done, sum'⟩ := ih (q + short) (by omega) detour tail
        exact ⟨rest, done, by omega⟩

end Foundation
