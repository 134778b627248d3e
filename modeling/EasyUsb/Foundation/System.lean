import Mathlib.Data.List.Induction

namespace Foundation

/-- A system taking step after step; `none` is an action it is not ready for. -/
structure System (σ α : Type) where
  start : σ
  step : σ → α → Option σ

namespace System

variable {σ α : Type} (sys : System σ α)

def after (acts : List α) : Option σ :=
  acts.foldl (fun reached a => reached.bind fun s => sys.step s a) (some sys.start)

/-- `Q` holds in every state the run passes, told with the actions that led there. -/
def Always (Q : List α → σ → Prop) (acts : List α) : Prop :=
  ∀ before, before <+: acts → ∀ s, sys.after before = some s → Q before s

/-- Every step of the run is taken where `ok` allows it. -/
def StepsMeet (ok : List α → σ → α → Prop) (acts : List α) : Prop :=
  ∀ before a, before ++ [a] <+: acts → ∀ s s', sys.after before = some s →
    sys.step s a = some s' → ok before s a

variable {sys}

theorem after_concat {acts : List α} {a : α} {s' : σ} :
    sys.after (acts ++ [a]) = some s' ↔ ∃ s, sys.after acts = some s ∧ sys.step s a = some s' := by
  rw [after, List.foldl_append]
  exact Option.bind_eq_some_iff

theorem invariant {P : List α → σ → Prop} (start : P [] sys.start)
    (step : ∀ acts a s s', P acts s → sys.step s a = some s' → P (acts ++ [a]) s')
    {acts : List α} {s : σ} (reached : sys.after acts = some s) : P acts s := by
  induction acts using List.reverseRecOn generalizing s with
  | nil =>
    cases reached
    exact start
  | append_singleton acts a ih =>
    obtain ⟨old, before, taken⟩ := after_concat.mp reached
    exact step acts a old s (ih before) taken

/-- An invariant kept by the steps that `ok` allows holds along the runs that take
only those. -/
theorem always_of_stepsMeet {P : List α → σ → Prop} {ok : List α → σ → α → Prop}
    (start : P [] sys.start)
    (step : ∀ acts a s s', sys.after acts = some s → P acts s → sys.step s a = some s' →
      ok acts s a → P (acts ++ [a]) s')
    {acts : List α} (allowed : sys.StepsMeet ok acts) : sys.Always P acts := by
  intro before isPrefix
  induction before using List.reverseRecOn with
  | nil =>
    intro s reached
    cases reached
    exact start
  | append_singleton before a ih =>
    intro s reached
    obtain ⟨old, reachedOld, taken⟩ := after_concat.mp reached
    have shorter : before <+: acts := (List.prefix_append before [a]).trans isPrefix
    exact step before a old s reachedOld (ih shorter old reachedOld) taken
      (allowed before a isPrefix old s reachedOld taken)

/-- When moreover a step that `ok` forbids breaks `Q` at once, the runs along which
`Q` holds are exactly those that take only allowed steps. -/
theorem always_iff_stepsMeet {P Q : List α → σ → Prop} {ok : List α → σ → α → Prop}
    (start : P [] sys.start)
    (step : ∀ acts a s s', sys.after acts = some s → P acts s → sys.step s a = some s' →
      ok acts s a → P (acts ++ [a]) s')
    (use : ∀ acts s, sys.after acts = some s → P acts s → Q acts s)
    (breaks : ∀ acts a s s', sys.after acts = some s → sys.step s a = some s' →
      Q (acts ++ [a]) s' → ok acts s a) (acts : List α) :
    sys.Always Q acts ↔ sys.StepsMeet ok acts := by
  constructor
  · intro holds before a isPrefix s s' reached taken
    have next := holds (before ++ [a]) isPrefix s' (after_concat.mpr ⟨s, reached, taken⟩)
    exact breaks before a s s' reached taken next
  · intro allowed before isPrefix s reached
    exact use before s reached (always_of_stepsMeet start step allowed before isPrefix s reached)

end System

end Foundation
