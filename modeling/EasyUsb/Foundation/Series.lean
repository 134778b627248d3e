import EasyUsb.Foundation.Descent

namespace Foundation

variable {σ : Type}

/-- Systems that are started one after the other. Each moves on its own, also after
later ones are started, and where the last one calls for it a fresh one is started, so
many times at most. -/
inductive Series (Step : Nat → σ → σ → Prop) (again : σ → Prop) (fresh : σ) :
    Nat → Nat → List σ → List σ → Prop where
  | here {left w : Nat} {s t : σ} {later : List σ} (step : Step w s t) :
    Series Step again fresh left w (s :: later) (t :: later)
  | later {left w : Nat} {s : σ} {later later' : List σ}
    (step : Series Step again fresh left w later later') :
    Series Step again fresh (left + 1) w (s :: later) (s :: later')
  | start {left : Nat} {s : σ} (ended : again s) :
    Series Step again fresh (left + 1) 1 [s] [s, fresh]

/-- The second list goes on where the first one ends, and has something related in
every place before. -/
inductive Front {τ : Type} (P : σ → τ → Prop) : List σ → List τ → Prop where
  | nil (later : List τ) : Front P [] later
  | cons {s : σ} {t : τ} {before : List σ} {later : List τ} (here : P s t)
    (rest : Front P before later) : Front P (s :: before) (t :: later)

namespace Front

variable {P : σ → σ → Prop}

theorem refl (self : ∀ s, P s s) (states : List σ) : Front P states states := by
  induction states with
  | nil => exact .nil _
  | cons s states ih => exact .cons (self s) ih

theorem trans (chain : ∀ s t u, P s t → P t u → P s u) {first second third : List σ}
    (left : Front P first second) (right : Front P second third) : Front P first third := by
  induction left generalizing third with
  | nil => exact .nil _
  | cons here rest ih =>
    cases right with
    | cons here' rest' => exact .cons (chain _ _ _ here here') (ih rest')

end Front

namespace Series

variable {Step : Nat → σ → σ → Prop} {again : σ → Prop} {fresh : σ}

theorem path_here {left w : Nat} {s t : σ} (path : Path Step w s t) (later : List σ) :
    Path (Series Step again fresh left) w (s :: later) (t :: later) :=
  path.map (fun s => s :: later) fun _ _ _ step => .here step

theorem path_later {left w : Nat} {later later' : List σ}
    (path : Path (Series Step again fresh left) w later later') (s : σ) :
    Path (Series Step again fresh (left + 1)) w (s :: later) (s :: later') :=
  path.map (s :: ·) fun _ _ _ step => .later step

/-- What a step leads to in one of the systems, and what another step or a fresh start
leads to, can always be brought together. -/
theorem balanced (steps : Balanced Step) (kept : ∀ w s t, Step w s t → again s → again t)
    (left : Nat) : Balanced (Series Step again fresh left) where
  positive a s t step := by
    induction step with
    | here step => exact steps.positive _ _ _ step
    | later _ ih => exact ih
    | start => exact Nat.one_pos
  peak a b s t u first second := by
    induction first generalizing b u with
    | @here left a s t later step =>
      cases second with
      | here step' =>
        obtain ⟨p, q, v, fromT, fromU, sum⟩ := steps.peak _ _ _ _ _ step step'
        exact ⟨p, q, _, path_here fromT later, path_here fromU later, sum⟩
      | later step' =>
        exact ⟨b, a, _, .single (.later step'), .single (.here step), Nat.add_comm _ _⟩
      | start ended =>
        have still := kept _ _ _ step ended
        exact ⟨1, a, _, .single (.start still), .single (.here step), Nat.add_comm _ _⟩
    | @later left a s later later' step ih =>
      cases second with
      | here step' =>
        exact ⟨b, a, _, .single (.here step'), .single (.later step), Nat.add_comm _ _⟩
      | later step' =>
        obtain ⟨p, q, v, fromT, fromU, sum⟩ := ih _ _ step'
        exact ⟨p, q, _, path_later fromT s, path_later fromU s, sum⟩
      | start => cases step
    | start ended =>
      cases second with
      | here step' =>
        have still := kept _ _ _ step' ended
        exact ⟨b, 1, _, .single (.here step'), .single (.start still), Nat.add_comm _ _⟩
      | later step' => cases step'
      | start => exact ⟨0, 0, _, .refl _, .refl _, rfl⟩

theorem front {P : σ → σ → Prop} (self : ∀ s, P s s) (step : ∀ w s t, Step w s t → P s t)
    {left w : Nat} {states states' : List σ}
    (moved : Series Step again fresh left w states states') : Front P states states' := by
  induction moved with
  | here taken => exact .cons (step _ _ _ taken) (.refl self _)
  | @later left w s later later' _ ih => exact .cons (self s) ih
  | @start left s _ => exact .cons (self s) (.nil _)

/-- Nothing moves where no system does, and there is to be no other one. -/
theorem no_step {states : List σ} (still : ∀ s ∈ states, ∀ w t, ¬Step w s t) {left : Nat}
    (last : states.length = left + 1 ∨ ∀ s ∈ states, ¬again s) (w : Nat) (states' : List σ) :
    ¬Series Step again fresh left w states states' := by
  intro moved
  induction moved with
  | here taken => exact still _ List.mem_cons_self _ _ taken
  | @later left w s later later' _ ih =>
    refine ih (fun s mem => still s (List.mem_cons_of_mem _ mem)) (last.imp ?_ ?_)
    · intro full
      exact Nat.succ.inj full
    · exact fun none s mem => none s (List.mem_cons_of_mem _ mem)
  | @start left s ended =>
    rcases last with full | none
    · cases full
    · exact none s List.mem_cons_self ended

/-- Where a system that runs to its end always calls for another one, all end like it. -/
theorem replicate {w : Nat} {last : σ} (way : Path Step w fresh last) (called : again last)
    (left : Nat) : ∃ total,
    Path (Series Step again fresh left) total [fresh] (List.replicate (left + 1) last) := by
  induction left with
  | zero => exact ⟨w, path_here way []⟩
  | succ left ih =>
    obtain ⟨total, others⟩ := ih
    exact ⟨w + (1 + total),
      (path_here way []).trans (.cons (.start called) (path_later others last))⟩

end Series

end Foundation
