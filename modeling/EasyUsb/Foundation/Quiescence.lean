import EasyUsb.Foundation.System

namespace Foundation

namespace System

variable {σ α : Type} (sys : System σ α) (own : α → Bool)

/-- There is nothing left to do for one part of the system on its own. -/
def Quiet (s : σ) : Prop :=
  ∀ a, own a = true → sys.step s a = none

/-- Each of the part's own steps uses up some of its work; of the others, `gives`
brings it so much more and the rest none. -/
structure Spends (work : σ → Nat) (gives : α → Bool) (share : Nat) : Prop where
  falls : ∀ s a s', sys.step s a = some s' → own a = true → work s' < work s
  keeps : ∀ s a s', sys.step s a = some s' → own a = false →
    work s' ≤ work s + if gives a then share else 0

variable {sys own} {work : σ → Nat} {gives : α → Bool} {share : Nat}

/-- In a whole run the part takes at most as many steps as it had work and was given. -/
theorem countP_own_le (spends : sys.Spends own work gives share) {acts : List α} {s : σ}
    (reached : sys.after acts = some s) :
    acts.countP own + work s ≤ work sys.start + share * acts.countP gives := by
  induction acts using List.reverseRecOn generalizing s with
  | nil =>
    cases reached
    simp
  | append_singleton acts a ih =>
    obtain ⟨old, before, taken⟩ := after_concat.mp reached
    have earlier := ih before
    rw [List.countP_append, List.countP_append, Nat.mul_add]
    cases mine : own a with
    | true =>
      have less := spends.falls old a s taken mine
      simp [mine]
      omega
    | false =>
      have more := spends.keeps old a s taken mine
      cases given : gives a <;> simp [mine, given] at more ⊢ <;> omega

/-- Left alone, the part comes to rest, with what its own steps keep. -/
theorem exists_quiet (spends : sys.Spends own work gives share) {P : σ → Prop}
    (kept : ∀ s a s', sys.step s a = some s' → own a = true → P s → P s') {acts : List α} {s : σ}
    (reached : sys.after acts = some s) (here : P s) :
    ∃ more, (∀ a ∈ more, own a = true) ∧
      ∃ s', sys.after (acts ++ more) = some s' ∧ sys.Quiet own s' ∧ P s' := by
  induction left : work s using Nat.strongRecOn generalizing acts s with
  | ind n ih =>
    by_cases quiet : sys.Quiet own s
    · exact ⟨[], List.forall_mem_nil _, s, by rwa [List.append_nil], quiet, here⟩
    · obtain ⟨a, mine, ready⟩ : ∃ a, own a = true ∧ sys.step s a ≠ none := by
        by_contra none_ready
        refine quiet fun a mine => ?_
        by_contra ready
        exact none_ready ⟨a, mine, ready⟩
      obtain ⟨s', taken⟩ := Option.ne_none_iff_exists'.mp ready
      have less := spends.falls s a s' taken mine
      have next : sys.after (acts ++ [a]) = some s' := after_concat.mpr ⟨s, reached, taken⟩
      obtain ⟨more, all, s'', ends, quiet⟩ :=
        ih (work s') (by omega) next (kept s a s' taken mine here) rfl
      refine ⟨a :: more, List.forall_mem_cons.mpr ⟨mine, all⟩, s'', ?_, quiet⟩
      rwa [List.append_assoc] at ends

end System

end Foundation
