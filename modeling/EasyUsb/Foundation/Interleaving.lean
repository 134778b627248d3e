import Mathlib.Logic.Function.Basic

namespace Foundation

/-- `w` takes the elements of the sequences one at a time and keeps the order of
each sequence. -/
inductive Interleaves {ι α : Type} [DecidableEq ι] : (ι → List α) → List α → Prop where
  | nil {seqs : ι → List α} (exhausted : ∀ i, seqs i = []) : Interleaves seqs []
  | cons {seqs : ι → List α} {i : ι} {a : α} {rest w : List α} (head : seqs i = a :: rest)
    (tail : Interleaves (Function.update seqs i rest) w) : Interleaves seqs (a :: w)

namespace Interleaves

variable {ι α : Type} [DecidableEq ι]

theorem mem_update {seqs : ι → List α} {i : ι} {a : α} {rest : List α}
    (head : seqs i = a :: rest) {j : ι} {b : α} (mem : b ∈ Function.update seqs i rest j) :
    b ∈ seqs j := by
  by_cases same : j = i
  · subst same
    rw [Function.update_self] at mem
    rw [head]
    exact List.mem_cons_of_mem a mem
  · rwa [Function.update_of_ne same] at mem

theorem mem_iff {seqs : ι → List α} {w : List α} (h : Interleaves seqs w) {b : α} :
    b ∈ w ↔ ∃ i, b ∈ seqs i := by
  induction h with
  | nil exhausted => simp [exhausted]
  | @cons seqs i a rest w head tail ih =>
    rw [List.mem_cons, ih]
    constructor
    · rintro (rfl | ⟨j, mem⟩)
      · exact ⟨i, by simp [head]⟩
      · exact ⟨j, mem_update head mem⟩
    · rintro ⟨j, mem⟩
      by_cases same : j = i
      · subst same
        rw [head] at mem
        rcases List.mem_cons.mp mem with eq | later
        · exact Or.inl eq
        · exact Or.inr ⟨j, by rwa [Function.update_self]⟩
      · exact Or.inr ⟨j, by rwa [Function.update_of_ne same]⟩

/-- Who overlooks every sequence but one sees of the interleaving what that one shows. -/
theorem filter_eq {seqs : ι → List α} {w : List α} (h : Interleaves seqs w) {p : α → Bool} {i : ι}
    (others : ∀ j, j ≠ i → ∀ a ∈ seqs j, p a = false) : w.filter p = (seqs i).filter p := by
  induction h with
  | nil exhausted => rw [exhausted i]
  | @cons seqs j a rest w head tail ih =>
    have rest_eq := ih fun k apart b mem => others k apart b (mem_update head mem)
    by_cases same : j = i
    · subst same
      rw [Function.update_self] at rest_eq
      rw [List.filter_cons, rest_eq, head, List.filter_cons]
    · have out : p a = false := others j same a (by simp [head])
      rw [Function.update_of_ne (Ne.symm same)] at rest_eq
      rw [List.filter_cons_of_neg (by simp [out]), rest_eq]

end Interleaves

end Foundation
