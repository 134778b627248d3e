import Mathlib.Data.List.Basic

namespace Foundation

/-- A code none of whose words begins another. -/
structure PrefixCode (β α : Type) where
  word : α → List β
  nonempty : ∀ a, word a ≠ []
  prefixFree : ∀ a b, word a <+: word b → a = b

namespace PrefixCode

variable {β α : Type} (code : PrefixCode β α)

/-- A stream as a reader cuts it up that takes items of one kind: the items it finds
one after the other, and what is left where it finds no further one. -/
structure Cuts (P : α → Prop) (stream : List β) (items : List α) (rest : List β) : Prop where
  split : stream = items.flatMap code.word ++ rest
  taken : ∀ a ∈ items, P a
  stuck : ∀ a, P a → ¬code.word a <+: rest

/-- The leading items whose words lie wholly within the first `n` places. -/
def whole : Nat → List α → List α
  | _, [] => []
  | n, a :: items =>
    if (code.word a).length ≤ n then a :: whole (n - (code.word a).length) items else []

variable {code} {P : α → Prop} {stream rest : List β} {items : List α}

theorem exists_cuts (P : α → Prop) (stream : List β) :
    ∃ items rest, code.Cuts P stream items rest := by
  induction size : stream.length using Nat.strongRecOn generalizing stream with
  | ind n ih =>
    by_cases more : ∃ a, P a ∧ code.word a <+: stream
    · obtain ⟨a, kind, tail, rfl⟩ := more
      have pos : 0 < (code.word a).length := List.length_pos_iff.mpr (code.nonempty a)
      rw [List.length_append] at size
      obtain ⟨items, rest, cuts⟩ := ih tail.length (by omega) tail rfl
      refine ⟨a :: items, rest, ?_, List.forall_mem_cons.mpr ⟨kind, cuts.taken⟩, cuts.stuck⟩
      rw [List.flatMap_cons, List.append_assoc, ← cuts.split]
    · refine ⟨[], stream, rfl, fun a mem => ?_, fun a kind front => more ⟨a, kind, front⟩⟩
      cases mem

end PrefixCode

end Foundation
