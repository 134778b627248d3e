import EasyUsb.Foundation.Custody
import Mathlib.Data.Finmap

namespace Foundation

/-- A custody kept as an index: for each owner the list of what it holds. -/
abbrev OwnerIndex (σ β : Type) := Finmap fun _ : σ => List β

namespace OwnerIndex

variable {σ β : Type} [DecidableEq σ]

/-- The index lists each owner's holdings in their order and keeps no empty list. -/
def Lists (idx : OwnerIndex σ β) (c : Custody β σ) : Prop :=
  ∀ owner, idx.lookup owner =
    if c.holdings owner = [] then none else some (c.holdings owner)

theorem lists_empty : Lists (∅ : OwnerIndex σ β) Custody.empty := by
  intro owner
  rfl

theorem Lists.lookup_getD {idx : OwnerIndex σ β} {c : Custody β σ} (h : Lists idx c)
    (owner : σ) : (idx.lookup owner).getD [] = c.holdings owner := by
  rw [h owner]
  split
  · next none_held => simp [none_held]
  · rfl

theorem Lists.lookup_congr {idx idx' : OwnerIndex σ β} {c c' : Custody β σ} (h : Lists idx c)
    (h' : Lists idx' c') {owner : σ} (same : c.holdings owner = c'.holdings owner) :
    idx.lookup owner = idx'.lookup owner := by
  rw [h owner, h' owner, same]

/-- An index whose lists are never empty, name nothing twice and share nothing is
the index of some custody. -/
theorem exists_lists {idx : OwnerIndex σ β}
    (listed : ∀ owner held, idx.lookup owner = some held → held ≠ [] ∧ held.Nodup)
    (sole : ∀ x owner owner', x ∈ (idx.lookup owner).getD [] → x ∈ (idx.lookup owner').getD [] →
      owner = owner') : ∃ c : Custody β σ, idx.Lists c := by
  have once : ∀ owner, ((idx.lookup owner).getD []).Nodup := by
    intro owner
    cases found : idx.lookup owner with
    | none => exact List.nodup_nil
    | some held => exact (listed owner held found).2
  obtain ⟨c, holdings⟩ := Custody.exists_listing (Finset.nodup_toList idx.keys) once sole
  refine ⟨c, fun owner => ?_⟩
  have member : owner ∈ idx.keys.toList ↔ owner ∈ idx :=
    Finset.mem_toList.trans Finmap.mem_keys
  rw [holdings]
  cases found : idx.lookup owner with
  | none =>
    rw [if_neg (mt member.mp (Finmap.lookup_eq_none.mp found))]
    rfl
  | some held =>
    rw [if_pos (member.mpr (Finmap.mem_of_lookup_eq_some found))]
    exact (if_neg (listed owner held found).1).symm

variable [DecidableEq β]

/-- Strike a resource off its owner's list, and the list with its last entry. -/
def leave (idx : OwnerIndex σ β) (owner : σ) (x : β) : OwnerIndex σ β :=
  match idx.lookup owner with
  | none => idx
  | some held =>
    let kept := held.filter fun y => y ≠ x
    if kept = [] then idx.erase owner else idx.insert owner kept

/-- Append a resource to its owner's list, unless it is there already. -/
def enter (idx : OwnerIndex σ β) (owner : σ) (x : β) : OwnerIndex σ β :=
  let held := (idx.lookup owner).getD []
  if x ∈ held then idx.insert owner held else idx.insert owner (held ++ [x])

theorem lookup_leave_ne (idx : OwnerIndex σ β) {owner other : σ} (x : β) (h : other ≠ owner) :
    (idx.leave owner x).lookup other = idx.lookup other := by
  unfold leave
  split
  · rfl
  · dsimp only
    split
    · exact Finmap.lookup_erase_ne h
    · exact Finmap.lookup_insert_of_ne _ h

theorem lookup_enter_ne (idx : OwnerIndex σ β) {owner other : σ} (x : β) (h : other ≠ owner) :
    (idx.enter owner x).lookup other = idx.lookup other := by
  unfold enter
  dsimp only
  split <;> exact Finmap.lookup_insert_of_ne _ h

theorem Lists.leave {idx : OwnerIndex σ β} {c : Custody β σ} (h : Lists idx c) {owner : σ} {x : β}
    (held : (x, owner) ∈ c.claims) : Lists (idx.leave owner x) (c.handOver x none) := by
  intro other
  by_cases ho : other = owner
  · subst ho
    have listed := h other
    have nonempty : c.holdings other ≠ [] := List.ne_nil_of_mem (Custody.mem_holdings.mpr held)
    have kept : (c.handOver x none).holdings other =
        (c.holdings other).filter fun y => y ≠ x := Custody.holdings_restrict c _ other
    rw [if_neg nonempty] at listed
    rw [OwnerIndex.leave, listed, kept]
    dsimp only
    split
    · exact Finmap.lookup_erase _ _
    · exact Finmap.lookup_insert _
  · have giver : (x, other) ∉ c.claims := fun mem => ho (c.unique mem held)
    have same := @Custody.holdings_handOver_other _ _ _ _ c x none other giver (by simp)
    rw [lookup_leave_ne _ _ ho, same]
    exact h other

theorem Lists.enter {idx : OwnerIndex σ β} {c : Custody β σ} (h : Lists idx c) {owner : σ} {x : β}
    (free : ∀ s, (x, s) ∉ c.claims) :
    Lists (idx.enter owner x) (c.handOver x (some owner)) := by
  intro other
  by_cases ho : other = owner
  · subst ho
    have absent : x ∉ c.holdings other := fun mem => free other (Custody.mem_holdings.mp mem)
    have grown : (c.handOver x (some other)).holdings other = c.holdings other ++ [x] := by
      simp [Custody.holdings, Custody.handOver_claims (free other), Custody.release_of_free free]
    rw [OwnerIndex.enter, h.lookup_getD, if_neg absent, grown]
    simp
  · have getter : some owner ≠ some other := fun eq => ho (Option.some.inj eq).symm
    rw [lookup_enter_ne _ _ ho, Custody.holdings_handOver_other (free other) getter]
    exact h other

end OwnerIndex

end Foundation
