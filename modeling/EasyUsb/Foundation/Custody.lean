import Mathlib.Data.List.Nodup

namespace Foundation

/-- Which owner holds which resource: no resource twice, the youngest claim last. -/
@[ext]
structure Custody (β σ : Type) where
  claims : List (β × σ)
  exclusive : (claims.map Prod.fst).Nodup

namespace Custody

variable {β σ : Type}

def empty : Custody β σ := ⟨[], List.nodup_nil⟩

theorem unique (c : Custody β σ) {x : β} {s t : σ} (hs : (x, s) ∈ c.claims)
    (ht : (x, t) ∈ c.claims) : s = t := by
  have same := List.inj_on_of_nodup_map c.exclusive hs ht rfl
  exact (Prod.mk.inj same).2

theorem exclusive_filter (c : Custody β σ) (p : β × σ → Bool) :
    ((c.claims.filter p).map Prod.fst).Nodup :=
  c.exclusive.sublist (List.filter_sublist.map _)

def restrict (c : Custody β σ) (p : β → Bool) : Custody β σ :=
  ⟨c.claims.filter fun d => p d.1, c.exclusive_filter _⟩

theorem mem_restrict {c : Custody β σ} {p : β → Bool} {d : β × σ} :
    d ∈ (c.restrict p).claims ↔ d ∈ c.claims ∧ p d.1 := by
  simp [restrict]

section

variable [DecidableEq σ]

def holdings (c : Custody β σ) (owner : σ) : List β :=
  (c.claims.filter fun d => d.2 = owner).map Prod.fst

theorem mem_holdings {c : Custody β σ} {owner : σ} {x : β} :
    x ∈ c.holdings owner ↔ (x, owner) ∈ c.claims := by
  simp [holdings]

theorem holdings_nodup (c : Custody β σ) (owner : σ) : (c.holdings owner).Nodup :=
  c.exclusive_filter _

theorem holdings_restrict (c : Custody β σ) (p : β → Bool) (owner : σ) :
    (c.restrict p).holdings owner = (c.holdings owner).filter p := by
  simp only [holdings, restrict, List.filter_filter, List.filter_map, Function.comp_def,
    Bool.and_comm]

theorem holdings_pairwise {R : β × σ → β × σ → Prop} {c : Custody β σ}
    (ordered : c.claims.Pairwise R) (owner : σ) :
    (c.holdings owner).Pairwise fun x y => R (x, owner) (y, owner) := by
  rw [holdings, List.pairwise_map]
  refine (ordered.sublist List.filter_sublist).imp_of_mem ?_
  rintro ⟨x, s⟩ ⟨y, t⟩ hx hy related
  have hs : s = owner := by simpa using (List.mem_filter.mp hx).2
  have ht : t = owner := by simpa using (List.mem_filter.mp hy).2
  subst hs
  subst ht
  exact related

/-- Each owner takes what it is to hold, one owner after the other. -/
theorem exists_listing {owners : List σ} {held : σ → List β} (apart : owners.Nodup)
    (once : ∀ owner, (held owner).Nodup)
    (sole : ∀ x owner owner', x ∈ held owner → x ∈ held owner' → owner = owner') :
    ∃ c : Custody β σ, ∀ owner, c.holdings owner = if owner ∈ owners then held owner else [] := by
  have exclusive : ((owners.flatMap fun owner => (held owner).map fun x => (x, owner)).map
      Prod.fst).Nodup := by
    have whole : (owners.flatMap fun owner => (held owner).map fun x => (x, owner)).map Prod.fst =
        owners.flatMap held := by
      simp [List.map_flatMap, Function.comp_def]
    rw [whole, List.nodup_flatMap]
    refine ⟨fun owner _ => once owner, apart.imp ?_⟩
    intro owner owner' different x here there
    exact different (sole x owner owner' here there)
  refine ⟨⟨_, exclusive⟩, fun owner => ?_⟩
  show (List.filter _ (owners.flatMap _)).map Prod.fst = _
  clear exclusive
  induction owners with
  | nil => rfl
  | cons first rest ih =>
    have others := ih apart.of_cons
    have fresh : first ∉ rest := (List.nodup_cons.mp apart).1
    rw [List.flatMap_cons, List.filter_append, List.map_append, others]
    by_cases same : owner = first
    · subst same
      have all : ((held owner).map fun x => (x, owner)).filter (fun d => d.2 = owner) =
          (held owner).map fun x => (x, owner) := by
        simp [List.filter_map, Function.comp_def]
      rw [all, if_neg fresh, if_pos List.mem_cons_self, List.append_nil]
      simp [Function.comp_def]
    · have nothing : ((held first).map fun x => (x, first)).filter (fun d => d.2 = owner) = [] := by
        simp [List.filter_map, Function.comp_def, Ne.symm same]
      have seen : owner ∈ first :: rest ↔ owner ∈ rest := by simp [same]
      rw [nothing]
      simp only [seen, List.map_nil, List.nil_append]

end

variable [DecidableEq β]

def release (c : Custody β σ) (x : β) : Custody β σ := c.restrict fun y => y ≠ x

theorem mem_release {c : Custody β σ} {x : β} {d : β × σ} :
    d ∈ (c.release x).claims ↔ d ∈ c.claims ∧ d.1 ≠ x := by
  simp [release, mem_restrict]

theorem release_of_free {c : Custody β σ} {x : β} (free : ∀ s, (x, s) ∉ c.claims) :
    c.release x = c := by
  have all : ∀ d ∈ c.claims, decide (d.1 ≠ x) = true := by
    rintro ⟨y, s⟩ mem
    have other : y ≠ x := fun eq => free s (eq ▸ mem)
    simpa using other
  exact Custody.ext (List.filter_eq_self.mpr all)

theorem restrict_release {c : Custody β σ} {p : β → Bool} (x : β) :
    (c.release x).restrict p = (c.restrict p).release x :=
  Custody.ext (by simp only [release, restrict, List.filter_filter, Bool.and_comm])

theorem restrict_release_of_not {c : Custody β σ} {p : β → Bool} {x : β} (out : p x = false) :
    (c.release x).restrict p = c.restrict p := by
  rw [restrict_release]
  exact release_of_free fun s mem => by simp [mem_restrict, out] at mem

variable [DecidableEq σ]

/-- A resource changes hands; to be handed what one holds already changes nothing. -/
def handOver (c : Custody β σ) (x : β) : Option σ → Custody β σ
  | none => c.release x
  | some s =>
    if (x, s) ∈ c.claims then c
    else ⟨(c.release x).claims ++ [(x, s)], by
      have rest := (c.release x).exclusive
      have absent : x ∉ (c.release x).claims.map Prod.fst := by simp [release, restrict]
      simpa [List.nodup_append, rest] using fun y s mem eq => absent (by
        subst eq
        exact List.mem_map_of_mem mem)⟩

theorem handOver_of_held {c : Custody β σ} {x : β} {s : σ} (held : (x, s) ∈ c.claims) :
    c.handOver x (some s) = c :=
  if_pos held

theorem handOver_claims {c : Custody β σ} {x : β} {s : σ} (fresh : (x, s) ∉ c.claims) :
    (c.handOver x (some s)).claims = (c.release x).claims ++ [(x, s)] := by
  rw [handOver, if_neg fresh]

theorem handOver_same {c : Custody β σ} {x : β} {o : Option σ}
    (held : ∀ s, (x, s) ∈ c.claims ↔ o = some s) : c.handOver x o = c := by
  cases o with
  | none => exact release_of_free fun s mem => nomatch (held s).mp mem
  | some s => exact handOver_of_held ((held s).mpr rfl)

theorem mem_handOver_self {c : Custody β σ} {x : β} {o : Option σ} {s : σ} :
    (x, s) ∈ (c.handOver x o).claims ↔ o = some s := by
  cases o with
  | none => simp [handOver, mem_release]
  | some t =>
    by_cases held : (x, t) ∈ c.claims
    · rw [handOver_of_held held]
      refine ⟨fun mem => congrArg some (c.unique held mem), fun eq => ?_⟩
      cases eq
      exact held
    · simp [handOver_claims held, mem_release, eq_comm]

theorem mem_handOver_ne {c : Custody β σ} {x : β} {o : Option σ} {d : β × σ} (other : d.1 ≠ x) :
    d ∈ (c.handOver x o).claims ↔ d ∈ c.claims := by
  have apart : ∀ s, d ≠ (x, s) := fun s eq => other (congrArg Prod.fst eq)
  cases o with
  | none => simp [handOver, mem_release, other]
  | some s =>
    by_cases held : (x, s) ∈ c.claims
    · rw [handOver_of_held held]
    · simp [handOver_claims held, mem_release, other, apart]

theorem handOver_pairwise {R : β × σ → β × σ → Prop} {c : Custody β σ} {x : β} {o : Option σ}
    (old : c.claims.Pairwise R)
    (late : ∀ s, o = some s → (x, s) ∉ c.claims → ∀ d ∈ c.claims, R d (x, s)) :
    (c.handOver x o).claims.Pairwise R := by
  have rest : (c.release x).claims.Pairwise R := old.sublist List.filter_sublist
  cases o with
  | none => exact rest
  | some s =>
    by_cases held : (x, s) ∈ c.claims
    · rw [handOver_of_held held]
      exact old
    · rw [handOver_claims held, List.pairwise_append]
      refine ⟨rest, List.pairwise_singleton _ _, fun d mem e last => ?_⟩
      rw [List.mem_singleton.mp last]
      exact late s rfl held d (mem_release.mp mem).1

/-- Looking at some of the resources only, the hand-over of one of them is all
that is seen. -/
theorem restrict_handOver (c : Custody β σ) (p : β → Bool) (x : β) (o : Option σ) :
    (c.handOver x o).restrict p =
      if p x then (c.restrict p).handOver x o else c.restrict p := by
  cases inside : p x with
  | false =>
    cases o with
    | none => exact restrict_release_of_not inside
    | some s =>
      by_cases held : (x, s) ∈ c.claims
      · rw [handOver_of_held held]
        rfl
      · have seen := congrArg claims (restrict_release_of_not (c := c) inside)
        refine Custody.ext ?_
        simpa [restrict, handOver_claims held, inside] using seen
  | true =>
    cases o with
    | none => exact restrict_release x
    | some s =>
      have seen : (x, s) ∈ (c.restrict p).claims ↔ (x, s) ∈ c.claims := by
        simp [mem_restrict, inside]
      by_cases held : (x, s) ∈ c.claims
      · rw [handOver_of_held held, if_pos rfl, handOver_of_held (seen.mpr held)]
      · have commute := congrArg claims (restrict_release (c := c) (p := p) x)
        refine Custody.ext ?_
        rw [if_pos rfl, handOver_claims (fun mem => held (seen.mp mem)), ← commute]
        simp [restrict, handOver_claims held, inside]

/-- An owner neither giving nor getting keeps its list. -/
theorem holdings_handOver_other {c : Custody β σ} {x : β} {o : Option σ} {owner : σ}
    (giver : (x, owner) ∉ c.claims) (getter : o ≠ some owner) :
    (c.handOver x o).holdings owner = c.holdings owner := by
  have kept : (c.release x).holdings owner = c.holdings owner := by
    rw [release, holdings_restrict]
    refine List.filter_eq_self.mpr fun y mem => ?_
    have other : y ≠ x := fun eq => giver (eq ▸ mem_holdings.mp mem)
    simpa using other
  cases o with
  | none => exact kept
  | some s =>
    by_cases held : (x, s) ∈ c.claims
    · rw [handOver_of_held held]
    · have another : s ≠ owner := fun eq => getter (congrArg some eq)
      rw [← kept]
      simp [holdings, handOver_claims held, another]

/-- What a hand-over makes of the list of one owner. -/
def relist (owner : σ) (x : β) (o : Option σ) (held : List β) : List β :=
  if o = some owner then if x ∈ held then held else held ++ [x]
  else held.filter fun y => y ≠ x

theorem holdings_handOver (c : Custody β σ) (x : β) (o : Option σ) (owner : σ) :
    (c.handOver x o).holdings owner = relist owner x o (c.holdings owner) := by
  have kept : (c.release x).holdings owner = (c.holdings owner).filter fun y => y ≠ x :=
    holdings_restrict c _ owner
  unfold relist
  by_cases getter : o = some owner
  · subst getter
    rw [if_pos rfl]
    by_cases held : (x, owner) ∈ c.claims
    · rw [handOver_of_held held, if_pos (mem_holdings.mpr held)]
    · have absent : x ∉ c.holdings owner := fun mem => held (mem_holdings.mp mem)
      have whole : (c.holdings owner).filter (fun y => y ≠ x) = c.holdings owner := by
        refine List.filter_eq_self.mpr fun y mem => ?_
        have other : y ≠ x := fun same => absent (same ▸ mem)
        simpa using other
      rw [if_neg absent, ← whole, ← kept]
      simp [holdings, handOver_claims held]
  · rw [if_neg getter]
    by_cases giver : (x, owner) ∈ c.claims
    · rw [← kept]
      cases o with
      | none => rfl
      | some s =>
        have fresh : (x, s) ∉ c.claims := fun held =>
          getter (congrArg some (c.unique held giver))
        have another : s ≠ owner := fun same => getter (congrArg some same)
        simp [holdings, handOver_claims fresh, another]
    · have absent : x ∉ c.holdings owner := fun mem => giver (mem_holdings.mp mem)
      rw [holdings_handOver_other giver getter]
      refine (List.filter_eq_self.mpr fun y mem => ?_).symm
      have other : y ≠ x := fun same => absent (same ▸ mem)
      simpa using other

/-- Two hand-overs of different resources can change places unless both append to
the owner's list. -/
theorem relist_comm_iff {owner : σ} {x y : β} {o o' : Option σ} {held : List β} (apart : x ≠ y) :
    relist owner y o' (relist owner x o held) = relist owner x o (relist owner y o' held) ↔
      ¬((o = some owner ∧ x ∉ held) ∧ (o' = some owner ∧ y ∉ held)) := by
  have apart' : y ≠ x := apart.symm
  unfold relist
  by_cases hx : o = some owner <;> by_cases hy : o' = some owner
  · by_cases mx : x ∈ held <;> by_cases my : y ∈ held <;> simp [hx, hy, mx, my, apart, apart']
  · by_cases mx : x ∈ held <;> simp [hx, hy, mx, apart]
  · by_cases my : y ∈ held <;> simp [hx, hy, my, apart']
  · simp [hx, hy, List.filter_filter, Bool.and_comm]

end Custody

end Foundation
