import EasyUsb.Ledger

namespace EasyUsb

open Foundation

/-- Each of the devices is removed, whatever state it is in. -/
def removeAll (busids : List BusId) : List RegistryCommand :=
  busids.map .removeDevice

theorem lookup_removeAll (busids : List BusId) (snapshot : RegistrySnapshot) (busid : BusId) :
    (runCommands (removeAll busids) snapshot).devices.lookup busid =
      if busid ∈ busids then none else snapshot.devices.lookup busid := by
  induction busids generalizing snapshot with
  | nil => rfl
  | cons first rest ih =>
    have later : (runCommands (removeAll (first :: rest)) snapshot).devices.lookup busid = _ :=
      ih (handleCommand (.removeDevice first) snapshot)
    rw [later]
    by_cases again : busid ∈ rest
    · rw [if_pos again, if_pos (List.mem_cons_of_mem first again)]
    · rw [if_neg again]
      by_cases named : busid = first
      · subst named
        rw [if_pos List.mem_cons_self]
        exact lookup_handleCommand_self (.removeDevice busid) snapshot
      · have absent : busid ∉ first :: rest := by simp [named, again]
        rw [if_neg absent]
        exact lookup_handleCommand_ne snapshot named

/-- A book without devices has no claims left either. -/
theorem Ledger.eq_empty {l : Ledger} (gone : ∀ busid, l.devices busid = none) :
    l = Ledger.empty := by
  have unclaimed : l.custody.claims = [] := by
    apply List.eq_nil_iff_forall_not_mem.mpr
    intro ⟨busid, session⟩ claim
    have held := (l.held busid session).mp claim
    rw [gone busid] at held
    cases held
  exact Ledger.ext (funext gone) (Custody.ext unclaimed)

theorem Refines.eq_default {snapshot : RegistrySnapshot} {l : Ledger} (h : Refines snapshot l)
    (gone : ∀ busid, snapshot.devices.lookup busid = none) : snapshot = .default := by
  have blank : l = Ledger.empty :=
    Ledger.eq_empty fun busid => (h.devices busid).symm.trans (gone busid)
  subst blank
  exact h.unique refines_default

/-- Removing the devices it has takes any reachable snapshot back to the empty one:
the session lists go with the devices on them. -/
theorem runCommands_removeAll (past : List RegistryCommand) :
    runCommands (removeAll (snapshotAfter past).devices.keys.toList) (snapshotAfter past) =
      .default := by
  refine ((refines_snapshotAfter past).runCommands _).eq_default fun busid => ?_
  rw [lookup_removeAll]
  by_cases present : busid ∈ (snapshotAfter past).devices
  · have listed : busid ∈ (snapshotAfter past).devices.keys.toList :=
      Finset.mem_toList.mpr (Finmap.mem_keys.mpr present)
    rw [if_pos listed]
  · rw [Finmap.lookup_eq_none.mpr present, ite_self]

/-- From every reachable snapshot some commands lead to every other one. -/
theorem exists_route (past target : List RegistryCommand) :
    ∃ route, runCommands route (snapshotAfter past) = snapshotAfter target := by
  refine ⟨removeAll (snapshotAfter past).devices.keys.toList ++ target, ?_⟩
  rw [runCommands_append, runCommands_removeAll]
  rfl

end EasyUsb
