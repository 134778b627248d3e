import EasyUsb.Ledger

namespace EasyUsb

open Foundation

/-- The command at position `i` of the run took the device into `Forwarded(session)`. -/
def TookAt (cmds : List RegistryCommand) (busid : BusId) (session : SessionId) (i : Nat) : Prop :=
  i < cmds.length ∧
    (snapshotAfter (cmds.take i)).stateOf busid ≠ some (.forwarded session) ∧
    (snapshotAfter (cmds.take (i + 1))).stateOf busid = some (.forwarded session)

def LastTook (cmds : List RegistryCommand) (busid : BusId) (session : SessionId) (i : Nat) : Prop :=
  TookAt cmds busid session i ∧ ∀ j, TookAt cmds busid session j → j ≤ i

def TookBefore (cmds : List RegistryCommand) (session : SessionId) (busid busid' : BusId) : Prop :=
  ∃ i j, LastTook cmds busid session i ∧ LastTook cmds busid' session j ∧ i < j

/-- The reverse index of a run's snapshot mirrors its devices. -/
structure IndexMirrors (cmds : List RegistryCommand) : Prop where
  keyed : ∀ busid entry, (snapshotAfter cmds).devices.lookup busid = some entry →
    busid = ⟨entry.device.busid⟩
  unlisted : ∀ session,
    (∀ busid, (snapshotAfter cmds).stateOf busid ≠ some (.forwarded session)) →
      (snapshotAfter cmds).forwardings.lookup session = none
  listed : ∀ session,
    (∃ busid, (snapshotAfter cmds).stateOf busid = some (.forwarded session)) →
      ∃ busids, (snapshotAfter cmds).forwardings.lookup session = some busids ∧
        busids ≠ [] ∧ busids.Nodup ∧
        (∀ busid, busid ∈ busids ↔
          (snapshotAfter cmds).stateOf busid = some (.forwarded session)) ∧
        busids.Pairwise (TookBefore cmds session)

theorem tookAt_concat {cmds : List RegistryCommand} {cmd : RegistryCommand} {busid : BusId}
    {session : SessionId} {i : Nat} (early : i < cmds.length) :
    TookAt (cmds ++ [cmd]) busid session i ↔ TookAt cmds busid session i := by
  have before : (cmds ++ [cmd]).take i = cmds.take i := List.take_append_of_le_length (by omega)
  have after : (cmds ++ [cmd]).take (i + 1) = cmds.take (i + 1) :=
    List.take_append_of_le_length (by omega)
  have late : i < (cmds ++ [cmd]).length := by simp; omega
  rw [TookAt, TookAt, before, after]
  simp only [early, late, true_and]

theorem tookAt_last {cmds : List RegistryCommand} {cmd : RegistryCommand} {busid : BusId}
    {session : SessionId} :
    TookAt (cmds ++ [cmd]) busid session cmds.length ↔
      (snapshotAfter cmds).stateOf busid ≠ some (.forwarded session) ∧
        (snapshotAfter (cmds ++ [cmd])).stateOf busid = some (.forwarded session) := by
  have before : (cmds ++ [cmd]).take cmds.length = cmds := List.take_left
  have after : (cmds ++ [cmd]).take (cmds.length + 1) = cmds ++ [cmd] :=
    List.take_of_length_le (by simp)
  simp [TookAt, before, after]

/-- A device that is still forwarded was taken when it was taken before. -/
theorem LastTook.concat {cmds : List RegistryCommand} {cmd : RegistryCommand} {busid : BusId}
    {session : SessionId} {i : Nat} (took : LastTook cmds busid session i)
    (held : (snapshotAfter cmds).stateOf busid = some (.forwarded session)) :
    LastTook (cmds ++ [cmd]) busid session i := by
  have early : i < cmds.length := took.1.1
  refine ⟨(tookAt_concat early).mpr took.1, fun j tookJ => ?_⟩
  have inside : j < (cmds ++ [cmd]).length := tookJ.1
  rw [List.length_append, List.length_singleton] at inside
  by_cases last : j = cmds.length
  · subst last
    exact absurd held (tookAt_last.mp tookJ).1
  · have earlyJ : j < cmds.length := by omega
    exact took.2 j ((tookAt_concat earlyJ).mp tookJ)

theorem lastTook_last {cmds : List RegistryCommand} {cmd : RegistryCommand} {busid : BusId}
    {session : SessionId}
    (before : (snapshotAfter cmds).stateOf busid ≠ some (.forwarded session))
    (after : (snapshotAfter (cmds ++ [cmd])).stateOf busid = some (.forwarded session)) :
    LastTook (cmds ++ [cmd]) busid session cmds.length := by
  refine ⟨tookAt_last.mpr ⟨before, after⟩, fun j took => ?_⟩
  have inside : j < (cmds ++ [cmd]).length := took.1
  rw [List.length_append, List.length_singleton] at inside
  omega

/-- The book of a run holds a claim for each forwarded device and no other. -/
theorem mem_claims_iff {cmds : List RegistryCommand} {busid : BusId} {session : SessionId} :
    (busid, session) ∈ (Ledger.empty.run cmds).custody.claims ↔
      (snapshotAfter cmds).stateOf busid = some (.forwarded session) := by
  have slot := (refines_snapshotAfter cmds).devices busid
  rw [Ledger.held, ← slot, sessionOf_eq_some, RegistrySnapshot.stateOf]

theorem exists_lastTook {cmds : List RegistryCommand} {busid : BusId} {session : SessionId}
    (held : (snapshotAfter cmds).stateOf busid = some (.forwarded session)) :
    ∃ i, LastTook cmds busid session i := by
  induction cmds using List.reverseRecOn with
  | nil => cases held
  | append_singleton cmds cmd ih =>
    by_cases before : (snapshotAfter cmds).stateOf busid = some (.forwarded session)
    · obtain ⟨i, took⟩ := ih before
      exact ⟨i, took.concat before⟩
    · exact ⟨_, lastTook_last before held⟩

theorem claims_pairwise (cmds : List RegistryCommand) :
    (Ledger.empty.run cmds).custody.claims.Pairwise fun c d =>
      ∃ i j, LastTook cmds c.1 c.2 i ∧ LastTook cmds d.1 d.2 j ∧ i < j := by
  induction cmds using List.reverseRecOn with
  | nil => exact List.Pairwise.nil
  | append_singleton cmds cmd ih =>
    rw [Ledger.run_concat]
    refine Custody.handOver_pairwise ?_ ?_
    · refine ih.imp_of_mem ?_
      rintro ⟨b, s⟩ ⟨b', s'⟩ mem mem' ⟨i, j, tookI, tookJ, lt⟩
      exact ⟨i, j, tookI.concat (mem_claims_iff.mp mem), tookJ.concat (mem_claims_iff.mp mem'), lt⟩
    · rintro session taken fresh ⟨b, s⟩ mem
      have held := mem_claims_iff.mp mem
      obtain ⟨i, took⟩ := exists_lastTook held
      have claim : (cmd.busid, session) ∈ (Ledger.empty.run (cmds ++ [cmd])).custody.claims := by
        rw [Ledger.run_concat]
        exact Custody.mem_handOver_self.mpr taken
      have new := lastTook_last (fun before => fresh (mem_claims_iff.mpr before))
        (mem_claims_iff.mp claim)
      exact ⟨i, cmds.length, took.concat held, new, took.1.1⟩

theorem mem_holdings_iff {cmds : List RegistryCommand} {busid : BusId} {session : SessionId} :
    busid ∈ (Ledger.empty.run cmds).custody.holdings session ↔
      (snapshotAfter cmds).stateOf busid = some (.forwarded session) :=
  Custody.mem_holdings.trans mem_claims_iff

theorem snapshotAfter_indexMirrors (cmds : List RegistryCommand) : IndexMirrors cmds := by
  have refines := refines_snapshotAfter cmds
  refine ⟨fun busid entry present => ?_, fun session nobody => ?_, fun session somebody => ?_⟩
  · rw [refines.devices] at present
    exact Ledger.keyed _ busid entry present
  · have none_held : (Ledger.empty.run cmds).custody.holdings session = [] :=
      List.eq_nil_iff_forall_not_mem.mpr fun busid mem => nobody busid (mem_holdings_iff.mp mem)
    rw [refines.lists, if_pos none_held]
  · obtain ⟨busid, forwarded⟩ := somebody
    have nonempty := List.ne_nil_of_mem (mem_holdings_iff.mpr forwarded)
    refine ⟨_, (refines.lists session).trans (if_neg nonempty), nonempty,
      Custody.holdings_nodup _ session, fun busid => mem_holdings_iff, ?_⟩
    exact Custody.holdings_pairwise (claims_pairwise cmds) session

end EasyUsb
