import EasyUsb.DeviceLifecycle
import EasyUsb.Foundation.Interleaving

namespace EasyUsb

open Foundation

def Names (cmds : List RegistryCommand) (busid : BusId) : Prop :=
  ∃ cmd ∈ cmds, cmd.busid = busid

instance (cmds : List RegistryCommand) (busid : BusId) : Decidable (Names cmds busid) :=
  inferInstanceAs (Decidable (∃ cmd ∈ cmds, cmd.busid = busid))

/-- Two snapshots with the same devices whose lists differ at most in the order
in which the busids of different producers stand. -/
structure SameUpToOrder {ι : Type} (seqs : ι → List RegistryCommand)
    (snapshot snapshot' : RegistrySnapshot) : Prop where
  devices : snapshot.devices = snapshot'.devices
  forwardings : ∀ session,
    Option.Rel List.Perm (snapshot.forwardings.lookup session)
      (snapshot'.forwardings.lookup session)
  order : ∀ i session p, (∀ busid j, j ≠ i → Names (seqs j) busid → p busid = false) →
    (snapshot.listOf session).filter p = (snapshot'.listOf session).filter p

/-- The run of `w` leaves each producer's busids as its own sequence does. -/
structure ProducersApart {ι : Type} (seqs : ι → List RegistryCommand) (w : List RegistryCommand)
    (start : RegistrySnapshot) : Prop where
  devices : ∀ i busid, Names (seqs i) busid →
    (runCommands w start).devices.lookup busid =
      (runCommands (seqs i) start).devices.lookup busid
  unnamed : ∀ busid, (∀ i, ¬Names (seqs i) busid) →
    (runCommands w start).devices.lookup busid = start.devices.lookup busid
  unnamedLists : ∀ session p, (∀ busid i, Names (seqs i) busid → p busid = false) →
    ((runCommands w start).listOf session).filter p = (start.listOf session).filter p
  lists : ∀ i session,
    ((runCommands w start).listOf session).filter (fun busid => Names (seqs i) busid) =
      ((runCommands (seqs i) start).listOf session).filter fun busid => Names (seqs i) busid

/-- Runs with the same commands about some busids agree on those. -/
theorem run_seen {start : RegistrySnapshot} {l : Ledger} (h : Refines start l) {p : BusId → Bool}
    {w w' : List RegistryCommand}
    (same : (w.filter fun cmd => p cmd.busid) = w'.filter fun cmd => p cmd.busid) :
    (∀ busid, p busid = true → (runCommands w start).devices.lookup busid =
      (runCommands w' start).devices.lookup busid) ∧
    ∀ session, ((runCommands w start).listOf session).filter p =
      ((runCommands w' start).listOf session).filter p := by
  have refines := h.runCommands w
  have refines' := h.runCommands w'
  have seen : (l.run w).restrict p = (l.run w').restrict p := by
    rw [Ledger.restrict_run, Ledger.restrict_run, same]
  constructor
  · intro busid inside
    have slots := congrFun (congrArg Ledger.devices seen) busid
    have slot : ∀ l : Ledger, (l.restrict p).devices busid = l.devices busid :=
      fun l => if_pos inside
    rw [refines.devices, refines'.devices, ← slot, ← slot (l.run w'), slots]
  · intro session
    have lists := congrArg (fun l : Ledger => l.custody.holdings session) seen
    have list : ∀ l : Ledger, (l.restrict p).custody.holdings session =
        (l.custody.holdings session).filter p := fun l => Custody.holdings_restrict _ p session
    rw [RegistrySnapshot.listOf, RegistrySnapshot.listOf, refines.lists.lookup_getD,
      refines'.lists.lookup_getD, ← list, ← list]
    exact lists

theorem devices_of_interleavings {ι : Type} {seqs : ι → List RegistryCommand}
    {w w' : List RegistryCommand} {start : RegistrySnapshot}
    (h : ProducersApart seqs w start) (h' : ProducersApart seqs w' start) :
    (runCommands w start).devices = (runCommands w' start).devices := by
  refine Finmap.ext_lookup fun busid => ?_
  by_cases named : ∃ i, Names (seqs i) busid
  · obtain ⟨i, named⟩ := named
    rw [h.devices i busid named, h'.devices i busid named]
  · have unnamed := not_exists.mp named
    rw [h.unnamed busid unnamed, h'.unnamed busid unnamed]

/-- Which busids a reachable snapshot lists is settled by its devices. -/
theorem lists_of_devices {cmds cmds' : List RegistryCommand}
    (devices : (snapshotAfter cmds).devices = (snapshotAfter cmds').devices)
    (session : SessionId) :
    Option.Rel List.Perm ((snapshotAfter cmds).forwardings.lookup session)
      ((snapshotAfter cmds').forwardings.lookup session) := by
  have perm : ((Ledger.empty.run cmds).custody.holdings session).Perm
      ((Ledger.empty.run cmds').custody.holdings session) := by
    refine (List.perm_ext_iff_of_nodup (Custody.holdings_nodup _ _)
      (Custody.holdings_nodup _ _)).mpr fun busid => ?_
    rw [mem_holdings_iff, mem_holdings_iff, RegistrySnapshot.stateOf, devices,
      RegistrySnapshot.stateOf]
  rw [(refines_snapshotAfter cmds).lists, (refines_snapshotAfter cmds').lists]
  by_cases nobody : (Ledger.empty.run cmds).custody.holdings session = []
  · have nobody' : (Ledger.empty.run cmds').custody.holdings session = [] :=
      List.nil_perm.mp (nobody ▸ perm)
    rw [if_pos nobody, if_pos nobody']
    exact .none
  · have somebody' : (Ledger.empty.run cmds').custody.holdings session ≠ [] :=
      fun eq => nobody (List.perm_nil.mp (eq ▸ perm))
    rw [if_neg nobody, if_neg somebody']
    exact .some perm

section

variable {ι : Type} [DecidableEq ι] {seqs : ι → List RegistryCommand} {w : List RegistryCommand}

theorem named_iff (interleaved : Interleaves seqs w) {busid : BusId} :
    Names w busid ↔ ∃ i, Names (seqs i) busid := by
  constructor
  · rintro ⟨cmd, mem, named⟩
    obtain ⟨i, mem⟩ := interleaved.mem_iff.mp mem
    exact ⟨i, cmd, mem, named⟩
  · rintro ⟨i, cmd, mem, named⟩
    exact ⟨cmd, interleaved.mem_iff.mpr ⟨i, mem⟩, named⟩

/-- Who overlooks the busids of the other producers sees one producer's commands. -/
theorem filter_own (interleaved : Interleaves seqs w) {p : BusId → Bool} {i : ι}
    (others : ∀ busid j, j ≠ i → Names (seqs j) busid → p busid = false) :
    (w.filter fun cmd => p cmd.busid) = (seqs i).filter fun cmd => p cmd.busid :=
  interleaved.filter_eq fun j apart cmd mem => others _ j apart ⟨cmd, mem, rfl⟩

theorem filter_unnamed (interleaved : Interleaves seqs w) {p : BusId → Bool}
    (out : ∀ busid i, Names (seqs i) busid → p busid = false) :
    (w.filter fun cmd => p cmd.busid) = [].filter fun cmd => p cmd.busid := by
  refine List.filter_eq_nil_iff.mpr fun cmd mem => ?_
  obtain ⟨i, named⟩ := (named_iff interleaved).mp ⟨cmd, mem, rfl⟩
  simp [out _ i named]

theorem producersApart (interleaved : Interleaves seqs w)
    (apart : ∀ i j busid, i ≠ j → Names (seqs i) busid → ¬Names (seqs j) busid)
    {start : RegistrySnapshot} {l : Ledger} (h : Refines start l) :
    ProducersApart seqs w start := by
  have own := fun i => run_seen h (p := fun busid => decide (Names (seqs i) busid))
    (filter_own interleaved fun busid j other named =>
      decide_eq_false (apart j i busid other named))
  refine ⟨fun i busid named => ?_, fun busid unnamed => ?_, fun session p out => ?_,
    fun i session => ?_⟩
  · exact (own i).1 busid (decide_eq_true named)
  · have out : ∀ other i, Names (seqs i) other → decide (other = busid) = false := by
      intro other i named
      exact decide_eq_false fun eq => unnamed i (eq ▸ named)
    have quiet := run_seen h (p := fun other => decide (other = busid))
      (filter_unnamed interleaved out)
    exact quiet.1 busid (decide_eq_true rfl)
  · exact (run_seen h (filter_unnamed interleaved out)).2 session
  · exact (own i).2 session

theorem sameUpToOrder (history : List RegistryCommand) {w' : List RegistryCommand}
    (interleaved : Interleaves seqs w) (interleaved' : Interleaves seqs w')
    (apart : ∀ i j busid, i ≠ j → Names (seqs i) busid → ¬Names (seqs j) busid) :
    SameUpToOrder seqs (runCommands w (snapshotAfter history))
      (runCommands w' (snapshotAfter history)) := by
  have start := refines_snapshotAfter history
  have devices := devices_of_interleavings (producersApart interleaved apart start)
    (producersApart interleaved' apart start)
  refine ⟨devices, fun session => ?_, fun i session p others => ?_⟩
  · rw [snapshotAfter, ← runCommands_append, ← runCommands_append] at devices ⊢
    exact lists_of_devices devices session
  · have same := (filter_own interleaved others).trans (filter_own interleaved' others).symm
    exact (run_seen start same).2 session

/-- Concurrent producers with busids of their own do not interfere. -/
theorem runCommands_producersApart (history : List RegistryCommand)
    (interleaved : Interleaves seqs w)
    (apart : ∀ i j busid, i ≠ j → Names (seqs i) busid → ¬Names (seqs j) busid) :
    ProducersApart seqs w (snapshotAfter history) ∧
      ∀ w', Interleaves seqs w' → SameUpToOrder seqs (runCommands w (snapshotAfter history))
        (runCommands w' (snapshotAfter history)) :=
  ⟨producersApart interleaved apart (refines_snapshotAfter history),
    fun _ interleaved' => sameUpToOrder history interleaved interleaved' apart⟩

end

/-- Two producers forwarding a device each to one session, the second of them
taking its device back. -/
def twoProducers : Bool → List RegistryCommand
  | false => [.transitionState ⟨"1-1"⟩ (.forwarded ⟨"s"⟩)]
  | true => [.transitionState ⟨"1-2"⟩ (.forwarded ⟨"s"⟩), .transitionState ⟨"1-2"⟩ .idle]

def twoBound : List RegistryCommand :=
  ["1-1", "1-2"].flatMap fun busid =>
    [.addDevice ⟨busid, 0x1234, 0x5678, none, none, 1, 2, .highSpeed, 0, 0, 0⟩,
      .transitionState ⟨busid⟩ .bound]

def twoInterleaved : List RegistryCommand :=
  [.transitionState ⟨"1-2"⟩ (.forwarded ⟨"s"⟩), .transitionState ⟨"1-1"⟩ (.forwarded ⟨"s"⟩),
    .transitionState ⟨"1-2"⟩ .idle]

theorem twoProducers_apart :
    ProducersApart twoProducers twoInterleaved (snapshotAfter twoBound) ∧
      ∀ w', Interleaves twoProducers w' →
        SameUpToOrder twoProducers (runCommands twoInterleaved (snapshotAfter twoBound))
          (runCommands w' (snapshotAfter twoBound)) := by
  refine runCommands_producersApart twoBound ?_ ?_
  · have done : ∀ seqs : Bool → List RegistryCommand, seqs false = [] → seqs true = [] →
        Interleaves seqs [] := fun seqs none_left none_right =>
      .nil fun i => by cases i <;> assumption
    exact .cons (i := true) rfl (.cons (i := false) rfl (.cons (i := true) rfl (done _ rfl rfl)))
  · have busids : ∀ c ∈ twoProducers false, ∀ d ∈ twoProducers true, c.busid ≠ d.busid := by
      decide
    rintro i j busid different ⟨c, memC, rfl⟩ ⟨d, memD, same⟩
    cases i <;> cases j
    · exact different rfl
    · exact busids c memC d memD same.symm
    · exact busids d memD c memC same
    · exact different rfl

end EasyUsb
