import EasyUsb.RegistryTask

namespace EasyUsb

open Foundation

/-- There is a receiver from `snapshot()`, or one can be had now. -/
def RegistryTask.Readable (s : RegistryTask) : Prop :=
  0 < s.receivers ∨ s.owner = .alive

/-- Between two iterations of the loop every receiver, old or just obtained,
reads what all the handled commands made of the empty snapshot. -/
def ReadsFresh (acts : List TaskAction) (s : RegistryTask) : Prop :=
  s.phase = .waiting → s.Readable → s.published = snapshotAfter (handledIn acts)

/-- A snapshot is published to somebody, or changes nothing, or nobody can ever
ask for it any more. -/
def PublishSeen (_ : List TaskAction) (s : RegistryTask) (a : TaskAction) : Prop :=
  a = .publish → 0 < s.receivers ∨ s.published = s.state ∨ s.owner ≠ .alive

/-- Only publishing touches what is published or ends the handling of a command. -/
theorem published_step {capacity : Nat} {a : TaskAction} {s s' : RegistryTask}
    (taken : s.step capacity a = some s') (settled : s'.phase ≠ .handled) :
    (a = .publish ∧ s' = { s with published := s.watchSend s.state, phase := .waiting }) ∨
      (s.phase ≠ .handled ∧ s'.state = s.state ∧ s'.published = s.published ∧
        (s'.Readable → s.Readable)) := by
  cases a <;> simp only [RegistryTask.step] at taken <;> split at taken <;> cases taken <;>
    simp_all [RegistryTask.Readable]

/-- What a receiver would read is the task's own snapshot, unless a command is
being handled. -/
def Settled (_ : List TaskAction) (s : RegistryTask) : Prop :=
  s.phase ≠ .handled → s.Readable → s.published = s.state

theorem settled_step {capacity : Nat} {acts : List TaskAction} {a : TaskAction}
    {s s' : RegistryTask} (h : Settled acts s) (taken : s.step capacity a = some s')
    (seen : PublishSeen acts s a) : Settled (acts ++ [a]) s' := by
  intro settled readable
  rcases published_step taken settled with ⟨published, result⟩ | ⟨was, state, stored, earlier⟩
  · subst result
    show s.watchSend s.state = s.state
    by_cases watched : 0 < s.receivers
    · exact if_pos watched
    · have alive : s.owner = .alive := readable.resolve_left watched
      rcases seen published with received | same | gone
      · exact absurd received watched
      · exact (if_neg watched).trans same
      · exact absurd alive gone
  · rw [state, stored]
    exact h was (earlier readable)

theorem readsFresh_of_settled {acts : List TaskAction} {s : RegistryTask} (tracked : s.Tracks acts)
    (h : Settled acts s) : ReadsFresh acts s := by
  intro waiting readable
  have settled : s.phase ≠ .handled := by
    rw [waiting]
    simp
  rw [h settled readable, tracked.state]

theorem publishSeen_of_readsFresh {capacity : Nat} {acts : List TaskAction} {a : TaskAction}
    {s s' : RegistryTask} (tracked : s.Tracks acts) (taken : s.step capacity a = some s')
    (fresh : ReadsFresh (acts ++ [a]) s') : PublishSeen acts s a := by
  rintro rfl
  by_cases watched : 0 < s.receivers
  · exact Or.inl watched
  by_cases alive : s.owner = .alive
  · have after : s' = { s with published := s.watchSend s.state, phase := .waiting } := by
      simp only [RegistryTask.step] at taken
      split at taken <;> cases taken
      rfl
    subst after
    have read : s.watchSend s.state = snapshotAfter (handledIn (acts ++ [.publish])) :=
      fresh rfl (Or.inr alive)
    have kept : s.watchSend s.state = s.published := if_neg watched
    have nothing : handledIn (acts ++ [.publish]) = handledIn acts := by
      rw [handledIn_concat]
      exact List.append_nil _
    rw [kept, nothing, ← tracked.state] at read
    exact Or.inr (Or.inl read)
  · exact Or.inr (Or.inr alive)

/-- Snapshots are read fresh along exactly the runs that lose no publication. -/
theorem readsFresh_iff_publishSeen (capacity : Nat) (acts : List TaskAction) :
    (registrySystem capacity).Always ReadsFresh acts ↔
      (registrySystem capacity).StepsMeet PublishSeen acts := by
  refine System.always_iff_stepsMeet (P := Settled) ?_ ?_ ?_ ?_ acts
  · exact fun _ _ => rfl
  · exact fun acts a s s' _ h taken seen => settled_step h taken seen
  · exact fun acts s reached h => readsFresh_of_settled (tracks_run reached) h
  · exact fun acts a s s' reached taken fresh =>
      publishSeen_of_readsFresh (tracks_run reached) taken fresh

/-- A device is added before anyone subscribes. -/
def lateSubscriber : List TaskAction :=
  let device := UsbDevice.mk "1-1" 0x1234 0x5678 none none 1 2 .highSpeed 0 0 0
  [.send (.addDevice device), .recv, .handle (.addDevice device), .publish, .subscribe, .borrow]

theorem lateSubscriber_reads_stale :
    ∃ s, (registrySystem 64).after lateSubscriber = some s ∧ s.phase = .waiting ∧
      0 < s.receivers ∧ s.published = .default ∧
      s.published ≠ snapshotAfter (handledIn lateSubscriber) ∧
      ¬(registrySystem 64).Always ReadsFresh lateSubscriber := by
  have reached : ∃ s, (registrySystem 64).after lateSubscriber = some s ∧ s.phase = .waiting ∧
      s.receivers = 1 ∧ s.published = .default := ⟨_, rfl, rfl, rfl, rfl⟩
  have stale : (.default : RegistrySnapshot) ≠ snapshotAfter (handledIn lateSubscriber) := by
    decide
  obtain ⟨s, reached, waiting, watched, empty⟩ := reached
  have received : 0 < s.receivers := by rw [watched]; decide
  refine ⟨s, reached, waiting, received, empty, empty ▸ stale, fun fresh => ?_⟩
  have read := fresh _ (List.prefix_refl _) s reached waiting (Or.inl received)
  exact stale (empty.symm.trans read)

end EasyUsb
