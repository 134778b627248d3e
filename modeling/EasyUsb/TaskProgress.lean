import EasyUsb.Foundation.Quiescence
import EasyUsb.RegistryTask

namespace EasyUsb

open Foundation

/-- What `run_registry` does itself. -/
def TaskAction.own : TaskAction → Bool
  | .recv => true
  | .handle _ => true
  | .publish => true
  | .recvClosed => true
  | .recvShutdown => true
  | .finish => true
  | _ => false

/-- The most steps the task can still take without being given anything: three for
each command, and two to leave the loop and return. -/
def RegistryTask.work (s : RegistryTask) : Nat :=
  match s.phase with
  | .waiting => 3 * s.queue.length + 2
  | .received _ => 3 * s.queue.length + 4
  | .handled => 3 * s.queue.length + 3
  | .leaving => 1
  | .stopped => 0

def TaskAction.accepts : TaskAction → Bool
  | .send _ => true
  | _ => false

/-- The task has come to rest: it has returned, or it waits with nothing to do. -/
structure RegistryTask.AtRest (acts : List TaskAction) (s : RegistryTask) : Prop where
  stopped : s.signalled = true → s.phase = .stopped
  waiting : s.signalled = false → s.phase = .waiting ∧ s.queue = [] ∧
    handledIn acts = acceptedIn acts ∧ s.state = snapshotAfter (acceptedIn acts)

theorem length_acceptedIn (acts : List TaskAction) :
    (acceptedIn acts).length = acts.countP TaskAction.accepts := by
  induction acts with
  | nil => rfl
  | cons a acts ih =>
    have split : acceptedIn (a :: acts) = acceptedIn [a] ++ acceptedIn acts :=
      @List.filterMap_append _ _ [a] acts _
    rw [split, List.length_append, ih, List.countP_cons]
    cases a <;> simp [acceptedIn, TaskAction.accepts, Nat.add_comm]

section

variable {capacity : Nat} {a : TaskAction} {s s' : RegistryTask}

theorem work_step_own (taken : s.step capacity a = some s') (own : a.own = true) :
    s'.work < s.work := by
  cases a <;> simp only [RegistryTask.step] at taken <;> split at taken <;> cases taken <;>
    simp_all [TaskAction.own, RegistryTask.work]
  omega

theorem work_step_other (taken : s.step capacity a = some s') (other : a.own = false) :
    s'.work ≤ s.work + if a.accepts then 3 else 0 := by
  cases a <;> simp only [RegistryTask.step] at taken <;> split at taken <;> cases taken <;>
    simp_all [TaskAction.own, TaskAction.accepts, RegistryTask.work]
  split <;> omega

/-- The task's own steps leave the handles and the signal to their owners. -/
theorem handles_step_own (taken : s.step capacity a = some s') (own : a.own = true) :
    s'.clones = s.clones ∧ s'.owner = s.owner ∧ s'.signalled = s.signalled := by
  cases a <;> simp only [RegistryTask.step] at taken <;> split at taken <;> cases taken <;>
    simp_all [TaskAction.own]

theorem room_step (taken : s.step capacity a = some s') (fits : s.queue.length ≤ capacity) :
    s'.queue.length ≤ capacity := by
  cases a <;> simp only [RegistryTask.step] at taken <;> split at taken <;> cases taken <;>
    first | exact fits | exact Nat.zero_le _ | skip
  · next ready =>
    have room := ready.2.2
    show (s.queue ++ [_]).length ≤ capacity
    rw [List.length_append, List.length_singleton]
    omega
  · next queue =>
    rw [queue] at fits
    exact Nat.le_of_succ_le fits

end

theorem registry_spends (capacity : Nat) :
    (registrySystem capacity).Spends TaskAction.own RegistryTask.work TaskAction.accepts 3 where
  falls _ _ _ taken own := work_step_own taken own
  keeps _ _ _ taken other := work_step_other taken other

theorem atRest_of_quiet {capacity : Nat} {acts : List TaskAction} {s : RegistryTask}
    (tracked : s.Tracks acts) (quiet : (registrySystem capacity).Quiet TaskAction.own s) :
    s.AtRest acts := by
  have idle : ∀ a : TaskAction, a.own = true → s.step capacity a = none := quiet
  have settled : s.phase = .waiting ∧ s.queue = [] ∧ s.signalled = false ∨ s.phase = .stopped := by
    cases phase : s.phase with
    | waiting =>
      have unheard := idle .recvShutdown rfl
      have nothing := idle .recv rfl
      simp [RegistryTask.step, phase] at unheard
      cases queue : s.queue with
      | nil => exact Or.inl ⟨rfl, rfl, unheard⟩
      | cons cmd rest => simp [RegistryTask.step, phase, queue] at nothing
    | received cmd =>
      have handles := idle (.handle cmd) rfl
      simp [RegistryTask.step, phase] at handles
    | handled =>
      have publishes := idle .publish rfl
      simp [RegistryTask.step, phase] at publishes
    | leaving =>
      have finishes := idle .finish rfl
      simp [RegistryTask.step, phase] at finishes
    | stopped => exact Or.inr rfl
  constructor
  · intro fired
    rcases settled with ⟨_, _, silent⟩ | stopped
    · rw [silent] at fired
      cases fired
    · exact stopped
  · intro silent
    rcases settled with ⟨waiting, empty, _⟩ | stopped
    · have fifo := tracked.fifo (by rw [waiting]; rfl)
      rw [waiting, empty] at fifo
      have all : handledIn acts = acceptedIn acts := by simpa [Phase.inFlight] using fifo.symm
      exact ⟨waiting, empty, all, by rw [← all]; exact tracked.state⟩
    · have fired := tracked.left (by rw [stopped]; rfl)
      rw [silent] at fired
      cases fired

/-- However its branches are chosen and whatever its users do, the task takes at
most three steps for each command and two more; left alone it comes to rest, and
then it has handled all that was accepted, or has returned because it was told to. -/
theorem registry_comes_to_rest (capacity : Nat) (acts : List TaskAction) (s : RegistryTask)
    (reached : (registrySystem capacity).after acts = some s) :
    acts.countP TaskAction.own ≤ 3 * (acceptedIn acts).length + 2 ∧
    ((registrySystem capacity).Quiet TaskAction.own s → s.AtRest acts) ∧
    ∃ more, (∀ a ∈ more, a.own = true) ∧ ∃ s', (registrySystem capacity).after (acts ++ more) =
      some s' ∧ s'.AtRest (acts ++ more) := by
  have spends := registry_spends capacity
  have bound := System.countP_own_le spends reached
  have start : (registrySystem capacity).start.work = 2 := rfl
  rw [start, ← length_acceptedIn] at bound
  refine ⟨by omega, atRest_of_quiet (tracks_run reached), ?_⟩
  obtain ⟨more, own, s', ends, quiet, _⟩ :=
    @System.exists_quiet _ _ _ _ _ _ _ spends (fun _ => True) (fun _ _ _ _ _ _ => trivial) acts s
      reached trivial
  exact ⟨more, own, s', ends, atRest_of_quiet (tracks_run ends) quiet⟩

/-- One command has been sent. -/
def oneQueued : RegistryTask :=
  { RegistryTask.withCapacity with queue := [.removeDevice ⟨"1-1"⟩] }

theorem registry_comes_to_rest_queued :
    [TaskAction.send (.removeDevice ⟨"1-1"⟩)].countP TaskAction.own ≤
      3 * (acceptedIn [.send (.removeDevice ⟨"1-1"⟩)]).length + 2 ∧
    ((registrySystem 1).Quiet TaskAction.own oneQueued →
      oneQueued.AtRest [.send (.removeDevice ⟨"1-1"⟩)]) ∧
    ∃ more, (∀ a ∈ more, a.own = true) ∧ ∃ s', (registrySystem 1).after
      ([.send (.removeDevice ⟨"1-1"⟩)] ++ more) = some s' ∧
        s'.AtRest ([.send (.removeDevice ⟨"1-1"⟩)] ++ more) :=
  registry_comes_to_rest 1 [.send (.removeDevice ⟨"1-1"⟩)] oneQueued rfl

/-- The queue never holds more than its capacity, and where it has one a send that
finds it full is only held up: the task makes room, or refuses it for having been
told to stop. -/
theorem sends_get_through (capacity : Nat) (acts : List TaskAction) (s : RegistryTask)
    (reached : (registrySystem capacity).after acts = some s) :
    s.queue.length ≤ capacity ∧
    (0 < capacity → s.HasHandle → ∀ cmd, ∃ more, (∀ a ∈ more, a.own = true) ∧
      ∃ s' s'', (registrySystem capacity).after (acts ++ more) = some s' ∧
        s'.step capacity (if s.signalled then .sendClosed else .send cmd) = some s'') := by
  constructor
  · refine System.invariant (P := fun _ s => s.queue.length ≤ capacity) (Nat.zero_le _) ?_ reached
    exact fun _ _ _ _ fits taken => room_step taken fits
  · intro room handle cmd
    let Same (t : RegistryTask) : Prop :=
      t.clones = s.clones ∧ t.owner = s.owner ∧ t.signalled = s.signalled
    have kept : ∀ t a t', (registrySystem capacity).step t a = some t' → a.own = true →
        Same t → Same t' := by
      intro t a t' taken own same
      obtain ⟨clones, owner, signalled⟩ := handles_step_own taken own
      exact ⟨clones.trans same.1, owner.trans same.2.1, signalled.trans same.2.2⟩
    obtain ⟨more, own, s', ends, quiet, clones, owner, signalled⟩ :=
      System.exists_quiet (registry_spends capacity) kept reached ⟨rfl, rfl, rfl⟩
    have rest := atRest_of_quiet (tracks_run ends) quiet
    have still : s'.HasHandle := by
      rw [RegistryTask.HasHandle, clones, owner]
      exact handle
    cases fired : s.signalled with
    | true =>
      have stopped := rest.stopped (signalled.trans fired)
      exact ⟨more, own, s', s', ends, if_pos ⟨still, stopped⟩⟩
    | false =>
      obtain ⟨waiting, empty, _, _⟩ := rest.waiting (signalled.trans fired)
      have ready : s'.HasHandle ∧ s'.phase ≠ .stopped ∧ s'.queue.length < capacity := by
        refine ⟨still, ?_, ?_⟩
        · rw [waiting]
          simp
        · rw [empty]
          exact room
      exact ⟨more, own, s', _, ends, if_pos ready⟩

theorem sends_get_through_queued :
    oneQueued.queue.length ≤ 1 ∧
    (0 < 1 → oneQueued.HasHandle → ∀ cmd, ∃ more, (∀ a ∈ more, a.own = true) ∧
      ∃ s' s'', (registrySystem 1).after ([.send (.removeDevice ⟨"1-1"⟩)] ++ more) = some s' ∧
        s'.step 1 (if oneQueued.signalled then .sendClosed else .send cmd) = some s'') :=
  sends_get_through 1 [.send (.removeDevice ⟨"1-1"⟩)] oneQueued rfl

end EasyUsb
