import EasyUsb.Foundation.System
import EasyUsb.Registry

namespace EasyUsb

open Foundation

/-- Where `run_registry` stands: at its `select!`, holding a command it received,
before publishing what the command did, out of the loop, or returned. -/
inductive Phase where
  | waiting
  | received (cmd : RegistryCommand)
  | handled
  | leaving
  | stopped
  deriving DecidableEq

/-- The `DeviceRegistry` value: usable, consumed by a running `shutdown`, or gone. -/
inductive Owner where
  | alive
  | shuttingDown
  | dropped
  deriving DecidableEq

structure RegistryTask where
  queue : List RegistryCommand
  clones : Nat
  owner : Owner
  signalled : Bool
  phase : Phase
  state : RegistrySnapshot
  published : RegistrySnapshot
  receivers : Nat
  deriving DecidableEq

/-- What the task and its users can do. `send` is a send that returned `Ok`. -/
inductive TaskAction where
  | send (cmd : RegistryCommand)
  | sendClosed
  | cloneHandle
  | dropHandle
  | subscribe
  | borrow
  | dropReceiver
  | shutdown
  | finishShutdown
  | dropRegistry
  | recv
  | handle (cmd : RegistryCommand)
  | publish
  | recvClosed
  | recvShutdown
  | finish
  deriving DecidableEq

namespace RegistryTask

/-- `DeviceRegistry::with_capacity` drops the receiver it creates. -/
def withCapacity : RegistryTask where
  queue := []
  clones := 0
  owner := .alive
  signalled := false
  phase := .waiting
  state := .default
  published := .default
  receivers := 0

def HasHandle (s : RegistryTask) : Prop :=
  0 < s.clones ∨ s.owner = .alive

instance (s : RegistryTask) : Decidable s.HasHandle :=
  inferInstanceAs (Decidable (_ ∨ _))

/-- `watch::Sender::send` stores the value only while a receiver is alive. -/
def watchSend (s : RegistryTask) (value : RegistrySnapshot) : RegistrySnapshot :=
  if 0 < s.receivers then value else s.published

def step (capacity : Nat) (s : RegistryTask) : TaskAction → Option RegistryTask
  | .send cmd =>
    if s.HasHandle ∧ s.phase ≠ .stopped ∧ s.queue.length < capacity then
      some { s with queue := s.queue ++ [cmd] }
    else none
  | .sendClosed => if s.HasHandle ∧ s.phase = .stopped then some s else none
  | .cloneHandle => if s.HasHandle then some { s with clones := s.clones + 1 } else none
  | .dropHandle => if 0 < s.clones then some { s with clones := s.clones - 1 } else none
  | .subscribe => if s.owner = .alive then some { s with receivers := s.receivers + 1 } else none
  | .borrow => if 0 < s.receivers then some s else none
  | .dropReceiver =>
    if 0 < s.receivers then some { s with receivers := s.receivers - 1 } else none
  | .shutdown =>
    if s.owner = .alive then some { s with owner := .shuttingDown, signalled := true } else none
  | .finishShutdown =>
    if s.owner = .shuttingDown then some { s with owner := .dropped } else none
  | .dropRegistry =>
    if s.owner = .alive then some { s with owner := .dropped, signalled := true } else none
  | .recv =>
    match s.phase, s.queue with
    | .waiting, cmd :: rest => some { s with queue := rest, phase := .received cmd }
    | _, _ => none
  | .handle cmd =>
    if s.phase = .received cmd then
      some { s with state := handleCommand cmd s.state, phase := .handled }
    else none
  | .publish =>
    if s.phase = .handled then
      some { s with published := s.watchSend s.state, phase := .waiting }
    else none
  | .recvClosed =>
    if s.phase = .waiting ∧ s.queue = [] ∧ s.clones = 0 ∧ s.owner = .dropped then
      some { s with phase := .leaving }
    else none
  | .recvShutdown =>
    if s.phase = .waiting ∧ s.signalled then some { s with phase := .leaving } else none
  | .finish =>
    if s.phase = .leaving then some { s with phase := .stopped, queue := [] } else none

end RegistryTask

def registrySystem (capacity : Nat) : System RegistryTask TaskAction where
  start := .withCapacity
  step := RegistryTask.step capacity

def handledIn (acts : List TaskAction) : List RegistryCommand :=
  acts.filterMap fun
    | .handle cmd => some cmd
    | _ => none

def acceptedIn (acts : List TaskAction) : List RegistryCommand :=
  acts.filterMap fun
    | .send cmd => some cmd
    | _ => none

def TaskAction.signals : TaskAction → Bool
  | .shutdown => true
  | .dropRegistry => true
  | _ => false

/-- The commands accepted before the signal was fired. -/
def acceptedBefore (acts : List TaskAction) : List RegistryCommand :=
  acceptedIn (acts.takeWhile fun a => !a.signals)

def acceptedLate (acts : List TaskAction) : List RegistryCommand :=
  acceptedIn (acts.dropWhile fun a => !a.signals)

theorem handledIn_concat (acts : List TaskAction) (a : TaskAction) :
    handledIn (acts ++ [a]) = handledIn acts ++ handledIn [a] :=
  List.filterMap_append

theorem acceptedIn_concat (acts : List TaskAction) (a : TaskAction) :
    acceptedIn (acts ++ [a]) = acceptedIn acts ++ acceptedIn [a] :=
  List.filterMap_append

theorem acceptedIn_eq (acts : List TaskAction) :
    acceptedIn acts = acceptedBefore acts ++ acceptedLate acts := by
  have split := @List.takeWhile_append_dropWhile _ (fun a : TaskAction => !a.signals) acts
  rw [acceptedBefore, acceptedLate, acceptedIn, acceptedIn, acceptedIn, ← List.filterMap_append,
    split]

/-- The command the task has taken off the queue and not handled yet. -/
def Phase.inFlight : Phase → List RegistryCommand
  | .received cmd => [cmd]
  | _ => []

def Phase.running : Phase → Bool
  | .leaving => false
  | .stopped => false
  | _ => true

section

variable {capacity : Nat} {a : TaskAction} {s s' : RegistryTask}

theorem state_step (taken : s.step capacity a = some s') :
    s'.state = runCommands (handledIn [a]) s.state := by
  cases a <;> simp only [RegistryTask.step] at taken <;> split at taken <;> cases taken <;> rfl

/-- No command gets lost or doubled while the task is in its loop. -/
theorem fifo_step (taken : s.step capacity a = some s') (running : s'.phase.running = true) :
    s.phase.running = true ∧ s.phase.inFlight ++ s.queue ++ acceptedIn [a] =
      handledIn [a] ++ (s'.phase.inFlight ++ s'.queue) := by
  cases a <;> simp only [RegistryTask.step] at taken <;> split at taken <;> cases taken <;>
    simp_all [acceptedIn, handledIn, Phase.inFlight, Phase.running]

theorem signalled_step (taken : s.step capacity a = some s') :
    s'.signalled = (s.signalled || a.signals) := by
  cases a <;> simp only [RegistryTask.step] at taken <;> split at taken <;> cases taken <;>
    simp [TaskAction.signals]

theorem owner_step (taken : s.step capacity a = some s') (gone : s'.owner ≠ .alive) :
    s.owner ≠ .alive ∨ s'.signalled = true := by
  cases a <;> simp only [RegistryTask.step] at taken <;> split at taken <;> cases taken <;>
    simp_all

theorem leaving_step (taken : s.step capacity a = some s') (left : s'.phase.running = false) :
    s.phase.running = false ∨ s.signalled = true ∨ s.owner ≠ .alive := by
  cases a <;> simp only [RegistryTask.step] at taken <;> split at taken <;> cases taken <;>
    simp_all [Phase.running]

end

/-- What a run has done to the task: commands are handled in the order in which
they were accepted, and the task's own snapshot is what they made of it. -/
structure RegistryTask.Tracks (acts : List TaskAction) (s : RegistryTask) : Prop where
  state : s.state = snapshotAfter (handledIn acts)
  fifo : s.phase.running = true →
    acceptedIn acts = handledIn acts ++ (s.phase.inFlight ++ s.queue)
  signalled : s.signalled = acts.any TaskAction.signals
  gone : s.owner ≠ .alive → s.signalled = true
  left : s.phase.running = false → s.signalled = true

theorem tracks_step {capacity : Nat} {acts : List TaskAction} {a : TaskAction}
    {s s' : RegistryTask} (h : s.Tracks acts) (taken : s.step capacity a = some s') :
    s'.Tracks (acts ++ [a]) := by
  have stays : s.signalled = true → s'.signalled = true := fun fired => by
    rw [signalled_step taken, fired, Bool.true_or]
  refine ⟨?_, fun running => ?_, ?_, fun gone => ?_, fun left => ?_⟩
  · rw [state_step taken, h.state, handledIn_concat]
    exact (runCommands_append _ _ _).symm
  · obtain ⟨was, moved⟩ := fifo_step taken running
    rw [acceptedIn_concat, handledIn_concat, h.fifo was, List.append_assoc, moved,
      List.append_assoc]
  · rw [signalled_step taken, h.signalled]
    simp
  · rcases owner_step taken gone with before | fired
    · exact stays (h.gone before)
    · exact fired
  · rcases leaving_step taken left with before | fired | before
    · exact stays (h.left before)
    · exact stays fired
    · exact stays (h.gone before)

theorem tracks_run {capacity : Nat} {acts : List TaskAction} {s : RegistryTask}
    (reached : (registrySystem capacity).after acts = some s) : s.Tracks acts := by
  refine System.invariant (P := fun acts s => s.Tracks acts) ?_
    (fun acts a s s' h taken => tracks_step h taken) reached
  refine ⟨rfl, fun _ => rfl, rfl, fun gone => absurd rfl gone, fun left => ?_⟩
  cases left

end EasyUsb
