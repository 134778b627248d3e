import EasyUsb.RegistryTask

namespace EasyUsb

open Foundation

/-- Once the task is out of its loop, the commands accepted before the shutdown
signal have been handled, each once and in the order they were sent. -/
def Drained (acts : List TaskAction) (s : RegistryTask) : Prop :=
  s.phase.running = false → acceptedBefore acts <+: handledIn acts

/-- The shutdown branch is not taken while a command accepted before the signal
is still queued. -/
def ShutdownLate (acts : List TaskAction) (s : RegistryTask) (a : TaskAction) : Prop :=
  a = .recvShutdown → s.queue.length ≤ (acceptedLate acts).length

theorem acceptedBefore_concat {acts : List TaskAction} {a : TaskAction}
    (fired : acts.any TaskAction.signals = true) :
    acceptedBefore (acts ++ [a]) = acceptedBefore acts := by
  have stops : (acts ++ [a]).takeWhile (fun a => !a.signals) =
      acts.takeWhile fun a => !a.signals := by
    induction acts with
    | nil => cases fired
    | cons b acts ih =>
      cases signals : b.signals with
      | true => simp [signals]
      | false =>
        have later : acts.any TaskAction.signals = true := by simpa [signals] using fired
        simp [signals, ih later]
  rw [acceptedBefore, stops, acceptedBefore]

theorem leave_step {capacity : Nat} {a : TaskAction} {s s' : RegistryTask}
    (taken : s.step capacity a = some s') (running : s.phase.running = true)
    (left : s'.phase.running = false) :
    s.phase = .waiting ∧ handledIn [a] = [] ∧ (s.queue = [] ∨ a = .recvShutdown) := by
  cases a <;> simp only [RegistryTask.step] at taken <;> split at taken <;> cases taken <;>
    simp_all [Phase.running, handledIn]

theorem drained_step {capacity : Nat} {acts : List TaskAction} {a : TaskAction}
    {s s' : RegistryTask} (tracked : s.Tracks acts) (h : Drained acts s)
    (taken : s.step capacity a = some s') (late : ShutdownLate acts s a) :
    Drained (acts ++ [a]) s' := by
  intro left
  have fired : s.signalled = true := by
    rcases leaving_step taken left with before | fired | gone
    · exact tracked.left before
    · exact fired
    · exact tracked.gone gone
  rw [acceptedBefore_concat (tracked.signalled.symm.trans fired), handledIn_concat]
  cases running : s.phase.running with
  | false => exact (h running).trans (List.prefix_append _ _)
  | true =>
    obtain ⟨waiting, nothing, emptied⟩ := leave_step taken running left
    have fifo := tracked.fifo running
    rw [waiting] at fifo
    have total := congrArg List.length (acceptedIn_eq acts)
    have total' := congrArg List.length fifo
    simp only [Phase.inFlight, List.nil_append, List.length_append] at total total'
    have few : s.queue.length ≤ (acceptedLate acts).length := by
      rcases emptied with empty | shutdown
      · simp [empty]
      · exact late shutdown
    rw [nothing, List.append_nil]
    refine @List.prefix_of_prefix_length_le _ _ _ (acceptedIn acts) ?_ ?_ (by omega)
    · rw [acceptedIn_eq]
      exact List.prefix_append _ _
    · rw [fifo]
      exact List.prefix_append _ _

/-- A command left in the queue is one that was accepted and is never handled. -/
theorem shutdownLate_of_drained {capacity : Nat} {acts : List TaskAction} {a : TaskAction}
    {s s' : RegistryTask} (tracked : s.Tracks acts) (taken : s.step capacity a = some s')
    (drained : Drained (acts ++ [a]) s') : ShutdownLate acts s a := by
  rintro rfl
  have after : s.phase = .waiting ∧ s.signalled = true ∧ s' = { s with phase := .leaving } := by
    simp only [RegistryTask.step] at taken
    split at taken <;> cases taken
    next ready => exact ⟨ready.1, ready.2, rfl⟩
  obtain ⟨waiting, fired, result⟩ := after
  subst result
  have inside := drained rfl
  have nothing : handledIn (acts ++ [.recvShutdown]) = handledIn acts := by
    rw [handledIn_concat]
    exact List.append_nil _
  rw [acceptedBefore_concat (tracked.signalled.symm.trans fired), nothing] at inside
  have fifo := tracked.fifo (by rw [waiting]; rfl)
  rw [waiting] at fifo
  have total := congrArg List.length (acceptedIn_eq acts)
  have total' := congrArg List.length fifo
  simp only [Phase.inFlight, List.nil_append, List.length_append] at total total'
  have shorter := inside.length_le
  omega

/-- Shutdown drains the queue along exactly the runs whose task does not take
the shutdown branch too early. -/
theorem drained_iff_shutdownLate (capacity : Nat) (acts : List TaskAction) :
    (registrySystem capacity).Always Drained acts ↔
      (registrySystem capacity).StepsMeet ShutdownLate acts := by
  refine System.always_iff_stepsMeet (P := Drained) ?_ ?_ ?_ ?_ acts
  · exact fun left => nomatch left
  · exact fun acts a s s' reached h taken late => drained_step (tracks_run reached) h taken late
  · exact fun acts s _ h => h
  · exact fun acts a s s' reached taken drained =>
      shutdownLate_of_drained (tracks_run reached) taken drained

/-- An accepted command is queued when the signal fires and the task stops. -/
def hastyShutdown : List TaskAction :=
  let device := UsbDevice.mk "0-0" 0x1000 0x2000 none none 1 2 .highSpeed 0 0 0
  [.send (.addDevice device), .shutdown, .recvShutdown, .finish, .finishShutdown]

theorem hastyShutdown_drops_command :
    ∃ s, (registrySystem 8).after hastyShutdown = some s ∧ s.phase = .stopped ∧
      (acceptedBefore hastyShutdown).length = 1 ∧ handledIn hastyShutdown = [] ∧
      ¬(registrySystem 8).Always Drained hastyShutdown := by
  have reached : ((registrySystem 8).after hastyShutdown).map RegistryTask.phase =
      some .stopped := by decide
  obtain ⟨s, reached, stopped⟩ := Option.map_eq_some_iff.mp reached
  refine ⟨s, reached, stopped, by decide, by decide, fun drained => ?_⟩
  have inside := drained hastyShutdown (List.prefix_refl _) s reached (by rw [stopped]; rfl)
  have fewer := inside.length_le
  exact absurd fewer (by decide)

end EasyUsb
