import EasyUsb.Producers
import EasyUsb.RegistryTask
import Mathlib.Order.Monotone.Basic

namespace EasyUsb

open Foundation

/-- A publication that finds a receiver stores the task's snapshot, and nothing
else touches what is stored. -/
theorem stored_step {capacity : Nat} {a : TaskAction} {s s' : RegistryTask}
    (taken : s.step capacity a = some s') :
    s'.published = if a = .publish ∧ 0 < s.receivers then s.state else s.published := by
  cases a <;> simp only [RegistryTask.step] at taken <;> split at taken <;> cases taken <;>
    simp [RegistryTask.watchSend]

/-- The moment up to which what is read at moment `i` of the run tells what was
handled: that of the last publication that found a receiver. -/
def seenAt (capacity : Nat) (acts : List TaskAction) : Nat → Nat
  | 0 => 0
  | i + 1 =>
    if acts[i]? = some .publish ∧
        ((registrySystem capacity).after (acts.take i)).any (fun s => 0 < s.receivers) then i + 1
    else seenAt capacity acts i

section

variable {capacity : Nat} {acts : List TaskAction}

theorem seenAt_le (i : Nat) : seenAt capacity acts i ≤ i := by
  induction i with
  | zero => exact Nat.le_refl _
  | succ i ih =>
    rw [seenAt]
    split
    · exact Nat.le_refl _
    · omega

theorem seenAt_monotone : Monotone (seenAt capacity acts) := by
  refine monotone_nat_of_le_succ fun i => ?_
  have below := @seenAt_le capacity acts i
  rw [seenAt]
  split
  · omega
  · exact Nat.le_refl _

theorem published_at {i : Nat} {s : RegistryTask}
    (reached : (registrySystem capacity).after (acts.take i) = some s) :
    s.published = snapshotAfter (handledIn (acts.take (seenAt capacity acts i))) := by
  induction i generalizing s with
  | zero =>
    cases reached
    rfl
  | succ i ih =>
    cases here : acts[i]? with
    | none =>
      have past : acts.length ≤ i := List.getElem?_eq_none_iff.mp here
      have same : acts.take (i + 1) = acts.take i := by
        rw [List.take_of_length_le past, List.take_of_length_le (by omega)]
      rw [same] at reached
      rw [seenAt, here, if_neg (by simp)]
      exact ih reached
    | some a =>
      rw [List.take_add_one, here, Option.toList_some] at reached
      obtain ⟨old, before, taken⟩ := System.after_concat.mp reached
      rw [seenAt, here, before, stored_step taken]
      by_cases stores : a = .publish ∧ 0 < old.receivers
      · have told : some a = some TaskAction.publish ∧
            (some old).any (fun s => decide (0 < s.receivers)) = true := by
          simpa using stores
        have nothing : handledIn (acts.take (i + 1)) = handledIn (acts.take i) := by
          rw [List.take_add_one, here, stores.1, Option.toList_some, handledIn_concat]
          exact List.append_nil _
        rw [if_pos stores, if_pos told, nothing]
        exact (tracks_run before).state
      · have told : ¬(some a = some TaskAction.publish ∧
            (some old).any (fun s => decide (0 < s.receivers)) = true) := by
          simpa using stores
        rw [if_neg stores, if_neg told]
        exact ih before

end

/-- What is read never goes back: at each moment it tells of exactly the commands
handled up to some moment before, later reads of later moments, and a publication
that finds a receiver brings it up to date. -/
theorem reads_forward (capacity : Nat) (acts : List TaskAction) :
    ∃ seen : Nat → Nat, Monotone seen ∧
      ∀ i s, (registrySystem capacity).after (acts.take i) = some s →
        seen i ≤ i ∧ s.published = snapshotAfter (handledIn (acts.take (seen i))) ∧
          (acts[i]? = some .publish → 0 < s.receivers → seen (i + 1) = i + 1) := by
  refine ⟨seenAt capacity acts, seenAt_monotone, fun i s reached => ?_⟩
  refine ⟨seenAt_le i, published_at reached, fun publishes watched => ?_⟩
  rw [seenAt, reached, if_pos ⟨publishes, by simpa using watched⟩]

/-- What is handled was accepted, and in that order. -/
theorem handledIn_isPrefix {capacity : Nat} {acts : List TaskAction} {s : RegistryTask}
    (reached : (registrySystem capacity).after acts = some s) :
    handledIn acts <+: acceptedIn acts := by
  refine (System.invariant (P := fun acts s => s.Tracks acts ∧ handledIn acts <+: acceptedIn acts)
    ⟨tracks_run rfl, List.prefix_refl _⟩ ?_ reached).2
  intro acts a s s' ⟨tracked, before⟩ taken
  refine ⟨tracks_step tracked taken, ?_⟩
  rw [handledIn_concat, acceptedIn_concat]
  cases a with
  | handle cmd =>
    have received : s.phase = .received cmd := by
      have handled : s.step capacity (.handle cmd) = some s' := taken
      simp only [RegistryTask.step] at handled
      split at handled
      · assumption
      · cases handled
    have fifo := tracked.fifo (by rw [received]; rfl)
    rw [received] at fifo
    have next : handledIn acts ++ [cmd] <+: acceptedIn acts := by
      rw [fifo]
      exact ⟨s.queue, by simp [Phase.inFlight]⟩
    exact next.trans (List.prefix_append _ _)
  | _ => exact (List.append_nil (handledIn acts)).symm ▸ before.trans (List.prefix_append _ _)

/-- What a reader sees of some devices is what a part, growing from the front, of
the accepted commands about these devices makes of them; commands about others do
not show. -/
theorem reads_of_devices (capacity : Nat) (acts : List TaskAction) (p : BusId → Bool) :
    ∃ shown : Nat → List RegistryCommand, (∀ i j, i ≤ j → shown i <+: shown j) ∧
      ∀ i s, (registrySystem capacity).after (acts.take i) = some s →
        shown i <+: (acceptedIn (acts.take i)).filter (fun cmd => p cmd.busid) ∧
        (∀ busid, p busid = true → s.published.devices.lookup busid =
          (snapshotAfter (shown i)).devices.lookup busid) ∧
        ∀ session, (s.published.listOf session).filter p =
          ((snapshotAfter (shown i)).listOf session).filter p := by
  let shown (i : Nat) := (handledIn (acts.take (seenAt capacity acts i))).filter
    fun cmd => p cmd.busid
  have grows : ∀ i j, i ≤ j → handledIn (acts.take i) <+: handledIn (acts.take j) := by
    intro i j le
    exact (List.take_prefix_take_left le).filterMap _
  refine ⟨shown, fun i j le => (grows _ _ (seenAt_monotone le)).filter _,
    fun i s reached => ⟨?_, ?_⟩⟩
  · exact ((grows _ _ (seenAt_le i)).trans (handledIn_isPrefix reached)).filter _
  · have same : (handledIn (acts.take (seenAt capacity acts i))).filter
        (fun cmd => p cmd.busid) = (shown i).filter fun cmd => p cmd.busid := by
      simp [shown, List.filter_filter]
    rw [published_at reached]
    exact run_seen refines_default same

end EasyUsb
