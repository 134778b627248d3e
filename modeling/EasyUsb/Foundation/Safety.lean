import EasyUsb.Foundation.Program

namespace Foundation

variable {ε ε' α β : Type} {bad : ε → Prop}

namespace Outcome

/-- The call does not panic, and its error is none of the bad ones. -/
def Avoids (bad : ε → Prop) : Outcome ε α → Prop
  | ok _ => True
  | err error => ¬bad error
  | panic => False

theorem bind_congr {x : Outcome ε α} {f g : α → Outcome ε β} (same : ∀ a, f a = g a) :
    (x >>= f) = (x >>= g) := by
  rw [funext same]

theorem Avoids.bind {x : Outcome ε α} {f : α → Outcome ε β} (first : x.Avoids bad)
    (next : ∀ a, (f a).Avoids bad) : (x >>= f).Avoids bad := by
  cases x with
  | ok value => exact next value
  | err error => exact first
  | panic => exact first

end Outcome

namespace Program

/-- However the stream behaves, the computation does not panic and does not end
with a bad error. -/
def Avoids (bad : ε → Prop) (p : Program ε α) : Prop := ∀ s, (p.run s).1.Avoids bad

/-- The computation can end with the value. -/
def Returns (p : Program ε α) (a : α) : Prop := ∃ s s', p.run s = (.ok a, s')

theorem avoids_done (a : α) : (done a : Program ε α).Avoids bad := fun _ => trivial

theorem avoids_fail {error : ε} (fine : ¬bad error) : (fail error : Program ε α).Avoids bad :=
  fun _ => fine

theorem avoids_ofOutcome {x : Outcome ε α} (fine : x.Avoids bad) : (ofOutcome x).Avoids bad := by
  intro s
  rw [run_ofOutcome]
  exact fine

theorem Avoids.bind {p : Program ε α} {f : α → Program ε β} (first : p.Avoids bad)
    (next : ∀ a, p.Returns a → (f a).Avoids bad) : (p >>= f).Avoids bad := by
  intro s
  have before := first s
  rw [run_bind]
  rcases ran : p.run s with ⟨value | error | _, s'⟩ <;> rw [ran] at before
  · exact next value ⟨s, s', ran⟩ s'
  · exact before
  · exact before

/-- The errors of the stream are not bad once they are renamed. -/
theorem avoids_mapErr_read {g : String → ε} (fine : ∀ text, ¬bad (g text)) (count : Nat) :
    ((read count).mapErr g).Avoids bad := by
  intro s
  rw [run_mapErr]
  by_cases enough : count ≤ s.incoming.length
  · rw [run_read_of_le enough]
    trivial
  · rw [run_read_of_lt (Nat.not_le.mp enough)]
    exact fine _

theorem avoids_mapErr_write {g : String → ε} (fine : ∀ text, ¬bad (g text)) (bytes : List UInt8) :
    ((write bytes).mapErr g).Avoids bad := by
  intro s
  rw [run_mapErr]
  rcases written : s.write bytes with ⟨error | value, s'⟩
  · rw [run_write_error written]
    exact fine error
  · rw [run_write_ok written]
    trivial

/-- What a read returns has the length asked for. -/
theorem Returns.length_read {g : String → ε} {count : Nat} {bytes : List UInt8}
    (returned : ((read count).mapErr g).Returns bytes) : bytes.length = count := by
  obtain ⟨s, s', ran⟩ := returned
  rw [run_mapErr] at ran
  by_cases enough : count ≤ s.incoming.length
  · rw [run_read_of_le enough] at ran
    cases ran
    rw [List.length_take]
    omega
  · rw [run_read_of_lt (Nat.not_le.mp enough)] at ran
    cases ran

end Program

end Foundation
