import EasyUsb.Foundation.PrefixCode
import EasyUsb.Foundation.Program

namespace Foundation

namespace Program

variable {ε ε' α ι : Type}

/-- A call made again and again, up to its first failure: what it returned, and
the error it failed with. -/
def rounds (p : Program ε α) : Nat → Program ε' (List α × Option ε)
  | 0 => return ([], none)
  | n + 1 => do
    match ← p.attempt with
    | .ok a =>
      let (results, ended) ← p.rounds n
      return (a :: results, ended)
    | .error e => return ([], some e)

/-- A call made so many times, whatever it answers: all its answers. -/
def calls (p : Program ε α) : Nat → Program ε' (List (Except ε α))
  | 0 => return []
  | n + 1 => do
    let answer ← p.attempt
    let answers ← p.calls n
    return answer :: answers

/-- Where these bytes are all that is left of the stream, the call uses them up and
fails with this error. -/
def Drains (p : Program ε α) (e : ε) (left : List UInt8) : Prop :=
  ∀ s : Socket, s.incoming = left → p.run s = (.err e, { s with incoming := [] })

/-- A call that takes one word of its kind off the stream, returns what the word
stands for and writes the reply to it, and that fails without a word on every other
stream. -/
structure Handles (code : PrefixCode UInt8 ι) (P : ι → Prop) (value : ι → α)
    (reply : ι → List UInt8) (p : Program ε α) : Prop where
  takes : ∀ a s rest, P a → reply a = [] ∨ s.Writable → s.incoming = code.word a ++ rest →
    p.run s = (.ok (value a), { s with incoming := rest, outgoing := s.outgoing ++ reply a })
  fails : ∀ s, (∀ a, P a → ¬code.word a <+: s.incoming) →
    ∃ e s', p.run s = (.err e, s') ∧ s'.outgoing = s.outgoing

theorem rounds_ok {p : Program ε α} {a : α} {s t u : Socket} {n : Nat} {results : List α}
    {ended : Option ε} (first : p.run s = (.ok a, t))
    (later : (p.rounds n : Program ε' _).run t = (.ok (results, ended), u)) :
    (p.rounds (n + 1) : Program ε' _).run s = (.ok (a :: results, ended), u) := by
  have attempted := @run_attempt _ ε' _ p s
  rw [first] at attempted
  rw [rounds, run_bind_ok attempted]
  exact run_bind_ok later

theorem rounds_err {p : Program ε α} {e : ε} {s t : Socket} (failed : p.run s = (.err e, t))
    (n : Nat) : (p.rounds (n + 1) : Program ε' _).run s = (.ok ([], some e), t) := by
  have attempted := @run_attempt _ ε' _ p s
  rw [failed] at attempted
  exact run_bind_ok attempted

theorem calls_err {p : Program ε α} {e : ε} {s t u : Socket} {n : Nat}
    {answers : List (Except ε α)} (failed : p.run s = (.err e, t))
    (later : (p.calls n : Program ε' _).run t = (.ok answers, u)) :
    (p.calls (n + 1) : Program ε' _).run s = (.ok (.error e :: answers), u) := by
  have attempted := @run_attempt _ ε' _ p s
  rw [failed] at attempted
  rw [calls, run_bind_ok attempted]
  exact run_bind_ok later

theorem Drains.bind {β : Type} {p : Program ε α} {e : ε} {left : List UInt8}
    (drains : p.Drains e left) (f : α → Program ε β) : (p >>= f).Drains e left :=
  fun s stream => run_bind_err (drains s stream)

/-- A drained stream fails every call in the same way. -/
theorem Drains.calls {p : Program ε α} {e : ε} {left : List UInt8} (drains : p.Drains e left)
    (drained : p.Drains e []) {s : Socket} (stream : s.incoming = left) (n : Nat) :
    ∃ t, (p.calls n : Program ε' _).run s = (.ok (List.replicate n (.error e)), t) ∧
      t.outgoing = s.outgoing := by
  induction n generalizing left s with
  | zero => exact ⟨s, rfl, rfl⟩
  | succ n ih =>
    obtain ⟨t, later, same⟩ := @ih [] drained { s with incoming := [] } rfl
    exact ⟨t, calls_err (drains s stream) later, same⟩

namespace Handles

variable {code : PrefixCode UInt8 ι} {P : ι → Prop} {value : ι → α} {reply : ι → List UInt8}
variable {p : Program ε α}

/-- The words at the front of the stream are handled one by one, before the rest. -/
theorem run_rounds (handles : Handles code P value reply p) {items : List ι} {s t : Socket}
    {rest : List UInt8} (kind : ∀ a ∈ items, P a) (able : ∀ a ∈ items, reply a = [] ∨ s.Writable)
    (stream : s.incoming = items.flatMap code.word ++ rest) {n : Nat} {results : List α}
    {ended : Option ε}
    (later : (p.rounds n : Program ε' _).run
      { s with incoming := rest, outgoing := s.outgoing ++ items.flatMap reply } =
        (.ok (results, ended), t)) :
    (p.rounds (items.length + n) : Program ε' _).run s =
      (.ok (items.map value ++ results, ended), t) := by
  induction items generalizing s with
  | nil =>
    have same : s.incoming = rest := stream
    subst same
    rw [List.flatMap_nil, List.append_nil] at later
    rw [List.length_nil, Nat.zero_add]
    exact later
  | cons a items ih =>
    obtain ⟨here, others⟩ := List.forall_mem_cons.mp kind
    obtain ⟨writes, more⟩ := List.forall_mem_cons.mp able
    rw [List.flatMap_cons, List.append_assoc] at stream
    rw [List.flatMap_cons, ← List.append_assoc] at later
    have first := handles.takes a s _ here writes stream
    have rounds := @ih { s with
      incoming := items.flatMap code.word ++ rest, outgoing := s.outgoing ++ reply a }
      others more rfl later
    rw [List.length_cons, Nat.add_right_comm]
    exact rounds_ok first rounds

variable {items : List ι} {s : Socket} {rest : List UInt8}

/-- As many calls as there are words handle as many words. -/
theorem rounds_within (handles : Handles code P value reply p)
    (able : ∀ a ∈ items, reply a = [] ∨ s.Writable) (cuts : code.Cuts P s.incoming items rest)
    {n : Nat} (few : n ≤ items.length) :
    ∃ t, (p.rounds n : Program ε' _).run s = (.ok ((items.take n).map value, none), t) ∧
      t.outgoing = s.outgoing ++ (items.take n).flatMap reply := by
  have stream : s.incoming =
      (items.take n).flatMap code.word ++ ((items.drop n).flatMap code.word ++ rest) := by
    rw [cuts.split, ← List.append_assoc, ← List.flatMap_append, List.take_append_drop]
  have kind : ∀ a ∈ items.take n, P a := fun a mem => cuts.taken a (List.mem_of_mem_take mem)
  have writes : ∀ a ∈ items.take n, reply a = [] ∨ s.Writable :=
    fun a mem => able a (List.mem_of_mem_take mem)
  have handled := @run_rounds _ ε' _ _ _ _ _ _ _ handles _ s _ _ kind writes stream 0 [] none rfl
  have count : (items.take n).length + 0 = n := by
    rw [List.length_take]
    omega
  rw [count, List.append_nil] at handled
  exact ⟨_, handled, rfl⟩

/-- More calls handle all the words, and the call after the last word fails. -/
theorem rounds_beyond (handles : Handles code P value reply p)
    (able : ∀ a ∈ items, reply a = [] ∨ s.Writable) (cuts : code.Cuts P s.incoming items rest)
    {n : Nat} (many : items.length < n) :
    ∃ e t, p.run { s with incoming := rest, outgoing := s.outgoing ++ items.flatMap reply } =
        (.err e, t) ∧
      (p.rounds n : Program ε' _).run s = (.ok (items.map value, some e), t) ∧
      t.outgoing = s.outgoing ++ items.flatMap reply := by
  obtain ⟨e, t, failed, same⟩ := handles.fails
    { s with incoming := rest, outgoing := s.outgoing ++ items.flatMap reply } cuts.stuck
  have handled := @run_rounds _ ε' _ _ _ _ _ _ _ handles _ s _ _ cuts.taken able cuts.split _ _ _
    (rounds_err failed (n - items.length - 1))
  have count : items.length + (n - items.length - 1 + 1) = n := by omega
  rw [count, List.append_nil] at handled
  exact ⟨e, t, failed, handled, same⟩

end Handles

end Program

end Foundation
