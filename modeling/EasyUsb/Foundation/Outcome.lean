import Mathlib.Data.List.Basic
import Mathlib.Tactic.Common

namespace Foundation

/-- How a fallible call ends: with a value, with an error its caller sees, or
by panicking. -/
inductive Outcome (ε α : Type) where
  | ok (value : α)
  | err (error : ε)
  | panic
  deriving DecidableEq, Repr

namespace Outcome

variable {ε ε' α β : Type}

protected def bind (x : Outcome ε α) (f : α → Outcome ε β) : Outcome ε β :=
  match x with
  | ok value => f value
  | err error => err error
  | panic => panic

instance : Monad (Outcome ε) where
  pure := ok
  bind := Outcome.bind

@[simp] theorem ok_bind (a : α) (f : α → Outcome ε β) : (ok a >>= f) = f a := by
  simp only [bind, Outcome.bind]

@[simp] theorem err_bind (e : ε) (f : α → Outcome ε β) :
    ((err e : Outcome ε α) >>= f) = err e := rfl

@[simp] theorem pure_eq_ok (a : α) : (pure a : Outcome ε α) = ok a := rfl

def mapErr (g : ε → ε') : Outcome ε α → Outcome ε' α
  | ok value => ok value
  | err error => err (g error)
  | panic => panic

end Outcome

section Slices

variable {ε : Type} {α : Type}

/-- `buf[i]`, which panics outside the buffer. -/
def index (buf : List α) (i : Nat) : Outcome ε α :=
  match buf[i]? with
  | some value => .ok value
  | none => .panic

/-- `&buf[lo..hi]`, which panics when the range is reversed or leaves the buffer. -/
def slice (buf : List α) (lo hi : Nat) : Outcome ε (List α) :=
  if lo ≤ hi ∧ hi ≤ buf.length then .ok ((buf.take hi).drop lo) else .panic

/-- `copy_from_slice` into an array of `n` items, which panics on any other length. -/
def copyFromSlice (n : Nat) (source : List α) : Outcome ε (Vector α n) :=
  if h : source.length = n then .ok ⟨source.toArray, by simpa using h⟩ else .panic

theorem slice_of_le {buf : List α} {lo hi : Nat} (h : lo ≤ hi) (bound : hi ≤ buf.length) :
    (slice buf lo hi : Outcome ε (List α)) = .ok ((buf.take hi).drop lo) := by
  simp [slice, h, bound]

@[simp] theorem copyFromSlice_toList {n : Nat} (v : Vector α n) :
    (copyFromSlice n v.toList : Outcome ε (Vector α n)) = .ok v := by
  obtain ⟨⟨items⟩, h⟩ := v
  simp at h
  simp [copyFromSlice, Vector.toList, h]

theorem slice_middle {before item after : List α} {lo hi : Nat}
    (start : before.length = lo) (stop : lo + item.length = hi) :
    (slice (before ++ item ++ after) lo hi : Outcome ε (List α)) = .ok item := by
  rw [slice_of_le (by omega) (by simp; omega), List.take_left' (by simp; omega),
    List.drop_left' start]

theorem slice_prefix {item after : List α} {hi : Nat} (stop : item.length = hi) :
    (slice (item ++ after) 0 hi : Outcome ε (List α)) = .ok item :=
  @slice_middle ε α [] item after 0 hi rfl (by omega)

end Slices

end Foundation
