import EasyUsb.Foundation.BigEndian
import Mathlib.Logic.Equiv.Defs

namespace Foundation

/-- A format of one width: the values are spelled by the strings of so many
bytes, each by one string and each string by one value. -/
structure Layout (β α : Type) where
  width : Nat
  put : α → List β
  put_length : ∀ a, (put a).length = width
  injective : Function.Injective put
  onto : ∀ bytes : List β, bytes.length = width → ∃ a, put a = bytes

namespace Layout

variable {β α γ : Type}

theorem exists_leading (L : Layout β α) {bytes : List β} (long : L.width ≤ bytes.length) :
    ∃ a rest, bytes = L.put a ++ rest := by
  have size : (bytes.take L.width).length = L.width := by
    rw [List.length_take]
    omega
  obtain ⟨a, image⟩ := L.onto _ size
  exact ⟨a, bytes.drop L.width, by rw [image, List.take_append_drop]⟩

/-- The same strings, read as the values of another type. -/
def comap (L : Layout β α) (e : γ ≃ α) : Layout β γ where
  width := L.width
  put c := L.put (e c)
  put_length c := L.put_length (e c)
  injective := L.injective.comp e.injective
  onto bytes size := by
    obtain ⟨a, image⟩ := L.onto bytes size
    exact ⟨e.symm a, by rw [e.apply_symm_apply, image]⟩

/-- One value after another, where the first says how the second is laid out. -/
def andThen (first : Layout β α) (width : Nat) (second : α → Layout β γ)
    (same : ∀ a, (second a).width = width) : Layout β (α × γ) where
  width := first.width + width
  put v := first.put v.1 ++ (second v.1).put v.2
  put_length v := by rw [List.length_append, first.put_length, (second v.1).put_length, same]
  injective := by
    intro v w image
    obtain ⟨a, c⟩ := v
    obtain ⟨a', c'⟩ := w
    have sizes : (first.put a).length = (first.put a').length := by
      rw [first.put_length, first.put_length]
    obtain ⟨head, tail⟩ := List.append_inj image sizes
    cases first.injective head
    cases (second a).injective tail
    rfl
  onto bytes size := by
    obtain ⟨a, rest, image⟩ := @exists_leading _ _ first bytes (by omega)
    have left : rest.length = (second a).width := by
      rw [image, List.length_append, first.put_length] at size
      rw [same]
      omega
    obtain ⟨c, tail⟩ := (second a).onto rest left
    exact ⟨(a, c), by rw [image, tail]⟩

def pair (first : Layout β α) (second : Layout β γ) : Layout β (α × γ) :=
  first.andThen second.width (fun _ => second) fun _ => rfl

/-- An array of `n` items as it is. -/
def items (n : Nat) : Layout β (Vector β n) where
  width := n
  put v := v.toList
  put_length v := v.length_toList
  injective _ _ image := Vector.toList_inj.mp image
  onto bytes size := ⟨⟨bytes.toArray, size⟩, rfl⟩

def item : Layout β β where
  width := 1
  put b := [b]
  put_length _ := rfl
  injective _ _ image := List.singleton_inj.mp image
  onto bytes size := by
    obtain ⟨b, image⟩ := List.length_eq_one_iff.mp size
    exact ⟨b, image.symm⟩

section Repeated

variable (L : Layout β α)

theorem flatMap_length (as : List α) : (as.flatMap L.put).length = as.length * L.width := by
  induction as with
  | nil => rw [List.flatMap_nil, List.length_nil, List.length_nil, Nat.zero_mul]
  | cons a as ih =>
    rw [List.flatMap_cons, List.length_append, L.put_length, ih, List.length_cons, Nat.succ_mul]
    omega

theorem flatMap_inj {as cs : List α} (sizes : as.length = cs.length)
    (image : as.flatMap L.put = cs.flatMap L.put) : as = cs := by
  induction as generalizing cs with
  | nil => exact (List.length_eq_zero_iff.mp sizes.symm).symm
  | cons a as ih =>
    cases cs with
    | nil => cases sizes
    | cons c cs =>
      rw [List.flatMap_cons, List.flatMap_cons] at image
      have widths : (L.put a).length = (L.put c).length := by
        rw [L.put_length, L.put_length]
      obtain ⟨head, tail⟩ := List.append_inj image widths
      rw [L.injective head, ih (Nat.succ.inj sizes) tail]

theorem exists_flatMap {n : Nat} {bytes : List β} (size : bytes.length = n * L.width) :
    ∃ as : List α, as.length = n ∧ as.flatMap L.put = bytes := by
  induction n generalizing bytes with
  | zero =>
    rw [Nat.zero_mul] at size
    exact ⟨[], rfl, (List.length_eq_zero_iff.mp size).symm⟩
  | succ n ih =>
    rw [Nat.succ_mul] at size
    obtain ⟨a, rest, image⟩ := @exists_leading _ _ L bytes (by omega)
    have left : rest.length = n * L.width := by
      rw [image, List.length_append, L.put_length] at size
      omega
    obtain ⟨as, count, tail⟩ := ih left
    exact ⟨a :: as, by rw [List.length_cons, count], by rw [List.flatMap_cons, tail, image]⟩

/-- An array of `n` values one after the other. -/
def array (n : Nat) : Layout β (Vector α n) where
  width := n * L.width
  put v := v.toList.flatMap L.put
  put_length v := by rw [L.flatMap_length, v.length_toList]
  injective v w image := by
    have sizes : v.toList.length = w.toList.length := by rw [v.length_toList, w.length_toList]
    exact Vector.toList_inj.mp (L.flatMap_inj sizes image)
  onto bytes size := by
    obtain ⟨as, count, image⟩ := L.exists_flatMap size
    exact ⟨⟨as.toArray, count⟩, image⟩

end Repeated

def word : Layout UInt8 UInt32 where
  width := 4
  put := u32Bytes
  put_length := u32Bytes_length
  injective := Function.LeftInverse.injective u32Value_u32Bytes
  onto bytes size := ⟨u32Value bytes, u32Bytes_u32Value size⟩

def half : Layout UInt8 UInt16 where
  width := 2
  put := u16Bytes
  put_length := u16Bytes_length
  injective := Function.LeftInverse.injective u16Value_u16Bytes
  onto bytes size := ⟨u16Value bytes, u16Bytes_u16Value size⟩

end Layout

end Foundation
