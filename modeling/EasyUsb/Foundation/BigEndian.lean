import EasyUsb.Foundation.Outcome
import Mathlib.Algebra.Order.Ring.Nat

namespace Foundation

/-- The low `width` bytes of a number, most significant first. -/
def beBytes : Nat → Nat → List UInt8
  | 0, _ => []
  | width + 1, value => UInt8.ofNat (value / 256 ^ width) :: beBytes width value

/-- The number a string of bytes spells, most significant first. -/
def beValue : List UInt8 → Nat
  | [] => 0
  | b :: rest => b.toNat * 256 ^ rest.length + beValue rest

@[simp] theorem beBytes_length (width value : Nat) : (beBytes width value).length = width := by
  induction width with
  | zero => rfl
  | succ width ih => simp [beBytes, ih]

theorem beValue_lt (bytes : List UInt8) : beValue bytes < 256 ^ bytes.length := by
  induction bytes with
  | nil => simp [beValue]
  | cons b rest ih =>
    have hb : b.toNat < 256 := b.toNat_lt
    calc
      beValue (b :: rest) = b.toNat * 256 ^ rest.length + beValue rest := rfl
      _ < (b.toNat + 1) * 256 ^ rest.length := by rw [Nat.add_mul]; omega
      _ ≤ 256 * 256 ^ rest.length := Nat.mul_le_mul_right _ (by omega)
      _ = 256 ^ (b :: rest).length := by rw [List.length_cons, Nat.pow_succ, Nat.mul_comm]

theorem beValue_beBytes (width value : Nat) :
    beValue (beBytes width value) = value % 256 ^ width := by
  induction width with
  | zero => simp [beBytes, beValue, Nat.mod_one]
  | succ width ih =>
    rw [beBytes, beValue, ih, beBytes_length, Nat.mod_pow_succ]
    simp only [UInt8.toNat_ofNat', Nat.reducePow]
    rw [Nat.mul_comm, Nat.add_comm]

theorem beBytes_add_mul (width value k : Nat) :
    beBytes width (value + k * 256 ^ width) = beBytes width value := by
  induction width generalizing k with
  | zero => rfl
  | succ width ih =>
    have pos : 0 < 256 ^ width := Nat.pow_pos (by omega)
    have split : k * 256 ^ (width + 1) = (k * 256) * 256 ^ width := by
      rw [Nat.pow_succ, Nat.mul_assoc, Nat.mul_comm (256 ^ width)]
    rw [beBytes, beBytes, split, ih, Nat.add_mul_div_right _ _ pos]
    congr 1
    apply UInt8.toNat_inj.mp
    simp

theorem beBytes_beValue (bytes : List UInt8) :
    beBytes bytes.length (beValue bytes) = bytes := by
  induction bytes with
  | nil => rfl
  | cons b rest ih =>
    have low := beValue_lt rest
    have pos : 0 < 256 ^ rest.length := Nat.pow_pos (by omega)
    have head : beValue (b :: rest) / 256 ^ rest.length = b.toNat := by
      rw [beValue, Nat.add_comm, Nat.add_mul_div_right _ _ pos, Nat.div_eq_of_lt low]
      omega
    have tail : beBytes rest.length (beValue (b :: rest)) = rest := by
      rw [beValue, Nat.add_comm, beBytes_add_mul, ih]
    rw [List.length_cons, beBytes, head, tail]
    simp

section Words

def u32Bytes (x : UInt32) : List UInt8 := beBytes 4 x.toNat

def u16Bytes (x : UInt16) : List UInt8 := beBytes 2 x.toNat

def u32Value (bytes : List UInt8) : UInt32 := UInt32.ofNat (beValue bytes)

def u16Value (bytes : List UInt8) : UInt16 := UInt16.ofNat (beValue bytes)

@[simp] theorem u32Bytes_length (x : UInt32) : (u32Bytes x).length = 4 := beBytes_length _ _

@[simp] theorem u16Bytes_length (x : UInt16) : (u16Bytes x).length = 2 := beBytes_length _ _

@[simp] theorem u32Value_u32Bytes (x : UInt32) : u32Value (u32Bytes x) = x := by
  have h : x.toNat < 256 ^ 4 := x.toNat_lt
  apply UInt32.toNat_inj.mp
  rw [u32Value, u32Bytes, beValue_beBytes, Nat.mod_eq_of_lt h]
  simp

@[simp] theorem u16Value_u16Bytes (x : UInt16) : u16Value (u16Bytes x) = x := by
  have h : x.toNat < 256 ^ 2 := x.toNat_lt
  apply UInt16.toNat_inj.mp
  rw [u16Value, u16Bytes, beValue_beBytes, Nat.mod_eq_of_lt h]
  simp

theorem u32Bytes_u32Value {bytes : List UInt8} (h : bytes.length = 4) :
    u32Bytes (u32Value bytes) = bytes := by
  have low := beValue_lt bytes
  rw [h] at low
  have value : (u32Value bytes).toNat = beValue bytes := by
    simpa [u32Value] using low
  rw [u32Bytes, value]
  simpa [h] using beBytes_beValue bytes

theorem u16Bytes_u16Value {bytes : List UInt8} (h : bytes.length = 2) :
    u16Bytes (u16Value bytes) = bytes := by
  have low := beValue_lt bytes
  rw [h] at low
  have value : (u16Value bytes).toNat = beValue bytes := by
    simpa [u16Value] using low
  rw [u16Bytes, value]
  simpa [h] using beBytes_beValue bytes

end Words

end Foundation
