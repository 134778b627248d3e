import Mathlib.Data.List.DropRight
import Mathlib.Tactic.Common

namespace Foundation

/-- `trim_end_matches` of one character. -/
def trimEnd (c : Char) (s : String) : String := String.ofList (s.toList.rdropWhile (· = c))

theorem trimEnd_replicate {c : Char} {s : String} (absent : c ∉ s.toList) (n : Nat) :
    trimEnd c (s ++ String.ofList (List.replicate n c)) = s := by
  have kept : s.toList.rdropWhile (· = c) = s.toList := by
    rw [List.rdropWhile_eq_self_iff]
    intro some_chars same
    have last := List.getLast_mem some_chars
    rw [of_decide_eq_true same] at last
    exact absent last
  have dropped : (s.toList ++ List.replicate n c).rdropWhile (· = c) = s.toList := by
    induction n with
    | zero => simpa using kept
    | succ n ih =>
      rw [List.replicate_succ', ← List.append_assoc, List.rdropWhile_concat_pos _ _ _ (by simp), ih]
  rw [trimEnd, String.toList_append, String.toList_ofList, dropped, String.ofList_toList]

theorem zero_ne_ofNat {n : Nat} (pos : 0 < n) (bound : n < 256) : 0 ≠ UInt8.ofNat n := by
  intro same
  have values := congrArg UInt8.toNat same
  simp only [UInt8.toNat_ofNat', UInt8.toNat_zero] at values
  omega

/-- A zero byte encodes nothing but the character it stands for. -/
theorem zero_mem_utf8EncodeChar {c : Char} : 0 ∈ String.utf8EncodeChar c ↔ c = '\x00' := by
  constructor
  · intro zero
    simp only [String.utf8EncodeChar] at zero
    split_ifs at zero with one two three
    · by_contra other
      have pos : 0 < c.val.toNat := by
        by_contra none_left
        have value : c.val = 0 := UInt32.toNat_inj.mp (by rw [UInt32.toNat_zero]; omega)
        exact other (Char.ext value)
      exact zero_ne_ofNat pos (by omega) (List.mem_singleton.mp zero)
    · simp only [List.mem_cons, List.not_mem_nil, or_false] at zero
      rcases zero with first | second
      · exact absurd first (zero_ne_ofNat (by omega) (by omega))
      · exact absurd second (zero_ne_ofNat (by omega) (by omega))
    · simp only [List.mem_cons, List.not_mem_nil, or_false] at zero
      rcases zero with first | second | third
      · exact absurd first (zero_ne_ofNat (by omega) (by omega))
      · exact absurd second (zero_ne_ofNat (by omega) (by omega))
      · exact absurd third (zero_ne_ofNat (by omega) (by omega))
    · simp only [List.mem_cons, List.not_mem_nil, or_false] at zero
      rcases zero with first | second | third | fourth
      · exact absurd first (zero_ne_ofNat (by omega) (by omega))
      · exact absurd second (zero_ne_ofNat (by omega) (by omega))
      · exact absurd third (zero_ne_ofNat (by omega) (by omega))
      · exact absurd fourth (zero_ne_ofNat (by omega) (by omega))
  · intro same
    subst same
    decide

theorem bytes_eq_flatMap (s : String) :
    s.toByteArray.data.toList = s.toList.flatMap String.utf8EncodeChar := by
  have encoded : s.toList.utf8Encode = s.toByteArray := String.utf8Encode_toList
  rw [← encoded, List.utf8Encode, List.toList_data_toByteArray]

theorem zero_mem_bytes {s : String} : 0 ∈ s.toByteArray.data.toList ↔ '\x00' ∈ s.toList := by
  rw [bytes_eq_flatMap, List.mem_flatMap]
  constructor
  · intro found
    obtain ⟨c, mem, zero⟩ := found
    rw [zero_mem_utf8EncodeChar] at zero
    rwa [← zero]
  · intro mem
    exact ⟨_, mem, zero_mem_utf8EncodeChar.mpr rfl⟩

theorem fromUTF8?_eq_some {bytes : ByteArray} {s : String} :
    String.fromUTF8? bytes = some s ↔ bytes = s.toByteArray := by
  unfold String.fromUTF8?
  constructor
  · intro decoded
    split at decoded
    · cases decoded
      rfl
    · cases decoded
  · intro same
    subst same
    rw [dif_pos s.isValidUTF8]
    rfl

theorem fromUTF8?_eq_none {bytes : ByteArray} :
    String.fromUTF8? bytes = none ↔ ¬bytes.IsValidUTF8 := by
  unfold String.fromUTF8?
  split
  next valid => exact iff_of_false (fun none_left => by cases none_left) (not_not.mpr valid)
  next invalid => exact iff_of_true rfl invalid

theorem trimEnd_of_absent {c : Char} {s : String} (absent : c ∉ s.toList) : trimEnd c s = s := by
  simpa using trimEnd_replicate absent 0

theorem toByteArray_zeros (s : String) (n : Nat) :
    (s ++ String.ofList (List.replicate n '\x00')).toByteArray =
      ⟨(s.toByteArray.data.toList ++ List.replicate n 0).toArray⟩ := by
  apply ByteArray.ext
  apply Array.toList_inj.mp
  rw [bytes_eq_flatMap, String.toList_append, List.flatMap_append, ← bytes_eq_flatMap,
    String.toList_ofList]
  have zeros : (List.replicate n '\x00').flatMap String.utf8EncodeChar = List.replicate n 0 := by
    induction n with
    | zero => rfl
    | succ n ih =>
      rw [List.replicate_succ, List.flatMap_cons, ih]
      rfl
  rw [zeros]

/-- What `trim_end_matches` takes away can be put back. -/
theorem exists_trimEnd_append (c : Char) (s : String) :
    ∃ n, s = trimEnd c s ++ String.ofList (List.replicate n c) := by
  let trimmed := s.toList.rtakeWhile (· = c)
  have all : trimmed = List.replicate trimmed.length c := by
    apply List.eq_replicate_of_mem
    intro x mem
    simpa using List.mem_rtakeWhile_imp mem
  refine ⟨trimmed.length, ?_⟩
  rw [← all, trimEnd, ← String.ofList_append]
  have whole : s.toList.rdropWhile (· = c) ++ trimmed = s.toList := List.rdropWhile_append_rtakeWhile
  rw [whole, String.ofList_toList]

/-- Whether a byte can follow `first` in a character of three or four bytes. -/
def secondFits (first second : UInt8) : Bool :=
  if first = 0xE0 then 0xA0 ≤ second && second ≤ 0xBF
  else if first = 0xED then 0x80 ≤ second && second ≤ 0x9F
  else if first = 0xF0 then 0x90 ≤ second && second ≤ 0xBF
  else if first = 0xF4 then 0x80 ≤ second && second ≤ 0x8F
  else 0x80 ≤ second && second ≤ 0xBF

/-- How many bytes one replacement character stands for, where no character begins:
those that could still have begun one, and at least one. -/
def malformedLength : List UInt8 → Nat
  | first :: second :: rest =>
    if 0xE0 ≤ first ∧ first ≤ 0xEF ∧ secondFits first second then 2
    else if 0xF0 ≤ first ∧ first ≤ 0xF4 ∧ secondFits first second then
      match rest with
      | third :: _ => if 0x80 ≤ third ∧ third ≤ 0xBF then 3 else 2
      | [] => 2
    else 1
  | _ => 1

/-- The characters of the bytes, after skipping some that are done with. -/
def lossyChars : Nat → List UInt8 → List Char
  | _, [] => []
  | skip + 1, _ :: rest => lossyChars skip rest
  | 0, first :: rest =>
    match (first :: rest).toByteArray.utf8DecodeChar? 0 with
    | some c => c :: lossyChars (c.utf8Size - 1) rest
    | none => '\uFFFD' :: lossyChars (malformedLength (first :: rest) - 1) rest

/-- `String::from_utf8_lossy`. -/
def fromUtf8Lossy (bytes : List UInt8) : String := String.ofList (lossyChars 0 bytes)

theorem lossyChars_skip (done rest : List UInt8) :
    lossyChars done.length (done ++ rest) = lossyChars 0 rest := by
  induction done with
  | nil => rfl
  | cons b done ih => exact ih

theorem lossyChars_char (c : Char) (rest : List UInt8) :
    lossyChars 0 (String.utf8EncodeChar c ++ rest) = c :: lossyChars 0 rest := by
  have size := String.length_utf8EncodeChar c
  have decoded : (String.utf8EncodeChar c ++ rest).toByteArray.utf8DecodeChar? 0 = some c := by
    rw [List.toByteArray_append]
    exact ByteArray.utf8DecodeChar?_utf8EncodeChar_append
  rcases image : String.utf8EncodeChar c with _ | ⟨first, more⟩
  · have pos := c.utf8Size_pos
    rw [image, List.length_nil] at size
    omega
  · rw [image, List.length_cons] at size
    rw [image, List.cons_append] at decoded
    have left : c.utf8Size - 1 = more.length := by omega
    rw [List.cons_append, lossyChars, decoded]
    show c :: lossyChars (c.utf8Size - 1) (more ++ rest) = _
    rw [left, lossyChars_skip]

/-- Text is not changed by decoding it lossily. -/
theorem fromUtf8Lossy_bytes (s : String) : fromUtf8Lossy s.toByteArray.data.toList = s := by
  have chars : ∀ cs : List Char, lossyChars 0 (cs.flatMap String.utf8EncodeChar) = cs := by
    intro cs
    induction cs with
    | nil => rfl
    | cons c cs ih => rw [List.flatMap_cons, lossyChars_char, ih]
  rw [fromUtf8Lossy, bytes_eq_flatMap, chars, String.ofList_toList]

example : fromUtf8Lossy [0x61, 0xE2, 0x82, 0x61, 0xFF] = "a\uFFFDa\uFFFD" := by decide

end Foundation
