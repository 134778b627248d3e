import EasyUsb.FrameReader

namespace EasyUsb

open Foundation

/-- The payload a header calls for: exactly the declared bytes, or none. -/
def UsbipHeader.Matching (h : UsbipHeader) (p : Option (List UInt8)) : Prop :=
  if 0 < h.declaredLen then ∃ payload, p = some payload ∧ payload.length = h.declaredLen
  else p = none

theorem matching_some {h : UsbipHeader} {bytes : List UInt8} (pos : 0 < h.declaredLen)
    (size : bytes.length = h.declaredLen) : h.Matching (some bytes) := by
  rw [UsbipHeader.Matching, if_pos pos]
  exact ⟨bytes, rfl, size⟩

theorem matching_none {h : UsbipHeader} (empty : h.declaredLen = 0) : h.Matching none := by
  rw [UsbipHeader.Matching, if_neg (by omega)]

theorem encodeHeader_of_matching {h : UsbipHeader} {p : Option (List UInt8)}
    (dir : h.ValidDirection) (known : h.Known) (iso : ¬h.Isochronous)
    (small : h.declaredLen ≤ maxPayloadSize) (matching : h.Matching p) :
    encodeHeader h p = .ok (h.wire ++ p.getD []) := by
  apply encodeHeader_eq_ok.mpr
  refine ⟨dir, known, iso, ?_⟩
  unfold UsbipHeader.Matching at matching
  split_ifs at matching with pos
  · obtain ⟨payload, rfl, size⟩ := matching
    exact Or.inr ⟨pos, payload, rfl, by omega, rfl⟩
  · subst matching
    exact Or.inl ⟨by omega, by simp⟩

theorem decodeHeader_of_matching {h : UsbipHeader} {p : Option (List UInt8)}
    (dir : h.ValidDirection) (known : h.Known) (small : h.declaredLen ≤ maxPayloadSize)
    (matching : h.Matching p) (t : List UInt8) :
    decodeHeader (h.wire ++ p.getD [] ++ t) = .ok (h, p) := by
  apply decodeHeader_eq_ok.mpr
  refine ⟨dir, known, small, p.getD [] ++ t, by simp, ?_, ?_⟩ <;>
    unfold UsbipHeader.Matching at matching <;> split_ifs at matching with pos
  · obtain ⟨payload, rfl, size⟩ := matching
    simp [size]
  · omega
  · obtain ⟨payload, rfl, size⟩ := matching
    rw [if_neg (by omega), Option.getD_some, List.take_left' size]
  · rw [if_pos (by omega), matching]

theorem matching_of_decodeHeader {buf : List UInt8} {h : UsbipHeader} {p : Option (List UInt8)}
    (decoded : decodeHeader buf = .ok (h, p)) : h.Matching p := by
  obtain ⟨_, _, _, rest, _, long, rfl⟩ := decodeHeader_eq_ok.mp decoded
  unfold UsbipHeader.Matching
  split_ifs with pos empty empty
  · omega
  · exact ⟨_, rfl, by simpa using long⟩
  · rfl
  · omega

theorem prefix_of_decodeHeader {buf : List UInt8} {h : UsbipHeader} {p : Option (List UInt8)}
    (decoded : decodeHeader buf = .ok (h, p)) : ∃ t, buf = h.wire ++ p.getD [] ++ t := by
  obtain ⟨_, _, _, rest, rfl, long, rfl⟩ := decodeHeader_eq_ok.mp decoded
  split_ifs with empty
  · exact ⟨rest, by simp⟩
  · exact ⟨rest.drop h.declaredLen, by simp⟩

theorem getD_length_of_matching {h : UsbipHeader} {p : Option (List UInt8)}
    (matching : h.Matching p) : (p.getD []).length = h.declaredLen := by
  unfold UsbipHeader.Matching at matching
  split_ifs at matching with pos
  · obtain ⟨payload, rfl, size⟩ := matching
    exact size
  · subst matching
    simp only [Option.getD_none, List.length_nil]
    omega

theorem encodeHeader_of_decodeHeader {buf : List UInt8} {h : UsbipHeader}
    {p : Option (List UInt8)} (decoded : decodeHeader buf = .ok (h, p))
    (iso : ¬h.Isochronous) : encodeHeader h p = .ok (h.wire ++ p.getD []) := by
  obtain ⟨dir, known, small, _⟩ := decodeHeader_eq_ok.mp decoded
  exact encodeHeader_of_matching dir known iso small (matching_of_decodeHeader decoded)

theorem decodeHeader_of_encodeHeader {h : UsbipHeader} {p : Option (List UInt8)}
    {e : List UInt8} (matching : h.Matching p) (encoded : encodeHeader h p = .ok e)
    (t : List UInt8) : decodeHeader (e ++ t) = .ok (h, p) := by
  obtain ⟨dir, known, iso, sizes⟩ := encodeHeader_eq_ok.mp encoded
  have small : h.declaredLen ≤ maxPayloadSize := by
    rcases sizes with ⟨empty, _⟩ | ⟨_, payload, rfl, small, _⟩
    · omega
    · have size := getD_length_of_matching matching
      simp only [Option.getD_some] at size
      omega
  have image := encodeHeader_of_matching dir known iso small matching
  cases encoded.symm.trans image
  exact decodeHeader_of_matching dir known small matching t

/-- Decoding and encoding of non-isochronous frames are inverse to each other:
a buffer decodes to a header and a payload exactly when the payload is the one
the header calls for and the buffer starts with their encoding. -/
theorem decodeHeader_iff_encodeHeader (buf : List UInt8) (h : UsbipHeader)
    (p : Option (List UInt8)) :
    ((∃ h', decodeHeader buf = .ok (h', p) ∧ h'.SameFields h ∧ ¬h.Isochronous) ↔
      h.Matching p ∧ ∃ e t, encodeHeader h p = .ok e ∧ buf = e ++ t) ∧
    (∀ e t, h.Matching p → encodeHeader h p = .ok e → decodeHeader (e ++ t) = .ok (h, p)) ∧
    (decodeHeader buf = .ok (h, p) → ¬h.Isochronous →
      encodeHeader h p = .ok (buf.take (payloadOffset + (p.getD []).length))) := by
  refine ⟨⟨?_, ?_⟩, fun e t matching encoded => decodeHeader_of_encodeHeader matching encoded t, ?_⟩
  · rintro ⟨h', decoded, fields, iso⟩
    have known := (decodeHeader_eq_ok.mp decoded).2.1
    have eq : h' = h := (UsbipHeader.sameFields_iff known).mp fields
    subst eq
    obtain ⟨t, buffer⟩ := prefix_of_decodeHeader decoded
    exact ⟨matching_of_decodeHeader decoded, _, t, encodeHeader_of_decodeHeader decoded iso, buffer⟩
  · rintro ⟨matching, e, t, encoded, rfl⟩
    have known := (encodeHeader_eq_ok.mp encoded).2.1
    exact ⟨h, decodeHeader_of_encodeHeader matching encoded t,
      (UsbipHeader.sameFields_iff known).mpr rfl, (encodeHeader_eq_ok.mp encoded).2.2.1⟩
  · intro decoded iso
    obtain ⟨t, buffer⟩ := prefix_of_decodeHeader decoded
    rw [encodeHeader_of_decodeHeader decoded iso, buffer]
    congr 1
    exact (List.take_left' (by simp [payloadOffset, basicHeaderSize, cmdHeaderSize])).symm

end EasyUsb
