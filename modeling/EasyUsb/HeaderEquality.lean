import EasyUsb.CodecSpec

namespace EasyUsb

open Foundation

/-- `PartialEq for UsbipHeader`: the base fields decide, the union is not looked at. -/
def UsbipHeader.eq (h other : UsbipHeader) : Bool := h.base = other.base

theorem encodeHeader_misdirected {h : UsbipHeader} (dir : ¬h.ValidDirection)
    (p : Option (List UInt8)) : encodeHeader h p = .err (invalidDirection h.base.direction) := by
  obtain ⟨missing, encoded⟩ := encodeHeader_wire h p
  rw [encoded, encodeWire, if_pos dir]

theorem encodeHeader_isochronous {h : UsbipHeader} (dir : h.ValidDirection) (known : h.Known)
    (iso : h.Isochronous) (p : Option (List UInt8)) :
    encodeHeader h p = .err .isochronousNotSupported := by
  obtain ⟨missing, encoded⟩ := encodeHeader_wire h p
  rw [encoded, encodeWire, if_neg (not_not.mpr dir), if_neg (not_not.mpr known), if_pos iso]

/-- An empty payload is never missing and never too large. -/
theorem encodeHeader_empty {h : UsbipHeader} (dir : h.ValidDirection) (known : h.Known)
    (iso : ¬h.Isochronous) : encodeHeader h (some []) = .ok h.wire := by
  apply encodeHeader_eq_ok.mpr
  refine ⟨dir, known, iso, ?_⟩
  by_cases empty : h.declaredLen = 0
  · exact Or.inl ⟨empty, rfl⟩
  · refine Or.inr ⟨by omega, [], rfl, Nat.zero_le _, ?_⟩
    rw [List.append_nil]

theorem wire_of_encodeHeader_empty {h : UsbipHeader} {image : List UInt8}
    (encoded : encodeHeader h (some []) = .ok image) : ¬h.Isochronous ∧ image = h.wire := by
  obtain ⟨_, _, iso, sizes⟩ := encodeHeader_eq_ok.mp encoded
  rcases sizes with ⟨_, whole⟩ | ⟨_, payload, given, _, whole⟩
  · exact ⟨iso, whole⟩
  · cases given
    rw [List.append_nil] at whole
    exact ⟨iso, whole⟩

/-- A header that is encoded at all shares its bytes with no other. -/
theorem eq_of_encodeHeader {a b : UsbipHeader} (dir : a.ValidDirection) (known : a.Known)
    (iso : ¬a.Isochronous) (same : ∀ p, encodeHeader a p = encodeHeader b p) : a = b := by
  have encoded := encodeHeader_empty dir known iso
  rw [same] at encoded
  exact wire_injective (wire_of_encodeHeader_empty encoded).2

/-- Headers that are equal to the program are encoded alike when both are refused
for one reason, or when they also agree on the fields their command has. -/
theorem encodeHeader_same_iff {a b : UsbipHeader} (known : a.Known) (equal : a.eq b = true) :
    (∀ p, encodeHeader a p = encodeHeader b p) ↔
      ¬a.ValidDirection ∨ (a.Isochronous ∧ b.Isochronous) ∨ a.SameFields b := by
  have base : a.base = b.base := of_decide_eq_true equal
  have knownB : b.Known := by
    unfold UsbipHeader.Known at known ⊢
    rw [← base]
    exact known
  have direction : a.ValidDirection ↔ b.ValidDirection := by
    unfold UsbipHeader.ValidDirection
    rw [base]
  rw [UsbipHeader.sameFields_iff known]
  constructor
  · intro same
    by_cases dir : a.ValidDirection
    swap
    · exact Or.inl dir
    refine Or.inr ?_
    by_cases isoA : a.Isochronous
    · by_cases isoB : b.Isochronous
      · exact Or.inl ⟨isoA, isoB⟩
      · have swapped := eq_of_encodeHeader (direction.mp dir) knownB isoB fun p => (same p).symm
        exact Or.inr swapped.symm
    · exact Or.inr (eq_of_encodeHeader dir known isoA same)
  · intro alike p
    by_cases dir : a.ValidDirection
    swap
    · rw [encodeHeader_misdirected dir, encodeHeader_misdirected (mt direction.mpr dir), base]
    rcases alike with bad | ⟨isoA, isoB⟩ | same
    · exact absurd dir bad
    · rw [encodeHeader_isochronous dir known isoA,
        encodeHeader_isochronous (direction.mp dir) knownB isoB]
    · rw [same]

/-- A reply without payload that reports a status. -/
def statusReply (status : Int32) : UsbipHeader :=
  ⟨⟨Constants.retSubmit, 1, 3, Constants.usbipDirIn, 2⟩,
    .ofRetSubmit ⟨status, 0, 0, 0, 0, Vector.replicate 8 0⟩⟩

theorem statusReply_same :
    (∀ p, encodeHeader (statusReply 0) p = encodeHeader (statusReply (-32)) p) ↔
      ¬(statusReply 0).ValidDirection ∨
        ((statusReply 0).Isochronous ∧ (statusReply (-32)).Isochronous) ∨
        (statusReply 0).SameFields (statusReply (-32)) :=
  encodeHeader_same_iff (by decide) (by decide)

/-- A success and a failure are equal to the program and differ on the wire. -/
theorem statusReply_differs :
    (statusReply 0).Known ∧ (statusReply (-32)).Known ∧
      (statusReply 0).eq (statusReply (-32)) = true ∧
      encodeHeader (statusReply 0) none ≠ encodeHeader (statusReply (-32)) none := by
  refine ⟨by decide, by decide, by decide, by decide⟩

end EasyUsb
