import EasyUsb.IncrementalDecoding

namespace EasyUsb

open Foundation

/-- What a decoder does that never waits for more than a legal frame: it asks for
no more, and rejects a larger frame once it has the header. -/
structure BoundsRequests (buf : List UInt8) : Prop where
  asks : ∀ needed available, decodeHeader buf = .err (.incompleteBuffer needed available) →
    needed ≤ payloadOffset + maxPayloadSize
  rejects : ∀ (header : UsbipHeader) (rest : List UInt8), buf = header.wire ++ rest →
    header.ValidDirection → maxPayloadSize < header.declaredLen →
    decodeHeader buf = .err (.bufferTooLarge header.declaredLen maxPayloadSize)

/-- A whole header that announces more than `MAX_PAYLOAD_SIZE` bytes, and not all
of them after it. -/
def OversizedPrefix (buf : List UInt8) : Prop :=
  payloadOffset ≤ buf.length ∧ ∃ command direction len, wordAt buf 0 = .ok command ∧
    wordAt buf directionOffset = .ok direction ∧
    (direction = Constants.usbipDirOut ∨ direction = Constants.usbipDirIn) ∧
    announcedLen buf command direction = .ok len ∧ maxPayloadSize < len ∧
    buf.length < payloadOffset + len

theorem oversizedPrefix_wire (h : UsbipHeader) (rest : List UInt8) :
    OversizedPrefix (h.wire ++ rest) ↔
      h.ValidDirection ∧ maxPayloadSize < h.declaredLen ∧ rest.length < h.declaredLen := by
  have size : (h.wire ++ rest).length = payloadOffset + rest.length := by
    rw [List.length_append, UsbipHeader.wire_length]
    rfl
  unfold OversizedPrefix
  rw [size]
  constructor
  · intro oversized
    obtain ⟨_, command, direction, len, hc, hd, dir, hl, large, short⟩ := oversized
    cases (wordAt_command h rest).symm.trans hc
    cases (wordAt_direction h rest).symm.trans hd
    cases (announcedLen_wire h rest).symm.trans hl
    exact ⟨dir, large, by omega⟩
  · intro oversized
    obtain ⟨dir, large, short⟩ := oversized
    exact ⟨by omega, _, _, _, wordAt_command h rest, wordAt_direction h rest, dir,
      announcedLen_wire h rest, large, by omega⟩

theorem decodeHeader_oversized {h : UsbipHeader} {rest : List UInt8} (dir : h.ValidDirection)
    (large : maxPayloadSize < h.declaredLen) :
    decodeHeader (h.wire ++ rest) =
      if rest.length < h.declaredLen then
        .err (.incompleteBuffer (48 + h.declaredLen) (48 + rest.length))
      else .err (.bufferTooLarge h.declaredLen maxPayloadSize) := by
  have known : h.Known := by
    rcases submit_of_declaredLen (h := h) (by omega) with cs | rs
    · exact Or.inl cs
    · exact Or.inr (Or.inl rs)
  rw [decodeHeader_wire, decodeWire, if_neg (not_not.mpr dir), if_neg (not_not.mpr known),
    if_neg (by omega), if_pos large]

/-- The decoder looks for the payload before it looks at its size. -/
theorem boundsRequests_iff (buf : List UInt8) : BoundsRequests buf ↔ ¬OversizedPrefix buf := by
  constructor
  · intro bounds oversized
    obtain ⟨header, rest, rfl⟩ := exists_wire oversized.1
    obtain ⟨dir, large, short⟩ := (oversizedPrefix_wire header rest).mp oversized
    have waits := @decodeHeader_oversized header rest dir large
    rw [if_pos short] at waits
    have bound := bounds.asks _ _ waits
    unfold payloadOffset basicHeaderSize cmdHeaderSize at bound
    omega
  · intro fine
    refine ⟨fun needed available incomplete => ?_, fun header rest image dir large => ?_⟩
    · have asked : headerAsks buf = some needed := asks_of_err incomplete
      unfold payloadOffset basicHeaderSize cmdHeaderSize
      rcases headerAsks_cases asked with tiny | partly | ⟨large, whole, _⟩
      · omega
      · omega
      · obtain ⟨header, rest, rfl⟩ := exists_wire whole
        obtain ⟨dir, _, short, rfl⟩ := headerAsks_wire_some asked
        by_contra oversized
        exact fine ((oversizedPrefix_wire header rest).mpr ⟨dir, by omega, short⟩)
    · subst image
      have there : ¬rest.length < header.declaredLen := fun short =>
        fine ((oversizedPrefix_wire header rest).mpr ⟨dir, large, short⟩)
      rw [decodeHeader_oversized dir large, if_neg there]

/-- A request that announces as much as an `i32` can. -/
def hugeSubmit : UsbipHeader :=
  ⟨⟨Constants.cmdSubmit, 1, 3, Constants.usbipDirOut, 2⟩,
    .ofCmdSubmit ⟨0, 2147483647, 0, 0, 0, Vector.replicate 8 0⟩⟩

/-- Its header alone makes the decoder ask for 2 GiB. -/
theorem decodeHeader_asks_huge :
    decodeHeader hugeSubmit.wire = .err (.incompleteBuffer 2147483695 48) ∧
      ¬BoundsRequests hugeSubmit.wire := by
  have waits : decodeHeader hugeSubmit.wire = .err (.incompleteBuffer 2147483695 48) := by decide
  refine ⟨waits, fun bounds => ?_⟩
  have bound := bounds.asks _ _ waits
  exact absurd bound (by decide)

end EasyUsb
