import EasyUsb.CodecBijection

namespace EasyUsb

open Foundation

/-- The buffer is one whole frame: it is as long as its own header bytes
announce, and decodes to the header with all the bytes that follow it. -/
def SelfConsistent (h : UsbipHeader) (buf : List UInt8) : Prop :=
  (∃ command direction len, wordAt buf 0 = .ok command ∧
    wordAt buf directionOffset = .ok direction ∧
    announcedLen buf command direction = .ok len ∧ buf.length = payloadOffset + len) ∧
  ∃ payload, decodeHeader buf = .ok (h, payload) ∧ payload.getD [] = buf.drop payloadOffset

/-- A header that declares a payload is given one of the declared length. -/
def UsbipHeader.PayloadFits (h : UsbipHeader) (p : Option (List UInt8)) : Prop :=
  0 < h.declaredLen → (p.getD []).length = h.declaredLen

theorem announcedLen_append {h : UsbipHeader} {payload : List UInt8} {command direction : UInt32}
    {len : Nat} (hc : wordAt (h.wire ++ payload) 0 = .ok command)
    (hd : wordAt (h.wire ++ payload) directionOffset = .ok direction)
    (hl : announcedLen (h.wire ++ payload) command direction = .ok len) :
    len = h.declaredLen := by
  cases (wordAt_command h payload).symm.trans hc
  cases (wordAt_direction h payload).symm.trans hd
  cases (announcedLen_wire h payload).symm.trans hl
  rfl

/-- An encoding is a whole frame exactly when the payload fits the length its
header declares: the encoder itself never compares the two. -/
theorem encodeHeader_selfConsistent_iff {h : UsbipHeader} {p : Option (List UInt8)}
    {buf : List UInt8} (encoded : encodeHeader h p = .ok buf) :
    SelfConsistent h buf ↔ h.PayloadFits p := by
  obtain ⟨dir, known, iso, sizes⟩ := encodeHeader_eq_ok.mp encoded
  constructor
  · rintro ⟨⟨command, direction, len, hc, hd, hl, size⟩, _⟩ pos
    rcases sizes with ⟨empty, _⟩ | ⟨_, payload, rfl, _, rfl⟩
    · omega
    · have announced := announcedLen_append hc hd hl
      simp only [List.length_append, UsbipHeader.wire_length, payloadOffset, basicHeaderSize,
        cmdHeaderSize] at size
      simp only [Option.getD_some]
      omega
  · intro fits
    have body : ∃ body, buf = h.wire ++ body ∧ body.length = h.declaredLen ∧
        body.length ≤ maxPayloadSize := by
      rcases sizes with ⟨empty, rfl⟩ | ⟨pos, payload, rfl, small, rfl⟩
      · exact ⟨[], by simp, by simp [empty], by simp⟩
      · exact ⟨payload, rfl, by simpa using fits pos, small⟩
    obtain ⟨body, rfl, size, small⟩ := body
    have offset : h.wire.length = payloadOffset := by
      simp [payloadOffset, basicHeaderSize, cmdHeaderSize]
    refine ⟨⟨_, _, _, wordAt_command h body, wordAt_direction h body, announcedLen_wire h body,
      by rw [List.length_append, offset, size]⟩, ?_⟩
    refine ⟨if h.declaredLen = 0 then none else some body, ?_, ?_⟩
    · apply decodeHeader_eq_ok.mpr
      refine ⟨dir, known, by omega, body, rfl, by omega, ?_⟩
      rw [← size, List.take_length]
    · rw [List.drop_left' offset]
      split_ifs with empty
      · have none_left : body = [] := List.length_eq_zero_iff.mp (by omega)
        rw [none_left]
        rfl
      · rfl

def shortSubmit : UsbipHeader :=
  ⟨⟨Constants.cmdSubmit, 1, 0, Constants.usbipDirOut, 2⟩,
    .ofCmdSubmit ⟨0, 4, 0, 0, 0, Vector.replicate 8 0⟩⟩

/-- Given eight payload bytes, the encoder emits all eight after a header that
announces four. -/
theorem encodeHeader_overlong :
    ∃ buf, encodeHeader shortSubmit (some [1, 2, 3, 4, 5, 6, 7, 8]) = .ok buf ∧
      ¬SelfConsistent shortSubmit buf := by
  refine ⟨shortSubmit.wire ++ [1, 2, 3, 4, 5, 6, 7, 8], by decide, ?_⟩
  rintro ⟨_, payload, decoded, body⟩
  have cut : decodeHeader (shortSubmit.wire ++ [1, 2, 3, 4, 5, 6, 7, 8]) =
      .ok (shortSubmit, some [1, 2, 3, 4]) := by decide
  cases cut.symm.trans decoded
  exact absurd body (by decide)

theorem encodeHeader_fitting :
    encodeHeader shortSubmit (some [1, 2, 3, 4]) = .ok (shortSubmit.wire ++ [1, 2, 3, 4]) ∧
      (SelfConsistent shortSubmit (shortSubmit.wire ++ [1, 2, 3, 4]) ↔
        shortSubmit.PayloadFits (some [1, 2, 3, 4])) :=
  ⟨by decide, encodeHeader_selfConsistent_iff (by decide)⟩

end EasyUsb
