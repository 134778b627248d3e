import EasyUsb.CodecLayout

namespace EasyUsb

open Foundation

namespace UsbipHeader

def ValidDirection (h : UsbipHeader) : Prop :=
  h.base.direction = Constants.usbipDirOut ∨ h.base.direction = Constants.usbipDirIn

instance (h : UsbipHeader) : Decidable h.ValidDirection := by
  unfold ValidDirection; infer_instance

/-- An isochronous transfer. The unlink commands carry no packet count. -/
def Isochronous (h : UsbipHeader) : Prop :=
  (h.base.command = Constants.cmdSubmit ∧ h.u.cmdSubmit.numberOfPackets ≠ 0) ∨
    (h.base.command = Constants.retSubmit ∧ h.u.retSubmit.numberOfPackets ≠ 0)

instance (h : UsbipHeader) : Decidable h.Isochronous := by
  unfold Isochronous; infer_instance

/-- The number of payload bytes a header announces. -/
def declaredLen (h : UsbipHeader) : Nat :=
  if h.base.command = Constants.cmdSubmit ∧ h.base.direction = Constants.usbipDirOut ∧
      0 < h.u.cmdSubmit.transferBufferLength then
    asUsize h.u.cmdSubmit.transferBufferLength
  else if h.base.command = Constants.retSubmit ∧ 0 < h.u.retSubmit.actualLength then
    asUsize h.u.retSubmit.actualLength
  else 0

def wire (h : UsbipHeader) : List UInt8 :=
  putBasic h.base ++
    if h.base.command = Constants.cmdSubmit then putCmdSubmit h.u.cmdSubmit
    else if h.base.command = Constants.retSubmit then putRetSubmit h.u.retSubmit
    else if h.base.command = Constants.cmdUnlink then putCmdUnlink h.u.cmdUnlink
    else putRetUnlink h.u.retUnlink

@[simp] theorem wire_length (h : UsbipHeader) : h.wire.length = 48 := by
  unfold wire
  split_ifs <;> simp

theorem wire_of_cmdSubmit {h : UsbipHeader} (hc : h.base.command = Constants.cmdSubmit) :
    h.wire = putBasic h.base ++ putCmdSubmit h.u.cmdSubmit := by
  simp [wire, hc]

theorem wire_of_retSubmit {h : UsbipHeader} (hc : h.base.command = Constants.retSubmit) :
    h.wire = putBasic h.base ++ putRetSubmit h.u.retSubmit := by
  simp [wire, hc, Constants.retSubmit, Constants.cmdSubmit]

theorem wire_of_cmdUnlink {h : UsbipHeader} (hc : h.base.command = Constants.cmdUnlink) :
    h.wire = putBasic h.base ++ putCmdUnlink h.u.cmdUnlink := by
  simp [wire, hc, Constants.cmdUnlink, Constants.retSubmit, Constants.cmdSubmit]

theorem wire_of_retUnlink {h : UsbipHeader} (hc : h.base.command = Constants.retUnlink) :
    h.wire = putBasic h.base ++ putRetUnlink h.u.retUnlink := by
  simp [wire, hc, Constants.retUnlink, Constants.cmdUnlink, Constants.retSubmit,
    Constants.cmdSubmit]

theorem declaredLen_of_cmdSubmit {h : UsbipHeader} (hc : h.base.command = Constants.cmdSubmit) :
    h.declaredLen =
      if 0 < h.u.cmdSubmit.transferBufferLength ∧ h.base.direction = Constants.usbipDirOut then
        asUsize h.u.cmdSubmit.transferBufferLength
      else 0 := by
  have other : Constants.cmdSubmit ≠ Constants.retSubmit := by decide
  simp [declaredLen, hc, other, and_comm]

theorem declaredLen_of_retSubmit {h : UsbipHeader} (hc : h.base.command = Constants.retSubmit) :
    h.declaredLen =
      if 0 < h.u.retSubmit.actualLength then asUsize h.u.retSubmit.actualLength else 0 := by
  have other : Constants.retSubmit ≠ Constants.cmdSubmit := by decide
  simp [declaredLen, hc, other]

theorem declaredLen_lt (h : UsbipHeader) : h.declaredLen < 2 ^ 31 := by
  unfold declaredLen
  split_ifs with hc hr
  · exact asUsize_lt hc.2.2
  · exact asUsize_lt hr.2
  · omega

end UsbipHeader

theorem headerLayout_put (header : UsbipHeader) : headerLayout.put header = header.wire := by
  show putBasic header.base ++ (unionLayout header.base.command).put header.u = _
  unfold unionLayout UsbipHeader.wire
  split_ifs
  · rfl
  · rfl
  · rfl
  · rfl

/-- Any 48 bytes are the header of some frame. -/
theorem exists_wire_eq {buf : List UInt8} (size : buf.length = 48) :
    ∃ header : UsbipHeader, header.wire = buf := by
  obtain ⟨header, image⟩ := headerLayout.onto buf size
  exact ⟨header, by rw [← headerLayout_put, image]⟩

theorem exists_wire {buf : List UInt8} (h : 48 ≤ buf.length) :
    ∃ (header : UsbipHeader) (rest : List UInt8), buf = header.wire ++ rest := by
  obtain ⟨header, rest, image⟩ := headerLayout.exists_leading h
  exact ⟨header, rest, by rw [image, headerLayout_put]⟩

theorem wire_injective : Function.Injective UsbipHeader.wire := by
  intro a b image
  rw [← headerLayout_put, ← headerLayout_put] at image
  exact headerLayout.injective image

theorem takePayload_wire (header : UsbipHeader) (n : Nat) (rest : List UInt8) :
    takePayloadOn .plain n (header.wire ++ rest) =
      if rest.length < n then .err (.incompleteBuffer (48 + n) (48 + rest.length))
      else if n > maxPayloadSize then .err (.bufferTooLarge n maxPayloadSize)
      else .ok (rest.take n) := by
  have cut (long : n ≤ rest.length) :
      (slice (header.wire ++ rest) 48 (48 + n) : Outcome ProtocolError (List UInt8)) =
        .ok (rest.take n) := by
    rw [← List.take_append_drop n rest, ← List.append_assoc, List.take_append_drop]
    exact slice_middle (by simp) (by simp; omega)
  simp only [takePayloadOn, Usize.plain_add, Outcome.ok_bind, payloadOffset,
    basicHeaderSize, cmdHeaderSize, Nat.reduceAdd, List.length_append, UsbipHeader.wire_length,
    Nat.add_lt_add_iff_left]
  split_ifs with short large
  · rfl
  · rfl
  · exact cut (by omega)

/-- What decoding answers once the 48 header bytes are there. -/
def decodeWire (header : UsbipHeader) (rest : List UInt8) :
    Outcome ProtocolError (UsbipHeader × Option (List UInt8)) :=
  if ¬header.ValidDirection then .err (invalidDirection header.base.direction)
  else if ¬header.Known then .err (.invalidCommand header.base.command)
  else if header.declaredLen = 0 then .ok (header, none)
  else if rest.length < header.declaredLen then
    .err (.incompleteBuffer (48 + header.declaredLen) (48 + rest.length))
  else if header.declaredLen > maxPayloadSize then
    .err (.bufferTooLarge header.declaredLen maxPayloadSize)
  else .ok (header, some (rest.take header.declaredLen))

theorem slice_body {basic : UsbipHeaderBasic} {body rest : List UInt8} (h : body.length = 28) :
    (slice (putBasic basic ++ body ++ rest) basicHeaderSize payloadOffset :
      Outcome ProtocolError (List UInt8)) = .ok body :=
  slice_middle (by simp [basicHeaderSize]) (by simp [h, payloadOffset, basicHeaderSize,
    cmdHeaderSize])

theorem decodeBasic_wire (header : UsbipHeader) (rest : List UInt8) :
    decodeBasic (header.wire ++ rest) =
      if ¬header.ValidDirection then .err (invalidDirection header.base.direction)
      else .ok header.base := by
  rw [UsbipHeader.wire, List.append_assoc, decodeBasic_put]
  simp only [UsbipHeader.ValidDirection, not_or]

/-- The payload branch of a SUBMIT command, once its layout is decoded. -/
theorem takePayload_decodeWire {header : UsbipHeader} (dir : header.ValidDirection)
    (known : header.Known) {declares : Prop} [Decidable declares] {n : Nat}
    (size : header.declaredLen = if declares then n else 0) (pos : declares → 0 < n)
    (rest : List UInt8) :
    (if declares then do
        let payload ← takePayloadOn .plain n (header.wire ++ rest)
        return (header, some payload)
      else return (header, none)) = decodeWire header rest := by
  rw [decodeWire, if_neg (not_not.mpr dir), if_neg (not_not.mpr known)]
  by_cases announced : declares
  · rw [if_pos announced] at size
    have full : ¬header.declaredLen = 0 := by
      have := pos announced
      omega
    rw [if_pos announced, ← size, takePayload_wire, if_neg full]
    split_ifs <;> simp
  · rw [if_neg announced] at size
    rw [if_neg announced, if_pos size]
    rfl

theorem decodeHeader_wire (header : UsbipHeader) (rest : List UInt8) :
    decodeHeader (header.wire ++ rest) = decodeWire header rest := by
  have long : ¬(header.wire ++ rest).length < payloadOffset := by
    simp [payloadOffset, basicHeaderSize, cmdHeaderSize]
  rw [decodeHeader, decodeHeaderOn, decodeBasic_wire]
  by_cases dir : header.ValidDirection
  swap
  · simp [dir, decodeWire]
  simp only [dir, not_true_eq_false, if_false, Outcome.ok_bind, long]
  by_cases cs : header.base.command = Constants.cmdSubmit
  · have image := UsbipHeader.wire_of_cmdSubmit cs
    rw [if_pos cs, image, slice_body (by simp), ← image]
    simp only [Outcome.ok_bind, decodeCmdSubmit_put, UsbipHeaderUnion.ofCmdSubmit_cmdSubmit,
      Usize.plain_cast]
    exact takePayload_decodeWire dir (Or.inl cs) (UsbipHeader.declaredLen_of_cmdSubmit cs)
      (fun out => asUsize_pos out.1) rest
  by_cases rs : header.base.command = Constants.retSubmit
  · have image := UsbipHeader.wire_of_retSubmit rs
    rw [if_neg cs, if_pos rs, image, slice_body (by simp), ← image]
    simp only [Outcome.ok_bind, decodeRetSubmit_put, UsbipHeaderUnion.ofRetSubmit_retSubmit,
      Usize.plain_cast]
    exact takePayload_decodeWire dir (Or.inr (Or.inl rs)) (UsbipHeader.declaredLen_of_retSubmit rs)
      asUsize_pos rest
  have empty : header.declaredLen = 0 := by simp [UsbipHeader.declaredLen, cs, rs]
  rw [if_neg cs, if_neg rs, decodeWire, if_neg (not_not.mpr dir), if_pos empty]
  by_cases cu : header.base.command = Constants.cmdUnlink
  · have known : header.Known := Or.inr (Or.inr (Or.inl cu))
    have image := UsbipHeader.wire_of_cmdUnlink cu
    rw [if_pos cu, if_neg (not_not.mpr known), image, slice_body (by simp)]
    simp
  by_cases ru : header.base.command = Constants.retUnlink
  · have known : header.Known := Or.inr (Or.inr (Or.inr ru))
    have image := UsbipHeader.wire_of_retUnlink ru
    rw [if_neg cu, if_pos ru, if_neg (not_not.mpr known), image, slice_body (by simp)]
    simp
  · have unknown : ¬header.Known := by simp [UsbipHeader.Known, cs, rs, cu, ru]
    rw [if_neg cu, if_neg ru, if_pos unknown]

theorem decodeHeader_short {buf : List UInt8} (h : buf.length < 48) :
    ∃ e, decodeHeader buf = .err e := by
  by_cases basic : buf.length < 20
  · exact ⟨_, by rw [decodeHeader, decodeHeaderOn, decodeBasic_short basic, Outcome.err_bind]⟩
  obtain ⟨base, rest, rfl⟩ := @exists_putBasic buf (by omega)
  have short : (putBasic base ++ rest).length < payloadOffset := h
  rw [decodeHeader, decodeHeaderOn, decodeBasic_put]
  split_ifs
  · exact ⟨_, rfl⟩
  · exact ⟨_, by rw [Outcome.ok_bind]⟩

theorem decodeHeader_ne_panic (buf : List UInt8) : decodeHeader buf ≠ .panic := by
  by_cases short : buf.length < 48
  · obtain ⟨e, refused⟩ := decodeHeader_short short
    rw [refused]
    simp
  · obtain ⟨header, rest, rfl⟩ := exists_wire (Nat.not_lt.mp short)
    rw [decodeHeader_wire, decodeWire]
    split_ifs <;> simp

/-- A buffer decodes exactly when it starts with the wire image of a known
header and with all the payload that header declares. -/
theorem decodeHeader_eq_ok {buf : List UInt8} {h : UsbipHeader} {p : Option (List UInt8)} :
    decodeHeader buf = .ok (h, p) ↔
      h.ValidDirection ∧ h.Known ∧ h.declaredLen ≤ maxPayloadSize ∧
        ∃ rest, buf = h.wire ++ rest ∧ h.declaredLen ≤ rest.length ∧
          p = if h.declaredLen = 0 then none else some (rest.take h.declaredLen) := by
  constructor
  · intro decoded
    have long : 48 ≤ buf.length := by
      by_contra short
      obtain ⟨e, he⟩ := decodeHeader_short (by omega : buf.length < 48)
      rw [he] at decoded
      cases decoded
    obtain ⟨header, rest, rfl⟩ := exists_wire long
    rw [decodeHeader_wire, decodeWire] at decoded
    split_ifs at decoded with dir known empty short large
    · cases decoded
      exact ⟨dir, known, by omega, rest, rfl, by omega, by simp [empty]⟩
    · cases decoded
      exact ⟨dir, known, by omega, rest, rfl, by omega, by simp [empty]⟩
  · rintro ⟨dir, known, small, rest, rfl, long, rfl⟩
    rw [decodeHeader_wire, decodeWire, if_neg (not_not.mpr dir), if_neg (not_not.mpr known)]
    split_ifs <;> first | rfl | omega

theorem encodeBasic_wire (basic : UsbipHeaderBasic) :
    encodeBasic basic [] =
      if ¬(basic.direction = Constants.usbipDirOut ∨ basic.direction = Constants.usbipDirIn) then
        .err (invalidDirection basic.direction)
      else .ok (putBasic basic) := by
  simp only [encodeBasic, not_or, List.nil_append]

/-- What encoding answers: the checks in the order they are made, and the bytes
appended to the header when it declares a payload. -/
def encodeWire (h : UsbipHeader) (p : Option (List UInt8)) (missing : String) :
    Outcome ProtocolError (List UInt8) :=
  if ¬h.ValidDirection then .err (invalidDirection h.base.direction)
  else if ¬h.Known then .err (.invalidCommand h.base.command)
  else if h.Isochronous then .err .isochronousNotSupported
  else if h.declaredLen = 0 then .ok h.wire
  else putPayload missing p h.wire

/-- The payload branch of a SUBMIT command, after its layout is encoded. -/
theorem putPayload_encodeWire {h : UsbipHeader} (dir : h.ValidDirection) (known : h.Known)
    {body : Outcome ProtocolError (List UInt8)}
    (encoded : body = if h.Isochronous then .err .isochronousNotSupported else .ok h.wire)
    {declares : Prop} [Decidable declares] {n : Nat}
    (size : h.declaredLen = if declares then n else 0) (pos : declares → 0 < n)
    (missing : String) (p : Option (List UInt8)) :
    (do
      let buf ← body
      if declares then putPayload missing p buf else return buf) = encodeWire h p missing := by
  rw [encoded, encodeWire, if_neg (not_not.mpr dir), if_neg (not_not.mpr known)]
  by_cases iso : h.Isochronous
  · rw [if_pos iso, if_pos iso, Outcome.err_bind]
  rw [if_neg iso, if_neg iso, Outcome.ok_bind]
  by_cases announced : declares
  · rw [if_pos announced] at size
    have := pos announced
    rw [if_pos announced, if_neg (by omega)]
  · rw [if_neg announced] at size
    rw [if_neg announced, if_pos size]
    rfl

theorem encodeHeader_wire (h : UsbipHeader) (p : Option (List UInt8)) :
    ∃ missing, encodeHeader h p = encodeWire h p missing := by
  have basic : encodeBasic h.base [] =
      if ¬h.ValidDirection then .err (invalidDirection h.base.direction)
      else .ok (putBasic h.base) := encodeBasic_wire h.base
  rw [encodeHeader, basic]
  by_cases dir : h.ValidDirection
  swap
  · exact ⟨"", by simp [dir, encodeWire]⟩
  rw [if_neg (not_not.mpr dir), Outcome.ok_bind]
  by_cases cs : h.base.command = Constants.cmdSubmit
  · have other : Constants.cmdSubmit ≠ Constants.retSubmit := by decide
    have packets : h.Isochronous ↔ h.u.cmdSubmit.numberOfPackets ≠ 0 := by
      simp [UsbipHeader.Isochronous, cs, other]
    have size := UsbipHeader.declaredLen_of_cmdSubmit cs
    refine ⟨"CMD_SUBMIT with transfer_buffer_length > 0 requires payload", ?_⟩
    rw [if_pos cs]
    simp only [and_comm] at size
    refine putPayload_encodeWire dir (Or.inl cs) ?_ size (fun out => asUsize_pos out.2) _ p
    simp only [encodeCmdSubmit, packets, UsbipHeader.wire_of_cmdSubmit cs]
  by_cases rs : h.base.command = Constants.retSubmit
  · have other : Constants.retSubmit ≠ Constants.cmdSubmit := by decide
    have packets : h.Isochronous ↔ h.u.retSubmit.numberOfPackets ≠ 0 := by
      simp [UsbipHeader.Isochronous, rs, other]
    refine ⟨"RET_SUBMIT with actual_length > 0 requires payload", ?_⟩
    rw [if_neg cs, if_pos rs]
    refine putPayload_encodeWire dir (Or.inr (Or.inl rs)) ?_
      (UsbipHeader.declaredLen_of_retSubmit rs) asUsize_pos _ p
    simp only [encodeRetSubmit, packets, UsbipHeader.wire_of_retSubmit rs]
  have fine : ¬h.Isochronous := by simp [UsbipHeader.Isochronous, cs, rs]
  have empty : h.declaredLen = 0 := by simp [UsbipHeader.declaredLen, cs, rs]
  refine ⟨"", ?_⟩
  rw [if_neg cs, if_neg rs, encodeWire, if_neg (not_not.mpr dir), if_neg fine, if_pos empty]
  by_cases cu : h.base.command = Constants.cmdUnlink
  · have known : h.Known := Or.inr (Or.inr (Or.inl cu))
    rw [if_pos cu, if_neg (not_not.mpr known), encodeCmdUnlink, UsbipHeader.wire_of_cmdUnlink cu]
  by_cases ru : h.base.command = Constants.retUnlink
  · have known : h.Known := Or.inr (Or.inr (Or.inr ru))
    rw [if_neg cu, if_pos ru, if_neg (not_not.mpr known), encodeRetUnlink,
      UsbipHeader.wire_of_retUnlink ru]
  · have unknown : ¬h.Known := by simp [UsbipHeader.Known, cs, rs, cu, ru]
    rw [if_neg cu, if_neg ru, if_pos unknown]

theorem encodeHeader_eq_ok {h : UsbipHeader} {p : Option (List UInt8)} {e : List UInt8} :
    encodeHeader h p = .ok e ↔
      h.ValidDirection ∧ h.Known ∧ ¬h.Isochronous ∧
        ((h.declaredLen = 0 ∧ e = h.wire) ∨
          (0 < h.declaredLen ∧ ∃ payload, p = some payload ∧
            payload.length ≤ maxPayloadSize ∧ e = h.wire ++ payload)) := by
  obtain ⟨missing, eq⟩ := encodeHeader_wire h p
  rw [eq, encodeWire]
  constructor
  · intro encoded
    split_ifs at encoded with dir known iso empty
    · cases encoded
      exact ⟨dir, known, iso, Or.inl ⟨empty, rfl⟩⟩
    · refine ⟨dir, known, iso, Or.inr ⟨by omega, ?_⟩⟩
      cases p with
      | none => cases encoded
      | some payload =>
        simp only [putPayload] at encoded
        split_ifs at encoded with large
        cases encoded
        exact ⟨payload, rfl, by omega, rfl⟩
  · rintro ⟨dir, known, iso, ⟨empty, rfl⟩ | ⟨pos, payload, rfl, small, rfl⟩⟩
    · simp [dir, known, iso, empty]
    · simp [dir, known, iso, Nat.ne_of_gt pos, putPayload, Nat.not_lt.mpr small]

end EasyUsb
