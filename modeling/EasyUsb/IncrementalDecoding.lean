import EasyUsb.FrameReader
import EasyUsb.Foundation.Refill

namespace EasyUsb

open Foundation

/-- The size a decoding error asks the buffer to grow to. -/
def ProtocolError.neededBytes : ProtocolError → Option Nat
  | .incompleteBuffer needed _ => some needed
  | _ => none

theorem decodeHeader_tiny {buf : List UInt8} (short : buf.length < 20) :
    decodeHeader buf = .err (.incompleteBuffer 20 buf.length) := by
  rw [decodeHeader, decodeHeaderOn, decodeBasic_short short, Outcome.err_bind]

def UsbipHeaderBasic.Misdirected (basic : UsbipHeaderBasic) : Prop :=
  basic.direction ≠ Constants.usbipDirOut ∧ basic.direction ≠ Constants.usbipDirIn

theorem decodeHeader_misdirected {basic : UsbipHeaderBasic} (bad : basic.Misdirected)
    (rest : List UInt8) :
    decodeHeader (putBasic basic ++ rest) = .err (invalidDirection basic.direction) := by
  have refused : decodeBasic (putBasic basic ++ rest) = .err (invalidDirection basic.direction) :=
    (decodeBasic_put basic rest).trans (if_pos bad)
  rw [decodeHeader, decodeHeaderOn, refused, Outcome.err_bind]

theorem decodeHeader_waiting {basic : UsbipHeaderBasic} (fine : ¬basic.Misdirected)
    {rest : List UInt8} (short : rest.length < 28) :
    decodeHeader (putBasic basic ++ rest) =
      .err (.incompleteBuffer 48 (putBasic basic ++ rest).length) := by
  have incomplete : (putBasic basic ++ rest).length < payloadOffset := by
    simp only [List.length_append, putBasic_length, payloadOffset, basicHeaderSize, cmdHeaderSize]
    omega
  have accepted : decodeBasic (putBasic basic ++ rest) = .ok basic :=
    (decodeBasic_put basic rest).trans (if_neg fine)
  rw [decodeHeader, decodeHeaderOn, accepted, Outcome.ok_bind, if_pos incomplete, payloadOffset,
    basicHeaderSize, cmdHeaderSize]

/-- How much of a frame a buffer holds, as far as decoding looks at it. -/
inductive DecodeStage (buf : List UInt8) : Prop where
  | tiny (short : buf.length < 20)
  | misdirected (basic : UsbipHeaderBasic) (rest : List UInt8)
    (image : buf = putBasic basic ++ rest) (bad : basic.Misdirected)
  | waiting (basic : UsbipHeaderBasic) (rest : List UInt8) (image : buf = putBasic basic ++ rest)
    (short : rest.length < 28) (fine : ¬basic.Misdirected)
  | whole (header : UsbipHeader) (rest : List UInt8) (image : buf = header.wire ++ rest)

theorem decodeStage (buf : List UInt8) : DecodeStage buf := by
  by_cases short : buf.length < 20
  · exact .tiny short
  by_cases long : 48 ≤ buf.length
  · obtain ⟨header, rest, image⟩ := exists_wire long
    exact .whole header rest image
  · obtain ⟨basic, rest, image⟩ := exists_putBasic (Nat.not_lt.mp short)
    have size : buf.length = 20 + rest.length := by
      rw [image, List.length_append, putBasic_length]
    by_cases bad : basic.Misdirected
    · exact .misdirected basic rest image bad
    · exact .waiting basic rest image (by omega) bad

abbrev headerAsks (buf : List UInt8) : Option Nat :=
  asks decodeHeader ProtocolError.neededBytes buf

theorem headerAsks_tiny {buf : List UInt8} (short : buf.length < 20) :
    headerAsks buf = some 20 :=
  asks_of_err (decodeHeader_tiny short)

theorem headerAsks_misdirected {basic : UsbipHeaderBasic} (bad : basic.Misdirected)
    (rest : List UInt8) : headerAsks (putBasic basic ++ rest) = none :=
  asks_of_err (decodeHeader_misdirected bad rest)

theorem headerAsks_waiting {basic : UsbipHeaderBasic} (fine : ¬basic.Misdirected)
    {rest : List UInt8} (short : rest.length < 28) :
    headerAsks (putBasic basic ++ rest) = some 48 :=
  asks_of_err (decodeHeader_waiting fine short)

/-- A whole header asks for its payload, and only while that is not there. -/
theorem headerAsks_wire (header : UsbipHeader) (rest : List UInt8) :
    headerAsks (header.wire ++ rest) =
      if header.ValidDirection ∧ header.Known ∧ rest.length < header.declaredLen then
        some (48 + header.declaredLen)
      else none := by
  have decoded := decodeHeader_wire header rest
  unfold decodeWire at decoded
  by_cases dir : header.ValidDirection
  swap
  · rw [if_pos dir] at decoded
    rw [if_neg (fun all => dir all.1)]
    exact asks_of_err decoded
  by_cases known : header.Known
  swap
  · rw [if_neg (not_not.mpr dir), if_pos known] at decoded
    rw [if_neg (fun all => known all.2.1)]
    exact asks_of_err decoded
  rw [if_neg (not_not.mpr dir), if_neg (not_not.mpr known)] at decoded
  by_cases short : rest.length < header.declaredLen
  · rw [if_neg (by omega), if_pos short] at decoded
    rw [if_pos ⟨dir, known, short⟩]
    exact asks_of_err decoded
  · rw [if_neg short] at decoded
    have there : ¬(header.ValidDirection ∧ header.Known ∧ rest.length < header.declaredLen) :=
      fun all => short all.2.2
    rw [if_neg there]
    split_ifs at decoded
    · exact asks_of_ok decoded
    · exact asks_of_err decoded
    · exact asks_of_ok decoded

theorem decodeWire_append {header : UsbipHeader} {rest : List UInt8} (more : List UInt8)
    (settled : headerAsks (header.wire ++ rest) = none) :
    decodeWire header (rest ++ more) = decodeWire header rest := by
  rw [headerAsks_wire] at settled
  unfold decodeWire
  by_cases dir : header.ValidDirection
  swap
  · rw [if_pos dir, if_pos dir]
  by_cases known : header.Known
  swap
  · rw [if_neg (not_not.mpr dir), if_pos known, if_neg (not_not.mpr dir), if_pos known]
  have there : header.declaredLen ≤ rest.length := by
    by_contra short
    rw [if_pos ⟨dir, known, Nat.not_le.mp short⟩] at settled
    cases settled
  have longer : header.declaredLen ≤ (rest ++ more).length := by
    rw [List.length_append]
    omega
  rw [if_neg (Nat.not_lt.mpr longer), if_neg (Nat.not_lt.mpr there),
    List.take_append_of_le_length there]

theorem headerAsks_wire_some {header : UsbipHeader} {rest : List UInt8} {n : Nat}
    (asked : headerAsks (header.wire ++ rest) = some n) :
    header.ValidDirection ∧ header.Known ∧ rest.length < header.declaredLen ∧
      n = 48 + header.declaredLen := by
  rw [headerAsks_wire] at asked
  split_ifs at asked with all
  cases asked
  exact ⟨all.1, all.2.1, all.2.2, rfl⟩

/-- A later request is for the rest of the header, or for a payload after it. -/
theorem headerAsks_cases {buf : List UInt8} {n : Nat} (asked : headerAsks buf = some n) :
    (n = 20 ∧ buf.length < 20) ∨ (n = 48 ∧ 20 ≤ buf.length ∧ buf.length < 48) ∨
      (48 < n ∧ 48 ≤ buf.length ∧ buf.length < n) := by
  rcases decodeStage buf with short | ⟨basic, rest, rfl, bad⟩ | ⟨basic, rest, rfl, short, fine⟩ |
    ⟨header, rest, rfl⟩
  · cases (headerAsks_tiny short).symm.trans asked
    exact Or.inl ⟨rfl, short⟩
  · cases (headerAsks_misdirected bad rest).symm.trans asked
  · cases (headerAsks_waiting fine short).symm.trans asked
    rw [List.length_append, putBasic_length]
    omega
  · obtain ⟨_, _, short, rfl⟩ := headerAsks_wire_some asked
    rw [List.length_append, UsbipHeader.wire_length]
    omega

theorem decodeHeader_incremental : Incremental decodeHeader ProtocolError.neededBytes where
  final buf more settled := by
    rcases decodeStage buf with short | ⟨basic, rest, rfl, bad⟩ |
      ⟨basic, rest, rfl, short, fine⟩ | ⟨header, rest, rfl⟩
    · cases (headerAsks_tiny short).symm.trans settled
    · rw [List.append_assoc, decodeHeader_misdirected bad, decodeHeader_misdirected bad]
    · cases (headerAsks_waiting fine short).symm.trans settled
    · rw [List.append_assoc, decodeHeader_wire, decodeHeader_wire, decodeWire_append more settled]
  short buf n asked := by
    have bounds := headerAsks_cases asked
    omega
  steady buf more n asked early := by
    rcases decodeStage buf with short | ⟨basic, rest, rfl, bad⟩ |
      ⟨basic, rest, rfl, short, fine⟩ | ⟨header, rest, rfl⟩
    · cases (headerAsks_tiny short).symm.trans asked
      exact headerAsks_tiny early
    · cases (headerAsks_misdirected bad rest).symm.trans asked
    · cases (headerAsks_waiting fine short).symm.trans asked
      rw [List.append_assoc] at early ⊢
      rw [List.length_append, putBasic_length] at early
      exact headerAsks_waiting fine (by omega)
    · obtain ⟨dir, known, short, rfl⟩ := headerAsks_wire_some asked
      rw [List.append_assoc] at early ⊢
      rw [List.length_append, UsbipHeader.wire_length] at early
      exact (headerAsks_wire header _).trans (if_pos ⟨dir, known, by omega⟩)

theorem decodeHeader_of_asks {buf : List UInt8} {n : Nat} (asked : headerAsks buf = some n) :
    decodeHeader buf = .err (.incompleteBuffer n buf.length) := by
  rcases decodeStage buf with short | ⟨basic, rest, rfl, bad⟩ | ⟨basic, rest, rfl, short, fine⟩ |
    ⟨header, rest, rfl⟩
  · cases (headerAsks_tiny short).symm.trans asked
    exact decodeHeader_tiny short
  · cases (headerAsks_misdirected bad rest).symm.trans asked
  · cases (headerAsks_waiting fine short).symm.trans asked
    exact decodeHeader_waiting fine short
  · obtain ⟨dir, known, short, rfl⟩ := headerAsks_wire_some asked
    rw [decodeHeader_wire, decodeWire, if_neg (not_not.mpr dir), if_neg (not_not.mpr known),
      if_neg (by omega), if_pos short, List.length_append, UsbipHeader.wire_length]

/-- A request for a payload is the last one. -/
theorem headerAsks_payload {buf more : List UInt8} {n : Nat} (asked : headerAsks buf = some n)
    (large : 48 < n) (there : n ≤ (buf ++ more).length) : headerAsks (buf ++ more) = none := by
  rcases decodeStage buf with short | ⟨basic, rest, rfl, bad⟩ | ⟨basic, rest, rfl, short, fine⟩ |
    ⟨header, rest, rfl⟩
  · cases (headerAsks_tiny short).symm.trans asked
    omega
  · cases (headerAsks_misdirected bad rest).symm.trans asked
  · cases (headerAsks_waiting fine short).symm.trans asked
    omega
  · obtain ⟨_, _, _, rfl⟩ := headerAsks_wire_some asked
    rw [List.append_assoc] at there ⊢
    rw [List.length_append, UsbipHeader.wire_length] at there
    exact (headerAsks_wire header _).trans (if_neg (by omega))

/-- Requests come in the order: the base fields, the header, the payload. -/
def requestRank (needed : Nat) : Nat := if needed ≤ 20 then 2 else if needed ≤ 48 then 1 else 0

theorem requestRank_falls (buf more : List UInt8) (n m : Nat) (asked : headerAsks buf = some n)
    (there : n ≤ (buf ++ more).length) (later : headerAsks (buf ++ more) = some m) :
    requestRank m < requestRank n := by
  have grows := decodeHeader_incremental.rising there later
  have first := headerAsks_cases asked
  have second := headerAsks_cases later
  have last : ¬48 < n := by
    intro large
    cases (headerAsks_payload asked large there).symm.trans later
  unfold requestRank
  split_ifs <;> omega

/-- Verdicts are final, requests are for more than is there and hold until they
are met, and after three of them the whole frame has been asked for. -/
theorem decodeHeader_stable (buf : List UInt8) :
    (∀ result more, decodeHeader buf = .ok result → decodeHeader (buf ++ more) = .ok result) ∧
    (∀ e more, decodeHeader buf = .err e →
      (∀ needed available, e ≠ .incompleteBuffer needed available) →
      decodeHeader (buf ++ more) = .err e) ∧
    (∀ needed available, decodeHeader buf = .err (.incompleteBuffer needed available) →
      available = buf.length ∧ available < needed ∧
      (∀ more, (buf ++ more).length < needed →
        decodeHeader (buf ++ more) = .err (.incompleteBuffer needed (buf ++ more).length)) ∧
      (∀ more needed' available', needed ≤ (buf ++ more).length →
        decodeHeader (buf ++ more) = .err (.incompleteBuffer needed' available') →
        needed < needed')) ∧
    (∀ more,
      (refill decodeHeader ProtocolError.neededBytes (buf ++ more) 3 buf.length =
          .done (decodeHeader (buf ++ more)) ∧
        ∀ needed available,
          decodeHeader (buf ++ more) ≠ .err (.incompleteBuffer needed available)) ∨
      (refill decodeHeader ProtocolError.neededBytes (buf ++ more) 3 buf.length = .ended ∧
        ∃ needed available,
          decodeHeader (buf ++ more) = .err (.incompleteBuffer needed available))) := by
  refine ⟨fun result more decoded => ?_, fun e more refused verdict => ?_,
    fun needed available incomplete => ?_, fun more => ?_⟩
  · rw [decodeHeader_incremental.final buf more (asks_of_ok decoded), decoded]
  · have settled : headerAsks buf = none := by
      have asked : headerAsks buf = e.neededBytes := asks_of_err refused
      cases e with
      | incompleteBuffer needed available => exact absurd rfl (verdict needed available)
      | _ => exact asked
    rw [decodeHeader_incremental.final buf more settled, refused]
  · have asked : headerAsks buf = some needed := asks_of_err incomplete
    have short := decodeHeader_incremental.short buf needed asked
    cases (decodeHeader_of_asks asked).symm.trans incomplete
    refine ⟨rfl, short, fun more early => ?_, fun more needed' available' there later => ?_⟩
    · exact decodeHeader_of_asks (decodeHeader_incremental.steady buf more needed asked early)
    · exact decodeHeader_incremental.rising there (asks_of_err later)
  · have enough : ∀ n, headerAsks ((buf ++ more).take buf.length) = some n →
        requestRank n < 3 := by
      intro n _
      unfold requestRank
      split_ifs <;> omega
    rcases decodeHeader_incremental.refill_verdict requestRank requestRank_falls (buf ++ more)
      enough with ⟨done, settled⟩ | ⟨ended, asked⟩
    · refine Or.inl ⟨done, fun needed available incomplete => ?_⟩
      have asked : headerAsks (buf ++ more) = some needed := asks_of_err incomplete
      cases settled.symm.trans asked
    · obtain ⟨needed, asked⟩ := Option.ne_none_iff_exists'.mp asked
      exact Or.inr ⟨ended, needed, _, decodeHeader_of_asks asked⟩

end EasyUsb
