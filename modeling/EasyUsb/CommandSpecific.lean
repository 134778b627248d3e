import EasyUsb.FrameStream

namespace EasyUsb

open Foundation

inductive CommandSpecific where
  | cmdSubmit (cmd : UsbipHeaderCmdSubmit)
  | retSubmit (ret : UsbipHeaderRetSubmit)
  | cmdUnlink (cmd : UsbipHeaderCmdUnlink)
  | retUnlink (ret : UsbipHeaderRetUnlink)
  deriving DecidableEq, Repr

namespace CommandSpecific

def fromCommand (command : UInt32) : Option CommandSpecific :=
  if command = Constants.cmdSubmit then some (.cmdSubmit ⟨0, 0, 0, 0, 0, Vector.replicate 8 0⟩)
  else if command = Constants.retSubmit then some (.retSubmit ⟨0, 0, 0, 0, 0, Vector.replicate 8 0⟩)
  else if command = Constants.cmdUnlink then some (.cmdUnlink ⟨0, Vector.replicate 6 0⟩)
  else if command = Constants.retUnlink then some (.retUnlink ⟨0, Vector.replicate 6 0⟩)
  else none

/-- The union with the variant's member written to it. -/
def union : CommandSpecific → UsbipHeaderUnion
  | .cmdSubmit cmd => .ofCmdSubmit cmd
  | .retSubmit ret => .ofRetSubmit ret
  | .cmdUnlink cmd => .ofCmdUnlink cmd
  | .retUnlink ret => .ofRetUnlink ret

end CommandSpecific

def headerCommand (basic : UsbipHeaderBasic) : UInt32 := basic.command

/-- What the checked accessors give, whichever of them does. -/
def UsbipHeader.specific (h : UsbipHeader) : Option CommandSpecific :=
  (h.cmdSubmit.map .cmdSubmit).or ((h.retSubmit.map .retSubmit).or
    ((h.cmdUnlink.map .cmdUnlink).or (h.retUnlink.map .retUnlink)))

/-- The variants of the commands that there are, with every field zero. -/
theorem fromCommand_cases {command : UInt32} {specific : CommandSpecific}
    (known : CommandSpecific.fromCommand command = some specific) :
    (command = Constants.cmdSubmit ∧
      specific = .cmdSubmit ⟨0, 0, 0, 0, 0, Vector.replicate 8 0⟩) ∨
    (command = Constants.retSubmit ∧
      specific = .retSubmit ⟨0, 0, 0, 0, 0, Vector.replicate 8 0⟩) ∨
    (command = Constants.cmdUnlink ∧ specific = .cmdUnlink ⟨0, Vector.replicate 6 0⟩) ∨
    (command = Constants.retUnlink ∧ specific = .retUnlink ⟨0, Vector.replicate 6 0⟩) := by
  unfold CommandSpecific.fromCommand at known
  split_ifs at known with cs rs cu ru
  · exact Or.inl ⟨cs, (Option.some.inj known).symm⟩
  · exact Or.inr (Or.inl ⟨rs, (Option.some.inj known).symm⟩)
  · exact Or.inr (Or.inr (Or.inl ⟨cu, (Option.some.inj known).symm⟩))
  · exact Or.inr (Or.inr (Or.inr ⟨ru, (Option.some.inj known).symm⟩))

theorem known_of_fromCommand {base : UsbipHeaderBasic} {u : UsbipHeaderUnion} :
    (⟨base, u⟩ : UsbipHeader).Known ↔ CommandSpecific.fromCommand (headerCommand base) ≠ none := by
  unfold CommandSpecific.fromCommand headerCommand UsbipHeader.Known
  split_ifs <;> simp_all

section

variable {base : UsbipHeaderBasic} {specific : CommandSpecific}
variable (known : CommandSpecific.fromCommand (headerCommand base) = some specific)

include known

theorem specific_union : (⟨base, specific.union⟩ : UsbipHeader).specific = some specific := by
  rcases fromCommand_cases known with ⟨hc, rfl⟩ | ⟨hc, rfl⟩ | ⟨hc, rfl⟩ | ⟨hc, rfl⟩
  · have command : base.command = Constants.cmdSubmit := hc
    simp [UsbipHeader.specific, UsbipHeader.cmdSubmit, command, CommandSpecific.union]
  · have command : base.command = Constants.retSubmit := hc
    have other : Constants.retSubmit ≠ Constants.cmdSubmit := by decide
    simp [UsbipHeader.specific, UsbipHeader.cmdSubmit, UsbipHeader.retSubmit, command, other,
      CommandSpecific.union]
  · have command : base.command = Constants.cmdUnlink := hc
    have submit : Constants.cmdUnlink ≠ Constants.cmdSubmit := by decide
    have reply : Constants.cmdUnlink ≠ Constants.retSubmit := by decide
    simp [UsbipHeader.specific, UsbipHeader.cmdSubmit, UsbipHeader.retSubmit,
      UsbipHeader.cmdUnlink, command, submit, reply, CommandSpecific.union]
  · have command : base.command = Constants.retUnlink := hc
    have submit : Constants.retUnlink ≠ Constants.cmdSubmit := by decide
    have reply : Constants.retUnlink ≠ Constants.retSubmit := by decide
    have unlink : Constants.retUnlink ≠ Constants.cmdUnlink := by decide
    simp [UsbipHeader.specific, UsbipHeader.cmdSubmit, UsbipHeader.retSubmit,
      UsbipHeader.cmdUnlink, UsbipHeader.retUnlink, command, submit, reply, unlink,
      CommandSpecific.union]

theorem word3_union : specific.union.word3 = 0 := by
  rcases fromCommand_cases known with ⟨_, rfl⟩ | ⟨_, rfl⟩ | ⟨_, rfl⟩ | ⟨_, rfl⟩
  · rfl
  · rfl
  · rfl
  · rfl

theorem declaredLen_union : (⟨base, specific.union⟩ : UsbipHeader).declaredLen = 0 := by
  rcases fromCommand_cases known with ⟨hc, rfl⟩ | ⟨hc, rfl⟩ | ⟨hc, rfl⟩ | ⟨hc, rfl⟩
  · rw [UsbipHeader.declaredLen_of_cmdSubmit hc]
    exact if_neg fun out => (by decide : ¬(0 : Int32) < 0) out.1
  · rw [UsbipHeader.declaredLen_of_retSubmit hc]
    exact if_neg (by decide : ¬(0 : Int32) < 0)
  · have command : base.command = Constants.cmdUnlink := hc
    exact declaredLen_of_other (by rw [command]; decide) (by rw [command]; decide)
  · have command : base.command = Constants.retUnlink := hc
    exact declaredLen_of_other (by rw [command]; decide) (by rw [command]; decide)

/-- In a valid direction, a header with the variant of its command is a frame of its own. -/
theorem exists_fromCommand_frame
    (direction : (⟨base, specific.union⟩ : UsbipHeader).ValidDirection) :
    ∃ f : UrbFrame, f.frame = (⟨base, specific.union⟩, none) := by
  have command : (⟨base, specific.union⟩ : UsbipHeader).Known := by
    rw [known_of_fromCommand, known]
    exact Option.some_ne_none specific
  have plain : ¬(⟨base, specific.union⟩ : UsbipHeader).Isochronous := by
    rcases command.submit_or_unlink with submit | unlink
    · exact fun packets => (isochronous_iff_word3 submit).mp packets (word3_union known)
    · exact not_isochronous_of_unlink unlink
  have empty := declaredLen_union known
  exact ⟨⟨_, none, direction, command, plain, by omega, matching_none empty⟩, rfl⟩

end

/-- The codec refuses the header with this error, whatever payload is to go with it and
whatever follows it. -/
structure UsbipHeader.Refused (h : UsbipHeader) (e : ProtocolError) : Prop where
  encode : ∀ p, encodeHeader h p = .err e
  decode : ∀ rest, decodeHeader (h.wire ++ rest) = .err e

/-- The direction is looked at before the command. -/
theorem refused_of_misdirected {h : UsbipHeader} (misdirected : ¬h.ValidDirection) :
    h.Refused (invalidDirection h.base.direction) where
  encode p := by
    obtain ⟨missing, image⟩ := encodeHeader_wire h p
    rw [image, encodeWire, if_pos misdirected]
  decode rest := by rw [decodeHeader_wire, decodeWire, if_pos misdirected]

theorem refused_of_stranger {h : UsbipHeader} (direction : h.ValidDirection)
    (stranger : ¬h.Known) : h.Refused (.invalidCommand h.base.command) where
  encode p := by
    obtain ⟨missing, image⟩ := encodeHeader_wire h p
    rw [image, encodeWire, if_neg (not_not.mpr direction), if_pos stranger]
  decode rest := by
    rw [decodeHeader_wire, decodeWire, if_neg (not_not.mpr direction), if_pos stranger]

/-- `from_command` knows the commands that the codec knows. With the variant it gives, a
header reads back as it was made and, in a valid direction, goes out without payload and is
received alone. No other direction is encoded or decoded under any command, and no other
command in a valid direction. -/
theorem fromCommand_codec (base : UsbipHeaderBasic) :
    (∀ specific, CommandSpecific.fromCommand (headerCommand base) = some specific →
      (⟨base, specific.union⟩ : UsbipHeader).specific = some specific ∧
      ((⟨base, specific.union⟩ : UsbipHeader).ValidDirection → ∃ bytes,
        encodeHeader ⟨base, specific.union⟩ none = .ok bytes ∧ bytes.length = payloadOffset ∧
        ∀ s rest, s.incoming = bytes ++ rest → TcpSession.recvHeaderInner.run s =
          (.ok (⟨base, specific.union⟩, none), { s with incoming := rest }))) ∧
    (∀ u, ¬(⟨base, u⟩ : UsbipHeader).ValidDirection →
      (⟨base, u⟩ : UsbipHeader).Refused (invalidDirection base.direction)) ∧
    (CommandSpecific.fromCommand (headerCommand base) = none →
      ∀ u, (⟨base, u⟩ : UsbipHeader).ValidDirection →
        (⟨base, u⟩ : UsbipHeader).Refused (.invalidCommand base.command)) := by
  refine ⟨fun specific known => ⟨specific_union known, fun direction => ?_⟩,
    fun u misdirected => refused_of_misdirected misdirected, fun unknown u direction => ?_⟩
  · obtain ⟨f, frame⟩ := exists_fromCommand_frame known direction
    obtain ⟨header, payload⟩ := Prod.mk.inj frame
    have encoded := f.encode
    have clear : f.header.u.word3 = 0 := by
      rw [header]
      exact word3_union known
    rw [header, payload] at encoded
    refine ⟨f.bytes, encoded, ?_, fun s rest stream => ?_⟩
    · rw [UrbFrame.bytes, payload, List.length_append, UsbipHeader.wire_length]
      rfl
    · rw [recvHeaderInner_frame clear stream, frame]
  · have stranger : ¬(⟨base, u⟩ : UsbipHeader).Known := fun command =>
      known_of_fromCommand.mp command unknown
    exact refused_of_stranger direction stranger

end EasyUsb
