import EasyUsb.Codec
import EasyUsb.Foundation.Layout

namespace EasyUsb

open Foundation

theorem asUsize_of_pos {x : Int32} (h : 0 < x) : asUsize x = x.toInt.toNat := by
  have pos : 0 < x.toInt := by simpa using Int32.lt_iff_toInt_lt.mp h
  have bound : x.toInt < 2 ^ 31 := x.toInt_lt
  rw [asUsize, Int.emod_eq_of_lt (by omega) (by omega)]

theorem asUsize_pos {x : Int32} (h : 0 < x) : 0 < asUsize x := by
  have pos : 0 < x.toInt := by simpa using Int32.lt_iff_toInt_lt.mp h
  rw [asUsize_of_pos h]
  omega

/-- A positive `i32` is a `usize` below `2 ^ 31`, so no sum with a header size
leaves even a 32-bit `usize`. -/
theorem asUsize_lt {x : Int32} (h : 0 < x) : asUsize x < 2 ^ 31 := by
  have bound : x.toInt < 2 ^ 31 := x.toInt_lt
  rw [asUsize_of_pos h]
  omega

theorem toInt32_eq_zero {x : UInt32} : x.toInt32 = 0 ↔ x = 0 := by
  constructor
  · intro zero
    exact congrArg Int32.toUInt32 zero
  · intro zero
    rw [zero]
    rfl

@[simp] theorem putBasic_length (basic : UsbipHeaderBasic) : (putBasic basic).length = 20 := by
  simp [putBasic]

@[simp] theorem putPadding_length (padding : Vector UInt32 6) :
    (putPadding padding).length = 24 := by
  simp [putPadding]

@[simp] theorem putCmdSubmit_length (cmd : UsbipHeaderCmdSubmit) :
    (putCmdSubmit cmd).length = 28 := by
  simp [putCmdSubmit]

@[simp] theorem putRetSubmit_length (ret : UsbipHeaderRetSubmit) :
    (putRetSubmit ret).length = 28 := by
  simp [putRetSubmit]

@[simp] theorem putCmdUnlink_length (cmd : UsbipHeaderCmdUnlink) :
    (putCmdUnlink cmd).length = 28 := by
  simp [putCmdUnlink]

@[simp] theorem putRetUnlink_length (ret : UsbipHeaderRetUnlink) :
    (putRetUnlink ret).length = 28 := by
  simp [putRetUnlink]

theorem decodeBasic_put (basic : UsbipHeaderBasic) (rest : List UInt8) :
    decodeBasic (putBasic basic ++ rest) =
      if basic.direction ≠ Constants.usbipDirOut ∧ basic.direction ≠ Constants.usbipDirIn then
        .err (invalidDirection basic.direction)
      else .ok basic := by
  have long : ¬(putBasic basic ++ rest).length < basicHeaderSize := by simp [basicHeaderSize]
  have cut : (slice (putBasic basic ++ rest) 0 basicHeaderSize :
      Outcome ProtocolError (List UInt8)) = .ok (putBasic basic ++ []) := by
    rw [List.append_nil]
    exact slice_prefix (by simp [basicHeaderSize])
  rw [decodeBasic, if_neg long, cut]
  simp only [putBasic, List.append_assoc, readU32_put, readField_ok, Outcome.ok_bind,
    Outcome.pure_eq_ok]

theorem decodeBasic_short {buf : List UInt8} (h : buf.length < 20) :
    decodeBasic buf = .err (.incompleteBuffer 20 buf.length) := by
  simp [decodeBasic, basicHeaderSize, h]

theorem slice_whole {buf : List UInt8} {n : Nat} (h : buf.length = n) :
    (slice buf 0 n : Outcome ProtocolError (List UInt8)) = .ok buf := by
  rw [slice_of_le (by omega) (by omega)]
  simp [← h]

@[simp] theorem decodeCmdSubmit_put (cmd : UsbipHeaderCmdSubmit) :
    decodeCmdSubmit (putCmdSubmit cmd) = .ok cmd := by
  have setup : (slice cmd.setup.toList 0 8 : Outcome ProtocolError (List UInt8)) =
      .ok cmd.setup.toList := slice_whole (by simp)
  rw [decodeCmdSubmit, if_neg (by simp [cmdHeaderSize]),
    slice_whole (by simp [cmdHeaderSize])]
  simp only [putCmdSubmit, readU32_put, readI32_put, readField_ok, Outcome.ok_bind, setup,
    copyFromSlice_toList, Outcome.pure_eq_ok]

@[simp] theorem decodeRetSubmit_put (ret : UsbipHeaderRetSubmit) :
    decodeRetSubmit (putRetSubmit ret) = .ok ret := by
  have setup : (slice ret.setup.toList 0 8 : Outcome ProtocolError (List UInt8)) =
      .ok ret.setup.toList := slice_whole (by simp)
  rw [decodeRetSubmit, if_neg (by simp [cmdHeaderSize]),
    slice_whole (by simp [cmdHeaderSize])]
  simp only [putRetSubmit, readI32_put, readField_ok, Outcome.ok_bind, setup,
    copyFromSlice_toList, Outcome.pure_eq_ok]

theorem vector6_cases (v : Vector UInt32 6) :
    ∃ p0 p1 p2 p3 p4 p5, v = #v[p0, p1, p2, p3, p4, p5] := by
  refine ⟨v[0], v[1], v[2], v[3], v[4], v[5], ?_⟩
  apply Vector.ext
  intro i hi
  rcases (show i = 0 ∨ i = 1 ∨ i = 2 ∨ i = 3 ∨ i = 4 ∨ i = 5 by omega) with
    rfl | rfl | rfl | rfl | rfl | rfl <;> rfl

@[simp] theorem readPadding_put (padding : Vector UInt32 6) :
    readPadding (putPadding padding) = .ok padding := by
  obtain ⟨p0, p1, p2, p3, p4, p5, rfl⟩ := vector6_cases padding
  have image : putPadding #v[p0, p1, p2, p3, p4, p5] = u32Bytes p0 ++ (u32Bytes p1 ++
      (u32Bytes p2 ++ (u32Bytes p3 ++ (u32Bytes p4 ++ (u32Bytes p5 ++ []))))) := rfl
  simp only [readPadding, image, readU32_put, readField_ok, Outcome.ok_bind, Outcome.pure_eq_ok]

@[simp] theorem decodeCmdUnlink_put (cmd : UsbipHeaderCmdUnlink) :
    decodeCmdUnlink (putCmdUnlink cmd) = .ok cmd := by
  rw [decodeCmdUnlink, if_neg (by simp [cmdHeaderSize]),
    slice_whole (by simp [cmdHeaderSize])]
  simp only [putCmdUnlink, readU32_put, readField_ok, Outcome.ok_bind, readPadding_put,
    Outcome.pure_eq_ok]

@[simp] theorem decodeRetUnlink_put (ret : UsbipHeaderRetUnlink) :
    decodeRetUnlink (putRetUnlink ret) = .ok ret := by
  rw [decodeRetUnlink, if_neg (by simp [cmdHeaderSize]),
    slice_whole (by simp [cmdHeaderSize])]
  simp only [putRetUnlink, readI32_put, readField_ok, Outcome.ok_bind, readPadding_put,
    Outcome.pure_eq_ok]

section Layouts

open Layout

def signedWord : Layout UInt8 Int32 :=
  word.comap ⟨Int32.toUInt32, UInt32.toInt32, fun _ => rfl, fun _ => rfl⟩

def basicLayout : Layout UInt8 UsbipHeaderBasic :=
  (word.pair (word.pair (word.pair (word.pair word)))).comap
    ⟨fun basic => (basic.command, basic.seqnum, basic.devid, basic.direction, basic.ep),
      fun (command, seqnum, devid, direction, ep) => ⟨command, seqnum, devid, direction, ep⟩,
      fun _ => rfl, fun _ => rfl⟩

def cmdSubmitLayout : Layout UInt8 UsbipHeaderCmdSubmit :=
  (word.pair (signedWord.pair (signedWord.pair (signedWord.pair (signedWord.pair
    (items 8)))))).comap
    ⟨fun cmd => (cmd.transferFlags, cmd.transferBufferLength, cmd.startFrame,
        cmd.numberOfPackets, cmd.interval, cmd.setup),
      fun (flags, tbl, start, packets, interval, setup) =>
        ⟨flags, tbl, start, packets, interval, setup⟩,
      fun _ => rfl, fun _ => rfl⟩

def retSubmitLayout : Layout UInt8 UsbipHeaderRetSubmit :=
  (signedWord.pair (signedWord.pair (signedWord.pair (signedWord.pair (signedWord.pair
    (items 8)))))).comap
    ⟨fun ret => (ret.status, ret.actualLength, ret.startFrame, ret.numberOfPackets,
        ret.errorCount, ret.setup),
      fun (status, length, start, packets, errors, setup) =>
        ⟨status, length, start, packets, errors, setup⟩,
      fun _ => rfl, fun _ => rfl⟩

def cmdUnlinkLayout : Layout UInt8 UsbipHeaderCmdUnlink :=
  (word.pair (word.array 6)).comap
    ⟨fun cmd => (cmd.seqnum, cmd.padding), fun (seqnum, padding) => ⟨seqnum, padding⟩,
      fun _ => rfl, fun _ => rfl⟩

def retUnlinkLayout : Layout UInt8 UsbipHeaderRetUnlink :=
  (signedWord.pair (word.array 6)).comap
    ⟨fun ret => (ret.status, ret.padding), fun (status, padding) => ⟨status, padding⟩,
      fun _ => rfl, fun _ => rfl⟩

/-- The union as the layout that a command selects reads it. -/
def unionLayout (command : UInt32) : Layout UInt8 UsbipHeaderUnion :=
  if command = Constants.cmdSubmit then cmdSubmitLayout.comap
    ⟨UsbipHeaderUnion.cmdSubmit, UsbipHeaderUnion.ofCmdSubmit,
      UsbipHeaderUnion.ofCmdSubmit_cmdSubmit, UsbipHeaderUnion.cmdSubmit_ofCmdSubmit⟩
  else if command = Constants.retSubmit then retSubmitLayout.comap
    ⟨UsbipHeaderUnion.retSubmit, UsbipHeaderUnion.ofRetSubmit,
      UsbipHeaderUnion.ofRetSubmit_retSubmit, UsbipHeaderUnion.retSubmit_ofRetSubmit⟩
  else if command = Constants.cmdUnlink then cmdUnlinkLayout.comap
    ⟨UsbipHeaderUnion.cmdUnlink, UsbipHeaderUnion.ofCmdUnlink,
      UsbipHeaderUnion.ofCmdUnlink_cmdUnlink, UsbipHeaderUnion.cmdUnlink_ofCmdUnlink⟩
  else retUnlinkLayout.comap
    ⟨UsbipHeaderUnion.retUnlink, UsbipHeaderUnion.ofRetUnlink,
      UsbipHeaderUnion.ofRetUnlink_retUnlink, UsbipHeaderUnion.retUnlink_ofRetUnlink⟩

theorem unionLayout_width (command : UInt32) : (unionLayout command).width = cmdHeaderSize := by
  unfold unionLayout
  split_ifs
  · rfl
  · rfl
  · rfl
  · rfl

/-- The 48 header bytes: every header has its own, and they are some header's. -/
def headerLayout : Layout UInt8 UsbipHeader :=
  (basicLayout.andThen cmdHeaderSize (fun basic => unionLayout basic.command)
    fun basic => unionLayout_width basic.command).comap
    ⟨fun header => (header.base, header.u), fun (base, u) => ⟨base, u⟩, fun _ => rfl, fun _ => rfl⟩

end Layouts

theorem exists_putBasic {bytes : List UInt8} (h : 20 ≤ bytes.length) :
    ∃ basic rest, bytes = putBasic basic ++ rest :=
  basicLayout.exists_leading h

end EasyUsb
