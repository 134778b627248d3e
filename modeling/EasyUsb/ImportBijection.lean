import EasyUsb.ImportCodec
import EasyUsb.Foundation.Layout

namespace EasyUsb

open Foundation Layout

/-- A codec of messages of one size. Every message has an image of that size, from
which it is decoded whatever follows; a shorter buffer is incomplete, and any
other starts with the image of the message decoded from it. -/
structure FixedSizeCodec {α : Type} (encode : α → Outcome ProtocolError (List UInt8))
    (decode : List UInt8 → Outcome ProtocolError α) (size : Nat) : Prop where
  encodes : ∀ message, ∃ image, encode message = .ok image ∧ image.length = size
  decodes : ∀ message image rest, encode message = .ok image →
    decode (image ++ rest) = .ok message
  short : ∀ buf, buf.length < size → decode buf = .err (.incompleteBuffer size buf.length)
  long : ∀ buf, size ≤ buf.length →
    ∃ message, decode buf = .ok message ∧ encode message = .ok (buf.take size)

theorem fixedSizeCodec_of_layout {α : Type} {encode : α → Outcome ProtocolError (List UInt8)}
    {decode : List UInt8 → Outcome ProtocolError α} (L : Layout UInt8 α)
    (encodes : ∀ message, encode message = .ok (L.put message))
    (decodes : ∀ message rest, decode (L.put message ++ rest) = .ok message)
    (short : ∀ buf, buf.length < L.width →
      decode buf = .err (.incompleteBuffer L.width buf.length)) :
    FixedSizeCodec encode decode L.width where
  encodes message := ⟨L.put message, encodes message, L.put_length message⟩
  decodes message image rest encoded := by
    cases (encodes message).symm.trans encoded
    exact decodes message rest
  short := short
  long buf enough := by
    obtain ⟨message, rest, image⟩ := L.exists_leading enough
    refine ⟨message, ?_, ?_⟩
    · rw [image, decodes]
    · rw [image, List.take_left' (L.put_length message), encodes]

def reqImportLayout : Layout UInt8 OpReqImport :=
  (word.pair ((items 256).pair (items 32))).comap
    ⟨fun req => (req.status, req.path, req.busid),
      fun (status, path, busid) => ⟨status, path, busid⟩, fun _ => rfl, fun _ => rfl⟩

theorem reqImportLayout_put (req : OpReqImport) :
    reqImportLayout.put req = (reqItems req).flatten := by
  simp [reqImportLayout, reqItems, comap, pair, andThen, word, items]

def repImportLayout : Layout UInt8 OpRepImport :=
  (word.pair ((items 256).pair ((items 32).pair (word.pair (word.pair (word.pair
    (half.pair (half.pair (half.pair (item.pair (item.pair (item.pair (item.pair
    (item.pair item)))))))))))))).comap
    ⟨fun rep => (rep.status, rep.path, rep.busid, rep.busnum, rep.devnum, rep.speed,
        rep.idVendor, rep.idProduct, rep.bcdDevice, rep.bDeviceClass, rep.bDeviceSubClass,
        rep.bDeviceProtocol, rep.bConfigurationValue, rep.bNumConfigurations, rep.bNumInterfaces),
      fun (status, path, busid, busnum, devnum, speed, idVendor, idProduct, bcdDevice,
          bDeviceClass, bDeviceSubClass, bDeviceProtocol, bConfigurationValue,
          bNumConfigurations, bNumInterfaces) =>
        ⟨status, path, busid, busnum, devnum, speed, idVendor, idProduct, bcdDevice,
          bDeviceClass, bDeviceSubClass, bDeviceProtocol, bConfigurationValue,
          bNumConfigurations, bNumInterfaces⟩,
      fun _ => rfl, fun _ => rfl⟩

theorem repImportLayout_put (rep : OpRepImport) :
    repImportLayout.put rep = (repItems rep).flatten := by
  simp [repImportLayout, repItems, comap, pair, andThen, word, half, items, item]

theorem reqImport_fixedSizeCodec : FixedSizeCodec encodeOpReqImport decodeOpReqImport 292 := by
  apply fixedSizeCodec_of_layout reqImportLayout
  · intro req
    rw [reqImportLayout_put]
    rfl
  · intro req rest
    rw [reqImportLayout_put, decodeOpReqImport_items]
  · intro buf short
    exact if_pos short

theorem repImport_fixedSizeCodec : FixedSizeCodec encodeOpRepImport decodeOpRepImport 316 := by
  apply fixedSizeCodec_of_layout repImportLayout
  · intro rep
    rw [repImportLayout_put]
    rfl
  · intro rep rest
    rw [repImportLayout_put, decodeOpRepImport_items]
  · intro buf short
    exact if_pos short

theorem importCodecs_bijective :
    FixedSizeCodec encodeOpReqImport decodeOpReqImport 292 ∧
      FixedSizeCodec encodeOpRepImport decodeOpRepImport 316 :=
  ⟨reqImport_fixedSizeCodec, repImport_fixedSizeCodec⟩

end EasyUsb
