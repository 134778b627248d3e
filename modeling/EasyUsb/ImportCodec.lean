import EasyUsb.Codec

namespace EasyUsb

open Foundation

/-- `size_of::<OpReqImport>()`. -/
def opReqImportSize : Nat := 292

/-- `size_of::<OpRepImport>()`. -/
def opRepImportSize : Nat := 316

/-- The items `encode_op_req_import` puts one after the other. -/
def reqItems (req : OpReqImport) : List (List UInt8) :=
  [u32Bytes req.status, req.path.toList, req.busid.toList]

def encodeOpReqImport (req : OpReqImport) : Outcome ProtocolError (List UInt8) :=
  .ok (reqItems req).flatten

def decodeOpReqImport (buf : List UInt8) : Outcome ProtocolError OpReqImport :=
  if buf.length < opReqImportSize then .err (.incompleteBuffer opReqImportSize buf.length)
  else do
    let (status, _) ← readField "status" (readU32 (← slice buf 0 4))
    let path ← copyFromSlice 256 (← slice buf 4 260)
    let busid ← copyFromSlice 32 (← slice buf 260 292)
    return { status, path, busid }

def repItems (rep : OpRepImport) : List (List UInt8) :=
  [u32Bytes rep.status, rep.path.toList, rep.busid.toList, u32Bytes rep.busnum,
    u32Bytes rep.devnum, u32Bytes rep.speed, u16Bytes rep.idVendor, u16Bytes rep.idProduct,
    u16Bytes rep.bcdDevice, [rep.bDeviceClass], [rep.bDeviceSubClass], [rep.bDeviceProtocol],
    [rep.bConfigurationValue], [rep.bNumConfigurations], [rep.bNumInterfaces]]

def encodeOpRepImport (rep : OpRepImport) : Outcome ProtocolError (List UInt8) :=
  .ok (repItems rep).flatten

def decodeOpRepImport (buf : List UInt8) : Outcome ProtocolError OpRepImport :=
  if buf.length < opRepImportSize then .err (.incompleteBuffer opRepImportSize buf.length)
  else do
    let (status, _) ← readField "status" (readU32 (← slice buf 0 4))
    let path ← copyFromSlice 256 (← slice buf 4 260)
    let busid ← copyFromSlice 32 (← slice buf 260 292)
    let (busnum, _) ← readField "busnum" (readU32 (← slice buf 292 296))
    let (devnum, _) ← readField "devnum" (readU32 (← slice buf 296 300))
    let (speed, _) ← readField "speed" (readU32 (← slice buf 300 304))
    let (idVendor, _) ← readField "id_vendor" (readU16 (← slice buf 304 306))
    let (idProduct, _) ← readField "id_product" (readU16 (← slice buf 306 308))
    let (bcdDevice, _) ← readField "bcd_device" (readU16 (← slice buf 308 310))
    let bDeviceClass ← index buf 310
    let bDeviceSubClass ← index buf 311
    let bDeviceProtocol ← index buf 312
    let bConfigurationValue ← index buf 313
    let bNumConfigurations ← index buf 314
    let bNumInterfaces ← index buf 315
    return {
      status, path, busid, busnum, devnum, speed, idVendor, idProduct, bcdDevice, bDeviceClass,
      bDeviceSubClass, bDeviceProtocol, bConfigurationValue, bNumConfigurations, bNumInterfaces }

theorem split_item {items : List (List UInt8)} {k : Nat} {item : List UInt8}
    (at_k : items[k]? = some item) (rest : List UInt8) :
    items.flatten ++ rest =
      (items.take k).flatten ++ item ++ ((items.drop (k + 1)).flatten ++ rest) := by
  obtain ⟨inside, eq⟩ := List.getElem?_eq_some_iff.mp at_k
  have whole : items = items.take k ++ item :: items.drop (k + 1) := by
    rw [← eq, ← List.drop_eq_getElem_cons inside, List.take_append_drop]
  have flat := congrArg List.flatten whole
  rw [List.flatten_append, List.flatten_cons] at flat
  rw [flat]
  simp

theorem slice_item {items : List (List UInt8)} {k lo hi : Nat} {item : List UInt8}
    (at_k : items[k]? = some item) (start : (items.take k).flatten.length = lo)
    (stop : lo + item.length = hi) (rest : List UInt8) :
    (slice (items.flatten ++ rest) lo hi : Outcome ProtocolError (List UInt8)) = .ok item := by
  rw [split_item at_k]
  exact slice_middle start stop

theorem index_item {items : List (List UInt8)} {k offset : Nat} {b : UInt8}
    (at_k : items[k]? = some [b]) (start : (items.take k).flatten.length = offset)
    (rest : List UInt8) :
    (index (items.flatten ++ rest) offset : Outcome ProtocolError UInt8) = .ok b := by
  rw [split_item at_k, ← start, index]
  simp

theorem reqItems_length (req : OpReqImport) : (reqItems req).flatten.length = opReqImportSize := by
  simp [reqItems, opReqImportSize]

theorem repItems_length (rep : OpRepImport) : (repItems rep).flatten.length = opRepImportSize := by
  simp [repItems, opRepImportSize]

theorem decodeOpReqImport_items (req : OpReqImport) (rest : List UInt8) :
    decodeOpReqImport ((reqItems req).flatten ++ rest) = .ok req := by
  have long : ¬((reqItems req).flatten ++ rest).length < opReqImportSize := by
    rw [List.length_append, reqItems_length]
    omega
  have status : ∀ x : UInt32, readU32 (u32Bytes x) = .ok (x, []) := fun x => by
    simpa using readU32_put x []
  rw [decodeOpReqImport, if_neg long]
  rw [@slice_item (reqItems req) 0 0 4 _ rfl (by simp) (by simp),
    @slice_item (reqItems req) 1 4 260 _ rfl (by simp [reqItems]) (by simp),
    @slice_item (reqItems req) 2 260 292 _ rfl (by simp [reqItems]) (by simp)]
  simp only [Outcome.ok_bind, status, readField_ok, copyFromSlice_toList, Outcome.pure_eq_ok]

theorem decodeOpRepImport_items (rep : OpRepImport) (rest : List UInt8) :
    decodeOpRepImport ((repItems rep).flatten ++ rest) = .ok rep := by
  have long : ¬((repItems rep).flatten ++ rest).length < opRepImportSize := by
    rw [List.length_append, repItems_length]
    omega
  have word : ∀ x : UInt32, readU32 (u32Bytes x) = .ok (x, []) := fun x => by
    simpa using readU32_put x []
  have half : ∀ x : UInt16, readU16 (u16Bytes x) = .ok (x, []) := fun x => by
    simpa using readU16_put x []
  rw [decodeOpRepImport, if_neg long]
  rw [@slice_item (repItems rep) 0 0 4 _ rfl (by simp) (by simp),
    @slice_item (repItems rep) 1 4 260 _ rfl (by simp [repItems]) (by simp),
    @slice_item (repItems rep) 2 260 292 _ rfl (by simp [repItems]) (by simp),
    @slice_item (repItems rep) 3 292 296 _ rfl (by simp [repItems]) (by simp),
    @slice_item (repItems rep) 4 296 300 _ rfl (by simp [repItems]) (by simp),
    @slice_item (repItems rep) 5 300 304 _ rfl (by simp [repItems]) (by simp),
    @slice_item (repItems rep) 6 304 306 _ rfl (by simp [repItems]) (by simp),
    @slice_item (repItems rep) 7 306 308 _ rfl (by simp [repItems]) (by simp),
    @slice_item (repItems rep) 8 308 310 _ rfl (by simp [repItems]) (by simp),
    @index_item (repItems rep) 9 310 _ rfl (by simp [repItems]),
    @index_item (repItems rep) 10 311 _ rfl (by simp [repItems]),
    @index_item (repItems rep) 11 312 _ rfl (by simp [repItems]),
    @index_item (repItems rep) 12 313 _ rfl (by simp [repItems]),
    @index_item (repItems rep) 13 314 _ rfl (by simp [repItems]),
    @index_item (repItems rep) 14 315 _ rfl (by simp [repItems])]
  simp only [Outcome.ok_bind, word, half, readField_ok, copyFromSlice_toList, Outcome.pure_eq_ok]

end EasyUsb
