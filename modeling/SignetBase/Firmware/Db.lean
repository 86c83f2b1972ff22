/-
  SignetBase/Firmware/Db.lean
  ===========================
  **The record database of the original device (`db.c`).**

  A data block holds equal partitions, one per record, behind a header and a
  table of entries.  `uid_map` names the block a record lives in and
  `block_info_tbl` copies the geometry and fill level of each block.  The lookup,
  allocation and deallocation routines only read the flash pages: they build the
  new page in a scratch block and the new table entry in a scratch
  `block_info`, which the commands at the end of the file write out.
-/
import SignetBase.Firmware.Protocol

namespace SignetBase.Firmware

variable (P : Platform)

/-! ### Blocks -/

/-- `crc_32`: the data register is fed the first word `count` times. -/
def crc32 (din : Nat → Nat) (count : Nat) : Nat :=
  (Nat.repeat (fun dr => P.crcStep dr (UInt32.ofNat (din 0))) count P.crcReset).toNat

/-- `block_crc`. -/
def blockCrc (blk : Mem) : Nat := crc32 P (fun i => blk.get32 (4 + 4 * i)) (BLK_SIZE / 4 - 1)

/-- `block_crc_check`. -/
def blockCrcCheck (blk : Mem) : Bool :=
  if headerPartSize blk = INVALID_PART_SIZE then false else blockCrc P blk = headerCrc blk

/-- `get_part_count`. -/
def getPartCount (partSize : Nat) : Nat := partCountIn BLK_SIZE partSize

/-- `part_sizes`. -/
def partSizes : List Nat := [1, 2, 3, 4, 6, 7, 12, 15, 31, 63, 127]

def NUM_PART_SIZES : Nat := partSizes.length

/-- `target_part_size`: the partition size that will fit, or 0. -/
def targetPartSize (dataBytes : Nat) : Nat :=
  (partSizes.find? fun p => p ≥ sizeToSubBlkCount dataBytes).getD 0

/-- The block numbers the database loops run over. -/
def dataBlocks : List Nat := List.range' MIN_DATA_BLOCK NUM_DATA_BLOCKS

/-! ### Lookup -/

/-- `find_uid`: the block number and, when the block has an entry for the uid,
    the index of the first one. -/
def findUid (pages : Nat → Mem) (t : Tables) (uid : Nat) : Nat × Option Nat :=
  let blockNum := t.uidMap uid
  if blockNum = INVALID_BLOCK then (blockNum, none)
  else (blockNum, (List.range (t.blockInfoTbl blockNum).partOccupancy).find? fun j =>
    (uidTbl (pages blockNum) j).uid = uid)

/-- `find_free_block`. -/
def findFreeBlock (t : Tables) : Nat :=
  (dataBlocks.find? fun i =>
    (t.blockInfoTbl i).valid ≠ 0 ∧ (t.blockInfoTbl i).occupied = 0).getD INVALID_BLOCK

/-! ### Scratch blocks -/

/-- `initialize_block`. -/
def initializeBlock (partSize : Nat) (blk : Mem) : Mem := blankBlock BLK_SIZE partSize blk

/-- `db2_initialize_block`; `none` is the NULL for a block that stays erased. -/
def db2InitializeBlock (blockNum : Nat) (blk : Mem) : Option Mem :=
  if blockNum - MIN_DATA_BLOCK < NUM_PART_SIZES then
    let blk := initializeBlock (partSizes.getD (blockNum - MIN_DATA_BLOCK) 0) blk
    some (setHeaderCrc blk (blockCrc P blk))
  else none

/-- `allocate_uid_blk`: encrypt the record and append it to the scratch block. -/
def allocateUidBlk (key : Bytes) (uid : Nat) (data : Bytes) (sz rev : Nat) (iv : Bytes)
    (t : Scratch) : Scratch :=
  appendUid (stmAes256EncryptCbc P key (sizeToSubBlkCount sz) (some iv) data) uid sz rev
    INVALID_BLOCK t

/-- A block of the exact partition size with room (the first loop of
    `allocate_uid`). -/
def findExactBlock (t : Tables) (partSize : Nat) : Option Nat :=
  dataBlocks.find? fun i =>
    let info := t.blockInfoTbl i
    info.valid ≠ 0 ∧ info.occupied ≠ 0 ∧ info.partSize = partSize ∧
      info.partOccupancy < info.partCount

/-- The last loop of `allocate_uid`: a block with room whose partitions are
    large enough, the smallest such size first, then the lowest block. -/
def findLargerBlock (t : Tables) (partSize : Nat) : Option Nat :=
  (dataBlocks.foldl (fun (best : Option Nat × Nat) i =>
    let info := t.blockInfoTbl i
    if info.valid ≠ 0 ∧ info.occupied ≠ 0 ∧ info.partSize ≥ partSize ∧ info.partSize < best.2 ∧
        info.partOccupancy < info.partCount then (some i, info.partSize) else best)
    (none, BLK_SIZE)).1

/-- `allocate_uid`: the block number and the scratch left behind. -/
def allocateUid (pages : Nat → Mem) (tbl : Tables) (key : Bytes) (uid : Nat) (data : Bytes)
    (sz rev : Nat) (iv : Bytes) (t : Scratch) : Nat × Scratch :=
  let partSize := targetPartSize sz
  if partSize = 0 then (INVALID_BLOCK, t)
  else
    match findExactBlock tbl partSize with
    | some i =>
      (i, allocateUidBlk P key uid data sz rev iv
        (Scratch.loadPage BLK_SIZE { t with blkInfo := tbl.blockInfoTbl i } (pages i)))
    | none =>
      if findFreeBlock tbl ≠ INVALID_BLOCK then
        let partCount := getPartCount partSize
        (findFreeBlock tbl, allocateUidBlk P key uid data sz rev iv
          { block := initializeBlock partSize t.block
            blkInfo := { t.blkInfo with
              partOccupancy := 0
              partSize := partSize
              partCount := partCount % 256
              partTblOffs := getBlockHeaderSize (partCount % 256) } })
      else
        match findLargerBlock tbl partSize with
        | some i =>
          (i, allocateUidBlk P key uid data sz rev iv
            (Scratch.loadPage BLK_SIZE { t with blkInfo := tbl.blockInfoTbl i } (pages i)))
        | none => (INVALID_BLOCK, t)

/-- `deallocate_uid`: drop the entry and move the last partition into its place,
    or free the block when it was the only one. -/
def deallocateUid (pages : Nat → Mem) (tbl : Tables) (uid : Nat) (deallocateBlock : Bool)
    (t : Scratch) : Nat × Scratch :=
  match findUid pages tbl uid with
  | (_, none) => (INVALID_BLOCK, t)
  | (blockNum, some index) =>
    let info := tbl.blockInfoTbl blockNum
    if info.partOccupancy = 1 ∧ deallocateBlock then (blockNum, freeBlock info t)
    else (blockNum, removeUid info index (t.loadPage BLK_SIZE (pages blockNum)))

/-- `update_uid`: the block to write (or `INVALID_BLOCK`), the value stored to
    `prev_block_num` if any, and the scratch left behind. -/
def updateUid (pages : Nat → Mem) (tbl : Tables) (key : Bytes) (uid : Nat) (data : Bytes)
    (sz : Nat) (iv : Bytes) (t : Scratch) : Nat × Option Nat × Scratch :=
  if sz = 0 then
    let (blockNum, t) := deallocateUid pages tbl uid true t
    (blockNum, none, t)
  else
    match findUid pages tbl uid with
    | (_, none) =>
      let (blockNum, t) := allocateUid P pages tbl key uid data sz 0 iv t
      (blockNum, some INVALID_BLOCK, t)
    | (blockNum, some index) =>
      let partSize := targetPartSize sz
      if partSize = 0 then (INVALID_BLOCK, none, t)
      else
        let t := { t with blkInfo := tbl.blockInfoTbl blockNum }
        let rev := (uidTbl (pages blockNum) index).rev
        if t.blkInfo.partSize = partSize then
          -- the record stays in its block
          let (_, t) := deallocateUid pages tbl uid false (t.loadPage BLK_SIZE (pages blockNum))
          (blockNum, some blockNum, allocateUidBlk P key uid data sz rev iv t)
        else
          let (newBlockNum, t) :=
            allocateUid P pages tbl key uid data sz ((rev + 1) % 4) iv t
          (newBlockNum, some blockNum, t)

/-! ### Commands on records -/

/-- `derive_iv` into offset `off` of `cmd_data`. -/
def deriveIv (id off : Nat) (s : Dev) : Dev :=
  let cmdData :=
    if s.rootPage RootPage.signature = 2 then
      s.cmdData.copy off s.rootPage RootPage.cbcIv AES_BLK_SIZE
    else s.cmdData
  let last := off + AES_BLK_SIZE - 1
  { s with cmdData := cmdData.write last [cmdData last + UInt8.ofNat id] }

/-- `update_uid_cmd_complete`. -/
def updateUidCmdComplete (s : Dev) : Dev :=
  let info := BlockInfo.get s.cmdData CmdData.updateUidBlkInfo
  let blk := s.cmdData.window CmdData.updateUidBlock
  let cmdData :=
    if info.occupied ≠ 0 then
      s.cmdData.setWindow CmdData.updateUidBlock (setHeaderCrc blk (blockCrc P blk))
    else s.cmdData
  flashWritePage (idBlk (cmdData.get32 CmdData.updateUidBlockNum))
    (some ⟨.cmdData, CmdData.updateUidBlock⟩) BLK_SIZE { s with cmdData }

/-- `update_uid_cmd`: 0 is no press, 1 a short one, 2 a long one. -/
def updateUidCmd (uid : Nat) (data : Bytes) (sz : Nat) (pressType : Nat) (s : Dev) : Dev :=
  let s := deriveIv uid CmdData.updateUidIv s
  let m := (((s.cmdData.put32 CmdData.updateUidUid uid).put32 CmdData.updateUidSz sz).put32
    CmdData.updateUidWriteCount 0).put32 CmdData.updateUidPrevBlockNum INVALID_BLOCK
  let iv := m.read CmdData.updateUidIv AES_BLK_SIZE
  let (blockNum, prev, t) := updateUid P (block P s) s.tables s.encryptKey uid data sz iv
    (Scratch.ofCmdData m CmdData.updateUidBlock CmdData.updateUidBlkInfo)
  let m := t.toCmdData m CmdData.updateUidBlock CmdData.updateUidBlkInfo
  let m := match prev with
    | some b => m.put32 CmdData.updateUidPrevBlockNum b
    | none => m
  let s := { s with cmdData := m.put32 CmdData.updateUidBlockNum blockNum }
  if blockNum = INVALID_BLOCK then finishCommandResp .notEnoughSpace s
  else if pressType = 0 then updateUidCmdComplete P s
  else if pressType = 1 then beginButtonPressWait s
  else beginLongButtonPressWait s

/-- `block_info_tbl[i] = info`. -/
def Tables.setInfo (t : Tables) (i : Nat) (info : BlockInfo) : Tables :=
  { t with blockInfoTbl := fun j => if j = i then info else t.blockInfoTbl j }

/-- `uid_map[uid] = b`, a `u8`. -/
def Tables.setUid (t : Tables) (uid b : Nat) : Tables :=
  { t with uidMap := fun u => if u = uid then b % 256 else t.uidMap u }

/-- `update_uid_cmd_write_finished`. -/
def updateUidCmdWriteFinished (s : Dev) : Dev :=
  let m := s.cmdData
  let m := m.put32 CmdData.updateUidWriteCount (m.get32 CmdData.updateUidWriteCount + 1)
  let s := { s with cmdData := m }
  let uid := m.get32 CmdData.updateUidUid
  let blockNum := m.get32 CmdData.updateUidBlockNum
  let prev := m.get32 CmdData.updateUidPrevBlockNum
  let info := BlockInfo.get m CmdData.updateUidBlkInfo
  if m.get32 CmdData.updateUidWriteCount = 1 then
    -- the first write is done
    let s := { s with tables := s.tables.setInfo blockNum info }
    if prev ≠ blockNum ∧ prev ≠ INVALID_BLOCK then
      -- the record has moved: drop it from its old block
      let (_, t) := deallocateUid (block P s) s.tables uid true
        (Scratch.ofCmdData m CmdData.updateUidBlock CmdData.updateUidBlkInfo)
      let t := { t with block := setHeaderCrc t.block (blockCrc P t.block) }
      let m := t.toCmdData m CmdData.updateUidBlock CmdData.updateUidBlkInfo
      flashWritePage (idBlk prev) (some ⟨.cmdData, CmdData.updateUidBlock⟩) BLK_SIZE
        { s with cmdData := m }
    else
      let b := if m.get32 CmdData.updateUidSz = 0 then INVALID_BLOCK else blockNum
      finishCommandResp .okay { s with tables := s.tables.setUid uid b }
  else
    finishCommandResp .okay
      { s with tables := (s.tables.setInfo prev info).setUid uid blockNum }

/-! ### Reading records -/

/-- One sub-block with its masked data bytes set to 0. -/
def maskSubBlk (b : Bytes) : Bytes :=
  b.take SUB_BLK_MASK_SIZE ++ (List.range SUB_BLK_DATA_SIZE).map fun j =>
    let mask := b.getD (j / 8) 0
    if mask.toNat.testBit (j % 8) then 0 else b.getD (SUB_BLK_MASK_SIZE + j) 0

/-- `mask_uid_data`. -/
def maskUidData : Nat → Bytes → Bytes
  | 0, data => data
  | n + 1, data =>
    maskSubBlk (data.take SUB_BLK_SIZE) ++ maskUidData n (data.drop SUB_BLK_SIZE)

/-- `decode_uid`: the decrypted sub-blocks of the record. -/
def decodeUid (s : Dev) (sz blockNum index : Nat) (masked : Bool) (iv : Bytes) : Bytes :=
  let blkCount := sizeToSubBlkCount sz
  let part := getPart (s.tables.blockInfoTbl blockNum) index
  let dest := stmAes256DecryptCbc P s.encryptKey blkCount (some iv)
    ((block P s blockNum).read part (blkCount * SUB_BLK_SIZE))
  if masked then maskUidData blkCount dest else dest

/-- `read_uid_cmd_complete`.  The entry is read again through the pointer kept in
    `cmd_data`. -/
def readUidCmdComplete (s : Dev) : Dev :=
  let m := s.cmdData
  let ent := UidEnt.get (memFrom P s (m.get32 CmdData.readUidEnt)) 0
  let m := m.put16 CmdData.readUidBlock ent.sz
  let data := decodeUid P s ent.sz (m.get32 CmdData.readUidBlockNum) (m.get32 CmdData.readUidIndex)
    (m.get32 CmdData.readUidMasked ≠ 0) (m.read CmdData.readUidIv AES_BLK_SIZE)
  let m := m.write (CmdData.readUidBlock + 2) data
  finishCommand .okay
    (m.read CmdData.readUidBlock (sizeToSubBlkCount ent.sz * SUB_BLK_SIZE + 2))
    { s with cmdData := m }

/-- The address of `uid_tbl[j]` of block `b`. -/
def uidEntAddr (b j : Nat) : Nat := idBlk b + uidTblOff j

/-- `read_uid_cmd`. -/
def readUidCmd (uid : Nat) (masked : Nat) (s : Dev) : Dev :=
  let m := (s.cmdData.put32 CmdData.readUidUid uid).put32 CmdData.readUidMasked masked
  let (blockNum, index) := findUid (block P s) s.tables uid
  let m := m.put32 CmdData.readUidBlockNum blockNum
  let m := match index with
    | some j => (m.put32 CmdData.readUidIndex j).put32 CmdData.readUidEnt (uidEntAddr blockNum j)
    | none =>
      (if blockNum = INVALID_BLOCK then m else m.putInt CmdData.readUidIndex (-1)).put32
        CmdData.readUidEnt 0
  let s := deriveIv uid CmdData.readUidIv { s with cmdData := m }
  if index = none then finishCommandResp .idInvalid s
  else if masked = 0 then beginButtonPressWait s
  else readUidCmdComplete P s

/-- The next uid from `uid` on that `uid_map` puts in a block. -/
def nextMappedUid (t : Tables) (uid : Nat) : Option Nat :=
  (List.range' uid (MAX_UID + 1 - uid)).find? fun u => t.uidMap u ≠ INVALID_BLOCK

/-- `read_all_uids_cmd_iter`.  When the block of the next mapped uid has no entry
    for it, the outer loop tries the same uid again, for ever. -/
def readAllUidsCmdIter (s : Dev) : Dev :=
  let m := s.cmdData
  let from_ := (m.get32 CmdData.readAllUidsUid + 1) % 2 ^ 32
  match nextMappedUid s.tables from_ with
  | none =>
    let last := max from_ (MAX_UID + 1)
    let m := (m.put32 CmdData.readAllUidsUid last).put16 CmdData.readAllUidsBlock last
    finishCommandMulti .idInvalid 0 (some (m.read CmdData.readAllUidsBlock 2)) 2
      { s with cmdData := m }
  | some uid =>
    match findUid (block P s) s.tables uid with
    | (_, none) => { s with hung := true }
    | (blockNum, some index) =>
      let ent := uidTbl (block P s blockNum) index
      let m := m.put32 CmdData.readAllUidsUid uid
      let remaining := m.getInt CmdData.readAllUidsExpectedRemaining - 1
      let m := m.putInt CmdData.readAllUidsExpectedRemaining remaining
      let m := (m.put16 CmdData.readAllUidsBlock uid).put16 (CmdData.readAllUidsBlock + 2) ent.sz
      let s := deriveIv uid CmdData.readAllUidsIv { s with cmdData := m }
      let m := s.cmdData
      let data := decodeUid P s ent.sz blockNum index (m.get32 CmdData.readAllUidsMasked ≠ 0)
        (m.read CmdData.readAllUidsIv AES_BLK_SIZE)
      let m := m.write (CmdData.readAllUidsBlock + 4) data
      let len := sizeToSubBlkCount ent.sz * SUB_BLK_SIZE + 4
      finishCommandMulti .okay (m.getInt CmdData.readAllUidsExpectedRemaining)
        (some (m.read CmdData.readAllUidsBlock len)) len { s with cmdData := m }

/-- `read_all_uids_cmd`. -/
def readAllUidsCmd (masked : Nat) (s : Dev) : Dev :=
  let count := (List.range' MIN_UID MAX_UID).countP fun u => s.tables.uidMap u ≠ INVALID_BLOCK
  let m := ((s.cmdData.put32 CmdData.readAllUidsUid 0).put32 CmdData.readAllUidsMasked masked).put32
    CmdData.readAllUidsExpectedRemaining count
  let s := { s with cmdData := m }
  if masked = 0 then beginLongButtonPressWait s else readAllUidsCmdIter P s

/-! ### Startup scan -/

/-- The state of the startup scan: the tables so far, and the repair it stopped
    for, if any (the block to rewrite and the scratch to write there). -/
structure Scan where
  tables : Tables
  scratch : Scratch
  repair : Option Nat

/-- The inner loop of `db2_startup_scan` over the entries `j` of block `i`; a
    repair ends the scan. -/
def scanEnts (pages : Nat → Mem) (i : Nat) : List Nat → Scan → Scan
  | [], r => r
  | j :: js, r =>
    let ent := uidTbl (pages i) j
    if ent.uid ≥ MIN_UID ∧ ent.uid ≤ MAX_UID ∧ ent.first ≠ 0 then
      if r.tables.uidMap ent.uid ≠ INVALID_BLOCK then
        -- a second entry for the uid: drop the older of the two
        let prevRev := match findUid pages r.tables ent.uid with
          | (b, some k) => (uidTbl (pages b) k).rev
          | (_, none) => 0
        let tables :=
          if (ent.rev + 1) % 4 = prevRev then r.tables.setUid ent.uid i else r.tables
        let (blockNum, t) := deallocateUid pages tables ent.uid true r.scratch
        let t :=
          if blockNum ≠ INVALID_BLOCK ∧ t.blkInfo.occupied ≠ 0 then
            { t with block := setHeaderCrc t.block (blockCrc P t.block) }
          else t
        { tables, scratch := t, repair := some blockNum }
      else scanEnts pages i js { r with tables := r.tables.setUid ent.uid i }
    else scanEnts pages i js r

/-- What the scan computes for `block_info_tbl[i]`; the geometry of a block that
    is invalid or free stays what it was. -/
def scanInfo (blk : Mem) (old : BlockInfo) : BlockInfo :=
  let partSize := headerPartSize blk
  let info := { old with
    partSize
    valid := if blockCrcCheck P blk ∨ partSize = INVALID_PART_SIZE then 1 else 0
    occupied := if partSize ≠ INVALID_PART_SIZE then 1 else 0 }
  if info.valid ≠ 0 ∧ info.occupied ≠ 0 then
    { info with
      partOccupancy := headerOccupancy blk % 256
      partCount := getPartCount partSize % 256
      partTblOffs := getBlockHeaderSize (getPartCount partSize % 256) % 65536 }
  else info

/-- The outer loop of `db2_startup_scan` over the blocks. -/
def scanBlocks (pages : Nat → Mem) : List Nat → Scan → Scan
  | [], r => r
  | i :: is, r =>
    let info := scanInfo P (pages i) (r.tables.blockInfoTbl i)
    let r := { r with tables := r.tables.setInfo i info }
    if info.valid ≠ 0 ∧ info.occupied ≠ 0 then
      let r := scanEnts P pages i (List.range info.partOccupancy) r
      if r.repair.isSome then r else scanBlocks pages is r
    else scanBlocks pages is r

/-- `db2_startup_scan` on given pages: `uid_map` is cleared and the blocks are
    scanned until one needs a repair. -/
def scanPages (pages : Nat → Mem) (t : Tables) (scratch : Scratch) : Scan :=
  scanBlocks P pages dataBlocks
    { tables := { t with
        uidMap := fun u => if MIN_UID ≤ u ∧ u ≤ MAX_UID then INVALID_BLOCK else t.uidMap u }
      scratch
      repair := none }

/-- `db2_startup_scan` with its scratch at two offsets of `cmd_data`: true when
    no repair was needed; otherwise the repaired block is being written. -/
def db2StartupScan (blockOff infoOff : Nat) (s : Dev) : Bool × Dev :=
  let r := scanPages P (block P s) s.tables (Scratch.ofCmdData s.cmdData blockOff infoOff)
  let s := { s with tables := r.tables, cmdData := r.scratch.toCmdData s.cmdData blockOff infoOff }
  match r.repair with
  | none => (true, s)
  | some blockNum =>
    (false,
      if blockNum ≠ INVALID_BLOCK then
        flashWritePage (idBlk blockNum) (some ⟨.cmdData, blockOff⟩) BLK_SIZE s
      else s)

end SignetBase.Firmware
