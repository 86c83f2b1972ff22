/-
  SignetBase/FirmwareHc/UpdateUid.lean
  ====================================
  **The sizes of records on Signet HC (`db.c`).**

  A block of the HC database holds one record, in a partition of `MAX_PART_SIZE` sub-blocks
  behind the header.  `logged_in_state` compares the length of an UPDATE_UID packet with the
  size the packet names, and a packet can hold one sub-block more than a partition.  Nothing
  refuses such a record: it is encrypted over the end of the block.

  A block that is not in the read cache is read first, and the update is begun anew.
-/
import SignetBase.Blocks
import SignetBase.Cbc
import SignetBase.FirmwareHc.MemoryLayout
import SignetBase.FirmwareHc.PacketReads
import SignetBase.Host.EntryFormat

namespace SignetBase.FirmwareHc

/-! ### The code -/

def MAX_PART_SIZE : Nat := (BLK_SIZE - blockHeaderSize - uidEntSize) / SUB_BLK_SIZE

/-- The AES functions of nettle, by key. -/
structure HcAes where
  aes256Encrypt : Bytes → Bytes → Bytes
  aes256Decrypt : Bytes → Bytes → Bytes

/-- `get_part_count`. -/
def getPartCount (partSize : Nat) : Nat := partCountIn BLK_SIZE partSize

/-- The block numbers the database loops run over. -/
def dataBlocks : List Nat := List.range' MIN_DATA_BLOCK (MAX_DATA_BLOCK - MIN_DATA_BLOCK + 1)

/-- The geometry that the startup scan and `allocate_uid` give a block. -/
structure Geometry (info : BlockInfo) : Prop where
  count : info.partCount = getPartCount info.partSize % 256
  offs : info.partTblOffs = getBlockHeaderSize info.partCount % 65536

/-- `g_block_info_tbl`, `uid_map` and the read cache with its index, if it has one. -/
structure DbTables where
  blockInfoTbl : Nat → BlockInfo
  uidMap : Nat → Nat
  cacheIdx : Option Nat
  cache : Mem

/-- The tables of a device that has scanned its blocks: blocks in use have the geometry of their
    partition size, and records are in such blocks. -/
structure Db extends DbTables where
  geometry : ∀ i ∈ dataBlocks, (blockInfoTbl i).valid ≠ 0 → (blockInfoTbl i).occupied ≠ 0 →
    Geometry (blockInfoTbl i)
  mapped : ∀ uid, uidMap uid ≠ INVALID_BLOCK → Geometry (blockInfoTbl (uidMap uid))

/-- `get_cached_data_block`; without a block the read has been begun. -/
def getCachedDataBlock (db : DbTables) (idx : Nat) : Option Mem :=
  if db.cacheIdx = some idx then some db.cache else none

/-- What `find_uid` returns: an entry's index, no entry, or that the block is being read. -/
inductive FindUid where
  | success (index : Nat)
  | invalid
  | dataLoading
deriving DecidableEq, Repr

/-- `find_uid`, with the block number it leaves. -/
def findUid (db : DbTables) (uid : Nat) : Nat × FindUid :=
  let blockNum := db.uidMap uid
  if blockNum = INVALID_BLOCK then (blockNum, .invalid)
  else
    match getCachedDataBlock db blockNum with
    | none => (blockNum, .dataLoading)
    | some blk =>
      match (List.range (db.blockInfoTbl blockNum).partOccupancy).find? fun j =>
        (uidTbl blk j).uid = uid with
      | some index => (blockNum, .success index)
      | none => (blockNum, .invalid)

/-- `find_free_block`. -/
def findFreeBlock (db : DbTables) : Nat :=
  (dataBlocks.find? fun i =>
    (db.blockInfoTbl i).valid ≠ 0 ∧ (db.blockInfoTbl i).occupied = 0).getD INVALID_BLOCK

/-- `initialize_block`. -/
def initializeBlock (partSize : Nat) (blk : Mem) : Mem := blankBlock BLK_SIZE partSize blk

/-- `enum update_uid_status`. -/
inductive UpdateUidStatus where
  | success | invalid | dataLoading | noSpace
deriving DecidableEq, Repr

/-- The first loop of `allocate_uid`. -/
def findExactBlock (db : DbTables) (partSize : Nat) : Option Nat :=
  dataBlocks.find? fun i =>
    let info := db.blockInfoTbl i
    info.valid ≠ 0 ∧ info.occupied ≠ 0 ∧ info.partSize = partSize ∧
      info.partOccupancy < info.partCount

/-- The last loop of `allocate_uid`: what is found so far, with its partition size, and
    block `i`. -/
def largerBlockIter (db : DbTables) (partSize : Nat) (best : Option Nat × Nat) (i : Nat) :
    Option Nat × Nat :=
  let info := db.blockInfoTbl i
  if info.valid ≠ 0 ∧ info.occupied ≠ 0 ∧ info.partSize ≥ partSize ∧ info.partSize < best.2 ∧
      info.partOccupancy < info.partCount then (some i, info.partSize) else best

def findLargerBlock (db : DbTables) (partSize : Nat) : Option Nat :=
  (dataBlocks.foldl (largerBlockIter db partSize) (none, BLK_SIZE)).1

/-- The block with number `i` in the scratch, unless it has to be read first. -/
def loadCached (db : DbTables) (i : Nat) (t : Scratch) : Option Scratch :=
  (getCachedDataBlock db i).map fun blk =>
    Scratch.loadPage BLK_SIZE { t with blkInfo := db.blockInfoTbl i } blk

/-- `allocate_uid` up to its call of `allocate_uid_blk`: the block number and the scratch
    that the record is put in.  The last test of the function compares the pointer
    `block_num` with INVALID_BLOCK, so the call is made also when there is no block. -/
def allocateUidTarget (db : DbTables) (t : Scratch) : Nat × Option Scratch :=
  match findExactBlock db MAX_PART_SIZE with
  | some i => (i, loadCached db i t)
  | none =>
    if findFreeBlock db ≠ INVALID_BLOCK then
      let partCount := getPartCount MAX_PART_SIZE % 256
      (findFreeBlock db, some
        { block := initializeBlock MAX_PART_SIZE t.block
          blkInfo := { t.blkInfo with
            partOccupancy := 0
            partSize := MAX_PART_SIZE
            partCount
            partTblOffs := getBlockHeaderSize partCount % 65536 } })
    else
      match findLargerBlock db MAX_PART_SIZE with
      | some i => (i, loadCached db i t)
      | none => (INVALID_BLOCK, some t)

/-- `allocate_uid_blk`. -/
def allocateUidBlk (A : HcAes) (key : Bytes) (uid : Nat) (data : Bytes) (sz rev : Nat)
    (iv : Bytes) (t : Scratch) : Scratch :=
  appendUid (cbcEncrypt (A.aes256Encrypt key) (sizeToSubBlkCount sz) (some iv) data) uid sz rev
    INVALID_BLOCK t

/-- `deallocate_uid`: the status, the block number and the scratch left behind. -/
def deallocateUid (db : DbTables) (uid : Nat) (deallocateBlock : Bool) (t : Scratch) :
    UpdateUidStatus × Nat × Scratch :=
  match findUid db uid with
  | (blockNum, .invalid) => (.invalid, blockNum, t)
  | (blockNum, .dataLoading) => (.dataLoading, blockNum, t)
  | (blockNum, .success index) =>
    let info := db.blockInfoTbl blockNum
    if info.partOccupancy = 1 ∧ deallocateBlock then (.success, blockNum, freeBlock info t)
    else (.success, blockNum, removeUid info index (t.loadPage BLK_SIZE db.cache))

/-- What `update_uid` hands to `allocate_uid_blk` for a record with data, if it gets there: the
    block number, the revision and the scratch. -/
def updateUidTarget (db : DbTables) (uid : Nat) (t : Scratch) : Option (Nat × Nat × Scratch) :=
  let allocate (rev : Nat) (t : Scratch) :=
    match allocateUidTarget db t with
    | (_, none) => none
    | (blockNum, some t) => some (blockNum, rev, t)
  match findUid db uid with
  | (_, .dataLoading) => none
  | (_, .invalid) => allocate 0 t
  | (blockNum, .success index) =>
    let rev := (uidTbl db.cache index).rev
    let t := { t with blkInfo := db.blockInfoTbl blockNum }
    if t.blkInfo.partSize = MAX_PART_SIZE then
      -- the record stays in its block
      some (blockNum, rev, (deallocateUid db uid false (t.loadPage BLK_SIZE db.cache)).2.2)
    else allocate ((rev + 1) % 4) t

/-- `update_uid`, when it succeeds: `next_block_num` and the scratch. -/
def updateUid (A : HcAes) (key : Bytes) (db : DbTables) (uid : Nat) (data : Bytes) (sz : Nat)
    (iv : Bytes) (t : Scratch) : Option (Nat × Scratch) :=
  if sz = 0 then
    match deallocateUid db uid true t with
    | (.success, blockNum, t) => some (blockNum, t)
    | _ => none
  else
    (updateUidTarget db uid t).map fun (blockNum, rev, t) =>
      (blockNum, allocateUidBlk A key uid data sz rev iv t)

/-- What `allocate_uid` leaves when it returns for a block that has to be read first: its number
    and the scratch. -/
def allocateUidLoading (db : DbTables) (t : Scratch) : Option (Nat × Scratch) :=
  match allocateUidTarget db t with
  | (i, none) => some (i, { t with blkInfo := db.blockInfoTbl i })
  | (_, some _) => none

/-- What `update_uid` leaves when it returns UPDATE_UID_DATA_LOADING. -/
def updateUidLoading (db : DbTables) (uid sz : Nat) (t : Scratch) : Option (Nat × Scratch) :=
  match findUid db uid with
  | (blockNum, .dataLoading) => some (blockNum, t)
  | (_, .invalid) => if sz = 0 then none else allocateUidLoading db t
  | (blockNum, .success _) =>
    let t := { t with blkInfo := db.blockInfoTbl blockNum }
    if sz = 0 ∨ t.blkInfo.partSize = MAX_PART_SIZE then none else allocateUidLoading db t

/-- The tables when block `i` has been read into the cache. -/
def DbTables.blockRead (blocks : Nat → Mem) (i : Nat) (db : DbTables) : DbTables :=
  { db with cacheIdx := some i, cache := db.cache.copy 0 (blocks i) 0 BLK_SIZE }

/-- `update_uid_cmd_iter` and its calls by `db3_read_block_complete`, up to the one that needs no
    block any more: what that call finds, if it is made after at most `n` reads. -/
def updateUidLast (blocks : Nat → Mem) (uid sz : Nat) :
    Nat → DbTables → Scratch → Option (DbTables × Scratch)
  | 0, db, t => if (updateUidLoading db uid sz t).isSome then none else some (db, t)
  | n + 1, db, t =>
    match updateUidLoading db uid sz t with
    | none => some (db, t)
    | some (i, t) => updateUidLast blocks uid sz n (db.blockRead blocks i) t

/-- What the startup scan makes of the entry of a block, given whether its checksum is right. -/
def scanBlockInfo (crcOk : Bool) (blk : Mem) (old : BlockInfo) : BlockInfo :=
  let partSize := headerPartSize blk
  let valid := if crcOk ∨ partSize = INVALID_PART_SIZE then 1 else 0
  let occupied := if partSize ≠ INVALID_PART_SIZE then 1 else 0
  if valid ≠ 0 ∧ occupied ≠ 0 then
    let partCount := getPartCount partSize % 256
    { valid, occupied, partCount, partOccupancy := headerOccupancy blk % 256, partSize
      partTblOffs := getBlockHeaderSize partCount % 65536 }
  else { old with valid, occupied, partSize }

/-- The tables when the writes of an update have finished and the block the record is in has
    been read again.  The entry of a block that the record has left is not followed. -/
def DbTables.updated (db : DbTables) (uid sz blockNum : Nat) (t : Scratch) : DbTables where
  blockInfoTbl i := if i = blockNum then t.blkInfo else db.blockInfoTbl i
  uidMap u := if u = uid then (if sz = 0 then INVALID_BLOCK else blockNum) else db.uidMap u
  cacheIdx := some blockNum
  cache := t.block

/-- READ_UID of a record whose block is in the cache, unmasked: its size and its data
    (`read_uid_cmd_iter`, `decode_uid`). -/
def readUid (A : HcAes) (key : Bytes) (db : DbTables) (uid : Nat) (iv : Bytes) :
    Option (Nat × Bytes) :=
  match findUid db uid with
  | (blockNum, .success index) =>
    let sz := (uidTbl db.cache index).sz
    let part := db.cache.read (getPart (db.blockInfoTbl blockNum) index)
      (sizeToSubBlkCount sz * SUB_BLK_SIZE)
    some (sz, cbcDecrypt (A.aes256Decrypt key) (sizeToSubBlkCount sz) (some iv) part)
  | _ => none

/-- The UPDATE_UID and UPDATE_UIDS packets that `logged_in_state` passes on: uid, size and
    data. -/
def acceptUpdateUid (data : Mem) (dataLen : Int) : Option (Nat × Nat × Bytes) :=
  if dataLen < 4 then none
  else
    let uid := data.get16 0
    let sz := data.get16 2
    let blkCount := sizeToSubBlkCount sz
    if uid < MIN_UID ∨ uid > MAX_UID ∨ dataLen - 4 ≠ (blkCount * SUB_BLK_SIZE : Nat) then none
    else some (uid, sz, data.read 4 (blkCount * SUB_BLK_SIZE))

/-- `signetdev_max_entry_data_size` of the host. -/
def signetdevMaxEntryDataSize (type : DeviceType) : Nat :=
  match type with
  | none => 0
  | some _ => SUB_BLK_DATA_SIZE * ((signetdevDeviceBlockSize type - SUB_BLK_SIZE) / SUB_BLK_SIZE)

/-! ### What is expected -/

/-- `allocate_uid_blk` stays in the block, and the record in its partition. -/
structure WritesInside (sz : Nat) (t : Scratch) : Prop where
  index : t.blkInfo.partOccupancy < t.blkInfo.partCount
  ent : uidTblOff t.blkInfo.partOccupancy + uidEntSize ≤ BLK_SIZE
  size : sizeToSubBlkCount sz ≤ t.blkInfo.partSize
  part : getPart t.blkInfo t.blkInfo.partOccupancy + t.blkInfo.partSize * SUB_BLK_SIZE ≤ BLK_SIZE

/-- The cache holds the block it is said to hold. -/
def CacheOk (blocks : Nat → Mem) (db : DbTables) : Prop :=
  ∀ i, db.cacheIdx = some i → ∀ a < BLK_SIZE, db.cache a = blocks i a

/-- A device that is at rest: its tables and the blocks of the eMMC. -/
structure EmmcDb extends Db where
  blocks : Nat → Mem
  cacheOk : CacheOk blocks toDbTables

/-- An update puts the record into a partition, from where it is read back whole. -/
structure PutInside (A : HcAes) (key : Bytes) (db : DbTables) (uid sz : Nat) (data iv : Bytes)
    (t : Scratch) : Prop where
  inside : ∀ target, updateUidTarget db uid t = some target → WritesInside sz target.2.2
  readBack : ∃ blockNum t', updateUid A key db uid data sz iv t = some (blockNum, t') ∧
    readUid A key (db.updated uid sz blockNum t') uid iv = some (sz, data)

/-- The record of an accepted packet fits in its partition, and when the blocks it takes have been
    read it is put there and is read back whole. -/
structure RecordFits (A : HcAes) (key : Bytes) (db : EmmcDb) (uid sz : Nat) (data iv : Bytes)
    (t : Scratch) : Prop where
  size : sizeToSubBlkCount sz ≤ MAX_PART_SIZE
  put : sz ≠ 0 → ∃ n db' t', updateUidLast db.blocks uid sz n db.toDbTables t = some (db', t') ∧
    PutInside A key db' uid sz data iv t'

/-- A block has room for one more record, or is free. -/
def HasRoom (db : DbTables) : Prop :=
  (findExactBlock db MAX_PART_SIZE).isSome ∨ findFreeBlock db ≠ INVALID_BLOCK

/-- There is room that `allocate_uid` comes to: a block with room while uid is in none or in that
    one, or else a free block. -/
def HasRoomFor (db : DbTables) (uid : Nat) : Prop :=
  (findExactBlock db MAX_PART_SIZE).isSome ∧ db.uidMap uid = INVALID_BLOCK ∨
  findExactBlock db MAX_PART_SIZE = some (db.uidMap uid) ∨
  findExactBlock db MAX_PART_SIZE = none ∧ findFreeBlock db ≠ INVALID_BLOCK

/-- The record has an entry in a block of the largest partition size, where it stays. -/
def Stays (db : DbTables) (uid : Nat) : Prop :=
  (findUid db uid).2 ≠ .invalid ∧ (db.blockInfoTbl (db.uidMap uid)).partSize = MAX_PART_SIZE

/-- There is a place for the record: a block it stays in says that it holds no more than it can,
    and for any other record there is room. -/
structure HasPlace (db : DbTables) (uid : Nat) : Prop where
  stays : Stays db uid →
    (db.blockInfoTbl (db.uidMap uid)).partOccupancy ≤ (db.blockInfoTbl (db.uidMap uid)).partCount
  moves : ¬ Stays db uid → HasRoomFor db uid

/-- The tables with the block of uid in the cache. -/
def EmmcDb.lookedUp (db : EmmcDb) (uid : Nat) : DbTables :=
  db.blockRead db.blocks (db.uidMap uid)

/-! ### Geometry -/

section Geometries

variable {db : DbTables} {info : BlockInfo} {uid : Nat} {t : Scratch}

theorem mem_dataBlocks {i : Nat} : i ∈ dataBlocks ↔ MIN_DATA_BLOCK ≤ i ∧ i ≤ MAX_DATA_BLOCK := by
  unfold dataBlocks
  rw [List.mem_range'_1]
  have hnum : MIN_DATA_BLOCK + (MAX_DATA_BLOCK - MIN_DATA_BLOCK + 1) = MAX_DATA_BLOCK + 1 := by
    decide
  omega

theorem dataBlock_ne_invalid {i : Nat} (h : i ∈ dataBlocks) : i ≠ INVALID_BLOCK := by
  rintro rfl
  exact absurd (mem_dataBlocks.mp h).1 (by decide)

/-- A block of the largest partition size holds one record, behind one sub-block. -/
theorem Geometry.maxPart (h : Geometry info) (hsize : info.partSize = MAX_PART_SIZE) :
    info.partCount = 1 ∧ info.partTblOffs = 1 := by
  have hcount : info.partCount = 1 := by
    rw [h.count, hsize]
    decide
  refine ⟨hcount, ?_⟩
  rw [h.offs, hcount]
  decide

/-- Larger partitions do not fit in a block. -/
theorem getPartCount_of_gt {partSize : Nat} (h : MAX_PART_SIZE < partSize) :
    getPartCount partSize = 0 := by
  have hle : BLK_SIZE / SUB_BLK_SIZE / partSize ≤ 1 := by
    have hdiv : BLK_SIZE / SUB_BLK_SIZE / partSize ≤ 1024 / 1024 :=
      Nat.div_le_div (by decide) h (by decide)
    exact hdiv
  unfold getPartCount partCountIn
  have hfull : ¬ getBlockHeaderSize 1 + 1 * partSize ≤ BLK_SIZE / SUB_BLK_SIZE := by
    have hhead : getBlockHeaderSize 1 = 1 := by decide
    have hblk : BLK_SIZE / SUB_BLK_SIZE = MAX_PART_SIZE + 1 := by decide
    omega
  rcases Nat.lt_or_ge (BLK_SIZE / SUB_BLK_SIZE / partSize) 1 with hzero | hone
  · rw [Nat.lt_one_iff.mp hzero]
    rfl
  · rw [Nat.le_antisymm hle hone]
    unfold shrinkPartCount
    rw [if_pos (Nat.lt_of_not_le hfull)]
    rfl

/-- **The startup scan gives a block the geometry of its partition size.** -/
theorem geometry_scanBlockInfo (crcOk : Bool) (blk : Mem) (old : BlockInfo)
    (hvalid : (scanBlockInfo crcOk blk old).valid ≠ 0)
    (hocc : (scanBlockInfo crcOk blk old).occupied ≠ 0) :
    Geometry (scanBlockInfo crcOk blk old) := by
  unfold scanBlockInfo at hvalid hocc ⊢
  dsimp only at hvalid hocc ⊢
  generalize (if crcOk = true ∨ headerPartSize blk = INVALID_PART_SIZE then 1 else 0) = valid
    at hvalid hocc ⊢
  generalize (if headerPartSize blk ≠ INVALID_PART_SIZE then 1 else 0) = occupied
    at hvalid hocc ⊢
  by_cases h : valid ≠ 0 ∧ occupied ≠ 0
  · rw [if_pos h]
    exact ⟨rfl, rfl⟩
  · rw [if_neg h] at hvalid hocc
    exact absurd ⟨hvalid, hocc⟩ h

theorem findExactBlock_spec {i : Nat} (h : findExactBlock db MAX_PART_SIZE = some i) :
    i ∈ dataBlocks ∧ (db.blockInfoTbl i).valid ≠ 0 ∧ (db.blockInfoTbl i).occupied ≠ 0 ∧
      (db.blockInfoTbl i).partSize = MAX_PART_SIZE ∧
      (db.blockInfoTbl i).partOccupancy < (db.blockInfoTbl i).partCount := by
  have hprop := List.find?_some h
  dsimp only at hprop
  exact ⟨List.mem_of_find?_eq_some h, of_decide_eq_true hprop⟩

/-- **The last loop of `allocate_uid` finds nothing that the first one has not found.** -/
theorem findLargerBlock_eq_none (hdb : ∀ i ∈ dataBlocks, (db.blockInfoTbl i).valid ≠ 0 →
      (db.blockInfoTbl i).occupied ≠ 0 → Geometry (db.blockInfoTbl i))
    (h : findExactBlock db MAX_PART_SIZE = none) : findLargerBlock db MAX_PART_SIZE = none := by
  unfold findLargerBlock
  suffices hfold : ∀ l : List Nat, (∀ i ∈ l, i ∈ dataBlocks) →
      l.foldl (largerBlockIter db MAX_PART_SIZE) (none, BLK_SIZE) = (none, BLK_SIZE) by
    rw [hfold dataBlocks fun _ hi => hi]
  intro l
  induction l with
  | nil => exact fun _ => rfl
  | cons i l ih =>
    intro hmem
    have hi := hmem i List.mem_cons_self
    have hiter : largerBlockIter db MAX_PART_SIZE (none, BLK_SIZE) i = (none, BLK_SIZE) := by
      refine if_neg ?_
      rintro ⟨hvalid, hocc, hsize, -, hroom⟩
      rcases Nat.eq_or_lt_of_le hsize with heq | hlt
      · have hnot := List.find?_eq_none.mp h i hi
        exact hnot (decide_eq_true ⟨hvalid, hocc, heq.symm, hroom⟩)
      · have hcount := (hdb i hi hvalid hocc).count
        rw [getPartCount_of_gt hlt] at hcount
        exact absurd hroom (by omega)
    rw [List.foldl_cons, hiter, ih fun j hj => hmem j (List.mem_cons_of_mem _ hj)]

end Geometries

/-! ### Blocks without a record -/

/-- The scratch holds a block of the largest partition size without a record. -/
structure Blank (t : Scratch) : Prop where
  occupancy : t.blkInfo.partOccupancy = 0
  size : t.blkInfo.partSize = MAX_PART_SIZE
  count : t.blkInfo.partCount = 1
  offs : t.blkInfo.partTblOffs = 1

section Targets

variable {db : Db} {uid sz n rev : Nat} {t t' : Scratch}

theorem Blank.writesInside (h : Blank t) (hsz : sizeToSubBlkCount sz ≤ MAX_PART_SIZE) :
    WritesInside sz t where
  index := by
    rw [h.occupancy, h.count]
    exact Nat.zero_lt_one
  ent := by
    rw [h.occupancy]
    decide
  size := by
    rw [h.size]
    exact hsz
  part := by
    unfold getPart
    rw [h.occupancy, h.size, h.offs]
    decide

theorem loadCached_blank {i : Nat} (hi : findExactBlock db.toDbTables MAX_PART_SIZE = some i)
    (h : loadCached db.toDbTables i t = some t') : Blank t' ∧ i ≠ INVALID_BLOCK := by
  obtain ⟨hmem, hvalid, hocc, hsize, hroom⟩ := findExactBlock_spec hi
  obtain ⟨hcount, hoffs⟩ := (db.geometry i hmem hvalid hocc).maxPart hsize
  unfold loadCached at h
  obtain ⟨blk, -, rfl⟩ := Option.map_eq_some_iff.mp h
  refine ⟨⟨?_, hsize, hcount, hoffs⟩, dataBlock_ne_invalid hmem⟩
  exact Nat.lt_one_iff.mp (hcount ▸ hroom)

/-- With room a record is put into a block without one. -/
theorem allocateUidTarget_blank (hroom : HasRoom db.toDbTables)
    (h : (allocateUidTarget db.toDbTables t).2 = some t') :
    Blank t' ∧ (allocateUidTarget db.toDbTables t).1 ≠ INVALID_BLOCK := by
  unfold allocateUidTarget at h ⊢
  cases hexact : findExactBlock db.toDbTables MAX_PART_SIZE with
  | some i =>
    rw [hexact] at h
    exact loadCached_blank hexact h
  | none =>
    have hfree : findFreeBlock db.toDbTables ≠ INVALID_BLOCK := by
      rcases hroom with hsome | hfree
      · rw [hexact] at hsome
        exact absurd hsome (by decide)
      · exact hfree
    rw [hexact] at h
    dsimp only at h ⊢
    rw [if_pos hfree] at h ⊢
    cases h
    have hcount : getPartCount MAX_PART_SIZE % 256 = 1 := by decide
    have hoffs : getBlockHeaderSize (getPartCount MAX_PART_SIZE % 256) % 65536 = 1 := by decide
    exact ⟨⟨rfl, rfl, hcount, hoffs⟩, hfree⟩

/-- **Without room the record goes into whatever the scratch holds.** -/
theorem allocateUidTarget_full (hroom : ¬ HasRoom db.toDbTables) :
    allocateUidTarget db.toDbTables t = (INVALID_BLOCK, some t) := by
  obtain ⟨hexact, hfree⟩ := not_or.mp hroom
  rw [Option.not_isSome_iff_eq_none] at hexact
  unfold allocateUidTarget
  rw [hexact]
  dsimp only
  rw [if_neg hfree, findLargerBlock_eq_none db.geometry hexact]

theorem HasRoomFor.hasRoom (h : HasRoomFor db.toDbTables uid) : HasRoom db.toDbTables := by
  rcases h with ⟨hexact, -⟩ | hexact | ⟨-, hfree⟩
  · exact .inl hexact
  · exact .inl (hexact ▸ rfl)
  · exact .inr hfree

end Targets

/-! ### Packets -/

/-- What `logged_in_state` has checked of a packet it passes on. -/
theorem acceptUpdateUid_spec {packet : Mem} {dataLen : Int} {uid sz : Nat} {data : Bytes}
    (h : acceptUpdateUid packet dataLen = some (uid, sz, data)) :
    uid < 4096 ∧ sz < 65536 ∧ data.length = sizeToSubBlkCount sz * SUB_BLK_SIZE := by
  unfold acceptUpdateUid at h
  dsimp only at h
  split at h
  · cases h
  · split at h
    · cases h
    · rename_i hrange
      obtain ⟨-, hmax, -⟩ := not_or.mp hrange |>.imp_right not_or.mp
      cases h
      refine ⟨?_, Mem.get16_lt _ _, Mem.length_read _ _ _⟩
      exact Nat.lt_succ_of_le (Nat.not_lt.mp hmax)

/-! ### A free device -/

/-- A device whose blocks are all free. -/
def freeDb : Db where
  blockInfoTbl _ := ⟨1, 0, 0, 0, INVALID_PART_SIZE, 0⟩
  uidMap _ := INVALID_BLOCK
  cacheIdx := none
  cache := fun _ => 0
  geometry _ _ _ hocc := absurd rfl hocc
  mapped _ h := absurd rfl h

/-- A cipher that leaves its input. -/
def plainAes : HcAes where
  aes256Encrypt := fun _ blk => blk
  aes256Decrypt := fun _ blk => blk

theorem blockInverse_plainAes (key : Bytes) :
    BlockInverse (plainAes.aes256Encrypt key) (plainAes.aes256Decrypt key) :=
  ⟨fun _ h => h, fun _ _ => rfl⟩

/-- The scratch in an empty union. -/
def emptyScratch : Scratch := ⟨fun _ => 0, ⟨0, 0, 0, 0, 0, 0⟩⟩

end SignetBase.FirmwareHc
