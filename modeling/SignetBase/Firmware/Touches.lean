/-
  SignetBase/Firmware/Touches.lean
  ================================
  **What the command handlers touch (`commands.c`, `db.c`, `firmware_update_state.c`).**

  For each handler that `cmd_packet_recv` reaches, the bytes of the packet buffer, of the
  command's member of `cmd_data` and of `root_page` that it reads or writes, and the entries
  of `block_info_tbl` and `uid_map` that it indexes.  The lists follow the source line by
  line; what a handler hands to the flash driver or to the keyboard is in them as well.

  A length that is computed as an `int` becomes a `size_t` in `memcpy`, so a negative one
  touches what is in no object.
-/
import SignetBase.Access
import SignetBase.Firmware.Events

namespace SignetBase.Firmware

/-! ### Objects -/

/-- What handlers index or copy to and from. -/
inductive Area where
  | cmdPacketBuf
  | cmdData (cmd : Command)
  | rootPage
  | blockInfoTbl
  | uidMap
deriving DecidableEq, Repr

/-- The size of a command's member of `union cmd_data_u`. -/
def memberSize : Command → Nat
  | .eraseFlashPages => CmdData.eraseFlashPagesPages + CMD_PACKET_PAYLOAD_SIZE
  | .type => CMD_PACKET_PAYLOAD_SIZE
  | .initializeDevice => CmdData.initDataBlkInfo + 8
  | .startup => CmdData.startupBlkInfo + 8
  | .changeMasterPassword => CmdData.changeMasterPasswordSalt + AES_256_KEY_SIZE
  | .login => CmdData.loginToken + AES_256_KEY_SIZE
  | .loginToken => AES_256_KEY_SIZE
  | .updateUid | .updateUids => CmdData.updateUidBlock + BLK_SIZE
  | .readCleartextPasswordNames => NUM_CLEARTEXT_PASS * 64
  | .readUid => CmdData.readUidBlock + BLK_SIZE
  | .readAllUids => CmdData.readAllUidsBlock + BLK_SIZE
  | .getRandBits => CmdData.getRandBitsBlock + BLK_SIZE
  | .writeCleartextPassword => CmdData.writeCleartextPasswordData + CLEARTEXT_PASS_SIZE
  | .readCleartextPassword => 4
  | _ => 0

/-- The bytes, or entries, of an area. -/
def Area.size : Area → Nat
  | .cmdPacketBuf => CMD_PACKET_BUF_SIZE
  | .cmdData cmd => memberSize cmd
  | .rootPage => RootPage.size
  | .blockInfoTbl => NUM_STORAGE_BLOCKS
  | .uidMap => MAX_UID + 1

/-- A span of an area. -/
structure Touch where
  area : Area
  span : Span
deriving DecidableEq, Repr

def Touch.Within (t : Touch) : Prop := t.span.Within t.area.size

instance (t : Touch) : Decidable t.Within := inferInstanceAs (Decidable (Span.Within _ _))

/-- Bytes of the data behind the packet header. -/
def dataAt (off len : Nat) : Touch := ⟨.cmdPacketBuf, ⟨CMD_PACKET_HEADER_SIZE + off, len⟩⟩

def memberAt (cmd : Command) (off len : Nat) : Touch := ⟨.cmdData cmd, ⟨off, len⟩⟩

def rootAt (off len : Nat) : Touch := ⟨.rootPage, ⟨off, len⟩⟩

def blockInfoAt (i : Nat) : Touch := ⟨.blockInfoTbl, ⟨i, 1⟩⟩

def uidMapAt (uid : Nat) : Touch := ⟨.uidMap, ⟨uid, 1⟩⟩

/-! ### The database -/

/-- `block_temp` and `blk_info_temp`: a block and a block info in a member of `cmd_data`. -/
structure ScratchAt where
  cmd : Command
  blockOff : Nat
  infoOff : Nat

def ScratchAt.block (c : ScratchAt) (off len : Nat) : Touch := memberAt c.cmd (c.blockOff + off) len

def ScratchAt.info (c : ScratchAt) : Touch := memberAt c.cmd c.infoOff 8

section Db

variable (P : Platform) (c : ScratchAt) (pages : Nat → Mem) (tbl : Tables)

def findUidTouches (uid : Nat) : List Touch :=
  uidMapAt uid ::
    if tbl.uidMap uid = INVALID_BLOCK then [] else [blockInfoAt (tbl.uidMap uid)]

/-- The loops over `block_info_tbl`; one that ends early touches less. -/
def blockInfoTouches : List Touch := dataBlocks.map blockInfoAt

/-- The partitions and entries that `deallocate_uid` copies. -/
def removeUidTouches (info : BlockInfo) (index : Nat) : List Touch :=
  let last := info.partOccupancy - 1
  let partBytes := info.partSize * SUB_BLK_SIZE
  [c.block (getPart info index) partBytes, c.block (getPart info last) partBytes,
    c.block (uidTblOff index) uidEntSize, c.block (uidTblOff last) uidEntSize]

def deallocateUidTouches (uid : Nat) (deallocateBlock : Bool) : List Touch :=
  findUidTouches tbl uid ++
  match findUid pages tbl uid with
  | (_, none) => []
  | (blockNum, some index) =>
    let info := tbl.blockInfoTbl blockNum
    [blockInfoAt blockNum, c.info] ++
    if info.partOccupancy = 1 ∧ deallocateBlock then [c.block 0 blockHeaderSize]
    else
      c.block 0 BLK_SIZE ::
        -- the header's occupancy is not 0 after it was decreased
        if headerOccupancy (pages blockNum) ≠ 1 then removeUidTouches c info index else []

/-- `allocate_uid_blk`, which takes the record from the packet. -/
def allocateUidBlkTouches (sz : Nat) (info : BlockInfo) : List Touch :=
  let index := info.partOccupancy
  let bytes := sizeToSubBlkCount sz * SUB_BLK_SIZE
  [c.info, c.block 6 2, c.block (uidTblOff index) uidEntSize, dataAt 4 bytes,
    c.block (getPart info index) bytes]

def allocateUidTouches (sz : Nat) (t : Scratch) : List Touch :=
  let partSize := targetPartSize sz
  if partSize = 0 then []
  else
    blockInfoTouches ++
    match findExactBlock tbl partSize with
    | some i =>
      [blockInfoAt i, c.info, c.block 0 BLK_SIZE] ++
        allocateUidBlkTouches c sz (tbl.blockInfoTbl i)
    | none =>
      if findFreeBlock tbl ≠ INVALID_BLOCK then
        let partCount := getPartCount partSize
        [c.block 0 BLK_SIZE, c.info] ++
          allocateUidBlkTouches c sz
            { t.blkInfo with
              partOccupancy := 0
              partSize := partSize
              partCount := partCount % 256
              partTblOffs := getBlockHeaderSize (partCount % 256) }
      else
        match findLargerBlock tbl partSize with
        | some i =>
          [blockInfoAt i, c.info, c.block 0 BLK_SIZE] ++
            allocateUidBlkTouches c sz (tbl.blockInfoTbl i)
        | none => []

/-- `update_uid`; `prev_block_num` is with the fields of `update_uid_cmd`. -/
def updateUidTouches (uid sz : Nat) (t : Scratch) : List Touch :=
  if sz = 0 then deallocateUidTouches c pages tbl uid true
  else
    findUidTouches tbl uid ++
    match findUid pages tbl uid with
    | (_, none) => allocateUidTouches c tbl sz t
    | (blockNum, some _) =>
      let partSize := targetPartSize sz
      if partSize = 0 then []
      else
        let info := tbl.blockInfoTbl blockNum
        [blockInfoAt blockNum, c.info] ++
        if info.partSize = partSize then
          c.block 0 BLK_SIZE :: deallocateUidTouches c pages tbl uid false ++
            allocateUidBlkTouches c sz { info with partOccupancy := info.partOccupancy - 1 }
        else allocateUidTouches c tbl sz { t with blkInfo := info }

/-- The inner loop of `db2_startup_scan`. -/
def scanEntsTouches (i : Nat) : List Nat → Scan → List Touch
  | [], _ => []
  | j :: js, r =>
    let ent := uidTbl (pages i) j
    if ent.uid ≥ MIN_UID ∧ ent.uid ≤ MAX_UID ∧ ent.first ≠ 0 then
      uidMapAt ent.uid ::
        if r.tables.uidMap ent.uid ≠ INVALID_BLOCK then
          let prevRev := match findUid pages r.tables ent.uid with
            | (b, some k) => (uidTbl (pages b) k).rev
            | (_, none) => 0
          let tables :=
            if (ent.rev + 1) % 4 = prevRev then r.tables.setUid ent.uid i else r.tables
          findUidTouches r.tables ent.uid ++ uidMapAt ent.uid ::
            deallocateUidTouches c pages tables ent.uid true ++ [c.info, c.block 0 BLK_SIZE]
        else
          scanEntsTouches i js { r with tables := r.tables.setUid ent.uid i }
    else scanEntsTouches i js r

/-- The outer loop. -/
def scanBlocksTouches : List Nat → Scan → List Touch
  | [], _ => []
  | i :: is, r =>
    let info := scanInfo P (pages i) (r.tables.blockInfoTbl i)
    let r := { r with tables := r.tables.setInfo i info }
    blockInfoAt i ::
      if info.valid ≠ 0 ∧ info.occupied ≠ 0 then
        scanEntsTouches c pages i (List.range info.partOccupancy) r ++
          let r := scanEnts P pages i (List.range info.partOccupancy) r
          if r.repair.isSome then [] else scanBlocksTouches is r
      else scanBlocksTouches is r

/-- `uid_map` from `MIN_UID` to `MAX_UID`. -/
def uidMapTouches : List Touch := (List.range' MIN_UID MAX_UID).map uidMapAt

def db2StartupScanTouches (scratch : Scratch) : List Touch :=
  uidMapTouches ++
    scanBlocksTouches P c pages dataBlocks
      { tables := { tbl with
          uidMap := fun u => if MIN_UID ≤ u ∧ u ≤ MAX_UID then INVALID_BLOCK else tbl.uidMap u }
        scratch
        repair := none }

end Db

section Handlers

variable (P : Platform) (s : Dev) (data : Mem) (dataLen : Int)

/-! ### Commands on records -/

/-- `derive_iv` into a member of `cmd_data`. -/
def deriveIvTouches (cmd : Command) (off : Nat) : List Touch :=
  [rootAt RootPage.signature 1, rootAt RootPage.cbcIv AES_BLK_SIZE, memberAt cmd off AES_BLK_SIZE]

/-- Where UPDATE_UID and UPDATE_UIDS build the new block. -/
def updateScratch (cmd : Command) : ScratchAt :=
  ⟨cmd, CmdData.updateUidBlock, CmdData.updateUidBlkInfo⟩

def updateUidCmdCompleteTouches (cmd : Command) : List Touch :=
  [memberAt cmd CmdData.updateUidBlockNum 4, (updateScratch cmd).info,
    (updateScratch cmd).block 0 BLK_SIZE]

def updateUidCmdTouches (cmd : Command) (uid sz pressType : Nat) : List Touch :=
  deriveIvTouches cmd CmdData.updateUidIv ++
  [memberAt cmd CmdData.updateUidUid 4, memberAt cmd CmdData.updateUidSz 4,
    memberAt cmd CmdData.updateUidWriteCount 4, memberAt cmd CmdData.updateUidBlockNum 4,
    memberAt cmd CmdData.updateUidPrevBlockNum 4] ++
  updateUidTouches (updateScratch cmd) (block P s) s.tables uid sz
    (Scratch.ofCmdData s.cmdData CmdData.updateUidBlock CmdData.updateUidBlkInfo) ++
  if pressType = 0 then updateUidCmdCompleteTouches cmd else []

/-- UPDATE_UID and UPDATE_UIDS in `logged_in_state`. -/
def updateUidPacketTouches (cmd : Command) : List Touch :=
  if dataLen < 4 then []
  else
    let uid := data.get16 0
    let sz := data.get16 2
    [dataAt 0 2, dataAt 2 2] ++
    if uid < MIN_UID ∨ uid > MAX_UID ∨ dataLen - 4 ≠ sizeToSubBlkCount sz * SUB_BLK_SIZE then []
    else updateUidCmdTouches P s cmd uid sz (updatePressType cmd s)

/-- `decode_uid` of a record of `sz` bytes to offset `off` of a member. -/
def decodeUidTouches (cmd : Command) (sz blockNum off : Nat) : List Touch :=
  [blockInfoAt blockNum, memberAt cmd off (sizeToSubBlkCount sz * SUB_BLK_SIZE)]

def readUidCmdTouches (uid masked : Nat) : List Touch :=
  [memberAt .readUid CmdData.readUidUid 4, memberAt .readUid CmdData.readUidMasked 4,
    memberAt .readUid CmdData.readUidBlockNum 4, memberAt .readUid CmdData.readUidIndex 4,
    memberAt .readUid CmdData.readUidEnt 4] ++
  findUidTouches s.tables uid ++ deriveIvTouches .readUid CmdData.readUidIv ++
  match findUid (block P s) s.tables uid with
  | (_, none) => []
  | (blockNum, some index) =>
    if masked = 0 then []
    else
      let sz := (uidTbl (block P s blockNum) index).sz
      memberAt .readUid CmdData.readUidBlock 2 ::
        decodeUidTouches .readUid sz blockNum (CmdData.readUidBlock + 2) ++
        [memberAt .readUid CmdData.readUidBlock (sizeToSubBlkCount sz * SUB_BLK_SIZE + 2)]

/-- READ_UID in `logged_in_state`. -/
def readUidPacketTouches : List Touch :=
  if dataLen < 3 then []
  else
    [dataAt 0 2, dataAt 2 1] ++
    if data.get16 0 < MIN_UID ∨ data.get16 0 > MAX_UID then []
    else readUidCmdTouches P s (data.get16 0) (data 2).toNat

/-- `read_all_uids_cmd_iter` from the command's start: it looks at `uid_map` up to the first
    uid that is mapped, or up to the first one behind `MAX_UID`. -/
def readAllUidsCmdIterTouches : List Touch :=
  [memberAt .readAllUids CmdData.readAllUidsUid 4,
    memberAt .readAllUids CmdData.readAllUidsBlock 4] ++
  match nextMappedUid s.tables MIN_UID with
  | none => (List.range' MIN_UID (MAX_UID + 1)).map uidMapAt
  | some uid =>
    (List.range' MIN_UID uid).map uidMapAt ++ findUidTouches s.tables uid ++
    memberAt .readAllUids CmdData.readAllUidsExpectedRemaining 4 ::
    match findUid (block P s) s.tables uid with
    | (_, none) => []
    | (blockNum, some index) =>
      let sz := (uidTbl (block P s blockNum) index).sz
      deriveIvTouches .readAllUids CmdData.readAllUidsIv ++
        decodeUidTouches .readAllUids sz blockNum (CmdData.readAllUidsBlock + 4) ++
        [memberAt .readAllUids CmdData.readAllUidsBlock
          (sizeToSubBlkCount sz * SUB_BLK_SIZE + 4)]

def readAllUidsCmdTouches (masked : Nat) : List Touch :=
  [memberAt .readAllUids CmdData.readAllUidsUid 4,
    memberAt .readAllUids CmdData.readAllUidsMasked 4,
    memberAt .readAllUids CmdData.readAllUidsExpectedRemaining 4] ++ uidMapTouches ++
  if masked = 0 then [] else readAllUidsCmdIterTouches P s

/-- READ_ALL_UIDS in `logged_in_state`. -/
def readAllUidsPacketTouches : List Touch :=
  if dataLen < 1 then [] else dataAt 0 1 :: readAllUidsCmdTouches P s (data 0).toNat

/-! ### Other commands -/

def getProgressCmdTouches : List Touch := [dataAt 0 2, dataAt 2 2]

def initializeCmdTouches : List Touch :=
  if dataLen < INITIALIZE_CMD_SIZE then []
  else
    [dataAt 0 AES_256_KEY_SIZE, memberAt .initializeDevice CmdData.initDataPasswd AES_256_KEY_SIZE,
      dataAt 32 AES_BLK_SIZE, memberAt .initializeDevice CmdData.initDataHashfn AES_BLK_SIZE,
      dataAt 48 SALT_SZ_V2, memberAt .initializeDevice CmdData.initDataSalt SALT_SZ_V2,
      dataAt 80 INIT_RAND_DATA_SZ,
      memberAt .initializeDevice CmdData.initDataRand INIT_RAND_DATA_SZ,
      memberAt .initializeDevice CmdData.initDataStarted 4]

def readBlockCmdTouches : List Touch := if dataLen ≠ 1 then [] else [dataAt 0 1]

def writeBlockCmdTouches : List Touch :=
  if dataLen ≠ 1 + BLK_SIZE then [] else [dataAt 0 1, dataAt 1 BLK_SIZE]

def eraseBlockCmdTouches : List Touch := if dataLen ≠ 1 then [] else [dataAt 0 1]

def changeMasterPasswordCmdTouches : List Touch :=
  if dataLen ≠ (AES_256_KEY_SIZE * 2 + HASH_FN_SZ + SALT_SZ_V2 : Nat) then []
  else
    [dataAt (AES_256_KEY_SIZE * 2) HASH_FN_SZ,
      memberAt .changeMasterPassword CmdData.changeMasterPasswordHashfn HASH_FN_SZ,
      dataAt (AES_256_KEY_SIZE * 2 + HASH_FN_SZ) SALT_SZ_V2,
      memberAt .changeMasterPassword CmdData.changeMasterPasswordSalt SALT_SZ_V2,
      rootAt RootPage.signature 1] ++
    if s.rootPage RootPage.signature = 2 then
      [dataAt 0 AES_256_KEY_SIZE, rootAt RootPage.authRand AES_256_KEY_SIZE,
        memberAt .changeMasterPassword CmdData.changeMasterPasswordCyphertext AES_256_KEY_SIZE,
        rootAt RootPage.authRandCt AES_256_KEY_SIZE,
        rootAt RootPage.encryptKeyCt AES_256_KEY_SIZE,
        dataAt AES_256_KEY_SIZE AES_256_KEY_SIZE,
        memberAt .changeMasterPassword CmdData.changeMasterPasswordNewKey AES_256_KEY_SIZE]
    else []

def getRandBitsCmdTouches : List Touch :=
  if dataLen < 2 then []
  else
    let sz := data.get16 0
    [dataAt 0 2, memberAt .getRandBits CmdData.getRandBitsSz 2] ++
    if sz ≥ BLK_SIZE then []
    else
      [memberAt .getRandBits CmdData.getRandBitsBlock ((sz + 3) / 4),
        -- `get_rand_bits_cmd_check`
        memberAt .getRandBits CmdData.getRandBitsBlock ((sz + 3) / 4 * 4),
        memberAt .getRandBits CmdData.getRandBitsBlock sz]

def loginCmdTouches : List Touch :=
  [memberAt .login CmdData.loginGenToken 4, memberAt .login CmdData.loginAuthenticated 4] ++
  if dataLen < AES_256_KEY_SIZE then []
  else
    [dataAt 0 AES_256_KEY_SIZE, memberAt .login CmdData.loginPassword AES_256_KEY_SIZE] ++
    if dataLen - AES_256_KEY_SIZE > 0 then [dataAt AES_256_KEY_SIZE 1] else []

def loginTokenCmdTouches : List Touch :=
  if dataLen ≠ AES_256_KEY_SIZE then []
  else
    [dataAt 0 AES_256_KEY_SIZE,
      memberAt .loginToken CmdData.loginTokenToken AES_256_KEY_SIZE]

/-- TYPE in `logged_in_state`; the keyboard is sent the first two bytes. -/
def typeCmdTouches : List Touch :=
  let nChars := dataLen / 2
  [dataAt 0 (sizeT (nChars * 2)), memberAt .type CmdData.typeDataChars (sizeT (nChars * 2)),
    memberAt .type CmdData.typeDataChars 2]

def readCleartextPasswordTouches : List Touch :=
  if dataLen ≠ 1 then []
  else [dataAt 0 1, memberAt .readCleartextPassword CmdData.readCleartextPasswordIdx 4]

def writeCleartextPasswordTouches : List Touch :=
  if dataLen ≠ CLEARTEXT_PASS_SIZE + 1 then []
  else
    [dataAt 0 1, memberAt .writeCleartextPassword CmdData.writeCleartextPasswordIdx 4,
      dataAt 1 CLEARTEXT_PASS_SIZE,
      memberAt .writeCleartextPassword CmdData.writeCleartextPasswordData CLEARTEXT_PASS_SIZE]

/-- One turn of the loop of `read_cleartext_password_names`: a format byte and a name. -/
def cleartextPasswordNameTouches (i : Nat) : List Touch :=
  let j := i * (CLEARTEXT_PASS_NAME_SIZE + 1)
  [rootAt (cleartextPassOff i) 1, memberAt .readCleartextPasswordNames j 1,
    rootAt (cleartextPassOff i + 2) CLEARTEXT_PASS_NAME_SIZE,
    memberAt .readCleartextPasswordNames (j + 1) CLEARTEXT_PASS_NAME_SIZE]

def readCleartextPasswordNamesTouches : List Touch :=
  (List.range NUM_CLEARTEXT_PASS).flatMap cleartextPasswordNameTouches

/-- The data bytes that `erase_flash_pages_cmd` compares: up to the first one out of range. -/
def eraseFlashPagesCmdTouches : List Touch :=
  let pages := data.read 0 dataLen.toNat
  let inRange := pages.takeWhile fun p => p.toNat < FLASH_MEM_SIZE / FLASH_PAGE_SIZE
  (List.range (min (inRange.length + 1) pages.length)).map (dataAt · 1) ++
  if pages.any fun p => p.toNat ≥ FLASH_MEM_SIZE / FLASH_PAGE_SIZE then []
  else
    [memberAt .eraseFlashPages CmdData.eraseFlashPagesIndex 2,
      memberAt .eraseFlashPages CmdData.eraseFlashPagesNumPages 2, dataAt 0 (sizeT dataLen),
      memberAt .eraseFlashPages CmdData.eraseFlashPagesPages (sizeT dataLen)]

/-- `write_flash_cmd`: what the flash driver is to program is a number of double words. -/
def writeFlashCmdTouches : List Touch :=
  let dest := data.get32 0
  [dataAt 0 4] ++
  if ¬ inFlashRange dest ∨ ¬ inFlashRange ((dest + (dataLen - 4)) % 2 ^ 32).toNat then []
  else [dataAt 4 (8 * doubleWords (dataLen - 4))]

/-- Where STARTUP keeps the block it repairs. -/
def startupScratch : ScratchAt := ⟨.startup, CmdData.startupBlock, CmdData.startupBlkInfo⟩

/-- `startup_cmd_iter` on the root page that `cmd_init` has loaded. -/
def startupCmdIterTouches : List Touch :=
  [rootAt RootPage.hashfn HASH_FN_SZ, rootAt RootPage.salt SALT_SZ_V2,
    rootAt RootPage.dbVersion 1] ++
  if s.rootPage RootPage.dbVersion = 2 then
    db2StartupScanTouches P startupScratch (block P s) s.tables
      (Scratch.ofCmdData s.cmdData CmdData.startupBlock CmdData.startupBlkInfo)
  else []

/-- `startup_cmd`. -/
def startupCmdTouches : List Touch :=
  let s := cmdInit P s
  [rootAt 0 RootPage.size, rootAt (RootPage.signature + 1) (AES_BLK_SIZE - 1),
    rootAt RootPage.signature 1] ++
  if s.rootPage.read (RootPage.signature + 1) (AES_BLK_SIZE - 1) = rootSignature.drop 1 ∧
      s.rootPage RootPage.signature = 2 then
    startupCmdIterTouches P s
  else []

/-! ### State functions -/

/-- `initializing_state`, `wiping_state` and `erasing_pages_state`. -/
def progressOnlyStateTouches (cmd : Command) : List Touch :=
  match cmd with
  | .getProgress => getProgressCmdTouches
  | _ => []

def uninitializedStateTouches (cmd : Command) : List Touch :=
  match cmd with
  | .getProgress => getProgressCmdTouches
  | .initializeDevice => initializeCmdTouches dataLen
  | _ => []

def loggedOutStateTouches (cmd : Command) : List Touch :=
  match cmd with
  | .getProgress => getProgressCmdTouches
  | .changeMasterPassword => changeMasterPasswordCmdTouches s dataLen
  | .initializeDevice => initializeCmdTouches dataLen
  | .login => loginCmdTouches dataLen
  | .loginToken => loginTokenCmdTouches dataLen
  | _ => []

def loggedInStateTouches (cmd : Command) : List Touch :=
  match cmd with
  | .getProgress => getProgressCmdTouches
  | .changeMasterPassword => changeMasterPasswordCmdTouches s dataLen
  | .getRandBits => getRandBitsCmdTouches data dataLen
  | .readUid => readUidPacketTouches P s data dataLen
  | .updateUids => updateUidPacketTouches P s data dataLen .updateUids
  | .updateUid => updateUidPacketTouches P s data dataLen .updateUid
  | .readAllUids => readAllUidsPacketTouches P s data dataLen
  | .type => typeCmdTouches dataLen
  | .readCleartextPasswordNames => readCleartextPasswordNamesTouches
  | .readCleartextPassword => readCleartextPasswordTouches dataLen
  | .writeCleartextPassword => writeCleartextPasswordTouches dataLen
  | _ => []

def backingUpDeviceStateTouches (cmd : Command) : List Touch :=
  match cmd with
  | .readBlock => readBlockCmdTouches dataLen
  | _ => []

def restoringDeviceStateTouches (cmd : Command) : List Touch :=
  match cmd with
  | .writeBlock => writeBlockCmdTouches dataLen
  | .eraseBlock => eraseBlockCmdTouches dataLen
  | _ => []

def firmwareUpdateStateTouches (cmd : Command) : List Touch :=
  match cmd with
  | .eraseFlashPages => eraseFlashPagesCmdTouches data dataLen
  | .writeFlash => writeFlashCmdTouches data dataLen
  | _ => []

def stateFunctionTouches (cmd : Command) : List Touch :=
  match s.deviceState with
  | .uninitialized => uninitializedStateTouches dataLen cmd
  | .initializing | .wiping | .erasingPages => progressOnlyStateTouches cmd
  | .backingUpDevice => backingUpDeviceStateTouches dataLen cmd
  | .restoringDevice => restoringDeviceStateTouches dataLen cmd
  | .firmwareUpdate => firmwareUpdateStateTouches data dataLen cmd
  | .loggedOut => loggedOutStateTouches s dataLen cmd
  | .loggedIn => loggedInStateTouches P s data dataLen cmd
  | .disconnected | .reset | .bootloader => []

end Handlers

/-! ### Packets -/

/-- The part of `cmd_packet_recv` after the command was made the active one. -/
def runPacketTouches (P : Platform) (s : Dev) : List Touch :=
  let cmd := packetCmd s.cmdPacketBuf
  if cmd = .startup then startupCmdTouches P s
  else if cmd = .getDeviceState ∨ cmd = .cancelButtonPress then []
  else if packetDataLen s.cmdPacketBuf > CMD_PACKET_PAYLOAD_SIZE then []
  else
    stateFunctionTouches P s (s.cmdPacketBuf.window CMD_PACKET_HEADER_SIZE)
      (packetDataLen s.cmdPacketBuf) cmd

/-- What `cmd_packet_recv` and the handlers it reaches touch. -/
def cmdPacketRecvTouches (P : Platform) (s : Dev) : List Touch :=
  let next := packetCmd s.cmdPacketBuf
  ⟨.cmdPacketBuf, ⟨0, CMD_PACKET_HEADER_SIZE⟩⟩ ::
    if next = .disconnect ∨ next = .cancelButtonPress ∧ s.activeCmd ≠ none then []
    else runPacketTouches P (activate s)

end SignetBase.Firmware
