/-
  SignetBase/FirmwareHc/RecordStore.lean
  ======================================
  **The record database of Signet HC at work (`db.c` and the parts of `commands.c` it uses).**

  A command looks its uid up in `uid_map` and needs the block it is in.  There is one read cache:
  a block that is not in it is asked of the eMMC, and when the read has completed the command is
  begun anew (`db3_read_block_complete`).  UPDATE_UID builds the new block in `cmd_data`, waits
  for the button, and writes it; the tables follow when the write has completed.  READ_ALL_UIDS
  goes on whenever a response has been sent.  STARTUP scans all blocks.

  The members of the union `cmd_data` are kept apart here: a command uses its own one and fills it
  in first, except for the scratch block of UPDATE_UID, of which nothing is known then.
-/
import SignetBase.FirmwareHc.Disk
import SignetBase.FirmwareHc.ScanBlocks

namespace SignetBase.FirmwareHc

/-! ### Commands and events -/

/-- The commands of the database and those that begin and end a session. -/
inductive StoreCommand where
  | startup | logout | updateUid | updateUids | readUid | readAllUids | cancelButtonPress
deriving DecidableEq, Repr

/-- A command packet: its header and its data. -/
structure StorePacket where
  cmd : StoreCommand
  messagesRemaining : Nat
  dataLen : Int
  data : Mem

/-- A response, as `finish_command_multi` is given it. -/
structure StoreAnswer where
  resp : CommandResponse
  messagesRemaining : Int
  payload : Bytes
deriving DecidableEq, Repr

/-- What the eMMC has been asked for: a block for the read cache or for
    `cmd_data.startup.block`, or to store the scratch block. -/
inductive DbRequest where
  | readCache (idx : Nat) | readScan (idx : Nat) | write (idx : Nat)
deriving DecidableEq, Repr

/-- `cmd_data.update_uid`. -/
structure UpdateUidData where
  iv : Bytes
  uid : Nat
  sz : Nat
  writeCount : Nat
  blockNum : Nat
  prevBlockNum : Nat
  pressType : Nat
  entry : Bytes
  scratch : Scratch

/-- `cmd_data.read_uid`; `ent` points to the entry `index` of the read cache. -/
structure ReadUidData where
  iv : Bytes
  uid : Nat
  blockNum : Nat
  index : Nat
  masked : Bool

/-- `cmd_data.read_all_uids`. -/
structure ReadAllUidsData where
  uid : Nat
  expectedRemaining : Int
  masked : Bool

/-- What the database uses of the session and of the root page: AES, `g_encrypt_key`, the values
    `derive_iv` takes, and the response of STARTUP. -/
structure RecordKey where
  aes : HcAes
  encryptKey : Bytes
  deviceId : Bytes
  dbFormat : DbFormat
  startupResp : Bytes

namespace RecordKey

variable (K : RecordKey)

def enc : Bytes → Bytes := K.aes.aes256Encrypt K.encryptKey

def dec : Bytes → Bytes := K.aes.aes256Decrypt K.encryptKey

/-- `derive_iv`. -/
def deriveIv (id : Nat) : Bytes := DiskKey.deriveIv ⟨K.enc, K.dec, K.deviceId, K.dbFormat⟩ id

end RecordKey

/-- The blocks of the eMMC, the tables and the cache, the request under way, the command being
    executed with its data, the startup scan and the responses, oldest first. -/
structure RecordStore where
  blocks : Nat → Mem
  tables : DbTables
  blockReadCacheUpdating : Bool
  request : Option DbRequest
  deviceState : DeviceState
  activeCmd : Option StoreCommand
  cmdIterCount : Nat
  cmdMessagesRemaining : Nat
  waitingForButtonPress : Bool
  waitingForLongButtonPress : Bool
  updateUidData : UpdateUidData
  readUidData : ReadUidData
  readAllUidsData : ReadAllUidsData
  scanBlkNum : Nat
  startupBlock : Mem
  sending : Bool
  sent : List StoreAnswer

/-- What happens to the database.  With a packet come the contents of the scratch block at its
    time; a LOGIN is the end of that command; a read or write completes, or a response has been
    sent, if there is one under way.  When power is lost while a block is written, `stored` says
    which of its sectors the eMMC has stored. -/
inductive StoreEvent where
  | packet (p : StorePacket) (leftover : Scratch)
  | login
  | buttonPress | longButtonPress | blinkTimeout
  | readComplete | writeComplete
  | packetSent
  | powerOn (stored : Nat → Bool)

/-- What `update_uid` comes to.  It never returns UPDATE_UID_NO_SPACE. -/
inductive UpdateUidResult where
  | success (prevBlockNum blockNum : Nat) (t : Scratch)
  | invalid
  | dataLoading (idx : Nat)

namespace RecordStore

variable (P : RootPlatform) (K : RecordKey) (s : RecordStore)

/-! ### Responses, waits, requests -/

def finishCommandMulti (resp : CommandResponse) (messagesRemaining : Int) (payload : Bytes) :
    RecordStore :=
  { s with
    activeCmd :=
      if messagesRemaining = 0 ∧ s.cmdMessagesRemaining = 0 then none else s.activeCmd
    sending := true
    sent := s.sent ++ [⟨resp, messagesRemaining, payload⟩] }

def finishCommand (resp : CommandResponse) (payload : Bytes) : RecordStore :=
  s.finishCommandMulti resp 0 payload

def finishCommandResp (resp : CommandResponse) : RecordStore := s.finishCommand resp []

def enterState (state : DeviceState) : RecordStore := { s with deviceState := state }

def beginButtonPressWait : RecordStore := { s with waitingForButtonPress := true }

def beginLongButtonPressWait : RecordStore := { s with waitingForLongButtonPress := true }

def endButtonPressWait : RecordStore := { s with waitingForButtonPress := false }

def endLongButtonPressWait : RecordStore := { s with waitingForLongButtonPress := false }

/-- `get_cached_data_block` for a block that is not in the cache. -/
def loadDataBlock (idx : Nat) : RecordStore :=
  { s with
    tables := { s.tables with cacheIdx := some idx }
    blockReadCacheUpdating := true
    request := some (.readCache idx) }

/-- `write_data_block` of the scratch block.  Block 0 is the root block, which goes to the flash
    instead; the write ends in the same way. -/
def writeDataBlock (idx : Nat) : RecordStore :=
  { s with
    tables := { s.tables with
      cacheIdx := if s.tables.cacheIdx = some idx then none else s.tables.cacheIdx }
    request := some (.write idx) }

/-! ### UPDATE_UID -/

/-- `allocate_uid`. -/
def allocateUid (db : DbTables) (d : UpdateUidData) (rev prevBlockNum : Nat) (t : Scratch) :
    UpdateUidResult :=
  match allocateUidTarget db t with
  | (i, none) => .dataLoading i
  | (i, some t) =>
    .success prevBlockNum i (allocateUidBlk K.aes K.encryptKey d.uid d.entry d.sz rev d.iv t)

/-- `update_uid`. -/
def updateUid (db : DbTables) (d : UpdateUidData) : UpdateUidResult :=
  match findUid db d.uid with
  | (i, .dataLoading) => .dataLoading i
  | (_, .invalid) =>
    if d.sz = 0 then .invalid else allocateUid K db d 0 INVALID_BLOCK d.scratch
  | (i, .success index) =>
    if d.sz = 0 then .success INVALID_BLOCK i (deallocateUid db d.uid true d.scratch).2.2
    else
      let rev := (uidTbl db.cache index).rev
      let t := { d.scratch with blkInfo := db.blockInfoTbl i }
      if t.blkInfo.partSize = MAX_PART_SIZE then
        -- the record stays in its block
        let t := (deallocateUid db d.uid false (t.loadPage BLK_SIZE db.cache)).2.2
        .success i i (allocateUidBlk K.aes K.encryptKey d.uid d.entry d.sz rev d.iv t)
      else allocateUid K db d ((rev + 1) % 4) i t

/-- `block->header.crc = block_crc(block)`. -/
def sealBlock (t : Scratch) : Scratch :=
  { t with block := setHeaderCrc t.block (blockCrc P t.block) }

/-- `update_uid_cmd_complete`. -/
def updateUidCmdComplete : RecordStore :=
  let d := s.updateUidData
  let t := if d.scratch.blkInfo.occupied ≠ 0 then sealBlock P d.scratch else d.scratch
  { s with updateUidData := { d with scratch := t } }.writeDataBlock d.blockNum

/-- `update_uid_cmd_iter`. -/
def updateUidCmdIter : RecordStore :=
  match updateUid K s.tables s.updateUidData with
  | .success prevBlockNum blockNum scratch =>
    let s := { s with updateUidData := { s.updateUidData with prevBlockNum, blockNum, scratch } }
    if s.updateUidData.pressType = 0 then s.updateUidCmdComplete P
    else if s.updateUidData.pressType = 1 then s.beginButtonPressWait
    else s.beginLongButtonPressWait
  | .dataLoading idx => s.loadDataBlock idx
  | .invalid => s

/-- `update_uid_cmd`. -/
def updateUidCmd (uid : Nat) (data : Bytes) (sz pressType : Nat) (leftover : Scratch) :
    RecordStore :=
  { s with
    updateUidData :=
      { iv := K.deriveIv uid
        uid, sz
        writeCount := 0
        blockNum := s.updateUidData.blockNum
        prevBlockNum := INVALID_BLOCK
        pressType
        entry := data
        scratch := leftover } }.updateUidCmdIter P K

/-- `g_block_info_tbl[i] = cmd_data.update_uid.blk_info`. -/
def setBlockInfo (i : Nat) : RecordStore :=
  { s with tables := { s.tables with
    blockInfoTbl := Function.update s.tables.blockInfoTbl i s.updateUidData.scratch.blkInfo } }

/-- `uid_map[uid] = i`. -/
def setUidMap (uid i : Nat) : RecordStore :=
  { s with tables := { s.tables with uidMap := Function.update s.tables.uidMap uid i } }

/-- The record is taken out of the block it was in before.  The result of `deallocate_uid` is not
    looked at. -/
def leavePrevBlock : RecordStore :=
  let d := s.updateUidData
  let (status, prevBlockNum, t) := deallocateUid s.tables d.uid true d.scratch
  let s := if status = .dataLoading then s.loadDataBlock prevBlockNum else s
  { s with updateUidData := { d with prevBlockNum, scratch := sealBlock P t } }.writeDataBlock
    prevBlockNum

/-- `update_uid_cmd_write_finished`. -/
def updateUidCmdWriteFinished : RecordStore :=
  let s := { s with updateUidData :=
    { s.updateUidData with writeCount := s.updateUidData.writeCount + 1 } }
  let d := s.updateUidData
  if d.writeCount = 1 then
    let s := s.setBlockInfo d.blockNum
    if d.prevBlockNum ≠ d.blockNum ∧ d.prevBlockNum ≠ INVALID_BLOCK then s.leavePrevBlock P
    else (s.setUidMap d.uid (if d.sz = 0 then INVALID_BLOCK else d.blockNum)).finishCommandResp
      .okay
  else ((s.setBlockInfo d.prevBlockNum).setUidMap d.uid d.blockNum).finishCommandResp .okay

/-! ### READ_UID -/

/-- `decode_uid`. -/
def decodeUid (sz : Nat) (blk : Mem) (info : BlockInfo) (index : Nat) (masked : Bool) (iv : Bytes) :
    Bytes :=
  let blkCount := sizeToSubBlkCount sz
  let dest := cbcDecrypt K.dec blkCount (some iv)
    (blk.read (getPart info index) (blkCount * SUB_BLK_SIZE))
  if masked then Firmware.maskUidData blkCount dest else dest

/-- `read_uid_cmd_complete`. -/
def readUidCmdComplete : RecordStore :=
  let d := s.readUidData
  let sz := (uidTbl s.tables.cache d.index).sz
  match getCachedDataBlock s.tables d.blockNum with
  | none => s.loadDataBlock d.blockNum
  | some blk => s.finishCommand .okay (Mem.bytes16 sz ++
      decodeUid K sz blk (s.tables.blockInfoTbl d.blockNum) d.index d.masked d.iv)

/-- `read_uid_cmd_iter`. -/
def readUidCmdIter : RecordStore :=
  match findUid s.tables s.readUidData.uid with
  | (_, .invalid) => s.finishCommandResp .idInvalid
  | (i, .dataLoading) => s.loadDataBlock i
  | (blockNum, .success index) =>
    let s := { s with readUidData := { s.readUidData with blockNum, index } }
    if s.readUidData.masked then s.readUidCmdComplete K else s.beginButtonPressWait

/-- `read_uid_cmd`. -/
def readUidCmd (uid : Nat) (masked : Bool) : RecordStore :=
  { s with
    readUidData := { s.readUidData with iv := K.deriveIv uid, uid, masked } }.readUidCmdIter K

/-! ### READ_ALL_UIDS -/

/-- The inner loop of `read_all_uids_cmd_iter`: the next uid that is stored, or
    `MAX_UID + 1`. -/
def nextUid (uidMap : Nat → Nat) (uid : Nat) : Nat :=
  ((List.range' uid (MAX_UID + 1 - uid)).find? fun u => uidMap u ≠ INVALID_BLOCK).getD (MAX_UID + 1)

/-- `read_all_uids_cmd_iter`. -/
def readAllUidsCmdIter : RecordStore :=
  let uid := nextUid s.tables.uidMap s.readAllUidsData.uid
  let s := { s with readAllUidsData := { s.readAllUidsData with uid } }
  if uid > MAX_UID then s.finishCommandMulti .idInvalid 0 (Mem.bytes16 uid)
  else
    match findUid s.tables uid with
    | (_, .invalid) => s
    | (i, .dataLoading) => s.loadDataBlock i
    | (i, .success index) =>
      let expectedRemaining := s.readAllUidsData.expectedRemaining - 1
      let s := { s with readAllUidsData := { s.readAllUidsData with expectedRemaining } }
      let sz := (uidTbl s.tables.cache index).sz
      s.finishCommandMulti .okay expectedRemaining (Mem.bytes16 uid ++ Mem.bytes16 sz ++
        decodeUid K sz s.tables.cache (s.tables.blockInfoTbl i) index s.readAllUidsData.masked
          (K.deriveIv uid))

/-- `read_all_uids_cmd_complete`. -/
def readAllUidsCmdComplete : RecordStore :=
  { s with
    readAllUidsData :=
      { s.readAllUidsData with uid := s.readAllUidsData.uid + 1 } }.readAllUidsCmdIter K

/-- `read_all_uids_cmd`. -/
def readAllUidsCmd (masked : Bool) : RecordStore :=
  let expectedRemaining :=
    (List.range' MIN_UID MAX_UID).countP fun u => s.tables.uidMap u ≠ INVALID_BLOCK
  let s := { s with readAllUidsData := ⟨0, expectedRemaining, masked⟩ }
  if masked then s.readAllUidsCmdIter K else s.beginLongButtonPressWait

/-! ### STARTUP -/

/-- `db3_startup_scan`. -/
def db3StartupScan : RecordStore :=
  { s with
    tables := { s.tables with
      uidMap := fun u => if MIN_UID ≤ u ∧ u ≤ MAX_UID then INVALID_BLOCK else s.tables.uidMap u }
    scanBlkNum := MIN_DATA_BLOCK
    request := some (.readScan MIN_DATA_BLOCK) }

/-- `db3_startup_scan_resume`; a block that cannot be scanned stops the device. -/
def db3StartupScanResume : RecordStore :=
  let i := s.scanBlkNum
  match scanBlock P i s.startupBlock (s.tables.blockInfoTbl i) s.tables.uidMap with
  | .error _ => s
  | .ok (info, uidMap) =>
    let s := { s with
      tables := { s.tables with
        blockInfoTbl := Function.update s.tables.blockInfoTbl i info
        uidMap }
      scanBlkNum := i + 1 }
    if s.scanBlkNum ≤ MAX_DATA_BLOCK then { s with request := some (.readScan s.scanBlkNum) }
    else if s.activeCmd = some .startup then
      (s.enterState .loggedOut).finishCommand .okay K.startupResp
    else s

/-- `startup_cmd` with a root page in order. -/
def startupCmd : RecordStore :=
  let s := if s.deviceState ≠ .disconnected then s.endButtonPressWait.endLongButtonPressWait else s
  s.db3StartupScan

/-! ### Packets -/

/-- `logged_in_state`. -/
def loggedInState (p : StorePacket) (leftover : Scratch) : RecordStore :=
  match p.cmd with
  | .readUid =>
    let uid := p.data.get16 0
    if p.dataLen < 3 ∨ uid < MIN_UID ∨ uid > MAX_UID then s.finishCommandResp .invalidInput
    else s.readUidCmd K uid (p.data 2 ≠ 0)
  | .updateUid | .updateUids =>
    match acceptUpdateUid p.data p.dataLen with
    | none => s.finishCommandResp .invalidInput
    | some (uid, sz, data) =>
      let pressType := if p.cmd = .updateUid then 1 else if s.cmdIterCount = 0 then 2 else 0
      s.updateUidCmd P K uid data sz pressType leftover
  | .readAllUids =>
    if p.dataLen < 1 then s.finishCommandResp .invalidInput else s.readAllUidsCmd K (p.data 0 ≠ 0)
  | .logout => (s.enterState .loggedOut).finishCommandResp .okay
  | _ => s.finishCommandResp .invalidState

/-- `restart_signet_command` for a command other than CANCEL_BUTTON_PRESS, when the device is
    owned. -/
def restartSignetCommand (p : StorePacket) (leftover : Scratch) : RecordStore :=
  let s := { s with cmdMessagesRemaining := p.messagesRemaining }
  if s.activeCmd = some .startup then s.startupCmd
  else if p.dataLen > hcLink.cmdPacketPayloadSize then s.finishCommandResp .invalidInput
  else
    let s :=
      if s.deviceState = .loggedIn then s.loggedInState P K p leftover
      else s.finishCommandResp .invalidState
    if p.messagesRemaining ≠ 0 then { s with cmdIterCount := s.cmdIterCount + 1 } else s

/-- `cmd_packet_recv`. -/
def cmdPacketRecv (p : StorePacket) (leftover : Scratch) : RecordStore :=
  let waiting := s.waitingForButtonPress ∨ s.waitingForLongButtonPress
  if p.cmd = .cancelButtonPress then
    if s.activeCmd.isSome then
      if waiting then s.endButtonPressWait.finishCommandResp .buttonPressCanceled else s
    else
      { s with
        cmdIterCount := 0
        cmdMessagesRemaining := p.messagesRemaining
        activeCmd := none }
  else
    let s := if s.activeCmd ≠ some p.cmd then { s with cmdIterCount := 0 } else s
    { s with activeCmd := some p.cmd }.restartSignetCommand P K p leftover

/-! ### Events -/

/-- `button_press`. -/
def buttonPress : RecordStore :=
  if s.waitingForButtonPress then
    let s := s.endButtonPressWait
    match s.activeCmd with
    | some .updateUid => s.updateUidCmdComplete P
    | some .readUid => s.readUidCmdComplete K
    | _ => s
  else s

/-- `long_button_press`. -/
def longButtonPress : RecordStore :=
  if s.waitingForLongButtonPress then
    let s := s.endLongButtonPressWait
    match s.activeCmd with
    | some .readAllUids => s.readAllUidsCmdIter K
    | some .updateUids => s.updateUidCmdComplete P
    | _ => s
  else s

/-- `blink_timeout`. -/
def blinkTimeout : RecordStore :=
  if s.waitingForButtonPress ∨ s.waitingForLongButtonPress then
    s.endButtonPressWait.endLongButtonPressWait.finishCommandResp .buttonPressTimeout
  else s

/-- `cmd_packet_sent`. -/
def cmdPacketSent : RecordStore :=
  if s.sending then
    let s := { s with sending := false }
    if s.activeCmd = some .readAllUids then s.readAllUidsCmdComplete K else s
  else s

/-- The end of `db3_read_block_complete`. -/
def scanReadComplete : RecordStore :=
  if s.activeCmd = some .startup then s.db3StartupScanResume P K else s

/-- `db3_read_block_complete`. -/
def db3ReadBlockComplete : RecordStore :=
  if s.blockReadCacheUpdating then
    let s := { s with blockReadCacheUpdating := false }
    match s.activeCmd with
    | some .updateUid | some .updateUids => s.updateUidCmdIter P K
    | some .readUid => s.readUidCmdIter K
    | some .readAllUids => s.readAllUidsCmdIter K
    | _ => s.scanReadComplete P K
  else s.scanReadComplete P K

/-- A read has completed: the bytes are there. -/
def readComplete : RecordStore :=
  match s.request with
  | some (.readCache idx) =>
    { s with
      request := none
      tables := { s.tables with cache := s.tables.cache.copy 0 (s.blocks idx) 0 BLK_SIZE }
      }.db3ReadBlockComplete P K
  | some (.readScan idx) =>
    { s with
      request := none
      startupBlock := s.startupBlock.copy 0 (s.blocks idx) 0 BLK_SIZE }.db3ReadBlockComplete P K
  | _ => s

/-- `write_block_complete`. -/
def writeBlockComplete : RecordStore :=
  match s.activeCmd with
  | some .updateUid | some .updateUids => s.updateUidCmdWriteFinished P
  | _ => s

/-- The blocks with the scratch block stored. -/
def storeBlock (idx : Nat) : Nat → Mem :=
  Function.update s.blocks idx ((s.blocks idx).copy 0 s.updateUidData.scratch.block 0 BLK_SIZE)

/-- The blocks when the write of the scratch block is cut off. -/
def tearBlock (idx : Nat) (stored : Nat → Bool) : Nat → Mem :=
  Function.update s.blocks idx fun a =>
    if a < BLK_SIZE ∧ stored (a / 512) = true then s.updateUidData.scratch.block a
    else s.blocks idx a

/-- A write has completed: the block is stored. -/
def writeComplete : RecordStore :=
  match s.request with
  | some (.write idx) => { s with request := none, blocks := s.storeBlock idx }.writeBlockComplete P
  | _ => s

/-- The device after power-on, with what its eMMC holds.  The data of commands that are over is
    not looked at again. -/
def powerOn (stored : Nat → Bool) : RecordStore :=
  { s with
    blocks :=
      match s.request with
      | some (.write idx) => s.tearBlock idx stored
      | _ => s.blocks
    tables := ⟨fun _ => ⟨0, 0, 0, 0, 0, 0⟩, fun _ => INVALID_BLOCK, none, fun _ => 0⟩
    blockReadCacheUpdating := false
    request := none
    deviceState := .disconnected
    activeCmd := none
    cmdIterCount := 0
    cmdMessagesRemaining := 0
    waitingForButtonPress := false
    waitingForLongButtonPress := false
    sending := false }

def step (s : RecordStore) : StoreEvent → RecordStore
  | .packet p leftover => s.cmdPacketRecv P K p leftover
  | .login => if s.deviceState = .loggedOut then s.enterState .loggedIn else s
  | .buttonPress => s.buttonPress P K
  | .longButtonPress => s.longButtonPress P K
  | .blinkTimeout => s.blinkTimeout
  | .readComplete => s.readComplete P K
  | .writeComplete => s.writeComplete P
  | .packetSent => s.cmdPacketSent K
  | .powerOn stored => s.powerOn stored

/-! ### A write that is cut off -/

/-- The eMMC has stored all sectors of the block that it was writing. -/
def AllSectors (stored : Nat → Bool) : Prop := ∀ k < BLK_SIZE / 512, stored k = true

/-- It has stored none of them. -/
def NoSector (stored : Nat → Bool) : Prop := ∀ k < BLK_SIZE / 512, stored k = false

theorem tearBlock_all {stored : Nat → Bool} (h : AllSectors stored) (idx : Nat) :
    s.tearBlock idx stored = s.storeBlock idx := by
  unfold tearBlock storeBlock
  congr 1
  funext a
  by_cases ha : a < BLK_SIZE
  · have hsector : a / 512 < BLK_SIZE / 512 := Nat.div_lt_div_of_lt_of_dvd (by decide) ha
    rw [if_pos ⟨ha, h _ hsector⟩, Mem.copy_apply_of_mem _ _ (Nat.zero_le a) (by omega),
      Nat.zero_add, Nat.sub_zero]
  · rw [if_neg fun hboth => ha hboth.1, Mem.copy_apply_of_notMem _ _ (.inr (by omega))]

theorem tearBlock_none {stored : Nat → Bool} (h : NoSector stored) (idx : Nat) :
    s.tearBlock idx stored = s.blocks := by
  unfold tearBlock
  refine (congrArg _ ?_).trans (Function.update_eq_self idx s.blocks)
  funext a
  by_cases ha : a < BLK_SIZE
  · have hsector : a / 512 < BLK_SIZE / 512 := Nat.div_lt_div_of_lt_of_dvd (by decide) ha
    rw [if_neg]
    rintro ⟨-, hstored⟩
    rw [h _ hsector] at hstored
    cases hstored
  · rw [if_neg fun hboth => ha hboth.1]

/-- What is sent in a step. -/
def answers (s : RecordStore) (e : StoreEvent) : List StoreAnswer :=
  (s.step P K e).sent.drop s.sent.length

end RecordStore

end SignetBase.FirmwareHc
