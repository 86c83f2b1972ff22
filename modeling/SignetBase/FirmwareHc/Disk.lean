/-
  SignetBase/FirmwareHc/Disk.lean
  ===============================
  **The data of the mass-storage side of Signet HC: buffers, cipher and eMMC.**

  `MassStorage.lean` says when the stages of a transfer run.  Here the same functions
  move bytes: the buffers of the ring, the pointers that the stages are given, the
  sector counter and the IV of the cipher, and the bytes of the eMMC.  A DMA transfer has
  its effect when its completion is handled.  The bytes the host sends or is sent for a
  command are collected, and every call of `processingComplete` is kept in a list.

  `diskStep_msc` says that this is `MassStorage.lean` with data.
-/
import SignetBase.Memory
import SignetBase.Cbc
import SignetBase.FirmwareHc.MassStorage

namespace SignetBase.FirmwareHc

/-! ### The cipher -/

def DEVICE_ID_LEN : Nat := 16

/-- `root_page.db_format`: `derive_iv` stops the firmware on any other. -/
inductive DbFormat where
  | current | format2
deriving DecidableEq, Repr

/-- One key and one root page: AES under `g_encrypt_key`, and what `derive_iv` uses of
    `root_page` (whose format is `ROOT_BLOCK_FORMAT_CURRENT`). -/
structure DiskKey where
  enc : Bytes → Bytes
  dec : Bytes → Bytes
  deviceId : Bytes
  dbFormat : DbFormat

namespace DiskKey

variable (K : DiskKey)

/-- `derive_iv`. -/
def deriveIv (id : Nat) : Bytes :=
  let iv := Mem.write (fun _ => 0) 0 (K.deviceId.take DEVICE_ID_LEN)
  let id := match K.dbFormat with
    | .current => id
    | .format2 => id % 2 ^ 8
  (iv.put32 (AES_BLK_SIZE - 4) (iv.get32 (AES_BLK_SIZE - 4) + id)).read 0 AES_BLK_SIZE

/-- The CRYP peripheral on one sector. -/
def cryp (encrypt : Bool) (iv sector : Bytes) : Bytes :=
  if encrypt then cbcEncrypt K.enc (512 / AES_BLK_SIZE) (some iv) sector
  else cbcDecrypt K.dec (512 / AES_BLK_SIZE) (some iv) sector

end DiskKey

/-! ### State -/

/-- A call of `processingComplete`: the command, the bytes that went over the bus for it
    and `mmcDataToTransfer`. -/
structure Completed where
  lun : Nat
  write : Bool
  lba : Nat
  blocks : Nat
  data : Bytes
  left : Int

/-- `Msc` with the data.  The buffers of the ring are one object, and pointers into it are
    offsets; the bytes of the eMMC are numbered through. -/
structure Disk where
  msc : Msc
  bufferStorage : Mem
  card : Mem
  writeBuffer : Nat
  mmcBufferRead : Nat
  mmcBufferWrite : Nat
  halBuffer : Nat
  curAesSector : Nat
  curAesIv : Bytes
  aesRead : Nat
  aesWrite : Nat
  aesEncrypt : Bool
  moved : Bytes
  log : List Completed

namespace Disk

variable (B : HcBoard) (K : DiskKey) (d : Disk)

/-! ### Stages -/

/-- The buffer `emmc_user_storage_start` hands to the HAL. -/
def mmcBuffer : Nat := if d.msc.botState = .dataIn then d.mmcBufferRead else d.mmcBufferWrite

/-- A function that may start the eMMC: the HAL is given the buffer along with the blocks. -/
def control (f : Msc → Msc) : Disk :=
  { d with
    msc := f d.msc
    halBuffer := if (f d.msc).issued = d.msc.issued then d.halBuffer else d.mmcBuffer }

/-- `set_crypt_config`. -/
def setCryptConfig : Disk := { d with curAesIv := K.deriveIv d.curAesSector }

/-- What the functions of the stages do with the buffers they are given. -/
def setBuffers (stage : Stage) (bufferRead bufferWrite : Nat) : Disk :=
  match stage with
  | .mmcRead => { d with mmcBufferRead := bufferWrite }
  | .mmcWrite => { d with mmcBufferWrite := bufferRead }
  | .usbRead | .usbWrite => { d with writeBuffer := bufferWrite }
  | .encrypt => setCryptConfig K
      { d with aesRead := bufferRead, aesWrite := bufferWrite, aesEncrypt := true }
  | .decrypt => setCryptConfig K
      { d with aesRead := bufferRead, aesWrite := bufferWrite, aesEncrypt := false }

/-- The place of a buffer in `bufferStorage`. -/
def bufferAt (index : Nat) : Nat := d.msc.fifo.maxBufferSize * (index % d.msc.fifo.bufferCount)

/-- `bufferFIFO_execStage`. -/
def execStage (stageIdx : Nat) : Disk :=
  ({ d with msc := { d.msc with fifo := d.msc.fifo.beginStage stageIdx } }.setBuffers K
    (d.msc.processStage stageIdx) (d.bufferAt (d.msc.fifo.stageReadIndex stageIdx))
    (d.bufferAt (d.msc.fifo.stageWriteIndex stageIdx))).control
    (runStage B (d.msc.processStage stageIdx) (d.msc.fifo.readSize stageIdx) stageIdx)

/-- A stage that is not stalled goes on. -/
def execUnlessStalled (stageIdx : Nat) : Disk :=
  if d.msc.fifo.stageStalled stageIdx then d else d.execStage B K stageIdx

/-- The command that is carried out, for the list. -/
def completed : Completed where
  lun := d.msc.cbw.bLUN.toNat
  write := d.msc.botState = .dataOut
  lba := d.msc.cbw.lba
  blocks := d.msc.cbw.blocks
  data := d.moved
  left := d.msc.mmcDataToTransfer

/-- The end of `bufferFIFO_processingComplete`: `readProcessingComplete` or
    `writeProcessingComplete` is called when all stages are done. -/
def completeIfStalled : Disk :=
  { d with
    msc := FirmwareHc.completeIfStalled d.msc
    log := if d.msc.fifo.processing ∧ d.msc.fifo.skipStalled.stallIndex = d.msc.fifo.numStages
      then d.completed :: d.log else d.log }

/-- `bufferFIFO_processingComplete`. -/
def processingComplete (stageIdx writeLen : Nat) : Disk :=
  let nextStageIdx := (stageIdx + 1) % d.msc.fifo.numStages
  ((({ d with msc := { d.msc with fifo := d.msc.fifo.advance stageIdx writeLen } }
    : Disk).execUnlessStalled B K stageIdx).execUnlessStalled B K nextStageIdx).completeIfStalled

/-! ### Completions -/

/-- The common part of `SCSI_ProcessRead` and `SCSI_ProcessWrite`. -/
def scsiProcessed : Disk :=
  let len := min d.msc.scsiBlkLen d.msc.writeLen
  let d := { d with msc := { d.msc with scsiBlkLen := d.msc.scsiBlkLen - len } }
  { d with msc := stallIf (d.msc.scsiBlkLen = 0) d.msc.stageIdx d.msc }.processingComplete B K
    d.msc.stageIdx len

/-- `SCSI_ProcessRead`; by now the host has the bytes. -/
def scsiProcessRead : Disk :=
  if d.msc.usbTransmitting then
    scsiProcessed B K { d with
      msc := { d.msc with usbTransmitting := false }
      moved := d.moved ++ d.bufferStorage.read d.writeBuffer d.msc.writeLen }
  else d

/-- `SCSI_ProcessWrite`. -/
def scsiProcessWrite : Disk := scsiProcessed B K d

/-- `emmc_user_done` and `bufferFIFO_processingComplete` for the stage of the eMMC. -/
def mmcStageDone : Disk :=
  (({ d with msc := stallIf (d.msc.mmcDataToTransfer = 0) d.msc.mmcStageIdx d.msc } : Disk).control
    (emmcUserDone B)).processingComplete B K d.msc.mmcStageIdx d.msc.mmcReadLen

/-- The blocks that were handed to the HAL last. -/
def lastIssue : Issue := d.msc.issued.headD ⟨0, false, 0, 0⟩

/-- The DMA of a read has stored its blocks in the buffer. -/
def mmcRead : Disk :=
  { d with
    bufferStorage := d.bufferStorage.write d.halBuffer
      (d.card.read (d.lastIssue.blockAdd * 512) (d.lastIssue.numberOfBlocks * 512)) }

/-- The DMA of a write has stored the buffer in its blocks. -/
def mmcWrite : Disk :=
  { d with
    card := d.card.write (d.lastIssue.blockAdd * 512)
      (d.bufferStorage.read d.halBuffer (d.lastIssue.numberOfBlocks * 512)) }

/-- `emmc_user_read_storage_rx_complete`. -/
def emmcUserReadStorageRxComplete : Disk :=
  mmcStageDone B K { d with msc := mmcChunkDone d.msc }

/-- The cipher has processed a sector. -/
def cryp : Disk :=
  { d with
    bufferStorage := d.bufferStorage.write d.aesWrite
      (K.cryp d.aesEncrypt d.curAesIv (d.bufferStorage.read d.aesRead 512)) }

/-- The counters and pointers after a sector. -/
def nextSector : Disk :=
  { d with
    msc := { d.msc with scsiNumAesSector := (d.msc.scsiNumAesSector + (2 ^ 32 - 1)) % 2 ^ 32 }
    curAesSector := (d.curAesSector + 1) % 2 ^ 32
    aesRead := d.aesRead + 512
    aesWrite := d.aesWrite + 512 }

/-- The end of a chunk of the cipher. -/
def crypChunkDone : Disk :=
  { d with
    msc := { d.msc with
      crypRunning := false
      cryptDataToTransfer := d.msc.cryptDataToTransfer - d.msc.cryptTxLen } }

/-- `usbd_scsi_idle`. -/
def usbdScsiIdle : Disk :=
  let d := d.nextSector
  if d.msc.scsiNumAesSector = 0 then
    let d := d.crypChunkDone
    { d with
      msc := stallIf (d.msc.cryptDataToTransfer = 0) d.msc.cryptStageIdx d.msc }.processingComplete
      B K d.msc.cryptStageIdx d.msc.cryptTxLen
  else setCryptConfig K d

/-! ### Commands -/

/-- A command that is refused. -/
def scsiRefuse : Bool × Disk := (false, { d with msc := { d.msc with botState := .noData } })

/-- The counters, the stages and the ring of a transfer; only with `crypt` is the sector
    counter set. -/
def prepareTransfer (crypt : Bool) (stages : List Stage) : Disk :=
  let s := d.msc
  let fifo := { s.fifo with numStages := stages.length }
  { d with
    msc := { s with
      mmcDataToTransfer := s.scsiBlkLen
      mmcBlockAddr := s.cbw.lba
      cryptDataToTransfer := if crypt then (s.scsiBlkLen : Int) else s.cryptDataToTransfer
      processStage := fun i => stages.getD i (s.processStage i)
      fifo := fifo.start (min s.scsiBlkLen fifo.maxBufferSize) }
    curAesSector := if crypt then s.cbw.lba else d.curAesSector
    moved := [] }

/-- The start of a transfer. -/
def startTransfer (crypt : Bool) (stages : List Stage) : Disk :=
  (d.prepareTransfer crypt stages).execStage B K 0

/-- `SCSI_Read10`. -/
def scsiRead10 (lun : Nat) : Bool × Disk :=
  let s := d.msc
  if s.botState = .idle then
    if s.cbw.bmFlags &&& 0x80 ≠ 0x80 then d.scsiRefuse
    else if ¬ storageIsReady B lun s then d.scsiRefuse
    else if ¬ scsiCheckAddressRange s.cbw.lba s.cbw.blocks s then d.scsiRefuse
    else
      let s := { s with scsiBlkLen := s.cbw.blocks * s.scsiBlkSize, botState := .dataIn }
      let d := { d with msc := s }
      if s.cbw.dDataLength.toNat ≠ s.scsiBlkLen then d.scsiRefuse
      else (true, d.startTransfer B K (encrypted B lun)
        (if encrypted B lun then [.mmcRead, .decrypt, .usbRead] else [.mmcRead, .usbRead]))
  else (true, d.scsiProcessRead B K)

/-- `SCSI_Write10`. -/
def scsiWrite10 (lun : Nat) : Bool × Disk :=
  let s := d.msc
  if s.botState = .idle then
    if s.cbw.bmFlags &&& 0x80 = 0x80 then d.scsiRefuse
    else if ¬ storageIsReady B lun s then d.scsiRefuse
    else if storageIsWriteProtected lun s then d.scsiRefuse
    else if ¬ scsiCheckAddressRange s.cbw.lba s.cbw.blocks s then
      scsiRefuse { d with msc := { s with scsiBlkLen := s.cbw.blocks } }
    else
      let s := { s with scsiBlkLen := s.cbw.blocks * s.scsiBlkSize }
      if s.cbw.dDataLength.toNat ≠ s.scsiBlkLen then scsiRefuse { d with msc := s }
      else (true, { d with msc := { s with botState := .dataOut } }.startTransfer B K
        (encrypted B lun)
        (if encrypted B lun then [.usbWrite, .encrypt, .mmcWrite] else [.usbWrite, .mmcWrite]))
  else (true, d.scsiProcessWrite B K)

/-- `SCSI_ProcessCmd`. -/
def scsiProcessCmd : Bool × Disk :=
  let lun := d.msc.cbw.bLUN.toNat
  if d.msc.cbw.cb 0 = SCSI_READ_CAPACITY10 then
    let (ok, msc) := scsiReadCapacity10 B lun d.msc
    (ok, { d with msc })
  else if d.msc.cbw.cb 0 = SCSI_READ10 then d.scsiRead10 B K lun
  else if d.msc.cbw.cb 0 = SCSI_WRITE10 then d.scsiWrite10 B K lun
  else (true, d)

/-- `MSC_BOT_SendCSW`. -/
def sendCsw : Disk := { d with msc := mscBotSendCsw d.msc }

/-- `MSC_BOT_CBW_Decode`. -/
def mscBotCbwDecode : Disk :=
  let c := d.msc.cbw
  if c.rxDataSize ≠ USBD_BOT_CBW_LENGTH ∨ c.dSignature ≠ USBD_BOT_CBW_SIGNATURE ∨
      c.bLUN.toNat ≥ MAX_SCSI_VOLUMES ∨ c.bCBLength < 1 ∨ c.bCBLength > 16 then
    { d with msc := { d.msc with outEndpoint := .cbw } }
  else
    let (ok, d) := d.scsiProcessCmd B K
    if ¬ ok then d.sendCsw
    else match d.msc.botState with
      | .dataIn | .dataOut | .lastDataIn | .sendData => d
      | _ => d.sendCsw

/-- `MSC_BOT_DataOut`. -/
def mscBotDataOut : Disk :=
  match d.msc.botState with
  | .idle => d.mscBotCbwDecode B K
  | .dataOut =>
    let (ok, d) := d.scsiProcessCmd B K
    if ok then d else d.sendCsw
  | _ => d

/-- `MSC_BOT_DataIn`. -/
def mscBotDataIn : Disk :=
  match d.msc.botState with
  | .dataIn =>
    let (ok, d) := d.scsiProcessCmd B K
    if ok then d else d.sendCsw
  | .sendData | .lastDataIn | .noData => d.sendCsw
  | _ => d

/-! ### Steps -/

/-- The events of `MscEvent` with their data: what the host sends, and which block the
    database has written with what. -/
inductive DiskEvent where
  | cbwReceived (c : Cbw)
  | dataReceived (data : Bytes)
  | dataSent
  | mmcRxCplt
  | mmcTxDmaCplt (idx : Nat) (src : Bytes)
  | mmcTxCplt
  | crypOutCplt
  | dbRequest (write : Bool)
  | deviceState (state : DeviceState)

def DiskEvent.control : DiskEvent → MscEvent
  | .cbwReceived c => .cbwReceived c
  | .dataReceived _ => .dataReceived
  | .dataSent => .dataSent
  | .mmcRxCplt => .mmcRxCplt
  | .mmcTxDmaCplt _ _ => .mmcTxDmaCplt
  | .mmcTxCplt => .mmcTxCplt
  | .crypOutCplt => .crypOutCplt
  | .dbRequest write => .dbRequest write
  | .deviceState state => .deviceState state

/-- Where the database has block `idx`. -/
def dbBlockAddr (idx : Nat) : Nat :=
  (idx - MIN_DATA_BLOCK + EMMC_DB_FIRST_BLOCK) * (HC_BLOCK_SZ / EMMC_SUB_BLOCK_SZ)

/-- A state whose assertion has failed. -/
def fail : Disk := { d with msc := { d.msc with failed := true } }

/-- One event. -/
def diskStep (d : Disk) (e : DiskEvent) : Disk :=
  if d.msc.failed then d
  else
    match e with
    | .cbwReceived c =>
      if d.msc.outEndpoint = .cbw then
        { d with msc := { d.msc with cbw := c, outEndpoint := .off } }.mscBotDataOut B K
      else d
    | .dataReceived data =>
      if d.msc.outEndpoint = .data then
        { d with
          msc := { d.msc with outEndpoint := .off }
          bufferStorage := d.bufferStorage.write d.writeBuffer data
          moved := d.moved ++ data }.mscBotDataOut B K
      else d
    | .dataSent => d.mscBotDataIn B K
    | .mmcRxCplt =>
      if d.msc.mmc = .reading then
        match d.msc.emmcUser with
        | .storage => { d.mmcRead with
            msc := { d.msc with mmc := .idle } }.emmcUserReadStorageRxComplete B K
        | .db => { d with msc := { d.msc with mmc := .idle } }.control (emmcUserDone B)
        | .none => d.fail
      else d
    | .mmcTxDmaCplt idx src =>
      if d.msc.mmc = .writing then
        match d.msc.emmcUser with
        | .storage => { d.mmcWrite with msc := mmcChunkDone { d.msc with mmc := .finishing } }
        | .db => { d with
            msc := { d.msc with mmc := .finishing }
            card := d.card.write (dbBlockAddr idx * 512) src }
        | .none => d.fail
      else d
    | .mmcTxCplt =>
      if d.msc.mmc = .finishing then
        match d.msc.emmcUser with
        | .storage => { d with msc := { d.msc with mmc := .idle } }.mmcStageDone B K
        | .db => { d with msc := { d.msc with mmc := .idle } }.control (emmcUserDone B)
        | .none => d.fail
      else d
    | .crypOutCplt => if d.msc.crypRunning then (cryp K d).usbdScsiIdle B K else d
    | .dbRequest write => d.control (emmcUserQueueDb B write)
    | .deviceState state => { d with msc := usbdScsiDeviceStateChange B state d.msc }

/-- The start, with any bytes on the eMMC and in memory. -/
def diskInit (card bufferStorage : Mem) : Disk where
  msc := mscInit
  bufferStorage := bufferStorage
  card := card
  writeBuffer := 0
  mmcBufferRead := 0
  mmcBufferWrite := 0
  halBuffer := 0
  curAesSector := 0
  curAesIv := []
  aesRead := 0
  aesWrite := 0
  aesEncrypt := false
  moved := []
  log := []

/-! ### The control part -/

variable {B K d}

theorem setBuffers_msc (stage : Stage) (bufferRead bufferWrite : Nat) :
    (d.setBuffers K stage bufferRead bufferWrite).msc = d.msc := by
  cases stage <;> rfl

theorem execStage_msc (i : Nat) :
    (d.execStage B K i).msc = FirmwareHc.execStage B i d.msc := by
  unfold execStage control
  rw [setBuffers_msc]
  rfl

theorem execUnlessStalled_msc (i : Nat) :
    (d.execUnlessStalled B K i).msc = FirmwareHc.execUnlessStalled B i d.msc := by
  unfold execUnlessStalled FirmwareHc.execUnlessStalled
  split
  · rfl
  · exact execStage_msc i

theorem processingComplete_msc (i writeLen : Nat) :
    (d.processingComplete B K i writeLen).msc =
      FirmwareHc.processingComplete B i writeLen d.msc := by
  unfold processingComplete completeIfStalled
  dsimp only
  rw [execUnlessStalled_msc, execUnlessStalled_msc]
  rfl

theorem scsiProcessed_msc : (d.scsiProcessed B K).msc = FirmwareHc.scsiProcessed B d.msc := by
  unfold scsiProcessed
  rw [processingComplete_msc]
  rfl

theorem scsiProcessRead_msc : (d.scsiProcessRead B K).msc = FirmwareHc.scsiProcessRead B d.msc := by
  unfold scsiProcessRead FirmwareHc.scsiProcessRead
  split
  · exact scsiProcessed_msc
  · rfl

theorem mmcStageDone_msc : (d.mmcStageDone B K).msc = FirmwareHc.mmcStageDone B d.msc := by
  unfold mmcStageDone
  rw [processingComplete_msc]
  rfl

theorem usbdScsiIdle_msc : (d.usbdScsiIdle B K).msc = FirmwareHc.usbdScsiIdle B d.msc := by
  unfold usbdScsiIdle
  refine (apply_ite Disk.msc _ _ _).trans ?_
  rw [processingComplete_msc]
  rfl

/-- The result of a command, without the data. -/
def result (r : Bool × Disk) : Bool × Msc := (r.1, r.2.msc)

theorem scsiRead10_msc (lun : Nat) :
    result (d.scsiRead10 B K lun) = FirmwareHc.scsiRead10 B lun d.msc := by
  unfold scsiRead10 FirmwareHc.scsiRead10
  dsimp only
  split_ifs
  all_goals first
    | rfl
    | exact Prod.ext rfl (startTransfer_msc _ _)
    | exact Prod.ext rfl scsiProcessRead_msc

theorem scsiWrite10_msc (lun : Nat) :
    result (d.scsiWrite10 B K lun) = FirmwareHc.scsiWrite10 B lun d.msc := by
  unfold scsiWrite10 FirmwareHc.scsiWrite10
  dsimp only
  split_ifs
  all_goals first
    | rfl
    | exact Prod.ext rfl (startTransfer_msc _ _)
    | exact Prod.ext rfl scsiProcessed_msc

theorem scsiProcessCmd_msc :
    result (d.scsiProcessCmd B K) = FirmwareHc.scsiProcessCmd B d.msc := by
  unfold scsiProcessCmd FirmwareHc.scsiProcessCmd
  dsimp only
  split
  · rfl
  · split
    · exact scsiRead10_msc _
    · split
      · exact scsiWrite10_msc _
      · rfl

theorem mscBotCbwDecode_msc :
    (d.mscBotCbwDecode B K).msc = FirmwareHc.mscBotCbwDecode B d.msc := by
  unfold mscBotCbwDecode FirmwareHc.mscBotCbwDecode
  dsimp only
  split
  · rfl
  · rw [← scsiProcessCmd_msc (K := K)]
    generalize d.scsiProcessCmd B K = r
    obtain ⟨ok, d'⟩ := r
    dsimp only [result]
    cases ok with
    | false => rfl
    | true =>
      simp only [not_true_eq_false, if_false]
      cases d'.msc.botState <;> rfl

theorem mscBotDataOut_msc : (d.mscBotDataOut B K).msc = FirmwareHc.mscBotDataOut B d.msc := by
  unfold mscBotDataOut FirmwareHc.mscBotDataOut
  rw [← scsiProcessCmd_msc (K := K)]
  cases d.msc.botState with
  | idle => exact mscBotCbwDecode_msc
  | dataOut =>
    generalize d.scsiProcessCmd B K = r
    obtain ⟨ok, d'⟩ := r
    cases ok <;> rfl
  | _ => rfl

theorem mscBotDataIn_msc : (d.mscBotDataIn B K).msc = FirmwareHc.mscBotDataIn B d.msc := by
  unfold mscBotDataIn FirmwareHc.mscBotDataIn
  rw [← scsiProcessCmd_msc (K := K)]
  cases d.msc.botState with
  | dataIn =>
    generalize d.scsiProcessCmd B K = r
    obtain ⟨ok, d'⟩ := r
    cases ok <;> rfl
  | _ => rfl

/-- **The data do not change the control.** -/
theorem diskStep_msc (d : Disk) (e : DiskEvent) :
    (diskStep B K d e).msc = mscStep B d.msc e.control := by
  unfold diskStep mscStep fail
  split
  · rfl
  · cases e with
    | cbwReceived c =>
      dsimp only [DiskEvent.control]
      split
      · exact mscBotDataOut_msc
      · rfl
    | dataReceived data =>
      dsimp only [DiskEvent.control]
      split
      · exact mscBotDataOut_msc
      · rfl
    | dataSent => exact mscBotDataIn_msc
    | mmcRxCplt =>
      dsimp only [DiskEvent.control]
      split
      · cases d.msc.emmcUser with
        | storage => exact mmcStageDone_msc
        | db => rfl
        | none => rfl
      · rfl
    | mmcTxDmaCplt idx src =>
      dsimp only [DiskEvent.control]
      split
      · cases d.msc.emmcUser <;> rfl
      · rfl
    | mmcTxCplt =>
      dsimp only [DiskEvent.control]
      split
      · cases d.msc.emmcUser with
        | storage => exact mmcStageDone_msc
        | db => rfl
        | none => rfl
      · rfl
    | crypOutCplt =>
      dsimp only [DiskEvent.control]
      split
      · exact usbdScsiIdle_msc
      · rfl
    | _ => rfl

end Disk

end SignetBase.FirmwareHc
