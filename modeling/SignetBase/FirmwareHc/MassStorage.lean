/-
  SignetBase/FirmwareHc/MassStorage.lean
  ======================================
  **The mass-storage side of Signet HC (`usbd_msc_bot.c`, `usbd_msc_scsi.c`,
  `usbd_msc_ops.c` and the eMMC part of `commands.c`).**

  A command arrives in a CBW, READ10 and WRITE10 start a transfer through the buffer
  ring, and every chunk waits for the eMMC, which the database uses too.  The events
  are the completions of the USB endpoints, of the eMMC and of the cipher, and the
  requests of the database.  The block numbers handed to the HAL are kept in a list.
-/
import SignetBase.Common
import SignetBase.Run
import SignetBase.FirmwareHc.BufferFifo
import SignetBase.FirmwareHc.MemoryLayout

namespace SignetBase.FirmwareHc

open Function

/-! ### Volumes -/

def USB_BULK_BUFFER_SIZE : Nat := 16384
def USB_BULK_BUFFER_COUNT : Nat := 4

/-- The first eMMC block behind the database area. -/
def storageFirstBlock : Nat := EMMC_STORAGE_FIRST_BLOCK * (HC_BLOCK_SZ / EMMC_SUB_BLOCK_SZ)

/-- The fields of `struct scsi_volume` that never change. -/
structure ScsiVolume where
  flags : Nat
  regionStart : Nat
  nRegions : Nat

def ScsiVolume.has (v : ScsiVolume) (flag : Nat) : Bool := v.flags &&& flag ≠ 0

/-- The number of blocks of the eMMC (`hmmc1.MmcCard.BlockNbr`), each of 512 bytes, and
    whether the firmware is built with `BOOT_MODE_B`. -/
structure HcBoard where
  blockNbr : Nat
  bootModeB : Bool

namespace HcBoard

variable (B : HcBoard)

/-- `g_scsi_region_size_blocks`. -/
def regionSizeBlocks : Nat := STORAGE_REGION_SIZE / EMMC_SUB_BLOCK_SZ

/-- `g_scsi_num_regions`. -/
def numRegions : Nat :=
  (B.blockNbr + (2 ^ 32 - storageFirstBlock)) % 2 ^ 32 / regionSizeBlocks

/-- `g_scsi_volume` as `usbd_scsi_init` fills it. -/
def volume (lun : Nat) : ScsiVolume :=
  if lun = 0 then
    { flags := HC_VOLUME_FLAG_VALID, regionStart := 0, nRegions := 8192 / 32 }
  else
    { flags := HC_VOLUME_FLAG_VALID ||| HC_VOLUME_FLAG_ENCRYPTED ||| HC_VOLUME_FLAG_HIDDEN |||
        HC_VOLUME_FLAG_VISIBLE_ON_UNLOCK
      regionStart := 8192 / 32
      nRegions := B.numRegions - 8192 / 32 }

/-- `g_num_scsi_volumes`. -/
def numVolumes : Nat := 2

/-- The number of blocks `STORAGE_GetCapacity` reports for a volume. -/
def volumeBlocks (lun : Nat) : Nat := (B.volume lun).nRegions * regionSizeBlocks % 2 ^ 32

end HcBoard

/-! ### State -/

/-- The states of the bulk-only transport. -/
inductive BotState where
  | idle | dataOut | dataIn | lastDataIn | sendData | noData
deriving DecidableEq, Repr

/-- A command block wrapper, with the size of the transfer it came in. -/
structure Cbw where
  rxDataSize : Nat
  dSignature : UInt32
  dDataLength : UInt32
  bmFlags : UInt8
  bLUN : UInt8
  bCBLength : UInt8
  cb : Nat → UInt8

def USBD_BOT_CBW_LENGTH : Nat := 31
def USBD_BOT_CBW_SIGNATURE : UInt32 := 0x43425355

def SCSI_READ_CAPACITY10 : UInt8 := 0x25
def SCSI_READ10 : UInt8 := 0x28
def SCSI_WRITE10 : UInt8 := 0x2A

/-- What the OUT endpoint was last armed for. -/
inductive OutEndpoint where
  | off | cbw | data
deriving DecidableEq, Repr

/-- The functions of the stages. -/
inductive Stage where
  | mmcRead | mmcWrite | usbRead | usbWrite | encrypt | decrypt
deriving DecidableEq, Repr

/-- `enum emmc_user`, without the users of the test mode. -/
inductive EmmcUser where
  | none | storage | db
deriving DecidableEq, Repr

/-- What the eMMC peripheral is doing: a write reports first that its data was sent
    and then that the card is done. -/
inductive MmcPhase where
  | idle | reading | writing | finishing
deriving DecidableEq, Repr

/-- Blocks handed to `HAL_MMC_ReadBlocks_DMA` or `HAL_MMC_WriteBlocks_DMA_Initial` for a
    command on a LUN. -/
structure Issue where
  lun : Nat
  write : Bool
  blockAdd : Nat
  numberOfBlocks : Nat
deriving DecidableEq, Repr

structure Msc where
  visible : Nat → Bool
  writable : Nat → Bool
  botState : BotState
  outEndpoint : OutEndpoint
  cbw : Cbw
  scsiBlkSize : Nat
  scsiBlkNbr : Nat
  scsiBlkLen : Nat
  stageIdx : Nat
  writeLen : Nat
  usbTransmitting : Bool
  mmcStageIdx : Nat
  mmcReadLen : Nat
  mmcBlockAddr : Nat
  mmcDataToTransfer : Int
  cryptStageIdx : Nat
  cryptTxLen : Nat
  cryptDataToTransfer : Int
  scsiNumAesSector : Nat
  crypRunning : Bool
  fifo : BufferFIFO
  processStage : Nat → Stage
  emmcUser : EmmcUser
  emmcReadyDb : Bool
  emmcReadyStorage : Bool
  dbActionWrite : Bool
  mmc : MmcPhase
  issued : List Issue
  failed : Bool

variable (B : HcBoard)

/-- `usbd_scsi_device_state_change`. -/
def usbdScsiDeviceStateChange (state : DeviceState) (s : Msc) : Msc :=
  let unlocked := match state with
    | .loggedOut | .erasingPages | .wiping | .initializing | .uninitialized | .disconnected
    | .restoringDevice | .bootloader => false
    | _ => true
  let changes (flag : Nat) (l : Nat) : Bool :=
    l < HcBoard.numVolumes ∧ (B.volume l).has flag ∧
      (B.volume l).has HC_VOLUME_FLAG_VISIBLE_ON_UNLOCK
  -- `!v->flags & HC_VOLUME_FLAG_VALID` is true of a volume without any flag only
  let invalid (l : Nat) : Bool := l < HcBoard.numVolumes ∧ (B.volume l).flags = 0
  { s with
    writable := fun l => if invalid l then false
      else if changes HC_VOLUME_FLAG_READ_ONLY l then unlocked else s.writable l
    visible := fun l => if invalid l then false
      else if changes HC_VOLUME_FLAG_HIDDEN l then unlocked else s.visible l }

/-- `STORAGE_IsReady`. -/
def storageIsReady (lun : Nat) (s : Msc) : Bool :=
  if lun < HcBoard.numVolumes then
    if B.bootModeB then s.visible lun
    else s.visible lun && !(B.volume lun).has HC_VOLUME_FLAG_ENCRYPTED
  else false

/-- `STORAGE_IsWriteProtected`. -/
def storageIsWriteProtected (lun : Nat) (s : Msc) : Bool :=
  if lun < HcBoard.numVolumes then !s.writable lun else true

/-! ### The eMMC -/

/-- `emmc_user_storage_start`. -/
def emmcUserStorageStart (s : Msc) : Msc :=
  let lun := s.cbw.bLUN.toNat
  let blockAddrAdj := (s.mmcBlockAddr + storageFirstBlock +
    (B.volume lun).regionStart * HcBoard.regionSizeBlocks) % 2 ^ 32
  let n := s.mmcReadLen / 512
  match s.botState with
  | .dataIn => { s with mmc := .reading, issued := ⟨lun, false, blockAddrAdj, n⟩ :: s.issued }
  | .dataOut => { s with mmc := .writing, issued := ⟨lun, true, blockAddrAdj, n⟩ :: s.issued }
  | _ => s

/-- `emmc_user_db_start`, of which only the direction matters here. -/
def emmcUserDbStart (s : Msc) : Msc :=
  { s with mmc := if s.dbActionWrite then .writing else .reading }

/-- `emmc_user_schedule`. -/
def emmcUserSchedule (s : Msc) : Msc :=
  if s.emmcUser = .none then
    if s.emmcReadyDb then emmcUserDbStart { s with emmcUser := .db, emmcReadyDb := false }
    else if s.emmcReadyStorage then
      emmcUserStorageStart B { s with emmcUser := .storage, emmcReadyStorage := false }
    else s
  else s

/-- `emmc_user_done`. -/
def emmcUserDone (s : Msc) : Msc := emmcUserSchedule B { s with emmcUser := .none }

/-- `emmc_user_queue` for the storage user; a failed assertion stops the firmware. -/
def emmcUserQueueStorage (s : Msc) : Msc :=
  if s.emmcReadyStorage then { s with failed := true }
  else emmcUserSchedule B { s with emmcReadyStorage := true }

/-- `emmc_user_queue` for the database. -/
def emmcUserQueueDb (write : Bool) (s : Msc) : Msc :=
  if s.emmcReadyDb then { s with failed := true }
  else emmcUserSchedule B { s with dbActionWrite := write, emmcReadyDb := true }

/-! ### Stages -/

/-- `MSC_BOT_SendCSW`. -/
def mscBotSendCsw (s : Msc) : Msc := { s with botState := .idle, outEndpoint := .cbw }

/-- The function of a stage (`processMMCReadBuffer`, `processMMCWriteBuffer`,
    `processUSBReadBuffer`, `processUSBWriteBuffer`, `processEncryptWriteBuffer`,
    `processDecryptReadBuffer`). -/
def runStage (stage : Stage) (readLen stageIdx : Nat) (s : Msc) : Msc :=
  match stage with
  | .mmcRead =>
    let len := if s.mmcDataToTransfer ≤ s.fifo.maxBufferSize then s.mmcDataToTransfer.toNat
      else s.fifo.maxBufferSize
    emmcUserQueueStorage B { s with mmcStageIdx := stageIdx, mmcReadLen := len }
  | .mmcWrite => emmcUserQueueStorage B { s with mmcStageIdx := stageIdx, mmcReadLen := readLen }
  | .usbRead => { s with usbTransmitting := true, stageIdx, writeLen := readLen }
  | .usbWrite =>
    let len := if s.scsiBlkLen ≤ s.fifo.maxBufferSize then s.scsiBlkLen else s.fifo.maxBufferSize
    { s with stageIdx, writeLen := len, outEndpoint := .data }
  | .encrypt | .decrypt =>
    if readLen % 512 = 0 then
      { s with
        cryptStageIdx := stageIdx, cryptTxLen := readLen, scsiNumAesSector := readLen / 512
        crypRunning := true }
    else { s with failed := true }

/-- `bufferFIFO_execStage`. -/
def execStage (stageIdx : Nat) (s : Msc) : Msc :=
  runStage B (s.processStage stageIdx) (s.fifo.readSize stageIdx) stageIdx
    { s with fifo := s.fifo.beginStage stageIdx }

/-- A stage that is not stalled goes on. -/
def execUnlessStalled (stageIdx : Nat) (s : Msc) : Msc :=
  if s.fifo.stageStalled stageIdx then s else execStage B stageIdx s

/-- `readProcessingComplete` and `writeProcessingComplete`. -/
def transferComplete (s : Msc) : Msc :=
  if s.mmcDataToTransfer = 0 then mscBotSendCsw s else { s with failed := true }

/-- The end of `bufferFIFO_processingComplete`. -/
def completeIfStalled (s : Msc) : Msc :=
  if s.fifo.processing then
    let fifo := s.fifo.skipStalled
    if fifo.stallIndex = fifo.numStages then
      transferComplete { s with fifo := { fifo with processing := false } }
    else { s with fifo }
  else s

/-- `bufferFIFO_processingComplete`. -/
def processingComplete (stageIdx writeLen : Nat) (s : Msc) : Msc :=
  let nextStageIdx := (stageIdx + 1) % s.fifo.numStages
  completeIfStalled (execUnlessStalled B nextStageIdx (execUnlessStalled B stageIdx
    { s with fifo := s.fifo.advance stageIdx writeLen }))

/-- `bufferFIFO_stallStage` when a counter has come to its end. -/
def stallIf (c : Prop) [Decidable c] (stageIdx : Nat) (s : Msc) : Msc :=
  if c then { s with fifo := s.fifo.stallStage stageIdx } else s

/-! ### Completions -/

/-- The common part of `SCSI_ProcessRead` and `SCSI_ProcessWrite`. -/
def scsiProcessed (s : Msc) : Msc :=
  let len := min s.scsiBlkLen s.writeLen
  let s := { s with scsiBlkLen := s.scsiBlkLen - len }
  processingComplete B s.stageIdx len (stallIf (s.scsiBlkLen = 0) s.stageIdx s)

/-- `SCSI_ProcessRead`. -/
def scsiProcessRead (s : Msc) : Msc :=
  if s.usbTransmitting then scsiProcessed B { s with usbTransmitting := false } else s

/-- `SCSI_ProcessWrite`. -/
def scsiProcessWrite (s : Msc) : Msc := scsiProcessed B s

/-- The counters of the eMMC stage after a chunk. -/
def mmcChunkDone (s : Msc) : Msc :=
  { s with
    mmcDataToTransfer := s.mmcDataToTransfer - s.mmcReadLen
    mmcBlockAddr := (s.mmcBlockAddr + s.mmcReadLen / 512) % 2 ^ 32 }

/-- The end of `emmc_user_read_storage_rx_complete`, and
    `emmc_user_write_storage_tx_complete`. -/
def mmcStageDone (s : Msc) : Msc :=
  processingComplete B s.mmcStageIdx s.mmcReadLen
    (emmcUserDone B (stallIf (s.mmcDataToTransfer = 0) s.mmcStageIdx s))

/-- `emmc_user_read_storage_rx_complete`. -/
def emmcUserReadStorageRxComplete (s : Msc) : Msc := mmcStageDone B (mmcChunkDone s)

/-- `usbd_scsi_idle` after the cipher has processed a sector. -/
def usbdScsiIdle (s : Msc) : Msc :=
  let s := { s with scsiNumAesSector := (s.scsiNumAesSector + (2 ^ 32 - 1)) % 2 ^ 32 }
  if s.scsiNumAesSector = 0 then
    let s := { s with
      crypRunning := false
      cryptDataToTransfer := s.cryptDataToTransfer - s.cryptTxLen }
    processingComplete B s.cryptStageIdx s.cryptTxLen
      (stallIf (s.cryptDataToTransfer = 0) s.cryptStageIdx s)
  else s

/-! ### Commands -/

/-- The logical block address of READ10 and WRITE10. -/
def Cbw.lba (c : Cbw) : Nat :=
  (c.cb 2).toNat * 2 ^ 24 + (c.cb 3).toNat * 2 ^ 16 + (c.cb 4).toNat * 2 ^ 8 + (c.cb 5).toNat

/-- Their number of blocks. -/
def Cbw.blocks (c : Cbw) : Nat := (c.cb 7).toNat * 2 ^ 8 + (c.cb 8).toNat

/-- `SCSI_CheckAddressRange`: true when the range is accepted. -/
def scsiCheckAddressRange (blkOffset blkNbr : Nat) (s : Msc) : Bool :=
  ¬ (blkOffset + blkNbr) % 2 ^ 32 > s.scsiBlkNbr

/-- A command that is refused. -/
def scsiRefuse (s : Msc) : Bool × Msc := (false, { s with botState := .noData })

/-- `SCSI_ReadCapacity10`. -/
def scsiReadCapacity10 (lun : Nat) (s : Msc) : Bool × Msc :=
  if lun < HcBoard.numVolumes ∧ s.visible lun then
    (true, { s with
      scsiBlkNbr := B.volumeBlocks lun
      scsiBlkSize := EMMC_SUB_BLOCK_SZ
      botState := .sendData })
  else scsiRefuse s

/-- The start of a transfer: the counters, the stages and the ring. -/
def startTransfer (crypt : Bool) (stages : List Stage) (s : Msc) : Msc :=
  let fifo := { s.fifo with numStages := stages.length }
  let s := { s with
    mmcDataToTransfer := s.scsiBlkLen
    mmcBlockAddr := s.cbw.lba
    cryptDataToTransfer := if crypt then (s.scsiBlkLen : Int) else s.cryptDataToTransfer
    processStage := fun i => stages.getD i (s.processStage i)
    fifo := fifo.start (min s.scsiBlkLen fifo.maxBufferSize) }
  execStage B 0 s

/-- The volume is encrypted by this build. -/
def encrypted (lun : Nat) : Bool := B.bootModeB && (B.volume lun).has HC_VOLUME_FLAG_ENCRYPTED

/-- `SCSI_Read10`. -/
def scsiRead10 (lun : Nat) (s : Msc) : Bool × Msc :=
  if s.botState = .idle then
    if s.cbw.bmFlags &&& 0x80 ≠ 0x80 then scsiRefuse s
    else if ¬ storageIsReady B lun s then scsiRefuse s
    else if ¬ scsiCheckAddressRange s.cbw.lba s.cbw.blocks s then scsiRefuse s
    else
      let s := { s with scsiBlkLen := s.cbw.blocks * s.scsiBlkSize, botState := .dataIn }
      if s.cbw.dDataLength.toNat ≠ s.scsiBlkLen then scsiRefuse s
      else (true, startTransfer B (encrypted B lun)
        (if encrypted B lun then [.mmcRead, .decrypt, .usbRead] else [.mmcRead, .usbRead]) s)
  else (true, scsiProcessRead B s)

/-- `SCSI_Write10`. -/
def scsiWrite10 (lun : Nat) (s : Msc) : Bool × Msc :=
  if s.botState = .idle then
    if s.cbw.bmFlags &&& 0x80 = 0x80 then scsiRefuse s
    else if ¬ storageIsReady B lun s then scsiRefuse s
    else if storageIsWriteProtected lun s then scsiRefuse s
    else if ¬ scsiCheckAddressRange s.cbw.lba s.cbw.blocks s then scsiRefuse
      { s with scsiBlkLen := s.cbw.blocks }
    else
      let s := { s with scsiBlkLen := s.cbw.blocks * s.scsiBlkSize }
      if s.cbw.dDataLength.toNat ≠ s.scsiBlkLen then scsiRefuse s
      else (true, startTransfer B (encrypted B lun)
        (if encrypted B lun then [.usbWrite, .encrypt, .mmcWrite] else [.usbWrite, .mmcWrite])
        { s with botState := .dataOut })
  else (true, scsiProcessWrite B s)

/-- `SCSI_ProcessCmd`; the commands that are not modelled are answered at once and
    change nothing here. -/
def scsiProcessCmd (s : Msc) : Bool × Msc :=
  let lun := s.cbw.bLUN.toNat
  if s.cbw.cb 0 = SCSI_READ_CAPACITY10 then scsiReadCapacity10 B lun s
  else if s.cbw.cb 0 = SCSI_READ10 then scsiRead10 B lun s
  else if s.cbw.cb 0 = SCSI_WRITE10 then scsiWrite10 B lun s
  else (true, s)

/-- `MSC_BOT_CBW_Decode`.  After a malformed CBW the endpoint is armed for the next one. -/
def mscBotCbwDecode (s : Msc) : Msc :=
  if s.cbw.rxDataSize ≠ USBD_BOT_CBW_LENGTH ∨ s.cbw.dSignature ≠ USBD_BOT_CBW_SIGNATURE ∨
      s.cbw.bLUN.toNat ≥ MAX_SCSI_VOLUMES ∨ s.cbw.bCBLength < 1 ∨ s.cbw.bCBLength > 16 then
    { s with outEndpoint := .cbw }
  else
    let (ok, s) := scsiProcessCmd B s
    if ¬ ok then mscBotSendCsw s
    else match s.botState with
      | .dataIn | .dataOut | .lastDataIn | .sendData => s
      | _ => mscBotSendCsw s

/-- `MSC_BOT_DataOut`. -/
def mscBotDataOut (s : Msc) : Msc :=
  match s.botState with
  | .idle => mscBotCbwDecode B s
  | .dataOut =>
    let (ok, s) := scsiProcessCmd B s
    if ok then s else mscBotSendCsw s
  | _ => s

/-- `MSC_BOT_DataIn`. -/
def mscBotDataIn (s : Msc) : Msc :=
  match s.botState with
  | .dataIn =>
    let (ok, s) := scsiProcessCmd B s
    if ok then s else mscBotSendCsw s
  | .sendData | .lastDataIn | .noData => mscBotSendCsw s
  | _ => s

/-! ### Runs -/

inductive MscEvent where
  | cbwReceived (c : Cbw)
  | dataReceived
  | dataSent
  | mmcRxCplt
  | mmcTxDmaCplt
  | mmcTxCplt
  | crypOutCplt
  | dbRequest (write : Bool)
  | deviceState (state : DeviceState)

/-- One event; a completion needs something that was started, and a firmware whose
    assertion has failed does nothing more. -/
def mscStep (s : Msc) (e : MscEvent) : Msc :=
  if s.failed then s
  else
    match e with
    | .cbwReceived c =>
      if s.outEndpoint = .cbw then mscBotDataOut B { s with cbw := c, outEndpoint := .off } else s
    | .dataReceived =>
      if s.outEndpoint = .data then mscBotDataOut B { s with outEndpoint := .off } else s
    | .dataSent => mscBotDataIn B s
    | .mmcRxCplt =>
      if s.mmc = .reading then
        match s.emmcUser with
        | .storage => emmcUserReadStorageRxComplete B { s with mmc := .idle }
        | .db => emmcUserDone B { s with mmc := .idle }
        | .none => { s with failed := true }
      else s
    | .mmcTxDmaCplt =>
      if s.mmc = .writing then
        match s.emmcUser with
        | .storage => mmcChunkDone { s with mmc := .finishing }
        | .db => { s with mmc := .finishing }
        | .none => { s with failed := true }
      else s
    | .mmcTxCplt =>
      if s.mmc = .finishing then
        match s.emmcUser with
        | .storage => mmcStageDone B { s with mmc := .idle }
        | .db => emmcUserDone B { s with mmc := .idle }
        | .none => { s with failed := true }
      else s
    | .crypOutCplt => if s.crypRunning then usbdScsiIdle B s else s
    | .dbRequest write => emmcUserQueueDb B write s
    | .deviceState state => usbdScsiDeviceStateChange B state s

/-- The state after `usbd_scsi_init` and `MSC_BOT_Init`: a `static` object is zero, and
    `usbBulkBufferFIFO` has its buffers. -/
def mscInit : Msc where
  visible := fun l => l = 0
  writable := fun l => l < HcBoard.numVolumes
  botState := .idle
  outEndpoint := .cbw
  cbw := ⟨0, 0, 0, 0, 0, 0, fun _ => 0⟩
  scsiBlkSize := 0
  scsiBlkNbr := 0
  scsiBlkLen := 0
  stageIdx := 0
  writeLen := 0
  usbTransmitting := false
  mmcStageIdx := 0
  mmcReadLen := 0
  mmcBlockAddr := 2 ^ 32 - 1
  mmcDataToTransfer := 0
  cryptStageIdx := 0
  cryptTxLen := 0
  cryptDataToTransfer := 0
  scsiNumAesSector := 0
  crypRunning := false
  fifo :=
    { maxBufferSize := USB_BULK_BUFFER_SIZE
      bufferCount := USB_BULK_BUFFER_COUNT
      numStages := 0
      bufferSize := fun _ => 0
      stageWriteIndex := fun _ => 0
      stageReadIndex := fun _ => 0
      stalled := fun _ => false
      stageProcessing := fun _ => false
      processing := false
      stallIndex := 0 }
  processStage := fun _ => .usbRead
  emmcUser := .none
  emmcReadyDb := false
  emmcReadyStorage := false
  dbActionWrite := false
  mmc := .idle
  issued := []
  failed := false

/-- The runs whose steps all satisfy `ok`. -/
abbrev MscRun (ok : Msc → MscEvent → Prop) := Run (· = mscInit) (mscStep B) ok

end SignetBase.FirmwareHc
