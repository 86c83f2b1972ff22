/-
  SignetBase/FirmwareHc/VolumeIsolation.lean
  ==========================================
  **A transfer on one volume stays in it.**

  A command that was accepted for a range of its own volume reads and writes that
  range only, however its chunks, the cipher, the database and the completions are
  interleaved: the block address and the number of bytes left always add up to the
  end of the range (`Remaining`), and a chunk that waits for the eMMC is never longer
  than what is left (`Queued`).  For a write the chunk comes through the buffer ring,
  so that its length rests on the ring (`Chunks`).

  The range check compares with the capacity that was asked for last, of whichever
  volume, and adds two 32-bit numbers, so that it does accept other ranges.
-/
import SignetBase.FirmwareHc.MassStorage
import Mathlib.Data.List.TakeWhile

namespace SignetBase.FirmwareHc

open Function

variable (B : HcBoard)

/-! ### Volumes on the card -/

/-- The card is large enough for both volumes, and its blocks are numbered with 32 bits. -/
structure HcBoard.Large : Prop where
  volumes : storageFirstBlock + (8192 / 32 + 1) * HcBoard.regionSizeBlocks ≤ B.blockNbr
  addressable : B.blockNbr < 2 ^ 32

/-- The first block of a volume. -/
def HcBoard.volumeFirst (lun : Nat) : Nat :=
  storageFirstBlock + (B.volume lun).regionStart * HcBoard.regionSizeBlocks

/-- The block behind a volume. -/
def HcBoard.volumeEnd (lun : Nat) : Nat :=
  B.volumeFirst lun + (B.volume lun).nRegions * HcBoard.regionSizeBlocks

/-- Every sector of the transfer lies in the volume of its command. -/
def HcBoard.InVolume (t : Issue) : Prop :=
  ∀ k < t.numberOfBlocks, B.volumeFirst t.lun ≤ t.blockAdd + k ∧ t.blockAdd + k < B.volumeEnd t.lun

variable {B}

theorem storageFirstBlock_eq : storageFirstBlock = 34080 := by decide

theorem regionSizeBlocks_eq : HcBoard.regionSizeBlocks = 65536 := by decide

theorem HcBoard.Large.volumeEnd_le (hB : B.Large) (lun : Nat) : B.volumeEnd lun ≤ B.blockNbr := by
  obtain ⟨hvol, haddr⟩ := hB
  rw [storageFirstBlock_eq, regionSizeBlocks_eq] at hvol
  have hregions : B.numRegions * 65536 ≤ B.blockNbr - 34080 := by
    unfold HcBoard.numRegions
    rw [storageFirstBlock_eq, regionSizeBlocks_eq]
    omega
  unfold HcBoard.volumeEnd HcBoard.volumeFirst HcBoard.volume
  rw [storageFirstBlock_eq, regionSizeBlocks_eq]
  split
  · simp only
    omega
  · have hmin : 257 ≤ B.numRegions := by
      unfold HcBoard.numRegions
      rw [storageFirstBlock_eq, regionSizeBlocks_eq]
      omega
    simp only
    omega

/-- The reported capacity is the size of the volume. -/
theorem HcBoard.Large.volumeBlocks_eq (hB : B.Large) (lun : Nat) :
    B.volumeBlocks lun = (B.volume lun).nRegions * HcBoard.regionSizeBlocks := by
  have hend := hB.volumeEnd_le lun
  have haddr := hB.addressable
  unfold HcBoard.volumeEnd at hend
  exact Nat.mod_eq_of_lt (by omega)

/-! ### The rest of a transfer -/

variable (B) in
/-- `data` bytes are left, from block `addr` to block `stop` of the volume. -/
structure Remaining (lun addr : Nat) (data : Int) (stop : Nat) : Prop where
  addr_lt : addr < 2 ^ 32
  nonneg : 0 ≤ data
  sector : 512 ∣ data
  sum : (addr : Int) * 512 + data = stop * 512
  stop_le : 0 < data → stop ≤ B.volumeBlocks lun

variable {lun addr stop len : Nat} {data : Int}

/-- A chunk of what is left lies in the volume. -/
theorem Remaining.inVolume (hB : B.Large) (h : Remaining B lun addr data stop)
    (hlen : (len : Int) ≤ data) (write : Bool) :
    B.InVolume ⟨lun, write, (addr + storageFirstBlock +
      (B.volume lun).regionStart * HcBoard.regionSizeBlocks) % 2 ^ 32, len / 512⟩ := by
  intro k hk
  simp only at hk
  have hsum := h.sum
  have hpos : 0 < data := by omega
  have hstop := h.stop_le hpos
  rw [hB.volumeBlocks_eq] at hstop
  have hend := hB.volumeEnd_le lun
  have haddr := hB.addressable
  unfold HcBoard.volumeEnd HcBoard.volumeFirst at *
  generalize (B.volume lun).regionStart * HcBoard.regionSizeBlocks = first at *
  generalize (B.volume lun).nRegions * HcBoard.regionSizeBlocks = size at *
  have hmod : (addr + storageFirstBlock + first) % 2 ^ 32 = addr + storageFirstBlock + first := by
    apply Nat.mod_eq_of_lt
    omega
  simp only [hmod]
  omega

/-- A chunk has been transferred. -/
theorem Remaining.chunkDone (h : Remaining B lun addr data stop) (hlen : (len : Int) ≤ data)
    (hdvd : 512 ∣ len) :
    Remaining B lun ((addr + len / 512) % 2 ^ 32) (data - len) stop := by
  obtain ⟨haddr, hnonneg, hsector, hsum, hstop⟩ := h
  have hvol : B.volumeBlocks lun < 2 ^ 32 := Nat.mod_lt _ (by decide)
  have hmod : (addr + len / 512) % 2 ^ 32 = addr + len / 512 := by
    apply Nat.mod_eq_of_lt
    by_cases hpos : 0 < data
    · have := hstop hpos
      omega
    · have : len = 0 := by omega
      omega
  refine ⟨?_, by omega, by omega, ?_, fun hpos => hstop (by omega)⟩
  · exact Nat.mod_lt _ (by decide)
  · rw [hmod]
    omega

/-! ### The invariant -/

/-- A chunk that waits for the eMMC or is being transferred is one of the eMMC stage,
    and not longer than what is left. -/
structure Queued (botState : BotState) (ready : Bool) (user : EmmcUser) (mmc : MmcPhase)
    (processing : Bool) (mmcStageIdx mmcStage mmcReadLen : Nat) (data : Int) : Prop where
  busy : ready = true ∨ user = .storage → processing = true ∧ mmcStageIdx = mmcStage
  chunk : ready = true ∨ user = .storage ∧ mmc ≠ .finishing →
    (mmcReadLen : Int) ≤ data ∧ 512 ∣ mmcReadLen
  excl : ready = true → user ≠ .storage
  phase : user = .storage →
    if botState = .dataIn then mmc = .reading else mmc = .writing ∨ mmc = .finishing

/-- The USB endpoints are armed for the transfer only. -/
structure Endpoints (botState : BotState) (outEndpoint : OutEndpoint) (usbTransmitting : Bool)
    (stageIdx : Nat) (bf : BufferFIFO) : Prop where
  out : outEndpoint ≠ .cbw
  receiving : outEndpoint = .data → botState = .dataOut ∧ bf.stageProcessing 0 = true
  sending : usbTransmitting = true → botState = .dataIn ∧
    bf.stageProcessing (bf.numStages - 1) = true ∧ stageIdx = bf.numStages - 1

/-- A running cipher is the one of the middle stage. -/
def Ciphering (crypRunning : Bool) (cryptStageIdx : Nat) (bf : BufferFIFO) : Prop :=
  crypRunning = true → bf.numStages = 3 ∧ bf.stageProcessing 1 = true ∧ cryptStageIdx = 1

/-- The stages before `stallIndex` are done. -/
def StagesDone (bf : BufferFIFO) : Prop :=
  ∀ i < bf.stallIndex, bf.stalled i = true ∧ bf.stageProcessing i = false

/-- The chunks of a write of `total` bytes on their way through the ring.  `lag` is 1
    while the chunk of the eMMC stage is counted but not passed on. -/
structure Chunks (bf : BufferFIFO) (total lag scsiBlkLen writeLen stageIdx cryptTxLen
    mmcReadLen : Nat) (data : Int) (count : Nat → Nat) : Prop where
  sector : 512 ∣ total
  ring : bf.Ring (BufferFIFO.chunk USB_BULK_BUFFER_SIZE total) count
  received : scsiBlkLen = total - count 0 * USB_BULK_BUFFER_SIZE
  written : data = (total - (count (bf.numStages - 1) + lag) * USB_BULK_BUFFER_SIZE : Nat)
  usb : bf.stageProcessing 0 = true → stageIdx = 0 ∧
    writeLen = BufferFIFO.chunk USB_BULK_BUFFER_SIZE total (count 0)
  crypt : bf.numStages = 3 → bf.stageProcessing 1 = true →
    cryptTxLen = BufferFIFO.chunk USB_BULK_BUFFER_SIZE total (count 1)
  mmc : bf.stageProcessing (bf.numStages - 1) = true →
    mmcReadLen = BufferFIFO.chunk USB_BULK_BUFFER_SIZE total (count (bf.numStages - 1))

/-- The stages of a transfer. -/
inductive Layout : BotState → Nat → (Nat → Stage) → Prop where
  | read {p : Nat → Stage} : p 0 = .mmcRead → p 1 = .usbRead → Layout .dataIn 2 p
  | readDecrypt {p : Nat → Stage} :
      p 0 = .mmcRead → p 1 = .decrypt → p 2 = .usbRead → Layout .dataIn 3 p
  | write {p : Nat → Stage} : p 0 = .usbWrite → p 1 = .mmcWrite → Layout .dataOut 2 p
  | writeEncrypt {p : Nat → Stage} :
      p 0 = .usbWrite → p 1 = .encrypt → p 2 = .mmcWrite → Layout .dataOut 3 p

/-- The stage that works with the eMMC. -/
def mmcStage (botState : BotState) (numStages : Nat) : Nat :=
  if botState = .dataIn then 0 else numStages - 1

/-- The chunk of the eMMC stage is counted but not passed on. -/
def mmcLag (user : EmmcUser) (mmc : MmcPhase) : Nat :=
  if user = .storage ∧ mmc = .finishing then 1 else 0

/-- The command that is being carried out. -/
def transferOpcode (botState : BotState) (opcode : UInt8) : Prop :=
  opcode = if botState = .dataIn then SCSI_READ10 else SCSI_WRITE10

variable (B) in
/-- What always holds. -/
structure Steady (s : Msc) : Prop where
  inVolume : ∀ t ∈ s.issued, B.InVolume t
  blkSize : s.scsiBlkSize = 0 ∨ s.scsiBlkSize = 512
  maxBufferSize : s.fifo.maxBufferSize = USB_BULK_BUFFER_SIZE
  bufferCount : s.fifo.bufferCount = USB_BULK_BUFFER_COUNT

variable (B) in
/-- A transfer is in progress; the eMMC stage lags behind by `lag` chunks. -/
structure Transferring (s : Msc) (stop lag : Nat) : Prop extends Steady B s where
  layout : Layout s.botState s.fifo.numStages s.processStage
  opcode : transferOpcode s.botState (s.cbw.cb 0)
  remaining : Remaining B s.cbw.bLUN.toNat s.mmcBlockAddr s.mmcDataToTransfer stop
  queued : Queued s.botState s.emmcReadyStorage s.emmcUser s.mmc
    (s.fifo.stageProcessing (mmcStage s.botState s.fifo.numStages)) s.mmcStageIdx
    (mmcStage s.botState s.fifo.numStages) s.mmcReadLen s.mmcDataToTransfer
  endpoints : Endpoints s.botState s.outEndpoint s.usbTransmitting s.stageIdx s.fifo
  ciphering : Ciphering s.crypRunning s.cryptStageIdx s.fifo
  done : StagesDone s.fifo
  chunks : s.botState = .dataOut → ∃ total count, Chunks s.fifo total lag s.scsiBlkLen s.writeLen
    s.stageIdx s.cryptTxLen s.mmcReadLen s.mmcDataToTransfer count

variable (B) in
/-- A transfer is in progress, between two events. -/
def Moving (s : Msc) (stop : Nat) : Prop := Transferring B s stop (mmcLag s.emmcUser s.mmc)

variable (B) in
/-- No transfer is in progress. -/
structure Resting (s : Msc) : Prop extends Steady B s where
  state : s.botState ≠ .dataIn ∧ s.botState ≠ .dataOut
  ready : s.emmcReadyStorage = false
  user : s.emmcUser ≠ .storage
  out : s.outEndpoint ≠ .data
  sending : s.usbTransmitting = false
  ciphering : s.crypRunning = false

variable {s : Msc} {lag i : Nat}

theorem Layout.two_le {botState : BotState} {n : Nat} {p : Nat → Stage} (h : Layout botState n p) :
    2 ≤ n ∧ n ≤ 3 := by
  cases h <;> omega

theorem Layout.dir {botState : BotState} {n : Nat} {p : Nat → Stage} (h : Layout botState n p) :
    botState = .dataIn ∨ botState = .dataOut := by
  cases h <;> simp

theorem mmcStage_lt {botState : BotState} {n : Nat} (h : 2 ≤ n) : mmcStage botState n < n := by
  unfold mmcStage
  split <;> omega

/-! ### Scheduling the eMMC -/

theorem mmcLag_of_ne {user : EmmcUser} (h : user ≠ .storage) (mmc : MmcPhase) :
    mmcLag user mmc = 0 := if_neg fun hc => h hc.1

theorem mmcLag_of_phase {mmc : MmcPhase} (user : EmmcUser) (h : mmc ≠ .finishing) :
    mmcLag user mmc = 0 := if_neg fun hc => h hc.2

/-- The chunk that `emmc_user_storage_start` hands to the HAL. -/
def mmcIssue (s : Msc) : Issue where
  lun := s.cbw.bLUN.toNat
  write := s.botState = .dataOut
  blockAdd := (s.mmcBlockAddr + storageFirstBlock +
    (B.volume s.cbw.bLUN.toNat).regionStart * HcBoard.regionSizeBlocks) % 2 ^ 32
  numberOfBlocks := s.mmcReadLen / 512

theorem emmcUserStorageStart_eq (h : s.botState = .dataIn ∨ s.botState = .dataOut) :
    emmcUserStorageStart B s =
      { s with
        mmc := if s.botState = .dataIn then .reading else .writing
        issued := mmcIssue (B := B) s :: s.issued } := by
  unfold emmcUserStorageStart mmcIssue
  rcases h with h | h <;> simp [h]

/-- The eMMC starts the chunk that waits, or a database request, or nothing. -/
theorem Moving.schedule (hB : B.Large) (h : Moving B s stop) :
    Moving B (emmcUserSchedule B s) stop := by
  unfold emmcUserSchedule
  split
  · rename_i huser
    unfold Moving at h
    rw [mmcLag_of_ne (by simp [huser])] at h
    obtain ⟨⟨hvol, hsize, hmax, hcount⟩, hlay, hop, hrem, hq, hend, hciph, hdone, hchunks⟩ := h
    split
    · refine ⟨⟨hvol, hsize, hmax, hcount⟩, hlay, hop, hrem, ?_, hend, hciph, hdone, hchunks⟩
      refine ⟨?_, ?_, ?_, ?_⟩
      · rintro (hr | hu)
        · exact hq.busy (.inl hr)
        · cases hu
      · rintro (hr | ⟨hu, -⟩)
        · exact hq.chunk (.inl hr)
        · cases hu
      · intro _ hu
        cases hu
      · intro hu
        cases hu
    · split
      · rename_i hready
        obtain ⟨hlen, hdvd⟩ := hq.chunk (.inl hready)
        rw [emmcUserStorageStart_eq (by exact hlay.dir)]
        have hlag : mmcLag .storage (if s.botState = .dataIn then MmcPhase.reading else .writing) =
            0 := by
          apply mmcLag_of_phase
          split <;> simp
        unfold Moving
        simp only
        rw [hlag]
        refine ⟨⟨?_, hsize, hmax, hcount⟩, hlay, hop, hrem, ?_, hend, hciph, hdone, hchunks⟩
        · intro t ht
          rcases List.mem_cons.mp ht with rfl | ht
          · exact hrem.inVolume hB hlen _
          · exact hvol t ht
        · refine ⟨fun _ => hq.busy (.inl hready), fun _ => ⟨hlen, hdvd⟩, ?_, ?_⟩
          · intro hr
            cases hr
          · intro _
            rcases hlay.dir with hdir | hdir
            · simp [hdir]
            · simp [hdir]
      · have hne : s.emmcUser ≠ .storage := by simp [huser]
        rw [← mmcLag_of_ne hne s.mmc] at hchunks
        exact ⟨⟨hvol, hsize, hmax, hcount⟩, hlay, hop, hrem, hq, hend, hciph, hdone, hchunks⟩
  · exact h

/-- Without a chunk that waits, giving the eMMC back can only start a request of the
    database. -/
theorem emmcUserDone_of_not_ready (h : s.emmcReadyStorage = false) :
    ∃ user ready mmc, user ≠ EmmcUser.storage ∧
      emmcUserDone B s = { s with emmcUser := user, emmcReadyDb := ready, mmc := mmc } := by
  unfold emmcUserDone emmcUserSchedule
  simp only [if_true, h]
  split
  · exact ⟨_, _, _, by simp, rfl⟩
  · exact ⟨.none, s.emmcReadyDb, s.mmc, by simp, rfl⟩

/-! ### Stages -/

/-- A chunk that is neither waiting nor being transferred can be queued. -/
theorem Moving.queueStorage (hB : B.Large) (h : Moving B s stop)
    (hready : s.emmcReadyStorage = false) (huser : s.emmcUser ≠ .storage)
    (hproc : s.fifo.stageProcessing (mmcStage s.botState s.fifo.numStages) = true)
    (hidx : s.mmcStageIdx = mmcStage s.botState s.fifo.numStages)
    (hlen : (s.mmcReadLen : Int) ≤ s.mmcDataToTransfer) (hdvd : 512 ∣ s.mmcReadLen) :
    Moving B (emmcUserQueueStorage B s) stop := by
  unfold emmcUserQueueStorage
  rw [hready]
  simp only [Bool.false_eq_true, if_false]
  apply Moving.schedule hB
  obtain ⟨⟨hvol, hsize, hmax, hcount⟩, hlay, hop, hrem, hq, hend, hciph, hdone, hchunks⟩ := h
  refine ⟨⟨hvol, hsize, hmax, hcount⟩, hlay, hop, hrem, ?_, hend, hciph, hdone, hchunks⟩
  refine ⟨fun _ => ⟨hproc, hidx⟩, fun _ => ⟨hlen, hdvd⟩, fun _ => huser, ?_⟩
  intro hu
  exact absurd hu huser

theorem StagesDone.beginStage {bf : BufferFIFO} (h : StagesDone bf)
    (hs : bf.stageStalled i = false) : StagesDone (bf.beginStage i) := by
  intro j hj
  have hj' := h j hj
  have hne : j ≠ i := by
    rintro rfl
    unfold BufferFIFO.stageStalled at hs
    rw [hj'.1] at hs
    simp at hs
  exact ⟨hj'.1, by simpa [BufferFIFO.beginStage, update_of_ne hne] using hj'.2⟩

theorem processing_beginStage {bf : BufferFIFO} {j : Nat} (h : bf.stageProcessing j = true) :
    (bf.beginStage i).stageProcessing j = true := by
  by_cases hj : j = i
  · subst hj
    simp [BufferFIFO.beginStage]
  · simpa [BufferFIFO.beginStage, update_of_ne hj] using h

theorem processing_of_beginStage {bf : BufferFIFO} {j : Nat} (hne : j ≠ i)
    (h : (bf.beginStage i).stageProcessing j = true) : bf.stageProcessing j = true := by
  simpa [BufferFIFO.beginStage, update_of_ne hne] using h

theorem not_processing_of_not_stalled {bf : BufferFIFO} (hs : bf.stageStalled i = false) :
    bf.stageProcessing i = false := by
  unfold BufferFIFO.stageStalled at hs
  split at hs
  · cases hs
  · rename_i h
    simp only [Bool.or_eq_true, not_or, Bool.not_eq_true] at h
    exact h.1

/-- Without processing there is no chunk that waits or is being transferred. -/
theorem Queued.free {botState : BotState} {ready processing : Bool} {user : EmmcUser}
    {mmc : MmcPhase} {mmcStageIdx stage mmcReadLen : Nat}
    (h : Queued botState ready user mmc processing mmcStageIdx stage mmcReadLen data)
    (hp : processing = false) : ready = false ∧ user ≠ .storage := by
  constructor
  · cases hr : ready with
    | false => rfl
    | true =>
      have := (h.busy (.inl hr)).1
      rw [hp] at this
      cases this
  · intro hu
    have := (h.busy (.inr hu)).1
    rw [hp] at this
    cases this

/-- While a chunk is being transferred no other one waits. -/
theorem Queued.not_ready {botState : BotState} {ready processing : Bool} {user : EmmcUser}
    {mmc : MmcPhase} {mmcStageIdx stage mmcReadLen : Nat}
    (h : Queued botState ready user mmc processing mmcStageIdx stage mmcReadLen data)
    (huser : user = .storage) : ready = false := by
  cases hr : ready with
  | false => rfl
  | true => exact absurd huser (h.excl hr)

theorem queued_of_free {botState : BotState} {ready processing : Bool} {user : EmmcUser}
    {mmc : MmcPhase} {mmcStageIdx stage mmcReadLen : Nat} (hready : ready = false)
    (huser : user ≠ .storage) :
    Queued botState ready user mmc processing mmcStageIdx stage mmcReadLen data := by
  refine ⟨?_, ?_, fun _ => huser, fun hu => absurd hu huser⟩
  · rintro (hr | hu)
    · simp [hready] at hr
    · exact absurd hu huser
  · rintro (hr | ⟨hu, -⟩)
    · simp [hready] at hr
    · exact absurd hu huser

theorem Queued.beginStage {botState : BotState} {ready : Bool} {user : EmmcUser} {mmc : MmcPhase}
    {bf : BufferFIFO} {mmcStageIdx stage mmcReadLen : Nat}
    (h : Queued botState ready user mmc (bf.stageProcessing stage) mmcStageIdx stage mmcReadLen data)
    (i : Nat) : Queued botState ready user mmc ((bf.beginStage i).stageProcessing stage) mmcStageIdx
      stage mmcReadLen data := by
  refine ⟨?_, h.chunk, h.excl, h.phase⟩
  intro hb
  exact ⟨processing_beginStage (h.busy hb).1, (h.busy hb).2⟩

theorem Ciphering.beginStage {crypRunning : Bool} {cryptStageIdx : Nat} {bf : BufferFIFO}
    (h : Ciphering crypRunning cryptStageIdx bf) (i : Nat) :
    Ciphering crypRunning cryptStageIdx (bf.beginStage i) := by
  intro hr
  obtain ⟨hn, hp, hidx⟩ := h hr
  exact ⟨hn, processing_beginStage hp, hidx⟩

theorem Endpoints.beginStage {botState : BotState} {outEndpoint : OutEndpoint}
    {usbTransmitting : Bool} {stageIdx : Nat} {bf : BufferFIFO}
    (h : Endpoints botState outEndpoint usbTransmitting stageIdx bf) (i : Nat) :
    Endpoints botState outEndpoint usbTransmitting stageIdx (bf.beginStage i) := by
  refine ⟨h.out, ?_, ?_⟩
  · intro hr
    exact ⟨(h.receiving hr).1, processing_beginStage (h.receiving hr).2⟩
  · intro hr
    obtain ⟨hd, hp, hidx⟩ := h.sending hr
    exact ⟨hd, processing_beginStage hp, hidx⟩

/-- The length of a chunk is a whole number of sectors. -/
theorem dvd_chunk {total k : Nat} (h : 512 ∣ total) :
    512 ∣ BufferFIFO.chunk USB_BULK_BUFFER_SIZE total k := by
  unfold BufferFIFO.chunk
  simp only [USB_BULK_BUFFER_SIZE]
  omega

/-- The stage that receives from the host. -/
theorem Moving.execUsbWrite (h : Moving B s stop) (hdir : s.botState = .dataOut)
    (hp : s.processStage 0 = .usbWrite) (hs : s.fifo.stageStalled 0 = false) :
    Moving B (execStage B 0 s) stop := by
  obtain ⟨⟨hvol, hsize, hmax, hcount⟩, hlay, hop, hrem, hq, hend, hciph, hdone, hchunks⟩ := h
  have hn := hlay.two_le
  unfold execStage runStage
  rw [hp]
  refine ⟨⟨hvol, hsize, hmax, hcount⟩, hlay, hop, hrem, hq.beginStage 0, ?_, hciph.beginStage 0,
    hdone.beginStage hs, ?_⟩
  · refine ⟨by simp, fun _ => ⟨hdir, by simp [BufferFIFO.beginStage]⟩, ?_⟩
    intro hr
    have := (hend.sending hr).1
    rw [hdir] at this
    cases this
  · intro _
    obtain ⟨total, count, hc⟩ := hchunks hdir
    obtain ⟨hsec, hring, hrecv, hwritten, -, hcrypt, hmmc⟩ := hc
    refine ⟨total, count, hsec, hring.beginStage (by omega) hs, hrecv, hwritten, ?_, ?_, ?_⟩
    · intro _
      refine ⟨rfl, ?_⟩
      simp only [BufferFIFO.beginStage, hmax, hrecv, BufferFIFO.chunk]
      split <;> omega
    · intro hn3 hproc
      exact hcrypt hn3 (processing_of_beginStage (by omega) hproc)
    · intro hproc
      exact hmmc (processing_of_beginStage (by omega) hproc)

/-- The stage that sends to the host. -/
theorem Moving.execUsbRead (h : Moving B s stop) (hdir : s.botState = .dataIn)
    (hidx : i = s.fifo.numStages - 1) (hp : s.processStage i = .usbRead)
    (hs : s.fifo.stageStalled i = false) : Moving B (execStage B i s) stop := by
  obtain ⟨⟨hvol, hsize, hmax, hcount⟩, hlay, hop, hrem, hq, hend, hciph, hdone, hchunks⟩ := h
  unfold execStage runStage
  rw [hp]
  refine ⟨⟨hvol, hsize, hmax, hcount⟩, hlay, hop, hrem, hq.beginStage i, ?_, hciph.beginStage i,
    hdone.beginStage hs, ?_⟩
  · refine ⟨hend.out, ?_, fun _ => ⟨hdir, ?_, hidx⟩⟩
    · intro hr
      have := (hend.receiving hr).1
      rw [hdir] at this
      cases this
    · change (s.fifo.beginStage i).stageProcessing (s.fifo.numStages - 1) = true
      rw [← hidx]
      simp [BufferFIFO.beginStage]
  · intro hout
    rw [hdir] at hout
    cases hout

/-- The cipher stage. -/
theorem Moving.execCrypt (h : Moving B s stop) (hn : s.fifo.numStages = 3)
    (hp : s.processStage 1 = .encrypt ∨ s.processStage 1 = .decrypt)
    (hs : s.fifo.stageStalled 1 = false) : Moving B (execStage B 1 s) stop := by
  have hrun : execStage B 1 s =
      if s.fifo.readSize 1 % 512 = 0 then
        { s with
          fifo := s.fifo.beginStage 1, cryptStageIdx := 1, cryptTxLen := s.fifo.readSize 1
          scsiNumAesSector := s.fifo.readSize 1 / 512, crypRunning := true }
      else { s with fifo := s.fifo.beginStage 1, failed := true } := by
    unfold execStage runStage
    rcases hp with hp | hp <;> rw [hp]
  obtain ⟨⟨hvol, hsize, hmax, hcount⟩, hlay, hop, hrem, hq, hend, hciph, hdone, hchunks⟩ := h
  -- for a write, the ring gives the size of the chunk
  have hread : s.botState = .dataOut → ∃ total count, Chunks s.fifo total
      (mmcLag s.emmcUser s.mmc) s.scsiBlkLen s.writeLen s.stageIdx s.cryptTxLen s.mmcReadLen
        s.mmcDataToTransfer count ∧
      s.fifo.readSize 1 = BufferFIFO.chunk USB_BULK_BUFFER_SIZE total (count 1) := by
    intro hout
    obtain ⟨total, count, hc⟩ := hchunks hout
    have hcan := hc.ring.canAdvance_of_not_stalled (by omega) hs
    exact ⟨total, count, hc, hc.ring.readSize_succ (by omega) hcan⟩
  rw [hrun]
  split
  · refine ⟨⟨hvol, hsize, hmax, hcount⟩, hlay, hop, hrem, hq.beginStage 1, hend.beginStage 1, ?_,
      hdone.beginStage hs, ?_⟩
    · intro _
      exact ⟨hn, by simp [BufferFIFO.beginStage], rfl⟩
    · intro hout
      obtain ⟨total, count, hc, hlen⟩ := hread hout
      obtain ⟨hsec, hring, hrecv, hwritten, husb, -, hmmc⟩ := hc
      refine ⟨total, count, hsec, hring.beginStage (by omega) hs, hrecv, hwritten, ?_, ?_, ?_⟩
      · intro hproc
        exact husb (processing_of_beginStage (by omega) hproc)
      · intro _ _
        exact hlen
      · intro hproc
        exact hmmc (processing_of_beginStage (by omega) hproc)
  · rename_i hmod
    refine ⟨⟨hvol, hsize, hmax, hcount⟩, hlay, hop, hrem, hq.beginStage 1, hend.beginStage 1,
      hciph.beginStage 1, hdone.beginStage hs, ?_⟩
    intro hout
    obtain ⟨total, count, hc, hlen⟩ := hread hout
    have hdvd := dvd_chunk (k := count 1) hc.sector
    omega

/-- The stage that reads from the eMMC. -/
theorem Moving.execMmcRead (hB : B.Large) (h : Moving B s stop) (hdir : s.botState = .dataIn)
    (hp : s.processStage 0 = .mmcRead) (hs : s.fifo.stageStalled 0 = false) :
    Moving B (execStage B 0 s) stop := by
  obtain ⟨⟨hvol, hsize, hmax, hcount⟩, hlay, hop, hrem, hq, hend, hciph, hdone, hchunks⟩ := h
  have hstage : mmcStage s.botState s.fifo.numStages = 0 := if_pos hdir
  have hfree := hq.free (by rw [hstage]; exact not_processing_of_not_stalled hs)
  unfold execStage runStage
  rw [hp]
  simp only
  generalize hl : (if s.mmcDataToTransfer ≤ ((s.fifo.beginStage 0).maxBufferSize : Int) then
    s.mmcDataToTransfer.toNat else (s.fifo.beginStage 0).maxBufferSize) = len
  have hnonneg := hrem.nonneg
  have hsector := hrem.sector
  have hmax' : (s.fifo.beginStage 0).maxBufferSize = 16384 := hmax
  rw [hmax'] at hl
  apply Moving.queueStorage hB
  · refine ⟨⟨hvol, hsize, hmax, hcount⟩, hlay, hop, hrem, ?_, hend.beginStage 0, hciph.beginStage 0,
      hdone.beginStage hs, ?_⟩
    · exact queued_of_free hfree.1 hfree.2
    · intro hout
      rw [hdir] at hout
      cases hout
  · exact hfree.1
  · exact hfree.2
  · change (s.fifo.beginStage 0).stageProcessing (mmcStage s.botState s.fifo.numStages) = true
    rw [hstage]
    simp [BufferFIFO.beginStage]
  · exact hstage.symm
  · simp only
    split at hl <;> omega
  · simp only
    split at hl <;> omega

/-- The stage that writes to the eMMC. -/
theorem Moving.execMmcWrite (hB : B.Large) (h : Moving B s stop) (hdir : s.botState = .dataOut)
    (hidx : i + 1 = s.fifo.numStages - 1) (hp : s.processStage (i + 1) = .mmcWrite)
    (hs : s.fifo.stageStalled (i + 1) = false) : Moving B (execStage B (i + 1) s) stop := by
  obtain ⟨⟨hvol, hsize, hmax, hcount⟩, hlay, hop, hrem, hq, hend, hciph, hdone, hchunks⟩ := h
  have hn := hlay.two_le
  have hstage : mmcStage s.botState s.fifo.numStages = i + 1 := by
    unfold mmcStage
    rw [if_neg (by simp [hdir]), hidx]
  have hfree := hq.free (by rw [hstage]; exact not_processing_of_not_stalled hs)
  obtain ⟨total, count, hsec, hring, hrecv, hwritten, husb, hcrypt, -⟩ := hchunks hdir
  rw [mmcLag_of_ne hfree.2, Nat.add_zero] at hwritten
  have hcan := hring.canAdvance_of_not_stalled (by omega) hs
  have hlen : s.fifo.readSize (i + 1) =
      BufferFIFO.chunk USB_BULK_BUFFER_SIZE total (count (i + 1)) :=
    hring.readSize_succ (by omega) hcan
  unfold execStage runStage
  rw [hp]
  apply Moving.queueStorage hB
  · refine ⟨⟨hvol, hsize, hmax, hcount⟩, hlay, hop, hrem, ?_, hend.beginStage _,
      hciph.beginStage _, hdone.beginStage hs, ?_⟩
    · exact queued_of_free hfree.1 hfree.2
    · intro _
      refine ⟨total, count, hsec, hring.beginStage (by omega) hs, hrecv, ?_, ?_, ?_, ?_⟩
      · rw [mmcLag_of_ne hfree.2]
        exact hwritten
      · intro hproc
        exact husb (processing_of_beginStage (by omega) hproc)
      · intro hn3 hproc
        change s.fifo.numStages = 3 at hn3
        exact hcrypt hn3 (processing_of_beginStage (by omega) hproc)
      · intro _
        change s.fifo.readSize (i + 1) = _
        rw [hlen, hidx]
        rfl
  · exact hfree.1
  · exact hfree.2
  · change (s.fifo.beginStage (i + 1)).stageProcessing (mmcStage s.botState s.fifo.numStages) = true
    rw [hstage]
    simp [BufferFIFO.beginStage]
  · exact hstage.symm
  · simp only
    rw [hlen, hwritten, hidx]
    unfold BufferFIFO.chunk
    omega
  · simp only
    rw [hlen]
    exact dvd_chunk hsec

/-- **A stage that is not stalled may go on.** -/
theorem Moving.execStage (hB : B.Large) (h : Moving B s stop) (hi : i < s.fifo.numStages)
    (hs : s.fifo.stageStalled i = false) : Moving B (execStage B i s) stop := by
  have hlay := h.layout
  generalize hbot : s.botState = botState at hlay
  generalize hnum : s.fifo.numStages = n at hlay
  generalize hstages : s.processStage = p at hlay
  cases hlay with
  | read h0 h1 =>
    obtain rfl | rfl : i = 0 ∨ i = 1 := by omega
    · exact h.execMmcRead hB hbot (by rw [hstages, h0]) hs
    · exact h.execUsbRead hbot (by omega) (by rw [hstages, h1]) hs
  | readDecrypt h0 h1 h2 =>
    obtain rfl | rfl | rfl : i = 0 ∨ i = 1 ∨ i = 2 := by omega
    · exact h.execMmcRead hB hbot (by rw [hstages, h0]) hs
    · exact h.execCrypt hnum (.inr (by rw [hstages, h1])) hs
    · exact h.execUsbRead hbot (by omega) (by rw [hstages, h2]) hs
  | write h0 h1 =>
    obtain rfl | rfl : i = 0 ∨ i = 1 := by omega
    · exact h.execUsbWrite hbot (by rw [hstages, h0]) hs
    · exact h.execMmcWrite hB hbot (by omega) (by rw [hstages, h1]) hs
  | writeEncrypt h0 h1 h2 =>
    obtain rfl | rfl | rfl : i = 0 ∨ i = 1 ∨ i = 2 := by omega
    · exact h.execUsbWrite hbot (by rw [hstages, h0]) hs
    · exact h.execCrypt hnum (.inl (by rw [hstages, h1])) hs
    · exact h.execMmcWrite hB hbot (by omega) (by rw [hstages, h2]) hs

theorem Moving.execUnlessStalled (hB : B.Large) (h : Moving B s stop) (hi : i < s.fifo.numStages) :
    Moving B (execUnlessStalled B i s) stop := by
  unfold FirmwareHc.execUnlessStalled
  split
  · exact h
  · rename_i hs
    exact h.execStage hB hi (Bool.eq_false_iff.mpr hs)

theorem numStages_schedule (s : Msc) : (emmcUserSchedule B s).fifo = s.fifo := by
  unfold emmcUserSchedule emmcUserDbStart emmcUserStorageStart
  split
  · split
    · rfl
    · split
      · split <;> rfl
      · rfl
  · rfl

theorem numStages_execUnlessStalled (i : Nat) (s : Msc) :
    (FirmwareHc.execUnlessStalled B i s).fifo.numStages = s.fifo.numStages := by
  unfold FirmwareHc.execUnlessStalled execStage runStage emmcUserQueueStorage
  split
  · rfl
  · split
    · simp only
      split
      · rfl
      · rw [numStages_schedule]
        rfl
    · split
      · rfl
      · rw [numStages_schedule]
        rfl
    · rfl
    · rfl
    · split <;> rfl
    · split <;> rfl

/-! ### The end of a transfer -/

theorem StagesDone.skipStalled {bf : BufferFIFO} (h : StagesDone bf) :
    StagesDone bf.skipStalled := by
  intro i hi
  by_cases hlt : i < bf.stallIndex
  · exact h i hlt
  · generalize hl : (List.range' bf.stallIndex (bf.numStages - bf.stallIndex)).takeWhile (fun i =>
      !bf.stageProcessing i && bf.stalled i) = l
    have hlen : i - bf.stallIndex < l.length := by
      have hi' : i < bf.stallIndex + l.length := by
        rw [← hl]
        exact hi
      omega
    have hpre : l <+: List.range' bf.stallIndex (bf.numStages - bf.stallIndex) := by
      rw [← hl]
      exact List.takeWhile_prefix _
    -- stage `i` is one of those that were passed over
    have hget : l[i - bf.stallIndex] = i := by
      rw [hpre.getElem hlen, List.getElem_range']
      omega
    have hmem : i ∈ l := hget ▸ List.getElem_mem hlen
    rw [← hl] at hmem
    have hboth := List.mem_takeWhile_imp hmem
    simp only [Bool.and_eq_true, Bool.not_eq_true'] at hboth
    exact ⟨hboth.2, hboth.1⟩

theorem Moving.resting (h : Moving B s stop) (hdone : ∀ i < s.fifo.numStages,
    s.fifo.stageProcessing i = false) : Resting B (mscBotSendCsw s) := by
  obtain ⟨⟨hvol, hsize, hmax, hcount⟩, hlay, hop, hrem, hq, hend, hciph, -, -⟩ := h
  have hn := hlay.two_le
  have hfree := hq.free (hdone _ (mmcStage_lt hn.1))
  refine ⟨⟨hvol, hsize, hmax, hcount⟩, ⟨by simp [mscBotSendCsw], by simp [mscBotSendCsw]⟩, hfree.1,
    hfree.2, by simp [mscBotSendCsw], ?_, ?_⟩
  · change s.usbTransmitting = false
    cases hsend : s.usbTransmitting with
    | false => rfl
    | true =>
      have := (hend.sending hsend).2.1
      rw [hdone _ (by omega)] at this
      cases this
  · change s.crypRunning = false
    cases hrun : s.crypRunning with
    | false => rfl
    | true =>
      obtain ⟨hn3, hproc, -⟩ := hciph hrun
      rw [hdone 1 (by omega)] at hproc
      cases hproc

variable (B) in
/-- The invariant: a transfer is in progress, or none is. -/
def MscInv (s : Msc) : Prop := (∃ stop, Moving B s stop) ∨ Resting B s

/-- **The end of `bufferFIFO_processingComplete`**: the transfer goes on or is over. -/
theorem Moving.completeIfStalled (h : Moving B s stop) : MscInv B (completeIfStalled s) := by
  have hskip : ∀ p, Moving B { s with fifo := { s.fifo.skipStalled with processing := p } } stop := by
    intro p
    obtain ⟨⟨hvol, hsize, hmax, hcount⟩, hlay, hop, hrem, hq, hend, hciph, hdone, hchunks⟩ := h
    refine ⟨⟨hvol, hsize, hmax, hcount⟩, hlay, hop, hrem, hq, ?_, hciph, hdone.skipStalled, ?_⟩
    · exact ⟨hend.out, hend.receiving, hend.sending⟩
    · intro hout
      obtain ⟨total, count, hsec, hring, hrecv, hwritten, husb, hcrypt, hmmc⟩ := hchunks hout
      obtain ⟨r₁, r₂, r₃, r₄, r₅, r₆, r₇, r₈, r₉⟩ := hring
      exact ⟨total, count, hsec, ⟨r₁, r₂, r₃, r₄, r₅, r₆, r₇, r₈, r₉⟩, hrecv, hwritten, husb, hcrypt,
        hmmc⟩
  unfold FirmwareHc.completeIfStalled
  split
  · simp only
    split
    · rename_i hall
      have hdone : ∀ i < s.fifo.numStages, s.fifo.stageProcessing i = false := by
        intro i hi
        have hlt : i < s.fifo.skipStalled.stallIndex := by
          rw [hall]
          exact hi
        exact (h.done.skipStalled i hlt).2
      unfold transferComplete
      split
      · exact .inr ((hskip false).resting hdone)
      · obtain ⟨⟨hvol, hsize, hmax, hcount⟩, hlay, hop, hrem, hq, hend, hciph, hdone, hchunks⟩ :=
          hskip false
        exact .inl ⟨stop, ⟨hvol, hsize, hmax, hcount⟩, hlay, hop, hrem, hq, hend, hciph, hdone,
          hchunks⟩
    · exact .inl ⟨stop, hskip s.fifo.processing⟩
  · exact .inl ⟨stop, h⟩

/-- **The stages after a chunk was passed on.** -/
theorem Moving.processingComplete (hB : B.Large) {len : Nat} (hi : i < s.fifo.numStages)
    (h : Moving B { s with fifo := s.fifo.advance i len } stop) :
    MscInv B (processingComplete B i len s) := by
  have hpos : 0 < s.fifo.numStages := by omega
  unfold FirmwareHc.processingComplete
  have hnext : (i + 1) % s.fifo.numStages <
      (FirmwareHc.execUnlessStalled B i { s with fifo := s.fifo.advance i len }).fifo.numStages := by
    rw [numStages_execUnlessStalled]
    exact Nat.mod_lt _ hpos
  exact ((h.execUnlessStalled hB hi).execUnlessStalled hB hnext).completeIfStalled

/-! ### A chunk is passed on -/

/-- The ring after stage `i` has passed a chunk on, and stalled if it was its last. -/
def passOn (last : Prop) [Decidable last] (i len : Nat) (bf : BufferFIFO) : BufferFIFO :=
  (if last then bf.stallStage i else bf).advance i len

section PassOn

variable (last : Prop) [Decidable last] (i len : Nat) (bf : BufferFIFO)

theorem processingComplete_stallIf (s : Msc) (h : Moving B { s with fifo := passOn last i len s.fifo } stop)
    (hB : B.Large) (hi : i < s.fifo.numStages) :
    MscInv B (processingComplete B i len (stallIf last i s)) := by
  unfold stallIf
  unfold passOn at h
  split
  · rw [if_pos ‹_›] at h
    exact Moving.processingComplete (s := { s with fifo := s.fifo.stallStage i }) hB hi h
  · rw [if_neg ‹_›] at h
    exact Moving.processingComplete hB hi h

@[simp] theorem numStages_passOn : (passOn last i len bf).numStages = bf.numStages := by
  unfold passOn
  split <;> rfl

@[simp] theorem maxBufferSize_passOn : (passOn last i len bf).maxBufferSize = bf.maxBufferSize := by
  unfold passOn
  split <;> rfl

@[simp] theorem bufferCount_passOn : (passOn last i len bf).bufferCount = bf.bufferCount := by
  unfold passOn
  split <;> rfl

theorem processing_passOn_self : (passOn last i len bf).stageProcessing i = false :=
  update_self _ _ _

variable {i} in
theorem processing_passOn_ne {j : Nat} (hj : j ≠ i) :
    (passOn last i len bf).stageProcessing j = bf.stageProcessing j := by
  unfold passOn
  split
  · simp [BufferFIFO.advance, BufferFIFO.stallStage, update_of_ne hj]
  · simp [BufferFIFO.advance, update_of_ne hj]

variable {bf} in
theorem StagesDone.passOn (h : StagesDone bf) : StagesDone (passOn last i len bf) := by
  intro j hj
  have hstall : (FirmwareHc.passOn last i len bf).stallIndex = bf.stallIndex := by
    unfold FirmwareHc.passOn
    split <;> rfl
  have hj' := h j (by rwa [hstall] at hj)
  constructor
  · unfold FirmwareHc.passOn
    split
    · change update bf.stalled i true j = true
      by_cases hji : j = i
      · rw [hji, update_self]
      · rw [update_of_ne hji]
        exact hj'.1
    · exact hj'.1
  · by_cases hji : j = i
    · rw [hji]
      exact processing_passOn_self last i len bf
    · rw [processing_passOn_ne last len bf hji]
      exact hj'.2

variable {bf} in
theorem ring_passOn {size count : Nat → Nat} (h : bf.Ring size count) (hi : i < bf.numStages)
    (hp : bf.stageProcessing i = true) :
    (passOn last i (size (count i)) bf).Ring size (update count i (count i + 1)) := by
  have hcan := h.canAdvance hi hp
  unfold passOn
  split
  · exact h.stallStage.advance hi hcan
  · exact h.advance hi hcan

/-- The chunks after one of them was passed on. -/
theorem Chunks.passOn {bf : BufferFIFO} {total lag lag' received received' writeLen stageIdx
    cryptTxLen mmcReadLen : Nat} {data' : Int} {count : Nat → Nat}
    (h : Chunks bf total lag received writeLen stageIdx cryptTxLen mmcReadLen data count)
    (hi : i < bf.numStages) (hp : bf.stageProcessing i = true)
    (hrecv : received' = total - update count i (count i + 1) 0 * USB_BULK_BUFFER_SIZE)
    (hwritten : data' = (total - (update count i (count i + 1) (bf.numStages - 1) + lag') *
      USB_BULK_BUFFER_SIZE : Nat)) :
    Chunks (passOn last i (BufferFIFO.chunk USB_BULK_BUFFER_SIZE total (count i)) bf) total lag'
      received' writeLen stageIdx cryptTxLen mmcReadLen data' (update count i (count i + 1)) := by
  refine ⟨h.sector, ring_passOn last i h.ring hi hp, hrecv, ?_, ?_, ?_, ?_⟩
  · rw [numStages_passOn]
    exact hwritten
  · intro hproc
    by_cases h0 : 0 = i
    · rw [h0, processing_passOn_self] at hproc
      cases hproc
    · rw [processing_passOn_ne _ _ _ h0] at hproc
      rw [update_of_ne h0]
      exact h.usb hproc
  · intro hn3 hproc
    rw [numStages_passOn] at hn3
    by_cases h1 : 1 = i
    · rw [h1, processing_passOn_self] at hproc
      cases hproc
    · rw [processing_passOn_ne _ _ _ h1] at hproc
      rw [update_of_ne h1]
      exact h.crypt hn3 hproc
  · rw [numStages_passOn]
    intro hproc
    by_cases hl : bf.numStages - 1 = i
    · rw [hl, processing_passOn_self] at hproc
      cases hproc
    · rw [processing_passOn_ne _ _ _ hl] at hproc
      rw [update_of_ne hl]
      exact h.mmc hproc

end PassOn

/-- The length of the chunk that was received, and what is left to receive. -/
theorem received_succ (total k : Nat) :
    min (total - k * USB_BULK_BUFFER_SIZE) (BufferFIFO.chunk USB_BULK_BUFFER_SIZE total k) =
        BufferFIFO.chunk USB_BULK_BUFFER_SIZE total k ∧
      total - k * USB_BULK_BUFFER_SIZE - BufferFIFO.chunk USB_BULK_BUFFER_SIZE total k =
        total - (k + 1) * USB_BULK_BUFFER_SIZE := by
  unfold BufferFIFO.chunk
  rw [Nat.succ_mul]
  omega

/-- **A chunk has been received from the host.** -/
theorem Moving.processWrite (hB : B.Large) (h : Moving B s stop) (hout : s.outEndpoint = .data) :
    MscInv B (scsiProcessWrite B { s with outEndpoint := .off }) := by
  obtain ⟨⟨hvol, hsize, hmax, hcount⟩, hlay, hop, hrem, hq, hend, hciph, hdone, hchunks⟩ := h
  have hn := hlay.two_le
  obtain ⟨hdir, hproc⟩ := hend.receiving hout
  obtain ⟨total, count, hc⟩ := hchunks hdir
  obtain ⟨hidx, hlen⟩ := hc.usb hproc
  rw [hidx] at hc
  have hmin : min s.scsiBlkLen s.writeLen =
      BufferFIFO.chunk USB_BULK_BUFFER_SIZE total (count 0) := by
    rw [hc.received, hlen]
    exact (received_succ _ _).1
  unfold scsiProcessWrite scsiProcessed
  simp only [hidx, hmin]
  refine processingComplete_stallIf (B := B) _ _ _ _ (?_ : Moving B _ stop) hB (by simp only; omega)
  have hstage : mmcStage s.botState s.fifo.numStages ≠ 0 := by
    unfold mmcStage
    rw [if_neg (by simp [hdir])]
    omega
  refine ⟨⟨hvol, hsize, ?_, ?_⟩, ?_, hop, hrem, ?_, ?_, ?_, hdone.passOn _ _ _, ?_⟩
  · rw [maxBufferSize_passOn]
    exact hmax
  · rw [bufferCount_passOn]
    exact hcount
  · rw [numStages_passOn]
    exact hlay
  · rw [numStages_passOn, processing_passOn_ne _ _ _ hstage]
    exact hq
  · refine ⟨by simp, fun hr => by simp at hr, ?_⟩
    intro hsend
    have := (hend.sending hsend).1
    rw [hdir] at this
    cases this
  · intro hrun
    obtain ⟨hn3, hproc1, hidx1⟩ := hciph hrun
    rw [numStages_passOn, processing_passOn_ne _ _ _ (by omega)]
    exact ⟨hn3, hproc1, hidx1⟩
  · intro _
    refine ⟨total, _, hc.passOn _ 0 (by omega) hproc ?_ ?_⟩
    · rw [update_self, hc.received]
      exact (received_succ _ _).2
    · rw [update_of_ne (by omega)]
      exact hc.written

/-- **A chunk has been sent to the host.** -/
theorem Moving.processRead (hB : B.Large) (h : Moving B s stop) (hdir : s.botState = .dataIn) :
    MscInv B (scsiProcessRead B s) := by
  unfold scsiProcessRead
  split
  · rename_i hsend
    obtain ⟨⟨hvol, hsize, hmax, hcount⟩, hlay, hop, hrem, hq, hend, hciph, hdone, -⟩ := h
    have hn := hlay.two_le
    obtain ⟨-, -, hidx⟩ := hend.sending hsend
    unfold scsiProcessed
    simp only [hidx]
    refine processingComplete_stallIf (B := B) _ _ _ _ (?_ : Moving B _ stop) hB (by simp only; omega)
    have hstage : mmcStage s.botState s.fifo.numStages = 0 := if_pos hdir
    refine ⟨⟨hvol, hsize, ?_, ?_⟩, ?_, hop, hrem, ?_, ?_, ?_, hdone.passOn _ _ _, ?_⟩
    · rw [maxBufferSize_passOn]
      exact hmax
    · rw [bufferCount_passOn]
      exact hcount
    · rw [numStages_passOn]
      exact hlay
    · rw [numStages_passOn, hstage, processing_passOn_ne _ _ _ (by omega)]
      rw [hstage] at hq
      exact hq
    · refine ⟨hend.out, ?_, fun hr => by simp at hr⟩
      intro hr
      have := (hend.receiving hr).1
      rw [hdir] at this
      cases this
    · intro hrun
      obtain ⟨hn3, hproc1, hidx1⟩ := hciph hrun
      rw [numStages_passOn, processing_passOn_ne _ _ _ (by omega)]
      exact ⟨hn3, hproc1, hidx1⟩
    · intro hout
      rw [hdir] at hout
      cases hout
  · exact .inl ⟨stop, h⟩

/-- **The cipher has processed a sector.** -/
theorem Moving.scsiIdle (hB : B.Large) (h : Moving B s stop) (hrun : s.crypRunning = true) :
    MscInv B (usbdScsiIdle B s) := by
  obtain ⟨⟨hvol, hsize, hmax, hcount⟩, hlay, hop, hrem, hq, hend, hciph, hdone, hchunks⟩ := h
  unfold usbdScsiIdle
  simp only
  split
  · obtain ⟨hn3, hproc, hidx⟩ := hciph hrun
    simp only [hidx]
    refine processingComplete_stallIf (B := B) _ _ _ _ (?_ : Moving B _ stop) hB (show 1 < s.fifo.numStages by omega)
    have hstage : mmcStage s.botState s.fifo.numStages ≠ 1 := by
      unfold mmcStage
      split <;> omega
    have hlast : s.fifo.numStages - 1 ≠ 1 := by omega
    refine ⟨⟨hvol, hsize, ?_, ?_⟩, ?_, hop, hrem, ?_, ?_, fun hr => by simp at hr,
      hdone.passOn _ _ _, ?_⟩
    · rw [maxBufferSize_passOn]
      exact hmax
    · rw [bufferCount_passOn]
      exact hcount
    · rw [numStages_passOn]
      exact hlay
    · rw [numStages_passOn, processing_passOn_ne _ _ _ hstage]
      exact hq
    · refine ⟨hend.out, ?_, ?_⟩
      · rw [processing_passOn_ne _ _ _ (by omega)]
        exact hend.receiving
      · rw [numStages_passOn, processing_passOn_ne _ _ _ hlast]
        exact hend.sending
    · intro hout
      obtain ⟨total, count, hc⟩ := hchunks hout
      rw [hc.crypt hn3 hproc]
      rw [hc.crypt hn3 hproc] at hc
      refine ⟨total, _, hc.passOn _ 1 (by omega) hproc ?_ ?_⟩
      · rw [update_of_ne (by omega)]
        exact hc.received
      · rw [update_of_ne (by omega)]
        exact hc.written
  · exact .inl ⟨stop, ⟨hvol, hsize, hmax, hcount⟩, hlay, hop, hrem, hq, hend, hciph, hdone, hchunks⟩

/-- Giving the eMMC back after the chunk that was transferred. -/
theorem emmcUserDone_stallIf (hready : s.emmcReadyStorage = false) (last : Prop) [Decidable last]
    (i : Nat) : ∃ user ready mmc, user ≠ EmmcUser.storage ∧ emmcUserDone B (stallIf last i s) =
      stallIf last i { s with emmcUser := user, emmcReadyDb := ready, mmc := mmc } := by
  have hready' : (stallIf last i s).emmcReadyStorage = false := by
    unfold stallIf
    split <;> exact hready
  obtain ⟨user, ready, mmc, hne, heq⟩ := emmcUserDone_of_not_ready (B := B) hready'
  refine ⟨user, ready, mmc, hne, ?_⟩
  rw [heq]
  unfold stallIf
  split <;> rfl

/-- The stage of the eMMC passes its chunk on. -/
theorem Transferring.passMmc (h : Transferring B s stop 1) (hready : s.emmcReadyStorage = false)
    (hne : s.emmcUser ≠ .storage) {idx : Nat} (hidx : idx = mmcStage s.botState s.fifo.numStages)
    (hproc : s.fifo.stageProcessing (mmcStage s.botState s.fifo.numStages) = true) (last : Prop)
    [Decidable last] :
    Moving B { s with fifo := passOn last idx s.mmcReadLen s.fifo } stop := by
  subst hidx
  obtain ⟨⟨hvol, hsize, hmax, hcount⟩, hlay, hop, hrem, -, hend, hciph, hdone, hchunks⟩ := h
  have hn := hlay.two_le
  unfold Moving
  rw [mmcLag_of_ne hne]
  refine ⟨⟨hvol, hsize, ?_, ?_⟩, ?_, hop, hrem, ?_, ?_, ?_, hdone.passOn _ _ _, ?_⟩
  · rw [maxBufferSize_passOn]
    exact hmax
  · rw [bufferCount_passOn]
    exact hcount
  · rw [numStages_passOn]
    exact hlay
  · exact queued_of_free hready hne
  · refine ⟨hend.out, ?_, ?_⟩
    · intro hr
      obtain ⟨hdir, hp⟩ := hend.receiving hr
      refine ⟨hdir, ?_⟩
      rw [processing_passOn_ne]
      · exact hp
      · unfold mmcStage
        rw [if_neg (by simp [hdir])]
        omega
    · intro hr
      obtain ⟨hdir, hp, hidx'⟩ := hend.sending hr
      rw [numStages_passOn]
      refine ⟨hdir, ?_, hidx'⟩
      rw [processing_passOn_ne]
      · exact hp
      · unfold mmcStage
        rw [if_pos hdir]
        omega
  · intro hrun
    obtain ⟨hn3, hproc1, hidx1⟩ := hciph hrun
    rw [numStages_passOn, processing_passOn_ne]
    · exact ⟨hn3, hproc1, hidx1⟩
    · unfold mmcStage
      split <;> omega
  · intro hout
    obtain ⟨total, count, hc⟩ := hchunks hout
    have hstage : mmcStage s.botState s.fifo.numStages = s.fifo.numStages - 1 :=
      if_neg (by simp [show s.botState = .dataOut from hout])
    rw [hstage] at hproc ⊢
    have hlen := hc.mmc hproc
    rw [hlen]
    rw [hlen] at hc
    refine ⟨total, _, hc.passOn _ _ (by omega) hproc ?_ ?_⟩
    · rw [update_of_ne (by omega)]
      exact hc.received
    · rw [update_self]
      exact hc.written

/-- **The eMMC has transferred a chunk.** -/
theorem mscInv_mmcStageDone (hB : B.Large) (stop : Nat) (hready : s.emmcReadyStorage = false)
    (hidx : s.mmcStageIdx = mmcStage s.botState s.fifo.numStages)
    (hproc : s.fifo.stageProcessing (mmcStage s.botState s.fifo.numStages) = true)
    (h : ∀ user ready mmc, user ≠ EmmcUser.storage →
      Transferring B { s with emmcUser := user, emmcReadyDb := ready, mmc := mmc } stop 1) :
    MscInv B (mmcStageDone B s) := by
  obtain ⟨user, ready, mmc, hne, heq⟩ := emmcUserDone_stallIf (B := B) hready
    (s.mmcDataToTransfer = 0) s.mmcStageIdx
  have hflow := h user ready mmc hne
  unfold mmcStageDone
  rw [heq]
  have hlt : s.mmcStageIdx < s.fifo.numStages := by
    rw [hidx]
    exact mmcStage_lt hflow.layout.two_le.1
  have hpass := hflow.passMmc hready hne hidx hproc (s.mmcDataToTransfer = 0)
  exact processingComplete_stallIf _ _ _ _ hpass hB hlt

/-- A read chunk has come. -/
theorem Moving.mmcRxCplt (hB : B.Large) (h : Moving B s stop) (hmmc : s.mmc = .reading)
    (huser : s.emmcUser = .storage) :
    MscInv B (emmcUserReadStorageRxComplete B { s with mmc := .idle }) := by
  obtain ⟨⟨hvol, hsize, hmax, hcount⟩, hlay, hop, hrem, hq, hend, hciph, hdone, -⟩ := h
  have hready := hq.not_ready huser
  have hdir : s.botState = .dataIn := by
    by_contra hdir
    have hphase := hq.phase huser
    rw [if_neg hdir, hmmc] at hphase
    simp at hphase
  obtain ⟨hlen, hdvd⟩ := hq.chunk (.inr ⟨huser, by simp [hmmc]⟩)
  obtain ⟨hproc, hidx⟩ := hq.busy (.inr huser)
  refine mscInv_mmcStageDone (s := mmcChunkDone { s with mmc := .idle }) hB stop hready
    hidx hproc ?_
  intro user ready mmc hne
  refine ⟨⟨hvol, hsize, hmax, hcount⟩, hlay, hop, hrem.chunkDone hlen hdvd,
    queued_of_free hready hne, hend, hciph, hdone, ?_⟩
  intro hout
  change s.botState = .dataOut at hout
  rw [hdir] at hout
  cases hout

/-- The data of a chunk to be written has been sent to the card. -/
theorem Moving.mmcTxDmaCplt (h : Moving B s stop) (hmmc : s.mmc = .writing)
    (huser : s.emmcUser = .storage) : Moving B (mmcChunkDone { s with mmc := .finishing }) stop := by
  unfold Moving at h
  rw [mmcLag_of_phase _ (by simp [hmmc])] at h
  obtain ⟨⟨hvol, hsize, hmax, hcount⟩, hlay, hop, hrem, hq, hend, hciph, hdone, hchunks⟩ := h
  have hn := hlay.two_le
  have hdir : s.botState = .dataOut := by
    rcases hlay.dir with hdir | hdir
    · have hphase := hq.phase huser
      rw [if_pos hdir, hmmc] at hphase
      cases hphase
    · exact hdir
  obtain ⟨hlen, hdvd⟩ := hq.chunk (.inr ⟨huser, by simp [hmmc]⟩)
  have hlag : mmcLag s.emmcUser .finishing = 1 := if_pos ⟨huser, rfl⟩
  unfold Moving mmcChunkDone
  simp only
  rw [hlag]
  refine ⟨⟨hvol, hsize, hmax, hcount⟩, hlay, hop, hrem.chunkDone hlen hdvd, ?_, hend, hciph, hdone,
    ?_⟩
  · refine ⟨hq.busy, ?_, hq.excl, ?_⟩
    · rintro (hr | ⟨-, hf⟩)
      · exact absurd huser (hq.excl hr)
      · exact absurd rfl hf
    · intro _
      rw [if_neg (by simp [hdir])]
      exact .inr rfl
  · intro _
    obtain ⟨total, count, hsec, hring, hrecv, hwritten, husb, hcrypt, hmm⟩ := hchunks hdir
    have hproc := (hq.busy (.inr huser)).1
    unfold mmcStage at hproc
    rw [if_neg (by simp [hdir])] at hproc
    have hlen' := hmm hproc
    have hsucc := (received_succ total (count (s.fifo.numStages - 1))).2
    have hdata : s.mmcDataToTransfer - s.mmcReadLen =
        (total - (count (s.fifo.numStages - 1) + 1) * USB_BULK_BUFFER_SIZE : Nat) := by
      rw [hwritten, hlen', ← hsucc, Nat.add_zero]
      unfold BufferFIFO.chunk
      omega
    exact ⟨total, count, hsec, hring, hrecv, hdata, husb, hcrypt, hmm⟩

/-- The card has finished a write. -/
theorem Moving.mmcTxCplt (hB : B.Large) (h : Moving B s stop) (hmmc : s.mmc = .finishing)
    (huser : s.emmcUser = .storage) : MscInv B (mmcStageDone B { s with mmc := .idle }) := by
  unfold Moving at h
  rw [mmcLag, if_pos ⟨huser, hmmc⟩] at h
  obtain ⟨⟨hvol, hsize, hmax, hcount⟩, hlay, hop, hrem, hq, hend, hciph, hdone, hchunks⟩ := h
  have hready := hq.not_ready huser
  obtain ⟨hproc, hidx⟩ := hq.busy (.inr huser)
  refine mscInv_mmcStageDone (s := { s with mmc := .idle }) hB stop hready hidx hproc ?_
  intro user ready mmc hne
  exact ⟨⟨hvol, hsize, hmax, hcount⟩, hlay, hop, hrem, queued_of_free hready hne, hend, hciph, hdone,
    hchunks⟩

/-! ### The start of a transfer -/

theorem Cbw.lba_lt (c : Cbw) : c.lba < 2 ^ 32 := by
  have h2 := (c.cb 2).toNat_lt
  have h3 := (c.cb 3).toNat_lt
  have h4 := (c.cb 4).toNat_lt
  have h5 := (c.cb 5).toNat_lt
  unfold Cbw.lba
  omega

/-- **A transfer of an accepted range starts.** -/
theorem Steady.startTransfer (hB : B.Large) (h : Steady B s) (crypt : Bool) {stages : List Stage}
    (hlay : Layout s.botState stages.length fun i => stages.getD i (s.processStage i))
    (hop : transferOpcode s.botState (s.cbw.cb 0)) (hready : s.emmcReadyStorage = false)
    (huser : s.emmcUser ≠ .storage) (hout : s.outEndpoint = .off) (hsend : s.usbTransmitting = false)
    (hrun : s.crypRunning = false) (hdvd : 512 ∣ s.scsiBlkLen)
    (hrange : 0 < s.scsiBlkLen → s.cbw.lba + s.scsiBlkLen / 512 ≤ B.volumeBlocks s.cbw.bLUN.toNat) :
    Moving B (startTransfer B crypt stages s) (s.cbw.lba + s.scsiBlkLen / 512) := by
  obtain ⟨hvol, hsize, hmax, hcount⟩ := h
  obtain ⟨hn, hn'⟩ := hlay.two_le
  have hcount' : s.fifo.bufferCount = 4 := hcount
  generalize hbf : ({ s.fifo with numStages := stages.length } : BufferFIFO) = bf
  have hbn : bf.numStages = stages.length := by rw [← hbf]
  have hbm : bf.maxBufferSize = USB_BULK_BUFFER_SIZE := by
    rw [← hbf]
    exact hmax
  have hbc : bf.bufferCount = USB_BULK_BUFFER_COUNT := by
    rw [← hbf]
    exact hcount
  have hring : ∀ size first, (bf.start first).Ring size fun _ => 0 := by
    intro size first
    apply BufferFIFO.ring_start
    · omega
    · rw [hbc]
      simp only [USB_BULK_BUFFER_COUNT]
      omega
  have hidle : ∀ first i, i < stages.length → (bf.start first).stageProcessing i = false := by
    intro first i hi
    rw [← hbn] at hi
    exact if_pos hi
  unfold FirmwareHc.startTransfer
  simp only [hbf]
  generalize min s.scsiBlkLen s.fifo.maxBufferSize = first
  refine Moving.execStage hB ?_ (show 0 < bf.numStages by omega) ?_
  · refine ⟨⟨hvol, hsize, hbm, hbc⟩, ?_, hop, ⟨s.cbw.lba_lt, ?_, ?_, ?_, ?_⟩,
      queued_of_free hready huser, ⟨?_, ?_, ?_⟩, ?_, ?_, ?_⟩
    · change Layout s.botState bf.numStages _
      rw [hbn]
      exact hlay
    · exact Int.natCast_nonneg _
    · exact Int.natCast_dvd_natCast.mpr hdvd
    · push_cast
      omega
    · intro hpos
      exact hrange (by simpa using hpos)
    · rw [hout]
      simp
    · intro hr
      rw [hout] at hr
      cases hr
    · intro hr
      rw [hsend] at hr
      cases hr
    · intro hr
      rw [hrun] at hr
      cases hr
    · intro j hj
      exact absurd hj (Nat.not_lt_zero j)
    · intro _
      refine ⟨s.scsiBlkLen, fun _ => 0, hdvd, hring _ _, by simp, ?_, ?_, ?_, ?_⟩
      · rw [mmcLag_of_ne huser]
        simp
      · intro hproc
        rw [hidle _ 0 (by omega)] at hproc
        cases hproc
      · intro hn3 hproc
        rw [hidle _ 1 (by omega)] at hproc
        cases hproc
      · intro hproc
        change (bf.start first).stageProcessing (bf.numStages - 1) = true at hproc
        rw [hidle _ _ (by omega)] at hproc
        cases hproc
  · have hring0 := hring (fun _ => 0) first
    have hwrite := hring0.write 0 (by change 0 < bf.numStages; omega)
    have hread := hring0.read (bf.numStages - 1) (by change bf.numStages - 1 < bf.numStages; omega)
    have hstall : (bf.start first).stalled 0 = false := if_pos (by omega)
    change (bf.start first).stageStalled 0 = false
    unfold BufferFIFO.stageStalled
    rw [hidle _ 0 (by omega), hstall]
    change ((bf.start first).stageWriteIndex 0 ==
      (bf.start first).stageReadIndex (bf.numStages - 1) + bf.bufferCount) = false
    rw [hwrite, hread, hbc]
    unfold BufferFIFO.readBase
    change (bf.numStages - 2 - 0 + 0 == (if bf.numStages - 1 = 0 then bf.numStages - 2
      else bf.numStages - 1 - (bf.numStages - 1)) + 0 + 4) = false
    rw [if_neg (by omega)]
    simp only [beq_eq_false_iff_ne]
    omega

/-! ### Commands -/

variable (B) in
/-- A READ10 or WRITE10 of at least one byte that the range check accepts is for a
    range of its own volume. -/
def OwnRange (s : Msc) (e : MscEvent) : Prop :=
  match e with
  | .cbwReceived c =>
    (c.cb 0 = SCSI_READ10 ∨ c.cb 0 = SCSI_WRITE10) → scsiCheckAddressRange c.lba c.blocks s = true →
      0 < c.blocks * s.scsiBlkSize → c.lba + c.blocks ≤ B.volumeBlocks c.bLUN.toNat
  | _ => True

/-- Answering or refusing a command leaves the device at rest. -/
theorem Resting.sendCsw (h : Resting B s) : Resting B (mscBotSendCsw s) := by
  obtain ⟨⟨hvol, hsize, hmax, hcount⟩, -, hready, huser, -, hsend, hrun⟩ := h
  exact ⟨⟨hvol, hsize, hmax, hcount⟩, ⟨by simp [mscBotSendCsw], by simp [mscBotSendCsw]⟩, hready,
    huser, by simp [mscBotSendCsw], hsend, hrun⟩

theorem Resting.refuse (h : Resting B s) : Resting B (scsiRefuse s).2 := by
  obtain ⟨⟨hvol, hsize, hmax, hcount⟩, -, hready, huser, hout, hsend, hrun⟩ := h
  exact ⟨⟨hvol, hsize, hmax, hcount⟩, ⟨by simp [scsiRefuse], by simp [scsiRefuse]⟩, hready, huser,
    hout, hsend, hrun⟩

/-- The number of bytes of an accepted transfer. -/
theorem transfer_bytes (hsize : s.scsiBlkSize = 0 ∨ s.scsiBlkSize = 512) (n : Nat) :
    512 ∣ n * s.scsiBlkSize ∧ (0 < n * s.scsiBlkSize → n * s.scsiBlkSize / 512 = n) := by
  rcases hsize with h | h
  · rw [h]
    omega
  · rw [h]
    omega

/-- What a command leaves: the device at rest, or a transfer that was accepted. -/
def CommandResult (B : HcBoard) (r : Bool × Msc) : Prop :=
  (r.1 = true ∧ ∃ stop, Moving B r.2 stop) ∨ Resting B r.2

theorem Resting.readCapacity10 (h : Resting B s) (lun : Nat) :
    CommandResult B (scsiReadCapacity10 B lun s) := by
  unfold scsiReadCapacity10
  split
  · obtain ⟨⟨hvol, hsize, hmax, hcount⟩, -, hready, huser, hout, hsend, hrun⟩ := h
    exact .inr ⟨⟨hvol, .inr rfl, hmax, hcount⟩, ⟨by simp, by simp⟩, hready, huser, hout, hsend, hrun⟩
  · exact .inr h.refuse

theorem Resting.read10 (hB : B.Large) (h : Resting B s) (hidle : s.botState = .idle)
    (hout : s.outEndpoint = .off) (hop : s.cbw.cb 0 = SCSI_READ10)
    (hrange : scsiCheckAddressRange s.cbw.lba s.cbw.blocks s = true →
      0 < s.cbw.blocks * s.scsiBlkSize → s.cbw.lba + s.cbw.blocks ≤ B.volumeBlocks s.cbw.bLUN.toNat)
    (lun : Nat) : CommandResult B (scsiRead10 B lun s) := by
  unfold scsiRead10
  rw [if_pos hidle]
  split
  · exact .inr h.refuse
  · split
    · exact .inr h.refuse
    · split
      · exact .inr h.refuse
      · rename_i hcheck
        have hcheck' : scsiCheckAddressRange s.cbw.lba s.cbw.blocks s = true := by
          simpa using hcheck
        obtain ⟨⟨hvol, hsize, hmax, hcount⟩, -, hready, huser, -, hsend, hrun⟩ := h
        obtain ⟨hdvd, hdiv⟩ := transfer_bytes hsize s.cbw.blocks
        simp only
        split
        · exact .inr ⟨⟨hvol, hsize, hmax, hcount⟩, ⟨by simp [scsiRefuse], by simp [scsiRefuse]⟩,
            hready, huser, by simp [scsiRefuse, hout], hsend, hrun⟩
        · have hsteady : Steady B { s with
              scsiBlkLen := s.cbw.blocks * s.scsiBlkSize, botState := .dataIn } :=
            ⟨hvol, hsize, hmax, hcount⟩
          refine .inl ⟨rfl, _, hsteady.startTransfer hB _ ?_ hop hready huser hout hsend hrun hdvd ?_⟩
          · split
            · exact .readDecrypt rfl rfl rfl
            · exact .read rfl rfl
          · intro hpos
            have hle := hrange hcheck' hpos
            simp only at hpos ⊢
            rw [hdiv hpos]
            exact hle

theorem Resting.write10 (hB : B.Large) (h : Resting B s) (hidle : s.botState = .idle)
    (hout : s.outEndpoint = .off) (hop : s.cbw.cb 0 = SCSI_WRITE10)
    (hrange : scsiCheckAddressRange s.cbw.lba s.cbw.blocks s = true →
      0 < s.cbw.blocks * s.scsiBlkSize → s.cbw.lba + s.cbw.blocks ≤ B.volumeBlocks s.cbw.bLUN.toNat)
    (lun : Nat) : CommandResult B (scsiWrite10 B lun s) := by
  unfold scsiWrite10
  rw [if_pos hidle]
  split
  · exact .inr h.refuse
  · split
    · exact .inr h.refuse
    · split
      · exact .inr h.refuse
      · obtain ⟨⟨hvol, hsize, hmax, hcount⟩, -, hready, huser, -, hsend, hrun⟩ := h
        split
        · exact .inr ⟨⟨hvol, hsize, hmax, hcount⟩, ⟨by simp [scsiRefuse], by simp [scsiRefuse]⟩,
            hready, huser, by simp [scsiRefuse, hout], hsend, hrun⟩
        · rename_i hcheck
          have hcheck' : scsiCheckAddressRange s.cbw.lba s.cbw.blocks s = true := by
            simpa using hcheck
          obtain ⟨hdvd, hdiv⟩ := transfer_bytes hsize s.cbw.blocks
          simp only
          split
          · exact .inr ⟨⟨hvol, hsize, hmax, hcount⟩, ⟨by simp [scsiRefuse], by simp [scsiRefuse]⟩,
              hready, huser, by simp [scsiRefuse, hout], hsend, hrun⟩
          · have hsteady : Steady B { s with
                scsiBlkLen := s.cbw.blocks * s.scsiBlkSize, botState := .dataOut } :=
              ⟨hvol, hsize, hmax, hcount⟩
            refine .inl ⟨rfl, _,
              hsteady.startTransfer hB _ ?_ hop hready huser hout hsend hrun hdvd ?_⟩
            · split
              · exact .writeEncrypt rfl rfl rfl
              · exact .write rfl rfl
            · intro hpos
              have hle := hrange hcheck' hpos
              simp only at hpos ⊢
              rw [hdiv hpos]
              exact hle

/-- **A CBW is answered, refused, or starts a transfer in its own volume.** -/
theorem Resting.cbwDecode (hB : B.Large) (h : Resting B s) (hidle : s.botState = .idle)
    (hout : s.outEndpoint = .off) (hrange : (s.cbw.cb 0 = SCSI_READ10 ∨ s.cbw.cb 0 = SCSI_WRITE10) →
      scsiCheckAddressRange s.cbw.lba s.cbw.blocks s = true → 0 < s.cbw.blocks * s.scsiBlkSize →
        s.cbw.lba + s.cbw.blocks ≤ B.volumeBlocks s.cbw.bLUN.toNat) :
    MscInv B (mscBotCbwDecode B s) := by
  have hcmd : CommandResult B (scsiProcessCmd B s) := by
    unfold scsiProcessCmd
    simp only
    split
    · exact h.readCapacity10 _
    · split
      · rename_i hop
        exact h.read10 hB hidle hout hop (hrange (.inl hop)) _
      · split
        · rename_i hop
          exact h.write10 hB hidle hout hop (hrange (.inr hop)) _
        · exact .inr h
  unfold mscBotCbwDecode
  split
  · obtain ⟨⟨hvol, hsize, hmax, hcount⟩, hstate, hready, huser, -, hsend, hrun⟩ := h
    exact .inr ⟨⟨hvol, hsize, hmax, hcount⟩, hstate, hready, huser, by simp, hsend, hrun⟩
  · generalize scsiProcessCmd B s = r at hcmd
    obtain ⟨ok, s'⟩ := r
    simp only
    rcases hcmd with ⟨hok, stop, hmove⟩ | hrest
    · simp only at hok hmove
      subst hok
      rcases hmove.layout.dir with hdir | hdir
      · simp only [hdir, not_true_eq_false, if_false]
        exact .inl ⟨stop, hmove⟩
      · simp only [hdir, not_true_eq_false, if_false]
        exact .inl ⟨stop, hmove⟩
    · split
      · exact .inr hrest.sendCsw
      · split
        · exact .inr hrest
        · exact .inr hrest
        · exact .inr hrest
        · exact .inr hrest
        · exact .inr hrest.sendCsw

/-! ### Steps and runs -/

theorem Resting.schedule (h : Resting B s) : Resting B (emmcUserSchedule B s) := by
  obtain ⟨⟨hvol, hsize, hmax, hcount⟩, hstate, hready, huser, hout, hsend, hrun⟩ := h
  unfold emmcUserSchedule emmcUserDbStart
  split
  · split
    · exact ⟨⟨hvol, hsize, hmax, hcount⟩, hstate, hready, by simp, hout, hsend, hrun⟩
    · rw [if_neg (by simp [hready])]
      exact ⟨⟨hvol, hsize, hmax, hcount⟩, hstate, hready, huser, hout, hsend, hrun⟩
  · exact ⟨⟨hvol, hsize, hmax, hcount⟩, hstate, hready, huser, hout, hsend, hrun⟩

/-- A database request leaves the transfer alone. -/
theorem MscInv.queueDb (hB : B.Large) (h : MscInv B s) (write : Bool) :
    MscInv B (emmcUserQueueDb B write s) := by
  unfold emmcUserQueueDb
  rcases h with ⟨stop, h⟩ | h
  · obtain ⟨⟨hvol, hsize, hmax, hcount⟩, hlay, hop, hrem, hq, hend, hciph, hdone, hchunks⟩ := h
    split
    · exact .inl ⟨stop, ⟨hvol, hsize, hmax, hcount⟩, hlay, hop, hrem, hq, hend, hciph, hdone, hchunks⟩
    · refine .inl ⟨stop, Moving.schedule hB ?_⟩
      exact ⟨⟨hvol, hsize, hmax, hcount⟩, hlay, hop, hrem, hq, hend, hciph, hdone, hchunks⟩
  · obtain ⟨⟨hvol, hsize, hmax, hcount⟩, hstate, hready, huser, hout, hsend, hrun⟩ := h
    split
    · exact .inr ⟨⟨hvol, hsize, hmax, hcount⟩, hstate, hready, huser, hout, hsend, hrun⟩
    · refine .inr (Resting.schedule ?_)
      exact ⟨⟨hvol, hsize, hmax, hcount⟩, hstate, hready, huser, hout, hsend, hrun⟩

/-- The completion of a database request leaves the transfer alone. -/
theorem MscInv.dbDone (hB : B.Large) (h : MscInv B s) (huser : s.emmcUser = .db) (mmc : MmcPhase) :
    MscInv B (emmcUserDone B { s with mmc := mmc }) := by
  have hne : s.emmcUser ≠ .storage := by simp [huser]
  unfold emmcUserDone
  rcases h with ⟨stop, h⟩ | h
  · unfold Moving at h
    rw [mmcLag_of_ne hne] at h
    obtain ⟨⟨hvol, hsize, hmax, hcount⟩, hlay, hop, hrem, hq, hend, hciph, hdone, hchunks⟩ := h
    refine .inl ⟨stop, Moving.schedule hB ?_⟩
    refine ⟨⟨hvol, hsize, hmax, hcount⟩, hlay, hop, hrem, ?_, hend, hciph, hdone, hchunks⟩
    refine ⟨?_, ?_, fun _ hu => by simp at hu, fun hu => by simp at hu⟩
    · rintro (hr | hu)
      · exact hq.busy (.inl hr)
      · simp at hu
    · rintro (hr | ⟨hu, -⟩)
      · exact hq.chunk (.inl hr)
      · simp at hu
  · obtain ⟨⟨hvol, hsize, hmax, hcount⟩, hstate, hready, -, hout, hsend, hrun⟩ := h
    exact .inr (Resting.schedule
      ⟨⟨hvol, hsize, hmax, hcount⟩, hstate, hready, by simp, hout, hsend, hrun⟩)

/-- What the transfers do not look at. -/
theorem MscInv.of_eq {s' : Msc} (h : MscInv B s)
    (heq : { s' with visible := s.visible, writable := s.writable, failed := s.failed } = s) :
    MscInv B s' := by
  rw [← heq] at h
  rcases h with ⟨stop, h⟩ | h
  · obtain ⟨⟨hvol, hsize, hmax, hcount⟩, hlay, hop, hrem, hq, hend, hciph, hdone, hchunks⟩ := h
    exact .inl ⟨stop, ⟨hvol, hsize, hmax, hcount⟩, hlay, hop, hrem, hq, hend, hciph, hdone, hchunks⟩
  · obtain ⟨⟨hvol, hsize, hmax, hcount⟩, hstate, hready, huser, hout, hsend, hrun⟩ := h
    exact .inr ⟨⟨hvol, hsize, hmax, hcount⟩, hstate, hready, huser, hout, hsend, hrun⟩

/-- A CBW at rest. -/
theorem Resting.dataOut (hB : B.Large) (h : Resting B s) (hout : s.outEndpoint = .off)
    (hrange : (s.cbw.cb 0 = SCSI_READ10 ∨ s.cbw.cb 0 = SCSI_WRITE10) →
      scsiCheckAddressRange s.cbw.lba s.cbw.blocks s = true → 0 < s.cbw.blocks * s.scsiBlkSize →
        s.cbw.lba + s.cbw.blocks ≤ B.volumeBlocks s.cbw.bLUN.toNat) :
    MscInv B (mscBotDataOut B s) := by
  unfold mscBotDataOut
  split
  · exact h.cbwDecode hB ‹_› hout hrange
  · exact absurd ‹_› h.state.2
  · exact .inr h

/-- Data from the host during a transfer. -/
theorem Moving.dataOut (hB : B.Large) (h : Moving B s stop) (hdata : s.outEndpoint = .data) :
    MscInv B (mscBotDataOut B { s with outEndpoint := .off }) := by
  have hdir := (h.endpoints.receiving hdata).1
  have hop := h.opcode
  unfold transferOpcode at hop
  rw [hdir, if_neg (by simp)] at hop
  have hcmd : scsiProcessCmd B { s with outEndpoint := .off } =
      (true, scsiProcessWrite B { s with outEndpoint := .off }) := by
    unfold scsiProcessCmd scsiWrite10
    simp [hop, hdir, SCSI_WRITE10, SCSI_READ10, SCSI_READ_CAPACITY10]
  unfold mscBotDataOut
  simp only [hcmd, if_true]
  split
  · rename_i hidle
    rw [hdir] at hidle
    cases hidle
  · exact h.processWrite hB hdata
  · rename_i hne
    exact absurd hdir hne

/-- A packet to the host has been sent. -/
theorem MscInv.dataIn (hB : B.Large) (h : MscInv B s) : MscInv B (mscBotDataIn B s) := by
  unfold mscBotDataIn
  split
  · rename_i hdir
    rcases h with ⟨stop, h⟩ | h
    · have hop := h.opcode
      unfold transferOpcode at hop
      rw [if_pos hdir] at hop
      have hcmd : scsiProcessCmd B s = (true, scsiProcessRead B s) := by
        unfold scsiProcessCmd scsiRead10
        simp [hop, hdir, SCSI_READ10, SCSI_READ_CAPACITY10]
      simp only [hcmd, if_true]
      exact h.processRead hB hdir
    · exact absurd hdir h.state.1
  all_goals rename_i hstate
  case h_5 => exact h
  all_goals
    rcases h with ⟨stop, h⟩ | h
    · rcases h.layout.dir with hdir | hdir <;> rw [hdir] at hstate <;> cases hstate
    · exact .inr h.sendCsw

/-- The eMMC reports that the data of a write was sent. -/
theorem MscInv.dmaDone (h : MscInv B s) (huser : s.emmcUser = .db) :
    MscInv B { s with mmc := .finishing } := by
  have hne : s.emmcUser ≠ .storage := by simp [huser]
  rcases h with ⟨stop, h⟩ | h
  · unfold Moving at h
    rw [mmcLag_of_ne hne] at h
    obtain ⟨⟨hvol, hsize, hmax, hcount⟩, hlay, hop, hrem, hq, hend, hciph, hdone, hchunks⟩ := h
    refine .inl ⟨stop, ?_⟩
    unfold Moving
    rw [mmcLag_of_ne hne]
    refine ⟨⟨hvol, hsize, hmax, hcount⟩, hlay, hop, hrem, ?_, hend, hciph, hdone, hchunks⟩
    refine ⟨hq.busy, ?_, hq.excl, fun hu => absurd hu hne⟩
    rintro (hr | ⟨hu, -⟩)
    · exact hq.chunk (.inl hr)
    · exact absurd hu hne
  · obtain ⟨⟨hvol, hsize, hmax, hcount⟩, hstate, hready, huser, hout, hsend, hrun⟩ := h
    exact .inr ⟨⟨hvol, hsize, hmax, hcount⟩, hstate, hready, huser, hout, hsend, hrun⟩

/-- **One step keeps the invariant.** -/
theorem mscInv_step (hB : B.Large) (h : MscInv B s) {e : MscEvent} (hown : OwnRange B s e) :
    MscInv B (mscStep B s e) := by
  unfold mscStep
  split
  · exact h
  cases e with
  | cbwReceived c =>
    simp only
    split
    · rename_i hcbw
      rcases h with ⟨stop, h⟩ | h
      · exact absurd hcbw h.endpoints.out
      · obtain ⟨⟨hvol, hsize, hmax, hcount⟩, hstate, hready, huser, -, hsend, hrun⟩ := h
        have hrest : Resting B { s with cbw := c, outEndpoint := .off } :=
          ⟨⟨hvol, hsize, hmax, hcount⟩, hstate, hready, huser, by simp, hsend, hrun⟩
        exact hrest.dataOut hB rfl hown
    · exact h
  | dataReceived =>
    simp only
    split
    · rename_i hdata
      rcases h with ⟨stop, h⟩ | h
      · exact h.dataOut hB hdata
      · exact absurd hdata h.out
    · exact h
  | dataSent => exact h.dataIn hB
  | mmcRxCplt =>
    simp only
    split
    · rename_i hmmc
      split
      · rename_i huser
        rcases h with ⟨stop, h⟩ | h
        · exact h.mmcRxCplt hB hmmc huser
        · exact absurd huser h.user
      · exact h.dbDone hB ‹_› .idle
      · exact h.of_eq rfl
    · exact h
  | mmcTxDmaCplt =>
    simp only
    split
    · rename_i hmmc
      split
      · rename_i huser
        rcases h with ⟨stop, h⟩ | h
        · exact .inl ⟨stop, h.mmcTxDmaCplt hmmc huser⟩
        · exact absurd huser h.user
      · exact h.dmaDone ‹_›
      · exact h.of_eq rfl
    · exact h
  | mmcTxCplt =>
    simp only
    split
    · rename_i hmmc
      split
      · rename_i huser
        rcases h with ⟨stop, h⟩ | h
        · exact h.mmcTxCplt hB hmmc huser
        · exact absurd huser h.user
      · exact h.dbDone hB ‹_› .idle
      · exact h.of_eq rfl
    · exact h
  | crypOutCplt =>
    simp only
    split
    · rename_i hrun
      rcases h with ⟨stop, h⟩ | h
      · exact h.scsiIdle hB hrun
      · rw [h.ciphering] at hrun
        cases hrun
    · exact h
  | dbRequest write => exact h.queueDb hB write
  | deviceState state => exact h.of_eq rfl

theorem mscInv_run (hB : B.Large) {h : History Msc MscEvent}
    (hr : MscRun B (OwnRange B) h s) : MscInv B s := by
  refine Run.invariant (P := fun _ s => MscInv B s) ?_ ?_ hr
  · rintro _ rfl
    refine .inr ⟨⟨?_, .inl rfl, rfl, rfl⟩, ⟨by simp [mscInit], by simp [mscInit]⟩, rfl,
      by simp [mscInit], by simp [mscInit], rfl, rfl⟩
    intro t ht
    simp [mscInit] at ht
  · intro _ s e _ hown hi
    exact mscInv_step hB hi hown

/-- **Volume isolation**: as long as every accepted READ10 and WRITE10 is for a range of
    its own volume, no sector outside of the volume of its command is handed to the
    eMMC, whatever else happens. -/
theorem transfers_in_volume (hB : B.Large) {h : History Msc MscEvent}
    (hr : MscRun B (OwnRange B) h s) : ∀ t ∈ s.issued, B.InVolume t := by
  rcases mscInv_run hB hr with ⟨stop, hi⟩ | hi
  · exact hi.inVolume
  · exact hi.inVolume

/-- A READ10 or WRITE10 is for its own volume when the capacity that was asked for last
    is not larger than its volume, and the sum of the range check does not wrap. -/
theorem ownRange_of_capacity {c : Cbw} (hnbr : s.scsiBlkNbr ≤ B.volumeBlocks c.bLUN.toNat)
    (hsum : c.lba + c.blocks < 2 ^ 32) : OwnRange B s (.cbwReceived c) := by
  intro _ hcheck _
  unfold scsiCheckAddressRange at hcheck
  rw [Nat.mod_eq_of_lt hsum] at hcheck
  simp only [gt_iff_lt, not_lt, decide_eq_true_eq] at hcheck
  exact hcheck.trans hnbr

/-! ### The two volumes of the device -/

/-- The eMMC of the device. -/
def hcBoard : HcBoard where
  blockNbr := 0x3900000
  bootModeB := true

theorem large_hcBoard : hcBoard.Large := ⟨by decide, by decide⟩

/-- A well-formed CBW: opcode, LUN, direction, number of bytes, address and blocks. -/
def scsiCbw (opcode lun bmFlags : UInt8) (dDataLength : UInt32) (lba blocks : Nat) : Cbw where
  rxDataSize := USBD_BOT_CBW_LENGTH
  dSignature := USBD_BOT_CBW_SIGNATURE
  dDataLength := dDataLength
  bmFlags := bmFlags
  bLUN := lun
  bCBLength := 10
  cb := fun i =>
    if i = 0 then opcode
    else if 2 ≤ i ∧ i ≤ 5 then UInt8.ofNat (lba / 2 ^ (8 * (5 - i)))
    else if i = 7 ∨ i = 8 then UInt8.ofNat (blocks / 2 ^ (8 * (8 - i)))
    else 0

instance (s : Msc) (e : MscEvent) : Decidable (OwnRange B s e) := by
  unfold OwnRange
  cases e <;> infer_instance

/-- A WRITE10 of 40 blocks, in two chunks, at the end of the public volume. -/
def writeOwnVolume : List MscEvent :=
  [.cbwReceived (scsiCbw SCSI_READ_CAPACITY10 0 0x80 8 0 0), .dataSent,
    .cbwReceived (scsiCbw SCSI_WRITE10 0 0 20480 (256 * 65536 - 40) 40), .dataReceived,
    .dbRequest true, .dataReceived, .mmcTxDmaCplt, .mmcTxCplt, .mmcTxDmaCplt, .mmcTxCplt]

theorem transfers_in_volume_write :
    (replay (mscStep hcBoard) writeOwnVolume ([], mscInit)).2.issued.Forall hcBoard.InVolume := by
  have hrun : MscRun hcBoard anyStep (replay (mscStep hcBoard) writeOwnVolume ([], mscInit)).1
      (replay (mscStep hcBoard) writeOwnVolume ([], mscInit)).2 :=
    run_replay writeOwnVolume ([], mscInit) (.start rfl)
  rw [List.forall_iff_forall_mem]
  exact transfers_in_volume large_hcBoard (hrun.restrict (by decide +kernel))

/-- A READ10 on the public volume of the first block behind it, after the capacity of
    the encrypted volume, which is larger, was asked for. -/
def readOtherVolume : List MscEvent :=
  [.deviceState .loggedIn, .cbwReceived (scsiCbw SCSI_READ_CAPACITY10 1 0x80 8 0 0), .dataSent,
    .cbwReceived (scsiCbw SCSI_READ10 0 0x80 512 (256 * 65536) 1)]

theorem reads_other_volume : hcBoard.Large ∧ ¬ ∀ h s, MscRun hcBoard anyStep h s →
    ∀ t ∈ s.issued, hcBoard.InVolume t := by
  refine ⟨large_hcBoard, fun hall => ?_⟩
  have hrun : MscRun hcBoard anyStep (replay (mscStep hcBoard) readOtherVolume ([], mscInit)).1
      (replay (mscStep hcBoard) readOtherVolume ([], mscInit)).2 :=
    run_replay readOtherVolume ([], mscInit) (.start rfl)
  have hin := hall _ _ hrun ⟨0, false, 34080 + 256 * 65536, 1⟩ (by decide +kernel)
  have hout : ¬ (hcBoard.volumeFirst 0 ≤ 34080 + 256 * 65536 + 0 ∧
      34080 + 256 * 65536 + 0 < hcBoard.volumeEnd 0) := by decide
  exact hout (hin 0 Nat.one_pos)

end SignetBase.FirmwareHc
