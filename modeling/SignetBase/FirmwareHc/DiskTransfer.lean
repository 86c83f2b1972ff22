/-
  SignetBase/FirmwareHc/DiskTransfer.lean
  =======================================
  **A transfer carries its sectors.**

  A transfer of `blocks` sectors goes through the stages in chunks of 32 sectors, the last
  one with what is left.  `Carry` ties the counters and pointers of the three sides (USB,
  cipher, eMMC) to the number of chunks each stage has made, and the bytes on the bus, in
  the chunks and on the card to each other, sector by sector: sector `x` of the command has
  the IV of sector `lba + x` of the volume, in whichever chunk it comes.
-/
import SignetBase.FirmwareHc.Disk
import SignetBase.FirmwareHc.Pipeline
import SignetBase.FirmwareHc.VolumeIsolation

namespace SignetBase.FirmwareHc

open Function

/-! ### Sectors -/

/-- Sector `x` of a string of bytes. -/
def sector (bs : Bytes) (x : Nat) : Bytes := (bs.drop (x * 512)).take 512

/-- Sector `x` of the bytes in a list of chunks. -/
def chunkSector (chunks : List Bytes) (x : Nat) : Bytes := sector (chunks.getD (x / 32) []) (x % 32)

theorem sector_append_left {a : Bytes} (b : Bytes) {x : Nat} (h : (x + 1) * 512 ≤ a.length) :
    sector (a ++ b) x = sector a x := by
  have hx : x * 512 ≤ a.length := Nat.le_trans (Nat.mul_le_mul_right 512 (Nat.le_succ x)) h
  unfold sector
  rw [List.drop_append_of_le_length hx, List.take_append_of_le_length]
  rw [List.length_drop]
  omega

theorem sector_append_right {a : Bytes} (b : Bytes) {x y : Nat} (h : a.length = y * 512)
    (hyx : y ≤ x) :
    sector (a ++ b) x = sector b (x - y) := by
  have hnil : a.drop (x * 512) = [] := List.drop_eq_nil_of_le (by omega)
  unfold sector
  rw [List.drop_append, hnil, h, ← Nat.sub_mul, List.nil_append]

theorem length_sector {a : Bytes} {x : Nat} (h : (x + 1) * 512 ≤ a.length) :
    (sector a x).length = 512 := by
  unfold sector
  rw [List.length_take, List.length_drop]
  omega

theorem sector_read (m : Mem) (off : Nat) {x n : Nat} (h : (x + 1) * 512 ≤ n) :
    sector (m.read off n) x = m.read (off + x * 512) 512 := by
  apply List.ext_getElem
  · rw [length_sector (by rw [Mem.length_read]; exact h), Mem.length_read]
  · intro i h₁ h₂
    simp [sector, Mem.read, Nat.add_assoc]

theorem read_write_sector (m : Mem) (off : Nat) {bs : Bytes} {x : Nat}
    (h : (x + 1) * 512 ≤ bs.length) :
    (m.write off bs).read (off + x * 512) 512 = sector bs x := by
  rw [← sector_read (m.write off bs) off h, Mem.read_write m off bs _ rfl]

theorem chunkSector_append_left {chunks : List Bytes} (b : Bytes) {x : Nat}
    (h : x / 32 < chunks.length) : chunkSector (chunks ++ [b]) x = chunkSector chunks x := by
  unfold chunkSector
  rw [List.getD_append _ _ _ _ h]

theorem chunkSector_append_last {chunks : List Bytes} (b : Bytes) {x : Nat}
    (h : x / 32 = chunks.length) : chunkSector (chunks ++ [b]) x = sector b (x % 32) := by
  unfold chunkSector
  rw [h, List.getD_append_right _ _ _ _ (Nat.le_refl _), Nat.sub_self]
  rfl

/-! ### Chunks of 32 sectors -/

/-- The number of chunks of a transfer. -/
def numChunks (blocks : Nat) : Nat := (blocks + 31) / 32

def lastChunk (blocks : Nat) : Nat := (blocks - (numChunks blocks - 1) * 32) * 512

/-- The length of chunk `k`. -/
def chunkLen (blocks k : Nat) : Nat :=
  Pipeline.chunkSize USB_BULK_BUFFER_SIZE (numChunks blocks) (lastChunk blocks) k

/-- The bytes of a transfer that are not in the first `c` chunks. -/
def bytesLeft (blocks c : Nat) : Nat := blocks * 512 - c * USB_BULK_BUFFER_SIZE

theorem lastChunk_le (blocks : Nat) : lastChunk blocks ≤ USB_BULK_BUFFER_SIZE := by
  unfold lastChunk numChunks USB_BULK_BUFFER_SIZE
  omega

variable {blocks c x : Nat}

theorem numChunks_pos (h : 1 ≤ blocks) : 1 ≤ numChunks blocks := by
  unfold numChunks
  omega

/-- A chunk is what is left, or a full buffer. -/
theorem chunkLen_eq (hc : c < numChunks blocks) :
    chunkLen blocks c = min (bytesLeft blocks c) USB_BULK_BUFFER_SIZE := by
  unfold numChunks at hc
  unfold chunkLen Pipeline.chunkSize bytesLeft lastChunk numChunks USB_BULK_BUFFER_SIZE
  split <;> omega

theorem chunkLen_sectors (hc : c < numChunks blocks) :
    chunkLen blocks c = min (blocks - c * 32) 32 * 512 := by
  rw [chunkLen_eq hc]
  unfold bytesLeft USB_BULK_BUFFER_SIZE
  omega

theorem chunkLen_le (blocks c : Nat) : chunkLen blocks c ≤ USB_BULK_BUFFER_SIZE :=
  Pipeline.chunkSize_le (lastChunk_le blocks) c

theorem bytesLeft_succ (hc : c < numChunks blocks) :
    bytesLeft blocks (c + 1) = bytesLeft blocks c - chunkLen blocks c := by
  rw [chunkLen_eq hc]
  unfold bytesLeft USB_BULK_BUFFER_SIZE
  omega

theorem bytesLeft_eq_zero (hc : c < numChunks blocks) :
    bytesLeft blocks (c + 1) = 0 ↔ c + 1 = numChunks blocks := by
  unfold numChunks at hc ⊢
  unfold bytesLeft USB_BULK_BUFFER_SIZE
  omega

theorem chunkLen_le_bytesLeft (hc : c < numChunks blocks) :
    chunkLen blocks c ≤ bytesLeft blocks c := by
  rw [chunkLen_eq hc]
  exact Nat.min_le_left _ _

theorem bytesLeft_numChunks (blocks : Nat) : bytesLeft blocks (numChunks blocks) = 0 := by
  unfold bytesLeft numChunks USB_BULK_BUFFER_SIZE
  omega

/-- Sector `x` is in chunk `x / 32`. -/
theorem div_lt_numChunks (h : x < blocks) : x / 32 < numChunks blocks := by
  unfold numChunks
  omega

theorem sector_in_chunk (h : x < blocks) : (x % 32 + 1) * 512 ≤ chunkLen blocks (x / 32) := by
  rw [chunkLen_sectors (div_lt_numChunks h)]
  omega

/-! ### What was written last -/

/-- The bytes of the last WRITE10 in the list that covered a sector of a volume. -/
def lastWritten : List Completed → Nat → Nat → Option Bytes
  | [], _, _ => none
  | t :: log, lun, x =>
    if t.write = true ∧ t.lun = lun ∧ t.lba ≤ x ∧ x < t.lba + t.blocks then
      some (sector t.data (x - t.lba))
    else lastWritten log lun x

variable (B : HcBoard) (K : DiskKey)

/-- The bytes of a sector as the card has them. -/
def toCard (lun x : Nat) (bs : Bytes) : Bytes :=
  if encrypted B lun then K.cryp true (K.deriveIv x) bs else bs

/-- The sectors that were written, but for those of `except`, are on the card. -/
def Stored (log : List Completed) (card : Mem) (except : Nat → Nat → Prop) : Prop :=
  ∀ lun x bs, lastWritten log lun x = some bs → bs.length = 512 ∧ lun < MAX_SCSI_VOLUMES ∧
    x < B.volumeBlocks lun ∧
    (¬except lun x → card.read ((B.volumeFirst lun + x) * 512) 512 = toCard B K lun x bs)

/-- A command that has come to its end: all bytes were transferred, and a READ10 has returned
    what was written last. -/
structure Faithful (older : List Completed) (t : Completed) : Prop where
  left : t.left = 0
  total : t.data.length = t.blocks * 512
  reads : t.write = false → ∀ k < t.blocks, ∀ bs, lastWritten older t.lun (t.lba + k) = some bs →
    sector t.data k = bs

/-- All commands of the list are `Faithful`. -/
def AllFaithful (log : List Completed) : Prop :=
  ∀ t older, t :: older <:+ log → Faithful older t

/-! ### The sides of a transfer -/

def usbStage (out : Bool) (n : Nat) : Nat := if out then 0 else n - 1

def cardStage (out : Bool) (n : Nat) : Nat := if out then n - 1 else 0

/-- The stages whose chunks go over the bus and whose chunks are on the card. -/
def usbSource (out : Bool) (n : Nat) : Nat := if out then 0 else n - 2

def cardSource (out : Bool) (n : Nat) : Nat := if out then n - 2 else 0

/-- What does not change during a transfer. -/
structure Setup (out : Bool) (n : Nat) (s : Msc) : Prop where
  layout : Layout s.botState n s.processStage
  dir : s.botState = if out then .dataOut else .dataIn
  stages : n = if encrypted B s.cbw.bLUN.toNat then 3 else 2
  opcode : transferOpcode s.botState (s.cbw.cb 0)
  capacity : s.scsiBlkSize = 512 ∨ s.scsiBlkNbr = 0
  lun : s.cbw.bLUN.toNat < MAX_SCSI_VOLUMES
  pos : 1 ≤ s.cbw.blocks
  range : s.cbw.lba + s.cbw.blocks ≤ B.volumeBlocks s.cbw.bLUN.toNat
  sound : s.failed = false

/-- The side of the bus, whose stage has made `c` chunks. -/
structure UsbSide (out running : Bool) (c stage buffer : Nat) (s : Msc) (writeBuffer : Nat) :
    Prop where
  left : s.scsiBlkLen = bytesLeft s.cbw.blocks c
  notCbw : s.outEndpoint ≠ .cbw
  receiving : s.outEndpoint = .data ↔ out = true ∧ running = true
  sending : s.usbTransmitting = true ↔ out = false ∧ running = true
  given : running = true →
    s.stageIdx = stage ∧ s.writeLen = chunkLen s.cbw.blocks c ∧ writeBuffer = buffer

/-- The side of the card; `mmcLag` is 1 while a chunk that was written is counted but not
    passed on. -/
structure CardSide (out running : Bool) (c stage buffer : Nat) (s : Msc)
    (mmcBuffer halBuffer : Nat) : Prop where
  left : s.mmcDataToTransfer = (bytesLeft s.cbw.blocks (c + mmcLag s.emmcUser s.mmc) : Nat)
  addr : s.mmcBlockAddr * 512 + bytesLeft s.cbw.blocks (c + mmcLag s.emmcUser s.mmc) =
    (s.cbw.lba + s.cbw.blocks) * 512
  waits : (s.emmcReadyStorage = true ∨ s.emmcUser = .storage) ↔ running = true
  excl : s.emmcReadyStorage = true → s.emmcUser ≠ .storage
  phase : s.emmcUser = .storage →
    if out then s.mmc = .writing ∨ s.mmc = .finishing else s.mmc = .reading
  given : running = true →
    s.mmcStageIdx = stage ∧ s.mmcReadLen = chunkLen s.cbw.blocks c ∧ mmcBuffer = buffer
  hal : s.emmcUser = .storage → halBuffer = buffer ∧ s.issued.headD ⟨0, false, 0, 0⟩ =
    ⟨s.cbw.bLUN.toNat, out, B.volumeFirst s.cbw.bLUN.toNat + s.cbw.lba + c * 32,
      chunkLen s.cbw.blocks c / 512⟩

/-- The side of the cipher, which has done `k` sectors of its chunk. -/
structure CrypSide (out running : Bool) (c bufferRead bufferWrite : Nat) (d : Disk) : Prop where
  left : d.msc.cryptDataToTransfer = (bytesLeft d.msc.cbw.blocks c : Nat)
  active : d.msc.crypRunning = true ↔ running = true
  idle : running = false → c < numChunks d.msc.cbw.blocks → d.curAesSector = d.msc.cbw.lba + c * 32
  given : running = true →
    d.msc.cryptStageIdx = 1 ∧ d.msc.cryptTxLen = chunkLen d.msc.cbw.blocks c ∧ d.aesEncrypt = out
  sectors : running = true → ∃ k, (k + d.msc.scsiNumAesSector) * 512 = chunkLen d.msc.cbw.blocks c ∧
    0 < d.msc.scsiNumAesSector ∧ d.aesRead = bufferRead + k * 512 ∧
    d.aesWrite = bufferWrite + k * 512 ∧ d.curAesSector = d.msc.cbw.lba + c * 32 + k ∧
    d.curAesIv = K.deriveIv d.curAesSector ∧
    ∀ j < k, d.bufferStorage.read (bufferWrite + j * 512) 512 =
      K.cryp out (K.deriveIv (d.msc.cbw.lba + c * 32 + j))
        (d.bufferStorage.read (bufferRead + j * 512) 512)

/-- The sectors on the bus, in the chunks and on the card. -/
structure Passed (out : Bool) (n first lba blocks : Nat) (made : Nat → List Bytes) (lag : Nat)
    (moved : Bytes) (card : Mem) : Prop where
  length : moved.length + bytesLeft blocks (made (usbStage out n)).length = blocks * 512
  moved : ∀ x < blocks, x / 32 < (made (usbStage out n)).length →
    sector moved x = chunkSector (made (usbSource out n)) x
  cryp : n = 3 → ∀ x < blocks, x / 32 < (made 1).length →
    chunkSector (made 1) x = K.cryp out (K.deriveIv (lba + x)) (chunkSector (made 0) x)
  card : ∀ x < blocks, x / 32 < (made (cardStage out n)).length + lag →
    card.read ((first + lba + x) * 512) 512 = chunkSector (made (cardSource out n)) x

/-- The sectors that the current WRITE10 has overwritten. -/
def Overwritten (out : Bool) (c : Cbw) (chunks : Nat) (lun x : Nat) : Prop :=
  out = true ∧ lun = c.bLUN.toNat ∧ c.lba ≤ x ∧ x < c.lba + c.blocks ∧ (x - c.lba) / 32 < chunks

/-- The ring of the device is the one of a pipeline. -/
structure Ringed (blocks : Nat) (settled : Nat → Prop) (fifo : BufferFIFO) (bufferStorage : Mem)
    (p : Pipeline) : Prop where
  flow : p.Flow (numChunks blocks) (lastChunk blocks) settled
  whole : p.Whole (numChunks blocks) (lastChunk blocks)
  tight : p.Tight
  fifo : p.fifo = fifo
  storage : p.bufferStorage = bufferStorage
  max : p.fifo.maxBufferSize = USB_BULK_BUFFER_SIZE
  buffers : p.fifo.bufferCount = USB_BULK_BUFFER_COUNT
  processing : p.fifo.processing = true
  stallIndex : p.fifo.stallIndex < p.fifo.numStages
  completed : p.completed = 0

/-- A transfer is in progress. -/
structure Carry (out : Bool) (settled : Nat → Prop) (p : Pipeline) (d : Disk) : Prop where
  ring : Ringed d.msc.cbw.blocks settled d.msc.fifo d.bufferStorage p
  setup : Setup B out p.fifo.numStages d.msc
  usb : UsbSide out (p.running (usbStage out p.fifo.numStages))
    (p.count (usbStage out p.fifo.numStages)) (usbStage out p.fifo.numStages)
    (p.bufferWrite (usbStage out p.fifo.numStages)) d.msc d.writeBuffer
  card : CardSide B out (p.running (cardStage out p.fifo.numStages))
    (p.count (cardStage out p.fifo.numStages)) (cardStage out p.fifo.numStages)
    (if out then p.bufferRead (cardStage out p.fifo.numStages)
      else p.bufferWrite (cardStage out p.fifo.numStages)) d.msc d.mmcBuffer d.halBuffer
  cryp : p.fifo.numStages = 3 →
    CrypSide K out (p.running 1) (p.count 1) (p.bufferRead 1) (p.bufferWrite 1) d
  plain : p.fifo.numStages ≠ 3 → d.msc.crypRunning = false
  passed : Passed K out p.fifo.numStages (B.volumeFirst d.msc.cbw.bLUN.toNat) d.msc.cbw.lba
    d.msc.cbw.blocks p.made (mmcLag d.msc.emmcUser d.msc.mmc) d.moved d.card
  stored : Stored B K d.log d.card (Overwritten out d.msc.cbw
    (p.count (cardStage out p.fifo.numStages) + mmcLag d.msc.emmcUser d.msc.mmc))

/-- No transfer is in progress. -/
structure Rest (d : Disk) : Prop where
  state : d.msc.botState ≠ .dataIn ∧ d.msc.botState ≠ .dataOut
  ready : d.msc.emmcReadyStorage = false
  user : d.msc.emmcUser ≠ .storage
  out : d.msc.outEndpoint ≠ .data
  sending : d.msc.usbTransmitting = false
  cryp : d.msc.crypRunning = false
  max : d.msc.fifo.maxBufferSize = USB_BULK_BUFFER_SIZE
  buffers : d.msc.fifo.bufferCount = USB_BULK_BUFFER_COUNT
  capacity : d.msc.scsiBlkSize = 512 ∨ d.msc.scsiBlkNbr = 0
  stored : Stored B K d.log d.card fun _ _ => False
  sound : d.msc.failed = false

/-- The invariant. -/
def DiskInv (d : Disk) : Prop :=
  AllFaithful d.log ∧
    (Rest B K d ∨ ∃ out p, Carry B K out (fun _ => True) p d ∧
      ∃ i < p.fifo.numStages, p.running i = true)

variable {B K} {out : Bool} {settled : Nat → Prop} {p : Pipeline} {d : Disk} {i : Nat}

/-! ### The ring -/

section Ringed

variable {fifo : BufferFIFO} {m : Mem}

theorem stallStage_keeps (bf : BufferFIFO) (c : Prop) [Decidable c] (i : Nat) :
    (if c then bf.stallStage i else bf).maxBufferSize = bf.maxBufferSize ∧
      (if c then bf.stallStage i else bf).bufferCount = bf.bufferCount ∧
      (if c then bf.stallStage i else bf).processing = bf.processing ∧
      (if c then bf.stallStage i else bf).stallIndex = bf.stallIndex ∧
      (if c then bf.stallStage i else bf).numStages = bf.numStages := by
  split
  · exact ⟨rfl, rfl, rfl, rfl, rfl⟩
  · exact ⟨rfl, rfl, rfl, rfl, rfl⟩

/-- A stage that is not stalled neither runs nor has run out of chunks. -/
theorem Ringed.ready (h : Ringed blocks settled fifo m p) (hi : i < p.fifo.numStages)
    (hs : fifo.stageStalled i = false) :
    p.running i = false ∧ p.count i < numChunks blocks ∧ p.fifo.CanAdvance p.count i := by
  rw [← h.fifo] at hs
  have hflags : p.fifo.stageProcessing i = false ∧ p.fifo.stalled i = false := by
    unfold BufferFIFO.stageStalled at hs
    split at hs
    · cases hs
    · rename_i hflags
      simpa using hflags
  have hproc := h.flow.processing i hi
  rw [hflags.1, hflags.2] at hproc
  refine ⟨by simpa using hproc.symm, h.flow.unstalled i hi hflags.2, ?_⟩
  exact h.flow.ring.canAdvance_of_not_stalled hi hs

theorem Ringed.execStage (h : Ringed blocks settled fifo m p) (hi : i < p.fifo.numStages)
    (hs : fifo.stageStalled i = false) :
    Ringed blocks (fun j => settled j ∨ j = i) (fifo.beginStage i) m (p.execStage i) := by
  have hwake : p.wake i = p.execStage i := by
    unfold Pipeline.wake
    rw [h.fifo, hs, if_neg Bool.false_ne_true]
  have hflow := h.flow.wake hi
  have hwhole := h.whole.wake i
  have htight := h.tight.wake i
  rw [hwake] at hflow hwhole htight
  refine ⟨hflow, hwhole, htight, ?_, h.storage, h.max, h.buffers, h.processing, h.stallIndex,
    h.completed⟩
  change p.fifo.beginStage i = _
  rw [h.fifo]

theorem Ringed.stalled (h : Ringed blocks settled fifo m p) (hi : i < p.fifo.numStages)
    (hs : fifo.stageStalled i = true) : Ringed blocks (fun j => settled j ∨ j = i) fifo m p := by
  have hwake : p.wake i = p := by
    unfold Pipeline.wake
    rw [h.fifo, hs, if_pos rfl]
  have hflow := h.flow.wake hi
  rw [hwake] at hflow
  exact ⟨hflow, h.whole, h.tight, h.fifo, h.storage, h.max, h.buffers, h.processing, h.stallIndex,
    h.completed⟩

/-- A stage completes its chunk. -/
theorem Ringed.pass (h : Ringed blocks (fun _ => True) fifo m p) (hi : i < p.fifo.numStages)
    (hrun : p.running i = true) {m' : Mem}
    (hw : ({ p with bufferStorage := m' } : Pipeline).Whole (numChunks blocks) (lastChunk blocks)) :
    Ringed blocks (fun j => j ≠ i ∧ j ≠ (i + 1) % p.fifo.numStages)
      ((if p.count i + 1 = numChunks blocks then fifo.stallStage i else fifo).advance i
        (chunkLen blocks (p.count i))) m'
      (p.pass (numChunks blocks) m' i (chunkLen blocks (p.count i))) := by
  obtain ⟨hflow, hwhole, htight⟩ := h.flow.pass h.tight hi hrun hw
  rw [h.max] at hflow hwhole htight
  rw [← h.fifo]
  have hp : p.pass (numChunks blocks) m' i (chunkLen blocks (p.count i)) = {
      fifo := (if p.count i + 1 = numChunks blocks then p.fifo.stallStage i else p.fifo).advance i
        (chunkLen blocks (p.count i))
      bufferStorage := m'
      running := update p.running i false
      taken := p.taken
      made := (p.pass (numChunks blocks) m' i (chunkLen blocks (p.count i))).made
      stalls := (p.pass (numChunks blocks) m' i (chunkLen blocks (p.count i))).stalls
      completed := p.completed } := rfl
  obtain ⟨h₁, h₂, h₃, h₄, h₅⟩ := stallStage_keeps p.fifo (p.count i + 1 = numChunks blocks) i
  refine ⟨hflow, hwhole, htight, by rw [hp], by rw [hp], ?_, ?_, ?_, ?_, ?_⟩
  · rw [hp]
    exact h₁.trans h.max
  · rw [hp]
    exact h₂.trans h.buffers
  · rw [hp]
    exact h₃.trans h.processing
  · rw [hp]
    exact h₄.trans_lt (h.stallIndex.trans_eq h₅.symm)
  · rw [hp]
    exact h.completed

theorem Ringed.maxBufferSize (h : Ringed blocks settled fifo m p) :
    fifo.maxBufferSize = USB_BULK_BUFFER_SIZE := h.fifo ▸ h.max

theorem count_lt_of_canAdvance (h0 : i ≠ 0) (hcan : p.fifo.CanAdvance p.count i) :
    p.count i < p.count (i - 1) := by
  unfold BufferFIFO.CanAdvance at hcan
  rwa [if_neg h0] at hcan

/-- A stage is given the next chunk of the stage before it. -/
theorem Ringed.readSize (h : Ringed blocks settled fifo m p) (hi : i < p.fifo.numStages)
    (h0 : i ≠ 0) (hcan : p.fifo.CanAdvance p.count i) :
    fifo.readSize i = chunkLen blocks (p.count i) := by
  have hlt := count_lt_of_canAdvance h0 hcan
  obtain ⟨j, rfl⟩ := Nat.exists_eq_succ_of_ne_zero h0
  rw [← h.fifo, h.flow.ring.readSize_succ hi hlt, h.max]
  rfl

/-- The chunk that a stage reads is in its buffer. -/
theorem Ringed.chunk (h : Ringed blocks settled fifo m p) (hi : i < p.fifo.numStages)
    (h0 : i ≠ 0) (hcan : p.fifo.CanAdvance p.count i) :
    m.read (p.bufferRead i) (chunkLen blocks (p.count i)) = (p.made (i - 1)).getD (p.count i) [] := by
  have hlt := count_lt_of_canAdvance h0 hcan
  obtain ⟨j, rfl⟩ := Nat.exists_eq_succ_of_ne_zero h0
  have hlt : p.count (j + 1) < (p.made j).length := hlt
  have hread := h.flow.read_index hi 0
  rw [Nat.add_zero, Nat.add_zero] at hread
  have hchunk := h.whole j hi (p.count (j + 1)) hlt (Nat.le_refl _)
  rw [h.storage, h.max] at hchunk
  change m.read (p.bufferRead (j + 1)) _ = (p.made j).getD (p.count (j + 1)) []
  rw [List.getD_eq_getElem _ _ hlt, ← hchunk]
  unfold Pipeline.bufferRead
  rw [hread, h.max]
  rfl

end Ringed

/-! ### The stages are started -/

theorem control_of_issued {f : Msc → Msc} (h : (f d.msc).issued = d.msc.issued) :
    d.control f = { d with msc := f d.msc } := by
  unfold Disk.control
  rw [if_pos h]

section Setup

variable {n : Nat} {s : Msc}

theorem Setup.bounds (h : Setup B out n s) : 2 ≤ n ∧ n ≤ 3 := by
  rw [h.stages]
  split <;> omega

theorem Setup.usb (h : Setup B out n s) :
    s.processStage (usbStage out n) = if out then .usbWrite else .usbRead := by
  have hdir := h.dir
  have hlayout := h.layout
  rw [hdir] at hlayout
  cases out
  · cases hlayout <;> assumption
  · cases hlayout <;> assumption

theorem Setup.card (h : Setup B out n s) :
    s.processStage (cardStage out n) = if out then .mmcWrite else .mmcRead := by
  have hdir := h.dir
  have hlayout := h.layout
  rw [hdir] at hlayout
  cases out
  · cases hlayout <;> assumption
  · cases hlayout <;> assumption

theorem Setup.cryp (h : Setup B out n s) (hn : n = 3) :
    s.processStage 1 = if out then .encrypt else .decrypt := by
  have hdir := h.dir
  have hlayout := h.layout
  rw [hdir] at hlayout
  subst hn
  cases out
  · cases hlayout
    assumption
  · cases hlayout
    assumption

/-- Every stage is one of the three. -/
theorem Setup.stage (h : Setup B out n s) (hi : i < n) :
    i = usbStage out n ∨ i = cardStage out n ∨ n = 3 ∧ i = 1 := by
  have hn := h.bounds
  unfold usbStage cardStage
  cases out
  · simp only [Bool.false_eq_true, if_false]
    omega
  · simp only [if_true]
    omega

/-- The three are different. -/
theorem Setup.apart (h : Setup B out n s) : usbStage out n < n ∧ cardStage out n < n ∧
    cardStage out n ≠ usbStage out n ∧
    (n = 3 → 1 ≠ usbStage out n ∧ 1 ≠ cardStage out n) := by
  have hn := h.bounds
  unfold usbStage cardStage
  cases out
  · simp only [Bool.false_eq_true, if_false]
    omega
  · simp only [if_true]
    omega

end Setup

theorem running_execStage {j : Nat} (h : j ≠ i) : (p.execStage i).running j = p.running j :=
  update_of_ne h _ _

/-- The buffers of a stage. -/
theorem Carry.bufferAt (h : Carry B K out settled p d) (i : Nat) :
    d.bufferAt (d.msc.fifo.stageReadIndex i) = p.bufferRead i ∧
      d.bufferAt (d.msc.fifo.stageWriteIndex i) = p.bufferWrite i := by
  unfold Disk.bufferAt Pipeline.bufferRead Pipeline.bufferWrite
  rw [h.ring.fifo]
  exact ⟨rfl, rfl⟩

theorem running_execStage_self : (p.execStage i).running i = true := update_self _ _ _

/-- The stage of the bus is started. -/
theorem Carry.execUsb (h : Carry B K out settled p d)
    (hs : d.msc.fifo.stageStalled (usbStage out p.fifo.numStages) = false) :
    Carry B K out (fun j => settled j ∨ j = usbStage out p.fifo.numStages)
      (p.execStage (usbStage out p.fifo.numStages))
      (d.execStage B K (usbStage out p.fifo.numStages)) := by
  have hn := h.setup.bounds
  obtain ⟨husb, -, hcard, hcryp⟩ := h.setup.apart
  obtain ⟨hrun, hlt, hcan⟩ := h.ring.ready husb hs
  have hring := h.ring.execStage husb hs
  have hmax := h.ring.maxBufferSize
  have hread := fun h0 => h.ring.readSize husb h0 hcan
  have hstage := h.setup.usb
  have hbuffer := (h.bufferAt (usbStage out p.fifo.numStages)).2
  obtain ⟨-, ⟨h₁, h₂, h₃, h₄, h₅, h₆, h₇, h₈, h₉⟩, hu, hc, hy, hplain, hpassed, hstored⟩ := h
  rw [← running_execStage hcard] at hc
  unfold Disk.execStage
  rw [hbuffer, hstage]
  cases out with
  | true =>
    have hlen : (if d.msc.scsiBlkLen ≤ d.msc.fifo.maxBufferSize then d.msc.scsiBlkLen
        else d.msc.fifo.maxBufferSize) =
        chunkLen d.msc.cbw.blocks (p.count (usbStage true p.fifo.numStages)) := by
      rw [chunkLen_eq hlt, hu.left, hmax, Nat.min_def]
    rw [control_of_issued rfl]
    refine ⟨hring, ⟨h₁, h₂, h₃, h₄, h₅, h₆, h₇, h₈, h₉⟩, ?_,
      ⟨hc.left, hc.addr, hc.waits, hc.excl, hc.phase, hc.given, hc.hal⟩, ?_, hplain, hpassed, hstored⟩
    · refine ⟨hu.left, (fun hcbw => by cases hcbw), ?_, ?_, fun _ => ⟨rfl, hlen, rfl⟩⟩
      · exact ⟨fun _ => ⟨rfl, running_execStage_self⟩, fun _ => rfl⟩
      · have hsend := hu.sending
        rw [hrun] at hsend
        refine ⟨fun hsent => ?_, fun hfalse => by cases hfalse.1⟩
        cases (hsend.mp hsent).2
    · intro h3
      have hy := hy h3
      rw [← running_execStage (hcryp h3).1] at hy
      exact ⟨hy.left, hy.active, hy.idle, hy.given, hy.sectors⟩
  | false =>
    have hlen : d.msc.fifo.readSize (usbStage false p.fifo.numStages) =
        chunkLen d.msc.cbw.blocks (p.count (usbStage false p.fifo.numStages)) := by
      refine hread ?_
      unfold usbStage
      rw [if_neg Bool.false_ne_true]
      omega
    rw [control_of_issued rfl]
    refine ⟨hring, ⟨h₁, h₂, h₃, h₄, h₅, h₆, h₇, h₈, h₉⟩, ?_,
      ⟨hc.left, hc.addr, hc.waits, hc.excl, hc.phase, hc.given, hc.hal⟩, ?_, hplain, hpassed, hstored⟩
    · refine ⟨hu.left, hu.notCbw, ?_, ?_, fun _ => ⟨rfl, hlen, rfl⟩⟩
      · have hreceive := hu.receiving
        rw [hrun] at hreceive
        refine ⟨fun hdata => ?_, fun hfalse => by cases hfalse.1⟩
        cases (hreceive.mp hdata).2
      · exact ⟨fun _ => ⟨rfl, running_execStage_self⟩, fun _ => rfl⟩
    · intro h3
      have hy := hy h3
      rw [← running_execStage (hcryp h3).1] at hy
      exact ⟨hy.left, hy.active, hy.idle, hy.given, hy.sectors⟩

theorem runStage_cryp {readLen : Nat} (hmod : readLen % 512 = 0) (stageIdx : Nat) (s : Msc) :
    runStage B (if out then .encrypt else .decrypt) readLen stageIdx s =
      { s with
        cryptStageIdx := stageIdx, cryptTxLen := readLen, scsiNumAesSector := readLen / 512
        crypRunning := true } := by
  cases out
  · exact if_pos hmod
  · exact if_pos hmod

theorem setBuffers_cryp (bufferRead bufferWrite : Nat) :
    d.setBuffers K (if out then .encrypt else .decrypt) bufferRead bufferWrite =
      { d with
        aesRead := bufferRead, aesWrite := bufferWrite, aesEncrypt := out
        curAesIv := K.deriveIv d.curAesSector } := by
  cases out <;> rfl

/-- The cipher is started. -/
theorem Carry.execCryp (h : Carry B K out settled p d) (h3 : p.fifo.numStages = 3)
    (hs : d.msc.fifo.stageStalled 1 = false) :
    Carry B K out (fun j => settled j ∨ j = 1) (p.execStage 1) (d.execStage B K 1) := by
  obtain ⟨-, -, -, hcryp⟩ := h.setup.apart
  obtain ⟨hne, hne'⟩ := hcryp h3
  obtain ⟨hrun, hlt, hcan⟩ := h.ring.ready (by omega) hs
  have hring := h.ring.execStage (i := 1) (by omega) hs
  have hread := h.ring.readSize (by omega) Nat.one_ne_zero hcan
  have hstage := h.setup.cryp h3
  obtain ⟨hbufferRead, hbufferWrite⟩ := h.bufferAt 1
  have hlen := chunkLen_sectors hlt
  have hblocks : p.count 1 * 32 < d.msc.cbw.blocks := by
    unfold numChunks at hlt
    omega
  have hmod : chunkLen d.msc.cbw.blocks (p.count 1) % 512 = 0 := by
    rw [hlen]
    exact Nat.mul_mod_left _ _
  obtain ⟨-, ⟨h₁, h₂, h₃, h₄, h₅, h₆, h₇, h₈, h₉⟩, hu, hc, hy, -, hpassed, hstored⟩ := h
  rw [← running_execStage hne.symm] at hu
  rw [← running_execStage hne'.symm] at hc
  have hy := hy h3
  have hsector := hy.idle hrun hlt
  unfold Disk.execStage
  rw [hbufferRead, hbufferWrite, hread, hstage, setBuffers_cryp, control_of_issued]
  · rw [runStage_cryp hmod]
    refine ⟨hring, ⟨h₁, h₂, h₃, h₄, h₅, h₆, h₇, h₈, h₉⟩,
      ⟨hu.left, hu.notCbw, hu.receiving, hu.sending, hu.given⟩,
      ⟨hc.left, hc.addr, hc.waits, hc.excl, hc.phase, hc.given, hc.hal⟩, fun _ => ?_,
      fun hne3 => absurd h3 hne3, hpassed, hstored⟩
    refine ⟨hy.left, ⟨fun _ => running_execStage_self, fun _ => rfl⟩, ?_, fun _ => ⟨rfl, rfl, rfl⟩,
      fun _ => ⟨0, ?_, ?_, by rw [Nat.zero_mul]; rfl, by rw [Nat.zero_mul]; rfl,
        by rw [Nat.add_zero]; exact hsector, rfl, ?_⟩⟩
    · intro hfalse
      rw [running_execStage_self] at hfalse
      cases hfalse
    · change (0 + chunkLen d.msc.cbw.blocks (p.count 1) / 512) * 512 =
        chunkLen d.msc.cbw.blocks (p.count 1)
      omega
    · change 0 < chunkLen d.msc.cbw.blocks (p.count 1) / 512
      rw [hlen]
      omega
    · intro j hj
      exact absurd hj (Nat.not_lt_zero j)
  · rw [runStage_cryp hmod]

/-- The first sector of chunk `c`. -/
theorem bytesLeft_first {addr lba : Nat} (hc : c < numChunks blocks)
    (h : addr * 512 + bytesLeft blocks c = (lba + blocks) * 512) : addr = lba + c * 32 := by
  unfold numChunks at hc
  unfold bytesLeft USB_BULK_BUFFER_SIZE at h
  omega

/-- The state of the eMMC changes, but the chunk that waits for it or has it stays. -/
theorem Carry.emmc (h : Carry B K out settled p d) {user : EmmcUser} {ready readyDb write : Bool}
    {mmc : MmcPhase} {issued : List Issue} {halBuffer : Nat}
    (hlag : mmcLag user mmc = mmcLag d.msc.emmcUser d.msc.mmc)
    (hwaits : (ready = true ∨ user = .storage) ↔
      p.running (cardStage out p.fifo.numStages) = true)
    (hexcl : ready = true → user ≠ .storage)
    (hphase : user = .storage → if out then mmc = .writing ∨ mmc = .finishing else mmc = .reading)
    (hhal : user = .storage → halBuffer = (if out then p.bufferRead (cardStage out p.fifo.numStages)
        else p.bufferWrite (cardStage out p.fifo.numStages)) ∧
      issued.headD ⟨0, false, 0, 0⟩ = ⟨d.msc.cbw.bLUN.toNat, out,
        B.volumeFirst d.msc.cbw.bLUN.toNat + d.msc.cbw.lba +
          p.count (cardStage out p.fifo.numStages) * 32,
        chunkLen d.msc.cbw.blocks (p.count (cardStage out p.fifo.numStages)) / 512⟩) :
    Carry B K out settled p { d with
      msc := { d.msc with
        emmcUser := user
        emmcReadyStorage := ready
        emmcReadyDb := readyDb
        dbActionWrite := write
        mmc := mmc
        issued := issued }
      halBuffer := halBuffer } := by
  obtain ⟨hring, ⟨h₁, h₂, h₃, h₄, h₅, h₆, h₇, h₈, h₉⟩, hu, hc, hy, hplain, hpassed, hstored⟩ := h
  have hleft := hc.left
  have haddr := hc.addr
  rw [← hlag] at hleft haddr hpassed hstored
  refine ⟨hring, ⟨h₁, h₂, h₃, h₄, h₅, h₆, h₇, h₈, h₉⟩,
    ⟨hu.left, hu.notCbw, hu.receiving, hu.sending, hu.given⟩,
    ⟨hleft, haddr, hwaits, hexcl, hphase, hc.given, hhal⟩, fun h3 => ?_, hplain, hpassed, hstored⟩
  have hy := hy h3
  exact ⟨hy.left, hy.active, hy.idle, hy.given, hy.sectors⟩

/-- The address `emmc_user_storage_start` computes. -/
theorem address_eq (hB : B.Large) {lun x : Nat} (h : x < B.volumeBlocks lun) :
    (x + storageFirstBlock + (B.volume lun).regionStart * HcBoard.regionSizeBlocks) % 2 ^ 32 =
      B.volumeFirst lun + x := by
  rw [hB.volumeBlocks_eq] at h
  have hend := hB.volumeEnd_le lun
  have haddr := hB.addressable
  unfold HcBoard.volumeEnd at hend
  unfold HcBoard.volumeFirst at hend ⊢
  rw [Nat.mod_eq_of_lt (by omega)]
  omega

/-- The eMMC starts the chunk that waits, or a database request, or nothing. -/
theorem Carry.schedule (hB : B.Large) (h : Carry B K out settled p d) :
    Carry B K out settled p (d.control (emmcUserSchedule B)) := by
  by_cases huser : d.msc.emmcUser = .none
  · have hlag : mmcLag d.msc.emmcUser d.msc.mmc = 0 := mmcLag_of_ne (by rw [huser]; decide) _
    have hwaits := h.card.waits
    rw [huser] at hwaits
    by_cases hdb : d.msc.emmcReadyDb = true
    · have heq : emmcUserSchedule B d.msc = { d.msc with
          emmcUser := .db
          emmcReadyDb := false
          mmc := if d.msc.dbActionWrite then .writing else .reading } := by
        unfold emmcUserSchedule
        rw [if_pos huser, if_pos hdb]
        rfl
      rw [control_of_issued (by rw [heq]), heq]
      refine h.emmc (hlag ▸ mmcLag_of_ne (by decide) _) ?_ (fun _ => by decide)
        (fun hfalse => by cases hfalse) (fun hfalse => by cases hfalse)
      rw [← hwaits]
      simp
    · by_cases hready : d.msc.emmcReadyStorage = true
      · have hrun := hwaits.mp (.inl hready)
        obtain ⟨-, hcardStage, -, -⟩ := h.setup.apart
        have hlt := (h.ring.flow.runs _ hcardStage hrun).2
        have hdir := h.setup.dir
        have hd : d.msc.botState = .dataIn ∨ d.msc.botState = .dataOut := by
          rw [hdir]
          cases out
          · exact .inl rfl
          · exact .inr rfl
        have heq : emmcUserSchedule B d.msc = { d.msc with
            emmcUser := .storage
            emmcReadyStorage := false
            mmc := if d.msc.botState = .dataIn then .reading else .writing
            issued := mmcIssue (B := B) d.msc :: d.msc.issued } := by
          unfold emmcUserSchedule
          rw [if_pos huser, if_neg hdb, if_pos hready, emmcUserStorageStart_eq (by exact hd)]
          rfl
        have hcontrol : d.control (emmcUserSchedule B) =
            { d with msc := emmcUserSchedule B d.msc, halBuffer := d.mmcBuffer } := by
          unfold Disk.control
          rw [if_neg]
          rw [heq]
          exact List.cons_ne_self _ _
        rw [hcontrol, heq]
        obtain ⟨-, hlen, hbuffer⟩ := h.card.given hrun
        have haddr := h.card.addr
        rw [hlag, Nat.add_zero] at haddr
        refine h.emmc ?_ ⟨fun _ => hrun, fun _ => .inr rfl⟩ (fun hfalse => by cases hfalse) ?_
          (fun _ => ⟨hbuffer, ?_⟩)
        · rw [hlag]
          apply mmcLag_of_phase
          split <;> decide
        · intro _
          rw [hdir]
          cases out
          · rfl
          · exact .inl rfl
        · change mmcIssue (B := B) d.msc = _
          have hrange := h.setup.range
          have hin : d.msc.cbw.lba + p.count (cardStage out p.fifo.numStages) * 32 <
              B.volumeBlocks d.msc.cbw.bLUN.toNat := by
            unfold numChunks at hlt
            omega
          unfold mmcIssue
          rw [hlen, bytesLeft_first hlt haddr, address_eq hB hin, hdir, Nat.add_assoc]
          cases out <;> rfl
      · have heq : emmcUserSchedule B d.msc = d.msc := by
          unfold emmcUserSchedule
          rw [if_pos huser, if_neg hdb, if_neg hready]
        rw [control_of_issued (by rw [heq]), heq]
        exact h
  · have heq : emmcUserSchedule B d.msc = d.msc := by
      unfold emmcUserSchedule
      rw [if_neg huser]
    rw [control_of_issued (by rw [heq]), heq]
    exact h

/-- A function that ends in `emmc_user_schedule`. -/
theorem control_schedule {f : Msc → Msc} {s : Msc} (hf : f d.msc = emmcUserSchedule B s)
    (hissued : s.issued = d.msc.issued) (hbot : s.botState = d.msc.botState) :
    d.control f = ({ d with msc := s } : Disk).control (emmcUserSchedule B) := by
  unfold Disk.control Disk.mmcBuffer
  rw [hf]
  dsimp only
  rw [hissued, hbot]

/-- How many bytes the stage of the eMMC transfers. -/
def cardLen (out : Bool) (readLen : Nat) (s : Msc) : Nat :=
  if out then readLen
  else if s.mmcDataToTransfer ≤ s.fifo.maxBufferSize then s.mmcDataToTransfer.toNat
  else s.fifo.maxBufferSize

theorem runStage_card (readLen stageIdx : Nat) (s : Msc) :
    runStage B (if out then .mmcWrite else .mmcRead) readLen stageIdx s =
      emmcUserQueueStorage B
        { s with mmcStageIdx := stageIdx, mmcReadLen := cardLen out readLen s } := by
  cases out <;> rfl

theorem setBuffers_card (bufferRead bufferWrite : Nat) :
    d.setBuffers K (if out then .mmcWrite else .mmcRead) bufferRead bufferWrite =
      { d with
        mmcBufferRead := if out then d.mmcBufferRead else bufferWrite
        mmcBufferWrite := if out then bufferRead else d.mmcBufferWrite } := by
  cases out <;> rfl

/-- The stage of the eMMC is started. -/
theorem Carry.execCard (hB : B.Large) (h : Carry B K out settled p d)
    (hs : d.msc.fifo.stageStalled (cardStage out p.fifo.numStages) = false) :
    Carry B K out (fun j => settled j ∨ j = cardStage out p.fifo.numStages)
      (p.execStage (cardStage out p.fifo.numStages))
      (d.execStage B K (cardStage out p.fifo.numStages)) := by
  obtain ⟨-, hcard, husb, hcryp⟩ := h.setup.apart
  obtain ⟨hrun, hlt, hcan⟩ := h.ring.ready hcard hs
  have hring := h.ring.execStage hcard hs
  have hwaits := h.card.waits
  rw [hrun] at hwaits
  have hready : d.msc.emmcReadyStorage = false := by
    cases hready : d.msc.emmcReadyStorage with
    | false => rfl
    | true => cases hwaits.mp (.inl hready)
  have huser : d.msc.emmcUser ≠ .storage := fun huser => by cases hwaits.mp (.inr huser)
  have hlen : cardLen out (d.msc.fifo.readSize (cardStage out p.fifo.numStages)) d.msc =
      chunkLen d.msc.cbw.blocks (p.count (cardStage out p.fifo.numStages)) := by
    have hn := h.setup.bounds
    cases out with
    | true =>
      refine h.ring.readSize hcard ?_ hcan
      unfold cardStage
      rw [if_pos rfl]
      omega
    | false =>
      have hleft := h.card.left
      rw [mmcLag_of_ne huser, Nat.add_zero] at hleft
      unfold cardLen
      rw [if_neg Bool.false_ne_true, hleft, h.ring.maxBufferSize, chunkLen_eq hlt, Nat.min_def]
      simp only [Int.ofNat_le, Int.toNat_natCast]
  have hstage := h.setup.card
  have hdir := h.setup.dir
  obtain ⟨hbufferRead, hbufferWrite⟩ := h.bufferAt (cardStage out p.fifo.numStages)
  obtain ⟨-, ⟨h₁, h₂, h₃, h₄, h₅, h₆, h₇, h₈, h₉⟩, hu, hc, hy, hplain, hpassed, hstored⟩ := h
  rw [← running_execStage husb.symm] at hu
  unfold Disk.execStage
  rw [hbufferRead, hbufferWrite, hstage, setBuffers_card]
  -- the chunk waits for the eMMC; then the eMMC may start it
  rw [control_schedule (s := { d.msc with
    fifo := d.msc.fifo.beginStage (cardStage out p.fifo.numStages)
    mmcStageIdx := cardStage out p.fifo.numStages
    mmcReadLen := cardLen out (d.msc.fifo.readSize (cardStage out p.fifo.numStages)) d.msc
    emmcReadyStorage := true })]
  · refine Carry.schedule hB ⟨hring, ⟨h₁, h₂, h₃, h₄, h₅, h₆, h₇, h₈, h₉⟩,
      ⟨hu.left, hu.notCbw, hu.receiving, hu.sending, hu.given⟩, ?_, ?_, hplain, hpassed, hstored⟩
    · refine ⟨hc.left, hc.addr, ⟨fun _ => running_execStage_self, fun _ => .inl rfl⟩,
        fun _ => huser, hc.phase, fun _ => ⟨rfl, hlen, ?_⟩, fun hstorage => absurd hstorage huser⟩
      change (if d.msc.botState = .dataIn then _ else _) = _
      rw [hdir]
      cases out <;> rfl
    · intro h3
      have hy := hy h3
      rw [← running_execStage (hcryp h3).2] at hy
      exact ⟨hy.left, hy.active, hy.idle, hy.given, hy.sectors⟩
  · rw [runStage_card]
    unfold emmcUserQueueStorage
    rw [if_neg (by rw [hready]; decide)]
    rfl
  · rfl
  · rfl

/-- **A stage that is not stalled is started.** -/
theorem Carry.execUnlessStalled (hB : B.Large) (h : Carry B K out settled p d)
    (hi : i < p.fifo.numStages) :
    Carry B K out (fun j => settled j ∨ j = i) (p.wake i) (d.execUnlessStalled B K i) := by
  have hfifo := h.ring.fifo
  unfold Pipeline.wake Disk.execUnlessStalled
  rw [hfifo]
  cases hs : d.msc.fifo.stageStalled i with
  | true =>
    rw [if_pos rfl, if_pos rfl]
    exact ⟨h.ring.stalled hi hs, h.setup, h.usb, h.card, h.cryp, h.plain, h.passed, h.stored⟩
  | false =>
    rw [if_neg Bool.false_ne_true, if_neg Bool.false_ne_true]
    rcases h.setup.stage hi with rfl | rfl | ⟨h3, rfl⟩
    · exact h.execUsb hs
    · exact h.execCard hB hs
    · exact h.execCryp h3 hs

/-! ### The end of a transfer -/

theorem DiskKey.length_deriveIv (K : DiskKey) (id : Nat) : (K.deriveIv id).length = AES_BLK_SIZE := by
  unfold DiskKey.deriveIv
  rw [Mem.length_read]

/-- Decryption gives the sector back. -/
theorem DiskKey.cryp_cryp (hinv : BlockInverse K.enc K.dec) {iv bs : Bytes}
    (hiv : iv.length = AES_BLK_SIZE) (hbs : bs.length = 512) :
    K.cryp false iv (K.cryp true iv bs) = bs :=
  cbcDecrypt_cbcEncrypt hinv (512 / AES_BLK_SIZE) hiv hbs

/-- When the last stage has made all chunks the others have, too. -/
theorem Carry.allDone (h : Carry B K out settled p d)
    (hlast : p.count (p.fifo.numStages - 1) = numChunks d.msc.cbw.blocks) {j : Nat}
    (hj : j < p.fifo.numStages) :
    p.count j = numChunks d.msc.cbw.blocks ∧ p.running j = false := by
  have hle : p.count (p.fifo.numStages - 1) ≤ p.count j :=
    h.ring.flow.ring.count_le (by omega) (by omega)
  have hcount : p.count j = numChunks d.msc.cbw.blocks :=
    le_antisymm (h.ring.flow.sizes j hj).1 (hlast ▸ hle)
  refine ⟨hcount, ?_⟩
  cases hrun : p.running j with
  | false => rfl
  | true => exact absurd (h.ring.flow.runs j hj hrun).2 (by omega)

/-- All bytes of the command have gone over the bus. -/
theorem Carry.total (h : Carry B K out settled p d)
    (hlast : p.count (p.fifo.numStages - 1) = numChunks d.msc.cbw.blocks) :
    d.moved.length = d.msc.cbw.blocks * 512 := by
  obtain ⟨husb, -, -, -⟩ := h.setup.apart
  have hlen := h.passed.length
  have hcount := (h.allDone hlast husb).1
  unfold Pipeline.count at hcount
  rwa [hcount, bytesLeft_numChunks] at hlen

/-- At the end all sectors have gone over the bus and are on the card, encrypted if need be. -/
theorem Carry.sectors (h : Carry B K out settled p d)
    (hlast : p.count (p.fifo.numStages - 1) = numChunks d.msc.cbw.blocks) {x : Nat}
    (hx : x < d.msc.cbw.blocks) :
    d.card.read ((B.volumeFirst d.msc.cbw.bLUN.toNat + d.msc.cbw.lba + x) * 512) 512 =
        chunkSector (p.made (cardSource out p.fifo.numStages)) x ∧
      sector d.moved x = chunkSector (p.made (usbSource out p.fifo.numStages)) x ∧
      (encrypted B d.msc.cbw.bLUN.toNat = true → chunkSector (p.made 1) x =
        K.cryp out (K.deriveIv (d.msc.cbw.lba + x)) (chunkSector (p.made 0) x)) := by
  have hn := h.setup.bounds
  obtain ⟨husb, hcard, -, -⟩ := h.setup.apart
  have hin := div_lt_numChunks hx
  refine ⟨h.passed.card x hx ?_, h.passed.moved x hx ?_, fun henc => h.passed.cryp ?_ x hx ?_⟩
  · have := (h.allDone hlast hcard).1
    unfold Pipeline.count at this
    omega
  · have := (h.allDone hlast husb).1
    unfold Pipeline.count at this
    omega
  · rw [h.setup.stages, if_pos henc]
  · have hone : 1 < p.fifo.numStages := by omega
    have := (h.allDone hlast hone).1
    unfold Pipeline.count at this
    omega

/-- **A transfer that has come to its end was a faithful one.** -/
theorem Carry.faithful (hinv : BlockInverse K.enc K.dec) (h : Carry B K out settled p d)
    (hlast : p.count (p.fifo.numStages - 1) = numChunks d.msc.cbw.blocks) :
    Faithful d.log d.completed := by
  obtain ⟨-, hcard, -, -⟩ := h.setup.apart
  obtain ⟨hcountCard, hrunCard⟩ := h.allDone hlast hcard
  refine ⟨?_, ?_, ?_⟩
  · have huser : d.msc.emmcUser ≠ .storage := by
      intro huser
      have := h.card.waits.mp (.inr huser)
      rw [hrunCard] at this
      cases this
    have hleft := h.card.left
    rw [mmcLag_of_ne huser, Nat.add_zero, hcountCard, bytesLeft_numChunks] at hleft
    exact hleft
  · exact h.total hlast
  · intro hread k hk bs hbs
    have hout : out = false := by
      have hdir := h.setup.dir
      cases out with
      | false => rfl
      | true =>
        change decide (d.msc.botState = .dataOut) = false at hread
        rw [hdir] at hread
        cases hread
    subst hout
    obtain ⟨hlen, -, -, hstored⟩ := h.stored _ _ _ hbs
    have honcard := hstored (fun hover => by cases hover.1)
    obtain ⟨hcardx, hbus, hcryp⟩ := h.sectors hlast hk
    change d.card.read ((B.volumeFirst d.msc.cbw.bLUN.toNat + (d.msc.cbw.lba + k)) * 512) 512 =
      toCard B K d.msc.cbw.bLUN.toNat (d.msc.cbw.lba + k) bs at honcard
    rw [← Nat.add_assoc, hcardx] at honcard
    change sector d.moved k = bs
    rw [hbus]
    have hstages := h.setup.stages
    unfold cardSource at honcard
    unfold usbSource
    unfold toCard at honcard
    rw [if_neg Bool.false_ne_true] at honcard ⊢
    by_cases henc : encrypted B d.msc.cbw.bLUN.toNat = true
    · rw [if_pos henc] at hstages honcard
      rw [hstages, hcryp henc, honcard]
      exact DiskKey.cryp_cryp hinv (K.length_deriveIv _) hlen
    · rw [if_neg henc] at hstages honcard
      rw [hstages, honcard]

/-- **Afterwards the card has what was written last.** -/
theorem Carry.storedLast (h : Carry B K out settled p d)
    (hlast : p.count (p.fifo.numStages - 1) = numChunks d.msc.cbw.blocks) :
    Stored B K (d.completed :: d.log) d.card fun _ _ => False := by
  intro lun x bs hbs
  unfold lastWritten at hbs
  split at hbs
  · rename_i hcovers
    obtain ⟨hwrite, rfl, hlo, hhi⟩ := hcovers
    change d.msc.cbw.lba ≤ x at hlo
    change x < d.msc.cbw.lba + d.msc.cbw.blocks at hhi
    change some (sector d.moved (x - d.msc.cbw.lba)) = some bs at hbs
    have hout : out = true := by
      have hdir := h.setup.dir
      cases out with
      | true => rfl
      | false =>
        change decide (d.msc.botState = .dataOut) = true at hwrite
        rw [hdir] at hwrite
        cases hwrite
    subst hout
    have hk : x - d.msc.cbw.lba < d.msc.cbw.blocks := by omega
    obtain ⟨hcardx, hbus, hcryp⟩ := h.sectors hlast hk
    have hmoved : d.moved.length = d.msc.cbw.blocks * 512 := h.total hlast
    rw [← Option.some.inj hbs]
    refine ⟨length_sector (by rw [hmoved]; omega), h.setup.lun, ?_, fun _ => ?_⟩
    · have := h.setup.range
      change x < B.volumeBlocks d.msc.cbw.bLUN.toNat
      omega
    · change d.card.read ((B.volumeFirst d.msc.cbw.bLUN.toNat + x) * 512) 512 =
        toCard B K d.msc.cbw.bLUN.toNat x _
      have hx : d.msc.cbw.lba + (x - d.msc.cbw.lba) = x := by omega
      rw [Nat.add_assoc, hx] at hcardx
      rw [hx] at hcryp
      rw [hcardx, hbus]
      have hstages := h.setup.stages
      unfold cardSource usbSource toCard
      rw [if_pos rfl, if_pos rfl]
      by_cases henc : encrypted B d.msc.cbw.bLUN.toNat = true
      · rw [if_pos henc] at hstages ⊢
        rw [hstages]
        exact hcryp henc
      · rw [if_neg henc] at hstages ⊢
        rw [hstages]
  · rename_i hcovers
    obtain ⟨hlen, hlun, hin, hstored⟩ := h.stored lun x bs hbs
    refine ⟨hlen, hlun, hin, fun _ => hstored ?_⟩
    rintro ⟨rfl, rfl, hlo, hhi, -⟩
    refine hcovers ⟨?_, rfl, hlo, hhi⟩
    change decide (d.msc.botState = .dataOut) = true
    rw [h.setup.dir]
    rfl

theorem AllFaithful.cons {log : List Completed} {t : Completed} (h : AllFaithful log)
    (ht : Faithful log t) : AllFaithful (t :: log) := by
  intro t' older hsuffix
  rcases List.suffix_cons_iff.mp hsuffix with heq | hsuffix
  · obtain ⟨rfl, rfl⟩ := List.cons.inj heq
    exact ht
  · exact h t' older hsuffix

/-- **The end of `bufferFIFO_processingComplete`**: the transfer goes on, or it is at its end and
    the command is answered. -/
theorem Carry.completeIfStalled (hinv : BlockInverse K.enc K.dec) (hlog : AllFaithful d.log)
    (h : Carry B K out (fun _ => True) p d) : DiskInv B K d.completeIfStalled := by
  have hring := h.ring
  have hn := h.setup.bounds
  have hstopped : p.fifo.stalled (p.fifo.numStages - 1) = true →
      p.running (p.fifo.numStages - 1) = false := by
    intro hs
    cases hrun : p.running (p.fifo.numStages - 1) with
    | false => rfl
    | true =>
      rw [hring.tight _ (by omega) hrun] at hs
      cases hs
  have hending := hring.flow.ending hstopped (fun _ => hring.stallIndex)
    (.inl ⟨hring.processing, hring.completed⟩)
  have hflow := hring.flow.finish
  have hfifo := hring.fifo
  have hproc : d.msc.fifo.processing = true := hfifo ▸ hring.processing
  unfold Pipeline.finish at hending hflow
  rw [if_pos hring.processing] at hending hflow
  dsimp only at hending hflow
  unfold Disk.completeIfStalled FirmwareHc.completeIfStalled
  rw [if_pos hproc]
  dsimp only
  rw [hfifo] at hending hflow
  by_cases hend : d.msc.fifo.skipStalled.stallIndex = d.msc.fifo.numStages
  · have hend' : d.msc.fifo.skipStalled.stallIndex = d.msc.fifo.skipStalled.numStages := hend
    rw [if_pos hend'] at hending
    rw [if_pos hend', if_pos ⟨hproc, hend⟩]
    have hlast : p.count (p.fifo.numStages - 1) = numChunks d.msc.cbw.blocks := by
      have hcompleted := hending.completed
      change p.completed + 1 = if p.count (d.msc.fifo.numStages - 1) = numChunks d.msc.cbw.blocks
        then 1 else 0 at hcompleted
      rw [hfifo]
      by_contra hne
      rw [if_neg hne] at hcompleted
      cases hcompleted
    have hfaithful := h.faithful hinv hlast
    have hzero : d.msc.mmcDataToTransfer = 0 := hfaithful.left
    obtain ⟨husb, hcard, -, -⟩ := h.setup.apart
    have hwaits := h.card.waits
    rw [(h.allDone hlast hcard).2] at hwaits
    have hsending := h.usb.sending
    rw [(h.allDone hlast husb).2] at hsending
    unfold transferComplete
    rw [if_pos hzero]
    refine ⟨hlog.cons hfaithful, .inl ⟨⟨show BotState.idle ≠ .dataIn by decide,
      show BotState.idle ≠ .dataOut by decide⟩, ?_, ?_, show OutEndpoint.cbw ≠ .data by decide,
      ?_, ?_, ?_, ?_, h.setup.capacity, h.storedLast hlast, h.setup.sound⟩⟩
    · change d.msc.emmcReadyStorage = false
      cases hready : d.msc.emmcReadyStorage with
      | false => rfl
      | true => cases hwaits.mp (.inl hready)
    · exact fun huser => by cases hwaits.mp (.inr huser)
    · change d.msc.usbTransmitting = false
      cases hsend : d.msc.usbTransmitting with
      | false => rfl
      | true => cases (hsending.mp hsend).2
    · change d.msc.crypRunning = false
      by_cases h3 : p.fifo.numStages = 3
      · have hone : 1 < p.fifo.numStages := by omega
        have hactive := (h.cryp h3).active
        rw [(h.allDone hlast hone).2] at hactive
        cases hrun : d.msc.crypRunning with
        | false => rfl
        | true => cases hactive.mp hrun
      · exact h.plain h3
    · exact hring.maxBufferSize
    · change d.msc.fifo.bufferCount = _
      rw [← hfifo]
      exact hring.buffers
  · have hend' : ¬d.msc.fifo.skipStalled.stallIndex = d.msc.fifo.skipStalled.numStages := hend
    rw [if_neg hend'] at hending hflow
    rw [if_neg hend', if_neg fun hc => hend hc.2]
    have hkeep : d.msc.fifo.skipStalled = { p.fifo with
        stallIndex := d.msc.fifo.skipStalled.stallIndex } := by
      rw [hfifo]
      rfl
    obtain ⟨-, ⟨h₁, h₂, h₃, h₄, h₅, h₆, h₇, h₈, h₉⟩, hu, hc, hy, hplain, hpassed, hstored⟩ := h
    rw [hkeep] at hending hflow ⊢
    refine ⟨hlog, .inr ⟨out, _, ⟨⟨hflow, hring.whole, hring.tight, rfl, hring.storage,
      hring.max, hring.buffers, hring.processing, ?_, hring.completed⟩,
      ⟨h₁, h₂, h₃, h₄, h₅, h₆, h₇, h₈, h₉⟩,
      ⟨hu.left, hu.notCbw, hu.receiving, hu.sending, hu.given⟩,
      ⟨hc.left, hc.addr, hc.waits, hc.excl, hc.phase, hc.given, hc.hal⟩, ?_, hplain, hpassed,
      hstored⟩, (hflow.orderly hending).live ⟨p.fifo.numStages - 1, ?_, ?_⟩⟩⟩
    · exact hending.stallIndex hring.processing
    · intro h3
      have hy := hy h3
      exact ⟨hy.left, hy.active, hy.idle, hy.given, hy.sectors⟩
    · change p.fifo.numStages - 1 < p.fifo.numStages
      omega
    · have hne := of_decide_eq_true (hending.processing.symm.trans hring.processing)
      have hlast : p.fifo.numStages - 1 < p.fifo.numStages := by omega
      exact lt_of_le_of_ne (hring.flow.sizes _ hlast).1 hne

end SignetBase.FirmwareHc
