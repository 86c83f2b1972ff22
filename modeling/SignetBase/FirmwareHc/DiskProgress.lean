/-
  SignetBase/FirmwareHc/DiskProgress.lean
  =======================================
  **Every command comes to its end.**

  A completion moves bytes over the bus, through the cipher or to the eMMC, is the second one of
  a write, belongs to the database, or finishes a sector.  `workLeft` counts them: each completion
  that is due lowers it, and only a request of the database raises it.  So after so many of them
  the command has ended, with its bytes as `DiskRuns.lean` says (`read_after_write`).
-/
import SignetBase.FirmwareHc.DiskRuns

namespace SignetBase.FirmwareHc

open Function

variable {B : HcBoard} {K : DiskKey} {out : Bool} {settled : Nat → Prop} {p : Pipeline} {d : Disk}
  {i : Nat} {s s' : Msc}

/-! ### What is left to do -/

/-- The bytes that the three sides still have to transfer, and the end of a write of the eMMC. -/
def Msc.toMove (s : Msc) : Nat :=
  s.scsiBlkLen + s.mmcDataToTransfer.toNat + s.cryptDataToTransfer.toNat +
    mmcLag s.emmcUser s.mmc

/-- The completions that the database waits for. -/
def dbPhase (user : EmmcUser) (mmc : MmcPhase) : Nat :=
  if user = .db then if mmc = .writing then 2 else 1 else 0

def Msc.dbWork (s : Msc) : Nat := (if s.emmcReadyDb then 3 else 0) + dbPhase s.emmcUser s.mmc

/-- The sectors of the chunk that the cipher has under way. -/
def Msc.sectorsLeft (s : Msc) : Nat := if s.crypRunning then s.scsiNumAesSector else 0

/-- More completions than `workLeft` do not come before the command has ended. -/
def Msc.workLeft (s : Msc) : Nat := 256 * s.toMove + 33 * s.dbWork + s.sectorsLeft

theorem dbPhase_le (user : EmmcUser) (mmc : MmcPhase) : dbPhase user mmc ≤ 2 := by
  unfold dbPhase
  split
  · split
    · exact Nat.le_refl 2
    · exact Nat.le_succ 1
  · exact Nat.zero_le 2

theorem mmcLag_le (user : EmmcUser) (mmc : MmcPhase) : mmcLag user mmc ≤ 1 := by
  unfold mmcLag
  split
  · exact Nat.le_refl 1
  · exact Nat.zero_le 1

theorem dbWork_le (s : Msc) : s.dbWork ≤ 5 := by
  have hphase := dbPhase_le s.emmcUser s.mmc
  unfold Msc.dbWork
  split
  · omega
  · omega

theorem workLeft_lt_of_toMove (hmove : s'.toMove < s.toMove) (hsectors : s'.sectorsLeft ≤ 32) :
    s'.workLeft < s.workLeft := by
  have hdb := dbWork_le s'
  unfold Msc.workLeft
  omega

theorem workLeft_lt_of_dbWork (hmove : s'.toMove = s.toMove) (hdb : s'.dbWork < s.dbWork)
    (hsectors : s'.sectorsLeft = s.sectorsLeft) : s'.workLeft < s.workLeft := by
  unfold Msc.workLeft
  omega

/-! ### What a stage leaves alone when it is started -/

/-- The counters of the transfer are the same, and no write has come to its second completion. -/
structure SameCounters (s s' : Msc) : Prop where
  cbw : s'.cbw = s.cbw
  blkLen : s'.scsiBlkLen = s.scsiBlkLen
  mmcData : s'.mmcDataToTransfer = s.mmcDataToTransfer
  cryptData : s'.cryptDataToTransfer = s.cryptDataToTransfer
  finishing : s.mmc ≠ .finishing → s'.mmc ≠ .finishing

/-- The same command is carried out. -/
structure SameTransfer (s s' : Msc) : Prop extends SameCounters s s' where
  bot : s'.botState = s.botState

theorem SameCounters.trans {s'' : Msc} (h : SameCounters s s') (h' : SameCounters s' s'') :
    SameCounters s s'' :=
  ⟨h'.cbw.trans h.cbw, h'.blkLen.trans h.blkLen, h'.mmcData.trans h.mmcData,
    h'.cryptData.trans h.cryptData, fun hmmc => h'.finishing (h.finishing hmmc)⟩

theorem SameTransfer.refl (s : Msc) : SameTransfer s s := ⟨⟨rfl, rfl, rfl, rfl, id⟩, rfl⟩

theorem SameTransfer.trans {s'' : Msc} (h : SameTransfer s s') (h' : SameTransfer s' s'') :
    SameTransfer s s'' := ⟨h.toSameCounters.trans h'.toSameCounters, h'.bot.trans h.bot⟩

theorem sameTransfer_schedule (s : Msc) : SameTransfer s (emmcUserSchedule B s) := by
  unfold emmcUserSchedule
  split
  · split
    · refine ⟨⟨rfl, rfl, rfl, rfl, fun _ => ?_⟩, rfl⟩
      unfold emmcUserDbStart
      dsimp only
      split <;> decide
    · split
      · unfold emmcUserStorageStart
        dsimp only
        split
        · exact ⟨⟨rfl, rfl, rfl, rfl, fun _ => show MmcPhase.reading ≠ .finishing by decide⟩, rfl⟩
        · exact ⟨⟨rfl, rfl, rfl, rfl, fun _ => show MmcPhase.writing ≠ .finishing by decide⟩, rfl⟩
        · exact ⟨⟨rfl, rfl, rfl, rfl, id⟩, rfl⟩
      · exact SameTransfer.refl s
  · exact SameTransfer.refl s

theorem sameTransfer_done (s : Msc) : SameTransfer s (emmcUserDone B s) := by
  have hfree : SameTransfer s { s with emmcUser := .none } := ⟨⟨rfl, rfl, rfl, rfl, id⟩, rfl⟩
  exact hfree.trans (sameTransfer_schedule _)

theorem sameTransfer_queueStorage (s : Msc) : SameTransfer s (emmcUserQueueStorage B s) := by
  unfold emmcUserQueueStorage
  split
  · exact ⟨⟨rfl, rfl, rfl, rfl, id⟩, rfl⟩
  · have hready : SameTransfer s { s with emmcReadyStorage := true } :=
      ⟨⟨rfl, rfl, rfl, rfl, id⟩, rfl⟩
    exact hready.trans (sameTransfer_schedule _)

theorem sameTransfer_queueDb (write : Bool) (s : Msc) :
    SameTransfer s (emmcUserQueueDb B write s) := by
  unfold emmcUserQueueDb
  split
  · exact ⟨⟨rfl, rfl, rfl, rfl, id⟩, rfl⟩
  · have hready : SameTransfer s { s with dbActionWrite := write, emmcReadyDb := true } :=
      ⟨⟨rfl, rfl, rfl, rfl, id⟩, rfl⟩
    exact hready.trans (sameTransfer_schedule _)

theorem sameTransfer_runStage (stage : Stage) (readLen i : Nat) (s : Msc) :
    SameTransfer s (runStage B stage readLen i s) := by
  have hcard : ∀ len, SameTransfer s
      (emmcUserQueueStorage B { s with mmcStageIdx := i, mmcReadLen := len }) := by
    intro len
    have hgiven : SameTransfer s { s with mmcStageIdx := i, mmcReadLen := len } :=
      ⟨⟨rfl, rfl, rfl, rfl, id⟩, rfl⟩
    exact hgiven.trans (sameTransfer_queueStorage _)
  unfold runStage
  cases stage with
  | mmcRead => exact hcard _
  | mmcWrite => exact hcard _
  | usbRead => exact ⟨⟨rfl, rfl, rfl, rfl, id⟩, rfl⟩
  | usbWrite => exact ⟨⟨rfl, rfl, rfl, rfl, id⟩, rfl⟩
  | _ =>
    dsimp only
    split
    · exact ⟨⟨rfl, rfl, rfl, rfl, id⟩, rfl⟩
    · exact ⟨⟨rfl, rfl, rfl, rfl, id⟩, rfl⟩

theorem sameTransfer_execUnlessStalled (i : Nat) (s : Msc) :
    SameTransfer s (execUnlessStalled B i s) := by
  unfold execUnlessStalled
  split
  · exact SameTransfer.refl s
  · have hbegin : SameTransfer s { s with fifo := s.fifo.beginStage i } :=
      ⟨⟨rfl, rfl, rfl, rfl, id⟩, rfl⟩
    exact hbegin.trans (sameTransfer_runStage _ _ _ _)

/-- The stages that go on when a chunk was passed on. -/
theorem sameTransfer_goOn (i writeLen : Nat) (s : Msc) : SameTransfer s
    (execUnlessStalled B ((i + 1) % s.fifo.numStages)
      (execUnlessStalled B i { s with fifo := s.fifo.advance i writeLen })) := by
  have hadvance : SameTransfer s { s with fifo := s.fifo.advance i writeLen } :=
    ⟨⟨rfl, rfl, rfl, rfl, id⟩, rfl⟩
  exact (hadvance.trans (sameTransfer_execUnlessStalled _ _)).trans
    (sameTransfer_execUnlessStalled _ _)

theorem sameCounters_completeIfStalled (s : Msc) : SameCounters s (completeIfStalled s) := by
  unfold completeIfStalled transferComplete mscBotSendCsw
  dsimp only
  split_ifs <;> exact ⟨rfl, rfl, rfl, rfl, id⟩

theorem sameCounters_processingComplete (i writeLen : Nat) (s : Msc) :
    SameCounters s (processingComplete B i writeLen s) :=
  (sameTransfer_goOn i writeLen s).toSameCounters.trans (sameCounters_completeIfStalled _)

theorem sameTransfer_stallIf (c : Prop) [Decidable c] (i : Nat) (s : Msc) :
    SameTransfer s (stallIf c i s) := by
  unfold stallIf
  split
  · exact ⟨⟨rfl, rfl, rfl, rfl, id⟩, rfl⟩
  · exact SameTransfer.refl s

/-- The bytes of the three counters. -/
def Msc.counters (s : Msc) : Nat :=
  s.scsiBlkLen + s.mmcDataToTransfer.toNat + s.cryptDataToTransfer.toNat

theorem SameCounters.counters (h : SameCounters s s') : s'.counters = s.counters := by
  unfold Msc.counters
  rw [h.blkLen, h.mmcData, h.cryptData]

/-- A chunk that was passed on has lowered one counter. -/
theorem SameCounters.toMove_lt {n : Nat} (h : SameCounters s s') (hless : s.counters + 1 < n) :
    s'.toMove < n := by
  have hlag := mmcLag_le s'.emmcUser s'.mmc
  have hsame := h.counters
  unfold Msc.toMove
  unfold Msc.counters at hsame hless
  omega

/-- With no write at its end only the bytes are left. -/
theorem toMove_eq (hmmc : s.mmc ≠ .finishing) : s.toMove = s.counters := by
  unfold Msc.toMove
  rw [mmcLag_of_phase _ hmmc]
  rfl

theorem counters_le_toMove (s : Msc) : s.counters ≤ s.toMove := Nat.le_add_right _ _

/-! ### Completions that are due -/

/-- The stage of the bus has done its chunk. -/
theorem toMove_scsiProcessed (hlen : 2 ≤ min s.scsiBlkLen s.writeLen) :
    (scsiProcessed B s).toMove < s.toMove := by
  have hstall := sameTransfer_stallIf (s.scsiBlkLen - min s.scsiBlkLen s.writeLen = 0) s.stageIdx
    { s with scsiBlkLen := s.scsiBlkLen - min s.scsiBlkLen s.writeLen }
  have hsame := hstall.toSameCounters.trans
    (sameCounters_processingComplete (B := B) s.stageIdx (min s.scsiBlkLen s.writeLen) _)
  refine hsame.toMove_lt (Nat.lt_of_lt_of_le ?_ (counters_le_toMove s))
  change s.scsiBlkLen - min s.scsiBlkLen s.writeLen + s.mmcDataToTransfer.toNat +
    s.cryptDataToTransfer.toNat + 1 <
      s.scsiBlkLen + s.mmcDataToTransfer.toNat + s.cryptDataToTransfer.toNat
  omega

theorem sameCounters_mmcStageDone (s : Msc) : SameCounters s (mmcStageDone B s) := by
  have hstall := sameTransfer_stallIf (s.mmcDataToTransfer = 0) s.mmcStageIdx s
  exact (hstall.trans (sameTransfer_done _)).toSameCounters.trans
    (sameCounters_processingComplete _ _ _)

theorem mscStep_mmcTxCplt (hsound : s.failed = false) (hmmc : s.mmc = .finishing)
    (huser : s.emmcUser = .storage) :
    mscStep B s .mmcTxCplt = mmcStageDone B { s with mmc := .idle } := by
  unfold mscStep
  rw [if_neg (by rw [hsound]; decide)]
  dsimp only
  rw [if_pos hmmc]
  split
  · rfl
  · rename_i hdb
    rw [huser] at hdb
    cases hdb
  · rename_i hnone
    rw [huser] at hnone
    cases hnone

/-- The eMMC has done a write of the transfer. -/
theorem toMove_mmcTxCplt (huser : s.emmcUser = .storage) (hmmc : s.mmc = .finishing) :
    (mmcStageDone B { s with mmc := .idle }).toMove < s.toMove := by
  have hsame := sameCounters_mmcStageDone (B := B) { s with mmc := .idle }
  have hmove := toMove_eq (hsame.finishing (show MmcPhase.idle ≠ .finishing by decide))
  have hlag : mmcLag s.emmcUser s.mmc = 1 := if_pos ⟨huser, hmmc⟩
  rw [hmove, hsame.counters]
  unfold Msc.toMove
  rw [hlag]
  exact Nat.lt_succ_self _

/-- A free eMMC starts what the database asked for. -/
theorem dbWork_schedule (hnone : s.emmcUser = .none) :
    (emmcUserSchedule B s).dbWork ≤ if s.emmcReadyDb then 2 else 0 := by
  unfold emmcUserSchedule
  rw [if_pos hnone]
  cases hready : s.emmcReadyDb with
  | true =>
    rw [if_pos rfl, if_pos rfl]
    change 0 + dbPhase .db (if s.dbActionWrite then .writing else .reading) ≤ 2
    rw [Nat.zero_add]
    exact dbPhase_le _ _
  | false =>
    have hstorage : ∀ t : Msc, t.emmcReadyDb = false → t.emmcUser ≠ .db → t.dbWork ≤ 0 := by
      intro t ht huser
      unfold Msc.dbWork dbPhase
      rw [ht, if_neg Bool.false_ne_true, if_neg huser]
    rw [if_neg Bool.false_ne_true, if_neg Bool.false_ne_true]
    split
    · apply hstorage
      · unfold emmcUserStorageStart
        dsimp only
        split <;> rfl
      · unfold emmcUserStorageStart
        dsimp only
        split <;> exact fun hfalse => by cases hfalse
    · exact hstorage s hready (by rw [hnone]; decide)

theorem dbWork_schedule_le (s : Msc) : (emmcUserSchedule B s).dbWork ≤ s.dbWork := by
  by_cases hnone : s.emmcUser = .none
  · refine (dbWork_schedule hnone).trans ?_
    unfold Msc.dbWork
    split
    · exact (Nat.le_succ 2).trans (Nat.le_add_right 3 _)
    · exact Nat.zero_le _
  · unfold emmcUserSchedule
    rw [if_neg hnone]

theorem sectorsLeft_schedule (s : Msc) : (emmcUserSchedule B s).sectorsLeft = s.sectorsLeft := by
  unfold emmcUserSchedule
  split
  · split
    · rfl
    · split
      · unfold emmcUserStorageStart
        dsimp only
        split <;> rfl
      · rfl
  · rfl

theorem toMove_of_db (huser : s.emmcUser = .db) : s.toMove = s.counters := by
  unfold Msc.toMove
  rw [huser, mmcLag_of_ne (by decide)]
  rfl

/-- The eMMC has done what the database asked for. -/
theorem workLeft_dbDone (huser : s.emmcUser = .db) :
    (emmcUserDone B { s with mmc := .idle }).workLeft < s.workLeft := by
  have hsame := sameTransfer_done (B := B) { s with mmc := .idle }
  have hmmc := hsame.finishing (show MmcPhase.idle ≠ .finishing by decide)
  refine workLeft_lt_of_dbWork ?_ ?_ (sectorsLeft_schedule _)
  · rw [toMove_eq hmmc, hsame.counters, toMove_of_db huser]
    rfl
  · refine Nat.lt_of_le_of_lt (dbWork_schedule rfl) ?_
    change (if s.emmcReadyDb then 2 else 0) <
      (if s.emmcReadyDb then 3 else 0) + dbPhase s.emmcUser s.mmc
    have hpos : 1 ≤ dbPhase s.emmcUser s.mmc := by
      unfold dbPhase
      rw [if_pos huser]
      split
      · exact Nat.le_succ 1
      · exact Nat.le_refl 1
    split
    · exact Nat.lt_of_lt_of_le (Nat.lt_succ_self 2) (Nat.le_add_right 3 _)
    · exact Nat.lt_of_lt_of_le hpos (Nat.le_add_left _ 0)

/-- **The cipher has done a sector**, or a chunk. -/
theorem workLeft_usbdScsiIdle (hcryp : s.crypRunning = true) (hpos : 0 < s.scsiNumAesSector)
    (hsectors : s.scsiNumAesSector ≤ 32) (hlen : 2 ≤ s.cryptTxLen)
    (hleft : (s.cryptTxLen : Int) ≤ s.cryptDataToTransfer)
    (hafter : (usbdScsiIdle B s).sectorsLeft ≤ 32) :
    (usbdScsiIdle B s).workLeft < s.workLeft := by
  have hnum : (s.scsiNumAesSector + (2 ^ 32 - 1)) % 2 ^ 32 = s.scsiNumAesSector - 1 := by omega
  by_cases hone : s.scsiNumAesSector - 1 = 0
  · apply workLeft_lt_of_toMove _ hafter
    unfold usbdScsiIdle
    dsimp only
    rw [hnum, if_pos hone]
    have hsame := (sameTransfer_stallIf (s.cryptDataToTransfer - s.cryptTxLen = 0) s.cryptStageIdx
      { s with
        scsiNumAesSector := s.scsiNumAesSector - 1
        crypRunning := false
        cryptDataToTransfer := s.cryptDataToTransfer - s.cryptTxLen }).toSameCounters.trans
      (sameCounters_processingComplete (B := B) s.cryptStageIdx s.cryptTxLen _)
    refine hsame.toMove_lt (Nat.lt_of_lt_of_le ?_ (counters_le_toMove s))
    change s.scsiBlkLen + s.mmcDataToTransfer.toNat +
      (s.cryptDataToTransfer - s.cryptTxLen).toNat + 1 <
        s.scsiBlkLen + s.mmcDataToTransfer.toNat + s.cryptDataToTransfer.toNat
    omega
  · have hnext : usbdScsiIdle B s = { s with scsiNumAesSector := s.scsiNumAesSector - 1 } := by
      unfold usbdScsiIdle
      dsimp only
      rw [hnum, if_neg hone]
    have hbefore : s.sectorsLeft = s.scsiNumAesSector := by
      unfold Msc.sectorsLeft
      rw [if_pos hcryp]
    have hless : (usbdScsiIdle B s).sectorsLeft = s.scsiNumAesSector - 1 := by
      rw [hnext]
      unfold Msc.sectorsLeft
      dsimp only
      rw [if_pos hcryp]
    have hmove : (usbdScsiIdle B s).toMove = s.toMove := by
      rw [hnext]
      rfl
    have hdb : (usbdScsiIdle B s).dbWork = s.dbWork := by
      rw [hnext]
      rfl
    unfold Msc.workLeft
    rw [hmove, hdb, hless, hbefore]
    omega

/-! ### Events during a transfer -/

/-- The completion is due. -/
def Due (d : Disk) : Disk.DiskEvent → Prop
  | .dataReceived _ => d.msc.outEndpoint = .data
  | .dataSent => d.msc.usbTransmitting = true
  | .mmcRxCplt => d.msc.mmc = .reading
  | .mmcTxDmaCplt _ _ => d.msc.mmc = .writing
  | .mmcTxCplt => d.msc.mmc = .finishing
  | .crypOutCplt => d.msc.crypRunning = true
  | _ => False

instance (d : Disk) (e : Disk.DiskEvent) : Decidable (Due d e) :=
  match e with
  | .dataReceived _ => inferInstanceAs (Decidable (d.msc.outEndpoint = .data))
  | .dataSent => inferInstanceAs (Decidable (d.msc.usbTransmitting = true))
  | .mmcRxCplt => inferInstanceAs (Decidable (d.msc.mmc = .reading))
  | .mmcTxDmaCplt _ _ => inferInstanceAs (Decidable (d.msc.mmc = .writing))
  | .mmcTxCplt => inferInstanceAs (Decidable (d.msc.mmc = .finishing))
  | .crypOutCplt => inferInstanceAs (Decidable (d.msc.crypRunning = true))
  | .cbwReceived _ => .isFalse id
  | .dbRequest _ => .isFalse id
  | .deviceState _ => .isFalse id

/-- The completions that an event adds to those still to come. -/
def Disk.DiskEvent.adds : Disk.DiskEvent → Nat
  | .dbRequest _ => 99
  | _ => 0

theorem chunkLen_ge {blocks c : Nat} (hc : c < numChunks blocks) : 512 ≤ chunkLen blocks c := by
  rw [chunkLen_sectors hc]
  unfold numChunks at hc
  omega

theorem DiskInv.sectorsLeft_le (h : DiskInv B K d) : d.msc.sectorsLeft ≤ 32 := by
  unfold Msc.sectorsLeft
  split
  · rename_i hcryp
    obtain ⟨-, hrest | ⟨out, p, hcarry, -⟩⟩ := h
    · rw [hrest.cryp] at hcryp
      cases hcryp
    · by_cases h3 : p.fifo.numStages = 3
      · have hside := hcarry.cryp h3
        obtain ⟨k, hk, -⟩ := hside.sectors (hside.active.mp hcryp)
        have hle := chunkLen_le d.msc.cbw.blocks (p.count 1)
        unfold USB_BULK_BUFFER_SIZE at hle
        omega
      · rw [hcarry.plain h3] at hcryp
        cases hcryp
  · exact Nat.zero_le 32

/-- The stage of the bus has bytes to transfer. -/
theorem Carry.usbLen (h : Carry B K out settled p d)
    (hrun : p.running (usbStage out p.fifo.numStages) = true) :
    2 ≤ min d.msc.scsiBlkLen d.msc.writeLen := by
  have hlt := (h.ring.flow.runs _ h.setup.apart.1 hrun).2
  obtain ⟨-, hlen, -⟩ := h.usb.given hrun
  rw [hlen, h.usb.left, Nat.min_eq_right (chunkLen_le_bytesLeft hlt)]
  exact Nat.le_trans (by decide) (chunkLen_ge hlt)

/-- The eMMC has bytes to transfer. -/
theorem Carry.cardLen_le (h : Carry B K out settled p d) (huser : d.msc.emmcUser = .storage)
    (hmmc : d.msc.mmc ≠ .finishing) :
    512 ≤ d.msc.mmcReadLen ∧ (d.msc.mmcReadLen : Int) ≤ d.msc.mmcDataToTransfer := by
  obtain ⟨-, hlt, hlen, -⟩ := h.underway huser
  have hleft := h.card.left
  rw [mmcLag_of_phase _ hmmc, Nat.add_zero] at hleft
  rw [hleft, hlen]
  exact ⟨chunkLen_ge hlt, Int.ofNat_le.mpr (chunkLen_le_bytesLeft hlt)⟩

theorem mscBotDataOut_write (hop : s.cbw.cb 0 = SCSI_WRITE10) (hbot : s.botState = .dataOut) :
    mscBotDataOut B s = scsiProcessed B s := by
  unfold mscBotDataOut scsiProcessCmd scsiWrite10 scsiProcessWrite
  simp [hop, hbot, SCSI_WRITE10, SCSI_READ10, SCSI_READ_CAPACITY10]

theorem mscBotDataIn_read (hop : s.cbw.cb 0 = SCSI_READ10) (hbot : s.botState = .dataIn) :
    mscBotDataIn B s = scsiProcessRead B s := by
  unfold mscBotDataIn scsiProcessCmd scsiRead10
  simp [hop, hbot, SCSI_READ10, SCSI_READ_CAPACITY10]

theorem Carry.workLeft_dataReceived (h : Carry B K out (fun _ => True) p d)
    (hdata : d.msc.outEndpoint = .data)
    (hafter : (mscStep B d.msc .dataReceived).sectorsLeft ≤ 32) :
    (mscStep B d.msc .dataReceived).workLeft < d.msc.workLeft := by
  obtain ⟨rfl, hrun⟩ := h.usb.receiving.mp hdata
  refine workLeft_lt_of_toMove ?_ hafter
  unfold mscStep
  rw [if_neg (by rw [h.setup.sound]; decide)]
  dsimp only
  rw [if_pos hdata, mscBotDataOut_write (s := { d.msc with outEndpoint := .off })
    h.setup.write h.setup.dir]
  exact toMove_scsiProcessed (s := { d.msc with outEndpoint := .off }) (h.usbLen hrun)

theorem Carry.workLeft_dataSent (h : Carry B K out (fun _ => True) p d)
    (hsend : d.msc.usbTransmitting = true)
    (hafter : (mscStep B d.msc .dataSent).sectorsLeft ≤ 32) :
    (mscStep B d.msc .dataSent).workLeft < d.msc.workLeft := by
  obtain ⟨rfl, hrun⟩ := h.usb.sending.mp hsend
  refine workLeft_lt_of_toMove ?_ hafter
  unfold mscStep
  rw [if_neg (by rw [h.setup.sound]; decide)]
  dsimp only
  rw [mscBotDataIn_read h.setup.read h.setup.dir]
  unfold scsiProcessRead
  rw [if_pos hsend]
  exact toMove_scsiProcessed (s := { d.msc with usbTransmitting := false }) (h.usbLen hrun)

/-- The eMMC has read sectors, of the database or of the volume. -/
theorem Carry.workLeft_mmcRxCplt (h : Carry B K out (fun _ => True) p d) (hserved : Served d.msc)
    (hmmc : d.msc.mmc = .reading) (hafter : (mscStep B d.msc .mmcRxCplt).sectorsLeft ≤ 32) :
    (mscStep B d.msc .mmcRxCplt).workLeft < d.msc.workLeft := by
  unfold mscStep at hafter ⊢
  rw [if_neg (by rw [h.setup.sound]; decide)] at hafter ⊢
  dsimp only at hafter ⊢
  rw [if_pos hmmc] at hafter ⊢
  cases huser : d.msc.emmcUser with
  | none => exact absurd (hmmc.symm.trans (hserved.rests huser)) (by decide)
  | db => exact workLeft_dbDone huser
  | storage =>
    obtain ⟨hlen, hleft⟩ := h.cardLen_le huser (by rw [hmmc]; decide)
    rw [huser] at hafter
    refine workLeft_lt_of_toMove ?_ hafter
    refine (sameCounters_mmcStageDone _).toMove_lt
      (Nat.lt_of_lt_of_le ?_ (counters_le_toMove d.msc))
    change d.msc.scsiBlkLen + (d.msc.mmcDataToTransfer - d.msc.mmcReadLen).toNat +
      d.msc.cryptDataToTransfer.toNat + 1 < d.msc.scsiBlkLen + d.msc.mmcDataToTransfer.toNat +
        d.msc.cryptDataToTransfer.toNat
    omega

/-- The eMMC has taken the sectors that it writes. -/
theorem Carry.workLeft_mmcTxDmaCplt (h : Carry B K out (fun _ => True) p d)
    (hserved : Served d.msc) (hmmc : d.msc.mmc = .writing)
    (hafter : (mscStep B d.msc .mmcTxDmaCplt).sectorsLeft ≤ 32) :
    (mscStep B d.msc .mmcTxDmaCplt).workLeft < d.msc.workLeft := by
  unfold mscStep at hafter ⊢
  rw [if_neg (by rw [h.setup.sound]; decide)] at hafter ⊢
  dsimp only at hafter ⊢
  rw [if_pos hmmc] at hafter ⊢
  cases huser : d.msc.emmcUser with
  | none => exact absurd (hmmc.symm.trans (hserved.rests huser)) (by decide)
  | db =>
    refine workLeft_lt_of_dbWork ?_ ?_ rfl
    · rw [toMove_of_db huser]
      exact toMove_of_db rfl
    · have hbefore : d.msc.dbWork = (if d.msc.emmcReadyDb then 3 else 0) + 2 := by
        unfold Msc.dbWork
        rw [huser, hmmc]
        rfl
      rw [hbefore]
      exact Nat.lt_succ_self ((if d.msc.emmcReadyDb then 3 else 0) + 1)
  | storage =>
    obtain ⟨hlen, hleft⟩ := h.cardLen_le huser (by rw [hmmc]; decide)
    rw [huser] at hafter
    refine workLeft_lt_of_toMove ?_ hafter
    have hlag := mmcLag_le .storage .finishing
    unfold Msc.toMove
    change d.msc.scsiBlkLen + (d.msc.mmcDataToTransfer - d.msc.mmcReadLen).toNat +
      d.msc.cryptDataToTransfer.toNat + mmcLag .storage .finishing < _
    omega

/-- The eMMC has written them. -/
theorem Carry.workLeft_mmcTxCplt (h : Carry B K out (fun _ => True) p d) (hserved : Served d.msc)
    (hmmc : d.msc.mmc = .finishing) (hafter : (mscStep B d.msc .mmcTxCplt).sectorsLeft ≤ 32) :
    (mscStep B d.msc .mmcTxCplt).workLeft < d.msc.workLeft := by
  by_cases hstorage : d.msc.emmcUser = .storage
  · rw [mscStep_mmcTxCplt h.setup.sound hmmc hstorage] at hafter ⊢
    exact workLeft_lt_of_toMove (toMove_mmcTxCplt hstorage hmmc) hafter
  · unfold mscStep
    rw [if_neg (by rw [h.setup.sound]; decide)]
    dsimp only
    rw [if_pos hmmc]
    cases huser : d.msc.emmcUser with
    | none => exact absurd (hmmc.symm.trans (hserved.rests huser)) (by decide)
    | db => exact workLeft_dbDone huser
    | storage => exact absurd huser hstorage

/-- The cipher has a stage of its own, with a chunk in it. -/
theorem Carry.workLeft_crypOutCplt (h : Carry B K out (fun _ => True) p d)
    (hcryp : d.msc.crypRunning = true)
    (hafter : (mscStep B d.msc .crypOutCplt).sectorsLeft ≤ 32) :
    (mscStep B d.msc .crypOutCplt).workLeft < d.msc.workLeft := by
  have h3 : p.fifo.numStages = 3 := by
    by_contra hne
    rw [h.plain hne] at hcryp
    cases hcryp
  have hside := h.cryp h3
  have hrun := hside.active.mp hcryp
  have hlt := (h.ring.flow.runs 1 (by omega) hrun).2
  obtain ⟨-, hlen, -⟩ := hside.given hrun
  obtain ⟨k, hk, hpos, -⟩ := hside.sectors hrun
  have hle := chunkLen_le d.msc.cbw.blocks (p.count 1)
  have hge := chunkLen_ge hlt
  have hbytes := chunkLen_le_bytesLeft hlt
  unfold USB_BULK_BUFFER_SIZE at hle
  unfold mscStep at hafter ⊢
  rw [if_neg (by rw [h.setup.sound]; decide)] at hafter ⊢
  dsimp only at hafter ⊢
  rw [if_pos hcryp] at hafter ⊢
  refine workLeft_usbdScsiIdle hcryp hpos (by omega) (by omega) ?_ hafter
  rw [hside.left, hlen]
  exact Int.ofNat_le.mpr hbytes

/-- **A completion that is due lowers the work that is left.** -/
theorem Carry.workLeft_due (h : Carry B K out (fun _ => True) p d) (hserved : Served d.msc)
    {e : Disk.DiskEvent} (hdue : Due d e)
    (hafter : (mscStep B d.msc e.control).sectorsLeft ≤ 32) :
    (mscStep B d.msc e.control).workLeft < d.msc.workLeft := by
  cases e with
  | cbwReceived _ => cases hdue
  | dbRequest _ => cases hdue
  | deviceState _ => cases hdue
  | dataReceived _ => exact h.workLeft_dataReceived hdue hafter
  | dataSent => exact h.workLeft_dataSent hdue hafter
  | mmcRxCplt => exact h.workLeft_mmcRxCplt hserved hdue hafter
  | mmcTxDmaCplt _ _ => exact h.workLeft_mmcTxDmaCplt hserved hdue hafter
  | mmcTxCplt => exact h.workLeft_mmcTxCplt hserved hdue hafter
  | crypOutCplt => exact h.workLeft_crypOutCplt hdue hafter

/-- A request of the database adds its completions. -/
theorem workLeft_queueDb (hserved : Served s) (hready : s.emmcReadyDb = false) (write : Bool) :
    (emmcUserQueueDb B write s).workLeft ≤ s.workLeft + 99 := by
  have hqueue : emmcUserQueueDb B write s =
      emmcUserSchedule B { s with dbActionWrite := write, emmcReadyDb := true } := by
    unfold emmcUserQueueDb
    rw [hready]
    rfl
  have hsectors := sectorsLeft_schedule (B := B)
    { s with dbActionWrite := write, emmcReadyDb := true }
  have hdb := dbWork_schedule_le (B := B) { s with dbActionWrite := write, emmcReadyDb := true }
  have hsame := sameTransfer_schedule (B := B)
    { s with dbActionWrite := write, emmcReadyDb := true }
  have hmove : (emmcUserSchedule B
      { s with dbActionWrite := write, emmcReadyDb := true }).toMove = s.toMove := by
    by_cases hnone : s.emmcUser = .none
    · have hidle : s.mmc ≠ .finishing := by
        rw [hserved.rests hnone]
        decide
      rw [toMove_eq (hsame.finishing hidle), toMove_eq hidle, hsame.counters]
      rfl
    · unfold emmcUserSchedule
      rw [if_neg hnone]
      rfl
  have hbefore : Msc.dbWork { s with dbActionWrite := write, emmcReadyDb := true } =
      s.dbWork + 3 := by
    unfold Msc.dbWork
    dsimp only
    rw [hready, if_pos rfl, if_neg Bool.false_ne_true]
    omega
  have hsectors' : Msc.sectorsLeft { s with dbActionWrite := write, emmcReadyDb := true } =
      s.sectorsLeft := rfl
  rw [hqueue]
  unfold Msc.workLeft
  rw [hmove, hsectors, hsectors']
  omega

/-- No other event adds to the work that is left. -/
theorem Carry.workLeft_other (h : Carry B K out settled p d) (hserved : Served d.msc)
    {e : Disk.DiskEvent} (hdue : ¬Due d e) (honce : ¬AsksTwice d e) :
    (mscStep B d.msc e.control).workLeft ≤ d.msc.workLeft + e.adds := by
  have hdir := h.setup.dir
  have hkeep : ∀ t, t = d.msc → t.workLeft ≤ d.msc.workLeft + 0 := fun t ht => ht ▸ Nat.le_refl _
  unfold mscStep
  rw [if_neg (by rw [h.setup.sound]; decide)]
  cases e with
  | cbwReceived c => exact hkeep _ (if_neg h.usb.notCbw)
  | dataReceived data => exact hkeep _ (if_neg hdue)
  | dataSent =>
    apply hkeep
    change mscBotDataIn B d.msc = d.msc
    cases out with
    | true =>
      unfold mscBotDataIn
      rw [hdir]
      rfl
    | false =>
      rw [mscBotDataIn_read h.setup.read hdir]
      exact if_neg hdue
  | mmcRxCplt => exact hkeep _ (if_neg hdue)
  | mmcTxDmaCplt idx src => exact hkeep _ (if_neg hdue)
  | mmcTxCplt => exact hkeep _ (if_neg hdue)
  | crypOutCplt => exact hkeep _ (if_neg hdue)
  | dbRequest write => exact workLeft_queueDb hserved (Bool.not_eq_true _ ▸ honce) write
  | deviceState state => exact Nat.le_refl _

/-! ### The end of a command -/

/-- A READ10 or WRITE10 is carried out. -/
def InTransfer (s : Msc) : Prop := s.botState = .dataIn ∨ s.botState = .dataOut

/-- The entry of the list is about the command that is carried out. -/
structure Completes (d : Disk) (t : Completed) : Prop where
  lun : t.lun = d.msc.cbw.bLUN.toNat
  write : t.write = decide (d.msc.botState = .dataOut)
  lba : t.lba = d.msc.cbw.lba
  blocks : t.blocks = d.msc.cbw.blocks

/-- The command goes on, or it has come to its end and is in the list. -/
inductive Proceeds (d d' : Disk) : Prop where
  | goesOn : d'.msc.cbw = d.msc.cbw → d'.msc.botState = d.msc.botState → d'.log = d.log →
      Proceeds d d'
  | ends (t : Completed) : Completes d t → d'.log = t :: d.log →
      d'.msc.failed = true ∨ ¬InTransfer d'.msc → Proceeds d d'

theorem Proceeds.refl (d : Disk) : Proceeds d d := .goesOn rfl rfl rfl

/-- What happened before with the same command does not matter. -/
theorem Proceeds.after {d₀ d' : Disk} (h : Proceeds d d') (hcbw : d.msc.cbw = d₀.msc.cbw)
    (hbot : d.msc.botState = d₀.msc.botState) (hlog : d.log = d₀.log) : Proceeds d₀ d' := by
  cases h with
  | goesOn hcbw' hbot' hlog' =>
    exact .goesOn (hcbw'.trans hcbw) (hbot'.trans hbot) (hlog'.trans hlog)
  | ends t ht hlog' hend =>
    refine .ends t ⟨?_, ?_, ?_, ?_⟩ (hlog'.trans (by rw [hlog])) hend
    · rw [ht.lun, hcbw]
    · rw [ht.write, hbot]
    · rw [ht.lba, hcbw]
    · rw [ht.blocks, hcbw]

theorem proceeds_completeIfStalled (d : Disk) : Proceeds d d.completeIfStalled := by
  have hnum : d.msc.fifo.skipStalled.numStages = d.msc.fifo.numStages := rfl
  by_cases hend : d.msc.fifo.processing = true ∧
      d.msc.fifo.skipStalled.stallIndex = d.msc.fifo.numStages
  · obtain ⟨hproc, hstall⟩ := id hend
    refine .ends d.completed ⟨rfl, rfl, rfl, rfl⟩ (if_pos hend) ?_
    change (FirmwareHc.completeIfStalled d.msc).failed = true ∨
      ¬InTransfer (FirmwareHc.completeIfStalled d.msc)
    unfold FirmwareHc.completeIfStalled transferComplete
    dsimp only
    rw [if_pos hproc, hnum, if_pos hstall]
    split
    · refine .inr fun hin => ?_
      rcases hin with hin | hin
      · cases hin
      · cases hin
    · exact .inl rfl
  · have hkeep : (FirmwareHc.completeIfStalled d.msc).cbw = d.msc.cbw ∧
        (FirmwareHc.completeIfStalled d.msc).botState = d.msc.botState := by
      unfold FirmwareHc.completeIfStalled
      dsimp only
      split
      · rename_i hproc
        rw [hnum, if_neg fun hstall => hend ⟨hproc, hstall⟩]
        exact ⟨rfl, rfl⟩
      · exact ⟨rfl, rfl⟩
    exact .goesOn hkeep.1 hkeep.2 (if_neg hend)

theorem proceeds_processingComplete (d : Disk) (i writeLen : Nat) :
    Proceeds d (d.processingComplete B K i writeLen) := by
  have hmsc := sameTransfer_goOn (B := B) i writeLen d.msc
  unfold Disk.processingComplete
  refine (proceeds_completeIfStalled _).after ?_ ?_ ?_
  · rw [Disk.execUnlessStalled_msc, Disk.execUnlessStalled_msc]
    exact hmsc.cbw
  · rw [Disk.execUnlessStalled_msc, Disk.execUnlessStalled_msc]
    exact hmsc.bot
  · rw [log_execUnlessStalled, log_execUnlessStalled]

theorem proceeds_stallIf (d : Disk) (c : Prop) [Decidable c] (i j writeLen : Nat) :
    Proceeds d (({ d with msc := stallIf c i d.msc } : Disk).processingComplete B K j writeLen) := by
  have hstall := sameTransfer_stallIf c i d.msc
  exact (proceeds_processingComplete _ _ _).after hstall.cbw hstall.bot rfl

theorem proceeds_scsiProcessed (d : Disk) : Proceeds d (d.scsiProcessed B K) := by
  unfold Disk.scsiProcessed
  exact (proceeds_stallIf _ _ _ _ _).after rfl rfl rfl

theorem proceeds_control (f : Msc → Msc) (h : SameTransfer d.msc (f d.msc)) :
    Proceeds d (d.control f) := .goesOn h.cbw h.bot rfl

theorem proceeds_mmcStageDone (d : Disk) : Proceeds d (d.mmcStageDone B K) := by
  have hstall := sameTransfer_stallIf (d.msc.mmcDataToTransfer = 0) d.msc.mmcStageIdx d.msc
  have hdone := hstall.trans (sameTransfer_done (B := B) _)
  unfold Disk.mmcStageDone
  exact (proceeds_processingComplete _ _ _).after hdone.cbw hdone.bot rfl

theorem sameTransfer_sectors (s : Msc) (left : Nat) :
    SameTransfer s { s with scsiNumAesSector := left } := ⟨⟨rfl, rfl, rfl, rfl, id⟩, rfl⟩

theorem sameTransfer_nextSector (d : Disk) : SameTransfer d.msc d.nextSector.msc :=
  sameTransfer_sectors d.msc _

theorem proceeds_afterSector (d : Disk) : Proceeds d
    (if d.msc.scsiNumAesSector = 0 then
      ({ d.crypChunkDone with
        msc := stallIf (d.crypChunkDone.msc.cryptDataToTransfer = 0)
          d.crypChunkDone.msc.cryptStageIdx d.crypChunkDone.msc } : Disk).processingComplete B K
        d.crypChunkDone.msc.cryptStageIdx d.crypChunkDone.msc.cryptTxLen
    else Disk.setCryptConfig K d) := by
  split
  · exact (proceeds_stallIf d.crypChunkDone _ _ _ _).after rfl rfl rfl
  · exact .goesOn rfl rfl rfl

theorem proceeds_usbdScsiIdle (d : Disk) : Proceeds d (d.usbdScsiIdle B K) := by
  have hsame := sameTransfer_nextSector d
  have hafter := proceeds_afterSector (B := B) (K := K) d.nextSector
  unfold Disk.usbdScsiIdle
  exact hafter.after hsame.cbw hsame.bot (log_nextSector d)

theorem proceeds_mscBotDataOut (hop : d.msc.cbw.cb 0 = SCSI_WRITE10)
    (hbot : d.msc.botState = .dataOut) : Proceeds d (d.mscBotDataOut B K) := by
  rw [Disk.mscBotDataOut_write hop hbot]
  exact proceeds_scsiProcessed d

/-- **An event during a transfer** leaves the command going on, or ends it. -/
theorem Carry.proceeds (h : Carry B K out settled p d) (e : Disk.DiskEvent) :
    Proceeds d (Disk.diskStep B K d e) := by
  have hdir := h.setup.dir
  have hkeep : ∀ d', d' = d → Proceeds d d' := fun d' hd => hd ▸ .refl d
  unfold Disk.diskStep
  rw [if_neg (by rw [h.setup.sound]; decide)]
  cases e with
  | cbwReceived c => exact hkeep _ (if_neg h.usb.notCbw)
  | dataReceived data =>
    dsimp only
    split
    · rename_i hdata
      obtain ⟨rfl, -⟩ := h.usb.receiving.mp hdata
      refine Proceeds.after (proceeds_mscBotDataOut ?_ ?_) rfl rfl rfl
      · exact h.setup.write
      · exact hdir
    · exact .refl d
  | dataSent =>
    change Proceeds d (d.mscBotDataIn B K)
    cases out with
    | true =>
      apply hkeep
      unfold Disk.mscBotDataIn
      rw [hdir]
      rfl
    | false =>
      rw [Disk.mscBotDataIn_read h.setup.read hdir]
      unfold Disk.scsiProcessRead
      split
      · exact (proceeds_scsiProcessed _).after rfl rfl rfl
      · exact .refl d
  | mmcRxCplt =>
    dsimp only
    split
    · split
      · exact (proceeds_mmcStageDone _).after rfl rfl rfl
      · exact (proceeds_control _ (sameTransfer_done _)).after rfl rfl rfl
      · exact .goesOn rfl rfl rfl
    · exact .refl d
  | mmcTxDmaCplt idx src =>
    dsimp only
    split
    · split
      · exact .goesOn rfl rfl rfl
      · exact .goesOn rfl rfl rfl
      · exact .goesOn rfl rfl rfl
    · exact .refl d
  | mmcTxCplt =>
    dsimp only
    split
    · split
      · exact (proceeds_mmcStageDone _).after rfl rfl rfl
      · exact (proceeds_control _ (sameTransfer_done _)).after rfl rfl rfl
      · exact .goesOn rfl rfl rfl
    · exact .refl d
  | crypOutCplt =>
    dsimp only
    split
    · exact (proceeds_usbdScsiIdle _).after rfl rfl rfl
    · exact .refl d
  | dbRequest write => exact proceeds_control _ (sameTransfer_queueDb write _)
  | deviceState state => exact .goesOn rfl rfl rfl

/-! ### A command from its start to its end -/

variable (B) in
/-- The events while the command is carried out. -/
def Going (d : Disk) (e : Disk.DiskEvent) : Prop :=
  InTransfer d.msc ∧ InRange B d e ∧ ¬AsksTwice d e

/-- The completions that were due, in a list of steps. -/
def completions (h : History Disk Disk.DiskEvent) : Nat := h.countP fun x => Due x.1 x.2

/-- The completions that the requests of the database have added. -/
def added (h : History Disk Disk.DiskEvent) : Nat := h.foldr (fun x n => x.2.adds + n) 0

variable (B K) in
/-- **The command comes to its end**: there is always a completion to come, but no more of them
    than `workLeft` and those that the database adds, and when the transfer is over the command
    is in the list, alone. -/
structure CommandEnds (d : Disk) : Prop where
  due : ∃ e, Due d e ∧ InRange B d e
  bounded : ∀ h d', Run (· = d) (Disk.diskStep B K) (Going B) h d' →
    completions h ≤ d.msc.workLeft + added h
  goesOn : ∀ h d', Run (· = d) (Disk.diskStep B K) (Going B) h d' → InTransfer d'.msc →
    d'.log = d.log
  ends : ∀ h d', Run (· = d) (Disk.diskStep B K) (Going B) h d' → ¬InTransfer d'.msc →
    ∃ t, Completes d t ∧ d'.log = t :: d.log

/-- A transfer under way. -/
theorem DiskInv.carry (h : DiskInv B K d) (hin : InTransfer d.msc) :
    ∃ out p, Carry B K out (fun _ => True) p d ∧ ∃ i < p.fifo.numStages, p.running i = true := by
  obtain ⟨-, hrest | hcarry⟩ := h
  · rcases hin with hin | hin
    · exact absurd hin hrest.state.1
    · exact absurd hin hrest.state.2
  · exact hcarry

/-- **A transfer does not come to a stop.** -/
theorem DiskInv.due (h : DiskInv B K d) (hserved : Served d.msc) (hin : InTransfer d.msc) :
    ∃ e, Due d e ∧ InRange B d e := by
  have hmmc : d.msc.mmc ≠ .idle → ∃ e, Due d e ∧ InRange B d e := by
    intro hbusy
    cases hphase : d.msc.mmc with
    | idle => exact absurd hphase hbusy
    | reading => exact ⟨.mmcRxCplt, hphase, trivial⟩
    | writing =>
      exact ⟨.mmcTxDmaCplt MIN_DATA_BLOCK [], hphase, Nat.le_refl _, by decide, Nat.zero_le _⟩
    | finishing => exact ⟨.mmcTxCplt, hphase, trivial⟩
  obtain ⟨out, p, hcarry, i, hi, hrun⟩ := h.carry hin
  rcases hcarry.setup.stage hi with rfl | rfl | ⟨h3, rfl⟩
  · cases out with
    | true =>
      exact ⟨.dataReceived (List.replicate d.msc.writeLen 0),
        hcarry.usb.receiving.mpr ⟨rfl, hrun⟩, List.length_replicate⟩
    | false => exact ⟨.dataSent, hcarry.usb.sending.mpr ⟨rfl, hrun⟩, trivial⟩
  · apply hmmc
    rcases hcarry.card.waits.mpr hrun with hready | huser
    · cases huser : d.msc.emmcUser with
      | none =>
        rw [(hserved.free huser).2] at hready
        cases hready
      | db => exact hserved.db huser
      | storage => exact absurd huser (hcarry.card.excl hready)
    · have hphase := hcarry.card.phase huser
      cases out with
      | true =>
        rcases hphase with hmmc | hmmc
        · rw [hmmc]
          decide
        · rw [hmmc]
          decide
      | false =>
        rw [show d.msc.mmc = .reading from hphase]
        decide
  · exact ⟨.crypOutCplt, (hcarry.cryp h3).active.mpr hrun, trivial⟩

/-- What a step does to the work that is left. -/
theorem Carry.workLeft_step (h : Carry B K out (fun _ => True) p d) (hserved : Served d.msc)
    {e : Disk.DiskEvent} (honce : ¬AsksTwice d e) (hnext : DiskInv B K (Disk.diskStep B K d e)) :
    (if Due d e then 1 else 0) + (Disk.diskStep B K d e).msc.workLeft ≤
      d.msc.workLeft + e.adds := by
  have hsectors := hnext.sectorsLeft_le
  rw [Disk.diskStep_msc] at hsectors ⊢
  split
  · rename_i hdue
    have hless := h.workLeft_due hserved hdue hsectors
    omega
  · rename_i hdue
    have hless := h.workLeft_other hserved hdue honce
    omega

/-- What is known of a command that has been going on for some steps. -/
structure GoingOn (B : HcBoard) (K : DiskKey) (d : Disk) (h : History Disk Disk.DiskEvent)
    (d' : Disk) : Prop where
  inv : DiskInv B K d'
  served : Served d'.msc
  bound : completions h + d'.msc.workLeft ≤ d.msc.workLeft + added h
  proceeds : Proceeds d d'

theorem GoingOn.kept {d' : Disk} {h : History Disk Disk.DiskEvent} (hgoes : GoingOn B K d h d')
    (hin : InTransfer d'.msc) :
    d'.msc.cbw = d.msc.cbw ∧ d'.msc.botState = d.msc.botState ∧ d'.log = d.log := by
  cases hgoes.proceeds with
  | goesOn hcbw hbot hlog => exact ⟨hcbw, hbot, hlog⟩
  | ends t ht hlog hend =>
    rcases hend with hfailed | hout
    · rw [hgoes.inv.sound] at hfailed
      cases hfailed
    · exact absurd hin hout

theorem GoingOn.step (hB : B.Large) (hinv : BlockInverse K.enc K.dec) {d' : Disk}
    {h : History Disk Disk.DiskEvent} (hgoes : GoingOn B K d h d') {e : Disk.DiskEvent}
    (hok : Going B d' e) : GoingOn B K d ((d', e) :: h) (Disk.diskStep B K d' e) := by
  obtain ⟨hin, hrange, honce⟩ := hok
  obtain ⟨out, p, hcarry, -⟩ := hgoes.inv.carry hin
  obtain ⟨hcbw, hbot, hlog⟩ := hgoes.kept hin
  have hnext := diskInv_step hB hinv hgoes.inv hgoes.served hrange honce
  refine ⟨hnext, ?_, ?_, (hcarry.proceeds e).after hcbw hbot hlog⟩
  · rw [Disk.diskStep_msc]
    exact served_step hgoes.served _
  · have hbefore := hgoes.bound
    have hwork := hcarry.workLeft_step hgoes.served honce hnext
    have hcount : completions ((d', e) :: h) = completions h + if Due d' e then 1 else 0 := by
      unfold completions
      rw [List.countP_cons]
      simp
    have hadded : added ((d', e) :: h) = e.adds + added h := rfl
    rw [hcount, hadded]
    omega

/-- **Every accepted command ends.** -/
theorem DiskInv.commandEnds (hB : B.Large) (hinv : BlockInverse K.enc K.dec) (h : DiskInv B K d)
    (hserved : Served d.msc) (hin : InTransfer d.msc) : CommandEnds B K d := by
  have hrun : ∀ h d', Run (· = d) (Disk.diskStep B K) (Going B) h d' → GoingOn B K d h d' := by
    intro steps d' hr
    refine Run.invariant (P := fun steps d' => GoingOn B K d steps d') ?_ ?_ hr
    · rintro _ rfl
      exact ⟨h, hserved, Nat.le_of_eq (Nat.add_comm _ _), .refl _⟩
    · intro steps d' e _ hok hgoes
      exact hgoes.step hB hinv hok
  refine ⟨h.due hserved hin, ?_, ?_, ?_⟩
  · intro steps d' hr
    exact Nat.le_trans (Nat.le_add_right _ _) (hrun steps d' hr).bound
  · intro steps d' hr hin'
    exact ((hrun steps d' hr).kept hin').2.2
  · intro steps d' hr hout
    cases (hrun steps d' hr).proceeds with
    | goesOn _ hbot _ =>
      unfold InTransfer at hin hout
      rw [hbot] at hout
      exact absurd hin hout
    | ends t ht hlog _ => exact ⟨t, ht, hlog⟩

/-! ### Runs -/

variable (B K) in
/-- The runs, with any bytes on the eMMC and in memory at the start. -/
abbrev DiskRun := Run (fun s => ∃ card bufferStorage, s = Disk.diskInit card bufferStorage)
  (Disk.diskStep B K) (InRange B)

theorem diskInv_init (card bufferStorage : Mem) :
    DiskInv B K (Disk.diskInit card bufferStorage) ∧
      Served (Disk.diskInit card bufferStorage).msc := by
  refine ⟨⟨?_, .inl ⟨⟨show mscInit.botState ≠ .dataIn by decide,
    show mscInit.botState ≠ .dataOut by decide⟩, rfl, show mscInit.emmcUser ≠ .storage by decide,
    show mscInit.outEndpoint ≠ .data by decide, rfl, rfl, rfl, rfl, .inr rfl, ?_, rfl⟩⟩,
    ⟨fun _ => ⟨rfl, rfl⟩, fun _ => rfl, fun hfalse => by cases hfalse⟩⟩
  · intro t older hsuffix
    exact absurd (List.suffix_nil.mp hsuffix) (List.cons_ne_nil _ _)
  · intro lun x bs hbs
    cases hbs

/-- The assertion in `emmc_user_queue`. -/
theorem diskStep_asksTwice (hsound : d.msc.failed = false) {e : Disk.DiskEvent}
    (hasks : AsksTwice d e) :
    (Disk.diskStep B K d e).log = d.log ∧ (Disk.diskStep B K d e).msc.failed = true := by
  have hnot : ¬d.msc.failed = true := by
    rw [hsound]
    decide
  cases e with
  | dbRequest write =>
    have hready : d.msc.emmcReadyDb = true := hasks
    unfold Disk.diskStep
    rw [if_neg hnot]
    refine ⟨rfl, ?_⟩
    change (emmcUserQueueDb B write d.msc).failed = true
    unfold emmcUserQueueDb
    rw [if_pos hready]
  | _ => cases hasks

/-- What holds in every run: only a second request of the database fails. -/
structure DiskSound (B : HcBoard) (K : DiskKey) (h : History Disk Disk.DiskEvent) (s : Disk) :
    Prop where
  faithful : AllFaithful s.log
  failed : s.msc.failed = true → ∃ x ∈ h, AsksTwice x.1 x.2
  inv : s.msc.failed = false → DiskInv B K s ∧ Served s.msc

theorem diskSound_run (hB : B.Large) (hinv : BlockInverse K.enc K.dec)
    {h : History Disk Disk.DiskEvent} {s : Disk} (hr : DiskRun B K h s) : DiskSound B K h s := by
  refine Run.invariant (P := fun h s => DiskSound B K h s) ?_ ?_ hr
  · rintro _ ⟨card, bufferStorage, rfl⟩
    obtain ⟨hdisk, hserved⟩ := diskInv_init (B := B) (K := K) card bufferStorage
    exact ⟨hdisk.1, fun hfalse => (by cases hfalse), fun _ => ⟨hdisk, hserved⟩⟩
  · intro h s e _ hok hsound
    have hearlier : s.msc.failed = true → ∃ x ∈ (s, e) :: h, AsksTwice x.1 x.2 := by
      intro hfailed
      obtain ⟨x, hx, hasks⟩ := hsound.failed hfailed
      exact ⟨x, List.mem_cons_of_mem _ hx, hasks⟩
    cases hfailed : s.msc.failed with
    | true =>
      have hstays : Disk.diskStep B K s e = s := if_pos hfailed
      rw [hstays]
      exact ⟨hsound.faithful, hearlier, hsound.inv⟩
    | false =>
      obtain ⟨hdisk, hserved⟩ := hsound.inv hfailed
      by_cases hasks : AsksTwice s e
      · obtain ⟨hlog, hfails⟩ := diskStep_asksTwice (B := B) (K := K) hfailed hasks
        refine ⟨?_, fun _ => ⟨(s, e), List.mem_cons_self, hasks⟩, fun hfalse => ?_⟩
        · rw [hlog]
          exact hsound.faithful
        · rw [hfails] at hfalse
          cases hfalse
      · have hnext := diskInv_step hB hinv hdisk hserved hok hasks
        refine ⟨hnext.1, fun hfalse => ?_, fun _ => ⟨hnext, ?_⟩⟩
        · rw [hnext.sound] at hfalse
          cases hfalse
        · rw [Disk.diskStep_msc]
          exact served_step hserved _

/-- **What READ10 returns is what WRITE10 was given**, in every run: a command that has ended has
    transferred all its bytes and left none, and a READ10 has returned for a sector what the last
    WRITE10 over it was given.  Only a database that asks a second time for the eMMC makes an
    assertion fail; else every accepted command comes to its end. -/
theorem read_after_write (hB : B.Large) (hinv : BlockInverse K.enc K.dec)
    {h : History Disk Disk.DiskEvent} {s : Disk} (hr : DiskRun B K h s) :
    AllFaithful s.log ∧ (s.msc.failed = true → ∃ x ∈ h, AsksTwice x.1 x.2) ∧
      (s.msc.failed = false → InTransfer s.msc → CommandEnds B K s) := by
  have hsound := diskSound_run hB hinv hr
  refine ⟨hsound.faithful, hsound.failed, fun hfailed hin => ?_⟩
  obtain ⟨hdisk, hserved⟩ := hsound.inv hfailed
  exact hdisk.commandEnds hB hinv hserved hin

instance (d : Disk) (e : Disk.DiskEvent) : Decidable (InRange B d e) :=
  match e with
  | .cbwReceived c => inferInstanceAs (Decidable
      ((c.cb 0 = SCSI_READ10 ∨ c.cb 0 = SCSI_WRITE10) →
        scsiCheckAddressRange c.lba c.blocks d.msc = true →
        1 ≤ c.blocks ∧ c.lba + c.blocks ≤ B.volumeBlocks c.bLUN.toNat))
  | .dataReceived data => inferInstanceAs (Decidable (data.length = d.msc.writeLen))
  | .mmcTxDmaCplt idx src => inferInstanceAs (Decidable
      (MIN_DATA_BLOCK ≤ idx ∧ idx ≤ MAX_DATA_BLOCK ∧ src.length ≤ HC_BLOCK_SZ))
  | .dataSent => .isTrue trivial
  | .mmcRxCplt => .isTrue trivial
  | .mmcTxCplt => .isTrue trivial
  | .crypOutCplt => .isTrue trivial
  | .dbRequest _ => .isTrue trivial
  | .deviceState _ => .isTrue trivial

/-- A key that flips bits of its blocks. -/
def flipKey : DiskKey where
  enc := List.map (· ^^^ 0x5a)
  dec := List.map (· ^^^ 0x5a)
  deviceId := []
  dbFormat := .current

theorem blockInverse_flipKey : BlockInverse flipKey.enc flipKey.dec := by
  refine ⟨fun b h => (List.length_map _).trans h, fun b _ => ?_⟩
  change List.map _ (List.map _ b) = b
  rw [List.map_map]
  refine (List.map_congr_left fun x _ => ?_).trans (List.map_id b)
  change x ^^^ 0x5a ^^^ 0x5a = x
  rw [UInt8.xor_assoc, UInt8.xor_self, UInt8.xor_zero]

/-- The eMMC and the memory are empty at the start. -/
def emptyDisk : Disk := Disk.diskInit (fun _ => 0) fun _ => 0

/-- The encrypted volume is shown and its capacity asked for, and a WRITE10 of 33 sectors from
    sector 5 on begins, whose last sector is a chunk of its own. -/
def writeBegun : List Disk.DiskEvent :=
  [.deviceState .loggedIn, .cbwReceived (scsiCbw SCSI_READ_CAPACITY10 1 0x80 8 0 0), .dataSent,
    .cbwReceived (scsiCbw SCSI_WRITE10 1 0 16896 5 33), .dataReceived (List.replicate 16384 7),
    .dbRequest true]

/-- The rest of the WRITE10, while the database writes a block. -/
def writeEnded : List Disk.DiskEvent :=
  .dataReceived (List.replicate 512 9) :: .mmcTxDmaCplt 1 [1, 2, 3] ::
    List.replicate 32 .crypOutCplt ++
    [.mmcTxCplt, .crypOutCplt, .mmcTxDmaCplt 1 [], .mmcTxCplt, .mmcTxDmaCplt 1 [], .mmcTxCplt]

/-- A READ10 of 33 sectors from sector 6 on. -/
def readEnded : List Disk.DiskEvent :=
  [.cbwReceived (scsiCbw SCSI_READ10 1 0x80 16896 6 33), .mmcRxCplt] ++
    List.replicate 32 .crypOutCplt ++ [.mmcRxCplt, .dataSent, .crypOutCplt, .dataSent]

theorem run_emptyDisk (es : List Disk.DiskEvent) :
    Run (fun s => ∃ card bufferStorage, s = Disk.diskInit card bufferStorage)
      (Disk.diskStep hcBoard flipKey) anyStep
      (replay (Disk.diskStep hcBoard flipKey) es ([], emptyDisk)).1
      (replay (Disk.diskStep hcBoard flipKey) es ([], emptyDisk)).2 :=
  run_replay es _ (.start ⟨_, _, rfl⟩)

/-- The sector that ended the WRITE10, in a chunk of its own, is the last of a full chunk of the
    READ10. -/
theorem read_after_write_two_chunks : ∃ (s s' : Disk) (r w : Completed),
    InTransfer s.msc ∧ CommandEnds hcBoard flipKey s ∧ s'.log = [r, w] ∧
      sector r.data 31 = List.replicate 512 9 := by
  have hbegun : DiskRun hcBoard flipKey _ _ :=
    (run_emptyDisk writeBegun).restrict (by decide +kernel)
  have hended : DiskRun hcBoard flipKey _ _ :=
    (run_emptyDisk (writeBegun ++ writeEnded ++ readEnded)).restrict (by decide +kernel)
  have hin : InTransfer (replay (Disk.diskStep hcBoard flipKey) writeBegun ([], emptyDisk)).2.msc :=
    .inr (by decide +kernel)
  have hfaithful := (read_after_write large_hcBoard blockInverse_flipKey hended).1
  obtain ⟨r, w, hlog⟩ := List.length_eq_two.mp
    (show (replay (Disk.diskStep hcBoard flipKey) (writeBegun ++ writeEnded ++ readEnded)
      ([], emptyDisk)).2.log.length = 2 by decide +kernel)
  have hcommands : (replay (Disk.diskStep hcBoard flipKey) (writeBegun ++ writeEnded ++ readEnded)
      ([], emptyDisk)).2.log.map (fun t => (t.write, t.lun, t.lba, t.blocks)) =
        [(false, 1, 6, 33), (true, 1, 5, 33)] := by decide +kernel
  have hgiven : (replay (Disk.diskStep hcBoard flipKey) (writeBegun ++ writeEnded ++ readEnded)
      ([], emptyDisk)).2.log.getLast?.map (fun t => sector t.data 32) =
        some (List.replicate 512 9) := by decide +kernel
  rw [hlog] at hfaithful hcommands hgiven
  simp only [List.map_cons, List.map_nil, List.cons.injEq, Prod.mk.injEq, and_true] at hcommands
  obtain ⟨⟨hr, hrlun, hrlba, hrblocks⟩, hw, hwlun, hwlba, hwblocks⟩ := hcommands
  have hlast : lastWritten [w] r.lun (r.lba + 31) = some (List.replicate 512 9) := by
    unfold lastWritten
    rw [hw, hwlun, hrlun, hwlba, hrlba, hwblocks, if_pos ⟨rfl, rfl, by decide, by decide⟩]
    exact hgiven
  refine ⟨_, _, r, w, hin, (read_after_write large_hcBoard blockInverse_flipKey hbegun).2.2
    (by decide +kernel) hin, hlog, ?_⟩
  exact (hfaithful r [w] List.suffix_rfl).reads hr 31 (by rw [hrblocks]; decide) _ hlast

end SignetBase.FirmwareHc
