/-
  SignetBase/FirmwareHc/DiskRuns.lean
  ===================================
  **What READ10 returns is what WRITE10 was given.**

  A command that is accepted starts a transfer (`Rest.transfer`), the database comes in
  between, and every step keeps the invariant.  So every READ10, on either volume and
  wherever its chunks begin and end, returns for a sector what the last WRITE10 over it was
  given.
-/
import SignetBase.FirmwareHc.DiskChunks

namespace SignetBase.FirmwareHc

open Function

variable {B : HcBoard} {K : DiskKey} {out : Bool} {settled : Nat → Prop} {p : Pipeline} {d : Disk}
  {i : Nat}

/-! ### The database -/

/-- The database lies before the volumes. -/
theorem dbBlock_before {idx : Nat} (hidx : MIN_DATA_BLOCK ≤ idx ∧ idx ≤ MAX_DATA_BLOCK)
    (lun x : Nat) :
    Disk.dbBlockAddr idx * 512 + HC_BLOCK_SZ ≤ (B.volumeFirst lun + x) * 512 := by
  have hfirst : storageFirstBlock ≤ B.volumeFirst lun := Nat.le_add_right _ _
  rw [storageFirstBlock_eq] at hfirst
  have haddr : Disk.dbBlockAddr idx + 32 ≤ 34080 := by
    unfold MIN_DATA_BLOCK MAX_DATA_BLOCK NUM_STORAGE_BLOCKS at hidx
    change (idx - 1 + 37) * 32 + 32 ≤ 34080
    omega
  have hmul : (Disk.dbBlockAddr idx + 32) * 512 ≤ (B.volumeFirst lun + x) * 512 :=
    Nat.mul_le_mul_right _ (by omega)
  rw [Nat.add_mul] at hmul
  exact hmul

/-- A block of the database is written. -/
theorem Stored.dbWrite {log : List Completed} {card : Mem} {except : Nat → Nat → Prop}
    (h : Stored B K log card except) {idx : Nat} {src : Bytes}
    (hidx : MIN_DATA_BLOCK ≤ idx ∧ idx ≤ MAX_DATA_BLOCK) (hsrc : src.length ≤ HC_BLOCK_SZ) :
    Stored B K log (card.write (Disk.dbBlockAddr idx * 512) src) except := by
  intro lun x bs hbs
  obtain ⟨hlen, hlun, hx, hstored⟩ := h lun x bs hbs
  refine ⟨hlen, hlun, hx, fun hnot => ?_⟩
  rw [← hstored hnot]
  have hbefore := dbBlock_before (B := B) hidx lun x
  exact Mem.read_write_disjoint _ (by omega)

theorem Passed.dbWrite {n lun lba blocks lag : Nat} {made : Nat → List Bytes} {moved : Bytes}
    {card : Mem} (h : Passed K out n (B.volumeFirst lun) lba blocks made lag moved card) {idx : Nat}
    {src : Bytes} (hidx : MIN_DATA_BLOCK ≤ idx ∧ idx ≤ MAX_DATA_BLOCK)
    (hsrc : src.length ≤ HC_BLOCK_SZ) :
    Passed K out n (B.volumeFirst lun) lba blocks made lag moved
      (card.write (Disk.dbBlockAddr idx * 512) src) := by
  refine ⟨h.length, h.moved, h.cryp, fun x hx hlt => ?_⟩
  rw [← h.card x hx hlt, Nat.add_assoc]
  have hbefore := dbBlock_before (B := B) hidx lun (lba + x)
  exact Mem.read_write_disjoint _ (by omega)

/-- The data of a block of the database have been sent to the eMMC. -/
theorem DiskInv.dbWrite (h : DiskInv B K d) (huser : d.msc.emmcUser = .db) {idx : Nat} {src : Bytes}
    (hidx : MIN_DATA_BLOCK ≤ idx ∧ idx ≤ MAX_DATA_BLOCK) (hsrc : src.length ≤ HC_BLOCK_SZ) :
    DiskInv B K { d with
      msc := { d.msc with mmc := .finishing }
      card := d.card.write (Disk.dbBlockAddr idx * 512) src } := by
  obtain ⟨hlog, hrest | ⟨out, p, hcarry, hmore⟩⟩ := h
  · exact ⟨hlog, .inl ⟨hrest.state, hrest.ready, hrest.user, hrest.out, hrest.sending,
      hrest.cryp, hrest.max, hrest.buffers, hrest.capacity, hrest.stored.dbWrite hidx hsrc,
      hrest.sound⟩⟩
  · have hne : d.msc.emmcUser ≠ .storage := by
      rw [huser]
      decide
    have hlag : mmcLag d.msc.emmcUser .finishing = mmcLag d.msc.emmcUser d.msc.mmc := by
      rw [mmcLag_of_ne hne, mmcLag_of_ne hne]
    have hemmc : Carry B K out (fun _ => True) p
      { d with msc := { d.msc with mmc := .finishing } } :=
      hcarry.emmc hlag hcarry.card.waits hcarry.card.excl (fun hstorage => absurd hstorage hne)
        hcarry.card.hal
    obtain ⟨hring, ⟨h₁, h₂, h₃, h₄, h₅, h₆, h₇, h₈, h₉⟩, hu, hc, hy, hplain, hpassed, hstored⟩ :=
      hemmc
    refine ⟨hlog, .inr ⟨out, p, ⟨hring, ⟨h₁, h₂, h₃, h₄, h₅, h₆, h₇, h₈, h₉⟩,
      ⟨hu.left, hu.notCbw, hu.receiving, hu.sending, hu.given⟩,
      ⟨hc.left, hc.addr, hc.waits, hc.excl, hc.phase, hc.given, hc.hal⟩, fun h3 => ?_, hplain,
      hpassed.dbWrite hidx hsrc, hstored.dbWrite hidx hsrc⟩, hmore⟩⟩
    have hy := hy h3
    exact ⟨hy.left, hy.active, hy.idle, hy.given, hy.sectors⟩

/-- At rest the eMMC may start a database request. -/
theorem Rest.schedule (h : Rest B K d) {user : EmmcUser} {readyDb write : Bool} {mmc : MmcPhase}
    (huser : user ≠ .storage) :
    Rest B K (({ d with msc := { d.msc with
      emmcUser := user, emmcReadyDb := readyDb, dbActionWrite := write, mmc := mmc } } : Disk).control
        (emmcUserSchedule B)) := by
  have hready := h.ready
  have heq : ∃ user' readyDb' mmc', user' ≠ .storage ∧ emmcUserSchedule B { d.msc with
      emmcUser := user, emmcReadyDb := readyDb, dbActionWrite := write, mmc := mmc } = { d.msc with
      emmcUser := user', emmcReadyDb := readyDb', dbActionWrite := write, mmc := mmc' } := by
    unfold emmcUserSchedule
    by_cases hnone : user = .none
    · by_cases hdb : readyDb = true
      · exact ⟨.db, false, if write then .writing else .reading, by decide, by
          rw [if_pos hnone, if_pos hdb]
          rfl⟩
      · exact ⟨user, readyDb, mmc, huser, by
          rw [if_pos hnone, if_neg hdb, if_neg (by rw [hready]; decide)]⟩
    · exact ⟨user, readyDb, mmc, huser, by rw [if_neg hnone]⟩
  obtain ⟨user', readyDb', mmc', huser', heq⟩ := heq
  rw [control_of_issued (by dsimp only; rw [heq])]
  dsimp only
  rw [heq]
  exact ⟨h.state, hready, huser', h.out, h.sending, h.cryp, h.max, h.buffers, h.capacity,
    h.stored, h.sound⟩

/-- In a transfer it may start one, or the chunk that waits. -/
theorem Carry.scheduleDb (hB : B.Large) (h : Carry B K out settled p d) {user : EmmcUser}
    {readyDb write : Bool} {mmc : MmcPhase} (hlag : mmcLag user mmc = mmcLag d.msc.emmcUser d.msc.mmc)
    (hiff : user = .storage ↔ d.msc.emmcUser = .storage)
    (hphase : user = .storage → mmc = d.msc.mmc) :
    Carry B K out settled p (({ d with msc := { d.msc with
      emmcUser := user, emmcReadyDb := readyDb, dbActionWrite := write, mmc := mmc } } : Disk).control
        (emmcUserSchedule B)) := by
  have hwaits := h.card.waits
  rw [← hiff] at hwaits
  have hemmc : Carry B K out settled p { d with msc := { d.msc with
      emmcUser := user, emmcReadyDb := readyDb, dbActionWrite := write, mmc := mmc } } := by
    refine h.emmc hlag hwaits (fun hready hstorage => h.card.excl hready (hiff.mp hstorage)) ?_
      fun hstorage => h.card.hal (hiff.mp hstorage)
    intro hstorage
    rw [hphase hstorage]
    exact h.card.phase (hiff.mp hstorage)
  exact hemmc.schedule hB

/-- **The database asks for the eMMC**, which it has not asked for yet. -/
theorem DiskInv.queueDb (hB : B.Large) (h : DiskInv B K d) (hdb : d.msc.emmcReadyDb = false)
    (write : Bool) : DiskInv B K (d.control (emmcUserQueueDb B write)) := by
  have hf : emmcUserQueueDb B write d.msc = emmcUserSchedule B { d.msc with
      dbActionWrite := write, emmcReadyDb := true } := by
    unfold emmcUserQueueDb
    rw [hdb]
    rfl
  rw [control_schedule hf rfl rfl]
  obtain ⟨hlog, hrest | ⟨out, p, hcarry, hmore⟩⟩ := h
  · exact ⟨hlog, .inl (hrest.schedule hrest.user)⟩
  · exact ⟨hlog, .inr ⟨out, p, hcarry.scheduleDb hB rfl Iff.rfl fun _ => rfl, hmore⟩⟩

/-- **The eMMC has done what the database asked for.** -/
theorem DiskInv.dbDone (hB : B.Large) (h : DiskInv B K d) (huser : d.msc.emmcUser = .db) :
    DiskInv B K (({ d with msc := { d.msc with mmc := .idle } } : Disk).control (emmcUserDone B)) := by
  have hne : d.msc.emmcUser ≠ .storage := by
    rw [huser]
    decide
  have hcontrol : ({ d with msc := { d.msc with mmc := .idle } } : Disk).control (emmcUserDone B) =
      ({ d with msc := { d.msc with mmc := .idle, emmcUser := .none } } : Disk).control
        (emmcUserSchedule B) := control_schedule rfl rfl rfl
  rw [hcontrol]
  obtain ⟨hlog, hrest | ⟨out, p, hcarry, hmore⟩⟩ := h
  · exact ⟨hlog, .inl (hrest.schedule (by decide))⟩
  · refine ⟨hlog, .inr ⟨out, p, hcarry.scheduleDb hB ?_ ?_ (fun hfalse => by cases hfalse), hmore⟩⟩
    · rw [mmcLag_of_ne hne, mmcLag_of_ne (by decide)]
    · exact ⟨(fun hfalse => by cases hfalse), fun hfalse => absurd hfalse hne⟩

/-! ### Commands -/

/-- The direction of a command. -/
def transferOp (out : Bool) : UInt8 := if out then SCSI_WRITE10 else SCSI_READ10

/-- The stages of a command. -/
def transferStages (out crypt : Bool) : List Stage :=
  if out then if crypt then [.usbWrite, .encrypt, .mmcWrite] else [.usbWrite, .mmcWrite]
  else if crypt then [.mmcRead, .decrypt, .usbRead] else [.mmcRead, .usbRead]

theorem layout_transferStages (out crypt : Bool) (f : Nat → Stage) :
    Layout (if out then .dataOut else .dataIn) (transferStages out crypt).length
      fun i => (transferStages out crypt).getD i (f i) := by
  cases out
  · cases crypt
    · exact .read rfl rfl
    · exact .readDecrypt rfl rfl rfl
  · cases crypt
    · exact .write rfl rfl
    · exact .writeEncrypt rfl rfl rfl

theorem length_transferStages (out crypt : Bool) :
    (transferStages out crypt).length = if crypt then 3 else 2 := by
  cases out <;> cases crypt <;> rfl

/-- Nothing has been passed yet. -/
theorem passed_nil (n first lba blocks lag : Nat) (card : Mem) (hlag : lag = 0) :
    Passed K out n first lba blocks (fun _ => []) lag [] card := by
  subst hlag
  refine ⟨?_, ?_, ?_, ?_⟩
  · change 0 + bytesLeft blocks 0 = blocks * 512
    unfold bytesLeft
    omega
  · intro x _ hlt
    exact absurd hlt (Nat.not_lt_zero _)
  · intro _ x _ hlt
    exact absurd hlt (Nat.not_lt_zero _)
  · intro x _ hlt
    exact absurd hlt (Nat.not_lt_zero _)

/-- A transfer is prepared. -/
theorem Rest.prepare (h : Rest B K d) (hop : d.msc.cbw.cb 0 = transferOp out)
    (hout : d.msc.outEndpoint = .off) (hlun : d.msc.cbw.bLUN.toNat < MAX_SCSI_VOLUMES)
    (hpos : 1 ≤ d.msc.cbw.blocks)
    (hrange : d.msc.cbw.lba + d.msc.cbw.blocks ≤ B.volumeBlocks d.msc.cbw.bLUN.toNat)
    {crypt : Bool} (hcrypt : encrypted B d.msc.cbw.bLUN.toNat = crypt) :
    Carry B K out (fun j => j ≠ 0)
      (Pipeline.idle { d.msc.fifo with numStages := (transferStages out crypt).length }
        d.bufferStorage (min (d.msc.cbw.blocks * 512) d.msc.fifo.maxBufferSize))
      (Disk.prepareTransfer { d with msc := { d.msc with
        scsiBlkLen := d.msc.cbw.blocks * 512
        botState := if out then .dataOut else .dataIn } } crypt (transferStages out crypt)) ∧
      (Disk.prepareTransfer { d with msc := { d.msc with
        scsiBlkLen := d.msc.cbw.blocks * 512
        botState := if out then .dataOut else .dataIn } } crypt
        (transferStages out crypt)).msc.fifo.stageStalled 0 = false := by
  have hnum := length_transferStages out crypt
  have hbounds : 2 ≤ (transferStages out crypt).length ∧ (transferStages out crypt).length ≤ 3 := by
    rw [hnum]
    split <;> omega
  have hbuffers := h.buffers
  have hlag := mmcLag_of_ne h.user d.msc.mmc
  have hleft : bytesLeft d.msc.cbw.blocks 0 = d.msc.cbw.blocks * 512 := by
    unfold bytesLeft
    omega
  generalize hbf : ({ d.msc.fifo with
    numStages := (transferStages out crypt).length } : BufferFIFO) = bf
  have hbn : bf.numStages = (transferStages out crypt).length := by rw [← hbf]
  have hbm : bf.maxBufferSize = USB_BULK_BUFFER_SIZE := by
    rw [← hbf]
    exact h.max
  have hbc : bf.bufferCount = USB_BULK_BUFFER_COUNT := by
    rw [← hbf]
    exact hbuffers
  have hfits : bf.numStages ≤ bf.bufferCount := by
    rw [hbc, hbn]
    exact Nat.le_succ_of_le hbounds.2
  have hidle : Pipeline.Flow (numChunks d.msc.cbw.blocks) (lastChunk d.msc.cbw.blocks)
      (fun j => j ≠ 0) (Pipeline.idle bf d.bufferStorage
        (min (d.msc.cbw.blocks * 512) d.msc.fifo.maxBufferSize)) ∧ _ :=
    Pipeline.flow_idle bf d.bufferStorage _ (numChunks_pos hpos) (by omega) hfits
  obtain ⟨hflow, hready⟩ := hidle
  unfold Disk.prepareTransfer
  dsimp only
  rw [hbf]
  generalize min (d.msc.cbw.blocks * 512) d.msc.fifo.maxBufferSize = first at hflow hready ⊢
  have hring : Ringed d.msc.cbw.blocks (fun j => j ≠ 0) (bf.start first) d.bufferStorage
      (Pipeline.idle bf d.bufferStorage first) := by
    refine ⟨hflow, ?_, ?_, rfl, rfl, hbm, hbc, rfl, ?_, rfl⟩
    · intro i _ k hk
      cases hk
    · intro i _ hrun
      cases hrun
    · change 0 < bf.numStages
      omega
  refine ⟨?_, hready⟩
  refine ⟨hring, ⟨?_, rfl, ?_, ?_, h.capacity, hlun, hpos, hrange, h.sound⟩,
    ⟨hleft.symm, ?_, ?_, ?_, ?_⟩,
    ⟨?_, ?_, ?_, ?_, ?_, ?_, ?_⟩, ?_, fun _ => h.cryp, ?_, ?_⟩
  · change Layout _ bf.numStages _
    rw [hbn]
    exact layout_transferStages out crypt _
  · change bf.numStages = if encrypted B d.msc.cbw.bLUN.toNat then 3 else 2
    rw [hbn, hnum, hcrypt]
  · change transferOpcode (if out then .dataOut else .dataIn) (d.msc.cbw.cb 0)
    rw [hop]
    cases out <;> rfl
  · change d.msc.outEndpoint ≠ .cbw
    rw [hout]
    decide
  · change d.msc.outEndpoint = .data ↔ _
    rw [hout]
    exact ⟨(fun hfalse => by cases hfalse), fun hfalse => by cases hfalse.2⟩
  · change d.msc.usbTransmitting = true ↔ _
    rw [h.sending]
    exact ⟨(fun hfalse => by cases hfalse), fun hfalse => by cases hfalse.2⟩
  · intro hfalse
    cases hfalse
  · change ((d.msc.cbw.blocks * 512 : Nat) : Int) =
      (bytesLeft d.msc.cbw.blocks (0 + mmcLag d.msc.emmcUser d.msc.mmc) : Nat)
    rw [hlag, hleft]
  · change d.msc.cbw.lba * 512 + bytesLeft d.msc.cbw.blocks
      (0 + mmcLag d.msc.emmcUser d.msc.mmc) = _
    rw [hlag, hleft, Nat.add_mul]
  · change d.msc.emmcReadyStorage = true ∨ d.msc.emmcUser = .storage ↔ false = true
    rw [h.ready]
    refine ⟨?_, fun hfalse => by cases hfalse⟩
    rintro (hfalse | hfalse)
    · cases hfalse
    · exact absurd hfalse h.user
  · exact fun _ => h.user
  · exact fun hfalse => absurd hfalse h.user
  · intro hfalse
    cases hfalse
  · exact fun hfalse => absurd hfalse h.user
  · intro h3
    change bf.numStages = 3 at h3
    have htrue : crypt = true := by
      cases crypt with
      | true => rfl
      | false =>
        rw [if_neg Bool.false_ne_true] at hnum
        omega
    subst htrue
    refine ⟨?_, ?_, fun _ _ => ?_, ?_, ?_⟩
    · change ((d.msc.cbw.blocks * 512 : Nat) : Int) = (bytesLeft d.msc.cbw.blocks 0 : Nat)
      rw [hleft]
    · change d.msc.crypRunning = true ↔ false = true
      rw [h.cryp]
    · change d.msc.cbw.lba = d.msc.cbw.lba + 0 * 32
      rw [Nat.zero_mul, Nat.add_zero]
    · intro hfalse
      cases hfalse
    · intro hfalse
      cases hfalse
  · exact passed_nil _ _ _ _ _ _ hlag
  · intro lun x bs hbs
    obtain ⟨hlen, hlun', hx, hstored⟩ := h.stored lun x bs hbs
    exact ⟨hlen, hlun', hx, fun _ => hstored not_false⟩

/-- **An accepted command starts a transfer.** -/
theorem Rest.transfer (hB : B.Large) (h : Rest B K d) (hop : d.msc.cbw.cb 0 = transferOp out)
    (hout : d.msc.outEndpoint = .off) (hlun : d.msc.cbw.bLUN.toNat < MAX_SCSI_VOLUMES)
    (hpos : 1 ≤ d.msc.cbw.blocks)
    (hrange : d.msc.cbw.lba + d.msc.cbw.blocks ≤ B.volumeBlocks d.msc.cbw.bLUN.toNat) :
    ∃ p, Carry B K out (fun _ => True) p (Disk.startTransfer B K { d with msc := { d.msc with
      scsiBlkLen := d.msc.cbw.blocks * 512
      botState := if out then .dataOut else .dataIn } } (encrypted B d.msc.cbw.bLUN.toNat)
      (transferStages out (encrypted B d.msc.cbw.bLUN.toNat))) ∧
      ∃ i < p.fifo.numStages, p.running i = true := by
  obtain ⟨hprepared, hready⟩ := h.prepare hop hout hlun hpos hrange rfl
  generalize Pipeline.idle { d.msc.fifo with
    numStages := (transferStages out (encrypted B d.msc.cbw.bLUN.toNat)).length } d.bufferStorage
    (min (d.msc.cbw.blocks * 512) d.msc.fifo.maxBufferSize) = q at hprepared
  have hbounds := hprepared.setup.bounds
  have hfirst := hprepared.execUnlessStalled hB (i := 0) (by omega)
  have hwake : q.wake 0 = q.execStage 0 := by
    unfold Pipeline.wake
    rw [hprepared.ring.fifo, hready, if_neg Bool.false_ne_true]
  unfold Disk.execUnlessStalled at hfirst
  rw [hready, if_neg Bool.false_ne_true, hwake] at hfirst
  refine ⟨_, hfirst.settle fun j => ?_, 0, ?_, running_execStage_self⟩
  · by_cases hj : j = 0
    · exact .inr hj
    · exact .inl hj
  · change 0 < q.fifo.numStages
    omega

variable (B K) in
/-- What a command leaves: a transfer, or the device at rest. -/
def DiskResult (r : Bool × Disk) : Prop :=
  AllFaithful r.2.log ∧
    ((r.1 = true ∧ ∃ out p, Carry B K out (fun _ => True) p r.2 ∧
      ∃ i < p.fifo.numStages, p.running i = true) ∨ Rest B K r.2)

theorem Rest.sendCsw (h : Rest B K d) : Rest B K d.sendCsw :=
  ⟨⟨show BotState.idle ≠ .dataIn by decide, show BotState.idle ≠ .dataOut by decide⟩, h.ready,
    h.user, show OutEndpoint.cbw ≠ .data by decide, h.sending, h.cryp, h.max, h.buffers, h.capacity,
    h.stored, h.sound⟩

/-- A command is refused. -/
theorem Rest.refuse (hlog : AllFaithful d.log) (h : Rest B K d) (blkLen : Nat)
    (botState : BotState) :
    DiskResult B K (Disk.scsiRefuse { d with
      msc := { d.msc with scsiBlkLen := blkLen, botState := botState } }) :=
  ⟨hlog, .inr ⟨⟨show BotState.noData ≠ .dataIn by decide,
    show BotState.noData ≠ .dataOut by decide⟩,
    h.ready, h.user, h.out, h.sending, h.cryp, h.max, h.buffers, h.capacity, h.stored,
    h.sound⟩⟩

/-- The blocks of an accepted range have 512 bytes. -/
theorem Rest.blkSize (h : Rest B K d)
    (hcheck : scsiCheckAddressRange d.msc.cbw.lba d.msc.cbw.blocks d.msc = true)
    (hpos : 1 ≤ d.msc.cbw.blocks)
    (hrange : d.msc.cbw.lba + d.msc.cbw.blocks ≤ B.volumeBlocks d.msc.cbw.bLUN.toNat) :
    d.msc.scsiBlkSize = 512 := by
  rcases h.capacity with hsize | hnbr
  · exact hsize
  · have hvol : B.volumeBlocks d.msc.cbw.bLUN.toNat < 2 ^ 32 := Nat.mod_lt _ (by decide)
    unfold scsiCheckAddressRange at hcheck
    rw [hnbr, Nat.mod_eq_of_lt (by omega)] at hcheck
    have hle := of_decide_eq_true hcheck
    omega

theorem Rest.started (hB : B.Large) (hlog : AllFaithful d.log) (h : Rest B K d)
    (hop : d.msc.cbw.cb 0 = transferOp out) (hout : d.msc.outEndpoint = .off)
    (hlun : d.msc.cbw.bLUN.toNat < MAX_SCSI_VOLUMES)
    (hcheck : scsiCheckAddressRange d.msc.cbw.lba d.msc.cbw.blocks d.msc = true)
    (hrange : 1 ≤ d.msc.cbw.blocks ∧
      d.msc.cbw.lba + d.msc.cbw.blocks ≤ B.volumeBlocks d.msc.cbw.bLUN.toNat) :
    DiskResult B K (true, Disk.startTransfer B K { d with msc := { d.msc with
      scsiBlkLen := d.msc.cbw.blocks * d.msc.scsiBlkSize
      botState := if out then .dataOut else .dataIn } } (encrypted B d.msc.cbw.bLUN.toNat)
      (transferStages out (encrypted B d.msc.cbw.bLUN.toNat))) := by
  rw [h.blkSize hcheck hrange.1 hrange.2]
  refine ⟨?_, .inl ⟨rfl, out, h.transfer hB hop hout hlun hrange.1 hrange.2⟩⟩
  unfold Disk.startTransfer
  dsimp only
  rw [log_execStage]
  exact hlog

theorem Rest.read10 (hB : B.Large) (hlog : AllFaithful d.log) (h : Rest B K d)
    (hidle : d.msc.botState = .idle) (hop : d.msc.cbw.cb 0 = SCSI_READ10)
    (hout : d.msc.outEndpoint = .off) (hlun : d.msc.cbw.bLUN.toNat < MAX_SCSI_VOLUMES)
    (hrange : scsiCheckAddressRange d.msc.cbw.lba d.msc.cbw.blocks d.msc = true →
      1 ≤ d.msc.cbw.blocks ∧
        d.msc.cbw.lba + d.msc.cbw.blocks ≤ B.volumeBlocks d.msc.cbw.bLUN.toNat) :
    DiskResult B K (d.scsiRead10 B K d.msc.cbw.bLUN.toNat) := by
  unfold Disk.scsiRead10
  dsimp only
  rw [if_pos hidle]
  split
  · exact h.refuse hlog _ _
  · split
    · exact h.refuse hlog _ _
    · split
      · exact h.refuse hlog _ _
      · rename_i hcheck
        rw [Bool.not_eq_true, Bool.not_eq_false] at hcheck
        split
        · exact h.refuse hlog _ _
        · have hread : d.msc.cbw.cb 0 = transferOp false := hop
          exact h.started hB hlog hread hout hlun hcheck (hrange hcheck)

theorem Rest.write10 (hB : B.Large) (hlog : AllFaithful d.log) (h : Rest B K d)
    (hidle : d.msc.botState = .idle) (hop : d.msc.cbw.cb 0 = SCSI_WRITE10)
    (hout : d.msc.outEndpoint = .off) (hlun : d.msc.cbw.bLUN.toNat < MAX_SCSI_VOLUMES)
    (hrange : scsiCheckAddressRange d.msc.cbw.lba d.msc.cbw.blocks d.msc = true →
      1 ≤ d.msc.cbw.blocks ∧
        d.msc.cbw.lba + d.msc.cbw.blocks ≤ B.volumeBlocks d.msc.cbw.bLUN.toNat) :
    DiskResult B K (d.scsiWrite10 B K d.msc.cbw.bLUN.toNat) := by
  unfold Disk.scsiWrite10
  dsimp only
  rw [if_pos hidle]
  split
  · exact h.refuse hlog _ _
  · split
    · exact h.refuse hlog _ _
    · split
      · exact h.refuse hlog _ _
      · split
        · exact h.refuse hlog _ _
        · rename_i hcheck
          rw [Bool.not_eq_true, Bool.not_eq_false] at hcheck
          split
          · exact h.refuse hlog _ _
          · have hwrite : d.msc.cbw.cb 0 = transferOp true := hop
            exact h.started hB hlog hwrite hout hlun hcheck (hrange hcheck)

theorem Rest.readCapacity10 (hlog : AllFaithful d.log) (h : Rest B K d) (lun : Nat) :
    DiskResult B K ((scsiReadCapacity10 B lun d.msc).1,
      { d with msc := (scsiReadCapacity10 B lun d.msc).2 }) := by
  unfold scsiReadCapacity10
  split
  · exact ⟨hlog, .inr ⟨⟨show BotState.sendData ≠ .dataIn by decide,
      show BotState.sendData ≠ .dataOut by decide⟩, h.ready, h.user, h.out, h.sending, h.cryp, h.max,
      h.buffers, .inl rfl, h.stored, h.sound⟩⟩
  · exact h.refuse hlog d.msc.scsiBlkLen d.msc.botState

/-- **A CBW is answered, refused, or starts a transfer.** -/
theorem Rest.cbwDecode (hB : B.Large) (hlog : AllFaithful d.log) (h : Rest B K d)
    (hidle : d.msc.botState = .idle) (hout : d.msc.outEndpoint = .off)
    (hrange : (d.msc.cbw.cb 0 = SCSI_READ10 ∨ d.msc.cbw.cb 0 = SCSI_WRITE10) →
      scsiCheckAddressRange d.msc.cbw.lba d.msc.cbw.blocks d.msc = true →
      1 ≤ d.msc.cbw.blocks ∧
        d.msc.cbw.lba + d.msc.cbw.blocks ≤ B.volumeBlocks d.msc.cbw.bLUN.toNat) :
    DiskInv B K (d.mscBotCbwDecode B K) := by
  unfold Disk.mscBotCbwDecode
  dsimp only
  split
  · exact ⟨hlog, .inl ⟨h.state, h.ready, h.user, show OutEndpoint.cbw ≠ .data by decide,
      h.sending, h.cryp, h.max, h.buffers, h.capacity, h.stored, h.sound⟩⟩
  · rename_i hwell
    have hlun : d.msc.cbw.bLUN.toNat < MAX_SCSI_VOLUMES := by
      simp only [not_or] at hwell
      exact Nat.lt_of_not_le hwell.2.2.1
    have hcmd : DiskResult B K (d.scsiProcessCmd B K) := by
      unfold Disk.scsiProcessCmd
      dsimp only
      split
      · exact h.readCapacity10 hlog _
      · split
        · rename_i hop
          exact h.read10 hB hlog hidle hop hout hlun (hrange (.inl hop))
        · split
          · rename_i hop
            exact h.write10 hB hlog hidle hop hout hlun (hrange (.inr hop))
          · exact ⟨hlog, .inr h⟩
    generalize d.scsiProcessCmd B K = r at hcmd
    obtain ⟨ok, d'⟩ := r
    obtain ⟨hlog', ⟨hok, out, p, hcarry, hmore⟩ | hrest⟩ := hcmd
    · change ok = true at hok
      change Carry B K out (fun _ => True) p d' at hcarry
      subst hok
      have hdir := hcarry.setup.dir
      dsimp only
      rw [if_neg (by decide), hdir]
      cases out <;> exact ⟨hlog', .inr ⟨_, p, hcarry, hmore⟩⟩
    · change Rest B K d' at hrest
      dsimp only
      have hsent : DiskInv B K d'.sendCsw := ⟨hlog', .inl hrest.sendCsw⟩
      have hstays : DiskInv B K d' := ⟨hlog', .inl hrest⟩
      split
      · exact hsent
      · split <;> assumption

/-! ### The eMMC serves those who wait -/

/-- While somebody waits for the eMMC it works, and it works for somebody. -/
structure Serving (user : EmmcUser) (readyDb readyStorage : Bool) (mmc : MmcPhase) : Prop where
  free : user = .none → readyDb = false ∧ readyStorage = false
  rests : user = .none → mmc = .idle
  db : user = .db → mmc ≠ .idle

abbrev Served (s : Msc) : Prop := Serving s.emmcUser s.emmcReadyDb s.emmcReadyStorage s.mmc

section Served

variable {s : Msc}

theorem served_schedule (hidle : s.emmcUser = .none → s.mmc = .idle)
    (h : s.emmcUser = .db → s.mmc ≠ .idle) : Served (emmcUserSchedule B s) := by
  unfold emmcUserSchedule
  split
  · rename_i hnone
    split
    · refine ⟨(fun hfalse => by cases hfalse), (fun hfalse => by cases hfalse), fun _ => ?_⟩
      unfold emmcUserDbStart
      dsimp only
      split <;> decide
    · rename_i hdb
      split
      · unfold emmcUserStorageStart
        dsimp only
        split <;> exact ⟨(fun hfalse => by cases hfalse), (fun hfalse => by cases hfalse),
          fun hfalse => by cases hfalse⟩
      · rename_i hready
        exact ⟨fun _ => ⟨Bool.not_eq_true _ ▸ hdb, Bool.not_eq_true _ ▸ hready⟩, hidle, h⟩
  · rename_i huser
    exact ⟨fun hnone => absurd hnone huser, fun hnone => absurd hnone huser, h⟩

theorem served_done (hidle : s.mmc = .idle) : Served (emmcUserDone B s) :=
  served_schedule (fun _ => hidle) fun hfalse => by cases hfalse

theorem served_queueStorage (h : Served s) : Served (emmcUserQueueStorage B s) := by
  unfold emmcUserQueueStorage
  split
  · exact h
  · exact served_schedule h.rests h.db

theorem served_queueDb (h : Served s) (write : Bool) : Served (emmcUserQueueDb B write s) := by
  unfold emmcUserQueueDb
  split
  · exact h
  · exact served_schedule h.rests h.db

theorem served_runStage (h : Served s) (stage : Stage) (readLen i : Nat) :
    Served (runStage B stage readLen i s) := by
  unfold runStage
  cases stage with
  | mmcRead =>
    apply served_queueStorage
    exact h
  | mmcWrite =>
    apply served_queueStorage
    exact h
  | usbRead => exact h
  | usbWrite => exact h
  | _ =>
    dsimp only
    split <;> exact h

theorem served_execStage (h : Served s) (i : Nat) : Served (execStage B i s) := by
  apply served_runStage
  exact h

theorem served_execUnlessStalled (h : Served s) (i : Nat) : Served (execUnlessStalled B i s) := by
  unfold execUnlessStalled
  split
  · exact h
  · exact served_execStage h i

theorem served_completeIfStalled (h : Served s) : Served (completeIfStalled s) := by
  unfold completeIfStalled transferComplete
  dsimp only
  split_ifs <;> exact h

theorem served_processingComplete (h : Served s) (i writeLen : Nat) :
    Served (processingComplete B i writeLen s) := by
  apply served_completeIfStalled
  apply served_execUnlessStalled
  apply served_execUnlessStalled
  exact h

theorem served_stallIf (h : Served s) (c : Prop) [Decidable c] (i : Nat) :
    Served (stallIf c i s) := by
  unfold stallIf
  split <;> exact h

theorem served_scsiProcessed (h : Served s) : Served (scsiProcessed B s) := by
  unfold scsiProcessed
  apply served_processingComplete
  apply served_stallIf
  exact h

theorem served_mmcStageDone (hidle : s.mmc = .idle) : Served (mmcStageDone B s) := by
  unfold mmcStageDone stallIf
  apply served_processingComplete
  apply served_done
  split <;> exact hidle

theorem served_usbdScsiIdle (h : Served s) : Served (usbdScsiIdle B s) := by
  have hlast : ∀ left, Served (processingComplete B s.cryptStageIdx s.cryptTxLen
      (stallIf (s.cryptDataToTransfer - s.cryptTxLen = 0) s.cryptStageIdx { s with
        scsiNumAesSector := left
        crypRunning := false
        cryptDataToTransfer := s.cryptDataToTransfer - s.cryptTxLen })) := by
    intro left
    apply served_processingComplete
    apply served_stallIf
    exact h
  have hnext : ∀ left, Served { s with scsiNumAesSector := left } := fun _ => h
  unfold usbdScsiIdle
  simp only
  split
  · exact hlast _
  · exact hnext _

theorem served_startTransfer (h : Served s) (crypt : Bool) (stages : List Stage) :
    Served (startTransfer B crypt stages s) := by
  unfold startTransfer
  apply served_execStage
  exact h

theorem served_readCapacity10 (h : Served s) (lun : Nat) : Served (scsiReadCapacity10 B lun s).2 := by
  unfold scsiReadCapacity10
  split <;> exact h

theorem served_read10 (h : Served s) (lun : Nat) : Served (scsiRead10 B lun s).2 := by
  unfold scsiRead10
  split
  · split
    · exact h
    · split
      · exact h
      · split
        · exact h
        · dsimp only
          split
          · exact h
          · apply served_startTransfer
            exact h
  · unfold scsiProcessRead
    dsimp only
    split
    · apply served_scsiProcessed
      exact h
    · exact h

theorem served_write10 (h : Served s) (lun : Nat) : Served (scsiWrite10 B lun s).2 := by
  unfold scsiWrite10
  split
  · split
    · exact h
    · split
      · exact h
      · split
        · exact h
        · split
          · exact h
          · dsimp only
            split
            · exact h
            · apply served_startTransfer
              exact h
  · exact served_scsiProcessed h

theorem served_scsiProcessCmd (h : Served s) : Served (scsiProcessCmd B s).2 := by
  unfold scsiProcessCmd
  dsimp only
  split
  · exact served_readCapacity10 h _
  · split
    · exact served_read10 h _
    · split
      · exact served_write10 h _
      · exact h

theorem served_cbwDecode (h : Served s) : Served (mscBotCbwDecode B s) := by
  have hcmd := served_scsiProcessCmd (B := B) h
  unfold mscBotCbwDecode
  split
  · exact h
  · generalize scsiProcessCmd B s = r at hcmd
    obtain ⟨ok, s'⟩ := r
    dsimp only at hcmd ⊢
    split
    · exact hcmd
    · split <;> exact hcmd

theorem served_dataOut (h : Served s) : Served (mscBotDataOut B s) := by
  have hcmd := served_scsiProcessCmd (B := B) h
  unfold mscBotDataOut
  split
  · exact served_cbwDecode h
  · generalize scsiProcessCmd B s = r at hcmd
    obtain ⟨ok, s'⟩ := r
    cases ok <;> exact hcmd
  · exact h

theorem served_dataIn (h : Served s) : Served (mscBotDataIn B s) := by
  have hcmd := served_scsiProcessCmd (B := B) h
  unfold mscBotDataIn
  split
  · generalize scsiProcessCmd B s = r at hcmd
    obtain ⟨ok, s'⟩ := r
    cases ok <;> exact hcmd
  all_goals exact h

/-- Every step keeps it. -/
theorem served_step (h : Served s) (e : MscEvent) : Served (mscStep B s e) := by
  unfold mscStep
  split
  · exact h
  · cases e with
    | cbwReceived c =>
      dsimp only
      split
      · apply served_dataOut
        exact h
      · exact h
    | dataReceived =>
      dsimp only
      split
      · apply served_dataOut
        exact h
      · exact h
    | dataSent => exact served_dataIn h
    | mmcRxCplt =>
      dsimp only
      split
      · split
        · exact served_mmcStageDone rfl
        · exact served_done rfl
        · exact h
      · exact h
    | mmcTxDmaCplt =>
      have hfinish : s.emmcUser ≠ .none → Served { s with mmc := .finishing } :=
        fun hne => ⟨h.free, fun hnone => absurd hnone hne,
          fun _ => show MmcPhase.finishing ≠ .idle by decide⟩
      dsimp only
      split
      · split
        · rename_i huser
          exact hfinish (by rw [huser]; decide)
        · rename_i huser
          exact hfinish (by rw [huser]; decide)
        · exact h
      · exact h
    | mmcTxCplt =>
      dsimp only
      split
      · split
        · exact served_mmcStageDone rfl
        · exact served_done rfl
        · exact h
      · exact h
    | crypOutCplt =>
      dsimp only
      split
      · exact served_usbdScsiIdle h
      · exact h
    | dbRequest write => exact served_queueDb h write
    | deviceState state => exact h

end Served

/-! ### Steps -/

variable (B) in
/-- What the host and the database do: a READ10 or WRITE10 that the range check accepts is for
    at least one block, within its own volume; the host sends as many bytes as it is asked for,
    and the database writes blocks of its own. -/
def InRange (d : Disk) (e : Disk.DiskEvent) : Prop :=
  match e with
  | .cbwReceived c =>
    (c.cb 0 = SCSI_READ10 ∨ c.cb 0 = SCSI_WRITE10) →
      scsiCheckAddressRange c.lba c.blocks d.msc = true →
      1 ≤ c.blocks ∧ c.lba + c.blocks ≤ B.volumeBlocks c.bLUN.toNat
  | .dataReceived data => data.length = d.msc.writeLen
  | .mmcTxDmaCplt idx src => MIN_DATA_BLOCK ≤ idx ∧ idx ≤ MAX_DATA_BLOCK ∧ src.length ≤ HC_BLOCK_SZ
  | _ => True

theorem log_counters (d : Disk) (left sector read write : Nat) : ({ d with
    msc := { d.msc with scsiNumAesSector := left }
    curAesSector := sector
    aesRead := read
    aesWrite := write } : Disk).log = d.log := rfl

theorem log_nextSector (d : Disk) : d.nextSector.log = d.log := log_counters d _ _ _ _

theorem scsiNumAesSector_nextSector (d : Disk) :
    d.nextSector.msc.scsiNumAesSector = (d.msc.scsiNumAesSector + (2 ^ 32 - 1)) % 2 ^ 32 := by
  simp only [Disk.nextSector]

/-- A sector more, or the end of the chunk. -/
theorem Carry.crypOutCplt (hB : B.Large) (hinv : BlockInverse K.enc K.dec)
    (hlog : AllFaithful d.log) (h : Carry B K out (fun _ => True) p d)
    (hcryp : d.msc.crypRunning = true) : DiskInv B K ((Disk.cryp K d).usbdScsiIdle B K) := by
  have h3 : p.fifo.numStages = 3 := by
    by_contra hne
    rw [h.plain hne] at hcryp
    cases hcryp
  have hrun := (h.cryp h3).active.mp hcryp
  by_cases hone : d.msc.scsiNumAesSector = 1
  · exact h.crypLast hB hinv hlog h3 hrun hone
  · obtain ⟨k, hk, hpos, -⟩ := h.sectorDone hinv h3 hrun
    obtain ⟨hnum, -⟩ := h.sectorCounters h3 hrun hk hpos
    have hleft : (Disk.cryp K d).nextSector.msc.scsiNumAesSector = d.msc.scsiNumAesSector - 1 := by
      have hmsc : (Disk.cryp K d).msc = d.msc := rfl
      rw [scsiNumAesSector_nextSector, hmsc, hnum]
    have hlt : 1 < d.msc.scsiNumAesSector := lt_of_le_of_ne hpos (Ne.symm hone)
    have hmore : (Disk.cryp K d).usbdScsiIdle B K =
        Disk.setCryptConfig K (Disk.cryp K d).nextSector := by
      unfold Disk.usbdScsiIdle
      dsimp only
      rw [if_neg]
      rw [hleft]
      exact Nat.sub_ne_zero_of_lt hlt
    have hnext := h.crypNext hinv h3 hrun hone
    have hstage : 1 < p.fifo.numStages := h3 ▸ (by decide)
    have hkeep : (Disk.setCryptConfig K (Disk.cryp K d).nextSector).log = (Disk.cryp K d).log :=
      log_nextSector _
    have hlog' : AllFaithful (Disk.cryp K d).log := hlog
    rw [hmore]
    rw [← hkeep] at hlog'
    exact ⟨hlog', .inr ⟨out, _, hnext, 1, hstage, hrun⟩⟩

/-- The volumes are shown or hidden. -/
theorem DiskInv.deviceState (h : DiskInv B K d) (state : DeviceState) :
    DiskInv B K { d with msc := usbdScsiDeviceStateChange B state d.msc } := by
  obtain ⟨hlog, hrest | ⟨out, p, hcarry, hmore⟩⟩ := h
  · exact ⟨hlog, .inl ⟨hrest.state, hrest.ready, hrest.user, hrest.out, hrest.sending,
      hrest.cryp, hrest.max, hrest.buffers, hrest.capacity, hrest.stored, hrest.sound⟩⟩
  · obtain ⟨hring, ⟨h₁, h₂, h₃, h₄, h₅, h₆, h₇, h₈, h₉⟩, hu, hc, hy, hplain, hpassed, hstored⟩ :=
      hcarry
    refine ⟨hlog, .inr ⟨out, p, ⟨hring, ⟨h₁, h₂, h₃, h₄, h₅, h₆, h₇, h₈, h₉⟩,
      ⟨hu.left, hu.notCbw, hu.receiving, hu.sending, hu.given⟩,
      ⟨hc.left, hc.addr, hc.waits, hc.excl, hc.phase, hc.given, hc.hal⟩, fun h3 => ?_, hplain,
      hpassed, hstored⟩, hmore⟩⟩
    have hy := hy h3
    exact ⟨hy.left, hy.active, hy.idle, hy.given, hy.sectors⟩

/-- The database asks for the eMMC again before it was given it. -/
def AsksTwice (d : Disk) : Disk.DiskEvent → Prop
  | .dbRequest _ => d.msc.emmcReadyDb = true
  | _ => False

instance (d : Disk) (e : Disk.DiskEvent) : Decidable (AsksTwice d e) := by
  unfold AsksTwice
  cases e <;> infer_instance

theorem DiskInv.sound (h : DiskInv B K d) : d.msc.failed = false := by
  obtain ⟨-, hrest | ⟨out, p, hcarry, -⟩⟩ := h
  · exact hrest.sound
  · exact hcarry.setup.sound

/-- **Every step keeps the invariant.** -/
theorem diskInv_step (hB : B.Large) (hinv : BlockInverse K.enc K.dec) (h : DiskInv B K d)
    (hserved : Served d.msc) {e : Disk.DiskEvent} (hok : InRange B d e) (honce : ¬AsksTwice d e) :
    DiskInv B K (Disk.diskStep B K d e) := by
  have hbusy : ∀ {P : Prop}, d.msc.mmc ≠ .idle → d.msc.emmcUser = .none → P :=
    fun hmmc hnone => absurd (hserved.rests hnone) hmmc
  unfold Disk.diskStep
  rw [if_neg (by rw [h.sound]; decide)]
  obtain ⟨hlog, hrest | ⟨out, p, hcarry, hmore⟩⟩ := id h
  · cases e with
    | cbwReceived c =>
      dsimp only
      split
      · have hrest' : Rest B K { d with msc := { d.msc with cbw := c, outEndpoint := .off } } :=
          ⟨hrest.state, hrest.ready, hrest.user, show OutEndpoint.off ≠ .data by decide,
            hrest.sending, hrest.cryp, hrest.max, hrest.buffers, hrest.capacity, hrest.stored,
            hrest.sound⟩
        have hdecode := fun hidle => Rest.cbwDecode (K := K)
          (d := { d with msc := { d.msc with cbw := c, outEndpoint := .off } }) hB hlog hrest' hidle
          rfl hok
        have hstays : DiskInv B K { d with msc := { d.msc with cbw := c, outEndpoint := .off } } :=
          ⟨hlog, .inl hrest'⟩
        generalize ({ d with msc := { d.msc with cbw := c, outEndpoint := .off } } : Disk) = d'
          at hrest' hdecode hstays ⊢
        have hstate := hrest'.state
        unfold Disk.mscBotDataOut
        cases hbot : d'.msc.botState with
        | idle => exact hdecode hbot
        | dataOut => exact absurd hbot hstate.2
        | _ => exact hstays
      · exact h
    | dataReceived data =>
      dsimp only
      rw [if_neg hrest.out]
      exact h
    | dataSent =>
      have hstate := hrest.state
      have hsent : DiskInv B K d.sendCsw := ⟨hlog, .inl hrest.sendCsw⟩
      dsimp only
      unfold Disk.mscBotDataIn
      cases hbot : d.msc.botState with
      | dataIn => exact absurd hbot hstate.1
      | sendData => exact hsent
      | lastDataIn => exact hsent
      | noData => exact hsent
      | _ => exact h
    | mmcRxCplt =>
      dsimp only
      split
      · rename_i hmmc
        split
        · rename_i huser
          exact absurd huser hrest.user
        · rename_i huser
          exact h.dbDone hB huser
        · rename_i huser
          exact hbusy (by rw [hmmc]; decide) huser
      · exact h
    | mmcTxDmaCplt idx src =>
      dsimp only
      split
      · rename_i hmmc
        split
        · rename_i huser
          exact absurd huser hrest.user
        · rename_i huser
          exact h.dbWrite huser ⟨hok.1, hok.2.1⟩ hok.2.2
        · rename_i huser
          exact hbusy (by rw [hmmc]; decide) huser
      · exact h
    | mmcTxCplt =>
      dsimp only
      split
      · rename_i hmmc
        split
        · rename_i huser
          exact absurd huser hrest.user
        · rename_i huser
          exact h.dbDone hB huser
        · rename_i huser
          exact hbusy (by rw [hmmc]; decide) huser
      · exact h
    | crypOutCplt =>
      dsimp only
      rw [if_neg (by rw [hrest.cryp]; decide)]
      exact h
    | dbRequest write => exact h.queueDb hB (Bool.not_eq_true _ ▸ honce) write
    | deviceState state => exact h.deviceState state
  · cases e with
    | cbwReceived c =>
      dsimp only
      rw [if_neg hcarry.usb.notCbw]
      exact h
    | dataReceived data =>
      dsimp only
      split
      · rename_i hdata
        exact hcarry.dataReceived hB hinv hlog hdata hok
      · exact h
    | dataSent => exact hcarry.dataSent hB hinv h
    | mmcRxCplt =>
      dsimp only
      split
      · rename_i hmmc
        split
        · rename_i huser
          exact hcarry.mmcRxCplt hB hinv hlog hmmc huser
        · rename_i huser
          exact h.dbDone hB huser
        · rename_i huser
          exact hbusy (by rw [hmmc]; decide) huser
      · exact h
    | mmcTxDmaCplt idx src =>
      dsimp only
      split
      · rename_i hmmc
        split
        · rename_i huser
          exact ⟨hlog, .inr ⟨out, p, hcarry.mmcTxDmaCplt hB hmmc huser, hmore⟩⟩
        · rename_i huser
          exact h.dbWrite huser ⟨hok.1, hok.2.1⟩ hok.2.2
        · rename_i huser
          exact hbusy (by rw [hmmc]; decide) huser
      · exact h
    | mmcTxCplt =>
      dsimp only
      split
      · rename_i hmmc
        split
        · rename_i huser
          exact hcarry.mmcTxCplt hB hinv hlog hmmc huser
        · rename_i huser
          exact h.dbDone hB huser
        · rename_i huser
          exact hbusy (by rw [hmmc]; decide) huser
      · exact h
    | crypOutCplt =>
      dsimp only
      split
      · rename_i hcryp
        exact hcarry.crypOutCplt hB hinv hlog hcryp
      · exact h
    | dbRequest write => exact h.queueDb hB (Bool.not_eq_true _ ▸ honce) write
    | deviceState state => exact h.deviceState state

end SignetBase.FirmwareHc
