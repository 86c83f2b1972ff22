/-
  SignetBase/Firmware/Updates.lean
  ================================
  **An UPDATE_UID on a store in order, from its packet to its page writes.**

  The command leaves its plan in `cmd_data` (`Staged`): the page and the block info that
  were built, where they go, and the block the record was in.  The page writes and the
  completion handler take it from there.
-/
import SignetBase.Firmware.UpdatePlan
import SignetBase.Firmware.PageWrite

namespace SignetBase.Firmware

variable {P : Platform}

variable {s s' : Dev} {uid sz count b prev : Nat} {t : Scratch}

/-! ### The plan in `cmd_data` -/

/-- `cmd_data.update_uid` holds the update: its uid and size, the block it writes and the
    one the record was in, and the scratch. -/
structure Staged (m : Mem) (uid sz count b prev : Nat) (t : Scratch) : Prop where
  uid : m.get32 CmdData.updateUidUid = uid
  sz : m.get32 CmdData.updateUidSz = sz
  count : m.get32 CmdData.updateUidWriteCount = count
  blockNum : m.get32 CmdData.updateUidBlockNum = b
  prev : m.get32 CmdData.updateUidPrevBlockNum = prev
  info : BlockInfo.get m CmdData.updateUidBlkInfo = t.blkInfo
  block : m.window CmdData.updateUidBlock = t.block

/-- A scratch that was stored is found again. -/
theorem staged_toCmdData {m : Mem} (hb : t.blkInfo.Bounded)
    (huid : m.get32 CmdData.updateUidUid = uid) (hsz : m.get32 CmdData.updateUidSz = sz)
    (hcount : m.get32 CmdData.updateUidWriteCount = count)
    (hblock : m.get32 CmdData.updateUidBlockNum = b)
    (hprev : m.get32 CmdData.updateUidPrevBlockNum = prev) :
    Staged (t.toCmdData m CmdData.updateUidBlock CmdData.updateUidBlkInfo) uid sz count b prev t := by
  have hfield : ∀ off, off + 4 ≤ CmdData.updateUidBlkInfo →
      (t.toCmdData m CmdData.updateUidBlock CmdData.updateUidBlkInfo).get32 off = m.get32 off := by
    intro off hoff
    refine Mem.get32_congr fun i hi => t.toCmdData_apply_of_lt m ?_ ?_
    · simp only [CmdData.updateUidBlkInfo, CmdData.updateUidBlock] at hoff ⊢
      omega
    · omega
  refine ⟨?_, ?_, ?_, ?_, ?_, ?_, ?_⟩
  · rw [hfield _ (by decide), huid]
  · rw [hfield _ (by decide), hsz]
  · rw [hfield _ (by decide), hcount]
  · rw [hfield _ (by decide), hblock]
  · rw [hfield _ (by decide), hprev]
  · exact BlockInfo.get_write hb _ _
  · unfold Scratch.toCmdData
    rw [Mem.window_write_of_le _ (Nat.le_refl 44), Mem.window_setWindow]

/-- A field in front of the block info is set: the scratch stays what it is. -/
theorem scratch_put32 (m : Mem) (off v : Nat) (h : off + 4 ≤ CmdData.updateUidBlkInfo) :
    BlockInfo.get (m.put32 off v) CmdData.updateUidBlkInfo =
        BlockInfo.get m CmdData.updateUidBlkInfo ∧
      (m.put32 off v).window CmdData.updateUidBlock = m.window CmdData.updateUidBlock := by
  refine ⟨BlockInfo.get_congr fun i _ => Mem.put32_apply_of_notMem m v (.inr (by omega)), ?_⟩
  refine Mem.window_write_of_le m ?_
  simp only [CmdData.updateUidBlkInfo] at h
  simp only [Mem.length_bytes32, CmdData.updateUidBlock]
  omega

theorem Staged.putBlockNum {m : Mem} (h : Staged m uid sz count b prev t) {v : Nat}
    (hv : v < 2 ^ 32) : Staged (m.put32 CmdData.updateUidBlockNum v) uid sz count v prev t := by
  obtain ⟨hinfo, hblock⟩ := scratch_put32 m CmdData.updateUidBlockNum v (by decide)
  refine ⟨?_, ?_, ?_, ?_, ?_, hinfo.trans h.info, hblock.trans h.block⟩
  · rw [Mem.get32_put32_disjoint _ _ (by decide), h.uid]
  · rw [Mem.get32_put32_disjoint _ _ (by decide), h.sz]
  · rw [Mem.get32_put32_disjoint _ _ (by decide), h.count]
  · rw [Mem.get32_put32, Nat.mod_eq_of_lt hv]
  · rw [Mem.get32_put32_disjoint _ _ (by decide), h.prev]

theorem Staged.putPrev {m : Mem} (h : Staged m uid sz count b prev t) {v : Nat}
    (hv : v < 2 ^ 32) : Staged (m.put32 CmdData.updateUidPrevBlockNum v) uid sz count b v t := by
  obtain ⟨hinfo, hblock⟩ :=
    scratch_put32 m CmdData.updateUidPrevBlockNum v (by decide)
  refine ⟨?_, ?_, ?_, ?_, ?_, hinfo.trans h.info, hblock.trans h.block⟩
  · rw [Mem.get32_put32_disjoint _ _ (by decide), h.uid]
  · rw [Mem.get32_put32_disjoint _ _ (by decide), h.sz]
  · rw [Mem.get32_put32_disjoint _ _ (by decide), h.count]
  · rw [Mem.get32_put32_disjoint _ _ (by decide), h.blockNum]
  · rw [Mem.get32_put32, Nat.mod_eq_of_lt hv]

theorem Staged.putCount {m : Mem} (h : Staged m uid sz count b prev t) {v : Nat}
    (hv : v < 2 ^ 32) : Staged (m.put32 CmdData.updateUidWriteCount v) uid sz v b prev t := by
  obtain ⟨hinfo, hblock⟩ :=
    scratch_put32 m CmdData.updateUidWriteCount v (by decide)
  refine ⟨?_, ?_, ?_, ?_, ?_, hinfo.trans h.info, hblock.trans h.block⟩
  · rw [Mem.get32_put32_disjoint _ _ (by decide), h.uid]
  · rw [Mem.get32_put32_disjoint _ _ (by decide), h.sz]
  · rw [Mem.get32_put32, Nat.mod_eq_of_lt hv]
  · rw [Mem.get32_put32_disjoint _ _ (by decide), h.blockNum]
  · rw [Mem.get32_put32_disjoint _ _ (by decide), h.prev]

/-- The page gets its checksum. -/
theorem Staged.setBlock {m : Mem} (h : Staged m uid sz count b prev t) (page : Mem) :
    Staged (m.setWindow CmdData.updateUidBlock page) uid sz count b prev { t with block := page } := by
  have hfield : ∀ off, off + 4 ≤ CmdData.updateUidBlkInfo →
      (m.setWindow CmdData.updateUidBlock page).get32 off = m.get32 off := by
    intro off hoff
    refine Mem.get32_congr fun i hi => Mem.setWindow_apply_of_lt m page ?_
    simp only [CmdData.updateUidBlkInfo] at hoff
    simp only [CmdData.updateUidBlock]
    omega
  refine ⟨?_, ?_, ?_, ?_, ?_, ?_, Mem.window_setWindow _ _ _⟩
  · rw [hfield _ (by decide), h.uid]
  · rw [hfield _ (by decide), h.sz]
  · rw [hfield _ (by decide), h.count]
  · rw [hfield _ (by decide), h.blockNum]
  · rw [hfield _ (by decide), h.prev]
  · refine (BlockInfo.get_congr fun i hi => Mem.setWindow_apply_of_lt m page ?_).trans h.info
    simp only [CmdData.updateUidBlkInfo, CmdData.updateUidBlock]
    omega

/-! ### The first page write -/

/-- The IV that an update of the uid uses. -/
def updateIv (s : Dev) (uid : Nat) : Bytes :=
  (deriveIv uid CmdData.updateUidIv s).cmdData.read CmdData.updateUidIv AES_BLK_SIZE

/-- In a store of format 2 the IV is the one that belongs to the uid. -/
theorem updateIv_eq (hf : s.rootPage RootPage.signature = 2) (uid : Nat) :
    updateIv s uid = recordIv s.rootPage uid := read_deriveIv hf _ _

/-- What an UPDATE_UID packet stores. -/
def updateData (s : Dev) (data : Mem) : NewData where
  key := s.encryptKey
  uid := data.get16 0
  data := data.read 4 (sizeToSubBlkCount (data.get16 2) * SUB_BLK_SIZE)
  sz := data.get16 2
  iv := updateIv s (data.get16 0)

/-- The packet passes the checks of `logged_in_state`. -/
def UpdateChecked (data : Mem) (dataLen : Int) : Prop :=
  ¬ (dataLen < 4 ∨ data.get16 0 < MIN_UID ∨ data.get16 0 > MAX_UID ∨
    dataLen - 4 ≠ sizeToSubBlkCount (data.get16 2) * SUB_BLK_SIZE)

instance (data : Mem) (dataLen : Int) : Decidable (UpdateChecked data dataLen) :=
  inferInstanceAs (Decidable (¬ _))

theorem UpdateChecked.ok {data : Mem} {dataLen : Int} (h : UpdateChecked data dataLen) (s : Dev) :
    (updateData s data).Ok := by
  unfold UpdateChecked at h
  refine ⟨?_, ?_, Mem.get16_lt _ _, Mem.length_read _ _ _, Mem.length_read _ _ _⟩
  · simp only [updateData]
    omega
  · simp only [updateData]
    omega

/-- `cmd_data` when `update_uid` is called. -/
def updateCleared (s : Dev) (uid sz : Nat) : Mem :=
  ((((deriveIv uid CmdData.updateUidIv s).cmdData.put32 CmdData.updateUidUid uid).put32
    CmdData.updateUidSz sz).put32 CmdData.updateUidWriteCount 0).put32
    CmdData.updateUidPrevBlockNum INVALID_BLOCK

/-- `cmd_data` when `update_uid` has returned. -/
def updatePlanned (m : Mem) (b : Nat) (prev : Option Nat) (t : Scratch) : Mem :=
  let m := t.toCmdData m CmdData.updateUidBlock CmdData.updateUidBlkInfo
  let m := match prev with
    | some b => m.put32 CmdData.updateUidPrevBlockNum b
    | none => m
  m.put32 CmdData.updateUidBlockNum b

theorem read_updateCleared (s : Dev) (uid sz : Nat) :
    (updateCleared s uid sz).read CmdData.updateUidIv AES_BLK_SIZE = updateIv s uid := by
  unfold updateCleared updateIv Mem.put32
  rw [Mem.read_write_disjoint _ (.inl (by decide)), Mem.read_write_disjoint _ (.inl (by decide)),
    Mem.read_write_disjoint _ (.inl (by decide)), Mem.read_write_disjoint _ (.inl (by decide))]

/-- `update_uid_cmd` stores what `update_uid` leaves, and waits for the press or goes on. -/
theorem updateUidCmd_eq (uid : Nat) (data : Bytes) (sz press : Nat) {prev : Option Nat}
    (h : updateUid P (block P s) s.tables s.encryptKey uid data sz (updateIv s uid)
      (Scratch.ofCmdData (updateCleared s uid sz) CmdData.updateUidBlock CmdData.updateUidBlkInfo) =
        (b, prev, t)) :
    updateUidCmd P uid data sz press s =
      (let s := { s with cmdData := updatePlanned (updateCleared s uid sz) b prev t }
      if b = INVALID_BLOCK then finishCommandResp .notEnoughSpace s
      else if press = 0 then updateUidCmdComplete P s
      else if press = 1 then beginButtonPressWait s
      else beginLongButtonPressWait s) := by
  have hiv := read_updateCleared s uid sz
  unfold updateCleared at hiv h
  unfold updateUidCmd
  have hblock : block P (deriveIv uid CmdData.updateUidIv s) = block P s := rfl
  have htables : (deriveIv uid CmdData.updateUidIv s).tables = s.tables := rfl
  have hkey : (deriveIv uid CmdData.updateUidIv s).encryptKey = s.encryptKey := rfl
  simp only [hiv, hblock, htables, hkey, h]
  cases prev with
  | none => rfl
  | some c => rfl

/-- `cmd_data` after the plan of an update. -/
theorem staged_updatePlanned (huid : uid < 2 ^ 32) (hsz : sz < 2 ^ 32) (hb : b < 2 ^ 32)
    {prev : Option Nat} (hprev : prev.getD INVALID_BLOCK < 2 ^ 32) (hbound : t.blkInfo.Bounded) :
    Staged (updatePlanned (updateCleared s uid sz) b prev t) uid sz 0 b (prev.getD INVALID_BLOCK)
      t := by
  have hst : Staged (t.toCmdData (updateCleared s uid sz) CmdData.updateUidBlock
      CmdData.updateUidBlkInfo) uid sz 0 ((updateCleared s uid sz).get32 CmdData.updateUidBlockNum)
      INVALID_BLOCK t := by
    refine staged_toCmdData hbound ?_ ?_ ?_ rfl ?_
    · unfold updateCleared
      rw [Mem.get32_put32_disjoint _ _ (by decide), Mem.get32_put32_disjoint _ _ (by decide),
        Mem.get32_put32_disjoint _ _ (by decide), Mem.get32_put32, Nat.mod_eq_of_lt huid]
    · unfold updateCleared
      rw [Mem.get32_put32_disjoint _ _ (by decide), Mem.get32_put32_disjoint _ _ (by decide),
        Mem.get32_put32, Nat.mod_eq_of_lt hsz]
    · unfold updateCleared
      rw [Mem.get32_put32_disjoint _ _ (by decide), Mem.get32_put32]
      rfl
    · unfold updateCleared
      rw [Mem.get32_put32]
      rfl
  unfold updatePlanned
  cases prev with
  | none => exact hst.putBlockNum hb
  | some c => exact (hst.putPrev hprev).putBlockNum hb

/-- The blocks of a plan are storage blocks, or the previous one is none. -/
theorem Plan.bounds {pages : Nat → Mem} {t : Tables} {d : NewData} {b prev : Nat} {s : Scratch}
    (h : Plan P pages t d b prev s) (hp : Placed pages t d.uid) :
    b ∈ dataBlocks ∧ (prev = INVALID_BLOCK ∨ prev ∈ dataBlocks) ∧ s.blkInfo.Bounded := by
  cases h with
  | delete _ _ hb hl => exact ⟨hb, .inl rfl, hl.bounded⟩
  | insert _ _ hb _ hl => exact ⟨hb, .inl rfl, hl.bounded⟩
  | replace _ _ hb _ hl => exact ⟨hb, .inr hb, hl.bounded⟩
  | move _ hfind hb _ _ hl => exact ⟨hb, .inr ((hp.found_live hfind).1), hl.bounded⟩

variable (P) in
/-- The device when the first page write of an update has been issued: the packet was
    taken, and the press that it waits for was given. -/
def firstWrite (cmd : Command) (data : Mem) (dataLen : Int) (s : Dev) : Dev :=
  let s' := updateUidPacket P cmd data dataLen s
  if updatePressType cmd s = 0 then s' else updateUidCmdComplete P s'

variable (P) in
/-- The packet is taken and the update not refused for want of space. -/
def UpdateTaken (cmd : Command) (data : Mem) (dataLen : Int) (s : Dev) : Prop :=
  UpdateChecked data dataLen ∧
    (updateUidPacket P cmd data dataLen s).cmdData.get32 CmdData.updateUidBlockNum ≠ INVALID_BLOCK

instance (cmd : Command) (data : Mem) (dataLen : Int) (s : Dev) :
    Decidable (UpdateTaken P cmd data dataLen s) := inferInstanceAs (Decidable (_ ∧ _))

variable {cmd : Command} {data : Mem} {dataLen : Int}

theorem updateUidPacket_checked (h : UpdateChecked data dataLen) :
    updateUidPacket P cmd data dataLen s = updateUidCmd P (data.get16 0)
      (data.read 4 (sizeToSubBlkCount (data.get16 2) * SUB_BLK_SIZE)) (data.get16 2)
      (updatePressType cmd s) s := if_neg h

theorem blockNum_updateUidCmdComplete (s : Dev) :
    (updateUidCmdComplete P s).cmdData.get32 CmdData.updateUidBlockNum =
      s.cmdData.get32 CmdData.updateUidBlockNum := by
  have hwrite : ∀ dest src count (s : Dev),
      (flashWritePage dest src count s).cmdData = s.cmdData := by
    intro dest src count s
    unfold flashWritePage
    split
    · rfl
    · rfl
  unfold updateUidCmdComplete
  rw [hwrite]
  simp only
  split
  · refine Mem.get32_congr fun i hi => Mem.setWindow_apply_of_lt _ _ ?_
    simp only [CmdData.updateUidBlockNum, CmdData.updateUidBlock]
    omega
  · rfl

/-- An update is taken when `update_uid` has a block for it. -/
theorem updateTaken_of_eq (h : UpdateChecked data dataLen) {prev : Option Nat}
    (hres : updateUid P (block P s) s.tables s.encryptKey (data.get16 0)
      (data.read 4 (sizeToSubBlkCount (data.get16 2) * SUB_BLK_SIZE)) (data.get16 2)
      (updateIv s (data.get16 0)) (Scratch.ofCmdData (updateCleared s (data.get16 0) (data.get16 2))
        CmdData.updateUidBlock CmdData.updateUidBlkInfo) = (b, prev, t))
    (hb : b ∈ dataBlocks) : UpdateTaken P cmd data dataLen s := by
  have hne := dataBlock_ne_invalid hb
  have hnum : (updatePlanned (updateCleared s (data.get16 0) (data.get16 2)) b prev t).get32
      CmdData.updateUidBlockNum ≠ INVALID_BLOCK := by
    have hlt := (dataBlock_bounds hb).2
    simp only [NUM_STORAGE_BLOCKS] at hlt
    unfold updatePlanned
    rw [Mem.get32_put32, Nat.mod_eq_of_lt (by omega)]
    exact hne
  refine ⟨h, ?_⟩
  rw [updateUidPacket_checked h, updateUidCmd_eq _ _ _ _ hres]
  simp only
  rw [if_neg hne]
  split
  · rw [blockNum_updateUidCmdComplete]
    exact hnum
  · split
    · exact hnum
    · exact hnum

/-- Before its first page write, a taken update has left its plan in `cmd_data`. -/
theorem staged_firstWrite (hP : AesInverse P) (hok : DbOk P (block P s) s.tables)
    (ht : UpdateTaken P cmd data dataLen s) :
    ∃ s₁ b prev t, firstWrite P cmd data dataLen s = updateUidCmdComplete P s₁ ∧
      Plan P (block P s) s.tables (updateData s data) b prev t ∧
      Staged s₁.cmdData (data.get16 0) (data.get16 2) 0 b prev t ∧
      s₁.flash = s.flash ∧ s₁.tables = s.tables ∧ s₁.flashState = s.flashState := by
  obtain ⟨hchecked, htaken⟩ := ht
  have hd := hchecked.ok s
  have hplaced := hok.placed (data.get16 0) hd.min hd.max
  unfold firstWrite
  simp only
  rw [updateUidPacket_checked hchecked] at htaken ⊢
  generalize hres : updateUid P (block P s) s.tables s.encryptKey (data.get16 0)
    (data.read 4 (sizeToSubBlkCount (data.get16 2) * SUB_BLK_SIZE)) (data.get16 2)
    (updateIv s (data.get16 0)) (Scratch.ofCmdData (updateCleared s (data.get16 0) (data.get16 2))
      CmdData.updateUidBlock CmdData.updateUidBlkInfo) = res
  obtain ⟨b, prev, t⟩ := res
  have heq := updateUidCmd_eq _ _ _ (updatePressType cmd s) hres
  generalize hm : updatePlanned (updateCleared s (data.get16 0) (data.get16 2)) b prev t = m at heq
  by_cases hb : b = INVALID_BLOCK
  · exfalso
    simp only at heq
    rw [heq, if_pos hb] at htaken
    refine htaken ?_
    rw [← hm, hb]
    exact Mem.get32_put32 _ _ _
  · have hplan := plan_updateUid (d := updateData s data) hok.block hP hd hplaced hres hb
    obtain ⟨hmem, hprev, hbound⟩ := hplan.bounds hplaced
    have hlt : ∀ {i : Nat}, i ∈ dataBlocks → i < 2 ^ 32 := by
      intro i hi
      have hi' := (dataBlock_bounds hi).2
      simp only [NUM_STORAGE_BLOCKS] at hi'
      omega
    have hprev' : prev.getD INVALID_BLOCK < 2 ^ 32 := by
      rcases hprev with h | h
      · rw [h]
        decide
      · exact hlt h
    have huid := Mem.get16_lt data 0
    have hsz := Mem.get16_lt data 2
    have hst := staged_updatePlanned (s := s) (show data.get16 0 < 2 ^ 32 by omega)
      (show data.get16 2 < 2 ^ 32 by omega) (hlt hmem) hprev' hbound
    rw [hm] at hst
    simp only at heq
    rw [heq, if_neg hb]
    by_cases h₀ : updatePressType cmd s = 0
    · rw [if_pos h₀, if_pos h₀]
      exact ⟨_, b, _, t, rfl, hplan, hst, rfl, rfl, rfl⟩
    · rw [if_neg h₀, if_neg h₀]
      by_cases h₁ : updatePressType cmd s = 1
      · rw [if_pos h₁]
        exact ⟨_, b, _, t, rfl, hplan, hst, rfl, rfl, rfl⟩
      · rw [if_neg h₁]
        exact ⟨_, b, _, t, rfl, hplan, hst, rfl, rfl, rfl⟩

/-- What a page write of the command leaves: the page is in block `i`, and `cmd_data` and
    the tables are what they were. -/
structure PageDone (P : Platform) (s s' : Dev) (i : Nat) (page m : Mem) (tables : Tables) :
    Prop where
  wrote : Wrote (block P s) i page (block P s')
  cmdData : s'.cmdData = m
  tables : s'.tables = tables
  idle : s'.flashState = .idle

/-- A page write out of the command's scratch. -/
theorem pageDone_flashWritePage {i : Nat} (hidle : s.flashState = .idle)
    (hst : Staged s.cmdData uid sz count b prev t) :
    PageDone P s (pageWritten (flashWritePage (idBlk i) (some ⟨.cmdData, CmdData.updateUidBlock⟩)
      BLK_SIZE s)) i t.block s.cmdData s.tables := by
  have hw := wrote_pageWritten P i CmdData.updateUidBlock hidle
  rw [hst.block] at hw
  have hsame : (flashWritePage (idBlk i) (some ⟨.cmdData, CmdData.updateUidBlock⟩) BLK_SIZE
      s).cmdData = s.cmdData ∧ (flashWritePage (idBlk i)
      (some ⟨.cmdData, CmdData.updateUidBlock⟩) BLK_SIZE s).tables = s.tables := by
    unfold flashWritePage
    rw [if_pos hidle]
    exact ⟨rfl, rfl⟩
  exact ⟨hw, (cmdData_pageWritten _).trans hsame.1, (tables_pageWritten _).trans hsame.2,
    flashState_pageWritten _⟩

/-- The first page write puts the page that was built into its block. -/
theorem pageDone_first (hidle : s.flashState = .idle)
    (hst : Staged s.cmdData uid sz count b prev t) :
    ∃ m, PageDone P s (pageWritten (updateUidCmdComplete P s)) b (written P t) m s.tables ∧
      Staged m uid sz count b prev { t with block := written P t } := by
  unfold updateUidCmdComplete
  simp only [hst.info, hst.block]
  by_cases hocc : t.blkInfo.occupied ≠ 0
  · have hw : written P t = setHeaderCrc t.block (blockCrc P t.block) := if_pos hocc
    rw [if_pos hocc, hw]
    have hst' := hst.setBlock (setHeaderCrc t.block (blockCrc P t.block))
    refine ⟨_, ?_, hst'⟩
    rw [hst'.blockNum]
    obtain ⟨hwrote, hdata, htables, hdone⟩ := pageDone_flashWritePage (s := { s with
      cmdData := s.cmdData.setWindow CmdData.updateUidBlock
        (setHeaderCrc t.block (blockCrc P t.block)) }) (i := b) hidle hst'
    exact ⟨hwrote, hdata, htables, hdone⟩
  · have hw : written P t = t.block := if_neg hocc
    rw [if_neg hocc, hw]
    refine ⟨s.cmdData, ?_, hst⟩
    rw [hst.blockNum]
    exact pageDone_flashWritePage hidle hst

/-! ### The completion handler -/

/-- After its first write, a record that has not moved is done. -/
theorem writeFinished_stays (hst : Staged s.cmdData uid sz 0 b prev t)
    (h : ¬ (prev ≠ b ∧ prev ≠ INVALID_BLOCK)) :
    ∃ m, updateUidCmdWriteFinished P s = finishCommandResp .okay { s with
      cmdData := m
      tables := (s.tables.setInfo b t.blkInfo).setUid uid (if sz = 0 then INVALID_BLOCK else b) } := by
  have hm := hst.putCount (v := 1) (by decide)
  refine ⟨s.cmdData.put32 CmdData.updateUidWriteCount 1, ?_⟩
  unfold updateUidCmdWriteFinished
  simp only [hst.count, Nat.zero_add, hm.count, hm.uid, hm.blockNum, hm.prev, hm.sz, hm.info]
  rw [if_pos trivial, if_neg h]

/-- After its first write, a record that has moved is dropped from its old block. -/
theorem writeFinished_moves (hst : Staged s.cmdData uid sz 0 b prev t) (hne : prev ≠ b)
    (hinv : prev ≠ INVALID_BLOCK) :
    ∃ scratch, ∀ res, deallocateUid (block P s) (s.tables.setInfo b t.blkInfo) uid true scratch =
        res → res.2.blkInfo.Bounded →
      ∃ m, Staged m uid sz 1 b prev ⟨sealed P res.2.block, res.2.blkInfo⟩ ∧
        updateUidCmdWriteFinished P s =
          flashWritePage (idBlk prev) (some ⟨.cmdData, CmdData.updateUidBlock⟩) BLK_SIZE
            { s with cmdData := m, tables := s.tables.setInfo b t.blkInfo } := by
  have hm := hst.putCount (v := 1) (by decide)
  generalize hm₁ : s.cmdData.put32 CmdData.updateUidWriteCount 1 = m₁ at hm
  refine ⟨Scratch.ofCmdData m₁ CmdData.updateUidBlock CmdData.updateUidBlkInfo, ?_⟩
  rintro ⟨c, t'⟩ hres hbound
  refine ⟨_, staged_toCmdData (t := ⟨sealed P t'.block, t'.blkInfo⟩) hbound hm.uid hm.sz hm.count
    hm.blockNum hm.prev, ?_⟩
  have hblock : ∀ s₁ : Dev, s₁.flash = s.flash → block P s₁ = block P s := fun s₁ h => block_congr h
  unfold updateUidCmdWriteFinished
  simp only [hst.count, Nat.zero_add, hm₁, hm.count, hm.uid, hm.blockNum, hm.prev, hm.info]
  rw [if_pos trivial, if_pos ⟨hne, hinv⟩, hblock { s with
    cmdData := m₁
    tables := s.tables.setInfo b t.blkInfo } rfl, hres]
  rfl

end SignetBase.Firmware
