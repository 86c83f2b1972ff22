/-
  SignetBase/FirmwareHc/ScanBlocks.lean
  =====================================
  **The startup scan of Signet HC against whatever a block contains (`db.c`).**

  Blocks are written by the initialisation, by WRITE_BLOCK_HC with any contents, and by
  ERASE_BLOCK_HC with zeros.  The scan takes a block of zeros for one with partitions of no
  size: its checksum is wrong and it is left out of the store, and if it were right the scan
  would divide by zero.  All other contents are scanned without a fault: the entries that
  are read lie inside the block, because `part_occupancy` holds one byte only, and their
  uids have twelve bits.
-/
import SignetBase.FirmwareHc.RootBlock
import SignetBase.FirmwareHc.UpdateUid

namespace SignetBase.FirmwareHc

variable (P : RootPlatform)

/-! ### The code -/

/-- `block_crc`. -/
def blockCrc (blk : Mem) : Nat := (crc32 P (blk.read 4 (BLK_SIZE - 4))).toNat

/-- `block_crc_check`. -/
def blockCrcCheck (blk : Mem) : Bool :=
  if headerPartSize blk = INVALID_PART_SIZE then false else blockCrc P blk = headerCrc blk

/-- What must not happen in a scan. -/
inductive ScanFault where
  | divisionByZero | outsideBlock | outsideUidMap
deriving DecidableEq, Repr

/-- `get_part_count`, as to its division. -/
def getPartCountDiv (partSize : Nat) : Except ScanFault Nat :=
  if partSize = 0 then .error .divisionByZero else .ok (getPartCount partSize)

/-- `uid_tbl + j`. -/
def uidTblIn (blk : Mem) (j : Nat) : Except ScanFault UidEnt :=
  if uidTblOff j + uidEntSize ≤ BLK_SIZE then .ok (uidTbl blk j) else .error .outsideBlock

/-- `uid_map[uid] = i`. -/
def setUidMap (uidMap : Nat → Nat) (uid i : Nat) : Except ScanFault (Nat → Nat) :=
  if uid < MAX_UID + 1 then .ok fun u => if u = uid then i else uidMap u
  else .error .outsideUidMap

/-- One round of the loop over the entries of block `i`. -/
def scanEnt (i : Nat) (blk : Mem) (uidMap : Nat → Nat) (j : Nat) : Except ScanFault (Nat → Nat) :=
  (uidTblIn blk j).bind fun ent =>
    if ent.uid ≥ MIN_UID ∧ ent.uid ≤ MAX_UID ∧ ent.first ≠ 0 then setUidMap uidMap ent.uid i
    else .ok uidMap

/-- `db3_startup_scan_resume` for block `i`, as to `g_block_info_tbl[i]` and `uid_map`. -/
def scanBlock (i : Nat) (blk : Mem) (old : BlockInfo) (uidMap : Nat → Nat) :
    Except ScanFault (BlockInfo × (Nat → Nat)) :=
  let partSize := headerPartSize blk
  let info := { old with
    partSize
    valid := if blockCrcCheck P blk ∨ partSize = INVALID_PART_SIZE then 1 else 0
    occupied := if partSize ≠ INVALID_PART_SIZE then 1 else 0 }
  if info.valid = 0 then .ok (info, uidMap)
  else if info.occupied ≠ 0 then
    (getPartCountDiv partSize).bind fun count =>
      let partCount := count % 256
      let info := { info with
        partOccupancy := headerOccupancy blk % 256
        partCount
        partTblOffs := getBlockHeaderSize partCount % 65536 }
      ((List.range info.partOccupancy).foldlM (scanEnt i blk) uidMap).bind fun uidMap =>
        .ok (info, uidMap)
  else .ok (info, uidMap)

/-- `db3_initialize_block`. -/
def db3InitializeBlock (blk : Mem) : Mem :=
  let blk := initializeBlock MAX_PART_SIZE blk
  setHeaderCrc blk (blockCrc P blk)

/-- A block write that has finished: by ERASE_BLOCK_HC, by WRITE_BLOCK_HC with the data of its
    packet, or by the initialisation.  The first and the last of them build the block in
    `cmd_data`. -/
inductive BlockWrite where
  | erase (idx : Nat) (cmdData : Mem)
  | write (idx : Nat) (data : Mem)
  | initial (idx : Nat) (cmdData : Mem)

namespace BlockWrite

def idx : BlockWrite → Nat
  | erase idx _ => idx
  | write idx _ => idx
  | initial idx _ => idx

/-- What is written. -/
def block : BlockWrite → Mem
  | erase _ cmdData => cmdData.fill 0 BLK_SIZE 0
  | write _ data => data
  | initial _ cmdData => db3InitializeBlock P cmdData

/-- `write_data_block`. -/
def apply (blocks : Nat → Mem) (w : BlockWrite) (i : Nat) : Mem :=
  if i = w.idx then w.block P else blocks i

/-- The blocks after the writes, the first one first. -/
def run (blocks : Nat → Mem) (ws : List BlockWrite) : Nat → Mem := ws.foldl (apply P) blocks

end BlockWrite

/-! ### What is expected -/

/-- A valid block without records, which `allocate_uid` can use for the next one. -/
def Usable (info : BlockInfo) : Prop :=
  info.valid ≠ 0 ∧ (info.occupied = 0 ∨
    info.partSize = MAX_PART_SIZE ∧ info.partOccupancy = 0 ∧ 0 < info.partCount)

/-- The scan of block `i` finds a usable block and maps no uid to it. -/
def ScansUsable (i : Nat) (blk : Mem) (old : BlockInfo) (uidMap : Nat → Nat) : Prop :=
  ∃ info, scanBlock P i blk old uidMap = .ok (info, uidMap) ∧ Usable info

/-- The last write to block `i` satisfies `p`. -/
def LastWrite (p : BlockWrite → Prop) (ws : List BlockWrite) (i : Nat) : Prop :=
  ∃ pre w post, ws = pre ++ w :: post ∧ w.idx = i ∧ p w ∧ ∀ w' ∈ post, w'.idx ≠ i

def BlockWrite.IsErase : BlockWrite → Prop
  | erase _ _ => True
  | _ => False

def BlockWrite.IsInitial : BlockWrite → Prop
  | initial _ _ => True
  | _ => False

variable {P}

/-! ### The entries -/

theorem scanEnt_ok (i : Nat) (blk : Mem) (uidMap : Nat → Nat) {j : Nat} (hj : j < 256) :
    ∃ uidMap', scanEnt i blk uidMap j = .ok uidMap' := by
  have hinside : uidTblOff j + uidEntSize ≤ BLK_SIZE := by
    simp only [uidTblOff, blockHeaderSize, uidEntSize, BLK_SIZE]
    omega
  unfold scanEnt uidTblIn
  rw [if_pos hinside]
  dsimp only [Except.bind]
  split
  · rename_i huid
    exact ⟨_, if_pos (Nat.lt_succ_of_le huid.2.1)⟩
  · exact ⟨_, rfl⟩

theorem scanEnts_ok (i : Nat) (blk : Mem) {js : List Nat} (hjs : ∀ j ∈ js, j < 256)
    (uidMap : Nat → Nat) : ∃ uidMap', js.foldlM (scanEnt i blk) uidMap = .ok uidMap' := by
  induction js generalizing uidMap with
  | nil => exact ⟨uidMap, rfl⟩
  | cons j js ih =>
    obtain ⟨uidMap', hent⟩ := scanEnt_ok i blk uidMap (hjs j List.mem_cons_self)
    obtain ⟨uidMap'', hents⟩ := ih (fun j' hj' => hjs j' (List.mem_cons_of_mem _ hj')) uidMap'
    refine ⟨uidMap'', ?_⟩
    rw [List.foldlM_cons, hent]
    exact hents

/-! ### The scan of a block -/

/-- Partitions of no size under a right checksum. -/
theorem scanBlock_divisionByZero (i : Nat) {blk : Mem} (old : BlockInfo) (uidMap : Nat → Nat)
    (hzero : headerPartSize blk = 0) (hcrc : blockCrcCheck P blk = true) :
    scanBlock P i blk old uidMap = .error .divisionByZero := by
  have hfree : ¬ headerPartSize blk = INVALID_PART_SIZE := by
    rw [hzero]
    decide
  have hvalid : blockCrcCheck P blk = true ∨ headerPartSize blk = INVALID_PART_SIZE := .inl hcrc
  have hdiv : getPartCountDiv (headerPartSize blk) = .error .divisionByZero := if_pos hzero
  unfold scanBlock
  dsimp only
  rw [if_pos hvalid, if_neg Nat.one_ne_zero, if_pos hfree, if_pos Nat.one_ne_zero, hdiv]
  rfl

/-- The scan of a block is without a fault unless its partitions have no size and its checksum is
    right. -/
theorem scanBlock_ok_iff (i : Nat) (blk : Mem) (old : BlockInfo) (uidMap : Nat → Nat) :
    (∃ result, scanBlock P i blk old uidMap = .ok result) ↔
      ¬ (headerPartSize blk = 0 ∧ blockCrcCheck P blk = true) := by
  by_cases hcrc : blockCrcCheck P blk = true
  · by_cases hzero : headerPartSize blk = 0
    · refine iff_of_false ?_ (not_not_intro ⟨hzero, hcrc⟩)
      rintro ⟨result, h⟩
      rw [scanBlock_divisionByZero i old uidMap hzero hcrc] at h
      cases h
    · have hfree : ¬ headerPartSize blk = INVALID_PART_SIZE := by
        intro hfree
        unfold blockCrcCheck at hcrc
        rw [if_pos hfree] at hcrc
        cases hcrc
      have hvalid : blockCrcCheck P blk = true ∨ headerPartSize blk = INVALID_PART_SIZE :=
        .inl hcrc
      have hdiv : getPartCountDiv (headerPartSize blk) =
          .ok (getPartCount (headerPartSize blk)) := if_neg hzero
      have hjs : ∀ j ∈ List.range (headerOccupancy blk % 256), j < 256 := by
        intro j hj
        exact Nat.lt_trans (List.mem_range.mp hj) (Nat.mod_lt _ (by decide))
      obtain ⟨uidMap', hents⟩ := scanEnts_ok i blk hjs uidMap
      refine iff_of_true ?_ fun h => hzero h.1
      unfold scanBlock
      dsimp only
      rw [if_pos hvalid, if_neg Nat.one_ne_zero, if_pos hfree, if_pos Nat.one_ne_zero, hdiv]
      dsimp only [Except.bind]
      rw [hents]
      exact ⟨_, rfl⟩
  · refine iff_of_true ?_ fun h => hcrc h.2
    unfold scanBlock
    dsimp only
    by_cases hfree : headerPartSize blk = INVALID_PART_SIZE
    · have hvalid : blockCrcCheck P blk = true ∨ headerPartSize blk = INVALID_PART_SIZE :=
        .inr hfree
      rw [if_pos hvalid, if_neg Nat.one_ne_zero, if_neg (not_not_intro hfree),
        if_neg (not_not_intro rfl)]
      exact ⟨_, rfl⟩
    · have hinvalid : ¬ (blockCrcCheck P blk = true ∨
          headerPartSize blk = INVALID_PART_SIZE) := fun h => h.elim hcrc hfree
      rw [if_neg hinvalid, if_pos rfl]
      exact ⟨_, rfl⟩

/-- The entry that the scan leaves. -/
theorem scanBlock_info {i : Nat} {blk : Mem} {old : BlockInfo} {uidMap : Nat → Nat}
    {result : BlockInfo × (Nat → Nat)} (h : scanBlock P i blk old uidMap = .ok result) :
    result.1 = scanBlockInfo (blockCrcCheck P blk) blk old := by
  unfold scanBlock at h
  unfold scanBlockInfo
  dsimp only at h ⊢
  generalize (if blockCrcCheck P blk = true ∨ headerPartSize blk = INVALID_PART_SIZE then 1
    else 0) = valid at h ⊢
  generalize (if headerPartSize blk ≠ INVALID_PART_SIZE then 1 else 0) = occupied at h ⊢
  by_cases hvalid : valid = 0
  · rw [if_pos hvalid] at h
    rw [if_neg fun hand => hand.1 hvalid]
    cases h
    rfl
  · rw [if_neg hvalid] at h
    by_cases hocc : occupied ≠ 0
    · rw [if_pos hocc] at h
      rw [if_pos ⟨hvalid, hocc⟩]
      unfold getPartCountDiv at h
      split at h
      · cases h
      · dsimp only [Except.bind] at h
        cases hents : (List.range (headerOccupancy blk % 256)).foldlM (scanEnt i blk) uidMap with
        | error e =>
          rw [hents] at h
          cases h
        | ok uidMap' =>
          rw [hents] at h
          cases h
          rfl
    · rw [if_neg hocc] at h
      rw [if_neg fun hand => hocc hand.2]
      cases h
      rfl

/-! ### Erased and initialised blocks -/

theorem headerPartSize_erased (cmdData : Mem) :
    headerPartSize (cmdData.fill 0 BLK_SIZE 0) = 0 := by
  have hzero : ∀ a < BLK_SIZE, cmdData.fill 0 BLK_SIZE 0 a = 0 := by
    intro a ha
    exact if_pos ⟨Nat.zero_le _, by rw [Nat.zero_add]; exact ha⟩
  unfold headerPartSize Mem.get16
  rw [hzero 4 (by decide), hzero (4 + 1) (by decide)]
  rfl

/-- A block of zeros never scans as a usable one. -/
theorem not_scansUsable_erased (i : Nat) (cmdData : Mem) (old : BlockInfo) (uidMap : Nat → Nat) :
    ¬ ScansUsable P i (cmdData.fill 0 BLK_SIZE 0) old uidMap := by
  have hsize := headerPartSize_erased cmdData
  rintro ⟨info, hscan, hvalid, -⟩
  have hinfo := scanBlock_info hscan
  have hcrc : ¬ blockCrcCheck P (cmdData.fill 0 BLK_SIZE 0) = true := fun hcrc =>
    (scanBlock_ok_iff i _ old uidMap).mp ⟨_, hscan⟩ ⟨hsize, hcrc⟩
  apply hvalid
  change info = _ at hinfo
  rw [hinfo]
  unfold scanBlockInfo
  dsimp only
  have hinvalid : ¬ (blockCrcCheck P (cmdData.fill 0 BLK_SIZE 0) = true ∨
      0 = INVALID_PART_SIZE) := fun h => h.elim hcrc (by decide)
  rw [hsize, if_neg hinvalid]
  rfl

/-- A block that was initialised has the checksum of its contents. -/
theorem blockCrcCheck_initialized (cmdData : Mem) :
    headerPartSize (db3InitializeBlock P cmdData) = MAX_PART_SIZE ∧
      headerOccupancy (db3InitializeBlock P cmdData) = 0 ∧
      blockCrcCheck P (db3InitializeBlock P cmdData) = true := by
  have hsize : headerPartSize (db3InitializeBlock P cmdData) = MAX_PART_SIZE := by
    refine (Mem.get16_put32_disjoint _ _ (.inr (by decide))).trans ?_
    refine (Mem.get16_put16_disjoint _ _ (.inl (by decide))).trans ?_
    exact Mem.get16_put16 _ _ _
  have hocc : headerOccupancy (db3InitializeBlock P cmdData) = 0 := by
    refine (Mem.get16_put32_disjoint _ _ (.inr (by decide))).trans ?_
    exact Mem.get16_put16 _ _ _
  refine ⟨hsize, hocc, ?_⟩
  unfold blockCrcCheck
  rw [hsize, if_neg (by decide), decide_eq_true_eq]
  have hbody : blockCrc P (db3InitializeBlock P cmdData) =
      blockCrc P (initializeBlock MAX_PART_SIZE cmdData) := by
    unfold blockCrc db3InitializeBlock setHeaderCrc Mem.put32
    rw [Mem.read_write_disjoint _ (.inr (Nat.le_of_eq (by rw [Mem.length_bytes32])))]
  rw [hbody]
  unfold headerCrc db3InitializeBlock setHeaderCrc
  rw [Mem.get32_put32]
  exact (Nat.mod_eq_of_lt (UInt32.toNat_lt _)).symm

/-- A freshly initialised block scans as a usable one. -/
theorem scansUsable_initialized (i : Nat) (cmdData : Mem) (old : BlockInfo) (uidMap : Nat → Nat) :
    ScansUsable P i (db3InitializeBlock P cmdData) old uidMap := by
  obtain ⟨hsize, hocc, hcrc⟩ := @blockCrcCheck_initialized P cmdData
  have hne : ¬ MAX_PART_SIZE = INVALID_PART_SIZE := by decide
  have hdiv : getPartCountDiv MAX_PART_SIZE = .ok (getPartCount MAX_PART_SIZE) := if_neg (by decide)
  have hcount : 0 < getPartCount MAX_PART_SIZE % 256 := by decide
  generalize getPartCount MAX_PART_SIZE = count at hdiv hcount
  generalize db3InitializeBlock P cmdData = blk at hsize hocc hcrc ⊢
  unfold ScansUsable scanBlock
  dsimp only
  have hvalid : blockCrcCheck P blk = true ∨ headerPartSize blk = INVALID_PART_SIZE := .inl hcrc
  rw [if_pos hvalid, if_neg Nat.one_ne_zero, hsize, if_pos hne, if_pos Nat.one_ne_zero, hdiv,
    hocc, Nat.zero_mod, List.range_zero, List.foldlM_nil]
  dsimp only [Except.bind, pure, Except.pure]
  exact ⟨_, rfl, Nat.one_ne_zero, .inr ⟨rfl, rfl, hcount⟩⟩

/-! ### Sequences of writes -/

theorem BlockWrite.run_append (blocks : Nat → Mem) (ws ws' : List BlockWrite) :
    run P blocks (ws ++ ws') = run P (run P blocks ws) ws' :=
  List.foldl_append

/-- Writes to other blocks leave a block as it is. -/
theorem BlockWrite.run_other {i : Nat} {ws : List BlockWrite} (h : ∀ w ∈ ws, w.idx ≠ i)
    (blocks : Nat → Mem) : run P blocks ws i = blocks i := by
  induction ws generalizing blocks with
  | nil => rfl
  | cons w ws ih =>
    change run P (apply P blocks w) ws i = blocks i
    rw [ih fun w' hw' => h w' (List.mem_cons_of_mem _ hw')]
    exact if_neg (Ne.symm (h w List.mem_cons_self))

/-- A block holds what the last write to it has written. -/
theorem LastWrite.run_eq {p : BlockWrite → Prop} {ws : List BlockWrite} {i : Nat}
    (h : LastWrite p ws i) (blocks : Nat → Mem) :
    ∃ w, p w ∧ BlockWrite.run P blocks ws i = w.block P := by
  obtain ⟨pre, w, post, rfl, hidx, hp, hpost⟩ := h
  refine ⟨w, hp, ?_⟩
  rw [BlockWrite.run_append]
  change BlockWrite.run P (BlockWrite.apply P _ w) post i = _
  rw [BlockWrite.run_other hpost]
  exact if_pos hidx.symm

variable (P) in
/-- After the writes a block that was erased scans as a usable one, and the scan of the block is
    without a fault whatever it holds. -/
def ScansWell (blocks : Nat → Mem) (ws : List BlockWrite) (i : Nat) (old : BlockInfo)
    (uidMap : Nat → Nat) : Prop :=
  (LastWrite BlockWrite.IsErase ws i →
    ScansUsable P i (BlockWrite.run P blocks ws i) old uidMap) ∧
  ∃ result, scanBlock P i (BlockWrite.run P blocks ws i) old uidMap = .ok result

/-- **A block scans well exactly if it was not erased last and does not have partitions of no size
    under a right checksum; an initialised block always does.** -/
theorem erased_blocks_iff (P : RootPlatform) (blocks : Nat → Mem) (ws : List BlockWrite)
    (i : Nat) (old : BlockInfo) (uidMap : Nat → Nat) :
    (ScansWell P blocks ws i old uidMap ↔
      ¬ LastWrite BlockWrite.IsErase ws i ∧
        ¬ (headerPartSize (BlockWrite.run P blocks ws i) = 0 ∧
          blockCrcCheck P (BlockWrite.run P blocks ws i) = true)) ∧
      (LastWrite BlockWrite.IsInitial ws i →
        ScansUsable P i (BlockWrite.run P blocks ws i) old uidMap) := by
  constructor
  · constructor
    · rintro ⟨herased, hscan⟩
      refine ⟨fun hlast => ?_, (scanBlock_ok_iff i _ old uidMap).mp hscan⟩
      have husable := herased hlast
      obtain ⟨w, hw, hrun⟩ := @LastWrite.run_eq P _ _ _ hlast blocks
      rw [hrun] at husable
      cases w with
      | erase idx cmdData => exact not_scansUsable_erased i cmdData old uidMap husable
      | write idx data => exact hw
      | initial idx cmdData => exact hw
    · rintro ⟨herased, hscan⟩
      exact ⟨fun hlast => absurd hlast herased, (scanBlock_ok_iff i _ old uidMap).mpr hscan⟩
  · intro hlast
    obtain ⟨w, hw, hrun⟩ := @LastWrite.run_eq P _ _ _ hlast blocks
    rw [hrun]
    cases w with
    | erase idx cmdData => exact hw.elim
    | write idx data => exact hw.elim
    | initial idx cmdData => exact scansUsable_initialized i cmdData old uidMap

/-- A platform whose CRC unit always gives the same result. -/
def constantCrc (res : UInt32) : RootPlatform :=
  { sumPlatform with halCrcCalculate := fun _ => res }

/-- Block 1 is erased: with one checksum of the zeros it is left out of the store, and with
    another one the scan divides by zero. -/
theorem erased_block_invalid :
    ¬ ScansWell (constantCrc 0) (fun _ _ => 0) [.erase 1 fun _ => 0] 1 ⟨0, 0, 0, 0, 0, 0⟩
        (fun _ => 0) ∧
      scanBlock (constantCrc 0xffffffff) 1
        (BlockWrite.run (constantCrc 0xffffffff) (fun _ _ => 0) [.erase 1 fun _ => 0] 1)
        ⟨0, 0, 0, 0, 0, 0⟩ (fun _ => 0) = .error .divisionByZero := by
  constructor
  · rintro ⟨herased, -⟩
    exact not_scansUsable_erased 1 _ _ _ (herased ⟨[], _, [], rfl, rfl, trivial, by simp⟩)
  · change scanBlock _ 1 (Mem.fill _ 0 BLK_SIZE 0) _ _ = _
    have hsize := headerPartSize_erased fun _ => 0
    have hheader : headerCrc (Mem.fill (fun _ => 0) 0 BLK_SIZE 0) = 0 := by
      unfold Mem.fill
      simp only [ite_self]
      rfl
    have hcrc : blockCrcCheck (constantCrc 0xffffffff) (Mem.fill (fun _ => 0) 0 BLK_SIZE 0) =
        true := by
      unfold blockCrcCheck
      rw [hsize, hheader, if_neg (by decide), decide_eq_true_eq]
      rfl
    exact scanBlock_divisionByZero 1 _ _ hsize hcrc

end SignetBase.FirmwareHc
