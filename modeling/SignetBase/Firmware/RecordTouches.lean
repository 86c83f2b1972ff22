/-
  SignetBase/Firmware/RecordTouches.lean
  ======================================
  **When the commands on records stay in their objects.**

  STARTUP, READ_UID, READ_ALL_UIDS, UPDATE_UID and UPDATE_UIDS copy partitions and entries at
  places that the headers of the blocks give, and records of the lengths that their entries
  give.  A block whose CRC is right may hold any of these, so a condition on the store is left.
  It speaks of the one block, or record, that the command gets to: the last record of a block
  from which a uid is dropped (`RemovalFits`), the place behind the last one where a record is
  put (`AllocationFits`), the length of a record that is read (`ReadFits`), and for STARTUP the
  first uid that is found twice (`DropFits`).
-/
import SignetBase.Firmware.Touches
import SignetBase.Firmware.UpdatePlan

namespace SignetBase.Firmware

/-! ### Lists of touches -/

/-- All touches are within their areas. -/
def Touch.AllWithin (l : List Touch) : Prop := ∀ t ∈ l, t.Within

instance (l : List Touch) : Decidable (Touch.AllWithin l) :=
  inferInstanceAs (Decidable (∀ t ∈ l, _))

section Lists

variable {l l' : List Touch} {t : Touch}

@[simp] theorem Touch.allWithin_nil : Touch.AllWithin [] := by
  rintro t ⟨⟩

@[simp] theorem Touch.allWithin_cons :
    Touch.AllWithin (t :: l) ↔ t.Within ∧ Touch.AllWithin l := List.forall_mem_cons

@[simp] theorem Touch.allWithin_append :
    Touch.AllWithin (l ++ l') ↔ Touch.AllWithin l ∧ Touch.AllWithin l' :=
  List.forall_mem_append

theorem dataAt_within {off len : Nat} (h : off + len ≤ CMD_PACKET_PAYLOAD_SIZE + 7) :
    (dataAt off len).Within := by
  have hsize : CMD_PACKET_HEADER_SIZE + (CMD_PACKET_PAYLOAD_SIZE + 7) ≤ CMD_PACKET_BUF_SIZE := by
    decide
  change CMD_PACKET_HEADER_SIZE + off + len ≤ CMD_PACKET_BUF_SIZE
  omega

theorem memberAt_within {cmd : Command} {off len : Nat} (h : off + len ≤ memberSize cmd) :
    (memberAt cmd off len).Within := h

theorem blockInfoAt_within {i : Nat} : (blockInfoAt i).Within ↔ i < NUM_STORAGE_BLOCKS := Iff.rfl

theorem uidMapAt_within {uid : Nat} (h : uid ≤ MAX_UID) : (uidMapAt uid).Within :=
  Nat.succ_le_succ h

theorem uidMap_range_within {n : Nat} (h : n ≤ MAX_UID) :
    Touch.AllWithin ((List.range' MIN_UID n).map uidMapAt) := by
  unfold Touch.AllWithin
  rw [List.forall_mem_map]
  intro uid huid
  obtain ⟨k, hk, rfl⟩ := List.mem_range'.mp huid
  refine uidMapAt_within ?_
  change 1 + 1 * k ≤ MAX_UID
  omega

theorem blockInfoTouches_within : Touch.AllWithin blockInfoTouches := by
  unfold blockInfoTouches Touch.AllWithin
  rw [List.forall_mem_map]
  exact fun i hi => (dataBlock_bounds hi).2

end Lists

/-! ### What a routine needs of the block it gets to -/

/-- `uid_map` has no block for the uid, or one of the table. -/
def MapFits (tbl : Tables) (uid : Nat) : Prop :=
  tbl.uidMap uid = INVALID_BLOCK ∨ tbl.uidMap uid < NUM_STORAGE_BLOCKS

/-- The entry and the partition of the last record of a block end within `room` bytes. -/
structure LastFits (room : Nat) (info : BlockInfo) : Prop where
  entry : uidTblOff (info.partOccupancy - 1) + uidEntSize ≤ room
  part : getPart info (info.partOccupancy - 1) + info.partSize * SUB_BLK_SIZE ≤ room

/-- So do the entry and the partition of one record more, of `sz` bytes. -/
structure NextFits (room sz : Nat) (info : BlockInfo) : Prop where
  entry : uidTblOff info.partOccupancy + uidEntSize ≤ room
  part : getPart info info.partOccupancy + sizeToSubBlkCount sz * SUB_BLK_SIZE ≤ room

/-- A record can be dropped from its block: the last one, which takes its place, is in the
    block, unless the block becomes free or its header counts no other record. -/
def BlockDropFits (room : Nat) (page : Mem) (info : BlockInfo) (deallocateBlock : Bool) : Prop :=
  info.partOccupancy = 1 ∧ deallocateBlock = true ∨ headerOccupancy page = 1 ∨ LastFits room info

/-- `deallocate_uid` stays in its objects. -/
def RemovalFits (room : Nat) (pages : Nat → Mem) (tbl : Tables) (uid : Nat)
    (deallocateBlock : Bool) : Prop :=
  MapFits tbl uid ∧ ((findUid pages tbl uid).2.isSome →
    BlockDropFits room (pages (tbl.uidMap uid)) (tbl.blockInfoTbl (tbl.uidMap uid)) deallocateBlock)

/-- The block with records that `allocate_uid` chooses, if it chooses one. -/
def chosenBlock (tbl : Tables) (partSize : Nat) : Option Nat :=
  (findExactBlock tbl partSize).or
    (if findFreeBlock tbl ≠ INVALID_BLOCK then none else findLargerBlock tbl partSize)

/-- `allocate_uid` stays in its objects. -/
def AllocationFits (room : Nat) (tbl : Tables) (sz : Nat) : Prop :=
  targetPartSize sz ≠ 0 →
    ∀ i, chosenBlock tbl (targetPartSize sz) = some i → NextFits room sz (tbl.blockInfoTbl i)

/-- The record of the uid keeps its block. -/
def KeepsBlock (pages : Nat → Mem) (tbl : Tables) (uid sz : Nat) : Prop :=
  (findUid pages tbl uid).2.isSome ∧
    (tbl.blockInfoTbl (tbl.uidMap uid)).partSize = targetPartSize sz

/-- `update_uid` stays in its objects. -/
def UpdateFits (room : Nat) (pages : Nat → Mem) (tbl : Tables) (uid sz : Nat) : Prop :=
  if sz = 0 then RemovalFits room pages tbl uid true
  else MapFits tbl uid ∧ (targetPartSize sz ≠ 0 →
    (KeepsBlock pages tbl uid sz → RemovalFits room pages tbl uid false ∧
      NextFits room sz { tbl.blockInfoTbl (tbl.uidMap uid) with
        partOccupancy := (tbl.blockInfoTbl (tbl.uidMap uid)).partOccupancy - 1 }) ∧
    (¬KeepsBlock pages tbl uid sz → AllocationFits room tbl sz))

/-- The record of the uid, if there is one, has at most 127 sub-blocks. -/
def ReadFits (pages : Nat → Mem) (tbl : Tables) (uid : Nat) : Prop :=
  ∀ j, (findUid pages tbl uid).2 = some j →
    sizeToSubBlkCount (uidTbl (pages (tbl.uidMap uid)) j).sz ≤ 127

/-- The block info that the scan makes of a block with a right CRC. -/
def storedInfo (P : Platform) (page : Mem) : BlockInfo := scanInfo P page ⟨0, 0, 0, 0, 0, 0⟩

/-- The entries, as block and index, that the scan counts in the blocks `is`, in its order. -/
def scannedEntries (P : Platform) (pages : Nat → Mem) (is : List Nat) : List (Nat × Nat) :=
  is.flatMap fun i =>
    if blockCrcCheck P (pages i) then
      ((List.range (storedInfo P (pages i)).partOccupancy).filter fun j =>
        counted (uidTbl (pages i) j)).map fun j => (i, j)
    else []

/-- The uid of an entry. -/
def entryUid (pages : Nat → Mem) (p : Nat × Nat) : Nat := (uidTbl (pages p.1) p.2).uid

/-- The first entry whose uid an earlier one has, of those `seen` or before it, and that one. -/
def secondEntry (pages : Nat → Mem) :
    List (Nat × Nat) → List (Nat × Nat) → Option ((Nat × Nat) × (Nat × Nat))
  | _, [] => none
  | seen, p :: ps =>
    match seen.find? fun q => entryUid pages q = entryUid pages p with
    | some q => some (q, p)
    | none => secondEntry pages (p :: seen) ps

/-- The block from which the scan drops a uid that it finds in block `b` and in entry `p`. -/
def droppedBlock (P : Platform) (pages : Nat → Mem) (b : Nat) (p : Nat × Nat) : Nat :=
  let prev := (List.range (storedInfo P (pages b)).partOccupancy).find? fun j =>
    (uidTbl (pages b) j).uid = entryUid pages p
  if ((uidTbl (pages p.1) p.2).rev + 1) % 4 = (prev.map fun k => (uidTbl (pages b) k).rev).getD 0
  then p.1 else b

/-- `db2_startup_scan` stays in its objects: the uid that it finds twice can be dropped. -/
def DropFits (P : Platform) (room : Nat) (pages : Nat → Mem) (q p : Nat × Nat) : Prop :=
  BlockDropFits room (pages (droppedBlock P pages q.1 p))
    (storedInfo P (pages (droppedBlock P pages q.1 p))) true

/-! ### Routines of the database -/

/-- The scratch block and its info are in the command's member. -/
structure ScratchAt.Ok (c : ScratchAt) : Prop where
  block : c.blockOff + BLK_SIZE ≤ memberSize c.cmd
  info : c.infoOff + 8 ≤ memberSize c.cmd

/-- The bytes of the member from the scratch block on. -/
def ScratchAt.room (c : ScratchAt) : Nat := memberSize c.cmd - c.blockOff

section Routines

variable {c : ScratchAt} {pages : Nat → Mem} {tbl : Tables} {info : BlockInfo} {uid : Nat}

theorem ScratchAt.Ok.block_within (hc : c.Ok) {off len : Nat} :
    (c.block off len).Within ↔ off + len ≤ c.room := by
  have hblock := hc.block
  unfold ScratchAt.room
  change c.blockOff + off + len ≤ memberSize c.cmd ↔ _
  omega

theorem ScratchAt.Ok.blk_le_room (hc : c.Ok) : BLK_SIZE ≤ c.room := by
  have hblock := hc.block
  unfold ScratchAt.room
  omega

theorem ScratchAt.Ok.in_block (hc : c.Ok) {off len : Nat} (h : off + len ≤ BLK_SIZE) :
    (c.block off len).Within := hc.block_within.mpr (Nat.le_trans h hc.blk_le_room)

theorem ScratchAt.Ok.info_within (hc : c.Ok) : c.info.Within := hc.info

theorem ScratchAt.Ok.page_within (hc : c.Ok) : (c.block 0 BLK_SIZE).Within :=
  hc.in_block (Nat.le_of_eq (Nat.zero_add _))

theorem findUidTouches_within (huid : uid ≤ MAX_UID) :
    Touch.AllWithin (findUidTouches tbl uid) ↔ MapFits tbl uid := by
  unfold findUidTouches MapFits
  rw [Touch.allWithin_cons, and_iff_right (uidMapAt_within huid)]
  split
  · rename_i hinv
    exact ⟨fun _ => .inl hinv, fun _ => Touch.allWithin_nil⟩
  · rename_i hne
    rw [Touch.allWithin_cons, or_iff_right hne, blockInfoAt_within]
    exact and_iff_left Touch.allWithin_nil

/-- A record before the last one ends before it. -/
theorem removeUidTouches_within (hc : c.Ok) {index : Nat} (hindex : index < info.partOccupancy) :
    Touch.AllWithin (removeUidTouches c info index) ↔ LastFits c.room info := by
  have hpart : getPart info index ≤ getPart info (info.partOccupancy - 1) := by
    unfold getPart
    apply Nat.mul_le_mul_right
    apply Nat.add_le_add_left
    apply Nat.mul_le_mul_left
    omega
  have hentry : uidTblOff index ≤ uidTblOff (info.partOccupancy - 1) := by
    unfold uidTblOff
    apply Nat.add_le_add_left
    apply Nat.mul_le_mul_left
    omega
  unfold removeUidTouches
  simp only [Touch.allWithin_cons, Touch.allWithin_nil, and_true, hc.block_within]
  constructor
  · rintro ⟨-, hlast, -, hlast'⟩
    exact ⟨hlast', hlast⟩
  · rintro ⟨hlast', hlast⟩
    exact ⟨by omega, hlast, by omega, hlast'⟩

theorem deallocateUidTouches_within (hc : c.Ok) (huid : uid ≤ MAX_UID) (deallocateBlock : Bool) :
    Touch.AllWithin (deallocateUidTouches c pages tbl uid deallocateBlock) ↔
      RemovalFits c.room pages tbl uid deallocateBlock := by
  have hfst := findUid_fst pages tbl uid
  unfold deallocateUidTouches RemovalFits BlockDropFits
  rw [Touch.allWithin_append, findUidTouches_within huid]
  refine and_congr_right fun hmap => ?_
  split
  · rename_i hfind
    rw [hfind]
    exact ⟨fun _ hsome => absurd hsome Bool.false_ne_true, fun _ => Touch.allWithin_nil⟩
  · rename_i blockNum index hfind
    obtain ⟨rfl, hne, hindex, -⟩ := findUid_some hfind
    rw [hfind]
    dsimp only
    rw [List.cons_append, Touch.allWithin_cons, List.cons_append, Touch.allWithin_cons,
      blockInfoAt_within, and_iff_right (hmap.resolve_left hne), and_iff_right hc.info_within,
      List.nil_append, Option.isSome_some, forall_prop_of_true rfl]
    split
    · rename_i hfree
      rw [Touch.allWithin_cons]
      exact ⟨fun _ => .inl hfree, fun _ => ⟨hc.in_block (by decide), Touch.allWithin_nil⟩⟩
    · rename_i hfree
      rw [Touch.allWithin_cons, and_iff_right hc.page_within, or_iff_right hfree]
      split
      · rename_i hocc
        rw [removeUidTouches_within hc hindex, or_iff_right hocc]
      · rename_i hocc
        exact ⟨fun _ => .inl (not_not.mp hocc), fun _ => Touch.allWithin_nil⟩

theorem allocateUidBlkTouches_within (hc : c.Ok) {sz : Nat}
    (hsz : sizeToSubBlkCount sz * SUB_BLK_SIZE ≤ BLK_SIZE) :
    Touch.AllWithin (allocateUidBlkTouches c sz info) ↔ NextFits c.room sz info := by
  have hpayload : 4 + BLK_SIZE ≤ CMD_PACKET_PAYLOAD_SIZE + 7 := by decide
  have hdata : (dataAt 4 (sizeToSubBlkCount sz * SUB_BLK_SIZE)).Within :=
    dataAt_within (by omega)
  have hheader : 6 + 2 ≤ c.room := Nat.le_trans (by decide) hc.blk_le_room
  unfold allocateUidBlkTouches
  simp only [Touch.allWithin_cons, Touch.allWithin_nil, and_true, hc.block_within]
  constructor
  · rintro ⟨-, -, hentry, -, hpart⟩
    exact ⟨hentry, hpart⟩
  · rintro ⟨hentry, hpart⟩
    exact ⟨hc.info_within, hheader, hentry, hdata, hpart⟩

/-- The geometry of a new block. -/
theorem layout_newBlock {partSize : Nat} (hmem : partSize ∈ partSizes)
    (hsize : info.partSize = partSize) (hcount : info.partCount = getPartCount partSize % 256)
    (hoffs : info.partTblOffs = getBlockHeaderSize (getPartCount partSize % 256)) :
    Layout BLK_SIZE info ∧ 0 < info.partCount := by
  obtain ⟨hlt, -⟩ := getPartCount_lt _ hmem
  rw [Nat.mod_eq_of_lt hlt] at hcount hoffs
  refine ⟨layout_partCountIn (by decide) ?_ ?_ ?_, ?_⟩
  · rw [hcount, hsize]
    rfl
  · rw [hoffs, hcount]
  · rw [hcount]
    exact hlt
  · rw [hcount]
    exact getPartCount_pos _ hmem

/-- There is place for a record in a block that has room. -/
theorem nextFits_of_layout (hc : c.Ok) (hl : Layout BLK_SIZE info)
    (hroom : info.partOccupancy < info.partCount) {sz : Nat}
    (hsz : sizeToSubBlkCount sz ≤ info.partSize) : NextFits c.room sz info := by
  have hpart := hl.part_le hroom
  have hbytes : sizeToSubBlkCount sz * SUB_BLK_SIZE ≤ info.partSize * SUB_BLK_SIZE :=
    Nat.mul_le_mul_right _ hsz
  have hblk := hc.blk_le_room
  exact ⟨Nat.le_trans (hl.ent_lt hroom) hblk, by omega⟩

/-- A record that has a partition size fits in a block. -/
theorem bytes_le_of_targetPartSize {sz : Nat} (h : targetPartSize sz ≠ 0) :
    sizeToSubBlkCount sz * SUB_BLK_SIZE ≤ BLK_SIZE := by
  obtain ⟨hmem, hfit⟩ := targetPartSize_spec h
  have hle : ∀ p ∈ partSizes, p * SUB_BLK_SIZE ≤ BLK_SIZE := by decide
  exact Nat.le_trans (Nat.mul_le_mul_right _ hfit) (hle _ hmem)

theorem allocateUidTouches_within (hc : c.Ok) (sz : Nat) (t : Scratch) :
    Touch.AllWithin (allocateUidTouches c tbl sz t) ↔ AllocationFits c.room tbl sz := by
  unfold allocateUidTouches AllocationFits
  dsimp only
  split
  · rename_i hzero
    exact ⟨fun _ hne => absurd hzero hne, fun _ => Touch.allWithin_nil⟩
  · rename_i hsize
    obtain ⟨hmem, hfit⟩ := targetPartSize_spec hsize
    have hbytes := bytes_le_of_targetPartSize hsize
    have hroom : ∀ i, HasRoom tbl (targetPartSize sz) i →
        (Touch.AllWithin ([blockInfoAt i, c.info, c.block 0 BLK_SIZE] ++
          allocateUidBlkTouches c sz (tbl.blockInfoTbl i)) ↔
            NextFits c.room sz (tbl.blockInfoTbl i)) := by
      intro i hi
      have hblock : (blockInfoAt i).Within := (dataBlock_bounds hi.mem).2
      rw [Touch.allWithin_append, allocateUidBlkTouches_within hc hbytes]
      simp only [Touch.allWithin_cons, Touch.allWithin_nil, and_true]
      exact and_iff_right ⟨hblock, hc.info_within, hc.page_within⟩
    rw [Touch.allWithin_append, and_iff_right blockInfoTouches_within, forall_prop_of_true hsize]
    unfold chosenBlock
    split
    · rename_i i hexact
      rw [hroom i (findExactBlock_spec hexact), hexact, Option.some_or]
      exact ⟨fun h k hk => Option.some.inj hk ▸ h, fun h => h i rfl⟩
    · rename_i hexact
      rw [hexact, Option.none_or]
      split
      · obtain ⟨hlayout, hpos⟩ := @layout_newBlock { t.blkInfo with
          partOccupancy := 0
          partSize := targetPartSize sz
          partCount := getPartCount (targetPartSize sz) % 256
          partTblOffs := getBlockHeaderSize (getPartCount (targetPartSize sz) % 256) }
          _ hmem rfl rfl rfl
        refine ⟨fun _ k hk => (by cases hk), fun _ => ?_⟩
        simp only [Touch.allWithin_append, Touch.allWithin_cons, Touch.allWithin_nil, and_true]
        exact ⟨⟨hc.page_within, hc.info_within⟩, (allocateUidBlkTouches_within hc hbytes).mpr
          (nextFits_of_layout hc hlayout hpos hfit)⟩
      · split
        · rename_i i hlarger
          rw [hroom i (findLargerBlock_spec hlarger)]
          exact ⟨fun h k hk => Option.some.inj (hlarger.symm.trans hk) ▸ h, fun h => h i hlarger⟩
        · rename_i hnone
          refine ⟨fun _ k hk => ?_, fun _ => Touch.allWithin_nil⟩
          rw [hnone] at hk
          cases hk

theorem updateUidTouches_within (hc : c.Ok) (huid : uid ≤ MAX_UID) (sz : Nat) (t : Scratch) :
    Touch.AllWithin (updateUidTouches c pages tbl uid sz t) ↔
      UpdateFits c.room pages tbl uid sz := by
  unfold updateUidTouches UpdateFits
  split
  · exact deallocateUidTouches_within hc huid true
  · rw [Touch.allWithin_append, findUidTouches_within huid]
    refine and_congr_right fun hmap => ?_
    split
    · rename_i blockNum hfind
      have hnot : ¬KeepsBlock pages tbl uid sz := by
        unfold KeepsBlock
        rw [hfind]
        exact fun hkeep => Bool.false_ne_true hkeep.1
      rw [allocateUidTouches_within hc]
      exact ⟨fun h _ => ⟨fun hkeep => absurd hkeep hnot, fun _ => h⟩,
        fun h hsize => (h hsize).2 hnot hsize⟩
    · rename_i blockNum index hfind
      obtain ⟨rfl, hne, hindex, -⟩ := findUid_some hfind
      have hsome : (findUid pages tbl uid).2.isSome := by
        rw [hfind]
        rfl
      have hblock : (blockInfoAt (tbl.uidMap uid)).Within := hmap.resolve_left hne
      dsimp only
      split
      · rename_i hzero
        exact ⟨fun _ hsize => absurd hzero hsize, fun _ => Touch.allWithin_nil⟩
      · rename_i hsize
        have hbytes := bytes_le_of_targetPartSize hsize
        rw [List.cons_append, Touch.allWithin_cons, List.cons_append, Touch.allWithin_cons,
          and_iff_right hblock, and_iff_right hc.info_within, List.nil_append,
          forall_prop_of_true hsize]
        split
        · rename_i hsame
          have hkeep : KeepsBlock pages tbl uid sz := ⟨hsome, hsame⟩
          rw [List.cons_append, Touch.allWithin_cons, Touch.allWithin_append,
            and_iff_right hc.page_within, deallocateUidTouches_within hc huid,
            allocateUidBlkTouches_within hc hbytes]
          exact ⟨fun h => ⟨fun _ => h, fun hnot => absurd hkeep hnot⟩, fun h => h.1 hkeep⟩
        · rename_i hother
          have hnot : ¬KeepsBlock pages tbl uid sz := fun hkeep => hother hkeep.2
          rw [allocateUidTouches_within hc]
          exact ⟨fun h => ⟨fun hkeep => absurd hkeep hnot, fun _ => h⟩, fun h => h.2 hnot⟩

end Routines

/-! ### The startup scan -/

section Scan

variable {P : Platform} {c : ScratchAt} {pages : Nat → Mem} {tbl : Tables} {i : Nat}
  {seen : List (Nat × Nat)}

theorem scanInfo_eq_storedInfo (h : blockCrcCheck P (pages i) = true) (old : BlockInfo) :
    scanInfo P (pages i) old = storedInfo P (pages i) :=
  (scanInfo_of_crcCheck P h old).trans (scanInfo_of_crcCheck P h _).symm

/-- What the tables have after the scan has counted the entries `seen`, newest first. -/
structure Seen (P : Platform) (pages : Nat → Mem) (tbl : Tables) (seen : List (Nat × Nat)) :
    Prop where
  map : ∀ uid, MIN_UID ≤ uid → uid ≤ MAX_UID → tbl.uidMap uid =
    ((seen.find? fun q => entryUid pages q = uid).map Prod.fst).getD INVALID_BLOCK
  block : ∀ q ∈ seen, q.1 ∈ dataBlocks ∧ blockCrcCheck P (pages q.1) = true ∧
    tbl.blockInfoTbl q.1 = storedInfo P (pages q.1) ∧
    q.2 < (storedInfo P (pages q.1)).partOccupancy

theorem Seen.mem (h : Seen P pages tbl seen) {uid : Nat} (hmin : MIN_UID ≤ uid)
    (hmax : uid ≤ MAX_UID) (hmap : tbl.uidMap uid ≠ INVALID_BLOCK) :
    ∃ q, (seen.find? fun q => entryUid pages q = uid) = some q ∧ tbl.uidMap uid = q.1 := by
  have heq := h.map uid hmin hmax
  cases hfind : seen.find? fun q => entryUid pages q = uid with
  | none =>
    rw [hfind] at heq
    exact absurd heq hmap
  | some q =>
    rw [hfind] at heq
    exact ⟨q, rfl, heq⟩

/-- An entry with a new uid is counted. -/
theorem Seen.setUid (h : Seen P pages tbl seen) (hi : i ∈ dataBlocks)
    (hcrc : blockCrcCheck P (pages i) = true)
    (hinfo : tbl.blockInfoTbl i = storedInfo P (pages i)) {j : Nat}
    (hj : j < (storedInfo P (pages i)).partOccupancy) :
    Seen P pages (tbl.setUid (uidTbl (pages i) j).uid i) ((i, j) :: seen) := by
  refine ⟨fun uid hmin hmax => ?_, fun q hq => ?_⟩
  · rw [List.find?_cons]
    by_cases heq : (uidTbl (pages i) j).uid = uid
    · have hhead : decide (entryUid pages (i, j) = uid) = true := decide_eq_true heq
      rw [hhead]
      exact (if_pos heq.symm).trans (dataBlock_mod hi)
    · have hhead : decide (entryUid pages (i, j) = uid) = false := decide_eq_false heq
      rw [hhead]
      exact (if_neg fun h => heq h.symm).trans (h.map uid hmin hmax)
  · rcases List.mem_cons.mp hq with rfl | hq
    · exact ⟨hi, hcrc, hinfo, hj⟩
    · exact h.block q hq

/-- The next block has its info. -/
theorem Seen.setInfo (h : Seen P pages tbl seen) (old : BlockInfo) :
    Seen P pages (tbl.setInfo i (scanInfo P (pages i) old)) seen := by
  refine ⟨h.map, fun q hq => ?_⟩
  obtain ⟨hmem, hcrc, hinfo, hlt⟩ := h.block q hq
  refine ⟨hmem, hcrc, ?_, hlt⟩
  change (if q.1 = i then _ else _) = _
  split
  · rename_i heq
    rw [← heq]
    exact scanInfo_eq_storedInfo hcrc old
  · exact hinfo

/-- The routine is given a uid that is in the block. -/
theorem isSome_findUid {uid b j : Nat} (hmap : tbl.uidMap uid = b) (hb : b ≠ INVALID_BLOCK)
    (hj : j < (tbl.blockInfoTbl b).partOccupancy) (huid : (uidTbl (pages b) j).uid = uid) :
    (findUid pages tbl uid).2.isSome := by
  unfold findUid
  dsimp only
  rw [hmap, if_neg hb, List.find?_isSome]
  exact ⟨j, List.mem_range.mpr hj, decide_eq_true huid⟩

/-- **A uid that is found twice** is dropped from one of its blocks. -/
theorem Seen.doubled (hc : c.Ok) (h : Seen P pages tbl seen) (hi : i ∈ dataBlocks)
    (hinfo : tbl.blockInfoTbl i = storedInfo P (pages i)) {j : Nat}
    (hj : j < (storedInfo P (pages i)).partOccupancy) {q : Nat × Nat}
    (hmax : (uidTbl (pages i) j).uid ≤ MAX_UID)
    (hq : (seen.find? fun q => entryUid pages q = (uidTbl (pages i) j).uid) = some q)
    (hmap : tbl.uidMap (uidTbl (pages i) j).uid = q.1) {prevRev : Nat}
    (hprev : prevRev = ((findUid pages tbl (uidTbl (pages i) j).uid).2.map fun k =>
      (uidTbl (pages q.1) k).rev).getD 0) :
    Touch.AllWithin (deallocateUidTouches c pages
      (if ((uidTbl (pages i) j).rev + 1) % 4 = prevRev then
        tbl.setUid (uidTbl (pages i) j).uid i else tbl) (uidTbl (pages i) j).uid true) ↔
      DropFits P c.room pages q (i, j) := by
  obtain ⟨hqmem, -, hqinfo, hqlt⟩ := h.block q (List.mem_of_find?_eq_some hq)
  have hquid : entryUid pages q = (uidTbl (pages i) j).uid :=
    of_decide_eq_true (@List.find?_some _ (fun q => entryUid pages q = _) _ _ hq)
  have hdropped : (if ((uidTbl (pages i) j).rev + 1) % 4 = prevRev then i else q.1) =
      droppedBlock P pages q.1 (i, j) := by
    rw [hprev]
    unfold findUid droppedBlock
    dsimp only
    rw [hmap, if_neg (dataBlock_ne_invalid hqmem), hqinfo]
    rfl
  have hboth : ∀ (t : Tables) (b k : Nat), b ∈ dataBlocks →
      t.uidMap (uidTbl (pages i) j).uid = b → t.blockInfoTbl b = storedInfo P (pages b) →
      k < (storedInfo P (pages b)).partOccupancy →
      (uidTbl (pages b) k).uid = (uidTbl (pages i) j).uid →
      (Touch.AllWithin (deallocateUidTouches c pages t (uidTbl (pages i) j).uid true) ↔
        BlockDropFits c.room (pages b) (storedInfo P (pages b)) true) := by
    intro t b k hb htmap htinfo hk huid
    have hsome : (findUid pages t (uidTbl (pages i) j).uid).2.isSome :=
      isSome_findUid htmap (dataBlock_ne_invalid hb) (by rw [htinfo]; exact hk) huid
    have hfits : MapFits t (uidTbl (pages i) j).uid := by
      right
      rw [htmap]
      exact (dataBlock_bounds hb).2
    rw [deallocateUidTouches_within hc hmax]
    unfold RemovalFits
    rw [and_iff_right hfits, forall_prop_of_true hsome, htmap, htinfo]
  unfold DropFits
  rw [← hdropped]
  split
  · exact hboth _ i j hi ((if_pos rfl).trans (dataBlock_mod hi)) hinfo hj rfl
  · exact hboth _ q.1 q.2 hqmem hmap hqinfo hqlt hquid

/-- What is left of the entries of block `i`. -/
def entriesOf (pages : Nat → Mem) (i : Nat) (js : List Nat) : List (Nat × Nat) :=
  (js.filter fun j => counted (uidTbl (pages i) j)).map fun j => (i, j)

/-- The scan of entries of a block: it stops at a uid that is found twice, or goes through. -/
inductive EntsScanned (P : Platform) (c : ScratchAt) (pages : Nat → Mem) (i : Nat)
    (js : List Nat) (r : Scan) (seen : List (Nat × Nat)) : Prop where
  | stops (q p : Nat × Nat) :
      (∀ rest, secondEntry pages seen (entriesOf pages i js ++ rest) = some (q, p)) →
      (scanEnts P pages i js r).repair.isSome →
      (Touch.AllWithin (scanEntsTouches c pages i js r) ↔ DropFits P c.room pages q p) →
      EntsScanned P c pages i js r seen
  | through (seen' : List (Nat × Nat)) :
      (∀ rest, secondEntry pages seen (entriesOf pages i js ++ rest) =
        secondEntry pages seen' rest) →
      (scanEnts P pages i js r).repair = r.repair →
      Seen P pages (scanEnts P pages i js r).tables seen' →
      Touch.AllWithin (scanEntsTouches c pages i js r) → EntsScanned P c pages i js r seen

/-! One entry of a block: it is skipped, it has a new uid, or its uid was found before. -/

section Entry

variable {j : Nat} {js : List Nat} {r : Scan}

theorem entriesOf_skip (js : List Nat) (h : ¬counted (uidTbl (pages i) j)) :
    entriesOf pages i (j :: js) = entriesOf pages i js := by
  unfold entriesOf
  rw [List.filter_cons, if_neg fun hcount => h (of_decide_eq_true hcount)]

theorem entriesOf_counted (js : List Nat) (h : counted (uidTbl (pages i) j)) :
    entriesOf pages i (j :: js) = (i, j) :: entriesOf pages i js := by
  unfold entriesOf
  rw [List.filter_cons, if_pos (decide_eq_true h), List.map_cons]

theorem scanEnts_skip (js : List Nat) (h : ¬counted (uidTbl (pages i) j)) :
    scanEnts P pages i (j :: js) r = scanEnts P pages i js r := by
  conv => lhs; unfold scanEnts
  exact if_neg h

theorem scanEntsTouches_skip (js : List Nat) (h : ¬counted (uidTbl (pages i) j)) :
    scanEntsTouches c pages i (j :: js) r = scanEntsTouches c pages i js r := by
  conv => lhs; unfold scanEntsTouches
  exact if_neg h

theorem scanEnts_new (js : List Nat) (h : counted (uidTbl (pages i) j))
    (hnew : r.tables.uidMap (uidTbl (pages i) j).uid = INVALID_BLOCK) :
    scanEnts P pages i (j :: js) r =
      scanEnts P pages i js { r with tables := r.tables.setUid (uidTbl (pages i) j).uid i } := by
  conv => lhs; unfold scanEnts
  dsimp only
  rw [if_pos ⟨h.1, h.2.1, h.2.2⟩, if_neg (not_not.mpr hnew)]

theorem scanEntsTouches_new (js : List Nat) (h : counted (uidTbl (pages i) j))
    (hnew : r.tables.uidMap (uidTbl (pages i) j).uid = INVALID_BLOCK) :
    scanEntsTouches c pages i (j :: js) r = uidMapAt (uidTbl (pages i) j).uid ::
      scanEntsTouches c pages i js
        { r with tables := r.tables.setUid (uidTbl (pages i) j).uid i } := by
  conv => lhs; unfold scanEntsTouches
  dsimp only
  rw [if_pos ⟨h.1, h.2.1, h.2.2⟩, if_neg (not_not.mpr hnew)]

/-- A uid without a block is in no entry so far. -/
theorem Seen.find?_eq_none (h : Seen P pages tbl seen) {uid : Nat} (hmin : MIN_UID ≤ uid)
    (hmax : uid ≤ MAX_UID) (hmap : tbl.uidMap uid = INVALID_BLOCK) :
    (seen.find? fun q => entryUid pages q = uid) = none := by
  cases hfind : seen.find? fun q => entryUid pages q = uid with
  | none => rfl
  | some q =>
    have hq := h.map uid hmin hmax
    rw [hmap, hfind] at hq
    exact absurd hq.symm (dataBlock_ne_invalid (h.block q (List.mem_of_find?_eq_some hfind)).1)

theorem secondEntry_new {p : Nat × Nat}
    (h : (seen.find? fun q => entryUid pages q = entryUid pages p) = none)
    (rest : List (Nat × Nat)) :
    secondEntry pages seen (p :: rest) = secondEntry pages (p :: seen) rest := by
  conv => lhs; unfold secondEntry
  rw [h]

theorem EntsScanned.skip (hskip : ¬counted (uidTbl (pages i) j))
    (h : EntsScanned P c pages i js r seen) : EntsScanned P c pages i (j :: js) r seen := by
  have hentries := entriesOf_skip js hskip
  have hscan := scanEnts_skip (P := P) (r := r) js hskip
  have htouches := scanEntsTouches_skip (c := c) (r := r) js hskip
  cases h with
  | stops q p hend hrepair hwithin =>
    exact .stops q p (hentries ▸ hend) (hscan ▸ hrepair) (htouches ▸ hwithin)
  | through seen' hend hrepair hseen hwithin =>
    exact .through seen' (hentries ▸ hend) (hscan ▸ hrepair) (hscan ▸ hseen) (htouches ▸ hwithin)

theorem EntsScanned.count (hs : Seen P pages r.tables seen) (hcount : counted (uidTbl (pages i) j))
    (hnew : r.tables.uidMap (uidTbl (pages i) j).uid = INVALID_BLOCK)
    (h : EntsScanned P c pages i js
      { r with tables := r.tables.setUid (uidTbl (pages i) j).uid i } ((i, j) :: seen)) :
    EntsScanned P c pages i (j :: js) r seen := by
  obtain ⟨hmin, hmax, -⟩ := id hcount
  have hmapped : (uidMapAt (uidTbl (pages i) j).uid).Within := uidMapAt_within hmax
  have hsecond : ∀ rest, secondEntry pages seen (entriesOf pages i (j :: js) ++ rest) =
      secondEntry pages ((i, j) :: seen) (entriesOf pages i js ++ rest) := by
    intro rest
    rw [entriesOf_counted js hcount, List.cons_append]
    exact secondEntry_new (p := (i, j)) (hs.find?_eq_none hmin hmax hnew) _
  have hscan := scanEnts_new (P := P) js hcount hnew
  have htouches := scanEntsTouches_new (c := c) js hcount hnew
  cases h with
  | stops q p hend hrepair hwithin =>
    refine .stops q p (fun rest => (hsecond rest).trans (hend rest)) (hscan ▸ hrepair) ?_
    rw [htouches, Touch.allWithin_cons, and_iff_right hmapped]
    exact hwithin
  | through seen' hend hrepair hseen hwithin =>
    refine .through seen' (fun rest => (hsecond rest).trans (hend rest)) (hscan ▸ hrepair)
      (hscan ▸ hseen) ?_
    rw [htouches, Touch.allWithin_cons]
    exact ⟨hmapped, hwithin⟩

/-- The scan ends at a uid that has an entry. -/
theorem EntsScanned.second (hc : c.Ok) (h : Seen P pages r.tables seen) (hi : i ∈ dataBlocks)
    (hinfo : r.tables.blockInfoTbl i = storedInfo P (pages i))
    (hj : j < (storedInfo P (pages i)).partOccupancy) (hcount : counted (uidTbl (pages i) j))
    (hold : r.tables.uidMap (uidTbl (pages i) j).uid ≠ INVALID_BLOCK) :
    EntsScanned P c pages i (j :: js) r seen := by
  obtain ⟨hmin, hmax, hfirst⟩ := id hcount
  obtain ⟨q, hq, hmap⟩ := h.mem hmin hmax hold
  have hqmem := (h.block q (List.mem_of_find?_eq_some hq)).1
  have hfits : MapFits r.tables (uidTbl (pages i) j).uid := by
    right
    rw [hmap]
    exact (dataBlock_bounds hqmem).2
  refine .stops q (i, j) (fun rest => ?_) ?_ ?_
  · rw [entriesOf_counted js hcount, List.cons_append]
    unfold secondEntry
    rw [show (seen.find? fun q => entryUid pages q = entryUid pages (i, j)) = some q from hq]
  · unfold scanEnts
    dsimp only
    rw [if_pos ⟨hmin, hmax, hfirst⟩, if_pos hold]
    rfl
  · unfold scanEntsTouches
    dsimp only
    rw [if_pos ⟨hmin, hmax, hfirst⟩, if_pos hold, Touch.allWithin_cons,
      and_iff_right (uidMapAt_within hmax), Touch.allWithin_append, Touch.allWithin_append,
      Touch.allWithin_cons, findUidTouches_within hmax, and_iff_right hfits,
      and_iff_right (uidMapAt_within hmax)]
    refine Iff.trans (and_iff_left ?_) ?_
    · simp only [Touch.allWithin_cons, Touch.allWithin_nil, and_true]
      exact ⟨hc.info_within, hc.page_within⟩
    · refine h.doubled hc hi hinfo hj hmax hq hmap ?_
      split
      · rename_i b k hfind
        obtain ⟨rfl, -⟩ := findUid_some hfind
        rw [hfind, hmap]
        rfl
      · rename_i b hfind
        rw [hfind]
        rfl

end Entry

theorem scanEnts_scanned (hc : c.Ok) (hi : i ∈ dataBlocks)
    (hcrc : blockCrcCheck P (pages i) = true) (js : List Nat) : ∀ (r : Scan)
    (seen : List (Nat × Nat)), Seen P pages r.tables seen →
      r.tables.blockInfoTbl i = storedInfo P (pages i) →
      (∀ j ∈ js, j < (storedInfo P (pages i)).partOccupancy) →
      EntsScanned P c pages i js r seen := by
  induction js with
  | nil =>
    intro r seen h _ _
    exact .through seen (fun _ => rfl) rfl h Touch.allWithin_nil
  | cons j js ih =>
    intro r seen h hinfo hlt
    have hj := hlt j List.mem_cons_self
    have hlt' : ∀ k ∈ js, k < (storedInfo P (pages i)).partOccupancy :=
      fun k hk => hlt k (List.mem_cons_of_mem _ hk)
    by_cases hcount : counted (uidTbl (pages i) j)
    · by_cases hnew : r.tables.uidMap (uidTbl (pages i) j).uid = INVALID_BLOCK
      · exact .count h hcount hnew (ih _ _ (h.setUid hi hcrc hinfo hj) hinfo hlt')
      · exact .second hc h hi hinfo hj hcount hnew
    · exact .skip hcount (ih r seen h hinfo hlt')

theorem scannedEntries_cons (i : Nat) (is : List Nat) :
    scannedEntries P pages (i :: is) =
      (if blockCrcCheck P (pages i) = true then
        entriesOf pages i (List.range (storedInfo P (pages i)).partOccupancy) else []) ++
        scannedEntries P pages is := List.flatMap_cons

/-- **The scan stays in its objects** exactly if the first uid that it finds twice, if there is
    one, can be dropped. -/
theorem scanBlocksTouches_within (hc : c.Ok) (is : List Nat) : ∀ (r : Scan)
    (seen : List (Nat × Nat)), (∀ i ∈ is, i ∈ dataBlocks) → r.repair = none →
      Seen P pages r.tables seen →
      (Touch.AllWithin (scanBlocksTouches P c pages is r) ↔
        ∀ q p, secondEntry pages seen (scannedEntries P pages is) = some (q, p) →
          DropFits P c.room pages q p) := by
  induction is with
  | nil =>
    intro r seen _ _ _
    exact ⟨fun _ q p hfalse => (by cases hfalse), fun _ => Touch.allWithin_nil⟩
  | cons i is ih =>
    intro r seen hmem hrep h
    have hi := hmem i List.mem_cons_self
    have hmem' : ∀ k ∈ is, k ∈ dataBlocks := fun k hk => hmem k (List.mem_cons_of_mem _ hk)
    have hset := h.setInfo (i := i) (r.tables.blockInfoTbl i)
    have hblock : (blockInfoAt i).Within := (dataBlock_bounds hi).2
    unfold scanBlocksTouches
    dsimp only
    rw [Touch.allWithin_cons, and_iff_right hblock, scannedEntries_cons]
    split
    · rename_i hlive
      have hcrc : blockCrcCheck P (pages i) = true := (live_scanInfo P _ _).mp hlive
      have hinfo := scanInfo_eq_storedInfo hcrc (r.tables.blockInfoTbl i)
      rw [hinfo] at hset ⊢
      have hself : (r.tables.setInfo i (storedInfo P (pages i))).blockInfoTbl i =
          storedInfo P (pages i) := if_pos rfl
      rw [if_pos hcrc, Touch.allWithin_append]
      have hscanned := scanEnts_scanned hc hi hcrc
        (List.range (storedInfo P (pages i)).partOccupancy)
        { r with tables := r.tables.setInfo i (storedInfo P (pages i)) } seen hset hself
        (fun j hj => List.mem_range.mp hj)
      cases hscanned with
      | stops q p hend hrepair hwithin =>
        rw [hend, if_pos hrepair, hwithin, and_iff_left Touch.allWithin_nil]
        constructor
        · intro hfits q' p' heq
          cases heq
          exact hfits
        · exact fun hall => hall q p rfl
      | through seen' hend hrepair hseen hwithin =>
        have hnone : (scanEnts P pages i (List.range (storedInfo P (pages i)).partOccupancy)
            { r with tables := r.tables.setInfo i (storedInfo P (pages i)) }).repair = none :=
          hrepair.trans hrep
        have hgoes : ¬(scanEnts P pages i (List.range (storedInfo P (pages i)).partOccupancy)
            { r with tables := r.tables.setInfo i (storedInfo P (pages i)) }).repair.isSome := by
          rw [hnone]
          exact Bool.false_ne_true
        rw [hend, if_neg hgoes, and_iff_right hwithin]
        exact ih _ seen' hmem' hnone hseen
    · rename_i hlive
      have hcrc : ¬blockCrcCheck P (pages i) = true := fun hcrc =>
        hlive ((live_scanInfo P _ _).mpr hcrc)
      rw [if_neg hcrc, List.nil_append]
      exact ih _ seen hmem' hrep hset

theorem db2StartupScanTouches_within (hc : c.Ok) (scratch : Scratch) :
    Touch.AllWithin (db2StartupScanTouches P c pages tbl scratch) ↔
      ∀ q p, secondEntry pages [] (scannedEntries P pages dataBlocks) = some (q, p) →
        DropFits P c.room pages q p := by
  have hmap : Touch.AllWithin uidMapTouches := uidMap_range_within (Nat.le_refl _)
  unfold db2StartupScanTouches
  rw [Touch.allWithin_append, and_iff_right hmap]
  refine scanBlocksTouches_within hc dataBlocks _ [] (fun _ hi => hi) rfl ⟨?_, ?_⟩
  · intro uid hmin hmax
    exact if_pos ⟨hmin, hmax⟩
  · intro q hq
    cases hq

end Scan

/-! ### Commands on records -/

/-- STARTUP stays in its objects: it scans if the root page, which it loads, is in order. -/
def StartupFits (P : Platform) (s : Dev) : Prop :=
  (cmdInit P s).rootPage.read (RootPage.signature + 1) (AES_BLK_SIZE - 1) = rootSignature.drop 1 →
    (cmdInit P s).rootPage RootPage.signature = 2 → (cmdInit P s).rootPage RootPage.dbVersion = 2 →
    ∀ q p, secondEntry (block P s) [] (scannedEntries P (block P s) dataBlocks) = some (q, p) →
      DropFits P startupScratch.room (block P s) q p

section Commands

variable (P : Platform) (s : Dev) (data : Mem) (dataLen : Int)

/-- READ_UID stays in its objects. -/
def ReadUidFits : Prop :=
  3 ≤ dataLen → MIN_UID ≤ data.get16 0 → data.get16 0 ≤ MAX_UID →
    MapFits s.tables (data.get16 0) ∧
      ((data 2).toNat ≠ 0 → ReadFits (block P s) s.tables (data.get16 0))

/-- UPDATE_UID and UPDATE_UIDS stay in their objects. -/
def UpdateUidFits : Prop :=
  4 ≤ dataLen → MIN_UID ≤ data.get16 0 → data.get16 0 ≤ MAX_UID →
    dataLen - 4 = sizeToSubBlkCount (data.get16 2) * SUB_BLK_SIZE →
    UpdateFits BLK_SIZE (block P s) s.tables (data.get16 0) (data.get16 2)

/-- READ_ALL_UIDS stays in its objects: unmasked it reads the first uid that is mapped. -/
def ReadAllUidsFits : Prop :=
  1 ≤ dataLen → (data 0).toNat ≠ 0 → ∀ uid, nextMappedUid s.tables MIN_UID = some uid →
    MapFits s.tables uid ∧ ReadFits (block P s) s.tables uid

variable {P s data dataLen}

theorem startupScratch_ok : startupScratch.Ok := ⟨by decide, by decide⟩

theorem startupCmdTouches_within :
    Touch.AllWithin (startupCmdTouches P s) ↔ StartupFits P s := by
  have hblocks : block P (cmdInit P s) = block P s := rfl
  unfold startupCmdTouches startupCmdIterTouches StartupFits
  dsimp only
  rw [Touch.allWithin_append, and_iff_right (by decide)]
  split
  · rename_i hroot
    rw [forall_prop_of_true hroot.1, forall_prop_of_true hroot.2, Touch.allWithin_append,
      and_iff_right (by decide)]
    split
    · rename_i hversion
      rw [db2StartupScanTouches_within startupScratch_ok, forall_prop_of_true hversion, hblocks]
    · rename_i hversion
      exact ⟨fun _ h => absurd h hversion, fun _ => Touch.allWithin_nil⟩
  · rename_i hroot
    exact ⟨fun _ h h' => absurd ⟨h, h'⟩ hroot, fun _ => Touch.allWithin_nil⟩

theorem updateScratch_ok {cmd : Command} (hcmd : cmd = .updateUid ∨ cmd = .updateUids) :
    (updateScratch cmd).Ok ∧ (updateScratch cmd).room = BLK_SIZE := by
  rcases hcmd with rfl | rfl <;> exact ⟨⟨by decide, by decide⟩, rfl⟩

theorem updateUidPacketTouches_within {cmd : Command}
    (hcmd : cmd = .updateUid ∨ cmd = .updateUids) :
    Touch.AllWithin (updateUidPacketTouches P s data dataLen cmd) ↔
      UpdateUidFits P s data dataLen := by
  obtain ⟨hc, hroom⟩ := updateScratch_ok hcmd
  unfold updateUidPacketTouches UpdateUidFits
  split
  · exact ⟨fun _ _ => by omega, fun _ => Touch.allWithin_nil⟩
  · rename_i hlen
    dsimp only
    rw [Touch.allWithin_append, and_iff_right (by decide),
      forall_prop_of_true (Int.not_lt.mp hlen)]
    split
    · rename_i hbad
      exact ⟨fun _ _ _ _ => by omega, fun _ => Touch.allWithin_nil⟩
    · rename_i hgood
      obtain ⟨hmin, hmax, hsize⟩ : MIN_UID ≤ data.get16 0 ∧ data.get16 0 ≤ MAX_UID ∧
          dataLen - 4 = sizeToSubBlkCount (data.get16 2) * SUB_BLK_SIZE := by omega
      have hiv : Touch.AllWithin (deriveIvTouches cmd CmdData.updateUidIv) := by
        rcases hcmd with rfl | rfl <;> decide
      have hfields : Touch.AllWithin [memberAt cmd CmdData.updateUidUid 4,
          memberAt cmd CmdData.updateUidSz 4, memberAt cmd CmdData.updateUidWriteCount 4,
          memberAt cmd CmdData.updateUidBlockNum 4,
          memberAt cmd CmdData.updateUidPrevBlockNum 4] := by
        rcases hcmd with rfl | rfl <;> decide
      have hcomplete : Touch.AllWithin (if updatePressType cmd s = 0 then
          updateUidCmdCompleteTouches cmd else []) := by
        split
        · rcases hcmd with rfl | rfl <;> decide
        · exact Touch.allWithin_nil
      unfold updateUidCmdTouches
      rw [Touch.allWithin_append, Touch.allWithin_append, Touch.allWithin_append,
        and_iff_right hiv, and_iff_right hfields, and_iff_left hcomplete,
        updateUidTouches_within hc hmax, hroom, forall_prop_of_true hmin, forall_prop_of_true hmax,
        forall_prop_of_true hsize]

/-- The bytes of a record go behind `off` bytes of the block in the command's member. -/
theorem decodeUidTouches_within {cmd : Command} {sz blockNum off : Nat}
    (hblock : blockNum < NUM_STORAGE_BLOCKS) :
    Touch.AllWithin (decodeUidTouches cmd sz blockNum off) ↔
      off + sizeToSubBlkCount sz * SUB_BLK_SIZE ≤ memberSize cmd := by
  unfold decodeUidTouches
  rw [Touch.allWithin_cons, Touch.allWithin_cons, and_iff_right (blockInfoAt_within.mpr hblock)]
  exact and_iff_left Touch.allWithin_nil

theorem readUidPacketTouches_within :
    Touch.AllWithin (readUidPacketTouches P s data dataLen) ↔ ReadUidFits P s data dataLen := by
  unfold readUidPacketTouches ReadUidFits
  split
  · exact ⟨fun _ _ => by omega, fun _ => Touch.allWithin_nil⟩
  · rename_i hlen
    rw [Touch.allWithin_append, and_iff_right (by decide),
      forall_prop_of_true (Int.not_lt.mp hlen)]
    split
    · rename_i hbad
      exact ⟨fun _ _ _ => by omega, fun _ => Touch.allWithin_nil⟩
    · rename_i hgood
      obtain ⟨hmin, hmax⟩ : MIN_UID ≤ data.get16 0 ∧ data.get16 0 ≤ MAX_UID := by omega
      have hfields : Touch.AllWithin [memberAt .readUid CmdData.readUidUid 4,
          memberAt .readUid CmdData.readUidMasked 4, memberAt .readUid CmdData.readUidBlockNum 4,
          memberAt .readUid CmdData.readUidIndex 4, memberAt .readUid CmdData.readUidEnt 4] := by
        decide
      have hiv : Touch.AllWithin (deriveIvTouches .readUid CmdData.readUidIv) := by decide
      unfold readUidCmdTouches ReadFits
      rw [Touch.allWithin_append, Touch.allWithin_append, Touch.allWithin_append,
        and_iff_right hfields, and_iff_left hiv, findUidTouches_within hmax,
        forall_prop_of_true hmin, forall_prop_of_true hmax]
      refine and_congr_right fun hmap => ?_
      split
      · rename_i blockNum hfind
        rw [hfind]
        exact ⟨fun _ _ j hj => (by cases hj), fun _ => Touch.allWithin_nil⟩
      · rename_i blockNum index hfind
        obtain ⟨rfl, hne, -⟩ := findUid_some hfind
        rw [hfind]
        split
        · rename_i hmasked
          exact ⟨fun _ h => absurd hmasked h, fun _ => Touch.allWithin_nil⟩
        · rename_i hmasked
          rw [forall_prop_of_true hmasked, List.cons_append, Touch.allWithin_cons,
            Touch.allWithin_append, decodeUidTouches_within (hmap.resolve_left hne),
            Touch.allWithin_cons, and_iff_right (by decide)]
          constructor
          · rintro ⟨hfits, -⟩ j hj
            cases hj
            change 36 + 2 + _ * 16 ≤ 2084 at hfits
            omega
          · intro hfits
            have hle := hfits index rfl
            refine ⟨?_, memberAt_within ?_, Touch.allWithin_nil⟩
            · change 36 + 2 + _ * 16 ≤ 2084
              omega
            · change 36 + (_ * 16 + 2) ≤ 2084
              omega

theorem nextMappedUid_spec {t : Tables} {from_ uid : Nat} (h : nextMappedUid t from_ = some uid) :
    from_ ≤ uid ∧ uid ≤ MAX_UID := by
  have hmem := List.mem_of_find?_eq_some h
  obtain ⟨k, hk, rfl⟩ := List.mem_range'.mp hmem
  omega

/-- READ_ALL_UIDS on an empty store looks behind the end of `uid_map`. -/
theorem readAllUidsPacketTouches_within :
    Touch.AllWithin (readAllUidsPacketTouches P s data dataLen) ↔
      (dataLen < 1 ∨ data 0 = 0 ∨ (nextMappedUid s.tables MIN_UID).isSome) ∧
        ReadAllUidsFits P s data dataLen := by
  unfold readAllUidsPacketTouches ReadAllUidsFits
  split
  · rename_i hlen
    exact ⟨fun _ => ⟨.inl hlen, fun _ => by omega⟩, fun _ => Touch.allWithin_nil⟩
  · rename_i hlen
    have hfields : Touch.AllWithin [memberAt .readAllUids CmdData.readAllUidsUid 4,
        memberAt .readAllUids CmdData.readAllUidsMasked 4,
        memberAt .readAllUids CmdData.readAllUidsExpectedRemaining 4] := by decide
    have hmap : Touch.AllWithin uidMapTouches := uidMap_range_within (Nat.le_refl _)
    unfold readAllUidsCmdTouches
    rw [Touch.allWithin_cons, Touch.allWithin_append, Touch.allWithin_append,
      and_iff_right (by decide), and_iff_right ⟨hfields, hmap⟩,
      forall_prop_of_true (Int.not_lt.mp hlen), or_iff_right hlen]
    split
    · rename_i hmasked
      have hzero : data 0 = 0 := UInt8.toNat_inj.mp hmasked
      exact ⟨fun _ => ⟨.inl hzero, fun h => absurd hmasked h⟩, fun _ => Touch.allWithin_nil⟩
    · rename_i hmasked
      have hne : ¬data 0 = 0 := fun h => hmasked (UInt8.toNat_inj.mpr h)
      rw [forall_prop_of_true hmasked, or_iff_right hne]
      unfold readAllUidsCmdIterTouches
      rw [Touch.allWithin_append, and_iff_right (by decide)]
      split
      · rename_i hnone
        have hbehind : ¬(uidMapAt (MAX_UID + 1)).Within := by decide
        have hmem : uidMapAt (MAX_UID + 1) ∈
            (List.range' MIN_UID (MAX_UID + 1)).map uidMapAt :=
          List.mem_map_of_mem (List.mem_range'.mpr ⟨MAX_UID, Nat.lt_succ_self _, by decide⟩)
        rw [hnone]
        exact ⟨fun h => absurd (h _ hmem) hbehind, fun h => absurd h.1 Bool.false_ne_true⟩
      · rename_i uid huid
        obtain ⟨hmin, hmax⟩ := nextMappedUid_spec huid
        have hrange : Touch.AllWithin ((List.range' MIN_UID uid).map uidMapAt) :=
          uidMap_range_within hmax
        have hremaining :
            (memberAt .readAllUids CmdData.readAllUidsExpectedRemaining 4).Within := by decide
        rw [huid, and_iff_right (show (some uid).isSome = true from rfl), Touch.allWithin_append,
          Touch.allWithin_append, and_iff_right hrange, findUidTouches_within hmax,
          Touch.allWithin_cons, and_iff_right hremaining]
        refine Iff.trans (and_congr_right fun hfits => ?_)
          ⟨fun h k hk => Option.some.inj hk ▸ h, fun h => h uid rfl⟩
        unfold ReadFits
        split
        · rename_i blockNum hfind
          rw [hfind]
          exact ⟨fun _ j hj => (by cases hj), fun _ => Touch.allWithin_nil⟩
        · rename_i blockNum index hfind
          obtain ⟨rfl, hblock, -⟩ := findUid_some hfind
          have hiv : Touch.AllWithin (deriveIvTouches .readAllUids CmdData.readAllUidsIv) := by
            decide
          rw [hfind]
          dsimp only
          rw [Touch.allWithin_append, Touch.allWithin_append, and_iff_right hiv,
            decodeUidTouches_within (hfits.resolve_left hblock), Touch.allWithin_cons]
          constructor
          · rintro ⟨hroom, -⟩ j hj
            cases hj
            change 28 + 4 + _ * 16 ≤ 2076 at hroom
            omega
          · intro hall
            have hle := hall index rfl
            refine ⟨?_, memberAt_within ?_, Touch.allWithin_nil⟩
            · change 28 + 4 + _ * 16 ≤ 2076
              omega
            · change 28 + (_ * 16 + 4) ≤ 2076
              omega

end Commands

end SignetBase.Firmware
