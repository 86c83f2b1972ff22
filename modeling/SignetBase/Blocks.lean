/-
  SignetBase/Blocks.lean
  ======================
  **The block format both record databases share.**

  A data block holds equal partitions, one per record, behind a header and a
  table of entries; a `block_info` copies its geometry and fill level.  The two
  `db.c` files have the routines of this module in common, for blocks of
  different sizes.  A block that is in order (`Filled`) is a list of records:
  `allocate_uid_blk` appends one, `deallocate_uid` removes one by moving the last
  one into its place.
-/
import SignetBase.Common
import SignetBase.KeyedBlocks

namespace SignetBase

/-! ### Layout -/

def blockHeaderSize : Nat := 8
def uidEntSize : Nat := 6

/-- `struct uid_ent`. -/
structure UidEnt where
  uid : Nat
  rev : Nat
  first : Nat
  pad : Nat
  sz : Nat
  blkNext : Nat
deriving DecidableEq, Repr

/-- The `struct uid_ent` at offset `off`. -/
def UidEnt.get (m : Mem) (off : Nat) : UidEnt where
  uid := m.get16 off % 4096
  rev := m.get16 off / 4096 % 4
  first := m.get16 off / 16384 % 2
  pad := m.get16 off / 32768
  sz := m.get16 (off + 2)
  blkNext := m.get16 (off + 4)

/-- The six bytes of a `struct uid_ent`. -/
def UidEnt.toBytes (e : UidEnt) : Bytes :=
  Mem.bytes16 (e.uid % 4096 + 4096 * (e.rev % 4) + 16384 * (e.first % 2) + 32768 * (e.pad % 2)) ++
    Mem.bytes16 e.sz ++ Mem.bytes16 e.blkNext

/-- The offset of `uid_tbl[j]`. -/
def uidTblOff (j : Nat) : Nat := blockHeaderSize + uidEntSize * j

/-- `uid_tbl[j]`. -/
def uidTbl (blk : Mem) (j : Nat) : UidEnt := UidEnt.get blk (uidTblOff j)

/-- `header.crc`, `header.part_size`, `header.occupancy`. -/
def headerCrc (blk : Mem) : Nat := blk.get32 0

def headerPartSize (blk : Mem) : Nat := blk.get16 4

def headerOccupancy (blk : Mem) : Nat := blk.get16 6

def setHeaderCrc (blk : Mem) (v : Nat) : Mem := blk.put32 0 v

def setHeaderPartSize (blk : Mem) (v : Nat) : Mem := blk.put16 4 v

def setHeaderOccupancy (blk : Mem) (v : Nat) : Mem := blk.put16 6 v

/-- `get_block_header_size`, in sub-blocks. -/
def getBlockHeaderSize (partCount : Nat) : Nat :=
  subBlkCount (blockHeaderSize + uidEntSize * partCount)

/-- The loop of `get_part_count`: lower the count until the block holds it. -/
def shrinkPartCount (blkSize partSize : Nat) : Nat → Nat
  | 0 => 0
  | count + 1 =>
    if getBlockHeaderSize (count + 1) + (count + 1) * partSize > blkSize / SUB_BLK_SIZE then
      shrinkPartCount blkSize partSize count
    else count + 1

/-- `get_part_count`, for blocks of `blkSize` bytes. -/
def partCountIn (blkSize partSize : Nat) : Nat :=
  shrinkPartCount blkSize partSize (blkSize / SUB_BLK_SIZE / partSize)

/-! ### Block infos -/

/-- `struct block_info`. -/
structure BlockInfo where
  valid : Nat
  occupied : Nat
  partCount : Nat
  partOccupancy : Nat
  partSize : Nat
  partTblOffs : Nat
deriving DecidableEq, Repr

/-- The eight bytes of a `struct block_info`. -/
def BlockInfo.toBytes (b : BlockInfo) : Bytes :=
  [UInt8.ofNat b.valid, UInt8.ofNat b.occupied, UInt8.ofNat b.partCount,
    UInt8.ofNat b.partOccupancy] ++ Mem.bytes16 b.partSize ++ Mem.bytes16 b.partTblOffs

/-- The `struct block_info` at offset `off`. -/
def BlockInfo.get (m : Mem) (off : Nat) : BlockInfo where
  valid := (m off).toNat
  occupied := (m (off + 1)).toNat
  partCount := (m (off + 2)).toNat
  partOccupancy := (m (off + 3)).toNat
  partSize := m.get16 (off + 4)
  partTblOffs := m.get16 (off + 6)

@[simp] theorem BlockInfo.length_toBytes (b : BlockInfo) : b.toBytes.length = 8 := rfl

/-- `get_part`: the offset of the `n`th partition. -/
def getPart (info : BlockInfo) (n : Nat) : Nat := (info.partTblOffs + info.partSize * n) * SUB_BLK_SIZE

/-! ### Scratch blocks -/

/-- What the routines that build a new page are given and leave: `block_temp`
    and `blk_info_temp`. -/
structure Scratch where
  block : Mem
  blkInfo : BlockInfo

/-- `memcpy(block_temp, page, BLK_SIZE)`. -/
def Scratch.loadPage (blkSize : Nat) (t : Scratch) (page : Mem) : Scratch :=
  { t with block := t.block.copy 0 page 0 blkSize }

/-- The scratch block and block info of `cmd_data` at two offsets. -/
def Scratch.ofCmdData (m : Mem) (blockOff infoOff : Nat) : Scratch where
  block := m.window blockOff
  blkInfo := BlockInfo.get m infoOff

/-- Store a scratch block and block info back. -/
def Scratch.toCmdData (t : Scratch) (m : Mem) (blockOff infoOff : Nat) : Mem :=
  (m.setWindow blockOff t.block).write infoOff t.blkInfo.toBytes

/-- Storing a scratch leaves what lies in front of it. -/
theorem Scratch.toCmdData_apply_of_lt (t : Scratch) (m : Mem) {blockOff infoOff a : Nat}
    (h : a < blockOff) (h' : a < infoOff) : t.toCmdData m blockOff infoOff a = m a := by
  unfold toCmdData
  rw [Mem.write_apply_of_notMem _ (.inl h'), Mem.setWindow_apply_of_lt _ _ h]

/-- `initialize_block`. -/
def blankBlock (blkSize partSize : Nat) (blk : Mem) : Mem :=
  setHeaderOccupancy (setHeaderPartSize (blk.fill 0 blkSize 0) partSize) 0

/-- `allocate_uid_blk`: append a record, given as ciphertext, to the scratch block.
    The last argument is what the entry's `blk_next` is set to. -/
def appendUid (cipher : Bytes) (uid sz rev blkNext : Nat) (t : Scratch) : Scratch :=
  let index := t.blkInfo.partOccupancy
  let blkInfo :=
    { t.blkInfo with partOccupancy := (index + 1) % 256, occupied := 1, valid := 1 }
  let blk := setHeaderOccupancy t.block (headerOccupancy t.block + 1)
  let ent := { uidTbl blk index with uid, sz, rev, first := 1, blkNext }
  let blk := blk.write (uidTblOff index) ent.toBytes
  { block := blk.write (getPart blkInfo index) cipher, blkInfo }

/-- The part of `deallocate_uid` that frees a block. -/
def freeBlock (info : BlockInfo) (t : Scratch) : Scratch where
  block := setHeaderOccupancy
    (setHeaderPartSize (setHeaderCrc t.block INVALID_CRC) INVALID_PART_SIZE) 0
  blkInfo := { info with valid := 1, occupied := 0 }

/-- The part of `deallocate_uid` that drops entry `index` of the block in the
    scratch and moves the last partition into its place. -/
def removeUid (info : BlockInfo) (index : Nat) (t : Scratch) : Scratch :=
  let last := info.partOccupancy - 1
  let blkInfo := { info with partOccupancy := last }
  let blk := setHeaderOccupancy t.block (headerOccupancy t.block + 65535)
  let blk :=
    if headerOccupancy blk ≠ 0 then
      let blk := blk.copy (getPart blkInfo index) blk (getPart blkInfo last)
        (info.partSize * SUB_BLK_SIZE)
      blk.copy (uidTblOff index) blk (uidTblOff last) uidEntSize
    else blk
  { block := blk, blkInfo }

/-! ### What is read back -/

theorem UidEnt.get_congr {m m' : Mem} {a a' : Nat} (h : ∀ i < 6, m (a + i) = m' (a' + i)) :
    UidEnt.get m a = UidEnt.get m' a' := by
  have h₀ : m.get16 a = m'.get16 a' := Mem.get16_congr fun i hi => h i (by omega)
  have h₂ : m.get16 (a + 2) = m'.get16 (a' + 2) := by
    apply Mem.get16_congr
    intro i hi
    simpa only [Nat.add_assoc] using h (2 + i) (by omega)
  have h₄ : m.get16 (a + 4) = m'.get16 (a' + 4) := by
    apply Mem.get16_congr
    intro i hi
    simpa only [Nat.add_assoc] using h (4 + i) (by omega)
  unfold UidEnt.get
  rw [h₀, h₂, h₄]

/-- The fields fit their bits. -/
structure UidEnt.Bounded (e : UidEnt) : Prop where
  uid : e.uid < 4096
  rev : e.rev < 4
  first : e.first < 2
  pad : e.pad < 2
  sz : e.sz < 65536
  blkNext : e.blkNext < 65536

@[simp] theorem UidEnt.length_toBytes (e : UidEnt) : e.toBytes.length = 6 := rfl

/-- An entry that was stored is read back. -/
theorem UidEnt.get_write {e : UidEnt} (he : e.Bounded) (m : Mem) (off : Nat) :
    UidEnt.get (m.write off e.toBytes) off = e := by
  obtain ⟨huid, hrev, hfirst, hpad, hsz, hnext⟩ := he
  have hbyte : ∀ i < 6, m.write off e.toBytes (off + i) = e.toBytes.getD i 0 := by
    intro i hi
    have hin : off ≤ off + i ∧ off + i < off + e.toBytes.length := by
      rw [length_toBytes]
      omega
    rw [Mem.write, if_pos hin, Nat.add_sub_cancel_left]
  have h₀ := hbyte 0 (by omega)
  have h₁ := hbyte 1 (by omega)
  have h₂ := hbyte 2 (by omega)
  have h₃ := hbyte 3 (by omega)
  have h₄ := hbyte 4 (by omega)
  have h₅ := hbyte 5 (by omega)
  simp only [Nat.add_zero] at h₀
  unfold UidEnt.get Mem.get16
  simp only [Nat.add_assoc, Nat.reduceAdd, h₀, h₁, h₂, h₃, h₄, h₅]
  obtain ⟨uid, rev, first, pad, sz, blkNext⟩ := e
  simp only at huid hrev hfirst hpad hsz hnext
  simp only [UidEnt.toBytes, Mem.bytes16, List.cons_append, List.nil_append, List.getD_cons_zero,
    List.getD_cons_succ, UInt8.toNat_ofNat', UidEnt.mk.injEq]
  omega

theorem BlockInfo.get_congr {m m' : Mem} {a a' : Nat} (h : ∀ i < 8, m (a + i) = m' (a' + i)) :
    BlockInfo.get m a = BlockInfo.get m' a' := by
  have h₀ := h 0 (by omega)
  have h₄ : m.get16 (a + 4) = m'.get16 (a' + 4) := by
    apply Mem.get16_congr
    intro i hi
    simpa only [Nat.add_assoc] using h (4 + i) (by omega)
  have h₆ : m.get16 (a + 6) = m'.get16 (a' + 6) := by
    apply Mem.get16_congr
    intro i hi
    simpa only [Nat.add_assoc] using h (6 + i) (by omega)
  simp only [Nat.add_zero] at h₀
  unfold BlockInfo.get
  rw [h₀, h 1 (by omega), h 2 (by omega), h 3 (by omega), h₄, h₆]

/-- The fields fit their types. -/
structure BlockInfo.Bounded (b : BlockInfo) : Prop where
  valid : b.valid < 256
  occupied : b.occupied < 256
  partCount : b.partCount < 256
  partOccupancy : b.partOccupancy < 256
  partSize : b.partSize < 65536
  partTblOffs : b.partTblOffs < 65536

/-- A block info that was stored is read back. -/
theorem BlockInfo.get_write {b : BlockInfo} (hb : b.Bounded) (m : Mem) (off : Nat) :
    BlockInfo.get (m.write off b.toBytes) off = b := by
  obtain ⟨h₁, h₂, h₃, h₄, h₅, h₆⟩ := hb
  have hbyte : ∀ i < 8, m.write off b.toBytes (off + i) = b.toBytes.getD i 0 := by
    intro i hi
    have hin : off ≤ off + i ∧ off + i < off + b.toBytes.length := by
      rw [length_toBytes]
      omega
    rw [Mem.write, if_pos hin, Nat.add_sub_cancel_left]
  have hb₀ := hbyte 0 (by omega)
  simp only [Nat.add_zero] at hb₀
  unfold BlockInfo.get Mem.get16
  simp only [Nat.add_assoc, Nat.reduceAdd, hb₀, hbyte 1 (by omega), hbyte 2 (by omega),
    hbyte 3 (by omega), hbyte 4 (by omega), hbyte 5 (by omega), hbyte 6 (by omega),
    hbyte 7 (by omega)]
  obtain ⟨valid, occupied, partCount, partOccupancy, partSize, partTblOffs⟩ := b
  simp only at h₁ h₂ h₃ h₄ h₅ h₆
  simp only [BlockInfo.toBytes, Mem.bytes16, List.cons_append, List.nil_append,
    List.getD_cons_zero, List.getD_cons_succ, UInt8.toNat_ofNat', BlockInfo.mk.injEq]
  omega

/-! ### Blocks that are in order -/

/-- A record as it lies in a block: its entry and its partition. -/
structure Rec where
  ent : UidEnt
  part : Bytes

/-- Record `j` of a block. -/
def recAt (blk : Mem) (info : BlockInfo) (j : Nat) : Rec where
  ent := uidTbl blk j
  part := blk.read (getPart info j) (info.partSize * SUB_BLK_SIZE)

/-- The records of a block. -/
def recs (blk : Mem) (info : BlockInfo) : List Rec :=
  (List.range info.partOccupancy).map (recAt blk info)

@[simp] theorem length_recs (blk : Mem) (info : BlockInfo) :
    (recs blk info).length = info.partOccupancy := by
  simp [recs]

/-- Header, table and partitions fit in a block, in this order. -/
structure Layout (blkSize : Nat) (info : BlockInfo) : Prop where
  table : uidTblOff info.partCount ≤ info.partTblOffs * SUB_BLK_SIZE
  parts : (info.partTblOffs + info.partSize * info.partCount) * SUB_BLK_SIZE ≤ blkSize
  count : info.partCount < 256

/-- A block that is in order, with the records it holds. -/
structure Filled (blkSize : Nat) (blk : Mem) (info : BlockInfo) (rs : List Rec) : Prop where
  layout : Layout blkSize info
  partSize : headerPartSize blk = info.partSize
  occupancy : headerOccupancy blk = info.partOccupancy
  le : info.partOccupancy ≤ info.partCount
  holds : recs blk info = rs

section Layout

variable {blkSize : Nat} {blk blk' : Mem} {info : BlockInfo} {rs : List Rec} {j k : Nat}

theorem getPart_add (info : BlockInfo) (j : Nat) :
    getPart info j + info.partSize * SUB_BLK_SIZE = getPart info (j + 1) := by
  unfold getPart
  rw [← Nat.add_mul, Nat.add_assoc, Nat.mul_succ]

theorem getPart_le (info : BlockInfo) (h : j ≤ k) : getPart info j ≤ getPart info k := by
  unfold getPart
  apply Nat.mul_le_mul_right
  apply Nat.add_le_add_left
  exact Nat.mul_le_mul_left _ h

/-- Partitions do not overlap. -/
theorem getPart_lt (info : BlockInfo) (h : j < k) :
    getPart info j + info.partSize * SUB_BLK_SIZE ≤ getPart info k := by
  rw [getPart_add]
  exact getPart_le info h

/-- The entry of a partition lies in front of all partitions. -/
theorem Layout.ent_le (hl : Layout blkSize info) (h : j < info.partCount) (k : Nat) :
    uidTblOff j + 6 ≤ getPart info k := by
  have htable := hl.table
  have hzero := getPart_le info (Nat.zero_le k)
  unfold getPart at hzero
  simp only [Nat.mul_zero, Nat.add_zero] at hzero
  unfold uidTblOff uidEntSize blockHeaderSize at htable ⊢
  unfold getPart
  omega

/-- The partitions lie in the block. -/
theorem Layout.part_le (hl : Layout blkSize info) (h : j < info.partCount) :
    getPart info j + info.partSize * SUB_BLK_SIZE ≤ blkSize := by
  have hlast := getPart_lt info h
  have hparts := hl.parts
  unfold getPart at hlast ⊢
  omega

theorem Layout.header_le (hl : Layout blkSize info) : 8 ≤ blkSize := by
  have htable := hl.table
  have hparts := hl.parts
  rw [Nat.add_mul] at hparts
  unfold uidTblOff blockHeaderSize at htable
  omega

theorem Layout.ent_lt (hl : Layout blkSize info) (h : j < info.partCount) :
    uidTblOff j + 6 ≤ blkSize := by
  have h₁ := hl.ent_le h j
  have h₂ := hl.part_le h
  omega

/-- A record consists of the bytes of its entry and of its partition. -/
theorem recAt_congr {info' : BlockInfo} {j' : Nat} (hsize : info'.partSize = info.partSize)
    (hent : ∀ i < 6, blk' (uidTblOff j' + i) = blk (uidTblOff j + i))
    (hpart : ∀ i < info.partSize * SUB_BLK_SIZE,
      blk' (getPart info' j' + i) = blk (getPart info j + i)) :
    recAt blk' info' j' = recAt blk info j := by
  unfold recAt uidTbl
  rw [UidEnt.get_congr hent, hsize, Mem.read_congr hpart]

/-- Blocks that agree byte by byte hold the same records. -/
theorem Filled.congr (hf : Filled blkSize blk info rs) (h : ∀ a < blkSize, blk' a = blk a) :
    Filled blkSize blk' info rs := by
  have hhead := hf.layout.header_le
  refine ⟨hf.layout, ?_, ?_, hf.le, ?_⟩
  · rw [← hf.partSize]
    exact Mem.get16_congr fun i hi => h _ (by omega)
  · rw [← hf.occupancy]
    exact Mem.get16_congr fun i hi => h _ (by omega)
  · rw [← hf.holds]
    unfold recs
    apply List.map_congr_left
    intro j hj
    have hcount := Nat.lt_of_lt_of_le (List.mem_range.mp hj) hf.le
    have hent := hf.layout.ent_lt hcount
    have hpart := hf.layout.part_le hcount
    exact recAt_congr rfl (fun i _ => h _ (by omega)) (fun i _ => h _ (by omega))

theorem Filled.length (hf : Filled blkSize blk info rs) : rs.length = info.partOccupancy := by
  rw [← hf.holds, length_recs]

/-- The checksum is no part of the records. -/
theorem Filled.setHeaderCrc (hf : Filled blkSize blk info rs) (v : Nat) :
    Filled blkSize (setHeaderCrc blk v) info rs := by
  have happly : ∀ a, 4 ≤ a → SignetBase.setHeaderCrc blk v a = blk a := by
    intro a ha
    exact Mem.put32_apply_of_notMem _ _ (.inr ha)
  refine ⟨hf.layout, ?_, ?_, hf.le, ?_⟩
  · rw [← hf.partSize]
    exact Mem.get16_congr fun i _ => happly _ (by omega)
  · rw [← hf.occupancy]
    exact Mem.get16_congr fun i _ => happly _ (by omega)
  · rw [← hf.holds]
    unfold recs
    apply List.map_congr_left
    intro j hj
    have hcount := Nat.lt_of_lt_of_le (List.mem_range.mp hj) hf.le
    have hent := hf.layout.ent_le hcount j
    have hoff : 8 ≤ uidTblOff j := by
      unfold uidTblOff blockHeaderSize
      omega
    exact recAt_congr rfl (fun i _ => happly _ (by omega)) (fun i _ => happly _ (by omega))

/-! ### Appending and removing records -/

/-- Writing behind the header and the entries of the records leaves them alone. -/
theorem headerOccupancy_write (m : Mem) {off : Nat} {bs : Bytes} (h : 8 ≤ off) :
    headerOccupancy (m.write off bs) = headerOccupancy m :=
  Mem.get16_write_disjoint m (.inl h)

theorem headerPartSize_write (m : Mem) {off : Nat} {bs : Bytes} (h : 6 ≤ off) :
    headerPartSize (m.write off bs) = headerPartSize m :=
  Mem.get16_write_disjoint m (.inl h)

theorem headerOccupancy_copy (m src : Mem) {off srcOff n : Nat} (h : 8 ≤ off) :
    headerOccupancy (m.copy off src srcOff n) = headerOccupancy m :=
  Mem.get16_congr fun _ _ => Mem.copy_apply_of_notMem m src (.inl (by omega))

theorem headerPartSize_copy (m src : Mem) {off srcOff n : Nat} (h : 6 ≤ off) :
    headerPartSize (m.copy off src srcOff n) = headerPartSize m :=
  Mem.get16_congr fun _ _ => Mem.copy_apply_of_notMem m src (.inl (by omega))

theorem le_uidTblOff (j : Nat) : 8 ≤ uidTblOff j := by
  unfold uidTblOff blockHeaderSize
  omega

theorem uidTblOff_lt (h : j < k) : uidTblOff j + 6 ≤ uidTblOff k := by
  unfold uidTblOff uidEntSize
  omega

/-- **`allocate_uid_blk` appends a record** with the given entry and ciphertext. -/
theorem filled_appendUid {t : Scratch} (hf : Filled blkSize t.block t.blkInfo rs)
    (hroom : t.blkInfo.partOccupancy < t.blkInfo.partCount) {cipher : Bytes}
    (hlen : cipher.length ≤ t.blkInfo.partSize * SUB_BLK_SIZE) {uid sz rev blkNext : Nat}
    (huid : uid < 4096) (hsz : sz < 65536) (hrev : rev < 4) (hnext : blkNext < 65536) :
    ∃ r : Rec, Filled blkSize (appendUid cipher uid sz rev blkNext t).block
        (appendUid cipher uid sz rev blkNext t).blkInfo (rs ++ [r]) ∧
      r.ent.uid = uid ∧ r.ent.sz = sz ∧ r.ent.rev = rev ∧ r.ent.first = 1 ∧
      r.part.take cipher.length = cipher := by
  obtain ⟨blk, info⟩ := t
  simp only at hf hroom hlen
  have hcount := hf.layout.count
  have hmod : (info.partOccupancy + 1) % 256 = info.partOccupancy + 1 :=
    Nat.mod_eq_of_lt (by omega)
  simp only [appendUid, hmod]
  generalize hn : info.partOccupancy = n at hroom hmod
  generalize hinfo : ({ info with partOccupancy := n + 1, occupied := 1, valid := 1 } : BlockInfo) =
    info'
  have hpart : ∀ j, getPart info' j = getPart info j := by
    intro j
    rw [← hinfo]
    rfl
  have hsize : info'.partSize = info.partSize := by rw [← hinfo]
  generalize hent : ({ uidTbl (setHeaderOccupancy blk (headerOccupancy blk + 1)) n with
    uid, sz, rev, first := 1, blkNext } : UidEnt) = ent
  have hpad : ent.pad < 2 := by
    have hlt := (setHeaderOccupancy blk (headerOccupancy blk + 1)).get16_lt (uidTblOff n)
    rw [← hent]
    simp only [uidTbl, UidEnt.get]
    omega
  have hbounded : ent.Bounded := by
    refine ⟨?_, ?_, ?_, hpad, ?_, ?_⟩ <;> rw [← hent] <;> simp only <;> omega
  generalize hblk : ((setHeaderOccupancy blk (headerOccupancy blk + 1)).write (uidTblOff n)
    ent.toBytes).write (getPart info' n) cipher = blk'
  have hentle := hf.layout.ent_le hroom
  -- what was there before the new entry and partition is still there
  have hkeep : ∀ a, 8 ≤ a → (a < uidTblOff n ∨ uidTblOff n + 6 ≤ a) →
      (a < getPart info n ∨ getPart info n + cipher.length ≤ a) → blk' a = blk a := by
    intro a h₈ hout hout'
    rw [← hblk, Mem.write_apply_of_notMem _ (by rw [hpart]; exact hout'),
      Mem.write_apply_of_notMem _ (by simpa using hout)]
    exact Mem.put16_apply_of_notMem _ _ (.inr h₈)
  refine ⟨recAt blk' info' n, ⟨?_, ?_, ?_, ?_, ?_⟩, ?_⟩
  · rw [← hinfo]
    exact ⟨hf.layout.table, hf.layout.parts, hcount⟩
  · rw [hsize, ← hf.partSize, ← hblk, hpart]
    have h₈ := le_uidTblOff n
    have hn₀ := hentle n
    rw [headerPartSize_write _ (by omega), headerPartSize_write _ (by omega)]
    exact Mem.get16_put16_disjoint _ _ (.inl (by omega))
  · rw [← hblk, hpart, ← hinfo]
    have h₈ := le_uidTblOff n
    have hn₀ := hentle n
    rw [headerOccupancy_write _ (by omega), headerOccupancy_write _ (by omega)]
    have hocc := hf.occupancy
    rw [hn] at hocc
    rw [hocc]
    exact (Mem.get16_put16 _ _ _).trans (Nat.mod_eq_of_lt (by omega))
  · rw [← hinfo]
    exact hroom
  · have hocc' : info'.partOccupancy = n + 1 := by rw [← hinfo]
    unfold recs
    rw [hocc', List.range_succ, List.map_append, List.map_singleton, ← hf.holds]
    congr 1
    unfold recs
    rw [hn]
    apply List.map_congr_left
    intro j hj
    have hjn := List.mem_range.mp hj
    have hoff := uidTblOff_lt hjn
    have h₈ := le_uidTblOff j
    have hjle := hf.layout.ent_le (Nat.lt_trans hjn hroom)
    have hj₀ := hjle n
    have hjj := hjle j
    have hnj := hentle j
    have hlt := getPart_lt info hjn
    refine recAt_congr hsize (fun i hi => hkeep _ (by omega) (by omega) (by omega)) ?_
    intro i hi
    rw [hpart]
    exact hkeep _ (by omega) (by omega) (by omega)
  · have hread : (recAt blk' info' n).ent = ent := by
      have hn₀ := hentle n
      have hback := UidEnt.get_write hbounded (setHeaderOccupancy blk (headerOccupancy blk + 1))
        (uidTblOff n)
      rw [← hback]
      refine UidEnt.get_congr fun i hi => ?_
      rw [← hblk, hpart]
      exact Mem.write_apply_of_notMem _ (.inl (by omega))
    rw [hread, ← hent]
    refine ⟨rfl, rfl, rfl, rfl, ?_⟩
    have hpre : (recAt blk' info' n).part.take cipher.length =
        blk'.read (getPart info' n) cipher.length := by
      apply List.ext_getElem
      · simp [recAt, hsize]
        omega
      · intro i h₁ h₂
        simp [recAt]
    rw [hpre, ← hblk]
    exact Mem.read_write _ _ _ _ rfl

/-- **`deallocate_uid` removes a record**, and the last one takes its place. -/
theorem filled_removeUid {t : Scratch} (hf : Filled blkSize t.block info rs)
    (hj : j < info.partOccupancy) :
    Filled blkSize (removeUid info j t).block (removeUid info j t).blkInfo (swapRemove rs j) := by
  obtain ⟨blk, info₀⟩ := t
  simp only at hf
  have hcount := hf.layout.count
  have hle := hf.le
  have hocc := hf.occupancy
  obtain ⟨n, hn⟩ : ∃ n, info.partOccupancy = n + 1 := ⟨info.partOccupancy - 1, by omega⟩
  have hrs : rs = (List.range (n + 1)).map (recAt blk info) := by
    rw [← hf.holds, ← hn]
    rfl
  rw [hrs, swapRemove_map_range]
  simp only [removeUid, hn, Nat.add_sub_cancel]
  generalize hinfo : ({ info with partOccupancy := n } : BlockInfo) = info'
  have hpart : ∀ k, getPart info' k = getPart info k := by
    intro k
    rw [← hinfo]
    rfl
  have hsize : info'.partSize = info.partSize := by rw [← hinfo]
  have hocc' : info'.partOccupancy = n := by rw [← hinfo]
  have hlayout : Layout blkSize info' := by
    rw [← hinfo]
    exact ⟨hf.layout.table, hf.layout.parts, hcount⟩
  generalize hblk₁ : setHeaderOccupancy blk (headerOccupancy blk + 65535) = blk₁
  have hocc₁ : headerOccupancy blk₁ = n := by
    rw [← hblk₁, hocc, hn]
    refine (Mem.get16_put16 _ _ _).trans ?_
    omega
  have hsize₁ : headerPartSize blk₁ = info.partSize := by
    rw [← hf.partSize, ← hblk₁]
    exact Mem.get16_put16_disjoint _ _ (.inl (by omega))
  have hkeep₁ : ∀ a, 8 ≤ a → blk₁ a = blk a := by
    intro a ha
    rw [← hblk₁]
    exact Mem.put16_apply_of_notMem _ _ (.inr ha)
  by_cases hlast : n = 0
  · -- the only record: nothing is moved
    subst hlast
    rw [if_neg (by simp [hocc₁])]
    refine ⟨hlayout, ?_, ?_, ?_, ?_⟩
    · rw [hsize₁, hsize]
    · rw [hocc₁, hocc']
    · rw [hocc']
      exact Nat.zero_le _
    · unfold recs
      rw [hocc']
      rfl
  · rw [if_pos (by rw [hocc₁]; exact hlast)]
    simp only [hpart]
    generalize hblk' : (blk₁.copy (getPart info j) blk₁ (getPart info n)
      (info.partSize * SUB_BLK_SIZE)) = blk₂
    have hnc : n < info.partCount := by omega
    have hjc : j < info.partCount := by omega
    have hjle := hf.layout.ent_le hjc
    have hnle := hf.layout.ent_le hnc
    have h₈ := le_uidTblOff j
    have hjj := hjle j
    have hhead₂ : headerOccupancy blk₂ = n ∧ headerPartSize blk₂ = info.partSize := by
      rw [← hblk', headerOccupancy_copy _ _ (by omega), headerPartSize_copy _ _ (by omega)]
      exact ⟨hocc₁, hsize₁⟩
    have hkeep₂ : ∀ a, 8 ≤ a →
        (a < getPart info j ∨ getPart info j + info.partSize * SUB_BLK_SIZE ≤ a) →
        blk₂ a = blk a := by
      intro a ha hout
      rw [← hblk', Mem.copy_apply_of_notMem _ _ hout, hkeep₁ a ha]
    refine ⟨hlayout, ?_, ?_, ?_, ?_⟩
    · rw [headerPartSize_copy _ _ (by omega), hhead₂.2, hsize]
    · rw [headerOccupancy_copy _ _ h₈, hhead₂.1, hocc']
    · rw [hocc', ← hinfo]
      exact Nat.le_of_lt hnc
    · unfold recs
      rw [hocc']
      apply List.map_congr_left
      intro k hk
      have hkn := List.mem_range.mp hk
      have hkc : k < info.partCount := by omega
      have hkle := hf.layout.ent_le hkc
      have h₈k := le_uidTblOff k
      have hkk := hkle k
      by_cases hkj : k = j
      · subst hkj
        rw [if_pos rfl]
        refine recAt_congr hsize (fun i hi => ?_) (fun i hi => ?_)
        · have hnk := hnle k
          rw [Mem.copy_apply_of_mem _ _ (by omega) (by unfold uidEntSize; omega),
            Nat.add_sub_cancel_left]
          exact hkeep₂ _ (by have := le_uidTblOff n; omega) (.inl (by omega))
        · rw [hpart, Mem.copy_apply_of_notMem _ _ (.inr (by unfold uidEntSize; omega)), ← hblk',
            Mem.copy_apply_of_mem _ _ (by omega) (by omega), Nat.add_sub_cancel_left]
          exact hkeep₁ _ (by have := hnle n; have := le_uidTblOff n; omega)
      · rw [if_neg hkj]
        have hdisj : uidTblOff k + 6 ≤ uidTblOff j ∨ uidTblOff j + 6 ≤ uidTblOff k := by
          rcases Nat.lt_or_gt_of_ne hkj with h | h
          · exact .inl (uidTblOff_lt h)
          · exact .inr (uidTblOff_lt h)
        have hparts : getPart info k + info.partSize * SUB_BLK_SIZE ≤ getPart info j ∨
            getPart info j + info.partSize * SUB_BLK_SIZE ≤ getPart info k := by
          rcases Nat.lt_or_gt_of_ne hkj with h | h
          · exact .inl (getPart_lt info h)
          · exact .inr (getPart_lt info h)
        have hkj₀ := hkle j
        have hjk₀ := hjle k
        refine recAt_congr hsize (fun i hi => ?_) (fun i hi => ?_)
        · rw [Mem.copy_apply_of_notMem _ _ (by unfold uidEntSize; omega)]
          exact hkeep₂ _ (by omega) (.inl (by omega))
        · rw [hpart, Mem.copy_apply_of_notMem _ _ (.inr (by unfold uidEntSize; omega))]
          exact hkeep₂ _ (by omega) (by omega)

/-! ### Blank and free blocks -/

/-- The count that `get_part_count` ends with fits. -/
theorem shrinkPartCount_fits (blkSize partSize n : Nat) :
    shrinkPartCount blkSize partSize n ≤ n ∧ (shrinkPartCount blkSize partSize n = 0 ∨
      getBlockHeaderSize (shrinkPartCount blkSize partSize n) +
        shrinkPartCount blkSize partSize n * partSize ≤ blkSize / SUB_BLK_SIZE) := by
  induction n with
  | zero => exact ⟨Nat.le_refl _, .inl rfl⟩
  | succ n ih =>
    unfold shrinkPartCount
    split
    · exact ⟨Nat.le_succ_of_le ih.1, ih.2⟩
    · rename_i hfits
      exact ⟨Nat.le_refl _, .inr (Nat.le_of_not_lt hfits)⟩

/-- The geometry that the routines compute for a partition size is a layout. -/
theorem layout_partCountIn (hblk : SUB_BLK_SIZE ≤ blkSize)
    (hcount : info.partCount = partCountIn blkSize info.partSize)
    (hoffs : info.partTblOffs = getBlockHeaderSize info.partCount) (hlt : info.partCount < 256) :
    Layout blkSize info := by
  have hfits := (shrinkPartCount_fits blkSize info.partSize
    (blkSize / SUB_BLK_SIZE / info.partSize)).2
  rw [show shrinkPartCount blkSize info.partSize (blkSize / SUB_BLK_SIZE / info.partSize) =
    info.partCount from hcount.symm] at hfits
  refine ⟨?_, ?_, hlt⟩
  · rw [hoffs]
    unfold uidTblOff getBlockHeaderSize subBlkCount
    simp only [SUB_BLK_SIZE, AES_BLK_SIZE]
    omega
  · have hsub : info.partTblOffs + info.partSize * info.partCount ≤ blkSize / SUB_BLK_SIZE := by
      rcases hfits with h | h
      · rw [hoffs, h, Nat.mul_zero]
        exact (Nat.le_div_iff_mul_le (by decide)).mpr (by simpa [getBlockHeaderSize, subBlkCount,
          blockHeaderSize, SUB_BLK_SIZE, AES_BLK_SIZE] using hblk)
      · rw [hoffs, Nat.mul_comm]
        exact h
    calc (info.partTblOffs + info.partSize * info.partCount) * SUB_BLK_SIZE
        ≤ blkSize / SUB_BLK_SIZE * SUB_BLK_SIZE := Nat.mul_le_mul_right _ hsub
      _ ≤ blkSize := Nat.div_mul_le_self _ _

/-- `initialize_block` leaves a block without records. -/
theorem filled_blankBlock (hl : Layout blkSize info) (hocc : info.partOccupancy = 0)
    (hsize : info.partSize < 65536) (blk : Mem) :
    Filled blkSize (blankBlock blkSize info.partSize blk) info [] := by
  refine ⟨hl, ?_, ?_, ?_, ?_⟩
  · refine (Mem.get16_put16_disjoint _ _ (.inl (by omega))).trans ?_
    exact (Mem.get16_put16 _ _ _).trans (Nat.mod_eq_of_lt hsize)
  · rw [hocc]
    exact Mem.get16_put16 _ _ _
  · rw [hocc]
    exact Nat.zero_le _
  · unfold recs
    rw [hocc]
    rfl

/-- A freed block has no partition size. -/
theorem headerPartSize_freeBlock (info : BlockInfo) (t : Scratch) :
    headerPartSize (freeBlock info t).block = INVALID_PART_SIZE :=
  (Mem.get16_put16_disjoint _ _ (.inl (by omega))).trans (Mem.get16_put16 _ _ _)

end Layout

end SignetBase
