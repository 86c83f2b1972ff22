/-
  SignetBase/FirmwareHc/RecordBlocks.lean
  =======================================
  **The blocks of the record database of Signet HC and what the routines make of them.**

  A data block is free, holds no record, or holds one.  The startup scan finds out which
  (`scanBlock_slot`), a block without a record takes one (`allocateUidBlk_slot`), and a record is
  read out of its block (`decodeUid_slot`).
-/
import SignetBase.FirmwareHc.RecordMap

namespace SignetBase.FirmwareHc

variable {P : RootPlatform} {K : RecordKey}

/-! ### Slots -/

/-- The block info of a block with `n` records. -/
def slotInfo (n : Nat) : BlockInfo := ⟨1, 1, 1, n, MAX_PART_SIZE, 1⟩

/-- What `signet_aes_256_encrypt_cbc` makes of a record. -/
def Record.cipher (K : RecordKey) (uid : Nat) (r : Record) : Bytes :=
  cbcEncrypt K.enc (sizeToSubBlkCount r.sz) (some (K.deriveIv uid)) r.data

/-- `rec` is what the block of the record `r` holds. -/
structure Encodes (K : RecordKey) (uid : Nat) (r : Record) (rec : Rec) : Prop where
  range : MIN_UID ≤ uid ∧ uid ≤ MAX_UID
  entUid : rec.ent.uid = uid
  entSz : rec.ent.sz = r.sz
  entFirst : rec.ent.first = 1
  part : rec.part.take (r.cipher K uid).length = r.cipher K uid

variable (P K) in
/-- A data block with its block info: free, without a record, or with one. -/
inductive Slot : BlockInfo → Mem → Option (Nat × Record) → Prop
  | free {info : BlockInfo} {blk : Mem} : info.valid ≠ 0 → info.occupied = 0 →
      headerPartSize blk = INVALID_PART_SIZE → Slot info blk none
  | empty {blk : Mem} : Filled BLK_SIZE blk (slotInfo 0) [] → blockCrcCheck P blk = true →
      Slot (slotInfo 0) blk none
  | holds {blk : Mem} {rec : Rec} {uid : Nat} {r : Record} :
      Filled BLK_SIZE blk (slotInfo 1) [rec] → blockCrcCheck P blk = true →
      Encodes K uid r rec → Slot (slotInfo 1) blk (some (uid, r))

/-- The data blocks hold the entries of `c`. -/
def OnCard (P : RootPlatform) (K : RecordKey) (blocks : Nat → Mem)
    (c : Nat → Option (Nat × Record)) : Prop :=
  ∀ i ∈ dataBlocks, ∃ info, Slot P K info (blocks i) (c i)

theorem layout_slotInfo (n : Nat) : SignetBase.Layout BLK_SIZE (slotInfo n) := by
  constructor
  · exact (by decide : uidTblOff 1 ≤ 1 * SUB_BLK_SIZE)
  · exact (by decide : (1 + MAX_PART_SIZE * 1) * SUB_BLK_SIZE ≤ BLK_SIZE)
  · exact (by decide : 1 < 256)

/-- Only the bytes of the block count. -/
theorem blockCrcCheck_congr {blk blk' : Mem} (h : ∀ a < BLK_SIZE, blk' a = blk a) :
    blockCrcCheck P blk' = blockCrcCheck P blk := by
  have hsize : headerPartSize blk' = headerPartSize blk :=
    Mem.get16_congr fun i hi => h _ (Nat.lt_trans (Nat.add_lt_add_left hi 4) (by decide))
  have hcrc : headerCrc blk' = headerCrc blk :=
    Mem.get32_congr fun i hi => h _ (Nat.lt_trans (Nat.add_lt_add_left hi 0) (by decide))
  have hbody : blockCrc P blk' = blockCrc P blk := by
    unfold blockCrc
    rw [Mem.read_congr fun i hi => h _ ?_]
    have hblk : 4 + (BLK_SIZE - 4) = BLK_SIZE := by decide
    omega
  unfold blockCrcCheck
  rw [hsize, hcrc, hbody]

theorem Slot.congr {info : BlockInfo} {blk blk' : Mem} {x : Option (Nat × Record)}
    (hslot : Slot P K info blk x) (h : ∀ a < BLK_SIZE, blk' a = blk a) : Slot P K info blk' x := by
  cases hslot with
  | free hvalid hocc hsize =>
    refine .free hvalid hocc ?_
    rw [← hsize]
    exact Mem.get16_congr fun i hi => h _ (Nat.lt_trans (Nat.add_lt_add_left hi 4) (by decide))
  | empty hf hcrc => exact .empty (hf.congr h) (by rw [blockCrcCheck_congr h]; exact hcrc)
  | holds hf hcrc henc =>
    exact .holds (hf.congr h) (by rw [blockCrcCheck_congr h]; exact hcrc) henc

/-! ### The scan -/

/-- The scan of a block in use. -/
theorem scanBlock_used {i n : Nat} {blk : Mem} {rs : List Rec} (old : BlockInfo)
    (uidMap : Nat → Nat) (hf : Filled BLK_SIZE blk (slotInfo n) rs) (hn : n ≤ 1)
    (hcrc : blockCrcCheck P blk = true) :
    scanBlock P i blk old uidMap =
      ((List.range n).foldlM (scanEnt i blk) uidMap).bind fun uidMap =>
        .ok (slotInfo n, uidMap) := by
  have hsize : headerPartSize blk = MAX_PART_SIZE := hf.partSize
  have hocc : headerOccupancy blk % 256 = n := by
    have heq : headerOccupancy blk = n := hf.occupancy
    omega
  have hdiv : getPartCountDiv MAX_PART_SIZE = .ok (getPartCount MAX_PART_SIZE) := if_neg (by decide)
  have hcount : getPartCount MAX_PART_SIZE % 256 = 1 := by decide
  have hoffs : getBlockHeaderSize 1 % 65536 = 1 := by decide
  have hvalid : blockCrcCheck P blk = true ∨ MAX_PART_SIZE = INVALID_PART_SIZE := .inl hcrc
  have hused : MAX_PART_SIZE ≠ INVALID_PART_SIZE := by decide
  unfold scanBlock
  dsimp only
  rw [hsize, if_pos hvalid, if_neg Nat.one_ne_zero, if_pos hused, if_pos Nat.one_ne_zero, hdiv]
  dsimp only [Except.bind]
  rw [hocc, hcount, hoffs]
  rfl

/-- **The scan of a block finds what it holds.** -/
theorem scanBlock_slot {info : BlockInfo} {blk : Mem} {x : Option (Nat × Record)} (i : Nat)
    (old : BlockInfo) (uidMap : Nat → Nat) (h : Slot P K info blk x) :
    ∃ info', scanBlock P i blk old uidMap = .ok (info', scanned uidMap i x) ∧
      Slot P K info' blk x := by
  cases h with
  | free hvalid hocc hsize =>
    refine ⟨{ old with partSize := INVALID_PART_SIZE, valid := 1, occupied := 0 }, ?_,
      .free Nat.one_ne_zero rfl hsize⟩
    have hinvalid : blockCrcCheck P blk = true ∨ INVALID_PART_SIZE = INVALID_PART_SIZE := .inr rfl
    unfold scanBlock
    dsimp only
    rw [hsize, if_pos hinvalid, if_neg Nat.one_ne_zero, if_neg (not_not_intro rfl),
      if_neg (not_not_intro rfl)]
    rfl
  | empty hf hcrc =>
    exact ⟨_, scanBlock_used old uidMap hf (Nat.zero_le _) hcrc, .empty hf hcrc⟩
  | @holds _ rec uid r hf hcrc henc =>
    refine ⟨slotInfo 1, ?_, .holds hf hcrc henc⟩
    have hent : uidTbl blk 0 = rec.ent := by
      have hrec : recs blk (slotInfo 1) = [rec] := hf.holds
      cases hrec
      rfl
    have hin : uidTblIn blk 0 = .ok rec.ent := by
      unfold uidTblIn
      rw [if_pos (by decide), hent]
    have hscan : scanEnt i blk uidMap 0 = .ok (Function.update uidMap uid i) := by
      unfold scanEnt
      rw [hin]
      dsimp only [Except.bind]
      rw [henc.entUid, henc.entFirst, if_pos ⟨henc.range.1, henc.range.2, Nat.one_ne_zero⟩]
      unfold setUidMap
      rw [if_pos (Nat.lt_succ_of_le henc.range.2)]
      refine congrArg Except.ok (funext fun u => ?_)
      rw [Function.update_apply]
    rw [scanBlock_used old uidMap hf (Nat.le_refl _) hcrc, List.range_one, List.foldlM_cons, hscan]
    rfl

/-! ### Storing a record -/

theorem Record.sz_lt (r : Record) : r.sz < 65536 := by
  have hfits := r.fits
  unfold sizeToSubBlkCount at hfits
  have hmax : MAX_PART_SIZE = 1023 := by decide
  have hdata : SUB_BLK_DATA_SIZE = 14 := rfl
  rw [hmax, hdata] at hfits
  omega

theorem RecordKey.ivOk_deriveIv (uid : Nat) : ivOk (some (K.deriveIv uid)) :=
  Mem.length_read _ _ _

variable (hK : BlockInverse K.enc K.dec)

include hK in
theorem Record.length_cipher (uid : Nat) (r : Record) :
    (r.cipher K uid).length = sizeToSubBlkCount r.sz * SUB_BLK_SIZE :=
  length_cbcEncrypt hK _ (K.ivOk_deriveIv uid) r.length

/-- A checksum that was just computed is right. -/
theorem blockCrcCheck_setHeaderCrc {blk : Mem} (h : headerPartSize blk ≠ INVALID_PART_SIZE) :
    blockCrcCheck P (setHeaderCrc blk (blockCrc P blk)) = true := by
  have hsize : headerPartSize (setHeaderCrc blk (blockCrc P blk)) = headerPartSize blk :=
    Mem.get16_put32_disjoint _ _ (.inr (by decide))
  have hbody : blockCrc P (setHeaderCrc blk (blockCrc P blk)) = blockCrc P blk := by
    have hread : (setHeaderCrc blk (blockCrc P blk)).read 4 (BLK_SIZE - 4) =
        blk.read 4 (BLK_SIZE - 4) :=
      Mem.read_congr fun i _ => Mem.put32_apply_of_notMem _ _ (.inr (Nat.le_add_right 4 i))
    unfold blockCrc at hread ⊢
    rw [hread]
  unfold blockCrcCheck
  rw [hsize, if_neg h, hbody, decide_eq_true_eq]
  unfold headerCrc setHeaderCrc
  rw [Mem.get32_put32]
  exact (Nat.mod_eq_of_lt (UInt32.toNat_lt _)).symm

include hK in
/-- **A block without a record takes one.** -/
theorem allocateUidBlk_slot {uid rev : Nat} {r : Record} {t : Scratch}
    (hrange : MIN_UID ≤ uid ∧ uid ≤ MAX_UID) (hrev : rev < 4) (hinfo : ∃ v o, t.blkInfo =
      { slotInfo 0 with valid := v, occupied := o })
    (hf : Filled BLK_SIZE t.block (slotInfo 0) []) :
    let t' := allocateUidBlk K.aes K.encryptKey uid r.data r.sz rev (K.deriveIv uid) t
    t'.blkInfo = slotInfo 1 ∧
      Slot P K (slotInfo 1) (RecordStore.sealBlock P t').block (some (uid, r)) := by
  intro t'
  obtain ⟨v, o, hv⟩ := hinfo
  have hf' : Filled BLK_SIZE t.block t.blkInfo [] := by
    rw [hv]
    exact ⟨⟨hf.layout.table, hf.layout.parts, hf.layout.count⟩, hf.partSize, hf.occupancy, hf.le,
      hf.holds⟩
  have hroom : t.blkInfo.partOccupancy < t.blkInfo.partCount := by
    rw [hv]
    exact Nat.zero_lt_one
  have hlen : (r.cipher K uid).length ≤ t.blkInfo.partSize * SUB_BLK_SIZE := by
    rw [Record.length_cipher hK, hv]
    exact Nat.mul_le_mul_right _ r.fits
  have hinfo : t'.blkInfo = slotInfo 1 := by
    change ({ t.blkInfo with
      partOccupancy := (t.blkInfo.partOccupancy + 1) % 256, occupied := 1, valid := 1 } :
        BlockInfo) = _
    rw [hv]
    rfl
  have hnext : INVALID_BLOCK < 65536 := by decide
  obtain ⟨rec, hfilled, huid, hsz, -, hfirst, hpart⟩ :=
    filled_appendUid hf' hroom hlen (Nat.lt_succ_of_le hrange.2) r.sz_lt hrev hnext
  change Filled BLK_SIZE t'.block t'.blkInfo [rec] at hfilled
  rw [hinfo] at hfilled
  refine ⟨hinfo, .holds (hfilled.setHeaderCrc _) ?_ ⟨hrange, huid, hsz, hfirst, hpart⟩⟩
  refine blockCrcCheck_setHeaderCrc ?_
  rw [hfilled.partSize]
  decide

/-! ### Reading a record -/

include hK in
/-- **A record is read out of its block.** -/
theorem decodeUid_slot {info : BlockInfo} {blk : Mem} {uid : Nat} {r : Record}
    (h : Slot P K info blk (some (uid, r))) (masked : Bool) :
    (uidTbl blk 0).sz = r.sz ∧
      RecordStore.decodeUid K r.sz blk info 0 masked (K.deriveIv uid) = r.shown masked := by
  cases h with
  | @holds _ rec _ _ hf hcrc henc =>
    have hrec : recs blk (slotInfo 1) = [rec] := hf.holds
    cases hrec
    refine ⟨henc.entSz, ?_⟩
    have hlen := Record.length_cipher hK uid r
    have hpart := henc.part
    rw [hlen] at hpart
    have hread : blk.read (getPart (slotInfo 1) 0) (sizeToSubBlkCount r.sz * SUB_BLK_SIZE) =
        r.cipher K uid := by
      rw [← hpart]
      apply List.ext_getElem
      · have hle := Nat.mul_le_mul_right SUB_BLK_SIZE r.fits
        simp only [Mem.length_read, recAt, List.length_take]
        exact (Nat.min_eq_left hle).symm
      · intro i h₁ h₂
        simp [recAt]
    unfold RecordStore.decodeUid Record.shown
    dsimp only
    rw [hread]
    unfold Record.cipher
    rw [cbcDecrypt_cbcEncrypt hK _ (K.ivOk_deriveIv uid) r.length]

end SignetBase.FirmwareHc
