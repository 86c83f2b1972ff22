/-
  SignetBase/Firmware/UpdatePlan.lean
  ===================================
  **What `update_uid` builds.**

  On a store in order, `update_uid` refuses the update or builds one new page: the
  record is dropped from its block, appended to a block, replaced in its block, or
  appended to another one with the next revision number (`Plan`).
-/
import SignetBase.Firmware.Store
import SignetBase.Firmware.Reading

namespace SignetBase.Firmware

variable {P : Platform}

variable {pages : Nat → Mem} {t : Tables} {uid b j : Nat}

/-! ### Looking a record up -/

theorem findUid_fst (pages : Nat → Mem) (tbl : Tables) (uid : Nat) :
    (findUid pages tbl uid).1 = tbl.uidMap uid := by
  unfold findUid
  dsimp only
  split
  · rfl
  · rfl

/-- `find_uid` finds the lowest entry of the uid in the block that `uid_map` names,
    be it a first entry or not. -/
theorem findUid_some (h : findUid pages t uid = (b, some j)) :
    t.uidMap uid = b ∧ b ≠ INVALID_BLOCK ∧ j < (t.blockInfoTbl b).partOccupancy ∧
      (uidTbl (pages b) j).uid = uid ∧ ∀ k < j, (uidTbl (pages b) k).uid ≠ uid := by
  unfold findUid at h
  simp only at h
  split at h
  · cases h
  · rename_i hmap
    obtain ⟨rfl, hfind⟩ := Prod.mk.inj h
    obtain ⟨hp, hlt, hmin⟩ := List.find?_range_eq_some.mp hfind
    refine ⟨rfl, hmap, List.mem_range.mp hlt, ?_, fun k hk => ?_⟩
    · simpa using hp
    · simpa using hmin k hk

/-- The block of a record that is found is a live one. -/
theorem Placed.found_live (hp : Placed pages t uid) (h : findUid pages t uid = (b, some j)) :
    b ∈ dataBlocks ∧ live (t.blockInfoTbl b) := by
  obtain ⟨rfl, hne, -⟩ := findUid_some h
  rcases hp with ⟨hinv, -⟩ | ⟨hb, r, hr⟩
  · exact absurd hinv hne
  · exact ⟨hb, (mem_liveRecs.mp hr.mem.1).2.1⟩

/-- What `find_uid` finds is a first entry. -/
def FindsFirst (pages : Nat → Mem) (t : Tables) (uid : Nat) : Prop :=
  ∀ b j, findUid pages t uid = (b, some j) → (uidTbl (pages b) j).first ≠ 0

/-- A record that is found is the one that is held. -/
theorem Placed.found (hp : Placed pages t uid) (hff : FindsFirst pages t uid)
    (h : findUid pages t uid = (b, some j)) :
    b ∈ dataBlocks ∧ live (t.blockInfoTbl b) ∧
      ∃ hj : j < (liveRecs pages t.blockInfoTbl b).length,
        recUid (liveRecs pages t.blockInfoTbl b)[j] = uid ∧
        (liveRecs pages t.blockInfoTbl b)[j] = recAt (pages b) (t.blockInfoTbl b) j ∧
        Holds recUid (liveRecs pages t.blockInfoTbl) uid b (liveRecs pages t.blockInfoTbl b)[j] := by
  obtain ⟨rfl, hne, hj, huid, -⟩ := findUid_some h
  rcases hp with ⟨hinv, -⟩ | ⟨hb, r, hr⟩
  · exact absurd hinv hne
  · have hl : live (t.blockInfoTbl (t.uidMap uid)) := (mem_liveRecs.mp hr.mem.1).2.1
    have heq : liveRecs pages t.blockInfoTbl (t.uidMap uid) = _ := liveRecs_of_live hb hl
    have hlen : j < (liveRecs pages t.blockInfoTbl (t.uidMap uid)).length := by
      rw [heq, List.length_map, List.length_range]
      exact hj
    have hget : (liveRecs pages t.blockInfoTbl (t.uidMap uid))[j] =
        recAt (pages (t.uidMap uid)) (t.blockInfoTbl (t.uidMap uid)) j := by
      simp only [heq, List.getElem_map, List.getElem_range]
    have hkey : recUid (liveRecs pages t.blockInfoTbl (t.uidMap uid))[j] = uid := by
      rw [hget]
      exact (if_pos (hff _ _ h)).trans huid
    refine ⟨hb, hl, hlen, hkey, hget, ?_⟩
    rw [hr.getElem_eq hlen hkey]
    exact hr

/-- A record that is not found is absent. -/
theorem Placed.notFound (hp : Placed pages t uid) (hmin : MIN_UID ≤ uid) (hmax : uid ≤ MAX_UID)
    (h : (findUid pages t uid).2 = none) :
    t.uidMap uid = INVALID_BLOCK ∧ Absent recUid (liveRecs pages t.blockInfoTbl) uid := by
  rcases hp with hp | ⟨hb, r, hr⟩
  · exact hp
  · exfalso
    obtain ⟨hmem, hkey⟩ := hr.mem
    obtain ⟨-, hl, k, hk, rfl⟩ := mem_liveRecs.mp hmem
    obtain ⟨-, huid⟩ := counted_of_recUid hkey hmin hmax
    unfold findUid at h
    simp only at h
    rw [if_neg (dataBlock_ne_invalid hb)] at h
    have hno := List.find?_eq_none.mp h k (List.mem_range.mpr hk)
    exact hno (decide_eq_true huid)

/-! ### Partition sizes -/

theorem targetPartSize_spec {sz : Nat} (h : targetPartSize sz ≠ 0) :
    targetPartSize sz ∈ partSizes ∧ sizeToSubBlkCount sz ≤ targetPartSize sz := by
  unfold targetPartSize at h ⊢
  cases hfind : partSizes.find? fun p => p ≥ sizeToSubBlkCount sz with
  | none =>
    rw [hfind] at h
    exact absurd rfl h
  | some p =>
    have hp := List.find?_some hfind
    exact ⟨List.mem_of_find?_eq_some hfind, by simpa using hp⟩

theorem getPartCount_pos : ∀ p ∈ partSizes, 0 < getPartCount p := by decide

/-- A block with room whose partitions are of the size or larger. -/
structure HasRoom (t : Tables) (size b : Nat) : Prop where
  mem : b ∈ dataBlocks
  live : live (t.blockInfoTbl b)
  size : size ≤ (t.blockInfoTbl b).partSize
  room : (t.blockInfoTbl b).partOccupancy < (t.blockInfoTbl b).partCount

theorem findExactBlock_spec {size : Nat} (h : findExactBlock t size = some b) :
    HasRoom t size b := by
  have hp := List.find?_some h
  simp only [decide_eq_true_eq] at hp
  exact ⟨List.mem_of_find?_eq_some h, ⟨hp.1, hp.2.1⟩, Nat.le_of_eq hp.2.2.1.symm, hp.2.2.2⟩

theorem findLargerBlock_spec {size : Nat} (h : findLargerBlock t size = some b) :
    HasRoom t size b := by
  -- the best block so far has room, whatever blocks are left to look at
  have hfold : ∀ (l : List Nat) (best : Option Nat × Nat), (∀ i ∈ l, i ∈ dataBlocks) →
      (∀ i, best.1 = some i → HasRoom t size i) →
      ∀ i, (l.foldl (fun (best : Option Nat × Nat) i =>
        let info := t.blockInfoTbl i
        if info.valid ≠ 0 ∧ info.occupied ≠ 0 ∧ info.partSize ≥ size ∧ info.partSize < best.2 ∧
            info.partOccupancy < info.partCount then (some i, info.partSize) else best) best).1 =
          some i → HasRoom t size i := by
    intro l
    induction l with
    | nil => exact fun best _ hbest => hbest
    | cons k l ih =>
      intro best hmem hbest
      refine ih _ (fun i hi => hmem i (List.mem_cons_of_mem _ hi)) ?_
      simp only
      intro i hi
      split at hi
      · rename_i hcond
        cases hi
        exact ⟨hmem k List.mem_cons_self, ⟨hcond.1, hcond.2.1⟩, hcond.2.2.1, hcond.2.2.2.2⟩
      · exact hbest i hi
  exact hfold dataBlocks (none, BLK_SIZE) (fun _ hi => hi) nofun b h

theorem findFreeBlock_spec (h : findFreeBlock t ≠ INVALID_BLOCK) :
    findFreeBlock t ∈ dataBlocks ∧ ¬ live (t.blockInfoTbl (findFreeBlock t)) := by
  unfold findFreeBlock at h ⊢
  cases hfind : dataBlocks.find? fun i =>
      (t.blockInfoTbl i).valid ≠ 0 ∧ (t.blockInfoTbl i).occupied = 0 with
  | none =>
    rw [hfind] at h
    exact absurd rfl h
  | some i =>
    have hp := List.find?_some hfind
    simp only [decide_eq_true_eq] at hp
    exact ⟨List.mem_of_find?_eq_some hfind, fun hl => hl.2 hp.2⟩

/-! ### New records -/

/-- What an update stores: the record's sub-blocks under the uid's IV. -/
structure NewData where
  key : Bytes
  uid : Nat
  data : Bytes
  sz : Nat
  iv : Bytes

/-- The data of an UPDATE_UID as `update_uid` gets it. -/
structure NewData.Ok (d : NewData) : Prop where
  min : MIN_UID ≤ d.uid
  max : d.uid ≤ MAX_UID
  sz : d.sz < 65536
  data : d.data.length = sizeToSubBlkCount d.sz * SUB_BLK_SIZE
  iv : d.iv.length = AES_BLK_SIZE

variable (P) in
/-- The ciphertext of the record. -/
def NewData.cipher (d : NewData) : Bytes :=
  stmAes256EncryptCbc P d.key (sizeToSubBlkCount d.sz) (some d.iv) d.data

theorem NewData.Ok.length_cipher {d : NewData} (hP : AesInverse P) (hd : d.Ok) :
    (d.cipher P).length = sizeToSubBlkCount d.sz * SUB_BLK_SIZE :=
  length_cbcEncrypt (hP d.key) _ hd.iv hd.data

variable (P) in
/-- The record is the new one, with the revision number `rev`. -/
structure NewRec (d : NewData) (rev : Nat) (r : Rec) : Prop where
  uid : r.ent.uid = d.uid
  sz : r.ent.sz = d.sz
  rev : r.ent.rev = rev
  first : r.ent.first = 1
  part : r.part.take (sizeToSubBlkCount d.sz * SUB_BLK_SIZE) = d.cipher P

theorem NewRec.recUid {d : NewData} {rev : Nat} {r : Rec} (h : NewRec P d rev r) :
    recUid r = d.uid := by
  unfold Firmware.recUid
  rw [h.first, h.uid]
  rfl

variable (P) in
/-- The scratch holds the records `rs` and behind them the new one. -/
structure Appended (d : NewData) (rev : Nat) (rs : List Rec) (s : Scratch) : Prop where
  size : SizeClass s.blkInfo
  valid : s.blkInfo.valid = 1
  occupied : s.blkInfo.occupied = 1
  filled : ∃ r, NewRec P d rev r ∧ Filled BLK_SIZE s.block s.blkInfo (rs ++ [r])

variable {d : NewData} {rev : Nat} {rs : List Rec}

theorem appended_allocateUidBlk (hP : AesInverse P) (hd : d.Ok) (hrev : rev < 4) {s : Scratch}
    (hsize : SizeClass s.blkInfo) (hf : Filled BLK_SIZE s.block s.blkInfo rs)
    (hroom : s.blkInfo.partOccupancy < s.blkInfo.partCount)
    (hfit : sizeToSubBlkCount d.sz ≤ s.blkInfo.partSize) :
    Appended P d rev rs (allocateUidBlk P d.key d.uid d.data d.sz rev d.iv s) := by
  have hlen := hd.length_cipher hP
  have huid : d.uid < 4096 := Nat.lt_succ_of_le hd.max
  have hle : (d.cipher P).length ≤ s.blkInfo.partSize * SUB_BLK_SIZE := by
    rw [hlen]
    exact Nat.mul_le_mul_right _ hfit
  obtain ⟨r, hfill, hru, hrs, hrr, hrf, hrp⟩ :=
    filled_appendUid hf hroom hle huid hd.sz hrev (show INVALID_BLOCK < 65536 by decide)
  refine ⟨⟨hsize.partSize, hsize.partCount, hsize.partTblOffs⟩, rfl, rfl, r, ?_, hfill⟩
  refine ⟨hru, hrs, hrr, hrf, ?_⟩
  rw [hlen] at hrp
  exact hrp

/-- A page that was copied into the scratch holds the records of its block. -/
theorem filled_loadPage {s : Scratch} {page : Mem} {info : BlockInfo}
    (hf : Filled BLK_SIZE page info rs) :
    Filled BLK_SIZE (s.loadPage BLK_SIZE page).block info rs := by
  refine hf.congr fun a ha => ?_
  unfold Scratch.loadPage
  simp only
  rw [Mem.copy_apply_of_mem _ _ (Nat.zero_le _) (by omega), Nat.zero_add, Nat.sub_zero]

variable (hblock : ∀ i ∈ dataBlocks, BlockOk P (pages i) (t.blockInfoTbl i))

include hblock

omit hblock in
theorem BlockOk.filled_liveRecs (hok : BlockOk P (pages b) (t.blockInfoTbl b))
    (hb : b ∈ dataBlocks) (hl : live (t.blockInfoTbl b)) :
    Filled BLK_SIZE (pages b) (t.blockInfoTbl b) (liveRecs pages t.blockInfoTbl b) := by
  rw [liveRecs_of_live hb hl]
  exact hok.filled hl

/-- The block that `allocate_uid` chooses. -/
theorem allocateUid_spec (hP : AesInverse P) (hd : d.Ok) (hrev : rev < 4) {s s' : Scratch}
    (h : allocateUid P pages t d.key d.uid d.data d.sz rev d.iv s = (b, s'))
    (hb : b ≠ INVALID_BLOCK) :
    b ∈ dataBlocks ∧ Appended P d rev (liveRecs pages t.blockInfoTbl b) s' := by
  have hroom : ∀ {i : Nat}, HasRoom t (targetPartSize d.sz) i → targetPartSize d.sz ≠ 0 →
      Appended P d rev (liveRecs pages t.blockInfoTbl i)
        (allocateUidBlk P d.key d.uid d.data d.sz rev d.iv
          (Scratch.loadPage BLK_SIZE { s with blkInfo := t.blockInfoTbl i } (pages i))) := by
    intro i hi hsize
    have hfit := (targetPartSize_spec hsize).2
    refine appended_allocateUidBlk hP hd hrev ((hblock i hi.mem).size hi.live) ?_ hi.room ?_
    · exact filled_loadPage ((hblock _ hi.mem).filled_liveRecs hi.mem hi.live)
    · exact Nat.le_trans hfit hi.size
  unfold allocateUid at h
  simp only at h
  split at h
  · cases h
    exact absurd rfl hb
  · rename_i hsize
    split at h
    · rename_i i hexact
      cases h
      have hi := findExactBlock_spec hexact
      exact ⟨hi.mem, hroom hi hsize⟩
    · split at h
      · rename_i hfree
        cases h
        obtain ⟨hmem, hnl⟩ := findFreeBlock_spec hfree
        obtain ⟨hpart, hfit⟩ := targetPartSize_spec hsize
        obtain ⟨hlt, hlt'⟩ := getPartCount_lt _ hpart
        have hmod : getPartCount (targetPartSize d.sz) % 256 = getPartCount (targetPartSize d.sz) :=
          Nat.mod_eq_of_lt hlt
        have hclass : SizeClass { s.blkInfo with
            partOccupancy := 0
            partSize := targetPartSize d.sz
            partCount := getPartCount (targetPartSize d.sz) % 256
            partTblOffs := getBlockHeaderSize (getPartCount (targetPartSize d.sz) % 256) } := by
          rw [hmod]
          exact ⟨hpart, rfl, rfl⟩
        have hnone : liveRecs pages t.blockInfoTbl (findFreeBlock t) = [] := if_neg fun h => hnl h.2
        refine ⟨hmem, ?_⟩
        rw [hnone]
        refine appended_allocateUidBlk hP hd hrev hclass
          (filled_blankBlock hclass.layout rfl hlt' _) ?_ hfit
        simp only
        rw [hmod]
        exact getPartCount_pos _ hpart
      · split at h
        · rename_i i hlarger
          cases h
          have hi := findLargerBlock_spec hlarger
          exact ⟨hi.mem, hroom hi hsize⟩
        · cases h
          exact absurd rfl hb

/-! ### Dropping a record -/

variable (P) in
/-- The page that is written for a scratch: a block with records gets its checksum. -/
def written (s : Scratch) : Mem := if s.blkInfo.occupied ≠ 0 then sealed P s.block else s.block

variable (P) in
/-- Writing the page into a block, and its info into the table, leaves the records `rs`
    there. -/
structure Leaves (page : Mem) (info : BlockInfo) (rs : List Rec) : Prop where
  block : BlockOk P page info
  recs : (if live info then recs page info else []) = rs
  bounded : info.Bounded

variable (P) in
/-- The scratch was built to leave the records `rs`. -/
def Built (s : Scratch) (rs : List Rec) : Prop := Leaves P (written P s) s.blkInfo rs

omit hblock in
/-- The info of a block fits its bytes. -/
theorem SizeClass.bounded {info : BlockInfo} (hs : SizeClass info) (hv : info.valid = 1)
    (ho : info.occupied < 256) (hle : info.partOccupancy ≤ info.partCount) : info.Bounded := by
  obtain ⟨hcount, hsize⟩ := getPartCount_lt _ hs.partSize
  rw [← hs.partCount] at hcount
  refine ⟨by omega, ho, hcount, by omega, hsize, ?_⟩
  rw [hs.partTblOffs]
  exact getBlockHeaderSize_lt hcount

omit hblock in
theorem leaves_of_filled {page : Mem} {info : BlockInfo} (hf : Filled BLK_SIZE page info rs)
    (hs : SizeClass info) (hv : info.valid = 1) (ho : info.occupied = 1) :
    Leaves P (sealed P page) info rs := by
  obtain ⟨hok, hrecs⟩ := blockOk_sealed P hf hs hv ho
  refine ⟨hok, ?_, hs.bounded hv (by omega) hf.le⟩
  rw [if_pos ⟨by omega, by omega⟩]
  exact hrecs

omit hblock in
theorem Appended.leaves {s : Scratch} (ha : Appended P d rev rs s) :
    ∃ r, NewRec P d rev r ∧ Built P s (rs ++ [r]) := by
  obtain ⟨r, hr, hf⟩ := ha.filled
  have ho := ha.occupied
  have hw : written P s = sealed P s.block := if_pos (by omega)
  unfold Built
  rw [hw]
  exact ⟨r, hr, leaves_of_filled hf ha.size ha.valid ha.occupied⟩

omit hblock in
/-- `deallocate_uid` drops the record it finds, or frees the block of a last one.  The page
    may get its checksum in either case. -/
theorem deallocateUid_leaves (hok : BlockOk P (pages b) (t.blockInfoTbl b)) (hb : b ∈ dataBlocks)
    (hl : live (t.blockInfoTbl b)) (hfind : findUid pages t uid = (b, some j)) (s : Scratch) :
    (deallocateUid pages t uid true s).1 = b ∧
      ∀ page, page = written P (deallocateUid pages t uid true s).2 ∨
          page = sealed P (deallocateUid pages t uid true s).2.block →
        Leaves P page (deallocateUid pages t uid true s).2.blkInfo
          (swapRemove (liveRecs pages t.blockInfoTbl b) j) := by
  obtain ⟨-, -, hj, -, -⟩ := findUid_some hfind
  have hfill := hok.filled_liveRecs hb hl
  have hclass := hok.size hl
  have hle := hfill.le
  obtain ⟨hv, ho⟩ := hok.flags P hl
  unfold deallocateUid
  simp only [hfind]
  split
  · rename_i hlast
    refine ⟨rfl, fun page hpage => ?_⟩
    have hfree := headerPartSize_freeBlock (t.blockInfoTbl b) s
    have hinv : headerPartSize page = INVALID_PART_SIZE := by
      have hw : written P (freeBlock (t.blockInfoTbl b) s) =
          (freeBlock (t.blockInfoTbl b) s).block := if_neg (not_not_intro rfl)
      rcases hpage with rfl | rfl
      · rw [hw]
        exact hfree
      · unfold sealed
        rw [headerPartSize_setHeaderCrc]
        exact hfree
    have hlen : (swapRemove (liveRecs pages t.blockInfoTbl b) j).length = 0 := by
      rw [length_swapRemove, hfill.length, hlast.1]
    refine ⟨blockOk_freed P hinv, ?_, ?_⟩
    · rw [if_neg fun h => h.2 rfl]
      exact (List.eq_nil_of_length_eq_zero hlen).symm
    · obtain ⟨-, -, h₃, h₄, h₅, h₆⟩ := hclass.bounded hv (by omega) hle
      exact ⟨Nat.lt_succ_of_le (Nat.le_add_left 1 254), Nat.zero_lt_succ _, h₃, h₄, h₅, h₆⟩
  · have hrem := filled_removeUid (t := s.loadPage BLK_SIZE (pages b)) (filled_loadPage hfill) hj
    refine ⟨rfl, fun page hpage => ?_⟩
    have hsealed : page =
        sealed P (removeUid (t.blockInfoTbl b) j (s.loadPage BLK_SIZE (pages b))).block := by
      rcases hpage with rfl | rfl
      · have hocc : (removeUid (t.blockInfoTbl b) j
          (s.loadPage BLK_SIZE (pages b))).blkInfo.occupied
            ≠ 0 := hl.2
        exact if_pos hocc
      · rfl
    rw [hsealed]
    exact leaves_of_filled hrem ⟨hclass.partSize, hclass.partCount, hclass.partTblOffs⟩ hv ho

/-! ### The plan -/

variable (P) in
/-- What `update_uid` has built in the scratch `s'`: the block to write it to, and the
    block the record was in (`prev_block_num`, which the command clears before). -/
inductive Plan (pages : Nat → Mem) (t : Tables) (d : NewData) : Nat → Nat → Scratch → Prop
  | delete {b j : Nat} {s : Scratch} : d.sz = 0 → findUid pages t d.uid = (b, some j) →
      b ∈ dataBlocks → Built P s (swapRemove (liveRecs pages t.blockInfoTbl b) j) →
      Plan pages t d b INVALID_BLOCK s
  | insert {b : Nat} {r : Rec} {s : Scratch} : d.sz ≠ 0 → (findUid pages t d.uid).2 = none →
      b ∈ dataBlocks → NewRec P d 0 r → Built P s (liveRecs pages t.blockInfoTbl b ++ [r]) →
      Plan pages t d b INVALID_BLOCK s
  | replace {b j : Nat} {r : Rec} {s : Scratch} : d.sz ≠ 0 →
      findUid pages t d.uid = (b, some j) → b ∈ dataBlocks →
      NewRec P d (uidTbl (pages b) j).rev r →
      Built P s (swapRemove (liveRecs pages t.blockInfoTbl b) j ++ [r]) → Plan pages t d b b s
  | move {b b₀ j : Nat} {r : Rec} {s : Scratch} : d.sz ≠ 0 →
      findUid pages t d.uid = (b₀, some j) → b ∈ dataBlocks →
      (t.blockInfoTbl b₀).partSize ≠ targetPartSize d.sz →
      NewRec P d (((uidTbl (pages b₀) j).rev + 1) % 4) r →
      Built P s (liveRecs pages t.blockInfoTbl b ++ [r]) → Plan pages t d b b₀ s

omit hblock in
theorem rev_lt (page : Mem) (j : Nat) : (uidTbl page j).rev < 4 :=
  Nat.mod_lt _ (by decide)

/-- `deallocate_uid` without freeing, which `update_uid` uses when the record stays in its
    block. -/
theorem filled_deallocateUid (hb : b ∈ dataBlocks) (hl : live (t.blockInfoTbl b))
    (hfind : findUid pages t uid = (b, some j)) (s : Scratch) :
    Filled BLK_SIZE (deallocateUid pages t uid false s).2.block
        (deallocateUid pages t uid false s).2.blkInfo
        (swapRemove (liveRecs pages t.blockInfoTbl b) j) ∧
      (deallocateUid pages t uid false s).2.blkInfo = { t.blockInfoTbl b with
        partOccupancy := (t.blockInfoTbl b).partOccupancy - 1 } := by
  obtain ⟨-, -, hj, -, -⟩ := findUid_some hfind
  have hfill := (hblock b hb).filled_liveRecs hb hl
  have hrem := filled_removeUid (t := s.loadPage BLK_SIZE (pages b)) (filled_loadPage hfill) hj
  unfold deallocateUid
  simp only [hfind]
  rw [if_neg fun h => Bool.noConfusion h.2]
  exact ⟨hrem, rfl⟩

/-- **What `update_uid` does on a store in order**, when it is not refused. -/
theorem plan_updateUid (hP : AesInverse P) (hd : d.Ok) (hp : Placed pages t d.uid)
    {s s' : Scratch} {prev : Option Nat}
    (h : updateUid P pages t d.key d.uid d.data d.sz d.iv s = (b, prev, s'))
    (hb : b ≠ INVALID_BLOCK) : Plan P pages t d b (prev.getD INVALID_BLOCK) s' := by
  unfold updateUid at h
  by_cases hsz : d.sz = 0
  · rw [if_pos hsz] at h
    cases hfind : findUid pages t d.uid with
    | mk b₀ index =>
      cases index with
      | none =>
        have hnone : deallocateUid pages t d.uid true s = (INVALID_BLOCK, s) := by
          unfold deallocateUid
          simp only [hfind]
        rw [hnone] at h
        cases h
        exact absurd rfl hb
      | some j =>
        obtain ⟨hmem, hl⟩ := hp.found_live hfind
        obtain ⟨hblk, hleaves⟩ := deallocateUid_leaves (hblock _ hmem) hmem hl hfind s
        have hleaves := hleaves _ (.inl rfl)
        generalize deallocateUid pages t d.uid true s = res at h hblk hleaves
        obtain ⟨b', s₁⟩ := res
        cases h
        simp only at hblk hleaves
        subst hblk
        exact .delete hsz hfind hmem hleaves
  · rw [if_neg hsz] at h
    cases hfind : findUid pages t d.uid with
    | mk b₀ index =>
      rw [hfind] at h
      cases index with
      | none =>
        simp only at h
        cases hal : allocateUid P pages t d.key d.uid d.data d.sz 0 d.iv s with
        | mk b' s₁ =>
          rw [hal] at h
          cases h
          obtain ⟨hmem, happ⟩ := allocateUid_spec hblock hP hd (by decide) hal hb
          obtain ⟨r, hr, hleaves⟩ := happ.leaves
          exact .insert hsz (by rw [hfind]) hmem hr hleaves
      | some j =>
        obtain ⟨hmem, hl⟩ := hp.found_live hfind
        simp only at h
        split at h
        · cases h
          exact absurd rfl hb
        · rename_i htarget
          split at h
          · rename_i hsame
            cases h
            have hdel := filled_deallocateUid hblock hmem hl hfind
              (Scratch.loadPage BLK_SIZE { s with blkInfo := t.blockInfoTbl b } (pages b))
            generalize deallocateUid pages t d.uid false
              (Scratch.loadPage BLK_SIZE { s with blkInfo := t.blockInfoTbl b } (pages b)) = res
              at hdel ⊢
            obtain ⟨hfill, hinfo⟩ := hdel
            obtain ⟨-, -, hj, -, -⟩ := findUid_some hfind
            have hclass := (hblock b hmem).size hl
            have hle := ((hblock _ hmem).filled_liveRecs hmem hl).le
            have happ : Appended P d (uidTbl (pages b) j).rev _ _ :=
              appended_allocateUidBlk hP hd (rev_lt _ _) (s := res.2)
                (by
                  rw [hinfo]
                  exact ⟨hclass.partSize, hclass.partCount, hclass.partTblOffs⟩)
                hfill
                (by
                  rw [hinfo]
                  simp only
                  omega)
                (by
                  rw [hinfo]
                  simp only at hsame ⊢
                  rw [hsame]
                  exact (targetPartSize_spec htarget).2)
            obtain ⟨r, hr, hleaves⟩ := happ.leaves
            exact .replace hsz hfind hmem hr hleaves
          · rename_i hdiff
            cases hal : allocateUid P pages t d.key d.uid d.data d.sz
                (((uidTbl (pages b₀) j).rev + 1) % 4) d.iv
                { s with blkInfo := t.blockInfoTbl b₀ } with
            | mk b' s₁ =>
              rw [hal] at h
              cases h
              obtain ⟨hmem', happ⟩ :=
                allocateUid_spec hblock hP hd (Nat.mod_lt _ (by decide)) hal hb
              obtain ⟨r, hr, hleaves⟩ := happ.leaves
              exact .move hsz hfind hmem' hdiff hr hleaves

end SignetBase.Firmware
