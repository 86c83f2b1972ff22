/-
  SignetBase/FirmwareHc/RecordFits.lean
  =====================================
  **Which records fit on Signet HC (`db.c`).**

  Records of a size that a partition holds are read back, if there is a place for them
  (`HasPlace`): `allocate_uid` compares a pointer with INVALID_BLOCK and therefore goes on when it
  has found no block.  `find_uid` and `allocate_uid` share the one read cache, so an update that
  needs a block for each of them never ends (`updateUidLast_eq_none`).
-/
import SignetBase.FirmwareHc.UpdateUid

namespace SignetBase.FirmwareHc

/-! ### Where a record is put -/

section Lookups

variable {d : DbTables} {uid sz : Nat} {t : Scratch}

theorem findUid_fst (d : DbTables) (uid : Nat) : (findUid d uid).1 = d.uidMap uid := by
  unfold findUid
  dsimp only
  split
  · rfl
  · split
    · rfl
    · split <;> rfl

theorem findUid_success {blockNum index : Nat} (h : findUid d uid = (blockNum, .success index)) :
    blockNum = d.uidMap uid ∧ d.uidMap uid ≠ INVALID_BLOCK ∧
      d.cacheIdx = some blockNum ∧ index < (d.blockInfoTbl blockNum).partOccupancy := by
  unfold findUid at h
  dsimp only at h
  split at h
  · cases h
  · rename_i hne
    unfold getCachedDataBlock at h
    by_cases hcache : d.cacheIdx = some (d.uidMap uid)
    · rw [if_pos hcache] at h
      dsimp only at h
      split at h
      · rename_i j hfind
        cases h
        exact ⟨rfl, hne, hcache, List.mem_range.mp (List.mem_of_find?_eq_some hfind)⟩
      · cases h
    · rw [if_neg hcache] at h
      cases h

/-- `find_uid` has to read the uid's block exactly when it has one that is not in the cache. -/
theorem findUid_dataLoading_iff : (findUid d uid).2 = .dataLoading ↔
    d.uidMap uid ≠ INVALID_BLOCK ∧ d.cacheIdx ≠ some (d.uidMap uid) := by
  unfold findUid getCachedDataBlock
  dsimp only
  by_cases hnone : d.uidMap uid = INVALID_BLOCK
  · simp [hnone]
  · rw [if_neg hnone]
    by_cases hcache : d.cacheIdx = some (d.uidMap uid)
    · rw [if_pos hcache]
      dsimp only
      split <;> simp [hcache]
    · simp [hnone, hcache]

theorem deallocateUid_stays {blockNum index : Nat}
    (h : findUid d uid = (blockNum, .success index)) :
    deallocateUid d uid false t = (.success, blockNum,
      removeUid (d.blockInfoTbl blockNum) index (t.loadPage BLK_SIZE d.cache)) := by
  unfold deallocateUid
  rw [h]
  dsimp only
  rw [if_neg fun hboth => absurd hboth.2 Bool.false_ne_true]

/-- An update that stays in its block needs no other one, and takes the entry's revision. -/
theorem Stays.update (h : Stays d uid) (hloaded : (findUid d uid).2 ≠ .dataLoading) (sz : Nat)
    (t : Scratch) : ∃ rev t', rev < 4 ∧ updateUidLoading d uid sz t = none ∧
      updateUidTarget d uid t = some (d.uidMap uid, rev, t') ∧ d.uidMap uid ≠ INVALID_BLOCK ∧
      0 < (d.blockInfoTbl (d.uidMap uid)).partOccupancy ∧
      t'.blkInfo = { d.blockInfoTbl (d.uidMap uid) with
        partOccupancy := (d.blockInfoTbl (d.uidMap uid)).partOccupancy - 1 } := by
  obtain ⟨hfound, hsize⟩ := h
  cases hfind : findUid d uid with
  | mk blockNum status =>
    rw [hfind] at hfound hloaded
    cases status with
    | invalid => exact absurd rfl hfound
    | dataLoading => exact absurd rfl hloaded
    | success index =>
      obtain ⟨rfl, hmapped, -, hindex⟩ := findUid_success hfind
      have hloading : updateUidLoading d uid sz t = none := by
        unfold updateUidLoading
        rw [hfind]
        exact if_pos (.inr hsize)
      have htarget : ∃ t', updateUidTarget d uid t =
          some (d.uidMap uid, (uidTbl d.cache index).rev, t') ∧
          t'.blkInfo = { d.blockInfoTbl (d.uidMap uid) with
            partOccupancy := (d.blockInfoTbl (d.uidMap uid)).partOccupancy - 1 } := by
        unfold updateUidTarget
        rw [hfind]
        dsimp only
        rw [if_pos hsize, deallocateUid_stays hfind]
        exact ⟨_, rfl, rfl⟩
      obtain ⟨t', htarget, hinfo⟩ := htarget
      exact ⟨_, t', Nat.mod_lt _ (by decide), hloading, htarget, hmapped,
        Nat.zero_lt_of_lt hindex, hinfo⟩

/-- Any other update is put where `allocate_uid` finds a place. -/
theorem update_allocates (h : ¬ Stays d uid) (hloaded : (findUid d uid).2 ≠ .dataLoading)
    (hzero : sz ≠ 0) (t : Scratch) : ∃ rev t₀, rev < 4 ∧
      updateUidLoading d uid sz t = allocateUidLoading d t₀ ∧
      updateUidTarget d uid t =
        (allocateUidTarget d t₀).2.map fun t' => ((allocateUidTarget d t₀).1, rev, t') := by
  cases hfind : findUid d uid with
  | mk blockNum status =>
    have hfst := findUid_fst d uid
    rw [hfind] at hloaded hfst
    cases status with
    | dataLoading => exact absurd rfl hloaded
    | invalid =>
      refine ⟨0, t, by decide, ?_, ?_⟩
      · unfold updateUidLoading
        rw [hfind]
        exact if_neg hzero
      · unfold updateUidTarget
        rw [hfind]
        dsimp only
        rcases allocateUidTarget d t with ⟨blockNum, _ | t'⟩ <;> rfl
    | success index =>
      have hsize : (d.blockInfoTbl blockNum).partSize ≠ MAX_PART_SIZE := by
        intro hsize
        refine h ⟨?_, hfst ▸ hsize⟩
        rw [hfind]
        exact fun heq => by cases heq
      refine ⟨((uidTbl d.cache index).rev + 1) % 4, { t with blkInfo := d.blockInfoTbl blockNum },
        Nat.mod_lt _ (by decide), ?_, ?_⟩
      · unfold updateUidLoading
        rw [hfind]
        exact if_neg (not_or.mpr ⟨hzero, hsize⟩)
      · unfold updateUidTarget
        rw [hfind]
        dsimp only
        rw [if_neg hsize]
        rcases allocateUidTarget d _ with ⟨blockNum, _ | t'⟩ <;> rfl

/-- `allocate_uid` has to read a block exactly when the one it finds is not in the cache. -/
theorem allocateUidLoading_exact {i : Nat} (hexact : findExactBlock d MAX_PART_SIZE = some i)
    (t : Scratch) : allocateUidLoading d t =
      if d.cacheIdx = some i then none else some (i, { t with blkInfo := d.blockInfoTbl i }) := by
  unfold allocateUidLoading allocateUidTarget
  rw [hexact]
  dsimp only
  unfold loadCached getCachedDataBlock
  by_cases hcache : d.cacheIdx = some i
  · rw [if_pos hcache, if_pos hcache]
    rfl
  · rw [if_neg hcache, if_neg hcache]
    rfl

theorem findUid_loaded (h : updateUidLoading d uid sz t = none) :
    (findUid d uid).2 ≠ .dataLoading := by
  intro hloading
  unfold updateUidLoading at h
  generalize findUid d uid = found at h hloading
  obtain ⟨blockNum, status⟩ := found
  cases hloading
  cases h

end Lookups

section Places

variable {db : Db} {uid sz n rev : Nat} {t t' : Scratch}

/-- `allocate_uid` has to read a block exactly when it has no scratch to put the record in. -/
theorem allocateUidLoading_eq_none (d : DbTables) (t : Scratch) :
    allocateUidLoading d t = none ↔ (allocateUidTarget d t).2.isSome := by
  unfold allocateUidLoading
  rcases allocateUidTarget d t with ⟨blockNum, _ | t'⟩ <;> simp

/-- An update that needs no block any more has a place to put the record in, good or bad. -/
theorem updateUidTarget_isSome {d : DbTables} (hzero : sz ≠ 0)
    (h : updateUidLoading d uid sz t = none) : (updateUidTarget d uid t).isSome := by
  have hloaded := findUid_loaded h
  by_cases hstays : Stays d uid
  · obtain ⟨rev, t', -, -, htarget, -⟩ := hstays.update hloaded sz t
    rw [htarget]
    rfl
  · obtain ⟨rev, t₀, -, hloading, htarget⟩ := update_allocates hstays hloaded hzero t
    rw [htarget, Option.isSome_map]
    exact (allocateUidLoading_eq_none d t₀).mp (hloading.symm.trans h)

/-- **With a place for it a record is put into a block without one.** -/
theorem updateUidTarget_blank (hplace : HasPlace db.toDbTables uid) (hzero : sz ≠ 0)
    (h : updateUidTarget db.toDbTables uid t = some (n, rev, t')) :
    Blank t' ∧ n ≠ INVALID_BLOCK ∧ rev < 4 := by
  have hloaded : (findUid db.toDbTables uid).2 ≠ .dataLoading := by
    intro hloading
    unfold updateUidTarget at h
    generalize findUid db.toDbTables uid = found at h hloading
    obtain ⟨blockNum, status⟩ := found
    cases hloading
    cases h
  by_cases hstays : Stays db.toDbTables uid
  · obtain ⟨rev', t₀, hrev, -, htarget, hmapped, hocc, hinfo⟩ := hstays.update hloaded sz t
    rw [htarget] at h
    cases h
    obtain ⟨hcount, hoffs⟩ := (db.mapped uid hmapped).maxPart hstays.2
    have hroom := hplace.stays hstays
    refine ⟨⟨?_, ?_, ?_, ?_⟩, hmapped, hrev⟩ <;> rw [hinfo]
    · change (db.blockInfoTbl (db.uidMap uid)).partOccupancy - 1 = 0
      omega
    · exact hstays.2
    · exact hcount
    · exact hoffs
  · obtain ⟨rev', t₀, hrev, -, htarget⟩ := update_allocates hstays hloaded hzero t
    rw [htarget] at h
    obtain ⟨t₁, hallocate, heq⟩ := Option.map_eq_some_iff.mp h
    cases heq
    obtain ⟨hblank, hn⟩ := allocateUidTarget_blank (hplace.moves hstays).hasRoom hallocate
    exact ⟨hblank, hn, hrev⟩

end Places

/-! ### The reads of an update -/

section Reads

variable {blocks : Nat → Mem} {d d' : DbTables} {uid sz n i : Nat} {t t' : Scratch}

theorem blockRead_blockRead (blocks : Nat → Mem) (d : DbTables) (i j : Nat) :
    (d.blockRead blocks j).blockRead blocks i = d.blockRead blocks i := by
  have hcache : (d.cache.copy 0 (blocks j) 0 BLK_SIZE).copy 0 (blocks i) 0 BLK_SIZE =
      d.cache.copy 0 (blocks i) 0 BLK_SIZE := by
    funext a
    rcases Nat.lt_or_ge a BLK_SIZE with hlt | hge
    · rw [Mem.copy_apply_of_mem _ _ (Nat.zero_le a) (by omega),
        Mem.copy_apply_of_mem _ _ (Nat.zero_le a) (by omega)]
    · rw [Mem.copy_apply_of_notMem _ _ (.inr (by omega)),
        Mem.copy_apply_of_notMem _ _ (.inr (by omega)),
        Mem.copy_apply_of_notMem _ _ (.inr (by omega))]
  unfold DbTables.blockRead
  dsimp only
  rw [hcache]

/-- Reading the block that is in the cache anew changes nothing. -/
theorem CacheOk.blockRead_eq (h : CacheOk blocks d) (hcache : d.cacheIdx = some i) :
    d.blockRead blocks i = d := by
  have hcopy : d.cache.copy 0 (blocks i) 0 BLK_SIZE = d.cache := by
    funext a
    rcases Nat.lt_or_ge a BLK_SIZE with hlt | hge
    · rw [Mem.copy_apply_of_mem _ _ (Nat.zero_le a) (by omega), h i hcache a hlt]
      congr 1
      omega
    · exact Mem.copy_apply_of_notMem _ _ (.inr (by omega))
  unfold DbTables.blockRead
  rw [hcopy, ← hcache]

/-- Reading a block leaves the tables. -/
def Db.blockRead (blocks : Nat → Mem) (i : Nat) (db : Db) : Db where
  toDbTables := db.toDbTables.blockRead blocks i
  geometry := db.geometry
  mapped := db.mapped

theorem updateUidLoading_of_find (h : (findUid d uid).2 = .dataLoading) (sz : Nat) (t : Scratch) :
    updateUidLoading d uid sz t = some (d.uidMap uid, t) := by
  rw [← findUid_fst d uid]
  unfold updateUidLoading
  generalize findUid d uid = found at h ⊢
  obtain ⟨blockNum, status⟩ := found
  cases h
  rfl

theorem updateUidLast_of_none (h : updateUidLoading d uid sz t = none) (n : Nat) :
    updateUidLast blocks uid sz n d t = some (d, t) := by
  cases n <;> simp [updateUidLast, h]

theorem updateUidLast_of_some (h : updateUidLoading d uid sz t = some (i, t')) (n : Nat) :
    updateUidLast blocks uid sz (n + 1) d t =
      updateUidLast blocks uid sz n (d.blockRead blocks i) t' := by
  simp [updateUidLast, h]

/-- The last call needs no block, and only the cache is not as it was before. -/
theorem updateUidLast_reached (h : updateUidLast blocks uid sz n d t = some (d', t')) :
    updateUidLoading d' uid sz t' = none ∧ (d' = d ∨ ∃ i, d' = d.blockRead blocks i) := by
  induction n generalizing d t with
  | zero =>
    unfold updateUidLast at h
    split at h
    · cases h
    · rename_i hloading
      cases h
      exact ⟨Option.not_isSome_iff_eq_none.mp hloading, .inl rfl⟩
  | succ n ih =>
    cases hloading : updateUidLoading d uid sz t with
    | none =>
      rw [updateUidLast_of_none hloading] at h
      cases h
      exact ⟨hloading, .inl rfl⟩
    | some next =>
      obtain ⟨i, t₁⟩ := next
      rw [updateUidLast_of_some hloading] at h
      obtain ⟨hnone, rfl | ⟨j, rfl⟩⟩ := ih h
      · exact ⟨hnone, .inr ⟨i, rfl⟩⟩
      · exact ⟨hnone, .inr ⟨j, blockRead_blockRead blocks d j i⟩⟩

variable {db : EmmcDb}

/-- When `find_uid` needs no block the uid's block, if it has one, is in the cache. -/
theorem eq_lookedUp (hd : d = db.toDbTables ∨ ∃ i, d = db.toDbTables.blockRead db.blocks i)
    (hloaded : (findUid d uid).2 ≠ .dataLoading) (hmapped : db.uidMap uid ≠ INVALID_BLOCK) :
    d = db.lookedUp uid := by
  have hcached : d.uidMap uid ≠ INVALID_BLOCK → d.cacheIdx = some (d.uidMap uid) := by
    intro h
    by_contra hcache
    exact hloaded (findUid_dataLoading_iff.mpr ⟨h, hcache⟩)
  rcases hd with rfl | ⟨i, rfl⟩
  · exact (db.cacheOk.blockRead_eq (hcached hmapped)).symm
  · have hi : i = db.uidMap uid := Option.some.inj (hcached hmapped)
    rw [hi]
    rfl

theorem hasPlace_lookedUp (hd : d = db.toDbTables ∨ ∃ i, d = db.toDbTables.blockRead db.blocks i)
    (hloaded : (findUid d uid).2 ≠ .dataLoading) :
    HasPlace d uid ↔ HasPlace (db.lookedUp uid) uid := by
  by_cases hmapped : db.uidMap uid = INVALID_BLOCK
  · -- a uid without a block stays nowhere, and room does not depend on the cache
    have hstays : ∀ d' : DbTables, d'.uidMap uid = INVALID_BLOCK → ¬ Stays d' uid := by
      intro d' hnone hstays
      refine hstays.1 ?_
      unfold findUid
      dsimp only
      rw [if_pos hnone]
    have hlooked := hstays (db.lookedUp uid) hmapped
    have hroom : HasRoomFor d uid ↔ HasRoomFor (db.lookedUp uid) uid := by
      rcases hd with rfl | ⟨i, rfl⟩ <;> exact Iff.rfl
    have hd' : ¬ Stays d uid := hstays d (by rcases hd with rfl | ⟨i, rfl⟩ <;> exact hmapped)
    constructor
    · exact fun h => ⟨fun hs => absurd hs hlooked, fun _ => hroom.mp (h.moves hd')⟩
    · exact fun h => ⟨fun hs => absurd hs hd', fun _ => hroom.mpr (h.moves hlooked)⟩
  · rw [eq_lookedUp hd hloaded hmapped]

/-- **An update that takes the uid's block and another one reads them by turns for ever.** -/
theorem updateUidLast_eq_none (hzero : sz ≠ 0) (hmapped : db.uidMap uid ≠ INVALID_BLOCK)
    (hmoves : ¬ Stays (db.lookedUp uid) uid)
    (hexact : findExactBlock db.toDbTables MAX_PART_SIZE = some i) (hi : db.uidMap uid ≠ i)
    (n : Nat) (t : Scratch) : updateUidLast db.blocks uid sz n db.toDbTables t = none := by
  cases hlast : updateUidLast db.blocks uid sz n db.toDbTables t with
  | none => rfl
  | some last =>
    obtain ⟨d', t'⟩ := last
    obtain ⟨hnone, hd⟩ := updateUidLast_reached hlast
    have hloaded := findUid_loaded hnone
    obtain rfl := eq_lookedUp hd hloaded hmapped
    obtain ⟨rev, t₀, -, hloading, -⟩ := update_allocates hmoves hloaded hzero t'
    have hcache : (db.lookedUp uid).cacheIdx ≠ some i := fun heq => hi (Option.some.inj heq)
    rw [allocateUidLoading_exact (d := db.lookedUp uid) hexact, if_neg hcache, hnone] at hloading
    cases hloading

/-- With a place for the record and its block in the cache one more read is enough. -/
theorem updateUidLast_of_loaded (blocks : Nat → Mem) (hzero : sz ≠ 0)
    (hloaded : (findUid d uid).2 ≠ .dataLoading) (hplace : HasPlace d uid) (t : Scratch) :
    ∃ d' t', updateUidLast blocks uid sz 1 d t = some (d', t') := by
  by_cases hstays : Stays d uid
  · obtain ⟨rev, t', -, hnone, -⟩ := hstays.update hloaded sz t
    exact ⟨d, t, updateUidLast_of_none hnone 1⟩
  · obtain ⟨rev, t₀, -, hloading, -⟩ := update_allocates hstays hloaded hzero t
    cases hexact : findExactBlock d MAX_PART_SIZE with
    | none =>
      rcases hplace.moves hstays with ⟨hsome, -⟩ | hsome | ⟨-, hfree⟩
      · rw [hexact] at hsome
        cases hsome
      · rw [hexact] at hsome
        cases hsome
      · refine ⟨d, t, updateUidLast_of_none (hloading.trans ?_) 1⟩
        unfold allocateUidLoading allocateUidTarget
        rw [hexact]
        dsimp only
        rw [if_pos hfree]
    | some i =>
      rw [allocateUidLoading_exact hexact] at hloading
      by_cases hcache : d.cacheIdx = some i
      · rw [if_pos hcache] at hloading
        exact ⟨d, t, updateUidLast_of_none hloading 1⟩
      · rw [if_neg hcache] at hloading
        rw [updateUidLast_of_some hloading]
        have hnone : d.uidMap uid = INVALID_BLOCK := by
          by_contra hmapped
          have hown : d.cacheIdx = some (d.uidMap uid) := by
            by_contra hne
            exact hloaded (findUid_dataLoading_iff.mpr ⟨hmapped, hne⟩)
          rcases hplace.moves hstays with ⟨-, habsent⟩ | hsame | ⟨hnone, -⟩
          · exact hmapped habsent
          · exact hcache (hown.trans (hsame.symm.trans hexact))
          · rw [hexact] at hnone
            cases hnone
        have hfind : findUid (d.blockRead blocks i) uid = (INVALID_BLOCK, .invalid) := by
          unfold findUid
          dsimp only
          rw [show (d.blockRead blocks i).uidMap uid = INVALID_BLOCK from hnone, if_pos rfl]
        have hlast : updateUidLoading (d.blockRead blocks i) uid sz
            { t₀ with blkInfo := d.blockInfoTbl i } = none := by
          unfold updateUidLoading
          rw [hfind]
          dsimp only
          rw [if_neg hzero, allocateUidLoading_exact (d := d.blockRead blocks i) hexact]
          exact if_pos rfl
        exact ⟨_, _, updateUidLast_of_none hlast 0⟩

/-- **With a place for the record an update comes to its end.** -/
theorem updateUidLast_of_place (hzero : sz ≠ 0) (hplace : HasPlace (db.lookedUp uid) uid)
    (t : Scratch) : ∃ n d' t', updateUidLast db.blocks uid sz n db.toDbTables t = some (d', t') := by
  by_cases hloading : (findUid db.toDbTables uid).2 = .dataLoading
  · have hloaded : (findUid (db.lookedUp uid) uid).2 ≠ .dataLoading :=
      fun h => (findUid_dataLoading_iff.mp h).2 rfl
    obtain ⟨d', t', hlast⟩ := updateUidLast_of_loaded db.blocks hzero hloaded hplace t
    refine ⟨2, d', t', ?_⟩
    rw [updateUidLast_of_some (updateUidLoading_of_find hloading sz t)]
    exact hlast
  · exact ⟨1, updateUidLast_of_loaded db.blocks hzero hloading
      ((hasPlace_lookedUp (.inl rfl) hloading).mpr hplace) t⟩

end Reads

/-! ### Reading a record back -/

section Records

variable {A : HcAes} {key iv data : Bytes} {db : Db} {uid sz n rev : Nat} {t : Scratch}

/-- What `allocate_uid_blk` makes of a block without a record. -/
theorem allocateUidBlk_blank (A : HcAes) (key iv data : Bytes) (h : Blank t) (huid : uid < 4096)
    (hsz : sz < 65536) (hrev : rev < 4) :
    let t' := allocateUidBlk A key uid data sz rev iv t
    t'.blkInfo.partOccupancy = 1 ∧ getPart t'.blkInfo 0 = SUB_BLK_SIZE ∧
      (uidTbl t'.block 0).uid = uid ∧ (uidTbl t'.block 0).sz = sz ∧
      t'.block.read SUB_BLK_SIZE (cbcEncrypt (A.aes256Encrypt key) (sizeToSubBlkCount sz)
        (some iv) data).length =
        cbcEncrypt (A.aes256Encrypt key) (sizeToSubBlkCount sz) (some iv) data := by
  generalize hc : cbcEncrypt (A.aes256Encrypt key) (sizeToSubBlkCount sz) (some iv) data = cipher
  intro t'
  have ht' : t' = appendUid cipher uid sz rev INVALID_BLOCK t := by
    rw [← hc]
    rfl
  obtain ⟨blk, info⟩ := t
  obtain ⟨hocc, hsize, hcount, hoffs⟩ := h
  dsimp only at hocc hsize hcount hoffs
  unfold appendUid at ht'
  dsimp only at ht'
  generalize hhead : setHeaderOccupancy blk (headerOccupancy blk + 1) = blk' at ht'
  generalize hent : ({ uidTbl blk' info.partOccupancy with
    uid, sz, rev, first := 1, blkNext := INVALID_BLOCK } : UidEnt) = ent at ht'
  have hbounded : ent.Bounded := by
    rw [← hent]
    have hfirst : (1 : Nat) < 2 := by decide
    have hnext : INVALID_BLOCK < 65536 := by decide
    refine ⟨huid, hrev, hfirst, ?_, hsz, hnext⟩
    have hlt := blk'.get16_lt (uidTblOff info.partOccupancy)
    change blk'.get16 (uidTblOff info.partOccupancy) / 32768 < 2
    omega
  have hpart : getPart { info with
      partOccupancy := (info.partOccupancy + 1) % 256, occupied := 1, valid := 1 }
      info.partOccupancy = SUB_BLK_SIZE := by
    unfold getPart
    dsimp only
    rw [hocc, hoffs, Nat.mul_zero]
    rfl
  rw [hpart] at ht'
  have hback : uidTbl t'.block 0 = ent := by
    refine Eq.trans ?_ (UidEnt.get_write hbounded blk' (uidTblOff 0))
    rw [ht', hocc]
    refine UidEnt.get_congr fun i hi => Mem.write_apply_of_notMem _ (.inl ?_)
    change 8 + 6 * 0 + i < 16
    omega
  refine ⟨?_, ?_, ?_, ?_, ?_⟩
  · rw [ht']
    dsimp only
    rw [hocc]
  · rw [ht', ← hpart]
    unfold getPart
    dsimp only
    rw [hocc]
  · rw [hback, ← hent]
  · rw [hback, ← hent]
  · rw [ht']
    exact Mem.read_write _ _ _ _ rfl

/-- **A record in a block of its own is read back whole.** -/
theorem readUid_updated (hA : BlockInverse (A.aes256Encrypt key) (A.aes256Decrypt key))
    (hiv : iv.length = AES_BLK_SIZE) (hlen : data.length = sizeToSubBlkCount sz * SUB_BLK_SIZE)
    (huid : uid < 4096) (hsz : sz < 65536) (hzero : sz ≠ 0) (hrev : rev < 4) (h : Blank t)
    (hn : n ≠ INVALID_BLOCK) :
    readUid A key (db.updated uid sz n (allocateUidBlk A key uid data sz rev iv t)) uid iv =
      some (sz, data) := by
  obtain ⟨hocc, hpart, hent, hentSz, hread⟩ :=
    allocateUidBlk_blank A key iv data h huid hsz hrev
  generalize ht' : allocateUidBlk A key uid data sz rev iv t = t' at hocc hpart hent hentSz hread ⊢
  have hfind : findUid (db.updated uid sz n t') uid = (n, .success 0) := by
    have hmap : (db.updated uid sz n t').uidMap uid = n := by
      unfold DbTables.updated
      dsimp only
      rw [if_pos rfl, if_neg hzero]
    have hinfo : (db.updated uid sz n t').blockInfoTbl n = t'.blkInfo := if_pos rfl
    have hcached : getCachedDataBlock (db.updated uid sz n t') n = some t'.block := if_pos rfl
    unfold findUid
    dsimp only
    rw [hmap, if_neg hn, hcached, hinfo, hocc]
    dsimp only
    rw [List.range_one, List.find?_cons_of_pos (by rw [hent]; exact decide_eq_true rfl)]
  have hinfo : (db.updated uid sz n t').blockInfoTbl n = t'.blkInfo := if_pos rfl
  have hcache : (db.updated uid sz n t').cache = t'.block := rfl
  have hblock : ivOk (some iv) := hiv
  have hcipher := length_cbcEncrypt hA (sizeToSubBlkCount sz) hblock hlen
  unfold readUid
  rw [hfind]
  dsimp only
  rw [hinfo, hcache, hentSz, hpart]
  rw [show sizeToSubBlkCount sz * SUB_BLK_SIZE = _ from hcipher.symm, hread,
    cbcDecrypt_cbcEncrypt hA _ hblock hlen]

theorem updateUid_of_target (hzero : sz ≠ 0) {t' : Scratch}
    (h : updateUidTarget db.toDbTables uid t = some (n, rev, t')) :
    updateUid A key db.toDbTables uid data sz iv t =
      some (n, allocateUidBlk A key uid data sz rev iv t') := by
  unfold updateUid
  rw [if_neg hzero, h]
  rfl

/-- Without a place the record ends up in block 0, which nothing maps to. -/
theorem not_putInside (hzero : sz ≠ 0) {t' : Scratch}
    (h : updateUidTarget db.toDbTables uid t = some (INVALID_BLOCK, rev, t')) :
    ¬ PutInside A key db.toDbTables uid sz data iv t := by
  rintro ⟨-, blockNum, t'', hupdate, hread⟩
  rw [updateUid_of_target hzero h] at hupdate
  cases hupdate
  unfold readUid findUid at hread
  dsimp only [DbTables.updated] at hread
  rw [if_pos rfl, if_neg hzero, if_pos rfl] at hread
  cases hread

/-- **A record is put into a partition only if there is a place for it.** -/
theorem PutInside.hasPlace (hzero : sz ≠ 0) (hnone : updateUidLoading db.toDbTables uid sz t = none)
    (h : PutInside A key db.toDbTables uid sz data iv t) : HasPlace db.toDbTables uid := by
  have hloaded := findUid_loaded hnone
  constructor
  · intro hstays
    obtain ⟨rev, t', -, -, htarget, -, -, hinfo⟩ := hstays.update hloaded sz t
    -- the entry behind the last one must be one of the block
    have hindex := (h.inside _ htarget).index
    rw [hinfo] at hindex
    change (db.blockInfoTbl (db.uidMap uid)).partOccupancy - 1 <
      (db.blockInfoTbl (db.uidMap uid)).partCount at hindex
    omega
  · intro hmoves
    obtain ⟨rev, t₀, -, hloading, htarget⟩ := update_allocates hmoves hloaded hzero t
    rw [hnone] at hloading
    cases hexact : findExactBlock db.toDbTables MAX_PART_SIZE with
    | none =>
      refine .inr (.inr ⟨hexact, fun hfull => ?_⟩)
      have hroom : ¬ HasRoom db.toDbTables := by
        rintro (hsome | hfree)
        · rw [hexact] at hsome
          cases hsome
        · exact hfree hfull
      rw [allocateUidTarget_full hroom] at htarget
      exact not_putInside hzero htarget h
    | some i =>
      rw [allocateUidLoading_exact hexact] at hloading
      by_cases hcache : db.cacheIdx = some i
      · by_cases hmapped : db.uidMap uid = INVALID_BLOCK
        · exact .inl ⟨hexact ▸ rfl, hmapped⟩
        · refine .inr (.inl ?_)
          have hown : db.cacheIdx = some (db.uidMap uid) := by
            by_contra hne
            exact hloaded (findUid_dataLoading_iff.mpr ⟨hmapped, hne⟩)
          exact hexact.trans (hcache.symm.trans hown)
      · rw [if_neg hcache] at hloading
        cases hloading

/-- **With a place for it a record that fits is put into a partition.** -/
theorem HasPlace.putInside (hA : BlockInverse (A.aes256Encrypt key) (A.aes256Decrypt key))
    (hiv : iv.length = AES_BLK_SIZE) (hlen : data.length = sizeToSubBlkCount sz * SUB_BLK_SIZE)
    (huid : uid < 4096) (hsz : sz < 65536) (hzero : sz ≠ 0)
    (hsize : sizeToSubBlkCount sz ≤ MAX_PART_SIZE)
    (hnone : updateUidLoading db.toDbTables uid sz t = none) (h : HasPlace db.toDbTables uid) :
    PutInside A key db.toDbTables uid sz data iv t := by
  constructor
  · rintro ⟨n, rev, t'⟩ htarget
    exact (updateUidTarget_blank h hzero htarget).1.writesInside hsize
  · obtain ⟨⟨n, rev, t'⟩, htarget⟩ := Option.isSome_iff_exists.mp
      (updateUidTarget_isSome hzero hnone)
    obtain ⟨hblank, hn, hrev⟩ := updateUidTarget_blank h hzero htarget
    exact ⟨n, _, updateUid_of_target hzero htarget,
      readUid_updated hA hiv hlen huid hsz hzero hrev hblank hn⟩

/-- **An accepted record fits and is read back whole exactly when its size is one that a
    partition holds and there is a place for it**; the host has the same bound on sizes. -/
theorem record_fits (hA : BlockInverse (A.aes256Encrypt key) (A.aes256Decrypt key))
    (hiv : iv.length = AES_BLK_SIZE) {packet : Mem} {dataLen : Int} {db : EmmcDb}
    (haccept : acceptUpdateUid packet dataLen = some (uid, sz, data)) :
    (RecordFits A key db uid sz data iv t ↔
      sizeToSubBlkCount sz ≤ MAX_PART_SIZE ∧ (sz ≠ 0 → HasPlace (db.lookedUp uid) uid)) ∧
    (sizeToSubBlkCount sz ≤ MAX_PART_SIZE ↔ sz ≤ signetdevMaxEntryDataSize (some .signetHc)) := by
  obtain ⟨huid, hsz, hlen⟩ := acceptUpdateUid_spec haccept
  -- every call of `update_uid_cmd_iter` finds the tables of the first one
  have hdb : ∀ {d : DbTables}, (d = db.toDbTables ∨ ∃ i, d = db.toDbTables.blockRead db.blocks i) →
      ∃ db' : Db, db'.toDbTables = d := by
    rintro d (rfl | ⟨i, rfl⟩)
    · exact ⟨db.toDb, rfl⟩
    · exact ⟨db.toDb.blockRead db.blocks i, rfl⟩
  refine ⟨⟨fun h => ⟨h.size, fun hzero => ?_⟩, ?_⟩, ?_⟩
  · obtain ⟨n, d, t', hlast, hput⟩ := h.put hzero
    obtain ⟨hnone, hd⟩ := updateUidLast_reached hlast
    obtain ⟨db', rfl⟩ := hdb hd
    exact (hasPlace_lookedUp hd (findUid_loaded hnone)).mp (hput.hasPlace hzero hnone)
  · rintro ⟨hsize, hplace⟩
    refine ⟨hsize, fun hzero => ?_⟩
    obtain ⟨n, d, t', hlast⟩ := updateUidLast_of_place hzero (hplace hzero) t
    obtain ⟨hnone, hd⟩ := updateUidLast_reached hlast
    have hhere := (hasPlace_lookedUp hd (findUid_loaded hnone)).mpr (hplace hzero)
    obtain ⟨db', rfl⟩ := hdb hd
    exact ⟨n, _, t', hlast, hhere.putInside hA hiv hlen huid hsz hzero hsize hnone⟩
  · have hmax : signetdevMaxEntryDataSize (some .signetHc) = MAX_PART_SIZE * SUB_BLK_DATA_SIZE := by
      decide
    rw [hmax]
    unfold sizeToSubBlkCount
    change (sz + 13) / 14 ≤ MAX_PART_SIZE ↔ sz ≤ MAX_PART_SIZE * 14
    omega

end Records

/-! ### The invariant of the tables -/

section Invariant

variable {A : HcAes} {key iv data : Bytes} {db : Db} {uid sz n : Nat} {t t' : Scratch}

theorem Blank.geometry_allocateUidBlk (h : Blank t) (rev : Nat) :
    Geometry (allocateUidBlk A key uid data sz rev iv t).blkInfo where
  count := by
    change t.blkInfo.partCount = getPartCount t.blkInfo.partSize % 256
    rw [h.count, h.size]
    decide
  offs := by
    change t.blkInfo.partTblOffs = getBlockHeaderSize t.blkInfo.partCount % 65536
    rw [h.offs, h.count]
    decide

theorem geometry_deallocateUid (h : deallocateUid db.toDbTables uid true t = (.success, n, t')) :
    Geometry t'.blkInfo := by
  unfold deallocateUid at h
  split at h
  · cases h
  · cases h
  · rename_i blockNum index hfind
    obtain ⟨rfl, hmapped, -, -⟩ := findUid_success hfind
    obtain ⟨hcount, hoffs⟩ := db.mapped uid hmapped
    dsimp only at h
    split at h <;>
      · cases h
        exact ⟨hcount, hoffs⟩

/-- **The cache is right after a read, and when an update has been stored and read again.** -/
theorem cacheOk_kept (blocks : Nat → Mem) (d : DbTables) (i : Nat) (t : Scratch) :
    CacheOk blocks (d.blockRead blocks i) ∧
      CacheOk (Function.update blocks n ((blocks n).copy 0 t.block 0 BLK_SIZE))
        (d.updated uid sz n t) := by
  constructor
  · intro j hj a ha
    obtain rfl : i = j := Option.some.inj hj
    change d.cache.copy 0 (blocks i) 0 BLK_SIZE a = blocks i a
    rw [Mem.copy_apply_of_mem _ _ (Nat.zero_le a) (by omega), Nat.zero_add, Nat.sub_zero]
  · intro j hj a ha
    obtain rfl : n = j := Option.some.inj hj
    change t.block a = _
    rw [Function.update_self, Mem.copy_apply_of_mem _ _ (Nat.zero_le a) (by omega),
      Nat.zero_add, Nat.sub_zero]

/-- **An update keeps the geometry of the blocks in use.** -/
theorem geometry_updated (hplace : sz ≠ 0 → HasPlace db.toDbTables uid)
    (h : updateUid A key db.toDbTables uid data sz iv t = some (n, t')) :
    (∀ i ∈ dataBlocks, ((db.updated uid sz n t').blockInfoTbl i).valid ≠ 0 →
      ((db.updated uid sz n t').blockInfoTbl i).occupied ≠ 0 →
        Geometry ((db.updated uid sz n t').blockInfoTbl i)) ∧
    ∀ u, (db.updated uid sz n t').uidMap u ≠ INVALID_BLOCK →
      Geometry ((db.updated uid sz n t').blockInfoTbl ((db.updated uid sz n t').uidMap u)) := by
  have hnew : Geometry t'.blkInfo := by
    unfold updateUid at h
    split at h
    · split at h
      · rename_i hdeallocate
        cases h
        exact geometry_deallocateUid hdeallocate
      · cases h
    · rename_i hzero
      obtain ⟨⟨n', rev, t₀⟩, htarget, heq⟩ := Option.map_eq_some_iff.mp h
      cases heq
      exact (updateUidTarget_blank (hplace hzero) hzero htarget).1.geometry_allocateUidBlk rev
  have hinfo : ∀ i, i ≠ n → (db.updated uid sz n t').blockInfoTbl i = db.blockInfoTbl i :=
    fun i hi => if_neg hi
  have hself : (db.updated uid sz n t').blockInfoTbl n = t'.blkInfo := if_pos rfl
  refine ⟨fun i hi hvalid hocc => ?_, fun u hu => ?_⟩
  · by_cases hin : i = n
    · rw [hin, hself]
      exact hnew
    · rw [hinfo i hin] at hvalid hocc ⊢
      exact db.geometry i hi hvalid hocc
  · by_cases hin : (db.updated uid sz n t').uidMap u = n
    · rw [hin, hself]
      exact hnew
    · have hmap : (db.updated uid sz n t').uidMap u = db.uidMap u := by
        refine if_neg ?_
        rintro rfl
        have hself : (db.updated u sz n t').uidMap u = if sz = 0 then INVALID_BLOCK else n :=
          if_pos rfl
        by_cases hzero : sz = 0
        · rw [hself, if_pos hzero] at hu
          exact hu rfl
        · rw [hself, if_neg hzero] at hin
          exact hin rfl
      rw [hinfo _ hin]
      rw [hmap] at hu ⊢
      exact db.mapped u hu

end Invariant

/-! ### Two packets -/

/-- The data of an UPDATE_UID packet for uid 1 with the given size. -/
def updatePacket (sz : Nat) : Mem := Mem.put16 (Mem.put16 (fun a => UInt8.ofNat a) 0 1) 2 sz

/-- A device at rest whose blocks are all free. -/
def freeEmmc : EmmcDb where
  toDb := freeDb
  blocks _ _ := 0
  cacheOk _ hcache := by cases hcache

/-- A device at rest with a record of uid 1 in block 1 and nothing in the cache. -/
def oneRecordDb : EmmcDb where
  blockInfoTbl i :=
    if i = 1 then ⟨1, 1, 1, 1, MAX_PART_SIZE, 1⟩ else ⟨1, 0, 0, 0, INVALID_PART_SIZE, 0⟩
  uidMap u := if u = 1 then 1 else INVALID_BLOCK
  cacheIdx := none
  cache := fun _ => 0
  geometry i _ _ hocc := by
    by_cases hi : i = 1
    · rw [if_pos hi]
      exact ⟨by decide, by decide⟩
    · rw [if_neg hi] at hocc
      exact absurd rfl hocc
  mapped u hu := by
    by_cases hu' : u = 1
    · rw [if_pos hu']
      exact ⟨by decide, by decide⟩
    · rw [if_neg hu'] at hu
      exact absurd rfl hu
  blocks _ := Mem.write (fun _ => 0) (uidTblOff 0)
    (UidEnt.toBytes ⟨1, 2, 1, 0, 3, INVALID_BLOCK⟩)
  cacheOk _ hcache := by cases hcache

theorem record_fits_largest :
    RecordFits plainAes [] oneRecordDb 1 14322 ((updatePacket 14322).read 4 16368)
      (List.replicate 16 0) emptyScratch := by
  have haccept : acceptUpdateUid (updatePacket 14322) 16372 =
      some (1, 14322, (updatePacket 14322).read 4 16368) := rfl
  have hfits : RecordFits plainAes [] oneRecordDb 1 14322 _ (List.replicate 16 0)
      emptyScratch ↔ _ := (record_fits (blockInverse_plainAes []) rfl haccept).1
  refine hfits.mpr ⟨by decide, fun _ => ⟨fun _ => by decide, fun hmoves => ?_⟩⟩
  exact absurd ⟨by decide, by decide⟩ hmoves

/-- A record of 1024 sub-blocks is accepted. -/
theorem oversized_record : ¬ ∀ (A : HcAes) (key iv data : Bytes) (packet : Mem) (dataLen : Int)
    (db : EmmcDb) (uid sz : Nat) (t : Scratch), dataLen ≤ hcLink.cmdPacketPayloadSize →
      acceptUpdateUid packet dataLen = some (uid, sz, data) →
        RecordFits A key db uid sz data iv t := by
  intro h
  have hfits := h plainAes [] (List.replicate 16 0) _ (updatePacket 14336) 16388 freeEmmc 1 14336
    emptyScratch (by decide) rfl
  exact absurd hfits.size (by decide)

end SignetBase.FirmwareHc
