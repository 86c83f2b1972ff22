/-
  SignetBase/FirmwareHc/RecordSteps.lean
  ======================================
  **The tables of the record database of Signet HC.**

  What `find_uid` finds, what `update_uid` makes of the tables (`updateUid_spec`), and what the
  card and the tables are when the block it has prepared is stored.
-/
import SignetBase.FirmwareHc.RecordBlocks

namespace SignetBase.FirmwareHc

variable {P : RootPlatform} {K : RecordKey}

/-! ### The tables -/

/-- The tables say what the blocks hold. -/
structure TablesOk (P : RootPlatform) (K : RecordKey) (blocks : Nat → Mem)
    (c : Nat → Option (Nat × Record)) (db : DbTables) : Prop where
  slot : ∀ i ∈ dataBlocks, Slot P K (db.blockInfoTbl i) (blocks i) (c i)
  points : Points (· ≤ MAX_UID) (· ∈ dataBlocks) c INVALID_BLOCK db.uidMap

section Tables

variable {blocks : Nat → Mem} {c : Nat → Option (Nat × Record)} {db : DbTables}
  {records : Nat → Option Record} {uid i : Nat} {r : Record} {t : Scratch}

theorem invalid_notMem : INVALID_BLOCK ∉ dataBlocks := fun h => dataBlock_ne_invalid h rfl

theorem findUid_absent (hT : TablesOk P K blocks c db)
    (hR : Represents (· ∈ dataBlocks) c records) (huid : uid ≤ MAX_UID)
    (hrec : records uid = none) : findUid db uid = (INVALID_BLOCK, .invalid) := by
  have hmap := hT.points.of_none hR huid hrec
  unfold findUid
  dsimp only
  rw [hmap, if_pos rfl]

/-- **A record is found in its block, which has to be in the cache.** -/
theorem findUid_present (hT : TablesOk P K blocks c db) (hC : CacheOk blocks db)
    (hR : Represents (· ∈ dataBlocks) c records) (huid : uid ≤ MAX_UID)
    (hrec : records uid = some r) :
    db.uidMap uid ∈ dataBlocks ∧ c (db.uidMap uid) = some (uid, r) ∧
      findUid db uid = (db.uidMap uid,
        if db.cacheIdx = some (db.uidMap uid) then .success 0 else .dataLoading) := by
  obtain ⟨hmem, hc⟩ := hT.points.of_some hR huid hrec
  refine ⟨hmem, hc, ?_⟩
  have hslot := hT.slot _ hmem
  rw [hc] at hslot
  generalize hi : db.uidMap uid = i at *
  generalize hinfo : db.blockInfoTbl i = info at hslot
  unfold findUid getCachedDataBlock
  dsimp only
  rw [hi, if_neg (dataBlock_ne_invalid hmem)]
  by_cases hcache : db.cacheIdx = some i
  · rw [if_pos hcache, if_pos hcache]
    have hcongr := hslot.congr (hC i hcache)
    rw [hinfo]
    cases hcongr with
    | @holds _ rec _ _ hf _ henc =>
      have hrec : recs db.cache (slotInfo 1) = [rec] := hf.holds
      cases hrec
      have hent : (uidTbl db.cache 0).uid = uid := henc.entUid
      have hone : (slotInfo 1).partOccupancy = 1 := rfl
      dsimp only
      rw [hone, List.range_one, List.find?_cons_of_pos (by rw [hent]; exact decide_eq_true rfl)]
  · rw [if_neg hcache, if_neg hcache]

/-! ### Planning an update -/

/-- The command concerns the record of `uid`, which becomes `x`. -/
structure Concerns (K : RecordKey) (d : UpdateUidData) (uid : Nat) (x : Option Record) : Prop where
  dataUid : d.uid = uid
  range : MIN_UID ≤ uid ∧ uid ≤ MAX_UID
  iv : d.iv = K.deriveIv uid
  sz : d.sz = x.elim 0 Record.sz
  entry : ∀ r, x = some r → d.entry = r.data

/-- There is something to be removed, or there is a place for what is put. -/
structure Feasible (db : DbTables) (records : Nat → Option Record) (uid : Nat) (x : Option Record) :
    Prop where
  removed : x = none → records uid ≠ none
  room : x ≠ none → records uid = none → HasRoom db

/-- A block without a record is room for one. -/
theorem TablesOk.hasRoom (hT : TablesOk P K blocks c db) (hi : i ∈ dataBlocks)
    (hc : c i = none) : HasRoom db := by
  have hslot := hT.slot i hi
  rw [hc] at hslot
  generalize hinfo : db.blockInfoTbl i = info at hslot
  cases hslot with
  | free hvalid hocc _ =>
    refine .inr ?_
    unfold findFreeBlock
    cases hfind : dataBlocks.find? fun j =>
        (db.blockInfoTbl j).valid ≠ 0 ∧ (db.blockInfoTbl j).occupied = 0 with
    | none =>
      refine absurd (decide_eq_true ?_) (List.find?_eq_none.mp hfind i hi)
      rw [hinfo]
      exact ⟨hvalid, hocc⟩
    | some j => exact dataBlock_ne_invalid (List.mem_of_find?_eq_some hfind)
  | empty _ _ =>
    refine .inl (List.find?_isSome.mpr ⟨i, hi, decide_eq_true ?_⟩)
    rw [hinfo]
    decide

/-- What `update_uid_cmd_complete` writes. -/
def completed (P : RootPlatform) (t : Scratch) : Scratch :=
  if t.blkInfo.occupied ≠ 0 then RecordStore.sealBlock P t else t

theorem completed_of_ne (h : t.blkInfo.occupied ≠ 0) : completed P t = RecordStore.sealBlock P t :=
  if_pos h

theorem completed_of_eq (h : t.blkInfo.occupied = 0) : completed P t = t := if_neg (not_not_intro h)

theorem completed_blkInfo (t : Scratch) : (completed P t).blkInfo = t.blkInfo := by
  unfold completed
  split <;> rfl

/-- The data block `i` has the record of `uid`, or is where it can be put; there is no second block
    to be written. -/
structure Placed (records : Nat → Option Record) (c : Nat → Option (Nat × Record)) (uid : Nat)
    (x : Option Record) (prev i : Nat) : Prop where
  mem : i ∈ dataBlocks
  stays : prev = i ∨ prev = INVALID_BLOCK
  slot : (∃ w, c i = some (uid, w)) ∨ x ≠ none ∧ c i = none ∧ records uid = none

/-- The scratch is a block in which the record of `uid` is `x`, for the data block `i`. -/
structure Prepared (P : RootPlatform) (K : RecordKey) (records : Nat → Option Record)
    (c : Nat → Option (Nat × Record)) (uid : Nat) (x : Option Record) (prev i : Nat)
    (t : Scratch) : Prop extends Placed records c uid x prev i where
  block : Slot P K t.blkInfo (completed P t).block (x.map fun r => (uid, r))

/-- The block that `update_uid` has to read, unless a free one is taken. -/
def neededBlock (db : DbTables) (uid : Nat) : Option Nat :=
  if db.uidMap uid ≠ INVALID_BLOCK then some (db.uidMap uid) else findExactBlock db MAX_PART_SIZE

theorem deallocateUid_found {index : Nat} (b : Bool)
    (h : findUid db uid = (i, .success index)) :
    (deallocateUid db uid b t).2.2 =
      if (db.blockInfoTbl i).partOccupancy = 1 ∧ b then freeBlock (db.blockInfoTbl i) t
      else removeUid (db.blockInfoTbl i) index (t.loadPage BLK_SIZE db.cache) := by
  unfold deallocateUid
  rw [h]
  dsimp only
  split
  · rfl
  · rfl

/-- What `memcpy` of a whole block stores. -/
theorem copyBlock_apply (old blk : Mem) {b : Nat} (hb : b < BLK_SIZE) :
    old.copy 0 blk 0 BLK_SIZE b = blk b := by
  have hcopy : old.copy 0 blk 0 BLK_SIZE b = blk (0 + (b - 0)) :=
    Mem.copy_apply_of_mem _ _ (Nat.zero_le _) (by omega)
  rw [hcopy, Nat.zero_add, Nat.sub_zero]

/-- The cached block as `memcpy` puts it into the scratch. -/
theorem loadPage_apply (hC : CacheOk blocks db) (hcache : db.cacheIdx = some i) :
    ∀ a < BLK_SIZE, (t.loadPage BLK_SIZE db.cache).block a = blocks i a := by
  intro a ha
  have hcopy : (t.loadPage BLK_SIZE db.cache).block a = db.cache a := copyBlock_apply _ _ ha
  rw [hcopy]
  exact hC i hcache a ha

theorem findFreeBlock_spec (h : findFreeBlock db ≠ INVALID_BLOCK) :
    findFreeBlock db ∈ dataBlocks ∧ (db.blockInfoTbl (findFreeBlock db)).occupied = 0 := by
  unfold findFreeBlock at h ⊢
  cases hfind : dataBlocks.find? fun i =>
      (db.blockInfoTbl i).valid ≠ 0 ∧ (db.blockInfoTbl i).occupied = 0 with
  | none =>
    rw [hfind] at h
    exact absurd rfl h
  | some i =>
    have hprop := List.find?_some hfind
    exact ⟨List.mem_of_find?_eq_some hfind, (of_decide_eq_true hprop).2⟩

variable (hK : BlockInverse K.enc K.dec)

include hK in
/-- A record that is put into a block without one. -/
theorem Prepared.put {d : UpdateUidData} {x : Option Record} {rev prev : Nat}
    (hd : Concerns K d uid x) (hx : x = some r) (hmem : i ∈ dataBlocks)
    (hstays : prev = i ∨ prev = INVALID_BLOCK)
    (hslot : (∃ w, c i = some (uid, w)) ∨ x ≠ none ∧ c i = none ∧ records uid = none)
    (hrev : rev < 4)
    (hinfo : ∃ v o, t.blkInfo = { slotInfo 0 with valid := v, occupied := o })
    (hf : Filled BLK_SIZE t.block (slotInfo 0) []) :
    Prepared P K records c uid x prev i
      (allocateUidBlk K.aes K.encryptKey d.uid d.entry d.sz rev d.iv t) := by
  obtain ⟨hblkInfo, hblock⟩ := allocateUidBlk_slot hK (P := P) (r := r) hd.range hrev hinfo hf
  have hsz : d.sz = r.sz := by
    rw [hd.sz, hx]
    rfl
  refine ⟨⟨hmem, hstays, hslot⟩, ?_⟩
  rw [hd.dataUid, hd.entry r hx, hsz, hd.iv]
  have hocc : (slotInfo 1).occupied ≠ 0 := Nat.one_ne_zero
  rw [completed_of_ne (hblkInfo ▸ hocc), hblkInfo, hx]
  exact hblock

/-- The entry of a record is the only one in its block. -/
theorem Slot.of_some {info : BlockInfo} {blk : Mem} (h : Slot P K info blk (some (uid, r))) :
    info = slotInfo 1 ∧ ∃ rec, Filled BLK_SIZE blk (slotInfo 1) [rec] := by
  cases h with
  | holds hf _ _ => exact ⟨rfl, _, hf⟩

include hK in
/-- A record that has no block yet gets a free one, or one without a record. -/
theorem allocateUid_spec {d : UpdateUidData} {x : Option Record} (hT : TablesOk P K blocks c db)
    (hC : CacheOk blocks db) (hd : Concerns K d uid x) (hx : x = some r)
    (hrec : records uid = none) (hroom : HasRoom db) :
    (∃ i ∈ dataBlocks, db.cacheIdx ≠ some i ∧ findExactBlock db MAX_PART_SIZE = some i ∧
      RecordStore.allocateUid K db d 0 INVALID_BLOCK d.scratch = .dataLoading i) ∨
    ∃ prev i t, RecordStore.allocateUid K db d 0 INVALID_BLOCK d.scratch = .success prev i t ∧
      Prepared P K records c uid x prev i t := by
  have hne : x ≠ none := fun hnone => by rw [hx] at hnone; cases hnone
  unfold RecordStore.allocateUid allocateUidTarget
  cases hexact : findExactBlock db MAX_PART_SIZE with
  | some i =>
    obtain ⟨hmem, -, hocc, -, hlt⟩ := findExactBlock_spec hexact
    have hslot := hT.slot i hmem
    dsimp only
    unfold loadCached getCachedDataBlock
    by_cases hcache : db.cacheIdx = some i
    · -- the block has no record
      generalize hinfo : db.blockInfoTbl i = info at *
      generalize hentry : c i = entry at hslot
      cases hslot with
      | free _ hzero _ => exact absurd hzero hocc
      | holds _ _ _ => exact absurd hlt (Nat.lt_irrefl 1)
      | empty hf _ =>
        rw [if_pos hcache]
        refine .inr ⟨_, _, _, rfl, ?_⟩
        refine .put hK hd hx hmem (.inr rfl) (.inr ⟨hne, hentry, hrec⟩) (by decide) ⟨1, 1, rfl⟩ ?_
        exact hf.congr (loadPage_apply hC hcache)
    · rw [if_neg hcache]
      exact .inl ⟨i, hmem, hcache, rfl, rfl⟩
  | none =>
    have hfree : findFreeBlock db ≠ INVALID_BLOCK := by
      rcases hroom with hsome | hfree
      · rw [hexact] at hsome
        cases hsome
      · exact hfree
    obtain ⟨hmem, hocc⟩ := findFreeBlock_spec hfree
    have hslot := hT.slot _ hmem
    have hentry : c (findFreeBlock db) = none := by
      generalize hinfo : db.blockInfoTbl (findFreeBlock db) = info at *
      generalize hentry : c (findFreeBlock db) = entry at *
      cases hslot with
      | free _ _ _ => rfl
      | empty _ _ => rfl
      | holds _ _ _ => exact absurd hocc Nat.one_ne_zero
    dsimp only
    rw [if_pos hfree]
    refine .inr ⟨_, _, _, rfl, ?_⟩
    refine .put hK hd hx hmem (.inr rfl) (.inr ⟨hne, hentry, hrec⟩) (by decide)
      ⟨d.scratch.blkInfo.valid, d.scratch.blkInfo.occupied, ?_⟩ ?_
    · have hcount : getPartCount MAX_PART_SIZE % 256 = 1 := by decide
      have hoffs : getBlockHeaderSize 1 % 65536 = 1 := by decide
      dsimp only
      rw [hcount, hoffs]
      rfl
    · exact filled_blankBlock (layout_slotInfo 0) rfl (by decide) _

include hK in
/-- **What `update_uid` comes to**: a block has to be read first, or the scratch is the block in
    which the record is as it should be. -/
theorem updateUid_spec {d : UpdateUidData} {x : Option Record} (hT : TablesOk P K blocks c db)
    (hC : CacheOk blocks db) (hR : Represents (· ∈ dataBlocks) c records)
    (hd : Concerns K d uid x) (hfeasible : Feasible db records uid x) :
    (∃ i ∈ dataBlocks, db.cacheIdx ≠ some i ∧ neededBlock db uid = some i ∧
      RecordStore.updateUid K db d = .dataLoading i) ∨
    ∃ prev i t, RecordStore.updateUid K db d = .success prev i t ∧
      Prepared P K records c uid x prev i t := by
  have hduid := hd.dataUid
  unfold RecordStore.updateUid
  rw [hduid]
  cases hrec : records uid with
  | none =>
    obtain ⟨r, hx⟩ : ∃ r, x = some r := by
      cases hx : x with
      | none => exact absurd hrec (hfeasible.removed hx)
      | some r => exact ⟨r, rfl⟩
    have hsz : d.sz ≠ 0 := by
      rw [hd.sz, hx]
      exact r.pos
    have hne : x ≠ none := fun hnone => by rw [hx] at hnone; cases hnone
    have hneeded : neededBlock db uid = findExactBlock db MAX_PART_SIZE :=
      if_neg (not_not_intro (hT.points.of_none hR hd.range.2 hrec))
    rw [findUid_absent hT hR hd.range.2 hrec, hneeded]
    dsimp only
    rw [if_neg hsz]
    exact allocateUid_spec hK hT hC hd hx hrec (hfeasible.room hne hrec)
  | some r₀ =>
    obtain ⟨hmem, hc, hfind⟩ := findUid_present hT hC hR hd.range.2 hrec
    have hneeded : neededBlock db uid = some (db.uidMap uid) := if_pos (dataBlock_ne_invalid hmem)
    generalize db.uidMap uid = i at *
    by_cases hcache : db.cacheIdx = some i
    · rw [if_pos hcache] at hfind
      rw [hfind]
      have hslot := hT.slot i hmem
      rw [hc] at hslot
      obtain ⟨hinfo, rec, hf⟩ := hslot.of_some
      dsimp only
      cases hx : x with
      | none =>
        -- the only record of the block is removed: the block becomes free
        have hsz : d.sz = 0 := by
          rw [hd.sz, hx]
          rfl
        rw [if_pos hsz, deallocateUid_found true hfind, hinfo, if_pos ⟨rfl, rfl⟩]
        refine .inr ⟨_, _, _, rfl, ⟨hmem, .inr rfl, .inl ⟨r₀, hc⟩⟩, ?_⟩
        rw [completed_of_eq rfl]
        exact .free Nat.one_ne_zero rfl (headerPartSize_freeBlock _ _)
      | some r =>
        have hsz : d.sz ≠ 0 := by
          rw [hd.sz, hx]
          exact r.pos
        have hsize : (slotInfo 1).partSize = MAX_PART_SIZE := rfl
        rw [if_neg hsz, hinfo, if_pos hsize, deallocateUid_found false hfind, hinfo,
          if_neg fun hboth => absurd hboth.2 Bool.false_ne_true]
        refine .inr ⟨_, _, _, rfl, ?_⟩
        have hput : ∀ t : Scratch, Prepared P K records c uid x i i
            (allocateUidBlk K.aes K.encryptKey d.uid d.entry d.sz (uidTbl db.cache 0).rev d.iv
              (removeUid (slotInfo 1) 0 (t.loadPage BLK_SIZE db.cache))) := by
          intro t
          refine .put hK hd hx hmem (.inl rfl) (.inl ⟨r₀, hc⟩) (Nat.mod_lt _ (by decide))
            ⟨1, 1, rfl⟩ ?_
          exact filled_removeUid (hf.congr (loadPage_apply hC hcache)) Nat.zero_lt_one
        rw [hduid, hx] at hput
        exact hput _
    · rw [if_neg hcache] at hfind
      rw [hfind]
      exact .inl ⟨i, hmem, hcache, hneeded, rfl⟩

/-! ### Storing the block -/

section Stored

variable {x : Option Record} {prev : Nat} (hp : Placed records c uid x prev i)
  (hR : Represents (· ∈ dataBlocks) c records)

include hp hR

/-- The blocks with the scratch stored hold the records after the update. -/
theorem Placed.represents : Represents (· ∈ dataBlocks)
    (Function.update c i (x.map fun r => (uid, r))) (Function.update records uid x) := by
  cases x with
  | some r => exact hR.put hp.mem (hp.slot.imp_right fun h => h.2)
  | none =>
    rcases hp.slot with ⟨w, hw⟩ | ⟨hne, -⟩
    · exact hR.vacate hp.mem hw
    · exact absurd rfl hne

theorem Placed.points {uidMap : Nat → Nat}
    (hf : Points (· ≤ MAX_UID) (· ∈ dataBlocks) c INVALID_BLOCK uidMap) :
    Points (· ≤ MAX_UID) (· ∈ dataBlocks) (Function.update c i (x.map fun r => (uid, r)))
      INVALID_BLOCK (Function.update uidMap uid (x.elim INVALID_BLOCK fun _ => i)) := by
  cases x with
  | some r => exact hf.put hp.mem (hp.slot.imp_right fun h => h.2.1)
  | none =>
    rcases hp.slot with ⟨w, hw⟩ | ⟨hne, -⟩
    · exact hf.vacate hR hp.mem hw
    · exact absurd rfl hne

end Stored

section Written

variable {info : BlockInfo} {blk : Mem} {entry : Option (Nat × Record)}
  (hslot : Slot P K info blk entry)

include hslot

theorem Slot.stored (old : Mem) : Slot P K info (old.copy 0 blk 0 BLK_SIZE) entry :=
  hslot.congr fun _ => copyBlock_apply old blk

theorem OnCard.stored (hcard : OnCard P K blocks c) :
    OnCard P K (Function.update blocks i ((blocks i).copy 0 blk 0 BLK_SIZE))
      (Function.update c i entry) := by
  intro j hj
  by_cases hji : j = i
  · subst hji
    rw [Function.update_self, Function.update_self]
    exact ⟨info, hslot.stored _⟩
  · rw [Function.update_of_ne hji, Function.update_of_ne hji]
    exact hcard j hj

/-- The tables, with the block info and the index of a block that was stored. -/
theorem TablesOk.stored (hT : TablesOk P K blocks c db) {uidMap : Nat → Nat}
    (hpoints : Points (· ≤ MAX_UID) (· ∈ dataBlocks) (Function.update c i entry) INVALID_BLOCK
      uidMap) :
    TablesOk P K (Function.update blocks i ((blocks i).copy 0 blk 0 BLK_SIZE))
      (Function.update c i entry)
      { db with blockInfoTbl := Function.update db.blockInfoTbl i info, uidMap } := by
  refine ⟨fun j hj => ?_, hpoints⟩
  by_cases hji : j = i
  · subst hji
    dsimp only
    rw [Function.update_self, Function.update_self, Function.update_self]
    exact hslot.stored _
  · dsimp only
    rw [Function.update_of_ne hji, Function.update_of_ne hji, Function.update_of_ne hji]
    exact hT.slot j hj

end Written

/-- The cache is not concerned by a write to another block. -/
theorem CacheOk.stored (hC : CacheOk blocks db) (hne : db.cacheIdx ≠ some i) (blk : Mem) :
    CacheOk (Function.update blocks i blk) db := by
  intro j hj a ha
  have hji : j ≠ i := by
    rintro rfl
    exact hne hj
  rw [Function.update_of_ne hji]
  exact hC j hj a ha

end Tables

end SignetBase.FirmwareHc
