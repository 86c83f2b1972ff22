/-
  SignetBase/Firmware/Scan.lean
  =============================
  **What the startup scan computes from consistent pages.**

  `db2_startup_scan` copies the geometry of every block and enters the uid of
  every first entry in `uid_map`; it stops for a repair when it meets a uid twice.
  In a store in which no uid has two first entries it goes through all blocks
  (`scanPages_spec`), and the tables it leaves put every record of the store on
  the map (`dbOk_scan`).
-/
import SignetBase.Firmware.Db

namespace SignetBase.Firmware

variable (P : Platform)

/-! ### Blocks in the tables -/

/-- The block holds records. -/
def live (info : BlockInfo) : Prop := info.valid ≠ 0 ∧ info.occupied ≠ 0

instance (info : BlockInfo) : Decidable (live info) := inferInstanceAs (Decidable (_ ∧ _))

/-- The scan counts the entry: its uid is one that records can have, and it is the
    first block of its record. -/
def counted (ent : UidEnt) : Prop := MIN_UID ≤ ent.uid ∧ ent.uid ≤ MAX_UID ∧ ent.first ≠ 0

instance (ent : UidEnt) : Decidable (counted ent) := inferInstanceAs (Decidable (_ ∧ _))

/-- The page has a counted entry of the uid, given its block info. -/
def hasFirst (page : Mem) (info : BlockInfo) (uid : Nat) : Prop :=
  live info ∧ ∃ j < info.partOccupancy, counted (uidTbl page j) ∧ (uidTbl page j).uid = uid

theorem mem_dataBlocks {i : Nat} : i ∈ dataBlocks ↔ MIN_DATA_BLOCK ≤ i ∧ i ≤ MAX_DATA_BLOCK := by
  unfold dataBlocks NUM_DATA_BLOCKS
  rw [List.mem_range']
  simp only [MIN_DATA_BLOCK, MAX_DATA_BLOCK, NUM_STORAGE_BLOCKS]
  constructor
  · rintro ⟨k, hk, rfl⟩
    omega
  · intro h
    exact ⟨i - 1, by omega, by omega⟩

theorem dataBlock_bounds {i : Nat} (h : i ∈ dataBlocks) : 0 < i ∧ i < NUM_STORAGE_BLOCKS := by
  rw [mem_dataBlocks] at h
  simp only [MIN_DATA_BLOCK, MAX_DATA_BLOCK, NUM_STORAGE_BLOCKS] at h ⊢
  omega

theorem dataBlock_ne_invalid {i : Nat} (h : i ∈ dataBlocks) : i ≠ INVALID_BLOCK := by
  have hpos := (dataBlock_bounds h).1
  simp only [INVALID_BLOCK]
  omega

theorem dataBlock_mod {i : Nat} (h : i ∈ dataBlocks) : i % 256 = i := by
  have hlt := (dataBlock_bounds h).2
  simp only [NUM_STORAGE_BLOCKS] at hlt
  omega

theorem nodup_dataBlocks : dataBlocks.Nodup := List.nodup_range'

/-! ### One block -/

variable {pages : Nat → Mem}

/-- Entries whose uids are new and distinct are all entered in `uid_map`. -/
theorem scanEnts_spec {i : Nat} (hi : i ∈ dataBlocks) (js : List Nat) (r : Scan)
    (hnew : ∀ j ∈ js, counted (uidTbl (pages i) j) →
      r.tables.uidMap (uidTbl (pages i) j).uid = INVALID_BLOCK)
    (hdist : js.Pairwise fun j k => counted (uidTbl (pages i) j) → counted (uidTbl (pages i) k) →
      (uidTbl (pages i) j).uid ≠ (uidTbl (pages i) k).uid) :
    (scanEnts P pages i js r).repair = r.repair ∧
      (scanEnts P pages i js r).tables.blockInfoTbl = r.tables.blockInfoTbl ∧
      (∀ u, (∀ j ∈ js, counted (uidTbl (pages i) j) → (uidTbl (pages i) j).uid ≠ u) →
        (scanEnts P pages i js r).tables.uidMap u = r.tables.uidMap u) ∧
      ∀ u, (∃ j ∈ js, counted (uidTbl (pages i) j) ∧ (uidTbl (pages i) j).uid = u) →
        (scanEnts P pages i js r).tables.uidMap u = i := by
  induction js generalizing r with
  | nil =>
    refine ⟨rfl, rfl, fun _ _ => rfl, ?_⟩
    rintro u ⟨j, hj, -⟩
    cases hj
  | cons j js ih =>
    obtain ⟨hhead, htail⟩ := List.pairwise_cons.mp hdist
    unfold scanEnts
    simp only
    by_cases hc : counted (uidTbl (pages i) j)
    · have hmap := hnew j List.mem_cons_self hc
      rw [if_pos ⟨hc.1, hc.2.1, hc.2.2⟩, if_neg (by simp [hmap])]
      have hnew' : ∀ k ∈ js, counted (uidTbl (pages i) k) →
          (r.tables.setUid (uidTbl (pages i) j).uid i).uidMap (uidTbl (pages i) k).uid =
            INVALID_BLOCK := by
        intro k hk hck
        have hne := hhead k hk hc hck
        have hold := hnew k (List.mem_cons_of_mem _ hk) hck
        exact (if_neg fun h => hne h.symm).trans hold
      obtain ⟨h₁, h₂, h₃, h₄⟩ := ih { r with
          tables := r.tables.setUid (uidTbl (pages i) j).uid i } hnew' htail
      refine ⟨h₁, h₂, ?_, ?_⟩
      · intro u hu
        rw [h₃ u fun k hk => hu k (List.mem_cons_of_mem _ hk)]
        have hne := hu j List.mem_cons_self hc
        exact if_neg fun h => hne h.symm
      · rintro u ⟨k, hk, hck, rfl⟩
        by_cases hex : ∃ k' ∈ js, counted (uidTbl (pages i) k') ∧
            (uidTbl (pages i) k').uid = (uidTbl (pages i) k).uid
        · exact h₄ _ hex
        · rw [h₃ _ fun k' hk' hc' hu' => hex ⟨k', hk', hc', hu'⟩]
          have hkj : k = j := by
            rcases List.mem_cons.mp hk with h | h
            · exact h
            · exact absurd ⟨k, h, hck, rfl⟩ hex
          subst hkj
          exact (if_pos rfl).trans (dataBlock_mod hi)
    · rw [if_neg fun h => hc ⟨h.1, h.2.1, h.2.2⟩]
      obtain ⟨h₁, h₂, h₃, h₄⟩ :=
        ih r (fun k hk => hnew k (List.mem_cons_of_mem _ hk)) htail
      refine ⟨h₁, h₂, ?_, ?_⟩
      · intro u hu
        exact h₃ u fun k hk => hu k (List.mem_cons_of_mem _ hk)
      · rintro u ⟨k, hk, hck, hu⟩
        refine h₄ u ⟨k, ?_, hck, hu⟩
        rcases List.mem_cons.mp hk with rfl | h
        · exact absurd hck hc
        · exact h

/-! ### All blocks -/

/-- No uid has two first entries in those of the blocks `is` that the infos call
    live. -/
def UniqueFirstIn (is : List Nat) (pages : Nat → Mem) (infos : Nat → BlockInfo) : Prop :=
  ∀ i ∈ is, ∀ i' ∈ is, live (infos i) → live (infos i') →
    ∀ j < (infos i).partOccupancy, ∀ j' < (infos i').partOccupancy,
      counted (uidTbl (pages i) j) → counted (uidTbl (pages i') j') →
      (uidTbl (pages i) j).uid = (uidTbl (pages i') j').uid → i = i' ∧ j = j'

/-- No uid has two first entries. -/
def UniqueFirst (pages : Nat → Mem) (infos : Nat → BlockInfo) : Prop :=
  UniqueFirstIn dataBlocks pages infos

/-- The block infos the scan computes over the old ones. -/
def scanInfos (pages : Nat → Mem) (old : Nat → BlockInfo) (i : Nat) : BlockInfo :=
  scanInfo P (pages i) (old i)

theorem scanBlocks_spec {old : Nat → BlockInfo} (is : List Nat) (r : Scan)
    (huniq : UniqueFirstIn is pages (scanInfos P pages old))
    (hmem : ∀ i ∈ is, i ∈ dataBlocks) (hnodup : is.Nodup) (hrep : r.repair = none)
    (hold : ∀ i ∈ is, r.tables.blockInfoTbl i = old i)
    (hnew : ∀ i ∈ is, ∀ u, hasFirst (pages i) (scanInfos P pages old i) u →
      r.tables.uidMap u = INVALID_BLOCK) :
    (scanBlocks P pages is r).repair = none ∧
      (∀ i, (scanBlocks P pages is r).tables.blockInfoTbl i =
        if i ∈ is then scanInfos P pages old i else r.tables.blockInfoTbl i) ∧
      (∀ u, (∀ i ∈ is, ¬ hasFirst (pages i) (scanInfos P pages old i) u) →
        (scanBlocks P pages is r).tables.uidMap u = r.tables.uidMap u) ∧
      ∀ u, ∀ i ∈ is, hasFirst (pages i) (scanInfos P pages old i) u →
        (scanBlocks P pages is r).tables.uidMap u = i := by
  induction is generalizing r with
  | nil =>
    refine ⟨hrep, fun i => (if_neg (List.not_mem_nil)).symm, fun _ _ => rfl, ?_⟩
    intro u i hi
    cases hi
  | cons i is ih =>
    obtain ⟨hni, hnodup'⟩ := List.nodup_cons.mp hnodup
    have hi := hmem i List.mem_cons_self
    have hself : i ∈ i :: is := List.mem_cons_self
    have htail : UniqueFirstIn is pages (scanInfos P pages old) := fun k hk k' hk' =>
      huniq k (List.mem_cons_of_mem _ hk) k' (List.mem_cons_of_mem _ hk')
    have hinfo : scanInfo P (pages i) (r.tables.blockInfoTbl i) = scanInfos P pages old i := by
      rw [hold i List.mem_cons_self]
      rfl
    unfold scanBlocks
    simp only [hinfo]
    generalize hr₁ : ({ r with tables := r.tables.setInfo i (scanInfos P pages old i) } : Scan) = r₁
    have hrep₁ : r₁.repair = none := by rw [← hr₁]; exact hrep
    have hmap₁ : r₁.tables.uidMap = r.tables.uidMap := by rw [← hr₁]; rfl
    have hinfo₁ : ∀ k, r₁.tables.blockInfoTbl k =
        if k = i then scanInfos P pages old i else r.tables.blockInfoTbl k := by
      intro k
      rw [← hr₁]
      rfl
    by_cases hlive : live (scanInfos P pages old i)
    · rw [if_pos ⟨hlive.1, hlive.2⟩]
      have hfirst : ∀ j, j < (scanInfos P pages old i).partOccupancy →
          counted (uidTbl (pages i) j) →
          hasFirst (pages i) (scanInfos P pages old i) (uidTbl (pages i) j).uid :=
        fun j hj hc => ⟨hlive, j, hj, hc, rfl⟩
      obtain ⟨e₁, e₂, e₃, e₄⟩ := scanEnts_spec P hi
        (List.range (scanInfos P pages old i).partOccupancy) r₁
        (by
          intro j hj hc
          rw [hmap₁]
          exact hnew i List.mem_cons_self _ (hfirst j (List.mem_range.mp hj) hc))
        (by
          rw [List.pairwise_iff_getElem]
          intro a b ha hb hab hca hcb heq
          simp only [List.getElem_range] at hca hcb heq
          simp only [List.length_range] at ha hb
          have := (huniq i hself i hself hlive hlive a ha b hb hca hcb heq).2
          omega)
      generalize hr₂ : scanEnts P pages i (List.range (scanInfos P pages old i).partOccupancy) r₁ =
        r₂ at e₁ e₂ e₃ e₄
      have hrep₂ : r₂.repair = none := e₁.trans hrep₁
      rw [if_neg (by simp [hrep₂])]
      obtain ⟨f₁, f₂, f₃, f₄⟩ := ih r₂ htail (fun k hk => hmem k (List.mem_cons_of_mem _ hk))
        hnodup' hrep₂
        (by
          intro k hk
          have hki : k ≠ i := fun h => hni (h ▸ hk)
          rw [e₂, hinfo₁, if_neg hki]
          exact hold k (List.mem_cons_of_mem _ hk))
        (by
          intro k hk u hu
          rw [e₃ u ?_, hmap₁]
          · exact hnew k (List.mem_cons_of_mem _ hk) u hu
          · intro j hj hc heq
            obtain ⟨hlk, j', hj', hc', hu'⟩ := hu
            have := (huniq i hself k (List.mem_cons_of_mem _ hk) hlive hlk j
              (List.mem_range.mp hj) j' hj' hc hc' (heq.trans hu'.symm)).1
            exact hni (this ▸ hk))
      refine ⟨f₁, ?_, ?_, ?_⟩
      · intro k
        rw [f₂, e₂, hinfo₁]
        by_cases hki : k = i
        · subst hki
          rw [if_neg hni, if_pos rfl, if_pos List.mem_cons_self]
        · rw [if_neg hki]
          simp [hki]
      · intro u hu
        rw [f₃ u fun k hk => hu k (List.mem_cons_of_mem _ hk), e₃ u ?_, hmap₁]
        intro j hj hc heq
        exact hu i List.mem_cons_self (heq ▸ hfirst j (List.mem_range.mp hj) hc)
      · intro u k hk hu
        rcases List.mem_cons.mp hk with rfl | hk'
        · obtain ⟨-, j, hj, hc, heq⟩ := id hu
          rw [f₃ u ?_]
          · exact e₄ u ⟨j, List.mem_range.mpr hj, hc, heq⟩
          · rintro k' hk' ⟨hl', j', hj', hc', heq'⟩
            have := (huniq k hself k' (List.mem_cons_of_mem _ hk') hlive hl' j hj j' hj' hc hc'
              (heq.trans heq'.symm)).1
            exact hni (this ▸ hk')
        · exact f₄ u k hk' hu
    · rw [if_neg fun h => hlive ⟨h.1, h.2⟩]
      have hnone : ∀ u, ¬ hasFirst (pages i) (scanInfos P pages old i) u := fun u hu => hlive hu.1
      obtain ⟨f₁, f₂, f₃, f₄⟩ := ih r₁ htail (fun k hk => hmem k (List.mem_cons_of_mem _ hk))
        hnodup' hrep₁
        (by
          intro k hk
          have hki : k ≠ i := fun h => hni (h ▸ hk)
          rw [hinfo₁, if_neg hki]
          exact hold k (List.mem_cons_of_mem _ hk))
        (by
          intro k hk u hu
          rw [hmap₁]
          exact hnew k (List.mem_cons_of_mem _ hk) u hu)
      refine ⟨f₁, ?_, ?_, ?_⟩
      · intro k
        rw [f₂, hinfo₁]
        by_cases hki : k = i
        · subst hki
          rw [if_neg hni, if_pos rfl, if_pos List.mem_cons_self]
        · rw [if_neg hki]
          simp [hki]
      · intro u hu
        rw [f₃ u fun k hk => hu k (List.mem_cons_of_mem _ hk), hmap₁]
      · intro u k hk hu
        rcases List.mem_cons.mp hk with rfl | hk'
        · exact absurd hu (hnone u)
        · exact f₄ u k hk' hu

/-- **The scan of a store without second entries** needs no repair, copies every
    block info and maps every uid to the block of its first entry. -/
theorem scanPages_spec {t : Tables} (huniq : UniqueFirst pages (scanInfos P pages t.blockInfoTbl))
    (scratch : Scratch) :
    (scanPages P pages t scratch).repair = none ∧
      (∀ i, (scanPages P pages t scratch).tables.blockInfoTbl i =
        if i ∈ dataBlocks then scanInfos P pages t.blockInfoTbl i else t.blockInfoTbl i) ∧
      (∀ u, (∀ i ∈ dataBlocks, ¬ hasFirst (pages i) (scanInfos P pages t.blockInfoTbl i) u) →
        (scanPages P pages t scratch).tables.uidMap u =
          if MIN_UID ≤ u ∧ u ≤ MAX_UID then INVALID_BLOCK else t.uidMap u) ∧
      ∀ u, ∀ i ∈ dataBlocks, hasFirst (pages i) (scanInfos P pages t.blockInfoTbl i) u →
        (scanPages P pages t scratch).tables.uidMap u = i := by
  refine scanBlocks_spec P dataBlocks _ huniq (fun _ hi => hi) nodup_dataBlocks rfl
    (fun _ _ => rfl) ?_
  rintro i - u ⟨-, j, -, hc, rfl⟩
  exact if_pos ⟨hc.1, hc.2.1⟩

/-! ### Stores that are in order -/

/-- The records of block `i`: none, unless it is a live data block. -/
def liveRecs (pages : Nat → Mem) (infos : Nat → BlockInfo) (i : Nat) : List Rec :=
  if i ∈ dataBlocks ∧ live (infos i) then recs (pages i) (infos i) else []

/-- The uid under which the scan counts a record: an entry that is not a first
    one is under no proper uid. -/
def recUid (r : Rec) : Nat := if r.ent.first ≠ 0 then r.ent.uid else 0

/-- The geometry is the one of a size class. -/
structure SizeClass (info : BlockInfo) : Prop where
  partSize : info.partSize ∈ partSizes
  partCount : info.partCount = getPartCount info.partSize
  partTblOffs : info.partTblOffs = getBlockHeaderSize info.partCount

/-- A block info as the scan computes it: the one of a free block has no
    partition size. -/
def normal (info : BlockInfo) : BlockInfo :=
  if info.valid ≠ 0 ∧ info.occupied = 0 then { info with partSize := INVALID_PART_SIZE } else info

/-- The block info is what the scan makes of the page, up to the geometry of a free
    block, and the records of a live block are in order. -/
structure BlockOk (page : Mem) (info : BlockInfo) : Prop where
  scan : scanInfo P page info = normal info
  size : live info → SizeClass info
  filled : live info → Filled BLK_SIZE page info (recs page info)

/-- `uid_map` has the uid where its record is. -/
def Placed (pages : Nat → Mem) (t : Tables) (uid : Nat) : Prop :=
  t.uidMap uid = INVALID_BLOCK ∧ Absent recUid (liveRecs pages t.blockInfoTbl) uid ∨
    t.uidMap uid ∈ dataBlocks ∧
      ∃ r, Holds recUid (liveRecs pages t.blockInfoTbl) uid (t.uidMap uid) r

/-- The pages are in order and the tables describe them. -/
structure DbOk (pages : Nat → Mem) (t : Tables) : Prop where
  block : ∀ i ∈ dataBlocks, BlockOk P (pages i) (t.blockInfoTbl i)
  placed : ∀ uid, MIN_UID ≤ uid → uid ≤ MAX_UID → Placed pages t uid

variable {t : Tables} {infos : Nat → BlockInfo}

theorem live_normal (info : BlockInfo) : live (normal info) ↔ live info := by
  unfold normal
  split
  · exact Iff.rfl
  · exact Iff.rfl

theorem normal_of_live {info : BlockInfo} (h : live info) : normal info = info := by
  unfold normal
  exact if_neg fun hn => h.2 hn.2

theorem liveRecs_of_live {i : Nat} (hi : i ∈ dataBlocks) (h : live (infos i)) :
    liveRecs pages infos i = (List.range (infos i).partOccupancy).map (recAt (pages i) (infos i)) :=
  if_pos ⟨hi, h⟩

/-- The records of a live block are its entries. -/
theorem mem_liveRecs {i : Nat} {r : Rec} : r ∈ liveRecs pages infos i ↔
    i ∈ dataBlocks ∧ live (infos i) ∧
      ∃ j < (infos i).partOccupancy, recAt (pages i) (infos i) j = r := by
  unfold liveRecs
  split
  · rename_i hil
    unfold recs
    simp [hil.1, hil.2]
  · rename_i hil
    simp only [List.not_mem_nil, false_iff]
    rintro ⟨hi, hl, -⟩
    exact hil ⟨hi, hl⟩

theorem recUid_of_counted {r : Rec} (h : counted r.ent) : recUid r = r.ent.uid := if_pos h.2.2

/-- A record under a proper uid is counted. -/
theorem counted_of_recUid {r : Rec} {uid : Nat} (h : recUid r = uid) (hmin : MIN_UID ≤ uid)
    (hmax : uid ≤ MAX_UID) : counted r.ent ∧ r.ent.uid = uid := by
  unfold recUid at h
  split at h
  · exact ⟨⟨h ▸ hmin, h ▸ hmax, ‹_›⟩, h⟩
  · rw [← h] at hmin
    exact absurd hmin (by decide)

/-- A counted entry of a uid that is placed lies where `uid_map` says, and it is the
    only one of its uid. -/
theorem Placed.ent_placed {uid i j : Nat} (hp : Placed pages t uid) (hi : i ∈ dataBlocks)
    (hl : live (t.blockInfoTbl i)) (hj : j < (t.blockInfoTbl i).partOccupancy)
    (hc : counted (uidTbl (pages i) j)) (hu : (uidTbl (pages i) j).uid = uid) :
    t.uidMap uid = i ∧
      ∀ j' < (t.blockInfoTbl i).partOccupancy, counted (uidTbl (pages i) j') →
        (uidTbl (pages i) j').uid = uid → j' = j := by
  have hmem : recAt (pages i) (t.blockInfoTbl i) j ∈ liveRecs pages t.blockInfoTbl i :=
    mem_liveRecs.mpr ⟨hi, hl, j, hj, rfl⟩
  have huid : recUid (recAt (pages i) (t.blockInfoTbl i) j) = uid :=
    (recUid_of_counted hc).trans hu
  have hkey : recAt (pages i) (t.blockInfoTbl i) j ∈
      withKey recUid uid (liveRecs pages t.blockInfoTbl i) := by
    simp only [withKey, List.mem_filter, decide_eq_true_eq]
    exact ⟨hmem, huid⟩
  rcases hp with ⟨-, habs⟩ | ⟨-, r, hr⟩
  · rw [habs i] at hkey
    cases hkey
  · by_cases hmap : i = t.uidMap uid
    · refine ⟨hmap.symm, ?_⟩
      intro j' hj' hc' huid'
      have hone := hr i
      rw [if_pos hmap, liveRecs_of_live hi hl] at hone
      exact index_unique_of_withKey hone hj' ((recUid_of_counted hc').trans huid') hj huid
    · rw [hr i, if_neg hmap] at hkey
      cases hkey

section Rescan

variable (hok : DbOk P pages t)

include hok

/-- A counted entry lies where `uid_map` says, and it is the only one of its uid. -/
theorem DbOk.ent_placed {i j : Nat} (hi : i ∈ dataBlocks) (hl : live (t.blockInfoTbl i))
    (hj : j < (t.blockInfoTbl i).partOccupancy) (hc : counted (uidTbl (pages i) j)) :
    t.uidMap (uidTbl (pages i) j).uid = i ∧
      ∀ j' < (t.blockInfoTbl i).partOccupancy, counted (uidTbl (pages i) j') →
        (uidTbl (pages i) j').uid = (uidTbl (pages i) j).uid → j' = j :=
  (hok.placed _ hc.1 hc.2.1).ent_placed hi hl hj hc rfl

theorem DbOk.scanInfos_eq {i : Nat} (hi : i ∈ dataBlocks) :
    scanInfos P pages t.blockInfoTbl i = normal (t.blockInfoTbl i) := (hok.block i hi).scan

theorem DbOk.uniqueFirst : UniqueFirst pages (scanInfos P pages t.blockInfoTbl) := by
  intro i hi i' hi' hl hl' j hj j' hj' hc hc' heq
  rw [hok.scanInfos_eq P hi] at hl hj
  rw [hok.scanInfos_eq P hi'] at hl' hj'
  rw [live_normal] at hl hl'
  rw [normal_of_live hl] at hj
  rw [normal_of_live hl'] at hj'
  obtain ⟨hmap, -⟩ := hok.ent_placed P hi hl hj hc
  obtain ⟨hmap', huniq⟩ := hok.ent_placed P hi' hl' hj' hc'
  rw [heq] at hmap
  have hii : i = i' := hmap.symm.trans hmap'
  subst hii
  exact ⟨rfl, huniq j hj hc heq⟩

/-- **A fresh scan of a store in order finds its tables again**, up to the geometry
    of free blocks, and repairs nothing. -/
theorem DbOk.rescan (scratch : Scratch) :
    (scanPages P pages t scratch).repair = none ∧
      (scanPages P pages t scratch).tables.uidMap = t.uidMap ∧
      ∀ i, (scanPages P pages t scratch).tables.blockInfoTbl i =
        if i ∈ dataBlocks then normal (t.blockInfoTbl i) else t.blockInfoTbl i := by
  obtain ⟨h₁, h₂, h₃, h₄⟩ := scanPages_spec P (hok.uniqueFirst P) scratch
  refine ⟨h₁, ?_, ?_⟩
  · funext u
    by_cases hu : ∃ i ∈ dataBlocks, hasFirst (pages i) (scanInfos P pages t.blockInfoTbl i) u
    · obtain ⟨i, hi, hfirst⟩ := hu
      rw [h₄ u i hi hfirst]
      obtain ⟨hl, j, hj, hc, rfl⟩ := hfirst
      rw [hok.scanInfos_eq P hi] at hl hj
      rw [live_normal] at hl
      rw [normal_of_live hl] at hj
      exact (hok.ent_placed P hi hl hj hc).1.symm
    · rw [h₃ u fun i hi h => hu ⟨i, hi, h⟩]
      split
      · rename_i hrange
        rcases hok.placed u hrange.1 hrange.2 with ⟨hmap, -⟩ | ⟨hmap, r, hr⟩
        · exact hmap.symm
        · exfalso
          obtain ⟨hmem, hkey⟩ := hr.mem
          obtain ⟨hi, hl, j, hj, rfl⟩ := mem_liveRecs.mp hmem
          obtain ⟨hc, huid⟩ := counted_of_recUid hkey hrange.1 hrange.2
          refine hu ⟨_, hmap, ?_, j, ?_, hc, huid⟩
          · rw [hok.scanInfos_eq P hmap, live_normal]
            exact hl
          · rw [hok.scanInfos_eq P hmap, normal_of_live hl]
            exact hj
      · rfl
  · intro i
    rw [h₂]
    split
    · rename_i hi
      exact hok.scanInfos_eq P hi
    · rfl

end Rescan

/-! ### Consistent stores -/

theorem crcCheck_partSize {page : Mem} (h : blockCrcCheck P page = true) :
    headerPartSize page ≠ INVALID_PART_SIZE := by
  intro hinv
  unfold blockCrcCheck at h
  rw [if_pos hinv] at h
  cases h

/-- The scan calls a block live when its checksum is right. -/
theorem live_scanInfo (page : Mem) (old : BlockInfo) :
    live (scanInfo P page old) ↔ blockCrcCheck P page = true := by
  unfold scanInfo live
  by_cases hcrc : blockCrcCheck P page = true
  · have hne := crcCheck_partSize P hcrc
    simp [hcrc, hne]
  · by_cases hinv : headerPartSize page = INVALID_PART_SIZE
    · simp [hcrc, hinv]
    · simp [hcrc, hinv]

/-- The block info of a block with the right checksum. -/
theorem scanInfo_of_crcCheck {page : Mem} (h : blockCrcCheck P page = true) (old : BlockInfo) :
    scanInfo P page old =
      { valid := 1
        occupied := 1
        partCount := getPartCount (headerPartSize page) % 256
        partOccupancy := headerOccupancy page % 256
        partSize := headerPartSize page
        partTblOffs := getBlockHeaderSize (getPartCount (headerPartSize page) % 256) % 65536 } := by
  have hne := crcCheck_partSize P h
  simp [scanInfo, h, hne]

/-- The scan finds the geometry of a live block whatever it had before. -/
theorem BlockOk.scanInfo_of_live {page : Mem} {info : BlockInfo} (hb : BlockOk P page info)
    (hl : live info) (old : BlockInfo) : scanInfo P page old = info := by
  have hscan := hb.scan
  rw [normal_of_live hl] at hscan
  have hcrc := hl
  rw [← hscan, live_scanInfo] at hcrc
  rw [scanInfo_of_crcCheck P hcrc old, ← scanInfo_of_crcCheck P hcrc info, hscan]

/-- The scan calls the live blocks live. -/
theorem BlockOk.live_iff {page : Mem} {info : BlockInfo} (hb : BlockOk P page info)
    (old : BlockInfo) : live (scanInfo P page old) ↔ live info := by
  rw [live_scanInfo, ← live_scanInfo P page info, hb.scan, live_normal]

/-- The scan finds the records of blocks that are in order. -/
theorem liveRecs_scanInfos (hblock : ∀ i ∈ dataBlocks, BlockOk P (pages i) (infos i))
    (old : Nat → BlockInfo) : liveRecs pages (scanInfos P pages old) = liveRecs pages infos := by
  funext i
  unfold liveRecs scanInfos
  by_cases hi : i ∈ dataBlocks
  · by_cases hl : live (infos i)
    · rw [(hblock i hi).scanInfo_of_live P hl]
    · rw [if_neg fun h => hl (((hblock i hi).live_iff P _).mp h.2), if_neg fun h => hl h.2]
  · rw [if_neg fun h => hi h.1, if_neg fun h => hi h.1]

/-- Every valid, occupied block has a partition size of the list and at most as
    many records as partitions, and no uid has two first entries. -/
structure Consistent (pages : Nat → Mem) : Prop where
  partSize : ∀ i ∈ dataBlocks, blockCrcCheck P (pages i) = true →
    headerPartSize (pages i) ∈ partSizes
  occupancy : ∀ i ∈ dataBlocks, blockCrcCheck P (pages i) = true →
    headerOccupancy (pages i) ≤ getPartCount (headerPartSize (pages i))
  first : ∀ i ∈ dataBlocks, ∀ i' ∈ dataBlocks, blockCrcCheck P (pages i) = true →
    blockCrcCheck P (pages i') = true → ∀ j < headerOccupancy (pages i),
    ∀ j' < headerOccupancy (pages i'), counted (uidTbl (pages i) j) →
    counted (uidTbl (pages i') j') → (uidTbl (pages i) j).uid = (uidTbl (pages i') j').uid →
    i = i' ∧ j = j'

theorem getPartCount_lt : ∀ p ∈ partSizes, getPartCount p < 256 ∧ p < 65536 := by decide

theorem getBlockHeaderSize_lt {n : Nat} (h : n < 256) : getBlockHeaderSize n < 65536 := by
  unfold getBlockHeaderSize subBlkCount blockHeaderSize uidEntSize
  simp only [SUB_BLK_SIZE, AES_BLK_SIZE]
  omega

/-- The geometry of a size class is a layout. -/
theorem SizeClass.layout {info : BlockInfo} (h : SizeClass info) : Layout BLK_SIZE info := by
  obtain ⟨hlt, -⟩ := getPartCount_lt _ h.partSize
  exact layout_partCountIn (by decide) h.partCount h.partTblOffs (h.partCount ▸ hlt)

/-- A live block of the scan has the geometry of its size class. -/
theorem sizeClass_scanInfo {page : Mem} (h : blockCrcCheck P page = true)
    (hsize : headerPartSize page ∈ partSizes) (old : BlockInfo) :
    SizeClass (scanInfo P page old) := by
  obtain ⟨hlt, -⟩ := getPartCount_lt _ hsize
  have hmod : getPartCount (headerPartSize page) % 256 = getPartCount (headerPartSize page) :=
    Nat.mod_eq_of_lt hlt
  rw [scanInfo_of_crcCheck P h, hmod, Nat.mod_eq_of_lt (getBlockHeaderSize_lt hlt)]
  exact ⟨hsize, rfl, rfl⟩

/-- The scan's block info of a block of a consistent store. -/
theorem blockOk_scanInfo (hc : Consistent P pages) {i : Nat} (hi : i ∈ dataBlocks)
    (old : BlockInfo) : BlockOk P (pages i) (scanInfo P (pages i) old) := by
  have hsize : live (scanInfo P (pages i) old) → SizeClass (scanInfo P (pages i) old) := by
    intro hl
    rw [live_scanInfo] at hl
    exact sizeClass_scanInfo P hl (hc.partSize i hi hl) old
  refine ⟨?_, hsize, ?_⟩
  · by_cases hcrc : blockCrcCheck P (pages i) = true
    · rw [normal_of_live ((live_scanInfo P _ _).mpr hcrc), scanInfo_of_crcCheck P hcrc,
        scanInfo_of_crcCheck P hcrc]
    · by_cases hinv : headerPartSize (pages i) = INVALID_PART_SIZE
      · simp [scanInfo, normal, hcrc, hinv]
      · simp [scanInfo, normal, hcrc, hinv]
  · intro hl
    have hclass := hsize hl
    have hcrc := (live_scanInfo P _ _).mp hl
    have hocc := hc.occupancy i hi hcrc
    obtain ⟨hlt, -⟩ := getPartCount_lt _ (hc.partSize i hi hcrc)
    refine ⟨hclass.layout, ?_, ?_, ?_, rfl⟩
    · rw [scanInfo_of_crcCheck P hcrc]
    · rw [scanInfo_of_crcCheck P hcrc]
      exact (Nat.mod_eq_of_lt (by omega)).symm
    · rw [scanInfo_of_crcCheck P hcrc]
      simp only
      rw [Nat.mod_eq_of_lt (show headerOccupancy (pages i) < 256 by omega), Nat.mod_eq_of_lt hlt]
      exact hocc

theorem headerOccupancy_of_scanInfo (hc : Consistent P pages) {i : Nat} (hi : i ∈ dataBlocks)
    {old : BlockInfo} (hl : live (scanInfo P (pages i) old)) :
    (scanInfo P (pages i) old).partOccupancy = headerOccupancy (pages i) :=
  ((blockOk_scanInfo P hc hi old).filled hl).occupancy.symm

/-- **The tables of a scan describe a consistent store.** -/
theorem dbOk_scan (hc : Consistent P pages) (t : Tables) (scratch : Scratch) :
    (scanPages P pages t scratch).repair = none ∧
      DbOk P pages (scanPages P pages t scratch).tables := by
  have hlive : ∀ i, live (scanInfos P pages t.blockInfoTbl i) → blockCrcCheck P (pages i) = true :=
    fun i => (live_scanInfo P _ _).mp
  have hocc : ∀ i ∈ dataBlocks, live (scanInfos P pages t.blockInfoTbl i) →
      (scanInfos P pages t.blockInfoTbl i).partOccupancy = headerOccupancy (pages i) :=
    fun i hi hl => headerOccupancy_of_scanInfo P hc hi hl
  have huniq : UniqueFirst pages (scanInfos P pages t.blockInfoTbl) := by
    intro i hi i' hi' hl hl' j hj j' hj' hcnt hcnt' heq
    rw [hocc i hi hl] at hj
    rw [hocc i' hi' hl'] at hj'
    exact hc.first i hi i' hi' (hlive i hl) (hlive i' hl') j hj j' hj' hcnt hcnt' heq
  obtain ⟨h₁, h₂, h₃, h₄⟩ := scanPages_spec P huniq scratch
  generalize (scanPages P pages t scratch).tables = t' at h₂ h₃ h₄
  have hinfo : ∀ i ∈ dataBlocks, t'.blockInfoTbl i = scanInfos P pages t.blockInfoTbl i := by
    intro i hi
    rw [h₂, if_pos hi]
  -- a record under a proper uid is a first entry of that uid
  have hfirst : ∀ uid, MIN_UID ≤ uid → uid ≤ MAX_UID → ∀ i,
      withKey recUid uid (liveRecs pages t'.blockInfoTbl i) ≠ [] →
        i ∈ dataBlocks ∧ hasFirst (pages i) (scanInfos P pages t.blockInfoTbl i) uid := by
    intro uid hmin hmax i hne
    obtain ⟨r, hr⟩ := List.exists_mem_of_ne_nil _ hne
    simp only [withKey, List.mem_filter, decide_eq_true_eq] at hr
    obtain ⟨hi, hl, j, hj, rfl⟩ := mem_liveRecs.mp hr.1
    rw [hinfo i hi] at hl hj
    obtain ⟨hcnt, huid⟩ := counted_of_recUid hr.2 hmin hmax
    exact ⟨hi, hl, j, hj, hcnt, huid⟩
  refine ⟨h₁, ?_, ?_⟩
  · intro i hi
    rw [hinfo i hi]
    exact blockOk_scanInfo P hc hi _
  · intro uid hmin hmax
    by_cases hu : ∃ i ∈ dataBlocks, hasFirst (pages i) (scanInfos P pages t.blockInfoTbl i) uid
    · right
      obtain ⟨i, hi, hex⟩ := hu
      rw [h₄ uid i hi hex]
      obtain ⟨hl, j, hj, hcnt, hju⟩ := hex
      have hl' : live (t'.blockInfoTbl i) := by
        rw [hinfo i hi]
        exact hl
      have hkey : recUid (recAt (pages i) (t'.blockInfoTbl i) j) = uid :=
        (recUid_of_counted hcnt).trans hju
      refine ⟨hi, recAt (pages i) (t'.blockInfoTbl i) j, ?_⟩
      intro i'
      by_cases hii : i' = i
      · subst hii
        rw [if_pos rfl, liveRecs_of_live hi hl']
        refine withKey_eq_singleton ?_ hkey ?_
        · rw [hinfo _ hi]
          exact hj
        · intro j' hj' hkey'
          obtain ⟨hcnt', hju'⟩ := counted_of_recUid hkey' hmin hmax
          rw [hinfo _ hi] at hj'
          exact (huniq _ hi _ hi hl hl j' hj' j hj hcnt' hcnt (Eq.trans hju' hju.symm)).2
      · rw [if_neg hii]
        by_contra hne
        obtain ⟨hi', hl'', j', hj', hcnt', hju'⟩ := hfirst uid hmin hmax i' hne
        exact hii (huniq i' hi' i hi hl'' hl j' hj' j hj hcnt' hcnt (hju'.trans hju.symm)).1
    · left
      refine ⟨?_, ?_⟩
      · rw [h₃ uid fun i hi h => hu ⟨i, hi, h⟩, if_pos ⟨hmin, hmax⟩]
      · intro i
        by_contra hne
        exact hu ⟨i, hfirst uid hmin hmax i hne⟩

/-- **A store in order is consistent.** -/
theorem DbOk.consistent {t : Tables} (hok : DbOk P pages t) : Consistent P pages := by
  -- a valid, occupied block is a live one, and its info has its header's occupancy
  have hblock : ∀ i ∈ dataBlocks, blockCrcCheck P (pages i) = true →
      live (t.blockInfoTbl i) ∧ SizeClass (t.blockInfoTbl i) ∧
        Filled BLK_SIZE (pages i) (t.blockInfoTbl i) (recs (pages i) (t.blockInfoTbl i)) := by
    intro i hi hcrc
    have hb := hok.block i hi
    have hl : live (t.blockInfoTbl i) := by
      rw [← live_normal, ← hb.scan, live_scanInfo]
      exact hcrc
    exact ⟨hl, hb.size hl, hb.filled hl⟩
  refine ⟨?_, ?_, ?_⟩
  · intro i hi hcrc
    obtain ⟨-, hsize, hfill⟩ := hblock i hi hcrc
    rw [hfill.partSize]
    exact hsize.partSize
  · intro i hi hcrc
    obtain ⟨-, hsize, hfill⟩ := hblock i hi hcrc
    rw [hfill.partSize, hfill.occupancy, ← hsize.partCount]
    exact hfill.le
  · intro i hi i' hi' hcrc hcrc' j hj j' hj' hcnt hcnt' heq
    obtain ⟨hl, -, hfill⟩ := hblock i hi hcrc
    obtain ⟨hl', -, hfill'⟩ := hblock i' hi' hcrc'
    rw [hfill.occupancy] at hj
    rw [hfill'.occupancy] at hj'
    obtain ⟨hmap, -⟩ := hok.ent_placed P hi hl hj hcnt
    obtain ⟨hmap', huniq⟩ := hok.ent_placed P hi' hl' hj' hcnt'
    rw [heq] at hmap
    have hii : i = i' := hmap.symm.trans hmap'
    subst hii
    exact ⟨rfl, huniq j hj hcnt heq⟩

end SignetBase.Firmware
