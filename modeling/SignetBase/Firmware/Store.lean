/-
  SignetBase/Firmware/Store.lean
  ==============================
  **What an update makes of a store that is in order.**

  `update_uid` builds one new page and one new block info; which of five things
  it has done is its `Plan`.  Writing the page and the info, and for a record that
  changes its block the second page as well, leads to a store in order again in
  which the record has its new contents and all others their old ones.
-/
import SignetBase.Firmware.Scan

namespace SignetBase.Firmware

variable (P : Platform)

variable {pages pages' : Nat → Mem} {t : Tables} {page : Mem} {info : BlockInfo} {b uid : Nat}

/-! ### Pages with a checksum, free pages -/

/-- A page with its checksum. -/
def sealed (page : Mem) : Mem := setHeaderCrc page (blockCrc P page)

theorem blockCrc_sealed (page : Mem) : blockCrc P (sealed P page) = blockCrc P page := by
  have hword : (sealed P page).get32 4 = page.get32 4 :=
    Mem.get32_put32_disjoint _ _ (.inr (by omega))
  unfold blockCrc crc32
  simp only [Nat.mul_zero, Nat.add_zero, hword]

theorem headerPartSize_setHeaderCrc (page : Mem) (v : Nat) :
    headerPartSize (setHeaderCrc page v) = headerPartSize page :=
  Mem.get16_put32_disjoint _ _ (.inr (by omega))

theorem headerOccupancy_setHeaderCrc (page : Mem) (v : Nat) :
    headerOccupancy (setHeaderCrc page v) = headerOccupancy page :=
  Mem.get16_put32_disjoint _ _ (.inr (by omega))

theorem blockCrcCheck_sealed (h : headerPartSize page ≠ INVALID_PART_SIZE) :
    blockCrcCheck P (sealed P page) = true := by
  have hcrc : headerCrc (sealed P page) = blockCrc P page := by
    refine (Mem.get32_put32 _ _ _).trans (Nat.mod_eq_of_lt ?_)
    exact UInt32.toNat_lt _
  unfold blockCrcCheck
  rw [blockCrc_sealed, hcrc, if_neg]
  · simp
  · unfold sealed
    rw [headerPartSize_setHeaderCrc]
    exact h

theorem blockCrcCheck_congr {page' : Mem} (h : ∀ a < BLK_SIZE, page' a = page a) :
    blockCrcCheck P page' = blockCrcCheck P page := by
  have h₀ : headerCrc page' = headerCrc page :=
    Mem.get32_congr fun i _ => h _ (by simp only [BLK_SIZE]; omega)
  have h₄ : page'.get32 4 = page.get32 4 :=
    Mem.get32_congr fun i _ => h _ (by simp only [BLK_SIZE]; omega)
  have h₅ : headerPartSize page' = headerPartSize page :=
    Mem.get16_congr fun i _ => h _ (by simp only [BLK_SIZE]; omega)
  unfold blockCrcCheck blockCrc crc32
  simp only [Nat.mul_zero, Nat.add_zero, h₀, h₄, h₅]

theorem scanInfo_congr {page' : Mem} (h : ∀ a < BLK_SIZE, page' a = page a) (old : BlockInfo) :
    scanInfo P page' old = scanInfo P page old := by
  have h₅ : headerPartSize page' = headerPartSize page :=
    Mem.get16_congr fun i _ => h _ (by simp only [BLK_SIZE]; omega)
  have h₆ : headerOccupancy page' = headerOccupancy page :=
    Mem.get16_congr fun i _ => h _ (by simp only [BLK_SIZE]; omega)
  unfold scanInfo
  rw [blockCrcCheck_congr P h, h₅, h₆]

theorem BlockOk.congr {page' : Mem} (hb : BlockOk P page info)
    (h : ∀ a < BLK_SIZE, page' a = page a) : BlockOk P page' info := by
  refine ⟨?_, hb.size, ?_⟩
  · rw [scanInfo_congr P h]
    exact hb.scan
  · intro hl
    have hf := (hb.filled hl).congr h
    rw [hf.holds]
    exact hf

/-- A live block of a store in order carries both flags as the scan sets them. -/
theorem BlockOk.flags (hb : BlockOk P page info) (hl : live info) :
    info.valid = 1 ∧ info.occupied = 1 := by
  have hscan := hb.scan
  rw [normal_of_live hl] at hscan
  have hl' := hl
  rw [← hscan, live_scanInfo] at hl'
  rw [← hscan, scanInfo_of_crcCheck P hl']
  exact ⟨rfl, rfl⟩

theorem not_invalid_of_size (h : SizeClass info) : info.partSize ≠ INVALID_PART_SIZE := by
  obtain ⟨-, hlt⟩ := getPartCount_lt _ h.partSize
  have hall : ∀ p ∈ partSizes, p ≠ INVALID_PART_SIZE := by decide
  exact hall _ h.partSize

/-- A block that was built and sealed is in order. -/
theorem blockOk_sealed {rs : List Rec} (hf : Filled BLK_SIZE page info rs) (hs : SizeClass info)
    (hv : info.valid = 1) (ho : info.occupied = 1) :
    BlockOk P (sealed P page) info ∧ recs (sealed P page) info = rs := by
  have hf' := hf.setHeaderCrc (blockCrc P page)
  have hl : live info := ⟨by omega, by omega⟩
  have hne : headerPartSize page ≠ INVALID_PART_SIZE := by
    rw [hf.partSize]
    exact not_invalid_of_size hs
  have hlt := (getPartCount_lt _ hs.partSize).1
  refine ⟨⟨?_, fun _ => hs, fun _ => ?_⟩, hf'.holds⟩
  · have hpart : headerPartSize (sealed P page) = info.partSize := hf'.partSize
    have hocc : headerOccupancy (sealed P page) = info.partOccupancy := hf'.occupancy
    have hcount := hs.partCount
    have hle := hf.le
    rw [scanInfo_of_crcCheck P (blockCrcCheck_sealed P hne), normal_of_live hl, hpart, hocc,
      Nat.mod_eq_of_lt hlt, Nat.mod_eq_of_lt (getBlockHeaderSize_lt hlt), ← hcount,
      ← hs.partTblOffs, Nat.mod_eq_of_lt (show info.partOccupancy < 256 by omega)]
    obtain ⟨_, _, _, _, _, _⟩ := info
    simp only at hv ho
    rw [hv, ho]
  · have hh := hf'.holds
    unfold sealed
    rw [hh]
    exact hf'

/-- A block that was freed is in order, and not live. -/
theorem blockOk_freed (h : headerPartSize page = INVALID_PART_SIZE) :
    BlockOk P page { info with valid := 1, occupied := 0 } := by
  have hnl : ¬ live { info with valid := 1, occupied := 0 } := fun hl => hl.2 rfl
  have hcrc : blockCrcCheck P page = false := by
    unfold blockCrcCheck
    rw [if_pos h]
  refine ⟨?_, fun hl => absurd hl hnl, fun hl => absurd hl hnl⟩
  unfold scanInfo normal
  simp [h, hcrc]

/-! ### Writing a page -/

/-- `pages'` is `pages` with `page` in block `b`. -/
def Wrote (pages : Nat → Mem) (b : Nat) (page : Mem) (pages' : Nat → Mem) : Prop :=
  ∀ i ∈ dataBlocks, ∀ a < BLK_SIZE, pages' i a = if i = b then page a else pages i a

/-- All is in order but for the place of the uid `uid`. -/
structure DbOkBut (uid : Nat) (pages : Nat → Mem) (t : Tables) : Prop where
  block : ∀ i ∈ dataBlocks, BlockOk P (pages i) (t.blockInfoTbl i)
  placed : ∀ u, u ≠ uid → MIN_UID ≤ u → u ≤ MAX_UID → Placed pages t u

theorem DbOk.but (hok : DbOk P pages t) (uid : Nat) : DbOkBut P uid pages t :=
  ⟨hok.block, fun u _ => hok.placed u⟩

theorem DbOkBut.ok (hok : DbOkBut P uid pages t) (hp : Placed pages t uid) : DbOk P pages t := by
  refine ⟨hok.block, ?_⟩
  intro u hmin hmax
  by_cases hu : u = uid
  · exact hu ▸ hp
  · exact hok.placed u hu hmin hmax

/-- The records after a page and its info were written. -/
theorem liveRecs_wrote (hblock : ∀ i ∈ dataBlocks, BlockOk P (pages i) (t.blockInfoTbl i))
    (hw : Wrote pages b page pages') (hb : b ∈ dataBlocks) (hok : BlockOk P page info) :
    liveRecs pages' (t.setInfo b info).blockInfoTbl =
      Function.update (liveRecs pages t.blockInfoTbl) b
        (if live info then recs page info else []) := by
  funext i
  by_cases hib : i = b
  · subst hib
    have hinfo : (t.setInfo i info).blockInfoTbl i = info := if_pos rfl
    rw [Function.update_self]
    unfold liveRecs
    rw [hinfo]
    by_cases hl : live info
    · rw [if_pos ⟨hb, hl⟩, if_pos hl]
      refine ((hok.filled hl).congr fun a ha => ?_).holds
      rw [hw i hb a ha, if_pos rfl]
    · rw [if_neg fun h => hl h.2, if_neg hl]
  · have hinfo : (t.setInfo b info).blockInfoTbl i = t.blockInfoTbl i := if_neg hib
    rw [Function.update_of_ne hib]
    unfold liveRecs
    rw [hinfo]
    split
    · rename_i hil
      refine (((hblock i hil.1).filled hil.2).congr fun a ha => ?_).holds
      rw [hw i hil.1 a ha, if_neg hib]
    · rfl

/-- A uid whose records are the same stays placed. -/
theorem Placed.of_same {t' : Tables} {u : Nat} (hp : Placed pages t u)
    (hmap : t'.uidMap u = t.uidMap u)
    (hs : SameRecords recUid u (liveRecs pages t.blockInfoTbl) (liveRecs pages' t'.blockInfoTbl)) :
    Placed pages' t' u := by
  unfold Placed
  rw [hmap]
  rcases hp with ⟨hinv, habs⟩ | ⟨hmem, r, hr⟩
  · exact .inl ⟨hinv, habs.of_same hs⟩
  · exact .inr ⟨hmem, r, hr.of_same hs⟩

/-- A write in one block that leaves the records of all other uids as they are. -/
theorem DbOkBut.wrote (hok : DbOkBut P uid pages t) (hw : Wrote pages b page pages')
    (hb : b ∈ dataBlocks) (hblk : BlockOk P page info) {rs : List Rec}
    (hrs : (if live info then recs page info else []) = rs)
    (hother : ∀ u, u ≠ uid → MIN_UID ≤ u →
      (withKey recUid u rs).Perm (withKey recUid u (liveRecs pages t.blockInfoTbl b))) :
    DbOkBut P uid pages' (t.setInfo b info) ∧
      liveRecs pages' (t.setInfo b info).blockInfoTbl =
        Function.update (liveRecs pages t.blockInfoTbl) b rs ∧
      ∀ u, u ≠ uid → MIN_UID ≤ u → SameRecords recUid u (liveRecs pages t.blockInfoTbl)
        (liveRecs pages' (t.setInfo b info).blockInfoTbl) := by
  have hlive := liveRecs_wrote P hok.block hw hb hblk
  rw [hrs] at hlive
  have hsame : ∀ u, u ≠ uid → MIN_UID ≤ u → SameRecords recUid u (liveRecs pages t.blockInfoTbl)
      (liveRecs pages' (t.setInfo b info).blockInfoTbl) := by
    intro u hu hmin
    rw [hlive]
    exact sameRecords_update (hother u hu hmin)
  refine ⟨⟨?_, ?_⟩, hlive, hsame⟩
  · intro i hi
    by_cases hib : i = b
    · subst hib
      rw [show (t.setInfo i info).blockInfoTbl i = info from if_pos rfl]
      refine hblk.congr P fun a ha => ?_
      rw [hw i hi a ha, if_pos rfl]
    · rw [show (t.setInfo b info).blockInfoTbl i = t.blockInfoTbl i from if_neg hib]
      refine (hok.block i hi).congr P fun a ha => ?_
      rw [hw i hi a ha, if_neg hib]
  · intro u hu hmin hmax
    exact (hok.placed u hu hmin hmax).of_same rfl (hsame u hu hmin)

/-- `uid_map` of the uid that is being updated may be set freely. -/
theorem DbOkBut.setUid (hok : DbOkBut P uid pages t) (c : Nat) :
    DbOkBut P uid pages (t.setUid uid c) := by
  refine ⟨hok.block, ?_⟩
  intro u hu hmin hmax
  have hmap : (t.setUid uid c).uidMap u = t.uidMap u := if_neg hu
  unfold Placed
  rw [hmap]
  exact hok.placed u hu hmin hmax

end SignetBase.Firmware
