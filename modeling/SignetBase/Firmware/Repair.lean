/-
  SignetBase/Firmware/Repair.lean
  ===============================
  **What the startup scan does about a uid with two first entries.**

  The scan goes through the blocks as if nothing was wrong until it meets the second
  of the two entries (`SecondCopy`).  It then decides by the revision numbers which
  block to drop the uid from, builds that block's new page, and stops
  (`scanPages_second`).
-/
import SignetBase.Firmware.UpdatePlan

namespace SignetBase.Firmware

variable (P : Platform)

variable {pages : Nat → Mem}

/-! ### Scans in two parts -/

theorem scanEnts_append {i : Nat} (js ks : List Nat) (r : Scan) (hrep : r.repair = none)
    (hnone : (scanEnts P pages i js r).repair = none) :
    scanEnts P pages i (js ++ ks) r = scanEnts P pages i ks (scanEnts P pages i js r) := by
  induction js generalizing r with
  | nil => rfl
  | cons j js ih =>
    unfold scanEnts at hnone
    rw [List.cons_append]
    conv_lhs => unfold scanEnts
    conv_rhs => rw [scanEnts]
    simp only at hnone ⊢
    split
    · rename_i hc
      rw [if_pos hc] at hnone
      split
      · rename_i hsecond
        rw [if_pos hsecond] at hnone
        cases hnone
      · rename_i hfirst
        rw [if_neg hfirst] at hnone
        exact ih _ hrep hnone
    · rename_i hc
      rw [if_neg hc] at hnone
      exact ih _ hrep hnone

theorem scanBlocks_append (is ks : List Nat) (r : Scan) (hrep : r.repair = none)
    (hnone : (scanBlocks P pages is r).repair = none) :
    scanBlocks P pages (is ++ ks) r = scanBlocks P pages ks (scanBlocks P pages is r) := by
  induction is generalizing r with
  | nil => rfl
  | cons i is ih =>
    unfold scanBlocks at hnone
    rw [List.cons_append]
    conv_lhs => unfold scanBlocks
    conv_rhs => rw [scanBlocks]
    simp only at hnone ⊢
    split
    · rename_i hl
      rw [if_pos hl] at hnone
      split
      · rename_i hsome
        rw [if_pos hsome] at hnone
        rw [hnone] at hsome
        cases hsome
      · rename_i hno
        rw [if_neg hno] at hnone
        exact ih _ (by simpa using hno) hnone
    · rename_i hl
      rw [if_neg hl] at hnone
      exact ih _ hrep hnone

/-- The scan has no use for its scratch but for a repair. -/
theorem scratch_scanEnts {i : Nat} (js : List Nat) (r : Scan)
    (hnone : (scanEnts P pages i js r).repair = none) :
    (scanEnts P pages i js r).scratch = r.scratch := by
  induction js generalizing r with
  | nil => rfl
  | cons j js ih =>
    unfold scanEnts at hnone ⊢
    simp only at hnone ⊢
    split
    · rename_i hc
      rw [if_pos hc] at hnone
      split
      · rename_i hsecond
        rw [if_pos hsecond] at hnone
        cases hnone
      · rename_i hfirst
        rw [if_neg hfirst] at hnone
        exact ih _ hnone
    · rename_i hc
      rw [if_neg hc] at hnone
      exact ih _ hnone

theorem scratch_scanBlocks (is : List Nat) (r : Scan)
    (hnone : (scanBlocks P pages is r).repair = none) :
    (scanBlocks P pages is r).scratch = r.scratch := by
  induction is generalizing r with
  | nil => rfl
  | cons i is ih =>
    unfold scanBlocks at hnone ⊢
    simp only at hnone ⊢
    split
    · rename_i hl
      rw [if_pos hl] at hnone
      split
      · rename_i hsome
        rw [if_pos hsome] at hnone
        rw [hnone] at hsome
        cases hsome
      · rename_i hno
        rw [if_neg hno] at hnone
        exact (ih _ hnone).trans (scratch_scanEnts P _ _ (by simpa using hno))
    · rename_i hl
      rw [if_neg hl] at hnone
      exact ih _ hnone

/-! ### The second entry of a uid -/

/-- The uid has two first entries, `j₁` of block `i₁` and behind it `j₂` of block `i₂`,
    and no other uid has two. -/
structure SecondCopy (pages : Nat → Mem) (infos : Nat → BlockInfo) (uid i₁ j₁ i₂ j₂ : Nat) :
    Prop where
  mem₁ : i₁ ∈ dataBlocks
  mem₂ : i₂ ∈ dataBlocks
  live₁ : live (infos i₁)
  live₂ : live (infos i₂)
  lt₁ : j₁ < (infos i₁).partOccupancy
  lt₂ : j₂ < (infos i₂).partOccupancy
  counted₁ : counted (uidTbl (pages i₁) j₁)
  counted₂ : counted (uidTbl (pages i₂) j₂)
  uid₁ : (uidTbl (pages i₁) j₁).uid = uid
  uid₂ : (uidTbl (pages i₂) j₂).uid = uid
  behind : i₁ < i₂ ∨ i₁ = i₂ ∧ j₁ < j₂
  unique : ∀ i ∈ dataBlocks, ∀ i' ∈ dataBlocks, live (infos i) → live (infos i') →
    ∀ j < (infos i).partOccupancy, ∀ j' < (infos i').partOccupancy,
      counted (uidTbl (pages i) j) → counted (uidTbl (pages i') j') →
      (uidTbl (pages i) j).uid = (uidTbl (pages i') j').uid →
      i = i' ∧ j = j' ∨ i = i₁ ∧ j = j₁ ∧ i' = i₂ ∧ j' = j₂ ∨ i = i₂ ∧ j = j₂ ∧ i' = i₁ ∧ j' = j₁

/-- The scratch of a repair as it is written: a block with records gets its
    checksum. -/
def repaired (res : Nat × Scratch) : Scratch :=
  if res.1 ≠ INVALID_BLOCK ∧ res.2.blkInfo.occupied ≠ 0 then
    { res.2 with block := setHeaderCrc res.2.block (blockCrc P res.2.block) }
  else res.2

theorem repaired_block (res : Nat × Scratch) (h : res.1 ≠ INVALID_BLOCK) :
    (repaired P res).block = written P res.2 := by
  unfold repaired written sealed
  by_cases ho : res.2.blkInfo.occupied ≠ 0
  · rw [if_pos ⟨h, ho⟩, if_pos ho]
  · rw [if_neg fun hc => ho hc.2, if_neg ho]

/-- The revision number of the entry `find_uid` finds. -/
def foundRev (pages : Nat → Mem) (t : Tables) (uid : Nat) : Nat :=
  match findUid pages t uid with
  | (b, some k) => (uidTbl (pages b) k).rev
  | (_, none) => 0

/-- `uid_map` when the scan has met the second entry: the older of the two is to be
    dropped. -/
def dropFrom (pages : Nat → Mem) (t : Tables) (uid i₁ i₂ j₂ : Nat) : Nat :=
  if ((uidTbl (pages i₂) j₂).rev + 1) % 4 = foundRev pages t uid then i₂ else i₁

/-- The scan has come to the block of the second entry. -/
structure BeforeSecond (pages : Nat → Mem) (infos : Nat → BlockInfo) (uid i₁ i₂ j₂ : Nat)
    (scratch : Scratch) (r : Scan) : Prop where
  repair : r.repair = none
  scratch : r.scratch = scratch
  info : i₁ < i₂ → r.tables.blockInfoTbl i₁ = infos i₁
  map : i₁ < i₂ → r.tables.uidMap uid = i₁
  fresh : ∀ j < j₂, counted (uidTbl (pages i₂) j) →
    r.tables.uidMap (uidTbl (pages i₂) j).uid = INVALID_BLOCK

/-- The blocks in front of the second entry hold every uid at most once. -/
theorem scanPages_before {t : Tables} {uid i₁ j₁ i₂ j₂ : Nat}
    (hc : SecondCopy pages (scanInfos P pages t.blockInfoTbl) uid i₁ j₁ i₂ j₂) (scratch : Scratch) :
    ∃ post r, scanPages P pages t scratch = scanBlocks P pages (i₂ :: post) r ∧
      r.tables.blockInfoTbl i₂ = t.blockInfoTbl i₂ ∧
      BeforeSecond pages (scanInfos P pages t.blockInfoTbl) uid i₁ i₂ j₂ scratch r := by
  have hsort : dataBlocks.Pairwise (· < ·) := List.pairwise_lt_range' 1
  obtain ⟨pre, post, hsplit⟩ := List.append_of_mem hc.mem₂
  rw [hsplit, List.pairwise_append, List.pairwise_cons] at hsort
  obtain ⟨-, ⟨hpost, -⟩, hpre⟩ := hsort
  have hprelt : ∀ a ∈ pre, a < i₂ := fun a ha => hpre a ha i₂ List.mem_cons_self
  have hnotpre : i₂ ∉ pre := fun h => Nat.lt_irrefl _ (hprelt _ h)
  have hpremem : ∀ a ∈ pre, a ∈ dataBlocks := fun a ha => by
    rw [hsplit]
    exact List.mem_append_left _ ha
  have hmem₁ : i₁ < i₂ → i₁ ∈ pre := by
    intro hlt
    have hin := hc.mem₁
    rw [hsplit, List.mem_append, List.mem_cons] at hin
    rcases hin with h | rfl | h
    · exact h
    · exact absurd hlt (Nat.lt_irrefl _)
    · exact absurd (hpost _ h) (by omega)
  have hprenodup : pre.Nodup := by
    have hnodup := nodup_dataBlocks
    rw [hsplit, List.nodup_append] at hnodup
    exact hnodup.1
  generalize hinfos : scanInfos P pages t.blockInfoTbl = infos at hc
  generalize hr₀ : (Scan.mk { t with
    uidMap := fun u => if MIN_UID ≤ u ∧ u ≤ MAX_UID then INVALID_BLOCK else t.uidMap u }
      scratch none) = r₀
  have hscan : scanPages P pages t scratch = scanBlocks P pages (pre ++ i₂ :: post) r₀ := by
    unfold scanPages
    rw [hsplit, hr₀]
  have hrep₀ : r₀.repair = none := by rw [← hr₀]
  have hscratch₀ : r₀.scratch = scratch := by rw [← hr₀]
  have hmap₀ : ∀ u, MIN_UID ≤ u → u ≤ MAX_UID → r₀.tables.uidMap u = INVALID_BLOCK := by
    intro u hmin hmax
    rw [← hr₀]
    exact if_pos ⟨hmin, hmax⟩
  have hold₀ : r₀.tables.blockInfoTbl = t.blockInfoTbl := by rw [← hr₀]
  have huniq : UniqueFirstIn pre pages (scanInfos P pages t.blockInfoTbl) := by
    rw [hinfos]
    intro i hi i' hi' hl hl' j hj j' hj' hcnt hcnt' heq
    rcases hc.unique i (hpremem i hi) i' (hpremem i' hi') hl hl' j hj j' hj' hcnt hcnt' heq with
      h | ⟨-, -, rfl, -⟩ | ⟨rfl, -⟩
    · exact h
    · exact absurd hi' hnotpre
    · exact absurd hi hnotpre
  obtain ⟨e₁, e₂, e₃, e₄⟩ := scanBlocks_spec P pre r₀ huniq hpremem hprenodup hrep₀
    (fun i _ => by rw [hold₀])
    (fun i _ u hu => by
      obtain ⟨-, j, -, hcnt, rfl⟩ := hu
      exact hmap₀ _ hcnt.1 hcnt.2.1)
  have hscratch₁ := (scratch_scanBlocks P pre r₀ e₁).trans hscratch₀
  refine ⟨post, scanBlocks P pages pre r₀, ?_, ?_, e₁, hscratch₁, ?_, ?_, ?_⟩
  · rw [hscan]
    exact scanBlocks_append P _ _ _ hrep₀ e₁
  · rw [e₂, if_neg hnotpre, hold₀]
  · intro hlt
    rw [e₂, if_pos (hmem₁ hlt), hinfos]
  · intro hlt
    refine e₄ uid i₁ (hmem₁ hlt) ?_
    rw [hinfos]
    exact ⟨hc.live₁, j₁, hc.lt₁, hc.counted₁, hc.uid₁⟩
  · intro j hj hcnt
    rw [e₃, hmap₀ _ hcnt.1 hcnt.2.1]
    rintro i hi ⟨hl, j', hj', hcnt', heq⟩
    rw [hinfos] at hl hj'
    rcases hc.unique i (hpremem i hi) i₂ hc.mem₂ hl hc.live₂ j' hj' j
      (Nat.lt_trans hj hc.lt₂) hcnt' hcnt heq with ⟨rfl, -⟩ | ⟨-, -, -, rfl⟩ | ⟨rfl, -⟩
    · exact hnotpre hi
    · exact Nat.lt_irrefl _ hj
    · exact hnotpre hi

/-- **The scan stops at the second entry** and drops the uid from one of the two
    blocks. -/
theorem scanPages_second {t : Tables} {uid i₁ j₁ i₂ j₂ : Nat}
    (hc : SecondCopy pages (scanInfos P pages t.blockInfoTbl) uid i₁ j₁ i₂ j₂) (scratch : Scratch) :
    ∃ t₁ t₂ : Tables, t₁.uidMap uid = i₁ ∧
      t₂.uidMap uid = dropFrom pages t₁ uid i₁ i₂ j₂ ∧
      (∀ k, k = i₁ ∨ k = i₂ → t₁.blockInfoTbl k = scanInfos P pages t.blockInfoTbl k ∧
        t₂.blockInfoTbl k = scanInfos P pages t.blockInfoTbl k) ∧
      (scanPages P pages t scratch).repair = some (deallocateUid pages t₂ uid true scratch).1 ∧
      (scanPages P pages t scratch).scratch =
        repaired P (deallocateUid pages t₂ uid true scratch) := by
  obtain ⟨post, r, hscan, hold, hb⟩ := scanPages_before P hc scratch
  have hinfo : scanInfo P (pages i₂) (r.tables.blockInfoTbl i₂) =
      scanInfos P pages t.blockInfoTbl i₂ := by
    rw [hold]
    rfl
  generalize scanInfos P pages t.blockInfoTbl = infos at hc hb hinfo ⊢
  rw [hscan]
  unfold scanBlocks
  simp only [hinfo]
  rw [if_pos ⟨hc.live₂.1, hc.live₂.2⟩]
  generalize hr₁ : ({ r with tables := r.tables.setInfo i₂ (infos i₂) } : Scan) = r₁
  have hrep₁ : r₁.repair = none := by
    rw [← hr₁]
    exact hb.repair
  have hinfo₁ : ∀ k, k = i₁ ∨ k = i₂ → r₁.tables.blockInfoTbl k = infos k := by
    intro k hk
    rw [← hr₁]
    by_cases hki : k = i₂
    · rw [hki]
      exact if_pos rfl
    · have hk₁ := hk.resolve_right hki
      subst hk₁
      have hlt : k < i₂ := by
        rcases hc.behind with h | ⟨h, -⟩
        · exact h
        · exact absurd h hki
      exact (if_neg hki).trans (hb.info hlt)
  have hmap₁ : r₁.tables.uidMap = r.tables.uidMap := by
    rw [← hr₁]
    rfl
  have hscr₁ : r₁.scratch = scratch := by
    rw [← hr₁]
    exact hb.scratch
  -- the entries in front of the second one
  obtain ⟨n, hn⟩ : ∃ n, (infos i₂).partOccupancy = j₂ + (n + 1) :=
    ⟨(infos i₂).partOccupancy - j₂ - 1, by have := hc.lt₂; omega⟩
  have hrange : List.range (infos i₂).partOccupancy =
      List.range j₂ ++ j₂ :: (List.range n).map (j₂ + · + 1) := by
    rw [hn, List.range_add, List.range_succ_eq_map, List.map_cons, List.map_map]
    rfl
  obtain ⟨f₁, f₂, f₃, f₄⟩ := scanEnts_spec P hc.mem₂ (List.range j₂) r₁
    (by
      intro j hj hcnt
      rw [hmap₁]
      exact hb.fresh j (List.mem_range.mp hj) hcnt)
    (by
      rw [List.pairwise_iff_getElem]
      intro a b ha hb' hab hca hcb heq
      simp only [List.getElem_range] at hca hcb heq
      simp only [List.length_range] at ha hb'
      have hlt := hc.lt₂
      rcases hc.unique i₂ hc.mem₂ i₂ hc.mem₂ hc.live₂ hc.live₂ a (by omega) b (by omega) hca hcb heq
        with ⟨-, h⟩ | ⟨-, -, -, h⟩ | ⟨-, h, -⟩
      · omega
      · omega
      · omega)
  have hscr₂ := scratch_scanEnts P (List.range j₂) r₁ (f₁.trans hrep₁)
  have happ := scanEnts_append P (List.range j₂) (j₂ :: (List.range n).map (j₂ + · + 1)) r₁ hrep₁
    (f₁.trans hrep₁)
  rw [← hrange] at happ
  rw [happ]
  generalize scanEnts P pages i₂ (List.range j₂) r₁ = r₂ at f₁ f₂ f₃ f₄ hscr₂ ⊢
  have hmap₂ : r₂.tables.uidMap uid = i₁ := by
    rcases hc.behind with hlt | ⟨rfl, hlt⟩
    · rw [f₃, hmap₁]
      · exact hb.map hlt
      · intro j hj hcnt heq
        have hj' := List.mem_range.mp hj
        have hlt₂ := hc.lt₂
        rcases hc.unique i₂ hc.mem₂ i₂ hc.mem₂ hc.live₂ hc.live₂ j (by omega) j₂ hc.lt₂ hcnt
          hc.counted₂ (heq.trans hc.uid₂.symm) with ⟨-, h⟩ | ⟨h, -⟩ | ⟨-, h, -⟩
        · omega
        · omega
        · omega
    · exact f₄ uid ⟨j₁, List.mem_range.mpr hlt, hc.counted₁, hc.uid₁⟩
  have hne : r₂.tables.uidMap uid ≠ INVALID_BLOCK := by
    rw [hmap₂]
    exact dataBlock_ne_invalid hc.mem₁
  have hscr : r₂.scratch = scratch := hscr₂.trans hscr₁
  have hcount : (uidTbl (pages i₂) j₂).uid ≥ MIN_UID ∧ (uidTbl (pages i₂) j₂).uid ≤ MAX_UID ∧
      (uidTbl (pages i₂) j₂).first ≠ 0 := ⟨hc.counted₂.1, hc.counted₂.2.1, hc.counted₂.2.2⟩
  unfold scanEnts
  simp only
  rw [if_pos hcount]
  simp only [hc.uid₂]
  rw [if_pos hne, hscr]
  simp only [Option.isSome_some, if_true]
  refine ⟨r₂.tables, if ((uidTbl (pages i₂) j₂).rev + 1) % 4 = foundRev pages r₂.tables uid then
    r₂.tables.setUid uid i₂ else r₂.tables, hmap₂, ?_, ?_, rfl, rfl⟩
  · unfold dropFrom
    split
    · exact (if_pos rfl).trans (dataBlock_mod hc.mem₂)
    · exact hmap₂
  · intro k hk
    have hinfo₂ : r₂.tables.blockInfoTbl k = infos k := by
      rw [f₂]
      exact hinfo₁ k hk
    refine ⟨hinfo₂, ?_⟩
    split
    · exact hinfo₂
    · exact hinfo₂

end SignetBase.Firmware
