/-
  SignetBase/PartGeometry.lean
  ============================
  **How many partitions a block holds, and where they lie.**

  `get_part_count` starts from the count that would fill a block without its header and
  lowers it until header, table of entries and partitions fit.  The header grows with the
  count and is rounded up to sub-blocks, but it never shrinks when the count grows, so the
  counts that fit are the ones up to a greatest one, and the search ends there
  (`isGreatest_getPartCount`).

  The sizes are parameters here (`BlockSizes`); the two `db.c` files are two instances.
-/
import Mathlib.Data.Nat.Find
import Mathlib.Data.Set.Lattice
import Mathlib.Order.Bounds.Basic
import Mathlib.Order.CompletePartialOrder
import Mathlib.Order.Interval.Set.Disjoint
import SignetBase.Firmware.Db
import SignetBase.FirmwareHc.UpdateUid

namespace SignetBase

/-! ### Searches -/

/-- A search downward finds the greatest element below its start. -/
theorem isGreatest_findGreatest {p : Nat → Prop} [DecidablePred p] {b : Nat}
    (hbound : ∀ m, p m → m ≤ b) (h : ∃ m, p m) : IsGreatest {m | p m} (Nat.findGreatest p b) := by
  obtain ⟨m, hm⟩ := h
  refine ⟨Nat.findGreatest_spec (hbound m hm) hm, ?_⟩
  intro k hk
  exact Nat.le_findGreatest (hbound k hk) hk

/-- A search upward through an ascending list finds the least element. -/
theorem isLeast_of_find?_eq_some {l : List Nat} (hsorted : l.Pairwise (· ≤ ·)) {p : Nat → Prop}
    [DecidablePred p] {a : Nat} (h : l.find? (fun x => p x) = some a) :
    IsLeast {x | x ∈ l ∧ p x} a := by
  obtain ⟨hpa, before, after, rfl, hnone⟩ := List.find?_eq_some_iff_append.mp h
  refine ⟨⟨by simp, by simpa using hpa⟩, ?_⟩
  rintro x ⟨hmem, hpx⟩
  rcases List.mem_append.mp hmem with hx | hx
  · exact absurd hpx (by simpa using hnone x hx)
  · rcases List.mem_cons.mp hx with rfl | hx
    · exact Nat.le_refl _
    · exact List.rel_of_pairwise_cons (List.pairwise_append.mp hsorted).2.1 hx

/-! ### Sizes -/

/-- The sizes that the block format is built from, in bytes. -/
structure BlockSizes where
  blkSize : Nat
  subBlkSize : Nat
  blockHeader : Nat
  uidEnt : Nat
  subBlkSize_pos : 0 < subBlkSize
  dvd_blkSize : subBlkSize ∣ blkSize

namespace BlockSizes

variable (z : BlockSizes)

/-- `SUB_BLK_COUNT`. -/
def subBlkCount (sz : Nat) : Nat := (sz + (z.subBlkSize - 1)) / z.subBlkSize

/-- `get_block_header_size`, in sub-blocks. -/
def getBlockHeaderSize (partCount : Nat) : Nat :=
  z.subBlkCount (z.blockHeader + z.uidEnt * partCount)

/-- A block has room for `count` partitions of `partSize` sub-blocks. -/
def Fits (partSize count : Nat) : Prop :=
  z.getBlockHeaderSize count + count * partSize ≤ z.blkSize / z.subBlkSize

instance (partSize : Nat) : DecidablePred (z.Fits partSize) := fun count =>
  inferInstanceAs (Decidable (z.getBlockHeaderSize count + count * partSize ≤ _))

/-- The loop of `get_part_count`: lower the count until the block holds it. -/
def shrinkPartCount (partSize : Nat) : Nat → Nat
  | 0 => 0
  | count + 1 =>
    if z.getBlockHeaderSize (count + 1) + (count + 1) * partSize > z.blkSize / z.subBlkSize then
      shrinkPartCount partSize count
    else count + 1

/-- `get_part_count`. -/
def getPartCount (partSize : Nat) : Nat :=
  z.shrinkPartCount partSize (z.blkSize / z.subBlkSize / partSize)

/-- `get_part`: the offset of the `n`th partition. -/
def getPart (info : BlockInfo) (n : Nat) : Nat :=
  (info.partTblOffs + info.partSize * n) * z.subBlkSize

/-- The bytes of the `n`th partition. -/
def partBytes (info : BlockInfo) (n : Nat) : Set Nat :=
  Set.Ico (z.getPart info n) (z.getPart info n + info.partSize * z.subBlkSize)

/-- The bytes of the header and of the first `n` entries of the table behind it. -/
def headBytes (n : Nat) : Set Nat := Set.Ico 0 (z.blockHeader + z.uidEnt * n)

/-! ### The count -/

theorem le_subBlkCount_mul (sz : Nat) : sz ≤ z.subBlkCount sz * z.subBlkSize := by
  have hpos := z.subBlkSize_pos
  have hdiv := Nat.div_add_mod (sz + (z.subBlkSize - 1)) z.subBlkSize
  have hmod := Nat.mod_lt (sz + (z.subBlkSize - 1)) hpos
  rw [Nat.mul_comm] at hdiv
  unfold subBlkCount
  omega

theorem shrinkPartCount_eq_findGreatest (partSize n : Nat) :
    z.shrinkPartCount partSize n = Nat.findGreatest (z.Fits partSize) n := by
  induction n with
  | zero => rfl
  | succ n ih =>
    rw [shrinkPartCount, Nat.findGreatest_succ, ih]
    by_cases h : z.Fits partSize (n + 1)
    · rw [if_pos h, if_neg (Nat.not_lt.mpr h)]
    · rw [if_neg h, if_pos (Nat.not_le.mp h)]

/-- No count that fits is above the one the search starts with. -/
theorem Fits.le_start {z : BlockSizes} {partSize m : Nat} (hsize : 1 ≤ partSize)
    (h : z.Fits partSize m) : m ≤ z.blkSize / z.subBlkSize / partSize := by
  rw [Nat.le_div_iff_mul_le hsize]
  exact Nat.le_trans (Nat.le_add_left _ _) h

/-- `get_part_count` returns the greatest count that fits. -/
theorem isGreatest_getPartCount {partSize : Nat} (hsize : 1 ≤ partSize)
    (h : ∃ m, z.Fits partSize m) :
    IsGreatest {m | z.Fits partSize m} (z.getPartCount partSize) := by
  rw [getPartCount, shrinkPartCount_eq_findGreatest]
  apply isGreatest_findGreatest
  · intro m hm
    exact hm.le_start hsize
  · exact h

theorem getPartCount_of_not_fits {partSize : Nat} (h : ¬ ∃ m, z.Fits partSize m) :
    z.getPartCount partSize = 0 := by
  rw [getPartCount, shrinkPartCount_eq_findGreatest, Nat.findGreatest_eq_zero_iff]
  intro m _ _ hm
  exact h ⟨m, hm⟩

/-- The count fits as soon as it is positive. -/
theorem fits_getPartCount {partSize i : Nat} (h : i < z.getPartCount partSize) :
    z.Fits partSize (z.getPartCount partSize) := by
  rw [getPartCount, shrinkPartCount_eq_findGreatest] at h ⊢
  exact Nat.findGreatest_of_ne_zero rfl (Nat.ne_of_gt (Nat.zero_lt_of_lt h))

/-! ### The partitions -/

section Partitions

variable {z} {info : BlockInfo} {n : Nat}

theorem getPart_succ (i : Nat) :
    z.getPart info (i + 1) = z.getPart info i + info.partSize * z.subBlkSize := by
  unfold getPart
  rw [Nat.mul_succ, ← Nat.add_assoc, Nat.add_mul]

theorem getPart_le {i j : Nat} (h : i ≤ j) : z.getPart info i ≤ z.getPart info j := by
  unfold getPart
  exact Nat.mul_le_mul_right _ (Nat.add_le_add_left (Nat.mul_le_mul_left _ h) _)

theorem partBytes_disjoint {i j : Nat} (h : i ≠ j) :
    Disjoint (z.partBytes info i) (z.partBytes info j) := by
  have hlt : ∀ {i j : Nat}, i < j → Disjoint (z.partBytes info i) (z.partBytes info j) := by
    intro i j h
    apply Set.Ico_disjoint_Ico.mpr
    rw [← getPart_succ]
    exact (min_le_left _ _).trans ((getPart_le h).trans (le_max_right _ _))
  rcases Nat.lt_or_gt_of_ne h with h | h
  · exact hlt h
  · exact (hlt h).symm

/-- A partition ends where its block does or before. -/
theorem partBytes_subset (hfits : z.Fits info.partSize n)
    (hoffs : info.partTblOffs = z.getBlockHeaderSize n) {i : Nat} (hi : i < n) :
    z.partBytes info i ⊆ Set.Ico 0 z.blkSize := by
  intro a ha
  refine ⟨Nat.zero_le _, lt_of_lt_of_le ha.2 ?_⟩
  calc z.getPart info i + info.partSize * z.subBlkSize
      = z.getPart info (i + 1) := (getPart_succ i).symm
    _ ≤ z.getPart info n := getPart_le hi
    _ = (z.getBlockHeaderSize n + n * info.partSize) * z.subBlkSize := by
        rw [getPart, hoffs, Nat.mul_comm n]
    _ ≤ z.blkSize / z.subBlkSize * z.subBlkSize := Nat.mul_le_mul_right _ hfits
    _ = z.blkSize := Nat.div_mul_cancel z.dvd_blkSize

/-- A partition begins behind the header and the table. -/
theorem partBytes_disjoint_headBytes (hoffs : info.partTblOffs = z.getBlockHeaderSize n)
    (i : Nat) : Disjoint (z.partBytes info i) (z.headBytes n) := by
  apply Set.disjoint_left.mpr
  intro a ha hhead
  have hend : z.blockHeader + z.uidEnt * n ≤ z.getPart info i := by
    calc z.blockHeader + z.uidEnt * n
        ≤ z.getBlockHeaderSize n * z.subBlkSize := z.le_subBlkCount_mul _
      _ = z.getPart info 0 := by rw [getPart, hoffs, Nat.mul_zero, Nat.add_zero]
      _ ≤ z.getPart info i := getPart_le (Nat.zero_le i)
  exact absurd (lt_of_lt_of_le hhead.2 hend) (Nat.not_lt.mpr ha.1)

end Partitions

end BlockSizes

/-! ### The two devices -/

/-- The sizes of the original device. -/
def Firmware.blockSizes : BlockSizes where
  blkSize := BLK_SIZE
  subBlkSize := SUB_BLK_SIZE
  blockHeader := blockHeaderSize
  uidEnt := uidEntSize
  subBlkSize_pos := by decide
  dvd_blkSize := by decide

/-- The sizes of Signet HC. -/
def FirmwareHc.blockSizes : BlockSizes where
  blkSize := BLK_SIZE
  subBlkSize := SUB_BLK_SIZE
  blockHeader := blockHeaderSize
  uidEnt := uidEntSize
  subBlkSize_pos := by decide
  dvd_blkSize := by decide

theorem BlockSizes.partCountIn_eq (z : BlockSizes) (hsub : z.subBlkSize = SUB_BLK_SIZE)
    (hheader : z.blockHeader = blockHeaderSize) (hent : z.uidEnt = uidEntSize) (partSize : Nat) :
    partCountIn z.blkSize partSize = z.getPartCount partSize := by
  have hhead : ∀ n, z.getBlockHeaderSize n = SignetBase.getBlockHeaderSize n := by
    intro n
    unfold BlockSizes.getBlockHeaderSize BlockSizes.subBlkCount
    rw [hsub, hheader, hent]
    rfl
  have hshrink : ∀ n, SignetBase.shrinkPartCount z.blkSize partSize n =
      z.shrinkPartCount partSize n := by
    intro n
    induction n with
    | zero => rfl
    | succ n ih =>
      unfold SignetBase.shrinkPartCount BlockSizes.shrinkPartCount
      rw [ih, hhead, hsub]
  unfold partCountIn BlockSizes.getPartCount
  rw [hshrink, hsub]

/-- The count of the original device is the one for its sizes. -/
theorem Firmware.getPartCount_eq (partSize : Nat) :
    Firmware.getPartCount partSize = Firmware.blockSizes.getPartCount partSize :=
  Firmware.blockSizes.partCountIn_eq rfl rfl rfl partSize

/-- The count of Signet HC is the one for its sizes. -/
theorem FirmwareHc.getPartCount_eq (partSize : Nat) :
    FirmwareHc.getPartCount partSize = FirmwareHc.blockSizes.getPartCount partSize :=
  FirmwareHc.blockSizes.partCountIn_eq rfl rfl rfl partSize

/-! ### Listed sizes -/

namespace Firmware

/-- The sub-blocks of a partition hold the data. -/
def Holds (dataBytes partSize : Nat) : Prop := dataBytes ≤ partSize * SUB_BLK_DATA_SIZE

theorem sizeToSubBlkCount_le_iff (dataBytes partSize : Nat) :
    sizeToSubBlkCount dataBytes ≤ partSize ↔ Holds dataBytes partSize := by
  unfold sizeToSubBlkCount Holds SUB_BLK_DATA_SIZE
  omega

/-- `target_part_size` returns the smallest listed size that holds the data. -/
theorem isLeast_targetPartSize {dataBytes : Nat} (h : ∃ p ∈ partSizes, Holds dataBytes p) :
    IsLeast {p | p ∈ partSizes ∧ Holds dataBytes p} (targetPartSize dataBytes) := by
  simp only [← sizeToSubBlkCount_le_iff] at h ⊢
  obtain ⟨p, hmem, hp⟩ := h
  have hsome : (partSizes.find? fun p => p ≥ sizeToSubBlkCount dataBytes).isSome := by
    rw [List.find?_isSome]
    exact ⟨p, hmem, by simpa using hp⟩
  obtain ⟨a, ha⟩ := Option.isSome_iff_exists.mp hsome
  have hsorted : partSizes.Pairwise (· ≤ ·) := by decide
  unfold targetPartSize
  rw [ha]
  exact isLeast_of_find?_eq_some hsorted ha

theorem targetPartSize_of_not_holds {dataBytes : Nat} (h : ∀ p ∈ partSizes, ¬ Holds dataBytes p) :
    targetPartSize dataBytes = 0 := by
  simp only [← sizeToSubBlkCount_le_iff] at h
  unfold targetPartSize
  rw [List.find?_eq_none.mpr]
  · rfl
  · intro p hp
    simpa using h p hp

end Firmware

/-! ### Geometry -/

/-- **`get_part_count` returns the greatest count that a block holds; its partitions lie in the
    block, apart from one another and from header and table; and `target_part_size` returns the
    smallest listed size that holds the data.** -/
theorem part_geometry (z : BlockSizes) {partSize : Nat} (hsize : 1 ≤ partSize) :
    let n := z.getPartCount partSize
    ((∃ m, z.Fits partSize m) → IsGreatest {m | z.Fits partSize m} n) ∧
    ((¬ ∃ m, z.Fits partSize m) → n = 0) ∧
    (∀ info : BlockInfo, info.partSize = partSize →
      info.partTblOffs = z.getBlockHeaderSize n →
        (∀ i < n, z.partBytes info i ⊆ Set.Ico 0 z.blkSize) ∧
        (∀ i < n, ∀ j < n, i ≠ j → Disjoint (z.partBytes info i) (z.partBytes info j)) ∧
        (∀ i < n, Disjoint (z.partBytes info i) (z.headBytes n))) ∧
    (∀ dataBytes, (∃ p ∈ Firmware.partSizes, Firmware.Holds dataBytes p) →
      IsLeast {p | p ∈ Firmware.partSizes ∧ Firmware.Holds dataBytes p}
        (Firmware.targetPartSize dataBytes)) ∧
    (∀ dataBytes, (∀ p ∈ Firmware.partSizes, ¬ Firmware.Holds dataBytes p) →
      Firmware.targetPartSize dataBytes = 0) := by
  intro n
  refine ⟨z.isGreatest_getPartCount hsize, z.getPartCount_of_not_fits, ?_, ?_, ?_⟩
  · rintro info rfl hoffs
    refine ⟨?_, ?_, ?_⟩
    · intro i hi
      exact BlockSizes.partBytes_subset (z.fits_getPartCount hi) hoffs hi
    · intro i _ j _ hij
      exact BlockSizes.partBytes_disjoint hij
    · intro i _
      exact BlockSizes.partBytes_disjoint_headBytes hoffs i
  · intro dataBytes h
    exact Firmware.isLeast_targetPartSize h
  · intro dataBytes h
    exact Firmware.targetPartSize_of_not_holds h

/-- A block of the original device holds 92 partitions of one sub-block. -/
theorem part_geometry_one :
    1 ≤ 1 ∧ IsGreatest {m | Firmware.blockSizes.Fits 1 m} 92 := by
  have hcount : Firmware.blockSizes.getPartCount 1 = 92 := by decide
  have hgreatest := (part_geometry Firmware.blockSizes (Nat.le_refl 1)).1 ⟨0, by decide⟩
  rw [hcount] at hgreatest
  exact ⟨Nat.le_refl 1, hgreatest⟩

end SignetBase
