/-
  SignetBase/FirmwareHc/BufferFifo.lean
  =====================================
  **The ring of buffers a mass-storage transfer goes through (`buffer_manager.c`).**

  The stages of a transfer work on a ring of buffers, each on its own and all at
  the same time: a stage reads the buffer that the stage before it has finished and
  writes one place further on, and the first stage waits for the last to give a
  buffer free.  `Ring` ties the indexes and the sizes in the ring to the number of
  chunks each stage has finished: every stage gets the chunks one after the other,
  each with the size the first stage gave it.
-/
import Mathlib.Logic.Function.Basic
import Mathlib.Tactic.Common

namespace SignetBase.FirmwareHc

/-- `struct bufferFIFO` without its callbacks and the buffers themselves. -/
structure BufferFIFO where
  maxBufferSize : Nat
  bufferCount : Nat
  numStages : Nat
  bufferSize : Nat → Nat
  stageWriteIndex : Nat → Nat
  stageReadIndex : Nat → Nat
  stalled : Nat → Bool
  stageProcessing : Nat → Bool
  processing : Bool
  stallIndex : Nat

namespace BufferFIFO

open Function

variable (bf : BufferFIFO)

/-- `bufferFIFO_stageStalled`. -/
def stageStalled (stage : Nat) : Bool :=
  if bf.stageProcessing stage || bf.stalled stage then true
  else if stage ≠ 0 then bf.stageReadIndex stage == bf.stageWriteIndex (stage - 1)
  else bf.stageWriteIndex 0 == bf.stageReadIndex (bf.numStages - 1) + bf.bufferCount

/-- `bufferFIFO_stallStage`. -/
def stallStage (stageIdx : Nat) : BufferFIFO :=
  { bf with
    stageProcessing := update bf.stageProcessing stageIdx false
    stalled := update bf.stalled stageIdx true }

/-- `bufferFIFO_execStage` marks the stage … -/
def beginStage (stageIdx : Nat) : BufferFIFO :=
  { bf with stageProcessing := update bf.stageProcessing stageIdx true }

/-- … and calls its function with the size of the buffer it reads. -/
def readSize (stageIdx : Nat) : Nat :=
  bf.bufferSize (bf.stageReadIndex stageIdx % bf.bufferCount)

/-- The first part of `bufferFIFO_processingComplete`: the buffer the stage wrote is
    passed on. -/
def advance (stageIdx writeLen : Nat) : BufferFIFO :=
  { bf with
    bufferSize := update bf.bufferSize (bf.stageWriteIndex stageIdx % bf.bufferCount) writeLen
    stageProcessing := update bf.stageProcessing stageIdx false
    stageWriteIndex := update bf.stageWriteIndex stageIdx (bf.stageWriteIndex stageIdx + 1)
    stageReadIndex := update bf.stageReadIndex stageIdx (bf.stageReadIndex stageIdx + 1) }

/-- The last part of `bufferFIFO_processingComplete`: how far the stages are done. -/
def skipStalled : BufferFIFO :=
  { bf with
    stallIndex := bf.stallIndex +
      ((List.range' bf.stallIndex (bf.numStages - bf.stallIndex)).takeWhile fun i =>
        !bf.stageProcessing i && bf.stalled i).length }

/-- `bufferFIFO_start` up to the call of `bufferFIFO_execStage`. -/
def start (firstBufferSize : Nat) : BufferFIFO :=
  let n := bf.numStages
  let readIndex := fun i =>
    if i < n then
      if n > 2 then if i = 0 then n - 2 else if i = n - 1 then 0 else n - 2 - i + 1
      else if n = 2 then 0 else bf.stageReadIndex i
    else bf.stageReadIndex i
  let writeIndex := fun i =>
    if i < n then
      if n > 2 then if i = 0 then n - 2 else if i = n - 1 then 0 else n - 2 - i
      else if n = 2 then 0 else bf.stageWriteIndex i
    else bf.stageWriteIndex i
  { bf with
    processing := true
    stallIndex := 0
    bufferSize := update (fun i => if i < bf.bufferCount then 0 else bf.bufferSize i) (writeIndex 0)
      firstBufferSize
    stageProcessing := fun i => if i < n then false else bf.stageProcessing i
    stalled := fun i => if i < n then false else bf.stalled i
    stageReadIndex := readIndex
    stageWriteIndex := writeIndex }

/-! ### Chunks in the ring -/

/-- Chunk `k` of a transfer of `total` bytes. -/
def chunk (max total k : Nat) : Nat := min (total - k * max) max

/-- The buffer with which a stage starts reading. -/
def readBase (n i : Nat) : Nat := if i = 0 then n - 2 else n - 1 - i

/-- Stage `i` has finished `count i` chunks, and the chunks a stage has finished and
    the next one has not are in the ring, with the sizes `size`. -/
structure Ring (size count : Nat → Nat) : Prop where
  two_le : 2 ≤ bf.numStages
  fits : bf.numStages - 2 < bf.bufferCount
  write : ∀ i < bf.numStages, bf.stageWriteIndex i = bf.numStages - 2 - i + count i
  read : ∀ i < bf.numStages, bf.stageReadIndex i = readBase bf.numStages i + count i
  anti : ∀ i, i + 1 < bf.numStages → count (i + 1) ≤ count i
  behind : ∀ i, i + 1 < bf.numStages → bf.stageProcessing (i + 1) = true → count (i + 1) < count i
  room : bf.numStages - 2 + count 0 ≤ count (bf.numStages - 1) + bf.bufferCount
  free : bf.stageProcessing 0 = true →
    bf.numStages - 2 + count 0 < count (bf.numStages - 1) + bf.bufferCount
  filled : ∀ i, i + 1 < bf.numStages → ∀ k, count (i + 1) ≤ k → k < count i →
    bf.bufferSize ((bf.numStages - 2 - i + k) % bf.bufferCount) = size k

/-- A stage that may finish a chunk: the stage before it has, and the first stage
    has a free buffer. -/
def CanAdvance (count : Nat → Nat) (i : Nat) : Prop :=
  if i = 0 then bf.numStages - 2 + count 0 < count (bf.numStages - 1) + bf.bufferCount
  else count i < count (i - 1)

variable {bf} {size count : Nat → Nat} {i : Nat}

theorem Ring.canAdvance (hr : bf.Ring size count) (hi : i < bf.numStages)
    (hp : bf.stageProcessing i = true) : bf.CanAdvance count i := by
  unfold CanAdvance
  cases i with
  | zero => exact hr.free hp
  | succ i => exact hr.behind i hi hp

/-- A stage that is not stalled may advance. -/
theorem Ring.canAdvance_of_not_stalled (hr : bf.Ring size count) (hi : i < bf.numStages)
    (hs : bf.stageStalled i = false) : bf.CanAdvance count i := by
  have hn := hr.two_le
  unfold stageStalled at hs
  split at hs
  · cases hs
  · unfold CanAdvance
    cases i with
    | zero =>
      have hroom := hr.room
      have hne : bf.stageWriteIndex 0 ≠ bf.stageReadIndex (bf.numStages - 1) + bf.bufferCount := by
        simpa using hs
      rw [hr.write 0 (by omega), hr.read (bf.numStages - 1) (by omega), readBase,
        if_neg (by omega)] at hne
      simp only [if_true]
      omega
    | succ i =>
      have hanti := hr.anti i hi
      have hne : bf.stageReadIndex (i + 1) ≠ bf.stageWriteIndex i := by
        simpa using hs
      rw [hr.write i (by omega), hr.read (i + 1) hi, readBase, if_neg (by omega)] at hne
      simp only [Nat.add_sub_cancel, if_neg (Nat.succ_ne_zero i)]
      omega

/-- A stage that neither works nor has run out of chunks is stalled when it may not advance. -/
theorem Ring.not_canAdvance (hr : bf.Ring size count) (hi : i < bf.numStages)
    (hp : bf.stageProcessing i = false) (hs : bf.stalled i = false)
    (hstalled : bf.stageStalled i = true) : ¬bf.CanAdvance count i := by
  have hn := hr.two_le
  unfold stageStalled at hstalled
  rw [hp, hs] at hstalled
  unfold CanAdvance
  cases i with
  | zero =>
    have heq : bf.stageWriteIndex 0 = bf.stageReadIndex (bf.numStages - 1) + bf.bufferCount := by
      simpa using hstalled
    rw [hr.write 0 (by omega), hr.read (bf.numStages - 1) (by omega), readBase,
      if_neg (by omega)] at heq
    simp only [if_true]
    omega
  | succ i =>
    have heq : bf.stageReadIndex (i + 1) = bf.stageWriteIndex i := by
      simpa using hstalled
    rw [hr.write i (by omega), hr.read (i + 1) hi, readBase, if_neg (by omega)] at heq
    simp only [Nat.add_sub_cancel, if_neg (Nat.succ_ne_zero i)]
    omega

theorem Ring.beginStage (hr : bf.Ring size count) (hi : i < bf.numStages)
    (hs : bf.stageStalled i = false) : (bf.beginStage i).Ring size count := by
  have hcan := hr.canAdvance_of_not_stalled hi hs
  unfold CanAdvance at hcan
  obtain ⟨h₁, h₂, h₃, h₄, h₅, h₆, h₇, h₈, h₉⟩ := hr
  refine ⟨h₁, h₂, h₃, h₄, h₅, ?_, h₇, ?_, h₉⟩
  · intro j hj hp
    by_cases heq : j + 1 = i
    · subst heq
      simpa using hcan
    · have hp' : bf.stageProcessing (j + 1) = true := by
        simpa [BufferFIFO.beginStage, update_of_ne heq] using hp
      exact h₆ j hj hp'
  · intro hp
    by_cases heq : 0 = i
    · subst heq
      rwa [if_pos rfl] at hcan
    · have hp' : bf.stageProcessing 0 = true := by
        simpa [BufferFIFO.beginStage, update_of_ne heq] using hp
      exact h₈ hp'

/-- A stage reads the next chunk. -/
theorem Ring.readSize_succ (hr : bf.Ring size count) (hi : i + 1 < bf.numStages)
    (hlt : count (i + 1) < count i) : bf.readSize (i + 1) = size (count (i + 1)) := by
  have hread := hr.read (i + 1) hi
  rw [readBase, if_neg (Nat.succ_ne_zero i)] at hread
  have hslot : bf.numStages - 1 - (i + 1) = bf.numStages - 2 - i := by omega
  unfold readSize
  rw [hread, hslot]
  exact hr.filled i hi _ (Nat.le_refl _) hlt

theorem Ring.stallStage (hr : bf.Ring size count) : (bf.stallStage i).Ring size count := by
  obtain ⟨h₁, h₂, h₃, h₄, h₅, h₆, h₇, h₈, h₉⟩ := hr
  have hproc : ∀ j, (bf.stallStage i).stageProcessing j = true → bf.stageProcessing j = true := by
    intro j hj
    by_cases heq : j = i
    · subst heq
      simp [BufferFIFO.stallStage] at hj
    · simpa [BufferFIFO.stallStage, update_of_ne heq] using hj
  exact ⟨h₁, h₂, h₃, h₄, h₅, fun j hj hp => h₆ j hj (hproc _ hp), h₇, fun hp => h₈ (hproc _ hp), h₉⟩

theorem Ring.count_le (hr : bf.Ring size count) {j : Nat} (hij : i ≤ j) (hj : j < bf.numStages) :
    count j ≤ count i := by
  induction hij with
  | refl => exact Nat.le_refl _
  | step _ ih => exact Nat.le_trans (hr.anti _ hj) (ih (Nat.lt_of_succ_lt hj))

/-- Places less than a round apart are different buffers. -/
theorem mod_ne {a b n : Nat} (hne : a ≠ b) (hab : a < b + n) (hba : b < a + n) : a % n ≠ b % n := by
  rcases Nat.lt_or_gt_of_ne hne with h | h
  · intro heq
    have hdvd : n ∣ b - a := Nat.dvd_of_mod_eq_zero (Nat.sub_mod_eq_zero_of_mod_eq heq.symm)
    have := Nat.le_of_dvd (by omega) hdvd
    omega
  · intro heq
    have hdvd : n ∣ a - b := Nat.dvd_of_mod_eq_zero (Nat.sub_mod_eq_zero_of_mod_eq heq)
    have := Nat.le_of_dvd (by omega) hdvd
    omega

/-- **The buffer a stage writes holds no chunk that a stage still has to read**, but the
    last stage may write the buffer it reads. -/
theorem Ring.slot_ne (hr : bf.Ring size count) (hi : i < bf.numStages)
    (hcan : bf.CanAdvance count i) {j k : Nat} (hj : j + 1 < bf.numStages)
    (hk : count (j + 1) ≤ k) (hk' : k < count j)
    (hother : ¬(i + 1 = bf.numStages ∧ j + 1 = i ∧ k = count i)) :
    (bf.numStages - 2 - j + k) % bf.bufferCount ≠ (bf.numStages - 2 - i + count i) % bf.bufferCount := by
  have hn := hr.two_le
  have hroom := hr.room
  have hj0 : count j ≤ count 0 := hr.count_le (Nat.zero_le j) (by omega)
  have hjn : count (bf.numStages - 1) ≤ count (j + 1) := hr.count_le (by omega) (by omega)
  have hi0 : count i ≤ count 0 := hr.count_le (Nat.zero_le i) hi
  have hin : count (bf.numStages - 1) ≤ count i := hr.count_le (by omega) (by omega)
  unfold CanAdvance at hcan
  have hne : bf.numStages - 2 - j + k ≠ bf.numStages - 2 - i + count i := by
    rcases Nat.lt_trichotomy j i with h | h | h
    · have hji : count i ≤ count (j + 1) := hr.count_le h hi
      by_cases hlast : j + 1 = i
      · omega
      · omega
    · subst h
      omega
    · have hij : count j ≤ count i := hr.count_le (Nat.le_of_lt h) (by omega)
      omega
  -- less than a round lies between the two
  apply mod_ne hne
  · omega
  · by_cases h : i = 0
    · rw [if_pos h] at hcan
      subst h
      omega
    · rw [if_neg h] at hcan
      have : count (i - 1) ≤ count 0 := hr.count_le (Nat.zero_le _) (by omega)
      omega

/-- **A stage passes a chunk on.** -/
theorem Ring.advance (hr : bf.Ring size count) (hi : i < bf.numStages)
    (hcan : bf.CanAdvance count i) :
    (bf.advance i (size (count i))).Ring size (update count i (count i + 1)) := by
  have hn := hr.two_le
  have hadv := hcan
  unfold CanAdvance at hadv
  have hcount : ∀ j, update count i (count i + 1) j = if j = i then count i + 1 else count j := by
    intro j
    by_cases h : j = i
    · rw [h, update_self, if_pos rfl]
    · rw [update_of_ne h, if_neg h]
  refine ⟨hn, hr.fits, ?_, ?_, ?_, ?_, ?_, ?_, ?_⟩
  · intro j hj
    change update _ _ _ j = _
    rw [hcount]
    by_cases h : j = i
    · subst h
      rw [update_self, if_pos rfl, hr.write j hj, Nat.add_assoc]
      rfl
    · rw [update_of_ne h, if_neg h, hr.write j hj]
      rfl
  · intro j hj
    change update _ _ _ j = _
    rw [hcount]
    by_cases h : j = i
    · subst h
      rw [update_self, if_pos rfl, hr.read j hj, Nat.add_assoc]
      rfl
    · rw [update_of_ne h, if_neg h, hr.read j hj]
      rfl
  · intro j hj
    have hanti := hr.anti j hj
    rw [hcount, hcount]
    by_cases h : j + 1 = i
    · subst h
      simp only [Nat.add_sub_cancel, if_neg (Nat.succ_ne_zero j)] at hadv
      rw [if_pos rfl, if_neg (by omega)]
      exact hadv
    · rw [if_neg h]
      split
      · rename_i heq
        subst heq
        omega
      · exact hanti
  · intro j hj hp
    have hp' : j + 1 ≠ i ∧ bf.stageProcessing (j + 1) = true := by
      by_cases h : j + 1 = i
      · simp [BufferFIFO.advance, h] at hp
      · exact ⟨h, by simpa [BufferFIFO.advance, update_of_ne h] using hp⟩
    have hlt := hr.behind j hj hp'.2
    rw [hcount, hcount, if_neg hp'.1]
    split
    · rename_i heq
      subst heq
      omega
    · exact hlt
  · have hroom := hr.room
    change bf.numStages - 2 + update count i (count i + 1) 0 ≤
      update count i (count i + 1) (bf.numStages - 1) + bf.bufferCount
    rw [hcount, hcount]
    by_cases h : 0 = i
    · subst h
      simp only [if_true] at hadv
      rw [if_pos rfl, if_neg (by omega)]
      omega
    · rw [if_neg h]
      split
      · rename_i heq
        rw [heq] at hroom
        omega
      · exact hroom
  · intro hp
    have hp' : 0 ≠ i ∧ bf.stageProcessing 0 = true := by
      by_cases h : 0 = i
      · subst h
        simp [BufferFIFO.advance] at hp
      · exact ⟨h, by simpa [BufferFIFO.advance, update_of_ne h] using hp⟩
    have hfree := hr.free hp'.2
    change bf.numStages - 2 + update count i (count i + 1) 0 <
      update count i (count i + 1) (bf.numStages - 1) + bf.bufferCount
    rw [hcount, hcount, if_neg hp'.1]
    split
    · rename_i heq
      rw [heq] at hfree
      omega
    · exact hfree
  · intro j hj k hk hk'
    change j + 1 < bf.numStages at hj
    rw [hcount] at hk hk'
    change update bf.bufferSize (bf.stageWriteIndex i % bf.bufferCount) _
      ((bf.numStages - 2 - j + k) % bf.bufferCount) = _
    rw [hr.write i hi]
    by_cases hnew : j = i ∧ k = count i
    · obtain ⟨rfl, rfl⟩ := hnew
      rw [update_self]
    · -- another chunk: it is in another buffer
      have hbounds : count (j + 1) ≤ k ∧ k < count j := by
        constructor
        · split at hk
          · rename_i h
            rw [← h] at hk
            omega
          · exact hk
        · by_cases h : j = i
          · rw [if_pos h] at hk'
            rw [h]
            have : k ≠ count i := fun hc => hnew ⟨h, hc⟩
            omega
          · rwa [if_neg h] at hk'
      have hother : ¬(i + 1 = bf.numStages ∧ j + 1 = i ∧ k = count i) := by
        rintro ⟨-, hji, hki⟩
        rw [if_pos hji] at hk
        omega
      rw [update_of_ne (hr.slot_ne hi hcan hj hbounds.1 hbounds.2 hother)]
      exact hr.filled j hj k hbounds.1 hbounds.2

/-- **The ring at the start of a transfer.** -/
theorem ring_start (size : Nat → Nat) (firstBufferSize : Nat) (hn : 2 ≤ bf.numStages)
    (hfits : bf.numStages - 2 < bf.bufferCount) :
    (bf.start firstBufferSize).Ring size fun _ => 0 := by
  have hproc : ∀ i, i < bf.numStages → (bf.start firstBufferSize).stageProcessing i = false :=
    fun i hi => if_pos hi
  refine ⟨hn, hfits, ?_, ?_, fun _ _ => Nat.le_refl _, ?_, ?_, ?_, ?_⟩
  · intro i hi
    change i < bf.numStages at hi
    simp only [BufferFIFO.start, if_pos hi]
    split
    · split
      · omega
      · split <;> omega
    · split <;> omega
  · intro i hi
    change i < bf.numStages at hi
    simp only [BufferFIFO.start, if_pos hi, readBase]
    split
    · split
      · omega
      · split <;> omega
    · split
      · split <;> omega
      · omega
  · intro i hi hp
    rw [hproc _ hi] at hp
    cases hp
  · change bf.numStages - 2 + 0 ≤ 0 + bf.bufferCount
    omega
  · intro hp
    rw [hproc 0 (by omega)] at hp
    cases hp
  · intro i _ k _ hk
    exact absurd hk (Nat.not_lt_zero k)

end BufferFIFO

end SignetBase.FirmwareHc
