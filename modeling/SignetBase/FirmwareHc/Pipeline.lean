/-
  SignetBase/FirmwareHc/Pipeline.lean
  ===================================
  **A whole transfer through the ring of buffers, for any stages and any order of their
  completions (`buffer_manager.c`).**

  A stage that `bufferFIFO_execStage` has called runs until it calls
  `bufferFIFO_processingComplete`.  While it runs it may store bytes in the buffer it
  was given for writing.  `Pipeline` has the ring, the buffers and, as ghost fields, the
  stages that run, the chunks each stage was given and the chunks it has made, and the stages
  that have called `bufferFIFO_stallStage`.  `Flow` is the invariant: a stage is given the
  chunks of the stage before it, one by one and as that stage left them, and a stage that does
  not run is one that cannot.  So a stage runs until each has made its `n` chunks (`Ends`).
-/
import Mathlib.Algebra.BigOperators.Group.Finset.Piecewise
import Mathlib.Algebra.Order.BigOperators.Group.Finset
import Mathlib.Data.List.TakeWhile
import SignetBase.Memory
import SignetBase.Run
import SignetBase.FirmwareHc.BufferFifo

namespace SignetBase.FirmwareHc

open Function

/-- The ring with its buffers (`bufferStorage`); which stages run, the chunks they were given
    and have made, which have called `bufferFIFO_stallStage`, and how often `processingComplete`
    was called. -/
structure Pipeline where
  fifo : BufferFIFO
  bufferStorage : Mem
  running : Nat → Bool
  taken : Nat → List Bytes
  made : Nat → List Bytes
  stalls : Nat → Bool
  completed : Nat

namespace Pipeline

variable (s : Pipeline)

/-! ### `buffer_manager.c` -/

def bufferRead (stageIdx : Nat) : Nat :=
  s.fifo.maxBufferSize * (s.fifo.stageReadIndex stageIdx % s.fifo.bufferCount)

def bufferWrite (stageIdx : Nat) : Nat :=
  s.fifo.maxBufferSize * (s.fifo.stageWriteIndex stageIdx % s.fifo.bufferCount)

/-- `bufferFIFO_execStage`: the stage is given the buffer it reads. -/
def execStage (stageIdx : Nat) : Pipeline :=
  { s with
    fifo := s.fifo.beginStage stageIdx
    running := update s.running stageIdx true
    taken := update s.taken stageIdx
      (s.taken stageIdx ++ [s.bufferStorage.read (s.bufferRead stageIdx) (s.fifo.readSize stageIdx)]) }

/-- A stage that is not stalled goes on. -/
def wake (stageIdx : Nat) : Pipeline :=
  if s.fifo.stageStalled stageIdx then s else s.execStage stageIdx

/-- The first part of `bufferFIFO_processingComplete`: the stage has made a chunk. -/
def advance (stageIdx writeLen : Nat) : Pipeline :=
  { s with
    fifo := s.fifo.advance stageIdx writeLen
    running := update s.running stageIdx false
    made := update s.made stageIdx
      (s.made stageIdx ++ [s.bufferStorage.read (s.bufferWrite stageIdx) writeLen]) }

/-- The last part of `bufferFIFO_processingComplete`: when all stages are done the callback is
    called. -/
def finish : Pipeline :=
  if s.fifo.processing then
    let fifo := s.fifo.skipStalled
    if fifo.stallIndex = fifo.numStages then
      { s with fifo := { fifo with processing := false }, completed := s.completed + 1 }
    else { s with fifo }
  else s

/-- `bufferFIFO_processingComplete`. -/
def processingComplete (stageIdx writeLen : Nat) : Pipeline :=
  (((s.advance stageIdx writeLen).wake stageIdx).wake ((stageIdx + 1) % s.fifo.numStages)).finish

/-- `bufferFIFO_start`. -/
def start (bf : BufferFIFO) (bufferStorage : Mem) (firstBufferSize : Nat) : Pipeline :=
  execStage
    { fifo := bf.start firstBufferSize
      bufferStorage
      running := fun _ => false
      taken := fun _ => []
      made := fun _ => []
      stalls := fun _ => false
      completed := 0 } 0

/-- What a stage does while it runs: it stores a byte in its buffer, calls
    `bufferFIFO_stallStage`, and calls `bufferFIFO_processingComplete`. -/
inductive StageEvent where
  | store (stageIdx offset : Nat) (b : UInt8)
  | stall (stageIdx : Nat)
  | complete (stageIdx writeLen : Nat)

def stageStep (s : Pipeline) : StageEvent → Pipeline
  | .store i offset b =>
    { s with bufferStorage := s.bufferStorage.write (s.bufferWrite i + offset) [b] }
  | .stall i => { s with fifo := s.fifo.stallStage i, stalls := update s.stalls i true }
  | .complete i writeLen => s.processingComplete i writeLen

/-! ### Transfers of `n` chunks -/

/-- All chunks but the last are full. -/
def chunkSize (max n last k : Nat) : Nat := if k + 1 < n then max else last

/-- The number of chunks a stage has made. -/
def count (i : Nat) : Nat := (s.made i).length

/-- What the stages may do: one that runs stores bytes within its buffer, and it completes the
    next chunk, the last one after it has called `bufferFIFO_stallStage`. -/
def Permitted (n last : Nat) (s : Pipeline) : StageEvent → Prop
  | .store i offset _ => i < s.fifo.numStages ∧ s.running i = true ∧ offset < s.fifo.maxBufferSize
  | .stall i => i < s.fifo.numStages ∧ s.running i = true ∧ s.count i + 1 = n
  | .complete i writeLen => i < s.fifo.numStages ∧ s.running i = true ∧
      writeLen = chunkSize s.fifo.maxBufferSize n last (s.count i) ∧
      (s.stalls i = true ↔ s.count i + 1 = n)

/-- The chunk at the place `d` of those that stage `i + 1` has not finished. -/
def waiting (i d : Nat) : Bytes := (s.made i).getD (s.count (i + 1) + d) []

/-- The transfer goes as it should. -/
structure Orderly (n last : Nat) (s : Pipeline) : Prop where
  /-- A stage makes the `n` chunks and no more, each of its size. -/
  sizes : ∀ i < s.fifo.numStages, s.count i ≤ n ∧
    ∀ k (hk : k < (s.made i).length), (s.made i)[k].length = chunkSize s.fifo.maxBufferSize n last k
  /-- What a stage is given are the chunks of the stage before it, in their order. -/
  inOrder : ∀ i, i + 1 < s.fifo.numStages → s.taken (i + 1) <+: s.made i
  /-- A stage is given one chunk after the other. -/
  oneByOne : ∀ i < s.fifo.numStages,
    (s.taken i).length = s.count i + if s.running i then 1 else 0
  /-- A stage that runs does not write a buffer with a chunk that another stage still has to
      read or is reading. -/
  apart : ∀ i < s.fifo.numStages, s.running i = true → ∀ j, j + 1 < s.fifo.numStages → j + 1 ≠ i →
    ∀ d, s.count (j + 1) + d < s.count j →
      (s.fifo.stageReadIndex (j + 1) + d) % s.fifo.bufferCount ≠
        s.fifo.stageWriteIndex i % s.fifo.bufferCount
  /-- These buffers have the bytes and the lengths that the stage before has given them; the
      last stage may change the one it reads. -/
  held : ∀ j, j + 1 < s.fifo.numStages → ∀ d, s.count (j + 1) + d < s.count j →
    s.fifo.bufferSize ((s.fifo.stageReadIndex (j + 1) + d) % s.fifo.bufferCount) =
        (s.waiting j d).length ∧
      (¬(j + 2 = s.fifo.numStages ∧ d = 0 ∧ s.running (j + 1) = true) →
        s.bufferStorage.read
          (s.fifo.maxBufferSize * ((s.fifo.stageReadIndex (j + 1) + d) % s.fifo.bufferCount))
          (s.waiting j d).length = s.waiting j d)
  /-- While chunks remain, some stage runs. -/
  live : (∃ i < s.fifo.numStages, s.count i < n) → ∃ i < s.fifo.numStages, s.running i = true
  /-- The callback is called once, with the last chunk of the last stage. -/
  once : s.completed = if s.count (s.fifo.numStages - 1) = n then 1 else 0
  /-- By then every stage is done. -/
  done : s.count (s.fifo.numStages - 1) = n →
    ∀ i < s.fifo.numStages, s.count i = n ∧ s.running i = false

def StageEvent.completes : StageEvent → Bool
  | .complete .. => true
  | _ => false

/-- How many chunks were completed, by all stages. -/
def completions (h : History Pipeline StageEvent) : Nat := h.countP fun x => x.2.completes

/-- The transfer comes to its end. -/
structure Ends (n last : Nat) (h : History Pipeline StageEvent) (s : Pipeline) : Prop where
  /-- Each stage completes `n` chunks, so there are no more completions than these … -/
  most : completions h ≤ s.fifo.numStages * n
  /-- … and while there are fewer, a stage may complete its next chunk, the last one after it has
      called `bufferFIFO_stallStage`, and the callback has not been called. -/
  goesOn : completions h < s.fifo.numStages * n → s.completed = 0 ∧
    ∃ i writeLen, Permitted n last s (.complete i writeLen) ∨
      Permitted n last s (.stall i) ∧ Permitted n last (stageStep s (.stall i))
        (.complete i writeLen)
  /-- When all have come, each stage has been given and has made its `n` chunks, and the callback
      has been called once. -/
  all : completions h = s.fifo.numStages * n → s.completed = 1 ∧
    ∀ i < s.fifo.numStages, s.count i = n ∧ s.running i = false ∧
      (i + 1 < s.fifo.numStages → s.taken (i + 1) = s.made i)

/-! ### The invariant -/

/-- The invariant of a transfer; the stages of `settled` run if they can. -/
structure Flow (n last : Nat) (settled : Nat → Prop) (s : Pipeline) : Prop where
  ring : s.fifo.Ring (chunkSize s.fifo.maxBufferSize n last) s.count
  runs : ∀ i < s.fifo.numStages, s.running i = true → s.fifo.CanAdvance s.count i ∧ s.count i < n
  processing : ∀ i < s.fifo.numStages,
    s.fifo.stageProcessing i = (s.running i && !s.fifo.stalled i)
  stalled : ∀ i < s.fifo.numStages, s.fifo.stalled i = true →
    n ≤ s.count i + if s.running i then 1 else 0
  unstalled : ∀ i < s.fifo.numStages, s.fifo.stalled i = false → s.count i < n
  rests : ∀ i < s.fifo.numStages, settled i → s.running i = false → s.count i < n →
    ¬s.fifo.CanAdvance s.count i
  sizes : ∀ i < s.fifo.numStages, s.count i ≤ n ∧
    ∀ k (hk : k < (s.made i).length), (s.made i)[k].length = chunkSize s.fifo.maxBufferSize n last k
  given : ∀ i < s.fifo.numStages, (s.taken i).length = s.count i + if s.running i then 1 else 0
  inOrder : ∀ i, i + 1 < s.fifo.numStages → s.taken (i + 1) <+: s.made i
  held : ∀ i, i + 1 < s.fifo.numStages → ∀ k (hk : k < (s.made i).length), s.count (i + 1) ≤ k →
    ¬(i + 2 = s.fifo.numStages ∧ k = s.count (i + 1) ∧ s.running (i + 1) = true) →
    s.bufferStorage.read
      (s.fifo.maxBufferSize * ((s.fifo.numStages - 2 - i + k) % s.fifo.bufferCount))
      (chunkSize s.fifo.maxBufferSize n last k) = (s.made i)[k]

/-- The end of a transfer. -/
structure Ending (n : Nat) (s : Pipeline) : Prop where
  stallIndex : s.fifo.processing = true → s.fifo.stallIndex < s.fifo.numStages
  processing : s.fifo.processing = decide (s.count (s.fifo.numStages - 1) ≠ n)
  completed : s.completed = if s.count (s.fifo.numStages - 1) = n then 1 else 0

variable {s} {n last i : Nat} {settled : Nat → Prop}

/-- Where the ring has chunk `k` of stage `i`. -/
theorem Flow.read_index (hf : Flow n last settled s) {j : Nat} (hj : j + 1 < s.fifo.numStages)
    (d : Nat) : s.fifo.stageReadIndex (j + 1) + d =
      s.fifo.numStages - 2 - j + (s.count (j + 1) + d) := by
  rw [hf.ring.read (j + 1) hj, BufferFIFO.readBase, if_neg (Nat.succ_ne_zero j)]
  omega

/-- The transfer goes as it should while the invariant holds. -/
theorem Flow.orderly (hf : Flow n last (fun _ => True) s) (he : Ending n s) :
    Orderly n last s := by
  have hstages := hf.ring.two_le
  have hle : ∀ i < s.fifo.numStages, s.count (s.fifo.numStages - 1) ≤ s.count i :=
    fun i hi => hf.ring.count_le (by omega) (by omega)
  have hidle : ∀ i < s.fifo.numStages, s.count i = n → s.running i = false := by
    intro i hi hcount
    cases hrun : s.running i with
    | false => rfl
    | true => exact absurd (hf.runs i hi hrun).2 (by omega)
  refine ⟨hf.sizes, hf.inOrder, hf.given, ?_, ?_, ?_, he.completed, ?_⟩
  · intro i hi hrun j hj hne d hd
    rw [hf.read_index hj, hf.ring.write i hi]
    exact hf.ring.slot_ne hi (hf.runs i hi hrun).1 hj (Nat.le_add_right _ _) hd
      fun h => hne h.2.1
  · intro j hj d hd
    have hsize := (hf.sizes j (by omega)).2 _ hd
    have hget : s.waiting j d = (s.made j)[s.count (j + 1) + d] := List.getD_eq_getElem _ _ hd
    rw [hf.read_index hj, hget, hsize]
    refine ⟨hf.ring.filled j hj _ (Nat.le_add_right _ _) hd, fun hother => ?_⟩
    refine hf.held j hj _ hd (Nat.le_add_right _ _) ?_
    rintro ⟨hlast, hd0, hrun⟩
    exact hother ⟨hlast, by omega, hrun⟩
  · -- if no stage ran, all would have made the same chunks, and the first had a free buffer
    rintro ⟨i, hi, hlt⟩
    by_contra hnone
    have hrest : ∀ i < s.fifo.numStages, s.running i = false := by
      intro i hi
      cases hrun : s.running i with
      | false => rfl
      | true => exact absurd ⟨i, hi, hrun⟩ hnone
    have hstuck : ∀ i < s.fifo.numStages, s.count i < n → ¬s.fifo.CanAdvance s.count i :=
      fun i hi hlt => hf.rests i hi trivial (hrest i hi) hlt
    have hlastlt : s.count (s.fifo.numStages - 1) < n := lt_of_le_of_lt (hle i hi) hlt
    have hequal : ∀ j, j < s.fifo.numStages →
        s.count (s.fifo.numStages - 1 - j) = s.count (s.fifo.numStages - 1) := by
      intro j
      induction j with
      | zero => exact fun _ => rfl
      | succ j ih =>
        intro hj
        have ih := ih (Nat.lt_of_succ_lt hj)
        have hstuckj := hstuck (s.fifo.numStages - 1 - j) (by omega) (by omega)
        unfold BufferFIFO.CanAdvance at hstuckj
        rw [if_neg (by omega), show s.fifo.numStages - 1 - j - 1 = s.fifo.numStages - 1 - (j + 1) by
          omega] at hstuckj
        have := hle (s.fifo.numStages - 1 - (j + 1)) (by omega)
        omega
    have hzero : s.count 0 = s.count (s.fifo.numStages - 1) := by
      have := hequal (s.fifo.numStages - 1) (by omega)
      rwa [Nat.sub_self] at this
    have hstuck0 := hstuck 0 (by omega) (by omega)
    unfold BufferFIFO.CanAdvance at hstuck0
    have hfits := hf.ring.fits
    rw [if_pos rfl] at hstuck0
    omega
  · intro hlastn i hi
    have hcount : s.count i = n := le_antisymm (hf.sizes i hi).1 (hlastn ▸ hle i hi)
    exact ⟨hcount, hidle i hi hcount⟩

/-! ### The steps keep it -/

theorem chunkSize_le {max : Nat} (hlast : last ≤ max) (k : Nat) : chunkSize max n last k ≤ max := by
  unfold chunkSize
  split
  · exact Nat.le_refl _
  · exact hlast

/-- Two buffers do not meet. -/
theorem buffers_apart {max a c offset len size : Nat} (hne : c ≠ a) (hsize : size ≤ max)
    (hlen : offset + len ≤ max) :
    max * c + size ≤ max * a + offset ∨ max * a + offset + len ≤ max * c := by
  rcases Nat.lt_or_gt_of_ne hne with hlt | hlt
  · left
    have := Nat.mul_le_mul_left max (Nat.succ_le_of_lt hlt)
    rw [Nat.mul_succ] at this
    omega
  · right
    have := Nat.mul_le_mul_left max (Nat.succ_le_of_lt hlt)
    rw [Nat.mul_succ] at this
    omega

/-- A stage that stores bytes in its buffer. -/
theorem Flow.store (hlast : last ≤ s.fifo.maxBufferSize) (hf : Flow n last settled s)
    (hi : i < s.fifo.numStages) (hrun : s.running i = true) {offset : Nat}
    (hoff : offset < s.fifo.maxBufferSize) (b : UInt8) :
    Flow n last settled (stageStep s (.store i offset b)) := by
  obtain ⟨hring, hruns, hproc, hst, hunst, hrests, hsizes, hgiven, horder, hheld⟩ := hf
  refine ⟨hring, hruns, hproc, hst, hunst, hrests, hsizes, hgiven, horder, ?_⟩
  intro j hj k hk hle hother
  change j + 1 < s.fifo.numStages at hj
  change k < (s.made j).length at hk
  change s.count (j + 1) ≤ k at hle
  change ¬(j + 2 = s.fifo.numStages ∧ k = s.count (j + 1) ∧ s.running (j + 1) = true) at hother
  change (s.bufferStorage.write (s.bufferWrite i + offset) [b]).read
    (s.fifo.maxBufferSize * ((s.fifo.numStages - 2 - j + k) % s.fifo.bufferCount))
    (chunkSize s.fifo.maxBufferSize n last k) = (s.made j)[k]
  rw [← hheld j hj k hk hle hother]
  have hslot := hring.slot_ne hi (hruns i hi hrun).1 hj hle hk (by
    rintro ⟨hin, hji, hki⟩
    refine hother ⟨?_, ?_, ?_⟩
    · omega
    · rw [hji]
      exact hki
    · rw [hji]
      exact hrun)
  rw [← hring.write i hi] at hslot
  refine Mem.read_write_disjoint _ (buffers_apart hslot ?_ ?_)
  · exact chunkSize_le hlast k
  · exact hoff

/-- A stage that has its last chunk under way stalls. -/
theorem Flow.stall (hf : Flow n last settled s) (hi : i < s.fifo.numStages)
    (hrun : s.running i = true) (hcount : s.count i + 1 = n) :
    Flow n last settled (stageStep s (.stall i)) := by
  obtain ⟨hring, hruns, hproc, hst, hunst, hrests, hsizes, hgiven, horder, hheld⟩ := hf
  refine ⟨hring.stallStage, hruns, ?_, ?_, ?_, hrests, hsizes, hgiven, horder, hheld⟩
  · intro j hj
    change update s.fifo.stageProcessing i false j =
      (s.running j && !update s.fifo.stalled i true j)
    by_cases h : j = i
    · subst h
      simp
    · rw [update_of_ne h, update_of_ne h]
      exact hproc j hj
  · intro j hj hstalled
    change update s.fifo.stalled i true j = true at hstalled
    by_cases h : j = i
    · subst h
      change n ≤ s.count j + if s.running j = true then 1 else 0
      rw [hrun, if_pos rfl]
      omega
    · rw [update_of_ne h] at hstalled
      exact hst j hj hstalled
  · intro j hj hstalled
    change update s.fifo.stalled i true j = false at hstalled
    by_cases h : j = i
    · subst h
      rw [update_self] at hstalled
      cases hstalled
    · rw [update_of_ne h] at hstalled
      exact hunst j hj hstalled

/-- **A stage that is not stalled is given the next chunk**, and one that is stalled
    cannot go on. -/
theorem Flow.wake (hf : Flow n last settled s) (hi : i < s.fifo.numStages) :
    Flow n last (fun j => settled j ∨ j = i) (s.wake i) := by
  unfold Pipeline.wake
  cases hstalled : s.fifo.stageStalled i with
  | true =>
    rw [if_pos rfl]
    obtain ⟨hring, hruns, hproc, hst, hunst, hrests, hsizes, hgiven, horder, hheld⟩ := hf
    refine ⟨hring, hruns, hproc, hst, hunst, ?_, hsizes, hgiven, horder, hheld⟩
    rintro j hj (h | rfl) hrun hlt
    · exact hrests j hj h hrun hlt
    · have hns : s.fifo.stalled j = false := by
        by_contra h
        have := hst j hj (by simpa using h)
        rw [hrun, if_neg Bool.false_ne_true] at this
        omega
      refine hring.not_canAdvance hj ?_ hns hstalled
      rw [hproc j hj, hrun]
      rfl
  | false =>
    rw [if_neg Bool.false_ne_true]
    have hcan := hf.ring.canAdvance_of_not_stalled hi hstalled
    have hflags : s.fifo.stageProcessing i = false ∧ s.fifo.stalled i = false := by
      unfold BufferFIFO.stageStalled at hstalled
      split at hstalled
      · cases hstalled
      · rename_i h
        simpa using h
    have hlt := hf.unstalled i hi hflags.2
    have hidle : s.running i = false := by
      have := hf.processing i hi
      rw [hflags.1, hflags.2] at this
      simpa using this.symm
    obtain ⟨hring, hruns, hproc, hst, hunst, hrests, hsizes, hgiven, horder, hheld⟩ := hf
    refine ⟨hring.beginStage hi hstalled, ?_, ?_, ?_, hunst, ?_, hsizes, ?_, ?_, ?_⟩
    · intro j hj hrun
      change update s.running i true j = true at hrun
      by_cases h : j = i
      · subst h
        exact ⟨hcan, hlt⟩
      · rw [update_of_ne h] at hrun
        exact hruns j hj hrun
    · intro j hj
      change update s.fifo.stageProcessing i true j =
        (update s.running i true j && !s.fifo.stalled j)
      by_cases h : j = i
      · subst h
        simp [hflags.2]
      · rw [update_of_ne h, update_of_ne h]
        exact hproc j hj
    · intro j hj hstalledj
      change n ≤ s.count j + if update s.running i true j = true then 1 else 0
      by_cases h : j = i
      · subst h
        exact absurd (hflags.2.symm.trans hstalledj) (by decide)
      · rw [update_of_ne h]
        exact hst j hj hstalledj
    · rintro j hj hset hrun
      change update s.running i true j = false at hrun
      by_cases h : j = i
      · subst h
        rw [update_self] at hrun
        cases hrun
      · rw [update_of_ne h] at hrun
        exact hrests j hj (hset.resolve_right h) hrun
    · intro j hj
      change (update s.taken i _ j).length =
        s.count j + if update s.running i true j = true then 1 else 0
      by_cases h : j = i
      · subst h
        have := hgiven j hj
        rw [hidle, if_neg Bool.false_ne_true] at this
        rw [update_self, update_self, if_pos rfl, List.length_append, this]
        rfl
      · rw [update_of_ne h, update_of_ne h]
        exact hgiven j hj
    · intro j hj
      change update s.taken i _ (j + 1) <+: s.made j
      by_cases h : j + 1 = i
      · subst h
        have hprefix := horder j hj
        have hlen : (s.taken (j + 1)).length = s.count (j + 1) := by
          simpa [hidle] using hgiven (j + 1) hj
        unfold BufferFIFO.CanAdvance at hcan
        rw [if_neg (Nat.succ_ne_zero j), Nat.add_sub_cancel] at hcan
        have hmade : s.count (j + 1) < (s.made j).length := hcan
        have hread := hring.read (j + 1) hj
        rw [BufferFIFO.readBase, if_neg (Nat.succ_ne_zero j),
          show s.fifo.numStages - 1 - (j + 1) = s.fifo.numStages - 2 - j by omega] at hread
        have hchunk := hheld j hj (s.count (j + 1)) hmade (Nat.le_refl _) (by
          rintro ⟨-, -, hrun⟩
          exact absurd (hidle.symm.trans hrun) (by decide))
        rw [update_self, hring.readSize_succ hj hcan]
        unfold bufferRead
        rw [hread, hchunk, List.prefix_iff_eq_take.mp hprefix, hlen]
        rw [← List.take_succ_eq_append_getElem hmade]
        exact List.take_prefix _ _
      · rw [update_of_ne h]
        exact horder j hj
    · intro j hj k hk hle hother
      refine hheld j hj k hk hle fun h => hother ⟨h.1, h.2.1, ?_⟩
      change update s.running i true (j + 1) = true
      by_cases hji : j + 1 = i
      · rw [hji, update_self]
      · rw [update_of_ne hji]
        exact h.2.2

theorem count_advance (s : Pipeline) (i writeLen : Nat) :
    (s.advance i writeLen).count = update s.count i (s.count i + 1) := by
  funext j
  change (update s.made i _ j).length = _
  by_cases h : j = i
  · subst h
    rw [update_self, update_self, List.length_append]
    rfl
  · rw [update_of_ne h, update_of_ne h]
    rfl

/-- A chunk that is there after a stage has made one is the new chunk, or was there. -/
theorem made_advance (s : Pipeline) (i writeLen : Nat) {j k : Nat}
    (hk : k < ((s.advance i writeLen).made j).length) :
    (j = i ∧ k = s.count i ∧ ((s.advance i writeLen).made j)[k] =
        s.bufferStorage.read (s.bufferWrite i) writeLen) ∨
      ∃ hold : k < (s.made j).length, ((s.advance i writeLen).made j)[k] = (s.made j)[k] := by
  have hmade : (s.advance i writeLen).made =
      update s.made i (s.made i ++ [s.bufferStorage.read (s.bufferWrite i) writeLen]) := rfl
  simp only [hmade] at hk ⊢
  by_cases h : j = i
  · subst h
    simp only [update_self] at hk ⊢
    rcases Nat.lt_or_ge k (s.made j).length with hlt | hge
    · exact .inr ⟨hlt, List.getElem_append_left hlt⟩
    · left
      rw [List.length_append, List.length_singleton] at hk
      refine ⟨trivial, by unfold count; omega, ?_⟩
      rw [List.getElem_append_right hge, List.getElem_singleton]
  · simp only [update_of_ne h] at hk ⊢
    exact .inr ⟨hk, trivial⟩

/-- Another stage that could not go on still cannot, unless it comes behind this one. -/
theorem not_canAdvance_update {bf : BufferFIFO} {count : Nat → Nat} (hn : 2 ≤ bf.numStages)
    {j : Nat} (hj : j < bf.numStages) (hne : j ≠ i)
    (hnext : j ≠ (i + 1) % bf.numStages) (h : ¬bf.CanAdvance count j) :
    ¬bf.CanAdvance (update count i (count i + 1)) j := by
  unfold BufferFIFO.CanAdvance at h ⊢
  by_cases hj0 : j = 0
  · have hlast : bf.numStages - 1 ≠ i := by
      rintro hl
      rw [← hl, Nat.sub_add_cancel (by omega), Nat.mod_self] at hnext
      exact hnext hj0
    rw [if_pos hj0] at h ⊢
    rwa [update_of_ne (hj0 ▸ hne), update_of_ne hlast]
  · have hpred : j - 1 ≠ i := by
      rintro hp
      have hji : j = i + 1 := by omega
      rw [← hji, Nat.mod_eq_of_lt hj] at hnext
      exact hnext rfl
    rw [if_neg hj0] at h ⊢
    rwa [update_of_ne hne, update_of_ne hpred]

/-- **A stage has made a chunk.** -/
theorem Flow.advance (hf : Flow n last (fun _ => True) s) (hi : i < s.fifo.numStages)
    (hrun : s.running i = true)
    (hstall : s.fifo.stalled i = true ↔ s.count i + 1 = n) :
    Flow n last (fun j => j ≠ i ∧ j ≠ (i + 1) % s.fifo.numStages)
      (s.advance i (chunkSize s.fifo.maxBufferSize n last (s.count i))) := by
  have hn := hf.ring.two_le
  obtain ⟨hring, hruns, hproc, hst, hunst, hrests, hsizes, hgiven, horder, hheld⟩ := hf
  obtain ⟨hcan, hlt⟩ := hruns i hi hrun
  generalize hs' : s.advance i (chunkSize s.fifo.maxBufferSize n last (s.count i)) = s'
  have hcount : s'.count = update s.count i (s.count i + 1) := by
    rw [← hs']
    exact count_advance s i _
  have hstages : s'.fifo.numStages = s.fifo.numStages := by rw [← hs']; rfl
  have hmax : s'.fifo.maxBufferSize = s.fifo.maxBufferSize := by rw [← hs']; rfl
  have hbuffers : s'.fifo.bufferCount = s.fifo.bufferCount := by rw [← hs']; rfl
  have hstalled : s'.fifo.stalled = s.fifo.stalled := by rw [← hs']; rfl
  have hrunning : s'.running = update s.running i false := by rw [← hs']; rfl
  have hprocessing : s'.fifo.stageProcessing = update s.fifo.stageProcessing i false := by
    rw [← hs']; rfl
  have htaken : s'.taken = s.taken := by rw [← hs']; rfl
  have hmade : s'.made = update s.made i (s.made i ++ [s.bufferStorage.read (s.bufferWrite i)
      (chunkSize s.fifo.maxBufferSize n last (s.count i))]) := by rw [← hs']; rfl
  have hstorage : s'.bufferStorage = s.bufferStorage := by rw [← hs']; rfl
  have hcanEq : ∀ c j, s'.fifo.CanAdvance c j ↔ s.fifo.CanAdvance c j := by
    intro c j
    rw [← hs']
    rfl
  have hbehind : ∀ j < s.fifo.numStages, s.running j = true → j ≠ i →
      s.fifo.CanAdvance (update s.count i (s.count i + 1)) j := by
    intro j hj hrunj hne
    have hcanj := (hruns j hj hrunj).1
    unfold BufferFIFO.CanAdvance at hcanj ⊢
    by_cases hj0 : j = 0
    · rw [if_pos hj0] at hcanj ⊢
      rw [update_of_ne (hj0 ▸ hne)]
      by_cases hl : s.fifo.numStages - 1 = i
      · rw [hl] at hcanj ⊢
        rw [update_self]
        omega
      · rwa [update_of_ne hl]
    · rw [if_neg hj0] at hcanj ⊢
      rw [update_of_ne hne]
      by_cases hp : j - 1 = i
      · rw [hp] at hcanj ⊢
        rw [update_self]
        omega
      · rwa [update_of_ne hp]
  refine ⟨?_, ?_, ?_, ?_, ?_, ?_, ?_, ?_, ?_, ?_⟩
  · rw [hcount, hmax, ← hs']
    exact hring.advance hi hcan
  · intro j hj hrunj
    rw [hstages] at hj
    rw [hrunning] at hrunj
    rw [hcount, hcanEq]
    by_cases h : j = i
    · rw [h, update_self] at hrunj
      cases hrunj
    · rw [update_of_ne h] at hrunj
      refine ⟨hbehind j hj hrunj h, ?_⟩
      rw [update_of_ne h]
      exact (hruns j hj hrunj).2
  · intro j hj
    rw [hstages] at hj
    rw [hprocessing, hrunning, hstalled]
    by_cases h : j = i
    · subst h
      simp
    · rw [update_of_ne h, update_of_ne h]
      exact hproc j hj
  · intro j hj hstalledj
    rw [hstages] at hj
    rw [hstalled] at hstalledj
    rw [hcount, hrunning]
    by_cases h : j = i
    · subst h
      rw [update_self, update_self, if_neg Bool.false_ne_true]
      exact le_of_eq (hstall.mp hstalledj).symm
    · rw [update_of_ne h, update_of_ne h]
      exact hst j hj hstalledj
  · intro j hj hstalledj
    rw [hstages] at hj
    rw [hstalled] at hstalledj
    rw [hcount]
    by_cases h : j = i
    · subst h
      rw [update_self]
      have hne : s.count j + 1 ≠ n := by
        intro heq
        rw [hstall.mpr heq] at hstalledj
        cases hstalledj
      omega
    · rw [update_of_ne h]
      exact hunst j hj hstalledj
  · rintro j hj ⟨hne, hnext⟩ hrunj hltj
    rw [hstages] at hj
    rw [hrunning, update_of_ne hne] at hrunj
    rw [hcount, update_of_ne hne] at hltj
    rw [hcount, hcanEq]
    exact not_canAdvance_update hn hj hne hnext (hrests j hj trivial hrunj hltj)
  · intro j hj
    rw [hstages] at hj
    rw [hcount, hmade, hmax]
    by_cases h : j = i
    · subst h
      rw [update_self, update_self]
      refine ⟨hlt, ?_⟩
      intro k hk
      rw [List.getElem_append]
      split
      · exact (hsizes j hj).2 k _
      · rename_i hge
        rw [List.length_append, List.length_singleton] at hk
        have hkc : k = s.count j := by
          unfold count
          omega
        simp [hkc]
    · rw [update_of_ne h, update_of_ne h]
      exact hsizes j hj
  · intro j hj
    rw [hstages] at hj
    rw [htaken, hcount, hrunning, hgiven j hj]
    by_cases h : j = i
    · subst h
      rw [update_self, update_self, hrun]
      rfl
    · rw [update_of_ne h, update_of_ne h]
  · intro j hj
    rw [hstages] at hj
    rw [htaken, hmade]
    by_cases h : j = i
    · subst h
      rw [update_self]
      exact (horder j hj).trans (List.prefix_append _ _)
    · rw [update_of_ne h]
      exact horder j hj
  · intro j hj k hk hle hother
    rw [hstages] at hj
    rw [hcount] at hle
    rw [hstages, hcount, hrunning] at hother
    have hleold : s.count (j + 1) ≤ k := by
      by_cases h : j + 1 = i
      · rw [h, update_self] at hle
        rw [h]
        omega
      · rwa [update_of_ne h] at hle
    have hotherold : ¬(j + 2 = s.fifo.numStages ∧ k = s.count (j + 1) ∧ s.running (j + 1) = true) := by
      rintro ⟨h1, h2, h3⟩
      by_cases h : j + 1 = i
      · rw [h, update_self] at hle
        rw [h] at h2
        omega
      · refine hother ⟨h1, ?_, ?_⟩
        · rwa [update_of_ne h]
        · rwa [update_of_ne h]
    rw [hstorage, hmax, hstages, hbuffers]
    subst hs'
    rcases made_advance s i _ hk with ⟨rfl, rfl, hget⟩ | ⟨hkold, hget⟩
    · have hwrite : s.fifo.maxBufferSize * ((s.fifo.numStages - 2 - j + s.count j) %
          s.fifo.bufferCount) = s.bufferWrite j := by
        unfold bufferWrite
        rw [hring.write j hi]
      rw [hwrite, hget]
    · rw [hheld j hj k hkold hleold hotherold, hget]

/-- The part of the state the end of `bufferFIFO_processingComplete` touches. -/
theorem Flow.finish (hf : Flow n last settled s) : Flow n last settled s.finish := by
  obtain ⟨⟨h₁, h₂, h₃, h₄, h₅, h₆, h₇, h₈, h₉⟩, hruns, hproc, hst, hunst, hrests, hsizes, hgiven,
    horder, hheld⟩ := hf
  unfold Pipeline.finish
  split
  · dsimp only
    split
    · exact ⟨⟨h₁, h₂, h₃, h₄, h₅, h₆, h₇, h₈, h₉⟩, hruns, hproc, hst, hunst, hrests, hsizes, hgiven,
        horder, hheld⟩
    · exact ⟨⟨h₁, h₂, h₃, h₄, h₅, h₆, h₇, h₈, h₉⟩, hruns, hproc, hst, hunst, hrests, hsizes, hgiven,
        horder, hheld⟩
  · exact ⟨⟨h₁, h₂, h₃, h₄, h₅, h₆, h₇, h₈, h₉⟩, hruns, hproc, hst, hunst, hrests, hsizes, hgiven,
      horder, hheld⟩

/-- How far `bufferFIFO_processingComplete` gets through the stages. -/
theorem skipStalled_eq (bf : BufferFIFO) (hle : bf.stallIndex ≤ bf.numStages) :
    bf.skipStalled.stallIndex ≤ bf.numStages ∧
      (bf.skipStalled.stallIndex = bf.numStages ↔
        ∀ i, bf.stallIndex ≤ i → i < bf.numStages →
          bf.stageProcessing i = false ∧ bf.stalled i = true) := by
  unfold BufferFIFO.skipStalled
  dsimp only
  generalize hp : (fun i => !bf.stageProcessing i && bf.stalled i) = p
  have hlen : (List.range' bf.stallIndex (bf.numStages - bf.stallIndex)).length =
      bf.numStages - bf.stallIndex := List.length_range'
  have htake := (List.takeWhile_prefix p
    (l := List.range' bf.stallIndex (bf.numStages - bf.stallIndex))).length_le
  refine ⟨by omega, ?_⟩
  have hall : (∀ i, bf.stallIndex ≤ i → i < bf.numStages →
      bf.stageProcessing i = false ∧ bf.stalled i = true) ↔
      ∀ i ∈ List.range' bf.stallIndex (bf.numStages - bf.stallIndex), p i = true := by
    rw [← hp]
    simp only [List.mem_range'_1, Bool.and_eq_true, Bool.not_eq_true', and_imp]
    constructor
    · intro h i hi hi'
      exact h i hi (by omega)
    · intro h i hi hi'
      exact h i hi (by omega)
  rw [hall]
  constructor
  · intro heq
    have hfull : (List.range' bf.stallIndex (bf.numStages - bf.stallIndex)).takeWhile p =
        List.range' bf.stallIndex (bf.numStages - bf.stallIndex) :=
      (List.takeWhile_prefix p).eq_of_length (by omega)
    exact List.takeWhile_eq_self_iff.mp hfull
  · intro h
    rw [List.takeWhile_eq_self_iff.mpr h]
    omega

/-- **The callback is called with the last chunk of the last stage.** -/
theorem Flow.ending (hf : Flow n last (fun _ => True) s)
    (hlast : s.fifo.stalled (s.fifo.numStages - 1) = true →
      s.running (s.fifo.numStages - 1) = false)
    (hstall : s.fifo.processing = true → s.fifo.stallIndex < s.fifo.numStages)
    (hcompleted : s.fifo.processing = true ∧ s.completed = 0 ∨
      s.fifo.processing = false ∧ s.completed = 1 ∧ s.count (s.fifo.numStages - 1) = n) :
    Ending n s.finish := by
  have hn := hf.ring.two_le
  rcases hcompleted with ⟨hproc, hzero⟩ | ⟨hproc, hone, hcount⟩
  · have hidx := hstall hproc
    obtain ⟨hle, hiff⟩ := skipStalled_eq s.fifo (Nat.le_of_lt hidx)
    have hall : s.fifo.skipStalled.stallIndex = s.fifo.numStages ↔
        s.count (s.fifo.numStages - 1) = n := by
      rw [hiff]
      constructor
      · intro h
        obtain ⟨-, hs⟩ := h (s.fifo.numStages - 1) (by omega) (by omega)
        have hst := hf.stalled _ (by omega) hs
        rw [hlast hs, if_neg Bool.false_ne_true] at hst
        exact le_antisymm (hf.sizes _ (by omega)).1 hst
      · -- the stages before it have made as many chunks
        intro hcount i _ hi
        have hge : n ≤ s.count i := hcount ▸ hf.ring.count_le (by omega) (by omega)
        have hrun : s.running i = false := by
          cases hrun : s.running i with
          | false => rfl
          | true => exact absurd (hf.runs i hi hrun).2 (by omega)
        have hst : s.fifo.stalled i = true := by
          cases hst : s.fifo.stalled i with
          | true => rfl
          | false => exact absurd (hf.unstalled i hi hst) (by omega)
        refine ⟨?_, hst⟩
        rw [hf.processing i hi, hrun]
        rfl
    unfold Pipeline.finish
    rw [if_pos hproc]
    dsimp only
    by_cases hend : s.fifo.skipStalled.stallIndex = s.fifo.skipStalled.numStages
    · rw [if_pos hend]
      have hcount := hall.mp hend
      refine ⟨(fun h => by cases h), ?_, ?_⟩
      · change false = decide (s.count (s.fifo.numStages - 1) ≠ n)
        simp [hcount]
      · change s.completed + 1 = if s.count (s.fifo.numStages - 1) = n then 1 else 0
        rw [if_pos hcount, hzero]
    · rw [if_neg hend]
      have hcount : s.count (s.fifo.numStages - 1) ≠ n := fun h => hend (hall.mpr h)
      refine ⟨fun _ => lt_of_le_of_ne hle hend, ?_, ?_⟩
      · change s.fifo.processing = decide (s.count (s.fifo.numStages - 1) ≠ n)
        rw [hproc, decide_eq_true hcount]
      · change s.completed = if s.count (s.fifo.numStages - 1) = n then 1 else 0
        rw [if_neg hcount, hzero]
  · unfold Pipeline.finish
    rw [if_neg (by rw [hproc]; decide)]
    refine ⟨hstall, ?_, ?_⟩
    · rw [hproc]
      simp [hcount]
    · rw [if_pos hcount, hone]

/-- What a call of `bufferFIFO_execStage` for a stage that may not be stalled leaves alone. -/
theorem wake_same (s : Pipeline) (i : Nat) :
    (s.wake i).fifo.numStages = s.fifo.numStages ∧ (s.wake i).fifo.stalled = s.fifo.stalled ∧
      (s.wake i).fifo.processing = s.fifo.processing ∧
      (s.wake i).fifo.stallIndex = s.fifo.stallIndex ∧
      (s.wake i).count = s.count ∧ (s.wake i).completed = s.completed ∧
      (s.wake i).fifo.maxBufferSize = s.fifo.maxBufferSize ∧
      ∀ j, s.fifo.stalled j = true → (s.wake i).running j = s.running j := by
  unfold Pipeline.wake
  split
  · exact ⟨rfl, rfl, rfl, rfl, rfl, rfl, rfl, fun _ _ => rfl⟩
  · rename_i hnot
    refine ⟨rfl, rfl, rfl, rfl, rfl, rfl, rfl, fun j hj => ?_⟩
    change update s.running i true j = s.running j
    by_cases h : j = i
    · subst h
      refine absurd ?_ hnot
      unfold BufferFIFO.stageStalled
      rw [if_pos (by rw [hj, Bool.or_true])]
    · rw [update_of_ne h]

theorem wake_stalls (s : Pipeline) (i : Nat) : (s.wake i).stalls = s.stalls := by
  unfold Pipeline.wake
  split
  · rfl
  · rfl

theorem finish_same (s : Pipeline) :
    s.finish.fifo.maxBufferSize = s.fifo.maxBufferSize ∧
      s.finish.fifo.numStages = s.fifo.numStages ∧ s.finish.fifo.stalled = s.fifo.stalled ∧
      s.finish.stalls = s.stalls ∧ s.finish.count = s.count := by
  unfold Pipeline.finish
  split
  · dsimp only
    split
    · exact ⟨rfl, rfl, rfl, rfl, rfl⟩
    · exact ⟨rfl, rfl, rfl, rfl, rfl⟩
  · exact ⟨rfl, rfl, rfl, rfl, rfl⟩

/-- What `bufferFIFO_processingComplete` leaves alone, and the chunk it counts. -/
theorem processingComplete_same (s : Pipeline) (i writeLen : Nat) :
    (s.processingComplete i writeLen).fifo.maxBufferSize = s.fifo.maxBufferSize ∧
      (s.processingComplete i writeLen).fifo.numStages = s.fifo.numStages ∧
      (s.processingComplete i writeLen).fifo.stalled = s.fifo.stalled ∧
      (s.processingComplete i writeLen).stalls = s.stalls ∧
      (s.processingComplete i writeLen).count = update s.count i (s.count i + 1) := by
  obtain ⟨a₁, a₂, -, -, a₃, -, a₄, -⟩ := wake_same (s.advance i writeLen) i
  obtain ⟨b₁, b₂, -, -, b₃, -, b₄, -⟩ :=
    wake_same ((s.advance i writeLen).wake i) ((i + 1) % s.fifo.numStages)
  obtain ⟨c₁, c₂, c₃, c₄, c₅⟩ :=
    finish_same (((s.advance i writeLen).wake i).wake ((i + 1) % s.fifo.numStages))
  unfold processingComplete
  rw [c₁, c₂, c₃, c₄, c₅, b₁, b₂, b₃, b₄, a₁, a₂, a₃, a₄, wake_stalls, wake_stalls, count_advance]
  exact ⟨rfl, rfl, rfl, rfl, rfl⟩

/-- **A completed chunk keeps the invariant.** -/
theorem Flow.complete (hf : Flow n last (fun _ => True) s) (he : Ending n s)
    (hi : i < s.fifo.numStages) (hrun : s.running i = true)
    (hstall : s.fifo.stalled i = true ↔ s.count i + 1 = n) :
    Flow n last (fun _ => True)
        (s.processingComplete i (chunkSize s.fifo.maxBufferSize n last (s.count i))) ∧
      Ending n (s.processingComplete i (chunkSize s.fifo.maxBufferSize n last (s.count i))) := by
  have hn := hf.ring.two_le
  have hadv := hf.advance hi hrun hstall
  have hcount := count_advance s i (chunkSize s.fifo.maxBufferSize n last (s.count i))
  unfold processingComplete
  have hkept : (s.advance i (chunkSize s.fifo.maxBufferSize n last (s.count i))).fifo.stalled =
      s.fifo.stalled ∧
      (s.advance i (chunkSize s.fifo.maxBufferSize n last (s.count i))).fifo.numStages =
        s.fifo.numStages ∧
      (s.advance i (chunkSize s.fifo.maxBufferSize n last (s.count i))).fifo.processing =
        s.fifo.processing ∧
      (s.advance i (chunkSize s.fifo.maxBufferSize n last (s.count i))).fifo.stallIndex =
        s.fifo.stallIndex ∧
      (s.advance i (chunkSize s.fifo.maxBufferSize n last (s.count i))).completed = s.completed ∧
      (s.advance i (chunkSize s.fifo.maxBufferSize n last (s.count i))).running =
        update s.running i false := ⟨rfl, rfl, rfl, rfl, rfl, rfl⟩
  generalize s.advance i (chunkSize s.fifo.maxBufferSize n last (s.count i)) =
    s₁ at hadv hcount hkept ⊢
  obtain ⟨k₁, k₂, k₃, k₄, k₅, k₆⟩ := hkept
  obtain ⟨a₁, a₂, a₃, a₄, a₅, a₆, -, a₇⟩ := wake_same s₁ i
  have hwake := hadv.wake (i := i) (by omega)
  generalize s₁.wake i = s₂ at a₁ a₂ a₃ a₄ a₅ a₆ a₇ hwake ⊢
  have hmod : (i + 1) % s.fifo.numStages < s.fifo.numStages := Nat.mod_lt _ (by omega)
  have hwake' := hwake.wake (i := (i + 1) % s.fifo.numStages) (by omega)
  obtain ⟨b₁, b₂, b₃, b₄, b₅, b₆, -, b₇⟩ := wake_same s₂ ((i + 1) % s.fifo.numStages)
  generalize s₂.wake ((i + 1) % s.fifo.numStages) = s₃ at b₁ b₂ b₃ b₄ b₅ b₆ b₇ hwake' ⊢
  have hflow : Flow n last (fun _ => True) s₃ := by
    obtain ⟨h₁, h₂, h₃, h₄, h₅, h₆, h₇, h₈, h₉, h₁₀⟩ := hwake'
    refine ⟨h₁, h₂, h₃, h₄, h₅, fun j hj _ => h₆ j hj ?_, h₇, h₈, h₉, h₁₀⟩
    by_cases h : j = i
    · exact .inl (.inr h)
    · by_cases h' : j = (i + 1) % s.fifo.numStages
      · exact .inr h'
      · exact .inl (.inl ⟨h, h'⟩)
  refine ⟨hflow.finish, hflow.ending ?_ ?_ ?_⟩
  · -- the last stage has its last chunk under way only when the others are done
    intro hst
    rw [b₁, a₁, k₂] at hst ⊢
    have hst₂ : s₂.fifo.stalled (s.fifo.numStages - 1) = true := by rwa [← b₂]
    have hst₁ : s₁.fifo.stalled (s.fifo.numStages - 1) = true := by rwa [← a₂]
    rw [b₇ _ hst₂, a₇ _ hst₁, k₆]
    by_cases h : s.fifo.numStages - 1 = i
    · rw [h, update_self]
    · rw [update_of_ne h]
      cases hrunlast : s.running (s.fifo.numStages - 1) with
      | false => rfl
      | true =>
        have hmany := hf.stalled (s.fifo.numStages - 1) (by omega) (by rwa [← k₁])
        rw [hrunlast, if_pos rfl] at hmany
        have hcan := (hf.runs _ (by omega) hrunlast).1
        unfold BufferFIFO.CanAdvance at hcan
        rw [if_neg (by omega)] at hcan
        have hlt := (hf.runs i hi hrun).2
        have hanti : s.count (s.fifo.numStages - 1 - 1) ≤ s.count i :=
          hf.ring.count_le (by omega) (by omega)
        omega
  · intro hproc
    rw [b₁, a₁, k₂, b₄, a₄, k₄]
    exact he.stallIndex (by rwa [b₃, a₃, k₃] at hproc)
  · -- a stage still runs, so the last one has chunks to make
    left
    have hlt : s.count (s.fifo.numStages - 1) ≠ n := by
      have := hf.ring.count_le (i := i) (j := s.fifo.numStages - 1) (by omega) (by omega)
      have := (hf.runs i hi hrun).2
      omega
    constructor
    · rw [b₃, a₃, k₃, he.processing, decide_eq_true hlt]
    · rw [b₆, a₆, k₅, he.completed, if_neg hlt]

/-- `bufferFIFO_start` before it calls `bufferFIFO_execStage`. -/
def idle (bf : BufferFIFO) (bufferStorage : Mem) (firstBufferSize : Nat) : Pipeline where
  fifo := bf.start firstBufferSize
  bufferStorage
  running := fun _ => false
  taken := fun _ => []
  made := fun _ => []
  stalls := fun _ => false
  completed := 0

/-- Before a transfer starts only the first stage has something to do. -/
theorem flow_idle (bf : BufferFIFO) (m : Mem) (firstBufferSize : Nat) (hn : 1 ≤ n)
    (hstages : 2 ≤ bf.numStages) (hbuffers : bf.numStages ≤ bf.bufferCount) :
    Flow n last (fun j => j ≠ 0) (idle bf m firstBufferSize) ∧
      (bf.start firstBufferSize).stageStalled 0 = false := by
  have hring := BufferFIFO.ring_start (chunkSize bf.maxBufferSize n last) firstBufferSize hstages
    (by omega)
  have hproc : ∀ i < bf.numStages, (bf.start firstBufferSize).stageProcessing i = false :=
    fun i hi => if_pos hi
  have hst : ∀ i < bf.numStages, (bf.start firstBufferSize).stalled i = false :=
    fun i hi => if_pos hi
  have hflow : Flow n last (fun j => j ≠ 0) (idle bf m firstBufferSize) := by
    refine ⟨hring, ?_, hproc, ?_, ?_, ?_, ?_, ?_, ?_, ?_⟩
    · intro i _ h
      cases h
    · intro i hi h
      rw [show (idle bf m firstBufferSize).fifo.stalled i = false from hst i hi] at h
      cases h
    · intro i _ _
      exact hn
    · intro i _ hne _ _
      unfold BufferFIFO.CanAdvance
      rw [if_neg hne]
      exact Nat.lt_irrefl 0
    · intro i _
      refine ⟨Nat.zero_le n, fun k hk => ?_⟩
      cases hk
    · intro i _
      rfl
    · intro i _
      exact List.nil_prefix
    · intro i _ k hk
      cases hk
  refine ⟨hflow, ?_⟩
  cases hstalled : (bf.start firstBufferSize).stageStalled 0 with
  | false => rfl
  | true =>
    have hzero : 0 < bf.numStages := by omega
    refine absurd ?_ (hring.not_canAdvance hzero (hproc 0 hzero) (hst 0 hzero) hstalled)
    unfold BufferFIFO.CanAdvance
    rw [if_pos rfl]
    change bf.numStages - 2 + 0 < 0 + bf.bufferCount
    omega

/-- **The start of a transfer.** -/
theorem flow_start (bf : BufferFIFO) (m : Mem) (firstBufferSize : Nat) (hn : 1 ≤ n)
    (hstages : 2 ≤ bf.numStages) (hbuffers : bf.numStages ≤ bf.bufferCount) :
    Flow n last (fun _ => True) (start bf m firstBufferSize) ∧
      Ending n (start bf m firstBufferSize) := by
  have hidle : Flow n last (fun j => j ≠ 0) (idle bf m firstBufferSize) ∧
      (bf.start firstBufferSize).stageStalled 0 = false :=
    flow_idle bf m firstBufferSize hn hstages hbuffers
  obtain ⟨hflow, hready⟩ := hidle
  have hwake : (idle bf m firstBufferSize).wake 0 = start bf m firstBufferSize := by
    unfold Pipeline.wake
    rw [show (idle bf m firstBufferSize).fifo.stageStalled 0 = false from hready,
      if_neg Bool.false_ne_true]
    rfl
  obtain ⟨a₁, -, a₃, a₄, a₅, a₆, -, -⟩ := wake_same (idle bf m firstBufferSize) 0
  rw [hwake] at a₁ a₃ a₄ a₅ a₆
  constructor
  · have hfirst : 0 < bf.numStages := by omega
    obtain ⟨h₁, h₂, h₃, h₄, h₅, h₆, h₇, h₈, h₉, h₁₀⟩ := hwake ▸ hflow.wake (i := 0) hfirst
    refine ⟨h₁, h₂, h₃, h₄, h₅, fun j hj _ => h₆ j hj ?_, h₇, h₈, h₉, h₁₀⟩
    exact (Nat.eq_zero_or_pos j).symm.imp Nat.ne_of_gt id
  · have hne : (idle bf m firstBufferSize).count (bf.numStages - 1) ≠ n := by
      change 0 ≠ n
      omega
    refine ⟨?_, ?_, ?_⟩
    · intro _
      rw [a₁, a₄]
      change 0 < bf.numStages
      omega
    · rw [a₁, a₅, a₃]
      exact (decide_eq_true hne).symm
    · rw [a₁, a₅, a₆]
      exact (if_neg hne).symm

/-! ### Stages that leave the chunk they read -/

/-- The ring has every chunk that a stage has made and the next has not finished, the one
    that the last stage is reading included. -/
def Whole (n last : Nat) (s : Pipeline) : Prop :=
  ∀ i, i + 1 < s.fifo.numStages → ∀ k (hk : k < (s.made i).length), s.count (i + 1) ≤ k →
    s.bufferStorage.read
      (s.fifo.maxBufferSize * ((s.fifo.numStages - 2 - i + k) % s.fifo.bufferCount))
      (chunkSize s.fifo.maxBufferSize n last k) = (s.made i)[k]

/-- A stage that has run out of chunks does not run. -/
def Tight (s : Pipeline) : Prop :=
  ∀ i < s.fifo.numStages, s.running i = true → s.fifo.stalled i = false

/-- A stage has left `m` in memory and completes its chunk; after the last one it stalls. -/
def pass (n : Nat) (s : Pipeline) (m : Mem) (i writeLen : Nat) : Pipeline :=
  advance { s with
    bufferStorage := m
    fifo := if s.count i + 1 = n then s.fifo.stallStage i else s.fifo
    stalls := if s.count i + 1 = n then update s.stalls i true else s.stalls } i writeLen

/-- A stage other than the last stores bytes in its buffer. -/
theorem Whole.store (hw : Whole n last s) (hf : Flow n last settled s)
    (hlast : last ≤ s.fifo.maxBufferSize) (hi : i + 1 < s.fifo.numStages)
    (hrun : s.running i = true) {offset : Nat} {bs : Bytes}
    (hoff : offset + bs.length ≤ s.fifo.maxBufferSize) :
    Whole n last { s with
      bufferStorage := s.bufferStorage.write (s.bufferWrite i + offset) bs } := by
  intro j hj k hk hle
  change j + 1 < s.fifo.numStages at hj
  change k < (s.made j).length at hk
  change s.count (j + 1) ≤ k at hle
  have hslot := hf.ring.slot_ne (Nat.lt_of_succ_lt hi) (hf.runs i (Nat.lt_of_succ_lt hi) hrun).1 hj
    hle hk (by
      rintro ⟨hin, -, -⟩
      omega)
  rw [← hf.ring.write i (Nat.lt_of_succ_lt hi)] at hslot
  refine Eq.trans ?_ (hw j hj k hk hle)
  exact Mem.read_write_disjoint _ (buffers_apart hslot (chunkSize_le hlast k) hoff)

/-- With other bytes in memory the invariant still holds if the chunks are in the ring. -/
theorem Flow.withStorage (hf : Flow n last settled s) {m : Mem}
    (hw : Whole n last { s with bufferStorage := m }) :
    Flow n last settled { s with bufferStorage := m } := by
  obtain ⟨hring, hruns, hproc, hst, hunst, hrests, hsizes, hgiven, horder, -⟩ := hf
  exact ⟨hring, hruns, hproc, hst, hunst, hrests, hsizes, hgiven, horder,
    fun i hi k hk hle _ => hw i hi k hk hle⟩

theorem Whole.advance (hw : Whole n last s) (hf : Flow n last settled s)
    (hi : i < s.fifo.numStages) :
    Whole n last (s.advance i (chunkSize s.fifo.maxBufferSize n last (s.count i))) := by
  intro j hj k hk hle
  change j + 1 < s.fifo.numStages at hj
  rw [count_advance] at hle
  change s.bufferStorage.read
    (s.fifo.maxBufferSize * ((s.fifo.numStages - 2 - j + k) % s.fifo.bufferCount))
    (chunkSize s.fifo.maxBufferSize n last k) = _
  rcases made_advance s i _ hk with ⟨rfl, rfl, hget⟩ | ⟨hold, hget⟩
  · rw [hget]
    unfold bufferWrite
    rw [hf.ring.write j hi]
  · rw [hget]
    refine hw j hj k hold ?_
    by_cases h : j + 1 = i
    · rw [h, update_self] at hle
      rw [h]
      omega
    · rwa [update_of_ne h] at hle

theorem Whole.wake (hw : Whole n last s) (i : Nat) : Whole n last (s.wake i) := by
  unfold Pipeline.wake
  split
  · exact hw
  · exact hw

theorem Tight.wake (ht : Tight s) (i : Nat) : Tight (s.wake i) := by
  unfold Pipeline.wake
  cases hstalled : s.fifo.stageStalled i with
  | true => exact ht
  | false =>
    intro j hj hrun
    change update s.running i true j = true at hrun
    change s.fifo.stalled j = false
    by_cases h : j = i
    · subst h
      unfold BufferFIFO.stageStalled at hstalled
      split at hstalled
      · cases hstalled
      · rename_i h
        simp only [Bool.or_eq_true, not_or, Bool.not_eq_true] at h
        exact h.2
    · rw [update_of_ne h] at hrun
      exact ht j hj hrun

/-- **A stage completes its chunk.** -/
theorem Flow.pass (hf : Flow n last (fun _ => True) s) (ht : Tight s) (hi : i < s.fifo.numStages)
    (hrun : s.running i = true) {m : Mem} (hw : Whole n last { s with bufferStorage := m }) :
    Flow n last (fun j => j ≠ i ∧ j ≠ (i + 1) % s.fifo.numStages)
        (s.pass n m i (chunkSize s.fifo.maxBufferSize n last (s.count i))) ∧
      Whole n last (s.pass n m i (chunkSize s.fifo.maxBufferSize n last (s.count i))) ∧
      Tight (s.pass n m i (chunkSize s.fifo.maxBufferSize n last (s.count i))) := by
  have hflow := hf.withStorage hw
  unfold Pipeline.pass
  by_cases hend : s.count i + 1 = n
  · rw [if_pos hend, if_pos hend]
    have hstall := hflow.stall hi hrun hend
    have hiff : (stageStep { s with bufferStorage := m } (.stall i)).fifo.stalled i = true ↔
        s.count i + 1 = n := by
      simp [stageStep, BufferFIFO.stallStage, hend]
    refine ⟨hstall.advance hi hrun hiff, ?_, ?_⟩
    · exact Whole.advance (s := stageStep { s with bufferStorage := m } (.stall i)) hw hstall hi
    · intro j hj hrunj
      change update s.running i false j = true at hrunj
      change update s.fifo.stalled i true j = false
      by_cases h : j = i
      · rw [h, update_self] at hrunj
        cases hrunj
      · rw [update_of_ne h] at hrunj ⊢
        exact ht j hj hrunj
  · rw [if_neg hend, if_neg hend]
    have hiff : s.fifo.stalled i = true ↔ s.count i + 1 = n := by
      rw [ht i hi hrun]
      simp [hend]
    refine ⟨hflow.advance hi hrun hiff, hw.advance hflow hi, ?_⟩
    intro j hj hrunj
    change update s.running i false j = true at hrunj
    by_cases h : j = i
    · rw [h, update_self] at hrunj
      cases hrunj
    · rw [update_of_ne h] at hrunj
      exact ht j hj hrunj

/-! ### The end of a transfer -/

/-- The stages that have called `bufferFIFO_stallStage` are the stalled ones, and the completions
    are the chunks that the stages have made. -/
structure Counted (h : History Pipeline StageEvent) (s : Pipeline) : Prop where
  stalls : ∀ i < s.fifo.numStages, s.stalls i = s.fifo.stalled i
  sum : completions h = ∑ i ∈ Finset.range s.fifo.numStages, s.count i

theorem Counted.stall {h : History Pipeline StageEvent} (hc : Counted h s) (i : Nat) :
    Counted ((s, .stall i) :: h) (stageStep s (.stall i)) := by
  constructor
  · intro j hj
    change update s.stalls i true j = update s.fifo.stalled i true j
    by_cases hji : j = i
    · rw [hji, update_self, update_self]
    · rw [update_of_ne hji, update_of_ne hji]
      exact hc.stalls j hj
  · exact hc.sum

theorem Counted.complete {h : History Pipeline StageEvent} (hc : Counted h s)
    (hi : i < s.fifo.numStages) (writeLen : Nat) :
    Counted ((s, .complete i writeLen) :: h) (s.processingComplete i writeLen) := by
  obtain ⟨-, hstages, hstalled, hstalls, hcount⟩ := processingComplete_same s i writeLen
  constructor
  · intro j hj
    rw [hstages] at hj
    rw [hstalls, hstalled]
    exact hc.stalls j hj
  · have hmem : i ∈ Finset.range s.fifo.numStages := Finset.mem_range.mpr hi
    calc completions ((s, .complete i writeLen) :: h) = completions h + 1 :=
      List.countP_cons_of_pos rfl
      _ = ∑ j ∈ Finset.range s.fifo.numStages, s.count j + 1 := by rw [hc.sum]
      _ = _ := by
        rw [hstages, hcount, Finset.sum_update_of_mem hmem,
          ← Finset.add_sum_erase _ _ hmem, Finset.sdiff_singleton_eq_erase]
        omega

/-- **A transfer ends** when its stages do what they may. -/
theorem Flow.ends {h : History Pipeline StageEvent} (hf : Flow n last (fun _ => True) s)
    (he : Ending n s) (hc : Counted h s) : Ends n last h s := by
  have horderly := hf.orderly he
  have hstages := hf.ring.two_le
  have hle : ∀ i ∈ Finset.range s.fifo.numStages, s.count i ≤ n :=
    fun i hi => (hf.sizes i (Finset.mem_range.mp hi)).1
  have hconst : ∑ _i ∈ Finset.range s.fifo.numStages, n = s.fifo.numStages * n := by
    rw [Finset.sum_const_nat fun _ _ => rfl, Finset.card_range]
  have hall : completions h = s.fifo.numStages * n ↔ ∀ i < s.fifo.numStages, s.count i = n := by
    rw [hc.sum, ← hconst, Finset.sum_eq_sum_iff_of_le hle]
    exact forall_congr' fun i => imp_congr_left Finset.mem_range
  refine ⟨?_, fun hless => ?_, fun hcompletions => ?_⟩
  · rw [hc.sum, ← hconst]
    exact Finset.sum_le_sum hle
  · have hremain : ∃ i < s.fifo.numStages, s.count i < n := by
      by_contra hnone
      push Not at hnone
      exact hless.ne (hall.mpr fun i hi => le_antisymm (hf.sizes i hi).1 (hnone i hi))
    obtain ⟨i, hi, hrun⟩ := horderly.live hremain
    constructor
    · rw [horderly.once, if_neg]
      intro hdone
      exact hless.ne (hall.mpr fun i hi => (horderly.done hdone i hi).1)
    · refine ⟨i, chunkSize s.fifo.maxBufferSize n last (s.count i), ?_⟩
      by_cases hend : s.count i + 1 = n
      · refine .inr ⟨⟨hi, hrun, hend⟩, hi, hrun, rfl, fun _ => hend, fun _ => ?_⟩
        exact update_self i true s.stalls
      · refine .inl ⟨hi, hrun, rfl, fun hstall => ?_, fun h => absurd h hend⟩
        -- a stage that has stalled runs with its last chunk only
        rw [hc.stalls i hi] at hstall
        have hmany := hf.stalled i hi hstall
        rw [hrun, if_pos rfl] at hmany
        exact le_antisymm (hf.runs i hi hrun).2 hmany
  · have hcounts := hall.mp hcompletions
    have hdone := horderly.done (hcounts _ (Nat.sub_lt (by omega) Nat.one_pos))
    refine ⟨?_, fun i hi => ⟨hcounts i hi, (hdone i hi).2, fun hi' => ?_⟩⟩
    · rw [horderly.once, if_pos (hcounts _ (Nat.sub_lt (by omega) Nat.one_pos))]
    · have hgiven := hf.given (i + 1) hi'
      rw [(hdone (i + 1) hi').2, hcounts (i + 1) hi', ← hcounts i hi] at hgiven
      exact (hf.inOrder i hi').eq_of_length hgiven

/-! ### Whole transfers -/

/-- **`buffer_manager.c` takes every transfer through all its stages**, and to its end. -/
theorem transfer_orderly (bf : BufferFIFO) (m : Mem) (firstBufferSize : Nat)
    (hstages : 2 ≤ bf.numStages) (hbuffers : bf.numStages ≤ bf.bufferCount)
    (n last : Nat) (hn : 1 ≤ n) (hlast : last ≤ bf.maxBufferSize)
    (h : History Pipeline StageEvent) (s : Pipeline)
    (hr : Run (· = start bf m firstBufferSize) stageStep (Permitted n last) h s) :
    s.fifo.maxBufferSize = bf.maxBufferSize ∧ s.fifo.numStages = bf.numStages ∧
      Orderly n last s ∧ Ends n last h s := by
  have hinv : (s.fifo.maxBufferSize = bf.maxBufferSize ∧ s.fifo.numStages = bf.numStages) ∧
      Counted h s ∧ Flow n last (fun _ => True) s ∧ Ending n s := by
    refine Run.invariant (P := fun h s => (s.fifo.maxBufferSize = bf.maxBufferSize ∧
      s.fifo.numStages = bf.numStages) ∧ Counted h s ∧ Flow n last (fun _ => True) s ∧
        Ending n s) ?_ ?_ hr
    · rintro _ rfl
      refine ⟨⟨rfl, rfl⟩, ⟨fun i hi => (if_pos hi).symm, ?_⟩,
        flow_start bf m firstBufferSize hn hstages hbuffers⟩
      exact (Finset.sum_eq_zero fun _ _ => rfl).symm
    · intro h s e _ hok ⟨hsame, hc, hf, he⟩
      cases e with
      | store i offset b =>
        obtain ⟨hi, hrun, hoff⟩ := hok
        exact ⟨hsame, ⟨hc.stalls, hc.sum⟩, hf.store (hsame.1 ▸ hlast) hi hrun hoff b,
          he.stallIndex, he.processing, he.completed⟩
      | stall i =>
        obtain ⟨hi, hrun, hcount⟩ := hok
        exact ⟨hsame, hc.stall i, hf.stall hi hrun hcount, he.stallIndex, he.processing,
          he.completed⟩
      | complete i writeLen =>
        obtain ⟨hi, hrun, rfl, hstall⟩ := hok
        rw [hc.stalls i hi] at hstall
        obtain ⟨hmax, hstages, -⟩ := processingComplete_same s i
          (chunkSize s.fifo.maxBufferSize n last (s.count i))
        exact ⟨⟨hmax.trans hsame.1, hstages.trans hsame.2⟩, hc.complete hi _,
          hf.complete he hi hrun hstall⟩
  obtain ⟨⟨hmax, hnum⟩, hc, hf, he⟩ := hinv
  exact ⟨hmax, hnum, hf.orderly he, hf.ends he hc⟩

/-- Two stages with three buffers of four bytes. -/
def twoStages : BufferFIFO where
  maxBufferSize := 4
  bufferCount := 3
  numStages := 2
  bufferSize := fun _ => 0
  stageWriteIndex := fun _ => 0
  stageReadIndex := fun _ => 0
  stalled := fun _ => false
  stageProcessing := fun _ => false
  processing := false
  stallIndex := 0

/-- Both stages take two chunks, the second one of a byte, to the end. -/
theorem transfer_orderly_two_stages :
    ∃ h s, s.completed = 1 ∧ s.taken 1 = [[7, 0, 0, 0], [9]] ∧
      Orderly 2 1 s ∧ Ends 2 1 h s := by
  refine ⟨_, _, ?_, ?_, (transfer_orderly twoStages (fun _ => 0) 4 (by decide) (by decide) 2 1
    (by decide) (by decide) _ _
    (.next (e := .complete 1 1) (.next (e := .stall 1) (.next (e := .complete 1 4)
      (.next (e := .complete 0 1) (.next (e := .stall 0) (.next (e := .store 0 0 9)
        (.next (e := .complete 0 4) (.next (e := .store 0 0 7) (.start rfl)
          ?_) ?_) ?_) ?_) ?_) ?_) ?_) ?_)).2.2⟩
  · rfl
  · rfl
  · exact ⟨by decide, rfl, by decide⟩
  · exact ⟨by decide, rfl, rfl, by decide⟩
  · exact ⟨by decide, rfl, by decide⟩
  · exact ⟨by decide, rfl, rfl⟩
  · exact ⟨by decide, rfl, rfl, by decide⟩
  · exact ⟨by decide, rfl, rfl, by decide⟩
  · exact ⟨by decide, rfl, rfl⟩
  · exact ⟨by decide, rfl, rfl, by decide⟩

end Pipeline

end SignetBase.FirmwareHc
