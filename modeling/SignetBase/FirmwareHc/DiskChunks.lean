/-
  SignetBase/FirmwareHc/DiskChunks.lean
  =====================================
  **The completions pass the chunks on.**

  Each completion passes one chunk on (`Passed.receive`, `Passed.send`, `Passed.fromCard`,
  `Passed.encipher`, `Passed.toCard`) and keeps `Carry`; with the last chunk the command
  joins the list as a faithful one.
-/
import SignetBase.FirmwareHc.DiskTransfer

namespace SignetBase.FirmwareHc

open Function

variable {B : HcBoard} {K : DiskKey} {out : Bool} {settled : Nat → Prop} {p : Pipeline} {d : Disk}
  {i : Nat}

/-! ### A chunk more -/

section Passed

variable {n first lba blocks lag c : Nat} {made : Nat → List Bytes} {moved : Bytes} {card : Mem}

theorem update_made_ne {chunk : Bytes} {j : Nat} (h : j ≠ i) :
    update made i (made i ++ [chunk]) j = made j := update_of_ne h _ _

theorem length_update_made {chunk : Bytes} :
    (update made i (made i ++ [chunk]) i).length = (made i).length + 1 := by
  rw [update_self, List.length_append, List.length_singleton]

/-- The sectors of the chunks that were there. -/
theorem chunkSector_update {chunk : Bytes} {j x : Nat} (h : x / 32 < (made j).length) :
    chunkSector (update made i (made i ++ [chunk]) j) x = chunkSector (made j) x := by
  by_cases hj : j = i
  · subst hj
    rw [update_self, chunkSector_append_left _ h]
  · rw [update_made_ne hj]

/-- The sectors of the new chunk. -/
theorem chunkSector_new {chunk : Bytes} {x : Nat} (h : x / 32 = (made i).length) :
    chunkSector (update made i (made i ++ [chunk]) i) x = sector chunk (x % 32) := by
  rw [update_self, chunkSector_append_last _ h]

/-- The bytes before chunk `c`. -/
theorem length_before {moved : Bytes} (hc : c < numChunks blocks)
    (h : moved.length + bytesLeft blocks c = blocks * 512) : moved.length = c * 32 * 512 := by
  unfold numChunks at hc
  unfold bytesLeft USB_BULK_BUFFER_SIZE at h
  omega

/-- A chunk goes over the bus. -/
theorem sector_moved (data : Bytes) {x : Nat} (hc : c < numChunks blocks)
    (h : moved.length + bytesLeft blocks c = blocks * 512) :
    (x / 32 < c → sector (moved ++ data) x = sector moved x) ∧
      (x / 32 = c → sector (moved ++ data) x = sector data (x % 32)) := by
  have hlen := length_before hc h
  constructor
  · intro hx
    apply sector_append_left
    rw [hlen]
    omega
  · intro hx
    rw [sector_append_right data hlen (by omega)]
    congr 1
    omega

theorem length_moved {data : Bytes} (hc : c < numChunks blocks)
    (h : moved.length + bytesLeft blocks c = blocks * 512)
    (hdata : data.length = chunkLen blocks c) :
    (moved ++ data).length + bytesLeft blocks (c + 1) = blocks * 512 := by
  have hle := chunkLen_le_bytesLeft hc
  rw [List.length_append, bytesLeft_succ hc, hdata]
  omega

/-- The host sends a chunk. -/
theorem Passed.receive (h : Passed K true n first lba blocks made lag moved card) (hn : 2 ≤ n)
    (hc : (made 0).length < numChunks blocks) (hanti : n = 3 → (made 1).length ≤ (made 0).length)
    (hcard : (made (n - 1)).length + lag ≤ (made (n - 2)).length) {data : Bytes}
    (hdata : data.length = chunkLen blocks (made 0).length) :
    Passed K true n first lba blocks (update made 0 (made 0 ++ [data])) lag (moved ++ data) card := by
  obtain ⟨hlength, hmoved, hcryp, honcard⟩ := h
  unfold usbStage at hlength hmoved
  unfold usbSource at hmoved
  unfold cardStage cardSource at honcard
  rw [if_pos rfl] at hlength hmoved honcard
  refine ⟨?_, ?_, ?_, ?_⟩
  · unfold usbStage
    rw [if_pos rfl, length_update_made]
    exact length_moved hc hlength hdata
  · intro x hx hlt
    unfold usbStage at hlt
    unfold usbSource
    rw [if_pos rfl] at hlt ⊢
    rw [length_update_made] at hlt
    obtain ⟨hold, hnew⟩ := sector_moved (x := x) data hc hlength
    by_cases hlast : x / 32 = (made 0).length
    · rw [hnew hlast, chunkSector_new hlast]
    · have hlt' : x / 32 < (made 0).length := by omega
      rw [hold hlt', chunkSector_update hlt']
      exact hmoved x hx hlt'
  · intro h3 x hx hlt
    rw [update_made_ne Nat.one_ne_zero] at hlt ⊢
    rw [chunkSector_update (Nat.lt_of_lt_of_le hlt (hanti h3))]
    exact hcryp h3 x hx hlt
  · intro x hx hlt
    unfold cardStage at hlt
    unfold cardSource
    rw [if_pos rfl] at hlt ⊢
    rw [update_made_ne (by omega)] at hlt
    rw [chunkSector_update (by omega)]
    exact honcard x hx hlt

/-- A chunk is sent to the host. -/
theorem Passed.send (h : Passed K false n first lba blocks made lag moved card) (hn : 2 ≤ n)
    (hc : (made (n - 1)).length < numChunks blocks) {chunk : Bytes}
    (hdata : ((made (n - 2)).getD (made (n - 1)).length []).length =
      chunkLen blocks (made (n - 1)).length) :
    Passed K false n first lba blocks (update made (n - 1) (made (n - 1) ++ [chunk])) lag
      (moved ++ (made (n - 2)).getD (made (n - 1)).length []) card := by
  obtain ⟨hlength, hmoved, hcryp, honcard⟩ := h
  unfold usbStage at hlength hmoved
  unfold usbSource at hmoved
  unfold cardStage cardSource at honcard
  rw [if_neg Bool.false_ne_true] at hlength hmoved honcard
  refine ⟨?_, ?_, ?_, ?_⟩
  · unfold usbStage
    rw [if_neg Bool.false_ne_true, length_update_made]
    exact length_moved hc hlength hdata
  · intro x hx hlt
    unfold usbStage at hlt
    unfold usbSource
    rw [if_neg Bool.false_ne_true] at hlt ⊢
    rw [length_update_made] at hlt
    rw [update_made_ne (by omega)]
    obtain ⟨hold, hnew⟩ := sector_moved (x := x)
      ((made (n - 2)).getD (made (n - 1)).length []) hc hlength
    by_cases hlast : x / 32 = (made (n - 1)).length
    · rw [hnew hlast, ← hlast]
      rfl
    · have hlt' : x / 32 < (made (n - 1)).length := by omega
      rw [hold hlt']
      exact hmoved x hx hlt'
  · intro h3 x hx hlt
    rw [update_made_ne (by omega)] at hlt ⊢
    rw [update_made_ne (by omega)]
    exact hcryp h3 x hx hlt
  · intro x hx hlt
    unfold cardStage at hlt
    unfold cardSource
    rw [if_neg Bool.false_ne_true] at hlt ⊢
    rw [update_made_ne (by omega)] at hlt ⊢
    exact honcard x hx hlt

/-- A chunk is read from the card. -/
theorem Passed.fromCard (h : Passed K false n first lba blocks made 0 moved card) (hn : 2 ≤ n)
    (hanti : n = 3 → (made 1).length ≤ (made 0).length)
    (hbus : (made (n - 1)).length ≤ (made (n - 2)).length) :
    Passed K false n first lba blocks (update made 0 (made 0 ++
      [card.read ((first + lba + (made 0).length * 32) * 512)
        (chunkLen blocks (made 0).length)])) 0 moved card := by
  obtain ⟨hlength, hmoved, hcryp, honcard⟩ := h
  unfold usbStage at hlength hmoved
  unfold usbSource at hmoved
  unfold cardStage cardSource at honcard
  rw [if_neg Bool.false_ne_true] at hlength hmoved honcard
  refine ⟨?_, ?_, ?_, ?_⟩
  · unfold usbStage
    rw [if_neg Bool.false_ne_true, update_made_ne (by omega)]
    exact hlength
  · intro x hx hlt
    unfold usbStage at hlt
    unfold usbSource
    rw [if_neg Bool.false_ne_true] at hlt ⊢
    rw [update_made_ne (by omega)] at hlt
    rw [chunkSector_update (Nat.lt_of_lt_of_le hlt hbus)]
    exact hmoved x hx hlt
  · intro h3 x hx hlt
    rw [update_made_ne Nat.one_ne_zero] at hlt ⊢
    rw [chunkSector_update (Nat.lt_of_lt_of_le hlt (hanti h3))]
    exact hcryp h3 x hx hlt
  · intro x hx hlt
    unfold cardStage at hlt
    unfold cardSource
    rw [if_neg Bool.false_ne_true] at hlt ⊢
    rw [length_update_made, Nat.add_zero] at hlt
    by_cases hlast : x / 32 = (made 0).length
    · have hin := sector_in_chunk hx
      rw [hlast] at hin
      have hx' : (first + lba + x) * 512 =
          (first + lba + (made 0).length * 32) * 512 + x % 32 * 512 := by omega
      rw [chunkSector_new hlast, sector_read _ _ hin, hx']
    · have hlt' : x / 32 < (made 0).length := by omega
      rw [chunkSector_update hlt']
      exact honcard x hx (by omega)

/-- The cipher finishes a chunk. -/
theorem Passed.encipher (h : Passed K out 3 first lba blocks made lag moved card)
    (hbus : out = false → (made 2).length ≤ (made 1).length)
    (hcard : out = true → (made 2).length + lag ≤ (made 1).length) {chunk : Bytes}
    (hchunk : ∀ j, (j + 1) * 512 ≤ chunkLen blocks (made 1).length → sector chunk j =
      K.cryp out (K.deriveIv (lba + (made 1).length * 32 + j))
        (sector ((made 0).getD (made 1).length []) j)) :
    Passed K out 3 first lba blocks (update made 1 (made 1 ++ [chunk])) lag moved card := by
  obtain ⟨hlength, hmoved, hcryp, honcard⟩ := h
  have husb : usbStage out 3 ≠ 1 := by cases out <;> decide
  have hcardStage : cardStage out 3 ≠ 1 := by cases out <;> decide
  refine ⟨?_, ?_, ?_, ?_⟩
  · rw [update_made_ne husb]
    exact hlength
  · intro x hx hlt
    rw [update_made_ne husb] at hlt
    cases out with
    | true =>
      change sector moved x = chunkSector (update made 1 _ 0) x
      rw [update_made_ne Nat.zero_ne_one]
      exact hmoved x hx hlt
    | false =>
      change sector moved x = chunkSector (update made 1 _ 1) x
      rw [chunkSector_update (Nat.lt_of_lt_of_le hlt (hbus rfl))]
      exact hmoved x hx hlt
  · intro _ x hx hlt
    rw [length_update_made] at hlt
    rw [update_made_ne Nat.zero_ne_one]
    by_cases hlast : x / 32 = (made 1).length
    · have hin := sector_in_chunk hx
      rw [hlast] at hin
      have hx' : lba + (made 1).length * 32 + x % 32 = lba + x := by omega
      rw [chunkSector_new hlast, hchunk _ hin, hx']
      unfold chunkSector
      rw [hlast]
    · have hlt' : x / 32 < (made 1).length := by omega
      rw [chunkSector_update hlt']
      exact hcryp rfl x hx hlt'
  · intro x hx hlt
    rw [update_made_ne hcardStage] at hlt
    cases out with
    | true =>
      change card.read _ 512 = chunkSector (update made 1 _ 1) x
      rw [chunkSector_update (Nat.lt_of_lt_of_le hlt (hcard rfl))]
      exact honcard x hx hlt
    | false =>
      change card.read _ 512 = chunkSector (update made 1 _ 0) x
      rw [update_made_ne Nat.zero_ne_one]
      exact honcard x hx hlt

/-- A chunk that was written to the card is passed on. -/
theorem Passed.written (h : Passed K true n first lba blocks made 1 moved card) (hn : 2 ≤ n)
    {chunk : Bytes} : Passed K true n first lba blocks
      (update made (n - 1) (made (n - 1) ++ [chunk])) 0 moved card := by
  obtain ⟨hlength, hmoved, hcryp, honcard⟩ := h
  unfold usbStage at hlength hmoved
  unfold usbSource at hmoved
  unfold cardStage cardSource at honcard
  rw [if_pos rfl] at hlength hmoved honcard
  have hfirst : update made (n - 1) (made (n - 1) ++ [chunk]) 0 = made 0 :=
    update_made_ne (by omega)
  refine ⟨?_, ?_, ?_, ?_⟩
  · unfold usbStage
    rw [if_pos rfl, hfirst]
    exact hlength
  · unfold usbStage usbSource
    rw [if_pos rfl, if_pos rfl, hfirst]
    exact hmoved
  · intro h3
    subst h3
    rw [hfirst, update_made_ne (by decide)]
    exact hcryp rfl
  · unfold cardStage cardSource
    rw [if_pos rfl, if_pos rfl, length_update_made, update_made_ne (by omega)]
    exact honcard

/-- A chunk is written to the card. -/
theorem Passed.toCard (h : Passed K true n first lba blocks made 0 moved card)
    (hlen : ((made (n - 2)).getD (made (n - 1)).length []).length =
      chunkLen blocks (made (n - 1)).length) :
    Passed K true n first lba blocks made 1 moved
      (card.write ((first + lba + (made (n - 1)).length * 32) * 512)
        ((made (n - 2)).getD (made (n - 1)).length [])) := by
  obtain ⟨hlength, hmoved, hcryp, honcard⟩ := h
  refine ⟨hlength, hmoved, hcryp, ?_⟩
  intro x hx hlt
  change x / 32 < (made (n - 1)).length + 1 at hlt
  change _ = chunkSector (made (n - 2)) x
  have hin := sector_in_chunk hx
  by_cases hlast : x / 32 = (made (n - 1)).length
  · rw [hlast, ← hlen] at hin
    have hx' : (first + lba + x) * 512 =
        (first + lba + (made (n - 1)).length * 32) * 512 + x % 32 * 512 := by omega
    rw [hx', read_write_sector _ _ hin, ← hlast]
    rfl
  · rw [Mem.read_write_disjoint]
    · exact honcard x hx (by
        change x / 32 < (made (n - 1)).length + 0
        omega)
    · left
      omega

end Passed

/-! ### A stage passes its chunk on -/

/-- `q` is `p` after stage `i` has passed `chunk` on. -/
structure PassedOn (p q : Pipeline) (i : Nat) (chunk : Bytes) : Prop where
  numStages : q.fifo.numStages = p.fifo.numStages
  idle : q.running i = false
  running : ∀ j ≠ i, q.running j = p.running j
  made : q.made = update p.made i (p.made i ++ [chunk])
  buffers : ∀ j ≠ i, q.bufferRead j = p.bufferRead j ∧ q.bufferWrite j = p.bufferWrite j

theorem PassedOn.count_self {q : Pipeline} {chunk : Bytes} (h : PassedOn p q i chunk) :
    q.count i = p.count i + 1 := by
  unfold Pipeline.count
  rw [h.made, length_update_made]

theorem PassedOn.count {q : Pipeline} {chunk : Bytes} (h : PassedOn p q i chunk) {j : Nat}
    (hj : j ≠ i) : q.count j = p.count j := by
  unfold Pipeline.count
  rw [h.made, update_made_ne hj]

theorem passedOn_pass (n : Nat) (m : Mem) (i writeLen : Nat) :
    PassedOn p (p.pass n m i writeLen) i (m.read (p.bufferWrite i) writeLen) := by
  refine ⟨(stallStage_keeps p.fifo (p.count i + 1 = n) i).2.2.2.2, update_self _ _ _,
    fun j hj => update_of_ne hj _ _, ?_, ?_⟩
  · unfold Pipeline.pass Pipeline.advance Pipeline.bufferWrite
    dsimp only
    split <;> rfl
  · intro j hj
    unfold Pipeline.pass Pipeline.advance Pipeline.bufferRead Pipeline.bufferWrite BufferFIFO.advance
    dsimp only
    rw [update_of_ne hj, update_of_ne hj]
    split
    · exact ⟨rfl, rfl⟩
    · exact ⟨rfl, rfl⟩

theorem stallIf_eq (c : Prop) [Decidable c] (i : Nat) (s : Msc) :
    stallIf c i s = { s with fifo := if c then s.fifo.stallStage i else s.fifo } := by
  unfold stallIf
  split <;> rfl

theorem log_execStage (i : Nat) : (d.execStage B K i).log = d.log := by
  unfold Disk.execStage Disk.control
  cases d.msc.processStage i <;> rfl

theorem log_execUnlessStalled (i : Nat) : (d.execUnlessStalled B K i).log = d.log := by
  unfold Disk.execUnlessStalled
  split
  · rfl
  · exact log_execStage i

/-- Every stage that can run does. -/
theorem Carry.settle (h : Carry B K out settled p d) (hall : ∀ j, settled j) :
    Carry B K out (fun _ => True) p d := by
  have hring := h.ring
  obtain ⟨h₁, h₂, h₃, h₄, h₅, h₆, h₇, h₈, h₉, h₁₀⟩ := hring.flow
  exact ⟨⟨⟨h₁, h₂, h₃, h₄, h₅, fun j hj _ => h₆ j hj (hall j), h₇, h₈, h₉, h₁₀⟩, hring.whole,
    hring.tight, hring.fifo, hring.storage, hring.max, hring.buffers, hring.processing,
    hring.stallIndex, hring.completed⟩, h.setup, h.usb, h.card, h.cryp, h.plain, h.passed, h.stored⟩

/-- **The stages go on after a chunk was passed on.** -/
theorem Carry.goOn (hB : B.Large) (hinv : BlockInverse K.enc K.dec) (hlog : AllFaithful d.log)
    (hi : i < p.fifo.numStages)
    (h : Carry B K out (fun j => j ≠ i ∧ j ≠ (i + 1) % p.fifo.numStages) p d) :
    DiskInv B K ((d.execUnlessStalled B K i).execUnlessStalled B K
      ((i + 1) % p.fifo.numStages)).completeIfStalled := by
  have hnext : (i + 1) % p.fifo.numStages < p.fifo.numStages := Nat.mod_lt _ (by omega)
  have hwake := h.execUnlessStalled hB hi
  have hsame : (p.wake i).fifo.numStages = p.fifo.numStages := (p.wake_same i).1
  have hwake' := hwake.execUnlessStalled hB (i := (i + 1) % p.fifo.numStages) (hsame ▸ hnext)
  have hall : Carry B K out (fun _ => True) ((p.wake i).wake ((i + 1) % p.fifo.numStages))
      ((d.execUnlessStalled B K i).execUnlessStalled B K ((i + 1) % p.fifo.numStages)) := by
    refine hwake'.settle fun j => ?_
    by_cases hj : j = i
    · exact .inl (.inr hj)
    · by_cases hj' : j = (i + 1) % p.fifo.numStages
      · exact .inr hj'
      · exact .inl (.inl ⟨hj, hj'⟩)
  refine hall.completeIfStalled hinv ?_
  rw [log_execUnlessStalled, log_execUnlessStalled]
  exact hlog

/-- `bufferFIFO_processingComplete` in a transfer. -/
theorem Carry.processingComplete (hB : B.Large) (hinv : BlockInverse K.enc K.dec)
    (hlog : AllFaithful d.log) (hi : i < p.fifo.numStages) {writeLen : Nat}
    (hn : d.msc.fifo.numStages = p.fifo.numStages)
    (h : Carry B K out (fun j => j ≠ i ∧ j ≠ (i + 1) % p.fifo.numStages) p
      { d with msc := { d.msc with fifo := d.msc.fifo.advance i writeLen } }) :
    DiskInv B K (d.processingComplete B K i writeLen) := by
  unfold Disk.processingComplete
  dsimp only
  rw [hn]
  exact h.goOn hB hinv hlog hi

/-- **The stage of the bus completes its chunk.** -/
theorem Carry.usbDone (hB : B.Large) (hinv : BlockInverse K.enc K.dec) (hlog : AllFaithful d.log)
    (h : Carry B K out (fun _ => True) p d)
    (hrun : p.running (usbStage out p.fifo.numStages) = true) (m : Mem) (moved : Bytes)
    (outEndpoint : OutEndpoint) (sending : Bool)
    (hout : outEndpoint ≠ .cbw ∧ outEndpoint ≠ .data) (hsending : sending = false)
    (hw : ({ p with bufferStorage := m } : Pipeline).Whole (numChunks d.msc.cbw.blocks)
      (lastChunk d.msc.cbw.blocks))
    (hmem : p.fifo.numStages = 3 → p.running 1 = true →
      ∀ off, off + 512 ≤ USB_BULK_BUFFER_SIZE →
        m.read (p.bufferRead 1 + off) 512 = d.bufferStorage.read (p.bufferRead 1 + off) 512 ∧
        m.read (p.bufferWrite 1 + off) 512 = d.bufferStorage.read (p.bufferWrite 1 + off) 512)
    (hpassed : Passed K out p.fifo.numStages (B.volumeFirst d.msc.cbw.bLUN.toNat) d.msc.cbw.lba
      d.msc.cbw.blocks (update p.made (usbStage out p.fifo.numStages)
        (p.made (usbStage out p.fifo.numStages) ++
          [m.read (p.bufferWrite (usbStage out p.fifo.numStages))
            (chunkLen d.msc.cbw.blocks (p.count (usbStage out p.fifo.numStages)))]))
      (mmcLag d.msc.emmcUser d.msc.mmc) moved d.card) :
    DiskInv B K (Disk.scsiProcessed B K { d with
      msc := { d.msc with outEndpoint := outEndpoint, usbTransmitting := sending }
      bufferStorage := m
      moved := moved }) := by
  subst hsending
  obtain ⟨husb, hcard, hne, hcryp⟩ := h.setup.apart
  obtain ⟨hidx, hlen, -⟩ := h.usb.given hrun
  have hlt := (h.ring.flow.runs _ husb hrun).2
  have hfifo := h.ring.fifo
  have hnum : d.msc.fifo.numStages = p.fifo.numStages := by rw [hfifo]
  have hleft := h.usb.left
  have hring := h.ring.pass husb hrun hw
  have hp := passedOn_pass (p := p) (numChunks d.msc.cbw.blocks) m
    (usbStage out p.fifo.numStages)
    (chunkLen d.msc.cbw.blocks (p.count (usbStage out p.fifo.numStages)))
  generalize hq : p.pass (numChunks d.msc.cbw.blocks) m (usbStage out p.fifo.numStages)
    (chunkLen d.msc.cbw.blocks (p.count (usbStage out p.fifo.numStages))) = q at hring hp
  unfold Disk.scsiProcessed
  dsimp only
  rw [hidx, hlen, hleft, Nat.min_eq_right (chunkLen_le_bytesLeft hlt), ← bytesLeft_succ hlt,
    stallIf_eq]
  refine @Carry.processingComplete B K out q _ _ hB hinv ?_ (hp.numStages.symm ▸ husb) _ ?_ ?_
  · exact hlog
  · rw [hp.numStages, ← hnum]
    exact (stallStage_keeps d.msc.fifo _ _).2.2.2.2
  · have hend := bytesLeft_eq_zero hlt
    rw [hp.numStages]
    simp only [hend]
    obtain ⟨-, ⟨h₁, h₂, h₃, h₄, h₅, h₆, h₇, h₈, h₉⟩, hu, hc, hy, hplain, -, hstored⟩ := h
    rw [← hp.running _ hne, ← hp.count hne, ← (hp.buffers _ hne).1, ← (hp.buffers _ hne).2] at hc
    rw [← hp.count hne] at hstored
    rw [← hp.made] at hpassed
    rw [← hp.numStages] at hc hstored hpassed h₁ h₃
    have hidle := hp.idle
    have hcount := hp.count_self
    rw [← hp.numStages] at hidle hcount
    refine ⟨hring, ⟨h₁, h₂, h₃, h₄, h₅, h₆, h₇, h₈, h₉⟩, ?_,
      ⟨hc.left, hc.addr, hc.waits, hc.excl, hc.phase, hc.given, hc.hal⟩, ?_, ?_, hpassed, hstored⟩
    · rw [hidle, hcount]
      refine ⟨?_, hout.1, ⟨fun hdata => absurd hdata hout.2, fun hfalse => by cases hfalse.2⟩,
        ⟨(fun hfalse => by cases hfalse), fun hfalse => by cases hfalse.2⟩,
        fun hfalse => by cases hfalse⟩
      rw [hp.numStages]
    · intro h3
      rw [hp.numStages] at h3
      obtain ⟨hone, -⟩ := hcryp h3
      have hy := hy h3
      rw [hp.running 1 hone, hp.count hone, (hp.buffers 1 hone).1, (hp.buffers 1 hone).2]
      refine ⟨hy.left, hy.active, hy.idle, hy.given, fun hrun1 => ?_⟩
      obtain ⟨k, hk, hpos, hread, hwrite, hsector, hiv, hdone⟩ := hy.sectors hrun1
      refine ⟨k, hk, hpos, hread, hwrite, hsector, hiv, fun j hj => ?_⟩
      have hle := chunkLen_le d.msc.cbw.blocks (p.count 1)
      obtain ⟨hr, hw⟩ := hmem h3 hrun1 (j * 512) (by omega)
      exact hw.trans ((hdone j hj).trans (by rw [hr]))
    · intro h2
      rw [hp.numStages] at h2
      exact hplain h2

/-- **The stage of the eMMC completes its chunk.** -/
theorem Carry.cardDone (hB : B.Large) (hinv : BlockInverse K.enc K.dec) (hlog : AllFaithful d.log)
    (h : Carry B K out (fun _ => True) p d) (huser : d.msc.emmcUser = .storage) {m : Mem}
    {data : Int} {addr : Nat}
    (hleft : data = (bytesLeft d.msc.cbw.blocks
      (p.count (cardStage out p.fifo.numStages) + 1) : Nat))
    (haddr : addr * 512 + bytesLeft d.msc.cbw.blocks
      (p.count (cardStage out p.fifo.numStages) + 1) = (d.msc.cbw.lba + d.msc.cbw.blocks) * 512)
    (hw : ({ p with bufferStorage := m } : Pipeline).Whole (numChunks d.msc.cbw.blocks)
      (lastChunk d.msc.cbw.blocks))
    (hmem : p.fifo.numStages = 3 → p.running 1 = true →
      ∀ off, off + 512 ≤ USB_BULK_BUFFER_SIZE →
        m.read (p.bufferRead 1 + off) 512 = d.bufferStorage.read (p.bufferRead 1 + off) 512 ∧
        m.read (p.bufferWrite 1 + off) 512 = d.bufferStorage.read (p.bufferWrite 1 + off) 512)
    (hpassed : Passed K out p.fifo.numStages (B.volumeFirst d.msc.cbw.bLUN.toNat) d.msc.cbw.lba
      d.msc.cbw.blocks (update p.made (cardStage out p.fifo.numStages)
        (p.made (cardStage out p.fifo.numStages) ++
          [m.read (p.bufferWrite (cardStage out p.fifo.numStages))
            (chunkLen d.msc.cbw.blocks (p.count (cardStage out p.fifo.numStages)))]))
      0 d.moved d.card)
    (hstored : Stored B K d.log d.card (Overwritten out d.msc.cbw
      (p.count (cardStage out p.fifo.numStages) + 1))) :
    DiskInv B K (Disk.mmcStageDone B K { d with
      msc := { d.msc with mmc := .idle, mmcDataToTransfer := data, mmcBlockAddr := addr }
      bufferStorage := m }) := by
  obtain ⟨husb, hcard, hne, hcryp⟩ := h.setup.apart
  have hrun := h.card.waits.mp (.inr huser)
  obtain ⟨hidx, hlen, -⟩ := h.card.given hrun
  have hready : d.msc.emmcReadyStorage = false := by
    cases hready : d.msc.emmcReadyStorage with
    | false => rfl
    | true => exact absurd huser (h.card.excl hready)
  have hlt := (h.ring.flow.runs _ hcard hrun).2
  have hfifo := h.ring.fifo
  have hnum : d.msc.fifo.numStages = p.fifo.numStages := by rw [hfifo]
  have hring := h.ring.pass hcard hrun hw
  have hp := passedOn_pass (p := p) (numChunks d.msc.cbw.blocks) m
    (cardStage out p.fifo.numStages)
    (chunkLen d.msc.cbw.blocks (p.count (cardStage out p.fifo.numStages)))
  generalize p.pass (numChunks d.msc.cbw.blocks) m (cardStage out p.fifo.numStages)
    (chunkLen d.msc.cbw.blocks (p.count (cardStage out p.fifo.numStages))) = q at hring hp
  unfold Disk.mmcStageDone
  dsimp only
  rw [stallIf_eq]
  -- the eMMC is given to the database or to nobody
  obtain ⟨user, readyDb, mmc, huser', hdone⟩ := emmcUserDone_of_not_ready (B := B) (s := { d.msc with
    mmc := .idle, mmcDataToTransfer := data, mmcBlockAddr := addr
    fifo := if data = 0 then d.msc.fifo.stallStage d.msc.mmcStageIdx else d.msc.fifo }) hready
  have hend : data = 0 ↔ p.count (cardStage out p.fifo.numStages) + 1 =
      numChunks d.msc.cbw.blocks := by
    rw [← bytesLeft_eq_zero hlt, hleft]
    exact Int.natCast_eq_zero
  rw [control_of_issued (by rw [hdone]), hdone]
  dsimp only
  rw [hidx, hlen]
  refine @Carry.processingComplete B K out q _ _ hB hinv ?_ (hp.numStages.symm ▸ hcard) _ ?_ ?_
  · exact hlog
  · rw [hp.numStages, ← hnum]
    exact (stallStage_keeps d.msc.fifo _ _).2.2.2.2
  · rw [hp.numStages]
    simp only [hend]
    obtain ⟨-, ⟨h₁, h₂, h₃, h₄, h₅, h₆, h₇, h₈, h₉⟩, hu, -, hy, hplain, -, -⟩ := h
    rw [← hp.running _ hne.symm, ← hp.count hne.symm, ← (hp.buffers _ hne.symm).2] at hu
    have hidle := hp.idle
    have hcount := hp.count_self
    have hlag : mmcLag user mmc = 0 := mmcLag_of_ne huser' mmc
    rw [← hcount] at hstored hleft haddr
    rw [← hp.made] at hpassed
    rw [← hp.numStages] at hu hstored hpassed hidle hleft haddr h₁ h₃
    refine ⟨hring, ⟨h₁, h₂, h₃, h₄, h₅, h₆, h₇, h₈, h₉⟩,
      ⟨hu.left, hu.notCbw, hu.receiving, hu.sending, hu.given⟩, ?_, ?_, ?_, ?_, ?_⟩
    · rw [hidle]
      refine ⟨?_, ?_, ⟨?_, (fun hfalse => by cases hfalse)⟩, (fun hfalse => ?_),
        (fun hfalse => absurd hfalse huser'), (fun hfalse => by cases hfalse),
        fun hfalse => absurd hfalse huser'⟩
      · change data = _
        rw [hlag]
        exact hleft
      · change addr * 512 + bytesLeft _ (_ + mmcLag user mmc) = _
        rw [hlag]
        exact haddr
      · rintro (hfalse | hfalse)
        · exact absurd (hready.symm.trans hfalse) (by decide)
        · exact absurd hfalse huser'
      · exact huser'
    · intro h3
      rw [hp.numStages] at h3
      obtain ⟨-, hone⟩ := hcryp h3
      have hy := hy h3
      rw [hp.running 1 hone, hp.count hone, (hp.buffers 1 hone).1, (hp.buffers 1 hone).2]
      refine ⟨hy.left, hy.active, hy.idle, hy.given, fun hrun1 => ?_⟩
      obtain ⟨k, hk, hpos, hread, hwrite, hsector, hiv, hdone⟩ := hy.sectors hrun1
      refine ⟨k, hk, hpos, hread, hwrite, hsector, hiv, fun j hj => ?_⟩
      have hle := chunkLen_le d.msc.cbw.blocks (p.count 1)
      obtain ⟨hr, hw⟩ := hmem h3 hrun1 (j * 512) (by omega)
      exact hw.trans ((hdone j hj).trans (by rw [hr]))
    · intro h2
      rw [hp.numStages] at h2
      exact hplain h2
    · change Passed K out _ _ _ _ _ (mmcLag user mmc) _ _
      rw [hlag]
      exact hpassed
    · change Stored B K _ _ (Overwritten out _ (_ + mmcLag user mmc))
      rw [hlag]
      exact hstored

/-! ### The buffers of the cipher -/

section Apart

variable {blocks : Nat} {fifo : BufferFIFO} {m : Mem} {bs : Bytes} {offset off : Nat}

/-- Bytes stored in one buffer do not change another. -/
theorem Ringed.read_other (h : Ringed blocks settled fifo m p) {a c : Nat}
    (hne : c % p.fifo.bufferCount ≠ a % p.fifo.bufferCount)
    (hoff : off + 512 ≤ USB_BULK_BUFFER_SIZE) (hbs : offset + bs.length ≤ USB_BULK_BUFFER_SIZE) :
    (m.write (p.fifo.maxBufferSize * (a % p.fifo.bufferCount) + offset) bs).read
        (p.fifo.maxBufferSize * (c % p.fifo.bufferCount) + off) 512 =
      m.read (p.fifo.maxBufferSize * (c % p.fifo.bufferCount) + off) 512 := by
  have hmax := h.max
  have hapart := Pipeline.buffers_apart hne (Nat.le_refl p.fifo.maxBufferSize) (hmax ▸ hbs)
  apply Mem.read_write_disjoint
  rw [hmax] at hapart ⊢
  omega

/-- The cipher does not write what it reads. -/
theorem Ringed.cryp_apart (h : Ringed blocks settled fifo m p) (h3 : p.fifo.numStages = 3)
    (hoff : off + 512 ≤ USB_BULK_BUFFER_SIZE) (hbs : offset + bs.length ≤ USB_BULK_BUFFER_SIZE) :
    (m.write (p.bufferWrite 1 + offset) bs).read (p.bufferRead 1 + off) 512 =
      m.read (p.bufferRead 1 + off) 512 := by
  have hwrite := h.flow.ring.write 1 (by omega)
  have hread := h.flow.ring.read 1 (by omega)
  have hbuffers := h.buffers
  unfold BufferFIFO.readBase at hread
  rw [if_neg Nat.one_ne_zero] at hread
  refine h.read_other ?_ hoff hbs
  unfold USB_BULK_BUFFER_COUNT at hbuffers
  apply BufferFIFO.mod_ne <;> omega

/-- The first stage does not write the buffers of the cipher. -/
theorem Ringed.first_apart (h : Ringed blocks settled fifo m p) (h3 : p.fifo.numStages = 3)
    (hrun0 : p.running 0 = true) (hrun1 : p.running 1 = true)
    (hoff : off + 512 ≤ USB_BULK_BUFFER_SIZE) (hbs : bs.length ≤ USB_BULK_BUFFER_SIZE) :
    (m.write (p.bufferWrite 0) bs).read (p.bufferRead 1 + off) 512 =
        m.read (p.bufferRead 1 + off) 512 ∧
      (m.write (p.bufferWrite 0) bs).read (p.bufferWrite 1 + off) 512 =
        m.read (p.bufferWrite 1 + off) 512 := by
  have hwrite0 := h.flow.ring.write 0 (by omega)
  have hwrite := h.flow.ring.write 1 (by omega)
  have hread := h.flow.ring.read 1 (by omega)
  have hbuffers := h.buffers
  have hcan0 := (h.flow.runs 0 (by omega) hrun0).1
  have hcan1 := (h.flow.runs 1 (by omega) hrun1).1
  have hanti := h.flow.ring.anti 1 (by omega)
  unfold BufferFIFO.readBase at hread
  unfold BufferFIFO.CanAdvance at hcan0 hcan1
  unfold USB_BULK_BUFFER_COUNT at hbuffers
  rw [if_neg Nat.one_ne_zero] at hread hcan1
  rw [if_pos rfl, h3] at hcan0
  rw [h3] at hwrite0 hwrite hread
  change 1 + p.count 0 < p.count 2 + _ at hcan0
  change p.count 1 < p.count 0 at hcan1
  change p.count 2 ≤ p.count 1 at hanti
  have hbs0 : 0 + bs.length ≤ USB_BULK_BUFFER_SIZE := by omega
  have hread1 : p.fifo.stageReadIndex 1 % p.fifo.bufferCount ≠
      p.fifo.stageWriteIndex 0 % p.fifo.bufferCount := by
    apply BufferFIFO.mod_ne <;> omega
  have hwrite1 : p.fifo.stageWriteIndex 1 % p.fifo.bufferCount ≠
      p.fifo.stageWriteIndex 0 % p.fifo.bufferCount := by
    apply BufferFIFO.mod_ne <;> omega
  have hother₁ := h.read_other hread1 hoff hbs0
  have hother₂ := h.read_other hwrite1 hoff hbs0
  rw [Nat.add_zero] at hother₁ hother₂
  exact ⟨hother₁, hother₂⟩

end Apart

/-! ### The cipher -/

theorem DiskKey.length_cryp (hinv : BlockInverse K.enc K.dec) (encrypt : Bool) {iv bs : Bytes}
    (hiv : iv.length = AES_BLK_SIZE) (hbs : bs.length = 512) :
    (K.cryp encrypt iv bs).length = 512 := by
  cases encrypt with
  | true => exact length_cbcEncrypt hinv (512 / AES_BLK_SIZE) hiv hbs
  | false => exact length_cbcDecrypt hinv (512 / AES_BLK_SIZE) hiv hbs

/-- What the buffers have when the cipher has done sector `k` of its chunk. -/
structure SectorDone (K : DiskKey) (out : Bool) (p : Pipeline) (d : Disk) (k : Nat) (m : Mem) :
    Prop where
  whole : ({ p with bufferStorage := m } : Pipeline).Whole (numChunks d.msc.cbw.blocks)
    (lastChunk d.msc.cbw.blocks)
  source : ∀ j, (j + 1) * 512 ≤ chunkLen d.msc.cbw.blocks (p.count 1) →
    m.read (p.bufferRead 1 + j * 512) 512 = d.bufferStorage.read (p.bufferRead 1 + j * 512) 512
  done : ∀ j < k + 1, m.read (p.bufferWrite 1 + j * 512) 512 =
    K.cryp out (K.deriveIv (d.msc.cbw.lba + p.count 1 * 32 + j))
      (m.read (p.bufferRead 1 + j * 512) 512)

theorem Carry.sectorDone (hinv : BlockInverse K.enc K.dec) (h : Carry B K out settled p d)
    (h3 : p.fifo.numStages = 3) (hrun : p.running 1 = true) :
    ∃ k, (k + d.msc.scsiNumAesSector) * 512 = chunkLen d.msc.cbw.blocks (p.count 1) ∧
      0 < d.msc.scsiNumAesSector ∧ d.aesRead = p.bufferRead 1 + k * 512 ∧
      d.aesWrite = p.bufferWrite 1 + k * 512 ∧
      d.curAesSector = d.msc.cbw.lba + p.count 1 * 32 + k ∧
      SectorDone K out p d k (Disk.cryp K d).bufferStorage := by
  have hy := h.cryp h3
  obtain ⟨-, -, hencrypt⟩ := hy.given hrun
  obtain ⟨k, hk, hpos, hread, hwrite, hsector, hiv, hdone⟩ := hy.sectors hrun
  refine ⟨k, hk, hpos, hread, hwrite, hsector, ?_⟩
  have hle := chunkLen_le d.msc.cbw.blocks (p.count 1)
  have hlen := K.length_cryp hinv out (K.length_deriveIv d.curAesSector)
    (d.bufferStorage.length_read (p.bufferRead 1 + k * 512) 512)
  have hm : (Disk.cryp K d).bufferStorage = d.bufferStorage.write (p.bufferWrite 1 + k * 512)
      (K.cryp out (K.deriveIv d.curAesSector)
        (d.bufferStorage.read (p.bufferRead 1 + k * 512) 512)) := by
    unfold Disk.cryp
    rw [hencrypt, hiv, hread, hwrite]
  rw [hm]
  generalize hbs : K.cryp out (K.deriveIv d.curAesSector)
    (d.bufferStorage.read (p.bufferRead 1 + k * 512) 512) = bs at hlen
  have hfits : k * 512 + bs.length ≤ USB_BULK_BUFFER_SIZE := by omega
  have hsource : ∀ j, (j + 1) * 512 ≤ chunkLen d.msc.cbw.blocks (p.count 1) →
      (d.bufferStorage.write (p.bufferWrite 1 + k * 512) bs).read (p.bufferRead 1 + j * 512) 512 =
        d.bufferStorage.read (p.bufferRead 1 + j * 512) 512 := by
    intro j hj
    have hoff : j * 512 + 512 ≤ USB_BULK_BUFFER_SIZE := by
      rw [← Nat.succ_mul]
      exact hj.trans hle
    exact h.ring.cryp_apart h3 hoff hfits
  refine ⟨?_, hsource, ?_⟩
  · have hstore := h.ring.whole.store h.ring.flow (h.ring.max ▸ lastChunk_le _)
      (i := 1) (by omega) hrun (h.ring.max ▸ hfits)
    rw [h.ring.storage] at hstore
    exact hstore
  · intro j hj
    rw [hsource j (by omega)]
    by_cases hlast : j = k
    · subst hlast
      rw [← hsector, hbs]
      exact Mem.read_write _ _ _ _ hlen.symm
    · rw [Mem.read_write_disjoint _ (by omega)]
      exact hdone j (by omega)

/-- The counters after a sector. -/
theorem Carry.sectorCounters (h : Carry B K out settled p d)
    (h3 : p.fifo.numStages = 3) (hrun : p.running 1 = true) {k : Nat}
    (hk : (k + d.msc.scsiNumAesSector) * 512 = chunkLen d.msc.cbw.blocks (p.count 1))
    (hpos : 0 < d.msc.scsiNumAesSector) :
    (d.msc.scsiNumAesSector + (2 ^ 32 - 1)) % 2 ^ 32 = d.msc.scsiNumAesSector - 1 ∧
      (d.msc.cbw.lba + p.count 1 * 32 + k + 1) % 2 ^ 32 =
        d.msc.cbw.lba + p.count 1 * 32 + (k + 1) := by
  have hle := chunkLen_le d.msc.cbw.blocks (p.count 1)
  have hlt := (h.ring.flow.runs 1 (by omega) hrun).2
  have hlen := chunkLen_sectors hlt
  have hrange := h.setup.range
  have hvol : B.volumeBlocks d.msc.cbw.bLUN.toNat < 2 ^ 32 := Nat.mod_lt _ (by decide)
  unfold USB_BULK_BUFFER_SIZE at hle
  constructor
  · omega
  · rw [Nat.mod_eq_of_lt (by omega)]
    omega

theorem nextSector_cryp : (Disk.cryp K d).nextSector = { d with
    msc := { d.msc with scsiNumAesSector := (d.msc.scsiNumAesSector + (2 ^ 32 - 1)) % 2 ^ 32 }
    bufferStorage := (Disk.cryp K d).bufferStorage
    curAesSector := (d.curAesSector + 1) % 2 ^ 32
    aesRead := d.aesRead + 512
    aesWrite := d.aesWrite + 512 } := rfl

/-- The cipher goes on with the next sector. -/
theorem Carry.crypNext (hinv : BlockInverse K.enc K.dec)
    (h : Carry B K out (fun _ => True) p d) (h3 : p.fifo.numStages = 3)
    (hrun : p.running 1 = true) (hmore : d.msc.scsiNumAesSector ≠ 1) :
    Carry B K out (fun _ => True) { p with bufferStorage := (Disk.cryp K d).bufferStorage }
      (Disk.setCryptConfig K (Disk.cryp K d).nextSector) := by
  obtain ⟨k, hk, hpos, hread, hwrite, hsector, hdone⟩ := h.sectorDone hinv h3 hrun
  obtain ⟨hnum, hnext⟩ := h.sectorCounters h3 hrun hk hpos
  have hd : Disk.setCryptConfig K (Disk.cryp K d).nextSector = { d with
      msc := { d.msc with scsiNumAesSector := d.msc.scsiNumAesSector - 1 }
      bufferStorage := (Disk.cryp K d).bufferStorage
      curAesSector := d.msc.cbw.lba + p.count 1 * 32 + (k + 1)
      curAesIv := K.deriveIv (d.msc.cbw.lba + p.count 1 * 32 + (k + 1))
      aesRead := d.aesRead + 512
      aesWrite := d.aesWrite + 512 } := by
    rw [nextSector_cryp, hnum, hsector, hnext]
    rfl
  rw [hd]
  generalize (Disk.cryp K d).bufferStorage = m at hdone
  have hflow := h.ring.flow.withStorage hdone.whole
  have hring := h.ring
  obtain ⟨-, ⟨h₁, h₂, h₃, h₄, h₅, h₆, h₇, h₈, h₉⟩, hu, hc, hy, -, hpassed, hstored⟩ := h
  have hy := hy h3
  refine ⟨⟨hflow, hdone.whole, hring.tight, hring.fifo, rfl, hring.max, hring.buffers,
    hring.processing, hring.stallIndex, hring.completed⟩, ⟨h₁, h₂, h₃, h₄, h₅, h₆, h₇, h₈, h₉⟩,
    ⟨hu.left, hu.notCbw, hu.receiving, hu.sending, hu.given⟩,
    ⟨hc.left, hc.addr, hc.waits, hc.excl, hc.phase, hc.given, hc.hal⟩, fun _ => ?_,
    fun h2 => absurd h3 h2, hpassed, hstored⟩
  refine ⟨hy.left, hy.active, ?_, hy.given, fun _ => ⟨k + 1, ?_, ?_, ?_, ?_, rfl, rfl, hdone.done⟩⟩
  · intro hfalse
    exact absurd (hrun.symm.trans hfalse) (by decide)
  · have hsum : k + 1 + (d.msc.scsiNumAesSector - 1) = k + d.msc.scsiNumAesSector := by omega
    change (k + 1 + (d.msc.scsiNumAesSector - 1)) * 512 = chunkLen d.msc.cbw.blocks (p.count 1)
    rw [hsum, hk]
  · change 0 < d.msc.scsiNumAesSector - 1
    omega
  · change d.aesRead + 512 = p.bufferRead 1 + (k + 1) * 512
    rw [hread, Nat.succ_mul, Nat.add_assoc]
  · change d.aesWrite + 512 = p.bufferWrite 1 + (k + 1) * 512
    rw [hwrite, Nat.succ_mul, Nat.add_assoc]

/-- A chunk is written only when the stage before has made it. -/
theorem Carry.written_le (h : Carry B K true settled p d) :
    (p.made (p.fifo.numStages - 1)).length + mmcLag d.msc.emmcUser d.msc.mmc ≤
      (p.made (p.fifo.numStages - 2)).length := by
  have hn := h.setup.bounds
  have hanti := h.ring.flow.ring.anti (p.fifo.numStages - 2) (by omega)
  have hnext : p.fifo.numStages - 2 + 1 = p.fifo.numStages - 1 := by omega
  rw [hnext] at hanti
  by_cases huser : d.msc.emmcUser = .storage
  · -- the stage of the eMMC runs, so it is behind
    have hcard := h.card.waits.mp (.inr huser)
    have hcan : p.fifo.CanAdvance p.count (p.fifo.numStages - 1) :=
      (h.ring.flow.runs _ h.setup.apart.2.1 hcard).1
    have hlt := count_lt_of_canAdvance (by omega) hcan
    have hle : mmcLag d.msc.emmcUser d.msc.mmc ≤ 1 := by
      unfold mmcLag
      split <;> decide
    have hprev : p.fifo.numStages - 1 - 1 = p.fifo.numStages - 2 := by omega
    rw [hprev] at hlt
    change p.count (p.fifo.numStages - 1) + _ ≤ p.count (p.fifo.numStages - 2)
    omega
  · rw [mmcLag_of_ne huser]
    exact hanti

/-- The bytes of a chunk the cipher has finished. -/
theorem Carry.enciphered (h : Carry B K out settled p d) (h3 : p.fifo.numStages = 3)
    (hrun : p.running 1 = true) {k : Nat} {m : Mem} (hdone : SectorDone K out p d k m)
    (hall : (k + 1) * 512 = chunkLen d.msc.cbw.blocks (p.count 1)) :
    Passed K out p.fifo.numStages (B.volumeFirst d.msc.cbw.bLUN.toNat) d.msc.cbw.lba
      d.msc.cbw.blocks (update p.made 1 (p.made 1 ++
        [m.read (p.bufferWrite 1) (chunkLen d.msc.cbw.blocks (p.count 1))]))
      (mmcLag d.msc.emmcUser d.msc.mmc) d.moved d.card := by
  have hcan := (h.ring.flow.runs 1 (by omega) hrun).1
  have hsource := h.ring.chunk (by omega) Nat.one_ne_zero hcan
  have hanti := h.ring.flow.ring.anti 1 (by omega)
  have hpassed := h.passed
  rw [h3] at hpassed ⊢
  refine hpassed.encipher (fun _ => hanti) ?_ ?_
  · rintro rfl
    have hwritten := h.written_le
    rwa [h3] at hwritten
  · intro j hj
    change sector _ j = K.cryp out (K.deriveIv (d.msc.cbw.lba + p.count 1 * 32 + j))
      (sector ((p.made (1 - 1)).getD (p.count 1) []) j)
    have hj' : (j + 1) * 512 ≤ chunkLen d.msc.cbw.blocks (p.count 1) := hj
    have hjk : j < k + 1 := by
      rw [← hall] at hj'
      exact Nat.le_of_mul_le_mul_right hj' (by decide)
    rw [← hsource, sector_read _ _ hj', sector_read _ _ hj', hdone.done j hjk, hdone.source j hj']

/-- **The cipher completes its chunk.** -/
theorem Carry.crypLast (hB : B.Large) (hinv : BlockInverse K.enc K.dec) (hlog : AllFaithful d.log)
    (h : Carry B K out (fun _ => True) p d) (h3 : p.fifo.numStages = 3)
    (hrun : p.running 1 = true) (hlastSector : d.msc.scsiNumAesSector = 1) :
    DiskInv B K ((Disk.cryp K d).usbdScsiIdle B K) := by
  obtain ⟨k, hk, hpos, -, -, hsector, hdone⟩ := h.sectorDone hinv h3 hrun
  obtain ⟨hnum, hnext⟩ := h.sectorCounters h3 hrun hk hpos
  rw [hlastSector] at hk hnum
  obtain ⟨-, -, -, hcryp⟩ := h.setup.apart
  obtain ⟨hne, hne'⟩ := hcryp h3
  have hone : 1 < p.fifo.numStages := by omega
  obtain ⟨hidx, hlen, -⟩ := (h.cryp h3).given hrun
  have hleft := (h.cryp h3).left
  have hlt := (h.ring.flow.runs 1 hone hrun).2
  have hfifo := h.ring.fifo
  have hnumStages : d.msc.fifo.numStages = p.fifo.numStages := by rw [hfifo]
  have hpassed := h.enciphered h3 hrun hdone hk
  have hring := h.ring.pass hone hrun hdone.whole
  generalize hm : (Disk.cryp K d).bufferStorage = m at hdone hpassed hring
  have hp := passedOn_pass (p := p) (numChunks d.msc.cbw.blocks) m 1
    (chunkLen d.msc.cbw.blocks (p.count 1))
  generalize p.pass (numChunks d.msc.cbw.blocks) m 1 (chunkLen d.msc.cbw.blocks (p.count 1)) = q
    at hring hp
  have hdata : d.msc.cryptDataToTransfer - (d.msc.cryptTxLen : Int) =
      (bytesLeft d.msc.cbw.blocks (p.count 1 + 1) : Nat) := by
    have hle := chunkLen_le_bytesLeft hlt
    rw [hleft, hlen, bytesLeft_succ hlt]
    omega
  have hend : d.msc.cryptDataToTransfer - (d.msc.cryptTxLen : Int) = 0 ↔
      p.count 1 + 1 = numChunks d.msc.cbw.blocks := by
    rw [← bytesLeft_eq_zero hlt, hdata]
    exact Int.natCast_eq_zero
  unfold Disk.usbdScsiIdle
  rw [nextSector_cryp, hlastSector, hnum, hm, hsector, hnext]
  dsimp only
  rw [if_pos (Nat.sub_self 1)]
  unfold Disk.crypChunkDone
  dsimp only
  rw [stallIf_eq, hidx, hlen]
  dsimp only
  rw [hlen] at hend hdata
  simp only [hend]
  refine @Carry.processingComplete B K out q _ _ hB hinv ?_ (hp.numStages.symm ▸ hone) _ ?_ ?_
  · exact hlog
  · rw [hp.numStages, ← hnumStages]
    exact (stallStage_keeps d.msc.fifo _ _).2.2.2.2
  · rw [hp.numStages]
    obtain ⟨-, ⟨h₁, h₂, h₃, h₄, h₅, h₆, h₇, h₈, h₉⟩, hu, hc, -, -, -, hstored⟩ := h
    rw [← hp.running _ hne.symm, ← hp.count hne.symm, ← (hp.buffers _ hne.symm).2] at hu
    rw [← hp.running _ hne'.symm, ← hp.count hne'.symm, ← (hp.buffers _ hne'.symm).1,
      ← (hp.buffers _ hne'.symm).2] at hc
    rw [← hp.count hne'.symm] at hstored
    have hidle := hp.idle
    have hcount := hp.count_self
    rw [← hp.made] at hpassed
    rw [← hp.numStages] at hu hc hstored hpassed h₁ h₃ h3
    refine ⟨hring, ⟨h₁, h₂, h₃, h₄, h₅, h₆, h₇, h₈, h₉⟩,
      ⟨hu.left, hu.notCbw, hu.receiving, hu.sending, hu.given⟩,
      ⟨hc.left, hc.addr, hc.waits, hc.excl, hc.phase, hc.given, hc.hal⟩, fun _ => ?_,
      fun h2 => absurd h3 h2, hpassed, hstored⟩
    rw [hidle, hcount]
    refine ⟨hdata, ⟨(fun hfalse => by cases hfalse), fun hfalse => by cases hfalse⟩, fun _ hmore => ?_,
      (fun hfalse => by cases hfalse), fun hfalse => by cases hfalse⟩
    -- a chunk that is not the last one has 32 sectors
    rw [chunkLen_sectors hlt] at hk
    have hsectors := Nat.eq_of_mul_eq_mul_right (by decide) hk
    change p.count 1 + 1 < numChunks d.msc.cbw.blocks at hmore
    change d.msc.cbw.lba + p.count 1 * 32 + (k + 1) = d.msc.cbw.lba + (p.count 1 + 1) * 32
    unfold numChunks at hmore
    omega

/-! ### Events in a transfer -/

theorem Setup.write {n : Nat} {s : Msc} (h : Setup B true n s) : s.cbw.cb 0 = SCSI_WRITE10 := by
  have hop := h.opcode
  unfold transferOpcode at hop
  rwa [h.dir] at hop

theorem Setup.read {n : Nat} {s : Msc} (h : Setup B false n s) : s.cbw.cb 0 = SCSI_READ10 := by
  have hop := h.opcode
  unfold transferOpcode at hop
  rwa [h.dir] at hop

theorem Disk.mscBotDataOut_write (hop : d.msc.cbw.cb 0 = SCSI_WRITE10)
    (hbot : d.msc.botState = .dataOut) : d.mscBotDataOut B K = d.scsiProcessed B K := by
  unfold Disk.mscBotDataOut Disk.scsiProcessCmd Disk.scsiWrite10 Disk.scsiProcessWrite
  simp [hop, hbot, SCSI_WRITE10, SCSI_READ10, SCSI_READ_CAPACITY10]

theorem Disk.mscBotDataIn_read (hop : d.msc.cbw.cb 0 = SCSI_READ10)
    (hbot : d.msc.botState = .dataIn) : d.mscBotDataIn B K = d.scsiProcessRead B K := by
  unfold Disk.mscBotDataIn Disk.scsiProcessCmd Disk.scsiRead10
  simp [hop, hbot, SCSI_READ10, SCSI_READ_CAPACITY10]

/-- The first stage stores its chunk. -/
theorem Carry.storeFirst (h : Carry B K out settled p d) (hrun : p.running 0 = true) {bs : Bytes}
    (hbs : bs.length ≤ USB_BULK_BUFFER_SIZE) :
    ({ p with bufferStorage := d.bufferStorage.write (p.bufferWrite 0) bs } : Pipeline).Whole
      (numChunks d.msc.cbw.blocks) (lastChunk d.msc.cbw.blocks) := by
  have hn := h.setup.bounds
  have hoff : 0 + bs.length ≤ p.fifo.maxBufferSize := by
    rw [h.ring.max, Nat.zero_add]
    exact hbs
  have hstore := h.ring.whole.store h.ring.flow (h.ring.max ▸ lastChunk_le _) (i := 0) (by omega)
    hrun hoff
  rw [Nat.add_zero, h.ring.storage] at hstore
  exact hstore

/-- **The host has sent a chunk.** -/
theorem Carry.dataReceived (hB : B.Large) (hinv : BlockInverse K.enc K.dec)
    (hlog : AllFaithful d.log) (h : Carry B K out (fun _ => True) p d)
    (hdata : d.msc.outEndpoint = .data) {data : Bytes} (hlen : data.length = d.msc.writeLen) :
    DiskInv B K (Disk.mscBotDataOut B K { d with
      msc := { d.msc with outEndpoint := .off }
      bufferStorage := d.bufferStorage.write d.writeBuffer data
      moved := d.moved ++ data }) := by
  obtain ⟨rfl, hrun⟩ := h.usb.receiving.mp hdata
  have hn := h.setup.bounds
  obtain ⟨-, hwriteLen, hbuffer⟩ := h.usb.given hrun
  have husb : d.msc.usbTransmitting = false := by
    cases hsend : d.msc.usbTransmitting with
    | false => rfl
    | true => cases (h.usb.sending.mp hsend).1
  have hrun0 : p.running 0 = true := hrun
  have hlen0 : data.length = chunkLen d.msc.cbw.blocks (p.count 0) := hlen.trans hwriteLen
  have hbuffer0 : d.writeBuffer = p.bufferWrite 0 := hbuffer
  have hlt := (h.ring.flow.runs 0 (by omega) hrun0).2
  have hfits : data.length ≤ USB_BULK_BUFFER_SIZE := hlen0 ▸ chunkLen_le _ _
  have hwhole := h.storeFirst hrun0 hfits
  rw [Disk.mscBotDataOut_write (d := { d with
    msc := { d.msc with outEndpoint := .off }
    bufferStorage := d.bufferStorage.write d.writeBuffer data
    moved := d.moved ++ data }) h.setup.write h.setup.dir]
  rw [← hbuffer0] at hwhole
  refine h.usbDone hB hinv hlog hrun (d.bufferStorage.write d.writeBuffer data)
    (d.moved ++ data) .off d.msc.usbTransmitting ⟨by decide, by decide⟩ husb hwhole ?_ ?_
  · intro h3 hrun1 off hoff
    rw [hbuffer0]
    exact h.ring.first_apart h3 hrun0 hrun1 hoff hfits
  · change Passed K true _ _ _ _ (update p.made 0 (p.made 0 ++
      [(d.bufferStorage.write d.writeBuffer data).read (p.bufferWrite 0)
        (chunkLen d.msc.cbw.blocks (p.count 0))])) _ _ _
    rw [hbuffer0, Mem.read_write _ _ _ _ hlen0.symm]
    refine h.passed.receive hn.1 hlt (fun h3 => ?_) h.written_le hlen0
    exact h.ring.flow.ring.anti 0 (by omega)

/-- The last stage writes where it reads. -/
theorem Carry.sendBuffer (h : Carry B K out settled p d) :
    p.bufferRead (p.fifo.numStages - 1) = p.bufferWrite (p.fifo.numStages - 1) := by
  have hn := h.setup.bounds
  have hread := h.ring.flow.ring.read (p.fifo.numStages - 1) (by omega)
  have hwrite := h.ring.flow.ring.write (p.fifo.numStages - 1) (by omega)
  unfold BufferFIFO.readBase at hread
  rw [if_neg (by omega)] at hread
  unfold Pipeline.bufferRead Pipeline.bufferWrite
  rw [hread, hwrite]
  congr 3
  omega

/-- **The host has been sent a chunk.** -/
theorem Carry.dataSent (hB : B.Large) (hinv : BlockInverse K.enc K.dec) (hrest : DiskInv B K d)
    (h : Carry B K out (fun _ => True) p d) : DiskInv B K (d.mscBotDataIn B K) := by
  have hlog := hrest.1
  have hn := h.setup.bounds
  have hdir := h.setup.dir
  cases out with
  | true =>
    have heq : d.mscBotDataIn B K = d := by
      unfold Disk.mscBotDataIn
      rw [hdir]
      rfl
    rw [heq]
    exact hrest
  | false =>
    rw [Disk.mscBotDataIn_read h.setup.read hdir]
    unfold Disk.scsiProcessRead
    by_cases hsend : d.msc.usbTransmitting = true
    · rw [if_pos hsend]
      obtain ⟨-, hrun⟩ := h.usb.sending.mp hsend
      obtain ⟨-, hlen, hbuffer⟩ := h.usb.given hrun
      have hout : d.msc.outEndpoint ≠ .data := by
        intro hdata
        cases (h.usb.receiving.mp hdata).1
      have hlast : p.fifo.numStages - 1 < p.fifo.numStages := by omega
      obtain ⟨hcan, hlt⟩ := h.ring.flow.runs _ hlast hrun
      have hchunk := h.ring.chunk hlast (by omega) hcan
      have hprev : p.fifo.numStages - 1 - 1 = p.fifo.numStages - 2 := by omega
      rw [h.sendBuffer, hprev] at hchunk
      have hbuffer' : d.writeBuffer = p.bufferWrite (p.fifo.numStages - 1) := hbuffer
      have hlen' : d.msc.writeLen = chunkLen d.msc.cbw.blocks (p.count (p.fifo.numStages - 1)) :=
        hlen
      have hwhole := h.ring.whole
      refine h.usbDone hB hinv hlog hrun d.bufferStorage
        (d.moved ++ d.bufferStorage.read d.writeBuffer d.msc.writeLen) d.msc.outEndpoint false
        ⟨h.usb.notCbw, hout⟩ rfl ?_ (fun _ _ _ _ => ⟨rfl, rfl⟩) ?_
      · rw [← h.ring.storage]
        exact hwhole
      · rw [hbuffer', hlen', hchunk]
        have hchunkLen := congrArg List.length hchunk
        rw [Mem.length_read] at hchunkLen
        exact h.passed.send hn.1 hlt hchunkLen.symm
    · rw [if_neg hsend]
      exact hrest

/-- The chunk that the eMMC has under way. -/
theorem Carry.underway (h : Carry B K out settled p d) (huser : d.msc.emmcUser = .storage) :
    p.running (cardStage out p.fifo.numStages) = true ∧
      p.count (cardStage out p.fifo.numStages) < numChunks d.msc.cbw.blocks ∧
      d.msc.mmcReadLen = chunkLen d.msc.cbw.blocks (p.count (cardStage out p.fifo.numStages)) ∧
      d.msc.mmcReadLen / 512 * 512 = d.msc.mmcReadLen ∧
      d.halBuffer = (if out then p.bufferRead (cardStage out p.fifo.numStages)
        else p.bufferWrite (cardStage out p.fifo.numStages)) ∧
      d.lastIssue = ⟨d.msc.cbw.bLUN.toNat, out,
        B.volumeFirst d.msc.cbw.bLUN.toNat + d.msc.cbw.lba +
          p.count (cardStage out p.fifo.numStages) * 32, d.msc.mmcReadLen / 512⟩ := by
  have hrun := h.card.waits.mp (.inr huser)
  have hlt := (h.ring.flow.runs _ h.setup.apart.2.1 hrun).2
  obtain ⟨-, hlen, -⟩ := h.card.given hrun
  obtain ⟨hbuffer, hissue⟩ := h.card.hal huser
  refine ⟨hrun, hlt, hlen, ?_, hbuffer, ?_⟩
  · rw [hlen, chunkLen_sectors hlt, Nat.mul_div_cancel _ (by decide)]
  · unfold Disk.lastIssue
    rw [hissue, hlen]

/-- The counters after a chunk of the eMMC. -/
theorem Carry.chunkCounters (h : Carry B K out settled p d)
    (hlt : p.count (cardStage out p.fifo.numStages) < numChunks d.msc.cbw.blocks)
    (hlen : d.msc.mmcReadLen = chunkLen d.msc.cbw.blocks (p.count (cardStage out p.fifo.numStages)))
    (hlag : mmcLag d.msc.emmcUser d.msc.mmc = 0) :
    d.msc.mmcDataToTransfer - (d.msc.mmcReadLen : Int) = (bytesLeft d.msc.cbw.blocks
        (p.count (cardStage out p.fifo.numStages) + 1) : Nat) ∧
      (d.msc.mmcBlockAddr + d.msc.mmcReadLen / 512) % 2 ^ 32 * 512 + bytesLeft d.msc.cbw.blocks
        (p.count (cardStage out p.fifo.numStages) + 1) =
        (d.msc.cbw.lba + d.msc.cbw.blocks) * 512 := by
  have hleft := h.card.left
  have haddr := h.card.addr
  have hrange := h.setup.range
  have hvol : B.volumeBlocks d.msc.cbw.bLUN.toNat < 2 ^ 32 := Nat.mod_lt _ (by decide)
  rw [hlag, Nat.add_zero] at hleft haddr
  have hle := chunkLen_le_bytesLeft hlt
  rw [hleft, hlen, bytesLeft_succ hlt]
  constructor
  · omega
  · rw [chunkLen_sectors hlt] at hle ⊢
    generalize min (d.msc.cbw.blocks - p.count (cardStage out p.fifo.numStages) * 32) 32 =
      k at hle ⊢
    generalize bytesLeft d.msc.cbw.blocks (p.count (cardStage out p.fifo.numStages)) = left
      at haddr hle ⊢
    rw [Nat.mul_div_cancel _ (by decide)]
    have hsum : (d.msc.mmcBlockAddr + k) * 512 ≤ (d.msc.cbw.lba + d.msc.cbw.blocks) * 512 := by
      rw [Nat.add_mul, ← haddr]
      exact Nat.add_le_add_left hle _
    have hle' := Nat.le_of_mul_le_mul_right hsum (by decide)
    rw [Nat.mod_eq_of_lt (by omega), Nat.add_mul, Nat.add_assoc, Nat.add_sub_of_le hle]
    exact haddr

/-- **The eMMC has read a chunk.** -/
theorem Carry.mmcRxCplt (hB : B.Large) (hinv : BlockInverse K.enc K.dec)
    (hlog : AllFaithful d.log) (h : Carry B K out (fun _ => True) p d) (hmmc : d.msc.mmc = .reading)
    (huser : d.msc.emmcUser = .storage) :
    DiskInv B K (Disk.emmcUserReadStorageRxComplete B K { d.mmcRead with
      msc := { d.msc with mmc := .idle } }) := by
  have hphase := h.card.phase huser
  cases out with
  | true =>
    rw [if_pos rfl, hmmc] at hphase
    rcases hphase with hfalse | hfalse <;> cases hfalse
  | false =>
    obtain ⟨hrun, hlt, hlen, hwhole512, hbuffer, hissue⟩ := h.underway huser
    have hn := h.setup.bounds
    have hlag : mmcLag d.msc.emmcUser d.msc.mmc = 0 :=
      mmcLag_of_phase _ (by rw [hmmc]; decide)
    obtain ⟨hleft, haddr⟩ := h.chunkCounters hlt hlen hlag
    have hrun0 : p.running 0 = true := hrun
    have hbuffer0 : d.halBuffer = p.bufferWrite 0 := hbuffer
    have hlen0 : d.msc.mmcReadLen = chunkLen d.msc.cbw.blocks (p.count 0) := hlen
    have hread : d.mmcRead.bufferStorage = d.bufferStorage.write (p.bufferWrite 0)
        (d.card.read ((B.volumeFirst d.msc.cbw.bLUN.toNat + d.msc.cbw.lba + p.count 0 * 32) * 512)
          (chunkLen d.msc.cbw.blocks (p.count 0))) := by
      unfold Disk.mmcRead
      dsimp only
      rw [hissue, hbuffer0]
      dsimp only
      rw [hwhole512, hlen0]
      rfl
    have hfits : (d.card.read ((B.volumeFirst d.msc.cbw.bLUN.toNat + d.msc.cbw.lba +
        p.count 0 * 32) * 512) (chunkLen d.msc.cbw.blocks (p.count 0))).length ≤
        USB_BULK_BUFFER_SIZE := by
      rw [Mem.length_read]
      exact chunkLen_le _ _
    have hstore := h.storeFirst hrun0 hfits
    have hpassed := h.passed
    rw [hlag] at hpassed
    refine h.cardDone hB hinv hlog huser (m := d.mmcRead.bufferStorage) hleft haddr ?_ ?_ ?_ ?_
    · rw [hread]
      exact hstore
    · intro h3 hrun1 off hoff
      rw [hread]
      exact h.ring.first_apart h3 hrun0 hrun1 hoff hfits
    · change Passed K false _ _ _ _ (update p.made 0 (p.made 0 ++
        [d.mmcRead.bufferStorage.read (p.bufferWrite 0) (chunkLen d.msc.cbw.blocks (p.count 0))]))
        _ _ _
      rw [hread, Mem.read_write _ _ _ _ (Mem.length_read _ _ _).symm]
      refine hpassed.fromCard hn.1 (fun h3 => h.ring.flow.ring.anti 0 (by omega)) ?_
      have hanti := h.ring.flow.ring.anti (p.fifo.numStages - 2) (by omega)
      have hnext : p.fifo.numStages - 2 + 1 = p.fifo.numStages - 1 := by omega
      rwa [hnext] at hanti
    · intro lun x bs hbs
      obtain ⟨hbsLen, hlun, hx, hstored⟩ := h.stored lun x bs hbs
      exact ⟨hbsLen, hlun, hx, fun _ => hstored fun hover => by cases hover.1⟩

/-- Sectors of the two volumes are different blocks of the card. -/
theorem sectors_apart (hB : B.Large) {lun lun' x y : Nat} (hlun : lun < MAX_SCSI_VOLUMES)
    (hlun' : lun' < MAX_SCSI_VOLUMES) (hx : x < B.volumeBlocks lun) (hy : y < B.volumeBlocks lun')
    (h : B.volumeFirst lun + x = B.volumeFirst lun' + y) : lun = lun' ∧ x = y := by
  rw [hB.volumeBlocks_eq] at hx hy
  unfold MAX_SCSI_VOLUMES at hlun hlun'
  have hends : B.volumeFirst 0 + (B.volume 0).nRegions * HcBoard.regionSizeBlocks =
      B.volumeFirst 1 := by
    unfold HcBoard.volumeFirst HcBoard.volume
    rw [if_pos rfl, if_neg Nat.one_ne_zero, Nat.zero_mul, Nat.add_zero]
  generalize HcBoard.regionSizeBlocks = size at hx hy hends
  have hcases : (lun = 0 ∨ lun = 1) ∧ (lun' = 0 ∨ lun' = 1) := by omega
  obtain ⟨rfl | rfl, rfl | rfl⟩ := hcases
  · exact ⟨rfl, Nat.add_left_cancel h⟩
  · omega
  · omega
  · exact ⟨rfl, Nat.add_left_cancel h⟩

/-- A block that meets a range of blocks is one of them. -/
theorem block_in_range {x a k : Nat}
    (h : ¬(x * 512 + 512 ≤ a * 512 ∨ a * 512 + k * 512 ≤ x * 512)) : ∃ j < k, x = a + j := by
  rw [← Nat.succ_mul, ← Nat.add_mul, not_or, Nat.not_le, Nat.not_le] at h
  have hlo := Nat.lt_of_mul_lt_mul_right h.1
  have hhi := Nat.lt_of_mul_lt_mul_right h.2
  exact ⟨x - a, by omega, by omega⟩

/-- **The data of a chunk have been sent to the eMMC.** -/
theorem Carry.mmcTxDmaCplt (hB : B.Large) (h : Carry B K out (fun _ => True) p d)
    (hmmc : d.msc.mmc = .writing) (huser : d.msc.emmcUser = .storage) :
    Carry B K out (fun _ => True) p { d.mmcWrite with
      msc := mmcChunkDone { d.msc with mmc := .finishing } } := by
  have hphase := h.card.phase huser
  cases out with
  | false =>
    rw [if_neg Bool.false_ne_true, hmmc] at hphase
    cases hphase
  | true =>
    obtain ⟨hrun, hlt, hlen, hwhole512, hbuffer, hissue⟩ := h.underway huser
    have hn := h.setup.bounds
    have hlag : mmcLag d.msc.emmcUser d.msc.mmc = 0 :=
      mmcLag_of_phase _ (by rw [hmmc]; decide)
    have hlag' : mmcLag d.msc.emmcUser .finishing = 1 := if_pos ⟨huser, rfl⟩
    obtain ⟨hleft, haddr⟩ := h.chunkCounters hlt hlen hlag
    have hcan := (h.ring.flow.runs _ h.setup.apart.2.1 hrun).1
    have hne : cardStage true p.fifo.numStages ≠ 0 := by
      change p.fifo.numStages - 1 ≠ 0
      omega
    have hchunk := h.ring.chunk h.setup.apart.2.1 hne hcan
    have hprev : cardStage true p.fifo.numStages - 1 = p.fifo.numStages - 2 := by
      change p.fifo.numStages - 1 - 1 = _
      omega
    rw [hprev] at hchunk
    have hchunkLen := congrArg List.length hchunk
    rw [Mem.length_read] at hchunkLen
    have hcard : d.mmcWrite.card = d.card.write ((B.volumeFirst d.msc.cbw.bLUN.toNat +
        d.msc.cbw.lba + p.count (p.fifo.numStages - 1) * 32) * 512)
        ((p.made (p.fifo.numStages - 2)).getD (p.count (p.fifo.numStages - 1)) []) := by
      unfold Disk.mmcWrite
      dsimp only
      rw [hissue, hbuffer]
      dsimp only
      rw [hwhole512, hlen, if_pos rfl, hchunk]
      rfl
    have hpassed := h.passed
    have hstored := h.stored
    have hrange := h.setup.range
    have hlun := h.setup.lun
    rw [hlag] at hpassed hstored
    have hwritten := hpassed.toCard hchunkLen.symm
    have hsectors := chunkLen_sectors hlt
    obtain ⟨hring, ⟨h₁, h₂, h₃, h₄, h₅, h₆, h₇, h₈, h₉⟩, hu, hc, hy, hplain, -, -⟩ := h
    unfold mmcChunkDone
    refine ⟨hring, ⟨h₁, h₂, h₃, h₄, h₅, h₆, h₇, h₈, h₉⟩,
      ⟨hu.left, hu.notCbw, hu.receiving, hu.sending, hu.given⟩, ?_, fun h3 => ?_, hplain, ?_, ?_⟩
    · refine ⟨?_, ?_, hc.waits, hc.excl, fun _ => .inr rfl, hc.given, hc.hal⟩
      · change d.msc.mmcDataToTransfer - (d.msc.mmcReadLen : Int) =
          (bytesLeft d.msc.cbw.blocks (_ + mmcLag d.msc.emmcUser .finishing) : Nat)
        rw [hlag']
        exact hleft
      · change (d.msc.mmcBlockAddr + d.msc.mmcReadLen / 512) % 2 ^ 32 * 512 +
          bytesLeft d.msc.cbw.blocks (_ + mmcLag d.msc.emmcUser .finishing) = _
        rw [hlag']
        exact haddr
    · have hy := hy h3
      exact ⟨hy.left, hy.active, hy.idle, hy.given, hy.sectors⟩
    · change Passed K true _ _ _ _ _ (mmcLag d.msc.emmcUser .finishing) _ d.mmcWrite.card
      rw [hlag', hcard]
      exact hwritten
    · change Stored B K d.log d.mmcWrite.card
        (Overwritten true d.msc.cbw (_ + mmcLag d.msc.emmcUser .finishing))
      rw [hlag', hcard]
      intro lun x bs hbs
      obtain ⟨hbsLen, hlun', hx, honcard⟩ := hstored lun x bs hbs
      refine ⟨hbsLen, hlun', hx, fun hnot => ?_⟩
      rw [← honcard fun hover => hnot ⟨hover.1, hover.2.1, hover.2.2.1, hover.2.2.2.1,
        Nat.lt_succ_of_lt hover.2.2.2.2⟩]
      apply Mem.read_write_disjoint
      have hlength : List.length ((p.made (p.fifo.numStages - 2)).getD
          (p.count (p.fifo.numStages - 1)) []) = _ := hchunkLen.symm.trans hsectors
      rw [hlength]
      by_contra hmeet
      -- the sector is one of the chunk
      obtain ⟨j, hj, heq⟩ := block_in_range hmeet
      have hcount : cardStage true p.fifo.numStages = p.fifo.numStages - 1 := rfl
      rw [hcount] at hj hnot
      rw [Nat.add_assoc, Nat.add_assoc] at heq
      obtain ⟨rfl, rfl⟩ := sectors_apart hB hlun' hlun hx (by omega) heq
      exact hnot ⟨rfl, rfl, by omega, by omega, by omega⟩

/-- **The eMMC has written a chunk.** -/
theorem Carry.mmcTxCplt (hB : B.Large) (hinv : BlockInverse K.enc K.dec)
    (hlog : AllFaithful d.log) (h : Carry B K out (fun _ => True) p d)
    (hmmc : d.msc.mmc = .finishing) (huser : d.msc.emmcUser = .storage) :
    DiskInv B K (Disk.mmcStageDone B K { d with msc := { d.msc with mmc := .idle } }) := by
  have hphase := h.card.phase huser
  cases out with
  | false =>
    rw [if_neg Bool.false_ne_true, hmmc] at hphase
    cases hphase
  | true =>
    have hn := h.setup.bounds
    have hlag : mmcLag d.msc.emmcUser d.msc.mmc = 1 := if_pos ⟨huser, hmmc⟩
    have hleft := h.card.left
    have haddr := h.card.addr
    have hpassed := h.passed
    have hstored := h.stored
    have hwhole := h.ring.whole
    rw [hlag] at hleft haddr hpassed hstored
    refine h.cardDone hB hinv hlog huser (m := d.bufferStorage) hleft haddr ?_
      (fun _ _ _ _ => ⟨rfl, rfl⟩) (hpassed.written hn.1) hstored
    rw [← h.ring.storage]
    exact hwhole

end SignetBase.FirmwareHc
