/-
  SignetBase/FirmwareHc/RootBlock.lean
  ====================================
  **The two root sectors of Signet HC.**

  The root block is kept in two flash sectors.  A write goes to the sector that is
  not the current one, with an iteration number one higher, and `cmd_init` takes
  the sector with the higher number of those whose checksum is right.  Power may be
  lost at any time; a write that was in progress then leaves a wrong checksum.

  The invariant (`RootInv`) is that the current sector holds the root block that
  was written last and that the other one is out of order or older.  It fails to
  decide which sector is newer exactly when the 16-bit number has wrapped.
-/
import SignetBase.Common
import SignetBase.Run
import SignetBase.FirmwareHc.MemoryLayout

namespace SignetBase.FirmwareHc

/-! ### The code -/

/-- What the root block code uses and the repository does not contain: the CRC
    unit's result for a string of bytes, and the size of `struct hc_device_data`. -/
structure RootPlatform where
  halCrcCalculate : Bytes → UInt32
  deviceDataSize : Nat
  size_ge : 12 ≤ deviceDataSize
  size_le : deviceDataSize ≤ HC_BLOCK_SZ

/-- `_crypt_data1` and `_crypt_data2`. -/
inductive RootSector where
  | cryptData1 | cryptData2
deriving DecidableEq, Repr

/-- The other sector. -/
def RootSector.other : RootSector → RootSector
  | .cryptData1 => .cryptData2
  | .cryptData2 => .cryptData1

/-- `crc` and `data_iteration` of `struct hc_device_data`. -/
def deviceDataCrc (d : Mem) : Nat := d.get32 0

def dataIteration (d : Mem) : Nat := d.get16 8

variable (P : RootPlatform)

/-- `crc_32`. -/
def crc32 (din : Bytes) : UInt32 := ~~~ P.halCrcCalculate din

/-- `compute_device_data_crc`. -/
def computeDeviceDataCrc (d : Mem) : Nat := (crc32 P (d.read 4 (P.deviceDataSize - 4))).toNat

/-- The sector's checksum is right. -/
def crcOk (d : Mem) : Bool := computeDeviceDataCrc P d = deviceDataCrc d

/-- The two sectors, `root_page`, `_root_page`, `g_root_page_valid` and the flash
    write in progress, if any: its sector, source and length. -/
structure RootState where
  sector : RootSector → Mem
  rootPage : Mem
  current : RootSector
  rootPageValid : Bool
  writing : Option (RootSector × Mem × Nat)

/-- The choice of `cmd_init` between the sectors. -/
def initSector (sector : RootSector → Mem) : RootSector :=
  if crcOk P (sector .cryptData1) then
    if crcOk P (sector .cryptData2) then
      if dataIteration (sector .cryptData1) > dataIteration (sector .cryptData2) then .cryptData1
      else .cryptData2
    else .cryptData1
  else if crcOk P (sector .cryptData2) then .cryptData2
  else .cryptData1

/-- `cmd_init`.  `_root_page` is never NULL at its end. -/
def cmdInit (s : RootState) : RootState :=
  let current := initSector P s.sector
  { s with
    current
    rootPage := s.rootPage.copy 0 (s.sector current) 0 P.deviceDataSize
    rootPageValid := true }

/-- The data `write_root_block` hands to the flash driver: the root block with its
    iteration number and checksum. -/
def stampRootBlock (s : RootState) (data : Mem) : Mem :=
  let d := data.put16 8
    (if s.rootPageValid then dataIteration (s.sector s.current) + 1 else 0)
  d.put32 0 (computeDeviceDataCrc P d)

/-- `write_root_block`, with the flash driver idle. -/
def writeRootBlock (data : Mem) (sz : Nat) (s : RootState) : RootState :=
  { s with
    current := s.current.other
    writing := some (s.current.other, stampRootBlock P s data, sz) }

/-- What happens to the root block: a write is begun, the write in progress ends,
    or power is lost and the device starts again; `torn` is what a write in
    progress leaves then. -/
inductive RootEvent where
  | write (data : Mem) (sz : Nat)
  | complete
  | restart (torn : Mem)

/-- A sector replaced. -/
def RootState.setSector (s : RootState) (c : RootSector) (d : Mem) : RootState :=
  { s with sector := fun c' => if c' = c then d else s.sector c', writing := none }

/-- One event. -/
def rootStep (s : RootState) : RootEvent → RootState
  | .write data sz => if s.writing.isNone then writeRootBlock P data sz s else s
  | .complete =>
    match s.writing with
    | some (c, d, sz) => s.setSector c (Mem.copy (fun _ => 0xff) 0 d 0 sz)
    | none => s
  | .restart torn =>
    match s.writing with
    | some (c, _, _) => cmdInit P (s.setSector c torn)
    | none => cmdInit P s

/-! ### Runs -/

/-- The steps there are: a write is begun when none is in progress, of the root
    page or of a whole block, and a write that is cut off leaves a sector with a
    wrong checksum. -/
inductive RootOk (s : RootState) : RootEvent → Prop where
  | write {data : Mem} {sz : Nat} : s.writing = none → sz = P.deviceDataSize ∨ sz = HC_BLOCK_SZ →
      RootOk s (.write data sz)
  | complete : RootOk s .complete
  | restart {torn : Mem} : (s.writing ≠ none → crcOk P torn = false) → RootOk s (.restart torn)

/-- The device has started on two sectors of which at least one has a correct
    checksum. -/
def RootInitial (sector : RootSector → Mem) (s : RootState) : Prop :=
  (∃ c, crcOk P (sector c) = true) ∧
    ∃ s₀ : RootState, s₀.sector = sector ∧ s₀.writing = none ∧ s = cmdInit P s₀

/-- The root block whose write was completed last; before the first one, the block
    that was loaded at the start. -/
def lastRootBlock (sector : RootSector → Mem) : History RootState RootEvent → Mem
  | [] => sector (initSector P sector)
  | (s, e) :: h =>
    match e, s.writing with
    | .complete, some (_, d, _) => d
    | _, _ => lastRootBlock sector h

/-- The root page holds the root block `d`. -/
def Loaded (d : Mem) (s : RootState) : Prop :=
  ∀ a < P.deviceDataSize, s.rootPage a = d a

/-- The iteration number of the current sector has wrapped, and both sectors are in
    order. -/
def Wrapped (s : RootState) : Prop :=
  s.writing = none ∧ crcOk P (s.sector s.current.other) = true ∧
    dataIteration (s.sector s.current) = 0 ∧
    dataIteration (s.sector s.current.other) = 65535

/-! ### One root block -/

/-- Two memories agree on the root block. -/
def Agree (d d' : Mem) : Prop := ∀ a < P.deviceDataSize, d a = d' a

variable {P} {s : RootState} {d d' : Mem} {sector : RootSector → Mem}

theorem Agree.iteration (h : Agree P d d') : dataIteration d = dataIteration d' := by
  have hsize := P.size_ge
  apply Mem.get16_congr
  intro i hi
  exact h _ (by omega)

theorem Agree.crcOk (h : Agree P d d') : crcOk P d = crcOk P d' := by
  have hsize := P.size_ge
  have hread : d.read 4 (P.deviceDataSize - 4) = d'.read 4 (P.deviceDataSize - 4) := by
    apply Mem.read_congr
    intro i hi
    exact h _ (by omega)
  have hcrc : deviceDataCrc d = deviceDataCrc d' := by
    apply Mem.get32_congr
    intro i hi
    exact h _ (by omega)
  unfold FirmwareHc.crcOk computeDeviceDataCrc
  rw [hread, hcrc]

/-- A stamped root block has the next iteration number and a right checksum. -/
theorem iteration_stampRootBlock (hv : s.rootPageValid = true) (data : Mem) :
    dataIteration (stampRootBlock P s data) =
      (dataIteration (s.sector s.current) + 1) % 65536 := by
  unfold stampRootBlock
  rw [hv]
  exact (Mem.get16_put32_disjoint _ _ (.inr (by omega))).trans (Mem.get16_put16 _ _ _)

theorem crcOk_put_crc (d : Mem) : crcOk P (d.put32 0 (computeDeviceDataCrc P d)) = true := by
  have hread : (d.put32 0 (computeDeviceDataCrc P d)).read 4 (P.deviceDataSize - 4) =
      d.read 4 (P.deviceDataSize - 4) := Mem.read_write_disjoint _ (.inr (by simp))
  have hcrc : deviceDataCrc (d.put32 0 (computeDeviceDataCrc P d)) = computeDeviceDataCrc P d := by
    refine (Mem.get32_put32 _ _ _).trans (Nat.mod_eq_of_lt ?_)
    exact UInt32.toNat_lt _
  unfold crcOk
  rw [hcrc, decide_eq_true_eq]
  exact congrArg (fun bs => (crc32 P bs).toNat) hread

theorem crcOk_stampRootBlock (s : RootState) (data : Mem) :
    crcOk P (stampRootBlock P s data) = true := crcOk_put_crc _

/-! ### The choice of `cmd_init` -/

@[simp] theorem other_other (c : RootSector) : c.other.other = c := by
  cases c <;> rfl

theorem other_ne (c : RootSector) : c.other ≠ c := by
  cases c <;> decide

/-- A sector in order is chosen over one that is not. -/
theorem initSector_of_torn {c : RootSector} (h : crcOk P (sector c) = true)
    (ho : crcOk P (sector c.other) = false) : initSector P sector = c := by
  unfold initSector
  cases c with
  | cryptData1 => simp_all [RootSector.other]
  | cryptData2 => simp_all [RootSector.other]

/-- Of two sectors in order the newer one is chosen. -/
theorem initSector_of_newer {c : RootSector} (h : crcOk P (sector c) = true)
    (hlt : dataIteration (sector c.other) < dataIteration (sector c)) : initSector P sector = c := by
  cases ho : crcOk P (sector c.other) with
  | false => exact initSector_of_torn h ho
  | true =>
    unfold initSector
    cases c with
    | cryptData1 => simp_all [RootSector.other]
    | cryptData2 =>
      simp only [RootSector.other] at ho hlt
      rw [if_pos ho, if_pos h, if_neg (by omega)]

theorem crcOk_initSector (h : ∃ c, crcOk P (sector c) = true) :
    crcOk P (sector (initSector P sector)) = true := by
  unfold initSector
  split
  · split
    · split <;> assumption
    · assumption
  · split
    · assumption
    · rename_i h₁ h₂
      obtain ⟨c, hc⟩ := h
      cases c with
      | cryptData1 => exact absurd hc h₁
      | cryptData2 => exact absurd hc h₂

/-! ### The invariant -/

variable (P)

/-- The state while the root block written last is `last`: the current sector
    holds it and will be chosen, unless the number has wrapped; during a write the
    other sector still holds it. -/
structure RootInv (last : Mem) (s : RootState) : Prop where
  valid : s.rootPageValid = true
  idle : s.writing = none → crcOk P (s.sector s.current) = true ∧
    Agree P (s.sector s.current) last ∧ (initSector P s.sector = s.current ∨ Wrapped P s)
  busy : ∀ c d sz, s.writing = some (c, d, sz) → c = s.current ∧ P.deviceDataSize ≤ sz ∧
    crcOk P d = true ∧ dataIteration d = (dataIteration (s.sector c.other) + 1) % 65536 ∧
    crcOk P (s.sector c.other) = true ∧ Agree P (s.sector c.other) last

variable {P} {last : Mem}

/-- `cmd_init` loads the sector it chooses. -/
theorem loaded_cmdInit (s : RootState) :
    Loaded P ((cmdInit P s).sector (cmdInit P s).current) (cmdInit P s) := by
  intro a ha
  refine (Mem.copy_apply_of_mem _ _ (Nat.zero_le a) (by omega)).trans ?_
  rw [Nat.zero_add, Nat.sub_zero]
  rfl

theorem rootInv_cmdInit (hc : crcOk P (s.sector (initSector P s.sector)) = true)
    (hl : Agree P (s.sector (initSector P s.sector)) last) (hw : s.writing = none) :
    RootInv P last (cmdInit P s) := by
  refine ⟨rfl, ?_, ?_⟩
  · intro _
    exact ⟨hc, hl, .inl rfl⟩
  · intro c d sz h
    exact absurd (hw.symm.trans h) (by simp)

theorem rootInv_write (hi : RootInv P last s) (hw : s.writing = none) (data : Mem) {sz : Nat}
    (hsz : sz = P.deviceDataSize ∨ sz = HC_BLOCK_SZ) :
    RootInv P last (writeRootBlock P data sz s) := by
  obtain ⟨hcrc, hagree, -⟩ := hi.idle hw
  refine ⟨hi.valid, ?_, ?_⟩
  · intro h
    cases h
  · rintro c d sz' ⟨⟩
    have hle := P.size_le
    refine ⟨rfl, by omega, crcOk_stampRootBlock s data, ?_, ?_, ?_⟩
    · rw [iteration_stampRootBlock hi.valid, other_other]
      rfl
    · rw [other_other]
      exact hcrc
    · rw [other_other]
      exact hagree

theorem rootInv_complete (hi : RootInv P last s) {c : RootSector} {sz : Nat}
    (hw : s.writing = some (c, d, sz)) :
    RootInv P d (s.setSector c (Mem.copy (fun _ => 0xff) 0 d 0 sz)) := by
  obtain ⟨rfl, hsz, hcrc, hiter, hother, -⟩ := hi.busy _ _ _ hw
  generalize hm : Mem.copy (fun _ => 0xff) 0 d 0 sz = m
  have hagree : Agree P m d := by
    intro a ha
    rw [← hm, Mem.copy_apply_of_mem _ _ (Nat.zero_le a) (by omega)]
    simp
  have hself : (s.setSector s.current m).sector s.current = m := if_pos rfl
  have hkeep : (s.setSector s.current m).sector s.current.other = s.sector s.current.other :=
    if_neg (other_ne _)
  refine ⟨hi.valid, ?_, ?_⟩
  · intro _
    refine ⟨?_, ?_, ?_⟩
    · exact (congrArg (crcOk P) hself).trans (hagree.crcOk.trans hcrc)
    · intro a ha
      exact (congrFun hself a).trans (hagree a ha)
    · have hnew : dataIteration m = (dataIteration (s.sector s.current.other) + 1) % 65536 :=
        hagree.iteration.trans hiter
      have hlt : dataIteration (s.sector s.current.other) < 65536 := Mem.get16_lt _ _
      by_cases hmax : dataIteration (s.sector s.current.other) = 65535
      · right
        refine ⟨rfl, ?_, ?_, ?_⟩
        · exact (congrArg (crcOk P) hkeep).trans hother
        · refine (congrArg dataIteration hself).trans ?_
          rw [hnew, hmax]
        · exact (congrArg dataIteration hkeep).trans hmax
      · left
        apply initSector_of_newer
        · exact (congrArg (crcOk P) hself).trans (hagree.crcOk.trans hcrc)
        · have h₁ := congrArg dataIteration hself
          have h₂ := congrArg dataIteration hkeep
          change dataIteration ((s.setSector s.current m).sector s.current.other) <
            dataIteration ((s.setSector s.current m).sector s.current)
          rw [h₁, h₂, hnew]
          omega
  · intro c d' sz' h
    cases h

/-- A restart during a write finds the other sector. -/
theorem initSector_restart_busy (hi : RootInv P last s) {c : RootSector} {sz : Nat} {torn : Mem}
    (hw : s.writing = some (c, d, sz)) (ht : crcOk P torn = false) :
    initSector P (s.setSector c torn).sector = c.other ∧
      (s.setSector c torn).sector c.other = s.sector c.other := by
  obtain ⟨-, -, -, -, hother, -⟩ := hi.busy _ _ _ hw
  have hself : (s.setSector c torn).sector c = torn := if_pos rfl
  have hkeep : (s.setSector c torn).sector c.other = s.sector c.other := if_neg (other_ne c)
  refine ⟨initSector_of_torn ?_ ?_, hkeep⟩
  · rw [hkeep]
    exact hother
  · rw [other_other, hself]
    exact ht

theorem rootInv_restart (hi : RootInv P last s) {torn : Mem} (hok : RootOk P s (.restart torn))
    (hwrap : ¬ Wrapped P s) : RootInv P last (rootStep P s (.restart torn)) := by
  unfold rootStep
  cases hw : s.writing with
  | none =>
    obtain ⟨hcrc, hagree, hsel⟩ := hi.idle hw
    have hcur := hsel.resolve_right hwrap
    exact rootInv_cmdInit (hcur ▸ hcrc) (hcur ▸ hagree) hw
  | some w =>
    obtain ⟨c, d, sz⟩ := w
    obtain ⟨-, -, -, -, hother, hagree⟩ := hi.busy _ _ _ hw
    have ht : crcOk P torn = false := by
      cases hok with
      | restart h => exact h (by simp [hw])
    obtain ⟨hsel, hkeep⟩ := initSector_restart_busy hi hw ht
    apply rootInv_cmdInit
    · rw [hsel, hkeep]
      exact hother
    · rw [hsel, hkeep]
      exact hagree
    · rfl

/-! ### All runs -/

/-- A step that happens, and that is no restart with the number wrapped. -/
def RootOrderly (P : RootPlatform) (s : RootState) (e : RootEvent) : Prop :=
  RootOk P s e ∧ ∀ torn, e = .restart torn → ¬ Wrapped P s

/-- The runs from two given sectors. -/
abbrev RootRun (P : RootPlatform) (sector : RootSector → Mem)
    (ok : RootState → RootEvent → Prop) := Run (RootInitial P sector) (rootStep P) ok

theorem rootInv_run {h : History RootState RootEvent}
    (hr : RootRun P sector (RootOrderly P) h s) : RootInv P (lastRootBlock P sector h) s := by
  induction hr with
  | start hinit =>
    obtain ⟨hex, s₀, rfl, hw, rfl⟩ := hinit
    exact rootInv_cmdInit (crcOk_initSector hex) (fun _ _ => rfl) hw
  | @next h s e hr he ih =>
    cases e with
    | write data sz =>
      obtain ⟨⟨hw, hsz⟩, -⟩ := he
      unfold rootStep
      rw [hw]
      exact rootInv_write ih hw data hsz
    | complete =>
      unfold rootStep lastRootBlock
      cases hw : s.writing with
      | none => exact ih
      | some w =>
        obtain ⟨c, d, sz⟩ := w
        exact rootInv_complete ih hw
    | restart torn => exact rootInv_restart ih he.1 (he.2 torn rfl)

/-- **A restart loads the root block that was written last, unless its iteration
    number has wrapped** and nothing was written since. -/
theorem root_recovered {h : History RootState RootEvent} {torn : Mem}
    (hr : RootRun P sector (RootOrderly P) h s) (hok : RootOk P s (.restart torn)) :
    Loaded P (lastRootBlock P sector h) (rootStep P s (.restart torn)) ↔ ¬ Wrapped P s := by
  have hi := rootInv_run hr
  constructor
  · rintro hloaded hwrap
    obtain ⟨hw, hother, hzero, hmax⟩ := id hwrap
    obtain ⟨hcrc, hagree, -⟩ := hi.idle hw
    -- the older sector has the larger number
    have hsel : initSector P s.sector = s.current.other := by
      apply initSector_of_newer hother
      rw [other_other]
      omega
    have hstep : rootStep P s (.restart torn) = cmdInit P s := by
      unfold rootStep
      rw [hw]
    rw [hstep] at hloaded
    have hload : Agree P (s.sector s.current.other) (lastRootBlock P sector h) := by
      intro a ha
      rw [← hloaded a ha, ← hsel]
      exact (loaded_cmdInit s a ha).symm
    have h₁ := hload.iteration
    have h₂ := hagree.iteration
    omega
  · intro hwrap
    have hi' := rootInv_restart hi hok hwrap
    obtain ⟨s₁, hw₁, hs₁⟩ : ∃ s₁ : RootState, s₁.writing = none ∧
        rootStep P s (.restart torn) = cmdInit P s₁ := by
      unfold rootStep
      cases hw : s.writing with
      | none => exact ⟨s, hw, rfl⟩
      | some w => exact ⟨_, rfl, rfl⟩
    rw [hs₁] at hi' ⊢
    obtain ⟨-, hagree, -⟩ := hi'.idle hw₁
    intro a ha
    exact (loaded_cmdInit s₁ a ha).trans (hagree a ha)

/-! ### A run in which the number wraps -/

/-- A platform whose checksum is the sum of the bytes. -/
def sumPlatform : RootPlatform where
  halCrcCalculate := fun bs => ~~~ bs.foldl (fun acc b => acc + UInt32.ofNat b.toNat) 0
  deviceDataSize := 12
  size_ge := by decide
  size_le := by decide

/-- A root block with the iteration number `lo + 256 * hi`. -/
def numberedBlock (lo hi : UInt8) : Mem :=
  let d : Mem := Mem.write (fun _ => 0) 8 [lo, hi]
  d.put32 0 (computeDeviceDataCrc sumPlatform d)

/-- The numbered block in the first sector; the second one is erased. -/
def oneSector (lo hi : UInt8) : RootSector → Mem
  | .cryptData1 => numberedBlock lo hi
  | .cryptData2 => fun _ => 0xff

/-- The device has started. -/
def rootStarted (lo hi : UInt8) : RootState :=
  cmdInit sumPlatform
    { sector := oneSector lo hi, rootPage := fun _ => 0, current := .cryptData1,
      rootPageValid := false, writing := none }

/-- One write is made to its end. -/
def rootWritten (lo hi : UInt8) : History RootState RootEvent × RootState :=
  replay (rootStep sumPlatform) [.write (fun _ => 1) 12, .complete] ([], rootStarted lo hi)

/-- What is claimed: after every restart the root block written last is loaded. -/
def RecoversRootBlock (P : RootPlatform) : Prop :=
  ∀ (sector : RootSector → Mem) (h : History RootState RootEvent) (s : RootState) (torn : Mem),
    RootRun P sector (RootOk P) h s → RootOk P s (.restart torn) →
      Loaded P (lastRootBlock P sector h) (rootStep P s (.restart torn))

/-- **A write with the number 0 is lost at the next restart.** -/
theorem wrapped_write_lost : ¬ RecoversRootBlock sumPlatform := by
  intro hall
  have hrun : RootRun sumPlatform (oneSector 0xff 0xff) (RootOk sumPlatform)
      (rootWritten 0xff 0xff).1 (rootWritten 0xff 0xff).2 := by
    refine .next (.next (.start ⟨⟨.cryptData1, by decide⟩, _, rfl, rfl, rfl⟩) ?_) .complete
    exact .write rfl (.inl rfl)
  have hloaded := hall _ _ _ (fun _ => 0) hrun (.restart fun h => absurd rfl h) 8 (by decide)
  revert hloaded
  decide

/-- One write is made to its end and a second one is under way. -/
def rootTearing (lo hi : UInt8) : History RootState RootEvent × RootState :=
  replay (rootStep sumPlatform) [.write (fun _ => 2) 12] (rootWritten lo hi)

/-- A second write is torn when power is lost, and the first one is found again. -/
theorem root_recovered_torn :
    Loaded sumPlatform (lastRootBlock sumPlatform (oneSector 7 0) (rootTearing 7 0).1)
      (rootStep sumPlatform (rootTearing 7 0).2 (.restart fun _ => 2)) := by
  have hrun : RootRun sumPlatform (oneSector 7 0) (RootOrderly sumPlatform) (rootTearing 7 0).1
      (rootTearing 7 0).2 := by
    refine .next (.next (.next (.start ⟨⟨.cryptData1, by decide⟩, _, rfl, rfl, rfl⟩) ?_) ?_) ?_
    · exact ⟨.write rfl (.inl rfl), by rintro torn ⟨⟩⟩
    · exact ⟨.complete, by rintro torn ⟨⟩⟩
    · exact ⟨.write rfl (.inl rfl), by rintro torn ⟨⟩⟩
  have htorn : crcOk sumPlatform (fun _ => 2) = false := by decide
  refine (root_recovered hrun (.restart fun _ => htorn)).mpr ?_
  rintro ⟨hidle, -⟩
  cases hidle

end SignetBase.FirmwareHc
