/-
  SignetBase/FirmwareHc/RootSync.lean
  ===================================
  **Keeping the root block in step with `root_page` (`commands.c`, `flash.c`, `main.c`,
  `fido_device.c`).**

  FIDO and Signet commands change `root_page` in memory and ask for it to be written; the
  main loop starts the write when the flash is idle.  `write_root_block` computes the
  checksum at once, but `flash_idle` programs at most 16 words in a turn, straight from
  `root_page` or from `cmd_data`.  What is changed there in the meantime ends up in the
  sector under the old checksum (`torn_write`), and the next write erases the other one.

  As long as no write is disturbed (`Undisturbed`), each one stores what there was at its
  start, a sector always holds what was stored last, and no change is lost (`root_kept`).
-/
import SignetBase.FirmwareHc.RootBlock

namespace SignetBase.FirmwareHc

/-! ### The code -/

/-- The root block is a whole number of words, as `flash_write_page` asserts. -/
structure SyncPlatform extends RootPlatform where
  words : 4 ∣ deviceDataSize

/-- `enum root_block_sync_state`. -/
inductive RootBlockSyncState where
  | synced | modified | writing
deriving DecidableEq, Repr

/-- The memory a flash write takes its words from. -/
inductive FlashSource where
  | rootPage | cmdData
deriving DecidableEq, Repr

/-- The states of a flash driver that is not idle. -/
inductive FlashPhase where
  | erasing | writing
deriving DecidableEq, Repr

/-- A flash write in progress: a root sector or another place, the source, the bytes that are
    programmed and those that are left.  `snapshot` is what the source held at the start. -/
structure FlashJob where
  phase : FlashPhase
  dest : Option RootSector
  src : FlashSource
  done : Nat
  left : Nat
  snapshot : Mem

/-- The globals, with the root block that was stored last, if there is one, and whether
    `root_page` was changed since the last write from it began. -/
structure RootSync where
  sector : RootSector → Mem
  rootPage : Mem
  cmdData : Mem
  current : RootSector
  rootPageValid : Bool
  syncState : RootBlockSyncState
  job : Option FlashJob
  failed : Bool
  lastStored : Option Mem
  changed : Bool

namespace RootSync

variable (P : SyncPlatform) (s : RootSync)

/-- The part that `cmd_init` and `write_root_block` are about. -/
def root : RootState := ⟨s.sector, s.rootPage, s.current, s.rootPageValid, none⟩

def source : FlashSource → Mem
  | .rootPage => s.rootPage
  | .cmdData => s.cmdData

def setSource (src : FlashSource) (d : Mem) : RootSync :=
  match src with
  | .rootPage => { s with rootPage := d }
  | .cmdData => { s with cmdData := d }

/-- `flash_write_page`, and `flash_write` with the phase `writing`. -/
def flashWritePage (phase : FlashPhase) (dest : Option RootSector) (src : FlashSource)
    (count : Nat) : RootSync :=
  if s.job.isNone ∧ count % 4 = 0 then
    { s with job := some ⟨phase, dest, src, 0, count, s.source src⟩ }
  else { s with failed := true }

/-- `write_root_block`. -/
def writeRootBlock (src : FlashSource) (sz : Nat) : RootSync :=
  let s := s.setSource src (stampRootBlock P.toRootPlatform s.root (s.source src))
  { s with current := s.current.other }.flashWritePage .erasing (some s.current.other) src sz

/-- `sync_root_block`. -/
def syncRootBlock : RootSync := { s with syncState := .modified, changed := true }

/-- `sync_root_block_immediate`. -/
def syncRootBlockImmediate : RootSync :=
  { s with syncState := .writing, changed := false }.writeRootBlock P .rootPage P.deviceDataSize

/-- The part of `write_block_complete` about the root block. -/
def writeBlockComplete : RootSync :=
  if s.syncState = .writing then { s with syncState := .synced } else s

/-- `flash_write_complete`; what a finished write of a root sector has stored is noted. -/
def flashWriteComplete (j : FlashJob) : RootSync :=
  { s with
    job := none
    lastStored := if j.dest.isSome then some j.snapshot else s.lastStored }.writeBlockComplete

/-- The flash at the destination of a write. -/
def setSector (dest : Option RootSector) (f : Mem → Mem) : RootSync :=
  match dest with
  | some c => { s with sector := fun c' => if c' = c then f (s.sector c') else s.sector c' }
  | none => s

/-- `flash_idle`: a sector is erased, or up to 16 words are programmed. -/
def flashIdle : RootSync :=
  match s.job with
  | none => s
  | some j =>
    match j.phase with
    | .erasing =>
      let s := s.setSector j.dest fun _ _ => 0xff
      if j.left ≠ 0 then { s with job := some { j with phase := .writing } }
      else s.flashWriteComplete j
    | .writing =>
      let n := min 64 j.left
      let s := s.setSector j.dest fun m => m.copy j.done (s.source j.src) j.done n
      if j.left - n = 0 then s.flashWriteComplete j
      else { s with job := some { j with done := j.done + n, left := j.left - n } }

/-- A turn of the main loop. -/
def mainLoop : RootSync :=
  let s := if s.syncState = .modified ∧ s.job.isNone then s.syncRootBlockImmediate P else s
  s.flashIdle

/-- `root_page` after assignments to its fields. -/
def assign (writes : List (Nat × Bytes)) (m : Mem) : Mem :=
  writes.foldl (fun m w => m.write w.1 w.2) m

/-- What happens: a FIDO or Signet command changes `root_page` and may call
    `sync_root_block`; a Signet command fills `cmd_data`, or writes block 0 from there
    (WRITE_BLOCK_HC, ERASE_BLOCK_HC, WIPE), or writes another part of the flash; a block was
    written to the eMMC; STARTUP; a turn of the main loop. -/
inductive SyncEvent where
  | command (writes : List (Nat × Bytes)) (sync : Bool)
  | fillCmdData (data : Mem)
  | writeBlock (data : Mem)
  | firmwareFlash (phase : FlashPhase) (count : Nat)
  | mmcWriteComplete
  | startup
  | mainLoop

/-- One event; a device that failed an assertion does nothing any more. -/
def step (s : RootSync) (e : SyncEvent) : RootSync :=
  if s.failed then s
  else
    match e with
    | .command writes sync =>
      let s := { s with rootPage := assign writes s.rootPage }
      if sync then s.syncRootBlock else s
    | .fillCmdData data => { s with cmdData := data }
    | .writeBlock data => { s with cmdData := data }.writeRootBlock P .cmdData HC_BLOCK_SZ
    | .firmwareFlash phase count => s.flashWritePage phase none .cmdData count
    | .mmcWriteComplete => s.writeBlockComplete
    | .startup =>
      let r := cmdInit P.toRootPlatform s.root
      { s with
        rootPage := r.rootPage
        current := r.current
        rootPageValid := r.rootPageValid }
    | .mainLoop => s.mainLoop P

/-- Power-on: `cmd_init` has chosen a sector. -/
def powerOn (sector : RootSector → Mem) (rootPage : Mem) : RootSync :=
  let r := cmdInit P.toRootPlatform ⟨sector, rootPage, .cryptData1, false, none⟩
  { sector
    rootPage := r.rootPage
    cmdData := fun _ => 0
    current := r.current
    rootPageValid := r.rootPageValid
    syncState := .synced
    job := none
    failed := false
    lastStored :=
      if crcOk P.toRootPlatform (sector r.current) then some (sector r.current) else none
    changed := false }

def Initial (s : RootSync) : Prop := ∃ sector rootPage, s = powerOn P sector rootPage

end RootSync

open RootSync

/-- The runs whose steps all satisfy `ok`. -/
abbrev SyncRun (P : SyncPlatform) (ok : RootSync → SyncEvent → Prop) :=
  Run (RootSync.Initial P) (RootSync.step P) ok

/-! ### What is expected -/

section Expected

variable (P : SyncPlatform)

/-- A sector is in order and holds the root block `d`. -/
def HoldsRoot (m d : Mem) : Prop := crcOk P.toRootPlatform m = true ∧ Agree P.toRootPlatform m d

/-- A write to a root sector that ends in this step has stored what its source held when it
    began, with a checksum that is right. -/
def RootSync.StoresOneMoment (s : RootSync) (e : SyncEvent) : Prop :=
  e = .mainLoop → s.failed = false → ∀ j c, s.job = some j → j.dest = some c →
    j.phase = .writing → j.left ≤ 64 →
    crcOk P.toRootPlatform ((s.step P e).sector c) = true ∧
      ∀ a < j.done + j.left, (s.step P e).sector c a = j.snapshot a

/-- `n` turns of the main loop. -/
def RootSync.turns (s : RootSync) : Nat → RootSync
  | 0 => s
  | n + 1 => RootSync.turns (s.mainLoop P) n

/-- Whether an offset is in the checksum or the iteration number. -/
def stamped (a : Nat) : Prop := a < 4 ∨ 8 ≤ a ∧ a < 10

/-- Each write stores one moment, one sector has what was stored last, and what was changed is
    going to be written: turns of the main loop store it. -/
structure RootKept (h : History RootSync SyncEvent) (s : RootSync) : Prop where
  oneMoment : ∀ x ∈ h, x.1.StoresOneMoment P x.2
  kept : ∀ d, s.lastStored = some d → ∃ c, HoldsRoot P (s.sector c) d
  pending : s.changed = true → s.syncState = .modified
  written : s.changed = true → ∃ n d, (s.turns P n).lastStored = some d ∧
    ∀ a < P.deviceDataSize, ¬ stamped a → d a = s.rootPage a

/-- A root sector is being written. -/
def RootSync.Busy (s : RootSync) : Prop := ∃ j, s.job = some j ∧ j.dest.isSome = true

/-- What a root sector is still to be written with is not changed by putting `m` in `src`. -/
def RootSync.Spares (s : RootSync) (src : FlashSource) (m : Mem) : Prop :=
  ∀ j, s.job = some j → j.dest.isSome = true → j.src = src →
    ∀ a, j.done ≤ a → a < j.done + j.left → m a = s.source src a

/-- A step that disturbs no write: bytes that are still to be programmed are not changed, no
    write is begun while the flash is busy, and STARTUP comes when no root block is to be
    written, is being written or has wrapped. -/
def RootSync.Undisturbed (s : RootSync) : SyncEvent → Prop
  | .command writes _ => s.Spares .rootPage (assign writes s.rootPage)
  | .fillCmdData data => s.Spares .cmdData data
  | .writeBlock _ => s.job = none
  | .firmwareFlash _ count => s.job = none ∧ count % 4 = 0
  | .mmcWriteComplete => True
  | .startup => ¬ s.Busy ∧ s.syncState ≠ .modified ∧
      initSector P.toRootPlatform s.sector = s.current
  | .mainLoop => True

end Expected

/-! ### The invariant -/

section Invariant

variable (P : SyncPlatform)

/-- A root sector `c` is being written: what is programmed agrees with the snapshot, and so does
    what is left in the source, and the other sector has what was stored last. -/
structure RootSync.Writes (s : RootSync) (j : FlashJob) (c : RootSector) : Prop where
  current : c = s.current
  crc : crcOk P.toRootPlatform j.snapshot = true
  size : P.deviceDataSize ≤ j.done + j.left
  words : 4 ∣ j.left
  left_pos : 0 < j.left
  done_eq : j.phase = .erasing → j.done = 0
  programmed : ∀ a < j.done, s.sector c a = j.snapshot a
  rest : ∀ a, j.done ≤ a → a < j.done + j.left → s.source j.src a = j.snapshot a
  other : ∀ d, s.lastStored = some d → HoldsRoot P (s.sector c.other) d

structure SyncInv (s : RootSync) : Prop where
  running : s.failed = false
  job : ∀ j c, s.job = some j → j.dest = some c → s.Writes P j c
  words : ∀ j, s.job = some j → 4 ∣ j.left
  idle : ¬ s.Busy → ∀ d, s.lastStored = some d → HoldsRoot P (s.sector s.current) d
  changed : s.changed = true → s.syncState = .modified

end Invariant

variable {P : SyncPlatform} {s : RootSync}

theorem HoldsRoot.of_agree {m d : Mem} (hcrc : crcOk P.toRootPlatform d = true)
    (h : Agree P.toRootPlatform m d) : HoldsRoot P m d :=
  ⟨h.crcOk.trans hcrc, h⟩

theorem SyncInv.kept (h : SyncInv P s) {d : Mem} (hd : s.lastStored = some d) :
    ∃ c, HoldsRoot P (s.sector c) d := by
  by_cases hbusy : s.Busy
  · obtain ⟨j, hj, hdest⟩ := hbusy
    obtain ⟨c, hc⟩ := Option.isSome_iff_exists.mp hdest
    exact ⟨c.other, (h.job j c hj hc).other d hd⟩
  · exact ⟨s.current, h.idle hbusy d hd⟩

theorem syncInv_initial (h : RootSync.Initial P s) : SyncInv P s := by
  obtain ⟨sector, rootPage, rfl⟩ := h
  refine ⟨rfl, by rintro j c ⟨⟩, by rintro j ⟨⟩, ?_, by rintro ⟨⟩⟩
  intro _ d hd
  unfold RootSync.powerOn at hd ⊢
  dsimp only at hd ⊢
  split at hd
  · rename_i hcrc
    cases hd
    exact ⟨hcrc, fun _ _ => rfl⟩
  · cases hd

/-- What a step may change without touching the flash or what is written there. -/
theorem SyncInv.of_sources (h : SyncInv P s) {rootPage cmdData : Mem}
    (hroot : s.Spares .rootPage rootPage) (hcmd : s.Spares .cmdData cmdData) :
    SyncInv P { s with rootPage, cmdData } := by
  refine ⟨h.running, fun j c hj hc => ?_, h.words, h.idle, h.changed⟩
  obtain ⟨hcur, hcrc, hsize, hwords, hpos, herase, hprog, hrest, hother⟩ := h.job j c hj hc
  refine ⟨hcur, hcrc, hsize, hwords, hpos, herase, hprog, ?_, hother⟩
  intro a ha ha'
  have hdest : j.dest.isSome = true := by rw [hc]; rfl
  rw [← hrest a ha ha']
  cases hsrc : j.src with
  | rootPage => exact hroot j hj hdest hsrc a ha ha'
  | cmdData => exact hcmd j hj hdest hsrc a ha ha'

theorem spares_self (src : FlashSource) : s.Spares src (s.source src) := fun _ _ _ _ _ _ _ => rfl

/-- The synchronisation state may change as long as changes stay noted. -/
theorem SyncInv.of_syncState (h : SyncInv P s) {syncState : RootBlockSyncState} {changed : Bool}
    (hchanged : changed = true → syncState = .modified) :
    SyncInv P { s with syncState, changed } :=
  ⟨h.running, fun j c hj hc => ⟨(h.job j c hj hc).current, (h.job j c hj hc).crc,
    (h.job j c hj hc).size, (h.job j c hj hc).words, (h.job j c hj hc).left_pos,
    (h.job j c hj hc).done_eq, (h.job j c hj hc).programmed, (h.job j c hj hc).rest,
    (h.job j c hj hc).other⟩, h.words, h.idle, hchanged⟩

theorem syncInv_writeBlockComplete (h : SyncInv P s) : SyncInv P s.writeBlockComplete := by
  unfold RootSync.writeBlockComplete
  split
  · rename_i hwriting
    refine h.of_syncState fun hc => ?_
    rw [h.changed hc] at hwriting
    cases hwriting
  · exact h

/-- **A write of a root sector begins** with a snapshot that has the right checksum. -/
theorem syncInv_writeRootBlock (h : SyncInv P s) (hjob : s.job = none) (src : FlashSource) {sz : Nat}
    (hsize : P.deviceDataSize ≤ sz) (hwords : 4 ∣ sz) : SyncInv P (s.writeRootBlock P src sz) := by
  have hpos : 0 < sz := Nat.lt_of_lt_of_le (by decide) (Nat.le_trans P.size_ge hsize)
  have hidle : ¬ s.Busy := by
    rintro ⟨j, hj, -⟩
    rw [hjob] at hj
    cases hj
  generalize hd : stampRootBlock P.toRootPlatform s.root (s.source src) = d
  have hcrc : crcOk P.toRootPlatform d = true := by
    rw [← hd]
    exact crcOk_stampRootBlock _ _
  have hwrite : s.writeRootBlock P src sz =
      { s.setSource src d with
        current := s.current.other
        job := some ⟨.erasing, some s.current.other, src, 0, sz, d⟩ } := by
    unfold RootSync.writeRootBlock RootSync.flashWritePage
    rw [hd]
    cases src <;>
      · dsimp only [RootSync.setSource]
        rw [hjob, if_pos ⟨rfl, Nat.mod_eq_zero_of_dvd hwords⟩]
        rfl
  rw [hwrite]
  have hother : ∀ d', s.lastStored = some d' →
      HoldsRoot P (s.sector s.current.other.other) d' := by
    intro d' hd'
    rw [other_other]
    exact h.idle hidle d' hd'
  cases src with
  | rootPage =>
    refine ⟨h.running, ?_, ?_, fun hbusy => absurd ⟨_, rfl, rfl⟩ hbusy, h.changed⟩
    · rintro j c ⟨⟩ ⟨⟩
      refine ⟨rfl, hcrc, ?_, hwords, hpos, fun _ => rfl, ?_, fun _ _ _ => rfl, hother⟩
      · change P.deviceDataSize ≤ 0 + sz
        omega
      · intro a ha
        exact absurd ha (Nat.not_lt_zero a)
    · rintro j ⟨⟩
      exact hwords
  | cmdData =>
    refine ⟨h.running, ?_, ?_, fun hbusy => absurd ⟨_, rfl, rfl⟩ hbusy, h.changed⟩
    · rintro j c ⟨⟩ ⟨⟩
      refine ⟨rfl, hcrc, ?_, hwords, hpos, fun _ => rfl, ?_, fun _ _ _ => rfl, hother⟩
      · change P.deviceDataSize ≤ 0 + sz
        omega
      · intro a ha
        exact absurd ha (Nat.not_lt_zero a)
    · rintro j ⟨⟩
      exact hwords

/-! ### A turn of the flash driver -/

/-- What was programmed agrees with the snapshot, with the next words as well. -/
theorem RootSync.Writes.chunk {j : FlashJob} {c : RootSector} (h : s.Writes P j c) {n : Nat}
    (hn : n ≤ j.left) : ∀ a < j.done + n,
      (s.sector c).copy j.done (s.source j.src) j.done n a = j.snapshot a := by
  intro a ha
  rcases Nat.lt_or_ge a j.done with hlt | hge
  · rw [Mem.copy_apply_of_notMem _ _ (.inl hlt)]
    exact h.programmed a hlt
  · rw [Mem.copy_apply_of_mem _ _ hge ha, Nat.add_sub_cancel' hge]
    exact h.rest a hge (by omega)

/-- A sector that agrees with the snapshot up to its end is in order. -/
theorem RootSync.Writes.holds {j : FlashJob} {c : RootSector} (h : s.Writes P j c) {m : Mem}
    (hm : ∀ a < j.done + j.left, m a = j.snapshot a) : HoldsRoot P m j.snapshot :=
  .of_agree h.crc fun a ha => hm a (Nat.lt_of_lt_of_le ha h.size)

/-- The sector that is written, and the others. -/
theorem setSector_apply (c c' : RootSector) (f : Mem → Mem) :
    (s.setSector (some c) f).sector c' = if c' = c then f (s.sector c') else s.sector c' := rfl

@[simp] theorem writeBlockComplete_sector : s.writeBlockComplete.sector = s.sector := by
  unfold RootSync.writeBlockComplete
  split <;> rfl

@[simp] theorem writeBlockComplete_job : s.writeBlockComplete.job = s.job := by
  unfold RootSync.writeBlockComplete
  split <;> rfl

@[simp] theorem writeBlockComplete_lastStored :
    s.writeBlockComplete.lastStored = s.lastStored := by
  unfold RootSync.writeBlockComplete
  split <;> rfl

@[simp] theorem flashWriteComplete_sector (j : FlashJob) :
    (s.flashWriteComplete j).sector = s.sector :=
  writeBlockComplete_sector

/-- **A finished write is what was stored last.** -/
theorem syncInv_stored (h : SyncInv P s) {j : FlashJob} (hjob : s.job = some j) {f : Mem → Mem}
    (hf : ∀ c, j.dest = some c → ∀ a < j.done + j.left, f (s.sector c) a = j.snapshot a) :
    SyncInv P ((s.setSector j.dest f).flashWriteComplete j) := by
  refine syncInv_writeBlockComplete ?_
  cases hdest : j.dest with
  | none =>
    refine ⟨h.running, by rintro j' c ⟨⟩, by rintro j' ⟨⟩, fun _ => h.idle ?_, h.changed⟩
    rintro ⟨j', hj', hsome⟩
    rw [hjob] at hj'
    cases hj'
    rw [hdest] at hsome
    cases hsome
  | some c =>
    have hw := h.job j c hjob hdest
    refine ⟨h.running, by rintro j' c ⟨⟩, by rintro j' ⟨⟩, ?_, h.changed⟩
    rintro - d ⟨⟩
    change HoldsRoot P ((s.setSector (some c) f).sector s.current) j.snapshot
    rw [setSector_apply, if_pos hw.current.symm, ← hw.current]
    exact hw.holds (hf c hdest)

theorem not_busy {j : FlashJob} (hjob : s.job = some j) (hdest : j.dest = none) : ¬ s.Busy := by
  rintro ⟨j', hj', hsome⟩
  rw [hjob] at hj'
  cases hj'
  rw [hdest] at hsome
  cases hsome

/-- **A write goes on**: the sector agrees with the snapshot a bit further. -/
theorem syncInv_programmed (h : SyncInv P s) {j : FlashJob} (hjob : s.job = some j)
    {f : Mem → Mem} {done left : Nat} (hsum : done + left = j.done + j.left)
    (hdone : j.done ≤ done) (hpos : 0 < left) (hwords : 4 ∣ left)
    (hf : ∀ c, j.dest = some c → ∀ a < done, f (s.sector c) a = j.snapshot a) :
    SyncInv P { s.setSector j.dest f with
      job := some { j with phase := .writing, done := done, left := left } } := by
  cases hdest : j.dest with
  | none =>
    refine ⟨h.running, by rintro j' c ⟨⟩ ⟨⟩, ?_, fun _ => h.idle (not_busy hjob hdest), h.changed⟩
    rintro j' ⟨⟩
    exact hwords
  | some c =>
    obtain ⟨hcur, hcrc, hsize, -, -, -, -, hrest, hother⟩ := h.job j c hjob hdest
    refine ⟨h.running, ?_, ?_, fun hbusy => absurd ⟨_, rfl, rfl⟩ hbusy, h.changed⟩
    · rintro j' c' ⟨⟩ ⟨⟩
      refine ⟨hcur, hcrc, ?_, hwords, hpos, by rintro ⟨⟩, ?_, ?_, ?_⟩
      · change P.deviceDataSize ≤ done + left
        omega
      · intro a ha
        change (s.setSector (some c) f).sector c a = j.snapshot a
        rw [setSector_apply, if_pos rfl]
        exact hf c hdest a ha
      · intro a ha ha'
        change done ≤ a at ha
        change a < done + left at ha'
        refine Eq.trans ?_ (hrest a (by omega) (by omega))
        cases j.src <;> rfl
      · intro d hd
        change HoldsRoot P ((s.setSector (some c) f).sector c.other) d
        rw [setSector_apply, if_neg (other_ne c)]
        exact hother d hd
    · rintro j' ⟨⟩
      exact hwords

theorem syncInv_flashIdle (h : SyncInv P s) : SyncInv P s.flashIdle := by
  unfold RootSync.flashIdle
  cases hjob : s.job with
  | none => exact h
  | some j =>
    dsimp only
    have hwords := h.words j hjob
    cases hphase : j.phase with
    | erasing =>
      dsimp only
      split
      · rename_i hleft
        refine syncInv_programmed h hjob rfl (Nat.le_refl _) (by omega) hwords fun c hc a ha => ?_
        rw [(h.job j c hjob hc).done_eq hphase] at ha
        exact absurd ha (Nat.not_lt_zero a)
      · refine syncInv_stored h hjob fun c hc => ?_
        exact absurd (h.job j c hjob hc).left_pos (by omega)
    | writing =>
      dsimp only
      split
      · refine syncInv_stored h hjob fun c hc => ?_
        have hn : min 64 j.left = j.left := by omega
        rw [hn]
        exact (h.job j c hjob hc).chunk (Nat.le_refl _)
      · have hn : min 64 j.left = 64 := by omega
        have hless : 4 ∣ j.left - min 64 j.left := by
          rw [hn]
          exact Nat.dvd_sub hwords (by decide)
        refine syncInv_programmed h hjob (by omega) (by omega) (by omega) hless fun c hc => ?_
        exact (h.job j c hjob hc).chunk (Nat.min_le_right _ _)

/-! ### Steps -/

theorem syncInv_mainLoop (h : SyncInv P s) : SyncInv P (s.mainLoop P) := by
  refine syncInv_flashIdle ?_
  split
  · rename_i hstart
    have hnone : s.job = none := Option.isNone_iff_eq_none.mp hstart.2
    have hbegun : SyncInv P { s with syncState := .writing, changed := false } :=
      h.of_syncState (by rintro ⟨⟩)
    exact syncInv_writeRootBlock hbegun hnone .rootPage (Nat.le_refl _) P.words
  · exact h

theorem undisturbed_mainLoop (s : RootSync) : s.Undisturbed P .mainLoop := trivial

theorem spares_of_none (hjob : s.job = none) (src : FlashSource) (m : Mem) : s.Spares src m := by
  intro j hj
  rw [hjob] at hj
  cases hj

theorem syncInv_startup (h : SyncInv P s) (hbusy : ¬ s.Busy)
    (hcur : initSector P.toRootPlatform s.sector = s.current) (rootPage : Mem) (valid : Bool) :
    SyncInv P { s with
      rootPage
      current := initSector P.toRootPlatform s.sector
      rootPageValid := valid } := by
  have hno : ∀ j c, s.job = some j → j.dest ≠ some c := by
    intro j c hj hc
    refine hbusy ⟨j, hj, ?_⟩
    rw [hc]
    rfl
  refine ⟨h.running, fun j c hj hc => absurd hc (hno j c hj), h.words, ?_, h.changed⟩
  intro _ d hd
  dsimp only
  rw [hcur]
  exact h.idle hbusy d hd

/-- **An undisturbed step keeps the invariant.** -/
theorem SyncInv.step (h : SyncInv P s) {e : SyncEvent} (he : s.Undisturbed P e) :
    SyncInv P (s.step P e) := by
  unfold RootSync.step
  rw [if_neg (by rw [h.running]; exact Bool.false_ne_true)]
  cases e with
  | command writes sync =>
    have hassign : SyncInv P { s with rootPage := assign writes s.rootPage } :=
      h.of_sources he (spares_self .cmdData)
    dsimp only
    split
    · exact hassign.of_syncState fun _ => rfl
    · exact hassign
  | fillCmdData data => exact h.of_sources (spares_self .rootPage) he
  | writeBlock data =>
    have hfill : SyncInv P { s with cmdData := data } :=
      h.of_sources (spares_self .rootPage) (spares_of_none he .cmdData data)
    exact syncInv_writeRootBlock hfill he .cmdData P.size_le (by decide)
  | firmwareFlash phase count =>
    obtain ⟨hjob, hcount⟩ := he
    dsimp only
    unfold RootSync.flashWritePage
    rw [hjob, if_pos ⟨rfl, hcount⟩]
    refine ⟨h.running, by rintro j c ⟨⟩ ⟨⟩, ?_, fun _ => h.idle ?_, h.changed⟩
    · rintro j ⟨⟩
      exact Nat.dvd_of_mod_eq_zero hcount
    · rintro ⟨j, hj, -⟩
      rw [hjob] at hj
      cases hj
  | mmcWriteComplete => exact syncInv_writeBlockComplete h
  | startup =>
    obtain ⟨hbusy, -, hcur⟩ := he
    exact syncInv_startup h hbusy hcur _ _
  | mainLoop => exact syncInv_mainLoop h

theorem syncInv_run {h : History RootSync SyncEvent}
    (hr : SyncRun P (RootSync.Undisturbed P) h s) : SyncInv P s :=
  hr.invariant (P := fun _ s => SyncInv P s) (fun _ hi => syncInv_initial hi)
    fun _ _ _ _ he hs => hs.step he

/-- **A write that ends has stored one moment.** -/
theorem SyncInv.storesOneMoment (h : SyncInv P s) (e : SyncEvent) : s.StoresOneMoment P e := by
  rintro rfl hrunning j c hjob hdest hphase hleft
  have hw := h.job j c hjob hdest
  have hn : min 64 j.left = j.left := Nat.min_eq_right hleft
  have hall := hw.chunk (Nat.le_refl _)
  have hstep : (s.step P .mainLoop).sector c =
      (s.sector c).copy j.done (s.source j.src) j.done j.left := by
    have hidle : s.mainLoop P = s.flashIdle := by
      unfold RootSync.mainLoop
      rw [hjob, if_neg (by rintro ⟨-, ⟨⟩⟩)]
    unfold RootSync.step
    rw [if_neg (by rw [hrunning]; exact Bool.false_ne_true)]
    dsimp only
    rw [hidle]
    unfold RootSync.flashIdle
    rw [hjob]
    dsimp only
    rw [hphase]
    dsimp only
    rw [hn, if_pos (Nat.sub_self _)]
    rw [flashWriteComplete_sector, hdest, setSector_apply, if_pos rfl]
  rw [hstep]
  exact ⟨(hw.holds hall).1, hall⟩

/-! ### What is changed is written -/

/-- What a turn leaves while a write goes on: `root_page`, and that it is to be written. -/
structure SameRequest (s t : RootSync) : Prop where
  rootPage : t.rootPage = s.rootPage
  syncState : s.syncState = .modified → t.syncState = .modified

theorem SameRequest.trans {s t u : RootSync} (h : SameRequest s t) (h' : SameRequest t u) :
    SameRequest s u :=
  ⟨h'.rootPage.trans h.rootPage, fun hs => h'.syncState (h.syncState hs)⟩

theorem sameRequest_stored (j : FlashJob) (f : Mem → Mem) :
    SameRequest s ((s.setSector j.dest f).flashWriteComplete j) := by
  unfold RootSync.flashWriteComplete RootSync.writeBlockComplete RootSync.setSector
  cases j.dest <;>
    · dsimp only
      split
      · rename_i hwriting
        refine ⟨rfl, fun hs => ?_⟩
        rw [hwriting] at hs
        cases hs
      · exact ⟨rfl, id⟩

/-- A write ends: the flash is idle, and what a root sector was written with is noted. -/
structure EndsJob (s t : RootSync) (j : FlashJob) : Prop where
  idle : t.job = none
  same : SameRequest s t
  stored : j.dest.isSome = true → t.lastStored = some j.snapshot

theorem endsJob_stored (j : FlashJob) (f : Mem → Mem) :
    EndsJob s ((s.setSector j.dest f).flashWriteComplete j) j := by
  refine ⟨writeBlockComplete_job, sameRequest_stored j f, fun hdest => ?_⟩
  exact writeBlockComplete_lastStored.trans (if_pos hdest)

theorem mainLoop_of_job {j : FlashJob} (hjob : s.job = some j) : s.mainLoop P = s.flashIdle := by
  unfold RootSync.mainLoop
  rw [hjob, if_neg (by rintro ⟨-, ⟨⟩⟩)]

/-- What is left of a write: the bytes, and a turn for the erasure. -/
def FlashJob.rest (j : FlashJob) : Nat := j.left + if j.phase = .erasing then 1 else 0

/-- A write that goes on: the same one, with less that is left. -/
structure GoesOn (s t : RootSync) (j j' : FlashJob) : Prop where
  job : t.job = some j'
  dest : j'.dest = j.dest
  snapshot : j'.snapshot = j.snapshot
  less : j'.rest < j.rest
  same : SameRequest s t

theorem goesOn_programmed {j j' : FlashJob} (f : Mem → Mem) (hdest : j'.dest = j.dest)
    (hsnapshot : j'.snapshot = j.snapshot) (hless : j'.rest < j.rest) :
    GoesOn s { s.setSector j.dest f with job := some j' } j j' := by
  refine ⟨rfl, hdest, hsnapshot, hless, ?_⟩
  cases j.dest <;> exact ⟨rfl, id⟩

/-- **A turn of the flash driver** ends a write, or leaves less of it. -/
theorem flashIdle_cases {j : FlashJob} (hjob : s.job = some j) :
    EndsJob s s.flashIdle j ∨ ∃ j', GoesOn s s.flashIdle j j' := by
  unfold RootSync.flashIdle
  rw [hjob]
  dsimp only
  cases hphase : j.phase with
  | erasing =>
    dsimp only
    split
    · refine .inr ⟨_, goesOn_programmed _ rfl rfl ?_⟩
      unfold FlashJob.rest
      rw [if_neg (by rintro ⟨⟩), if_pos hphase]
      exact Nat.lt_succ_self _
    · exact .inl (endsJob_stored j _)
  | writing =>
    dsimp only
    split
    · exact .inl (endsJob_stored j _)
    · rename_i hleft
      refine .inr ⟨_, goesOn_programmed _ rfl rfl ?_⟩
      unfold FlashJob.rest
      rw [if_neg (by rintro ⟨⟩), hphase, if_neg (by rintro ⟨⟩)]
      change j.left - min 64 j.left + 0 < j.left + 0
      omega

/-- Turns of the main loop end a write, by induction on what is left of it. -/
theorem exists_turns (n : Nat) : ∀ {s : RootSync} {j : FlashJob}, s.job = some j → j.rest ≤ n →
    ∃ k t, s.turns P (k + 1) = t ∧ EndsJob s t j := by
  induction n with
  | zero =>
    intro s j hjob hn
    rcases flashIdle_cases hjob with hend | ⟨j', hgoes⟩
    · exact ⟨0, _, mainLoop_of_job hjob, hend⟩
    · exact absurd hgoes.less (by omega)
  | succ n ih =>
    intro s j hjob hn
    rcases flashIdle_cases hjob with hend | ⟨j', hgoes⟩
    · exact ⟨0, _, mainLoop_of_job hjob, hend⟩
    · have hless := hgoes.less
      obtain ⟨k, t, hk, hend⟩ := ih hgoes.job (by omega)
      refine ⟨k + 1, t, ?_, hend.idle, hgoes.same.trans hend.same, fun hdest => ?_⟩
      · rw [← mainLoop_of_job (P := P) hjob] at hk
        exact hk
      · rw [hend.stored (by rw [hgoes.dest]; exact hdest), hgoes.snapshot]

theorem turns_add (m n : Nat) : ∀ s : RootSync, s.turns P (m + n) = (s.turns P m).turns P n := by
  induction m with
  | zero =>
    intro s
    rw [Nat.zero_add]
    rfl
  | succ m ih =>
    intro s
    rw [Nat.add_right_comm]
    exact ih (s.mainLoop P)

/-- Turns of the main loop make the flash idle. -/
theorem exists_turns_idle (s : RootSync) :
    ∃ n, (s.turns P n).job = none ∧ SameRequest s (s.turns P n) := by
  cases hjob : s.job with
  | none => exact ⟨0, hjob, rfl, id⟩
  | some j =>
    obtain ⟨k, t, hk, hend⟩ := exists_turns (P := P) j.rest hjob (Nat.le_refl _)
    refine ⟨k + 1, ?_, ?_⟩
    · rw [hk]
      exact hend.idle
    · rw [hk]
      exact hend.same

/-- The checksum and the iteration number are all that `write_root_block` changes. -/
theorem stampRootBlock_apply (r : RootState) (data : Mem) {a : Nat} (ha : ¬ stamped a) :
    stampRootBlock P.toRootPlatform r data a = data a := by
  unfold stamped at ha
  refine (Mem.put32_apply_of_notMem _ _ ?_).trans (Mem.put16_apply_of_notMem _ _ ?_)
  · omega
  · omega

/-- When the flash is idle, a requested write is begun and turns of the main loop end it. -/
theorem exists_turns_written (hjob : s.job = none) (hmodified : s.syncState = .modified) :
    ∃ n d, (s.turns P n).lastStored = some d ∧ ∀ a, ¬ stamped a → d a = s.rootPage a := by
  generalize hu : s.syncRootBlockImmediate P = u
  have hturn : s.mainLoop P = u.flashIdle := by
    unfold RootSync.mainLoop
    rw [hjob, if_pos ⟨hmodified, rfl⟩, hu]
  obtain ⟨j, hj, hdest, hsnap⟩ : ∃ j, u.job = some j ∧ j.dest.isSome = true ∧
      ∀ a, ¬ stamped a → j.snapshot a = s.rootPage a := by
    rw [← hu]
    unfold RootSync.syncRootBlockImmediate RootSync.writeRootBlock RootSync.flashWritePage
    dsimp only [RootSync.setSource]
    rw [hjob, if_pos ⟨rfl, Nat.mod_eq_zero_of_dvd P.words⟩]
    exact ⟨_, rfl, rfl, fun a ha => stampRootBlock_apply _ _ ha⟩
  obtain ⟨k, t, hk, hend⟩ := exists_turns (P := P) j.rest hj (Nat.le_refl _)
  refine ⟨k + 1, j.snapshot, ?_, hsnap⟩
  have hsame : s.turns P (k + 1) = u.turns P (k + 1) := by
    change (s.mainLoop P).turns P k = (u.mainLoop P).turns P k
    rw [hturn, mainLoop_of_job hj]
  rw [hsame, hk]
  exact hend.stored hdest

/-! ### All runs -/

/-- **Each root write stores one moment, a sector holds what was stored last, and no change is
    lost**, while no write is disturbed. -/
theorem root_kept {h : History RootSync SyncEvent}
    (hr : SyncRun P (RootSync.Undisturbed P) h s) : RootKept P h s := by
  have hinv := syncInv_run hr
  refine ⟨?_, fun d hd => hinv.kept hd, hinv.changed, fun hchanged => ?_⟩
  · intro x hx
    obtain ⟨h', hr'⟩ := hr.of_mem x hx
    exact (syncInv_run hr').storesOneMoment x.2
  · obtain ⟨m, hidle, hsame⟩ := exists_turns_idle (P := P) s
    obtain ⟨n, d, hstored, hd⟩ :=
      exists_turns_written (P := P) hidle (hsame.syncState (hinv.changed hchanged))
    refine ⟨m + n, d, ?_, fun a _ ha => ?_⟩
    · rw [turns_add]
      exact hstored
    · rw [hd a ha, hsame.rootPage]

/-! ### A write that is torn -/

/-- A platform whose checksum is the sum of the bytes, with a root block of 18 words. -/
def wordPlatform : SyncPlatform where
  halCrcCalculate := fun bs => ~~~ bs.foldl (fun acc b => acc + UInt32.ofNat b.toNat) 0
  deviceDataSize := 72
  size_ge := by decide
  size_le := by decide
  words := by decide

/-- The device has started on a root block of zeros; the second sector is erased. -/
def syncStarted : RootSync :=
  powerOn wordPlatform (fun c => if c = .cryptData1 then fun _ => 0 else fun _ => 0xff) fun _ => 0

/-- A command changes a byte of `root_page` when 16 of the 18 words are programmed; the write
    ends, and the next one erases the other sector. -/
def tornRun : History RootSync SyncEvent × RootSync :=
  replay (RootSync.step wordPlatform)
    [.command [(20, [1])] true, .mainLoop, .mainLoop, .command [(64, [1])] true, .mainLoop,
      .mainLoop] ([], syncStarted)

/-- **A change in the middle of a write tears the sector, and the only other one is erased.** -/
theorem torn_write : ¬ ∀ h s, SyncRun wordPlatform anyStep h s → RootKept wordPlatform h s := by
  intro hall
  have hrun0 : SyncRun wordPlatform anyStep [] syncStarted := .start ⟨_, _, rfl⟩
  have hrun : SyncRun wordPlatform anyStep tornRun.1 tornRun.2 := run_replay _ _ hrun0
  have hstored : tornRun.2.lastStored.isSome = true := by
    decide +kernel
  obtain ⟨d, hd⟩ := Option.isSome_iff_exists.mp hstored
  obtain ⟨c, hcrc, -⟩ := (hall _ _ hrun).kept d hd
  have hbad : ∀ c, crcOk wordPlatform.toRootPlatform (tornRun.2.sector c) = false := by
    intro c
    cases c <;> decide +kernel
  rw [hbad c] at hcrc
  cases hcrc

/-- A change before the write begins is stored. -/
def keptRun : History RootSync SyncEvent × RootSync :=
  replay (RootSync.step wordPlatform)
    [.command [(20, [1])] true, .mainLoop, .mainLoop, .mainLoop] ([], syncStarted)

theorem root_kept_once : RootKept wordPlatform keptRun.1 keptRun.2 := by
  have hrun0 : SyncRun wordPlatform (RootSync.Undisturbed wordPlatform) [] syncStarted :=
    .start ⟨_, _, rfl⟩
  have hfirst : syncStarted.Undisturbed wordPlatform (.command [(20, [1])] true) :=
    spares_of_none rfl _ _
  have hrun1 := hrun0.next hfirst
  have hrun2 := hrun1.next (undisturbed_mainLoop _)
  have hrun3 := hrun2.next (undisturbed_mainLoop _)
  have hrun4 := hrun3.next (undisturbed_mainLoop _)
  exact root_kept hrun4

end SignetBase.FirmwareHc
