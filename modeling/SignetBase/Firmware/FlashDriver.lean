/-
  SignetBase/Firmware/FlashDriver.lean
  ====================================
  **The flash driver at work.**

  The driver erases the page of a request and then programs the source, 32 double
  words in each round of the main loop.  Every event of the driver goes on with the
  request, reports a failure, or calls `flash_write_complete` with all of the source
  programmed (`FlashTick`).
-/
import SignetBase.Firmware.FlashOperations

namespace SignetBase.Firmware

open Control

variable (P : Platform)

variable {s s' s₁ : Dev} {r : FlashRequest} {i : Nat} {e : Event}

/-! ### Pages -/

section Pages

variable {P}

/-- A storage block lies in flash. -/
theorem block_apply {id a : Nat} (hid : id < NUM_STORAGE_BLOCKS) (ha : a < BLK_SIZE) :
    block P s id a = s.flash (idBlk id + a) := by
  unfold block memFrom load
  refine if_pos ⟨?_, ?_⟩
  · unfold idBlk
    simp only [FLASH_MEM_BASE_ADDR, ROOT_PAGE_ADDR]
    omega
  · unfold idBlk
    simp only [NUM_STORAGE_BLOCKS] at hid
    simp only [BLK_SIZE] at ha
    simp only [FLASH_MEM_BASE_ADDR, FLASH_MEM_SIZE, ROOT_PAGE_ADDR, BLK_SIZE]
    omega

theorem pageAddr_idBlk (id : Nat) : pageAddr (idBlk id) = idBlk id := by
  unfold pageAddr idBlk
  simp only [FLASH_PAGE_SIZE, ROOT_PAGE_ADDR, BLK_SIZE]
  omega

end Pages

/-! ### Programming -/

/-- A piece of a slice. -/
theorem take_drop_read (m : Mem) {off n k j : Nat} (h : k + j ≤ n) :
    ((m.read off n).drop k).take j = m.read (off + k) j := by
  obtain ⟨d, rfl⟩ := Nat.exists_eq_add_of_le h
  rw [Nat.add_assoc, Mem.read_add, List.drop_left' (Mem.length_read _ _ _), Mem.read_add,
    List.take_left' (Mem.length_read _ _ _)]

theorem working_programDoubleWord (hw : Working s r i) (hst : s.flashState = .writing)
    (hcount : s.flashWriteCount ≠ 0) :
    Working { programDoubleWord s with
      flashWriteCount := (programDoubleWord s).flashWriteCount - 1 } r (i + 1) := by
  cases hsrc : r.src with
  | none =>
    have hera := (hw.erases hsrc).1
    rw [hst] at hera
    cases hera
  | some p =>
    have hdata : s.flashWriteData = some { p with off := p.off + 8 * i } := by
      rw [hw.data, hsrc]
      rfl
    have hlen := hw.count
    have heq : programDoubleWord s = { s with
        flash := s.flash.copy s.flashWriteAddr (s.object p.object) (p.off + 8 * i) 8
        flashWriteData := some { p with off := p.off + 8 * i + 8 }
        flashWriteAddr := s.flashWriteAddr + 8 } := by
      unfold programDoubleWord
      rw [hdata]
    rw [heq]
    obtain ⟨hobj, hheld⟩ := hw.source p hsrc
    constructor
    · exact hw.busy
    · intro hera
      exact absurd (hst.symm.trans hera) (by decide)
    · intro hnone
      rw [hsrc] at hnone
      cases hnone
    · rw [hsrc]
      simp only [Option.map_some, Nat.mul_add, Nat.mul_one, Nat.add_assoc]
    · simp only [hw.addr]
      omega
    · simp only
      omega
    · intro q hq
      rw [hsrc] at hq
      cases hq
      exact ⟨hobj, hheld⟩
    · have hword : (s.object p.object).read (p.off + 8 * i) 8 = (r.held.drop (8 * i)).take 8 := by
        rw [← hheld]
        exact (take_drop_read _ (by omega)).symm
      simp only
      rw [Nat.mul_add, Nat.mul_one, Mem.read_add, hw.addr, Mem.read_copy, hword,
        Mem.read_copy_disjoint _ _ (.inl (Nat.le_refl _)), hw.programmed, List.take_add]

/-- The driver's loop goes on with the request, unless the chip reports an error. -/
theorem working_programLoop (n : Nat) (err : Option Nat) (hw : Working s r i)
    (hst : s.flashState = .writing) (hok : (programLoop n err s).1 = false) :
    ∃ j, Working (programLoop n err s).2 r j := by
  induction n generalizing err s i with
  | zero => exact ⟨i, hw⟩
  | succ n ih =>
    unfold programLoop at hok ⊢
    split at hok
    · rename_i hcount
      rw [if_pos hcount]
      exact ⟨i, hw⟩
    · rename_i hcount
      rw [if_neg hcount]
      simp only at hok ⊢
      split at hok
      · cases hok
      · rename_i herr
        rw [if_neg herr]
        refine ih _ (working_programDoubleWord hw hst hcount) ?_ hok
        unfold programDoubleWord
        split
        · exact hst
        · exact hst

/-- The driver's loop programs nothing behind or in front of what is left. -/
theorem flash_programLoop (n : Nat) (err : Option Nat) (s : Dev) {a : Nat}
    (ha : a < s.flashWriteAddr ∨ s.flashWriteAddr + 8 * s.flashWriteCount ≤ a) :
    (programLoop n err s).2.flash a = s.flash a := by
  induction n generalizing err s with
  | zero => rfl
  | succ n ih =>
    unfold programLoop
    split
    · rfl
    · rename_i hcount
      have hword : (programDoubleWord s).flash a = s.flash a := by
        unfold programDoubleWord
        split
        · rfl
        · exact Mem.copy_apply_of_notMem _ _ (by omega)
      have hcur : (programDoubleWord s).flashWriteCount = s.flashWriteCount := by
        unfold programDoubleWord
        split <;> rfl
      have haddr : (programDoubleWord s).flashWriteAddr = s.flashWriteAddr ∨
          (programDoubleWord s).flashWriteAddr = s.flashWriteAddr + 8 := by
        unfold programDoubleWord
        split
        · exact .inl rfl
        · exact .inr rfl
      simp only
      split
      · exact hword
      · refine (ih _ _ ?_).trans hword
        simp only
        omega

@[simp] theorem flashRequests_programLoop (n : Nat) (err : Option Nat) (s : Dev) :
    (programLoop n err s).2.flashRequests = s.flashRequests := by
  have hword : ∀ s, (programDoubleWord s).flashRequests = s.flashRequests := by
    intro s
    unfold programDoubleWord
    split <;> rfl
  induction n generalizing err s with
  | zero => rfl
  | succ n ih =>
    unfold programLoop
    split
    · rfl
    · simp only
      split
      · exact hword s
      · exact (ih _ _).trans (hword s)

/-! ### Completions -/

/-- The state in which the event makes the driver call `flash_write_complete`, if it
    does. -/
def completion (s : Dev) : Event → Option Dev
  | .flashHandler true =>
    if s.hung = false ∧ s.flashState = .erasing ∧ s.flashWriteData = none then
      some { pageErased s with flashState := .idle }
    else none
  | .flashIdle err =>
    if s.hung = false ∧ s.flashState = .writing ∧ (programLoop 32 err s).1 = false ∧
        (programLoop 32 err s).2.flashWriteCount = 0 then
      some { (programLoop 32 err s).2 with flashState := .idle }
    else none
  | _ => none

/-- The event is one of the driver's. -/
def Event.isFlash : Event → Bool
  | .flashHandler _ | .flashIdle _ => true
  | _ => false

/-- The address is neither in the page that the request erases nor among the bytes it
    programs. -/
def FlashRequest.spares (r : FlashRequest) (a : Nat) : Prop :=
  (a < pageAddr r.dest ∨ pageAddr r.dest + FLASH_PAGE_SIZE ≤ a) ∧
    (a < r.dest ∨ r.dest + r.held.length ≤ a)

/-- What the driver leaves alone when it goes on with a request. -/
structure DriverMoves (r : FlashRequest) (s s' : Dev) : Prop where
  requests : s'.flashRequests = s.flashRequests
  control : s'.toControl = s.toControl
  cmdData : s'.cmdData = s.cmdData
  flash : ∀ a, r.spares a → s'.flash a = s.flash a

/-- What an event of the driver does to a device that works on a request. -/
inductive FlashTick (s : Dev) (r : FlashRequest) (e : Event) : Prop
  | goesOn (j : Nat) : completion s e = none → Working (step P s e) r j →
      DriverMoves r s (step P s e) → FlashTick s r e
  | fails (s₁ : Dev) : completion s e = none → step P s e = flashWriteFailed s₁ →
      s₁.flashState = .idle → DriverMoves r s s₁ → FlashTick s r e
  | completes (s₁ : Dev) : completion s e = some s₁ → step P s e = flashWriteComplete P s₁ →
      s₁.flashState = .idle → DriverMoves r s s₁ →
      s₁.flash.read r.dest r.held.length = r.held →
      (r.src = none → ∀ a, pageAddr r.dest ≤ a → a < pageAddr r.dest + FLASH_PAGE_SIZE →
        s₁.flash a = 0xff) → FlashTick s r e

theorem Working.addr_erasing (hw : Working s r i) (hst : s.flashState = .erasing) :
    s.flashWriteAddr = r.dest := by
  rw [hw.addr, hw.erasing hst]
  rfl

theorem flashTick_handler (hw : Working s r i) (hh : s.hung = false) (eop : Bool) :
    FlashTick P s r (.flashHandler eop) := by
  have hstep : step P s (.flashHandler eop) = flashHandler P eop s := by
    unfold step
    rw [if_neg (by simp [hh])]
  by_cases hst : s.flashState = .erasing
  · have haddr := hw.addr_erasing hst
    have hi := hw.erasing hst
    subst hi
    have hmoves : DriverMoves r s { pageErased s with flashState := .idle } := by
      refine ⟨rfl, rfl, rfl, fun a ha => ?_⟩
      have hpage := ha.1
      rw [← haddr] at hpage
      unfold pageErased Mem.fill
      simp only
      rw [if_neg (by omega)]
    cases eop with
    | false =>
      refine .fails { s with flashState := .idle } rfl ?_ rfl ⟨rfl, rfl, rfl, fun _ _ => rfl⟩
      rw [hstep]
      unfold flashHandler
      rw [if_pos hst]
      rfl
    | true =>
      by_cases hdata : s.flashWriteData = none
      · have hsrc : r.src = none := by
          have h := hw.data
          rw [hdata] at h
          cases hr : r.src with
          | none => rfl
          | some p =>
            rw [hr] at h
            cases h
        refine .completes { pageErased s with flashState := .idle } ?_ ?_ rfl hmoves ?_ ?_
        · exact if_pos ⟨hh, hst, hdata⟩
        · rw [hstep]
          unfold flashHandler
          have hdata' : (pageErased s).flashWriteData = none := hdata
          rw [if_pos hst, if_pos rfl]
          simp only [hdata']
          rfl
        · rw [(hw.erases hsrc).2]
          rfl
        · intro _ a hle hlt
          rw [← haddr] at hle hlt
          unfold pageErased Mem.fill
          exact if_pos ⟨hle, hlt⟩
      · have hsome : (pageErased s).flashWriteData.isSome := Option.isSome_iff_ne_none.mpr hdata
        have heq : step P s (.flashHandler true) = { pageErased s with flashState := .writing } := by
          rw [hstep]
          unfold flashHandler
          rw [if_pos hst, if_pos rfl]
          simp only
          rw [if_pos hsome]
        refine .goesOn 0 (if_neg fun h => hdata h.2.2) ?_ ?_
        · rw [heq]
          constructor
          · exact nofun
          · exact fun _ => rfl
          · intro hnone
            have h := hw.data
            rw [hnone] at h
            exact absurd h hdata
          · exact hw.data
          · exact hw.addr
          · exact hw.count
          · exact hw.source
          · rfl
        · rw [heq]
          exact ⟨rfl, rfl, rfl, hmoves.flash⟩
  · have heq : step P s (.flashHandler eop) = s := by
      rw [hstep]
      unfold flashHandler
      rw [if_neg hst]
    refine .goesOn i ?_ ?_ ?_
    · cases eop with
      | false => rfl
      | true => exact if_neg fun h => hst h.2.1
    · rw [heq]
      exact hw
    · rw [heq]
      exact ⟨rfl, rfl, rfl, fun _ _ => rfl⟩

theorem flashTick_idle (hw : Working s r i) (hh : s.hung = false) (err : Option Nat) :
    FlashTick P s r (.flashIdle err) := by
  have hstep : step P s (.flashIdle err) = flashIdle P err s := by
    unfold step
    rw [if_neg (by simp [hh])]
  by_cases hst : s.flashState = .writing
  · have hmoves : DriverMoves r s (programLoop 32 err s).2 := by
      refine ⟨flashRequests_programLoop 32 err s, toControl_programLoop s 32 err,
        congrArg Buffers.cmdData (toBuffers_programLoop 32 err s), fun a ha => ?_⟩
      have hcount := hw.count
      have haddr := hw.addr
      refine flash_programLoop 32 err s ?_
      rcases ha.2 with h | h
      · left
        omega
      · right
        omega
    have hwork := working_programLoop 32 err hw hst
    have hcomp : completion s (.flashIdle err) = if (programLoop 32 err s).1 = false ∧
        (programLoop 32 err s).2.flashWriteCount = 0 then
          some { (programLoop 32 err s).2 with flashState := .idle } else none := by
      unfold completion
      simp only [hh, hst, true_and]
    have heq : step P s (.flashIdle err) = if (programLoop 32 err s).1 then
        flashWriteFailed { (programLoop 32 err s).2 with flashState := .idle }
      else if (programLoop 32 err s).2.flashWriteCount = 0 then
        flashWriteComplete P { (programLoop 32 err s).2 with flashState := .idle }
      else (programLoop 32 err s).2 := by
      rw [hstep]
      unfold flashIdle
      rw [if_pos hst]
    generalize programLoop 32 err s = res at hmoves hwork hcomp heq
    cases hfailed : res.1 with
    | true =>
      rw [if_pos hfailed] at heq
      refine .fails _ ?_ heq rfl ⟨hmoves.requests, hmoves.control, hmoves.cmdData, hmoves.flash⟩
      rw [hcomp, if_neg (by simp [hfailed])]
    | false =>
      obtain ⟨j, hj⟩ := hwork hfailed
      rw [if_neg (by simp [hfailed])] at heq
      by_cases hzero : res.2.flashWriteCount = 0
      · rw [if_pos hzero] at heq
        have hlen := hj.count
        have hnone : r.src ≠ none := fun h => by
          have hera := (hw.erases h).1
          exact absurd (hst.symm.trans hera) (by decide)
        refine .completes _ ?_ heq rfl
          ⟨hmoves.requests, hmoves.control, hmoves.cmdData, hmoves.flash⟩ ?_
          (fun h => absurd h hnone)
        · rw [hcomp, if_pos ⟨hfailed, hzero⟩]
        · have hall : r.held.length = 8 * j := by omega
          have hprog := hj.programmed
          rw [← hall, List.take_length] at hprog
          exact hprog
      · rw [if_neg hzero] at heq
        refine .goesOn j ?_ ?_ ?_
        · rw [hcomp, if_neg fun h => hzero h.2]
        · rw [heq]
          exact hj
        · rw [heq]
          exact hmoves
  · have heq : step P s (.flashIdle err) = s := by
      rw [hstep]
      unfold flashIdle
      rw [if_neg hst]
    refine .goesOn i (if_neg fun h => hst h.2.1) ?_ ?_
    · rw [heq]
      exact hw
    · rw [heq]
      exact ⟨rfl, rfl, rfl, fun _ _ => rfl⟩

end SignetBase.Firmware
