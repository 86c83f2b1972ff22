/-
  SignetBase/Firmware/PageWrite.lean
  ==================================
  **A page write that is carried out to its end.**

  When nothing fails, the driver erases the page and programs all of the source, and
  only then calls `flash_write_complete`.  The block that was written holds the source
  (`wrote_pageWritten`); nothing else has changed.
-/
import SignetBase.Firmware.FlashDriver
import SignetBase.Firmware.Store

namespace SignetBase.Firmware

variable (P : Platform)

variable {s s₀ : Dev} {i off : Nat}

/-- The page write that was issued is carried out: the page is erased and all of the
    source is programmed. -/
def pageWritten (s : Dev) : Dev :=
  { (programLoop s.flashWriteCount none { pageErased s with flashState := .writing }).2 with
    flashState := .idle }

/-! ### The driver gets there -/

theorem programLoop_none (n : Nat) (s : Dev) :
    (programLoop n none s).1 = false ∧
      (programLoop n none s).2.flashWriteCount = s.flashWriteCount - n ∧
      (programLoop n none s).2.flashState = s.flashState := by
  induction n generalizing s with
  | zero => exact ⟨rfl, rfl, rfl⟩
  | succ n ih =>
    unfold programLoop
    split
    · rename_i hzero
      refine ⟨rfl, ?_, rfl⟩
      rw [hzero, Nat.zero_sub]
    · have hword : (programDoubleWord s).flashWriteCount = s.flashWriteCount ∧
          (programDoubleWord s).flashState = s.flashState := by
        unfold programDoubleWord
        split
        · exact ⟨rfl, rfl⟩
        · exact ⟨rfl, rfl⟩
      simp only
      rw [if_neg (by simp)]
      obtain ⟨h₁, h₂, h₃⟩ := ih { programDoubleWord s with
        flashWriteCount := (programDoubleWord s).flashWriteCount - 1 }
      refine ⟨h₁, h₂.trans ?_, h₃.trans hword.2⟩
      simp only [hword.1]
      omega

/-- The driver touches its own state only. -/
theorem programLoop_frame (n : Nat) (err : Option Nat) (s : Dev) :
    (programLoop n err s).2 =
      { s with toFlashDriver := (programLoop n err s).2.toFlashDriver } := by
  induction n generalizing err s with
  | zero => rfl
  | succ n ih =>
    have hword : programDoubleWord s =
        { s with toFlashDriver := (programDoubleWord s).toFlashDriver } := by
      unfold programDoubleWord
      split
      · rfl
      · rfl
    unfold programLoop
    split
    · rfl
    · simp only
      split
      · exact hword
      · rw [ih, hword]

theorem programLoop_done (n : Nat) (h : s.flashWriteCount = 0) :
    (programLoop n none s).2 = s := by
  cases n with
  | zero => rfl
  | succ n =>
    unfold programLoop
    rw [if_pos h]

theorem programLoop_add (m n : Nat) (s : Dev) :
    (programLoop (m + n) none s).2 = (programLoop n none (programLoop m none s).2).2 := by
  induction m generalizing s with
  | zero => rw [Nat.zero_add]; rfl
  | succ m ih =>
    rw [Nat.succ_add]
    by_cases hzero : s.flashWriteCount = 0
    · rw [programLoop_done _ hzero, programLoop_done _ hzero, programLoop_done _ hzero]
    · conv_lhs => unfold programLoop
      conv_rhs => rw [programLoop]
      simp only
      rw [if_neg hzero, if_neg hzero, if_neg (by simp), if_neg (by simp)]
      exact ih _

/-- One round of the main loop. -/
theorem flashIdle_round (hst : s.flashState = .writing) :
    flashIdle P none s = if s.flashWriteCount - 32 = 0 then
      flashWriteComplete P { (programLoop 32 none s).2 with flashState := .idle }
      else (programLoop 32 none s).2 := by
  obtain ⟨hok, hcount, -⟩ := programLoop_none 32 s
  unfold flashIdle
  rw [if_pos hst]
  simp only [hok, hcount]
  rw [if_neg (by simp)]

/-- The rounds of the main loop program what is left. -/
theorem flashIdle_rounds (m : Nat) (hst : s.flashState = .writing) (hlo : 32 * m < s.flashWriteCount)
    (hhi : s.flashWriteCount ≤ 32 * (m + 1)) :
    (flashIdle P none)^[m + 1] s = flashWriteComplete P
      { (programLoop s.flashWriteCount none s).2 with flashState := .idle } := by
  obtain ⟨-, hcount, hstate⟩ := programLoop_none 32 s
  rw [Function.iterate_succ_apply, flashIdle_round P hst]
  induction m generalizing s with
  | zero =>
    obtain ⟨d, hd⟩ := Nat.exists_eq_add_of_le hhi
    have hall := programLoop_add s.flashWriteCount d s
    rw [programLoop_done d (by rw [(programLoop_none _ s).2.1, Nat.sub_self])] at hall
    have h32 : s.flashWriteCount + d = 32 := hd.symm
    rw [h32] at hall
    rw [if_pos (by omega), Function.iterate_zero, id, hall]
  | succ m ih =>
    obtain ⟨-, hcount', hstate'⟩ := programLoop_none 32 (programLoop 32 none s).2
    have hrest := ih (hstate.trans hst) (by omega) (by omega) hcount' hstate'
    have hsum : 32 + (s.flashWriteCount - 32) = s.flashWriteCount := by omega
    rw [if_neg (by omega), Function.iterate_succ_apply, flashIdle_round P (hstate.trans hst), hrest,
      hcount, ← programLoop_add, hsum]

/-- **The driver carries a page write out** and calls `flash_write_complete`. -/
theorem driver_pageWritten (m : Nat) (hst : s.flashState = .erasing)
    (hdata : s.flashWriteData.isSome) (hlo : 32 * m < s.flashWriteCount)
    (hhi : s.flashWriteCount ≤ 32 * (m + 1)) :
    (flashIdle P none)^[m + 1] (flashHandler P true s) = flashWriteComplete P (pageWritten s) := by
  have herased : flashHandler P true s = { pageErased s with flashState := .writing } := by
    unfold flashHandler
    rw [if_pos hst, if_pos rfl]
    exact if_pos hdata
  rw [herased]
  exact flashIdle_rounds P m rfl hlo hhi

/-! ### What it leaves -/

theorem pageWritten_frame (s : Dev) :
    pageWritten s = { s with toFlashDriver := (pageWritten s).toFlashDriver } := by
  unfold pageWritten
  rw [programLoop_frame]
  rfl

@[simp] theorem cmdData_pageWritten (s : Dev) : (pageWritten s).cmdData = s.cmdData := by
  rw [pageWritten_frame]

@[simp] theorem tables_pageWritten (s : Dev) : (pageWritten s).tables = s.tables := by
  rw [pageWritten_frame]

@[simp] theorem flashState_pageWritten (s : Dev) : (pageWritten s).flashState = .idle := rfl

/-- The bytes of the page are the source's, and all others are what they were. -/
theorem flash_pageWritten (hidle : s₀.flashState = .idle) (a : Nat) :
    (pageWritten (flashWritePage (idBlk i) (some ⟨.cmdData, off⟩) BLK_SIZE s₀)).flash a =
      if idBlk i ≤ a ∧ a < idBlk i + BLK_SIZE then s₀.cmdData (off + (a - idBlk i))
      else s₀.flash a := by
  have hlodged : Lodged s₀ (flashWritePage (idBlk i) (some ⟨.cmdData, off⟩) BLK_SIZE s₀) _ :=
    lodged_flashWritePage _ _ hidle nofun
  have hwork := hlodged.working
  have hflash := hlodged.flash
  have hcount : (flashWritePage (idBlk i) (some ⟨.cmdData, off⟩) BLK_SIZE s₀).flashWriteCount =
      BLK_SIZE / 8 := by
    unfold flashWritePage
    rw [if_pos hidle]
    rfl
  have hheld : heldBytes (some ⟨.cmdData, off⟩) BLK_SIZE s₀ = s₀.cmdData.read off BLK_SIZE := rfl
  generalize heldBytes (some ⟨.cmdData, off⟩) BLK_SIZE s₀ = held at hwork hheld
  have haddr : (flashWritePage (idBlk i) (some ⟨.cmdData, off⟩) BLK_SIZE s₀).flashWriteAddr =
      idBlk i := hwork.addr
  generalize flashWritePage (idBlk i) (some ⟨.cmdData, off⟩) BLK_SIZE s₀ = s at hwork hflash hcount haddr ⊢
  have hera : ∀ a, (pageErased s).flash a =
      if idBlk i ≤ a ∧ a < idBlk i + BLK_SIZE then 0xff else s₀.flash a := by
    intro a
    unfold pageErased Mem.fill
    simp only
    rw [haddr, pageAddr_idBlk, hflash]
    rfl
  have hwork' : Working { pageErased s with flashState := .writing }
      ⟨idBlk i, some ⟨.cmdData, off⟩, held, true⟩ 0 :=
    ⟨nofun, fun _ => rfl, nofun, hwork.data, hwork.addr, hwork.count, hwork.source, rfl⟩
  obtain ⟨hok, hleft, -⟩ := programLoop_none s.flashWriteCount
    { pageErased s with flashState := .writing }
  obtain ⟨j, hj⟩ := working_programLoop s.flashWriteCount none hwork' rfl hok
  have hout := fun h => flash_programLoop s.flashWriteCount none
    { pageErased s with flashState := .writing } (a := a) h
  have hlen : held.length = BLK_SIZE := by
    rw [hheld, Mem.length_read]
  have hzero := hleft.trans (Nat.sub_self s.flashWriteCount)
  have hall : BLK_SIZE = 8 * j := by
    have hdone := hj.count
    rw [hzero] at hdone
    exact hlen.symm.trans hdone
  have hprog := hj.programmed
  rw [← hall, List.take_of_length_le (Nat.le_of_eq hlen), hheld] at hprog
  split
  · rename_i hin
    obtain ⟨d, rfl⟩ := Nat.exists_eq_add_of_le hin.1
    have hd : d < BLK_SIZE := by omega
    rw [Nat.add_sub_cancel_left]
    exact Mem.apply_of_read_eq hprog hd
  · rename_i hnot
    refine (hout ?_).trans ((hera a).trans (if_neg hnot))
    have hsrc : ({ pageErased s with flashState := .writing } : Dev).flashWriteAddr = idBlk i := haddr
    have hcnt : ({ pageErased s with flashState := .writing } : Dev).flashWriteCount = BLK_SIZE / 8 :=
      hcount
    rw [hsrc, hcnt, show 8 * (BLK_SIZE / 8) = BLK_SIZE from rfl]
    omega

/-- **The block holds the source**, and all other blocks are what they were. -/
theorem wrote_pageWritten (i off : Nat) (hidle : s₀.flashState = .idle) :
    Wrote (block P s₀) i (s₀.cmdData.window off) (block P
      (pageWritten (flashWritePage (idBlk i) (some ⟨.cmdData, off⟩) BLK_SIZE s₀))) := by
  intro k hk a ha
  have hki := (dataBlock_bounds hk).2
  rw [block_apply hki ha, block_apply hki ha, flash_pageWritten hidle, Mem.window_apply]
  by_cases hki : k = i
  · subst hki
    rw [if_pos (by omega), if_pos rfl, Nat.add_sub_cancel_left]
  · rw [if_neg hki, if_neg]
    unfold idBlk
    simp only [BLK_SIZE] at ha ⊢
    omega

end SignetBase.Firmware
