/-
  SignetBase/Firmware/FlashOperations.lean
  ========================================
  **Which operation a flash completion is taken for.**

  `flash_write_complete` is one function for all flash operations.  It finds out
  what was written from the device state, for the long operations, and from the
  active command, for all others (`handlers`).  A function that makes a request
  leaves the control state such that exactly one operation would take its
  completion.
-/
import SignetBase.Firmware.FlashRequests
import SignetBase.Firmware.Reading
import SignetBase.Firmware.Store
import SignetBase.Firmware.Login

namespace SignetBase.Firmware

open Control

variable (P : Platform)

/-! ### Operations -/

/-- What flash is written for. -/
inductive Operation where
  | init | wipe | erasePages
  | command (cmd : Command)
deriving DecidableEq, Repr

/-- The long operation a device state stands for. -/
def stateOperation : DeviceState → Option Operation
  | .initializing => some .init
  | .wiping => some .wipe
  | .erasingPages => some .erasePages
  | _ => none

/-- The commands that `flash_write_complete` goes on with. -/
def awaitsWrite : Command → Bool
  | .writeCleartextPassword | .changeMasterPassword | .writeBlock | .eraseBlock | .writeFlash
  | .updateUids | .updateUid | .startup => true
  | _ => false

/-- The active command, if a flash completion goes on with it. -/
def commandOperation : Option Command → Option Operation
  | some cmd => if awaitsWrite cmd then some (.command cmd) else none
  | none => none

/-- The operations that `flash_write_complete` takes a completion for. -/
def Control.handlers (c : Control) : List Operation :=
  (stateOperation c.deviceState).toList ++ (commandOperation c.activeCmd).toList

/-- The operation that a command starts by its flash request. -/
def Operation.of : Command → Operation
  | .initializeDevice => .init
  | .wipe => .wipe
  | .eraseFlashPages => .erasePages
  | cmd => .command cmd

variable {s s' s₁ : Dev} {c c' : Control} {cmd : Command}

theorem handlers_command (hst : stateOperation c.deviceState = none)
    (hcmd : c.activeCmd = some cmd) (haw : awaitsWrite cmd = true) :
    c.handlers = [.command cmd] := by
  unfold handlers
  rw [hst, hcmd]
  simp [commandOperation, haw]

theorem handlers_state {op : Operation} (hst : stateOperation c.deviceState = some op)
    (hcmd : commandOperation c.activeCmd = none) : c.handlers = [op] := by
  unfold handlers
  rw [hst, hcmd]
  rfl

/-- A command that was answered waits for no completion. -/
theorem Control.Clears.commandOperation (h : c.Clears c')
    (hcmd : commandOperation c.activeCmd = none) :
    Firmware.commandOperation c'.activeCmd = none := by
  rcases h.activeCmd with ha | ha
  · rw [ha, hcmd]
  · rw [ha]
    rfl

theorem Control.Reaches.commandOperation {st : DeviceState} (h : c.Reaches st c')
    (hcmd : commandOperation c.activeCmd = none) :
    Firmware.commandOperation c'.activeCmd = none := by
  rcases h.activeCmd with ha | ha
  · rw [ha, hcmd]
  · rw [ha]
    rfl

/-- A function with at most one request, which leaves the control state alone when
    it makes one. -/
def AsksInPlace (s s' : Dev) : Prop :=
  flashView s' = flashView s ∨ s'.toControl = s.toControl ∧ ∃ r, Lodged s s' r

theorem AsksInPlace.after (h : AsksInPlace s₁ s') (hv : flashView s₁ = flashView s)
    (hc : s₁.toControl = s.toControl) : AsksInPlace s s' := by
  rcases h with h | ⟨hc', r, h⟩
  · exact .inl (h.trans hv)
  · exact .inr ⟨hc'.trans hc, r, h.after hv⟩

theorem AsksInPlace.before (h : AsksInPlace s s₁) (hv : flashView s' = flashView s₁)
    (hsrc : SameSources s₁ s') (hc : s'.toControl = s₁.toControl) : AsksInPlace s s' := by
  rcases h with h | ⟨hc', r, h⟩
  · exact .inl (hv.trans h)
  · exact .inr ⟨hc.trans hc', r, h.still hv hsrc⟩

/-! ### What happens on the side -/

/-- Neither the driver and its sources nor the operation that waits for it are
    touched. -/
structure Aside (s s' : Dev) : Prop where
  view : flashView s' = flashView s
  sources : SameSources s s'
  deviceState : s'.deviceState = s.deviceState
  operation : commandOperation s'.activeCmd = commandOperation s.activeCmd

theorem Aside.rfl : Aside s s := ⟨Eq.refl _, .refl s, Eq.refl _, Eq.refl _⟩

theorem Aside.trans (h : Aside s s₁) (h' : Aside s₁ s') : Aside s s' :=
  ⟨h'.view.trans h.view, h.sources.trans h'.sources, h'.deviceState.trans h.deviceState,
    h'.operation.trans h.operation⟩

/-- An answer, when no command waits for a completion or the command stays active. -/
theorem aside_finishCommandMulti (resp : CommandResponse) (mr : Int) (payload : Option Bytes)
    (n : Nat) (s : Dev) (h : commandOperation s.activeCmd = none ∨ s.cmdMessagesRemaining ≠ 0) :
    Aside s (finishCommandMulti resp mr payload n s) := by
  refine ⟨Eq.refl _, sameSources_finishCommandMulti _ _ _ _ s, Eq.refl _, ?_⟩
  show commandOperation (s.toControl.finish mr).activeCmd = commandOperation s.activeCmd
  rcases h with h | h
  · rw [h]
    exact (clears_finish s.toControl mr).commandOperation h
  · unfold Control.finish
    simp only
    rw [if_neg fun hc => h hc.2]

theorem aside_finishCommandResp (resp : CommandResponse) (s : Dev)
    (h : commandOperation s.activeCmd = none ∨ s.cmdMessagesRemaining ≠ 0) :
    Aside s (finishCommandResp resp s) :=
  aside_finishCommandMulti _ _ _ _ s h

theorem aside_usbKeyboardTypingDone (s : Dev) : Aside s (usbKeyboardTypingDone s) := by
  have hanswer : Aside s
      (if s.activeCmd = some .type then finishCommandResp .okay s else s) := by
    split
    · rename_i hcmd
      refine aside_finishCommandResp _ s (.inl ?_)
      rw [hcmd]
      rfl
    · exact .rfl
  refine hanswer.trans ?_
  unfold usbKeyboardTypingDone
  simp only
  generalize (if s.activeCmd = some .type then finishCommandResp .okay s else s) = s₁
  split
  · exact ⟨Eq.refl _, ⟨Eq.refl _, Eq.refl _, Eq.refl _⟩, Eq.refl _, Eq.refl _⟩
  · exact .rfl

theorem aside_usbKeyboardType (chars : Ptr) (n : Nat) (s : Dev) :
    Aside s (usbKeyboardType usbKeyboardTypingDone chars n s) := by
  unfold usbKeyboardType
  split
  · exact .rfl
  · split
    · exact aside_usbKeyboardTypingDone s
    · exact ⟨Eq.refl _, ⟨Eq.refl _, Eq.refl _, Eq.refl _⟩, Eq.refl _, Eq.refl _⟩

theorem aside_timerTimeout (s : Dev) : Aside s (timerTimeout s) := by
  unfold timerTimeout
  simp only
  split
  · refine Aside.trans ?_ (aside_usbKeyboardType _ _ _)
    exact ⟨Eq.refl _, ⟨Eq.refl _, Eq.refl _, Eq.refl _⟩, Eq.refl _, Eq.refl _⟩
  · exact ⟨Eq.refl _, ⟨Eq.refl _, Eq.refl _, Eq.refl _⟩, Eq.refl _, Eq.refl _⟩

theorem aside_buttonReleaseDisconnected (s : Dev) : Aside s (buttonReleaseDisconnected s) := by
  unfold buttonReleaseDisconnected
  simp only
  split
  · exact .rfl
  · split
    · have hindex : Aside s { s with cleartextPassIndex := s.cleartextPassIndex + 1 } :=
        ⟨Eq.refl _, ⟨Eq.refl _, Eq.refl _, Eq.refl _⟩, Eq.refl _, Eq.refl _⟩
      have htimer := hindex.trans (aside_timerTimeout _)
      exact htimer.trans ⟨Eq.refl _, ⟨Eq.refl _, Eq.refl _, Eq.refl _⟩, Eq.refl _, Eq.refl _⟩
    · have hindex : Aside s { s with
          cleartextPassIndex := s.cleartextPassIndex + 1
          cleartextTypeBuf := s.cleartextTypeBuf.write 0
            [0, UInt8.ofNat (30 + (s.cleartextPassIndex + 1)).toNat]
          cleartextPassTyping := true } :=
        ⟨Eq.refl _, ⟨Eq.refl _, Eq.refl _, Eq.refl _⟩, Eq.refl _, Eq.refl _⟩
      have htype := hindex.trans (aside_usbKeyboardType ⟨.cleartextTypeBuf, 0⟩ 2 _)
      exact htype.trans ⟨Eq.refl _, ⟨Eq.refl _, Eq.refl _, Eq.refl _⟩, Eq.refl _, Eq.refl _⟩

theorem aside_longButtonPressDisconnected (s : Dev) :
    Aside s (longButtonPressDisconnected P s) := by
  unfold longButtonPressDisconnected
  split
  · simp only
    split
    · refine Aside.trans ?_ (aside_usbKeyboardType _ _ _)
      exact ⟨Eq.refl _, ⟨Eq.refl _, Eq.refl _, Eq.refl _⟩, Eq.refl _, Eq.refl _⟩
    · refine Aside.trans (aside_timerTimeout s) ?_
      exact ⟨Eq.refl _, ⟨Eq.refl _, Eq.refl _, Eq.refl _⟩, Eq.refl _, Eq.refl _⟩
  · exact .rfl

theorem aside_buttonRelease (s : Dev) : Aside s (buttonRelease s) := by
  unfold buttonRelease
  split
  · exact ⟨Eq.refl _, ⟨Eq.refl _, Eq.refl _, Eq.refl _⟩, Eq.refl _, Eq.refl _⟩
  · split
    · exact aside_buttonReleaseDisconnected s
    · exact .rfl

theorem aside_usbTxKeyboard (s : Dev) : Aside s (usbTxKeyboard s) := by
  unfold usbTxKeyboard
  split
  · split
    · refine Aside.trans ?_ (aside_usbKeyboardTypingDone _)
      exact ⟨Eq.refl _, ⟨Eq.refl _, Eq.refl _, Eq.refl _⟩, Eq.refl _, Eq.refl _⟩
    · exact ⟨Eq.refl _, ⟨Eq.refl _, Eq.refl _, Eq.refl _⟩, Eq.refl _, Eq.refl _⟩
  · exact .rfl

theorem aside_usbKeyboardIdle (elapsed : Bool) (s : Dev) :
    Aside s (usbKeyboardIdle elapsed s) := by
  unfold usbKeyboardIdle
  split
  · exact ⟨Eq.refl _, ⟨Eq.refl _, Eq.refl _, Eq.refl _⟩, Eq.refl _, Eq.refl _⟩
  · exact .rfl

/-! ### Record commands -/

theorem asks_updateUidCmdComplete (hidle : s.flashState = .idle) :
    AsksInPlace s (updateUidCmdComplete P s) := by
  refine .inr ⟨toControl_updateUidCmdComplete P s, ?_⟩
  unfold updateUidCmdComplete
  simp only
  refine ⟨_, Lodged.after (lodged_flashWritePage _ _ ?_ (by decide)) ?_⟩
  · exact hidle
  · rfl

theorem asks_updateUidCmd {uid : Nat} {data : Bytes} {sz pressType : Nat}
    (hidle : s.flashState = .idle) : AsksInPlace s (updateUidCmd P uid data sz pressType s) := by
  unfold updateUidCmd
  simp only
  split
  · exact .inl rfl
  · split
    · refine AsksInPlace.after (asks_updateUidCmdComplete P ?_) ?_ ?_
      · exact hidle
      · rfl
      · rfl
    · split <;> exact .inl rfl

theorem asks_updateUidCmdWriteFinished (hidle : s.flashState = .idle) :
    AsksInPlace s (updateUidCmdWriteFinished P s) := by
  unfold updateUidCmdWriteFinished
  simp only
  split
  · split
    · refine .inr ⟨by simp only [toControl_flashWritePage], _, Lodged.after
        (lodged_flashWritePage _ _ ?_ (by decide)) ?_⟩
      · exact hidle
      · rfl
    · exact .inl rfl
  · exact .inl rfl

/-! ### The startup scan -/

/-- The scan that needs no repair makes no request. -/
theorem asks_db2StartupScan (blockOff infoOff : Nat) (hidle : s.flashState = .idle) :
    AsksInPlace s (db2StartupScan P blockOff infoOff s).2 ∧
      ((db2StartupScan P blockOff infoOff s).1 = true →
        flashView (db2StartupScan P blockOff infoOff s).2 = flashView s) := by
  refine ⟨?_, ?_⟩
  · unfold db2StartupScan
    simp only
    split
    · exact .inl rfl
    · simp only
      split
      · refine .inr ⟨by simp only [toControl_flashWritePage], _, Lodged.after
          (lodged_flashWritePage _ _ ?_ (by simp)) ?_⟩
        · exact hidle
        · rfl
      · exact .inl rfl
  · unfold db2StartupScan
    simp only
    split
    · exact fun _ => rfl
    · exact nofun

theorem asks_startupCmdIter (hidle : s.flashState = .idle) :
    AsksInPlace s (startupCmdIter P s) := by
  unfold startupCmdIter
  simp only
  split
  · exact .inl rfl
  · split
    · split
      · have hscan := asks_db2StartupScan P CmdData.startupBlock CmdData.startupBlkInfo
          (s := { s with dbVersion := s.rootPage RootPage.dbVersion }) hidle
        generalize db2StartupScan P CmdData.startupBlock CmdData.startupBlkInfo _ = r at hscan ⊢
        split
        · exact .inl (hscan.2 ‹_›)
        · exact hscan.1.after rfl rfl
      · exact .inl rfl
    · exact .inl rfl

@[simp] theorem tables_getProgressCheck (s : Dev) : (getProgressCheck s).tables = s.tables := by
  unfold getProgressCheck
  split
  · simp only
    split
    · rfl
    · split <;> rfl
  · rfl

/-- Block 0 holds a root page of the current format, for whose data blocks STARTUP
    scans. -/
def rootFormatted (s : Dev) : Prop :=
  (cmdInit P s).rootPage.read (RootPage.signature + 1) (AES_BLK_SIZE - 1) = rootSignature.drop 1 ∧
    (cmdInit P s).rootPage RootPage.signature = 2 ∧ (cmdInit P s).rootPage RootPage.dbVersion = 2

/-- The scan of STARTUP finds a uid twice and rewrites a block. -/
def scanRepairs (s : Dev) : Prop :=
  (scanPages P (block P s) s.tables
    (Scratch.ofCmdData s.cmdData CmdData.startupBlock CmdData.startupBlkInfo)).repair ≠ none

theorem db2StartupScan_fst (blockOff infoOff : Nat) (s : Dev) :
    (db2StartupScan P blockOff infoOff s).1 = true ↔
      (scanPages P (block P s) s.tables (Scratch.ofCmdData s.cmdData blockOff infoOff)).repair
        = none := by
  unfold db2StartupScan
  simp only
  split
  · rename_i h
    simp [h]
  · rename_i h
    simp [h]

/-- STARTUP gets to its scan with the root page read in and the state entered. -/
theorem startupCmd_eq (hcmd : s.activeCmd ≠ some .getProgress) :
    ∃ s₁ st, startupCmd P s = startupCmdIter P s₁ ∧
    flashView s₁ = flashView s ∧ s₁.cmdData = s.cmdData ∧ s₁.tables = s.tables ∧
    s₁.rootPage = (cmdInit P s).rootPage ∧ s₁.headerVersion = s₁.rootPage RootPage.signature ∧
    (st = .uninitialized ∨ st = .loggedOut ∧
      s₁.rootPage.read (RootPage.signature + 1) (AES_BLK_SIZE - 1) = rootSignature.drop 1) ∧
    s₁.toControl = (startupControl s.toControl).enter st := by
  unfold startupCmd
  simp only
  generalize hs₁ : cmdInit P _ = s₁
  have hinit : s₁.toControl = startupControl s.toControl ∧ flashView s₁ = flashView s ∧
      s₁.cmdData = s.cmdData ∧ s₁.tables = s.tables ∧
      s₁.rootPage = (cmdInit P s).rootPage := by
    rw [← hs₁]
    unfold startupControl
    split
    · exact ⟨rfl, rfl, rfl, rfl, rfl⟩
    · exact ⟨rfl, rfl, rfl, rfl, rfl⟩
  obtain ⟨hctl, hview, hdata, htables, hroot⟩ := hinit
  have hne : s₁.activeCmd ≠ some .getProgress := by
    rw [show s₁.activeCmd = (startupControl s.toControl).activeCmd from
      congrArg Control.activeCmd hctl]
    unfold startupControl
    split
    · exact nofun
    · exact hcmd
  have henter : ∀ st, (enterState st s₁).toControl = (startupControl s.toControl).enter st := by
    intro st
    rw [← hctl]
    exact congrArg Dev.toControl (getProgressCheck_of_ne (resetProgress st [] s₁) hne)
  have hsrc : ∀ st, SameSources s₁ (enterState st s₁) := fun st =>
    sameSources_enterProgressingState st [] s₁
  split
  · refine ⟨_, .uninitialized, rfl, ?_, ?_, ?_, ?_, rfl, .inl rfl, ?_⟩
    · exact (flashView_enterState .uninitialized s₁).trans hview
    · exact (hsrc _).cmdData.trans hdata
    · exact (tables_getProgressCheck _).trans htables
    · exact (hsrc _).rootPage.trans hroot
    · exact henter _
  · rename_i hsig
    rw [ne_eq, not_not] at hsig
    refine ⟨_, .loggedOut, rfl, ?_, ?_, ?_, ?_, rfl, .inr ⟨rfl, ?_⟩, ?_⟩
    · exact (flashView_enterState .loggedOut s₁).trans hview
    · exact (hsrc _).cmdData.trans hdata
    · exact (tables_getProgressCheck _).trans htables
    · exact (hsrc _).rootPage.trans hroot
    · have hkept : (enterState .loggedOut s₁).rootPage = s₁.rootPage := (hsrc _).rootPage
      exact (congrArg (Mem.read · _ _) hkept).trans hsig
    · exact henter _

/-- STARTUP makes a request only for a repair, and stays active for it only when
    the device was disconnected. -/
theorem asks_startupCmd (hidle : s.flashState = .idle) (hcmd : s.activeCmd = some .startup) :
    flashView (startupCmd P s) = flashView s ∨
      (rootFormatted P s ∧ scanRepairs P s) ∧ (∃ r, Lodged s (startupCmd P s) r) ∧
        (s.deviceState = .disconnected →
          (startupCmd P s).toControl.handlers = [.command .startup]) := by
  have hne : s.activeCmd ≠ some .getProgress := by simp [hcmd]
  obtain ⟨s₁, st, heq, hview, hdata, htables, hroot, hversion, hst, hctl⟩ :=
    startupCmd_eq P hne
  have hidle₁ : s₁.flashState = .idle := (flashState_of_view hview).trans hidle
  have hscan : AsksInPlace s₁ (startupCmdIter P s₁) ∧
      (¬ (rootFormatted P s ∧ scanRepairs P s) →
        flashView (startupCmdIter P s₁) = flashView s₁) := by
    refine ⟨asks_startupCmdIter P hidle₁, fun hno => ?_⟩
    have hpages : block P s₁ = block P s := block_congr (flash_of_view hview)
    have hclean : rootFormatted P s → (db2StartupScan P CmdData.startupBlock CmdData.startupBlkInfo
        { s₁ with dbVersion := s₁.rootPage RootPage.dbVersion }).1 = true := by
      intro hroot'
      have hscan : ¬ scanRepairs P s := fun h => hno ⟨hroot', h⟩
      unfold scanRepairs at hscan
      rw [ne_eq, not_not] at hscan
      refine (db2StartupScan_fst P _ _ _).mpr ?_
      rw [← hscan, ← hpages, ← hdata, ← htables]
      rfl
    have hview₁ := (asks_db2StartupScan P CmdData.startupBlock CmdData.startupBlkInfo
      (s := { s₁ with dbVersion := s₁.rootPage RootPage.dbVersion }) hidle₁).2
    unfold startupCmdIter
    simp only
    split
    · rfl
    · rename_i hstate
      split
      · rename_i hhead
        split
        · rename_i hdb
          have hsig : rootFormatted P s := by
            rcases hst with rfl | ⟨-, hsig⟩
            · exact absurd (congrArg Control.deviceState hctl) hstate
            · refine ⟨?_, ?_, ?_⟩
              · rw [← hroot]
                exact hsig
              · rw [← hroot, ← hversion]
                exact hhead
              · rw [← hroot]
                exact hdb
          have hok := hclean hsig
          have hkept := hview₁ hok
          generalize db2StartupScan P CmdData.startupBlock CmdData.startupBlkInfo _ = r
            at hok hkept ⊢
          rw [if_pos hok]
          exact hkept
        · rfl
      · rfl
  rw [heq]
  rcases hscan.1 with h | ⟨hctl₁, r, hr⟩
  · exact .inl (h.trans hview)
  · by_cases hrep : rootFormatted P s ∧ scanRepairs P s
    · refine .inr ⟨hrep, ⟨r, hr.after hview⟩, ?_⟩
      intro hdisc
      have hsame : startupControl s.toControl = s.toControl := if_neg (not_not_intro hdisc)
      rw [hsame] at hctl
      rw [hctl₁, hctl]
      refine handlers_command ?_ hcmd rfl
      rcases hst with rfl | ⟨rfl, -⟩
      · rfl
      · rfl
    · exact .inl ((hscan.2 hrep).trans hview)

/-! ### Commands that write or erase -/

theorem asks_writeBlockCmd (data : Mem) (dataLen : Int) (hidle : s.flashState = .idle) :
    AsksInPlace s (writeBlockCmd data dataLen s) := by
  unfold writeBlockCmd
  split
  · exact .inl rfl
  · exact .inr ⟨toControl_flashWritePage _ _ _ _, _, lodged_flashWritePage _ _ hidle (by decide)⟩

theorem asks_eraseBlockCmd (data : Mem) (dataLen : Int) (hidle : s.flashState = .idle) :
    AsksInPlace s (eraseBlockCmd data dataLen s) := by
  unfold eraseBlockCmd
  split
  · exact .inl rfl
  · exact .inr ⟨toControl_flashWritePage _ _ _ _, _, lodged_erase _ hidle⟩

theorem asks_writeFlashCmd (data : Mem) (dataLen : Int) (hidle : s.flashState = .idle) :
    AsksInPlace s (writeFlashCmd data dataLen s) := by
  unfold writeFlashCmd
  simp only
  split
  · exact .inl rfl
  · exact .inr ⟨toControl_flashWrite _ _ _ _, _, lodged_flashWrite _ _ hidle (by decide)⟩

/-- ERASE_FLASH_PAGES erases the first page and enters its state. -/
theorem asks_eraseFlashPagesCmd (data : Mem) (dataLen : Int) (hidle : s.flashState = .idle)
    (hcmd : commandOperation s.activeCmd = none) :
    flashView (eraseFlashPagesCmd data dataLen s) = flashView s ∨
      (∃ r, Lodged s (eraseFlashPagesCmd data dataLen s) r ∧ r.src = none) ∧
        (eraseFlashPagesCmd data dataLen s).toControl.handlers = [.erasePages] := by
  unfold eraseFlashPagesCmd
  simp only
  split
  · exact .inl rfl
  · split
    · exact .inl rfl
    · right
      generalize hs₁ : flashWritePage _ none 0 _ = s₁
      have hlodged : ∃ r, Lodged s s₁ r ∧ r.src = none := by
        rw [← hs₁]
        refine ⟨_, Lodged.after (lodged_erase _ ?_) ?_, rfl⟩
        · exact hidle
        · rfl
      have hctl : s₁.toControl = s.toControl := by
        rw [← hs₁, toControl_flashWritePage]
      obtain ⟨r, hr, hsrc⟩ := hlodged
      refine ⟨⟨r, hr.still ?_ ?_, hsrc⟩, ?_⟩
      · simp only [flashView_finishCommandResp, flashView_enterProgressingState]
      · exact (sameSources_enterProgressingState _ _ _).trans
          (sameSources_finishCommandMulti _ _ _ _ _)
      · have hreach : ∀ mx, s.toControl.Reaches .erasingPages
            (finishCommandResp .okay (enterProgressingState .erasingPages mx s₁)).toControl :=
          fun mx => Reaches.finish (reaches_enterProgressingState (hctl ▸ .same)) 0
        refine handlers_state ?_ ((hreach _).commandOperation hcmd)
        rw [(hreach _).deviceState]
        rfl

/-! ### Initialising -/

/-- The page is erased or has no records. -/
def BlankPage (page : Mem) : Prop :=
  headerOccupancy page = 0 ∨ headerPartSize page = INVALID_PART_SIZE

/-- The request writes the first contents of a data block, which have no records, or
    only erases it. -/
structure InitialWrite (n : Nat) (r : FlashRequest) : Prop where
  dest : r.dest = idBlk (MIN_DATA_BLOCK + n)
  contents : r.src = none ∨ r.src = some ⟨.cmdData, CmdData.initDataBlock⟩ ∧
    ∃ blk : Mem, r.held = blk.read 0 BLK_SIZE ∧ headerOccupancy blk = 0

/-- The parameters of INITIALIZE in front of the block it builds. -/
def SameInitParams (m m' : Mem) : Prop := ∀ a < CmdData.initDataBlock, m' a = m a

theorem doubleWords_blkSize : 8 * doubleWords BLK_SIZE = BLK_SIZE := by decide

theorem heldBytes_initBlock (s : Dev) (blk : Mem) :
    heldBytes (some ⟨.cmdData, CmdData.initDataBlock⟩) BLK_SIZE
      { s with cmdData := s.cmdData.setWindow CmdData.initDataBlock blk } =
        blk.read 0 BLK_SIZE := by
  have hread := Mem.read_setWindow s.cmdData CmdData.initDataBlock blk (8 * doubleWords BLK_SIZE)
  rw [← doubleWords_blkSize, ← hread]
  rfl

theorem lodged_writeInitialBlock (n : Nat) (hidle : s.flashState = .idle) :
    (∃ r, Lodged s (writeInitialBlock P n s) r ∧ InitialWrite n r) ∧
      SameInitParams s.cmdData (writeInitialBlock P n s).cmdData := by
  unfold writeInitialBlock
  split
  · rename_i blk hblk
    have hocc : headerOccupancy blk = 0 := by
      unfold db2InitializeBlock at hblk
      split at hblk
      · simp only [Option.some.injEq] at hblk
        rw [← hblk, headerOccupancy_setHeaderCrc]
        exact Mem.get16_put16 _ _ _
      · exact nomatch hblk
    have hobj : (⟨.cmdData, CmdData.initDataBlock⟩ : Ptr).object ≠ .cleartextTypeBuf := by decide
    have hlodged := lodged_flashWritePage (s := { s with
      cmdData := s.cmdData.setWindow CmdData.initDataBlock blk })
      (idBlk (MIN_DATA_BLOCK + n)) BLK_SIZE hidle hobj
    rw [heldBytes_initBlock s blk] at hlodged
    have hwrite : InitialWrite n ⟨idBlk (MIN_DATA_BLOCK + n),
        some ⟨.cmdData, CmdData.initDataBlock⟩, blk.read 0 BLK_SIZE, true⟩ := by
      refine ⟨rfl, .inr ⟨rfl, blk, ?_, hocc⟩⟩
      dsimp only
    refine ⟨⟨_, hlodged.after rfl, hwrite⟩, ?_⟩
    · intro a ha
      rw [cmdData_flashWritePage]
      exact Mem.setWindow_apply_of_lt _ _ ha
  · refine ⟨⟨_, lodged_erase _ hidle, ?_⟩, ?_⟩
    · exact ⟨rfl, .inl rfl⟩
    · intro a _
      rw [cmdData_flashWritePage]

/-- The number of data blocks INITIALIZE has written. -/
def blocksWritten (s : Dev) : Nat := s.cmdData.get32 CmdData.initDataBlocksWritten

/-- INITIALIZE has made up its root page. -/
def rootFinalized (s : Dev) : Prop := s.cmdData.get32 CmdData.initDataRootBlockFinalized ≠ 0

/-- What finalising the root page leaves of the parameters. -/
structure RootWrite (s s' : Dev) (r : FlashRequest) : Prop where
  due : blocksWritten s = NUM_DATA_BLOCKS ∧ ¬ rootFinalized s
  lodged : Lodged s s' r
  dest : r.dest = idBlk 0
  source : r.src = some ⟨.rootPage, 0⟩ ∧ r.held.length ≤ BLK_SIZE
  written : blocksWritten s' = blocksWritten s
  finalized : rootFinalized s'

theorem finalizeRootPageCheck_cases (hidle : s.flashState = .idle) :
    finalizeRootPageCheck P s = s ∨ ∃ r, RootWrite s (finalizeRootPageCheck P s) r := by
  unfold finalizeRootPageCheck
  split
  · rename_i h
    right
    obtain ⟨-, hfin, hwritten⟩ := h
    dsimp only
    generalize hs₁ : ({ s with
      cmdData := s.cmdData.put32 CmdData.initDataRootBlockFinalized 1
      rootPage := s.rootPage.write RootPage.signature rootSignature } : Dev) = s₁
    have hdata₁ : s₁.cmdData = s.cmdData.put32 CmdData.initDataRootBlockFinalized 1 := by
      rw [← hs₁]
    have hview₁ : flashView s₁ = flashView s := by
      rw [← hs₁]
      rfl
    have hkept : ∀ a < CmdData.initDataRand,
        (randFill Nat.xor CmdData.initDataRand (INIT_RAND_DATA_SZ / 4) s₁).cmdData a =
          s₁.cmdData a := fun a ha => cmdData_randFill_of_lt _ _ _ ha
    have hview₂ := flashView_randFill Nat.xor CmdData.initDataRand (INIT_RAND_DATA_SZ / 4) s₁
    generalize randFill Nat.xor CmdData.initDataRand (INIT_RAND_DATA_SZ / 4) s₁ = s₂
      at hkept hview₂ ⊢
    have hidle₂ : s₂.flashState = .idle :=
      ((flashState_of_view hview₂).trans (flashState_of_view hview₁)).trans hidle
    have hwritten₂ : s₂.cmdData.get32 CmdData.initDataBlocksWritten = blocksWritten s := by
      refine (Mem.get32_congr fun i hi => hkept _ ?_).trans ?_
      · simp only [CmdData.initDataBlocksWritten, CmdData.initDataRand]
        omega
      · rw [hdata₁]
        exact Mem.get32_put32_disjoint _ _ (.inr (by decide))
    have hfin₂ : s₂.cmdData.get32 CmdData.initDataRootBlockFinalized = 1 := by
      refine (Mem.get32_congr fun i hi => hkept _ ?_).trans ?_
      · simp only [CmdData.initDataRootBlockFinalized, CmdData.initDataRand]
        omega
      · rw [hdata₁]
        exact Mem.get32_put32 _ _ _
    have hdue : blocksWritten s = NUM_DATA_BLOCKS ∧ ¬ rootFinalized s :=
      ⟨hwritten, not_not_intro hfin⟩
    generalize hs₃ : ({ s₂ with rootPage := initialRootPage P s₂.cmdData s₂.rootPage } : Dev) = s₃
    have hdata₃ : s₃.cmdData = s₂.cmdData := by
      rw [← hs₃]
    have hview₃ : flashView s₃ = flashView s₂ := by
      rw [← hs₃]
      rfl
    have hidle₃ : s₃.flashState = .idle := (flashState_of_view hview₃).trans hidle₂
    have hobj : (⟨.rootPage, 0⟩ : Ptr).object ≠ .cleartextTypeBuf := by decide
    have hlodged := lodged_flashWritePage (idBlk 0) RootPage.size hidle₃ hobj
    have hdata₄ : (flashWritePage (idBlk 0) (some ⟨.rootPage, 0⟩) RootPage.size s₃).cmdData =
        s₂.cmdData := (cmdData_flashWritePage _ _ _ s₃).trans hdata₃
    refine ⟨_, hdue, hlodged.after (hview₃.trans (hview₂.trans hview₁)), rfl, ⟨rfl, ?_⟩, ?_, ?_⟩
    · rw [length_heldBytes]
      decide
    · unfold blocksWritten
      rw [hdata₄]
      exact hwritten₂
    · unfold rootFinalized
      rw [hdata₄]
      exact fun h => nomatch hfin₂.symm.trans h
  · exact .inl rfl

/-- The data pages in storage have no records. -/
def AllBlank (s : Dev) : Prop := ∀ i ∈ dataBlocks, BlankPage (block P s i)

/-- A scan of pages without records needs no repair. -/
theorem scan_of_allBlank (hblank : AllBlank P s) (t : Tables) (scratch : Scratch) :
    (scanPages P (block P s) t scratch).repair = none := by
  refine (scanPages_spec P ?_ scratch).1
  intro i hi _ _ hlive _ j hj
  exfalso
  have hcheck := (live_scanInfo P _ _).mp hlive
  unfold scanInfos at hj
  rw [scanInfo_of_crcCheck P hcheck] at hj
  rcases hblank i hi with h | h
  · simp only [h, Nat.zero_mod, Nat.not_lt_zero] at hj
  · exact crcCheck_partSize P hcheck h

/-- What a page of INITIALIZE that is written leads to. -/
inductive InitializeGoesOn (s s' : Dev) : Prop
  | block (r : FlashRequest) : Lodged s s' r → InitialWrite (blocksWritten s + 1) r →
      blocksWritten s + 1 < NUM_DATA_BLOCKS → blocksWritten s' = blocksWritten s + 1 →
      (rootFinalized s' ↔ rootFinalized s) → s.toControl.Clears s'.toControl →
      InitializeGoesOn s s'
  | random : flashView s' = flashView s → blocksWritten s + 1 = NUM_DATA_BLOCKS →
      blocksWritten s' = NUM_DATA_BLOCKS → (rootFinalized s' ↔ rootFinalized s) →
      s.toControl.Clears s'.toControl → InitializeGoesOn s s'
  | root (r : FlashRequest) (s₁ : Dev) : flashView s₁ = flashView s → RootWrite s₁ s' r →
      blocksWritten s + 1 = NUM_DATA_BLOCKS → s.toControl.Clears s'.toControl →
      InitializeGoesOn s s'
  | done (st : DeviceState) : flashView s' = flashView s → blocksWritten s = NUM_DATA_BLOCKS →
      stateOperation st = none → s.toControl.Reaches st s'.toControl → InitializeGoesOn s s'

theorem initializeGoesOn (hidle : s.flashState = .idle)
    (hle : blocksWritten s ≤ NUM_DATA_BLOCKS)
    (hblank : blocksWritten s = NUM_DATA_BLOCKS → AllBlank P s) :
    InitializeGoesOn s (initializingWriteComplete P s) := by
  have hnum : NUM_DATA_BLOCKS = 95 := by decide
  have hget : s.cmdData.getInt CmdData.initDataBlocksWritten = blocksWritten s := by
    unfold Mem.getInt blocksWritten
    rw [if_pos]
    unfold blocksWritten at hle
    omega
  unfold initializingWriteComplete
  simp only [hget]
  generalize hs₁ : getProgressCheck _ = s₁
  have hview : flashView s₁ = flashView s := by
    rw [← hs₁]
    exact flashView_getProgressCheck _
  have hctl : s.toControl.Clears s₁.toControl := by
    rw [← hs₁]
    refine Clears.trans ?_ (clears_getProgressCheck _)
    exact .same
  have hdata : s₁.cmdData =
      s.cmdData.putInt CmdData.initDataBlocksWritten (blocksWritten s + 1 : Nat) := by
    rw [← hs₁, cmdData_getProgressCheck]
    rfl
  have hidle₁ : s₁.flashState = .idle := (flashState_of_view hview).trans hidle
  have hwritten : blocksWritten s₁ = blocksWritten s + 1 := by
    have hput := Mem.get32_put32 s.cmdData CmdData.initDataBlocksWritten
      (((blocksWritten s + 1 : Nat) : Int) % 2 ^ 32).toNat
    refine (congrArg (Mem.get32 · CmdData.initDataBlocksWritten) hdata).trans (hput.trans ?_)
    omega
  have hfin : rootFinalized s₁ ↔ rootFinalized s := by
    unfold rootFinalized
    rw [hdata, Mem.get32_putInt_disjoint _ _ (.inl (by decide))]
  split
  · rename_i hlt
    obtain ⟨⟨r, hr, hinit⟩, hkept⟩ :=
      lodged_writeInitialBlock P (blocksWritten s + 1 : Int).toNat hidle₁
    have hto : (blocksWritten s + 1 : Int).toNat = blocksWritten s + 1 := by omega
    rw [hto] at hinit hr hkept ⊢
    have hfields : ∀ off, off + 4 ≤ CmdData.initDataBlock →
        (writeInitialBlock P (blocksWritten s + 1) s₁).cmdData.get32 off = s₁.cmdData.get32 off :=
      fun off hoff => Mem.get32_congr fun i hi => hkept _ (by omega)
    refine .block r (hr.after hview) hinit (by omega) ?_ ?_ ?_
    · exact (hfields _ (by decide)).trans hwritten
    · rw [← hfin]
      unfold rootFinalized
      rw [hfields _ (by decide)]
    · rw [toControl_writeInitialBlock]
      exact hctl
  · rename_i hge
    split
    · rename_i heq
      have hlast : blocksWritten s + 1 = NUM_DATA_BLOCKS := by omega
      rcases finalizeRootPageCheck_cases P hidle₁ with h | ⟨r, hr⟩
      · rw [h]
        exact .random hview hlast (hwritten.trans hlast) hfin hctl
      · refine .root r s₁ hview hr hlast ?_
        rw [toControl_finalizeRootPageCheck]
        exact hctl
    · rename_i hne
      have hall : blocksWritten s = NUM_DATA_BLOCKS := by omega
      have hblank₁ : AllBlank P s₁ := by
        unfold AllBlank
        rw [block_congr (flash_of_view hview)]
        exact hblank hall
      generalize hs₂ : ({ s₁ with headerVersion := 2, dbVersion := 2 } : Dev) = s₂
      have hblank₂ : AllBlank P s₂ := hs₂ ▸ hblank₁
      have hview₂ : flashView s₂ = flashView s := hs₂ ▸ hview
      have hctl₂ : s.toControl.Clears s₂.toControl := hs₂ ▸ hctl
      have hok : (db2StartupScan P CmdData.initDataBlock CmdData.initDataBlkInfo s₂).1 = true :=
        (db2StartupScan_fst P _ _ _).mpr (scan_of_allBlank P hblank₂ _ _)
      have hidle₂ : s₂.flashState = .idle := (flashState_of_view hview₂).trans hidle
      have hscan := (asks_db2StartupScan P CmdData.initDataBlock CmdData.initDataBlkInfo
        hidle₂).2 hok
      have hctl₃ := toControl_db2StartupScan P s₂ CmdData.initDataBlock CmdData.initDataBlkInfo
      generalize db2StartupScan P CmdData.initDataBlock CmdData.initDataBlkInfo s₂ = res
        at hok hscan hctl₃ ⊢
      rw [if_pos hok]
      refine .done .loggedOut ?_ hall rfl (reaches_enterState ?_)
      · exact (flashView_enterState _ _).trans (hscan.trans hview₂)
      · rw [hctl₃]
        exact hctl₂

/-- What a page of WIPE that is erased leads to. -/
theorem wipingWriteComplete_asks (hidle : s.flashState = .idle) :
    flashView (wipingWriteComplete s) = flashView s ∧
        s.toControl.Reaches .uninitialized (wipingWriteComplete s).toControl ∨
      (∃ r, Lodged s (wipingWriteComplete s) r ∧ r.src = none) ∧
        s.toControl.Clears (wipingWriteComplete s).toControl := by
  unfold wipingWriteComplete
  simp only
  generalize hs₁ : getProgressCheck _ = s₁
  have hview : flashView s₁ = flashView s := by
    rw [← hs₁]
    exact flashView_getProgressCheck _
  have hctl : s.toControl.Clears s₁.toControl := by
    rw [← hs₁]
    refine Clears.trans ?_ (clears_getProgressCheck _)
    exact .same
  have hidle₁ : s₁.flashState = .idle := (flashState_of_view hview).trans hidle
  split
  · exact .inl ⟨(flashView_enterState _ _).trans hview, reaches_enterState hctl⟩
  · refine .inr ⟨⟨_, (lodged_erase _ hidle₁).after hview, rfl⟩, ?_⟩
    rw [toControl_flashWritePage]
    exact hctl

/-- What a page that is erased leads to. -/
theorem erasingPagesWriteComplete_asks (hidle : s.flashState = .idle) :
    flashView (erasingPagesWriteComplete s) = flashView s ∧
        s.toControl.Reaches .firmwareUpdate (erasingPagesWriteComplete s).toControl ∨
      (∃ r, Lodged s (erasingPagesWriteComplete s) r ∧ r.src = none) ∧
        s.toControl.Clears (erasingPagesWriteComplete s).toControl := by
  unfold erasingPagesWriteComplete
  simp only
  generalize hs₁ : getProgressCheck _ = s₁
  have hview : flashView s₁ = flashView s := by
    rw [← hs₁]
    exact flashView_getProgressCheck _
  have hctl : s.toControl.Clears s₁.toControl := by
    rw [← hs₁]
    refine Clears.trans ?_ (clears_getProgressCheck _)
    exact .same
  have hidle₁ : s₁.flashState = .idle := (flashState_of_view hview).trans hidle
  split
  · exact .inl ⟨(flashView_enterState _ _).trans hview, reaches_enterState hctl⟩
  · refine .inr ⟨⟨_, (lodged_erase _ hidle₁).after hview, rfl⟩, ?_⟩
    rw [toControl_flashWritePage]
    exact hctl

/-! ### Presses -/

/-- A confirmed INITIALIZE writes the first data block. -/
structure InitializeStarts (s s' : Dev) (r : FlashRequest) : Prop where
  lodged : Lodged s s' r
  write : InitialWrite 0 r
  written : blocksWritten s' = 0
  finalized : ¬ rootFinalized s'
  control : s.toControl.Reaches .initializing s'.toControl

theorem initializeStarts (hidle : s.flashState = .idle) :
    ∃ r, InitializeStarts s (initializeCmdComplete P s) r := by
  have hcontrol := reaches_initializeCmdComplete P s
  unfold initializeCmdComplete at hcontrol ⊢
  dsimp only at hcontrol ⊢
  generalize hm : Mem.put32 _ CmdData.initDataRootBlockFinalized 0 = m at hcontrol ⊢
  have hwritten : m.get32 CmdData.initDataBlocksWritten = 0 := by
    rw [← hm, Mem.get32_put32_disjoint _ _ (.inr (by decide)),
      Mem.get32_put32_disjoint _ _ (.inr (by decide))]
    exact Mem.get32_put32 _ _ _
  have hfin : m.get32 CmdData.initDataRootBlockFinalized = 0 := by
    rw [← hm]
    exact Mem.get32_put32 _ _ _
  obtain ⟨⟨r, hr, hinit⟩, hkept⟩ := lodged_writeInitialBlock P (s := { s with cmdData := m }) 0 hidle
  generalize writeInitialBlock P 0 { s with cmdData := m } = s₁ at hr hkept hcontrol ⊢
  generalize hs₂ : ({ finishCommandResp .okay s₁ with cmdData := _ } : Dev) = s₂ at hcontrol ⊢
  have hview₂ : flashView s₂ = flashView s₁ := by
    rw [← hs₂]
    rfl
  have hdata₂ : s₂.cmdData = s₁.cmdData.putInt CmdData.initDataRandAvailInit
      (randAvail (finishCommandResp .okay s₁)) := by
    rw [← hs₂]
    rfl
  have hfields : ∀ off, 8 ≤ off → off + 4 ≤ CmdData.initDataBlock →
      s₂.cmdData.get32 off = m.get32 off := by
    intro off h8 hoff
    have hbehind : CmdData.initDataRandAvailInit + 4 ≤ off := h8
    rw [hdata₂, Mem.get32_putInt_disjoint _ _ (.inr hbehind)]
    exact Mem.get32_congr fun i hi => hkept _ (by omega)
  have hlodged₂ : Lodged s s₂ r := by
    have hr₁ : Lodged s s₁ r := hr.after rfl
    refine hr₁.before hview₂ ?_
    rintro p hp
    rcases hinit.contents with h | ⟨h, -⟩
    · rw [h] at hp
      exact nomatch hp
    · rw [h] at hp
      cases hp
      unfold Dev.deref Dev.object
      simp only
      rw [hdata₂]
      exact Mem.read_congr fun i _ => Mem.put32_apply_of_notMem _ _ (.inr (by
        simp only [CmdData.initDataRandAvailInit, CmdData.initDataBlock]
        omega))
  refine ⟨r, hlodged₂.still ?_ ?_, hinit, ?_, ?_, hcontrol⟩
  · exact flashView_enterProgressingState _ _ _
  · exact sameSources_enterProgressingState _ _ _
  · unfold blocksWritten
    rw [(sameSources_enterProgressingState _ _ s₂).cmdData, hfields _ (by decide) (by decide)]
    exact hwritten
  · unfold rootFinalized
    rw [(sameSources_enterProgressingState _ _ s₂).cmdData, hfields _ (by decide) (by decide)]
    exact not_not_intro hfin

/-- A short press makes a request for WRITE_CLEARTEXT_PASSWORD and UPDATE_UID. -/
theorem buttonPressed_asks (hidle : s.flashState = .idle) :
    flashView (buttonPressed P s) = flashView s ∨
      (∃ r, Lodged s (buttonPressed P s) r) ∧ (buttonPressed P s).toControl = s.toControl ∧
        ∃ cmd, s.activeCmd = some cmd ∧ awaitsWrite cmd = true ∧ Operation.of cmd = .command cmd := by
  unfold buttonPressed
  split
  · exact .inl rfl
  · refine .inr ⟨⟨_, Lodged.after (lodged_flashWritePage _ _ ?_ nofun) ?_⟩, ?_, _, ‹_›, rfl, rfl⟩
    · exact hidle
    · rfl
    · simp only [toControl_flashWritePage]
  · split
    · simp only
      split
      · refine .inl ((flashView_loginCmdIter P _).trans ?_)
        rfl
      · exact .inl (flashView_loginPressed _ _)
    · exact .inl rfl
  · split
    · exact .inl (flashView_loginPressed _ _)
    · exact .inl rfl
  · rcases asks_updateUidCmdComplete P hidle with h | ⟨hctl, hr⟩
    · exact .inl h
    · exact .inr ⟨hr, hctl, _, ‹_›, rfl, rfl⟩
  · exact .inl rfl
  · exact .inl rfl
  · exact .inl rfl

/-- What a long press asks for. -/
inductive LongPressAsks (s s' : Dev) : Prop
  | nothing : flashView s' = flashView s → LongPressAsks s s'
  | command (cmd : Command) : s.activeCmd = some cmd → awaitsWrite cmd = true →
      Operation.of cmd = .command cmd → s'.toControl = s.toControl → (∃ r, Lodged s s' r) →
      LongPressAsks s s'
  | wipe : s.activeCmd = some .wipe → (∃ r, Lodged s s' r ∧ r.src = none) →
      s.toControl.Reaches .wiping s'.toControl → LongPressAsks s s'
  | init (r : FlashRequest) : s.activeCmd = some .initializeDevice →
      InitializeStarts s s' r → LongPressAsks s s'

theorem longButtonPressed_asks (hidle : s.flashState = .idle) :
    LongPressAsks s (longButtonPressed P s) := by
  unfold longButtonPressed
  split
  · exact .nothing (flashView_readAllUidsCmdIter P s)
  · rcases asks_updateUidCmdComplete P hidle with h | ⟨hctl, hr⟩
    · exact .nothing h
    · exact .command _ ‹_› rfl rfl hctl hr
  · exact .nothing ((flashView_enterState _ _).trans rfl)
  · rename_i hcmd
    simp only
    generalize hs₁ : ({ finishCommandResp .okay s with cmdData := _ } : Dev) = s₁
    have hview : flashView s₁ = flashView s := by
      rw [← hs₁]
      rfl
    have hctl : s.toControl.Clears s₁.toControl := by
      rw [← hs₁]
      exact clears_finish _ _
    have hlodged := lodged_erase (idBlk 0) ((flashState_of_view hview).trans hidle)
    refine .wipe hcmd ⟨_, (hlodged.after hview).still ?_ ?_, rfl⟩ ?_
    · exact flashView_enterProgressingState _ _ _
    · exact sameSources_enterProgressingState _ _ _
    · refine reaches_enterProgressingState ?_
      rw [toControl_flashWritePage]
      exact hctl
  · exact .nothing ((flashView_enterState _ _).trans rfl)
  · exact .nothing ((flashView_enterState _ _).trans rfl)
  · obtain ⟨r, hr⟩ := initializeStarts P hidle
    exact .init r ‹_› hr
  · split
    · refine .command _ ‹_› rfl rfl ?_ ⟨_, Lodged.after (lodged_flashWritePage _ _ ?_ nofun) ?_⟩
      · simp only [toControl_flashWritePage]
      · exact hidle
      · rfl
    · exact .nothing rfl
  · exact .nothing rfl

/-! ### State functions -/

/-- What an accepted packet with the command `cmd` asks for. -/
inductive PacketAsks (cmd : Command) (s s' : Dev) : Prop
  | nothing : flashView s' = flashView s → PacketAsks cmd s s'
  | command : stateOperation s.deviceState = none → awaitsWrite cmd = true →
      Operation.of cmd = .command cmd → s'.toControl = s.toControl → (∃ r, Lodged s s' r) →
      PacketAsks cmd s s'
  | erase : cmd = .eraseFlashPages → s'.toControl.handlers = [.erasePages] →
      (∃ r, Lodged s s' r ∧ r.src = none) → PacketAsks cmd s s'

theorem PacketAsks.of_inPlace (h : AsksInPlace s s') (hst : stateOperation s.deviceState = none)
    (haw : awaitsWrite cmd = true) (hop : Operation.of cmd = .command cmd) :
    PacketAsks cmd s s' := by
  rcases h with h | ⟨hctl, hr⟩
  · exact .nothing h
  · exact .command hst haw hop hctl hr

variable {data : Mem} {dataLen : Int}

theorem progressOnlyState_asks (h : progressOnlyState cmd data dataLen s = .handled s') :
    flashView s' = flashView s := by
  unfold progressOnlyState at h
  split at h
  · cases h
    exact flashView_getProgressCmd _ _ s
  · cases h

theorem uninitializedState_asks (h : uninitializedState P cmd data dataLen s = .handled s') :
    flashView s' = flashView s := by
  unfold uninitializedState at h
  split at h
  · cases h
    exact flashView_getProgressCmd _ _ s
  · cases h
    rfl
  · cases h
    exact flashView_initializeCmd _ _ s
  · cases h
    rfl
  · cases h
    exact flashView_enterMobileModeCmd s
  · split at h
    · cases h
      rfl
    · cases h
      rfl
  · cases h

theorem loggedOutState_asks (h : loggedOutState P cmd data dataLen s = .handled s') :
    flashView s' = flashView s := by
  unfold loggedOutState at h
  split at h
  · cases h
    exact flashView_getProgressCmd _ _ s
  · cases h
    exact flashView_changeMasterPasswordCmd P _ _ s
  · cases h
    exact flashView_initializeCmd _ _ s
  · cases h
    rfl
  · cases h
    rfl
  · cases h
    rfl
  · cases h
    exact flashView_loginCmd _ _ s
  · cases h
    exact flashView_loginTokenCmd _ _ s
  · cases h
    rfl
  · cases h
    exact flashView_enterMobileModeCmd s
  · cases h

theorem asks_updateUidPacket (hidle : s.flashState = .idle) :
    AsksInPlace s (updateUidPacket P cmd data dataLen s) := by
  unfold updateUidPacket
  simp only
  split
  · exact .inl rfl
  · exact asks_updateUidCmd P hidle

theorem loggedInState_asks (hidle : s.flashState = .idle)
    (hst : stateOperation s.deviceState = none)
    (h : loggedInState P cmd data dataLen s = .handled s') : PacketAsks cmd s s' := by
  unfold loggedInState at h
  split at h
  · cases h
    exact .nothing (flashView_getProgressCmd _ _ s)
  · cases h
    exact .nothing (flashView_changeMasterPasswordCmd P _ _ s)
  · cases h
    exact .nothing rfl
  · cases h
    exact .nothing (flashView_getRandBitsCmd _ _ s)
  · cases h
    unfold readUidPacket
    split
    · exact .nothing rfl
    · exact .nothing (flashView_readUidCmd P _ _ s)
  · cases h
    exact .of_inPlace (asks_updateUidPacket P hidle) hst rfl rfl
  · cases h
    exact .of_inPlace (asks_updateUidPacket P hidle) hst rfl rfl
  · cases h
    unfold readAllUidsPacket
    split
    · exact .nothing rfl
    · exact .nothing (flashView_readAllUidsCmd P _ s)
  · cases h
    exact .nothing (flashView_typeCmd _ _ s)
  · cases h
    exact .nothing rfl
  · cases h
    exact .nothing ((flashView_finishCommandResp _ _).trans (flashView_enterState _ s))
  · cases h
    exact .nothing rfl
  · cases h
    exact .nothing rfl
  · cases h
    exact .nothing (flashView_readCleartextPassword _ _ s)
  · cases h
    exact .nothing (flashView_writeCleartextPassword _ _ s)
  · cases h

theorem backingUpDeviceState_asks (h : backingUpDeviceState P cmd data dataLen s = .handled s') :
    flashView s' = flashView s := by
  unfold backingUpDeviceState at h
  split at h
  · cases h
    exact flashView_readBlockCmd P _ _ s
  · cases h
    exact (flashView_finishCommandResp _ _).trans (flashView_enterState _ s)
  · cases h

theorem restoringDeviceState_asks (hidle : s.flashState = .idle)
    (hst : stateOperation s.deviceState = none)
    (h : restoringDeviceState cmd data dataLen s = .handled s') : PacketAsks cmd s s' := by
  unfold restoringDeviceState at h
  split at h
  · cases h
    exact .of_inPlace (asks_writeBlockCmd _ _ hidle) hst rfl rfl
  · cases h
    exact .of_inPlace (asks_eraseBlockCmd _ _ hidle) hst rfl rfl
  · cases h
    exact .nothing ((flashView_finishCommandResp _ _).trans (flashView_enterState _ s))
  · cases h

theorem firmwareUpdateState_asks (hidle : s.flashState = .idle)
    (hst : stateOperation s.deviceState = none) (hactive : s.activeCmd = some cmd)
    (h : firmwareUpdateState cmd data dataLen s = .handled s') : PacketAsks cmd s s' := by
  unfold firmwareUpdateState at h
  split at h
  · cases h
    have hno : commandOperation s.activeCmd = none := by
      rw [hactive]
      rfl
    rcases asks_eraseFlashPagesCmd data dataLen hidle hno with h | ⟨hr, hctl⟩
    · exact .nothing h
    · exact .erase rfl hctl hr
  · cases h
    exact .of_inPlace (asks_writeFlashCmd _ _ hidle) hst rfl rfl
  · cases h
  · cases h

/-- **What an accepted packet asks for**, with an idle driver. -/
theorem stateFunction_asks (hidle : s.flashState = .idle) (hactive : s.activeCmd = some cmd)
    (h : stateFunction P cmd data dataLen s = .handled s') : PacketAsks cmd s s' := by
  unfold stateFunction at h
  split at h
  · exact .nothing (uninitializedState_asks P h)
  · exact .nothing (progressOnlyState_asks h)
  · exact .nothing (progressOnlyState_asks h)
  · exact .nothing (backingUpDeviceState_asks P h)
  · exact restoringDeviceState_asks hidle (by simp_all [stateOperation]) h
  · exact .nothing (progressOnlyState_asks h)
  · exact firmwareUpdateState_asks hidle (by simp_all [stateOperation]) hactive h
  · exact .nothing (loggedOutState_asks P h)
  · exact loggedInState_asks P hidle (by simp_all [stateOperation]) h
  all_goals cases h

/-- A packet that is accepted in a long operation asks for progress, and touches
    nothing the driver needs. -/
theorem stateFunction_running (hst : stateOperation s.deviceState ≠ none)
    (hactive : s.activeCmd = some cmd)
    (h : stateFunction P cmd data dataLen s = .handled s') : Aside s s' := by
  have hprogress : progressOnlyState cmd data dataLen s = .handled s' := by
    unfold stateFunction at h
    split at h
    all_goals first | exact h | simp_all [stateOperation]
  unfold progressOnlyState at hprogress
  split at hprogress
  · cases hprogress
    have hno : commandOperation s.activeCmd = none := by
      rw [hactive]
      rfl
    have hclears := clears_getProgressCmd s data dataLen
    refine ⟨flashView_getProgressCmd _ _ s, sameSources_getProgressCmd _ _ s,
      hclears.deviceState, ?_⟩
    rw [hno]
    exact hclears.commandOperation hno
  · cases hprogress

end SignetBase.Firmware
