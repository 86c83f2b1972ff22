/-
  SignetBase/Firmware/Control.lean
  ================================
  **The control part of the device state, and what each function does to it.**

  Which command is active, which state the device is in and which presses it
  waits for are the eight fields of `Control`.  There is one lemma for each
  function of the model that says what it does to them; the temporal properties
  are proved from these lemmas and never unfold a handler that only moves data.
-/
import SignetBase.Firmware.Events

namespace SignetBase.Firmware

namespace Control

/-- The effect of a response that announces `mr` more messages. -/
def finish (c : Control) (mr : Int) : Control :=
  { c with activeCmd := if mr = 0 ∧ c.cmdMessagesRemaining = 0 then none else c.activeCmd }

/-- The effect of entering a device state. -/
def enter (c : Control) (st : DeviceState) : Control := { c with deviceState := st }

/-- `c'` is `c`, except that the active command may have been cleared. -/
inductive Clears (c : Control) : Control → Prop where
  | same : Clears c c
  | cleared : Clears c { c with activeCmd := none }

variable {c c' c'' : Control}

theorem clears_finish (c : Control) (mr : Int) : c.Clears (c.finish mr) := by
  unfold finish
  split
  · exact .cleared
  · exact .same

/-- A command that outlives an answer without more messages has announced more
    messages itself. -/
theorem active_finish {cmd : Command} (h : (c.finish 0).activeCmd = some cmd) :
    c.activeCmd = some cmd ∧ c.cmdMessagesRemaining ≠ 0 := by
  by_cases hmr : c.cmdMessagesRemaining = 0
  · simp [finish, hmr] at h
  · simp only [finish, hmr, and_false, if_false] at h
    exact ⟨h, hmr⟩

theorem Clears.trans (h : c.Clears c') (h' : c'.Clears c'') : c.Clears c'' := by
  cases h with
  | same => exact h'
  | cleared =>
    cases h' with
    | same => exact .cleared
    | cleared => exact .cleared

theorem Clears.finish (h : c.Clears c') (mr : Int) : c.Clears (c'.finish mr) :=
  h.trans (clears_finish c' mr)

theorem Clears.deviceState (h : c.Clears c') : c'.deviceState = c.deviceState := by
  cases h <;> rfl

theorem Clears.activeCmd (h : c.Clears c') : c'.activeCmd = c.activeCmd ∨ c'.activeCmd = none := by
  cases h with
  | same => exact .inl rfl
  | cleared => exact .inr rfl

/-- `c'` is reached from `c` by entering the state `st`; on the way the active
    command may have been answered. -/
def Reaches (c : Control) (st : DeviceState) (c' : Control) : Prop :=
  ∃ c₁, c.Clears c₁ ∧ (c₁.enter st).Clears c'

theorem Clears.eq_of_active (h : c.Clears c') (hne : c'.activeCmd ≠ none) : c' = c := by
  cases h with
  | same => rfl
  | cleared => exact absurd rfl hne

theorem Reaches.deviceState {st : DeviceState} (h : c.Reaches st c') : c'.deviceState = st := by
  obtain ⟨c₁, -, h⟩ := h
  exact h.deviceState

theorem Reaches.activeCmd {st : DeviceState} (h : c.Reaches st c') :
    c'.activeCmd = c.activeCmd ∨ c'.activeCmd = none := by
  obtain ⟨c₁, h₁, h₂⟩ := h
  rcases h₂.activeCmd with h | h
  · rcases h₁.activeCmd with h' | h'
    · exact .inl (h.trans h')
    · exact .inr (h.trans h')
  · exact .inr h

theorem Clears.cmdIterCount (h : c.Clears c') : c'.cmdIterCount = c.cmdIterCount := by
  cases h <;> rfl

theorem Reaches.cmdIterCount {st : DeviceState} (h : c.Reaches st c') :
    c'.cmdIterCount = c.cmdIterCount := by
  obtain ⟨c₁, h₁, h₂⟩ := h
  exact h₂.cmdIterCount.trans h₁.cmdIterCount

theorem Reaches.trans {st : DeviceState} (h : c.Reaches st c') (h' : c'.Clears c'') :
    c.Reaches st c'' := by
  obtain ⟨c₁, h₁, h₂⟩ := h
  exact ⟨c₁, h₁, h₂.trans h'⟩

theorem Reaches.finish {st : DeviceState} (h : c.Reaches st c') (mr : Int) :
    c.Reaches st (c'.finish mr) :=
  h.trans (clears_finish c' mr)

end Control

open Control

variable (P : Platform) (s : Dev)

/-! ### Responses, states, waits -/

@[simp] theorem toControl_finishCommandMulti (resp : CommandResponse) (mr : Int)
    (payload : Option Bytes) (n : Nat) :
    (finishCommandMulti resp mr payload n s).toControl = s.toControl.finish mr := rfl

@[simp] theorem toControl_finishCommand (resp : CommandResponse) (payload : Bytes) :
    (finishCommand resp payload s).toControl = s.toControl.finish 0 := rfl

@[simp] theorem toControl_finishCommandResp (resp : CommandResponse) :
    (finishCommandResp resp s).toControl = s.toControl.finish 0 := rfl

/-- Progress is reported to GET_PROGRESS only. -/
theorem getProgressCheck_of_ne (h : s.activeCmd ≠ some .getProgress) : getProgressCheck s = s :=
  if_neg h

theorem clears_getProgressCheck : s.toControl.Clears (getProgressCheck s).toControl := by
  unfold getProgressCheck
  split
  · simp only
    split
    · exact clears_finish _ _
    · split
      · exact clears_finish _ _
      · exact .same
  · exact .same

@[simp] theorem toControl_resetProgress (st : DeviceState) (mx : List Int) :
    (resetProgress st mx s).toControl = s.toControl.enter st := rfl

theorem clears_enterProgressingState (st : DeviceState) (mx : List Int) :
    Clears (s.toControl.enter st) (enterProgressingState st mx s).toControl := by
  rw [← toControl_resetProgress s st mx]
  exact clears_getProgressCheck _

theorem clears_enterState (st : DeviceState) :
    Clears (s.toControl.enter st) (enterState st s).toControl :=
  clears_enterProgressingState s st []

theorem reaches_enterProgressingState {c : Control} {st : DeviceState} {mx : List Int} {s : Dev}
    (h : c.Clears s.toControl) : c.Reaches st (enterProgressingState st mx s).toControl :=
  ⟨_, h, clears_enterProgressingState s st mx⟩

theorem reaches_enterState {c : Control} {st : DeviceState} {s : Dev}
    (h : c.Clears s.toControl) : c.Reaches st (enterState st s).toControl :=
  reaches_enterProgressingState h

@[simp] theorem toControl_beginButtonPressWait :
    (beginButtonPressWait s).toControl = { s.toControl with waitingForButtonPress := true } := rfl

@[simp] theorem toControl_beginLongButtonPressWait :
    (beginLongButtonPressWait s).toControl = { s.toControl with waitingForLongButtonPress := true } :=
  rfl

@[simp] theorem toControl_endButtonPressWait :
    (endButtonPressWait s).toControl = { s.toControl with waitingForButtonPress := false } := rfl

@[simp] theorem toControl_endLongButtonPressWait :
    (endLongButtonPressWait s).toControl = { s.toControl with waitingForLongButtonPress := false } :=
  rfl

/-! ### Functions that move data -/

@[simp] theorem toControl_emit (o : Output) : (s.emit o).toControl = s.toControl := rfl

@[simp] theorem toControl_setCmdData (m : Mem) :
    Dev.toControl { s with cmdData := m } = s.toControl := rfl

@[simp] theorem toControl_setRootPage (m : Mem) :
    Dev.toControl { s with rootPage := m } = s.toControl := rfl

@[simp] theorem toControl_flashWritePage (dest : Nat) (src : Option Ptr) (count : Int) :
    (flashWritePage dest src count s).toControl = s.toControl := by
  unfold flashWritePage
  split <;> rfl

@[simp] theorem toControl_flashWrite (dest : Nat) (src : Ptr) (count : Int) :
    (flashWrite dest src count s).toControl = s.toControl := by
  unfold flashWrite
  split <;> rfl

@[simp] theorem toControl_randGet : (randGet s).2.toControl = s.toControl := rfl

@[simp] theorem toControl_randFill (f : Nat → Nat → Nat) (off n : Nat) :
    (randFill f off n s).toControl = s.toControl := by
  induction n generalizing off s with
  | zero => rfl
  | succ n ih => exact (ih _ _).trans rfl

@[simp] theorem toControl_deriveIv (id off : Nat) : (deriveIv id off s).toControl = s.toControl := rfl

@[simp] theorem toControl_updateUidCmdComplete :
    (updateUidCmdComplete P s).toControl = s.toControl :=
  toControl_flashWritePage _ _ _ _

@[simp] theorem toControl_writeInitialBlock (n : Nat) :
    (writeInitialBlock P n s).toControl = s.toControl := by
  unfold writeInitialBlock
  split <;> exact toControl_flashWritePage _ _ _ _

@[simp] theorem toControl_finalizeRootPageCheck :
    (finalizeRootPageCheck P s).toControl = s.toControl := by
  unfold finalizeRootPageCheck
  split
  · simp only [toControl_flashWritePage, toControl_randFill]
  · rfl

@[simp] theorem toControl_db2StartupScan (blockOff infoOff : Nat) :
    (db2StartupScan P blockOff infoOff s).2.toControl = s.toControl := by
  unfold db2StartupScan
  simp only
  split
  · rfl
  · simp only
    split
    · exact toControl_flashWritePage _ _ _ _
    · rfl

@[simp] theorem toControl_cmdInit : (cmdInit P s).toControl = s.toControl := rfl

@[simp] theorem toControl_programDoubleWord : (programDoubleWord s).toControl = s.toControl := by
  unfold programDoubleWord
  split <;> rfl

@[simp] theorem toControl_programLoop (n : Nat) (err : Option Nat) :
    (programLoop n err s).2.toControl = s.toControl := by
  induction n generalizing err s with
  | zero => rfl
  | succ n ih =>
    unfold programLoop
    split
    · rfl
    · simp only
      split
      · exact toControl_programDoubleWord s
      · exact (ih _ _).trans (toControl_programDoubleWord s)

/-! ### Record commands -/

/-- UPDATE_UID(S): refused for want of space, or written at once, or waiting for
    the press that was asked for. -/
theorem toControl_updateUidCmd (uid : Nat) (data : Bytes) (sz pressType : Nat) :
    (updateUidCmd P uid data sz pressType s).toControl = s.toControl.finish 0 ∨
      pressType = 0 ∧ (updateUidCmd P uid data sz pressType s).toControl = s.toControl ∨
      pressType = 1 ∧ (updateUidCmd P uid data sz pressType s).toControl =
        { s.toControl with waitingForButtonPress := true } ∨
      pressType ≠ 0 ∧ pressType ≠ 1 ∧ (updateUidCmd P uid data sz pressType s).toControl =
        { s.toControl with waitingForLongButtonPress := true } := by
  unfold updateUidCmd
  simp only
  split
  · exact .inl rfl
  · split
    · exact .inr (.inl ⟨‹_›, toControl_updateUidCmdComplete P _⟩)
    · split
      · exact .inr (.inr (.inl ⟨‹_›, rfl⟩))
      · exact .inr (.inr (.inr ⟨‹_›, ‹_›, rfl⟩))

theorem clears_updateUidCmdWriteFinished :
    s.toControl.Clears (updateUidCmdWriteFinished P s).toControl := by
  unfold updateUidCmdWriteFinished
  simp only
  split
  · split
    · rw [toControl_flashWritePage]
      exact .same
    · exact clears_finish _ _
  · exact clears_finish _ _

@[simp] theorem toControl_readUidCmdComplete :
    (readUidCmdComplete P s).toControl = s.toControl.finish 0 := rfl

/-- READ_UID: answered, or waiting for a short press because it is unmasked. -/
theorem toControl_readUidCmd (uid masked : Nat) :
    (readUidCmd P uid masked s).toControl = s.toControl.finish 0 ∨
      masked = 0 ∧ (readUidCmd P uid masked s).toControl =
        { s.toControl with waitingForButtonPress := true } := by
  unfold readUidCmd
  simp only
  split
  · exact .inl rfl
  · split
    · exact .inr ⟨‹_›, rfl⟩
    · exact .inl rfl

/-- One round of READ_ALL_UIDS: a response, or an endless loop. -/
theorem toControl_readAllUidsCmdIter :
    (∃ mr, (readAllUidsCmdIter P s).toControl = s.toControl.finish mr) ∨
      (readAllUidsCmdIter P s).toControl = { s.toControl with hung := true } := by
  unfold readAllUidsCmdIter
  simp only
  split
  · exact .inl ⟨_, rfl⟩
  · split
    · exact .inr rfl
    · exact .inl ⟨_, rfl⟩

/-- READ_ALL_UIDS: a first round, or waiting for a long press because it is
    unmasked. -/
theorem toControl_readAllUidsCmd (masked : Nat) :
    ((∃ mr, (readAllUidsCmd P masked s).toControl = s.toControl.finish mr) ∨
      (readAllUidsCmd P masked s).toControl = { s.toControl with hung := true }) ∨
      masked = 0 ∧ (readAllUidsCmd P masked s).toControl =
        { s.toControl with waitingForLongButtonPress := true } := by
  unfold readAllUidsCmd
  simp only
  split
  · exact .inr ⟨‹_›, rfl⟩
  · exact .inl (toControl_readAllUidsCmdIter P _)

/-! ### Other commands -/

@[simp] theorem toControl_drawLoginToken : (drawLoginToken s).toControl = s.toControl :=
  toControl_randFill _ _ _ _

@[simp] theorem toControl_storeTokenCiphertexts :
    (storeTokenCiphertexts P s).toControl = s.toControl := rfl

/-- The token path logs in only when `authenticated` is set. -/
theorem toControl_loginCmdIter :
    (loginCmdIter P s).toControl = s.toControl ∨
      s.cmdData.get32 CmdData.loginAuthenticated ≠ 0 ∧
        s.toControl.Reaches .loggedIn (loginCmdIter P s).toControl := by
  unfold loginCmdIter
  split
  · rename_i h
    refine .inr ⟨h.1, reaches_enterState ?_⟩
    simp only [toControl_finishCommandMulti, toControl_storeTokenCiphertexts,
      toControl_drawLoginToken]
    exact clears_finish _ _
  · exact .inl rfl

theorem toControl_loginCmd (data : Mem) (dataLen : Int) :
    (loginCmd data dataLen s).toControl = s.toControl.finish 0 ∨
      AES_256_KEY_SIZE ≤ dataLen ∧ (loginCmd data dataLen s).toControl =
        { s.toControl with waitingForButtonPress := true } := by
  unfold loginCmd
  simp only
  split
  · exact .inl rfl
  · exact .inr ⟨by omega, rfl⟩

theorem toControl_loginTokenCmd (data : Mem) (dataLen : Int) :
    (loginTokenCmd data dataLen s).toControl = s.toControl.finish 0 ∨
      dataLen = AES_256_KEY_SIZE ∧ (loginTokenCmd data dataLen s).toControl =
        { s.toControl with waitingForButtonPress := true } := by
  unfold loginTokenCmd
  split
  · exact .inl rfl
  · exact .inr ⟨by omega, rfl⟩

theorem toControl_initializeCmd (data : Mem) (dataLen : Int) :
    (initializeCmd data dataLen s).toControl = s.toControl.finish 0 ∨
      (INITIALIZE_CMD_SIZE : Int) ≤ dataLen ∧ (initializeCmd data dataLen s).toControl =
        { s.toControl with waitingForLongButtonPress := true } := by
  unfold initializeCmd
  split
  · exact .inl rfl
  · exact .inr ⟨by omega, rfl⟩

theorem reaches_initializeCmdComplete :
    s.toControl.Reaches .initializing (initializeCmdComplete P s).toControl := by
  unfold initializeCmdComplete
  simp only
  refine reaches_enterProgressingState ?_
  simp only [toControl_finishCommandResp, toControl_writeInitialBlock]
  exact clears_finish _ _

theorem clears_getProgressCmd (data : Mem) (dataLen : Int) :
    s.toControl.Clears (getProgressCmd data dataLen s).toControl := by
  unfold getProgressCmd
  simp only
  split
  · exact clears_finish _ _
  · refine Clears.trans ?_ (clears_getProgressCheck _)
    exact .same

theorem toControl_readBlockCmd (data : Mem) (dataLen : Int) :
    (readBlockCmd P data dataLen s).toControl = s.toControl.finish 0 := by
  unfold readBlockCmd
  split <;> rfl

theorem clears_writeBlockCmd (data : Mem) (dataLen : Int) :
    s.toControl.Clears (writeBlockCmd data dataLen s).toControl := by
  unfold writeBlockCmd
  split
  · exact clears_finish _ _
  · rw [toControl_flashWritePage]
    exact .same

theorem clears_eraseBlockCmd (data : Mem) (dataLen : Int) :
    s.toControl.Clears (eraseBlockCmd data dataLen s).toControl := by
  unfold eraseBlockCmd
  split
  · exact clears_finish _ _
  · rw [toControl_flashWritePage]
    exact .same

theorem clears_writeFlashCmd (data : Mem) (dataLen : Int) :
    s.toControl.Clears (writeFlashCmd data dataLen s).toControl := by
  unfold writeFlashCmd
  simp only
  split
  · exact clears_finish _ _
  · rw [toControl_flashWrite]
    exact .same

theorem toControl_changeMasterPasswordCmd (data : Mem) (dataLen : Int) :
    (changeMasterPasswordCmd P data dataLen s).toControl = s.toControl.finish 0 ∨
      (changeMasterPasswordCmd P data dataLen s).toControl =
        { s.toControl with waitingForLongButtonPress := true } := by
  unfold changeMasterPasswordCmd
  simp only
  split
  · exact .inl rfl
  · split
    · split
      · exact .inl rfl
      · exact .inr rfl
    · exact .inl rfl

/-- A disconnect stops every wait and leaves no active command. -/
@[simp] theorem toControl_cmdDisconnect :
    (cmdDisconnect s).toControl =
      { s.toControl with
        activeCmd := none
        deviceState := .disconnected
        waitingForButtonPress := false
        waitingForLongButtonPress := false } := rfl

theorem clears_getRandBitsCmdCheck :
    s.toControl.Clears (getRandBitsCmdCheck s).toControl := by
  unfold getRandBitsCmdCheck
  simp only
  split
  · rw [toControl_finishCommand, toControl_randFill]
    exact clears_finish _ _
  · exact .same

theorem clears_getRandBitsCmd (data : Mem) (dataLen : Int) :
    s.toControl.Clears (getRandBitsCmd data dataLen s).toControl := by
  unfold getRandBitsCmd
  simp only
  split
  · exact clears_finish _ _
  · split
    · exact clears_finish _ _
    · refine Clears.trans ?_ (clears_getRandBitsCmdCheck _)
      exact .same

theorem clears_usbKeyboardTypingDone :
    s.toControl.Clears (usbKeyboardTypingDone s).toControl := by
  unfold usbKeyboardTypingDone
  simp only
  split
  · split
    · exact clears_finish _ _
    · exact clears_finish _ _
  · split
    · exact .same
    · exact .same

theorem clears_usbKeyboardType (chars : Ptr) (n : Nat) :
    s.toControl.Clears (usbKeyboardType usbKeyboardTypingDone chars n s).toControl := by
  unfold usbKeyboardType
  split
  · exact .same
  · split
    · exact clears_usbKeyboardTypingDone s
    · exact .same

theorem toControl_typeCmd (data : Mem) (dataLen : Int) :
    s.toControl.Clears (typeCmd data dataLen s).toControl ∨
      (typeCmd data dataLen s).toControl = { s.toControl with hung := true } := by
  unfold typeCmd
  split
  · exact .inr rfl
  · refine .inl (Clears.trans ?_ (clears_usbKeyboardType _ _ _))
    exact .same

theorem toControl_writeCleartextPassword (data : Mem) (dataLen : Int) :
    (writeCleartextPassword data dataLen s).toControl = s.toControl.finish 0 ∨
      (writeCleartextPassword data dataLen s).toControl =
        { s.toControl with waitingForButtonPress := true } := by
  unfold writeCleartextPassword
  split
  · exact .inl rfl
  · exact .inr rfl

theorem toControl_readCleartextPassword (data : Mem) (dataLen : Int) :
    (readCleartextPassword data dataLen s).toControl = s.toControl.finish 0 ∨
      (readCleartextPassword data dataLen s).toControl =
        { s.toControl with waitingForButtonPress := true } := by
  unfold readCleartextPassword
  split
  · exact .inl rfl
  · exact .inr rfl

theorem clears_startupCmdIter : s.toControl.Clears (startupCmdIter P s).toControl := by
  unfold startupCmdIter
  simp only
  split
  · exact clears_finish _ _
  · split
    · split
      · split
        · rw [toControl_finishCommand, toControl_db2StartupScan]
          exact clears_finish _ _
        · rw [toControl_db2StartupScan]
          exact .same
      · exact clears_finish _ _
    · exact clears_finish _ _

/-- The active command and waits STARTUP leaves for its scan. -/
def startupControl (c : Control) : Control :=
  if c.deviceState ≠ .disconnected then
    { c with
      activeCmd := none
      waitingForButtonPress := false
      waitingForLongButtonPress := false }
  else c

theorem reaches_startupCmd :
    ∃ st, (st = .uninitialized ∨ st = .loggedOut) ∧
      (startupControl s.toControl).Reaches st (startupCmd P s).toControl := by
  unfold startupCmd
  have hinit : ∀ s', s' = (if s.deviceState ≠ .disconnected then
      { endLongButtonPressWait (endButtonPressWait s) with activeCmd := none } else s) →
      (cmdInit P s').toControl = startupControl s.toControl := by
    rintro s' rfl
    unfold startupControl
    split <;> rfl
  simp only
  rw [← hinit _ rfl]
  generalize cmdInit P _ = s₁
  split
  · refine ⟨.uninitialized, .inl rfl, s₁.toControl, .same, ?_⟩
    refine Clears.trans ?_ (clears_startupCmdIter P _)
    exact clears_enterState s₁ _
  · refine ⟨.loggedOut, .inr rfl, s₁.toControl, .same, ?_⟩
    refine Clears.trans ?_ (clears_startupCmdIter P _)
    exact clears_enterState s₁ _

theorem toControl_eraseFlashPagesCmd (data : Mem) (dataLen : Int) :
    s.toControl.Clears (eraseFlashPagesCmd data dataLen s).toControl ∨
      (eraseFlashPagesCmd data dataLen s).toControl = { s.toControl with hung := true } ∨
      s.toControl.Reaches .erasingPages (eraseFlashPagesCmd data dataLen s).toControl := by
  unfold eraseFlashPagesCmd
  simp only
  split
  · exact .inl (clears_finish _ _)
  · split
    · exact .inr (.inl rfl)
    · refine .inr (.inr ?_)
      rw [toControl_finishCommandResp]
      refine (reaches_enterProgressingState ?_).finish 0
      simp only [toControl_flashWritePage]
      exact .same

end SignetBase.Firmware
