/-
  SignetBase/Firmware/LoginKeys.lean
  ==================================
  **Which functions touch the key material.**

  The data key and the two ciphertexts of the login token live in RAM only.  The
  ciphertexts are written by `login_cmd_iter` and by nothing else; the data key is written
  there where a key or a token has just logged in, and by CHANGE_MASTER_PASSWORD.  There is
  one lemma for each function that leaves all three alone.
-/
import SignetBase.Firmware.Events

namespace SignetBase.Firmware

variable (P : Platform)

variable {s s' : Dev}

/-- The data key and the two ciphertexts of the login token. -/
structure LoginKeys where
  encryptKey : Bytes
  tokenAuthRandCt : Bytes
  tokenEncryptKeyCt : Bytes

/-- The key material of the device. -/
def loginKeys (s : Dev) : LoginKeys := ⟨s.encryptKey, s.tokenAuthRandCt, s.tokenEncryptKeyCt⟩

/-! ### Responses, states, flash requests, typing -/

@[simp] theorem loginKeys_finishCommandMulti (resp : CommandResponse) (mr : Int)
    (payload : Option Bytes) (n : Nat) (s : Dev) :
    loginKeys (finishCommandMulti resp mr payload n s) = loginKeys s := rfl

@[simp] theorem loginKeys_getProgressCheck (s : Dev) :
    loginKeys (getProgressCheck s) = loginKeys s := by
  unfold getProgressCheck
  dsimp only
  split
  · split
    · rfl
    · split <;> rfl
  · rfl

@[simp] theorem loginKeys_enterProgressingState (st : DeviceState) (mx : List Int) (s : Dev) :
    loginKeys (enterProgressingState st mx s) = loginKeys s :=
  loginKeys_getProgressCheck (resetProgress st mx s)

@[simp] theorem loginKeys_enterState (st : DeviceState) (s : Dev) :
    loginKeys (enterState st s) = loginKeys s :=
  loginKeys_enterProgressingState st [] s

@[simp] theorem loginKeys_flashWritePage (dest : Nat) (src : Option Ptr) (count : Int) (s : Dev) :
    loginKeys (flashWritePage dest src count s) = loginKeys s := by
  unfold flashWritePage
  split <;> rfl

@[simp] theorem loginKeys_flashWrite (dest : Nat) (src : Ptr) (count : Int) (s : Dev) :
    loginKeys (flashWrite dest src count s) = loginKeys s := by
  unfold flashWrite
  split <;> rfl

@[simp] theorem loginKeys_usbKeyboardTypingDone (s : Dev) :
    loginKeys (usbKeyboardTypingDone s) = loginKeys s := by
  unfold usbKeyboardTypingDone
  dsimp only
  by_cases hcmd : s.activeCmd = some .type
  · rw [if_pos hcmd]
    split <;> rfl
  · rw [if_neg hcmd]
    split <;> rfl

@[simp] theorem loginKeys_usbKeyboardType (chars : Ptr) (n : Nat) (s : Dev) :
    loginKeys (usbKeyboardType usbKeyboardTypingDone chars n s) = loginKeys s := by
  unfold usbKeyboardType
  split
  · rfl
  · split
    · exact loginKeys_usbKeyboardTypingDone s
    · rfl

@[simp] theorem loginKeys_randFill (f : Nat → Nat → Nat) (off n : Nat) (s : Dev) :
    loginKeys (randFill f off n s) = loginKeys s := by
  induction n generalizing off s with
  | zero => rfl
  | succ n ih => exact (ih _ _).trans rfl

/-! ### Records -/

@[simp] theorem loginKeys_updateUidCmdComplete (s : Dev) :
    loginKeys (updateUidCmdComplete P s) = loginKeys s := by
  unfold updateUidCmdComplete
  dsimp only
  exact (loginKeys_flashWritePage _ _ _ _).trans rfl

@[simp] theorem loginKeys_updateUidCmd (uid : Nat) (data : Bytes) (sz pressType : Nat) (s : Dev) :
    loginKeys (updateUidCmd P uid data sz pressType s) = loginKeys s := by
  unfold updateUidCmd
  dsimp only
  split
  · rfl
  · split
    · exact (loginKeys_updateUidCmdComplete P _).trans rfl
    · split <;> rfl

@[simp] theorem loginKeys_updateUidCmdWriteFinished (s : Dev) :
    loginKeys (updateUidCmdWriteFinished P s) = loginKeys s := by
  unfold updateUidCmdWriteFinished
  dsimp only
  split
  · split
    · exact (loginKeys_flashWritePage _ _ _ _).trans rfl
    · rfl
  · rfl

@[simp] theorem loginKeys_readUidCmdComplete (s : Dev) :
    loginKeys (readUidCmdComplete P s) = loginKeys s := rfl

@[simp] theorem loginKeys_readUidCmd (uid masked : Nat) (s : Dev) :
    loginKeys (readUidCmd P uid masked s) = loginKeys s := by
  unfold readUidCmd
  dsimp only
  split
  · rfl
  · split <;> rfl

@[simp] theorem loginKeys_readAllUidsCmdIter (s : Dev) :
    loginKeys (readAllUidsCmdIter P s) = loginKeys s := by
  unfold readAllUidsCmdIter
  dsimp only
  split
  · rfl
  · split <;> rfl

@[simp] theorem loginKeys_readAllUidsCmd (masked : Nat) (s : Dev) :
    loginKeys (readAllUidsCmd P masked s) = loginKeys s := by
  unfold readAllUidsCmd
  dsimp only
  split
  · rfl
  · exact (loginKeys_readAllUidsCmdIter P _).trans rfl

@[simp] theorem loginKeys_db2StartupScan (blockOff infoOff : Nat) (s : Dev) :
    loginKeys (db2StartupScan P blockOff infoOff s).2 = loginKeys s := by
  unfold db2StartupScan
  dsimp only
  split
  · rfl
  · dsimp only
    split
    · exact (loginKeys_flashWritePage _ _ _ _).trans rfl
    · rfl

/-! ### Other commands -/

@[simp] theorem loginKeys_loginCmd (data : Mem) (dataLen : Int) (s : Dev) :
    loginKeys (loginCmd data dataLen s) = loginKeys s := by
  unfold loginCmd
  dsimp only
  split <;> rfl

@[simp] theorem loginKeys_loginTokenCmd (data : Mem) (dataLen : Int) (s : Dev) :
    loginKeys (loginTokenCmd data dataLen s) = loginKeys s := by
  unfold loginTokenCmd
  split <;> rfl

@[simp] theorem loginKeys_initializeCmd (data : Mem) (dataLen : Int) (s : Dev) :
    loginKeys (initializeCmd data dataLen s) = loginKeys s := by
  unfold initializeCmd
  split <;> rfl

@[simp] theorem loginKeys_writeInitialBlock (n : Nat) (s : Dev) :
    loginKeys (writeInitialBlock P n s) = loginKeys s := by
  unfold writeInitialBlock
  split
  · exact (loginKeys_flashWritePage _ _ _ _).trans rfl
  · exact loginKeys_flashWritePage _ _ _ _

@[simp] theorem loginKeys_initializeCmdComplete (s : Dev) :
    loginKeys (initializeCmdComplete P s) = loginKeys s := by
  unfold initializeCmdComplete
  dsimp only
  refine (loginKeys_enterProgressingState _ _ _).trans ?_
  exact (loginKeys_writeInitialBlock P 0 _).trans rfl

@[simp] theorem loginKeys_finalizeRootPageCheck (s : Dev) :
    loginKeys (finalizeRootPageCheck P s) = loginKeys s := by
  unfold finalizeRootPageCheck
  dsimp only
  split
  · have hkeys := loginKeys_randFill Nat.xor CmdData.initDataRand (INIT_RAND_DATA_SZ / 4)
      { s with
        cmdData := s.cmdData.put32 CmdData.initDataRootBlockFinalized 1
        rootPage := s.rootPage.write RootPage.signature rootSignature }
    generalize randFill Nat.xor CmdData.initDataRand (INIT_RAND_DATA_SZ / 4) _ = s₁ at hkeys ⊢
    exact (loginKeys_flashWritePage _ _ _ _).trans hkeys
  · rfl

@[simp] theorem loginKeys_getProgressCmd (data : Mem) (dataLen : Int) (s : Dev) :
    loginKeys (getProgressCmd data dataLen s) = loginKeys s := by
  unfold getProgressCmd
  dsimp only
  split
  · rfl
  · exact (loginKeys_getProgressCheck _).trans rfl

@[simp] theorem loginKeys_readBlockCmd (data : Mem) (dataLen : Int) (s : Dev) :
    loginKeys (readBlockCmd P data dataLen s) = loginKeys s := by
  unfold readBlockCmd
  split <;> rfl

@[simp] theorem loginKeys_writeBlockCmd (data : Mem) (dataLen : Int) (s : Dev) :
    loginKeys (writeBlockCmd data dataLen s) = loginKeys s := by
  unfold writeBlockCmd
  split
  · rfl
  · exact loginKeys_flashWritePage _ _ _ _

@[simp] theorem loginKeys_eraseBlockCmd (data : Mem) (dataLen : Int) (s : Dev) :
    loginKeys (eraseBlockCmd data dataLen s) = loginKeys s := by
  unfold eraseBlockCmd
  split
  · rfl
  · exact loginKeys_flashWritePage _ _ _ _

@[simp] theorem loginKeys_cmdDisconnect (s : Dev) : loginKeys (cmdDisconnect s) = loginKeys s :=
  loginKeys_enterState _ _

@[simp] theorem loginKeys_enterMobileModeCmd (s : Dev) :
    loginKeys (enterMobileModeCmd s) = loginKeys s :=
  loginKeys_cmdDisconnect s

@[simp] theorem loginKeys_getRandBitsCmdCheck (s : Dev) :
    loginKeys (getRandBitsCmdCheck s) = loginKeys s := by
  unfold getRandBitsCmdCheck
  dsimp only
  split
  · exact loginKeys_randFill _ _ _ s
  · rfl

@[simp] theorem loginKeys_getRandBitsCmd (data : Mem) (dataLen : Int) (s : Dev) :
    loginKeys (getRandBitsCmd data dataLen s) = loginKeys s := by
  unfold getRandBitsCmd
  dsimp only
  split
  · rfl
  · split
    · rfl
    · exact (loginKeys_getRandBitsCmdCheck _).trans rfl

@[simp] theorem loginKeys_typeCmd (data : Mem) (dataLen : Int) (s : Dev) :
    loginKeys (typeCmd data dataLen s) = loginKeys s := by
  unfold typeCmd
  dsimp only
  split
  · rfl
  · exact (loginKeys_usbKeyboardType _ _ _).trans rfl

@[simp] theorem loginKeys_writeCleartextPassword (data : Mem) (dataLen : Int) (s : Dev) :
    loginKeys (writeCleartextPassword data dataLen s) = loginKeys s := by
  unfold writeCleartextPassword
  split <;> rfl

@[simp] theorem loginKeys_readCleartextPassword (data : Mem) (dataLen : Int) (s : Dev) :
    loginKeys (readCleartextPassword data dataLen s) = loginKeys s := by
  unfold readCleartextPassword
  split <;> rfl

@[simp] theorem loginKeys_startupCmdIter (s : Dev) :
    loginKeys (startupCmdIter P s) = loginKeys s := by
  unfold startupCmdIter
  dsimp only
  split
  · rfl
  · split
    · split
      · split
        · exact (loginKeys_db2StartupScan P _ _ _).trans rfl
        · exact (loginKeys_db2StartupScan P _ _ _).trans rfl
      · rfl
    · rfl

@[simp] theorem loginKeys_startupCmd (s : Dev) : loginKeys (startupCmd P s) = loginKeys s := by
  unfold startupCmd
  dsimp only
  refine (loginKeys_startupCmdIter P _).trans ?_
  have hends : ∀ s₁ : Dev, loginKeys s₁ = loginKeys s → loginKeys { (if (cmdInit P s₁).rootPage.read
      (RootPage.signature + 1) (AES_BLK_SIZE - 1) ≠ rootSignature.drop 1 then
        enterState .uninitialized (cmdInit P s₁) else enterState .loggedOut (cmdInit P s₁)) with
      headerVersion := (if (cmdInit P s₁).rootPage.read (RootPage.signature + 1)
        (AES_BLK_SIZE - 1) ≠ rootSignature.drop 1 then enterState .uninitialized (cmdInit P s₁)
        else enterState .loggedOut (cmdInit P s₁)).rootPage RootPage.signature } =
      loginKeys s := by
    intro s₁ h₁
    change loginKeys (if _ then _ else _) = _
    split
    · exact (loginKeys_enterState _ _).trans h₁
    · exact (loginKeys_enterState _ _).trans h₁
  refine hends _ ?_
  split <;> rfl

@[simp] theorem loginKeys_eraseFlashPagesCmd (data : Mem) (dataLen : Int) (s : Dev) :
    loginKeys (eraseFlashPagesCmd data dataLen s) = loginKeys s := by
  unfold eraseFlashPagesCmd
  dsimp only
  split
  · rfl
  · split
    · rfl
    · refine (loginKeys_enterProgressingState _ _ _).trans ?_
      exact (loginKeys_flashWritePage _ _ _ _).trans rfl

@[simp] theorem loginKeys_writeFlashCmd (data : Mem) (dataLen : Int) (s : Dev) :
    loginKeys (writeFlashCmd data dataLen s) = loginKeys s := by
  unfold writeFlashCmd
  dsimp only
  split
  · rfl
  · exact loginKeys_flashWrite _ _ _ s

/-! ### Packets -/

/-- What a packet, a press or a completion does to the key material apart from a new token: it
    stays, or the data key is read from a ciphertext. -/
inductive KeysAfter (s s' : Dev) : Prop
  | same : loginKeys s' = loginKeys s → KeysAfter s s'
  | read (key ct : Bytes) : ct.length = AES_256_KEY_SIZE ∨ ct = s.tokenEncryptKeyCt →
      loginKeys s' = { loginKeys s with
        encryptKey := stmAes256DecryptCbc P key (AES_256_KEY_SIZE / AES_BLK_SIZE) none ct } →
      KeysAfter s s'

theorem length_rootKey (s : Dev) (off : Nat) : (rootKey s off).length = AES_256_KEY_SIZE :=
  Mem.length_read _ _ _

theorem keysAfter_changeMasterPasswordCmd (data : Mem) (dataLen : Int) (s : Dev) :
    KeysAfter P s (changeMasterPasswordCmd P data dataLen s) := by
  unfold changeMasterPasswordCmd
  dsimp only
  split
  · exact .same rfl
  · split
    · split
      · exact .same rfl
      · exact .read _ _ (.inl (length_rootKey s RootPage.encryptKeyCt)) rfl
    · exact .same rfl

variable {cmd : Command} {data : Mem} {dataLen : Int}

theorem loginKeys_progressOnlyState (h : progressOnlyState cmd data dataLen s = .handled s') :
    loginKeys s' = loginKeys s := by
  unfold progressOnlyState at h
  split at h
  · cases h
    exact loginKeys_getProgressCmd _ _ s
  · cases h

theorem loginKeys_uninitializedState (h : uninitializedState P cmd data dataLen s = .handled s') :
    loginKeys s' = loginKeys s := by
  unfold uninitializedState at h
  split at h
  · cases h
    exact loginKeys_getProgressCmd _ _ s
  · cases h
    rfl
  · cases h
    exact loginKeys_initializeCmd _ _ s
  · cases h
    rfl
  · cases h
    exact loginKeys_enterMobileModeCmd s
  · split at h
    · cases h
      rfl
    · cases h
      rfl
  · cases h

theorem keysAfter_loggedOutState (h : loggedOutState P cmd data dataLen s = .handled s') :
    KeysAfter P s s' := by
  unfold loggedOutState at h
  split at h
  · cases h
    exact .same (loginKeys_getProgressCmd _ _ s)
  · cases h
    exact keysAfter_changeMasterPasswordCmd P _ _ s
  · cases h
    exact .same (loginKeys_initializeCmd _ _ s)
  · cases h
    exact .same rfl
  · cases h
    exact .same rfl
  · cases h
    exact .same rfl
  · cases h
    exact .same (loginKeys_loginCmd _ _ s)
  · cases h
    exact .same (loginKeys_loginTokenCmd _ _ s)
  · cases h
    exact .same rfl
  · cases h
    exact .same (loginKeys_enterMobileModeCmd s)
  · cases h

theorem loginKeys_updateUidPacket (cmd : Command) (data : Mem) (dataLen : Int) (s : Dev) :
    loginKeys (updateUidPacket P cmd data dataLen s) = loginKeys s := by
  unfold updateUidPacket
  dsimp only
  split
  · rfl
  · exact loginKeys_updateUidCmd P _ _ _ _ s

theorem keysAfter_loggedInState (h : loggedInState P cmd data dataLen s = .handled s') :
    KeysAfter P s s' := by
  unfold loggedInState at h
  split at h
  · cases h
    exact .same (loginKeys_getProgressCmd _ _ s)
  · cases h
    exact keysAfter_changeMasterPasswordCmd P _ _ s
  · cases h
    exact .same rfl
  · cases h
    exact .same (loginKeys_getRandBitsCmd _ _ s)
  · cases h
    unfold readUidPacket
    split
    · exact .same rfl
    · exact .same (loginKeys_readUidCmd P _ _ s)
  · cases h
    exact .same (loginKeys_updateUidPacket P _ _ _ s)
  · cases h
    exact .same (loginKeys_updateUidPacket P _ _ _ s)
  · cases h
    unfold readAllUidsPacket
    split
    · exact .same rfl
    · exact .same (loginKeys_readAllUidsCmd P _ s)
  · cases h
    exact .same (loginKeys_typeCmd _ _ s)
  · cases h
    exact .same rfl
  · cases h
    exact .same (loginKeys_enterState _ s)
  · cases h
    exact .same rfl
  · cases h
    exact .same rfl
  · cases h
    exact .same (loginKeys_readCleartextPassword _ _ s)
  · cases h
    exact .same (loginKeys_writeCleartextPassword _ _ s)
  · cases h

theorem loginKeys_backingUpDeviceState
    (h : backingUpDeviceState P cmd data dataLen s = .handled s') :
    loginKeys s' = loginKeys s := by
  unfold backingUpDeviceState at h
  split at h
  · cases h
    exact loginKeys_readBlockCmd P _ _ s
  · cases h
    exact loginKeys_enterState _ s
  · cases h

theorem loginKeys_restoringDeviceState
    (h : restoringDeviceState cmd data dataLen s = .handled s') :
    loginKeys s' = loginKeys s := by
  unfold restoringDeviceState at h
  split at h
  · cases h
    exact loginKeys_writeBlockCmd _ _ s
  · cases h
    exact loginKeys_eraseBlockCmd _ _ s
  · cases h
    exact loginKeys_enterState _ s
  · cases h

theorem loginKeys_firmwareUpdateState
    (h : firmwareUpdateState cmd data dataLen s = .handled s') : loginKeys s' = loginKeys s := by
  unfold firmwareUpdateState at h
  split at h
  · cases h
    exact loginKeys_eraseFlashPagesCmd _ _ s
  · cases h
    exact loginKeys_writeFlashCmd _ _ s
  · cases h
  · cases h

/-- **Only CHANGE_MASTER_PASSWORD touches the key material** among the packets. -/
theorem keysAfter_dispatch (h : dispatch P s = .handled s') : KeysAfter P s s' := by
  unfold dispatch stateFunction at h
  split at h
  · exact .same (loginKeys_uninitializedState P h)
  · exact .same (loginKeys_progressOnlyState h)
  · exact .same (loginKeys_progressOnlyState h)
  · exact .same (loginKeys_backingUpDeviceState P h)
  · exact .same (loginKeys_restoringDeviceState h)
  · exact .same (loginKeys_progressOnlyState h)
  · exact .same (loginKeys_firmwareUpdateState h)
  · exact keysAfter_loggedOutState P h
  · exact keysAfter_loggedInState P h
  all_goals cases h

theorem loginKeys_countIteration (n : Nat) (s : Dev) :
    loginKeys (countIteration n s) = loginKeys s := by
  unfold countIteration
  split <;> rfl

theorem keysAfter_cmdPacketRecv (h : cmdPacketRecv P s = some s') : KeysAfter P s s' := by
  unfold cmdPacketRecv at h
  dsimp only at h
  split at h
  · cases h
    exact .same (loginKeys_cmdDisconnect s)
  · split at h
    · split at h
      · cases h
        exact .same rfl
      · cases h
        exact .same rfl
    · unfold runPacket at h
      dsimp only at h
      split at h
      · cases h
        exact .same (loginKeys_startupCmd P _)
      · split at h
        · cases h
          exact .same rfl
        · split at h
          · cases h
            exact .same rfl
          · split at h
            · cases h
              exact .same rfl
            · split at h
              · cases h
                exact .same (loginKeys_countIteration _ _)
              · cases h
                rename_i hhandled
                rcases keysAfter_dispatch P hhandled with hsame | ⟨key, ct, hlen, hread⟩
                · exact .same ((loginKeys_countIteration _ _).trans hsame)
                · exact .read key ct hlen ((loginKeys_countIteration _ _).trans hread)
              · cases h

/-! ### Completions, timers, presses that are not for a login -/

theorem loginKeys_initializingWriteComplete (s : Dev) :
    loginKeys (initializingWriteComplete P s) = loginKeys s := by
  unfold initializingWriteComplete
  dsimp only
  generalize hs₁ : getProgressCheck _ = s₁
  have hkeys : loginKeys s₁ = loginKeys s := by
    rw [← hs₁]
    exact loginKeys_getProgressCheck _
  split
  · exact (loginKeys_writeInitialBlock P _ _).trans hkeys
  · split
    · exact (loginKeys_finalizeRootPageCheck P _).trans hkeys
    · split
      · exact (loginKeys_enterState _ _).trans ((loginKeys_db2StartupScan P _ _ _).trans hkeys)
      · exact (loginKeys_enterState _ _).trans ((loginKeys_db2StartupScan P _ _ _).trans hkeys)

@[simp] theorem loginKeys_stateWriteComplete (s : Dev) :
    loginKeys (stateWriteComplete P s) = loginKeys s := by
  unfold stateWriteComplete
  split
  · exact loginKeys_initializingWriteComplete P s
  · unfold wipingWriteComplete
    dsimp only
    split
    · exact (loginKeys_enterState _ _).trans ((loginKeys_getProgressCheck _).trans rfl)
    · exact (loginKeys_flashWritePage _ _ _ _).trans ((loginKeys_getProgressCheck _).trans rfl)
  · unfold erasingPagesWriteComplete
    dsimp only
    split
    · exact (loginKeys_enterState _ _).trans ((loginKeys_getProgressCheck _).trans rfl)
    · exact (loginKeys_flashWritePage _ _ _ _).trans ((loginKeys_getProgressCheck _).trans rfl)
  · rfl

@[simp] theorem loginKeys_flashWriteComplete (s : Dev) :
    loginKeys (flashWriteComplete P s) = loginKeys s := by
  refine Eq.trans ?_ (loginKeys_stateWriteComplete P s)
  unfold flashWriteComplete commandWriteComplete
  split
  · rfl
  · rfl
  · rfl
  · rfl
  · rfl
  · exact loginKeys_updateUidCmdWriteFinished P _
  · exact loginKeys_updateUidCmdWriteFinished P _
  · exact loginKeys_startupCmdIter P _
  · rfl

@[simp] theorem loginKeys_flashWriteFailed (s : Dev) :
    loginKeys (flashWriteFailed s) = loginKeys s := by
  unfold flashWriteFailed
  split <;> rfl

theorem loginKeys_programLoop (n : Nat) (err : Option Nat) (s : Dev) :
    loginKeys (programLoop n err s).2 = loginKeys s := by
  have hword : ∀ s, loginKeys (programDoubleWord s) = loginKeys s := by
    intro s
    unfold programDoubleWord
    split <;> rfl
  induction n generalizing err s with
  | zero => rfl
  | succ n ih =>
    unfold programLoop
    split
    · rfl
    · dsimp only
      split
      · exact hword s
      · exact (ih _ _).trans (hword s)

theorem loginKeys_flashIdle (err : Option Nat) (s : Dev) :
    loginKeys (flashIdle P err s) = loginKeys s := by
  have hloop := loginKeys_programLoop 32 err s
  unfold flashIdle
  generalize programLoop 32 err s = r at hloop ⊢
  split
  · dsimp only
    split
    · exact (loginKeys_flashWriteFailed _).trans hloop
    · split
      · exact (loginKeys_flashWriteComplete P _).trans hloop
      · exact hloop
  · rfl

theorem loginKeys_flashHandler (eop : Bool) (s : Dev) :
    loginKeys (flashHandler P eop s) = loginKeys s := by
  unfold flashHandler
  split
  · split
    · dsimp only
      split
      · rfl
      · exact (loginKeys_flashWriteComplete P _).trans rfl
    · exact (loginKeys_flashWriteFailed _).trans rfl
  · rfl

@[simp] theorem loginKeys_timerTimeout (s : Dev) : loginKeys (timerTimeout s) = loginKeys s := by
  unfold timerTimeout
  dsimp only
  split
  · exact (loginKeys_usbKeyboardType _ _ _).trans rfl
  · rfl

theorem loginKeys_buttonRelease (s : Dev) : loginKeys (buttonRelease s) = loginKeys s := by
  unfold buttonRelease
  split
  · rfl
  · split
    · unfold buttonReleaseDisconnected
      dsimp only
      split
      · rfl
      · split
        · exact (loginKeys_timerTimeout _).trans rfl
        · exact (loginKeys_usbKeyboardType _ _ _).trans rfl
    · rfl

theorem loginKeys_longButtonPressDisconnected (s : Dev) :
    loginKeys (longButtonPressDisconnected P s) = loginKeys s := by
  unfold longButtonPressDisconnected
  split
  · dsimp only
    split
    · exact (loginKeys_usbKeyboardType _ _ _).trans rfl
    · exact loginKeys_timerTimeout s
  · rfl

theorem loginKeys_longButtonPressed (s : Dev) :
    loginKeys (longButtonPressed P s) = loginKeys s := by
  unfold longButtonPressed
  split
  · exact loginKeys_readAllUidsCmdIter P s
  · exact loginKeys_updateUidCmdComplete P s
  · exact (loginKeys_enterState _ _).trans rfl
  · dsimp only
    exact (loginKeys_enterProgressingState _ _ _).trans ((loginKeys_flashWritePage _ _ _ _).trans rfl)
  · dsimp only
    exact (loginKeys_enterState _ _).trans rfl
  · exact (loginKeys_enterState _ _).trans rfl
  · exact loginKeys_initializeCmdComplete P s
  · split
    · exact (loginKeys_flashWritePage _ _ _ _).trans rfl
    · rfl
  · rfl

theorem loginKeys_usbTxKeyboard (s : Dev) : loginKeys (usbTxKeyboard s) = loginKeys s := by
  unfold usbTxKeyboard
  split
  · split
    · exact (loginKeys_usbKeyboardTypingDone _).trans rfl
    · rfl
  · rfl

theorem loginKeys_usbKeyboardIdle (elapsed : Bool) (s : Dev) :
    loginKeys (usbKeyboardIdle elapsed s) = loginKeys s := by
  unfold usbKeyboardIdle
  split <;> rfl

end SignetBase.Firmware
