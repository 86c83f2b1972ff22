/-
  SignetBase/Firmware/Outputs.lean
  ================================
  **What each function sends and asks the flash driver for.**

  `Emits φ s s'` says that everything `s'` has done and `s` had not satisfies
  `φ`.  Three kinds of output need a press: the OKAY of a command that is answered when
  it is carried out, a page request out of the buffer of UPDATE_UID, and a page
  request out of the root page.  There is one lemma for each function of the
  model that makes none of them (`Quiet`).
-/
import SignetBase.Firmware.Transitions

namespace SignetBase.Firmware

open Control

variable (P : Platform)

/-! ### New outputs -/

/-- Everything done on the way from `s` to `s'` satisfies `φ`. -/
def Emits (φ : Output → Prop) (s s' : Dev) : Prop :=
  ∃ l, s'.outputs = l ++ s.outputs ∧ ∀ o ∈ l, φ o

/-- The outputs of `s'` that are not outputs of `s`, its past, newest first. -/
def newOutputs (s s' : Dev) : List Output :=
  s'.outputs.take (s'.outputs.length - s.outputs.length)

variable {φ ψ : Output → Prop} {s s' s'' : Dev}

theorem Emits.of_eq (h : s'.outputs = s.outputs) : Emits φ s s' :=
  ⟨[], h, fun _ ho => nomatch ho⟩

theorem Emits.one {o : Output} (h : s'.outputs = o :: s.outputs) (ho : φ o) : Emits φ s s' := by
  refine ⟨[o], h, fun o' ho' => ?_⟩
  rw [List.mem_singleton] at ho'
  exact ho' ▸ ho

theorem Emits.trans (h : Emits φ s s') (h' : Emits φ s' s'') : Emits φ s s'' := by
  obtain ⟨l, hl, hφ⟩ := h
  obtain ⟨l', hl', hφ'⟩ := h'
  refine ⟨l' ++ l, by rw [hl', hl, List.append_assoc], fun o ho => ?_⟩
  exact (List.mem_append.mp ho).elim (hφ' o) (hφ o)

theorem Emits.mono (hle : ∀ o, φ o → ψ o) (h : Emits φ s s') : Emits ψ s s' := by
  obtain ⟨l, hl, hφ⟩ := h
  exact ⟨l, hl, fun o ho => hle o (hφ o ho)⟩

theorem Emits.of_mem_new (h : Emits φ s s') : ∀ o ∈ newOutputs s s', φ o := by
  obtain ⟨l, hl, hφ⟩ := h
  intro o ho
  unfold newOutputs at ho
  rw [hl, List.length_append, Nat.add_sub_cancel, List.take_left] at ho
  exact hφ o ho

/-! ### Outputs that need a press -/

/-- A page request out of the buffer in which UPDATE_UID builds its block. -/
def Output.isRecordWrite : Output → Bool
  | .flashWritePage _ (some p) _ _ _ => p = ⟨.cmdData, CmdData.updateUidBlock⟩
  | _ => false

/-- A page request out of the root page. -/
def Output.isRootWrite : Output → Bool
  | .flashWritePage _ (some p) _ _ _ => p.object = .rootPage
  | _ => false

/-- The answer OKAY to the command `cmd`. -/
def Output.isOkayTo (cmd : Command) : Output → Bool
  | .response r => r.resp = .okay ∧ r.cmd = some cmd
  | _ => false

/-- The commands that are answered OKAY when they are carried out, which is after
    a press: READ_UID and READ_ALL_UIDS unless masked, and the ones that start a
    long operation. -/
def okayNeedsPress : Command → Bool
  | .readUid | .readAllUids | .wipe | .initializeDevice | .backupDevice | .restoreDevice
  | .updateFirmware => true
  | _ => false

/-- None of the outputs that need a press. -/
def Output.harmless (o : Output) : Prop :=
  o.isRecordWrite = false ∧ o.isRootWrite = false ∧
    ∀ cmd, okayNeedsPress cmd = true → o.isOkayTo cmd = false

/-- No output between `s` and `s'` needs a press. -/
abbrev Quiet (s s' : Dev) : Prop := Emits Output.harmless s s'

/-- A command whose OKAY needs a press is active. -/
def OkayNeedsPress (s : Dev) : Prop := ∃ cmd, s.activeCmd = some cmd ∧ okayNeedsPress cmd = true

theorem not_needsPress_of_active {cmd : Command} (h : s.activeCmd = some cmd)
    (hn : okayNeedsPress cmd = false) : ¬ OkayNeedsPress s := by
  rintro ⟨cmd', hc, hp⟩
  rw [h] at hc
  cases hc
  rw [hn] at hp
  cases hp

theorem not_needsPress_of_none (h : s.activeCmd = none) : ¬ OkayNeedsPress s := by
  rintro ⟨cmd, hc, -⟩
  exact nomatch h.symm.trans hc

theorem not_needsPress_of_clears (hc : s.toControl.Clears s'.toControl) (h : ¬ OkayNeedsPress s) :
    ¬ OkayNeedsPress s' := by
  rintro ⟨cmd, hcmd, hp⟩
  exact h ⟨cmd, (hc.activeCmd.resolve_right (by simp [hcmd])).symm.trans hcmd, hp⟩

/-! ### Responses, states, flash requests -/

/-- An answer is harmless unless it is the OKAY that needs a press. -/
theorem quiet_finishCommandMulti (resp : CommandResponse) (mr : Int) (payload : Option Bytes)
    (n : Nat) (s : Dev) (h : resp ≠ .okay ∨ ¬ OkayNeedsPress s) :
    Quiet s (finishCommandMulti resp mr payload n s) := by
  refine Emits.one rfl ⟨rfl, rfl, fun cmd hp => decide_eq_false ?_⟩
  rintro ⟨hr, hc⟩
  exact h.elim (· hr) (· ⟨cmd, hc, hp⟩)

theorem quiet_finishCommand (resp : CommandResponse) (payload : Bytes) (s : Dev)
    (h : resp ≠ .okay ∨ ¬ OkayNeedsPress s) : Quiet s (finishCommand resp payload s) :=
  quiet_finishCommandMulti _ _ _ _ s h

theorem quiet_finishCommandResp (resp : CommandResponse) (s : Dev)
    (h : resp ≠ .okay ∨ ¬ OkayNeedsPress s) : Quiet s (finishCommandResp resp s) :=
  quiet_finishCommandMulti _ _ _ _ s h

theorem quiet_getProgressCheck (s : Dev) : Quiet s (getProgressCheck s) := by
  unfold getProgressCheck
  split
  · rename_i hcmd
    have hr : ¬ OkayNeedsPress s := not_needsPress_of_active hcmd rfl
    simp only
    split
    · exact quiet_finishCommand _ _ s (.inr hr)
    · split
      · exact quiet_finishCommandResp _ s (.inr hr)
      · exact .of_eq rfl
  · exact .of_eq rfl

theorem quiet_enterProgressingState (st : DeviceState) (mx : List Int) (s : Dev) :
    Quiet s (enterProgressingState st mx s) :=
  .trans (.of_eq rfl) (quiet_getProgressCheck (resetProgress st mx s))

theorem quiet_enterState (st : DeviceState) (s : Dev) : Quiet s (enterState st s) :=
  quiet_enterProgressingState st [] s

theorem not_needsPress_enterProgressingState (st : DeviceState) (mx : List Int) {s : Dev}
    (h : ¬ OkayNeedsPress s) : ¬ OkayNeedsPress (enterProgressingState st mx s) := by
  have h' : ¬ OkayNeedsPress (resetProgress st mx s) := h
  exact not_needsPress_of_clears (clears_getProgressCheck _) h'

/-- A page request that neither comes from UPDATE_UID's buffer nor from the root
    page. -/
theorem quiet_flashWritePage (dest : Nat) (src : Option Ptr) (count : Int) (s : Dev)
    (h : ∀ p ∈ src, p ≠ ⟨.cmdData, CmdData.updateUidBlock⟩ ∧ p.object ≠ .rootPage) :
    Quiet s (flashWritePage dest src count s) := by
  have hharm : ∀ held b, (Output.flashWritePage dest src count held b).harmless := by
    intro held b
    cases src with
    | none => exact ⟨rfl, rfl, fun _ _ => rfl⟩
    | some p =>
      obtain ⟨h₁, h₂⟩ := h p rfl
      exact ⟨decide_eq_false h₁, decide_eq_false h₂, fun _ _ => rfl⟩
  unfold flashWritePage
  split
  · exact .one rfl (hharm _ true)
  · exact .one rfl (hharm _ false)

theorem quiet_erase (dest : Nat) (s : Dev) : Quiet s (flashWritePage dest none 0 s) :=
  quiet_flashWritePage dest none 0 s (fun _ h => nomatch h)

theorem quiet_flashWrite (dest : Nat) (src : Ptr) (count : Int) (s : Dev) :
    Quiet s (flashWrite dest src count s) := by
  unfold flashWrite
  split
  · exact .one rfl ⟨rfl, rfl, fun _ _ => rfl⟩
  · exact .one rfl ⟨rfl, rfl, fun _ _ => rfl⟩

@[simp] theorem outputs_randFill (f : Nat → Nat → Nat) (off n : Nat) (s : Dev) :
    (randFill f off n s).outputs = s.outputs := by
  induction n generalizing off s with
  | zero => rfl
  | succ n ih => exact (ih _ _).trans rfl

theorem quiet_writeInitialBlock (n : Nat) (s : Dev) : Quiet s (writeInitialBlock P n s) := by
  unfold writeInitialBlock
  split
  · refine .trans (.of_eq rfl) (quiet_flashWritePage _ _ _ _ ?_)
    rintro p ⟨⟩
    exact ⟨by decide, by decide⟩
  · exact quiet_erase _ s

theorem quiet_db2StartupScan {blockOff : Nat} (infoOff : Nat) (s : Dev)
    (h : blockOff ≠ CmdData.updateUidBlock) : Quiet s (db2StartupScan P blockOff infoOff s).2 := by
  unfold db2StartupScan
  simp only
  split
  · exact .of_eq rfl
  · simp only
    split
    · refine .trans (.of_eq rfl) (quiet_flashWritePage _ _ _ _ ?_)
      rintro p ⟨⟩
      exact ⟨by simp [h], nofun⟩
    · exact .of_eq rfl

/-! ### Commands -/

theorem quiet_updateUidCmd {uid : Nat} {data : Bytes} {sz pressType : Nat} (s : Dev)
    (h : pressType ≠ 0) : Quiet s (updateUidCmd P uid data sz pressType s) := by
  unfold updateUidCmd
  simp only
  split
  · exact .trans (.of_eq rfl) (quiet_finishCommandResp _ _ (.inl (by decide)))
  · split <;> exact .of_eq rfl

@[simp] theorem outputs_drawLoginToken (s : Dev) : (drawLoginToken s).outputs = s.outputs :=
  outputs_randFill _ _ _ s

@[simp] theorem outputs_storeTokenCiphertexts (s : Dev) :
    (storeTokenCiphertexts P s).outputs = s.outputs := rfl

theorem quiet_loginCmdIter (s : Dev) (h : ¬ OkayNeedsPress s) : Quiet s (loginCmdIter P s) := by
  have hout : (storeTokenCiphertexts P (drawLoginToken s)).outputs = s.outputs := by
    rw [outputs_storeTokenCiphertexts, outputs_drawLoginToken]
  have hctl : (storeTokenCiphertexts P (drawLoginToken s)).toControl = s.toControl := by
    simp only [toControl_storeTokenCiphertexts, toControl_drawLoginToken]
  unfold loginCmdIter
  generalize storeTokenCiphertexts P (drawLoginToken s) = s₁ at hout hctl
  split
  · refine .trans ?_ (quiet_enterState _ _)
    refine .trans (.of_eq hout) (quiet_finishCommandMulti _ _ _ _ _ (.inr ?_))
    exact not_needsPress_of_clears (hctl ▸ .same) h
  · exact .of_eq rfl

theorem quiet_loginCmd (data : Mem) (dataLen : Int) (s : Dev) :
    Quiet s (loginCmd data dataLen s) := by
  unfold loginCmd
  simp only
  split
  · exact .trans (.of_eq rfl) (quiet_finishCommandResp _ _ (.inl (by decide)))
  · exact .of_eq rfl

theorem quiet_loginTokenCmd (data : Mem) (dataLen : Int) (s : Dev) :
    Quiet s (loginTokenCmd data dataLen s) := by
  unfold loginTokenCmd
  split
  · exact quiet_finishCommandResp _ _ (.inl (by decide))
  · exact .of_eq rfl

theorem quiet_initializeCmd (data : Mem) (dataLen : Int) (s : Dev) :
    Quiet s (initializeCmd data dataLen s) := by
  unfold initializeCmd
  split
  · exact quiet_finishCommandResp _ _ (.inl (by decide))
  · exact .of_eq rfl

theorem quiet_getProgressCmd (data : Mem) (dataLen : Int) (s : Dev) :
    Quiet s (getProgressCmd data dataLen s) := by
  unfold getProgressCmd
  simp only
  split
  · exact .trans (.of_eq rfl) (quiet_finishCommandResp _ _ (.inl (by decide)))
  · exact .trans (.of_eq rfl) (quiet_getProgressCheck _)

theorem quiet_readBlockCmd (data : Mem) (dataLen : Int) (s : Dev) (h : ¬ OkayNeedsPress s) :
    Quiet s (readBlockCmd P data dataLen s) := by
  unfold readBlockCmd
  split
  · exact quiet_finishCommandResp _ _ (.inl (by decide))
  · exact quiet_finishCommand _ _ _ (.inr h)

theorem quiet_writeBlockCmd (data : Mem) (dataLen : Int) (s : Dev) :
    Quiet s (writeBlockCmd data dataLen s) := by
  unfold writeBlockCmd
  split
  · exact quiet_finishCommandResp _ _ (.inl (by decide))
  · refine quiet_flashWritePage _ _ _ _ ?_
    rintro p ⟨⟩
    exact ⟨by decide, by decide⟩

theorem quiet_eraseBlockCmd (data : Mem) (dataLen : Int) (s : Dev) :
    Quiet s (eraseBlockCmd data dataLen s) := by
  unfold eraseBlockCmd
  split
  · exact quiet_finishCommandResp _ _ (.inl (by decide))
  · exact quiet_erase _ s

theorem quiet_changeMasterPasswordCmd (data : Mem) (dataLen : Int) (s : Dev) :
    Quiet s (changeMasterPasswordCmd P data dataLen s) := by
  unfold changeMasterPasswordCmd
  simp only
  split
  · exact quiet_finishCommandResp _ _ (.inl (by decide))
  · split
    · split
      · exact .trans (.of_eq rfl) (quiet_finishCommandResp _ _ (.inl (by decide)))
      · exact .of_eq rfl
    · exact .trans (.of_eq rfl) (quiet_finishCommandResp _ _ (.inl (by decide)))

theorem quiet_cmdDisconnect (s : Dev) : Quiet s (cmdDisconnect s) :=
  .trans (.of_eq rfl) (quiet_enterState _ _)

theorem quiet_getRandBitsCmdCheck (s : Dev) (h : ¬ OkayNeedsPress s) :
    Quiet s (getRandBitsCmdCheck s) := by
  unfold getRandBitsCmdCheck
  simp only
  split
  · refine .trans (.of_eq (outputs_randFill _ _ _ _)) (quiet_finishCommand _ _ _ (.inr ?_))
    refine not_needsPress_of_clears ?_ h
    rw [toControl_randFill]
    exact .same
  · exact .of_eq rfl

theorem quiet_getRandBitsCmd (data : Mem) (dataLen : Int) (s : Dev) (h : ¬ OkayNeedsPress s) :
    Quiet s (getRandBitsCmd data dataLen s) := by
  unfold getRandBitsCmd
  simp only
  split
  · exact quiet_finishCommandResp _ _ (.inl (by decide))
  · split
    · exact .trans (.of_eq rfl) (quiet_finishCommandResp _ _ (.inl (by decide)))
    · refine .trans (.of_eq rfl) (quiet_getRandBitsCmdCheck _ h)

theorem quiet_usbKeyboardTypingDone (s : Dev) : Quiet s (usbKeyboardTypingDone s) := by
  unfold usbKeyboardTypingDone
  simp only
  split
  · rename_i hcmd
    have hquiet : Quiet s (finishCommandResp .okay s) :=
      quiet_finishCommandResp _ _ (.inr (not_needsPress_of_active hcmd rfl))
    split
    · exact hquiet.trans (.of_eq rfl)
    · exact hquiet
  · split <;> exact .of_eq rfl

theorem quiet_usbKeyboardType (chars : Ptr) (n : Nat) (s : Dev) :
    Quiet s (usbKeyboardType usbKeyboardTypingDone chars n s) := by
  unfold usbKeyboardType
  split
  · exact .of_eq rfl
  · split
    · exact quiet_usbKeyboardTypingDone s
    · exact .one rfl ⟨rfl, rfl, fun _ _ => rfl⟩

theorem quiet_typeCmd (data : Mem) (dataLen : Int) (s : Dev) : Quiet s (typeCmd data dataLen s) := by
  unfold typeCmd
  split
  · exact .of_eq rfl
  · exact .trans (.of_eq rfl) (quiet_usbKeyboardType _ _ _)

theorem quiet_writeCleartextPassword (data : Mem) (dataLen : Int) (s : Dev) :
    Quiet s (writeCleartextPassword data dataLen s) := by
  unfold writeCleartextPassword
  split
  · exact quiet_finishCommandResp _ _ (.inl (by decide))
  · exact .of_eq rfl

theorem quiet_readCleartextPassword (data : Mem) (dataLen : Int) (s : Dev) :
    Quiet s (readCleartextPassword data dataLen s) := by
  unfold readCleartextPassword
  split
  · exact quiet_finishCommandResp _ _ (.inl (by decide))
  · exact .of_eq rfl

theorem quiet_startupCmdIter (s : Dev) (h : ¬ OkayNeedsPress s) : Quiet s (startupCmdIter P s) := by
  unfold startupCmdIter
  simp only
  split
  · exact quiet_finishCommand _ _ _ (.inr h)
  · split
    · have hscan := quiet_db2StartupScan P CmdData.startupBlkInfo
        { s with dbVersion := s.rootPage RootPage.dbVersion }
        (show CmdData.startupBlock ≠ CmdData.updateUidBlock by decide)
      split
      · split
        · refine .trans hscan (quiet_finishCommand _ _ _ (.inr ?_))
          refine not_needsPress_of_clears ?_ h
          rw [toControl_db2StartupScan]
          exact .same
        · exact hscan
      · exact .trans (.of_eq rfl) (quiet_finishCommand _ _ _ (.inl (by decide)))
    · exact quiet_finishCommand _ _ _ (.inl (by decide))

theorem quiet_startupCmd (s : Dev) (h : ¬ OkayNeedsPress s) : Quiet s (startupCmd P s) := by
  unfold startupCmd
  simp only
  generalize hs₁ : cmdInit P _ = s₁
  have h₁ : s₁.outputs = s.outputs ∧ ¬ OkayNeedsPress s₁ := by
    rw [← hs₁]
    split
    · exact ⟨rfl, not_needsPress_of_none rfl⟩
    · exact ⟨rfl, h⟩
  have hr : ∀ st, ¬ OkayNeedsPress (enterState st s₁) := fun st =>
    not_needsPress_enterProgressingState st [] h₁.2
  refine .trans (.of_eq h₁.1) ?_
  split
  · exact .trans (quiet_enterState _ _) (.trans (.of_eq rfl) (quiet_startupCmdIter P _ (hr _)))
  · exact .trans (quiet_enterState _ _) (.trans (.of_eq rfl) (quiet_startupCmdIter P _ (hr _)))

theorem quiet_eraseFlashPagesCmd (data : Mem) (dataLen : Int) (s : Dev) (h : ¬ OkayNeedsPress s) :
    Quiet s (eraseFlashPagesCmd data dataLen s) := by
  unfold eraseFlashPagesCmd
  simp only
  split
  · exact quiet_finishCommandResp _ _ (.inr h)
  · split
    · exact .of_eq rfl
    · generalize hs₁ : flashWritePage _ none 0 _ = s₁
      have hquiet : Quiet s s₁ := hs₁ ▸ .trans (.of_eq rfl) (quiet_erase _ _)
      have hctl : s₁.toControl = s.toControl := by
        rw [← hs₁, toControl_flashWritePage]
      have h₁ : ¬ OkayNeedsPress s₁ := not_needsPress_of_clears (hctl ▸ .same) h
      exact hquiet.trans (.trans (quiet_enterProgressingState _ _ _)
        (quiet_finishCommandResp _ _ (.inr (not_needsPress_enterProgressingState _ _ h₁))))

theorem quiet_writeFlashCmd (data : Mem) (dataLen : Int) (s : Dev) :
    Quiet s (writeFlashCmd data dataLen s) := by
  unfold writeFlashCmd
  simp only
  split
  · exact quiet_finishCommandResp _ _ (.inl (by decide))
  · exact quiet_flashWrite _ _ _ s

/-! ### State functions -/

theorem quiet_progressOnlyState {cmd : Command} {data : Mem} {dataLen : Int}
    (h : progressOnlyState cmd data dataLen s = .handled s') : Quiet s s' := by
  unfold progressOnlyState at h
  split at h
  · cases h
    exact quiet_getProgressCmd _ _ s
  · cases h

theorem quiet_uninitializedState {cmd : Command} {data : Mem} {dataLen : Int}
    (hcmd : s.activeCmd = some cmd) (h : uninitializedState P cmd data dataLen s = .handled s') :
    Quiet s s' := by
  unfold uninitializedState at h
  split at h
  · cases h
    exact quiet_getProgressCmd _ _ s
  · cases h
    exact .of_eq rfl
  · cases h
    exact quiet_initializeCmd _ _ s
  · cases h
    exact quiet_finishCommand _ _ s (.inr (not_needsPress_of_active hcmd rfl))
  · cases h
    exact .trans (quiet_cmdDisconnect s) (.one rfl ⟨rfl, rfl, fun _ _ => rfl⟩)
  · split at h
    · cases h
      exact .of_eq rfl
    · cases h
      exact quiet_finishCommandResp _ s (.inl (by decide))
  · cases h

theorem quiet_loggedOutState {cmd : Command} {data : Mem} {dataLen : Int}
    (hcmd : s.activeCmd = some cmd) (h : loggedOutState P cmd data dataLen s = .handled s') :
    Quiet s s' := by
  unfold loggedOutState at h
  split at h
  · cases h
    exact quiet_getProgressCmd _ _ s
  · cases h
    exact quiet_changeMasterPasswordCmd P _ _ s
  · cases h
    exact quiet_initializeCmd _ _ s
  · cases h
    exact .of_eq rfl
  · cases h
    exact .of_eq rfl
  · cases h
    exact .of_eq rfl
  · cases h
    exact quiet_loginCmd _ _ s
  · cases h
    exact quiet_loginTokenCmd _ _ s
  · cases h
    exact quiet_finishCommand _ _ s (.inr (not_needsPress_of_active hcmd rfl))
  · cases h
    exact .trans (quiet_cmdDisconnect s) (.one rfl ⟨rfl, rfl, fun _ _ => rfl⟩)
  · cases h

/-- A record command that waits for its press, or is refused, is quiet. -/
theorem quiet_updateUidPacket {cmd : Command} (data : Mem) (dataLen : Int) (s : Dev)
    (h : updatePressType cmd s ≠ 0) : Quiet s (updateUidPacket P cmd data dataLen s) := by
  unfold updateUidPacket
  simp only
  split
  · exact quiet_finishCommandResp _ s (.inl (by decide))
  · exact quiet_updateUidCmd P s h

/-- The commands that may do without a press what usually needs one. -/
def mayActAtOnce (cmd : Command) : Prop :=
  cmd = .readUid ∨ cmd = .readAllUids ∨ cmd = .updateUids

theorem quiet_loggedInState {cmd : Command} {data : Mem} {dataLen : Int}
    (hcmd : s.activeCmd = some cmd) (hne : ¬ mayActAtOnce cmd)
    (h : loggedInState P cmd data dataLen s = .handled s') : Quiet s s' := by
  unfold loggedInState at h
  split at h
  · cases h
    exact quiet_getProgressCmd _ _ s
  · cases h
    exact quiet_changeMasterPasswordCmd P _ _ s
  · cases h
    exact .of_eq rfl
  · cases h
    exact quiet_getRandBitsCmd _ _ s (not_needsPress_of_active hcmd rfl)
  · exact absurd (.inl rfl) hne
  · exact absurd (.inr (.inr rfl)) hne
  · cases h
    exact quiet_updateUidPacket P _ _ s (by simp [updatePressType])
  · exact absurd (.inr (.inl rfl)) hne
  · cases h
    exact quiet_typeCmd _ _ s
  · cases h
    exact .of_eq rfl
  · cases h
    refine .trans (quiet_enterState _ s) (quiet_finishCommandResp _ _ (.inr ?_))
    exact not_needsPress_enterProgressingState _ _ (not_needsPress_of_active hcmd rfl)
  · cases h
    exact .of_eq rfl
  · cases h
    refine .trans (.of_eq rfl) (quiet_finishCommand _ _ _ (.inr ?_))
    exact not_needsPress_of_active hcmd rfl
  · cases h
    exact quiet_readCleartextPassword _ _ s
  · cases h
    exact quiet_writeCleartextPassword _ _ s
  · cases h

/-- **Handling a command needs no press**, but for the record commands that may
    act at once. -/
theorem quiet_stateFunction {cmd : Command} {data : Mem} {dataLen : Int}
    (hcmd : s.activeCmd = some cmd) (hne : ¬ mayActAtOnce cmd)
    (h : stateFunction P cmd data dataLen s = .handled s') : Quiet s s' := by
  unfold stateFunction at h
  split at h
  · exact quiet_uninitializedState P hcmd h
  · exact quiet_progressOnlyState h
  · exact quiet_progressOnlyState h
  · unfold backingUpDeviceState at h
    split at h
    · cases h
      exact quiet_readBlockCmd P _ _ s (not_needsPress_of_active hcmd rfl)
    · cases h
      refine .trans (quiet_enterState _ s) (quiet_finishCommandResp _ _ (.inr ?_))
      exact not_needsPress_enterProgressingState _ _ (not_needsPress_of_active hcmd rfl)
    · cases h
  · unfold restoringDeviceState at h
    split at h
    · cases h
      exact quiet_writeBlockCmd _ _ s
    · cases h
      exact quiet_eraseBlockCmd _ _ s
    · cases h
      refine .trans (quiet_enterState _ s) (quiet_finishCommandResp _ _ (.inr ?_))
      exact not_needsPress_enterProgressingState _ _ (not_needsPress_of_active hcmd rfl)
    · cases h
  · exact quiet_progressOnlyState h
  · unfold firmwareUpdateState at h
    split at h
    · cases h
      exact quiet_eraseFlashPagesCmd _ _ s (not_needsPress_of_active hcmd rfl)
    · cases h
      exact quiet_writeFlashCmd _ _ s
    · cases h
    · cases h
  · exact quiet_loggedOutState P hcmd h
  · exact quiet_loggedInState P hcmd hne h
  · cases h
  · cases h
  · cases h

/-! ### Events that are not packets -/

/-- Harmless, or the root page that an initialisation writes at its end. -/
def Output.safeIn (st : DeviceState) (o : Output) : Prop :=
  o.isRecordWrite = false ∧ (o.isRootWrite = true → st = .initializing) ∧
    ∀ cmd, okayNeedsPress cmd = true → o.isOkayTo cmd = false

/-- As `safeIn`, or a page request of UPDATE_UID. -/
def Output.movesIn (st : DeviceState) (o : Output) : Prop :=
  (o.isRootWrite = true → st = .initializing) ∧
    ∀ cmd, okayNeedsPress cmd = true → o.isOkayTo cmd = false

/-- An OKAY that needs a press is one to `cmd`. -/
def Output.onlyAnswers (cmd : Command) (o : Output) : Prop :=
  ∀ cmd', okayNeedsPress cmd' = true → o.isOkayTo cmd' = true → cmd' = cmd

theorem Quiet.safeIn (st : DeviceState) (h : Quiet s s') : Emits (Output.safeIn st) s s' :=
  h.mono fun _ ⟨h₁, h₂, h₃⟩ => ⟨h₁, fun h => absurd h (by simp [h₂]), h₃⟩

theorem Quiet.onlyAnswers (cmd : Command) (h : Quiet s s') : Emits (Output.onlyAnswers cmd) s s' :=
  h.mono fun _ ⟨_, _, h₃⟩ cmd' hp ho => absurd ho (by simp [h₃ cmd' hp])

theorem Emits.movesIn {st : DeviceState} (h : Emits (Output.safeIn st) s s') :
    Emits (Output.movesIn st) s s' :=
  h.mono fun _ h => h.2

/-- An answer, and an OKAY that needs a press only to `cmd`. -/
def Output.answersTo (cmd : Command) (o : Output) : Prop :=
  o.isRecordWrite = false ∧ o.isRootWrite = false ∧ o.onlyAnswers cmd

theorem Emits.onlyAnswers {cmd : Command} (h : Emits (Output.answersTo cmd) s s') :
    Emits (Output.onlyAnswers cmd) s s' :=
  h.mono fun _ h => h.2.2

theorem answersTo_finishCommandMulti {cmd : Command} (resp : CommandResponse) (mr : Int)
    (payload : Option Bytes) (n : Nat) (s : Dev) (h : s.activeCmd = some cmd) :
    Emits (Output.answersTo cmd) s (finishCommandMulti resp mr payload n s) := by
  refine .one rfl ⟨rfl, rfl, fun cmd' _ ho => ?_⟩
  have hc : s.activeCmd = some cmd' := (of_decide_eq_true ho).2
  exact Option.some.inj (hc.symm.trans h)

theorem answersTo_readUidCmdComplete {s : Dev} (h : s.activeCmd = some .readUid) :
    Emits (Output.answersTo .readUid) s (readUidCmdComplete P s) := by
  unfold readUidCmdComplete
  simp only
  refine Emits.trans ?_ (answersTo_finishCommandMulti _ _ _ _ _ ?_)
  · exact .of_eq rfl
  · exact h

theorem onlyAnswers_flashWritePage (cmd : Command) (dest : Nat) (src : Option Ptr) (count : Int)
    (s : Dev) : Emits (Output.onlyAnswers cmd) s (flashWritePage dest src count s) := by
  unfold flashWritePage
  split
  · exact .one rfl (fun _ _ ho => nomatch ho)
  · exact .one rfl (fun _ _ ho => nomatch ho)

theorem safe_flashWriteRoot (dest : Nat) (count : Int) (s : Dev) :
    Emits (Output.safeIn .initializing) s
      (flashWritePage dest (some ⟨.rootPage, 0⟩) count s) := by
  unfold flashWritePage
  split
  · exact .one rfl ⟨rfl, fun _ => rfl, fun _ _ => rfl⟩
  · exact .one rfl ⟨rfl, fun _ => rfl, fun _ _ => rfl⟩

theorem moves_flashWriteRecord (st : DeviceState) (dest : Nat) (count : Int) (s : Dev) :
    Emits (Output.movesIn st) s
      (flashWritePage dest (some ⟨.cmdData, CmdData.updateUidBlock⟩) count s) := by
  unfold flashWritePage
  split
  · exact .one rfl ⟨fun h => (nomatch h), fun _ _ => rfl⟩
  · exact .one rfl ⟨fun h => (nomatch h), fun _ _ => rfl⟩

theorem safe_finalizeRootPageCheck (s : Dev) :
    Emits (Output.safeIn .initializing) s (finalizeRootPageCheck P s) := by
  unfold finalizeRootPageCheck
  simp only
  generalize hs₁ : randFill Nat.xor _ _ _ = s₁
  have hout : s₁.outputs = s.outputs := by rw [← hs₁, outputs_randFill]
  split
  · exact .trans (.of_eq hout) (safe_flashWriteRoot _ _ _)
  · exact .of_eq rfl

theorem safe_initializingRandUpdate (s : Dev) :
    Emits (Output.safeIn .initializing) s (initializingRandUpdate P s) := by
  unfold initializingRandUpdate
  simp only
  refine .trans ?_ (safe_finalizeRootPageCheck P _)
  split
  · exact .trans (.of_eq rfl) ((quiet_getProgressCheck _).safeIn _)
  · exact .of_eq rfl

theorem quiet_commandRandUpdate (s : Dev) : Quiet s (commandRandUpdate P s) := by
  unfold commandRandUpdate
  split
  · exact quiet_getRandBitsCmdCheck s (not_needsPress_of_active ‹_› rfl)
  · exact quiet_loginCmdIter P s (not_needsPress_of_active ‹_› rfl)
  · exact .of_eq rfl

theorem safe_cmdRandUpdate (s : Dev) :
    Emits (Output.safeIn s.deviceState) s (cmdRandUpdate P s) := by
  unfold cmdRandUpdate
  refine .trans ?_ ((quiet_commandRandUpdate P _).safeIn _)
  split
  · rename_i hst
    rw [hst]
    exact safe_initializingRandUpdate P s
  · exact .of_eq rfl

theorem safe_initializingWriteComplete (s : Dev) :
    Emits (Output.safeIn .initializing) s (initializingWriteComplete P s) := by
  unfold initializingWriteComplete
  simp only
  generalize hs₁ : getProgressCheck _ = s₁
  have h₁ : Emits (Output.safeIn .initializing) s s₁ := by
    rw [← hs₁]
    exact .trans (.of_eq rfl) ((quiet_getProgressCheck _).safeIn _)
  refine h₁.trans ?_
  split
  · exact (quiet_writeInitialBlock P _ s₁).safeIn _
  · split
    · exact safe_finalizeRootPageCheck P s₁
    · refine Quiet.safeIn _ ?_
      have hscan := quiet_db2StartupScan P CmdData.initDataBlkInfo
        { s₁ with headerVersion := 2, dbVersion := 2 }
        (show CmdData.initDataBlock ≠ CmdData.updateUidBlock by decide)
      refine .trans (.of_eq rfl) ?_
      split
      · exact hscan.trans (quiet_enterState _ _)
      · exact hscan.trans (quiet_enterState _ _)

theorem quiet_wipingWriteComplete (s : Dev) : Quiet s (wipingWriteComplete s) := by
  unfold wipingWriteComplete
  simp only
  generalize hs₁ : getProgressCheck _ = s₁
  have h₁ : Quiet s s₁ := by
    rw [← hs₁]
    exact .trans (.of_eq rfl) (quiet_getProgressCheck _)
  refine h₁.trans ?_
  split
  · exact quiet_enterState _ s₁
  · exact quiet_erase _ s₁

theorem quiet_erasingPagesWriteComplete (s : Dev) : Quiet s (erasingPagesWriteComplete s) := by
  unfold erasingPagesWriteComplete
  simp only
  generalize hs₁ : getProgressCheck _ = s₁
  have h₁ : Quiet s s₁ := by
    rw [← hs₁]
    exact .trans (.of_eq rfl) (quiet_getProgressCheck _)
  refine h₁.trans ?_
  split
  · exact quiet_enterState _ s₁
  · exact quiet_erase _ s₁

theorem safe_stateWriteComplete (s : Dev) :
    Emits (Output.safeIn s.deviceState) s (stateWriteComplete P s) := by
  unfold stateWriteComplete
  split
  · rename_i hst
    rw [hst]
    exact safe_initializingWriteComplete P s
  · exact (quiet_wipingWriteComplete s).safeIn _
  · exact (quiet_erasingPagesWriteComplete s).safeIn _
  · exact .of_eq rfl

@[simp] theorem cmdData_flashWritePage (dest : Nat) (src : Option Ptr) (count : Int) (s : Dev) :
    (flashWritePage dest src count s).cmdData = s.cmdData := by
  unfold flashWritePage
  split <;> rfl

/-- The number of page writes the UPDATE_UID in `cmd_data` has completed. -/
def writeCount (s : Dev) : Nat := s.cmdData.get32 CmdData.updateUidWriteCount

/-- A completed page write of UPDATE_UID is answered, or the old block of a moved
    record is written as well. -/
theorem sends_updateUidCmdWriteFinished (st : DeviceState) (s : Dev) (h : ¬ OkayNeedsPress s) :
    Quiet s (updateUidCmdWriteFinished P s) ∨
      Emits (Output.movesIn st) s (updateUidCmdWriteFinished P s) ∧
        writeCount (updateUidCmdWriteFinished P s) = 1 := by
  unfold updateUidCmdWriteFinished
  simp only
  split
  · rename_i hcount
    split
    · refine .inr ⟨.trans (.of_eq rfl) (moves_flashWriteRecord st _ _ _), ?_⟩
      unfold writeCount
      rw [cmdData_flashWritePage]
      refine .trans (Mem.get32_congr fun i hi => Scratch.toCmdData_apply_of_lt _ _ ?_ ?_) hcount
      · simp only [CmdData.updateUidWriteCount, CmdData.updateUidBlock]
        omega
      · simp only [CmdData.updateUidWriteCount, CmdData.updateUidBlkInfo]
        omega
    · exact .inl (.trans (.of_eq rfl) (quiet_finishCommandResp _ _ (.inr h)))
  · exact .inl (.trans (.of_eq rfl) (quiet_finishCommandResp _ _ (.inr h)))

/-- What the flash completion does for the active command. -/
theorem sends_commandWriteComplete (st : DeviceState) (s : Dev) :
    Quiet s (commandWriteComplete P s) ∨
      Emits (Output.movesIn st) s (commandWriteComplete P s) ∧
        writeCount (commandWriteComplete P s) = 1 := by
  unfold commandWriteComplete
  split
  · exact .inl (quiet_finishCommandResp _ s (.inr (not_needsPress_of_active ‹_› rfl)))
  · exact .inl (quiet_finishCommandResp _ s (.inr (not_needsPress_of_active ‹_› rfl)))
  · exact .inl (quiet_finishCommandResp _ s (.inr (not_needsPress_of_active ‹_› rfl)))
  · exact .inl (quiet_finishCommandResp _ s (.inr (not_needsPress_of_active ‹_› rfl)))
  · exact .inl (quiet_finishCommandResp _ s (.inr (not_needsPress_of_active ‹_› rfl)))
  · exact sends_updateUidCmdWriteFinished P st s (not_needsPress_of_active ‹_› rfl)
  · exact sends_updateUidCmdWriteFinished P st s (not_needsPress_of_active ‹_› rfl)
  · exact .inl (quiet_startupCmdIter P s (not_needsPress_of_active ‹_› rfl))
  · exact .inl (.of_eq rfl)

theorem sends_flashWriteComplete (s : Dev) :
    Emits (Output.safeIn s.deviceState) s (flashWriteComplete P s) ∨
      Emits (Output.movesIn s.deviceState) s (flashWriteComplete P s) ∧
        writeCount (flashWriteComplete P s) = 1 := by
  have hstate := safe_stateWriteComplete P s
  rcases sends_commandWriteComplete P s.deviceState (stateWriteComplete P s) with h | ⟨h, hw⟩
  · exact .inl (hstate.trans (h.safeIn _))
  · exact .inr ⟨hstate.movesIn.trans h, hw⟩

theorem quiet_flashWriteFailed (s : Dev) : Quiet s (flashWriteFailed s) := by
  unfold flashWriteFailed
  split
  · exact quiet_finishCommandResp _ s (.inl (by decide))
  · exact .of_eq rfl

theorem quiet_timerTimeout (s : Dev) : Quiet s (timerTimeout s) := by
  unfold timerTimeout
  simp only
  split
  · exact .trans (.of_eq rfl) (quiet_usbKeyboardType _ _ _)
  · exact .of_eq rfl

theorem quiet_buttonReleaseDisconnected (s : Dev) : Quiet s (buttonReleaseDisconnected s) := by
  unfold buttonReleaseDisconnected
  simp only
  split
  · exact .of_eq rfl
  · split
    · generalize hs₁ : timerTimeout _ = s₁
      have h₁ : Quiet s s₁ := by
        rw [← hs₁]
        exact .trans (.of_eq rfl) (quiet_timerTimeout _)
      exact h₁.trans (.of_eq rfl)
    · generalize hs₁ : usbKeyboardType _ _ _ _ = s₁
      have h₁ : Quiet s s₁ := by
        rw [← hs₁]
        exact .trans (.of_eq rfl) (quiet_usbKeyboardType _ _ _)
      exact h₁.trans (.of_eq rfl)

theorem quiet_longButtonPressDisconnected (s : Dev) :
    Quiet s (longButtonPressDisconnected P s) := by
  unfold longButtonPressDisconnected
  simp only
  split
  · split
    · exact .trans (.of_eq rfl) (quiet_usbKeyboardType _ _ _)
    · exact .trans (quiet_timerTimeout s) (.of_eq rfl)
  · exact .of_eq rfl

theorem quiet_usbTxKeyboard (s : Dev) : Quiet s (usbTxKeyboard s) := by
  unfold usbTxKeyboard
  split
  · split
    · exact .trans (.of_eq rfl) (quiet_usbKeyboardTypingDone _)
    · exact .of_eq rfl
  · exact .of_eq rfl

theorem quiet_usbKeyboardIdle (elapsed : Bool) (s : Dev) : Quiet s (usbKeyboardIdle elapsed s) := by
  unfold usbKeyboardIdle
  split
  · exact .one rfl ⟨rfl, rfl, fun _ _ => rfl⟩
  · exact .of_eq rfl

theorem quiet_loginPressed (key : Option Bytes) (s : Dev) (h : ¬ OkayNeedsPress s) :
    Quiet s (loginPressed key s) := by
  unfold loginPressed
  split
  · refine .trans ?_ (quiet_enterState _ _)
    refine .trans ?_ (quiet_finishCommandResp _ _ (.inr ?_))
    · exact .of_eq rfl
    · exact h
  · exact quiet_finishCommandResp _ s (.inr h)

/-- One round of READ_ALL_UIDS answers that command only. -/
theorem answersTo_readAllUidsCmdIter {s : Dev} (h : s.activeCmd = some .readAllUids) :
    Emits (Output.answersTo .readAllUids) s (readAllUidsCmdIter P s) := by
  unfold readAllUidsCmdIter
  simp only
  split
  · refine Emits.trans ?_ (answersTo_finishCommandMulti _ _ _ _ _ ?_)
    · exact .of_eq rfl
    · exact h
  · split
    · exact .of_eq rfl
    · refine Emits.trans ?_ (answersTo_finishCommandMulti _ _ _ _ _ ?_)
      · exact .of_eq rfl
      · exact h

/-- A short press carries out the active command, if that is what it waits for. -/
theorem sends_buttonPressed (s : Dev) :
    Quiet s (buttonPressed P s) ∨
      ∃ cmd, s.activeCmd = some cmd ∧ pressKind cmd = some .short ∧
        Emits (Output.onlyAnswers cmd) s (buttonPressed P s) := by
  unfold buttonPressed
  split
  · exact .inl (quiet_finishCommand _ _ s (.inr (not_needsPress_of_active ‹_› rfl)))
  · exact .inr ⟨_, ‹_›, rfl, .trans (.of_eq rfl) (onlyAnswers_flashWritePage _ _ _ _ _)⟩
  · rename_i hcmd
    have hn : ¬ OkayNeedsPress s := not_needsPress_of_active hcmd rfl
    left
    split
    · simp only
      split
      · exact .trans (.of_eq rfl) (quiet_loginCmdIter P _ hn)
      · exact quiet_loginPressed _ s hn
    · exact quiet_finishCommandResp _ s (.inr hn)
  · left
    split
    · exact quiet_loginPressed _ s (not_needsPress_of_active ‹_› rfl)
    · exact .of_eq rfl
  · exact .inr ⟨_, ‹_›, rfl, .trans (.of_eq rfl) (onlyAnswers_flashWritePage _ _ _ _ _)⟩
  · exact .inr ⟨_, ‹_›, rfl, (answersTo_readUidCmdComplete P ‹_›).onlyAnswers⟩
  · exact .inl (quiet_finishCommandResp _ s (.inr (not_needsPress_of_active ‹_› rfl)))
  · exact .inl (.of_eq rfl)

theorem onlyAnswers_finishCommandResp {cmd : Command} (resp : CommandResponse) {s : Dev}
    (h : s.activeCmd = some cmd) :
    Emits (Output.onlyAnswers cmd) s (finishCommandResp resp s) :=
  (answersTo_finishCommandMulti _ _ _ _ s h).onlyAnswers

/-- A long press carries out the active command, if that is what it waits for. -/
theorem sends_longButtonPressed (s : Dev) :
    Quiet s (longButtonPressed P s) ∨
      ∃ cmd, s.activeCmd = some cmd ∧ pressKind cmd = some .long ∧
        Emits (Output.onlyAnswers cmd) s (longButtonPressed P s) := by
  unfold longButtonPressed
  split
  · exact .inr ⟨_, ‹_›, rfl, (answersTo_readAllUidsCmdIter P ‹_›).onlyAnswers⟩
  · exact .inr ⟨_, ‹_›, rfl, .trans (.of_eq rfl) (onlyAnswers_flashWritePage _ _ _ _ _)⟩
  · refine .inr ⟨_, ‹_›, rfl, .trans (onlyAnswers_finishCommandResp .okay ‹_›) ?_⟩
    exact (quiet_enterState _ _).onlyAnswers _
  · refine .inr ⟨_, ‹_›, rfl, .trans (onlyAnswers_finishCommandResp .okay ‹_›) ?_⟩
    simp only
    generalize finishCommandResp .okay s = s₁
    refine .trans ?_ ((quiet_enterProgressingState _ _ _).onlyAnswers _)
    refine .trans ?_ (onlyAnswers_flashWritePage _ _ _ _ _)
    exact .of_eq rfl
  · refine .inr ⟨_, ‹_›, rfl, .trans (onlyAnswers_finishCommandResp .okay ‹_›) ?_⟩
    exact .trans (.of_eq rfl) ((quiet_enterState _ _).onlyAnswers _)
  · refine .inr ⟨_, ‹_›, rfl, .trans (onlyAnswers_finishCommandResp .okay ‹_›) ?_⟩
    exact (quiet_enterState _ _).onlyAnswers _
  · rename_i hcmd
    refine .inr ⟨_, hcmd, rfl, ?_⟩
    unfold initializeCmdComplete
    simp only
    generalize hs₁ : writeInitialBlock P 0 _ = s₁
    have hquiet : Quiet s s₁ := by
      rw [← hs₁]
      refine .trans ?_ (quiet_writeInitialBlock P 0 _)
      exact .of_eq rfl
    have hcmd₁ : s₁.activeCmd = some .initializeDevice := by
      have hctl : s₁.toControl = s.toControl := by rw [← hs₁, toControl_writeInitialBlock]
      exact (congrArg Control.activeCmd hctl).trans hcmd
    refine (hquiet.onlyAnswers _).trans (.trans (onlyAnswers_finishCommandResp .okay hcmd₁) ?_)
    generalize finishCommandResp .okay s₁ = s₂
    refine .trans ?_ ((quiet_enterProgressingState _ _ _).onlyAnswers _)
    exact .of_eq rfl
  · rename_i hcmd
    split
    · exact .inr ⟨_, hcmd, rfl, .trans (.of_eq rfl) (onlyAnswers_flashWritePage _ _ _ _ _)⟩
    · exact .inl (quiet_finishCommandResp _ s (.inr (not_needsPress_of_active hcmd rfl)))
  · exact .inl (.of_eq rfl)

/-- What an event other than a packet can send. -/
inductive Sends (s : Dev) : Event → Dev → Prop
  | safe {e : Event} {s' : Dev} : Emits (Output.safeIn s.deviceState) s s' → Sends s e s'
  | moved {e : Event} {s' : Dev} : Emits (Output.movesIn s.deviceState) s s' → writeCount s' = 1 → Sends s e s'
  | pressed {k cmd} {e : Event} {s' : Dev} : Pressed s k e → s.activeCmd = some cmd →
      pressKind cmd = some k → Emits (Output.onlyAnswers cmd) s s' → Sends s e s'
  | sent {s' : Dev} : s.rawHidTxPending = true → s.activeCmd = some .readAllUids →
      Emits (Output.onlyAnswers .readAllUids) s s' → Sends s .packetSent s'

theorem Sends.of_quiet {e : Event} (h : Quiet s s') : Sends s e s' := .safe (h.safeIn _)

/-- A flash completion, with `s₀` the state the driver left. -/
theorem sends_completion {e : Event} {s s₀ : Dev} (hout : s₀.outputs = s.outputs)
    (hst : s₀.deviceState = s.deviceState) : Sends s e (flashWriteComplete P s₀) := by
  rcases sends_flashWriteComplete P s₀ with h | ⟨h, hw⟩
  · exact .safe (.trans (.of_eq hout) (hst ▸ h))
  · exact .moved (.trans (.of_eq hout) (hst ▸ h)) hw

theorem sends_flashHandler (s : Dev) (eop : Bool) {e : Event} :
    Sends s e (flashHandler P eop s) := by
  have hout : (pageErased s).outputs = s.outputs := rfl
  have hst : (pageErased s).deviceState = s.deviceState := rfl
  unfold flashHandler
  generalize pageErased s = s₁ at hout hst ⊢
  split
  · split
    · simp only
      split
      · exact .of_quiet (.of_eq hout)
      · exact sends_completion P hout hst
    · refine .of_quiet (.trans ?_ (quiet_flashWriteFailed _))
      exact .of_eq rfl
  · exact .of_quiet (.of_eq rfl)

@[simp] theorem outputs_programLoop (n : Nat) (err : Option Nat) (s : Dev) :
    (programLoop n err s).2.outputs = s.outputs := by
  have hword : ∀ s, (programDoubleWord s).outputs = s.outputs := by
    intro s
    unfold programDoubleWord
    split <;> rfl
  induction n generalizing err s with
  | zero => rfl
  | succ n ih =>
    unfold programLoop
    split
    · rfl
    · simp only
      split
      · exact hword s
      · exact (ih _ _).trans (hword s)

theorem sends_flashIdle (s : Dev) (err : Option Nat) {e : Event} :
    Sends s e (flashIdle P err s) := by
  have hout := outputs_programLoop 32 err s
  have hst : (programLoop 32 err s).2.deviceState = s.deviceState :=
    congrArg Control.deviceState (toControl_programLoop s 32 err)
  unfold flashIdle
  generalize programLoop 32 err s = r at hout hst ⊢
  split
  · simp only
    split
    · refine .of_quiet (.trans ?_ (quiet_flashWriteFailed _))
      exact .of_eq hout
    · split
      · exact sends_completion P hout hst
      · exact .of_quiet (.of_eq hout)
  · exact .of_quiet (.of_eq rfl)

/-- **What an event that is not a packet sends**: what needs a press is sent at
    the press that the active command waits for, when UPDATE_UID goes on to the
    old block of a record, or when READ_ALL_UIDS goes on to the next record. -/
theorem sends_step (s : Dev) {e : Event} (he : ∀ packet, e ≠ .hidRx packet)
    (hh : s.hung = false) : Sends s e (step P s e) := by
  unfold step
  rw [if_neg (by simp [hh])]
  cases e with
  | hidRx packet => exact absurd rfl (he packet)
  | packetSent =>
    dsimp only
    split
    · rename_i htx
      unfold cmdPacketSent
      split
      · rename_i hcmd
        refine .sent htx hcmd (.trans ?_ (answersTo_readAllUidsCmdIter P hcmd).onlyAnswers)
        exact .of_eq rfl
      · exact .of_quiet (.of_eq rfl)
    · exact .of_quiet (.of_eq rfl)
  | buttonDown =>
    dsimp only
    split
    · exact .of_quiet (.of_eq rfl)
    · rename_i hb
      rw [Bool.not_eq_true] at hb
      unfold buttonPress
      split
      · rename_i hw
        have hsend := sends_buttonPressed P (endButtonPressWait s)
        generalize buttonPressed P (endButtonPressWait s) = s₁ at hsend
        rcases hsend with h | ⟨cmd, hcmd, hk, h⟩
        · exact .of_quiet (h.trans (.of_eq rfl))
        · have hp : Pressed s .short .buttonDown := ⟨rfl, hb, hw⟩
          exact .pressed hp hcmd hk (h.trans (.of_eq rfl))
      · split
        · exact .of_quiet (.of_eq rfl)
        · split
          · exact .of_quiet (.of_eq rfl)
          · exact .of_quiet (.one rfl ⟨rfl, rfl, fun _ _ => rfl⟩)
  | buttonUp =>
    dsimp only
    split
    · unfold buttonRelease
      split
      · exact .of_quiet (.of_eq rfl)
      · split
        · have hquiet := quiet_buttonReleaseDisconnected s
          exact .of_quiet (hquiet.trans (.of_eq rfl))
        · exact .of_quiet (.of_eq rfl)
    · exact .of_quiet (.of_eq rfl)
  | buttonHeld =>
    dsimp only
    split
    · rename_i hb
      unfold longButtonPress
      split
      · rename_i hw
        rcases sends_longButtonPressed P (endLongButtonPressWait { s with buttonState := false })
          with h | ⟨cmd, hcmd, hk, h⟩
        · exact .of_quiet (.trans (.of_eq rfl) h)
        · have hp : Pressed s .long .buttonHeld := ⟨rfl, hb, hw⟩
          exact .pressed hp hcmd hk (.trans (.of_eq rfl) h)
      · split
        · refine .of_quiet (.trans ?_ (quiet_longButtonPressDisconnected P _))
          exact .of_eq rfl
        · exact .of_quiet (.of_eq rfl)
    · exact .of_quiet (.of_eq rfl)
  | blinkTimeout =>
    dsimp only
    split
    · unfold blinkTimeout
      split
      · refine .of_quiet (.trans ?_ (quiet_finishCommandResp _ _ (.inl (by decide))))
        exact .of_eq rfl
      · exact .of_quiet (.of_eq rfl)
    · exact .of_quiet (.of_eq rfl)
  | timer =>
    dsimp only
    split
    · have hquiet := quiet_timerTimeout s
      exact .of_quiet (hquiet.trans (.of_eq rfl))
    · exact .of_quiet (.of_eq rfl)
  | rtcWord w =>
    have hsafe := safe_cmdRandUpdate P { s with rtcRand := s.rtcRand.put w }
    exact .safe (.trans (.of_eq rfl) hsafe)
  | rngWord w =>
    have hsafe := safe_cmdRandUpdate P { s with rngRand := s.rngRand.put w }
    exact .safe (.trans (.of_eq rfl) hsafe)
  | flashHandler eop => exact sends_flashHandler P s eop
  | flashIdle err => exact sends_flashIdle P s err
  | txKeyboard => exact .of_quiet (quiet_usbTxKeyboard s)
  | keyboardIdle elapsed => exact .of_quiet (quiet_usbKeyboardIdle elapsed s)

end SignetBase.Firmware
