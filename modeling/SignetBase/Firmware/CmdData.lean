/-
  SignetBase/Firmware/CmdData.lean
  ================================
  **What happens to `cmd_data` between packets.**

  `cmd_data` is one union for the parameters of all commands, and the handlers
  that run at a press, at a random word or at a flash completion trust that it
  still holds those of the active command.  While the device is logged in or out
  and does not write records, only the handler of the active command itself
  touches it (`cmdData_tick`).
-/
import SignetBase.Firmware.Transitions

namespace SignetBase.Firmware

open Control

variable (P : Platform)

/-! ### Functions that leave it alone -/

@[simp] theorem cmdData_finishCommandMulti (resp : CommandResponse) (mr : Int)
    (payload : Option Bytes) (n : Nat) (s : Dev) :
    (finishCommandMulti resp mr payload n s).cmdData = s.cmdData := rfl

@[simp] theorem cmdData_finishCommand (resp : CommandResponse) (payload : Bytes) (s : Dev) :
    (finishCommand resp payload s).cmdData = s.cmdData := rfl

@[simp] theorem cmdData_finishCommandResp (resp : CommandResponse) (s : Dev) :
    (finishCommandResp resp s).cmdData = s.cmdData := rfl

@[simp] theorem cmdData_getProgressCheck (s : Dev) : (getProgressCheck s).cmdData = s.cmdData := by
  unfold getProgressCheck
  split
  · simp only
    split
    · rfl
    · split <;> rfl
  · rfl

@[simp] theorem cmdData_enterState (st : DeviceState) (s : Dev) :
    (enterState st s).cmdData = s.cmdData :=
  cmdData_getProgressCheck _

@[simp] theorem cmdData_usbKeyboardTypingDone (s : Dev) :
    (usbKeyboardTypingDone s).cmdData = s.cmdData := by
  unfold usbKeyboardTypingDone
  simp only
  split
  · split <;> rfl
  · split <;> rfl

@[simp] theorem cmdData_usbKeyboardType (chars : Ptr) (n : Nat) (s : Dev) :
    (usbKeyboardType usbKeyboardTypingDone chars n s).cmdData = s.cmdData := by
  unfold usbKeyboardType
  split
  · rfl
  · split
    · exact cmdData_usbKeyboardTypingDone s
    · rfl

@[simp] theorem cmdData_timerTimeout (s : Dev) : (timerTimeout s).cmdData = s.cmdData := by
  unfold timerTimeout
  simp only
  split
  · exact cmdData_usbKeyboardType _ _ _
  · rfl

@[simp] theorem toBuffers_programLoop (n : Nat) (err : Option Nat) (s : Dev) :
    (programLoop n err s).2.toBuffers = s.toBuffers := by
  have hword : ∀ s, (programDoubleWord s).toBuffers = s.toBuffers := by
    intro s
    unfold programDoubleWord
    split <;> rfl
  induction n generalizing err s with
  | zero => rfl
  | succ n ih =>
    unfold programLoop
    split
    · rfl
    · simp only
      split
      · exact hword s
      · exact (ih _ _).trans (hword s)

/-- The commands that a flash completion continues with new contents of
    `cmd_data`. -/
def writesRecords (cmd : Command) : Prop := cmd = .updateUid ∨ cmd = .updateUids ∨ cmd = .startup

theorem cmdData_commandWriteComplete {s : Dev} {cmd : Command} (hcmd : s.activeCmd = some cmd)
    (hrec : ¬ writesRecords cmd) : (commandWriteComplete P s).cmdData = s.cmdData := by
  unfold commandWriteComplete
  rw [hcmd]
  cases cmd with
  | updateUid => exact absurd (.inl rfl) hrec
  | updateUids => exact absurd (.inr (.inl rfl)) hrec
  | startup => exact absurd (.inr (.inr rfl)) hrec
  | _ => rfl

/-- Logging in and out is no operation that flash completions continue. -/
theorem cmdData_flashWriteComplete {s : Dev} {cmd : Command} (hcmd : s.activeCmd = some cmd)
    (hrec : ¬ writesRecords cmd)
    (hst : s.deviceState = .loggedOut ∨ s.deviceState = .loggedIn) :
    (flashWriteComplete P s).cmdData = s.cmdData := by
  have hstate : stateWriteComplete P s = s := by
    unfold stateWriteComplete
    rcases hst with hst | hst <;> rw [hst]
  unfold flashWriteComplete
  rw [hstate]
  exact cmdData_commandWriteComplete P hcmd hrec

@[simp] theorem cmdData_flashWriteFailed (s : Dev) : (flashWriteFailed s).cmdData = s.cmdData := by
  unfold flashWriteFailed
  split <;> rfl

theorem cmdData_flashHandler {s : Dev} {cmd : Command} (hcmd : s.activeCmd = some cmd)
    (hrec : ¬ writesRecords cmd)
    (hst : s.deviceState = .loggedOut ∨ s.deviceState = .loggedIn) (eop : Bool) :
    (flashHandler P eop s).cmdData = s.cmdData := by
  unfold flashHandler
  split
  · split
    · simp only
      split
      · rfl
      · have hcmd' : ({ pageErased s with flashState := .idle } : Dev).activeCmd = some cmd := hcmd
        exact cmdData_flashWriteComplete P hcmd' hrec hst
    · exact cmdData_flashWriteFailed _
  · rfl

theorem cmdData_flashIdle {s : Dev} {cmd : Command} (hcmd : s.activeCmd = some cmd)
    (hrec : ¬ writesRecords cmd)
    (hst : s.deviceState = .loggedOut ∨ s.deviceState = .loggedIn) (err : Option Nat) :
    (flashIdle P err s).cmdData = s.cmdData := by
  have hctl := toControl_programLoop s 32 err
  have hbuf := toBuffers_programLoop 32 err s
  unfold flashIdle
  generalize programLoop 32 err s = r at hctl hbuf ⊢
  have hdata : r.2.cmdData = s.cmdData := congrArg Buffers.cmdData hbuf
  split
  · simp only
    split
    · exact (cmdData_flashWriteFailed _).trans hdata
    · split
      · have hcmd' : ({ r.2 with flashState := .idle } : Dev).activeCmd = some cmd :=
          (congrArg Control.activeCmd hctl).trans hcmd
        have hst' : r.2.deviceState = .loggedOut ∨ r.2.deviceState = .loggedIn := by
          rw [show r.2.deviceState = s.deviceState from congrArg Control.deviceState hctl]
          exact hst
        exact (cmdData_flashWriteComplete P hcmd' hrec hst').trans hdata
      · exact hdata
  · rfl

/-- What an event that is neither a packet nor the driver's does to `cmd_data`. -/
theorem cmdData_tick_of_not_flash {s : Dev} {cmd : Command} (hcmd : s.activeCmd = some cmd)
    (hst : s.deviceState = .loggedOut ∨ s.deviceState = .loggedIn) {e : Event}
    (he : ∀ packet, e ≠ .hidRx packet) (hhandler : ∀ eop, e ≠ .flashHandler eop)
    (hidle : ∀ err, e ≠ .flashIdle err) :
    (step P s e).cmdData = s.cmdData ∨
      (e = .packetSent ∧ cmd = .readAllUids ∧ (step P s e).cmdData =
        (readAllUidsCmdIter P { s with rawHidTxPending := false }).cmdData) ∨
      (Pressed s .short e ∧ (step P s e).cmdData =
        (buttonPressed P (endButtonPressWait s)).cmdData) ∨
      (Pressed s .long e ∧ (step P s e).cmdData =
        (longButtonPressed P (endLongButtonPressWait { s with buttonState := false })).cmdData) ∨
      ∃ s₀, s₀.cmdData = s.cmdData ∧ s₀.activeCmd = s.activeCmd ∧
        (step P s e).cmdData = (commandRandUpdate P s₀).cmdData := by
  have hdisc : s.deviceState ≠ .disconnected := by
    rcases hst with hst | hst <;> simp [hst]
  have hrand : ∀ s₀ : Dev, s₀.deviceState = s.deviceState →
      cmdRandUpdate P s₀ = commandRandUpdate P s₀ := by
    intro s₀ h₀
    unfold cmdRandUpdate
    rw [if_neg]
    rw [h₀]
    rcases hst with hst | hst <;> simp [hst]
  unfold step
  split
  · exact .inl rfl
  · cases e with
    | hidRx packet => exact absurd rfl (he packet)
    | packetSent =>
      dsimp only
      split
      · unfold cmdPacketSent
        split
        · rename_i hread
          exact .inr (.inl ⟨rfl, Option.some.inj (hcmd.symm.trans hread), rfl⟩)
        · exact .inl rfl
      · exact .inl rfl
    | buttonDown =>
      dsimp only
      split
      · exact .inl rfl
      · rename_i hb
        rw [Bool.not_eq_true] at hb
        unfold buttonPress
        split
        · exact .inr (.inr (.inl ⟨⟨rfl, hb, ‹_›⟩, rfl⟩))
        · split <;> exact .inl rfl
    | buttonUp =>
      left
      dsimp only
      split
      · unfold buttonRelease
        split <;> rfl
      · rfl
    | buttonHeld =>
      dsimp only
      split
      · rename_i hb
        unfold longButtonPress
        split
        · exact .inr (.inr (.inr (.inl ⟨⟨rfl, hb, ‹_›⟩, rfl⟩)))
        · exact .inl rfl
      · exact .inl rfl
    | blinkTimeout =>
      left
      dsimp only
      split
      · unfold blinkTimeout
        split <;> rfl
      · rfl
    | timer =>
      left
      dsimp only
      split
      · exact cmdData_timerTimeout s
      · rfl
    | rtcWord w =>
      right; right; right; right
      refine ⟨{ s with rtcRand := s.rtcRand.put w }, rfl, rfl, ?_⟩
      dsimp only
      rw [hrand { s with rtcRand := s.rtcRand.put w } rfl]
    | rngWord w =>
      right; right; right; right
      refine ⟨{ s with rngRand := s.rngRand.put w }, rfl, rfl, ?_⟩
      dsimp only
      rw [hrand { s with rngRand := s.rngRand.put w } rfl]
    | flashHandler eop => exact absurd rfl (hhandler eop)
    | flashIdle err => exact absurd rfl (hidle err)
    | txKeyboard =>
      left
      simp only [usbTxKeyboard]
      split
      · split
        · exact cmdData_usbKeyboardTypingDone _
        · rfl
      · rfl
    | keyboardIdle elapsed =>
      left
      simp only [usbKeyboardIdle]
      split <;> rfl

/-- **Between packets only the handler of the active command touches `cmd_data`**,
    in the states one logs in from and to. -/
theorem cmdData_tick {s : Dev} {cmd : Command} (hcmd : s.activeCmd = some cmd)
    (hrec : ¬ writesRecords cmd)
    (hst : s.deviceState = .loggedOut ∨ s.deviceState = .loggedIn) {e : Event}
    (he : ∀ packet, e ≠ .hidRx packet) :
    (step P s e).cmdData = s.cmdData ∨
      (e = .packetSent ∧ cmd = .readAllUids ∧ (step P s e).cmdData =
        (readAllUidsCmdIter P { s with rawHidTxPending := false }).cmdData) ∨
      (Pressed s .short e ∧ (step P s e).cmdData =
        (buttonPressed P (endButtonPressWait s)).cmdData) ∨
      (Pressed s .long e ∧ (step P s e).cmdData =
        (longButtonPressed P (endLongButtonPressWait { s with buttonState := false })).cmdData) ∨
      ∃ s₀, s₀.cmdData = s.cmdData ∧ s₀.activeCmd = s.activeCmd ∧
        (step P s e).cmdData = (commandRandUpdate P s₀).cmdData := by
  have hflash : ∀ m : Dev, m.cmdData = s.cmdData → (if s.hung then s else m).cmdData = s.cmdData := by
    intro m hm
    split
    · rfl
    · exact hm
  cases e with
  | flashHandler eop => exact .inl (hflash _ (cmdData_flashHandler P hcmd hrec hst eop))
  | flashIdle err => exact .inl (hflash _ (cmdData_flashIdle P hcmd hrec hst err))
  | _ => exact cmdData_tick_of_not_flash P hcmd hst he nofun nofun

end SignetBase.Firmware
