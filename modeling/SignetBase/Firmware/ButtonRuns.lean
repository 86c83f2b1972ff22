/-
  SignetBase/Firmware/ButtonRuns.lean
  ===================================
  **Every effect that needs a press has had one, in orderly runs.**

  `Orderly` excludes the five situations in which the device loses track of what
  a press was for: a refused command that announces more packets, a batch that
  goes on before its press, a cancel or a timeout that leaves such a command
  active, and a READ_ALL_UIDS response that goes out while its wait is pending.
  `PressInv` says what the flags then mean; it is kept by every step
  (`pressInv_step`), and with it `effect_authorised` accounts for every effect.
-/
import SignetBase.Firmware.ButtonAuth

namespace SignetBase.Firmware

open Control

variable (P : Platform)

variable {h : History Dev Event} {s s' : Dev} {e : Event}

/-! ### Masked reads stay masked -/

/-- A long press of the commands that read records. -/
theorem readUidMasked_longPressed (hcmd : s.activeCmd = some .readUid) :
    (longButtonPressed P s).cmdData = s.cmdData := by
  unfold longButtonPressed
  rw [hcmd]

theorem readAllUidsMasked_longPressed (hcmd : s.activeCmd = some .readAllUids) :
    (longButtonPressed P s).cmdData.get32 CmdData.readAllUidsMasked =
      s.cmdData.get32 CmdData.readAllUidsMasked := by
  unfold longButtonPressed
  rw [hcmd]
  exact readAllUidsMasked_iter P s

theorem readUidMasked_pressed (hcmd : s.activeCmd = some .readUid) :
    (buttonPressed P s).cmdData.get32 CmdData.readUidMasked =
      s.cmdData.get32 CmdData.readUidMasked := by
  unfold buttonPressed
  rw [hcmd]
  exact readUidMasked_complete P s

theorem readAllUidsMasked_pressed (hcmd : s.activeCmd = some .readAllUids) :
    (buttonPressed P s).cmdData = s.cmdData := by
  unfold buttonPressed
  rw [hcmd]

/-- Neither command draws random numbers. -/
theorem cmdData_randUpdate_read (hcmd : s.activeCmd = some .readUid ∨
    s.activeCmd = some .readAllUids) : (commandRandUpdate P s).cmdData = s.cmdData := by
  unfold commandRandUpdate
  rcases hcmd with hcmd | hcmd <;> rw [hcmd]

/-- **Between packets an active READ_UID keeps its mask.** -/
theorem readUidMasked_tick (hcmd : s.activeCmd = some .readUid) (hst : s.deviceState = .loggedIn)
    (he : ∀ packet, e ≠ .hidRx packet) :
    (step P s e).cmdData.get32 CmdData.readUidMasked = s.cmdData.get32 CmdData.readUidMasked := by
  have hrec : ¬ writesRecords .readUid := by
    rintro (h | h | h) <;> cases h
  rcases cmdData_tick P hcmd hrec (.inr hst) he with
    h | ⟨-, h, -⟩ | ⟨-, h⟩ | ⟨-, h⟩ | ⟨s₀, hdata, hcmd₀, h⟩
  · rw [h]
  · cases h
  · rw [h]
    exact readUidMasked_pressed P (s := endButtonPressWait s) hcmd
  · rw [h]
    have hlong := readUidMasked_longPressed P
      (s := endLongButtonPressWait { s with buttonState := false }) hcmd
    rw [hlong]
    rfl
  · rw [h, cmdData_randUpdate_read P (.inl (hcmd₀.trans hcmd)), hdata]

/-- **Between packets an active READ_ALL_UIDS keeps its mask.** -/
theorem readAllUidsMasked_tick (hcmd : s.activeCmd = some .readAllUids)
    (hst : s.deviceState = .loggedIn) (he : ∀ packet, e ≠ .hidRx packet) :
    (step P s e).cmdData.get32 CmdData.readAllUidsMasked =
      s.cmdData.get32 CmdData.readAllUidsMasked := by
  have hrec : ¬ writesRecords .readAllUids := by
    rintro (h | h | h) <;> cases h
  rcases cmdData_tick P hcmd hrec (.inr hst) he with
    h | ⟨-, -, h⟩ | ⟨-, h⟩ | ⟨-, h⟩ | ⟨s₀, hdata, hcmd₀, h⟩
  · rw [h]
  · rw [h]
    exact readAllUidsMasked_iter P _
  · have hpress := readAllUidsMasked_pressed P (s := endButtonPressWait s) hcmd
    rw [h, hpress]
    rfl
  · rw [h]
    exact readAllUidsMasked_longPressed P
      (s := endLongButtonPressWait { s with buttonState := false }) hcmd
  · rw [h, cmdData_randUpdate_read P (.inr (hcmd₀.trans hcmd)), hdata]

/-- A masked read that is still active after an event is still masked. -/
theorem maskedRead_tick (hm : MaskedRead s) (he : ∀ packet, e ≠ .hidRx packet)
    (hh : s.hung = false) (hactive : (step P s e).activeCmd ≠ none) :
    MaskedRead (step P s e) := by
  have ht := tick_step P s he hh
  have hcmd := (activeCmd_tick P ht).resolve_right hactive
  obtain ⟨hst, hor⟩ := hm
  have hst' : (step P s e).deviceState = .loggedIn := by
    rcases deviceState_tick P ht (.inr hst) with h | h | ⟨-, cmd, hcmd', hop⟩
    · exact h.trans hst
    · exact h
    · rcases hor with ⟨hc, -⟩ | ⟨hc, -⟩ <;> rw [hc] at hcmd' <;> cases hcmd' <;>
        rcases hop with h | ⟨st, h⟩ <;> cases h
  refine ⟨hst', ?_⟩
  rcases hor with ⟨hc, hmask⟩ | ⟨hc, hmask⟩
  · left
    refine ⟨hcmd.trans hc, ?_⟩
    rw [readUidMasked_tick P hc hst he]
    exact hmask
  · right
    refine ⟨hcmd.trans hc, ?_⟩
    rw [readAllUidsMasked_tick P hc hst he]
    exact hmask

/-- A masked read that was served and goes on is a masked read. -/
theorem maskedRead_served {s₂ : Dev} (hs : ServesMasked s)
    (hd : dispatch P (activate s) = .handled s₂)
    (hactive : s₂.activeCmd = some (packetCmd s.cmdPacketBuf)) : MaskedRead s₂ := by
  obtain ⟨hst, hlen, hor⟩ := hs
  have hact : mayActAtOnce (packetCmd s.cmdPacketBuf) := by
    rcases hor with ⟨hc, -⟩ | ⟨hc, -⟩
    · exact .inl hc
    · exact .inr (.inl hc)
  have hst₂ : s₂.deviceState = .loggedIn := by
    have hh := handled_dispatch P hd
    rw [show packetCmd (activate s).cmdPacketBuf = packetCmd s.cmdPacketBuf from rfl] at hh
    generalize s₂.toControl = c₂ at hh
    cases hh with
    | answered h => exact h.deviceState.trans hst
    | @waiting k _ => cases k <;> exact hst
    | stuck => exact hst
    | entered he _ =>
      generalize packetCmd s.cmdPacketBuf = cmd at he hor
      rcases hor with ⟨rfl, -⟩ | ⟨rfl, -⟩ <;> cases he
    | disconnected hc => rcases hor with ⟨h, -⟩ | ⟨h, -⟩ <;> rw [h] at hc <;> cases hc
  obtain ⟨-, hd'⟩ := dispatch_record P hact hd
  refine ⟨hst₂, ?_⟩
  rcases hor with ⟨hc, hvalid, hmask⟩ | ⟨hc, hvalid, hmask⟩
  · left
    rw [hc] at hd' hactive
    cases hd'
    refine ⟨hactive, ?_⟩
    unfold readUidPacket
    rw [if_neg hvalid, readUidMasked_cmd P _ _ (UInt8.toNat_lt _)]
    exact toNat_ne_zero hmask
  · right
    rw [hc] at hd' hactive
    cases hd'
    refine ⟨hactive, ?_⟩
    unfold readAllUidsPacket
    rw [if_neg hvalid, readAllUidsMasked_cmd P _ (UInt8.toNat_lt _)]
    exact toNat_ne_zero hmask

theorem not_servesMasked_of_rejected (hd : dispatch P (activate s) = .rejected) :
    ¬ ServesMasked s := by
  rintro ⟨hst, -, hor⟩
  have hst' : (activate s).deviceState = .loggedIn := hst
  have hpkt : (activate s).cmdPacketBuf = s.cmdPacketBuf := rfl
  unfold dispatch stateFunction at hd
  rw [hst', hpkt] at hd
  rcases hor with ⟨hc, -⟩ | ⟨hc, -⟩ <;> rw [hc] at hd <;> cases hd

/-! ### The condition -/

/-- A command of a kind that goes on after its press. -/
def goesOn (cmd : Command) : Prop := cmd = .readAllUids ∨ cmd = .updateUids

/-- The step keeps track of presses.
    * `refused`: a packet of a command that needs a press is taken and begins to
      wait, or is a masked read that is served, or belongs to a batch; or it
      announces no more packets, or no wait is pending that it could use.
    * `batch`: the packets of a batch come while no long wait is pending, and the
      one before announced them.
    * `cancelled`, `timedOut`: a cancel or a timeout ends the command, if a long
      press is what it needs.
    * `sent`: no response of READ_ALL_UIDS goes out while a long wait is pending. -/
structure Orderly (s : Dev) (e : Event) : Prop where
  refused : ∀ s₀, delivered s e = some s₀ → ∀ k, gate (packetCmd s₀.cmdPacketBuf) = some k →
    BeginsWait P s₀ k ∨ ServesMasked s₀ ∨
      (packetCmd s₀.cmdPacketBuf = .updateUids ∧ Continues s) ∨
      packetMessagesRemaining s₀.cmdPacketBuf = 0 ∨
      (¬ goesOn (packetCmd s₀.cmdPacketBuf) ∧ s.waits k = false)
  batch : ∀ s₀, delivered s e = some s₀ → packetCmd s₀.cmdPacketBuf = .updateUids →
    Continues s → s.waitingForLongButtonPress = false ∧ s.cmdMessagesRemaining ≠ 0
  cancelled : ∀ s₀ cmd, delivered s e = some s₀ →
    packetCmd s₀.cmdPacketBuf = .cancelButtonPress → waiting s = true →
    s.activeCmd = some cmd → gate cmd = some .long → ¬ MaskedRead s → s.cmdMessagesRemaining = 0
  timedOut : ∀ cmd, TimesOut s e → s.activeCmd = some cmd → goesOn cmd → ¬ MaskedRead s →
    s.cmdMessagesRemaining = 0
  sent : e = .packetSent → s.rawHidTxPending = true → s.activeCmd = some .readAllUids →
    ¬ MaskedRead s → s.waitingForLongButtonPress = false

/-! ### The invariant -/

/-- What the active command and the waits mean in an orderly run. -/
structure PressInv (h : History Dev Event) (s : Dev) : Prop where
  wait : ∀ cmd k, gate cmd = some k → s.activeCmd = some cmd → s.waits k = true →
    MaskedRead s ∨ Waiting P cmd k h
  readAll : s.activeCmd = some .readAllUids →
    MaskedRead s ∨ s.waitingForLongButtonPress = true ∨ Granted P .readAllUids h
  batch : Continues s → s.waitingForLongButtonPress = true ∨ Granted P .updateUids h
  backup : BackupOk s
  backupWait : s.activeCmd = some .backupDevice → s.waitingForLongButtonPress = true →
    s.deviceState = .loggedOut ∨ s.deviceState = .loggedIn

/-- With no active command there is nothing to say but of a backup. -/
theorem pressInv_none (hactive : s.activeCmd = none) (hb : BackupOk s) : PressInv P h s where
  wait cmd k _ hcmd := by
    rw [hactive] at hcmd
    cases hcmd
  readAll hcmd := by
    rw [hactive] at hcmd
    cases hcmd
  batch hcont := by
    have hcmd := hcont.1
    rw [hactive] at hcmd
    cases hcmd
  backup := hb
  backupWait hcmd := by
    rw [hactive] at hcmd
    cases hcmd

theorem pressInv_powerOn (flash : Mem) : PressInv P [] (powerOn P flash) := by
  apply pressInv_none
  · rfl
  · intro hst
    cases hst

theorem maskedRead_congr (hctl : s'.toControl = s.toControl) (hdata : s'.cmdData = s.cmdData) :
    MaskedRead s' ↔ MaskedRead s := by
  unfold MaskedRead
  rw [hdata, show s'.deviceState = s.deviceState from congrArg Control.deviceState hctl,
    show s'.activeCmd = s.activeCmd from congrArg Control.activeCmd hctl]

/-- A step that changes neither the control state nor `cmd_data`, and is no packet
    and no timeout. -/
theorem pressInv_idle (hi : PressInv P h s) (hd : delivered s e = none) (ht : ¬ TimesOut s e)
    (hctl : s'.toControl = s.toControl) (hdata : s'.cmdData = s.cmdData) :
    PressInv P ((s, e) :: h) s' := by
  have hactive : s'.activeCmd = s.activeCmd := congrArg Control.activeCmd hctl
  have hstate : s'.deviceState = s.deviceState := congrArg Control.deviceState hctl
  have hprev : s'.backupPrevState = s.backupPrevState := congrArg Control.backupPrevState hctl
  have hlong : s'.waitingForLongButtonPress = s.waitingForLongButtonPress :=
    congrArg Control.waitingForLongButtonPress hctl
  have hcount : s'.cmdIterCount = s.cmdIterCount := congrArg Control.cmdIterCount hctl
  have hnew : ∀ s₀, delivered s e = some s₀ →
      packetCmd s₀.cmdPacketBuf = .cancelButtonPress ∧ waiting s = false := by
    intro s₀ hd'
    rw [hd] at hd'
    cases hd'
  constructor
  · intro cmd k hk hcmd hw
    rw [hactive] at hcmd
    rw [hctl] at hw
    rw [maskedRead_congr hctl hdata]
    exact (hi.wait cmd k hk hcmd hw).imp_right fun hwait => .later hwait hd ht
  · intro hcmd
    rw [hactive] at hcmd
    rw [maskedRead_congr hctl hdata, hlong]
    exact (hi.readAll hcmd).imp_right (·.imp_right fun hg => .later hg hnew ht)
  · intro hcont
    rw [hlong]
    refine (hi.batch ⟨hactive ▸ hcont.1, hcount ▸ hcont.2⟩).imp_right fun hg => ?_
    exact .later hg hnew ht
  · intro hst
    rw [hprev, hlong]
    exact hi.backup (hstate ▸ hst)
  · intro hcmd hw
    rw [hstate]
    exact hi.backupWait (hactive ▸ hcmd) (hlong ▸ hw)

/-! ### Events that are not packets -/

/-- A timeout answers the active command and ends both waits. -/
theorem toControl_timedOut (ht : TimesOut s e) :
    (step P s e).toControl = ((s.toControl.endWait .short).endWait .long).finish 0 := by
  obtain ⟨rfl, hh, hb, hpaused, hw⟩ := ht
  have hw' : waiting { s with blinking := false } = true := hw
  have hcond : s.blinking = true ∧ ¬ s.blinkPaused = true := ⟨hb, by simp [hpaused]⟩
  unfold step
  rw [if_neg (by simp [hh])]
  dsimp only
  rw [if_pos hcond]
  unfold blinkTimeout
  rw [if_pos hw']
  rfl

theorem backupOk_tick (hi : PressInv P h s) {c' : Control} (ht : Tick P s e c')
    (hst : c'.deviceState = .backingUpDevice) : c'.waitingForLongButtonPress = false ∧
      (c'.backupPrevState = .loggedOut ∨ c'.backupPrevState = .loggedIn) := by
  obtain ⟨hwait, ⟨hst', hprev⟩ | ⟨-, hprev, hcmd, hw⟩⟩ :=
    backup_tick P ht (fun hb => (hi.backup hb).1) hst
  · rw [hprev]
    exact ⟨hwait, (hi.backup hst').2⟩
  · rw [hprev]
    exact ⟨hwait, hi.backupWait hcmd hw⟩

/-- A timeout. -/
theorem pressInv_timedOut (hi : PressInv P h s) (hok : Orderly P s e)
    (hto : TimesOut s e) (he : ∀ packet, e ≠ .hidRx packet) :
    PressInv P ((s, e) :: h) (step P s e) := by
  have hctl := toControl_timedOut P hto
  have hwaits : ∀ k, (step P s e).waits k = false := by
    intro k
    rw [hctl]
    cases k <;> rfl
  have hactive : ∀ cmd, (step P s e).activeCmd = some cmd →
      s.activeCmd = some cmd ∧ s.cmdMessagesRemaining ≠ 0 := by
    intro cmd hcmd
    rw [hctl] at hcmd
    exact active_finish (c := (s.toControl.endWait .short).endWait .long) hcmd
  have hmasked : ∀ cmd, goesOn cmd → (step P s e).activeCmd = some cmd → MaskedRead s := by
    intro cmd hgo hcmd
    obtain ⟨hcmd, hmr⟩ := hactive cmd hcmd
    by_contra hnot
    exact hmr (hok.timedOut cmd hto hcmd hgo hnot)
  constructor
  · intro cmd k _ _ hw
    rw [hwaits] at hw
    cases hw
  · intro hcmd
    have hm := hmasked _ (.inl rfl) hcmd
    exact .inl (maskedRead_tick P hm he hto.2.1 (by simp [hcmd]))
  · intro hcont
    obtain ⟨-, hor⟩ := hmasked _ (.inr rfl) hcont.1
    have hcmd := (hactive _ hcont.1).1
    rcases hor with ⟨hc, -⟩ | ⟨hc, -⟩ <;> rw [hcmd] at hc <;> cases hc
  · exact backupOk_tick P hi (tick_step P s he hto.2.1)
  · intro _ hw
    have := hwaits .long
    simp only [Control.waits] at this
    rw [this] at hw
    cases hw

/-- Any other event that is not a packet. -/
theorem pressInv_tick (hi : PressInv P h s) (hto : ¬ TimesOut s e)
    (he : ∀ packet, e ≠ .hidRx packet) (hh : s.hung = false) :
    PressInv P ((s, e) :: h) (step P s e) := by
  have ht := tick_step P s he hh
  have hd := delivered_of_ne (s := s) he
  have hactive : ∀ cmd, (step P s e).activeCmd = some cmd → s.activeCmd = some cmd := by
    intro cmd hcmd
    have hkept := (activeCmd_tick P ht).resolve_right (by simp [hcmd])
    exact hkept.symm.trans hcmd
  have hmasked : ∀ cmd, (step P s e).activeCmd = some cmd → MaskedRead s →
      MaskedRead (step P s e) := by
    intro cmd hcmd hm
    exact maskedRead_tick P hm he hh (by simp [hcmd])
  have hwaits : ∀ k, (step P s e).waits k = s.waits k ∨ Pressed s k e := by
    intro k
    exact (waits_tick P ht k).imp_right fun hor => hor.2.resolve_right hto
  have hlater : ∀ cmd, Granted P cmd h → Granted P cmd ((s, e) :: h) := by
    intro cmd hg
    refine .later hg (fun s₀ hd' => ?_) hto
    rw [hd] at hd'
    cases hd'
  -- a long wait goes on, or its press is consumed now
  have hlong : ∀ cmd, gate cmd = some .long → s.activeCmd = some cmd → ¬ MaskedRead s →
      s.waitingForLongButtonPress = true →
      (step P s e).waitingForLongButtonPress = true ∨ Granted P cmd ((s, e) :: h) := by
    intro cmd hk hcmd hm hw
    rcases hwaits .long with hkept | hp
    · exact .inl (hkept.trans hw)
    · right
      exact .press ((hi.wait cmd .long hk hcmd hw).resolve_left hm) hp
  constructor
  · intro cmd k hk hcmd hw
    have hcmd₀ := hactive cmd hcmd
    have hw₀ : s.waits k = true := by
      rcases waits_tick P ht k with hkept | ⟨hclear, -⟩
      · exact hkept ▸ hw
      · rw [hclear] at hw
        cases hw
    rcases hi.wait cmd k hk hcmd₀ hw₀ with hm | hwait
    · exact .inl (hmasked cmd hcmd hm)
    · exact .inr (.later hwait hd hto)
  · intro hcmd
    have hcmd₀ := hactive _ hcmd
    by_cases hm : MaskedRead s
    · exact .inl (hmasked _ hcmd hm)
    · right
      rcases (hi.readAll hcmd₀).resolve_left hm with hw | hg
      · exact hlong _ rfl hcmd₀ hm hw
      · exact .inr (hlater _ hg)
  · intro hcont
    have hcmd₀ := hactive _ hcont.1
    have hcont₀ : Continues s := ⟨hcmd₀, cmdIterCount_tick P ht ▸ hcont.2⟩
    rcases hi.batch hcont₀ with hw | hg
    · refine hlong _ rfl hcmd₀ ?_ hw
      rintro ⟨-, ⟨hc, -⟩ | ⟨hc, -⟩⟩ <;> rw [hcmd₀] at hc <;> cases hc
    · exact .inr (hlater _ hg)
  · exact backupOk_tick P hi ht
  · intro hcmd hw
    have hcmd₀ := hactive _ hcmd
    have hw₀ : s.waitingForLongButtonPress = true := by
      rcases waits_tick P ht .long with hkept | ⟨hclear, -⟩
      · exact hkept.symm.trans hw
      · exact nomatch hclear.symm.trans hw
    have hst := hi.backupWait hcmd₀ hw₀
    rcases deviceState_tick P ht hst with h | h | ⟨hclear, -⟩
    · exact h ▸ hst
    · exact .inr h
    · exact nomatch hclear.symm.trans hw

/-! ### Packets -/

/-- What may be so of a command `cmd` that needs a press and is active after its
    packet: it has begun its wait, reads with a mask, goes on with a batch, or is
    left over with nothing to wait for. -/
inductive Settled (h : History Dev Event) (s : Dev) (cmd : Command) (k : PressKind) : Prop where
  | waits : Waiting P cmd k h → s.waits k = true → (cmd = .backupDevice →
      s.deviceState = .loggedOut ∨ s.deviceState = .loggedIn) → Settled h s cmd k
  | masked : MaskedRead s → Settled h s cmd k
  | batch : cmd = .updateUids → Granted P .updateUids h → s.waits k = false → Settled h s cmd k
  | idle : ¬ goesOn cmd → s.waits k = false → Settled h s cmd k

theorem pressInv_settled (hb : BackupOk s)
    (hs : ∀ cmd k, gate cmd = some k → s.activeCmd = some cmd → Settled P h s cmd k) :
    PressInv P h s := by
  constructor
  · intro cmd k hk hcmd hw
    cases hs cmd k hk hcmd with
    | waits hwait _ _ => exact .inr hwait
    | masked hm => exact .inl hm
    | batch _ _ hno => exact nomatch hno.symm.trans hw
    | idle _ hno => exact nomatch hno.symm.trans hw
  · intro hcmd
    cases hs _ _ rfl hcmd with
    | waits _ hw _ => exact .inr (.inl hw)
    | masked hm => exact .inl hm
    | batch hc _ _ => cases hc
    | idle hgo _ => exact absurd (.inl rfl) hgo
  · intro hcont
    cases hs _ _ rfl hcont.1 with
    | waits _ hw _ => exact .inl hw
    | masked hm =>
      obtain ⟨-, ⟨hc, -⟩ | ⟨hc, -⟩⟩ := hm <;> rw [hcont.1] at hc <;> cases hc
    | batch _ hg _ => exact .inr hg
    | idle hgo _ => exact absurd (.inr rfl) hgo
  · exact hb
  · intro hcmd hw
    cases hs _ _ rfl hcmd with
    | waits _ _ hst => exact hst rfl
    | masked hm =>
      obtain ⟨-, ⟨hc, -⟩ | ⟨hc, -⟩⟩ := hm <;> rw [hcmd] at hc <;> cases hc
    | batch hc _ _ => cases hc
    | idle _ hno => exact nomatch hno.symm.trans hw

/-- Counting a packet changes nothing of it. -/
theorem settled_countIteration {mr : Nat} {cmd : Command} {k : PressKind}
    (hs : Settled P h s cmd k) : Settled P h (countIteration mr s) cmd k := by
  unfold countIteration
  split
  · cases hs with
    | waits hwait hw hst => exact .waits hwait (by cases k <;> exact hw) hst
    | masked hm => exact .masked hm
    | batch hc hg hno => exact .batch hc hg (by cases k <;> exact hno)
    | idle hgo hno => exact .idle hgo (by cases k <;> exact hno)
  · exact hs

/-- BACKUP_DEVICE is known to the two states one logs in from and to. -/
theorem dispatch_backup {s₂ : Dev} (hc : packetCmd s.cmdPacketBuf = .backupDevice)
    (hd : dispatch P s = .handled s₂) :
    s.deviceState = .loggedOut ∨ s.deviceState = .loggedIn := by
  unfold dispatch stateFunction at hd
  rw [hc] at hd
  split at hd
  case h_8 hst => exact .inl hst
  case h_9 hst => exact .inr hst
  all_goals cases hd

/-- A packet, with `s₀` the state `cmd_packet_recv` runs in, keeps a backup as it
    is. -/
theorem backupOk_received {s₀ : Dev} (hb : BackupOk s₀) (hr : Received P s₀ s') : BackupOk s' := by
  have hsame : ∀ {c : Control}, (activate s₀).toControl.Clears c →
      c.deviceState = .backingUpDevice → c.waitingForLongButtonPress = false ∧
        (c.backupPrevState = .loggedOut ∨ c.backupPrevState = .loggedIn) := by
    intro c hc hst
    rw [hc.deviceState] at hst
    cases hc <;> exact hb hst
  cases hr with
  | disconnect _ => intro hst; cases hst
  | ignored _ _ _ => exact hb
  | canceled _ _ _ => exact hb
  | misfire _ _ => exact hb
  | startup _ =>
    intro hst
    obtain ⟨st, hor, hreach⟩ := reaches_startupCmd P (activate s₀)
    rw [hreach.deviceState] at hst
    rcases hor with rfl | rfl <;> cases hst
  | getDeviceState _ => exact hsame (clears_finish _ 0)
  | tooLong _ _ => exact hsame (clears_finish _ 0)
  | rejected _ _ _ =>
    have hfin := @hsame _ (clears_finish _ 0)
    unfold countIteration
    split
    · exact hfin
    · exact hfin
  | @handled s₂ _ _ hd =>
    have hboth : BackupOk s₂ := by
      intro hst
      have hne : (activate s₀).deviceState = .backingUpDevice →
          (activate s₀).backupPrevState ≠ .backingUpDevice := by
        intro hst' hprev
        rcases (hb hst').2 with h | h <;> cases h.symm.trans hprev
      obtain ⟨hst', hprev, hlong⟩ := backup_handled P hne hd hst
      rw [hprev, hlong]
      exact hb hst'
    unfold countIteration
    split
    · exact hboth
    · exact hboth

section Delivered

variable {s₀ : Dev}

/-- The next packet of a batch comes in an orderly way. -/
theorem granted_batch (hi : PressInv P h s) (hok : Orderly P s e) (hd : delivered s e = some s₀)
    (hc : packetCmd s₀.cmdPacketBuf = .updateUids) (hcont : Continues s) :
    Granted P .updateUids ((s, e) :: h) ∧ s.waitingForLongButtonPress = false := by
  obtain ⟨hlong, hmr⟩ := hok.batch s₀ hd hc hcont
  have hg : Granted P .updateUids h := (hi.batch hcont).resolve_left (by simp [hlong])
  exact ⟨.batch hg rfl hd hc hmr, hlong⟩

/-- A packet that is answered, and neither begins a wait nor is a masked read. -/
theorem settled_answered (hi : PressInv P h s) (hok : Orderly P s e)
    (hd : delivered s e = some s₀) {k : PressKind} (hk : gate (packetCmd s₀.cmdPacketBuf) = some k)
    (hwait : ¬ BeginsWait P s₀ k) (hserve : ¬ ServesMasked s₀)
    (hctl : s'.toControl = (activate s₀).toControl.finish 0)
    (hactive : s'.activeCmd = some (packetCmd s₀.cmdPacketBuf)) :
    Settled P ((s, e) :: h) s' (packetCmd s₀.cmdPacketBuf) k := by
  have hwaits : ∀ k, s'.waits k = s.waits k := by
    intro k
    have h₀ := congrArg (Control.waits · k) (delivered_eq hd).1
    rw [hctl]
    cases k <;> exact h₀
  have hmr : packetMessagesRemaining s₀.cmdPacketBuf ≠ 0 := by
    rw [hctl] at hactive
    exact (active_finish hactive).2
  rcases hok.refused s₀ hd k hk with h | h | ⟨hc, hcont⟩ | h | ⟨hgo, hno⟩
  · exact absurd h hwait
  · exact absurd h hserve
  · obtain ⟨hg, hlong⟩ := granted_batch P hi hok hd hc hcont
    rw [hc] at hk ⊢
    cases hk
    exact .batch rfl hg ((hwaits .long).trans hlong)
  · exact absurd h hmr
  · exact .idle hgo ((hwaits k).trans hno)

/-- A packet that its state function takes. -/
theorem settled_handled (hi : PressInv P h s) (hok : Orderly P s e)
    (hd : delivered s e = some s₀) {k : PressKind} (hk : gate (packetCmd s₀.cmdPacketBuf) = some k)
    (hlen : packetDataLen s₀.cmdPacketBuf ≤ CMD_PACKET_PAYLOAD_SIZE) {s₂ : Dev}
    (hdisp : dispatch P (activate s₀) = .handled s₂)
    (hactive : s₂.activeCmd = some (packetCmd s₀.cmdPacketBuf)) :
    Settled P ((s, e) :: h) s₂ (packetCmd s₀.cmdPacketBuf) k := by
  by_cases hwait : BeginsWait P s₀ k
  · obtain ⟨-, s₃, hdisp₃, -, hctl⟩ := id hwait
    rw [hdisp] at hdisp₃
    cases hdisp₃
    refine .waits (.packet hd rfl (pressKind_of_gate hk) hwait) ?_ ?_
    · rw [hctl]
      cases k <;> rfl
    · intro hc
      have hst : s₂.deviceState = s₀.deviceState := by
        have h₂ := congrArg Control.deviceState hctl
        rw [h₂]
        cases k <;> rfl
      rw [hst]
      exact dispatch_backup P (s := activate s₀) hc hdisp
  · by_cases hserve : ServesMasked s₀
    · exact .masked (maskedRead_served P hserve hdisp hactive)
    · cases packetTaken_dispatch P hk hlen hdisp with
      | waits h _ => exact absurd h hwait
      | answered hctl => exact settled_answered P hi hok hd hk hwait hserve hctl hactive
      | masked h _ => exact absurd h hserve
      | batch hc hcont hclears =>
        have hcont₀ : Continues s := by
          have hctl := (delivered_eq hd).1
          exact ⟨(congrArg Control.activeCmd hctl).symm.trans hcont.1,
            fun h0 => hcont.2 ((congrArg Control.cmdIterCount hctl).trans h0)⟩
        obtain ⟨hg, hlong⟩ := granted_batch P hi hok hd hc hcont₀
        rw [hc] at hk ⊢
        cases hk
        refine .batch rfl hg ((hclears.waits .long).trans ?_)
        exact (congrArg Control.waitingForLongButtonPress (delivered_eq hd).1).trans hlong

/-- A cancel that finds nothing to cancel. -/
theorem pressInv_ignored (hi : PressInv P h s) (hd : delivered s e = some s₀)
    (hc : packetCmd s₀.cmdPacketBuf = .cancelButtonPress) (hw : waiting s₀ = false) :
    PressInv P ((s, e) :: h) s₀ := by
  obtain ⟨hctl, hdata⟩ := delivered_eq hd
  have hactive : s₀.activeCmd = s.activeCmd := congrArg Control.activeCmd hctl
  have hwait : waiting s = false := by
    unfold waiting at hw ⊢
    rw [← hw, show s₀.waitingForButtonPress = s.waitingForButtonPress from
      congrArg Control.waitingForButtonPress hctl, show s₀.waitingForLongButtonPress =
      s.waitingForLongButtonPress from congrArg Control.waitingForLongButtonPress hctl]
  obtain ⟨hshort, hlong⟩ : s₀.waitingForButtonPress = false ∧
      s₀.waitingForLongButtonPress = false := by
    simpa [waiting] using hw
  have hlater : ∀ cmd, Granted P cmd h → Granted P cmd ((s, e) :: h) := by
    intro cmd hg
    refine .later hg (fun s₁ hd' => ?_) fun hto => ?_
    · rw [hd] at hd'
      cases hd'
      exact ⟨hc, hwait⟩
    · exact nomatch hwait.symm.trans hto.2.2.2.2
  have hlong₀ : s.waitingForLongButtonPress = false :=
    (congrArg Control.waitingForLongButtonPress hctl).symm.trans hlong
  constructor
  · intro cmd k _ _ hw'
    cases k with
    | short => exact nomatch hshort.symm.trans hw'
    | long => exact nomatch hlong.symm.trans hw'
  · intro hcmd
    rw [maskedRead_congr hctl hdata]
    rcases hi.readAll (hactive ▸ hcmd) with hm | hw' | hg
    · exact .inl hm
    · exact nomatch hlong₀.symm.trans hw'
    · exact .inr (.inr (hlater _ hg))
  · intro hcont
    right
    have hcont₀ : Continues s := by
      refine ⟨hactive ▸ hcont.1, fun h0 => hcont.2 ?_⟩
      exact (congrArg Control.cmdIterCount hctl).trans h0
    rcases hi.batch hcont₀ with hw' | hg
    · exact nomatch hlong₀.symm.trans hw'
    · exact hlater _ hg
  · intro hst
    have hprev : s₀.backupPrevState = s.backupPrevState := congrArg Control.backupPrevState hctl
    rw [hprev]
    exact ⟨hlong, (hi.backup ((congrArg Control.deviceState hctl).symm.trans hst)).2⟩
  · intro _ hw'
    exact nomatch hlong.symm.trans hw'

theorem backupOk_delivered (hi : PressInv P h s) (hd : delivered s e = some s₀) : BackupOk s₀ := by
  obtain ⟨hctl, -⟩ := delivered_eq hd
  have hprev : s₀.backupPrevState = s.backupPrevState := congrArg Control.backupPrevState hctl
  have hlong : s₀.waitingForLongButtonPress = s.waitingForLongButtonPress :=
    congrArg Control.waitingForLongButtonPress hctl
  intro hst
  rw [hprev, hlong]
  exact hi.backup ((congrArg Control.deviceState hctl).symm.trans hst)

/-- A cancel that ends a wait: a command that needed a long press is over. -/
theorem settled_canceled (hok : Orderly P s e) (hd : delivered s e = some s₀)
    (hc : packetCmd s₀.cmdPacketBuf = .cancelButtonPress) (hw : waiting s₀ = true)
    {cmd : Command} {k : PressKind} (hk : gate cmd = some k)
    (hcmd : (finishCommandResp .buttonPressCanceled (endButtonPressWait s₀)).activeCmd = some cmd) :
    Settled P ((s, e) :: h) (finishCommandResp .buttonPressCanceled (endButtonPressWait s₀))
      cmd k := by
  obtain ⟨hctl, hdata⟩ := delivered_eq hd
  obtain ⟨hcmd₀, hmr⟩ := active_finish (c := (endButtonPressWait s₀).toControl) hcmd
  have hcmds : s.activeCmd = some cmd := (congrArg Control.activeCmd hctl).symm.trans hcmd₀
  have hmrs : s.cmdMessagesRemaining ≠ 0 := fun h0 =>
    hmr ((congrArg Control.cmdMessagesRemaining hctl).trans h0)
  have hws : waiting s = true := by
    unfold waiting at hw ⊢
    rw [← hw, show s₀.waitingForButtonPress = s.waitingForButtonPress from
      congrArg Control.waitingForButtonPress hctl, show s₀.waitingForLongButtonPress =
      s.waitingForLongButtonPress from congrArg Control.waitingForLongButtonPress hctl]
  cases k with
  | short =>
    refine .idle ?_ rfl
    rintro (rfl | rfl) <;> cases hk
  | long =>
    have hm : MaskedRead s := by
      by_contra hnot
      exact hmrs (hok.cancelled s₀ cmd hd hc hws hcmds hk hnot)
    have hm₀ := (maskedRead_congr hctl hdata).mpr hm
    obtain ⟨hst, hor⟩ := hm₀
    refine .masked ⟨hst, ?_⟩
    rcases hor with ⟨hread, hmask⟩ | ⟨hread, hmask⟩
    · exact .inl ⟨hcmd.trans (hcmd₀.symm.trans hread), hmask⟩
    · exact .inr ⟨hcmd.trans (hcmd₀.symm.trans hread), hmask⟩

/-- **A packet that arrives in an orderly way keeps the invariant.** -/
theorem pressInv_received (hi : PressInv P h s) (hok : Orderly P s e)
    (hd : delivered s e = some s₀) (hr : Received P s₀ s') : PressInv P ((s, e) :: h) s' := by
  have hb := backupOk_received P (backupOk_delivered P hi hd) hr
  -- with a packet that is answered, neither a wait nor a served read is at hand
  have hanswered : ∀ s₁ : Dev, (∀ k, ¬ BeginsWait P s₀ k) → ¬ ServesMasked s₀ →
      s₁.toControl = (activate s₀).toControl.finish 0 → ∀ cmd k, gate cmd = some k →
      s₁.activeCmd = some cmd → Settled P ((s, e) :: h) s₁ cmd k := by
    intro s₁ hwait hserve hctl cmd k hk hcmd
    have hpkt : cmd = packetCmd s₀.cmdPacketBuf := by
      have hfin := hcmd
      rw [hctl] at hfin
      exact (Option.some.inj (active_finish hfin).1).symm
    subst hpkt
    exact settled_answered P hi hok hd hk (hwait k) hserve hctl hcmd
  cases hr with
  | disconnect _ => exact pressInv_none P rfl hb
  | ignored hc _ hw => exact pressInv_ignored P hi hd hc hw
  | canceled hc _ hw =>
    apply pressInv_settled P hb
    intro cmd k hk hcmd
    exact settled_canceled P hok hd hc hw hk hcmd
  | misfire _ _ => exact pressInv_none P rfl hb
  | startup hc =>
    obtain ⟨st, -, hreach⟩ := reaches_startupCmd P (activate s₀)
    apply pressInv_settled P hb
    intro cmd k hk hcmd
    have hstart : (startupControl (activate s₀).toControl).activeCmd = some cmd :=
      (hreach.activeCmd.resolve_right (by simp [hcmd])).symm.trans hcmd
    unfold startupControl at hstart
    split at hstart
    · cases hstart
    · have hpkt := hc.symm.trans (Option.some.inj hstart)
      subst hpkt
      cases hk
  | getDeviceState hc =>
    apply pressInv_settled P hb
    intro cmd k hk hcmd
    have hpkt := Option.some.inj (active_finish (c := (activate s₀).toControl) hcmd).1
    rw [hc] at hpkt
    subst hpkt
    cases hk
  | tooLong _ hlen =>
    apply pressInv_settled P hb
    apply hanswered
    · intro k hw
      exact absurd hw.1 (by omega)
    · intro hserve
      exact absurd hserve.2.1 (by omega)
    · rfl
  | rejected _ _ hdisp =>
    apply pressInv_settled P hb
    intro cmd k hk hcmd
    rw [activeCmd_countIteration] at hcmd
    apply settled_countIteration
    refine hanswered (finishCommandResp .invalidState (activate s₀)) ?_ ?_ rfl cmd k hk hcmd
    · rintro k ⟨-, s₃, hd₃, -⟩
      rw [hdisp] at hd₃
      cases hd₃
    · exact not_servesMasked_of_rejected P hdisp
  | @handled s₂ _ hlen hdisp =>
    apply pressInv_settled P hb
    intro cmd k hk hcmd
    rw [activeCmd_countIteration] at hcmd
    have hpkt : cmd = packetCmd s₀.cmdPacketBuf := by
      have hkept := (activeCmd_handled rfl (handled_dispatch P hdisp)).resolve_right (by simp [hcmd])
      exact Option.some.inj (hcmd.symm.trans hkept)
    subst hpkt
    exact settled_countIteration P (settled_handled P hi hok hd hk hlen hdisp hcmd)

end Delivered

/-! ### Runs -/

/-- **An orderly step keeps the invariant.** -/
theorem pressInv_step (hi : PressInv P h s) (hok : Orderly P s e) :
    PressInv P ((s, e) :: h) (step P s e) := by
  by_cases he : ∀ packet, e ≠ .hidRx packet
  · cases hh : s.hung with
    | false =>
      by_cases hto : TimesOut s e
      · exact pressInv_timedOut P hi hok hto he
      · exact pressInv_tick P hi hto he hh
    | true =>
      have hto : ¬ TimesOut s e := by
        intro hto
        cases hh.symm.trans hto.2.1
      apply pressInv_idle P hi (delivered_of_ne he) hto
      · simp [step, hh]
      · simp [step, hh]
  · push Not at he
    obtain ⟨packet, rfl⟩ := he
    cases hd : delivered s (.hidRx packet) with
    | none =>
      obtain ⟨hctl, hdata⟩ := step_undelivered P hd
      have hto : ¬ TimesOut s (.hidRx packet) := by
        intro hto
        cases hto.1
      exact pressInv_idle P hi hd hto hctl hdata
    | some s₀ =>
      rcases step_delivered P hd with hreset | hr
      · apply pressInv_none
        · exact congrArg Control.activeCmd hreset
        · intro hst
          cases (congrArg Control.deviceState hreset).symm.trans hst
      · exact pressInv_received P hi hok hd hr

theorem pressInv_run (hr : DevRun P (Orderly P) h s) : PressInv P h s := by
  refine hr.invariant ?_ ?_
  · rintro s ⟨flash, rfl⟩
    exact pressInv_powerOn P flash
  · intro h s e _ hok hi
    exact pressInv_step P hi hok

/-! ### The effects -/

/-- A step with no output that changes no device state to a started one has no
    effect. -/
theorem not_effect {cmd : Command} (hout : s'.outputs = s.outputs) (hs : ¬ Starts s s' cmd) :
    ¬ Effect s s' cmd := by
  intro heff
  rcases effect_cases heff with h | ⟨o, ho, -⟩
  · exact hs h
  · have hemit : Emits (fun _ => False) s s' := .of_eq hout
    exact hemit.of_mem_new o ho

/-- Effects do not see the packet buffer. -/
theorem effect_congr {s₀ : Dev} {cmd : Command} (hctl : s₀.toControl = s.toControl)
    (hout : s₀.outputs = s.outputs) (heff : Effect s s' cmd) : Effect s₀ s' cmd := by
  have hactive : s₀.activeCmd = s.activeCmd := congrArg Control.activeCmd hctl
  have hst : s₀.deviceState = s.deviceState := congrArg Control.deviceState hctl
  unfold Effect Sent Starts newOutputs at heff ⊢
  rw [hout, hactive, hst]
  exact heff

/-- Record data that a masked read returns is no effect. -/
theorem not_effect_of_maskedRead {cmd : Command} (hm : MaskedRead s)
    (hcmd : s.activeCmd = some cmd) (he : ∀ packet, e ≠ .hidRx packet) :
    ¬ Effect s (step P s e) cmd := by
  intro heff
  obtain ⟨hst, ⟨hc, hmask⟩ | ⟨hc, hmask⟩⟩ := hm
  · rw [hcmd] at hc
    cases hc
    exact hmask ((readUidMasked_tick P hcmd hst he).symm.trans heff.2)
  · rw [hcmd] at hc
    cases hc
    exact hmask ((readAllUidsMasked_tick P hcmd hst he).symm.trans heff.2)

/-- An effect of an event that is not a packet. -/
theorem authorised_tick {cmd : Command} (hi : PressInv P h s) (hok : Orderly P s e)
    (he : ∀ packet, e ≠ .hidRx packet) (hh : s.hung = false)
    (heff : Effect s (step P s e) cmd) : Authorised P h s e cmd := by
  have hunmasked : s.activeCmd = some cmd → ¬ MaskedRead s := by
    intro hcmd hm
    exact not_effect_of_maskedRead P hm hcmd he heff
  rcases effect_tick P he hh heff with ⟨k, hk, hp, hcmd⟩ | ⟨rfl, rfl, htx, hcmd⟩
  · left
    refine ⟨k, ?_, hp⟩
    have hw : s.waits k = true := by cases k <;> exact hp.2.2
    exact (hi.wait cmd k hk hcmd hw).resolve_left (hunmasked hcmd)
  · right
    left
    refine ⟨rfl, rfl, ?_⟩
    have hlong := hok.sent rfl htx hcmd (hunmasked hcmd)
    have hor := (hi.readAll hcmd).resolve_left (hunmasked hcmd)
    exact hor.resolve_left (by simp [hlong])

/-- An effect of a packet is the write of a batch that its press has started. -/
theorem authorised_received {cmd : Command} {s₀ : Dev} (hi : PressInv P h s)
    (hok : Orderly P s e) (hd : delivered s e = some s₀) (hr : Received P s₀ s')
    (heff : Effect s s' cmd) : Authorised P h s e cmd := by
  obtain ⟨hctl, -⟩ := delivered_eq hd
  have heff₀ := effect_congr hctl (delivered_outputs hd) heff
  obtain ⟨rfl, hc, hcont₀⟩ := effect_received P hr (backupOk_delivered P hi hd) heff₀
  have hcont : Continues s := by
    refine ⟨(congrArg Control.activeCmd hctl).symm.trans hcont₀.1, fun h0 => hcont₀.2 ?_⟩
    exact (congrArg Control.cmdIterCount hctl).trans h0
  obtain ⟨hlong, hmr⟩ := hok.batch s₀ hd hc hcont
  have hg := (hi.batch hcont).resolve_left (by simp [hlong])
  exact .inr (.inr ⟨rfl, hg, hmr, s₀, hd, hc⟩)

/-- **Every effect that needs a press is authorised by one**, in every run whose
    steps keep track of what the presses are for. -/
theorem effect_authorised {cmd : Command} (hr : DevRun P (Orderly P) h s) (hok : Orderly P s e)
    (heff : Effect s (step P s e) cmd) : Authorised P h s e cmd := by
  have hi := pressInv_run P hr
  have hstays : (step P s e).outputs = s.outputs → (step P s e).deviceState = s.deviceState ∨
      (step P s e).deviceState = .disconnected → Authorised P h s e cmd := by
    intro hout hst
    refine absurd heff (not_effect hout ?_)
    rintro ⟨hcmd, hne, -⟩
    rcases hst with hst | hst
    · exact hne hst
    · rw [hst] at hcmd
      cases cmd <;> cases hcmd
  by_cases he : ∀ packet, e ≠ .hidRx packet
  · cases hh : s.hung with
    | false => exact authorised_tick P hi hok he hh heff
    | true => exact hstays (by simp [step, hh]) (.inl (by simp [step, hh]))
  · push Not at he
    obtain ⟨packet, rfl⟩ := he
    cases hd : delivered s (.hidRx packet) with
    | none =>
      apply hstays
      · apply outputs_hidRx
        intro s₀ hd'
        cases hd.symm.trans hd'
      · exact .inl (congrArg Control.deviceState (step_undelivered P hd).1)
    | some s₀ =>
      cases hrecv : cmdPacketRecv P s₀ with
      | none =>
        apply hstays
        · apply outputs_hidRx
          intro s₁ hd'
          cases hd.symm.trans hd'
          exact hrecv
        · right
          exact congrArg Control.deviceState (step_reset P hd hrecv)
      | some s₁ =>
        have hstep := step_recv P hd hrecv
        have hrec := received_cmdPacketRecv P hrecv
        rw [← hstep] at hrec
        exact authorised_received P hi hok hd hrec heff

/-- Nothing was sent and nothing timed out. -/
def isInput : Event → Bool
  | .blinkTimeout | .packetSent => false
  | _ => true

/-- Steps of a host that announces no further packets and neither starts batches
    nor cancels, while nothing is sent or times out. -/
def plainStep (s : Dev) (e : Event) : Prop :=
  isInput e = true ∧ ∀ s₀ ∈ delivered s e, packetMessagesRemaining s₀.cmdPacketBuf = 0 ∧
    packetCmd s₀.cmdPacketBuf ≠ .updateUids ∧ packetCmd s₀.cmdPacketBuf ≠ .cancelButtonPress

instance (s : Dev) (e : Event) : Decidable (plainStep s e) :=
  haveI : Decidable (∀ s₀ ∈ delivered s e, packetMessagesRemaining s₀.cmdPacketBuf = 0 ∧
      packetCmd s₀.cmdPacketBuf ≠ .updateUids ∧
      packetCmd s₀.cmdPacketBuf ≠ .cancelButtonPress) :=
    inferInstanceAs (Decidable (∀ s₀ ∈ delivered s e, _))
  inferInstanceAs (Decidable (_ ∧ _))

theorem orderly_of_plainStep (hp : plainStep s e) : Orderly P s e := by
  obtain ⟨hinput, hpkt⟩ := hp
  constructor
  · intro s₀ hd k _
    exact .inr (.inr (.inr (.inl (hpkt s₀ hd).1)))
  · intro s₀ hd hc
    exact absurd hc (hpkt s₀ hd).2.1
  · intro s₀ _ hd hc
    exact absurd hc (hpkt s₀ hd).2.2
  · intro _ h
    obtain ⟨rfl, -⟩ := h
    cases hinput
  · rintro rfl
    cases hinput

/-- A login and an UPDATE_UID with a record of one sub-block. -/
def updateRun : History Dev Event × Dev :=
  replay (step addPlatform) (loginWithKey ++ [.buttonDown, .buttonUp] ++
    hidPackets 31 26 0 ([1, 0, 1, 0] ++ List.replicate 16 7)) ([], powerOn addPlatform keyedFlash)

theorem effect_authorised_pressed :
    Authorised addPlatform updateRun.1 updateRun.2 .buttonDown .updateUid := by
  have hrun : DevRun addPlatform anyStep updateRun.1 updateRun.2 :=
    run_replay _ ([], powerOn addPlatform keyedFlash) (.start ⟨_, rfl⟩)
  have hplain : ∀ x ∈ updateRun.1, plainStep x.1 x.2 := by decide +kernel
  have hok : ∀ x ∈ updateRun.1, Orderly addPlatform x.1 x.2 := by
    intro x hx
    exact orderly_of_plainStep addPlatform (hplain x hx)
  have heff : Effect updateRun.2 (step addPlatform updateRun.2 .buttonDown) .updateUid := by
    refine ⟨?_, ?_, ?_⟩
    · unfold Sent
      decide +kernel
    · decide +kernel
    · decide +kernel
  have hlast : plainStep updateRun.2 .buttonDown := by decide +kernel
  exact effect_authorised addPlatform (hrun.restrict hok)
    (orderly_of_plainStep addPlatform hlast) heff

end SignetBase.Firmware
