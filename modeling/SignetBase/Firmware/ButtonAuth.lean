/-
  SignetBase/Firmware/ButtonAuth.lean
  ===================================
  **What the button authorises on the original device.**

  A command that needs a press is made the active one before its state function
  has seen it, the wait for its press is a flag that outlives the command, and
  `cmd_iter_count`, which tells the later packets of an UPDATE_UIDS batch from the
  first, counts packets and not presses.  So a second UPDATE_UIDS packet writes
  while the first still waits (`update_without_press`).

  A packet has no other effect than that (`effect_received`); any other event has
  an effect only when it is the press the active command is asked for, or a
  response of READ_ALL_UIDS has gone out (`effect_tick`).
-/
import SignetBase.Firmware.Outputs
import SignetBase.Firmware.Login

namespace SignetBase.Firmware

open Control

variable (P : Platform)

/-! ### Effects that need a press -/

/-- The press the privileged commands wait for. -/
def gate : Command → Option PressKind
  | .updateUid | .readUid => some .short
  | .updateUids | .readAllUids | .wipe | .initializeDevice | .backupDevice | .restoreDevice
  | .changeMasterPassword | .updateFirmware => some .long
  | _ => none

theorem pressKind_of_gate {cmd : Command} {k : PressKind} (h : gate cmd = some k) :
    pressKind cmd = some k := by
  cases cmd <;> first | exact h | cases h

/-- The device state a privileged command starts. -/
def startsState : Command → Option DeviceState
  | .wipe => some .wiping
  | .initializeDevice => some .initializing
  | .backupDevice => some .backingUpDevice
  | .restoreDevice => some .restoringDevice
  | .updateFirmware => some .firmwareUpdate
  | _ => none

/-- The device enters the state that `cmd` starts; after ERASE_FLASH_PAGES it
    returns to `DS_FIRMWARE_UPDATE` by itself. -/
def Starts (s s' : Dev) (cmd : Command) : Prop :=
  startsState cmd = some s'.deviceState ∧ s'.deviceState ≠ s.deviceState ∧
    ¬ (s.deviceState = .erasingPages ∧ s'.deviceState = .firmwareUpdate)

/-- Some output on the way from `s` to `s'` is of the given kind. -/
def Sent (s s' : Dev) (kind : Output → Bool) : Prop := (newOutputs s s').any kind = true

/-- The step from `s` to `s'` has an effect of the command `cmd` that needs a
    press: the first page request of a record, record data that is not masked, a
    root page request for a new master password, the start of a long operation. -/
def Effect (s s' : Dev) (cmd : Command) : Prop :=
  match cmd with
  | .updateUid | .updateUids =>
    Sent s s' Output.isRecordWrite ∧ writeCount s' = 0 ∧ s'.activeCmd = some cmd
  | .readUid =>
    Sent s s' (Output.isOkayTo .readUid) ∧ s'.cmdData.get32 CmdData.readUidMasked = 0
  | .readAllUids =>
    Sent s s' (Output.isOkayTo .readAllUids) ∧ s'.cmdData.get32 CmdData.readAllUidsMasked = 0
  | .changeMasterPassword =>
    Sent s s' Output.isRootWrite ∧ s.activeCmd = some .changeMasterPassword ∧
      s.deviceState ≠ .initializing
  | cmd => okayNeedsPress cmd = true ∧ Sent s s' (Output.isOkayTo cmd) ∨ Starts s s' cmd

/-! ### What has to have happened -/

/-- The state function takes the packet in the buffer, answers nothing and begins
    the wait for a press. -/
def BeginsWait (s : Dev) (k : PressKind) : Prop :=
  packetDataLen s.cmdPacketBuf ≤ CMD_PACKET_PAYLOAD_SIZE ∧
    ∃ s', dispatch P (activate s) = .handled s' ∧ s'.outputs = s.outputs ∧
      s'.toControl = (activate s).toControl.beginWait k

/-- In the history `h` the command `cmd` was accepted and began to wait for its
    press; since then no packet has arrived and the wait has not timed out. -/
inductive Waiting (cmd : Command) (k : PressKind) : History Dev Event → Prop where
  | packet {h s e s₀} : delivered s e = some s₀ → packetCmd s₀.cmdPacketBuf = cmd →
      pressKind cmd = some k → BeginsWait P s₀ k → Waiting cmd k ((s, e) :: h)
  | later {h s e} : Waiting cmd k h → delivered s e = none → ¬ TimesOut s e →
      Waiting cmd k ((s, e) :: h)

/-- In the history `h` the press that `cmd` waited for was consumed; since then no
    packet has arrived but the next ones of the same batch (and cancels that find
    nothing to cancel), and nothing has timed out. -/
inductive Granted (cmd : Command) : History Dev Event → Prop where
  | press {h s e k} : Waiting P cmd k h → Pressed s k e → Granted cmd ((s, e) :: h)
  | later {h s e} : Granted cmd h → (∀ s₀, delivered s e = some s₀ →
      packetCmd s₀.cmdPacketBuf = .cancelButtonPress ∧ waiting s = false) → ¬ TimesOut s e →
      Granted cmd ((s, e) :: h)
  | batch {h s e s₀} : Granted cmd h → cmd = .updateUids → delivered s e = some s₀ →
      packetCmd s₀.cmdPacketBuf = .updateUids → s.cmdMessagesRemaining ≠ 0 →
      Granted cmd ((s, e) :: h)

/-- The step is the press that the accepted command waits for, or READ_ALL_UIDS
    goes on to the next record, or the next packet of an UPDATE_UIDS batch arrives,
    both after the press was given. -/
def Authorised (h : History Dev Event) (s : Dev) (e : Event) (cmd : Command) : Prop :=
  (∃ k, Waiting P cmd k h ∧ Pressed s k e) ∨
    (cmd = .readAllUids ∧ e = .packetSent ∧ Granted P cmd h) ∨
    (cmd = .updateUids ∧ Granted P cmd h ∧ s.cmdMessagesRemaining ≠ 0 ∧
      ∃ s₀, delivered s e = some s₀ ∧ packetCmd s₀.cmdPacketBuf = .updateUids)

/-- Every effect of every run that needs a press has had it. -/
def OnlyAuthorisedEffects : Prop :=
  ∀ h s e cmd, DevRun P anyStep h s → Effect s (step P s e) cmd → Authorised P h s e cmd

/-! ### The run that writes without a press -/

/-- An UPDATE_UIDS packet with a record of one sub-block. -/
def updateUidsPacket (uid : UInt8) (messagesRemaining : Nat) : List Event :=
  hidPackets 40 26 messagesRemaining ([uid, 0, 1, 0] ++ List.replicate 16 7)

/-- Log in and send the first packet of an UPDATE_UIDS batch. -/
def updateBatch : List Event := loginWithKey ++ .buttonDown :: updateUidsPacket 1 1

/-- The event is a long press. -/
def isHeld : Event → Bool
  | .buttonHeld => true
  | _ => false

theorem Waiting.pressKind_eq {cmd : Command} {k : PressKind} {h : History Dev Event}
    (hw : Waiting P cmd k h) : pressKind cmd = some k := by
  induction hw with
  | packet _ _ hk _ => exact hk
  | later _ _ _ ih => exact ih

theorem Granted.exists_held {cmd : Command} {h : History Dev Event} (hg : Granted P cmd h)
    (hk : pressKind cmd = some .long) : ∃ x ∈ h, isHeld x.2 = true := by
  induction hg with
  | @press _ _ _ k hw hp =>
    have hkk := hw.pressKind_eq.symm.trans hk
    cases hkk
    obtain ⟨rfl, -, -⟩ := hp
    exact ⟨_, List.mem_cons_self, rfl⟩
  | later _ _ _ ih =>
    obtain ⟨x, hx, hs⟩ := ih
    exact ⟨x, List.mem_cons_of_mem _ hx, hs⟩
  | batch _ _ _ _ _ ih =>
    obtain ⟨x, hx, hs⟩ := ih
    exact ⟨x, List.mem_cons_of_mem _ hx, hs⟩

/-- **A record is written without a press**: the second packet of a batch arrives
    while the first one still waits. -/
theorem update_without_press : ¬ OnlyAuthorisedEffects addPlatform := by
  intro hall
  have hstart : DevRun addPlatform anyStep [] (powerOn addPlatform keyedFlash) := .start ⟨_, rfl⟩
  have hrun := run_replay updateBatch ([], powerOn addPlatform keyedFlash) hstart
  generalize hr : replay (step addPlatform) updateBatch ([], powerOn addPlatform keyedFlash) = r
    at hrun
  obtain ⟨e, he⟩ : ∃ e, updateUidsPacket 2 0 = [e] := ⟨_, rfl⟩
  have heff : Effect r.2 (step addPlatform r.2 ((updateUidsPacket 2 0).headD .timer))
      .updateUids := by
    subst hr
    refine ⟨?_, ?_, ?_⟩
    · unfold Sent
      decide +kernel
    · decide +kernel
    · decide +kernel
  have hnone : r.1.all (fun x => !isHeld x.2) = true := by
    subst hr
    decide +kernel
  have hno : ¬ Granted addPlatform .updateUids r.1 := by
    intro hg
    obtain ⟨x, hx, hheld⟩ := hg.exists_held _ rfl
    have := List.all_eq_true.mp hnone x hx
    simp [hheld] at this
  rcases hall _ _ _ _ hrun heff with ⟨k, -, hp⟩ | ⟨h, -⟩ | ⟨-, hg, -⟩
  · rw [he] at hp
    cases he
    cases k <;> cases hp.1
  · cases h
  · exact hno hg

/-! ### What a packet can do -/

/-- READ_UID and READ_ALL_UIDS that `logged_in_state` answers at once, with
    masked data. -/
def ServesMasked (s : Dev) : Prop :=
  let data := s.cmdPacketBuf.window CMD_PACKET_HEADER_SIZE
  let dataLen := packetDataLen s.cmdPacketBuf
  s.deviceState = .loggedIn ∧ dataLen ≤ CMD_PACKET_PAYLOAD_SIZE ∧
    (packetCmd s.cmdPacketBuf = .readUid ∧
        ¬ (dataLen < 3 ∨ data.get16 0 < MIN_UID ∨ data.get16 0 > MAX_UID) ∧ data 2 ≠ 0 ∨
      packetCmd s.cmdPacketBuf = .readAllUids ∧ ¬ dataLen < 1 ∧ data 0 ≠ 0)

/-- An UPDATE_UIDS packet that comes now is taken for one of a batch. -/
def Continues (s : Dev) : Prop := s.activeCmd = some .updateUids ∧ s.cmdIterCount ≠ 0

/-- The active command reads records, with its mask still in `cmd_data`. -/
def MaskedRead (s : Dev) : Prop :=
  s.deviceState = .loggedIn ∧
    (s.activeCmd = some .readUid ∧ s.cmdData.get32 CmdData.readUidMasked ≠ 0 ∨
      s.activeCmd = some .readAllUids ∧ s.cmdData.get32 CmdData.readAllUidsMasked ≠ 0)

variable {h : History Dev Event} {s s' : Dev} {e : Event}

/-- The two ways a state function takes a command that waits for a press: it
    begins to wait, silently, or it answers. -/
inductive Taken (k : PressKind) (s s' : Dev) : Prop where
  | waits : s'.outputs = s.outputs → s'.toControl = s.toControl.beginWait k → Taken k s s'
  | answered : s'.toControl = s.toControl.finish 0 → Taken k s s'

theorem taken_initializeCmd (data : Mem) (dataLen : Int) (s : Dev) :
    Taken .long s (initializeCmd data dataLen s) := by
  unfold initializeCmd
  split
  · exact .answered rfl
  · exact .waits rfl rfl

theorem taken_changeMasterPasswordCmd (data : Mem) (dataLen : Int) (s : Dev) :
    Taken .long s (changeMasterPasswordCmd P data dataLen s) := by
  unfold changeMasterPasswordCmd
  simp only
  split
  · exact .answered rfl
  · split
    · split
      · exact .answered rfl
      · exact .waits rfl rfl
    · exact .answered rfl

theorem taken_readUidCmd (uid masked : Nat) (s : Dev) :
    Taken .short s (readUidCmd P uid masked s) := by
  unfold readUidCmd
  simp only
  split
  · exact .answered rfl
  · split
    · exact .waits rfl rfl
    · exact .answered rfl

/-- An UPDATE_UID(S) packet that asks for a press waits for the one it asks for. -/
theorem taken_updateUidPacket {cmd : Command} {k : PressKind}
    (hk : updatePressType cmd s = 1 ∧ k = .short ∨ updatePressType cmd s = 2 ∧ k = .long)
    (data : Mem) (dataLen : Int) : Taken k s (updateUidPacket P cmd data dataLen s) := by
  unfold updateUidPacket updateUidCmd
  simp only
  split
  · exact .answered rfl
  · split
    · exact .answered rfl
    · rcases hk with ⟨hk, rfl⟩ | ⟨hk, rfl⟩
      · rw [hk]
        exact .waits rfl rfl
      · rw [hk]
        exact .waits rfl rfl

theorem taken_uninitializedState {cmd : Command} {k : PressKind} {data : Mem} {dataLen : Int}
    (hk : gate cmd = some k) (h : uninitializedState P cmd data dataLen s = .handled s') :
    Taken k s s' := by
  unfold uninitializedState at h
  split at h
  · cases hk
  · cases hk
    cases h
    exact .waits rfl rfl
  · cases hk
    cases h
    exact taken_initializeCmd _ _ s
  · cases hk
  · cases hk
  · cases hk
    split at h
    · cases h
      exact .waits rfl rfl
    · cases h
      exact .answered rfl
  · cases h

theorem taken_loggedOutState {cmd : Command} {k : PressKind} {data : Mem} {dataLen : Int}
    (hk : gate cmd = some k) (h : loggedOutState P cmd data dataLen s = .handled s') :
    Taken k s s' := by
  unfold loggedOutState at h
  split at h
  · cases hk
  · cases hk
    cases h
    exact taken_changeMasterPasswordCmd P _ _ s
  · cases hk
    cases h
    exact taken_initializeCmd _ _ s
  · cases hk
    cases h
    exact .waits rfl rfl
  · cases hk
    cases h
    exact .waits rfl rfl
  · cases hk
    cases h
    exact .waits rfl rfl
  · cases hk
  · cases hk
  · cases hk
  · cases hk
  · cases h

theorem taken_loggedInState {cmd : Command} {k : PressKind} {data : Mem} {dataLen : Int}
    (hk : gate cmd = some k) (h₁ : cmd ≠ .readAllUids) (h₂ : cmd ≠ .updateUids) (h : loggedInState P cmd data dataLen s = .handled s') :
    Taken k s s' := by
  unfold loggedInState at h
  split at h
  · cases hk
  · cases hk
    cases h
    exact taken_changeMasterPasswordCmd P _ _ s
  · cases hk
    cases h
    exact .waits rfl rfl
  · cases hk
  · cases hk
    cases h
    unfold readUidPacket
    split
    · exact .answered rfl
    · exact taken_readUidCmd P _ _ s
  · exact absurd rfl h₂
  · cases hk
    cases h
    exact taken_updateUidPacket P (.inl ⟨rfl, rfl⟩) _ _
  · exact absurd rfl h₁
  · cases hk
  · cases hk
  · cases hk
  · cases hk
    cases h
    exact .waits rfl rfl
  · cases hk
  · cases hk
  · cases hk
  · cases h

/-- **A press-gated command is accepted silently**, or it is answered; the two that
    may act at once apart. -/
theorem taken_stateFunction {cmd : Command} {k : PressKind} {data : Mem} {dataLen : Int}
    (hk : gate cmd = some k) (h₁ : cmd ≠ .readAllUids) (h₂ : cmd ≠ .updateUids)
    (h : stateFunction P cmd data dataLen s = .handled s') :
    Taken k s s' := by
  have hprogress : ∀ {s'}, progressOnlyState cmd data dataLen s ≠ .handled s' := by
    intro s' h
    unfold progressOnlyState at h
    split at h
    · cases hk
    · cases h
  unfold stateFunction at h
  split at h
  · exact taken_uninitializedState P hk h
  · exact absurd h hprogress
  · exact absurd h hprogress
  · unfold backingUpDeviceState at h
    split at h
    · cases hk
    · cases hk
    · cases h
  · unfold restoringDeviceState at h
    split at h
    · cases hk
    · cases hk
    · cases hk
    · cases h
  · exact absurd h hprogress
  · unfold firmwareUpdateState at h
    split at h
    · cases hk
    · cases hk
    · cases h
    · cases h
  · exact taken_loggedOutState P hk h
  · exact taken_loggedInState P hk h₁ h₂ h
  · cases h
  · cases h
  · cases h

/-! ### The mask of a read -/

theorem get32_deriveIv (id : Nat) {off a : Nat} (s : Dev) (h : off + AES_BLK_SIZE ≤ a) :
    (deriveIv id off s).cmdData.get32 a = s.cmdData.get32 a := by
  have h16 : off + AES_BLK_SIZE - 1 < a := by
    simp only [AES_BLK_SIZE] at h ⊢
    omega
  unfold deriveIv
  simp only
  rw [Mem.get32_write_disjoint _ (.inr h16)]
  split
  · exact Mem.get32_congr fun i _ => Mem.copy_apply_of_notMem _ _ (.inr (by omega))
  · rfl

theorem readUidMasked_complete (s : Dev) :
    (readUidCmdComplete P s).cmdData.get32 CmdData.readUidMasked =
      s.cmdData.get32 CmdData.readUidMasked := by
  unfold readUidCmdComplete
  simp only [cmdData_finishCommand]
  rw [Mem.get32_write_disjoint _ (.inl (by decide)),
    Mem.get32_put16_disjoint _ _ (.inl (by decide))]

theorem readAllUidsMasked_iter (s : Dev) :
    (readAllUidsCmdIter P s).cmdData.get32 CmdData.readAllUidsMasked =
      s.cmdData.get32 CmdData.readAllUidsMasked := by
  unfold readAllUidsCmdIter
  simp only
  split
  · simp only [cmdData_finishCommandMulti]
    rw [Mem.get32_put16_disjoint _ _ (.inl (by decide)),
      Mem.get32_put32_disjoint _ _ (.inr (by decide))]
  · split
    · rfl
    · simp only [cmdData_finishCommandMulti]
      rw [Mem.get32_write_disjoint _ (.inl (by decide)), get32_deriveIv _ _ (by decide)]
      simp only
      rw [Mem.get32_put16_disjoint _ _ (.inl (by decide)),
        Mem.get32_put16_disjoint _ _ (.inl (by decide)),
        Mem.get32_putInt_disjoint _ _ (.inr (by decide)),
        Mem.get32_put32_disjoint _ _ (.inr (by decide))]

/-- The mask byte of a packet is kept as it came. -/
theorem readUidMasked_cmd (uid : Nat) {masked : Nat} (s : Dev) (h : masked < 256) :
    (readUidCmd P uid masked s).cmdData.get32 CmdData.readUidMasked = masked := by
  have hm : masked % 2 ^ 32 = masked := Nat.mod_eq_of_lt (by omega)
  unfold readUidCmd
  simp only
  generalize findUid (block P s) s.tables uid = r
  obtain ⟨blockNum, index⟩ := r
  -- the block number, index and entry lie in front of the mask
  generalize hm₁ : ((s.cmdData.put32 CmdData.readUidUid uid).put32 CmdData.readUidMasked
    masked).put32 CmdData.readUidBlockNum blockNum = m₁
  have h₁ : m₁.get32 CmdData.readUidMasked = masked := by
    rw [← hm₁, Mem.get32_put32_disjoint _ _ (.inr (by decide)), Mem.get32_put32, hm]
  cases index with
  | none =>
    simp only [if_true, cmdData_finishCommandResp]
    rw [get32_deriveIv _ _ (by decide)]
    simp only
    rw [Mem.get32_put32_disjoint _ _ (.inr (by decide))]
    split
    · exact h₁
    · rw [Mem.get32_putInt_disjoint _ _ (.inr (by decide)), h₁]
  | some j =>
    have h₂ : ∀ m : Mem, (deriveIv uid CmdData.readUidIv { s with cmdData := m }).cmdData.get32
        CmdData.readUidMasked = m.get32 CmdData.readUidMasked := fun m =>
      get32_deriveIv uid _ (by decide)
    simp only [reduceCtorEq, if_false]
    split
    · simp only [beginButtonPressWait, startBlinking]
      rw [h₂, Mem.get32_put32_disjoint _ _ (.inr (by decide)),
        Mem.get32_put32_disjoint _ _ (.inr (by decide)), h₁]
    · rw [readUidMasked_complete, h₂, Mem.get32_put32_disjoint _ _ (.inr (by decide)),
        Mem.get32_put32_disjoint _ _ (.inr (by decide)), h₁]

theorem readAllUidsMasked_cmd {masked : Nat} (s : Dev) (h : masked < 256) :
    (readAllUidsCmd P masked s).cmdData.get32 CmdData.readAllUidsMasked = masked := by
  have hm : masked % 2 ^ 32 = masked := Nat.mod_eq_of_lt (by omega)
  unfold readAllUidsCmd
  simp only
  split
  · simp only [beginLongButtonPressWait, startBlinking]
    rw [Mem.get32_put32_disjoint _ _ (.inr (by decide)), Mem.get32_put32, hm]
  · rw [readAllUidsMasked_iter]
    simp only
    rw [Mem.get32_put32_disjoint _ _ (.inr (by decide)), Mem.get32_put32, hm]

/-! ### Effects of packets -/

@[simp] theorem outputs_countIteration (mr : Nat) (s : Dev) :
    (countIteration mr s).outputs = s.outputs := by
  unfold countIteration
  split <;> rfl

@[simp] theorem activeCmd_countIteration (mr : Nat) (s : Dev) :
    (countIteration mr s).activeCmd = s.activeCmd := by
  unfold countIteration
  split <;> rfl

@[simp] theorem cmdData_countIteration (mr : Nat) (s : Dev) :
    (countIteration mr s).cmdData = s.cmdData := by
  unfold countIteration
  split <;> rfl

/-- A packet needs no press, but for record commands that act at once. -/
theorem quiet_received (hr : Received P s s') :
    Quiet s s' ∨ ∃ s₂, mayActAtOnce (packetCmd s.cmdPacketBuf) ∧
      packetDataLen s.cmdPacketBuf ≤ CMD_PACKET_PAYLOAD_SIZE ∧
      dispatch P (activate s) = .handled s₂ ∧
      s' = countIteration (packetMessagesRemaining s.cmdPacketBuf) s₂ := by
  have hactive : (activate s).activeCmd = some (packetCmd s.cmdPacketBuf) := rfl
  cases hr with
  | disconnect _ => exact .inl (quiet_cmdDisconnect s)
  | ignored _ _ _ => exact .inl (.of_eq rfl)
  | canceled _ _ _ =>
    left
    refine .trans ?_ (quiet_finishCommandResp _ _ (.inl (by decide)))
    exact .of_eq rfl
  | misfire _ _ => exact .inl (.of_eq rfl)
  | startup hc =>
    left
    refine .trans ?_ (quiet_startupCmd P (activate s) (not_needsPress_of_active (hc ▸ hactive) rfl))
    exact .of_eq rfl
  | getDeviceState hc =>
    left
    refine .trans ?_ (quiet_finishCommand _ _ (activate s)
      (.inr (not_needsPress_of_active (hc ▸ hactive) rfl)))
    exact .of_eq rfl
  | tooLong _ _ =>
    left
    refine .trans ?_ (quiet_finishCommandResp _ (activate s) (.inl (by decide)))
    exact .of_eq rfl
  | rejected _ _ _ =>
    left
    have hquiet : Quiet s (finishCommandResp .invalidState (activate s)) := by
      refine .trans ?_ (quiet_finishCommandResp _ (activate s) (.inl (by decide)))
      exact .of_eq rfl
    exact hquiet.trans (.of_eq (outputs_countIteration _ _))
  | @handled s₂ _ hlen hdisp =>
    by_cases hc : mayActAtOnce (packetCmd s.cmdPacketBuf)
    · exact .inr ⟨s₂, hc, hlen, hdisp, rfl⟩
    · left
      have hquiet : Quiet (activate s) s₂ := quiet_stateFunction P hactive hc hdisp
      refine .trans (.trans ?_ hquiet) (.of_eq (outputs_countIteration _ _))
      exact .of_eq rfl

/-- What READ_UID, READ_ALL_UIDS and UPDATE_UIDS do when their packet arrives. -/
inductive AtOnce (s s₂ : Dev) : Prop where
  | quiet : Quiet s s₂ → AtOnce s s₂
  | readUid : ServesMasked s → packetCmd s.cmdPacketBuf = .readUid →
      Emits (Output.answersTo .readUid) s s₂ → s₂.cmdData.get32 CmdData.readUidMasked ≠ 0 →
      AtOnce s s₂
  | readAllUids : ServesMasked s → packetCmd s.cmdPacketBuf = .readAllUids →
      Emits (Output.answersTo .readAllUids) s s₂ →
      s₂.cmdData.get32 CmdData.readAllUidsMasked ≠ 0 → AtOnce s s₂
  | batch : packetCmd s.cmdPacketBuf = .updateUids → Continues s →
      Emits (Output.movesIn s.deviceState) s s₂ → AtOnce s s₂

/-- Only `logged_in_state` takes the commands on records. -/
theorem dispatch_record {s₂ : Dev} (hc : mayActAtOnce (packetCmd s.cmdPacketBuf))
    (hd : dispatch P (activate s) = .handled s₂) :
    s.deviceState = .loggedIn ∧
      loggedInState P (packetCmd s.cmdPacketBuf) (s.cmdPacketBuf.window CMD_PACKET_HEADER_SIZE)
        (packetDataLen s.cmdPacketBuf) (activate s) = .handled s₂ := by
  have hpkt : (activate s).cmdPacketBuf = s.cmdPacketBuf := rfl
  have hst : (activate s).deviceState = s.deviceState := rfl
  unfold dispatch stateFunction at hd
  rw [hpkt, hst] at hd
  split at hd
  case h_9 h => exact ⟨h, hd⟩
  -- the other states know none of the three commands
  case h_10 => cases hd
  case h_11 => cases hd
  case h_12 => cases hd
  all_goals rcases hc with h | h | h <;> rw [h] at hd <;> cases hd

theorem toNat_ne_zero {b : UInt8} (h : b ≠ 0) : b.toNat ≠ 0 := fun h0 => h (UInt8.toNat_inj.mp h0)

theorem answersTo_readUidCmd (uid masked : Nat) {s : Dev} (h : s.activeCmd = some .readUid) :
    Emits (Output.answersTo .readUid) s (readUidCmd P uid masked s) := by
  unfold readUidCmd
  simp only
  generalize hs₁ : deriveIv uid CmdData.readUidIv _ = s₁
  have hout : s₁.outputs = s.outputs := by rw [← hs₁]; rfl
  have hact : s₁.activeCmd = some .readUid := by rw [← hs₁]; exact h
  refine .trans (.of_eq hout) ?_
  split
  · exact answersTo_finishCommandMulti _ _ _ _ s₁ hact
  · split
    · exact .of_eq rfl
    · exact answersTo_readUidCmdComplete P hact

theorem quiet_readUidCmd (uid : Nat) {masked : Nat} (s : Dev) (h : masked = 0) :
    Quiet s (readUidCmd P uid masked s) := by
  unfold readUidCmd
  simp only
  generalize hs₁ : deriveIv uid CmdData.readUidIv _ = s₁
  have hout : s₁.outputs = s.outputs := by rw [← hs₁]; rfl
  refine .trans (.of_eq hout) ?_
  split
  · exact quiet_finishCommandResp _ s₁ (.inl (by decide))
  · exact .of_eq rfl

theorem atOnce_readUid (hst : s.deviceState = .loggedIn)
    (hlen : packetDataLen s.cmdPacketBuf ≤ CMD_PACKET_PAYLOAD_SIZE)
    (hc : packetCmd s.cmdPacketBuf = .readUid) :
    AtOnce s (readUidPacket P (s.cmdPacketBuf.window CMD_PACKET_HEADER_SIZE)
      (packetDataLen s.cmdPacketBuf) (activate s)) := by
  have hactive : (activate s).activeCmd = some .readUid := hc ▸ rfl
  unfold readUidPacket
  split
  · refine .quiet (.trans ?_ (quiet_finishCommandResp _ (activate s) (.inl (by decide))))
    exact .of_eq rfl
  · rename_i hvalid
    generalize hdata : s.cmdPacketBuf.window CMD_PACKET_HEADER_SIZE = data at hvalid
    by_cases hmask : data 2 = 0
    · refine .quiet (.trans ?_ (quiet_readUidCmd P _ (activate s) (by rw [hmask]; rfl)))
      exact .of_eq rfl
    · have hserves : ServesMasked s := by
        refine ⟨hst, hlen, .inl ⟨hc, ?_, ?_⟩⟩
        · rw [hdata]
          exact hvalid
        · rw [hdata]
          exact hmask
      refine .readUid hserves hc (.trans ?_ (answersTo_readUidCmd P _ _ hactive)) ?_
      · exact .of_eq rfl
      · rw [readUidMasked_cmd P _ _ (data 2).toNat_lt]
        exact toNat_ne_zero hmask

theorem atOnce_readAllUids (hst : s.deviceState = .loggedIn)
    (hlen : packetDataLen s.cmdPacketBuf ≤ CMD_PACKET_PAYLOAD_SIZE)
    (hc : packetCmd s.cmdPacketBuf = .readAllUids) :
    AtOnce s (readAllUidsPacket P (s.cmdPacketBuf.window CMD_PACKET_HEADER_SIZE)
      (packetDataLen s.cmdPacketBuf) (activate s)) := by
  have hactive : (activate s).activeCmd = some .readAllUids := hc ▸ rfl
  unfold readAllUidsPacket
  split
  · refine .quiet (.trans ?_ (quiet_finishCommandResp _ (activate s) (.inl (by decide))))
    exact .of_eq rfl
  · rename_i hvalid
    generalize hdata : s.cmdPacketBuf.window CMD_PACKET_HEADER_SIZE = data
    have hmasked := readAllUidsMasked_cmd P (activate s) (data 0).toNat_lt
    by_cases hmask : data 0 = 0
    · refine .quiet ?_
      rw [hmask]
      exact .of_eq rfl
    · have hserves : ServesMasked s := by
        refine ⟨hst, hlen, .inr ⟨hc, hvalid, ?_⟩⟩
        rw [hdata]
        exact hmask
      refine .readAllUids hserves hc ?_ (by rw [hmasked]; exact toNat_ne_zero hmask)
      unfold readAllUidsCmd
      simp only
      rw [if_neg (toNat_ne_zero hmask)]
      refine .trans ?_ (answersTo_readAllUidsCmdIter P ?_)
      · exact .of_eq rfl
      · exact hactive

/-- A packet of a batch asks for a page, or is refused. -/
theorem moves_updateUidPacket (st : DeviceState) (cmd : Command) (data : Mem) (dataLen : Int)
    (s : Dev) : Emits (Output.movesIn st) s (updateUidPacket P cmd data dataLen s) := by
  unfold updateUidPacket
  simp only
  split
  · exact ((quiet_finishCommandResp _ s (.inl (by decide))).safeIn st).movesIn
  · unfold updateUidCmd
    simp only
    split
    · refine Emits.trans ?_ ((quiet_finishCommandResp _ _ (.inl (by decide))).safeIn st).movesIn
      exact .of_eq rfl
    · split
      · unfold updateUidCmdComplete
        refine Emits.trans ?_ (moves_flashWriteRecord st _ _ _)
        exact .of_eq rfl
      · split <;> exact .of_eq rfl

/-- A packet that starts a batch asks for a long press. -/
theorem updatePressType_first (hc : packetCmd s.cmdPacketBuf = .updateUids)
    (hcont : ¬ Continues s) : updatePressType .updateUids (activate s) = 2 := by
  have hcount : (activate s).cmdIterCount = 0 := by
    unfold activate
    simp only [hc]
    split
    · by_contra hne
      exact hcont ⟨‹_›, hne⟩
    · rfl
  simp [updatePressType, hcount]

theorem atOnce_updateUids (hc : packetCmd s.cmdPacketBuf = .updateUids) :
    AtOnce s (updateUidPacket P .updateUids (s.cmdPacketBuf.window CMD_PACKET_HEADER_SIZE)
      (packetDataLen s.cmdPacketBuf) (activate s)) := by
  by_cases hcont : Continues s
  · refine .batch hc hcont (.trans ?_ (moves_updateUidPacket P _ _ _ _ (activate s)))
    exact .of_eq rfl
  · refine .quiet (.trans ?_ (quiet_updateUidPacket P _ _ (activate s) ?_))
    · exact .of_eq rfl
    · simp [updatePressType_first hc hcont]

theorem atOnce_dispatch {s₂ : Dev} (hc : mayActAtOnce (packetCmd s.cmdPacketBuf))
    (hlen : packetDataLen s.cmdPacketBuf ≤ CMD_PACKET_PAYLOAD_SIZE)
    (hd : dispatch P (activate s) = .handled s₂) : AtOnce s s₂ := by
  obtain ⟨hst, hd⟩ := dispatch_record P hc hd
  rcases hc with h | h | h
  · rw [h] at hd
    cases hd
    exact atOnce_readUid P hst hlen h
  · rw [h] at hd
    cases hd
    exact atOnce_readAllUids P hst hlen h
  · rw [h] at hd
    cases hd
    exact atOnce_updateUids P h

/-- An output through which the step from `s` to `s'` has an effect of `cmd`. -/
inductive Needs (s s' : Dev) (cmd : Command) (o : Output) : Prop where
  | record : o.isRecordWrite = true → cmd = .updateUid ∨ cmd = .updateUids → writeCount s' = 0 →
      s'.activeCmd = some cmd → Needs s s' cmd o
  | root : o.isRootWrite = true → cmd = .changeMasterPassword → s.activeCmd = some cmd →
      s.deviceState ≠ .initializing → Needs s s' cmd o
  | okay : o.isOkayTo cmd = true → okayNeedsPress cmd = true →
      (cmd = .readUid → s'.cmdData.get32 CmdData.readUidMasked = 0) →
      (cmd = .readAllUids → s'.cmdData.get32 CmdData.readAllUidsMasked = 0) → Needs s s' cmd o

/-- An effect is the start of a long operation, or an output. -/
theorem effect_cases {cmd : Command} (he : Effect s s' cmd) :
    Starts s s' cmd ∨ ∃ o ∈ newOutputs s s', Needs s s' cmd o := by
  unfold Effect Sent at he
  simp only [List.any_eq_true] at he
  split at he
  · obtain ⟨⟨o, ho, hr⟩, hw, hc⟩ := he
    exact .inr ⟨o, ho, .record hr (.inl rfl) hw hc⟩
  · obtain ⟨⟨o, ho, hr⟩, hw, hc⟩ := he
    exact .inr ⟨o, ho, .record hr (.inr rfl) hw hc⟩
  · obtain ⟨⟨o, ho, hr⟩, hm⟩ := he
    exact .inr ⟨o, ho, .okay hr rfl (fun _ => hm) nofun⟩
  · obtain ⟨⟨o, ho, hr⟩, hm⟩ := he
    exact .inr ⟨o, ho, .okay hr rfl nofun fun _ => hm⟩
  · obtain ⟨⟨o, ho, hr⟩, hc, hst⟩ := he
    exact .inr ⟨o, ho, .root hr rfl hc hst⟩
  · rename_i h₁ h₂ h₃ h₄ h₅
    rcases he with ⟨hn, o, ho, hr⟩ | hs
    · exact .inr ⟨o, ho, .okay hr hn (fun h => absurd h h₃) fun h => absurd h h₄⟩
    · exact .inl hs

theorem not_needs_of_harmless {cmd : Command} {o : Output} (ho : o.harmless) :
    ¬ Needs s s' cmd o := by
  obtain ⟨h₁, h₂, h₃⟩ := ho
  intro hn
  cases hn with
  | record hr _ _ _ => rw [h₁] at hr; cases hr
  | root hr _ _ _ => rw [h₂] at hr; cases hr
  | okay hr hp _ _ => rw [h₃ cmd hp] at hr; cases hr

/-- An answer to a read is an effect of that read only. -/
theorem needs_of_answersTo {cmd cmd' : Command} {o : Output} (ho : o.answersTo cmd')
    (hn : Needs s s' cmd o) : cmd = cmd' ∧
      (cmd = .readUid → s'.cmdData.get32 CmdData.readUidMasked = 0) ∧
      (cmd = .readAllUids → s'.cmdData.get32 CmdData.readAllUidsMasked = 0) := by
  obtain ⟨h₁, h₂, h₃⟩ := ho
  cases hn with
  | record hr _ _ _ => rw [h₁] at hr; cases hr
  | root hr _ _ _ => rw [h₂] at hr; cases hr
  | okay hr hp hm hm' => exact ⟨h₃ cmd hp hr, hm, hm'⟩

theorem needs_of_movesIn {cmd : Command} {o : Output} (ho : o.movesIn s.deviceState)
    (hn : Needs s s' cmd o) :
    (cmd = .updateUid ∨ cmd = .updateUids) ∧ writeCount s' = 0 ∧ s'.activeCmd = some cmd := by
  obtain ⟨h₂, h₃⟩ := ho
  cases hn with
  | record _ hc hw ha => exact ⟨hc, hw, ha⟩
  | root hr _ _ hst => exact absurd (h₂ hr) hst
  | okay hr hp _ _ => rw [h₃ cmd hp] at hr; cases hr

/-- A backup that is going on waits for no long press, and was started in a state
    that one logs in from or to. -/
def BackupOk (s : Dev) : Prop :=
  s.deviceState = .backingUpDevice → s.waitingForLongButtonPress = false ∧
    (s.backupPrevState = .loggedOut ∨ s.backupPrevState = .loggedIn)

/-- No packet starts a long operation. -/
theorem not_starts_received {cmd : Command} (hr : Received P s s') (hbackup : BackupOk s) :
    ¬ Starts s s' cmd := by
  rintro ⟨hst, hne, -⟩
  have henter := packetEnters_received P hr
  generalize s'.deviceState = st at henter hst hne
  cases henter with
  | stays => exact hne rfl
  | leaves hor => rcases hor with rfl | rfl | rfl | rfl <;> cases cmd <;> cases hst
  | backupDone _ hb =>
    rcases (hbackup hb).2 with h | h <;> rw [h] at hst <;> cases cmd <;> cases hst

/-- **The only effect a packet has is the write of a batch that goes on.** -/
theorem effect_received {cmd : Command} (hr : Received P s s') (hbackup : BackupOk s)
    (he : Effect s s' cmd) :
    cmd = .updateUids ∧ packetCmd s.cmdPacketBuf = .updateUids ∧ Continues s := by
  rcases effect_cases he with hstart | ⟨o, ho, hneeds⟩
  · exact absurd hstart (not_starts_received P hr hbackup)
  · rcases quiet_received P hr with hquiet | ⟨s₂, hc, hlen, hd, rfl⟩
    · exact absurd hneeds (not_needs_of_harmless (hquiet.of_mem_new o ho))
    · have hnew : newOutputs s (countIteration (packetMessagesRemaining s.cmdPacketBuf) s₂) =
          newOutputs s s₂ := by
        unfold newOutputs
        rw [outputs_countIteration]
      rw [hnew] at ho
      cases atOnce_dispatch P hc hlen hd with
      | quiet hquiet => exact absurd hneeds (not_needs_of_harmless (hquiet.of_mem_new o ho))
      | readUid _ _ hemit hmask =>
        obtain ⟨rfl, hm, -⟩ := needs_of_answersTo (hemit.of_mem_new o ho) hneeds
        rw [cmdData_countIteration] at hm
        exact absurd (hm rfl) hmask
      | readAllUids _ _ hemit hmask =>
        obtain ⟨rfl, -, hm⟩ := needs_of_answersTo (hemit.of_mem_new o ho) hneeds
        rw [cmdData_countIteration] at hm
        exact absurd (hm rfl) hmask
      | batch hpkt hcont hemit =>
        obtain ⟨-, -, ha⟩ := needs_of_movesIn (hemit.of_mem_new o ho) hneeds
        refine ⟨?_, hpkt, hcont⟩
        rw [activeCmd_countIteration] at ha
        have hact : (activate s).activeCmd = some .updateUids := hpkt ▸ rfl
        have := (activeCmd_handled hact (hpkt ▸ handled_dispatch P hd)).resolve_right (by simp [ha])
        exact Option.some.inj (ha.symm.trans this)

/-! ### Effects of other events -/

theorem gate_of_effect {cmd : Command} {k : PressKind} {o : Output} (hn : Needs s s' cmd o)
    (hk : pressKind cmd = some k) : gate cmd = some k := by
  cases hn with
  | record _ hc _ _ => rcases hc with rfl | rfl <;> exact hk
  | root _ hc _ _ => exact hc ▸ hk
  | okay _ hp _ _ => cases cmd <;> first | exact hk | cases hp

/-- A long operation starts at a long press. -/
theorem starts_tick {cmd : Command} (ht : Tick P s e s'.toControl) (hs : Starts s s' cmd) :
    gate cmd = some .long ∧ Pressed s .long e ∧ s.activeCmd = some cmd := by
  obtain ⟨hst, hne, herase⟩ := hs
  generalize s'.toControl = c' at ht hst hne herase
  have hstay : c'.deviceState ≠ s.deviceState := hne
  cases ht with
  | quiet h => exact absurd h.deviceState hstay
  | stuck _ => exact absurd rfl hstay
  | pressed _ _ h => exact absurd h.deviceState hstay
  | loggedIn _ _ _ h =>
    rw [h.deviceState] at hst
    cases cmd <;> cases hst
  | held _ h => exact absurd h.deviceState hstay
  | heldStuck _ _ => exact absurd rfl hstay
  | heldEntered hp hcmd hlong h =>
    rw [h.deviceState] at hst
    cases hlong <;> cases cmd <;> cases hst <;> exact ⟨rfl, hp, hcmd⟩
  | heldBackup hp hcmd _ h =>
    rw [h.deviceState] at hst
    cases cmd <;> cases hst
    exact ⟨rfl, hp, hcmd⟩
  | timeout _ h => exact absurd h.deviceState hstay
  | token _ _ h =>
    rw [h.deviceState] at hst
    cases cmd <;> cases hst
  | flashed hf h =>
    rw [h.deviceState] at hst herase
    generalize s.deviceState = st₀ at hf herase
    cases hf with
    | initialized => cases cmd <;> cases hst
    | inconsistent => cases cmd <;> cases hst
    | wiped => cases cmd <;> cases hst
    | erased => exact absurd ⟨rfl, rfl⟩ herase

/-- **An event that is not a packet has an effect at the press the active command
    waits for**, or when READ_ALL_UIDS goes on. -/
theorem effect_tick {cmd : Command} (hp : ∀ packet, e ≠ .hidRx packet) (hh : s.hung = false)
    (he : Effect s (step P s e) cmd) :
    (∃ k, gate cmd = some k ∧ Pressed s k e ∧ s.activeCmd = some cmd) ∨
      cmd = .readAllUids ∧ e = .packetSent ∧ s.rawHidTxPending = true ∧
        s.activeCmd = some .readAllUids := by
  have ht := tick_step P s hp hh
  have hs := sends_step P s hp hh
  have hactive := activeCmd_tick P ht
  generalize step P s e = s' at *
  rcases effect_cases he with hstart | ⟨o, ho, hneeds⟩
  · exact .inl ⟨.long, starts_tick P ht hstart⟩
  · cases hs with
    | safe hemit =>
      obtain ⟨hrec, hmove⟩ := hemit.of_mem_new o ho
      obtain ⟨hc, hw, ha⟩ := needs_of_movesIn hmove hneeds
      cases hneeds with
      | record hr _ _ _ => rw [hrec] at hr; cases hr
      | root hr _ _ hst => exact absurd (hmove.1 hr) hst
      | okay hr hk _ _ => rw [hmove.2 cmd hk] at hr; cases hr
    | moved hemit hw =>
      obtain ⟨-, hw', -⟩ := needs_of_movesIn (hemit.of_mem_new o ho) hneeds
      rw [hw] at hw'
      cases hw'
    | @pressed k cmd' _ _ hpress hcmd hk hemit =>
      have hcmd' : cmd = cmd' := by
        cases hneeds with
        | record _ _ _ ha =>
          have := (hactive.resolve_right (by simp [ha])).symm.trans ha
          exact Option.some.inj (this.symm.trans hcmd)
        | root _ _ ha _ => exact Option.some.inj (ha.symm.trans hcmd)
        | okay hr hp' _ _ => exact hemit.of_mem_new o ho cmd hp' hr
      subst hcmd'
      exact .inl ⟨k, gate_of_effect hneeds hk, hpress, hcmd⟩
    | sent htx hcmd hemit =>
      refine .inr ⟨?_, rfl, htx, hcmd⟩
      cases hneeds with
      | record _ hor _ ha =>
        have := (hactive.resolve_right (by simp [ha])).symm.trans ha
        rw [hcmd] at this
        exact (Option.some.inj this).symm
      | root _ hc ha _ =>
        rw [hcmd] at ha
        exact (Option.some.inj ha).symm
      | okay hr hp' _ _ => exact hemit.of_mem_new o ho cmd hp' hr

/-! ### How a press-gated packet is taken -/

/-- What becomes of a press-gated packet that is dispatched. -/
inductive PacketTaken (k : PressKind) (s s₂ : Dev) : Prop where
  | waits : BeginsWait P s k → s₂.toControl = (activate s).toControl.beginWait k →
      PacketTaken k s s₂
  | answered : s₂.toControl = (activate s).toControl.finish 0 → PacketTaken k s s₂
  | masked : ServesMasked s → (activate s).toControl.Clears s₂.toControl ∨
      s₂.toControl = { (activate s).toControl with hung := true } → PacketTaken k s s₂
  | batch : packetCmd s.cmdPacketBuf = .updateUids → Continues s →
      (activate s).toControl.Clears s₂.toControl → PacketTaken k s s₂

theorem clears_updateUidPacket_batch {cmd : Command} (data : Mem) (dataLen : Int)
    (h : updatePressType cmd s = 0) :
    s.toControl.Clears (updateUidPacket P cmd data dataLen s).toControl := by
  unfold updateUidPacket updateUidCmd
  simp only
  split
  · exact clears_finish _ 0
  · split
    · exact clears_finish _ 0
    · rw [toControl_updateUidCmdComplete]
      exact .same

theorem packetTaken_readAllUids (hst : s.deviceState = .loggedIn)
    (hlen : packetDataLen s.cmdPacketBuf ≤ CMD_PACKET_PAYLOAD_SIZE)
    (hc : packetCmd s.cmdPacketBuf = .readAllUids) {s₂ : Dev}
    (hs₂ : s₂ = readAllUidsPacket P (s.cmdPacketBuf.window CMD_PACKET_HEADER_SIZE)
      (packetDataLen s.cmdPacketBuf) (activate s))
    (hof : Taken .long (activate s) s₂ → PacketTaken P .long s s₂) : PacketTaken P .long s s₂ := by
  unfold readAllUidsPacket at hs₂
  split at hs₂
  · exact hof (hs₂ ▸ .answered rfl)
  · rename_i hvalid
    generalize hdata : s.cmdPacketBuf.window CMD_PACKET_HEADER_SIZE = data at hs₂
    by_cases hmask : data 0 = 0
    · rw [hmask] at hs₂
      exact hof (hs₂ ▸ .waits rfl rfl)
    · refine .masked ⟨hst, hlen, .inr ⟨hc, hvalid, hdata ▸ hmask⟩⟩ ?_
      rw [hs₂]
      rcases toControl_readAllUidsCmd P (activate s) (data 0).toNat with (⟨mr, h⟩ | h) | ⟨h0, -⟩
      · exact .inl (h ▸ clears_finish _ mr)
      · exact .inr h
      · exact absurd h0 (toNat_ne_zero hmask)

theorem packetTaken_dispatch {k : PressKind} {s₂ : Dev}
    (hk : gate (packetCmd s.cmdPacketBuf) = some k)
    (hlen : packetDataLen s.cmdPacketBuf ≤ CMD_PACKET_PAYLOAD_SIZE)
    (hd : dispatch P (activate s) = .handled s₂) : PacketTaken P k s s₂ := by
  have hof : Taken k (activate s) s₂ → PacketTaken P k s s₂ := by
    intro ht
    cases ht with
    | waits hout hctl => exact .waits ⟨hlen, s₂, hd, hout, hctl⟩ hctl
    | answered hctl => exact .answered hctl
  by_cases h₁ : packetCmd s.cmdPacketBuf = .readAllUids
  · obtain ⟨hst, hd'⟩ := dispatch_record P (.inr (.inl h₁)) hd
    rw [h₁] at hk hd'
    cases hk
    cases hd'
    exact packetTaken_readAllUids P hst hlen h₁ rfl hof
  · by_cases h₂ : packetCmd s.cmdPacketBuf = .updateUids
    · obtain ⟨hst, hd'⟩ := dispatch_record P (.inr (.inr h₂)) hd
      rw [h₂] at hk hd'
      cases hk
      cases hd'
      by_cases hcont : Continues s
      · refine .batch h₂ hcont (clears_updateUidPacket_batch P _ _ ?_)
        have hcount : (activate s).cmdIterCount = s.cmdIterCount := by
          unfold activate
          simp only [h₂, hcont.1, if_true]
        simp [updatePressType, hcount, hcont.2]
      · exact hof (taken_updateUidPacket P (.inr ⟨updatePressType_first h₂ hcont, rfl⟩) _ _)
    · exact hof (taken_stateFunction P hk h₁ h₂ hd)

end SignetBase.Firmware
