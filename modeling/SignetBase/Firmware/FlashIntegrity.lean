/-
  SignetBase/Firmware/FlashIntegrity.lean
  =======================================
  **Every write is carried out as it was asked for.**

  The flash driver takes one request at a time, programs it out of buffers that
  packets and handlers share, and reports its completion to whatever the device is
  doing by then.  As long as nothing gets in the way of a write under way
  (`Undisturbed`), every request is started, what is programmed is what the source
  held at the call, and the completion is taken for the operation that made the
  request (`flash_writes_kept`).
-/
import SignetBase.Firmware.FlashDriver
import SignetBase.Firmware.Login

namespace SignetBase.Firmware

open Control

variable (P : Platform)

variable {s s' s₁ : Dev} {r : FlashRequest} {i : Nat} {e : Event} {h : History Dev Event}
  {op : Operation}

/-! ### What the runs keep -/

/-- The requests made on the way from `s` to `s'`, newest first. -/
def newRequests (s s' : Dev) : List FlashRequest :=
  s'.flashRequests.take (s'.flashRequests.length - s.flashRequests.length)

/-- A random word arrives. -/
def Event.isWord : Event → Bool
  | .rtcWord _ | .rngWord _ => true
  | _ => false

/-- The operation in which a step may make a request: that of the packet, of the
    active command at a press, INITIALIZE at a random word, or the one that a
    completion is taken for. -/
inductive Issuer (s : Dev) : Event → Operation → Prop
  | packet {packet : Bytes} {s₀ : Dev} : delivered s (.hidRx packet) = some s₀ →
      Issuer s (.hidRx packet) (.of (packetCmd s₀.cmdPacketBuf))
  | press {k : PressKind} {e : Event} {cmd : Command} : Pressed s k e →
      s.activeCmd = some cmd → Issuer s e (.of cmd)
  | word {e : Event} : e.isWord = true → s.deviceState = .initializing → Issuer s e .init
  | completed {e : Event} {s₁ : Dev} {op : Operation} : completion s e = some s₁ →
      op ∈ s₁.toControl.handlers → Issuer s e op

/-- The request `r`, made by the operation `op`, is the last one made, and the driver
    has been busy since. -/
inductive Pending : History Dev Event → Operation → FlashRequest → Prop
  | issued {h : History Dev Event} {s : Dev} {e : Event} {op : Operation} {r : FlashRequest} :
      Issuer s e op → newRequests s (step P s e) = [r] → Pending ((s, e) :: h) op r
  | waits {h : History Dev Event} {s : Dev} {e : Event} {op : Operation} {r : FlashRequest} :
      newRequests s (step P s e) = [] → (step P s e).flashState ≠ .idle → Pending h op r →
      Pending ((s, e) :: h) op r

/-- The requests of the step are started; and where `flash_write_complete` is called,
    the driver has programmed what the source of the last request held at the call,
    and the completion is taken for the operation that made it, and for no other. -/
def Kept (h : History Dev Event) (s : Dev) (e : Event) : Prop :=
  (∀ r ∈ newRequests s (step P s e), r.started = true) ∧
    ∀ s₁, completion s e = some s₁ → ∃ op r, Pending P h op r ∧
      s₁.flash.read r.dest r.held.length = r.held ∧ s₁.toControl.handlers = [op]

/-- Every step of every run keeps its flash writes. -/
def FlashWritesKept : Prop := ∀ h s e, DevRun P anyStep h s → Kept P h s e

/-! ### A write that is dropped -/

/-- STARTUP, a confirmed RESTORE_DEVICE, and ERASE_BLOCK for block 1. -/
def eraseRun : List Event :=
  hidPackets 0 6 0 [] ++ hidPackets 24 6 0 [] ++ [.buttonDown, .buttonHeld] ++
    hidPackets 26 7 0 [1]

/-- ERASE_BLOCK for block 2. -/
def eraseAgain : Event := (hidPackets 26 7 0 [2]).headD .timer

/-- **A write is dropped**: the second ERASE_BLOCK comes while the first block is being
    erased. -/
theorem write_dropped : ¬ FlashWritesKept addPlatform := by
  intro hall
  have hstart : DevRun addPlatform anyStep [] (powerOn addPlatform fun _ => 0) := .start ⟨_, rfl⟩
  have hrun := run_replay eraseRun ([], powerOn addPlatform fun _ => 0) hstart
  have hkept := (hall _ _ eraseAgain hrun).1
  have hdropped : ((newRequests (replay (step addPlatform) eraseRun
      ([], powerOn addPlatform fun _ => 0)).2 (step addPlatform (replay (step addPlatform) eraseRun
        ([], powerOn addPlatform fun _ => 0)).2 eraseAgain)).all fun r => r.started) = false := by
    decide +kernel
  rw [List.all_eq_false] at hdropped
  obtain ⟨r, hr, hno⟩ := hdropped
  exact hno (hkept r hr)

/-! ### Steps that disturb no write -/

/-- A write is under way, or a long operation is. -/
def WriteUnderWay (s : Dev) : Prop :=
  s.flashState ≠ .idle ∨ stateOperation s.deviceState ≠ none

/-- The packet in `cmd_packet_buf` disturbs no write under way.  While a command
    waits for its write it is only a CANCEL_BUTTON_PRESS that leaves the command active;
    while a long operation writes it neither restarts nor disconnects the device; in a
    long operation it announces no more messages for a command that
    `flash_write_complete` goes on with; and it is no STARTUP outside
    DS_DISCONNECTED for a store that needs a repair. -/
structure PacketUndisturbed (s : Dev) : Prop where
  command : s.flashState ≠ .idle → commandOperation s.activeCmd ≠ none →
    packetCmd s.cmdPacketBuf = .cancelButtonPress ∧
      (waiting s = true → s.cmdMessagesRemaining ≠ 0)
  operation : s.flashState ≠ .idle → stateOperation s.deviceState ≠ none →
    packetCmd s.cmdPacketBuf ≠ .disconnect ∧ packetCmd s.cmdPacketBuf ≠ .startup
  announced : stateOperation s.deviceState ≠ none →
    packetMessagesRemaining s.cmdPacketBuf ≠ 0 → packetCmd s.cmdPacketBuf ≠ .startup →
      awaitsWrite (packetCmd s.cmdPacketBuf) = false
  startup : packetCmd s.cmdPacketBuf = .startup → s.deviceState ≠ .disconnected →
    ¬ (rootFormatted P (activate s) ∧ scanRepairs P (activate s))

/-- The step disturbs no write under way: no packet is received into the buffer that is
    being programmed; a packet that is executed is undisturbing; no press is consumed that
    the active command waits for; no timeout takes the command that waits for its write
    away; and no handler of a LOGIN, GET_RAND_BITS or READ_ALL_UIDS that was refused runs
    on the state or the parameters of the write. -/
structure Undisturbed (s : Dev) (e : Event) : Prop where
  buffer : ∀ packet, e = .hidRx packet → rxFits packet = true → s.flashState ≠ .idle →
    ∀ p ∈ s.flashWriteData, p.object ≠ .cmdPacketBuf
  packet : ∀ s₀, delivered s e = some s₀ → PacketUndisturbed P s₀
  press : ∀ k, WriteUnderWay s → Pressed s k e → s.activeCmd.bind pressKind ≠ some k
  timeout : s.flashState ≠ .idle → commandOperation s.activeCmd ≠ none → TimesOut s e →
    s.cmdMessagesRemaining ≠ 0
  login : WriteUnderWay s → e.isWord = true → s.activeCmd ≠ some .login
  randBits : s.deviceState = .initializing → e.isWord = true → s.activeCmd ≠ some .getRandBits
  sent : s.deviceState = .initializing → e = .packetSent → s.activeCmd ≠ some .readAllUids

/-! ### Long operations and the active command -/

/-- In a long operation no command waits for a completion, and no backup ends in
    one. -/
structure OperationInv (c : Control) : Prop where
  running : stateOperation c.deviceState ≠ none → commandOperation c.activeCmd = none
  backup : stateOperation c.backupPrevState = none

section Operations

variable {c c' : Control} {cmd : Command} {st : DeviceState}

theorem Control.Clears.backupPrevState (h : c.Clears c') :
    c'.backupPrevState = c.backupPrevState := by
  cases h <;> rfl

theorem Control.Reaches.backupPrevState (h : c.Reaches st c') :
    c'.backupPrevState = c.backupPrevState := by
  obtain ⟨c₁, h₁, h₂⟩ := h
  exact h₂.backupPrevState.trans h₁.backupPrevState

theorem commandOperation_of_not {active : Option Command} (hactive : active = some cmd)
    (h : awaitsWrite cmd = false) : commandOperation active = none := by
  rw [hactive]
  simp [commandOperation, h]

theorem OperationInv.clears (hi : OperationInv c) (h : c.Clears c') : OperationInv c' where
  running hst := by
    rw [h.deviceState] at hst
    exact h.commandOperation (hi.running hst)
  backup := by
    rw [h.backupPrevState]
    exact hi.backup

/-- A state may be entered that is no long operation, or by a command that waits for no
    completion. -/
theorem OperationInv.reaches (hi : OperationInv c) (h : c.Reaches st c')
    (hok : stateOperation st = none ∨ commandOperation c.activeCmd = none) :
    OperationInv c' where
  running hst := by
    rw [h.deviceState] at hst
    rcases hok with hno | hno
    · exact absurd hno hst
    · exact h.commandOperation hno
  backup := by
    rw [h.backupPrevState]
    exact hi.backup

theorem OperationInv.endWait (hi : OperationInv c) (k : PressKind) :
    OperationInv (c.endWait k) := by
  cases k with
  | short => exact ⟨hi.running, hi.backup⟩
  | long => exact ⟨hi.running, hi.backup⟩

theorem OperationInv.beginWait (hi : OperationInv c) (k : PressKind) :
    OperationInv (c.beginWait k) := by
  cases k with
  | short => exact ⟨hi.running, hi.backup⟩
  | long => exact ⟨hi.running, hi.backup⟩

theorem stateOperation_of_longEnters (h : LongEnters cmd st) :
    awaitsWrite cmd = false ∧ (stateOperation st = some .init → cmd = .initializeDevice) := by
  cases h with
  | updateFirmware => exact ⟨rfl, nofun⟩
  | wipe => exact ⟨rfl, nofun⟩
  | restoreDevice => exact ⟨rfl, nofun⟩
  | initializeDevice => exact ⟨rfl, fun _ => rfl⟩

/-- The state a long operation ends in is none. -/
theorem stateOperation_of_flashEnters {st' : DeviceState} (h : FlashEnters st st') :
    stateOperation st' = none := by
  cases h <;> rfl

theorem operationInv_tick (hi : OperationInv s.toControl) (hok : Undisturbed P s e)
    (ht : Tick P s e c') : OperationInv c' := by
  cases ht with
  | quiet h => exact hi.clears h
  | stuck _ => exact ⟨hi.running, hi.backup⟩
  | pressed _ _ h => exact (hi.endWait .short).clears h
  | loggedIn _ _ _ h => exact (hi.endWait .short).reaches h (.inl rfl)
  | held _ h => exact (hi.endWait .long).clears h
  | heldStuck _ _ => exact ⟨hi.running, hi.backup⟩
  | heldEntered _ hcmd hst h =>
    refine (hi.endWait .long).reaches h (.inr ?_)
    exact commandOperation_of_not hcmd (stateOperation_of_longEnters hst).1
  | heldBackup hp hcmd h₁ h =>
    -- the state to go back to is no long operation: there the press is not consumed
    have hno : stateOperation s.deviceState = none := by
      by_contra hst
      have hpress := hok.press .long (.inr hst) hp
      rw [hcmd] at hpress
      exact hpress rfl
    constructor
    · intro hst
      rw [h.deviceState] at hst
      exact absurd rfl hst
    · rw [h.backupPrevState]
      exact hno
  | timeout _ h => exact ((hi.endWait .short).endWait .long).clears h
  | token _ _ h => exact hi.reaches h (.inl rfl)
  | flashed hf h => exact hi.reaches h (.inl (stateOperation_of_flashEnters hf))

theorem stateFunction_running_cmd {data : Mem} {dataLen : Int}
    (hst : stateOperation s.deviceState ≠ none)
    (h : stateFunction P cmd data dataLen s = .handled s') : cmd = .getProgress := by
  have hprogress : progressOnlyState cmd data dataLen s = .handled s' := by
    unfold stateFunction at h
    split at h
    all_goals first | exact h | simp_all [stateOperation]
  unfold progressOnlyState at hprogress
  split at hprogress
  · rfl
  · cases hprogress

theorem commandOperation_activate (h : awaitsWrite (packetCmd s.cmdPacketBuf) = false) :
    commandOperation (activate s).activeCmd = none :=
  commandOperation_of_not rfl h

/-- A command that is answered is active no more, unless it announced more messages. -/
theorem commandOperation_answered (hpkt : PacketUndisturbed P s)
    (hcmd : packetCmd s.cmdPacketBuf ≠ .startup) (hst : stateOperation s.deviceState ≠ none) :
    commandOperation ((activate s).toControl.finish 0).activeCmd = none := by
  by_cases hmr : packetMessagesRemaining s.cmdPacketBuf = 0
  · have hfin : ((activate s).toControl.finish 0).activeCmd = none := if_pos ⟨rfl, hmr⟩
    rw [hfin]
    rfl
  · refine (clears_finish _ _).commandOperation ?_
    exact commandOperation_activate (hpkt.announced hst hmr hcmd)

theorem operationInv_handled (hi : OperationInv c) (hactive : c.activeCmd = some cmd)
    (hrun : stateOperation c.deviceState ≠ none → awaitsWrite cmd = false)
    (hh : Handled cmd c c') : OperationInv c' := by
  cases hh with
  | answered h => exact hi.clears h
  | waiting _ => exact hi.beginWait _
  | stuck => exact ⟨hi.running, hi.backup⟩
  | entered he h =>
    cases he with
    | logout _ => exact hi.reaches h (.inl rfl)
    | backupDone _ => exact hi.reaches h (.inl hi.backup)
    | restoreDone _ => exact hi.reaches h (.inl rfl)
    | erase _ => exact hi.reaches h (.inr (commandOperation_of_not hactive rfl))
  | disconnected _ => exact ⟨fun h => absurd rfl h, hi.backup⟩

theorem operationInv_countIteration (n : Nat) (hi : OperationInv s.toControl) :
    OperationInv (countIteration n s).toControl := by
  unfold countIteration
  split
  · exact ⟨hi.running, hi.backup⟩
  · exact hi

theorem operationInv_activate {s₀ : Dev} (hi : OperationInv s₀.toControl)
    (hst : stateOperation s₀.deviceState = none) : OperationInv (activate s₀).toControl :=
  ⟨fun h => absurd hst h, hi.backup⟩

/-- An answer to the packet. -/
theorem operationInv_answered {s₀ : Dev} (hi : OperationInv s₀.toControl)
    (hpkt : PacketUndisturbed P s₀) (hcmd : packetCmd s₀.cmdPacketBuf ≠ .startup) :
    OperationInv ((activate s₀).toControl.finish 0) where
  running hst := commandOperation_answered P hpkt hcmd hst
  backup := hi.backup

theorem operationInv_received {s₀ : Dev} (hi : OperationInv s₀.toControl)
    (hpkt : PacketUndisturbed P s₀) (hr : Received P s₀ s') : OperationInv s'.toControl := by
  cases hr with
  | disconnect _ => exact ⟨fun h => absurd rfl h, hi.backup⟩
  | ignored _ _ _ => exact hi
  | canceled _ _ _ => exact (hi.endWait .short).clears (clears_finish _ 0)
  | misfire _ _ => exact ⟨fun _ => rfl, hi.backup⟩
  | startup _ =>
    obtain ⟨st, hor, hreach⟩ := reaches_startupCmd P (activate s₀)
    have hno : stateOperation st = none := by
      rcases hor with rfl | rfl
      · rfl
      · rfl
    constructor
    · intro hst
      rw [hreach.deviceState] at hst
      exact absurd hno hst
    · rw [hreach.backupPrevState]
      unfold startupControl
      split
      · exact hi.backup
      · exact hi.backup
  | getDeviceState hc =>
    exact operationInv_answered P hi hpkt (by simp [hc])
  | tooLong hord _ => exact operationInv_answered P hi hpkt hord.2.2.1
  | rejected hord _ _ =>
    exact operationInv_countIteration _ (operationInv_answered P hi hpkt hord.2.2.1)
  | handled _ _ hd =>
    refine operationInv_countIteration _ ?_
    by_cases hst : stateOperation s₀.deviceState = none
    · refine operationInv_handled (operationInv_activate hi hst) rfl ?_ (handled_dispatch P hd)
      exact fun h => absurd hst h
    · have hcmd := stateFunction_running_cmd P (s := activate s₀) hst hd
      have haw : awaitsWrite (packetCmd s₀.cmdPacketBuf) = false := by
        rw [show packetCmd s₀.cmdPacketBuf = .getProgress from hcmd]
        rfl
      have hact : OperationInv (activate s₀).toControl :=
        ⟨fun _ => commandOperation_activate haw, hi.backup⟩
      exact operationInv_handled hact rfl (fun _ => haw) (handled_dispatch P hd)

/-- A hung device does nothing any more. -/
theorem step_hung (hh : s.hung = true) : step P s e = s := if_pos hh

/-- **An undisturbed step keeps long operations and commands apart.** -/
theorem operationInv_step (hi : OperationInv s.toControl) (hok : Undisturbed P s e) :
    OperationInv (step P s e).toControl := by
  by_cases hh : s.hung = true
  · rw [step_hung P hh]
    exact hi
  · rw [Bool.not_eq_true] at hh
    cases he : e with
    | hidRx packet =>
      cases hd : delivered s (.hidRx packet) with
      | none =>
        rw [(step_undelivered P hd).1]
        exact hi
      | some s₀ =>
        have hctl := (delivered_eq hd).1
        rcases step_delivered P hd with h | h
        · rw [h]
          exact ⟨fun h => absurd rfl h, rfl⟩
        · rw [← he] at hd
          exact operationInv_received P (hctl ▸ hi) (hok.packet s₀ hd) h
    | _ =>
      rw [he] at hok
      exact operationInv_tick P hi hok (tick_step P s nofun hh)

theorem operationInv_run (hr : DevRun P (Undisturbed P) h s) : OperationInv s.toControl := by
  refine hr.invariant (P := fun _ s => OperationInv s.toControl) ?_ ?_
  · rintro s ⟨flash, rfl⟩
    exact ⟨fun h => absurd rfl h, rfl⟩
  · intro h s e _ hok hi
    exact operationInv_step P hi hok

end Operations

end SignetBase.Firmware
