/-
  SignetBase/Firmware/Login.lean
  ==============================
  **Who can enter `DS_LOGGED_IN` on the original device.**

  The state is entered from the button, from the random number interrupt and at
  the end of a backup.  The first two look at the active command only, and a
  command packet becomes the active command before the state function has looked
  at it.  A LOGIN that is refused therefore stays active when its header
  announces more messages, and the bytes an earlier command left where LOGIN
  keeps `authenticated` are then taken for a login that a press has confirmed
  (`login_without_key`).

  When refused LOGIN and LOGIN_TOKEN packets announce no further messages, an
  active login command is an accepted one whose key is still in `cmd_data`, and
  `authenticated` records its press (`LoginInv`).  From that every entry into
  `DS_LOGGED_IN` is accounted for along any run (`login_authorised`).
-/
import SignetBase.Firmware.CmdData

namespace SignetBase.Firmware

open Control

variable (P : Platform)

/-! ### What has to have happened -/

/-- The two login commands. -/
def isLogin (cmd : Command) : Prop := cmd = .login ∨ cmd = .loginToken

instance (cmd : Command) : Decidable (isLogin cmd) := inferInstanceAs (Decidable (_ ∨ _))

/-- The key (or token) a login packet carries. -/
def packetKey (s : Dev) : Bytes := s.cmdPacketBuf.read CMD_PACKET_HEADER_SIZE AES_256_KEY_SIZE

/-- `logged_out_state` takes the login packet in the buffer and waits for its
    press. -/
def AcceptsLogin (s : Dev) (cmd : Command) : Prop :=
  s.deviceState = .loggedOut ∧ packetCmd s.cmdPacketBuf = cmd ∧
    packetDataLen s.cmdPacketBuf ≤ CMD_PACKET_PAYLOAD_SIZE ∧
    (cmd = .login ∧ (AES_256_KEY_SIZE : Int) ≤ packetDataLen s.cmdPacketBuf ∨
      cmd = .loginToken ∧ packetDataLen s.cmdPacketBuf = AES_256_KEY_SIZE)

instance (s : Dev) (cmd : Command) : Decidable (AcceptsLogin s cmd) :=
  inferInstanceAs (Decidable (_ ∧ _ ∧ _ ∧ (_ ∧ _ ∨ _ ∧ _)))

/-- The event completes no command packet other than a cancel. -/
def NoNewCommand (s : Dev) (e : Event) : Prop :=
  ∀ s₀, delivered s e = some s₀ → packetCmd s₀.cmdPacketBuf = .cancelButtonPress

/-- In the history `h` the login command `cmd` with this key was accepted, and no
    command has arrived since. -/
inductive Accepted (cmd : Command) (key : Bytes) : History Dev Event → Prop where
  | packet {h s e s₀} : delivered s e = some s₀ → AcceptsLogin s₀ cmd → packetKey s₀ = key →
      Accepted cmd key ((s, e) :: h)
  | later {h s e} : Accepted cmd key h → NoNewCommand s e → Accepted cmd key ((s, e) :: h)

/-- The key makes `attempt_login_256` return 1 against the stored data. -/
def KeyLogsIn (s : Dev) (cmd : Command) (key : Bytes) : Prop :=
  s.rootPage RootPage.signature = 2 ∧
    (cmd = .login ∧ (attemptLogin P s key).isSome ∨
      cmd = .loginToken ∧ (attemptLoginToken P s key).isSome)

/-- In the history `h` a press was consumed while the accepted login command
    waited for it, its key was right, and no command has arrived since. -/
inductive Confirmed (cmd : Command) (key : Bytes) : History Dev Event → Prop where
  | press {h s} : Accepted cmd key h → s.buttonState = false → s.waitingForButtonPress = true →
      KeyLogsIn P s cmd key → Confirmed cmd key ((s, .buttonDown) :: h)
  | later {h s e} : Confirmed cmd key h → NoNewCommand s e → Confirmed cmd key ((s, e) :: h)

/-- The backup that is going on was started from the state `st`. -/
inductive BackupFrom (st : DeviceState) : History Dev Event → Prop where
  | started {h s e} : s.deviceState = st → st ≠ .backingUpDevice →
      (step P s e).deviceState = .backingUpDevice → BackupFrom st ((s, e) :: h)
  | later {h s e} : BackupFrom st h → s.deviceState = .backingUpDevice →
      BackupFrom st ((s, e) :: h)

/-- A step into `DS_LOGGED_IN` is accounted for: a login command was accepted
    and confirmed by a press with the right key, or BACKUP_DEVICE_DONE ends a
    backup that was started in `DS_LOGGED_IN`. -/
def LoginAuthorised (h : History Dev Event) (s : Dev) (e : Event) : Prop :=
  (∃ cmd key, isLogin cmd ∧ Confirmed P cmd key ((s, e) :: h)) ∨
    (∃ s₀, delivered s e = some s₀ ∧ packetCmd s₀.cmdPacketBuf = .backupDeviceDone ∧
      s.deviceState = .backingUpDevice ∧ BackupFrom P .loggedIn h)

/-- Every step of every run into `DS_LOGGED_IN` is accounted for. -/
def OnlyAuthorisedLogins : Prop :=
  ∀ h s e, DevRun P anyStep h s → s.deviceState ≠ .loggedIn →
    (step P s e).deviceState = .loggedIn → LoginAuthorised P h s e

/-! ### The run that logs in without a key -/

/-- Block functions for concrete runs: a cipher that adds the key bytewise. -/
def addPlatform : Platform where
  aes256Encrypt := fun key blk => List.zipWith (· + ·) blk key
  aes256Decrypt := fun key blk => List.zipWith (· - ·) blk key
  crcReset := 0
  crcStep := fun dr word => dr + word
  memAt := fun _ => 0
  beforeRootPage := fun _ => 0

/-- A chip with an initialised root page and erased data blocks. -/
def initialisedFlash : Mem :=
  Mem.write (fun _ => 0xff) ROOT_PAGE_ADDR (rootSignature ++ [0, 0, 0, 0, 2])

/-- The HID packets of a command. -/
def hidPackets (cmd : UInt8) (len messagesRemaining : Nat) (data : Bytes) : List Event :=
  let packet := Mem.bytes16 len ++ [cmd] ++ Mem.bytes16 messagesRemaining ++ [0] ++ data
  let last := (packet.length - 1) / RAW_HID_PAYLOAD_SIZE
  (List.range (last + 1)).map fun i =>
    .hidRx (UInt8.ofNat (if i = last then 128 + i else i) ::
      (packet.drop (i * RAW_HID_PAYLOAD_SIZE)).take RAW_HID_PAYLOAD_SIZE)

/-- CHANGE_MASTER_PASSWORD with a wrong old key leaves its hash parameters where
    LOGIN keeps `authenticated` and `gen_token`, here 0x01010101 and 0; a LOGIN that
    claims to be longer than a packet can be, with one more message announced, is
    refused but stays active. -/
def loginWithoutKey : List Event :=
  (List.replicate 8 (.rtcWord 1) ++ List.replicate 8 (.rngWord 2)) ++
    (hidPackets 0 6 0 [] ++
      (hidPackets 20 118 0 (List.replicate 64 1 ++ List.replicate 4 1 ++ List.replicate 44 0) ++
        hidPackets 6 0xffff 1 []))

theorem Accepted.exists_packet {cmd : Command} {key : Bytes} {h : History Dev Event}
    (ha : Accepted cmd key h) :
    ∃ x ∈ h, ∃ s₀, delivered x.1 x.2 = some s₀ ∧ AcceptsLogin s₀ cmd := by
  induction ha with
  | packet hd hacc _ => exact ⟨_, List.mem_cons_self, _, hd, hacc⟩
  | later _ _ ih =>
    obtain ⟨x, hx, hs⟩ := ih
    exact ⟨x, List.mem_cons_of_mem _ hx, hs⟩

theorem Confirmed.exists_packet {cmd : Command} {key : Bytes} {h : History Dev Event}
    (hc : Confirmed P cmd key h) :
    ∃ x ∈ h, ∃ s₀, delivered x.1 x.2 = some s₀ ∧ AcceptsLogin s₀ cmd := by
  induction hc with
  | press ha _ _ _ =>
    obtain ⟨x, hx, hs⟩ := ha.exists_packet
    exact ⟨x, List.mem_cons_of_mem _ hx, hs⟩
  | later _ _ ih =>
    obtain ⟨x, hx, hs⟩ := ih
    exact ⟨x, List.mem_cons_of_mem _ hx, hs⟩

/-- The step completes no packet that a login command is accepted with. -/
def acceptsNoLogin (x : Dev × Event) : Bool :=
  (delivered x.1 x.2).all fun s₀ =>
    decide (¬ AcceptsLogin s₀ .login) && decide (¬ AcceptsLogin s₀ .loginToken)

/-- **The device can be logged in without a key**: in a run in which no login
    command was ever accepted, the next random word enters `DS_LOGGED_IN`. -/
theorem login_without_key : ¬ OnlyAuthorisedLogins addPlatform := by
  intro hall
  have hstart : DevRun addPlatform anyStep [] (powerOn addPlatform initialisedFlash) :=
    .start ⟨_, rfl⟩
  have hrun := run_replay loginWithoutKey ([], powerOn addPlatform initialisedFlash) hstart
  generalize hr : replay (step addPlatform) loginWithoutKey
    ([], powerOn addPlatform initialisedFlash) = r at hrun
  have hbefore : r.2.deviceState = .loggedOut := by
    subst hr; decide +kernel
  have hafter : (step addPlatform r.2 (.rtcWord 1)).deviceState = .loggedIn := by
    subst hr; decide +kernel
  have hnone : r.1.all acceptsNoLogin = true := by
    subst hr; decide +kernel
  rcases hall r.1 r.2 (.rtcWord 1) hrun (by simp [hbefore]) hafter with
    ⟨cmd, key, hcmd, hconf⟩ | ⟨s₀, hd, -⟩
  · obtain ⟨x, hx, s₀, hd, hacc⟩ := hconf.exists_packet
    rcases List.mem_cons.mp hx with rfl | hx
    · cases hd
    · have hx := List.all_eq_true.mp hnone x hx
      unfold acceptsNoLogin at hx
      rw [hd] at hx
      rcases hcmd with rfl | rfl
      · simp [hacc] at hx
      · simp [hacc] at hx
  · cases hd

/-! ### `cmd_data` while a login command is active -/

/-- The key in `cmd_data`: LOGIN and LOGIN_TOKEN keep it in the same place. -/
def heldKey (s : Dev) : Bytes := s.cmdData.read CmdData.loginPassword AES_256_KEY_SIZE

/-- `cmd_data.login.authenticated` is not 0. -/
def authenticated (s : Dev) : Prop := s.cmdData.get32 CmdData.loginAuthenticated ≠ 0

/-- Random words drawn behind an offset leave the bytes before it alone. -/
theorem cmdData_randFill_of_lt (f : Nat → Nat → Nat) (n : Nat) {off a : Nat} (s : Dev)
    (h : a < off) : (randFill f off n s).cmdData a = s.cmdData a := by
  induction n generalizing off s with
  | zero => rfl
  | succ n ih =>
    unfold randFill
    simp only
    rw [ih _ (by omega)]
    exact Mem.write_apply_of_notMem _ (.inl h)

theorem cmdData_drawLoginToken_of_lt {a : Nat} (s : Dev) (h : a < CmdData.loginToken) :
    (drawLoginToken s).cmdData a = s.cmdData a := by
  unfold drawLoginToken
  rw [cmdData_randFill_of_lt _ _ s h]

@[simp] theorem cmdData_storeTokenCiphertexts (s : Dev) :
    (storeTokenCiphertexts P s).cmdData = s.cmdData := rfl

theorem cmdData_loginCmdIter_of_lt {a : Nat} (s : Dev) (h : a < CmdData.loginToken) :
    (loginCmdIter P s).cmdData a = s.cmdData a := by
  unfold loginCmdIter
  split
  · simp only [cmdData_enterState, cmdData_finishCommandMulti, cmdData_storeTokenCiphertexts]
    exact cmdData_drawLoginToken_of_lt s h
  · rfl

theorem heldKey_loginCmdIter (s : Dev) : heldKey (loginCmdIter P s) = heldKey s :=
  Mem.read_congr fun i hi => cmdData_loginCmdIter_of_lt P s (by
    simp only [CmdData.loginPassword, CmdData.loginToken, AES_256_KEY_SIZE] at hi ⊢
    omega)

theorem authenticated_loginCmdIter (s : Dev) : authenticated (loginCmdIter P s) ↔ authenticated s := by
  unfold authenticated
  rw [Mem.get32_congr fun i hi => cmdData_loginCmdIter_of_lt P s (by
    simp only [CmdData.loginAuthenticated, CmdData.loginToken]
    omega)]

theorem heldKey_loginAuthenticated (key : Bytes) (s : Dev) :
    heldKey (loginAuthenticated key s) = heldKey s :=
  Mem.read_write_disjoint _ (.inl (by decide))

theorem heldKey_congr {s s' : Dev} (h : s'.cmdData = s.cmdData) : heldKey s' = heldKey s := by
  rw [heldKey, heldKey, h]

theorem authenticated_congr {s s' : Dev} (h : s'.cmdData = s.cmdData) :
    authenticated s' ↔ authenticated s := by
  rw [authenticated, authenticated, h]

/-- An accepted LOGIN stores its key and clears `authenticated`. -/
theorem heldKey_loginCmd (data : Mem) {dataLen : Int} (s : Dev)
    (h : (AES_256_KEY_SIZE : Int) ≤ dataLen) :
    heldKey (loginCmd data dataLen s) = data.read 0 AES_256_KEY_SIZE ∧
      ¬ authenticated (loginCmd data dataLen s) := by
  unfold loginCmd
  rw [if_neg (by omega)]
  simp only [heldKey, authenticated, beginButtonPressWait, startBlinking, ne_eq, not_not]
  constructor
  · split
    · exact (Mem.read_write_disjoint _ (.inl (by decide))).trans (Mem.read_copy _ _ _ _ _)
    · exact Mem.read_copy _ _ _ _ _
  · have hcopy : ∀ m : Mem, (m.copy CmdData.loginPassword data 0 AES_256_KEY_SIZE).get32
        CmdData.loginAuthenticated = m.get32 CmdData.loginAuthenticated := fun m =>
      Mem.get32_congr fun i _ => Mem.copy_apply_of_notMem _ _ (.inr (by
        simp only [CmdData.loginPassword, CmdData.loginAuthenticated, AES_256_KEY_SIZE]
        omega))
    split
    · rw [Mem.put32, Mem.get32_write_disjoint _ (.inl (by decide)), hcopy, Mem.get32_put32, Nat.zero_mod]
    · rw [hcopy, Mem.get32_put32, Nat.zero_mod]

/-- An accepted LOGIN_TOKEN stores its token. -/
theorem heldKey_loginTokenCmd {data : Mem} {dataLen : Int} (s : Dev)
    (h : dataLen = AES_256_KEY_SIZE) :
    heldKey (loginTokenCmd data dataLen s) = data.read 0 AES_256_KEY_SIZE := by
  unfold loginTokenCmd
  rw [if_neg (by omega)]
  exact Mem.read_copy _ _ _ _ _

/-- A short press while a login command is active: only a right key sets
    `authenticated`. -/
theorem sameLogin_buttonPressed {s : Dev} {cmd : Command} (hl : isLogin cmd)
    (hcmd : s.activeCmd = some cmd) :
    heldKey (buttonPressed P s) = heldKey s ∧
      (authenticated (buttonPressed P s) → authenticated s ∨ LoginSucceeds P s) := by
  have hpressed : ∀ key, (loginPressed key s).cmdData = s.cmdData := by
    intro key
    unfold loginPressed
    split
    · simp
    · rfl
  unfold buttonPressed
  rw [hcmd]
  rcases hl with rfl | rfl
  · simp only
    split
    · rename_i hsig
      split
      · rename_i hkey
        refine ⟨?_, fun _ => .inr ⟨hsig, .inl ⟨hcmd, hkey.1⟩⟩⟩
        exact (heldKey_loginCmdIter P _).trans (heldKey_loginAuthenticated _ s)
      · exact ⟨heldKey_congr (hpressed _), fun h => .inl ((authenticated_congr (hpressed _)).mp h)⟩
    · exact ⟨rfl, .inl⟩
  · simp only
    split
    · exact ⟨heldKey_congr (hpressed _), fun h => .inl ((authenticated_congr (hpressed _)).mp h)⟩
    · exact ⟨rfl, .inl⟩

/-- **Between packets the held key stays**, and `authenticated` is set only by a
    press that the right key was held at. -/
theorem login_data_step {s : Dev} {cmd : Command} (hl : isLogin cmd) (hcmd : s.activeCmd = some cmd)
    (hst : s.deviceState = .loggedOut ∨ s.deviceState = .loggedIn) {e : Event}
    (he : ∀ packet, e ≠ .hidRx packet) :
    heldKey (step P s e) = heldKey s ∧
      (authenticated (step P s e) → authenticated s ∨
        e = .buttonDown ∧ s.buttonState = false ∧ s.waitingForButtonPress = true ∧
          LoginSucceeds P s) := by
  have hrec : ¬ writesRecords cmd := by
    rintro (rfl | rfl | rfl) <;> rcases hl with h | h <;> cases h
  rcases cmdData_tick P hcmd hrec hst he with
    h | ⟨-, rfl, -⟩ | ⟨hp, h⟩ | ⟨-, h⟩ | ⟨s₀, hdata, hcmd₀, h⟩
  · exact ⟨heldKey_congr h, fun ha => .inl ((authenticated_congr h).mp ha)⟩
  · rcases hl with h | h <;> cases h
  · obtain ⟨h₁, h₂⟩ := sameLogin_buttonPressed P (s := endButtonPressWait s) hl hcmd
    refine ⟨(heldKey_congr h).trans h₁, fun ha => ?_⟩
    exact (h₂ ((authenticated_congr h).mp ha)).imp id fun hs => ⟨hp.1, hp.2.1, hp.2.2, hs⟩
  · have hlong : (longButtonPressed P (endLongButtonPressWait { s with buttonState := false })).cmdData
        = s.cmdData := by
      have hcmd' : (endLongButtonPressWait { s with buttonState := false }).activeCmd = some cmd :=
        hcmd
      unfold longButtonPressed
      rw [hcmd']
      rcases hl with rfl | rfl <;> rfl
    have h := h.trans hlong
    exact ⟨heldKey_congr h, fun ha => .inl ((authenticated_congr h).mp ha)⟩
  · rw [hcmd] at hcmd₀
    unfold commandRandUpdate at h
    rw [hcmd₀] at h
    rcases hl with rfl | rfl
    · refine ⟨(heldKey_congr h).trans ((heldKey_loginCmdIter P s₀).trans (heldKey_congr hdata)),
        fun ha => .inl ?_⟩
      rw [authenticated_congr h] at ha
      exact (authenticated_congr hdata).mp ((authenticated_loginCmdIter P s₀).mp ha)
    · exact ⟨heldKey_congr (h.trans hdata),
        fun ha => .inl ((authenticated_congr (h.trans hdata)).mp ha)⟩

/-! ### The invariant -/

/-- A LOGIN or LOGIN_TOKEN packet that is not accepted announces no more
    messages, so its refusal ends it. -/
def RefusedLoginsFinal (s : Dev) (e : Event) : Prop :=
  ∀ s₀ ∈ delivered s e, isLogin (packetCmd s₀.cmdPacketBuf) →
    AcceptsLogin s₀ (packetCmd s₀.cmdPacketBuf) ∨ packetMessagesRemaining s₀.cmdPacketBuf = 0

instance (s : Dev) (e : Event) : Decidable (RefusedLoginsFinal s e) :=
  inferInstanceAs (Decidable (∀ s₀ ∈ delivered s e, _))

/-- An active login command is an accepted one, its key is the one held in
    `cmd_data`, and `authenticated` means that a press has confirmed it; a backup
    waits for no long press and remembers the state it was started from. -/
structure LoginInv (h : History Dev Event) (s : Dev) : Prop where
  login : ∀ cmd, isLogin cmd → s.activeCmd = some cmd →
    (s.deviceState = .loggedOut ∨ s.deviceState = .loggedIn) ∧ Accepted cmd (heldKey s) h ∧
      (cmd = .login → authenticated s → Confirmed P cmd (heldKey s) h)
  backup : s.deviceState = .backingUpDevice →
    s.waitingForLongButtonPress = false ∧ BackupFrom P s.backupPrevState h

/-- The state `st` is not itself a backup. -/
theorem BackupFrom.ne {st : DeviceState} {h : History Dev Event} (hb : BackupFrom P st h) :
    st ≠ .backingUpDevice := by
  induction hb with
  | started _ hne _ => exact hne
  | later _ _ ih => exact ih

theorem loginInv_powerOn (flash : Mem) : LoginInv P [] (powerOn P flash) where
  login := fun _ _ hcmd => nomatch hcmd
  backup := fun hst => nomatch hst

variable {h : History Dev Event} {s : Dev} {e : Event}

/-- Reaching a state with no login command active, and no backup that was not
    going on before. -/
theorem loginInv_other {s' : Dev} (hi : LoginInv P h s)
    (hactive : ∀ cmd, isLogin cmd → s'.activeCmd ≠ some cmd)
    (hbackup : s'.deviceState = .backingUpDevice → s.deviceState = .backingUpDevice ∧
      s'.backupPrevState = s.backupPrevState ∧
      s'.waitingForLongButtonPress = s.waitingForLongButtonPress) :
    LoginInv P ((s, e) :: h) s' where
  login := fun cmd hl hcmd => absurd hcmd (hactive cmd hl)
  backup := fun hst => by
    obtain ⟨hst', hprev, hwait⟩ := hbackup hst
    obtain ⟨hlong, hfrom⟩ := hi.backup hst'
    exact ⟨hwait.trans hlong, hprev ▸ .later hfrom hst'⟩

/-- Reaching a state that has the same control fields except for the short wait,
    and the same `cmd_data`, by a cancel. -/
theorem loginInv_cancel {s' : Dev} (hi : LoginInv P h s) (hnew : NoNewCommand s e)
    (hdata : s'.cmdData = s.cmdData) (hactive : ∀ cmd, s'.activeCmd = some cmd →
      s.activeCmd = some cmd) (hst : s'.deviceState = s.deviceState)
    (hprev : s'.backupPrevState = s.backupPrevState)
    (hwait : s'.waitingForLongButtonPress = s.waitingForLongButtonPress) :
    LoginInv P ((s, e) :: h) s' where
  login := fun cmd hl hcmd => by
    obtain ⟨h₁, h₂, h₃⟩ := hi.login cmd hl (hactive cmd hcmd)
    rw [hst, heldKey_congr hdata, authenticated_congr hdata]
    exact ⟨h₁, .later h₂ hnew, fun hc ha => .later (h₃ hc ha) hnew⟩
  backup := fun hst' => by
    rw [hst] at hst'
    obtain ⟨hlong, hfrom⟩ := hi.backup hst'
    exact ⟨hwait.trans hlong, hprev ▸ .later hfrom hst'⟩

/-- A backup that is going on takes no command that waits for a press. -/
theorem pressKind_of_backingUp {s₁ s₂ : Dev} (hst : s₁.deviceState = .backingUpDevice)
    (hd : dispatch P s₁ = .handled s₂) : pressKind (packetCmd s₁.cmdPacketBuf) = none := by
  unfold dispatch stateFunction at hd
  rw [hst] at hd
  simp only [backingUpDeviceState] at hd
  split at hd
  · rename_i hcmd
    rw [hcmd]
    rfl
  · rename_i hcmd
    rw [hcmd]
    rfl
  · cases hd

/-- What handling a command leaves of a backup. -/
theorem backup_handled {s₁ s₂ : Dev} (hprev : s₁.deviceState = .backingUpDevice →
      s₁.backupPrevState ≠ .backingUpDevice)
    (hd : dispatch P s₁ = .handled s₂) (hst : s₂.deviceState = .backingUpDevice) :
    s₁.deviceState = .backingUpDevice ∧ s₂.backupPrevState = s₁.backupPrevState ∧
      s₂.waitingForLongButtonPress = s₁.waitingForLongButtonPress := by
  have hh := handled_dispatch P hd
  generalize hc : s₂.toControl = c₂ at hh
  have hst' : c₂.deviceState = .backingUpDevice := hc ▸ hst
  cases hh with
  | answered h =>
    cases h with
    | same => exact ⟨hst', rfl, rfl⟩
    | cleared => exact ⟨hst', rfl, rfl⟩
  | waiting hk =>
    rename_i k
    have hb : s₁.deviceState = .backingUpDevice := by cases k <;> exact hst'
    rw [pressKind_of_backingUp P hb hd] at hk
    cases hk
  | stuck => exact ⟨hst', rfl, rfl⟩
  | entered he h =>
    rw [h.deviceState] at hst'
    generalize hcmd : packetCmd s₁.cmdPacketBuf = cmd at he
    cases he with
    | logout _ => cases hst'
    | backupDone hb => exact absurd hst' (hprev hb)
    | restoreDone _ => cases hst'
    | erase _ => cases hst'
  | disconnected _ => cases hst'

/-- **A handled login packet was accepted by `logged_out_state`**, or it was
    answered INVALID_INPUT. -/
theorem dispatch_login {s₁ s₂ : Dev} {cmd : Command} (hl : isLogin cmd)
    (hcmd : packetCmd s₁.cmdPacketBuf = cmd)
    (hlen : packetDataLen s₁.cmdPacketBuf ≤ CMD_PACKET_PAYLOAD_SIZE)
    (hd : dispatch P s₁ = .handled s₂) :
    (¬ AcceptsLogin s₁ cmd ∧ s₂.toControl = s₁.toControl.finish 0) ∨
      (AcceptsLogin s₁ cmd ∧ heldKey s₂ = packetKey s₁ ∧ (cmd = .login → ¬ authenticated s₂) ∧
        s₂.toControl = { s₁.toControl with waitingForButtonPress := true }) := by
  have hkey : packetKey s₁ = (s₁.cmdPacketBuf.window CMD_PACKET_HEADER_SIZE).read 0
      AES_256_KEY_SIZE := by
    rw [Mem.read_window]
    rfl
  have hst : s₁.deviceState = .loggedOut := by
    unfold dispatch stateFunction at hd
    rw [hcmd] at hd
    rcases hl with rfl | rfl <;>
      (split at hd <;> first | assumption | cases hd)
  unfold dispatch stateFunction at hd
  rw [hst, hcmd] at hd
  rcases hl with rfl | rfl
  · cases hd
    by_cases h32 : (AES_256_KEY_SIZE : Int) ≤ packetDataLen s₁.cmdPacketBuf
    · obtain ⟨h₁, h₂⟩ := heldKey_loginCmd (s₁.cmdPacketBuf.window CMD_PACKET_HEADER_SIZE) s₁ h32
      refine .inr ⟨⟨hst, hcmd, hlen, .inl ⟨rfl, h32⟩⟩, h₁.trans hkey.symm, fun _ => h₂, ?_⟩
      unfold loginCmd
      rw [if_neg (by omega)]
      rfl
    · refine .inl ⟨?_, ?_⟩
      · rintro ⟨-, -, -, ⟨-, h⟩ | ⟨h, -⟩⟩
        · exact h32 h
        · cases h
      · unfold loginCmd
        rw [if_pos (by omega)]
        rfl
  · cases hd
    by_cases h32 : packetDataLen s₁.cmdPacketBuf = AES_256_KEY_SIZE
    · refine .inr ⟨⟨hst, hcmd, hlen, .inr ⟨rfl, h32⟩⟩,
        (heldKey_loginTokenCmd s₁ h32).trans hkey.symm, nofun, ?_⟩
      unfold loginTokenCmd
      rw [if_neg (by omega)]
      rfl
    · refine .inl ⟨?_, ?_⟩
      · rintro ⟨-, -, -, ⟨h, -⟩ | ⟨-, h⟩⟩
        · cases h
        · exact h32 h
      · unfold loginTokenCmd
        rw [if_pos h32]
        rfl

/-- An accepted login packet is not rejected. -/
theorem dispatch_of_accepts {s₁ : Dev} {cmd : Command} (ha : AcceptsLogin s₁ cmd) :
    dispatch P s₁ ≠ .rejected := by
  obtain ⟨hst, hcmd, -, hor⟩ := ha
  unfold dispatch stateFunction
  rw [hst, hcmd]
  rcases hor with ⟨rfl, -⟩ | ⟨rfl, -⟩ <;> nofun

/-- Counting a packet is no matter of logging in. -/
theorem loginInv_countIteration (mr : Nat) (hi : LoginInv P h s) :
    LoginInv P h (countIteration mr s) := by
  unfold countIteration
  split
  · exact ⟨hi.login, hi.backup⟩
  · exact hi

/-! ### One step -/

/-- A packet that completes, with `s₀` the state `cmd_packet_recv` runs in. -/
theorem loginInv_received (hi : LoginInv P h s) (hok : RefusedLoginsFinal s e) {s₀ s' : Dev}
    (hd : delivered s e = some s₀) (hr : Received P s₀ s') : LoginInv P ((s, e) :: h) s' := by
  obtain ⟨hctl, hdata⟩ := delivered_eq hd
  have hactive : s₀.activeCmd = s.activeCmd := congrArg Control.activeCmd hctl
  have hst : s₀.deviceState = s.deviceState := congrArg Control.deviceState hctl
  have hprev : s₀.backupPrevState = s.backupPrevState := congrArg Control.backupPrevState hctl
  have hlong : s₀.waitingForLongButtonPress = s.waitingForLongButtonPress :=
    congrArg Control.waitingForLongButtonPress hctl
  have hnew : packetCmd s₀.cmdPacketBuf = .cancelButtonPress → NoNewCommand s e := by
    intro hc s₀' hd'
    rw [hd] at hd'
    cases hd'
    exact hc
  have hbackup : ∀ {c : Control}, (activate s₀).toControl.Clears c → c.deviceState =
      .backingUpDevice → s.deviceState = .backingUpDevice ∧
        c.backupPrevState = s.backupPrevState ∧
        c.waitingForLongButtonPress = s.waitingForLongButtonPress := by
    intro c hc hb
    rw [hc.deviceState] at hb
    cases hc <;> exact ⟨hst ▸ hb, hprev, hlong⟩
  -- a login packet that is answered at once is not active any more afterwards
  have hrefused : ∀ s₁ : Dev, (∀ cmd, ¬ AcceptsLogin s₀ cmd) →
      s₁.toControl = (activate s₀).toControl.finish 0 → LoginInv P ((s, e) :: h) s₁ := by
    intro s₁ hnot h₁
    refine loginInv_other P hi (fun cmd hl hcmd => ?_) (hbackup (h₁ ▸ clears_finish _ _))
    rw [h₁] at hcmd
    obtain ⟨hpkt, hmr⟩ := active_finish hcmd
    cases hpkt
    rcases hok s₀ hd hl with ha | hz
    · exact hnot _ ha
    · exact hmr hz
  cases hr with
  | disconnect _ => exact loginInv_other P hi (fun _ _ => nofun) nofun
  | ignored hc _ _ =>
    exact loginInv_cancel P hi (hnew hc) hdata (fun cmd h => hactive ▸ h) hst hprev hlong
  | canceled hc _ _ =>
    refine loginInv_cancel P hi (hnew hc) hdata (fun cmd h => ?_) hst hprev hlong
    exact hactive ▸ (active_finish (c := (endButtonPressWait s₀).toControl) h).1
  | misfire _ _ => exact loginInv_other P hi (fun _ _ => nofun) fun hb => ⟨hst ▸ hb, hprev, hlong⟩
  | startup hc =>
    obtain ⟨st, hor, hreach⟩ := reaches_startupCmd P (activate s₀)
    refine loginInv_other P hi (fun cmd hl hcmd => ?_) (fun hb => ?_)
    · have hstart : (startupControl (activate s₀).toControl).activeCmd = some cmd :=
        (hreach.activeCmd.resolve_right (by simp [hcmd])).symm.trans hcmd
      unfold startupControl at hstart
      split at hstart
      · cases hstart
      · have hpkt := hc.symm.trans (Option.some.inj hstart)
        rcases hl with rfl | rfl <;> cases hpkt
    · rw [hreach.deviceState] at hb
      rcases hor with rfl | rfl <;> cases hb
  | getDeviceState hc =>
    refine loginInv_other P hi (fun cmd hl hcmd => ?_) (hbackup (clears_finish _ 0))
    have hpkt := Option.some.inj (active_finish (c := (activate s₀).toControl) hcmd).1
    rw [hc] at hpkt
    rcases hl with rfl | rfl <;> cases hpkt
  | tooLong _ hlen =>
    exact hrefused _ (fun cmd ha => absurd ha.2.2.1 (by omega)) rfl
  | rejected _ _ hdisp =>
    refine loginInv_countIteration P _ (hrefused _ (fun cmd ha => ?_) rfl)
    have ha' : AcceptsLogin (activate s₀) cmd := ha
    exact dispatch_of_accepts P ha' hdisp
  | @handled s₂ _ hlen hdisp =>
    refine loginInv_countIteration P _ ?_
    by_cases hl : isLogin (packetCmd s₀.cmdPacketBuf)
    · have hl₁ : isLogin (packetCmd (activate s₀).cmdPacketBuf) := hl
      rcases dispatch_login P hl₁ rfl hlen hdisp with ⟨hnot, h₂⟩ | ⟨ha, hkey, hauth, h₂⟩
      · refine hrefused _ (fun cmd ha => hnot ?_) h₂
        exact ha.2.1 ▸ ha
      · have hst₂ : s₂.deviceState = .loggedOut :=
          (congrArg Control.deviceState h₂).trans ha.1
        have hactive₂ : s₂.activeCmd = some (packetCmd s₀.cmdPacketBuf) :=
          congrArg Control.activeCmd h₂
        refine ⟨fun cmd _ hcmd => ?_, fun hb => by simp [hst₂] at hb⟩
        rw [hactive₂] at hcmd
        cases hcmd
        exact ⟨.inl hst₂, .packet hd ha hkey.symm, fun hc h => absurd h (hauth hc)⟩
    · refine loginInv_other P hi (fun cmd hl' hcmd => hl ?_) (fun hb => ?_)
      · have := (activeCmd_handled rfl (handled_dispatch P hdisp)).resolve_right (by simp [hcmd])
        rw [this] at hcmd
        exact Option.some.inj hcmd ▸ hl'
      · have hne : (activate s₀).deviceState = .backingUpDevice →
            (activate s₀).backupPrevState ≠ .backingUpDevice := fun hb' => by
          rw [show (activate s₀).backupPrevState = s.backupPrevState from hprev]
          exact (hi.backup (hst ▸ hb')).2.ne
        obtain ⟨h₁, h₂, h₃⟩ := backup_handled P hne hdisp hb
        exact ⟨hst ▸ h₁, h₂.trans hprev, h₃.trans hlong⟩

/-- The key that a press accepts is the one held for the active command. -/
theorem keyLogsIn_of_succeeds {cmd : Command} (hcmd : s.activeCmd = some cmd)
    (hs : LoginSucceeds P s) : KeyLogsIn P s cmd (heldKey s) := by
  obtain ⟨hsig, ⟨hc, hkey⟩ | ⟨hc, hkey⟩⟩ := hs
  · exact ⟨hsig, .inl ⟨Option.some.inj (hcmd.symm.trans hc), hkey⟩⟩
  · exact ⟨hsig, .inr ⟨Option.some.inj (hcmd.symm.trans hc), hkey⟩⟩

/-- While a login command is active, no event leaves the two states that one logs
    in from and to. -/
theorem deviceState_tick_login {cmd : Command} (hl : isLogin cmd) (hcmd : s.activeCmd = some cmd)
    (hst : s.deviceState = .loggedOut ∨ s.deviceState = .loggedIn) {c' : Control}
    (ht : Tick P s e c') : c'.deviceState = .loggedOut ∨ c'.deviceState = .loggedIn := by
  rcases deviceState_tick P ht hst with h | h | ⟨-, cmd', hcmd', hop⟩
  · exact h ▸ hst
  · exact .inr h
  · rw [hcmd] at hcmd'
    cases hcmd'
    rcases hl with rfl | rfl <;> rcases hop with h | ⟨st, h⟩ <;> cases h

/-- Being in a backup after an event: the backup was going on already, or a long
    press has just started it. -/
theorem backup_tick {c' : Control} (ht : Tick P s e c') (hlong : s.deviceState = .backingUpDevice →
      s.waitingForLongButtonPress = false) (hb : c'.deviceState = .backingUpDevice) :
    c'.waitingForLongButtonPress = false ∧
      (s.deviceState = .backingUpDevice ∧ c'.backupPrevState = s.backupPrevState ∨
        s.deviceState ≠ .backingUpDevice ∧ c'.backupPrevState = s.deviceState ∧
          s.activeCmd = some .backupDevice ∧ s.waitingForLongButtonPress = true) := by
  have hstay : ∀ {c : Control}, c.deviceState = s.deviceState → c.backupPrevState =
      s.backupPrevState → (s.waitingForLongButtonPress = false →
        c.waitingForLongButtonPress = false) → c.Clears c' →
      c'.waitingForLongButtonPress = false ∧
        (s.deviceState = .backingUpDevice ∧ c'.backupPrevState = s.backupPrevState ∨
          s.deviceState ≠ .backingUpDevice ∧ c'.backupPrevState = s.deviceState ∧
            s.activeCmd = some .backupDevice ∧ s.waitingForLongButtonPress = true) := by
    intro c hst hprev hwait hc
    rw [hc.deviceState, hst] at hb
    cases hc <;> exact ⟨hwait (hlong hb), .inl ⟨hb, hprev⟩⟩
  have hnot : s.waitingForLongButtonPress = true → s.deviceState ≠ .backingUpDevice := by
    intro hw h
    rw [hlong h] at hw
    cases hw
  cases ht with
  | quiet h => exact hstay rfl rfl id h
  | stuck _ => exact ⟨hlong hb, .inl ⟨hb, rfl⟩⟩
  | pressed _ _ h => exact hstay (c := s.toControl.endWait .short) rfl rfl id h
  | loggedIn _ _ _ h => exact nomatch h.deviceState.symm.trans hb
  | held _ h => exact hstay (c := s.toControl.endWait .long) rfl rfl (fun _ => rfl) h
  | heldStuck hp _ => exact absurd hb (hnot hp.2.2)
  | heldEntered _ _ hlong h =>
    rw [h.deviceState] at hb
    cases hlong <;> cases hb
  | heldBackup hp hcmd h₁ h =>
    cases h₁ <;> cases h <;> exact ⟨rfl, .inr ⟨hnot hp.2.2, rfl, hcmd, hp.2.2⟩⟩
  | timeout _ h =>
    exact hstay (c := (s.toControl.endWait .short).endWait .long) rfl rfl (fun _ => rfl) h
  | token _ _ h => exact nomatch h.deviceState.symm.trans hb
  | flashed hf h =>
    rw [h.deviceState] at hb
    generalize s.deviceState = st₀ at hf
    cases hf <;> cases hb

/-- An event that is not a packet. -/
theorem loginInv_tick (hi : LoginInv P h s) (he : ∀ packet, e ≠ .hidRx packet)
    (hh : s.hung = false) : LoginInv P ((s, e) :: h) (step P s e) := by
  have ht := tick_step P s he hh
  have hnew : NoNewCommand s e := by
    intro s₀ hd
    rw [delivered_of_ne he] at hd
    cases hd
  constructor
  · intro cmd hl hcmd
    have hcmd₀ : s.activeCmd = some cmd :=
      ((activeCmd_tick P ht).resolve_right (by simp [hcmd])).symm.trans hcmd
    obtain ⟨hst, hacc, hconf⟩ := hi.login cmd hl hcmd₀
    obtain ⟨hkey, hauth⟩ := login_data_step P hl hcmd₀ hst he
    rw [hkey]
    refine ⟨deviceState_tick_login P hl hcmd₀ hst ht, .later hacc hnew, fun hc ha => ?_⟩
    rcases hauth ha with ha | ⟨rfl, hb, hw, hs⟩
    · exact .later (hconf hc ha) hnew
    · exact .press hacc hb hw (keyLogsIn_of_succeeds P hcmd₀ hs)
  · intro hb
    obtain ⟨hwait, ⟨hst, hprev⟩ | ⟨hst, hprev, -⟩⟩ := backup_tick P ht (fun h => (hi.backup h).1) hb
    · exact ⟨hwait, hprev ▸ .later (hi.backup hst).2 hst⟩
    · exact ⟨hwait, .started hprev.symm (hprev ▸ hst) hb⟩

/-- **A step that leaves no refused login active keeps the invariant.** -/
theorem loginInv_step (hi : LoginInv P h s) (hok : RefusedLoginsFinal s e) :
    LoginInv P ((s, e) :: h) (step P s e) := by
  have hidle : delivered s e = none → (step P s e).toControl = s.toControl →
      (step P s e).cmdData = s.cmdData → LoginInv P ((s, e) :: h) (step P s e) := by
    intro hd hctl hdata
    refine loginInv_cancel P hi ?_ hdata (fun cmd h => ?_) (congrArg Control.deviceState hctl)
      (congrArg Control.backupPrevState hctl) (congrArg Control.waitingForLongButtonPress hctl)
    · intro s₀ hd'
      rw [hd] at hd'
      cases hd'
    · exact (congrArg Control.activeCmd hctl).symm.trans h
  by_cases he : ∀ packet, e ≠ .hidRx packet
  · cases hh : s.hung with
    | false => exact loginInv_tick P hi he hh
    | true => exact hidle (delivered_of_ne he) (by simp [step, hh]) (by simp [step, hh])
  · push Not at he
    obtain ⟨packet, rfl⟩ := he
    cases hd : delivered s (.hidRx packet) with
    | none =>
      obtain ⟨hctl, hdata⟩ := step_undelivered P hd
      exact hidle hd hctl hdata
    | some s₀ =>
      rcases step_delivered P hd with hreset | hr
      · refine loginInv_other P hi (fun cmd _ hcmd => ?_) (fun hb => ?_)
        · exact nomatch (congrArg Control.activeCmd hreset).symm.trans hcmd
        · exact nomatch (congrArg Control.deviceState hreset).symm.trans hb
      · exact loginInv_received P hi hok hd hr

/-- The invariant holds along every run whose refused logins announce no more
    messages. -/
theorem loginInv_run (hr : DevRun P RefusedLoginsFinal h s) : LoginInv P h s := by
  refine hr.invariant ?_ fun _ _ _ _ hok hi => loginInv_step P hi hok
  rintro _ ⟨flash, rfl⟩
  exact loginInv_powerOn P flash

/-! ### Entering `DS_LOGGED_IN` -/

/-- A packet enters `DS_LOGGED_IN` only as the end of a backup. -/
theorem logged_in_by_packet {s₀ s' : Dev} (hr : Received P s₀ s')
    (hbefore : s₀.deviceState ≠ .loggedIn) (hafter : s'.deviceState = .loggedIn) :
    packetCmd s₀.cmdPacketBuf = .backupDeviceDone ∧ s₀.deviceState = .backingUpDevice ∧
      s₀.backupPrevState = .loggedIn := by
  have henter := packetEnters_received P hr
  generalize s'.deviceState = st at henter hafter
  cases henter with
  | stays => exact absurd hafter hbefore
  | leaves hor => rcases hor with rfl | rfl | rfl | rfl <;> cases hafter
  | backupDone hcmd hst => exact ⟨hcmd, hst, hafter⟩

/-- An event that is not a packet enters `DS_LOGGED_IN` only for an active login
    command: by the press itself, or afterwards when its token is complete. -/
theorem logged_in_by_tick {c' : Control} (ht : Tick P s e c') (hbefore : s.deviceState ≠ .loggedIn)
    (hafter : c'.deviceState = .loggedIn) :
    e = .buttonDown ∧ s.buttonState = false ∧ s.waitingForButtonPress = true ∧
        LoginSucceeds P s ∨
      s.activeCmd = some .login ∧ (s.deviceState = .initializing ∨ authenticated s) := by
  cases ht with
  | quiet h => exact absurd (h.deviceState.symm.trans hafter) hbefore
  | stuck _ => exact absurd hafter hbefore
  | pressed _ _ h => exact absurd (h.deviceState.symm.trans hafter) hbefore
  | loggedIn hb hw hs _ => exact .inl ⟨rfl, hb, hw, hs⟩
  | held _ h => exact absurd (h.deviceState.symm.trans hafter) hbefore
  | heldStuck _ _ => exact absurd hafter hbefore
  | heldEntered _ _ hlong h =>
    rw [h.deviceState] at hafter
    cases hlong <;> cases hafter
  | heldBackup _ _ _ h => exact nomatch h.deviceState.symm.trans hafter
  | timeout _ h => exact absurd (h.deviceState.symm.trans hafter) hbefore
  | token hcmd hor _ => exact .inr ⟨hcmd, hor⟩
  | flashed hf h =>
    rw [h.deviceState] at hafter
    generalize s.deviceState = st₀ at hf
    cases hf <;> cases hafter

/-- **Every entry into `DS_LOGGED_IN` is accounted for**, in every run whose
    refused LOGIN and LOGIN_TOKEN packets announce no more messages. -/
theorem login_authorised (hr : DevRun P RefusedLoginsFinal h s)
    (hbefore : s.deviceState ≠ .loggedIn) (hafter : (step P s e).deviceState = .loggedIn) :
    LoginAuthorised P h s e := by
  have hi := loginInv_run P hr
  by_cases he : ∀ packet, e ≠ .hidRx packet
  · cases hh : s.hung with
    | true =>
      rw [show step P s e = s by simp [step, hh]] at hafter
      exact absurd hafter hbefore
    | false =>
      left
      rcases logged_in_by_tick P (tick_step P s he hh) hbefore hafter with
        ⟨rfl, hb, hw, hs⟩ | ⟨hcmd, hor⟩
      · obtain ⟨cmd, hl, hcmd⟩ : ∃ cmd, isLogin cmd ∧ s.activeCmd = some cmd := by
          rcases hs.2 with ⟨h, -⟩ | ⟨h, -⟩
          · exact ⟨_, .inl rfl, h⟩
          · exact ⟨_, .inr rfl, h⟩
        obtain ⟨-, hacc, -⟩ := hi.login cmd hl hcmd
        exact ⟨cmd, heldKey s, hl, .press hacc hb hw (keyLogsIn_of_succeeds P hcmd hs)⟩
      · obtain ⟨hst, -, hconf⟩ := hi.login .login (.inl rfl) hcmd
        have hauth : authenticated s := by
          refine hor.resolve_left fun hinit => ?_
          rcases hst with h | h <;> simp [h] at hinit
        refine ⟨.login, heldKey s, .inl rfl, .later (hconf rfl hauth) fun s₀ hd => ?_⟩
        rw [delivered_of_ne he] at hd
        cases hd
  · push Not at he
    obtain ⟨packet, rfl⟩ := he
    cases hd : delivered s (.hidRx packet) with
    | none =>
      obtain ⟨hctl, -⟩ := step_undelivered P hd
      exact absurd ((congrArg Control.deviceState hctl).symm.trans hafter) hbefore
    | some s₀ =>
      obtain ⟨hctl, -⟩ := delivered_eq hd
      have hst : s₀.deviceState = s.deviceState := congrArg Control.deviceState hctl
      rcases step_delivered P hd with hreset | hr
      · exact nomatch (congrArg Control.deviceState hreset).symm.trans hafter
      · obtain ⟨hcmd, hb, hprev⟩ := logged_in_by_packet P hr (hst ▸ hbefore) hafter
        rw [hst] at hb
        refine .inr ⟨s₀, hd, hcmd, hb, ?_⟩
        rw [← hprev, show s₀.backupPrevState = s.backupPrevState from
          congrArg Control.backupPrevState hctl]
        exact (hi.backup hb).2

/-- The chip of `initialisedFlash` with the authentication data of the key that
    consists of ones. -/
def keyedFlash : Mem :=
  Mem.write initialisedFlash (ROOT_PAGE_ADDR + RootPage.authRand)
    (List.replicate 32 0 ++ List.replicate 16 1 ++ List.replicate 16 2)

/-- STARTUP and a LOGIN with the right key. -/
def loginWithKey : List Event :=
  hidPackets 0 6 0 [] ++ hidPackets 6 (6 + AES_256_KEY_SIZE) 0 (List.replicate 32 1)

/-- The run up to the press. -/
def loginRun : History Dev Event × Dev :=
  replay (step addPlatform) loginWithKey ([], powerOn addPlatform keyedFlash)

theorem login_authorised_pressed :
    LoginAuthorised addPlatform loginRun.1 loginRun.2 .buttonDown := by
  have hrun : DevRun addPlatform anyStep loginRun.1 loginRun.2 :=
    run_replay loginWithKey ([], powerOn addPlatform keyedFlash) (.start ⟨_, rfl⟩)
  have hok : ∀ x ∈ loginRun.1, RefusedLoginsFinal x.1 x.2 := by decide +kernel
  exact login_authorised addPlatform (hrun.restrict hok) (by decide +kernel) (by decide +kernel)

end SignetBase.Firmware
