/-
  SignetBase/Firmware/LoginToken.lean
  ===================================
  **The login token of the original device.**

  A LOGIN with a token flag that is not 0 draws eight random words, keeps the authentication
  data and the data key encrypted under them, and answers.  What it answers with are the 32
  bytes at the address that the flag is, not the token: `gen_token` stands where `token`
  was meant.  So a host never learns the token, except where the memory at that address
  happens to hold it (`token_kept`).  Everything else about the token is as it should be: it
  is stored for LOGIN_TOKEN whichever path finishes the login, it survives a change of the
  password, and nothing but another LOGIN with a token replaces it.
-/
import SignetBase.Firmware.Login
import SignetBase.Firmware.LoginKeys
import SignetBase.Firmware.Outputs
import SignetBase.Firmware.Reading

namespace SignetBase.Firmware

open Control

variable (P : Platform)

/-! ### What a token is for -/

/-- The token flag of the LOGIN packet in the buffer. -/
def packetFlag (s : Dev) : UInt8 :=
  if packetDataLen s.cmdPacketBuf - AES_256_KEY_SIZE > 0 then
    s.cmdPacketBuf (CMD_PACKET_HEADER_SIZE + AES_256_KEY_SIZE)
  else 0

/-- In the history `h` a LOGIN with this token flag was accepted, and no command has arrived
    since. -/
inductive AskedToken (flag : UInt8) : History Dev Event → Prop where
  | packet {h s e s₀} : delivered s e = some s₀ → AcceptsLogin s₀ .login → packetFlag s₀ = flag →
      AskedToken flag ((s, e) :: h)
  | later {h s e} : AskedToken flag h → NoNewCommand s e → AskedToken flag ((s, e) :: h)

/-- The step answers the active LOGIN, which asked for a token, OKAY. -/
structure TokenAnswered (h : History Dev Event) (s : Dev) (e : Event) (r : Response) : Prop where
  asked : ∃ flag, flag ≠ 0 ∧ AskedToken flag h
  active : s.activeCmd = some .login
  event : ∀ packet, e ≠ .hidRx packet
  sent : .response r ∈ newOutputs s (step P s e)
  okay : r.resp = .okay

/-- Two blocks encrypted under a token. -/
def tokenCt (tok data : Bytes) : Bytes :=
  stmAes256EncryptCbc P tok (AES_256_KEY_SIZE / AES_BLK_SIZE) none data

/-- The token that was drawn last. -/
def drawnToken (s : Dev) : Bytes := s.cmdData.read CmdData.loginToken AES_256_KEY_SIZE

/-- The device keeps the authentication data and the data key `dk` under the token `tok`. -/
structure UnderToken (tok dk : Bytes) (s : Dev) : Prop where
  authRand : s.tokenAuthRandCt = tokenCt P tok (rootKey s RootPage.authRand)
  encryptKey : s.tokenEncryptKeyCt = tokenCt P tok dk

/-- The step is one in which the device resets itself. -/
def Resets (s : Dev) (e : Event) : Prop :=
  ∃ s₀, delivered s e = some s₀ ∧ cmdPacketRecv P s₀ = none

/-- `tok` is what the last LOGIN with a token was answered with, and `dk` was the data key then;
    there was no reset since, and the authentication data are the same. -/
inductive Issued : Bytes → Bytes → History Dev Event → Prop where
  | answered {h s e r} : TokenAnswered P h s e r →
      Issued r.payload (step P s e).encryptKey ((s, e) :: h)
  | later {tok dk h s e} : Issued tok dk h → (∀ r, ¬ TokenAnswered P h s e r) → ¬ Resets P s e →
      (step P s e).rootPage RootPage.signature = s.rootPage RootPage.signature →
      rootKey (step P s e) RootPage.authRand = rootKey s RootPage.authRand →
      Issued tok dk ((s, e) :: h)

/-- No LOGIN with a token was answered since the device was powered on. -/
inductive NoToken : History Dev Event → Prop where
  | start : NoToken []
  | reset {h s e} : Resets P s e → NoToken ((s, e) :: h)
  | later {h s e} : NoToken h → (∀ r, ¬ TokenAnswered P h s e r) → NoToken ((s, e) :: h)

/-- A press for an accepted LOGIN_TOKEN that carries `tok`. -/
structure TokenPressed (h : History Dev Event) (s : Dev) (e : Event) (tok : Bytes) : Prop where
  running : s.hung = false
  active : s.activeCmd = some .loginToken
  accepted : Accepted .loginToken tok h
  pressed : Pressed s .short e

/-- What holds of a step after the run `h`: a LOGIN with a token is answered with the token that
    its ciphertexts were made under; a LOGIN_TOKEN with the bytes last answered with logs in and
    gives the data key back; one that comes before any token, or does not reproduce the stored
    ciphertext, does not log in; and no other step touches the ciphertexts. -/
structure TokenKept (h : History Dev Event) (s : Dev) (e : Event) : Prop where
  answered : ∀ r, TokenAnswered P h s e r → r.payload = drawnToken (step P s e) ∧
    UnderToken P (drawnToken (step P s e)) (step P s e).encryptKey (step P s e)
  restored : ∀ tok dk, Issued P tok dk h → TokenPressed h s e tok →
    (step P s e).deviceState = .loggedIn ∧ (step P s e).encryptKey = dk
  refused : ∀ tok, TokenPressed h s e tok →
    NoToken P h ∨ tokenCt P tok (rootKey s RootPage.authRand) ≠ s.tokenAuthRandCt →
    s.deviceState ≠ .loggedIn → (step P s e).deviceState ≠ .loggedIn
  unchanged : (∀ r, ¬ TokenAnswered P h s e r) → ¬ Resets P s e →
    (step P s e).tokenAuthRandCt = s.tokenAuthRandCt ∧
      (step P s e).tokenEncryptKeyCt = s.tokenEncryptKeyCt

/-! ### The condition -/

/-- The event is a random word. -/
def isRandWord : Event → Bool
  | .rtcWord _ | .rngWord _ => true
  | _ => false

/-- The device once the random word has arrived. -/
def randArrived (s : Dev) : Event → Dev
  | .rtcWord w => { s with rtcRand := s.rtcRand.put w }
  | .rngWord w => { s with rngRand := s.rngRand.put w }
  | _ => s

/-- The token that the next eight random words make. -/
def nextToken (s : Dev) : Bytes := drawnToken (drawLoginToken s)

/-- LOGIN asked for a token and can be finished in the step: there are enough random words,
    and the press that confirms it comes, or has come before. -/
structure LoginFinishes (s : Dev) (e : Event) : Prop where
  running : s.hung = false
  active : s.activeCmd = some .login
  flag : s.cmdData.get32 CmdData.loginGenToken ≠ 0
  avail : AES_256_KEY_SIZE / 4 ≤ randAvail (randArrived s e)
  confirmed : isRandWord e = true ∧ authenticated s ∨ Pressed s .short e ∧ LoginSucceeds P s

/-- Where a LOGIN with a token finishes, the memory at the address that the flag is holds the
    token. -/
def TokenInMemory (s : Dev) (e : Event) : Prop :=
  LoginFinishes P s e →
    (memFrom P s (s.cmdData.get32 CmdData.loginGenToken)).read 0 AES_256_KEY_SIZE =
      nextToken (randArrived s e)

/-- The steps of the runs that keep tokens. -/
def TokenSteps (s : Dev) (e : Event) : Prop := RefusedLoginsFinal s e ∧ TokenInMemory P s e

variable {s s' s₀ : Dev} {e : Event} {h : History Dev Event} {tok dk : Bytes}

/-! ### Finishing a login -/

/-- What a LOGIN with a token that finishes leaves behind. -/
structure TokenStored (s s' : Dev) (flag : Nat) : Prop where
  answer : ∃ r : Response, newOutputs s s' = [.response r] ∧ r.resp = .okay ∧
    r.payload = (memFrom P s flag).read 0 AES_256_KEY_SIZE
  token : drawnToken s' = nextToken s
  under : UnderToken P (drawnToken s') s'.encryptKey s'
  key : s'.encryptKey = s.encryptKey
  rootPage : s'.rootPage = s.rootPage

/-- What a login that is answered leaves as it is. -/
structure Answered (s s' : Dev) (payload : Bytes) : Prop where
  answer : ∃ r : Response, s'.outputs = .response r :: s.outputs ∧ r.resp = .okay ∧
    r.payload = payload
  cmdData : s'.cmdData = s.cmdData
  keys : loginKeys s' = loginKeys s
  rootPage : s'.rootPage = s.rootPage

/-- The answer OKAY to LOGIN or LOGIN_TOKEN, and the state it leads to. -/
theorem answered_login (payload : Option Bytes) (n : Nat) (hlen : (payload.getD []).length = n)
    (hactive : s.activeCmd ≠ some .getProgress) :
    Answered s (enterState .loggedIn (finishCommandMulti .okay 0 payload n s))
      (payload.getD []) := by
  have hne : (resetProgress .loggedIn [] (finishCommandMulti .okay 0 payload n s)).activeCmd ≠
      some .getProgress := by
    change (if _ then none else s.activeCmd) ≠ _
    split
    · exact nofun
    · exact hactive
  unfold enterState enterProgressingState
  rw [getProgressCheck_of_ne _ hne]
  refine ⟨⟨_, rfl, rfl, ?_⟩, rfl, rfl, rfl⟩
  exact Mem.read_write _ _ _ _ hlen.symm

theorem memFrom_congr {s s' : Dev} (hflash : s'.flash = s.flash) (a : Nat) :
    memFrom P s' a = memFrom P s a := by
  unfold memFrom load
  rw [hflash]

/-- Random words that are drawn leave all but `cmd_data` and the two rings alone. -/
theorem randFill_frame (f : Nat → Nat → Nat) (off n : Nat) (s : Dev) :
    loginKeys (randFill f off n s) = loginKeys s ∧ (randFill f off n s).rootPage = s.rootPage ∧
      (randFill f off n s).flash = s.flash := by
  induction n generalizing off s with
  | zero => exact ⟨rfl, rfl, rfl⟩
  | succ n ih => exact ih _ _

/-- **`login_cmd_iter` with a confirmed login and enough random words.** -/
theorem tokenStored_loginCmdIter (hactive : s.activeCmd = some .login)
    (hflag : s.cmdData.get32 CmdData.loginGenToken ≠ 0)
    (hauth : authenticated s) (havail : AES_256_KEY_SIZE / 4 ≤ randAvail s) :
    TokenStored P s (loginCmdIter P s) (s.cmdData.get32 CmdData.loginGenToken) := by
  obtain ⟨hkeys, hroot, hflash⟩ :
      loginKeys (drawLoginToken s) = loginKeys s ∧ (drawLoginToken s).rootPage = s.rootPage ∧
        (drawLoginToken s).flash = s.flash := by
    unfold drawLoginToken
    exact randFill_frame _ _ _ s
  have hout := outputs_drawLoginToken s
  have hctl := toControl_drawLoginToken s
  have hgen : (drawLoginToken s).cmdData.get32 CmdData.loginGenToken =
      s.cmdData.get32 CmdData.loginGenToken :=
    Mem.get32_congr fun i hi => cmdData_drawLoginToken_of_lt s (by
      simp only [CmdData.loginGenToken, CmdData.loginToken] at hi ⊢
      omega)
  have hiter : loginCmdIter P s = enterState .loggedIn (finishCommandMulti .okay 0
      (genTokenPayload P (storeTokenCiphertexts P (drawLoginToken s))) AES_256_KEY_SIZE
      (storeTokenCiphertexts P (drawLoginToken s))) := if_pos ⟨hauth, havail⟩
  have hnext : nextToken s = drawnToken (drawLoginToken s) := rfl
  rw [hiter]
  generalize drawLoginToken s = d at hkeys hroot hflash hout hctl hgen hnext ⊢
  have hpayload : genTokenPayload P (storeTokenCiphertexts P d) =
      some ((memFrom P s (s.cmdData.get32 CmdData.loginGenToken)).read 0 AES_256_KEY_SIZE) := by
    unfold genTokenPayload
    dsimp only
    rw [cmdData_storeTokenCiphertexts, hgen, if_neg hflag]
    rw [memFrom_congr P (show (storeTokenCiphertexts P d).flash = s.flash from hflash)]
  have hne : (storeTokenCiphertexts P d).activeCmd ≠ some .getProgress := by
    rw [show (storeTokenCiphertexts P d).activeCmd = s.activeCmd from
      congrArg Control.activeCmd hctl, hactive]
    decide
  have hdone := answered_login
    (some ((memFrom P s (s.cmdData.get32 CmdData.loginGenToken)).read 0 AES_256_KEY_SIZE))
    AES_256_KEY_SIZE (Mem.length_read _ _ _) hne
  rw [hpayload]
  generalize enterState .loggedIn _ = t at hdone ⊢
  obtain ⟨r, hr, hokay, hdata⟩ := hdone.answer
  have htoken : drawnToken t = drawnToken d := congrArg (Mem.read · _ _) hdone.cmdData
  have hkey : t.encryptKey = d.encryptKey := congrArg LoginKeys.encryptKey hdone.keys
  have hrand : rootKey t RootPage.authRand = rootKey d RootPage.authRand :=
    congrArg (Mem.read · _ _) hdone.rootPage
  constructor
  · refine ⟨r, ?_, hokay, hdata⟩
    unfold newOutputs
    rw [hr, show (storeTokenCiphertexts P d).outputs = s.outputs from hout, List.length_cons,
      Nat.add_sub_cancel_left]
    rfl
  · exact htoken.trans hnext.symm
  · constructor
    · rw [htoken, hrand]
      exact congrArg LoginKeys.tokenAuthRandCt hdone.keys
    · rw [htoken, hkey]
      exact congrArg LoginKeys.tokenEncryptKeyCt hdone.keys
  · exact hkey.trans (congrArg LoginKeys.encryptKey hkeys)
  · exact hdone.rootPage.trans hroot

/-! ### Steps that do not concern a login -/

/-- Anything but an answer OKAY. -/
def Output.notOkay (o : Output) : Prop := ∀ r, o = .response r → r.resp ≠ .okay

theorem notOkay_keyboardReport (report : Bytes) : Output.notOkay (.keyboardReport report) :=
  fun _ h => nomatch h

theorem notOkay_event (num : Nat) : Output.notOkay (.event num) := fun _ h => nomatch h

/-- What a login needs stays as it is, and nothing is answered OKAY. -/
structure Unheard (s s' : Dev) : Prop where
  rootPage : s'.rootPage = s.rootPage
  cmdData : s'.cmdData = s.cmdData
  keys : loginKeys s' = loginKeys s
  silent : Emits Output.notOkay s s'

theorem Unheard.refl (s : Dev) : Unheard s s := ⟨rfl, rfl, rfl, .of_eq rfl⟩

theorem Unheard.trans (h : Unheard s s₀) (h' : Unheard s₀ s') : Unheard s s' :=
  ⟨h'.rootPage.trans h.rootPage, h'.cmdData.trans h.cmdData, h'.keys.trans h.keys,
    h.silent.trans h'.silent⟩

theorem unheard_finishCommandResp (resp : CommandResponse) (s : Dev) (hresp : resp ≠ .okay) :
    Unheard s (finishCommandResp resp s) := by
  have hout : ∃ r : Response, (finishCommandResp resp s).outputs = .response r :: s.outputs ∧
      r.resp = resp := ⟨_, rfl, rfl⟩
  obtain ⟨r, hr, hr'⟩ := hout
  refine ⟨rfl, rfl, rfl, .one hr ?_⟩
  rintro r₁ ⟨⟩
  rw [hr']
  exact hresp

theorem unheard_usbKeyboardTypingDone (hcmd : s.activeCmd ≠ some .type) :
    Unheard s (usbKeyboardTypingDone s) := by
  unfold usbKeyboardTypingDone
  dsimp only
  rw [if_neg hcmd]
  split
  · exact ⟨rfl, rfl, rfl, .of_eq rfl⟩
  · exact .refl s

theorem unheard_usbKeyboardType (chars : Ptr) (n : Nat) (hcmd : s.activeCmd ≠ some .type) :
    Unheard s (usbKeyboardType usbKeyboardTypingDone chars n s) := by
  unfold usbKeyboardType
  split
  · exact .refl s
  · split
    · exact unheard_usbKeyboardTypingDone hcmd
    · exact ⟨rfl, rfl, rfl, .one rfl (notOkay_keyboardReport _)⟩

theorem unheard_timerTimeout (hcmd : s.activeCmd ≠ some .type) : Unheard s (timerTimeout s) := by
  unfold timerTimeout
  dsimp only
  split
  · have hbuf : ∀ buf, Unheard s { s with
        cleartextPassIndex := -1, cleartextTypeBuf := buf, cleartextPassTyping := true } :=
      fun _ => ⟨rfl, rfl, rfl, .of_eq rfl⟩
    exact (hbuf _).trans (unheard_usbKeyboardType _ _ hcmd)
  · exact ⟨rfl, rfl, rfl, .of_eq rfl⟩

/-- No completion continues a login. -/
theorem flashWriteComplete_login (hcmd : s.activeCmd = some .login)
    (hst : s.deviceState = .loggedOut ∨ s.deviceState = .loggedIn) :
    flashWriteComplete P s = s := by
  unfold flashWriteComplete
  have hstate : stateWriteComplete P s = s := by
    unfold stateWriteComplete
    rcases hst with hst | hst <;> rw [hst]
  rw [hstate]
  unfold commandWriteComplete
  rw [hcmd]

theorem unheard_flashWriteFailed (s : Dev) : Unheard s (flashWriteFailed s) := by
  unfold flashWriteFailed
  split
  · exact unheard_finishCommandResp _ _ (by decide)
  · exact .refl s

theorem unheard_flashHandler (eop : Bool) (hcmd : s.activeCmd = some .login)
    (hst : s.deviceState = .loggedOut ∨ s.deviceState = .loggedIn) :
    Unheard s (flashHandler P eop s) := by
  unfold flashHandler
  split
  · split
    · dsimp only
      split
      · exact ⟨rfl, rfl, rfl, .of_eq rfl⟩
      · have hsame := flashWriteComplete_login P (s := { pageErased s with flashState := .idle })
          hcmd hst
        rw [hsame]
        exact ⟨rfl, rfl, rfl, .of_eq rfl⟩
    · have hidle : Unheard s { s with flashState := .idle } := ⟨rfl, rfl, rfl, .of_eq rfl⟩
      exact hidle.trans (unheard_flashWriteFailed _)
  · exact .refl s

theorem unheard_flashIdle (err : Option Nat) (hcmd : s.activeCmd = some .login)
    (hst : s.deviceState = .loggedOut ∨ s.deviceState = .loggedIn) :
    Unheard s (flashIdle P err s) := by
  have hctl := toControl_programLoop s 32 err
  have hbuf := toBuffers_programLoop 32 err s
  have hkeys := loginKeys_programLoop 32 err s
  have hout := outputs_programLoop 32 err s
  unfold flashIdle
  generalize programLoop 32 err s = r at hctl hbuf hkeys hout ⊢
  have hloop : Unheard s r.2 :=
    ⟨congrArg Buffers.rootPage hbuf, congrArg Buffers.cmdData hbuf, hkeys, .of_eq hout⟩
  have hcmd' : r.2.activeCmd = some .login := (congrArg Control.activeCmd hctl).trans hcmd
  have hst' : r.2.deviceState = .loggedOut ∨ r.2.deviceState = .loggedIn := by
    rw [show r.2.deviceState = s.deviceState from congrArg Control.deviceState hctl]
    exact hst
  split
  · dsimp only
    split
    · have hidle : Unheard r.2 { r.2 with flashState := .idle } := ⟨rfl, rfl, rfl, .of_eq rfl⟩
      exact hloop.trans (hidle.trans (unheard_flashWriteFailed _))
    · split
      · have hsame := flashWriteComplete_login P (s := { r.2 with flashState := .idle }) hcmd' hst'
        rw [hsame]
        exact hloop.trans ⟨rfl, rfl, rfl, .of_eq rfl⟩
      · exact hloop
  · exact .refl s

/-- While LOGIN is active, only presses and random words concern it. -/
theorem unheard_tick (hcmd : s.activeCmd = some .login)
    (hst : s.deviceState = .loggedOut ∨ s.deviceState = .loggedIn)
    (he : ∀ packet, e ≠ .hidRx packet) (hdown : e ≠ .buttonDown) (hword : isRandWord e = false) :
    Unheard s (step P s e) := by
  have htype : s.activeCmd ≠ some .type := by
    rw [hcmd]
    decide
  have hdisc : s.deviceState ≠ .disconnected := by
    rcases hst with hst | hst <;> rw [hst] <;> decide
  unfold step
  split
  · exact .refl s
  · cases e with
    | hidRx packet => exact absurd rfl (he packet)
    | packetSent =>
      dsimp only
      split
      · unfold cmdPacketSent
        rw [if_neg (by change s.activeCmd ≠ _; rw [hcmd]; decide)]
        exact ⟨rfl, rfl, rfl, .of_eq rfl⟩
      · exact .refl s
    | buttonDown => exact absurd rfl hdown
    | buttonUp =>
      dsimp only
      split
      · unfold buttonRelease
        split
        · exact ⟨rfl, rfl, rfl, .of_eq rfl⟩
        · exact ⟨rfl, rfl, rfl, .of_eq rfl⟩
      · exact .refl s
    | buttonHeld =>
      dsimp only
      split
      · unfold longButtonPress
        split
        · unfold longButtonPressed
          have hcmd' : (endLongButtonPressWait { s with buttonState := false }).activeCmd =
              some .login := hcmd
          rw [hcmd']
          exact ⟨rfl, rfl, rfl, .of_eq rfl⟩
        · exact ⟨rfl, rfl, rfl, .of_eq rfl⟩
      · exact .refl s
    | blinkTimeout =>
      dsimp only
      split
      · unfold blinkTimeout
        split
        · have hend : Unheard s (endLongButtonPressWait (endButtonPressWait
              { s with blinking := false })) := ⟨rfl, rfl, rfl, .of_eq rfl⟩
          exact hend.trans (unheard_finishCommandResp .buttonPressTimeout _ (by decide))
        · exact ⟨rfl, rfl, rfl, .of_eq rfl⟩
      · exact .refl s
    | timer =>
      dsimp only
      split
      · have htimer := unheard_timerTimeout htype
        exact htimer.trans ⟨rfl, rfl, rfl, .of_eq rfl⟩
      · exact .refl s
    | rtcWord w => cases hword
    | rngWord w => cases hword
    | flashHandler eop => exact unheard_flashHandler P eop hcmd hst
    | flashIdle err => exact unheard_flashIdle P err hcmd hst
    | txKeyboard =>
      dsimp only
      unfold usbTxKeyboard
      split
      · split
        · have hquiet : Unheard s { s with typing := false } := ⟨rfl, rfl, rfl, .of_eq rfl⟩
          exact hquiet.trans (unheard_usbKeyboardTypingDone htype)
        · exact ⟨rfl, rfl, rfl, .of_eq rfl⟩
      · exact .refl s
    | keyboardIdle elapsed =>
      dsimp only
      unfold usbKeyboardIdle
      split
      · exact ⟨rfl, rfl, rfl, .one rfl (notOkay_keyboardReport _)⟩
      · exact .refl s

/-! ### Presses and random words for a login -/

/-- The words that are drawn depend on the two rings only. -/
theorem read_randFill_congr (off n : Nat) (hrtc : s'.rtcRand = s.rtcRand)
    (hrng : s'.rngRand = s.rngRand) :
    (randFill (fun _ w => w) off n s').cmdData.read off (4 * n) =
      (randFill (fun _ w => w) off n s).cmdData.read off (4 * n) := by
  induction n generalizing off s s' with
  | zero => rfl
  | succ n ih =>
    have hget : randGet s' = ((randGet s).1, { s' with
        rtcRand := (randGet s).2.rtcRand, rngRand := (randGet s).2.rngRand }) := by
      unfold randGet
      dsimp only
      rw [hrtc, hrng]
    have hfirst : ∀ t : Dev, (randFill (fun _ w => w) off (n + 1) t).cmdData.read off 4 =
        Mem.bytes32 (randGet t).1.toNat := by
      intro t
      unfold randFill
      dsimp only
      refine (Mem.read_congr fun i hi => cmdData_randFill_of_lt _ _ _ (by omega)).trans ?_
      exact Mem.read_write _ _ _ _ rfl
    rw [show 4 * (n + 1) = 4 + 4 * n by omega, Mem.read_add, Mem.read_add, hfirst, hfirst, hget]
    refine congrArg₂ (· ++ ·) rfl ?_
    unfold randFill
    dsimp only
    refine ih _ ?_ ?_
    · rw [hget]
    · rw [hget]

theorem nextToken_congr (hrtc : s'.rtcRand = s.rtcRand) (hrng : s'.rngRand = s.rngRand) :
    nextToken s' = nextToken s := by
  have hread := read_randFill_congr CmdData.loginToken (AES_256_KEY_SIZE / 4) hrtc hrng
  unfold nextToken drawnToken drawLoginToken
  exact hread

/-- The data key is read from a ciphertext. -/
def KeyRead (s' : Dev) : Prop :=
  ∃ key ct, ct.length = AES_256_KEY_SIZE ∧
    s'.encryptKey = stmAes256DecryptCbc P key (AES_256_KEY_SIZE / AES_BLK_SIZE) none ct

/-- What a step does while LOGIN is active: it finishes a login with a token, or it stores no
    token. -/
inductive LoginTick (s : Dev) (e : Event) (s' : Dev) : Prop
  | finishes : LoginFinishes P s e →
      (∃ r : Response, newOutputs s s' = [.response r] ∧ r.resp = .okay ∧ r.payload =
        (memFrom P s (s.cmdData.get32 CmdData.loginGenToken)).read 0 AES_256_KEY_SIZE) →
      drawnToken s' = nextToken (randArrived s e) →
      UnderToken P (drawnToken s') s'.encryptKey s' → s'.encryptKey = s.encryptKey ∨ KeyRead P s' →
      LoginTick s e s'
  | other : s.cmdData.get32 CmdData.loginGenToken = 0 ∨ Emits Output.notOkay s s' →
      KeysAfter P s s' → LoginTick s e s'

/-- What a step keeps while LOGIN is active, besides. -/
structure LoginStep (s : Dev) (e : Event) (s' : Dev) : Prop where
  tick : LoginTick P s e s'
  rootPage : s'.rootPage = s.rootPage
  flag : s'.cmdData.get32 CmdData.loginGenToken = s.cmdData.get32 CmdData.loginGenToken
  confirmed : authenticated s' → authenticated s ∨
    s.rootPage RootPage.signature = 2 ∧ s.cmdData.get32 CmdData.loginGenToken ≠ 0

variable {P} in
/-- The state of the button does not matter. -/
theorem LoginStep.button (hstep : LoginStep P s e s') (b : Bool) :
    LoginStep P s e { s' with buttonState := b } := by
  refine ⟨?_, hstep.rootPage, hstep.flag, hstep.confirmed⟩
  rcases hstep.tick with ⟨hfin, hr, htok, hunder, hkey⟩ | ⟨hsilent, hkeys⟩
  · exact .finishes hfin hr htok ⟨hunder.authRand, hunder.encryptKey⟩ hkey
  · refine .other (hsilent.imp id fun ⟨l, hl, hall⟩ => ⟨l, hl, hall⟩) ?_
    rcases hkeys with hsame | ⟨key, ct, hlen, hread⟩
    · exact .same hsame
    · exact .read key ct hlen hread

variable {P} in
/-- A step that does not concern a login. -/
theorem Unheard.loginStep (hu : Unheard s s') : LoginStep P s e s' where
  tick := .other (.inr hu.silent) (.same hu.keys)
  rootPage := hu.rootPage
  flag := congrArg (Mem.get32 · _) hu.cmdData
  confirmed := fun ha => .inl ((authenticated_congr hu.cmdData).mp ha)

theorem attemptLogin256_eq {authKey authRand authRandCt encryptKeyCt key : Bytes}
    (h : attemptLogin256 P authKey authRand authRandCt encryptKeyCt = some key) :
    stmAes256EncryptCbc P authKey (AES_256_KEY_SIZE / AES_BLK_SIZE) none authRand = authRandCt ∧
      key = stmAes256DecryptCbc P authKey (AES_256_KEY_SIZE / AES_BLK_SIZE) none encryptKeyCt := by
  unfold attemptLogin256 at h
  dsimp only at h
  split at h
  · cases h
    exact ⟨‹_›, rfl⟩
  · cases h

/-- `login_cmd_iter` with too few random words, or for a login that no press has confirmed. -/
theorem loginCmdIter_waits (hno : ¬ (authenticated s ∧ AES_256_KEY_SIZE / 4 ≤ randAvail s)) :
    loginCmdIter P s = s := if_neg hno

theorem flag_loginCmdIter (s : Dev) : (loginCmdIter P s).cmdData.get32 CmdData.loginGenToken =
    s.cmdData.get32 CmdData.loginGenToken :=
  Mem.get32_congr fun i hi => cmdData_loginCmdIter_of_lt P s (by
    simp only [CmdData.loginGenToken, CmdData.loginToken] at hi ⊢
    omega)

/-- A right key for a LOGIN with a token: the token is drawn at once, if there are enough random
    words. -/
theorem loginStep_authenticated {key : Bytes} (hrun : s.hung = false)
    (hcmd : s.activeCmd = some .login) (hpress : Pressed s .short .buttonDown)
    (hsig : s.rootPage RootPage.signature = 2)
    (hgen : s.cmdData.get32 CmdData.loginGenToken ≠ 0)
    (hkey : attemptLogin P s (heldKey s) = some key) :
    LoginStep P s .buttonDown
      (loginCmdIter P (loginAuthenticated key (endButtonPressWait s))) := by
  generalize ht : loginAuthenticated key (endButtonPressWait s) = t
  have hdata : t.cmdData = s.cmdData.put32 CmdData.loginAuthenticated 1 := by
    rw [← ht]
    rfl
  have hactive : t.activeCmd = some .login := by
    rw [← ht]
    exact hcmd
  have hroot : t.rootPage = s.rootPage := by
    rw [← ht]
    rfl
  have hrand : t.rtcRand = s.rtcRand ∧ t.rngRand = s.rngRand := by
    rw [← ht]
    exact ⟨rfl, rfl⟩
  have hout : t.outputs = s.outputs := by
    rw [← ht]
    rfl
  have hkeys : loginKeys t = { loginKeys s with encryptKey := key } := by
    rw [← ht]
    rfl
  have hflash : t.flash = s.flash := by
    rw [← ht]
    rfl
  have hauth : authenticated t := by
    unfold authenticated
    rw [hdata, Mem.get32_put32]
    decide
  have hflag : t.cmdData.get32 CmdData.loginGenToken = s.cmdData.get32 CmdData.loginGenToken := by
    rw [hdata]
    exact Mem.get32_put32_disjoint _ _ (.inr (by decide))
  have hread : key = _ := (attemptLogin256_eq P hkey).2
  have hct := length_rootKey s RootPage.encryptKeyCt
  have havail' : randAvail t = randAvail s := by
    unfold randAvail
    rw [hrand.1, hrand.2]
  by_cases havail : AES_256_KEY_SIZE / 4 ≤ randAvail s
  · have hdone := tokenStored_loginCmdIter P hactive (hflag ▸ hgen) hauth (havail' ▸ havail)
    obtain ⟨r, hr, hokay, hpayload⟩ := hdone.answer
    refine ⟨?_, hdone.rootPage.trans hroot, (flag_loginCmdIter P t).trans hflag,
      fun _ => .inr ⟨hsig, hgen⟩⟩
    refine .finishes ⟨hrun, hcmd, hgen, havail, .inr ⟨hpress, hsig, .inl ⟨hcmd, ?_⟩⟩⟩ ⟨r, ?_, hokay, ?_⟩
      (hdone.token.trans (nextToken_congr hrand.1 hrand.2)) hdone.under (.inr ?_)
    · change (attemptLogin P s (heldKey s)).isSome = true
      rw [hkey]
      rfl
    · rw [← hr]
      unfold newOutputs
      rw [hout]
    · rw [hpayload, hflag, memFrom_congr P hflash]
    · exact ⟨_, _, hct, (hdone.key.trans (congrArg LoginKeys.encryptKey hkeys)).trans hread⟩
  · rw [loginCmdIter_waits P (fun h => havail (havail' ▸ h.2))]
    refine ⟨.other (.inr (.of_eq hout)) (.read (heldKey s) _ (.inl hct) ?_), hroot, hflag,
      fun _ => .inr ⟨hsig, hgen⟩⟩
    rw [hkeys, hread]

/-- A login that is answered without a token. -/
theorem loginStep_plain {key : Bytes} (hcmd : s.activeCmd = some .login)
    (hgen : s.cmdData.get32 CmdData.loginGenToken = 0)
    (hkey : attemptLogin P s (heldKey s) = some key) :
    LoginStep P s .buttonDown (loginPressed (some key) (endButtonPressWait s)) := by
  have hread : key = _ := (attemptLogin256_eq P hkey).2
  have hanswer := answered_login (s := { endButtonPressWait s with encryptKey := key }) none 0 rfl
    (by change s.activeCmd ≠ _; rw [hcmd]; decide)
  change LoginStep P s .buttonDown (enterState .loggedIn (finishCommandMulti .okay 0 none 0
    { endButtonPressWait s with encryptKey := key }))
  generalize enterState .loggedIn _ = t at hanswer ⊢
  refine ⟨.other (.inl hgen) (.read (heldKey s) _ (.inl (length_rootKey s RootPage.encryptKeyCt)) ?_),
    hanswer.rootPage, congrArg (Mem.get32 · _) hanswer.cmdData,
    fun ha => .inl ((authenticated_congr hanswer.cmdData).mp ha)⟩
  rw [hanswer.keys, ← hread]
  rfl

/-- A press for LOGIN. -/
theorem loginStep_pressed (hrun : s.hung = false) (hcmd : s.activeCmd = some .login)
    (hpress : Pressed s .short .buttonDown) :
    LoginStep P s .buttonDown (buttonPressed P (endButtonPressWait s)) := by
  have hcmd' : (endButtonPressWait s).activeCmd = some .login := hcmd
  have hattempt : attemptLogin P (endButtonPressWait s) ((endButtonPressWait s).cmdData.read
      CmdData.loginPassword AES_256_KEY_SIZE) = attemptLogin P s (heldKey s) := rfl
  have hend : Unheard s (endButtonPressWait s) := ⟨rfl, rfl, rfl, .of_eq rfl⟩
  unfold buttonPressed
  rw [hcmd']
  dsimp only
  rw [hattempt]
  split
  · rename_i hsig
    split
    · rename_i hboth
      obtain ⟨key, hkey⟩ := Option.isSome_iff_exists.mp hboth.1
      rw [hkey]
      exact loginStep_authenticated P hrun hcmd hpress hsig hboth.2 hkey
    · rename_i hnot
      cases hkey : attemptLogin P s (heldKey s) with
      | none =>
        exact (hend.trans (unheard_finishCommandResp .badPassword _ (by decide))).loginStep
      | some key =>
        refine loginStep_plain P hcmd ?_ hkey
        by_contra hne
        rw [hkey] at hnot
        exact hnot ⟨rfl, hne⟩
  · exact (hend.trans (unheard_finishCommandResp .unknownDbFormat _ (by decide))).loginStep

/-- A random word while LOGIN is active. -/
theorem loginStep_word {t : Dev} (hrun : s.hung = false) (hcmd : s.activeCmd = some .login)
    (hst : s.deviceState = .loggedOut ∨ s.deviceState = .loggedIn)
    (hword : isRandWord e = true) (hauth : authenticated s →
      s.cmdData.get32 CmdData.loginGenToken ≠ 0)
    (ht : t = randArrived s e) (hsame : Unheard s t) (hctl : t.toControl = s.toControl)
    (hflash : t.flash = s.flash) (hout : t.outputs = s.outputs) : LoginStep P s e (cmdRandUpdate P t) := by
  have hactive : t.activeCmd = some .login := (congrArg Control.activeCmd hctl).trans hcmd
  have hst' : t.deviceState = s.deviceState := congrArg Control.deviceState hctl
  have hiter : cmdRandUpdate P t = loginCmdIter P t := by
    unfold cmdRandUpdate commandRandUpdate
    have hnot : ¬ t.deviceState = .initializing := by
      rw [hst']
      rcases hst with hst | hst <;> rw [hst] <;> decide
    rw [if_neg hnot, hactive]
  rw [hiter]
  have hauth' : authenticated t ↔ authenticated s := authenticated_congr hsame.cmdData
  have hflag : t.cmdData.get32 CmdData.loginGenToken = s.cmdData.get32 CmdData.loginGenToken :=
    congrArg (Mem.get32 · _) hsame.cmdData
  by_cases hfin : authenticated t ∧ AES_256_KEY_SIZE / 4 ≤ randAvail t
  · have ha := hauth'.mp hfin.1
    have hdone := tokenStored_loginCmdIter P hactive (hflag ▸ hauth ha) hfin.1 hfin.2
    obtain ⟨r, hr, hokay, hpayload⟩ := hdone.answer
    refine ⟨?_, hdone.rootPage.trans hsame.rootPage, (flag_loginCmdIter P t).trans hflag,
      fun _ => .inl ha⟩
    refine .finishes ⟨hrun, hcmd, hauth ha, ht ▸ hfin.2, .inl ⟨hword, ha⟩⟩ ⟨r, ?_, hokay, ?_⟩
      (ht ▸ hdone.token) hdone.under
      (.inl (hdone.key.trans (congrArg LoginKeys.encryptKey hsame.keys)))
    · rw [← hr]
      unfold newOutputs
      rw [hout]
    · rw [hpayload, hflag, memFrom_congr P hflash]
  · rw [loginCmdIter_waits P hfin]
    exact hsame.loginStep

/-- **What a step does while LOGIN is active.** -/
theorem loginStep_tick (hcmd : s.activeCmd = some .login)
    (hst : s.deviceState = .loggedOut ∨ s.deviceState = .loggedIn)
    (hauth : authenticated s → s.cmdData.get32 CmdData.loginGenToken ≠ 0)
    (he : ∀ packet, e ≠ .hidRx packet) : LoginStep P s e (step P s e) := by
  by_cases hrun : s.hung = true
  · rw [show step P s e = s from if_pos hrun]
    exact (Unheard.refl s).loginStep
  · have hrun' : s.hung = false := Bool.not_eq_true _ ▸ hrun
    cases e with
    | hidRx packet => exact absurd rfl (he packet)
    | buttonDown =>
      unfold step
      rw [if_neg hrun]
      dsimp only
      split
      · exact (Unheard.refl s).loginStep
      · rename_i hup
        unfold buttonPress
        by_cases hwait : s.waitingForButtonPress = true
        · rw [if_pos hwait]
          exact (loginStep_pressed P hrun' hcmd ⟨rfl, by simpa using hup, hwait⟩).button true
        · rw [if_neg hwait]
          have hdisc : s.deviceState ≠ .disconnected := by
            rcases hst with hst | hst <;> rw [hst] <;> decide
          split
          · have hpause : Unheard s { s with blinkPaused := true, buttonState := true } :=
              ⟨rfl, rfl, rfl, .of_eq rfl⟩
            exact hpause.loginStep
          · have hevent : Unheard s { s.emit (.event 1) with buttonState := true } :=
              ⟨rfl, rfl, rfl, .one rfl (notOkay_event 1)⟩
            exact hevent.loginStep
    | rtcWord w =>
      unfold step
      rw [if_neg hrun]
      exact loginStep_word P hrun' hcmd hst rfl hauth rfl ⟨rfl, rfl, rfl, .of_eq rfl⟩ rfl rfl rfl
    | rngWord w =>
      unfold step
      rw [if_neg hrun]
      exact loginStep_word P hrun' hcmd hst rfl hauth rfl ⟨rfl, rfl, rfl, .of_eq rfl⟩ rfl rfl rfl
    | packetSent => exact (unheard_tick P hcmd hst he nofun rfl).loginStep
    | buttonUp => exact (unheard_tick P hcmd hst he nofun rfl).loginStep
    | buttonHeld => exact (unheard_tick P hcmd hst he nofun rfl).loginStep
    | blinkTimeout => exact (unheard_tick P hcmd hst he nofun rfl).loginStep
    | timer => exact (unheard_tick P hcmd hst he nofun rfl).loginStep
    | flashHandler eop => exact (unheard_tick P hcmd hst he nofun rfl).loginStep
    | flashIdle err => exact (unheard_tick P hcmd hst he nofun rfl).loginStep
    | txKeyboard => exact (unheard_tick P hcmd hst he nofun rfl).loginStep
    | keyboardIdle elapsed => exact (unheard_tick P hcmd hst he nofun rfl).loginStep

/-! ### Other steps -/

variable {P} in
theorem KeysAfter.congr {s₁ s₁' : Dev} (hk : KeysAfter P s s') (h : loginKeys s₁ = loginKeys s)
    (h' : loginKeys s₁' = loginKeys s') : KeysAfter P s₁ s₁' := by
  rcases hk with hsame | ⟨key, ct, hlen, hread⟩
  · exact .same (h'.trans (hsame.trans h.symm))
  · refine .read key ct ?_ (h'.trans ?_)
    · rw [show s₁.tokenEncryptKeyCt = s.tokenEncryptKeyCt from
        congrArg LoginKeys.tokenEncryptKeyCt h]
      exact hlen
    · rw [hread, h]

theorem loginKeys_loginPressed (key : Bytes) (s : Dev) :
    loginKeys (loginPressed (some key) s) = { loginKeys s with encryptKey := key } :=
  loginKeys_enterState _ _

/-- The press for LOGIN_TOKEN reads the data key if the token is right. -/
theorem keysAfter_buttonPressed (hcmd : s.activeCmd ≠ some .login) :
    KeysAfter P s (buttonPressed P s) := by
  unfold buttonPressed
  split
  · exact .same rfl
  · exact .same ((loginKeys_flashWritePage _ _ _ _).trans rfl)
  · rename_i hlogin
    exact absurd hlogin hcmd
  · split
    · cases hkey : attemptLoginToken P s (s.cmdData.read CmdData.loginTokenToken
          AES_256_KEY_SIZE) with
      | none => exact .same rfl
      | some key =>
        refine .read (s.cmdData.read CmdData.loginTokenToken AES_256_KEY_SIZE) _ (.inr rfl) ?_
        rw [← (attemptLogin256_eq P hkey).2]
        exact loginKeys_loginPressed key s
    · exact .same rfl
  · exact .same (loginKeys_updateUidCmdComplete P s)
  · exact .same rfl
  · exact .same rfl
  · exact .same rfl

theorem loginKeys_cmdRandUpdate (hcmd : s.activeCmd ≠ some .login) :
    loginKeys (cmdRandUpdate P s) = loginKeys s := by
  unfold cmdRandUpdate
  have hinit : loginKeys (if s.deviceState = .initializing then initializingRandUpdate P s else s) =
      loginKeys s := by
    split
    · unfold initializingRandUpdate
      dsimp only
      split
      · exact (loginKeys_finalizeRootPageCheck P _).trans ((loginKeys_getProgressCheck _).trans rfl)
      · exact loginKeys_finalizeRootPageCheck P s
    · rfl
  have hactive : (if s.deviceState = .initializing then initializingRandUpdate P s else s).activeCmd ≠
      some .login := by
    split
    · intro hlogin
      rcases (clears_initializingRandUpdate P s).activeCmd with hsame | hnone
      · exact hcmd (hsame.symm.trans hlogin)
      · rw [hnone] at hlogin
        cases hlogin
    · exact hcmd
  generalize (if s.deviceState = .initializing then initializingRandUpdate P s else s) = t
    at hinit hactive ⊢
  unfold commandRandUpdate
  split
  · exact (loginKeys_getRandBitsCmdCheck t).trans hinit
  · rename_i hlogin
    exact absurd hlogin hactive
  · exact hinit

/-- **Where LOGIN is not active, no event but a packet touches the key material**, unless a
    LOGIN_TOKEN logs in. -/
theorem keysAfter_tick (hcmd : s.activeCmd ≠ some .login) (he : ∀ packet, e ≠ .hidRx packet) :
    KeysAfter P s (step P s e) := by
  unfold step
  split
  · exact .same rfl
  · cases e with
    | hidRx packet => exact absurd rfl (he packet)
    | packetSent =>
      dsimp only
      split
      · unfold cmdPacketSent
        split
        · exact .same ((loginKeys_readAllUidsCmdIter P _).trans rfl)
        · exact .same rfl
      · exact .same rfl
    | buttonDown =>
      dsimp only
      split
      · exact .same rfl
      · unfold buttonPress
        split
        · have hpress := keysAfter_buttonPressed P (s := endButtonPressWait s) hcmd
          exact hpress.congr rfl rfl
        · split
          · exact .same rfl
          · split <;> exact .same rfl
    | buttonUp =>
      dsimp only
      split
      · exact .same (loginKeys_buttonRelease s)
      · exact .same rfl
    | buttonHeld =>
      dsimp only
      split
      · unfold longButtonPress
        split
        · exact .same ((loginKeys_longButtonPressed P _).trans rfl)
        · split
          · exact .same ((loginKeys_longButtonPressDisconnected P _).trans rfl)
          · exact .same rfl
      · exact .same rfl
    | blinkTimeout =>
      dsimp only
      split
      · unfold blinkTimeout
        split <;> exact .same rfl
      · exact .same rfl
    | timer =>
      dsimp only
      split
      · exact .same (loginKeys_timerTimeout s)
      · exact .same rfl
    | rtcWord w =>
      have hword := loginKeys_cmdRandUpdate P (s := { s with rtcRand := s.rtcRand.put w }) hcmd
      exact .same (hword.trans rfl)
    | rngWord w =>
      have hword := loginKeys_cmdRandUpdate P (s := { s with rngRand := s.rngRand.put w }) hcmd
      exact .same (hword.trans rfl)
    | flashHandler eop => exact .same (loginKeys_flashHandler P eop s)
    | flashIdle err => exact .same (loginKeys_flashIdle P err s)
    | txKeyboard => exact .same (loginKeys_usbTxKeyboard s)
    | keyboardIdle elapsed => exact .same (loginKeys_usbKeyboardIdle elapsed s)

/-- A HID packet that completes no command is stored at most. -/
theorem step_undelivered_eq {packet : Bytes} (hd : delivered s (.hidRx packet) = none) :
    step P s (.hidRx packet) = s ∨ step P s (.hidRx packet) = rxStore packet s := by
  unfold delivered at hd
  unfold step usbRawHidRx
  by_cases hrun : s.hung = true
  · exact .inl (if_pos hrun)
  · rw [if_neg hrun]
    by_cases hfits : rxFits packet = true
    · by_cases hlast : rxLast packet = true
      · simp [*] at hd
      · simp only [hfits, hlast]
        exact .inr rfl
    · simp only [hfits]
      exact .inl rfl

/-- A packet reads the data key at most, or resets the device. -/
theorem keysAfter_packet (packet : Bytes) :
    Resets P s (.hidRx packet) ∨ KeysAfter P s (step P s (.hidRx packet)) := by
  cases hd : delivered s (.hidRx packet) with
  | none =>
    refine .inr (.same ?_)
    rcases step_undelivered_eq P hd with heq | heq
    · rw [heq]
    · rw [heq]
      rfl
  | some s₀ =>
    cases hr : cmdPacketRecv P s₀ with
    | none => exact .inl ⟨s₀, hd, hr⟩
    | some s' =>
      rw [step_recv P hd hr]
      have hkeys : loginKeys s = loginKeys s₀ := by
        unfold delivered at hd
        dsimp only at hd
        split at hd
        · cases hd
          rfl
        · cases hd
      exact .inr ((keysAfter_cmdPacketRecv P hr).congr hkeys rfl)

/-! ### The invariant -/

/-- An active LOGIN asked for what its flag says, and is confirmed only with a flag that is not
    0; the token last answered with is the one that the ciphertexts were made under; and before
    the first token the ciphertext is what the device was powered on with. -/
structure TokenInv (h : History Dev Event) (s : Dev) : Prop where
  flag : s.activeCmd = some .login → ∃ flag : UInt8, AskedToken flag h ∧
    s.cmdData.get32 CmdData.loginGenToken = flag.toNat
  confirmed : s.activeCmd = some .login → authenticated s →
    s.rootPage RootPage.signature = 2 ∧ s.cmdData.get32 CmdData.loginGenToken ≠ 0
  key : s.encryptKey.length = AES_256_KEY_SIZE
  token : s.tokenEncryptKeyCt.length = AES_256_KEY_SIZE
  issued : ∀ tok dk, Issued P tok dk h → UnderToken P tok dk s ∧ dk.length = AES_256_KEY_SIZE ∧
    s.rootPage RootPage.signature = 2
  fresh : NoToken P h → s.tokenAuthRandCt = List.replicate AES_256_KEY_SIZE 0

theorem AskedToken.unique {flag flag' : UInt8} (ha : AskedToken flag h)
    (ha' : AskedToken flag' h) : flag = flag' := by
  induction ha with
  | packet hd hacc hflag =>
    cases ha' with
    | packet hd' _ hflag' =>
      rw [hd] at hd'
      cases hd'
      exact hflag.symm.trans hflag'
    | later _ hnew =>
      have hcancel := hnew _ hd
      rw [hacc.2.1] at hcancel
      cases hcancel
  | later _ hnew ih =>
    cases ha' with
    | packet hd hacc _ =>
      have hcancel := hnew _ hd
      rw [hacc.2.1] at hcancel
      cases hcancel
    | later ha'' _ => exact ih ha''

theorem Accepted.unique {cmd : Command} {key key' : Bytes} (hne : cmd ≠ .cancelButtonPress)
    (ha : Accepted cmd key h) (ha' : Accepted cmd key' h) : key = key' := by
  induction ha with
  | packet hd hacc hkey =>
    cases ha' with
    | packet hd' _ hkey' =>
      rw [hd] at hd'
      cases hd'
      exact hkey.symm.trans hkey'
    | later _ hnew =>
      have hcancel := hnew _ hd
      rw [hacc.2.1] at hcancel
      exact absurd hcancel hne
  | later _ hnew ih =>
    cases ha' with
    | packet hd hacc _ =>
      have hcancel := hnew _ hd
      rw [hacc.2.1] at hcancel
      exact absurd hcancel hne
    | later ha'' _ => exact ih ha''

/-- The three kinds of steps: the device resets, it finishes a LOGIN with a token, or it touches
    the data key at most. -/
inductive TokenStep (h : History Dev Event) (s : Dev) (e : Event) : Prop
  | resets : Resets P s e → (∀ r, ¬ TokenAnswered P h s e r) → TokenStep h s e
  | stored {r : Response} : LoginFinishes P s e → TokenAnswered P h s e r →
      newOutputs s (step P s e) = [.response r] → r.payload =
        (memFrom P s (s.cmdData.get32 CmdData.loginGenToken)).read 0 AES_256_KEY_SIZE →
      drawnToken (step P s e) = nextToken (randArrived s e) →
      UnderToken P (drawnToken (step P s e)) (step P s e).encryptKey (step P s e) →
      (step P s e).encryptKey = s.encryptKey ∨ KeyRead P (step P s e) →
      (step P s e).rootPage = s.rootPage → TokenStep h s e
  | plain : (∀ r, ¬ TokenAnswered P h s e r) → KeysAfter P s (step P s e) → TokenStep h s e

/-- **Every step is of one of the three kinds.** -/
theorem tokenStep (hl : LoginInv P h s) (hi : TokenInv P h s) (e : Event) :
    TokenStep P h s e := by
  by_cases he : ∀ packet, e ≠ .hidRx packet
  · by_cases hcmd : s.activeCmd = some .login
    · have hst := (hl.login .login (.inl rfl) hcmd).1
      obtain ⟨flag, hasked, hflag⟩ := hi.flag hcmd
      have hstep := loginStep_tick P hcmd hst (fun ha => (hi.confirmed hcmd ha).2) he
      rcases hstep.tick with ⟨hfin, ⟨r, hr, hokay, hpayload⟩, htok, hunder, hkey⟩ | ⟨hno, hkeys⟩
      · refine .stored hfin ⟨⟨flag, ?_, hasked⟩, hcmd, he, ?_, hokay⟩ hr hpayload htok hunder hkey
          hstep.rootPage
        · rintro rfl
          exact hfin.flag hflag
        · rw [hr]
          exact List.mem_singleton.mpr rfl
      · refine .plain (fun r ha => ?_) hkeys
        rcases hno with hzero | hsilent
        · obtain ⟨flag', hne, hasked'⟩ := ha.asked
          have heq := hasked'.unique hasked
          rw [hflag] at hzero
          exact hne (heq.trans (UInt8.toNat_inj.mp hzero))
        · exact hsilent.of_mem_new _ ha.sent r rfl ha.okay
    · exact .plain (fun r ha => hcmd ha.active) (keysAfter_tick P hcmd he)
  · push Not at he
    obtain ⟨packet, rfl⟩ := he
    rcases keysAfter_packet P (s := s) packet with hreset | hkeys
    · exact .resets hreset fun r ha => ha.event packet rfl
    · exact .plain (fun r ha => ha.event packet rfl) hkeys

/-! ### Packets for a login -/

/-- An accepted LOGIN keeps its flag and is not confirmed yet. -/
theorem flag_accepted (hacc : AcceptsLogin s₀ .login) (hr : cmdPacketRecv P s₀ = some s') :
    s'.cmdData.get32 CmdData.loginGenToken = (packetFlag s₀).toNat ∧ ¬ authenticated s' := by
  obtain ⟨hst, hcmd, hle, hlen⟩ := hacc
  have hlong : (AES_256_KEY_SIZE : Int) ≤ packetDataLen s₀.cmdPacketBuf := by
    rcases hlen with ⟨-, hlen⟩ | ⟨hcmd', -⟩
    · exact hlen
    · cases hcmd'
  have hdisp : dispatch P (activate s₀) = .handled (loginCmd
      (s₀.cmdPacketBuf.window CMD_PACKET_HEADER_SIZE) (packetDataLen s₀.cmdPacketBuf)
      (activate s₀)) := by
    unfold dispatch stateFunction
    have hst' : (activate s₀).deviceState = .loggedOut := hst
    have hcmd' : packetCmd (activate s₀).cmdPacketBuf = .login := hcmd
    rw [hst', hcmd']
    rfl
  have hrecv : cmdPacketRecv P s₀ = some (countIteration (packetMessagesRemaining s₀.cmdPacketBuf)
      (loginCmd (s₀.cmdPacketBuf.window CMD_PACKET_HEADER_SIZE) (packetDataLen s₀.cmdPacketBuf)
        (activate s₀))) := by
    unfold cmdPacketRecv runPacket
    dsimp only
    rw [hcmd, if_neg (by decide), if_neg (by rintro ⟨⟨⟩, -⟩)]
    change (if packetCmd s₀.cmdPacketBuf = .startup then _ else _) = _
    rw [hcmd, if_neg (by decide)]
    change (if packetCmd s₀.cmdPacketBuf = .getDeviceState then _ else if packetCmd s₀.cmdPacketBuf =
      .cancelButtonPress then _ else if packetDataLen s₀.cmdPacketBuf > _ then _ else _) = _
    rw [hcmd, if_neg (by decide), if_neg (by decide), if_neg (by omega), hdisp]
    rfl
  rw [hrecv] at hr
  cases hr
  have hcount : ∀ t : Dev, (countIteration (packetMessagesRemaining s₀.cmdPacketBuf) t).cmdData =
      t.cmdData := by
    intro t
    unfold countIteration
    split <;> rfl
  rw [hcount, authenticated_congr (hcount _)]
  refine ⟨?_, (heldKey_loginCmd _ _ hlong).2⟩
  unfold loginCmd packetFlag
  dsimp only
  rw [if_neg (by omega)]
  have hcopy : ∀ m : Mem, (m.copy CmdData.loginPassword (s₀.cmdPacketBuf.window
      CMD_PACKET_HEADER_SIZE) 0 AES_256_KEY_SIZE).get32 CmdData.loginGenToken =
        m.get32 CmdData.loginGenToken := fun m =>
    Mem.get32_congr fun i _ => Mem.copy_apply_of_notMem _ _ (.inr (by
      simp only [CmdData.loginPassword, CmdData.loginGenToken, AES_256_KEY_SIZE]
      omega))
  split
  · refine (Mem.get32_put32 _ _ _).trans (Nat.mod_eq_of_lt ?_)
    have hbyte := UInt8.toNat_lt (s₀.cmdPacketBuf.window CMD_PACKET_HEADER_SIZE AES_256_KEY_SIZE)
    omega
  · refine (hcopy _).trans ((Mem.get32_put32_disjoint _ _ (.inr (by decide))).trans ?_)
    exact Mem.get32_put32 _ _ _

/-- A cancel leaves all but the command alone. -/
theorem cancel_received (hcancel : packetCmd s₀.cmdPacketBuf = .cancelButtonPress)
    (hr : cmdPacketRecv P s₀ = some s') : s'.rootPage = s₀.rootPage ∧ s'.cmdData = s₀.cmdData ∧
      (s'.activeCmd = some .login → s₀.activeCmd = some .login) := by
  unfold cmdPacketRecv at hr
  dsimp only at hr
  rw [hcancel, if_neg (by decide)] at hr
  split at hr
  · split at hr
    · cases hr
      refine ⟨rfl, rfl, fun h => ?_⟩
      exact (active_finish (c := (endButtonPressWait s₀).toControl) h).1
    · cases hr
      exact ⟨rfl, rfl, id⟩
  · unfold runPacket at hr
    dsimp only at hr
    have hcmd : packetCmd (activate s₀).cmdPacketBuf = .cancelButtonPress := hcancel
    rw [hcmd, if_neg (by decide), if_neg (by decide), if_pos rfl] at hr
    cases hr
    exact ⟨rfl, rfl, nofun⟩

/-! ### One step -/

theorem length_keyRead (hP : AesInverse P) {key ct : Bytes} (hct : ct.length = AES_256_KEY_SIZE) :
    (stmAes256DecryptCbc P key (AES_256_KEY_SIZE / AES_BLK_SIZE) none ct).length =
      AES_256_KEY_SIZE :=
  length_cbcDecrypt (hP key) _ trivial hct

theorem length_tokenCt (hP : AesInverse P) {tok data : Bytes} (hlen : data.length = AES_256_KEY_SIZE) :
    (tokenCt P tok data).length = AES_256_KEY_SIZE :=
  length_cbcEncrypt (hP tok) _ trivial hlen

theorem tokenInv_powerOn (flash : Mem) : TokenInv P [] (powerOn P flash) where
  flag := nofun
  confirmed := nofun
  key := List.length_replicate
  token := List.length_replicate
  issued := nofun
  fresh := fun _ => rfl

/-- What a reset leaves of the key material. -/
theorem loginKeys_reset (hr : Resets P s e) : loginKeys (step P s e) =
    ⟨List.replicate AES_256_KEY_SIZE 0, List.replicate AES_256_KEY_SIZE 0,
      List.replicate AES_256_KEY_SIZE 0⟩ := by
  obtain ⟨s₀, hd, hnone⟩ := hr
  rw [step_reset_eq P hd hnone]
  rfl

/-- The fields of the invariant that speak of an active LOGIN. -/
theorem activeLogin_step (hl : LoginInv P h s) (hl' : LoginInv P ((s, e) :: h) (step P s e))
    (hi : TokenInv P h s) (hcmd : (step P s e).activeCmd = some .login) :
    (∃ flag : UInt8, AskedToken flag ((s, e) :: h) ∧
        (step P s e).cmdData.get32 CmdData.loginGenToken = flag.toNat) ∧
      (authenticated (step P s e) → (step P s e).rootPage RootPage.signature = 2 ∧
        (step P s e).cmdData.get32 CmdData.loginGenToken ≠ 0) := by
  -- a step that leaves LOGIN active and its data alone
  have hkeep : ∀ t : Dev, NoNewCommand s e → s.activeCmd = some .login →
      t.rootPage = s.rootPage → t.cmdData = s.cmdData →
      (∃ flag : UInt8, AskedToken flag ((s, e) :: h) ∧
        t.cmdData.get32 CmdData.loginGenToken = flag.toNat) ∧
      (authenticated t → t.rootPage RootPage.signature = 2 ∧
        t.cmdData.get32 CmdData.loginGenToken ≠ 0) := by
    intro t hnew hactive hroot hdata
    obtain ⟨flag, hasked, hflag⟩ := hi.flag hactive
    rw [hroot, hdata, authenticated_congr hdata]
    exact ⟨⟨flag, .later hasked hnew, hflag⟩, hi.confirmed hactive⟩
  by_cases he : ∀ packet, e ≠ .hidRx packet
  · have hnew : NoNewCommand s e := by
      intro s₀ hd
      rw [delivered_of_ne he] at hd
      cases hd
    cases hh : s.hung with
    | true =>
      rw [show step P s e = s from if_pos hh] at hcmd ⊢
      exact hkeep s hnew hcmd rfl rfl
    | false =>
      have hactive : s.activeCmd = some .login :=
        ((activeCmd_tick P (tick_step P s he hh)).resolve_right (by simp [hcmd])).symm.trans hcmd
      obtain ⟨flag, hasked, hflag⟩ := hi.flag hactive
      have hstep := loginStep_tick P hactive (hl.login .login (.inl rfl) hactive).1
        (fun ha => (hi.confirmed hactive ha).2) he
      refine ⟨⟨flag, .later hasked hnew, hstep.flag.trans hflag⟩, fun ha => ?_⟩
      rw [hstep.rootPage, hstep.flag]
      exact (hstep.confirmed ha).elim (hi.confirmed hactive) id
  · push Not at he
    obtain ⟨packet, rfl⟩ := he
    cases hd : delivered s (.hidRx packet) with
    | none =>
      have hnew : NoNewCommand s (.hidRx packet) := by
        intro s₀ hd'
        rw [hd] at hd'
        cases hd'
      rcases step_undelivered_eq P hd with heq | heq
      · rw [heq] at hcmd ⊢
        exact hkeep s hnew hcmd rfl rfl
      · rw [heq] at hcmd ⊢
        exact hkeep (rxStore packet s) hnew hcmd rfl rfl
    | some s₀ =>
      obtain ⟨hctl, hdata⟩ := delivered_eq hd
      have hroot : s₀.rootPage = s.rootPage := by
        unfold delivered at hd
        dsimp only at hd
        split at hd
        · cases hd
          rfl
        · cases hd
      cases hr : cmdPacketRecv P s₀ with
      | none =>
        rw [step_reset_eq P hd hr] at hcmd
        cases hcmd
      | some s' =>
        rw [step_recv P hd hr] at hcmd ⊢
        have hacc := (hl'.login .login (.inl rfl) (by rw [step_recv P hd hr]; exact hcmd)).2.1
        cases hacc with
        | packet hd' hacc _ =>
          rw [hd] at hd'
          cases hd'
          obtain ⟨hflag, hauth⟩ := flag_accepted P hacc hr
          exact ⟨⟨_, .packet hd hacc rfl, hflag⟩, fun ha => absurd ha hauth⟩
        | later _ hnew =>
          obtain ⟨hroot', hdata', hactive⟩ := cancel_received P (hnew s₀ hd) hr
          exact hkeep s' hnew ((congrArg Control.activeCmd hctl).symm.trans (hactive hcmd))
            (hroot'.trans hroot) (hdata'.trans hdata)

/-- The step does not answer a LOGIN with a token, and the device goes on. -/
theorem keysAfter_of_not (hl : LoginInv P h s) (hi : TokenInv P h s)
    (hno : ∀ r, ¬ TokenAnswered P h s e r) (hrun : ¬ Resets P s e) :
    KeysAfter P s (step P s e) := by
  rcases tokenStep P hl hi e with ⟨hreset, -⟩ | ⟨-, hans, -⟩ | ⟨-, hkeys⟩
  · exact absurd hreset hrun
  · exact absurd hans (hno _)
  · exact hkeys

variable {P} in
theorem KeysAfter.tokens (hk : KeysAfter P s s') : s'.tokenAuthRandCt = s.tokenAuthRandCt ∧
    s'.tokenEncryptKeyCt = s.tokenEncryptKeyCt := by
  rcases hk with hsame | ⟨key, ct, -, hread⟩
  · exact ⟨congrArg LoginKeys.tokenAuthRandCt hsame, congrArg LoginKeys.tokenEncryptKeyCt hsame⟩
  · exact ⟨congrArg LoginKeys.tokenAuthRandCt hread, congrArg LoginKeys.tokenEncryptKeyCt hread⟩

variable {P} in
theorem KeysAfter.length (hP : AesInverse P) (hi : TokenInv P h s) (hk : KeysAfter P s s') :
    s'.encryptKey.length = AES_256_KEY_SIZE ∧ s'.tokenEncryptKeyCt.length = AES_256_KEY_SIZE := by
  refine ⟨?_, hk.tokens.2 ▸ hi.token⟩
  rcases hk with hsame | ⟨key, ct, hct, hread⟩
  · rw [show s'.encryptKey = s.encryptKey from congrArg LoginKeys.encryptKey hsame]
    exact hi.key
  · rw [show s'.encryptKey = _ from congrArg LoginKeys.encryptKey hread]
    refine length_keyRead P hP ?_
    rcases hct with hct | rfl
    · exact hct
    · exact hi.token

/-- A LOGIN with a token that is answered is answered with it, where the memory holds it. -/
theorem answered_with_token (hl : LoginInv P h s) (hi : TokenInv P h s) (hmem : TokenInMemory P s e)
    {r : Response} (hans : TokenAnswered P h s e r) :
    r.payload = drawnToken (step P s e) ∧
      UnderToken P (drawnToken (step P s e)) (step P s e).encryptKey (step P s e) ∧
      (step P s e).rootPage RootPage.signature = 2 := by
  rcases tokenStep P hl hi e with ⟨-, hno⟩ | ⟨hfin, hans', hr, hpayload, htok, hunder, -, hroot⟩ |
    ⟨hno, -⟩
  · exact absurd hans (hno r)
  · have hsent := hans.sent
    rw [hr, List.mem_singleton] at hsent
    cases hsent
    refine ⟨?_, hunder, ?_⟩
    · rw [hpayload, htok]
      exact hmem hfin
    · rw [hroot]
      rcases hfin.confirmed with ⟨-, hauth⟩ | ⟨-, hsucc⟩
      · exact (hi.confirmed hfin.active hauth).1
      · exact hsucc.1
  · exact absurd hans (hno r)

/-- The lengths of the key material. -/
theorem length_step (hP : AesInverse P) (hl : LoginInv P h s) (hi : TokenInv P h s) (e : Event) :
    (step P s e).encryptKey.length = AES_256_KEY_SIZE ∧
      (step P s e).tokenEncryptKeyCt.length = AES_256_KEY_SIZE := by
  rcases tokenStep P hl hi e with ⟨hreset, -⟩ | ⟨-, -, -, -, -, hunder, hkey, -⟩ | ⟨-, hkeys⟩
  · have hzero := loginKeys_reset P hreset
    rw [show (step P s e).encryptKey = _ from congrArg LoginKeys.encryptKey hzero,
      show (step P s e).tokenEncryptKeyCt = _ from congrArg LoginKeys.tokenEncryptKeyCt hzero]
    exact ⟨List.length_replicate, List.length_replicate⟩
  · have hlen : (step P s e).encryptKey.length = AES_256_KEY_SIZE := by
      rcases hkey with hsame | ⟨key, ct, hct, hread⟩
      · rw [hsame]
        exact hi.key
      · rw [hread]
        exact length_keyRead P hP hct
    refine ⟨hlen, ?_⟩
    rw [hunder.encryptKey]
    exact length_tokenCt P hP hlen
  · exact hkeys.length hP hi

/-- **A step keeps the invariant.** -/
theorem tokenInv_step (hP : AesInverse P) (hl : LoginInv P h s) (hi : TokenInv P h s)
    (hok : TokenSteps P s e) : TokenInv P ((s, e) :: h) (step P s e) := by
  have hl' := loginInv_step P hl hok.1
  have hlen := length_step P hP hl hi e
  refine ⟨fun hcmd => (activeLogin_step P hl hl' hi hcmd).1,
    fun hcmd => (activeLogin_step P hl hl' hi hcmd).2, hlen.1, hlen.2, ?_, ?_⟩
  · intro tok dk hissued
    cases hissued with
    | answered hans =>
      obtain ⟨hpayload, hunder, hsig⟩ := answered_with_token P hl hi hok.2 hans
      rw [hpayload]
      exact ⟨hunder, hlen.1, hsig⟩
    | later hbefore hno hrun hsig hrand =>
      obtain ⟨hunder, hdk, hsig'⟩ := hi.issued tok dk hbefore
      obtain ⟨hauth, hkey⟩ := (keysAfter_of_not P hl hi hno hrun).tokens
      refine ⟨⟨?_, ?_⟩, hdk, hsig.trans hsig'⟩
      · rw [hauth, hrand]
        exact hunder.authRand
      · rw [hkey]
        exact hunder.encryptKey
  · intro hfresh
    by_cases hreset : Resets P s e
    · exact congrArg LoginKeys.tokenAuthRandCt (loginKeys_reset P hreset)
    · cases hfresh with
      | reset hreset' => exact absurd hreset' hreset
      | later hbefore hno =>
        rw [(keysAfter_of_not P hl hi hno hreset).tokens.1]
        exact hi.fresh hbefore

theorem tokenInv_run (hP : AesInverse P) (hr : DevRun P (TokenSteps P) h s) : TokenInv P h s := by
  refine hr.invariant ?_ fun h s e hr hok hi => ?_
  · rintro _ ⟨flash, rfl⟩
    exact tokenInv_powerOn P flash
  · exact tokenInv_step P hP (loginInv_run P (hr.weaken fun _ _ h => h.1)) hi hok

/-- A change of the password keeps what a token rests on. -/
theorem changedRootPage_keeps (s : Dev) :
    changedRootPage P s RootPage.signature = s.rootPage RootPage.signature ∧
      (changedRootPage P s).read RootPage.authRand AES_256_KEY_SIZE =
        rootKey s RootPage.authRand := by
  have hct : ∀ key data : Bytes, ∀ m : Mem, ∀ off, RootPage.authRand + AES_256_KEY_SIZE ≤ off →
      (∀ a < RootPage.authRand + AES_256_KEY_SIZE, m.write off (stmAes256EncryptCbc P key
        (AES_256_KEY_SIZE / AES_BLK_SIZE) none data) a = m a) :=
    fun key data m off hoff a ha => Mem.write_apply_of_notMem _ (.inl (by omega))
  have hcopy : ∀ m src : Mem, ∀ off n k, RootPage.authRand + AES_256_KEY_SIZE ≤ off →
      (∀ a < RootPage.authRand + AES_256_KEY_SIZE, m.copy off src k n a = m a) :=
    fun m src off n k hoff a ha => Mem.copy_apply_of_notMem _ _ (.inl (by omega))
  have hkept : ∀ a < RootPage.authRand + AES_256_KEY_SIZE, changedRootPage P s a = s.rootPage a := by
    intro a ha
    unfold changedRootPage
    rw [hcopy _ _ _ _ _ (by decide) a ha, hct _ _ _ _ (by decide) a ha,
      hct _ _ _ _ (by decide) a ha, hcopy _ _ _ _ _ (by decide) a ha]
  refine ⟨hkept _ (by decide), Mem.read_congr fun i hi => hkept _ ?_⟩
  simp only [RootPage.authRand, AES_256_KEY_SIZE] at hi ⊢
  omega

/-! ### LOGIN_TOKEN -/

/-- What a press for LOGIN_TOKEN does. -/
theorem step_tokenPressed (hl : LoginInv P h s) (hp : TokenPressed h s e tok) :
    step P s e = { buttonPressed P (endButtonPressWait s) with buttonState := true } ∧
      buttonPressed P (endButtonPressWait s) =
        if s.rootPage RootPage.signature = 2 then
          loginPressed (attemptLoginToken P s tok) (endButtonPressWait s)
        else endButtonPressWait s := by
  obtain ⟨rfl, hup, hwait⟩ := hp.pressed
  have hheld : heldKey s = tok :=
    ((hl.login .loginToken (.inr rfl) hp.active).2.1.unique (by decide) hp.accepted)
  constructor
  · unfold step buttonPress
    rw [if_neg (by rw [hp.running]; decide)]
    dsimp only
    rw [if_neg (by rw [hup]; decide), if_pos hwait]
  · have hcmd : (endButtonPressWait s).activeCmd = some .loginToken := hp.active
    unfold buttonPressed
    rw [hcmd, ← hheld]
    rfl

/-- The token of the stored ciphertexts logs in and gives the data key back. -/
theorem attemptLoginToken_under (hP : AesInverse P) (hunder : UnderToken P tok dk s)
    (hdk : dk.length = AES_256_KEY_SIZE) : attemptLoginToken P s tok = some dk := by
  unfold attemptLoginToken attemptLogin256
  dsimp only
  refine (if_pos hunder.authRand.symm).trans ?_
  rw [hunder.encryptKey]
  exact congrArg some (cbcDecrypt_cbcEncrypt (hP tok) _ trivial hdk)

theorem attemptLoginToken_none (hne : tokenCt P tok (rootKey s RootPage.authRand) ≠
    s.tokenAuthRandCt) : attemptLoginToken P s tok = none := if_neg hne

/-- **What holds of a login token**, in every run in which refused LOGIN and LOGIN_TOKEN packets
    announce no more messages and every LOGIN with a token finishes where the memory at the
    address that its flag is holds the token that is drawn; a LOGIN_TOKEN before the first token
    does not encrypt the authentication data to zeros. -/
theorem token_kept (hP : AesInverse P) (hr : DevRun P (TokenSteps P) h s) (hok : TokenSteps P s e)
    (hzero : ∀ tok, NoToken P h → TokenPressed h s e tok →
      tokenCt P tok (rootKey s RootPage.authRand) ≠ List.replicate AES_256_KEY_SIZE 0) :
    TokenKept P h s e := by
  have hl := loginInv_run P (hr.weaken fun _ _ h => h.1)
  have hi := tokenInv_run P hP hr
  constructor
  · intro r hans
    obtain ⟨hpayload, hunder, -⟩ := answered_with_token P hl hi hok.2 hans
    exact ⟨hpayload, hunder⟩
  · intro tok dk hissued hp
    obtain ⟨hunder, hdk, hsig⟩ := hi.issued tok dk hissued
    obtain ⟨hstep, hpress⟩ := step_tokenPressed P hl hp
    rw [if_pos hsig, attemptLoginToken_under P hP hunder hdk] at hpress
    rw [hstep, hpress]
    refine ⟨?_, congrArg LoginKeys.encryptKey (loginKeys_loginPressed dk (endButtonPressWait s))⟩
    exact Reaches.deviceState (reaches_enterState .same)
  · intro tok hp hor hbefore
    have hne : tokenCt P tok (rootKey s RootPage.authRand) ≠ s.tokenAuthRandCt := by
      rcases hor with hfresh | hne
      · rw [hi.fresh hfresh]
        exact hzero tok hfresh hp
      · exact hne
    obtain ⟨hstep, hpress⟩ := step_tokenPressed P hl hp
    rw [attemptLoginToken_none P hne] at hpress
    rw [hstep, hpress]
    change (if s.rootPage RootPage.signature = 2 then loginPressed none (endButtonPressWait s)
      else endButtonPressWait s).deviceState ≠ _
    split
    · exact hbefore
    · exact hbefore
  · intro hno hrun
    exact (keysAfter_of_not P hl hi hno hrun).tokens

/-! ### Two logins -/

/-- Block functions for concrete runs: a cipher that adds the first byte of the key. -/
def headPlatform : Platform :=
  { addPlatform with
    aes256Encrypt := fun key blk => blk.map (· + key.headD 0)
    aes256Decrypt := fun key blk => blk.map (· - key.headD 0) }

theorem aesInverse_headPlatform : AesInverse headPlatform := by
  intro key
  refine ⟨fun b hb => ?_, fun b _ => ?_⟩
  · exact (List.length_map _).trans hb
  · change (b.map (· + key.headD 0)).map (· - key.headD 0) = b
    rw [List.map_map]
    refine (List.map_congr_left fun x _ => ?_).trans (List.map_id b)
    exact UInt8.add_sub_cancel x _

theorem refusedLoginsFinal_press (s : Dev) : RefusedLoginsFinal s .buttonDown := by
  intro s₀ hd
  cases hd

/-- Eight random words from either source, and STARTUP. -/
def tokenEvents (w : UInt32) : List Event :=
  List.replicate 8 (.rtcWord 1) ++ List.replicate 8 (.rngWord w) ++ hidPackets 0 6 0 []

/-- The run up to LOGIN. -/
def beforeLogin (w : UInt32) : History Dev Event × Dev :=
  replay (step headPlatform) (tokenEvents w) ([], powerOn headPlatform keyedFlash)

/-- A LOGIN that asks for a token with the flag 1. -/
def tokenLogin : Event :=
  (hidPackets 6 (7 + AES_256_KEY_SIZE) 0 (List.replicate AES_256_KEY_SIZE 1 ++ [1])).headD .timer

/-- The steps up to the press. -/
def tokenHistory (w : UInt32) : History Dev Event :=
  ((beforeLogin w).2, tokenLogin) :: (beforeLogin w).1

/-- The device at the press. -/
def tokenDev (w : UInt32) : Dev := step headPlatform (beforeLogin w).2 tokenLogin

theorem beforeLogin_run (w : UInt32) :
    DevRun headPlatform anyStep (beforeLogin w).1 (beforeLogin w).2 := by
  unfold beforeLogin
  exact run_replay (tokenEvents w) ([], powerOn headPlatform keyedFlash) (.start ⟨_, rfl⟩)

theorem tokenRun (w : UInt32) : DevRun headPlatform anyStep (tokenHistory w) (tokenDev w) := by
  unfold tokenHistory tokenDev
  exact .next (beforeLogin_run w) trivial

/-- The two sources give the same words, so the token is 0, as the memory of the platform is. -/
theorem token_kept_zero : TokenKept headPlatform (tokenHistory 1) (tokenDev 1) .buttonDown := by
  have hfinal : ∀ x ∈ (tokenHistory 1), RefusedLoginsFinal x.1 x.2 := by decide +kernel
  have hidle : ∀ x ∈ (tokenHistory 1), x.1.activeCmd ≠ some .login := by decide +kernel
  have hok : ∀ x ∈ (tokenHistory 1), TokenSteps headPlatform x.1 x.2 :=
    fun x hx => ⟨hfinal x hx, fun hfin => absurd hfin.active (hidle x hx)⟩
  have hmem : (memFrom headPlatform (tokenDev 1) ((tokenDev 1).cmdData.get32
      CmdData.loginGenToken)).read 0 AES_256_KEY_SIZE = nextToken (tokenDev 1) := by
    decide +kernel
  have hpress : TokenSteps headPlatform (tokenDev 1) .buttonDown :=
    ⟨refusedLoginsFinal_press _, fun _ => hmem⟩
  refine token_kept headPlatform aesInverse_headPlatform ((tokenRun 1).restrict hok) hpress ?_
  intro tok _ hp
  exact absurd hp.active (by decide +kernel)

/-- Other words make another token, and LOGIN is answered with zeros all the same. -/
theorem address_answered : ¬ ∀ (P : Platform), AesInverse P → ∀ h s e, DevRun P anyStep h s →
    TokenKept P h s e := by
  intro hall
  have hkept := hall headPlatform aesInverse_headPlatform _ _ .buttonDown (tokenRun 2)
  have hasked : ∃ s₀ ∈ delivered (beforeLogin 2).2 tokenLogin,
      AcceptsLogin s₀ .login ∧ packetFlag s₀ = 1 := by
    decide +kernel
  obtain ⟨s₀, hd, hacc, hflag⟩ := hasked
  have hans : TokenAnswered headPlatform (tokenHistory 2) (tokenDev 2) .buttonDown
      ⟨some .login, .okay, 0, .loggedOut, List.replicate AES_256_KEY_SIZE 0⟩ := by
    constructor
    · exact ⟨1, by decide, .packet hd hacc hflag⟩
    · decide +kernel
    · exact nofun
    · decide +kernel
    · rfl
  exact absurd (hkept.answered _ hans).1 (by decide +kernel)

end SignetBase.Firmware
