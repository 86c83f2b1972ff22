/-
  SignetBase/Firmware/RootPage.lean
  =================================
  **Which functions touch the root page.**

  The root page is in RAM and, as block 0, in flash.  A confirmed WRITE_CLEARTEXT_PASSWORD
  or CHANGE_MASTER_PASSWORD and the end of INITIALIZE change it in RAM and ask for it to be
  written; STARTUP reads it back.  Every other function leaves it alone (`RootKept`): a
  record is never written to block 0, because `INVALID_BLOCK` is 0.  There is one lemma for
  each of them, which says also that it answers OKAY to no cleartext password command.
-/
import SignetBase.Firmware.FlashRuns
import SignetBase.Firmware.Updates

namespace SignetBase.Firmware

open Control

variable (P : Platform)

variable {s s' s₁ : Dev}

/-! ### What is kept -/

/-- The answer OKAY to a cleartext password command. -/
def Output.isCleartextOkay (o : Output) : Bool :=
  o.isOkayTo .readCleartextPassword || o.isOkayTo .writeCleartextPassword

/-- The root page, the tables, the driver, and the answers to cleartext password commands. -/
structure RootView where
  rootPage : Mem
  tables : Tables
  driver : FlashView
  okays : List Output

def rootView (s : Dev) : RootView :=
  ⟨s.rootPage, s.tables, flashView s, s.outputs.filter Output.isCleartextOkay⟩

/-- No cleartext password command is active. -/
structure NotCleartext (c : Control) : Prop where
  read : c.activeCmd ≠ some .readCleartextPassword
  write : c.activeCmd ≠ some .writeCleartextPassword

theorem NotCleartext.of_active {c : Control} {cmd : Command} (h : c.activeCmd = some cmd)
    (hread : cmd ≠ .readCleartextPassword) (hwrite : cmd ≠ .writeCleartextPassword) :
    NotCleartext c := by
  constructor
  · rw [h]
    exact fun heq => hread (Option.some.inj heq)
  · rw [h]
    exact fun heq => hwrite (Option.some.inj heq)

theorem NotCleartext.clears {c c' : Control} (h : NotCleartext c) (hc : c.Clears c') :
    NotCleartext c' := by
  rcases hc with _ | _
  · exact h
  · exact ⟨nofun, nofun⟩

theorem NotCleartext.reaches {c c' : Control} {st : DeviceState} (h : NotCleartext c)
    (hc : c.Reaches st c') : NotCleartext c' := by
  rcases hc.activeCmd with hactive | hactive
  · exact ⟨hactive ▸ h.read, hactive ▸ h.write⟩
  · exact ⟨hactive ▸ nofun, hactive ▸ nofun⟩

theorem NotCleartext.entered (h : NotCleartext s.toControl) (st : DeviceState) :
    NotCleartext (enterState st s).toControl :=
  h.reaches (reaches_enterState .same)

/-! ### Responses and states -/

theorem isCleartextOkay_response (r : Response)
    (h : r.resp ≠ .okay ∨ r.cmd ≠ some .readCleartextPassword ∧
      r.cmd ≠ some .writeCleartextPassword) :
    (Output.response r).isCleartextOkay = false := by
  unfold Output.isCleartextOkay Output.isOkayTo
  rw [Bool.or_eq_false_iff, decide_eq_false_iff_not, decide_eq_false_iff_not]
  rcases h with h | ⟨hread, hwrite⟩
  · exact ⟨fun hr => h hr.1, fun hw => h hw.1⟩
  · exact ⟨fun hr => hread hr.2, fun hw => hwrite hw.2⟩

theorem rootView_finishCommandMulti (resp : CommandResponse) (mr : Int) (payload : Option Bytes)
    (n : Nat) (s : Dev) (h : resp ≠ .okay ∨ NotCleartext s.toControl) :
    rootView (finishCommandMulti resp mr payload n s) = rootView s := by
  have hout : ∀ r : Response, r.resp = resp → r.cmd = s.activeCmd →
      (Output.response r :: s.outputs).filter Output.isCleartextOkay =
        s.outputs.filter Output.isCleartextOkay := by
    rintro r rfl hcmd
    refine List.filter_cons_of_neg ?_
    rw [isCleartextOkay_response r, Bool.false_eq_true]
    · exact not_false
    · rw [hcmd]
      exact h.imp_right fun h => ⟨h.read, h.write⟩
  exact congrArg (RootView.mk s.rootPage s.tables (flashView s)) (hout _ rfl rfl)

theorem rootView_finishCommand (resp : CommandResponse) (payload : Bytes) (s : Dev)
    (h : resp ≠ .okay ∨ NotCleartext s.toControl) :
    rootView (finishCommand resp payload s) = rootView s :=
  rootView_finishCommandMulti _ _ _ _ s h

theorem rootView_finishCommandResp (resp : CommandResponse) (s : Dev)
    (h : resp ≠ .okay ∨ NotCleartext s.toControl) :
    rootView (finishCommandResp resp s) = rootView s :=
  rootView_finishCommandMulti _ _ _ _ s h

/-- A refusal. -/
theorem rootView_refuse {resp : CommandResponse} (h : resp ≠ .okay) (s : Dev) :
    rootView (finishCommandResp resp s) = rootView s :=
  rootView_finishCommandMulti _ _ _ _ s (.inl h)

theorem rootView_getProgressCheck (s : Dev) : rootView (getProgressCheck s) = rootView s := by
  unfold getProgressCheck
  dsimp only
  split
  · rename_i hcmd
    have hnot : NotCleartext s.toControl := .of_active hcmd (by decide) (by decide)
    split
    · exact rootView_finishCommand _ _ s (.inr hnot)
    · split
      · exact rootView_refuse (by decide) s
      · rfl
  · rfl

theorem rootView_enterProgressingState (st : DeviceState) (mx : List Int) (s : Dev) :
    rootView (enterProgressingState st mx s) = rootView s :=
  rootView_getProgressCheck (resetProgress st mx s)

theorem rootView_enterState (st : DeviceState) (s : Dev) :
    rootView (enterState st s) = rootView s :=
  rootView_enterProgressingState st [] s

theorem rootView_randFill (f : Nat → Nat → Nat) (off n : Nat) (s : Dev) :
    rootView (randFill f off n s) = rootView s := by
  induction n generalizing off s with
  | zero => rfl
  | succ n ih => exact (ih _ _).trans rfl

/-! ### Typing -/

theorem rootView_usbKeyboardTypingDone (s : Dev) :
    rootView (usbKeyboardTypingDone s) = rootView s := by
  have hflag : ∀ t : Dev, rootView (if t.deviceState = .disconnected then
      { t with cleartextPassTyping := false } else t) = rootView t := by
    intro t
    split
    · rfl
    · rfl
  unfold usbKeyboardTypingDone
  refine (hflag _).trans ?_
  split
  · rename_i hcmd
    exact rootView_finishCommandResp _ s (.inr (.of_active hcmd (by decide) (by decide)))
  · rfl

theorem rootView_usbKeyboardType (chars : Ptr) (n : Nat) (s : Dev) :
    rootView (usbKeyboardType usbKeyboardTypingDone chars n s) = rootView s := by
  unfold usbKeyboardType
  split
  · rfl
  · split
    · exact rootView_usbKeyboardTypingDone s
    · rfl

theorem rootView_typeCmd (data : Mem) (dataLen : Int) (s : Dev) :
    rootView (typeCmd data dataLen s) = rootView s := by
  unfold typeCmd
  dsimp only
  split
  · rfl
  · exact (rootView_usbKeyboardType _ _ _).trans rfl

theorem rootView_timerTimeout (s : Dev) : rootView (timerTimeout s) = rootView s := by
  unfold timerTimeout
  dsimp only
  split
  · exact (rootView_usbKeyboardType _ _ _).trans rfl
  · rfl

theorem rootView_buttonRelease (s : Dev) : rootView (buttonRelease s) = rootView s := by
  unfold buttonRelease
  split
  · rfl
  · split
    · unfold buttonReleaseDisconnected
      dsimp only
      split
      · rfl
      · split
        · exact (rootView_timerTimeout _).trans rfl
        · exact (rootView_usbKeyboardType _ _ _).trans rfl
    · rfl

theorem rootView_longButtonPressDisconnected (s : Dev) :
    rootView (longButtonPressDisconnected P s) = rootView s := by
  unfold longButtonPressDisconnected
  split
  · dsimp only
    split
    · exact (rootView_usbKeyboardType _ _ _).trans rfl
    · exact rootView_timerTimeout s
  · rfl

theorem rootView_usbTxKeyboard (s : Dev) : rootView (usbTxKeyboard s) = rootView s := by
  unfold usbTxKeyboard
  split
  · split
    · exact (rootView_usbKeyboardTypingDone _).trans rfl
    · rfl
  · rfl

theorem rootView_usbKeyboardIdle (elapsed : Bool) (s : Dev) :
    rootView (usbKeyboardIdle elapsed s) = rootView s := by
  unfold usbKeyboardIdle
  split
  · rfl
  · rfl

theorem rootView_flashWriteFailed (s : Dev) : rootView (flashWriteFailed s) = rootView s := by
  unfold flashWriteFailed
  split
  · exact rootView_refuse (by decide) s
  · rfl

theorem rootView_blinkTimeout (s : Dev) : rootView (blinkTimeout s) = rootView s := by
  unfold blinkTimeout
  split
  · exact (rootView_refuse (by decide) _).trans rfl
  · rfl

/-! ### Commands -/

theorem rootView_loginCmdIter (h : NotCleartext s.toControl) :
    rootView (loginCmdIter P s) = rootView s := by
  have hstore : ∀ t : Dev, rootView (storeTokenCiphertexts P t) = rootView t := fun _ => rfl
  have hdraw : rootView (drawLoginToken s) = rootView s := rootView_randFill _ _ _ s
  have hview := (hstore (drawLoginToken s)).trans hdraw
  have hctl : (storeTokenCiphertexts P (drawLoginToken s)).toControl = s.toControl :=
    (toControl_storeTokenCiphertexts P _).trans (toControl_drawLoginToken s)
  unfold loginCmdIter
  dsimp only
  generalize storeTokenCiphertexts P (drawLoginToken s) = s₁ at hview hctl ⊢
  split
  · refine (rootView_enterState _ _).trans ?_
    refine (rootView_finishCommandMulti _ _ _ _ s₁ (.inr ?_)).trans hview
    rw [hctl]
    exact h
  · rfl

theorem rootView_loginPressed (key : Option Bytes) (h : NotCleartext s.toControl) :
    rootView (loginPressed key s) = rootView s := by
  unfold loginPressed
  split
  · exact (rootView_enterState _ _).trans ((rootView_finishCommandResp _ _ (.inr h)).trans rfl)
  · exact rootView_refuse (by decide) s

theorem rootView_loginCmd (data : Mem) (dataLen : Int) (s : Dev) :
    rootView (loginCmd data dataLen s) = rootView s := by
  unfold loginCmd
  dsimp only
  split
  · exact (rootView_refuse (by decide) _).trans rfl
  · rfl

theorem rootView_loginTokenCmd (data : Mem) (dataLen : Int) (s : Dev) :
    rootView (loginTokenCmd data dataLen s) = rootView s := by
  unfold loginTokenCmd
  split
  · exact rootView_refuse (by decide) s
  · rfl

theorem rootView_initializeCmd (data : Mem) (dataLen : Int) (s : Dev) :
    rootView (initializeCmd data dataLen s) = rootView s := by
  unfold initializeCmd
  split
  · exact rootView_refuse (by decide) s
  · rfl

theorem rootView_getProgressCmd (data : Mem) (dataLen : Int) (s : Dev) :
    rootView (getProgressCmd data dataLen s) = rootView s := by
  unfold getProgressCmd
  dsimp only
  split
  · exact (rootView_refuse (by decide) _).trans rfl
  · exact (rootView_getProgressCheck _).trans rfl

theorem rootView_readBlockCmd (data : Mem) (dataLen : Int) (h : NotCleartext s.toControl) :
    rootView (readBlockCmd P data dataLen s) = rootView s := by
  unfold readBlockCmd
  split
  · exact rootView_refuse (by decide) s
  · exact rootView_finishCommand _ _ s (.inr h)

theorem rootView_changeMasterPasswordCmd (data : Mem) (dataLen : Int) (s : Dev) :
    rootView (changeMasterPasswordCmd P data dataLen s) = rootView s := by
  unfold changeMasterPasswordCmd
  dsimp only
  split
  · exact rootView_refuse (by decide) s
  · split
    · split
      · exact (rootView_refuse (by decide) _).trans rfl
      · rfl
    · exact (rootView_refuse (by decide) _).trans rfl

theorem rootView_cmdDisconnect (s : Dev) : rootView (cmdDisconnect s) = rootView s :=
  (rootView_enterState _ _).trans rfl

theorem rootView_enterMobileModeCmd (s : Dev) : rootView (enterMobileModeCmd s) = rootView s := by
  refine Eq.trans ?_ (rootView_cmdDisconnect s)
  unfold enterMobileModeCmd
  rfl

theorem rootView_getRandBitsCmdCheck (h : NotCleartext s.toControl) :
    rootView (getRandBitsCmdCheck s) = rootView s := by
  unfold getRandBitsCmdCheck
  dsimp only
  split
  · refine (rootView_finishCommand _ _ _ (.inr ?_)).trans (rootView_randFill _ _ _ s)
    rw [toControl_randFill]
    exact h
  · rfl

theorem rootView_getRandBitsCmd (data : Mem) (dataLen : Int) (h : NotCleartext s.toControl) :
    rootView (getRandBitsCmd data dataLen s) = rootView s := by
  unfold getRandBitsCmd
  dsimp only
  split
  · exact rootView_refuse (by decide) s
  · split
    · exact (rootView_refuse (by decide) _).trans rfl
    · refine (rootView_getRandBitsCmdCheck ?_).trans rfl
      exact h

theorem rootView_writeCleartextPassword (data : Mem) (dataLen : Int) (s : Dev) :
    rootView (writeCleartextPassword data dataLen s) = rootView s := by
  unfold writeCleartextPassword
  split
  · exact rootView_refuse (by decide) s
  · rfl

theorem rootView_readCleartextPassword (data : Mem) (dataLen : Int) (s : Dev) :
    rootView (readCleartextPassword data dataLen s) = rootView s := by
  unfold readCleartextPassword
  split
  · exact rootView_refuse (by decide) s
  · rfl

theorem rootView_readCleartextPasswordNames (h : NotCleartext s.toControl) :
    rootView (readCleartextPasswordNames s) = rootView s := by
  unfold readCleartextPasswordNames
  dsimp only
  refine (rootView_finishCommand _ _ _ (.inr ?_)).trans rfl
  exact h

theorem rootView_readUidCmdComplete (h : NotCleartext s.toControl) :
    rootView (readUidCmdComplete P s) = rootView s := by
  unfold readUidCmdComplete
  dsimp only
  refine (rootView_finishCommand _ _ _ (.inr ?_)).trans rfl
  exact h

theorem rootView_readUidCmd (uid masked : Nat) (h : NotCleartext s.toControl) :
    rootView (readUidCmd P uid masked s) = rootView s := by
  unfold readUidCmd
  dsimp only
  split
  · exact (rootView_refuse (by decide) _).trans rfl
  · split
    · rfl
    · refine (rootView_readUidCmdComplete P ?_).trans rfl
      exact h

theorem rootView_readAllUidsCmdIter (h : NotCleartext s.toControl) :
    rootView (readAllUidsCmdIter P s) = rootView s := by
  unfold readAllUidsCmdIter
  dsimp only
  split
  · exact (rootView_finishCommandMulti _ _ _ _ _ (.inl (by decide))).trans rfl
  · split
    · rfl
    · refine (rootView_finishCommandMulti _ _ _ _ _ (.inr ?_)).trans rfl
      exact h

theorem rootView_readAllUidsCmd (masked : Nat) (h : NotCleartext s.toControl) :
    rootView (readAllUidsCmd P masked s) = rootView s := by
  unfold readAllUidsCmd
  dsimp only
  split
  · rfl
  · refine (rootView_readAllUidsCmdIter P ?_).trans rfl
    exact h

/-! ### Records and blocks -/

/-- A request for a block other than the root page, and not out of it. -/
structure RecordRequest (r : FlashRequest) : Prop where
  dest : ∃ b, b ≠ 0 ∧ r.dest = idBlk b
  src : ∀ p ∈ r.src, p.object ≠ .rootPage

/-- `uid_map` holds bytes. -/
def MapBytes (t : Tables) : Prop := ∀ u, t.uidMap u < 256

/-- The request `r` was made; a busy driver does not start it. -/
structure Asked (s s' : Dev) (r : FlashRequest) : Prop where
  requests : s'.flashRequests = r :: s.flashRequests
  started : r.started = true → s.flashState = .idle

theorem Asked.after {r : FlashRequest} (h : Asked s₁ s' r) (hv : flashView s₁ = flashView s) :
    Asked s s' r :=
  ⟨h.requests.trans (congrArg (r :: ·) (flashRequests_of_view hv)),
    fun hr => (flashState_of_view hv).symm.trans (h.started hr)⟩

theorem Asked.before {r : FlashRequest} (h : Asked s s₁ r) (hv : flashView s' = flashView s₁) :
    Asked s s' r :=
  ⟨(flashRequests_of_view hv).trans h.requests, h.started⟩

/-- The root page is left alone, in RAM and in flash. -/
structure RootKept (s s' : Dev) : Prop where
  rootPage : s'.rootPage = s.rootPage
  map : MapBytes s.tables → MapBytes s'.tables
  okays : s'.outputs.filter Output.isCleartextOkay = s.outputs.filter Output.isCleartextOkay
  driver : flashView s' = flashView s ∨ s'.flash = s.flash ∧
    ∃ r, RecordRequest r ∧ Asked s s' r

theorem rootPage_of_view (h : rootView s' = rootView s) : s'.rootPage = s.rootPage :=
  congrArg RootView.rootPage h

theorem tables_of_view (h : rootView s' = rootView s) : s'.tables = s.tables :=
  congrArg RootView.tables h

theorem flashView_of_view (h : rootView s' = rootView s) : flashView s' = flashView s :=
  congrArg RootView.driver h

theorem okays_of_view (h : rootView s' = rootView s) :
    s'.outputs.filter Output.isCleartextOkay = s.outputs.filter Output.isCleartextOkay :=
  congrArg RootView.okays h

@[simp] theorem rootPage_flashWritePage (dest : Nat) (src : Option Ptr) (count : Int) (s : Dev) :
    (flashWritePage dest src count s).rootPage = s.rootPage := by
  unfold flashWritePage
  split
  · rfl
  · rfl

theorem RootKept.of_view (h : rootView s' = rootView s) : RootKept s s' where
  rootPage := rootPage_of_view h
  map := by
    intro hmap
    rw [tables_of_view h]
    exact hmap
  okays := okays_of_view h
  driver := .inl (flashView_of_view h)

theorem RootKept.after (h : RootKept s₁ s') (hv : rootView s₁ = rootView s) : RootKept s s' where
  rootPage := h.rootPage.trans (rootPage_of_view hv)
  map := by
    rw [← tables_of_view hv]
    exact h.map
  okays := h.okays.trans (okays_of_view hv)
  driver := by
    have hview := flashView_of_view hv
    rcases h.driver with h | ⟨hflash, r, hr, hreq⟩
    · exact .inl (h.trans hview)
    · exact .inr ⟨hflash.trans (flash_of_view hview), r, hr, hreq.after hview⟩

theorem RootKept.before (h : RootKept s s₁) (hv : rootView s' = rootView s₁) : RootKept s s' where
  rootPage := (rootPage_of_view hv).trans h.rootPage
  map := by
    rw [tables_of_view hv]
    exact h.map
  okays := (okays_of_view hv).trans h.okays
  driver := by
    have hview := flashView_of_view hv
    rcases h.driver with h | ⟨hflash, r, hr, hreq⟩
    · exact .inl (hview.trans h)
    · exact .inr ⟨(flash_of_view hview).trans hflash, r, hr, hreq.before hview⟩

/-- New tables do not matter if their map holds bytes. -/
theorem RootKept.of_tables {t : Tables} (h : RootKept { s with tables := t } s')
    (hmap : MapBytes s.tables → MapBytes t) : RootKept s s' where
  rootPage := h.rootPage
  map hbytes := h.map (hmap hbytes)
  okays := h.okays
  driver := by
    rcases h.driver with hview | ⟨hflash, r, hr, hreq⟩
    · exact .inl hview
    · exact .inr ⟨hflash, r, hr, hreq.requests, hreq.started⟩

theorem rootKept_flashWritePage {b : Nat} (hb : b ≠ 0) {src : Option Ptr} (count : Int)
    (s : Dev) (hsrc : ∀ p ∈ src, p.object ≠ .rootPage) :
    RootKept s (flashWritePage (idBlk b) src count s) := by
  unfold flashWritePage
  split
  · exact ⟨rfl, id, rfl, .inr ⟨rfl, _, ⟨⟨b, hb, rfl⟩, hsrc⟩, rfl, fun _ => ‹_›⟩⟩
  · exact ⟨rfl, id, rfl, .inr ⟨rfl, _, ⟨⟨b, hb, rfl⟩, hsrc⟩, rfl, nofun⟩⟩

theorem noSource : ∀ p ∈ (none : Option Ptr), p.object ≠ .rootPage :=
  fun p hp => absurd hp (Option.not_mem_none p)

/-- The sources of records are other objects. -/
theorem source_ne_rootPage {o : Object} (off : Nat) (h : o ≠ .rootPage) :
    ∀ p ∈ some (⟨o, off⟩ : Ptr), p.object ≠ .rootPage := by
  rintro p ⟨⟩
  exact h

theorem rootKept_writeInitialBlock (n : Nat) (s : Dev) : RootKept s (writeInitialBlock P n s) := by
  have hb : MIN_DATA_BLOCK + n ≠ 0 := by
    rw [MIN_DATA_BLOCK]
    omega
  unfold writeInitialBlock
  split
  · exact (rootKept_flashWritePage hb _ _ (source_ne_rootPage _ (by decide))).after rfl
  · exact rootKept_flashWritePage hb _ _ noSource

theorem rootKept_initializeCmdComplete (h : NotCleartext s.toControl) :
    RootKept s (initializeCmdComplete P s) := by
  unfold initializeCmdComplete
  dsimp only
  generalize hm : Mem.put32 _ _ _ = m
  have hblock := (rootKept_writeInitialBlock P 0 { s with cmdData := m }).after
    (s := s) rfl
  have hctl := toControl_writeInitialBlock P { s with cmdData := m } 0
  generalize writeInitialBlock P 0 { s with cmdData := m } = s₁ at hblock hctl ⊢
  refine hblock.before ?_
  refine (rootView_enterProgressingState _ _ _).trans ?_
  refine Eq.trans ?_ (rootView_finishCommandResp .okay s₁ (.inr ?_))
  · rfl
  · rw [hctl]
    exact h

theorem rootKept_writeBlockCmd {data : Mem} (dataLen : Int) (hb : (data 0).toNat ≠ 0) (s : Dev) :
    RootKept s (writeBlockCmd data dataLen s) := by
  unfold writeBlockCmd
  split
  · exact .of_view (rootView_refuse (by decide) s)
  · exact rootKept_flashWritePage hb _ s (source_ne_rootPage _ (by decide))

theorem rootKept_eraseBlockCmd {data : Mem} (dataLen : Int) (hb : (data 0).toNat ≠ 0) (s : Dev) :
    RootKept s (eraseBlockCmd data dataLen s) := by
  unfold eraseBlockCmd
  split
  · exact .of_view (rootView_refuse (by decide) s)
  · exact rootKept_flashWritePage hb _ s noSource

/-! ### Records -/

variable {pages : Nat → Mem} {tbl : Tables}

theorem dataBlock_lt {i : Nat} (h : i ∈ dataBlocks) : i < 256 :=
  (dataBlock_bounds h).2.trans (by decide)

theorem MapBytes.setUid (h : MapBytes tbl) (uid b : Nat) : MapBytes (tbl.setUid uid b) := by
  intro u
  change (if u = uid then b % 256 else tbl.uidMap u) < 256
  split
  · exact Nat.mod_lt _ (by decide)
  · exact h u

theorem findUid_lt (h : MapBytes tbl) {uid b : Nat} {index : Option Nat}
    (hfind : findUid pages tbl uid = (b, index)) : b < 256 := by
  have hb : b = tbl.uidMap uid := (congrArg Prod.fst hfind).symm.trans (findUid_fst pages tbl uid)
  rw [hb]
  exact h uid

theorem invalidBlock_lt : INVALID_BLOCK < 256 := by decide

theorem deallocateUid_lt (h : MapBytes tbl) (uid : Nat) (drop : Bool) (t : Scratch) :
    (deallocateUid pages tbl uid drop t).1 < 256 := by
  unfold deallocateUid
  split
  · exact invalidBlock_lt
  · rename_i hfind
    dsimp only
    split
    · exact findUid_lt h hfind
    · exact findUid_lt h hfind

theorem allocateUid_lt (key : Bytes) (uid : Nat) (data : Bytes) (sz rev : Nat) (iv : Bytes)
    (t : Scratch) : (allocateUid P pages tbl key uid data sz rev iv t).1 < 256 := by
  unfold allocateUid
  dsimp only
  split
  · exact invalidBlock_lt
  · split
    · rename_i hexact
      exact dataBlock_lt (findExactBlock_spec hexact).mem
    · split
      · rename_i hfree
        exact dataBlock_lt (findFreeBlock_spec hfree).1
      · split
        · rename_i hlarger
          exact dataBlock_lt (findLargerBlock_spec hlarger).mem
        · exact invalidBlock_lt

theorem updateUid_lt (h : MapBytes tbl) (key : Bytes) (uid : Nat) (data : Bytes) (sz : Nat)
    (iv : Bytes) (t : Scratch) : (updateUid P pages tbl key uid data sz iv t).1 < 256 := by
  unfold updateUid
  dsimp only
  split
  · exact deallocateUid_lt h uid true t
  · split
    · exact allocateUid_lt P key uid data sz 0 iv t
    · rename_i hfind
      split
      · exact invalidBlock_lt
      · split
        · exact findUid_lt h hfind
        · exact allocateUid_lt P key uid data sz _ iv _

/-- The block an UPDATE_UID writes to. -/
def updateBlockNum (s : Dev) : Nat := s.cmdData.get32 CmdData.updateUidBlockNum

theorem updateBlockNum_setBlock (m blk : Mem) :
    (m.setWindow CmdData.updateUidBlock blk).get32 CmdData.updateUidBlockNum =
      m.get32 CmdData.updateUidBlockNum := by
  refine Mem.get32_congr fun i hi => Mem.setWindow_apply_of_lt _ _ ?_
  change 28 + i < 44
  omega

/-- A confirmed update asks for the block whose number it has kept. -/
theorem rootKept_updateUidCmdComplete (h : updateBlockNum s ≠ 0) :
    RootKept s (updateUidCmdComplete P s) := by
  unfold updateUidCmdComplete
  dsimp only
  generalize hm : (if (BlockInfo.get s.cmdData CmdData.updateUidBlkInfo).occupied ≠ 0 then
    s.cmdData.setWindow CmdData.updateUidBlock _ else s.cmdData) = m
  have hb : m.get32 CmdData.updateUidBlockNum ≠ 0 := by
    rw [← hm]
    split
    · rw [updateBlockNum_setBlock]
      exact h
    · exact h
  exact (rootKept_flashWritePage hb _ _ (source_ne_rootPage _ (by decide))).after (s := s) rfl

/-- The update of an UPDATE_UID packet is refused, or its block is none but the root page. -/
theorem updateBlockNum_updateUidCmd (hmap : MapBytes s.tables) (uid : Nat) (data : Bytes)
    (sz pressType : Nat) :
    (updateUidCmd P uid data sz pressType s).toControl = s.toControl.finish 0 ∧
        rootView (updateUidCmd P uid data sz pressType s) = rootView s ∨
      RootKept s (updateUidCmd P uid data sz pressType s) ∧
        updateBlockNum (updateUidCmd P uid data sz pressType s) ≠ 0 := by
  unfold updateUidCmd
  dsimp only
  generalize hres : updateUid P _ _ _ uid data sz _ _ = res
  have hlt : res.1 < 256 := hres ▸ updateUid_lt P hmap _ _ _ _ _ _
  generalize hm : Mem.put32 _ CmdData.updateUidBlockNum res.1 = m
  by_cases hinvalid : res.1 = INVALID_BLOCK
  · rw [if_pos hinvalid]
    exact .inl ⟨rfl, (rootView_refuse (by decide) _).trans rfl⟩
  · rw [if_neg hinvalid]
    have hnum : m.get32 CmdData.updateUidBlockNum = res.1 := by
      rw [← hm, Mem.get32_put32]
      exact Nat.mod_eq_of_lt (hlt.trans (by decide))
    have hne : m.get32 CmdData.updateUidBlockNum ≠ 0 := by
      rw [hnum]
      exact hinvalid
    right
    split
    · refine ⟨RootKept.after (rootKept_updateUidCmdComplete P ?_) rfl, ?_⟩
      · exact hne
      · unfold updateBlockNum
        rw [blockNum_updateUidCmdComplete]
        exact hne
    · split
      · exact ⟨.of_view rfl, hne⟩
      · exact ⟨.of_view rfl, hne⟩

theorem rootKept_updateUidPacket (hmap : MapBytes s.tables) (cmd : Command) (data : Mem)
    (dataLen : Int) : RootKept s (updateUidPacket P cmd data dataLen s) := by
  unfold updateUidPacket
  dsimp only
  split
  · exact .of_view (rootView_refuse (by decide) s)
  · rcases updateBlockNum_updateUidCmd P hmap _ _ _ _ with ⟨-, hview⟩ | ⟨hkept, -⟩
    · exact .of_view hview
    · exact hkept

/-- An answer with new tables. -/
theorem rootKept_updated {t : Tables} {m : Mem} (h : NotCleartext s.toControl)
    (hmap : MapBytes s.tables → MapBytes t) :
    RootKept s (finishCommandResp .okay { s with cmdData := m, tables := t }) := by
  refine .of_tables (t := t) (.of_view ?_) hmap
  refine (rootView_finishCommandResp _ _ (.inr ?_)).trans rfl
  exact h

/-- The end of an update: `uid_map` is set, or the old block is written, which is not the root
    page either. -/
theorem rootKept_updateUidCmdWriteFinished (h : NotCleartext s.toControl) :
    RootKept s (updateUidCmdWriteFinished P s) := by
  unfold updateUidCmdWriteFinished
  dsimp only
  generalize Mem.put32 s.cmdData CmdData.updateUidWriteCount _ = m
  have hinfo : ∀ i info, MapBytes s.tables → MapBytes (s.tables.setInfo i info) := fun _ _ h => h
  split
  · have hfirst := hinfo (m.get32 CmdData.updateUidBlockNum)
      (BlockInfo.get m CmdData.updateUidBlkInfo)
    generalize s.tables.setInfo _ _ = tbl at hfirst ⊢
    split
    · rename_i hmoved
      refine .of_tables ?_ hfirst
      exact (rootKept_flashWritePage hmoved.2 _ _ (source_ne_rootPage _ (by decide))).after rfl
    · exact rootKept_updated h fun hbytes => MapBytes.setUid (hfirst hbytes) _ _
  · exact rootKept_updated h fun hbytes => MapBytes.setUid (hinfo _ _ hbytes) _ _

theorem updateBlockNum_updateUidCmdWriteFinished (s : Dev) :
    updateBlockNum (updateUidCmdWriteFinished P s) = updateBlockNum s := by
  unfold updateBlockNum updateUidCmdWriteFinished
  dsimp only
  generalize hm : Mem.put32 s.cmdData CmdData.updateUidWriteCount _ = m
  have hnum : m.get32 CmdData.updateUidBlockNum = s.cmdData.get32 CmdData.updateUidBlockNum := by
    rw [← hm]
    exact Mem.get32_put32_disjoint _ _ (.inr (by decide))
  rw [← hnum]
  split
  · split
    · rw [cmdData_flashWritePage]
      refine Mem.get32_congr fun i hi => Scratch.toCmdData_apply_of_lt _ m ?_ ?_
      · change 28 + i < 44
        omega
      · change 28 + i < 36
        omega
    · rfl
  · rfl

/-! ### Startup -/

theorem mapBytes_scanEnts (pages : Nat → Mem) (i : Nat) (js : List Nat) {r : Scan}
    (h : MapBytes r.tables) : MapBytes (scanEnts P pages i js r).tables := by
  induction js generalizing r with
  | nil => exact h
  | cons j js ih =>
    unfold scanEnts
    dsimp only
    split
    · split
      · have hrevision : ∀ older : Nat, MapBytes
            (if ((uidTbl (pages i) j).rev + 1) % 4 = older then
              r.tables.setUid (uidTbl (pages i) j).uid i else r.tables) := by
          intro older
          split
          · exact h.setUid _ _
          · exact h
        exact hrevision _
      · exact ih (h.setUid _ _)
    · exact ih h

theorem mapBytes_scanBlocks (pages : Nat → Mem) (is : List Nat) {r : Scan}
    (h : MapBytes r.tables) : MapBytes (scanBlocks P pages is r).tables := by
  induction is generalizing r with
  | nil => exact h
  | cons i is ih =>
    have hinfo : ∀ info, MapBytes (r.tables.setInfo i info) := fun _ => h
    unfold scanBlocks
    dsimp only
    split
    · have hents := mapBytes_scanEnts P pages i
        (List.range (scanInfo P (pages i) (r.tables.blockInfoTbl i)).partOccupancy)
        (r := { r with tables := r.tables.setInfo i _ }) (hinfo (scanInfo P (pages i)
          (r.tables.blockInfoTbl i)))
      split
      · exact hents
      · exact ih hents
    · exact ih (hinfo _)

theorem mapBytes_scanPages (pages : Nat → Mem) (scratch : Scratch) (h : MapBytes tbl) :
    MapBytes (scanPages P pages tbl scratch).tables := by
  unfold scanPages
  refine mapBytes_scanBlocks P pages dataBlocks fun u => ?_
  change (if _ then INVALID_BLOCK else tbl.uidMap u) < 256
  split
  · exact invalidBlock_lt
  · exact h u

/-- The startup scan repairs no root page. -/
theorem rootKept_db2StartupScan (blockOff infoOff : Nat) (s : Dev) :
    RootKept s (db2StartupScan P blockOff infoOff s).2 := by
  have hmap := @mapBytes_scanPages P s.tables (block P s)
    (Scratch.ofCmdData s.cmdData blockOff infoOff)
  unfold db2StartupScan
  dsimp only
  generalize scanPages P (block P s) s.tables _ = r at hmap ⊢
  split
  · exact .of_tables (.of_view rfl) hmap
  · dsimp only
    split
    · rename_i hb
      refine .of_tables (RootKept.after (rootKept_flashWritePage hb _ _ ?_) rfl) hmap
      exact source_ne_rootPage _ (by decide)
    · exact .of_tables (.of_view rfl) hmap

theorem rootKept_startupCmdIter (h : NotCleartext s.toControl) :
    RootKept s (startupCmdIter P s) := by
  have hfinish : ∀ (resp : CommandResponse) (payload : Bytes) (t : Dev),
      t.toControl = s.toControl → rootView (finishCommand resp payload t) = rootView t := by
    intro resp payload t hctl
    refine rootView_finishCommand _ _ t (.inr ?_)
    rw [hctl]
    exact h
  unfold startupCmdIter
  dsimp only
  split
  · exact .of_view (hfinish _ _ s rfl)
  · split
    · split
      · have hscan := (rootKept_db2StartupScan P CmdData.startupBlock CmdData.startupBlkInfo
          { s with dbVersion := s.rootPage RootPage.dbVersion }).after (s := s) rfl
        have hctl := toControl_db2StartupScan P
          { s with dbVersion := s.rootPage RootPage.dbVersion }
          CmdData.startupBlock CmdData.startupBlkInfo
        generalize db2StartupScan P CmdData.startupBlock CmdData.startupBlkInfo _ =
          r at hscan hctl ⊢
        split
        · exact hscan.before (hfinish _ _ _ hctl)
        · exact hscan
      · exact .of_view ((hfinish _ _ _ rfl).trans rfl)
    · exact .of_view (hfinish _ _ s rfl)

/-- STARTUP reads the root page from flash. -/
theorem rootKept_startupCmd (h : NotCleartext s.toControl) :
    RootKept (cmdInit P s) (startupCmd P s) := by
  unfold startupCmd
  dsimp only
  generalize ht : (if s.deviceState ≠ .disconnected then
      { endLongButtonPressWait (endButtonPressWait s) with activeCmd := none } else s) = t
  have hinit : rootView (cmdInit P t) = rootView (cmdInit P s) := by
    rw [← ht]
    split
    · rfl
    · rfl
  have hnot : NotCleartext (cmdInit P t).toControl := by
    rw [← ht]
    split
    · exact ⟨nofun, nofun⟩
    · exact h
  generalize cmdInit P t = t at hinit hnot ⊢
  have hiter : ∀ st : DeviceState, RootKept (cmdInit P s) (startupCmdIter P
      { enterState st t with headerVersion := (enterState st t).rootPage RootPage.signature }) := by
    intro st
    have hent := hnot.entered st
    refine RootKept.after (rootKept_startupCmdIter P hent) ?_
    exact ((rootView_enterState st t).trans hinit)
  split
  · exact hiter .uninitialized
  · exact hiter .loggedOut

end SignetBase.Firmware
