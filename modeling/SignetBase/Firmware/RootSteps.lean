/-
  SignetBase/Firmware/RootSteps.lean
  ==================================
  **What a step does to the root page.**

  The functions that write the root page keep its slots for passwords, all but a confirmed
  WRITE_CLEARTEXT_PASSWORD (`RootSaved`).  From that and from the lemmas about all others
  follows what a packet, a completion and any other event do to it.
-/
import SignetBase.Firmware.RootPage

namespace SignetBase.Firmware

open Control

variable (P : Platform)

variable {s s' s₁ : Dev}

/-! ### Writing the root page -/

/-- AES makes no more than a block of a block. -/
def AesFits : Prop :=
  ∀ key blk, blk.length ≤ AES_BLK_SIZE → (P.aes256Encrypt key blk).length ≤ AES_BLK_SIZE

variable {P} in
theorem length_cbc_le (hP : AesFits P) (key : Bytes) (n : Nat) (iv : Option Bytes) (din : Bytes) :
    (cbcEncrypt (P.aes256Encrypt key) n iv din).length ≤ n * AES_BLK_SIZE := by
  induction n generalizing iv din with
  | zero => exact Nat.zero_le _
  | succ n ih =>
    have hblk : (xorBlock (din.take AES_BLK_SIZE) iv).length ≤ AES_BLK_SIZE := by
      have htake : (din.take AES_BLK_SIZE).length ≤ AES_BLK_SIZE := List.length_take_le _ _
      cases iv with
      | none => exact htake
      | some mask =>
        refine Nat.le_trans ?_ htake
        unfold xorBlock
        dsimp only
        rw [List.length_zipWith]
        exact Nat.min_le_left _ _
    have hhead := hP key _ hblk
    have htail := ih (some (P.aes256Encrypt key (xorBlock (din.take AES_BLK_SIZE) iv)))
      (din.drop AES_BLK_SIZE)
    unfold cbcEncrypt
    dsimp only
    rw [List.length_append, Nat.succ_mul]
    omega

/-- A request to write the root page as it is in RAM. -/
structure RootRequest (r : FlashRequest) : Prop where
  dest : r.dest = idBlk 0
  src : r.src = some ⟨.rootPage, 0⟩
  length : r.held.length = RootPage.size

/-- The root page is asked to be written. -/
structure RootAsked (s s' : Dev) : Prop where
  map : MapBytes s.tables → MapBytes s'.tables
  okays : s'.outputs.filter Output.isCleartextOkay = s.outputs.filter Output.isCleartextOkay
  flash : s'.flash = s.flash
  request : ∃ r, RootRequest r ∧ Asked s s' r

theorem RootAsked.after (h : RootAsked s₁ s') (hm : MapBytes s.tables → MapBytes s₁.tables)
    (ho : s₁.outputs.filter Output.isCleartextOkay = s.outputs.filter Output.isCleartextOkay)
    (hv : flashView s₁ = flashView s) : RootAsked s s' where
  map hbytes := h.map (hm hbytes)
  okays := h.okays.trans ho
  flash := h.flash.trans (flash_of_view hv)
  request := by
    obtain ⟨r, hr, hreq⟩ := h.request
    exact ⟨r, hr, hreq.after hv⟩

theorem rootAsked_flashWritePage (s : Dev) :
    RootAsked s (flashWritePage (idBlk 0) (some ⟨.rootPage, 0⟩) RootPage.size s) := by
  have hlen : (heldBytes (some ⟨.rootPage, 0⟩) RootPage.size s).length = RootPage.size :=
    (length_heldBytes _ _ s).trans (by decide)
  generalize (RootPage.size : Int) = count at hlen ⊢
  have hreq : ∀ started, RootRequest
      ⟨idBlk 0, some ⟨.rootPage, 0⟩, heldBytes (some ⟨.rootPage, 0⟩) count s, started⟩ :=
    fun _ => ⟨rfl, rfl, hlen⟩
  unfold flashWritePage
  split
  · exact ⟨id, rfl, rfl, _, hreq true, rfl, fun _ => ‹_›⟩
  · exact ⟨id, rfl, rfl, _, hreq false, rfl, nofun⟩

/-- The bytes of the page from the slots on are left alone. -/
def SlotsKept (m m' : Mem) : Prop :=
  ∀ a, RootPage.cleartextPasswords ≤ a → a < RootPage.size → m' a = m a

/-- The root page is left alone, or written with the slots as they were. -/
inductive RootSaved (s s' : Dev) : Prop
  | kept : RootKept s s' → RootSaved s s'
  | asked : SlotsKept s.rootPage s'.rootPage → RootAsked s s' → RootSaved s s'

theorem RootSaved.after (h : RootSaved s₁ s') (hv : rootView s₁ = rootView s) :
    RootSaved s s' := by
  rcases h with h | ⟨hslots, h⟩
  · exact .kept (h.after hv)
  · refine .asked ?_ (h.after ?_ (okays_of_view hv) (flashView_of_view hv))
    · rw [← rootPage_of_view hv]
      exact hslots
    · rw [tables_of_view hv]
      exact id

theorem RootSaved.map (h : RootSaved s s') : MapBytes s.tables → MapBytes s'.tables := by
  rcases h with h | ⟨-, h⟩
  · exact h.map
  · exact h.map

theorem SlotsKept.trans {m m' m'' : Mem} (h : SlotsKept m m') (h' : SlotsKept m' m'') :
    SlotsKept m m'' := fun a ha ha' => (h' a ha ha').trans (h a ha ha')

theorem slotsKept_copy {off n : Nat} (m src : Mem) (srcOff : Nat)
    (hoff : off + n ≤ RootPage.cleartextPasswords) : SlotsKept m (m.copy off src srcOff n) :=
  fun _ ha _ => Mem.copy_apply_of_notMem _ _ (.inr (Nat.le_trans hoff ha))

theorem slotsKept_write {off : Nat} (m : Mem) (bs : Bytes)
    (hoff : off + bs.length ≤ RootPage.cleartextPasswords) : SlotsKept m (m.write off bs) :=
  fun _ ha _ => Mem.write_apply_of_notMem _ (.inr (Nat.le_trans hoff ha))

section Pages

variable {P}

theorem slotsKept_encrypt (hP : AesFits P) (key din : Bytes) (m : Mem) {off : Nat}
    (hoff : off + AES_256_KEY_SIZE ≤ RootPage.cleartextPasswords) :
    SlotsKept m (m.write off
      (stmAes256EncryptCbc P key (AES_256_KEY_SIZE / AES_BLK_SIZE) none din)) := by
  have hlen := length_cbc_le hP key (AES_256_KEY_SIZE / AES_BLK_SIZE) none din
  have hn : AES_256_KEY_SIZE / AES_BLK_SIZE * AES_BLK_SIZE = AES_256_KEY_SIZE := by decide
  refine slotsKept_write _ _ ?_
  unfold stmAes256EncryptCbc
  omega

theorem slotsKept_initialRootPage (hP : AesFits P) (m r : Mem) :
    SlotsKept r (initialRootPage P m r) := by
  unfold initialRootPage
  refine SlotsKept.trans ?_ (slotsKept_copy _ _ _ (by decide))
  refine SlotsKept.trans ?_ (slotsKept_copy _ _ _ (by decide))
  refine SlotsKept.trans ?_ (slotsKept_encrypt hP _ _ _ (by decide))
  refine SlotsKept.trans ?_ (slotsKept_encrypt hP _ _ _ (by decide))
  refine SlotsKept.trans ?_ (slotsKept_copy _ _ _ (by decide))
  refine SlotsKept.trans ?_ (slotsKept_copy _ _ _ (by decide))
  exact slotsKept_write _ _ (by decide)

theorem slotsKept_changedRootPage (hP : AesFits P) (s : Dev) :
    SlotsKept s.rootPage (changedRootPage P s) := by
  unfold changedRootPage
  refine SlotsKept.trans ?_ (slotsKept_copy _ _ _ (by decide))
  refine SlotsKept.trans ?_ (slotsKept_encrypt hP _ _ _ (by decide))
  refine SlotsKept.trans ?_ (slotsKept_encrypt hP _ _ _ (by decide))
  exact slotsKept_copy _ _ _ (by decide)

/-- The end of INITIALIZE makes up a root page with the slots as they are in RAM. -/
theorem rootSaved_finalizeRootPageCheck (hP : AesFits P) (s : Dev) :
    RootSaved s (finalizeRootPageCheck P s) := by
  unfold finalizeRootPageCheck
  split
  · dsimp only
    generalize hs₁ : ({ s with
      cmdData := s.cmdData.put32 CmdData.initDataRootBlockFinalized 1
      rootPage := s.rootPage.write RootPage.signature rootSignature } : Dev) = s₁
    have hslots₁ : SlotsKept s.rootPage s₁.rootPage := by
      rw [← hs₁]
      exact slotsKept_write _ _ (by decide)
    have hview₁ : s₁.tables = s.tables ∧ s₁.outputs = s.outputs ∧ flashView s₁ = flashView s := by
      rw [← hs₁]
      exact ⟨rfl, rfl, rfl⟩
    have hfill := rootView_randFill Nat.xor CmdData.initDataRand (INIT_RAND_DATA_SZ / 4) s₁
    generalize randFill Nat.xor CmdData.initDataRand (INIT_RAND_DATA_SZ / 4) s₁ = s₂ at hfill ⊢
    refine .asked ?_ ((rootAsked_flashWritePage _).after ?_ ?_ ?_)
    · rw [rootPage_flashWritePage]
      refine hslots₁.trans ?_
      rw [← rootPage_of_view hfill]
      exact slotsKept_initialRootPage hP _ _
    · intro hmap
      change MapBytes s₂.tables
      rw [tables_of_view hfill, hview₁.1]
      exact hmap
    · refine (okays_of_view hfill).trans ?_
      rw [hview₁.2.1]
    · exact (flashView_of_view hfill).trans hview₁.2.2
  · exact .kept (.of_view rfl)

theorem rootView_writeProgress (s : Dev) (m : Mem) (level : Nat → Int) :
    rootView (getProgressCheck { s with cmdData := m, progressLevel := level }) = rootView s :=
  (rootView_getProgressCheck _).trans rfl

theorem rootSaved_initializingWriteComplete (hP : AesFits P) (s : Dev) :
    RootSaved s (initializingWriteComplete P s) := by
  unfold initializingWriteComplete
  dsimp only
  generalize hs₁ : getProgressCheck _ = s₁
  have hview : rootView s₁ = rootView s := by
    rw [← hs₁]
    exact rootView_writeProgress s _ _
  split
  · exact .kept ((rootKept_writeInitialBlock P _ s₁).after hview)
  · split
    · exact (rootSaved_finalizeRootPageCheck hP s₁).after hview
    · have hscan := (rootKept_db2StartupScan P CmdData.initDataBlock CmdData.initDataBlkInfo
        { s₁ with headerVersion := 2, dbVersion := 2 }).after (s := s) hview
      generalize db2StartupScan P CmdData.initDataBlock CmdData.initDataBlkInfo _ = r at hscan ⊢
      split
      · exact .kept (hscan.before (rootView_enterState _ _))
      · exact .kept (hscan.before (rootView_enterState _ _))

theorem rootSaved_initializingRandUpdate (hP : AesFits P) (s : Dev) :
    RootSaved s (initializingRandUpdate P s) := by
  unfold initializingRandUpdate
  dsimp only
  refine (rootSaved_finalizeRootPageCheck hP _).after ?_
  split
  · exact rootView_writeProgress s _ _
  · rfl

theorem rootView_commandRandUpdate (s : Dev) : rootView (commandRandUpdate P s) = rootView s := by
  unfold commandRandUpdate
  split
  · rename_i hcmd
    exact rootView_getRandBitsCmdCheck (.of_active hcmd (by decide) (by decide))
  · rename_i hcmd
    exact rootView_loginCmdIter P (.of_active hcmd (by decide) (by decide))
  · rfl

theorem RootSaved.before (h : RootSaved s s₁) (hv : rootView s' = rootView s₁) :
    RootSaved s s' := by
  rcases h with h | ⟨hslots, h⟩
  · exact .kept (h.before hv)
  · refine .asked ?_ ⟨?_, (okays_of_view hv).trans h.okays,
      (flash_of_view (flashView_of_view hv)).trans h.flash, ?_⟩
    · rw [rootPage_of_view hv]
      exact hslots
    · rw [tables_of_view hv]
      exact h.map
    · obtain ⟨r, hr, hreq⟩ := h.request
      exact ⟨r, hr, hreq.before (flashView_of_view hv)⟩

theorem rootSaved_cmdRandUpdate (hP : AesFits P) (s : Dev) : RootSaved s (cmdRandUpdate P s) := by
  unfold cmdRandUpdate
  refine RootSaved.before ?_ (rootView_commandRandUpdate _)
  split
  · exact rootSaved_initializingRandUpdate hP s
  · exact .kept (.of_view rfl)

end Pages

/-! ### Completions -/

/-- A completion that is taken for a command other than WRITE_CLEARTEXT_PASSWORD. -/
theorem rootKept_commandWriteComplete (h : s.activeCmd ≠ some .writeCleartextPassword) :
    RootKept s (commandWriteComplete P s) := by
  have hokay : ∀ {cmd : Command}, s.activeCmd = some cmd → cmd ≠ .readCleartextPassword →
      cmd ≠ .writeCleartextPassword → RootKept s (finishCommandResp .okay s) := by
    intro cmd hcmd hread hwrite
    exact .of_view (rootView_finishCommandResp _ s (.inr (.of_active hcmd hread hwrite)))
  unfold commandWriteComplete
  split
  · exact absurd ‹_› h
  · exact hokay ‹_› (by decide) (by decide)
  · exact hokay ‹_› (by decide) (by decide)
  · exact hokay ‹_› (by decide) (by decide)
  · exact hokay ‹_› (by decide) (by decide)
  · exact rootKept_updateUidCmdWriteFinished P (.of_active ‹_› (by decide) (by decide))
  · exact rootKept_updateUidCmdWriteFinished P (.of_active ‹_› (by decide) (by decide))
  · exact rootKept_startupCmdIter P (.of_active ‹_› (by decide) (by decide))
  · exact .of_view rfl

/-- A completion, taken for a command or for INITIALIZE. -/
theorem rootSaved_flashWriteComplete (hP : AesFits P) (hop : OperationInv s.toControl)
    (h : s.activeCmd ≠ some .writeCleartextPassword) (hwipe : s.deviceState ≠ .wiping)
    (herase : s.deviceState ≠ .erasingPages) : RootSaved s (flashWriteComplete P s) := by
  unfold flashWriteComplete
  cases hst : stateOperation s.deviceState with
  | none =>
    rw [stateWriteComplete_of_none P hst]
    exact .kept (rootKept_commandWriteComplete P h)
  | some op =>
    have hno : commandOperation s.activeCmd = none := hop.running (by simp [hst])
    rw [commandWriteComplete_of_none P (commandOperation_stateWriteComplete P hno)]
    unfold stateWriteComplete
    split
    · exact rootSaved_initializingWriteComplete hP s
    · exact absurd ‹_› hwipe
    · exact absurd ‹_› herase
    · exact .kept (.of_view rfl)

/-- WRITE_CLEARTEXT_PASSWORD is answered when the page is written. -/
theorem flashWriteComplete_cleartext (hop : OperationInv s.toControl)
    (h : s.activeCmd = some .writeCleartextPassword) :
    flashWriteComplete P s = finishCommandResp .okay s := by
  have hst : stateOperation s.deviceState = none := by
    refine hop.command ?_
    rw [h]
    nofun
  unfold flashWriteComplete
  rw [stateWriteComplete_of_none P hst]
  unfold commandWriteComplete
  rw [h]

/-! ### The driver -/

/-- The chip reports an error to the driver. -/
def DriverFails (s : Dev) : Event → Prop
  | .flashHandler eop => s.flashState = .erasing ∧ eop = false
  | .flashIdle err => s.flashState = .writing ∧ (programLoop 32 err s).1 = true
  | _ => False

theorem flashState_programLoop (n : Nat) (err : Option Nat) (s : Dev) :
    (programLoop n err s).2.flashState = s.flashState := by
  have hword : ∀ s, (programDoubleWord s).flashState = s.flashState := by
    intro s
    unfold programDoubleWord
    split
    · rfl
    · rfl
  induction n generalizing err s with
  | zero => rfl
  | succ n ih =>
    unfold programLoop
    split
    · rfl
    · dsimp only
      split
      · exact hword s
      · exact (ih _ _).trans (hword s)

/-- The driver touches its own state only, until it is done. -/
theorem completion_frame {e : Event} (h : completion s e = some s₁) :
    ∃ d, s₁ = { s with toFlashDriver := d } := by
  unfold completion at h
  split at h
  · split at h
    · cases h
      exact ⟨_, rfl⟩
    · cases h
  · split at h
    · cases h
      rw [programLoop_frame]
      exact ⟨_, rfl⟩
    · cases h
  · cases h

theorem step_of_completion {e : Event} (h : completion s e = some s₁) :
    step P s e = flashWriteComplete P s₁ := by
  unfold completion at h
  split at h
  · split at h
    · rename_i hcond
      cases h
      have hno : ¬ (pageErased s).flashWriteData.isSome = true := by
        rw [show (pageErased s).flashWriteData = none from hcond.2.2]
        exact Bool.false_ne_true
      unfold step
      rw [if_neg (by simp [hcond.1])]
      dsimp only
      unfold flashHandler
      rw [if_pos hcond.2.1, if_pos rfl]
      exact if_neg hno
    · cases h
  · split at h
    · rename_i err hcond
      cases h
      obtain ⟨hh, hst, hfail, hcount⟩ := hcond
      unfold step
      rw [if_neg (by simp [hh])]
      dsimp only
      unfold flashIdle
      rw [if_pos hst]
      generalize programLoop 32 err s = r at hfail hcount ⊢
      dsimp only
      rw [if_neg (by simp [hfail]), if_pos hcount]
    · cases h
  · cases h

/-- An event of the driver that completes nothing. -/
theorem driver_frame {e : Event} (he : e.isFlash = true) (hno : completion s e = none) :
    ∃ d, step P s e = { s with toFlashDriver := d } ∧
        (s.flashState ≠ .idle → (step P s e).flashState ≠ .idle) ∨
      DriverFails s e ∧ step P s e = flashWriteFailed { s with toFlashDriver := d } := by
  cases hh : s.hung with
  | true =>
    rw [step_hung P hh]
    exact ⟨_, .inl ⟨rfl, id⟩⟩
  | false =>
    have hnot : ¬ s.hung = true := by simp [hh]
    cases e with
    | flashHandler eop =>
      have hstep : step P s (.flashHandler eop) = flashHandler P eop s := if_neg hnot
      rw [hstep]
      unfold flashHandler
      split
      · rename_i hst
        cases eop with
        | false => exact ⟨_, .inr ⟨⟨hst, rfl⟩, rfl⟩⟩
        | true =>
          have hdata : s.flashWriteData ≠ none := by
            intro hnone
            unfold completion at hno
            simp [hh, hst, hnone] at hno
          have hsome : (pageErased s).flashWriteData.isSome = true :=
            Option.isSome_iff_ne_none.mpr hdata
          simp only [if_true, hsome]
          exact ⟨_, .inl ⟨rfl, fun _ => nofun⟩⟩
      · exact ⟨_, .inl ⟨rfl, id⟩⟩
    | flashIdle err =>
      have hstep : step P s (.flashIdle err) = flashIdle P err s := if_neg hnot
      have hframe := programLoop_frame 32 err s
      have hstate := flashState_programLoop 32 err s
      rw [hstep]
      unfold flashIdle
      split
      · rename_i hst
        dsimp only
        split
        · rename_i hfailed
          rw [hframe]
          exact ⟨_, .inr ⟨⟨hst, hfailed⟩, rfl⟩⟩
        · rename_i hfailed
          split
          · rename_i hzero
            unfold completion at hno
            simp [hh, hst, hfailed, hzero] at hno
          · refine ⟨(programLoop 32 err s).2.toFlashDriver, .inl ⟨hframe, fun h => ?_⟩⟩
            rw [hstate]
            exact h
      · exact ⟨_, .inl ⟨rfl, id⟩⟩
    | _ => cases he

/-! ### Presses -/

theorem rootKept_buttonPressed (h : NotCleartext s.toControl)
    (hupdate : s.activeCmd = some .updateUid → updateBlockNum s ≠ 0) :
    RootKept s (buttonPressed P s) := by
  unfold buttonPressed
  split
  · exact absurd ‹_› h.read
  · exact absurd ‹_› h.write
  · split
    · dsimp only
      split
      · refine .of_view ((rootView_loginCmdIter P ?_).trans rfl)
        exact h
      · exact .of_view (rootView_loginPressed _ h)
    · exact .of_view (rootView_refuse (by decide) s)
  · split
    · exact .of_view (rootView_loginPressed _ h)
    · exact .of_view rfl
  · exact rootKept_updateUidCmdComplete P (hupdate ‹_›)
  · exact .of_view (rootView_readUidCmdComplete P h)
  · exact .of_view (rootView_finishCommandResp _ s (.inr h))
  · exact .of_view rfl

theorem rootSaved_longButtonPressed (hP : AesFits P) (hwipe : s.activeCmd ≠ some .wipe)
    (hupdate : s.activeCmd = some .updateUids → updateBlockNum s ≠ 0) :
    RootSaved s (longButtonPressed P s) := by
  have hokay : ∀ {cmd : Command}, s.activeCmd = some cmd → cmd ≠ .readCleartextPassword →
      cmd ≠ .writeCleartextPassword → rootView (finishCommandResp .okay s) = rootView s := by
    intro cmd hcmd hread hwrite
    exact rootView_finishCommandResp _ s (.inr (.of_active hcmd hread hwrite))
  unfold longButtonPressed
  split
  · exact .kept (.of_view (rootView_readAllUidsCmdIter P (.of_active ‹_› (by decide) (by decide))))
  · exact .kept (rootKept_updateUidCmdComplete P (hupdate ‹_›))
  · exact .kept (.of_view ((rootView_enterState _ _).trans (hokay ‹_› (by decide) (by decide))))
  · exact absurd ‹_› hwipe
  · refine .kept (.of_view ((rootView_enterState _ _).trans ?_))
    exact hokay ‹_› (by decide) (by decide)
  · exact .kept (.of_view ((rootView_enterState _ _).trans (hokay ‹_› (by decide) (by decide))))
  · exact .kept (rootKept_initializeCmdComplete P (.of_active ‹_› (by decide) (by decide)))
  · split
    · refine .asked ?_ ((rootAsked_flashWritePage _).after id rfl rfl)
      rw [rootPage_flashWritePage]
      exact slotsKept_changedRootPage hP s
    · exact .kept (.of_view (rootView_refuse (by decide) s))
  · exact .kept (.of_view rfl)

/-! ### Packets -/

section Packets

variable {cmd : Command} {data : Mem} {dataLen : Int}

theorem rootKept_progressOnlyState (h : progressOnlyState cmd data dataLen s = .handled s') :
    RootKept s s' := by
  unfold progressOnlyState at h
  split at h
  · cases h
    exact .of_view (rootView_getProgressCmd data dataLen s)
  · cases h

theorem rootView_getDeviceCapacityCmd (h : NotCleartext s.toControl) :
    rootView (getDeviceCapacityCmd s) = rootView s :=
  rootView_finishCommand _ _ s (.inr h)

theorem rootKept_uninitializedState (hactive : s.activeCmd = some cmd)
    (h : uninitializedState P cmd data dataLen s = .handled s') : RootKept s s' := by
  unfold uninitializedState at h
  split at h
  · cases h
    exact .of_view (rootView_getProgressCmd data dataLen s)
  · cases h
    exact .of_view rfl
  · cases h
    exact .of_view (rootView_initializeCmd data dataLen s)
  · cases h
    exact .of_view (rootView_getDeviceCapacityCmd (.of_active hactive (by decide) (by decide)))
  · cases h
    exact .of_view (rootView_enterMobileModeCmd s)
  · split at h
    · cases h
      exact .of_view rfl
    · cases h
      exact .of_view (rootView_refuse (by decide) s)
  · cases h

theorem rootKept_loggedOutState (hactive : s.activeCmd = some cmd)
    (h : loggedOutState P cmd data dataLen s = .handled s') : RootKept s s' := by
  unfold loggedOutState at h
  split at h
  · cases h
    exact .of_view (rootView_getProgressCmd data dataLen s)
  · cases h
    exact .of_view (rootView_changeMasterPasswordCmd P data dataLen s)
  · cases h
    exact .of_view (rootView_initializeCmd data dataLen s)
  · cases h
    exact .of_view rfl
  · cases h
    exact .of_view rfl
  · cases h
    exact .of_view rfl
  · cases h
    exact .of_view (rootView_loginCmd data dataLen s)
  · cases h
    exact .of_view (rootView_loginTokenCmd data dataLen s)
  · cases h
    exact .of_view (rootView_getDeviceCapacityCmd (.of_active hactive (by decide) (by decide)))
  · cases h
    exact .of_view (rootView_enterMobileModeCmd s)
  · cases h

theorem rootView_readUidPacket (h : NotCleartext s.toControl) :
    rootView (readUidPacket P data dataLen s) = rootView s := by
  unfold readUidPacket
  split
  · exact rootView_refuse (by decide) s
  · exact rootView_readUidCmd P _ _ h

theorem rootView_readAllUidsPacket (h : NotCleartext s.toControl) :
    rootView (readAllUidsPacket P data dataLen s) = rootView s := by
  unfold readAllUidsPacket
  split
  · exact rootView_refuse (by decide) s
  · exact rootView_readAllUidsCmd P _ h

theorem rootKept_loggedInState (hmap : MapBytes s.tables) (hactive : s.activeCmd = some cmd)
    (h : loggedInState P cmd data dataLen s = .handled s') : RootKept s s' := by
  unfold loggedInState at h
  split at h
  · cases h
    exact .of_view (rootView_getProgressCmd data dataLen s)
  · cases h
    exact .of_view (rootView_changeMasterPasswordCmd P data dataLen s)
  · cases h
    exact .of_view rfl
  · cases h
    exact .of_view (rootView_getRandBitsCmd data dataLen
      (.of_active hactive (by decide) (by decide)))
  · cases h
    exact .of_view (rootView_readUidPacket P (.of_active hactive (by decide) (by decide)))
  · cases h
    exact rootKept_updateUidPacket P hmap .updateUids data dataLen
  · cases h
    exact rootKept_updateUidPacket P hmap .updateUid data dataLen
  · cases h
    exact .of_view (rootView_readAllUidsPacket P (.of_active hactive (by decide) (by decide)))
  · cases h
    exact .of_view (rootView_typeCmd data dataLen s)
  · cases h
    exact .of_view rfl
  · cases h
    have hnot : NotCleartext s.toControl := .of_active hactive (by decide) (by decide)
    have hent := hnot.entered .loggedOut
    exact .of_view ((rootView_finishCommandResp _ _ (.inr hent)).trans (rootView_enterState _ s))
  · cases h
    exact .of_view rfl
  · cases h
    exact .of_view (rootView_readCleartextPasswordNames
      (.of_active hactive (by decide) (by decide)))
  · cases h
    exact .of_view (rootView_readCleartextPassword data dataLen s)
  · cases h
    exact .of_view (rootView_writeCleartextPassword data dataLen s)
  · cases h

theorem rootKept_backingUpDeviceState (hactive : s.activeCmd = some cmd)
    (h : backingUpDeviceState P cmd data dataLen s = .handled s') : RootKept s s' := by
  unfold backingUpDeviceState at h
  split at h
  · cases h
    exact .of_view (rootView_readBlockCmd P data dataLen
      (.of_active hactive (by decide) (by decide)))
  · cases h
    have hnot : NotCleartext s.toControl := .of_active hactive (by decide) (by decide)
    have hent := hnot.entered s.backupPrevState
    exact .of_view ((rootView_finishCommandResp _ _ (.inr hent)).trans (rootView_enterState _ s))
  · cases h

/-- WRITE_BLOCK and ERASE_BLOCK are for another block. -/
theorem rootKept_restoringDeviceState (hactive : s.activeCmd = some cmd)
    (hblock : cmd = .writeBlock ∨ cmd = .eraseBlock → (data 0).toNat ≠ 0)
    (h : restoringDeviceState cmd data dataLen s = .handled s') : RootKept s s' := by
  unfold restoringDeviceState at h
  split at h
  · cases h
    exact rootKept_writeBlockCmd dataLen (hblock (.inl rfl)) s
  · cases h
    exact rootKept_eraseBlockCmd dataLen (hblock (.inr rfl)) s
  · cases h
    have hnot : NotCleartext s.toControl := .of_active hactive (by decide) (by decide)
    have hent := hnot.entered .disconnected
    exact .of_view ((rootView_finishCommandResp _ _ (.inr hent)).trans (rootView_enterState _ s))
  · cases h

theorem rootKept_stateFunction (hmap : MapBytes s.tables) (hactive : s.activeCmd = some cmd)
    (hblock : s.deviceState = .restoringDevice → cmd = .writeBlock ∨ cmd = .eraseBlock →
      (data 0).toNat ≠ 0)
    (hfirmware : s.deviceState ≠ .firmwareUpdate)
    (h : stateFunction P cmd data dataLen s = .handled s') : RootKept s s' := by
  unfold stateFunction at h
  split at h
  · exact rootKept_uninitializedState P hactive h
  · exact rootKept_progressOnlyState h
  · exact rootKept_progressOnlyState h
  · exact rootKept_backingUpDeviceState P hactive h
  · exact rootKept_restoringDeviceState hactive (hblock ‹_›) h
  · exact rootKept_progressOnlyState h
  · exact absurd ‹_› hfirmware
  · exact rootKept_loggedOutState P hactive h
  · exact rootKept_loggedInState P hmap hactive h
  · cases h
  · cases h
  · cases h

theorem rootView_countIteration (n : Nat) (s : Dev) :
    rootView (countIteration n s) = rootView s := by
  unfold countIteration
  split
  · rfl
  · rfl

/-- A packet touches the root page by STARTUP only, by a restore of its block, or in a firmware
    update. -/
theorem rootKept_received (hmap : MapBytes s.tables)
    (hblock : s.deviceState = .restoringDevice → packetCmd s.cmdPacketBuf = .writeBlock ∨
      packetCmd s.cmdPacketBuf = .eraseBlock → (s.cmdPacketBuf CMD_PACKET_HEADER_SIZE).toNat ≠ 0)
    (hfirmware : s.deviceState ≠ .firmwareUpdate) (hr : Received P s s') :
    RootKept s s' ∨
      packetCmd s.cmdPacketBuf = .startup ∧ RootKept (cmdInit P s) s' := by
  have hact : rootView (activate s) = rootView s := rfl
  cases hr with
  | disconnect _ => exact .inl (.of_view (rootView_cmdDisconnect s))
  | ignored _ _ _ => exact .inl (.of_view rfl)
  | canceled _ _ _ => exact .inl (.of_view ((rootView_refuse (by decide) _).trans rfl))
  | misfire _ _ => exact .inl (.of_view rfl)
  | startup hc =>
    have hnot : NotCleartext (activate s).toControl :=
      .of_active (congrArg some hc) (by decide) (by decide)
    exact .inr ⟨hc, (rootKept_startupCmd P hnot).after rfl⟩
  | getDeviceState hc =>
    have hnot : NotCleartext (activate s).toControl :=
      .of_active (congrArg some hc) (by decide) (by decide)
    exact .inl (.of_view ((rootView_finishCommand _ _ _ (.inr hnot)).trans hact))
  | tooLong _ _ => exact .inl (.of_view ((rootView_refuse (by decide) _).trans hact))
  | rejected _ _ _ =>
    refine .inl (.of_view ((rootView_countIteration _ _).trans ?_))
    exact (rootView_refuse (by decide) _).trans hact
  | handled _ _ hdisp =>
    unfold dispatch at hdisp
    refine .inl (RootKept.before (RootKept.after ?_ hact) (rootView_countIteration _ _))
    refine rootKept_stateFunction P hmap rfl ?_ hfirmware hdisp
    exact hblock

end Packets

/-! ### Other events -/

/-- What an event that is neither a packet nor the driver's does to the root page, other than a
    press that a cleartext password command waits for. -/
inductive RootTick (s : Dev) (e : Event) (s' : Dev) : Prop
  | view : rootView s' = rootView s → RootTick s e s'
  | pressed : NotCleartext s.toControl → RootSaved s s' → RootTick s e s'
  | word : s.deviceState = .initializing → RootSaved s s' → RootTick s e s'
  | cleartext : s.hung = false → Pressed s .short e → ¬ NotCleartext s.toControl → RootTick s e s'

/-- A long press for another command than WIPE. -/
theorem rootTick_buttonHeld (hP : AesFits P) (hh : s.hung = false)
    (hwipe : Pressed s .long .buttonHeld → s.activeCmd ≠ some .wipe)
    (hupdate : Pressed s .long .buttonHeld → s.activeCmd = some .updateUids →
      updateBlockNum s ≠ 0) : RootTick s .buttonHeld (step P s .buttonHeld) := by
  have hstep : step P s .buttonHeld = if s.buttonState then
      longButtonPress P { s with buttonState := false } else s := if_neg (by simp [hh])
  rw [hstep]
  split
  · rename_i hb
    unfold longButtonPress
    split
    · rename_i hw
      have hp : Pressed s .long .buttonHeld := ⟨rfl, hb, hw⟩
      generalize ht : endLongButtonPressWait { s with buttonState := false } = t
      have hview : rootView t = rootView s := by
        rw [← ht]
        rfl
      have hcmd : t.activeCmd = s.activeCmd := by
        rw [← ht]
        rfl
      have hnum : updateBlockNum t = updateBlockNum s := by
        rw [← ht]
        rfl
      by_cases hnot : NotCleartext s.toControl
      · refine .pressed hnot (RootSaved.after ?_ hview)
        refine rootSaved_longButtonPressed P hP ?_ ?_
        · rw [hcmd]
          exact hwipe hp
        · rw [hcmd, hnum]
          exact hupdate hp
      · have hnone : s.activeCmd.bind pressKind ≠ some .long := by
          intro hlong
          refine hnot ⟨fun h => ?_, fun h => ?_⟩
          · rw [h] at hlong
            cases hlong
          · rw [h] at hlong
            cases hlong
        rw [longButtonPressed_of_ne P (hcmd ▸ hnone)]
        exact .view hview
    · refine .view ?_
      split
      · exact (rootView_longButtonPressDisconnected P _).trans rfl
      · rfl
  · exact .view rfl

theorem rootTick_buttonDown (hh : s.hung = false)
    (hupdate : Pressed s .short .buttonDown → s.activeCmd = some .updateUid →
      updateBlockNum s ≠ 0) : RootTick s .buttonDown (step P s .buttonDown) := by
  have hstep : step P s .buttonDown = if s.buttonState then s
      else { buttonPress P s with buttonState := true } := if_neg (by simp [hh])
  rw [hstep]
  split
  · exact .view rfl
  · rename_i hb
    rw [Bool.not_eq_true] at hb
    unfold buttonPress
    split
    · rename_i hw
      have hp : Pressed s .short .buttonDown := ⟨rfl, hb, hw⟩
      by_cases hnot : NotCleartext s.toControl
      · have hkept := (rootKept_buttonPressed P (s := endButtonPressWait s) ⟨hnot.read, hnot.write⟩
          (hupdate hp)).after (s := s) rfl
        refine .pressed hnot (.kept (hkept.before ?_))
        rfl
      · exact .cleartext hh hp hnot
    · refine .view ?_
      split
      · rfl
      · split
        · rfl
        · rfl

/-- A random word. -/
theorem rootTick_word {e : Event} (hP : AesFits P) (hword : s₁.toControl = s.toControl)
    (hview : rootView s₁ = rootView s) : RootTick s e (cmdRandUpdate P s₁) := by
  by_cases hst : s.deviceState = .initializing
  · exact .word hst ((rootSaved_cmdRandUpdate hP s₁).after hview)
  · have hst₁ : s₁.deviceState ≠ .initializing := by
      rw [show s₁.deviceState = s.deviceState from congrArg Control.deviceState hword]
      exact hst
    refine .view ?_
    unfold cmdRandUpdate
    rw [if_neg hst₁]
    exact (rootView_commandRandUpdate s₁).trans hview

theorem rootTick (hP : AesFits P) {e : Event} (he : ∀ packet, e ≠ .hidRx packet)
    (hflash : e.isFlash = false) (hwipe : Pressed s .long e → s.activeCmd ≠ some .wipe)
    (hshort : Pressed s .short e → s.activeCmd = some .updateUid → updateBlockNum s ≠ 0)
    (hlong : Pressed s .long e → s.activeCmd = some .updateUids → updateBlockNum s ≠ 0) :
    RootTick s e (step P s e) := by
  cases hh : s.hung with
  | true =>
    rw [step_hung P hh]
    exact .view rfl
  | false =>
    have hnot : ¬ s.hung = true := by simp [hh]
    cases e with
    | hidRx packet => exact absurd rfl (he packet)
    | packetSent =>
      refine .view ?_
      unfold step
      rw [if_neg hnot]
      dsimp only
      split
      · unfold cmdPacketSent
        split
        · rename_i hcmd
          refine (rootView_readAllUidsCmdIter P ?_).trans rfl
          exact .of_active hcmd (by decide) (by decide)
        · rfl
      · rfl
    | buttonDown => exact rootTick_buttonDown P hh hshort
    | buttonUp =>
      refine .view ?_
      unfold step
      rw [if_neg hnot]
      dsimp only
      split
      · exact (rootView_buttonRelease s)
      · rfl
    | buttonHeld => exact rootTick_buttonHeld P hP hh hwipe hlong
    | blinkTimeout =>
      refine .view ?_
      unfold step
      rw [if_neg hnot]
      dsimp only
      split
      · exact (rootView_blinkTimeout _).trans rfl
      · rfl
    | timer =>
      refine .view ?_
      unfold step
      rw [if_neg hnot]
      dsimp only
      split
      · exact rootView_timerTimeout s
      · rfl
    | rtcWord w =>
      unfold step
      rw [if_neg hnot]
      exact rootTick_word P hP rfl rfl
    | rngWord w =>
      unfold step
      rw [if_neg hnot]
      exact rootTick_word P hP rfl rfl
    | flashHandler eop => cases hflash
    | flashIdle err => cases hflash
    | txKeyboard =>
      refine .view ?_
      unfold step
      rw [if_neg hnot]
      exact rootView_usbTxKeyboard s
    | keyboardIdle elapsed =>
      refine .view ?_
      unfold step
      rw [if_neg hnot]
      exact rootView_usbKeyboardIdle elapsed s

end SignetBase.Firmware
