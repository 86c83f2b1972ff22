/-
  SignetBase/Firmware/FlashRuns.lean
  ==================================
  **Undisturbed runs keep every flash write.**

  In such a run the busy driver works on the last request that was made
  (`Pending`), its source holds what it held at the call (`Working`), exactly one
  operation would take the completion (`handlers`), and what is written is what
  that operation is about to write (`RequestFor`).
-/
import SignetBase.Firmware.FlashIntegrity

namespace SignetBase.Firmware

open Control

variable (P : Platform)

variable {s s' s₀ s₁ : Dev} {r : FlashRequest} {i : Nat} {e : Event} {h : History Dev Event}
  {op : Operation}

/-! ### The invariant -/

/-- How far INITIALIZE has got: the data blocks written so far have no records. -/
structure InitProgress (s : Dev) : Prop where
  le : blocksWritten s ≤ NUM_DATA_BLOCKS
  blank : ∀ j < blocksWritten s, BlankPage (block P s (MIN_DATA_BLOCK + j))

/-- The request of INITIALIZE that is under way: the next data block, or behind the last
    one the root page. -/
inductive InitPending (s : Dev) (r : FlashRequest) : Prop
  | block : blocksWritten s < NUM_DATA_BLOCKS → InitialWrite (blocksWritten s) r →
      InitPending s r
  | root : blocksWritten s = NUM_DATA_BLOCKS → rootFinalized s → r.dest = idBlk 0 →
      r.src = some ⟨.rootPage, 0⟩ → r.held.length ≤ BLK_SIZE → InitPending s r

/-- The request that is under way is one of the operation's. -/
def RequestFor (s : Dev) (r : FlashRequest) : Operation → Prop
  | .init => InitPending s r
  | .wipe | .erasePages => r.src = none
  | .command _ => True

/-- What an undisturbed run keeps. -/
structure FlashInv (h : History Dev Event) (s : Dev) : Prop where
  init : s.deviceState = .initializing → InitProgress P s
  busy : s.flashState ≠ .idle → ∃ op r i, Pending P h op r ∧ Working s r i ∧
    s.toControl.handlers = [op] ∧ RequestFor s r op

/-! ### Pages -/

variable {P}

/-- A page has no records by the header alone. -/
theorem BlankPage.congr {page page' : Mem} (h : BlankPage page)
    (heq : ∀ a < BLK_SIZE, page' a = page a) : BlankPage page' := by
  have hfield : ∀ off, off + 2 ≤ BLK_SIZE → page'.get16 off = page.get16 off :=
    fun off hoff => Mem.get16_congr fun i hi => heq _ (by omega)
  rcases h with h | h
  · left
    unfold headerOccupancy at h ⊢
    rw [hfield _ (by decide)]
    exact h
  · right
    unfold headerPartSize at h ⊢
    rw [hfield _ (by decide)]
    exact h

theorem InitProgress.congr (hi : InitProgress P s) (hw : blocksWritten s' = blocksWritten s)
    (hflash : s'.flash = s.flash) : InitProgress P s' where
  le := by
    rw [hw]
    exact hi.le
  blank := by
    rw [hw, block_congr hflash]
    exact hi.blank

/-- The request under way spares the data blocks written so far. -/
theorem spares_written (hw : Working s r i) (hp : InitPending s r) {j a : Nat}
    (hj : j < blocksWritten s) (ha : a < BLK_SIZE) : r.spares (idBlk (MIN_DATA_BLOCK + j) + a) := by
  have hpage : pageAddr r.dest = r.dest := by
    cases hp with
    | block _ hi => rw [hi.dest, pageAddr_idBlk]
    | root _ _ hd _ _ => rw [hd, pageAddr_idBlk]
  have hout : idBlk (MIN_DATA_BLOCK + j) + a < r.dest ∨
      r.dest + BLK_SIZE ≤ idBlk (MIN_DATA_BLOCK + j) + a := by
    cases hp with
    | block _ hi =>
      left
      rw [hi.dest]
      simp only [BLK_SIZE] at ha
      simp only [idBlk, BLK_SIZE]
      omega
    | root _ _ hd _ _ =>
      right
      rw [hd]
      simp only [idBlk, BLK_SIZE, MIN_DATA_BLOCK]
      omega
  have hlen : r.held.length ≤ BLK_SIZE := by
    cases hp with
    | block _ hi =>
      rcases hi.contents with h | ⟨-, blk, h, -⟩
      · rw [(hw.erases h).2]
        exact Nat.zero_le _
      · rw [h, Mem.length_read]
    | root _ _ _ _ hlen => exact hlen
  unfold FlashRequest.spares
  rw [hpage]
  simp only [FLASH_PAGE_SIZE]
  simp only [BLK_SIZE] at hout hlen
  omega

/-- The driver leaves the data blocks written so far alone. -/
theorem InitProgress.driverMoves (hi : InitProgress P s) (hw : Working s r i)
    (hp : InitPending s r) (hm : DriverMoves r s s₁) : InitProgress P s₁ := by
  have hwritten : blocksWritten s₁ = blocksWritten s := by
    unfold blocksWritten
    rw [hm.cmdData]
  have hle := hi.le
  refine ⟨hwritten ▸ hle, ?_⟩
  rw [hwritten]
  intro j hj
  refine (hi.blank j hj).congr fun a ha => ?_
  have hid : MIN_DATA_BLOCK + j < NUM_STORAGE_BLOCKS := by
    simp only [NUM_DATA_BLOCKS, MAX_DATA_BLOCK, NUM_STORAGE_BLOCKS, MIN_DATA_BLOCK] at hle ⊢
    omega
  rw [block_apply hid ha, block_apply hid ha]
  exact hm.flash _ (spares_written hw hp hj ha)

/-- A data block of INITIALIZE that is completed has no records. -/
theorem blank_completed {n : Nat} (hn : n < NUM_DATA_BLOCKS) (hw : InitialWrite n r)
    (hread : s₁.flash.read r.dest r.held.length = r.held)
    (herased : r.src = none → ∀ a, pageAddr r.dest ≤ a → a < pageAddr r.dest + FLASH_PAGE_SIZE →
      s₁.flash a = 0xff) : BlankPage (block P s₁ (MIN_DATA_BLOCK + n)) := by
  have hid : MIN_DATA_BLOCK + n < NUM_STORAGE_BLOCKS := by
    simp only [NUM_DATA_BLOCKS, MAX_DATA_BLOCK, NUM_STORAGE_BLOCKS, MIN_DATA_BLOCK] at hn ⊢
    omega
  rcases hw.contents with hsrc | ⟨-, blk, hheld, hocc⟩
  · right
    have hbyte : ∀ a < BLK_SIZE, block P s₁ (MIN_DATA_BLOCK + n) a = 0xff := by
      intro a ha
      rw [block_apply hid ha]
      refine herased hsrc _ ?_ ?_
      · rw [hw.dest, pageAddr_idBlk]
        omega
      · rw [hw.dest, pageAddr_idBlk]
        simp only [BLK_SIZE] at ha
        simp only [FLASH_PAGE_SIZE]
        omega
    unfold headerPartSize Mem.get16
    rw [hbyte _ (by decide), hbyte _ (by decide)]
    decide
  · rw [hheld, Mem.length_read, hw.dest] at hread
    have hblank : BlankPage blk := .inl hocc
    refine hblank.congr fun a ha => ?_
    rw [block_apply hid ha, Mem.apply_of_read_eq hread ha, Nat.zero_add]

/-- With all data blocks written, none has records. -/
theorem InitProgress.allBlank (hi : InitProgress P s) (hall : blocksWritten s = NUM_DATA_BLOCKS) :
    AllBlank P s := by
  intro i hi'
  unfold dataBlocks at hi'
  obtain ⟨j, hj, rfl⟩ := List.mem_range'.mp hi'
  have hblank := hi.blank j (hall ▸ hj)
  rw [Nat.one_mul]
  exact hblank

/-! ### What a step does to the invariant -/

variable (P)

theorem newRequests_of_same (h : s'.flashRequests = s.flashRequests) : newRequests s s' = [] := by
  unfold newRequests
  rw [h, Nat.sub_self, List.take_zero]

theorem newRequests_of_asked (h : s'.flashRequests = r :: s.flashRequests) :
    newRequests s s' = [r] := by
  unfold newRequests
  rw [h, List.length_cons, Nat.add_sub_cancel_left]
  rfl

/-- A step makes no request and keeps the invariant of the run before it, or it makes one
    request, which an idle driver starts. -/
inductive FlashStep (h : History Dev Event) (s : Dev) (e : Event) (s' : Dev) : Prop
  | passes : s'.flashRequests = s.flashRequests → FlashInv P h s' → FlashStep h s e s'
  | asks (r : FlashRequest) (op : Operation) : s'.flashRequests = r :: s.flashRequests →
      r.started = true → Working s' r 0 → Issuer s e op →
      s'.toControl.handlers = [op] → RequestFor s' r op →
      (s'.deviceState = .initializing → InitProgress P s') → FlashStep h s e s'

theorem FlashStep.lodged (r : FlashRequest) (op : Operation) (hr : Lodged s s' r)
    (hissue : Issuer s e op) (hhand : s'.toControl.handlers = [op]) (hfor : RequestFor s' r op)
    (hinit : s'.deviceState = .initializing → InitProgress P s') : FlashStep P h s e s' :=
  .asks r op hr.requests hr.started hr.working hissue hhand hfor hinit

theorem FlashStep.started (hs : FlashStep P h s e s') : ∀ r ∈ newRequests s s', r.started = true := by
  cases hs with
  | passes hreq _ =>
    rw [newRequests_of_same hreq]
    exact nofun
  | asks r op hreq hstarted _ _ _ _ _ =>
    rw [newRequests_of_asked hreq]
    intro r' hr'
    rw [List.mem_singleton.mp hr']
    exact hstarted

theorem FlashStep.inv (hs : FlashStep P h s e (step P s e)) :
    FlashInv P ((s, e) :: h) (step P s e) := by
  cases hs with
  | passes hreq hi =>
    refine ⟨hi.init, fun hbusy => ?_⟩
    obtain ⟨op, r, i, hpend, hrest⟩ := hi.busy hbusy
    exact ⟨op, r, i, .waits (newRequests_of_same hreq) hbusy hpend, hrest⟩
  | asks r op hreq _ hwork hissue hhand hfor hinit =>
    exact ⟨hinit, fun _ => ⟨op, r, 0, .issued hissue (newRequests_of_asked hreq), hwork, hhand,
      hfor⟩⟩

theorem handlers_of_state (hst : stateOperation s.deviceState = some op) {op' : Operation}
    (h : s.toControl.handlers = [op']) : op' = op := by
  unfold Control.handlers at h
  rw [hst] at h
  exact (List.cons.inj h).1.symm

theorem command_of_handlers (hst : stateOperation s.deviceState = none)
    (h : s.toControl.handlers = [op]) : ∃ cmd, op = .command cmd := by
  unfold Control.handlers at h
  rw [hst] at h
  cases hactive : s.activeCmd with
  | none =>
    rw [hactive] at h
    cases h
  | some cmd =>
    by_cases haw : awaitsWrite cmd = true
    · simp only [hactive, commandOperation, haw] at h
      exact ⟨cmd, (List.cons.inj h).1.symm⟩
    · simp [hactive, commandOperation, haw] at h

/-- A busy driver works for the long operation, or for the active command. -/
theorem FlashInv.working_for (hi : FlashInv P h s) (hbusy : s.flashState ≠ .idle) :
    stateOperation s.deviceState ≠ none ∨ commandOperation s.activeCmd ≠ none := by
  obtain ⟨op, -, -, -, -, hhand, -⟩ := hi.busy hbusy
  by_contra hno
  rw [not_or, not_not, not_not] at hno
  unfold Control.handlers at hhand
  rw [hno.1, hno.2] at hhand
  cases hhand

theorem FlashInv.of_idle (hidle : s.flashState = .idle) (hst : s.deviceState ≠ .initializing) :
    FlashInv P h s :=
  ⟨fun h => absurd h hst, fun h => absurd hidle h⟩

theorem RequestFor.congr (hdata : s'.cmdData = s.cmdData) (hr : RequestFor s r op) :
    RequestFor s' r op := by
  have hwritten : blocksWritten s' = blocksWritten s := by
    unfold blocksWritten
    rw [hdata]
  cases op with
  | init =>
    cases hr with
    | block hlt hw =>
      refine .block ?_ ?_
      · rw [hwritten]
        exact hlt
      · rw [hwritten]
        exact hw
    | root hall hfin hd hsrc hlen =>
      refine .root (hwritten.trans hall) ?_ hd hsrc hlen
      unfold rootFinalized
      rw [hdata]
      exact hfin
  | wipe => exact hr
  | erasePages => exact hr
  | command cmd => trivial

/-- What neither touches the driver nor changes what it works for keeps the invariant,
    if it leaves the sources alone, or if the pages are only erased. -/
theorem FlashInv.moves (hi : FlashInv P h s) (hv : flashView s' = flashView s)
    (hst : s'.deviceState = s.deviceState)
    (hop : commandOperation s'.activeCmd = commandOperation s.activeCmd)
    (hsrc : SameSources s s' ∨
      s.deviceState ≠ .initializing ∧ stateOperation s.deviceState ≠ none) :
    FlashInv P h s' := by
  have hhand : s'.toControl.handlers = s.toControl.handlers := by
    unfold Control.handlers
    rw [hst, hop]
  rcases hsrc with hsrc | ⟨hne, hrun⟩
  · refine ⟨fun h => ?_, fun hbusy => ?_⟩
    · rw [hst] at h
      refine (hi.init h).congr ?_ (flash_of_view hv)
      unfold blocksWritten
      rw [hsrc.cmdData]
    · rw [flashState_of_view hv] at hbusy
      obtain ⟨op, r, i, hpend, hwork, hop', hfor⟩ := hi.busy hbusy
      refine ⟨op, r, i, hpend, ?_, hhand.trans hop', hfor.congr hsrc.cmdData⟩
      exact hwork.of_view hv fun p hp => hsrc.deref (hwork.source p hp).1 _
  · refine ⟨fun h => absurd (hst.symm.trans h) hne, fun hbusy => ?_⟩
    rw [flashState_of_view hv] at hbusy
    obtain ⟨op, r, i, hpend, hwork, hop', hfor⟩ := hi.busy hbusy
    have hnone : r.src = none ∧ RequestFor s' r op := by
      obtain ⟨o, ho⟩ := Option.ne_none_iff_exists'.mp hrun
      have heq := handlers_of_state ho hop'
      subst heq
      generalize s.deviceState = st at ho hne
      cases st with
      | initializing => exact absurd rfl hne
      | wiping =>
        cases ho
        exact ⟨hfor, hfor⟩
      | erasingPages =>
        cases ho
        exact ⟨hfor, hfor⟩
      | _ => cases ho
    refine ⟨op, r, i, hpend, hwork.of_view hv ?_, hhand.trans hop', hnone.2⟩
    rw [hnone.1]
    exact nofun

theorem flashStep_aside (hi : FlashInv P h s) (ha : Aside s s') : FlashStep P h s e s' :=
  .passes (flashRequests_of_view ha.view)
    (hi.moves P ha.view ha.deviceState ha.operation (.inl ha.sources))

/-! ### Timeouts, answers, presses -/

/-- Only the long press of INITIALIZE enters its state. -/
theorem initializing_tick {c' : Control} (ht : Tick P s e c')
    (hst : s.deviceState ≠ .initializing) (hst' : c'.deviceState = .initializing) :
    Pressed s .long e ∧ s.activeCmd = some .initializeDevice := by
  cases ht with
  | quiet h => exact absurd (h.deviceState.symm.trans hst') hst
  | stuck _ => exact absurd hst' hst
  | pressed _ _ h => exact absurd (h.deviceState.symm.trans hst') hst
  | loggedIn _ _ _ h => cases h.deviceState.symm.trans hst'
  | held _ h => exact absurd (h.deviceState.symm.trans hst') hst
  | heldStuck _ _ => exact absurd hst' hst
  | heldEntered hp hcmd hlong h =>
    rw [h.deviceState] at hst'
    subst hst'
    exact ⟨hp, hcmd.trans (congrArg some ((stateOperation_of_longEnters hlong).2 rfl))⟩
  | heldBackup _ _ _ h => cases h.deviceState.symm.trans hst'
  | timeout _ h => exact absurd (h.deviceState.symm.trans hst') hst
  | token _ _ h => cases h.deviceState.symm.trans hst'
  | flashed hf h =>
    have hno := stateOperation_of_flashEnters hf
    rw [← h.deviceState, hst'] at hno
    cases hno

/-- With an idle driver and no INITIALIZE, an event that asks for nothing and starts
    none keeps the invariant. -/
theorem flashStep_idle (hh : s.hung = false) (he : ∀ packet, e ≠ .hidRx packet)
    (hidle : s.flashState = .idle) (hst : s.deviceState ≠ .initializing)
    (hno : Pressed s .long e → s.activeCmd ≠ some .initializeDevice)
    (hv : flashView (step P s e) = flashView s) : FlashStep P h s e (step P s e) := by
  refine .passes (flashRequests_of_view hv) (.of_idle P ?_ ?_)
  · exact (flashState_of_view hv).trans hidle
  · intro hst'
    obtain ⟨hp, hcmd⟩ := initializing_tick P (tick_step P s he hh) hst hst'
    exact hno hp hcmd

theorem not_underWay (hno : ¬ WriteUnderWay s) :
    s.flashState = .idle ∧ stateOperation s.deviceState = none := by
  unfold WriteUnderWay at hno
  rw [not_or, not_not, not_not] at hno
  exact hno

theorem ne_initializing (hst : stateOperation s.deviceState = none) :
    s.deviceState ≠ .initializing := by
  intro h
  rw [h] at hst
  cases hst

/-- A command that waits for a completion is active outside of long operations
    only. -/
theorem OperationInv.command (hop : OperationInv s.toControl)
    (hcmd : commandOperation s.activeCmd ≠ none) : stateOperation s.deviceState = none := by
  by_contra hst
  exact hcmd (hop.running hst)

theorem flashStep_blinkTimeout (hi : FlashInv P h s) (hop : OperationInv s.toControl)
    (hok : Undisturbed P s .blinkTimeout) (hh : s.hung = false) :
    FlashStep P h s .blinkTimeout (step P s .blinkTimeout) := by
  have hstep : step P s .blinkTimeout = if s.blinking ∧ ¬ s.blinkPaused then
      blinkTimeout { s with blinking := false } else s := if_neg (by simp [hh])
  by_cases hblink : s.blinking ∧ ¬ s.blinkPaused
  · rw [if_pos hblink] at hstep
    unfold blinkTimeout at hstep
    by_cases hw : waiting s = true
    · rw [if_pos (show waiting { s with blinking := false } = true from hw)] at hstep
      have hto : TimesOut s .blinkTimeout := ⟨rfl, hh, hblink.1, by simpa using hblink.2, hw⟩
      by_cases hkept : commandOperation s.activeCmd = none ∨ s.cmdMessagesRemaining ≠ 0
      · rw [hstep]
        refine flashStep_aside P hi (Aside.trans ?_ (aside_finishCommandResp _ _ hkept))
        exact ⟨rfl, ⟨rfl, rfl, rfl⟩, rfl, rfl⟩
      · rw [not_or] at hkept
        have hidle : s.flashState = .idle := by
          by_contra hbusy
          exact hkept.2 (hok.timeout hbusy hkept.1 hto)
        refine flashStep_idle P hh nofun hidle (ne_initializing (hop.command hkept.1)) ?_ ?_
        · rintro ⟨he, -⟩
          cases he
        · rw [hstep]
          rfl
    · rw [if_neg (show ¬ waiting { s with blinking := false } = true from hw)] at hstep
      rw [hstep]
      exact flashStep_aside P hi ⟨rfl, ⟨rfl, rfl, rfl⟩, rfl, rfl⟩
  · rw [hstep, if_neg hblink]
    exact flashStep_aside P hi .rfl

theorem flashStep_packetSent (hi : FlashInv P h s) (hok : Undisturbed P s .packetSent)
    (hh : s.hung = false) : FlashStep P h s .packetSent (step P s .packetSent) := by
  have hstep : step P s .packetSent = if s.rawHidTxPending then
      cmdPacketSent P { s with rawHidTxPending := false } else s := if_neg (by simp [hh])
  by_cases hpending : s.rawHidTxPending
  · rw [if_pos hpending] at hstep
    unfold cmdPacketSent at hstep
    by_cases hcmd : s.activeCmd = some .readAllUids
    · rw [if_pos hcmd] at hstep
      have hv : flashView (step P s .packetSent) = flashView s := by
        rw [hstep, flashView_readAllUidsCmdIter]
        rfl
      have hno : commandOperation s.activeCmd = none := commandOperation_of_not hcmd rfl
      have hst : s.deviceState ≠ .initializing := fun h => hok.sent h rfl hcmd
      by_cases hrun : stateOperation s.deviceState = none
      · have hidle : s.flashState = .idle := by
          by_contra hbusy
          rcases hi.working_for P hbusy with h | h
          · exact h hrun
          · exact h hno
        refine flashStep_idle P hh nofun hidle hst ?_ hv
        rintro ⟨he, -⟩
        cases he
      · -- the round rewrites `cmd_data`, but pages are only erased here
        have hctl := toControl_readAllUidsCmdIter P { s with rawHidTxPending := false }
        rw [← hstep] at hctl
        refine .passes (flashRequests_of_view hv) (hi.moves P hv ?_ ?_ (.inr ⟨hst, hrun⟩))
        · rcases hctl with ⟨mr, h⟩ | h
          · exact (congrArg Control.deviceState h).trans rfl
          · exact (congrArg Control.deviceState h).trans rfl
        · rw [hno]
          rcases hctl with ⟨mr, h⟩ | h
          · rw [show (step P s .packetSent).activeCmd = _ from congrArg Control.activeCmd h]
            exact (clears_finish s.toControl mr).commandOperation hno
          · rw [show (step P s .packetSent).activeCmd = _ from congrArg Control.activeCmd h]
            exact hno
    · rw [if_neg (show ¬ _ = _ from hcmd)] at hstep
      rw [hstep]
      exact flashStep_aside P hi ⟨rfl, ⟨rfl, rfl, rfl⟩, rfl, rfl⟩
  · rw [hstep, if_neg hpending]
    exact flashStep_aside P hi .rfl

/-- A short press that the active command does not wait for. -/
theorem buttonPressed_of_ne (hne : s.activeCmd.bind pressKind ≠ some .short) :
    buttonPressed P s = s := by
  unfold buttonPressed
  split
  all_goals first | rfl | exact absurd (by simp [*, pressKind]) hne

/-- A long press that the active command does not wait for. -/
theorem longButtonPressed_of_ne (hne : s.activeCmd.bind pressKind ≠ some .long) :
    longButtonPressed P s = s := by
  unfold longButtonPressed
  split
  all_goals first | rfl | exact absurd (by simp [*, pressKind]) hne

theorem flashStep_buttonDown (hi : FlashInv P h s) (hok : Undisturbed P s .buttonDown)
    (hh : s.hung = false) : FlashStep P h s .buttonDown (step P s .buttonDown) := by
  have hstep : step P s .buttonDown = if s.buttonState then s
      else { buttonPress P s with buttonState := true } := if_neg (by simp [hh])
  by_cases hb : s.buttonState
  · rw [hstep, if_pos hb]
    exact flashStep_aside P hi .rfl
  · rw [if_neg hb] at hstep
    rw [Bool.not_eq_true] at hb
    unfold buttonPress at hstep
    by_cases hw : s.waitingForButtonPress
    · rw [if_pos hw] at hstep
      have hp : Pressed s .short .buttonDown := ⟨rfl, hb, hw⟩
      by_cases hbusy : WriteUnderWay s
      · have hne : (endButtonPressWait s).activeCmd.bind pressKind ≠ some .short :=
          hok.press .short hbusy hp
        rw [buttonPressed_of_ne P hne] at hstep
        rw [hstep]
        exact flashStep_aside P hi ⟨rfl, ⟨rfl, rfl, rfl⟩, rfl, rfl⟩
      · obtain ⟨hidle, hrun⟩ := not_underWay hbusy
        rcases buttonPressed_asks P (s := endButtonPressWait s) hidle with
          hv | ⟨⟨r, hr⟩, hctl, cmd, hcmd, haw, hof⟩
        · refine flashStep_idle P hh nofun hidle (ne_initializing hrun) ?_ ?_
          · rintro ⟨he, -⟩
            cases he
          · rw [hstep]
            exact hv
        · have hissue : Issuer s .buttonDown (.command cmd) := hof ▸ .press hp hcmd
          have hst' : (step P s .buttonDown).deviceState = s.deviceState := by
            rw [hstep]
            exact (congrArg Control.deviceState hctl : (buttonPressed P _).deviceState = _)
          refine .lodged P r (.command cmd) ?_ hissue ?_ trivial ?_
          · rw [hstep]
            exact (hr.after (s := s) rfl).still rfl ⟨rfl, rfl, rfl⟩
          · refine handlers_command ?_ ?_ haw
            · rw [hst']
              exact hrun
            · rw [hstep]
              exact (congrArg Control.activeCmd hctl).trans hcmd
          · intro h
            exact absurd (hst'.symm.trans h) (ne_initializing hrun)
    · rw [if_neg hw] at hstep
      rw [hstep]
      split
      · exact flashStep_aside P hi ⟨rfl, ⟨rfl, rfl, rfl⟩, rfl, rfl⟩
      · split
        · exact flashStep_aside P hi ⟨rfl, ⟨rfl, rfl, rfl⟩, rfl, rfl⟩
        · exact flashStep_aside P hi ⟨rfl, ⟨rfl, rfl, rfl⟩, rfl, rfl⟩

theorem flashStep_buttonHeld (hi : FlashInv P h s) (hok : Undisturbed P s .buttonHeld)
    (hh : s.hung = false) : FlashStep P h s .buttonHeld (step P s .buttonHeld) := by
  have hstep : step P s .buttonHeld = if s.buttonState then
      longButtonPress P { s with buttonState := false } else s := if_neg (by simp [hh])
  by_cases hb : s.buttonState
  · rw [if_pos hb] at hstep
    unfold longButtonPress at hstep
    by_cases hw : s.waitingForLongButtonPress
    · rw [if_pos hw] at hstep
      have hp : Pressed s .long .buttonHeld := ⟨rfl, hb, hw⟩
      generalize hs₁ : endLongButtonPressWait { s with buttonState := false } = s₁ at hstep
      have hside : Aside s s₁ := by
        rw [← hs₁]
        exact ⟨rfl, ⟨rfl, rfl, rfl⟩, rfl, rfl⟩
      have hactive : s₁.activeCmd = s.activeCmd := by
        rw [← hs₁]
        rfl
      by_cases hbusy : WriteUnderWay s
      · have hne : s₁.activeCmd.bind pressKind ≠ some .long := by
          rw [hactive]
          exact hok.press .long hbusy hp
        rw [longButtonPressed_of_ne P hne] at hstep
        rw [hstep]
        exact flashStep_aside P hi hside
      · obtain ⟨hidle, hrun⟩ := not_underWay hbusy
        have hidle₁ : s₁.flashState = .idle := (flashState_of_view hside.view).trans hidle
        have hrun₁ : stateOperation s₁.deviceState = none := by
          rw [hside.deviceState]
          exact hrun
        have hasks := longButtonPressed_asks P hidle₁
        have hquiet := flashStep_idle P (h := h) hh (e := .buttonHeld) nofun hidle
          (ne_initializing hrun)
        rw [hstep] at hquiet ⊢
        cases hasks with
        | nothing hv =>
          refine hquiet (fun _ hinit => ?_) (hv.trans hside.view)
          -- INITIALIZE would have asked for its first block
          have heq : longButtonPressed P s₁ = initializeCmdComplete P s₁ := by
            unfold longButtonPressed
            rw [hactive, hinit]
          obtain ⟨r, hr⟩ := initializeStarts P hidle₁
          rw [heq] at hv
          have hlist := hr.lodged.requests
          rw [flashRequests_of_view hv] at hlist
          exact List.cons_ne_self _ _ hlist.symm
        | command cmd hcmd haw hof hctl hr =>
          obtain ⟨r, hr⟩ := hr
          have hissue : Issuer s .buttonHeld (.command cmd) :=
            hof ▸ .press hp (hactive.symm.trans hcmd)
          refine .lodged P r (.command cmd) (hr.after hside.view) hissue ?_ trivial ?_
          · rw [hctl]
            exact handlers_command hrun₁ hcmd haw
          · intro hinit
            have hst' : (longButtonPressed P s₁).deviceState = s₁.deviceState :=
              congrArg Control.deviceState hctl
            exact absurd (hst'.symm.trans hinit) (ne_initializing hrun₁)
        | wipe hcmd hr hreach =>
          obtain ⟨r, hr, hsrc⟩ := hr
          have hissue : Issuer s .buttonHeld .wipe := .press hp (hactive.symm.trans hcmd)
          refine .lodged P r .wipe (hr.after hside.view) hissue ?_ hsrc ?_
          · refine handlers_state ?_ (hreach.commandOperation (commandOperation_of_not hcmd rfl))
            rw [hreach.deviceState]
            rfl
          · intro hinit
            cases hreach.deviceState.symm.trans hinit
        | init r hcmd hr =>
          have hissue : Issuer s .buttonHeld .init := .press hp (hactive.symm.trans hcmd)
          refine .lodged P r .init (hr.lodged.after hside.view) hissue ?_ ?_ ?_
          · refine handlers_state ?_
              (hr.control.commandOperation (commandOperation_of_not hcmd rfl))
            rw [hr.control.deviceState]
            rfl
          · refine .block ?_ ?_
            · rw [hr.written]
              decide
            · rw [hr.written]
              exact hr.write
          · intro _
            refine ⟨?_, ?_⟩
            · rw [hr.written]
              exact Nat.zero_le _
            · rw [hr.written]
              exact nofun
    · rw [if_neg hw] at hstep
      rw [hstep]
      have hside : Aside s { s with buttonState := false } := ⟨rfl, ⟨rfl, rfl, rfl⟩, rfl, rfl⟩
      split
      · exact flashStep_aside P hi (hside.trans (aside_longButtonPressDisconnected P _))
      · exact flashStep_aside P hi hside
  · rw [hstep, if_neg hb]
    exact flashStep_aside P hi .rfl

/-! ### Random words -/

/-- A random word touches neither the driver's source nor the progress of
    INITIALIZE. -/
structure WordKeeps (s s' : Dev) : Prop where
  view : flashView s' = flashView s
  rootPage : s'.rootPage = s.rootPage
  cmdData : ∀ a, a < CmdData.initDataRandomDataGathered ∨
    CmdData.initDataRandomDataGathered + 4 ≤ a → s'.cmdData a = s.cmdData a
  control : s.toControl.Clears s'.toControl

/-- With the root page made up or not due, a random word is only counted. -/
theorem initializingRandUpdate_cases :
    ∃ s₁, WordKeeps s s₁ ∧ initializingRandUpdate P s = finalizeRootPageCheck P s₁ := by
  refine ⟨_, ?_, rfl⟩
  split
  · refine ⟨flashView_getProgressCheck _, (sameSources_getProgressCheck _).rootPage, ?_, ?_⟩
    · intro a ha
      rw [(sameSources_getProgressCheck _).cmdData]
      exact Mem.put32_apply_of_notMem _ _ ha
    · refine Clears.trans ?_ (clears_getProgressCheck _)
      exact .same
  · exact ⟨rfl, rfl, fun _ _ => rfl, .same⟩

theorem WordKeeps.field (hk : WordKeeps s s₁) {off : Nat}
    (hoff : off + 4 ≤ CmdData.initDataRandomDataGathered ∨
      CmdData.initDataRandomDataGathered + 4 ≤ off) :
    s₁.cmdData.get32 off = s.cmdData.get32 off := by
  refine Mem.get32_congr fun i hi => hk.cmdData _ ?_
  omega

theorem finalizeRootPageCheck_not_due
    (hno : blocksWritten s < NUM_DATA_BLOCKS ∨ rootFinalized s) :
    finalizeRootPageCheck P s = s := by
  unfold finalizeRootPageCheck
  refine if_neg ?_
  rintro ⟨-, hfin, hwritten⟩
  rcases hno with h | h
  · exact absurd hwritten (Nat.ne_of_lt h)
  · exact h hfin

/-- In INITIALIZE the handlers of random words leave the active command alone. -/
theorem commandRandUpdate_of_ne (hlogin : s.activeCmd ≠ some .login)
    (hbits : s.activeCmd ≠ some .getRandBits) : commandRandUpdate P s = s := by
  unfold commandRandUpdate
  split
  · exact absurd ‹_› hbits
  · exact absurd ‹_› hlogin
  · rfl

theorem flashStep_word_initializing (hi : FlashInv P h s) (hop : OperationInv s.toControl)
    (hok : Undisturbed P s e) (hword : e.isWord = true) (hst : s.deviceState = .initializing)
    (hside : Aside s s₀) (hctl₀ : s₀.toControl = s.toControl)
    (hstep : step P s e = cmdRandUpdate P s₀) : FlashStep P h s e (step P s e) := by
  have hst₀ : s₀.deviceState = .initializing := hside.deviceState.trans hst
  have hrun : stateOperation s.deviceState = some .init := by
    rw [hst]
    rfl
  have hno := hop.running (by simp [hrun])
  obtain ⟨s₁, hk, heq⟩ := initializingRandUpdate_cases P (s := s₀)
  have hview : flashView s₁ = flashView s := hk.view.trans hside.view
  have hctl : s.toControl.Clears s₁.toControl := hctl₀ ▸ hk.control
  have hwritten : blocksWritten s₁ = blocksWritten s := by
    refine (hk.field (.inr (by decide))).trans ?_
    rw [hside.sources.cmdData]
    rfl
  have hfin : rootFinalized s₁ ↔ rootFinalized s := by
    unfold rootFinalized
    rw [hk.field (.inr (by decide)), hside.sources.cmdData]
  have hprog : InitProgress P s₁ := (hi.init hst).congr hwritten (flash_of_view hview)
  have hst₁ : s₁.deviceState = .initializing := hctl.deviceState.trans hst
  have hhand : ∀ {s₂ : Dev}, s₂.toControl = s₁.toControl → s₂.toControl.handlers = [.init] := by
    intro s₂ h₂
    rw [h₂]
    refine handlers_state ?_ (hctl.commandOperation hno)
    rw [hst₁]
    rfl
  -- neither LOGIN nor GET_RAND_BITS is active, and none becomes it
  have hlast : ∀ {s₂ : Dev}, s₂.toControl = s₁.toControl → commandRandUpdate P s₂ = s₂ := by
    intro s₂ h₂
    have hactive : s₂.activeCmd = s.activeCmd ∨ s₂.activeCmd = none := by
      rw [show s₂.activeCmd = s₁.activeCmd from congrArg Control.activeCmd h₂]
      exact hctl.activeCmd
    refine commandRandUpdate_of_ne P ?_ ?_
    · rcases hactive with h | h
      · rw [h]
        exact hok.login (.inr (by simp [hrun])) hword
      · simp [h]
    · rcases hactive with h | h
      · rw [h]
        exact hok.randBits hst hword
      · simp [h]
  have hstep' : step P s e = commandRandUpdate P (finalizeRootPageCheck P s₁) := by
    rw [hstep]
    unfold cmdRandUpdate
    rw [if_pos hst₀, heq]
  rw [hlast (toControl_finalizeRootPageCheck P s₁)] at hstep'
  rw [hstep']
  by_cases hidle : s.flashState = .idle
  · rcases finalizeRootPageCheck_cases P (s := s₁) ((flashState_of_view hview).trans hidle) with
      h | ⟨r, hr⟩
    · rw [h]
      refine .passes (flashRequests_of_view hview) ⟨fun _ => hprog, fun hbusy => ?_⟩
      exact absurd ((flashState_of_view hview).trans hidle) hbusy
    · refine .lodged P r .init (hr.lodged.after hview) (.word hword hst)
        (hhand (toControl_finalizeRootPageCheck P s₁)) ?_ ?_
      · exact .root (hr.written.trans hr.due.1) hr.finalized hr.dest hr.source.1 hr.source.2
      · exact fun _ => hprog.congr hr.written hr.lodged.flash
  · obtain ⟨op, r, i, hpend, hwork, hop', hfor⟩ := hi.busy hidle
    have hinit := handlers_of_state hrun hop'
    subst hinit
    have hpending : InitPending s r := hfor
    have hnot : finalizeRootPageCheck P s₁ = s₁ := by
      refine finalizeRootPageCheck_not_due P ?_
      rw [hwritten, hfin]
      cases hpending with
      | block hlt _ => exact .inl hlt
      | root _ hfin _ _ _ => exact .inr hfin
    rw [hnot]
    refine .passes (flashRequests_of_view hview) ⟨fun _ => hprog, fun _ => ?_⟩
    refine ⟨.init, r, i, hpend, hwork.of_view hview ?_, hhand rfl, ?_⟩
    · intro p hp
      have hp' : p.object = .rootPage ∨ p = ⟨.cmdData, CmdData.initDataBlock⟩ := by
        cases hpending with
        | block _ hw =>
          rcases hw.contents with h | ⟨h, -⟩
          · rw [h] at hp
            cases hp
          · rw [h] at hp
            cases hp
            exact .inr rfl
        | root _ _ _ hsrc _ =>
          rw [hsrc] at hp
          cases hp
          exact .inl rfl
      rcases hp' with h | rfl
      · unfold Dev.deref
        rw [h]
        exact congrArg (Mem.read · _ _) (hk.rootPage.trans hside.sources.rootPage)
      · refine Eq.trans ?_ (hside.sources.deref (hwork.source _ hp).1 _)
        refine Mem.read_congr fun j _ => hk.cmdData _ (.inr ?_)
        simp only [CmdData.initDataBlock, CmdData.initDataRandomDataGathered]
        omega
    · cases hpending with
      | block hlt hw =>
        refine .block ?_ ?_
        · rw [hwritten]
          exact hlt
        · rw [hwritten]
          exact hw
      | root hall hf hd hsrc hlen => exact .root (hwritten.trans hall) (hfin.mpr hf) hd hsrc hlen

theorem flashStep_word (hi : FlashInv P h s) (hop : OperationInv s.toControl)
    (hok : Undisturbed P s e) (hh : s.hung = false) (hword : e.isWord = true)
    (hside : Aside s s₀) (hctl₀ : s₀.toControl = s.toControl)
    (hstep : step P s e = cmdRandUpdate P s₀) : FlashStep P h s e (step P s e) := by
  by_cases hst : s.deviceState = .initializing
  · exact flashStep_word_initializing P hi hop hok hword hst hside hctl₀ hstep
  · have hst₀ : s₀.deviceState ≠ .initializing := fun h => hst (hside.deviceState.symm.trans h)
    have hcmd₀ : s₀.activeCmd = s.activeCmd := congrArg Control.activeCmd hctl₀
    have hstep' : step P s e = commandRandUpdate P s₀ := by
      rw [hstep]
      unfold cmdRandUpdate
      rw [if_neg hst₀]
    have hpkt : ∀ packet, e ≠ .hidRx packet := by
      rintro packet rfl
      cases hword
    have hnotHeld : Pressed s .long e → s.activeCmd ≠ some .initializeDevice := by
      rintro ⟨rfl, -⟩
      cases hword
    by_cases hlogin : s.activeCmd = some .login
    · have hno : ¬ WriteUnderWay s := fun hbusy => hok.login hbusy hword hlogin
      obtain ⟨hidle, -⟩ := not_underWay hno
      refine flashStep_idle P hh hpkt hidle hst hnotHeld ?_
      have heq : commandRandUpdate P s₀ = loginCmdIter P s₀ := by
        unfold commandRandUpdate
        rw [hcmd₀, hlogin]
      rw [hstep', heq, flashView_loginCmdIter]
      exact hside.view
    · by_cases hbits : s.activeCmd = some .getRandBits
      · have heq : commandRandUpdate P s₀ = getRandBitsCmdCheck s₀ := by
          unfold commandRandUpdate
          rw [hcmd₀, hbits]
        have hv : flashView (step P s e) = flashView s := by
          rw [hstep', heq, flashView_getRandBitsCmdCheck]
          exact hside.view
        have hno : commandOperation s.activeCmd = none := commandOperation_of_not hbits rfl
        have hclears : s.toControl.Clears (step P s e).toControl := by
          rw [hstep', heq, ← hctl₀]
          exact clears_getRandBitsCmdCheck s₀
        by_cases hrun : stateOperation s.deviceState = none
        · have hidle : s.flashState = .idle := by
            by_contra hbusy
            rcases hi.working_for P hbusy with h | h
            · exact h hrun
            · exact h hno
          exact flashStep_idle P hh hpkt hidle hst hnotHeld hv
        · refine .passes (flashRequests_of_view hv)
            (hi.moves P hv hclears.deviceState ?_ (.inr ⟨hst, hrun⟩))
          rw [hno]
          exact hclears.commandOperation hno
      · have hsame : commandRandUpdate P s₀ = s₀ := by
          refine commandRandUpdate_of_ne P ?_ ?_
          · rw [hcmd₀]
            exact hlogin
          · rw [hcmd₀]
            exact hbits
        rw [hstep', hsame]
        exact flashStep_aside P hi hside

/-! ### Completions -/

/-- What `flash_write_complete` does for the active command. -/
theorem asks_commandWriteComplete (hidle : s.flashState = .idle) :
    AsksInPlace s (commandWriteComplete P s) := by
  unfold commandWriteComplete
  split
  · exact .inl rfl
  · exact .inl rfl
  · exact .inl rfl
  · exact .inl rfl
  · exact .inl rfl
  · exact asks_updateUidCmdWriteFinished P hidle
  · exact asks_updateUidCmdWriteFinished P hidle
  · exact asks_startupCmdIter P hidle
  · exact .inl rfl

theorem commandWriteComplete_of_none (hno : commandOperation s.activeCmd = none) :
    commandWriteComplete P s = s := by
  unfold commandWriteComplete
  split
  all_goals first | rfl | simp_all [commandOperation, awaitsWrite]

theorem stateWriteComplete_of_none (hst : stateOperation s.deviceState = none) :
    stateWriteComplete P s = s := by
  unfold stateWriteComplete
  split
  all_goals first | rfl | simp_all [stateOperation]

theorem commandOperation_stateWriteComplete (hno : commandOperation s.activeCmd = none) :
    commandOperation (stateWriteComplete P s).activeCmd = none := by
  rcases stateWriteComplete_cases P s with h | ⟨st, -, h⟩
  · exact h.commandOperation hno
  · exact h.commandOperation hno

/-- What the completion of a page of INITIALIZE leads to. -/
theorem flashStep_initialized (hreq : s₁.flashRequests = s.flashRequests)
    (hidle : s₁.flashState = .idle) (hst : s₁.deviceState = .initializing)
    (hno : commandOperation s₁.activeCmd = none) (hpend : InitPending s₁ r)
    (hprog : InitProgress P s₁)
    (hblank : ∀ n < NUM_DATA_BLOCKS, InitialWrite n r → BlankPage (block P s₁ (MIN_DATA_BLOCK + n)))
    (hissue : Issuer s e .init) : FlashStep P h s e (initializingWriteComplete P s₁) := by
  have hhand : ∀ {s' : Dev}, s₁.toControl.Clears s'.toControl → s'.toControl.handlers = [.init] := by
    intro s' hclears
    refine handlers_state ?_ (hclears.commandOperation hno)
    rw [hclears.deviceState]
    show stateOperation s₁.deviceState = some .init
    rw [hst]
    rfl
  -- the page that is completed has no records either
  have hnext : blocksWritten s₁ < NUM_DATA_BLOCKS → ∀ j < blocksWritten s₁ + 1,
      BlankPage (block P s₁ (MIN_DATA_BLOCK + j)) := by
    intro hlt j hj
    rcases Nat.lt_succ_iff_lt_or_eq.mp hj with hj | rfl
    · exact hprog.blank j hj
    · cases hpend with
      | block _ hw => exact hblank _ hlt hw
      | root hall _ _ _ _ => exact absurd hall (Nat.ne_of_lt hlt)
  have hgoes := initializeGoesOn P hidle hprog.le (fun hall => hprog.allBlank hall)
  generalize initializingWriteComplete P s₁ = s' at hgoes
  cases hgoes with
  | block r' hr hw hlt hwritten hfin hclears =>
    refine .asks r' .init (hr.requests.trans (congrArg _ hreq)) hr.started hr.working hissue
      (hhand hclears) ?_ fun _ => ?_
    · refine .block ?_ ?_
      · rw [hwritten]
        exact hlt
      · rw [hwritten]
        exact hw
    · refine ⟨?_, ?_⟩
      · rw [hwritten]
        exact Nat.le_of_lt hlt
      · rw [hwritten, block_congr hr.flash]
        exact hnext (by omega)
  | random hv hall hwritten hfin hclears =>
    refine .passes ((flashRequests_of_view hv).trans hreq) ⟨fun _ => ⟨?_, ?_⟩, fun hbusy => ?_⟩
    · rw [hwritten]
    · rw [hwritten, block_congr (flash_of_view hv), ← hall]
      exact hnext (by omega)
    · exact absurd ((flashState_of_view hv).trans hidle) hbusy
  | root r' s₂ hv hr hall hclears =>
    have hr' := hr.lodged.after hv
    refine .asks r' .init (hr'.requests.trans (congrArg _ hreq)) hr'.started hr'.working hissue
      (hhand hclears) ?_ fun _ => ?_
    · exact .root (hr.written.trans hr.due.1) hr.finalized hr.dest hr.source.1 hr.source.2
    · refine ⟨?_, ?_⟩
      · rw [hr.written, hr.due.1]
      · rw [hr.written, hr.due.1, block_congr hr'.flash, ← hall]
        exact hnext (by omega)
  | done st hv _ hst' hreach =>
    refine .passes ((flashRequests_of_view hv).trans hreq)
      (.of_idle P ((flashState_of_view hv).trans hidle) fun h => ?_)
    rw [← hreach.deviceState, h] at hst'
    cases hst'

/-- What the completion of an erased page of a long operation leads to, where `st` is the
    state behind the last one. -/
theorem flashStep_erased {st : DeviceState} (hreq : s₁.flashRequests = s.flashRequests)
    (hidle : s₁.flashState = .idle) (hst : stateOperation s₁.deviceState = some op)
    (hop : op = .wipe ∨ op = .erasePages)
    (hno : commandOperation s₁.activeCmd = none) (hissue : Issuer s e op)
    (hend : st ≠ .initializing)
    (hgoes : flashView s' = flashView s₁ ∧ s₁.toControl.Reaches st s'.toControl ∨
      (∃ r, Lodged s₁ s' r ∧ r.src = none) ∧ s₁.toControl.Clears s'.toControl) :
    FlashStep P h s e s' := by
  rcases hgoes with ⟨hv, hreach⟩ | ⟨⟨r, hr, hsrc⟩, hclears⟩
  · refine .passes ((flashRequests_of_view hv).trans hreq)
      (.of_idle P ((flashState_of_view hv).trans hidle) fun h => ?_)
    exact hend (hreach.deviceState.symm.trans h)
  · have hst' : stateOperation s'.deviceState = some op := by
      rw [show s'.deviceState = s₁.deviceState from hclears.deviceState]
      exact hst
    refine .asks r op (hr.requests.trans (congrArg _ hreq)) hr.started hr.working hissue
      (handlers_state hst' (hclears.commandOperation hno)) ?_ fun h => ?_
    · rcases hop with rfl | rfl
      · exact hsrc
      · exact hsrc
    · rw [h] at hst'
      rcases hop with rfl | rfl
      · cases hst'
      · cases hst'

/-- **A completion is taken for the operation that made the request**, which goes on with
    its next request or ends. -/
theorem flashStep_completes (hi : FlashInv P h s) (hop : OperationInv s.toControl)
    (hbusy : s.flashState ≠ .idle) (hcomp : completion s e = some s₁)
    (hticks : ∀ r i, Working s r i → FlashTick P s r e) :
    FlashStep P h s e (flashWriteComplete P s₁) := by
  obtain ⟨op, r, i, hpend, hwork, hhand, hfor⟩ := hi.busy hbusy
  have htick := hticks r i hwork
  cases htick with
  | goesOn j hno _ _ => cases hno.symm.trans hcomp
  | fails s₂ hno _ _ _ => cases hno.symm.trans hcomp
  | completes s₂ hcomp' hstep hidle hmoves hread herased =>
    cases hcomp.symm.trans hcomp'
    have hreq := hmoves.requests
    have hst₁ : s₁.deviceState = s.deviceState := congrArg Control.deviceState hmoves.control
    have hcmd₁ : s₁.activeCmd = s.activeCmd := congrArg Control.activeCmd hmoves.control
    have hhand₁ : s₁.toControl.handlers = [op] := by
      rw [hmoves.control]
      exact hhand
    have hissue : Issuer s e op := .completed hcomp (by simp [hhand₁])
    unfold flashWriteComplete
    cases hst : stateOperation s₁.deviceState with
    | none =>
      rw [stateWriteComplete_of_none P hst]
      have hclears := clears_commandWriteComplete P s₁
      rcases asks_commandWriteComplete P hidle with hv | ⟨hctl, r', hr'⟩
      · refine .passes ((flashRequests_of_view hv).trans hreq)
          (.of_idle P ((flashState_of_view hv).trans hidle) ?_)
        rw [show (commandWriteComplete P s₁).deviceState = s₁.deviceState from hclears.deviceState]
        exact ne_initializing hst
      · refine .asks r' op (hr'.requests.trans (congrArg _ hreq)) hr'.started hr'.working hissue
          (hctl ▸ hhand₁) ?_ fun hinit => ?_
        · obtain ⟨cmd, rfl⟩ := command_of_handlers hst hhand₁
          trivial
        · rw [show (commandWriteComplete P s₁).deviceState = s₁.deviceState from
            congrArg Control.deviceState hctl] at hinit
          exact absurd hinit (ne_initializing hst)
    | some o =>
      have heq := handlers_of_state hst hhand₁
      subst heq
      have hno : commandOperation s₁.activeCmd = none := by
        rw [hcmd₁]
        refine hop.running ?_
        rw [← hst₁, hst]
        exact nofun
      rw [commandWriteComplete_of_none P (commandOperation_stateWriteComplete P hno)]
      unfold stateWriteComplete
      split
      · rename_i hinit
        rw [hinit] at hst
        cases hst
        have hprog := hi.init (hst₁.symm.trans hinit)
        refine flashStep_initialized P hreq hidle hinit hno (hfor.congr hmoves.cmdData)
          (hprog.driverMoves hwork hfor hmoves) ?_ hissue
        exact fun n hn hw => blank_completed hn hw hread herased
      · rename_i hwiping
        rw [hwiping] at hst
        cases hst
        refine flashStep_erased P hreq hidle ?_ (.inl rfl) hno hissue ?_
          (wipingWriteComplete_asks hidle)
        · rw [hwiping]
          rfl
        · exact nofun
      · rename_i herasing
        rw [herasing] at hst
        cases hst
        refine flashStep_erased P hreq hidle ?_ (.inr rfl) hno hissue ?_
          (erasingPagesWriteComplete_asks hidle)
        · rw [herasing]
          rfl
        · exact nofun
      · rename_i hni hnw hne
        exfalso
        generalize s₁.deviceState = st at hst hni hnw hne
        cases st with
        | initializing => exact hni rfl
        | wiping => exact hnw rfl
        | erasingPages => exact hne rfl
        | _ => cases hst

/-- An event of the driver. -/
theorem flashStep_flash (hi : FlashInv P h s) (hop : OperationInv s.toControl)
    (hnone : s.flashState = .idle → step P s e = s)
    (hticks : ∀ r i, Working s r i → FlashTick P s r e) :
    FlashStep P h s e (step P s e) := by
  by_cases hidle : s.flashState = .idle
  · rw [hnone hidle]
    exact flashStep_aside P hi .rfl
  · obtain ⟨op, r, i, hpend, hwork, hhand, hfor⟩ := hi.busy hidle
    have hprog : ∀ {s₁ : Dev}, DriverMoves r s s₁ → s₁.deviceState = .initializing →
        InitProgress P s₁ := by
      intro s₁ hm hst
      have hst' : s.deviceState = .initializing :=
        (congrArg Control.deviceState hm.control).symm.trans hst
      have hinit : op = .init := by
        refine handlers_of_state ?_ hhand
        rw [hst']
        rfl
      subst hinit
      exact (hi.init hst').driverMoves hwork hfor hm
    cases hticks r i hwork with
    | goesOn j _ hwork' hm =>
      refine .passes hm.requests ⟨hprog hm, fun _ => ?_⟩
      exact ⟨op, r, j, hpend, hwork', hm.control ▸ hhand, hfor.congr hm.cmdData⟩
    | fails s₁ _ hstep hidle₁ hm =>
      have hv := flashView_flashWriteFailed s₁
      have hst : (flashWriteFailed s₁).deviceState = s₁.deviceState :=
        (clears_flashWriteFailed s₁).deviceState
      rw [hstep]
      refine .passes ((flashRequests_of_view hv).trans hm.requests) ⟨fun h => ?_, fun hbusy => ?_⟩
      · refine (hprog hm (hst.symm.trans h)).congr ?_ (flash_of_view hv)
        unfold blocksWritten
        rw [cmdData_flashWriteFailed]
      · exact absurd ((flashState_of_view hv).trans hidle₁) hbusy
    | completes s₁ hcomp hstep _ _ _ _ =>
      rw [hstep]
      exact flashStep_completes P hi hop hidle hcomp hticks

/-! ### Packets -/

/-- A payload that is stored elsewhere than where the driver programs from. -/
theorem FlashInv.stored (hi : FlashInv P h s) (packet : Bytes)
    (hbuf : s.flashState ≠ .idle → ∀ p ∈ s.flashWriteData, p.object ≠ .cmdPacketBuf) :
    FlashInv P h (rxStore packet s) := by
  refine ⟨fun hst => (hi.init hst).congr rfl rfl, fun hbusy => ?_⟩
  obtain ⟨op, r, i, hpend, hwork, hhand, hfor⟩ := hi.busy hbusy
  have hkept : (rxStore packet s).cmdData = s.cmdData := rfl
  refine ⟨op, r, i, hpend, hwork.of_view rfl ?_, hhand, hfor.congr hkept⟩
  intro p hp
  have hdata := hwork.data
  rw [Option.mem_def.mp hp] at hdata
  have hobj := hbuf hbusy _ hdata
  unfold Dev.deref Dev.object
  simp only at hobj
  split
  · rfl
  · rfl
  · exact absurd ‹_› hobj
  · rfl

theorem delivered_stored (hd : delivered s e = some s₀) :
    ∃ packet, e = .hidRx packet ∧ rxFits packet = true ∧ s.hung = false ∧
      s₀ = rxStore packet s := by
  cases e with
  | hidRx packet =>
    simp only [delivered] at hd
    split at hd
    · rename_i hcond
      exact ⟨packet, rfl, hcond.2.1, by simpa using hcond.1, (Option.some.inj hd).symm⟩
    · cases hd
  | _ => cases hd

theorem step_stored {packet : Bytes} (hh : s.hung = false)
    (hd : delivered s (.hidRx packet) = none) :
    step P s (.hidRx packet) = s ∨
      rxFits packet = true ∧ step P s (.hidRx packet) = rxStore packet s := by
  unfold delivered at hd
  unfold step usbRawHidRx
  rw [if_neg (by simp [hh])]
  by_cases hf : rxFits packet = true
  · by_cases hl : rxLast packet = true
    · simp [*] at hd
    · right
      simp only [hf, hl]
      exact ⟨trivial, rfl⟩
  · left
    simp only [hf]
    rfl

/-- While the driver is busy, a packet that is executed either is a cancel or meets a
    long operation. -/
theorem FlashInv.busy_packet (hi : FlashInv P h s) (hpkt : PacketUndisturbed P s)
    (hbusy : s.flashState ≠ .idle) (hne : packetCmd s.cmdPacketBuf ≠ .cancelButtonPress) :
    stateOperation s.deviceState ≠ none := by
  rcases hi.working_for P hbusy with h | h
  · exact h
  · exact absurd (hpkt.command hbusy h).1 hne

/-- A packet that restarts or disconnects the device finds an idle driver. -/
theorem FlashInv.idle_packet (hi : FlashInv P h s) (hpkt : PacketUndisturbed P s)
    (hc : packetCmd s.cmdPacketBuf = .disconnect ∨ packetCmd s.cmdPacketBuf = .startup) :
    s.flashState = .idle := by
  by_contra hbusy
  have hne : packetCmd s.cmdPacketBuf ≠ .cancelButtonPress := by
    rcases hc with h | h
    · simp [h]
    · simp [h]
  have hst := hi.busy_packet P hpkt hbusy hne
  obtain ⟨hd, hs⟩ := hpkt.operation hbusy hst
  rcases hc with h | h
  · exact hd h
  · exact hs h

/-- A packet that asks for nothing and stays in the state. -/
theorem flashStep_answered (hi : FlashInv P h s₀) (hop : OperationInv s₀.toControl)
    (hop' : OperationInv s'.toControl) (hpkt : PacketUndisturbed P s₀)
    (hne : packetCmd s₀.cmdPacketBuf ≠ .cancelButtonPress) (hv : flashView s' = flashView s₀)
    (hsrc : SameSources s₀ s') (hst : s'.deviceState = s₀.deviceState) : FlashInv P h s' := by
  by_cases hrun : stateOperation s₀.deviceState = none
  · have hidle : s₀.flashState = .idle := by
      by_contra hbusy
      exact hi.busy_packet P hpkt hbusy hne hrun
    refine .of_idle P ((flashState_of_view hv).trans hidle) ?_
    rw [hst]
    exact ne_initializing hrun
  · refine hi.moves P hv hst ?_ (.inl hsrc)
    rw [hop.running hrun]
    refine hop'.running ?_
    rw [show s'.toControl.deviceState = s₀.deviceState from hst]
    exact hrun

@[simp] theorem flashView_countIteration (n : Nat) (s : Dev) :
    flashView (countIteration n s) = flashView s := by
  unfold countIteration
  split <;> rfl

theorem sameSources_countIteration (n : Nat) (s : Dev) : SameSources s (countIteration n s) := by
  unfold countIteration
  split
  · exact ⟨rfl, rfl, rfl⟩
  · exact .refl s

theorem handlers_countIteration (n : Nat) (s : Dev) :
    (countIteration n s).toControl.handlers = s.toControl.handlers := by
  unfold countIteration
  split <;> rfl

theorem flashView_of_stored {packet : Bytes} (hs₀ : s₀ = rxStore packet s) :
    flashView s₀ = flashView s := by
  rw [hs₀]
  rfl

/-- A packet of an ordinary command that its state function takes. -/
theorem flashStep_handled {s₂ : Dev} {n : Nat} (hi : FlashInv P h s₀)
    (hop : OperationInv s₀.toControl) (hop' : OperationInv (countIteration n s₂).toControl)
    (hpkt : PacketUndisturbed P s₀) (hv₀ : flashView s₀ = flashView s)
    (hissue : Issuer s e (.of (packetCmd s₀.cmdPacketBuf)))
    (hord : ordinary (packetCmd s₀.cmdPacketBuf))
    (hst' : (countIteration n s₂).deviceState ≠ .initializing ∨
      stateOperation s₀.deviceState ≠ none)
    (hdisp : dispatch P (activate s₀) = .handled s₂) :
    FlashStep P h s e (countIteration n s₂) := by
  have hreq₀ := flashRequests_of_view hv₀
  by_cases hrun : stateOperation s₀.deviceState = none
  · have hidle : s₀.flashState = .idle := by
      by_contra hbusy
      exact hi.busy_packet P hpkt hbusy hord.2.1 hrun
    have hst₂ : (countIteration n s₂).deviceState ≠ .initializing :=
      hst'.resolve_right (not_not_intro hrun)
    have hview := flashView_countIteration n s₂
    have hsrc := sameSources_countIteration n s₂
    have hact : flashView (activate s₀) = flashView s := hv₀
    cases stateFunction_asks P (s := activate s₀) hidle rfl hdisp with
    | nothing hv =>
      have hv' := (hview.trans hv).trans hact
      refine .passes (flashRequests_of_view hv') (.of_idle P ?_ hst₂)
      rw [flashState_of_view (hview.trans hv)]
      exact hidle
    | command hno haw hof hctl hr =>
      obtain ⟨r, hr⟩ := hr
      have hof' : Operation.of (packetCmd s₀.cmdPacketBuf) =
          .command (packetCmd s₀.cmdPacketBuf) := hof
      rw [hof'] at hissue
      refine .lodged P r _ ((hr.after hact).still hview hsrc) hissue ?_ trivial
        fun hinit => absurd hinit hst₂
      rw [handlers_countIteration, hctl]
      exact handlers_command hrun rfl haw
    | erase hcmd hhand hr =>
      obtain ⟨r, hr, hnone⟩ := hr
      have hof' : Operation.of (packetCmd s₀.cmdPacketBuf) = .erasePages := by
        rw [show packetCmd s₀.cmdPacketBuf = .eraseFlashPages from hcmd]
        rfl
      rw [hof'] at hissue
      refine .lodged P r _ ((hr.after hact).still hview hsrc) hissue ?_ hnone
        fun hinit => absurd hinit hst₂
      rw [handlers_countIteration]
      exact hhand
  · have haside := stateFunction_running P (s := activate s₀) hrun rfl hdisp
    have hv : flashView (countIteration n s₂) = flashView s₀ :=
      (flashView_countIteration n s₂).trans haside.view
    refine .passes ((flashRequests_of_view hv).trans hreq₀)
      (flashStep_answered P hi hop hop' hpkt hord.2.1 hv ?_ ?_)
    · have hact : SameSources s₀ (activate s₀) := ⟨rfl, rfl, rfl⟩
      exact (hact.trans haside.sources).trans (sameSources_countIteration n s₂)
    · rw [deviceState_countIteration]
      exact haside.deviceState

/-- No packet enters DS_INITIALIZING. -/
theorem ne_initializing_of_packet {st : DeviceState} (hst : stateOperation s.deviceState = none)
    (hbackup : stateOperation s.backupPrevState = none) (he : PacketEnters s st) :
    st ≠ .initializing := by
  cases he with
  | stays => exact ne_initializing hst
  | leaves h =>
    rcases h with rfl | rfl | rfl | rfl
    all_goals exact nofun
  | backupDone _ _ =>
    intro h
    rw [h] at hbackup
    cases hbackup

theorem flashStep_received (hi : FlashInv P h s₀) (hop : OperationInv s₀.toControl)
    (hpkt : PacketUndisturbed P s₀) (hv₀ : flashView s₀ = flashView s)
    (hissue : Issuer s e (.of (packetCmd s₀.cmdPacketBuf))) (hr : Received P s₀ s') :
    FlashStep P h s e s' := by
  have hop' := operationInv_received P hop hpkt hr
  have henters := packetEnters_received P hr
  have hreq₀ := flashRequests_of_view hv₀
  have hact : flashView (activate s₀) = flashView s := hv₀
  cases hr with
  | disconnect hc =>
    have hv := flashView_cmdDisconnect s₀
    refine .passes ((flashRequests_of_view hv).trans hreq₀) (.of_idle P ?_ nofun)
    rw [flashState_of_view hv]
    exact hi.idle_packet P hpkt (.inl hc)
  | ignored _ _ _ => exact .passes hreq₀ hi
  | canceled hc _ hw =>
    refine .passes hreq₀ ?_
    have hside : Aside s₀ (endButtonPressWait s₀) := ⟨rfl, ⟨rfl, rfl, rfl⟩, rfl, rfl⟩
    by_cases hkept : commandOperation s₀.activeCmd = none ∨ s₀.cmdMessagesRemaining ≠ 0
    · have haside := hside.trans (aside_finishCommandResp .buttonPressCanceled _ hkept)
      exact hi.moves P haside.view haside.deviceState haside.operation (.inl haside.sources)
    · rw [not_or] at hkept
      have hidle : s₀.flashState = .idle := by
        by_contra hbusy
        exact hkept.2 ((hpkt.command hbusy hkept.1).2 hw)
      exact .of_idle P hidle (ne_initializing (hop.command hkept.1))
  | misfire _ hno =>
    refine .passes hreq₀ (hi.moves P rfl rfl ?_ (.inl ⟨rfl, rfl, rfl⟩))
    rw [hno]
  | startup hc =>
    have hidle := hi.idle_packet P hpkt (.inr hc)
    have hactive : (activate s₀).activeCmd = some .startup := congrArg some hc
    have hst : (startupCmd P (activate s₀)).deviceState ≠ .initializing := by
      obtain ⟨st, hor, hreach⟩ := reaches_startupCmd P (activate s₀)
      rw [show (startupCmd P (activate s₀)).deviceState = st from hreach.deviceState]
      rcases hor with rfl | rfl
      · exact nofun
      · exact nofun
    rcases asks_startupCmd P (s := activate s₀) hidle hactive with
      hv | ⟨hrepair, ⟨r, hr⟩, hhand⟩
    · refine .passes (flashRequests_of_view (hv.trans hact)) (.of_idle P ?_ hst)
      rw [flashState_of_view hv]
      exact hidle
    · have hdisc : s₀.deviceState = .disconnected := by
        by_contra hne
        exact hpkt.startup hc hne hrepair
      have hof : Operation.of (packetCmd s₀.cmdPacketBuf) = .command .startup := by
        rw [hc]
        rfl
      rw [hof] at hissue
      exact .lodged P r _ (hr.after hact) hissue (hhand hdisc) trivial
        fun hinit => absurd hinit hst
  | getDeviceState hc =>
    refine .passes hreq₀ (flashStep_answered P hi hop hop' hpkt ?_ rfl ⟨rfl, rfl, rfl⟩ rfl)
    simp [hc]
  | tooLong hord _ =>
    exact .passes hreq₀
      (flashStep_answered P hi hop hop' hpkt hord.2.1 rfl ⟨rfl, rfl, rfl⟩ rfl)
  | rejected hord _ _ =>
    have hv : flashView (countIteration (packetMessagesRemaining s₀.cmdPacketBuf)
        (finishCommandResp .invalidState (activate s₀))) = flashView s₀ :=
      (flashView_countIteration _ _).trans rfl
    have hfin : SameSources s₀ (finishCommandResp .invalidState (activate s₀)) := ⟨rfl, rfl, rfl⟩
    refine .passes ((flashRequests_of_view hv).trans hreq₀)
      (flashStep_answered P hi hop hop' hpkt hord.2.1 hv ?_ ?_)
    · exact hfin.trans (sameSources_countIteration _ _)
    · rw [deviceState_countIteration]
      rfl
  | handled hord _ hdisp =>
    refine flashStep_handled P hi hop hop' hpkt hv₀ hissue hord ?_ hdisp
    by_cases hrun : stateOperation s₀.deviceState = none
    · exact .inl (ne_initializing_of_packet hrun hop.backup henters)
    · exact .inr hrun

/-! ### Runs -/

theorem flashStep_packet {packet : Bytes} (hi : FlashInv P h s) (hop : OperationInv s.toControl)
    (hok : Undisturbed P s (.hidRx packet)) (hh : s.hung = false) :
    FlashStep P h s (.hidRx packet) (step P s (.hidRx packet)) := by
  cases hd : delivered s (.hidRx packet) with
  | none =>
    rcases step_stored P hh hd with hs | ⟨hfits, hs⟩
    · rw [hs]
      exact flashStep_aside P hi .rfl
    · rw [hs]
      exact .passes rfl (hi.stored P packet (hok.buffer packet rfl hfits))
  | some s₀ =>
    obtain ⟨packet', hpkt, hfits, -, hs₀⟩ := delivered_stored hd
    cases hpkt
    have hi₀ : FlashInv P h s₀ := hs₀ ▸ hi.stored P packet (hok.buffer packet rfl hfits)
    have hv₀ := flashView_of_stored hs₀
    have hop₀ : OperationInv s₀.toControl := (delivered_eq hd).1 ▸ hop
    cases hr : cmdPacketRecv P s₀ with
    | none =>
      -- a reset: the requests made so far are all that is left
      rw [step_reset_eq P hd hr]
      have hout := delivered_outputs hd
      refine .passes ?_ (.of_idle P rfl nofun)
      show s₀.outputs.filterMap Output.flashRequest = s.outputs.filterMap Output.flashRequest
      rw [hout]
    | some s' =>
      rw [step_recv P hd hr]
      exact flashStep_received P hi₀ hop₀ (hok.packet s₀ hd) hv₀ (.packet hd)
        (received_cmdPacketRecv P hr)

/-- **An undisturbed step keeps the flash writes.** -/
theorem flashStep (hi : FlashInv P h s) (hop : OperationInv s.toControl)
    (hok : Undisturbed P s e) : FlashStep P h s e (step P s e) := by
  by_cases hh : s.hung = true
  · rw [step_hung P hh]
    exact flashStep_aside P hi .rfl
  · rw [Bool.not_eq_true] at hh
    have hnot : ¬ s.hung = true := by simp [hh]
    cases e with
    | hidRx packet => exact flashStep_packet P hi hop hok hh
    | packetSent => exact flashStep_packetSent P hi hok hh
    | buttonDown => exact flashStep_buttonDown P hi hok hh
    | buttonUp =>
      unfold step
      rw [if_neg hnot]
      dsimp only
      split
      · refine flashStep_aside P hi ((aside_buttonRelease s).trans ?_)
        exact ⟨rfl, ⟨rfl, rfl, rfl⟩, rfl, rfl⟩
      · exact flashStep_aside P hi .rfl
    | buttonHeld => exact flashStep_buttonHeld P hi hok hh
    | blinkTimeout => exact flashStep_blinkTimeout P hi hop hok hh
    | timer =>
      unfold step
      rw [if_neg hnot]
      dsimp only
      split
      · refine flashStep_aside P hi ((aside_timerTimeout s).trans ?_)
        exact ⟨rfl, ⟨rfl, rfl, rfl⟩, rfl, rfl⟩
      · exact flashStep_aside P hi .rfl
    | rtcWord w =>
      have hside : Aside s { s with rtcRand := s.rtcRand.put w } := ⟨rfl, ⟨rfl, rfl, rfl⟩, rfl, rfl⟩
      exact flashStep_word P hi hop hok hh rfl hside rfl (if_neg hnot)
    | rngWord w =>
      have hside : Aside s { s with rngRand := s.rngRand.put w } := ⟨rfl, ⟨rfl, rfl, rfl⟩, rfl, rfl⟩
      exact flashStep_word P hi hop hok hh rfl hside rfl (if_neg hnot)
    | flashHandler eop =>
      refine flashStep_flash P hi hop (fun hidle => ?_) fun r i hw => flashTick_handler P hw hh eop
      have hstep : step P s (.flashHandler eop) = flashHandler P eop s := if_neg hnot
      rw [hstep]
      unfold flashHandler
      rw [if_neg (by simp [hidle])]
    | flashIdle err =>
      refine flashStep_flash P hi hop (fun hidle => ?_) fun r i hw => flashTick_idle P hw hh err
      have hstep : step P s (.flashIdle err) = flashIdle P err s := if_neg hnot
      rw [hstep]
      unfold flashIdle
      rw [if_neg (by simp [hidle])]
    | txKeyboard =>
      unfold step
      rw [if_neg hnot]
      exact flashStep_aside P hi (aside_usbTxKeyboard s)
    | keyboardIdle elapsed =>
      unfold step
      rw [if_neg hnot]
      exact flashStep_aside P hi (aside_usbKeyboardIdle elapsed s)

theorem flashInv_run (hr : DevRun P (Undisturbed P) h s) : FlashInv P h s := by
  refine hr.invariant (P := fun h s => FlashInv P h s) ?_ ?_
  · rintro s ⟨flash, rfl⟩
    exact .of_idle P rfl nofun
  · intro h s e hr hok hi
    exact (flashStep P hi (operationInv_run P hr) hok).inv

/-- **Undisturbed runs keep their flash writes**: every request is started, what is
    programmed is what its source held at the call, and its completion is taken for the
    operation that made it, and for no other. -/
theorem flash_writes_kept (hr : DevRun P (Undisturbed P) h s) (hok : Undisturbed P s e) :
    Kept P h s e := by
  have hi := flashInv_run P hr
  refine ⟨(flashStep P hi (operationInv_run P hr) hok).started, fun s₁ hcomp => ?_⟩
  have hbusy : s.flashState ≠ .idle ∧ s.hung = false := by
    unfold completion at hcomp
    split at hcomp
    · split at hcomp
      · rename_i hcond
        exact ⟨by simp [hcond.2.1], hcond.1⟩
      · cases hcomp
    · split at hcomp
      · rename_i hcond
        exact ⟨by simp [hcond.2.1], hcond.1⟩
      · cases hcomp
    · cases hcomp
  obtain ⟨op, r, i, hpend, hwork, hhand, -⟩ := hi.busy hbusy.1
  have htick : FlashTick P s r e := by
    cases e with
    | flashHandler eop => exact flashTick_handler P hwork hbusy.2 eop
    | flashIdle err => exact flashTick_idle P hwork hbusy.2 err
    | _ => cases hcomp
  cases htick with
  | goesOn j hno _ _ => cases hno.symm.trans hcomp
  | fails s₂ hno _ _ _ => cases hno.symm.trans hcomp
  | completes s₂ hcomp' _ _ hmoves hread _ =>
    cases hcomp.symm.trans hcomp'
    exact ⟨op, r, hpend, hread, hmoves.control ▸ hhand⟩

/-- Nothing is under way, and no STARTUP comes outside DS_DISCONNECTED. -/
def calmStep (s : Dev) (e : Event) : Prop :=
  s.flashState = .idle ∧ stateOperation s.deviceState = none ∧
    ∀ s₀ ∈ delivered s e, packetCmd s₀.cmdPacketBuf = .startup → s₀.deviceState = .disconnected

instance (s : Dev) (e : Event) : Decidable (calmStep s e) :=
  haveI : Decidable (∀ s₀ ∈ delivered s e, packetCmd s₀.cmdPacketBuf = .startup →
      s₀.deviceState = .disconnected) := inferInstanceAs (Decidable (∀ s₀ ∈ delivered s e, _))
  inferInstanceAs (Decidable (_ ∧ _ ∧ _))

theorem undisturbed_of_calmStep (hcalm : calmStep s e) : Undisturbed P s e := by
  obtain ⟨hidle, hrun, hstartup⟩ := hcalm
  have hno : ¬ WriteUnderWay s := by
    rintro (h | h)
    · exact h hidle
    · exact h hrun
  have hni : s.deviceState ≠ .initializing := ne_initializing hrun
  constructor
  · intro packet _ _ hbusy
    exact absurd hidle hbusy
  · intro s₀ hd
    obtain ⟨packet, -, -, -, rfl⟩ := delivered_stored hd
    constructor
    · intro hbusy
      exact absurd hidle hbusy
    · intro hbusy
      exact absurd hidle hbusy
    · intro h
      exact absurd hrun h
    · intro hc hne
      exact absurd (hstartup _ hd hc) hne
  · intro k h
    exact absurd h hno
  · intro hbusy
    exact absurd hidle hbusy
  · intro h
    exact absurd h hno
  · intro h
    exact absurd h hni
  · intro h
    exact absurd h hni

/-- The events of the driver disturb nothing. -/
theorem undisturbed_of_isFlash (he : e.isFlash = true) : Undisturbed P s e := by
  have hpkt : ∀ packet, e ≠ .hidRx packet := by
    rintro packet rfl
    cases he
  have hword : e.isWord = false := by
    cases e with
    | rtcWord _ => cases he
    | rngWord _ => cases he
    | _ => rfl
  constructor
  · intro packet h
    exact absurd h (hpkt packet)
  · intro s₀ hd
    rw [delivered_of_ne hpkt] at hd
    cases hd
  · rintro (_ | _) _ ⟨rfl, -⟩
    · cases he
    · cases he
  · rintro _ _ ⟨rfl, -⟩
    cases he
  · intro _ h
    rw [hword] at h
    cases h
  · intro _ h
    rw [hword] at h
    cases h
  · rintro _ rfl
    cases he

/-- The bytes of a data block: 1, 2, 3 and so on. -/
def countedBytes : Bytes := (List.range BLK_SIZE).map fun i => UInt8.ofNat (i + 1)

/-- STARTUP, a confirmed RESTORE_DEVICE, WRITE_BLOCK for block 1, the end of its erase, and
    all turns of its programming but the last. -/
def writing : History Dev Event × Dev :=
  replay (step addPlatform)
    (hidPackets 0 6 0 [] ++ hidPackets 24 6 0 [] ++ [.buttonDown, .buttonHeld] ++
      hidPackets 25 (7 + BLK_SIZE) 0 (1 :: countedBytes) ++
      .flashHandler true :: List.replicate 7 (.flashIdle none))
    ([], powerOn addPlatform fun _ => 0)

theorem flash_writes_kept_block :
    (completion writing.2 (.flashIdle none)).isSome = true ∧
      (step addPlatform writing.2 (.flashIdle none)).flash.read (idBlk 1 + 2044) 4 =
        [253, 254, 255, 0] ∧
      Kept addPlatform writing.1 writing.2 (.flashIdle none) := by
  have hrun : DevRun addPlatform anyStep writing.1 writing.2 :=
    run_replay _ ([], powerOn addPlatform fun _ => 0) (.start ⟨_, rfl⟩)
  have hsteps : ∀ x ∈ writing.1, calmStep x.1 x.2 ∨ x.2.isFlash = true := by decide +kernel
  have hok : ∀ x ∈ writing.1, Undisturbed addPlatform x.1 x.2 := by
    intro x hx
    rcases hsteps x hx with hcalm | hflash
    · exact undisturbed_of_calmStep addPlatform hcalm
    · exact undisturbed_of_isFlash addPlatform hflash
  refine ⟨by decide +kernel, by decide +kernel, ?_⟩
  exact flash_writes_kept addPlatform (hrun.restrict hok) (undisturbed_of_isFlash _ rfl)

end SignetBase.Firmware
