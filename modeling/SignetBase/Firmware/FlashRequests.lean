/-
  SignetBase/Firmware/FlashRequests.lean
  ======================================
  **Who asks the flash driver for what.**

  Most functions of the model make no request and leave the driver alone: one
  equation for each says that the driver and the requests made so far
  (`flashView`) stay what they were.  The others make one request, which an idle
  driver starts: it then works on that request out of a source that still holds
  what it held at the call (`Lodged`).
-/
import SignetBase.Firmware.Outputs

namespace SignetBase.Firmware

open Control

variable (P : Platform)

/-! ### Requests -/

/-- A call of `flash_write_page` or `flash_write`. -/
structure FlashRequest where
  dest : Nat
  src : Option Ptr
  held : Bytes
  started : Bool
deriving DecidableEq, Repr

/-- The request an output is. -/
def Output.flashRequest : Output → Option FlashRequest
  | .flashWritePage dest src _ held started => some ⟨dest, src, held, started⟩
  | .flashWrite dest src _ held started => some ⟨dest, some src, held, started⟩
  | _ => none

/-- The requests made so far, newest first. -/
def Dev.flashRequests (s : Dev) : List FlashRequest := s.outputs.filterMap Output.flashRequest

/-- The driver, and what it was asked for. -/
structure FlashView where
  driver : FlashDriver
  requests : List FlashRequest

/-- The driver of the device and its requests. -/
def flashView (s : Dev) : FlashView := ⟨s.toFlashDriver, s.flashRequests⟩

/-- The driver works on the request `r`: it has programmed `i` double words, and
    the source holds what it held at the call. -/
structure Working (s : Dev) (r : FlashRequest) (i : Nat) : Prop where
  busy : s.flashState ≠ .idle
  erasing : s.flashState = .erasing → i = 0
  erases : r.src = none → s.flashState = .erasing ∧ r.held = []
  data : s.flashWriteData = r.src.map fun p => { p with off := p.off + 8 * i }
  addr : s.flashWriteAddr = r.dest + 8 * i
  count : r.held.length = 8 * (i + s.flashWriteCount)
  source : ∀ p ∈ r.src, p.object ≠ .cleartextTypeBuf ∧ s.deref p r.held.length = r.held
  programmed : s.flash.read r.dest (8 * i) = r.held.take (8 * i)

/-- The request `r` was made and started, and nothing is programmed yet. -/
structure Lodged (s s' : Dev) (r : FlashRequest) : Prop where
  requests : s'.flashRequests = r :: s.flashRequests
  started : r.started = true
  flash : s'.flash = s.flash
  working : Working s' r 0

/-- What the driver programs from stays what it is. -/
structure SameSources (s s' : Dev) : Prop where
  cmdData : s'.cmdData = s.cmdData
  rootPage : s'.rootPage = s.rootPage
  cmdPacketBuf : s'.cmdPacketBuf = s.cmdPacketBuf

variable {s s' s'' : Dev} {r : FlashRequest} {i : Nat}

theorem SameSources.refl (s : Dev) : SameSources s s := ⟨rfl, rfl, rfl⟩

theorem SameSources.trans (h : SameSources s s') (h' : SameSources s' s'') : SameSources s s'' :=
  ⟨h'.cmdData.trans h.cmdData, h'.rootPage.trans h.rootPage, h'.cmdPacketBuf.trans h.cmdPacketBuf⟩

theorem SameSources.deref (h : SameSources s s') {p : Ptr} (hp : p.object ≠ .cleartextTypeBuf)
    (n : Nat) : s'.deref p n = s.deref p n := by
  unfold Dev.deref
  cases ho : p.object with
  | cmdData => exact congrArg (Mem.read · p.off n) h.cmdData
  | rootPage => exact congrArg (Mem.read · p.off n) h.rootPage
  | cmdPacketBuf => exact congrArg (Mem.read · p.off n) h.cmdPacketBuf
  | cleartextTypeBuf => exact absurd ho hp

theorem flashRequests_of_view (h : flashView s' = flashView s) :
    s'.flashRequests = s.flashRequests :=
  congrArg FlashView.requests h

theorem flashDriver_of_view (h : flashView s' = flashView s) :
    s'.toFlashDriver = s.toFlashDriver :=
  congrArg FlashView.driver h

theorem flashState_of_view (h : flashView s' = flashView s) : s'.flashState = s.flashState :=
  congrArg FlashDriver.flashState (flashDriver_of_view h)

theorem flash_of_view (h : flashView s' = flashView s) : s'.flash = s.flash :=
  congrArg FlashDriver.flash (flashDriver_of_view h)

/-- What does not concern the driver does not disturb it. -/
theorem Working.of_view (hw : Working s r i) (hv : flashView s' = flashView s)
    (hsrc : ∀ p ∈ r.src, s'.deref p r.held.length = s.deref p r.held.length) :
    Working s' r i := by
  have hd := flashDriver_of_view hv
  have hstate : s'.flashState = s.flashState := congrArg FlashDriver.flashState hd
  have hdata : s'.flashWriteData = s.flashWriteData := congrArg FlashDriver.flashWriteData hd
  have haddr : s'.flashWriteAddr = s.flashWriteAddr := congrArg FlashDriver.flashWriteAddr hd
  have hcount : s'.flashWriteCount = s.flashWriteCount := congrArg FlashDriver.flashWriteCount hd
  have hflash : s'.flash = s.flash := congrArg FlashDriver.flash hd
  constructor
  · exact hstate ▸ hw.busy
  · exact hstate ▸ hw.erasing
  · exact hstate ▸ hw.erases
  · exact hdata.trans hw.data
  · exact haddr.trans hw.addr
  · exact hcount ▸ hw.count
  · intro p hp
    obtain ⟨ho, hheld⟩ := hw.source p hp
    exact ⟨ho, (hsrc p hp).trans hheld⟩
  · exact hflash ▸ hw.programmed

/-- A request made after steps that do not concern the driver. -/
theorem Lodged.after (h : Lodged s' s'' r) (hv : flashView s' = flashView s) : Lodged s s'' r where
  requests := h.requests.trans (congrArg (r :: ·) (flashRequests_of_view hv))
  started := h.started
  flash := h.flash.trans (flash_of_view hv)
  working := h.working

/-- A request made before steps that neither concern the driver nor the source. -/
theorem Lodged.before (h : Lodged s s' r) (hv : flashView s'' = flashView s')
    (hsrc : ∀ p ∈ r.src, s''.deref p r.held.length = s'.deref p r.held.length) :
    Lodged s s'' r where
  requests := (flashRequests_of_view hv).trans h.requests
  started := h.started
  flash := (flash_of_view hv).trans h.flash
  working := h.working.of_view hv hsrc

theorem Lodged.still (h : Lodged s s' r) (hv : flashView s'' = flashView s')
    (hsrc : SameSources s' s'') : Lodged s s'' r :=
  h.before hv fun p hp => hsrc.deref (h.working.source p hp).1 _

/-! ### The two calls -/

theorem length_heldBytes (src : Ptr) (count : Int) (s : Dev) :
    (heldBytes (some src) count s).length = 8 * doubleWords count :=
  Mem.length_read _ _ _

/-- An idle driver takes the request for a page. -/
theorem lodged_flashWritePage (dest : Nat) {src : Ptr} (count : Int)
    (hidle : s.flashState = .idle) (hobj : src.object ≠ .cleartextTypeBuf) :
    Lodged s (flashWritePage dest (some src) count s)
      ⟨dest, some src, heldBytes (some src) count s, true⟩ := by
  have hlen := length_heldBytes src count s
  unfold flashWritePage
  rw [if_pos hidle]
  refine ⟨rfl, rfl, rfl, ?_⟩
  constructor
  · exact nofun
  · exact fun _ => rfl
  · exact nofun
  · rfl
  · rfl
  · rw [hlen, Nat.zero_add]
  · rintro p ⟨⟩
    rw [hlen]
    exact ⟨hobj, rfl⟩
  · rfl

theorem lodged_erase (dest : Nat) (hidle : s.flashState = .idle) :
    Lodged s (flashWritePage dest none 0 s) ⟨dest, none, [], true⟩ := by
  unfold flashWritePage
  rw [if_pos hidle]
  refine ⟨rfl, rfl, rfl, ?_⟩
  constructor
  · exact nofun
  · exact fun _ => rfl
  · exact fun _ => ⟨rfl, rfl⟩
  · rfl
  · rfl
  · rfl
  · exact nofun
  · rfl

theorem lodged_flashWrite (dest : Nat) {src : Ptr} (count : Int) (hidle : s.flashState = .idle)
    (hobj : src.object ≠ .cleartextTypeBuf) :
    Lodged s (flashWrite dest src count s)
      ⟨dest, some src, heldBytes (some src) count s, true⟩ := by
  have hlen := length_heldBytes src count s
  unfold flashWrite
  rw [if_pos hidle]
  refine ⟨rfl, rfl, rfl, ?_⟩
  constructor
  · exact nofun
  · exact nofun
  · exact nofun
  · rfl
  · rfl
  · rw [hlen, Nat.zero_add]
  · rintro p ⟨⟩
    rw [hlen]
    exact ⟨hobj, rfl⟩
  · rfl

/-! ### Responses, states, waits -/

@[simp] theorem flashView_emit_response (res : Response) (s : Dev) :
    flashView (s.emit (.response res)) = flashView s := rfl

@[simp] theorem flashView_finishCommandMulti (resp : CommandResponse) (mr : Int)
    (payload : Option Bytes) (n : Nat) (s : Dev) :
    flashView (finishCommandMulti resp mr payload n s) = flashView s := rfl

@[simp] theorem flashView_finishCommand (resp : CommandResponse) (payload : Bytes) (s : Dev) :
    flashView (finishCommand resp payload s) = flashView s := rfl

@[simp] theorem flashView_finishCommandResp (resp : CommandResponse) (s : Dev) :
    flashView (finishCommandResp resp s) = flashView s := rfl

@[simp] theorem flashView_getProgressCheck (s : Dev) :
    flashView (getProgressCheck s) = flashView s := by
  unfold getProgressCheck
  split
  · simp only
    split
    · rfl
    · split <;> rfl
  · rfl

@[simp] theorem flashView_enterProgressingState (st : DeviceState) (mx : List Int) (s : Dev) :
    flashView (enterProgressingState st mx s) = flashView s :=
  flashView_getProgressCheck _

@[simp] theorem flashView_enterState (st : DeviceState) (s : Dev) :
    flashView (enterState st s) = flashView s :=
  flashView_getProgressCheck _

@[simp] theorem flashView_randFill (f : Nat → Nat → Nat) (off n : Nat) (s : Dev) :
    flashView (randFill f off n s) = flashView s := by
  induction n generalizing off s with
  | zero => rfl
  | succ n ih => exact (ih _ _).trans rfl

theorem sameSources_finishCommandMulti (resp : CommandResponse) (mr : Int)
    (payload : Option Bytes) (n : Nat) (s : Dev) :
    SameSources s (finishCommandMulti resp mr payload n s) := ⟨rfl, rfl, rfl⟩

theorem sameSources_getProgressCheck (s : Dev) : SameSources s (getProgressCheck s) := by
  unfold getProgressCheck
  split
  · simp only
    split
    · exact sameSources_finishCommandMulti _ _ _ _ s
    · split
      · exact sameSources_finishCommandMulti _ _ _ _ s
      · exact .refl s
  · exact .refl s

theorem sameSources_enterProgressingState (st : DeviceState) (mx : List Int) (s : Dev) :
    SameSources s (enterProgressingState st mx s) := by
  have h : SameSources s (resetProgress st mx s) := ⟨rfl, rfl, rfl⟩
  exact h.trans (sameSources_getProgressCheck _)

/-! ### Commands that make no request -/

@[simp] theorem flashView_drawLoginToken (s : Dev) : flashView (drawLoginToken s) = flashView s :=
  flashView_randFill _ _ _ s

@[simp] theorem flashView_storeTokenCiphertexts (s : Dev) :
    flashView (storeTokenCiphertexts P s) = flashView s := rfl

@[simp] theorem flashView_loginCmdIter (s : Dev) : flashView (loginCmdIter P s) = flashView s := by
  have hdraw : flashView (storeTokenCiphertexts P (drawLoginToken s)) = flashView s := by
    rw [flashView_storeTokenCiphertexts, flashView_drawLoginToken]
  unfold loginCmdIter
  generalize storeTokenCiphertexts P (drawLoginToken s) = s₁ at hdraw ⊢
  split
  · simp only [flashView_enterState, flashView_finishCommandMulti]
    exact hdraw
  · rfl

@[simp] theorem flashView_loginCmd (data : Mem) (dataLen : Int) (s : Dev) :
    flashView (loginCmd data dataLen s) = flashView s := by
  unfold loginCmd
  simp only
  split <;> rfl

@[simp] theorem flashView_loginTokenCmd (data : Mem) (dataLen : Int) (s : Dev) :
    flashView (loginTokenCmd data dataLen s) = flashView s := by
  unfold loginTokenCmd
  split <;> rfl

@[simp] theorem flashView_initializeCmd (data : Mem) (dataLen : Int) (s : Dev) :
    flashView (initializeCmd data dataLen s) = flashView s := by
  unfold initializeCmd
  split <;> rfl

@[simp] theorem flashView_getProgressCmd (data : Mem) (dataLen : Int) (s : Dev) :
    flashView (getProgressCmd data dataLen s) = flashView s := by
  unfold getProgressCmd
  simp only
  split
  · rfl
  · exact flashView_getProgressCheck _

theorem sameSources_getProgressCmd (data : Mem) (dataLen : Int) (s : Dev) :
    SameSources s (getProgressCmd data dataLen s) := by
  unfold getProgressCmd
  simp only
  split
  · exact ⟨rfl, rfl, rfl⟩
  · refine SameSources.trans ?_ (sameSources_getProgressCheck _)
    exact ⟨rfl, rfl, rfl⟩

@[simp] theorem flashView_readBlockCmd (data : Mem) (dataLen : Int) (s : Dev) :
    flashView (readBlockCmd P data dataLen s) = flashView s := by
  unfold readBlockCmd
  split <;> rfl

@[simp] theorem flashView_changeMasterPasswordCmd (data : Mem) (dataLen : Int) (s : Dev) :
    flashView (changeMasterPasswordCmd P data dataLen s) = flashView s := by
  unfold changeMasterPasswordCmd
  simp only
  split
  · rfl
  · split
    · split <;> rfl
    · rfl

@[simp] theorem flashView_cmdDisconnect (s : Dev) : flashView (cmdDisconnect s) = flashView s :=
  flashView_enterState _ _

@[simp] theorem flashView_enterMobileModeCmd (s : Dev) :
    flashView (enterMobileModeCmd s) = flashView s :=
  flashView_cmdDisconnect s

@[simp] theorem flashView_getRandBitsCmdCheck (s : Dev) :
    flashView (getRandBitsCmdCheck s) = flashView s := by
  unfold getRandBitsCmdCheck
  simp only
  split
  · simp only [flashView_finishCommand, flashView_randFill]
  · rfl

@[simp] theorem flashView_getRandBitsCmd (data : Mem) (dataLen : Int) (s : Dev) :
    flashView (getRandBitsCmd data dataLen s) = flashView s := by
  unfold getRandBitsCmd
  simp only
  split
  · rfl
  · split
    · rfl
    · exact flashView_getRandBitsCmdCheck _

@[simp] theorem flashView_usbKeyboardTypingDone (s : Dev) :
    flashView (usbKeyboardTypingDone s) = flashView s := by
  unfold usbKeyboardTypingDone
  simp only
  split
  · split <;> rfl
  · split <;> rfl

@[simp] theorem flashView_usbKeyboardType (chars : Ptr) (n : Nat) (s : Dev) :
    flashView (usbKeyboardType usbKeyboardTypingDone chars n s) = flashView s := by
  unfold usbKeyboardType
  split
  · rfl
  · split
    · exact flashView_usbKeyboardTypingDone s
    · rfl

@[simp] theorem flashView_typeCmd (data : Mem) (dataLen : Int) (s : Dev) :
    flashView (typeCmd data dataLen s) = flashView s := by
  unfold typeCmd
  split
  · rfl
  · exact flashView_usbKeyboardType _ _ _

@[simp] theorem flashView_writeCleartextPassword (data : Mem) (dataLen : Int) (s : Dev) :
    flashView (writeCleartextPassword data dataLen s) = flashView s := by
  unfold writeCleartextPassword
  split <;> rfl

@[simp] theorem flashView_readCleartextPassword (data : Mem) (dataLen : Int) (s : Dev) :
    flashView (readCleartextPassword data dataLen s) = flashView s := by
  unfold readCleartextPassword
  split <;> rfl

@[simp] theorem flashView_readUidCmd (uid masked : Nat) (s : Dev) :
    flashView (readUidCmd P uid masked s) = flashView s := by
  unfold readUidCmd
  simp only
  split
  · rfl
  · split <;> rfl

@[simp] theorem flashView_readAllUidsCmdIter (s : Dev) :
    flashView (readAllUidsCmdIter P s) = flashView s := by
  unfold readAllUidsCmdIter
  simp only
  split
  · rfl
  · split <;> rfl

@[simp] theorem flashView_readAllUidsCmd (masked : Nat) (s : Dev) :
    flashView (readAllUidsCmd P masked s) = flashView s := by
  unfold readAllUidsCmd
  simp only
  split
  · rfl
  · exact flashView_readAllUidsCmdIter P _

@[simp] theorem flashView_loginPressed (key : Option Bytes) (s : Dev) :
    flashView (loginPressed key s) = flashView s := by
  unfold loginPressed
  split
  · exact flashView_enterState _ _
  · rfl

@[simp] theorem flashView_flashWriteFailed (s : Dev) :
    flashView (flashWriteFailed s) = flashView s := by
  unfold flashWriteFailed
  split <;> rfl

end SignetBase.Firmware
