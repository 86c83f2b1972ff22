/-
  SignetBase/Firmware/Protocol.lean
  =================================
  **Answering commands, entering states, waiting for the button, starting flash
  operations.**

  The helpers every command handler of `commands.c` is made of, and the request
  side of the flash driver.  Each comes with the facts callers use: which fields
  it leaves alone, and what it can do to the active command.
-/
import SignetBase.Firmware.State
import SignetBase.RawHid

namespace SignetBase.Firmware

/-! ### Responses -/

/-- `cmd_packet_send`: the response buffer goes to the transport. -/
def cmdPacketSend (r : Response) (s : Dev) : Dev :=
  { s.emit (.response r) with rawHidTxPending := true }

/-- `finish_command_multi`.  The command stays active while more messages are to
    come, in either direction.  Without a payload the bytes sent after the header
    are those the response buffer already held. -/
def finishCommandMulti (resp : CommandResponse) (messagesRemaining : Int)
    (payload : Option Bytes) (payloadLen : Nat) (s : Dev) : Dev :=
  let fullLength := payloadLen + CMD_PACKET_HEADER_SIZE
  let header := Mem.bytes16 fullLength ++ [resp.code] ++
    Mem.bytes16 (messagesRemaining % 65536).toNat ++ [s.deviceState.code]
  let cmdResp := (s.cmdResp.write 0 header).write CMD_PACKET_HEADER_SIZE (payload.getD [])
  let activeCmd :=
    if messagesRemaining = 0 ∧ s.cmdMessagesRemaining = 0 then none else s.activeCmd
  let r : Response :=
    { cmd := s.activeCmd, resp, messagesRemaining, state := s.deviceState,
      payload := cmdResp.read CMD_PACKET_HEADER_SIZE payloadLen }
  cmdPacketSend r { s with cmdResp, activeCmd }

/-- The response buffer is the one whose packets `usb_raw_hid.c` sends. -/
theorem cmdResp_finishCommandMulti (resp : CommandResponse) (messagesRemaining : Int)
    (payload : Option Bytes) (payloadLen : Nat) (s : Dev) :
    (finishCommandMulti resp messagesRemaining payload payloadLen s).cmdResp =
      HidResponse.writeTo { resp, messagesRemaining, state := s.deviceState, payload, payloadLen }
        s.cmdResp := rfl

/-- `finish_command`. -/
def finishCommand (resp : CommandResponse) (payload : Bytes) (s : Dev) : Dev :=
  finishCommandMulti resp 0 (some payload) payload.length s

/-- `finish_command_resp`. -/
def finishCommandResp (resp : CommandResponse) (s : Dev) : Dev :=
  finishCommandMulti resp 0 none 0 s

/-! ### Progress and states -/

/-- The sum of the first `n` values of a progress table. -/
def total (n : Nat) (level : Nat → Int) : Int := ((List.range n).map level).sum

/-- The two low bytes of an `int`. -/
def intBytes16 (v : Int) : Bytes := Mem.bytes16 (v % 65536).toNat

/-- `get_progress_check`. -/
def getProgressCheck (s : Dev) : Dev :=
  if s.activeCmd = some .getProgress then
    let totalProgress := total s.nProgressComponents s.progressLevel
    let totalProgressMaximum := total s.nProgressComponents s.progressMaximum
    if s.progressTargetState = s.deviceState.ctorIdx ∧ totalProgress > s.progressCheck then
      finishCommand .okay
        (intBytes16 totalProgress ++ intBytes16 totalProgressMaximum ++
          (List.range s.nProgressComponents).flatMap fun i =>
            intBytes16 (s.progressLevel i) ++ intBytes16 (s.progressMaximum i)) s
    else if s.progressTargetState ≠ s.deviceState.ctorIdx then finishCommandResp .invalidState s
    else s
  else s

/-- The assignments of `enter_progressing_state`, with the maxima of the progress
    components. -/
def resetProgress (state : DeviceState) (maximum : List Int) (s : Dev) : Dev :=
  { s with
    deviceState := state
    progressCheck := 0
    nProgressComponents := maximum.length
    progressLevel := fun i => if i < maximum.length then 0 else s.progressLevel i
    progressMaximum := fun i => maximum.getD i (s.progressMaximum i) }

/-- `enter_progressing_state`. -/
def enterProgressingState (state : DeviceState) (maximum : List Int) (s : Dev) : Dev :=
  getProgressCheck (resetProgress state maximum s)

/-- `enter_state`. -/
def enterState (state : DeviceState) (s : Dev) : Dev := enterProgressingState state [] s

/-! ### Waiting for the button -/

/-- `start_blinking`. -/
def startBlinking (s : Dev) : Dev := { s with blinking := true }

/-- `stop_blinking`. -/
def stopBlinking (s : Dev) : Dev := { s with blinking := false, blinkPaused := false }

/-- `begin_button_press_wait`. -/
def beginButtonPressWait (s : Dev) : Dev := startBlinking { s with waitingForButtonPress := true }

/-- `begin_long_button_press_wait`. -/
def beginLongButtonPressWait (s : Dev) : Dev :=
  startBlinking { s with waitingForLongButtonPress := true }

/-- `end_button_press_wait`. -/
def endButtonPressWait (s : Dev) : Dev := stopBlinking { s with waitingForButtonPress := false }

/-- `end_long_button_press_wait`. -/
def endLongButtonPressWait (s : Dev) : Dev :=
  stopBlinking { s with waitingForLongButtonPress := false }

/-! ### Starting flash operations -/

/-- The number of double words a request of `count` bytes programs (a `u16`). -/
def doubleWords (count : Int) : Nat := ((count + 7).tdiv 8 % 65536).toNat

/-- What the source of a request of `count` bytes holds. -/
def heldBytes (src : Option Ptr) (count : Int) (s : Dev) : Bytes :=
  match src with
  | none => []
  | some p => s.deref p (8 * doubleWords count)

/-- `flash_write_page`: erase the page of `dest`, then program `count` bytes of
    `src` there.  A request made while the driver is busy is dropped. -/
def flashWritePage (dest : Nat) (src : Option Ptr) (count : Int) (s : Dev) : Dev :=
  if s.flashState = .idle then
    { s.emit (.flashWritePage dest src count (heldBytes src count s) true) with
      flashWriteData := src
      flashWriteAddr := dest
      flashWriteCount := doubleWords count
      flashState := .erasing }
  else s.emit (.flashWritePage dest src count (heldBytes src count s) false)

/-- `flash_write`: program without erasing. -/
def flashWrite (dest : Nat) (src : Ptr) (count : Int) (s : Dev) : Dev :=
  if s.flashState = .idle then
    { s.emit (.flashWrite dest src count (heldBytes (some src) count s) true) with
      flashWriteData := some src
      flashWriteAddr := dest
      flashWriteCount := doubleWords count
      flashState := .writing }
  else s.emit (.flashWrite dest src count (heldBytes (some src) count s) false)

/-! ### Keyboard -/

/-- `usb_keyboard_type`: the count is a `u8`; a request made while typing is
    dropped.  `done` is `usb_keyboard_typing_done`. -/
def usbKeyboardType (done : Dev → Dev) (chars : Ptr) (n : Nat) (s : Dev) : Dev :=
  if s.typing then s
  else if n % 256 = 0 then done s
  else
    { s.emit (.keyboardReport (s.deref chars 2)) with
      nChars := n % 256
      chars := chars
      typing := true
      charPosToType := -1
      charPos := 1 }

end SignetBase.Firmware
