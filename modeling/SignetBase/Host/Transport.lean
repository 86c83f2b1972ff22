/-
  SignetBase/Host/Transport.lean
  ==============================
  **The thread that talks to the device on Linux (`signetdev_linux.c`).**

  Messages and cancel messages are queued by commands, and while the connection is open
  one loop takes them up, writes their packets and reads the packets of the
  responses, until both calls would block.  A message is an allocation: `heap` has those
  that are not freed, and a use of any other is a fault.  What a step does with the
  descriptor is left to its result: a read or a write succeeds, would block, or fails.
-/
import SignetBase.Host.Framing

namespace SignetBase

open Function

/-! ### The thread's state -/

/-- What the model does not follow any further. -/
inductive HostFault where
  | useAfterFree
  /-- `memcpy` of `(size_t)-1` bytes. -/
  | undefinedCopy
  /-- The response of a message that asked for none is looked at. -/
  | noResponse
deriving DecidableEq

/-- What has happened so far: the messages in the order of their commands, those whose
    transmission was begun and completed, their packets, the packets written, and the final
    responses. -/
structure HostLog where
  reqs : Nat → SendMessageReq
  issued : List Nat
  issuedCancels : List Nat
  started : List Nat
  startedCancels : List Nat
  packets : Nat → List Mem
  written : List (Nat × Mem)
  transmitted : List Nat
  answers : List Nat

/-- `struct signetdev_connection`, with `g_device_type`.  The two `message` pointers are
    `txMessage` and `rxMessage`, numbers of allocations; `looping` while
    `raw_hid_io_iter` runs. -/
structure HostThread where
  deviceType : DeviceType
  connected : Bool
  looping : Bool
  messages : List Nat
  cancelMessages : List Nat
  tx : TxMessageState
  txMessage : Option Nat
  rx : RxMessageState
  rxMessage : Option Nat
  heap : Nat → Option SendMessageReq
  allocated : Nat
  fault : Option HostFault
  log : HostLog

def SIGNET_ERROR_DISCONNECT : Int := -2

/-- `signetdev_priv_hid_packet_size`. -/
def signetdevPrivHidPacketSize : DeviceType → Int
  | some d => d.hidLink.rawHidPacketSize
  | none => -1

/-- What `write` returns. -/
inductive WriteResult where
  | ok
  | again
  | failed
deriving DecidableEq

/-- What `read` returns. -/
inductive ReadResult where
  | again
  | failed
  | bytes (n : Nat)
deriving DecidableEq

/-- A command from the pipe, an event of `epoll_wait`, or one turn of the loop with what the
    calls return and what `rx_packet_buf` holds after the read. -/
inductive HostEvent where
  | message (m : SendMessageReq)
  | cancelMessage (m : SendMessageReq)
  | openConnection (found : Option Device)
  | closeConnection
  | hangup
  | enterLoop
  | io (r : ReadResult) (buf : Mem) (w : WriteResult)

namespace HostThread

variable (s : HostThread)

/-! ### Messages -/

/-- `signetdev_priv_finalize_message` for a message whose response is passed on or not. -/
def finalizeMessage (p : Nat) (passedOn : Bool) : HostThread :=
  match s.heap p with
  | none => { s with fault := some .useAfterFree }
  | some m =>
    { s with
      heap := update s.heap p none
      log := { s.log with
        answers := if m.interrupt = false ∧ passedOn = true then s.log.answers ++ [p]
          else s.log.answers } }

/-- Whether `signetdev_priv_handle_command_resp` calls back with `SIGNET_ERROR_DISCONNECT`, a
    response without bytes. -/
def disconnectPassedOn (type : DeviceType) (m : SendMessageReq) : Bool :=
  match m.devCmd with
  | .readBlock | .readBlockHc => signetdevDeviceBlockSize type == 0
  | .getProgress => false
  | _ => true

/-- `signetdev_priv_prepare_message_state`.  Without a device the payload size is -1. -/
def prepareMessage (type : DeviceType) (m : SendMessageReq) (tx : TxMessageState) :
    TxMessageState :=
  match type with
  | some d => prepareMessageState d m.devCmd m.messagesRemaining m.payload tx
  | none =>
    { prepareMessageState .signet m.devCmd m.messagesRemaining m.payload tx with
      msgPacketCount := (m.payload.length + CMD_PACKET_HEADER_SIZE + 2 ^ 32 - 2) % 2 ^ 32 /
        (2 ^ 32 - 1) }

/-- The packets of a message. -/
def packetsOf (type : DeviceType) (tx : TxMessageState) : List Mem :=
  match type with
  | some d => messagePackets d tx
  | none => []

/-- A message that was taken from its queue is prepared. -/
def startMessage (p : Nat) (m : SendMessageReq) : HostThread :=
  let tx := prepareMessage s.deviceType m s.tx
  { s with
    tx
    txMessage := some p
    log := { s.log with packets := update s.log.packets p (packetsOf s.deviceType tx) } }

/-- The first part of `raw_hid_io`: a cancel message, or the next message when none waits for a
    response. -/
def takeMessage : HostThread :=
  if s.txMessage.isSome then s
  else
    match s.cancelMessages with
    | p :: rest =>
      match s.heap p with
      | none => { s with fault := some .useAfterFree }
      | some m =>
        startMessage
          { s with
            cancelMessages := rest
            log := { s.log with startedCancels := s.log.startedCancels ++ [p] } } p m
    | [] =>
      if s.rxMessage.isSome then s
      else
        match s.messages with
        | p :: rest =>
          match s.heap p with
          | none => { s with fault := some .useAfterFree }
          | some m =>
            startMessage
              { s with
                messages := rest
                rxMessage := if m.getResp then some p else none
                log := { s.log with started := s.log.started ++ [p] } } p m
        | [] => s

/-! ### The descriptor -/

/-- `handle_error`: the message that waits for its response, or else the one that is being
    transmitted, ends with `SIGNET_ERROR_DISCONNECT`. -/
def handleError : HostThread :=
  let s := if s.connected then { s with connected := false, deviceType := none } else s
  let finish (p : Nat) (m : SendMessageReq) : HostThread :=
    finalizeMessage { s with txMessage := none, rxMessage := none } p
      (disconnectPassedOn s.deviceType m)
  match s.rxMessage, s.txMessage with
  | some p, _ =>
    match s.heap p with
    | none => { s with fault := some .useAfterFree }
    | some m => finish p m
  | none, some p =>
    match s.heap p with
    | none => { s with fault := some .useAfterFree }
    | some m => if m.interrupt then s else finish p m
  | none, none => s

/-- The commands for which `signetdev_priv_handle_command_resp` looks at the response or at its
    length.  For any other it only calls back. -/
def looksAtResponse : Command → Bool
  | .readBlockHc | .readBlock | .readCleartextPassword | .readCleartextPasswordNames
  | .getProgress | .startup | .readAllUids | .readUid => true
  | _ => false

/-- `signetdev_priv_finalize_message` for a message without a response: `resp` is NULL and
    `resp_len` the size of the message. -/
def finalizeUnasked (p : Nat) (m : SendMessageReq) : HostThread :=
  if m.interrupt = false ∧ looksAtResponse m.devCmd = true then
    { s with fault := some .noResponse }
  else finalizeMessage s p true

/-- `attempt_raw_hid_write`; `true` when it returns 1. -/
def attemptRawHidWrite (w : WriteResult) : HostThread × Bool :=
  match s.txMessage with
  | none => (s, true)
  | some p =>
    if s.tx.msgPacketSeq = s.tx.msgPacketCount then
      let s := { s with log := { s.log with transmitted := s.log.transmitted ++ [p] } }
      match s.heap p with
      | none => ({ s with fault := some .useAfterFree }, false)
      | some m =>
        if m.getResp then ({ s with txMessage := none }, false)
        else (finalizeUnasked { s with txMessage := none } p m, false)
    else
      match s.deviceType with
      | none => ({ s with fault := some .undefinedCopy }, false)
      | some d =>
        let s := { s with tx := advanceMessageState d s.tx }
        match if s.connected then w else .failed with
        | .ok =>
          ({ s with log := { s.log with written := s.log.written ++ [(p, s.tx.packetBuf.window 1)] } },
            false)
        | .again => (s, true)
        | .failed => (handleError s, false)

/-- `signetdev_priv_handle_error`, which the handling of a response may call. -/
def privHandleError (failed : Bool) : HostThread :=
  if failed then { s with connected := false } else s

/-- Whether `signetdev_priv_handle_command_resp` calls back. -/
def passesOn (d : Device) : HostCall → Bool
  | .commandResp c => (handleCommandResp d c).data.isSome
  | .deviceEvent .. => true

/-- `signetdev_priv_process_rx_packet`. -/
def processPacket (buf : Mem) : HostThread :=
  if packetSeq buf = 0x7f then s
  else
    match s.rxMessage with
    | none => s
    | some p =>
      match s.heap p, s.deviceType with
      | none, _ => { s with fault := some .useAfterFree }
      | some _, none => { s with fault := some .undefinedCopy }
      | some m, some d =>
        let x := processRxPacket d { s.rx with message := some m } buf
        let passed := x.calls.all (passesOn d)
        let s := { s with rx := { x.state with message := none } }
        match x.state.message with
        | some m => privHandleError { s with heap := update s.heap p (some m) } (!passed)
        | none => privHandleError (finalizeMessage { s with rxMessage := none } p passed) (!passed)

/-- `attempt_raw_hid_read`; `true` when it returns 1. -/
def attemptRawHidRead (r : ReadResult) (buf : Mem) : HostThread × Bool :=
  match if s.connected then r else .failed with
  | .again => (s, true)
  | .failed =>
    if signetdevPrivHidPacketSize s.deviceType = -1 then (s.processPacket buf, false)
    else (s.handleError, true)
  | .bytes n =>
    if signetdevPrivHidPacketSize s.deviceType = n then (s.processPacket buf, false)
    else (s.handleError, true)

/-- `raw_hid_io`, and `raw_hid_io_iter`, which goes on while it returns 0. -/
def rawHidIo (r : ReadResult) (buf : Mem) (w : WriteResult) : HostThread :=
  let (s, blocked) := s.takeMessage.attemptRawHidRead r buf
  let (s, blocked) := if blocked then s.attemptRawHidWrite w else (s, false)
  { s with looping := !blocked }

/-! ### Commands -/

/-- A new message. -/
def allocate (m : SendMessageReq) : HostThread :=
  { s with
    heap := update s.heap s.allocated (some m)
    allocated := s.allocated + 1
    log := { s.log with reqs := update s.log.reqs s.allocated m } }

/-- `signetdev_priv_send_message` and `SIGNETDEV_CMD_MESSAGE`. -/
def sendMessage (m : SendMessageReq) : HostThread :=
  let p := s.allocated
  let s := s.allocate { m with interrupt := false }
  { s with messages := s.messages ++ [p], log := { s.log with issued := s.log.issued ++ [p] } }

/-- `signetdev_priv_cancel_message` and `SIGNETDEV_CMD_CANCEL_MESSAGE`. -/
def cancelMessage (m : SendMessageReq) : HostThread :=
  let p := s.allocated
  let s := s.allocate { m with interrupt := true, getResp := false }
  { s with
    cancelMessages := s.cancelMessages ++ [p]
    log := { s.log with issuedCancels := s.log.issuedCancels ++ [p] } }

/-- A state that was cleared by `memset`. -/
def clearTx : TxMessageState where
  msgBuf := fun _ => 0
  packetBuf := fun _ => 0
  msgSize := 0
  msgPacketSeq := 0
  msgPacketCount := 0
  message := none

def clearRx : RxMessageState where
  expectedRespSize := 0
  expectedMessagesRemaining := 0
  message := none
  asyncResp := s.rx.asyncResp
  asyncRespCode := s.rx.asyncRespCode

/-- `attempt_open_connection`. -/
def attemptOpenConnection (found : Option Device) : HostThread :=
  if s.connected then { s with deviceType := none }
  else
    match found with
    | some d =>
      { s with
        deviceType := some d
        connected := true
        messages := []
        cancelMessages := []
        tx := clearTx
        txMessage := none
        rx := s.clearRx
        rxMessage := none }
    | none => { s with deviceType := none }

/-- `SIGNETDEV_CMD_CLOSE`. -/
def closeConnection : HostThread :=
  if s.connected then { s with connected := false, deviceType := none } else s

/-- One step of `transaction_thread`: commands and events are taken while the loop does not
    run. -/
def step (e : HostEvent) : HostThread :=
  if s.fault.isSome then s
  else
    match s.looping, e with
    | false, .message m => s.sendMessage m
    | false, .cancelMessage m => s.cancelMessage m
    | false, .openConnection found => s.attemptOpenConnection found
    | false, .closeConnection => s.closeConnection
    | false, .hangup => if s.connected then s.handleError else s
    | false, .enterLoop => { s with looping := s.connected }
    | true, .io r buf w => s.rawHidIo r buf w
    | _, _ => s

/-- The thread when it starts. -/
def initial (m : SendMessageReq) (rx : RxMessageState) : HostThread where
  deviceType := none
  connected := false
  looping := false
  messages := []
  cancelMessages := []
  tx := clearTx
  txMessage := none
  rx := { rx with expectedRespSize := 0, expectedMessagesRemaining := 0, message := none }
  rxMessage := none
  heap := fun _ => none
  allocated := 0
  fault := none
  log :=
    { reqs := fun _ => m, issued := [], issuedCancels := [], started := [], startedCancels := []
      packets := fun _ => [], written := [], transmitted := [], answers := [] }

end HostThread

end SignetBase
