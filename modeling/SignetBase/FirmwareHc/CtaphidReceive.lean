/-
  SignetBase/FirmwareHc/CtaphidReceive.lean
  =========================================
  **The CTAPHID layer of the Signet HC: channels, message assembly, requests.**

  Packets of several channels arrive in one stream.  `ctaphid_buffer_packet` puts a message
  together from the packets of one channel, keeps the others off with a busy error or in
  silence, and answers CTAPHID_INIT; a complete message is executed by
  `process_ctaphid_packet`, possibly several times, and no packet is taken in meanwhile.
  What the requests themselves compute (`ctap_request`, `u2f_request`, the random numbers)
  is a parameter of each execution.
-/
import SignetBase.FirmwareHc.CtaphidWrite
import SignetBase.FirmwareHc.SignCount
import SignetBase.FirmwareHc.Startup

namespace SignetBase.FirmwareHc

/-! ### Packets -/

def CTAPHID_MSG : Nat := TYPE_INIT + 0x03
def CTAPHID_INIT : Nat := TYPE_INIT + 0x06
def CTAPHID_WINK : Nat := TYPE_INIT + 0x08
def CTAPHID_CBOR : Nat := TYPE_INIT + 0x10
def CTAPHID_CANCEL : Nat := TYPE_INIT + 0x11
def CTAPHID_KEEPALIVE : Nat := TYPE_INIT + 0x3b
def CTAPHID_ERROR : Nat := TYPE_INIT + 0x3f
def CTAPHID_GETRNG : Nat := TYPE_INIT + 0x60
def CTAPHID_GETVERSION : Nat := TYPE_INIT + 0x61

def CTAP1_ERR_INVALID_COMMAND : UInt8 := 0x01
def CTAP1_ERR_INVALID_LENGTH : UInt8 := 0x03
def CTAP1_ERR_INVALID_SEQ : UInt8 := 0x04
def CTAP1_ERR_CHANNEL_BUSY : UInt8 := 0x06
def CTAP1_ERR_INVALID_CHANNEL : UInt8 := 0x0B

def CTAPHID_PROTOCOL_VERSION : UInt8 := 2
def CTAP_CAPABILITIES : UInt8 := 0x01 ||| 0x04
def CTAPHID_BROADCAST_CID : Nat := 0xffffffff

namespace Packet

variable (p : Packet)

/-- The bytes of a `CTAPHID_PACKET`. -/
def mem : Mem := fun i => p.1.getD i 0

def cid : Nat := (mem p).get32 0

/-- `pkt.init.cmd`, which is also `pkt.cont.seq`. -/
def cmd : Nat := (mem p 4).toNat

def ctaphidPacketLen : Nat := 256 * (mem p 5).toNat + (mem p 6).toNat

def IsBroadcast : Prop := cid p = CTAPHID_BROADCAST_CID

def IsInitPkt : Prop := cmd p = CTAPHID_INIT

/-- The bit `TYPE_INIT` of the command byte is clear. -/
def IsContPkt : Prop := cmd p < TYPE_INIT

instance : Decidable (IsBroadcast p) := inferInstanceAs (Decidable (_ = _))
instance : Decidable (IsInitPkt p) := inferInstanceAs (Decidable (_ = _))
instance : Decidable (IsContPkt p) := inferInstanceAs (Decidable (_ < _))

end Packet

/-! ### Channels -/

/-- `struct CID`; `last_used` is read only by `ctaphid_check_timeouts`, which nothing calls. -/
structure Channel where
  cid : Nat
  busy : Bool
deriving DecidableEq

def CID_MAX : Nat := 10

/-- The loop of the functions below: the first of the first `n` entries that is searched for
    is changed. -/
def changeFirst (found : Channel → Bool) (change : Channel → Channel) :
    Nat → List Channel → Option (List Channel)
  | 0, _ => none
  | _, [] => none
  | n + 1, c :: cs =>
    if found c then some (change c :: cs) else (changeFirst found change n cs).map (c :: ·)

/-- `add_cid`; `none` stands for -1, here and below. -/
def addCid (cid : Nat) (cids : List Channel) : Option (List Channel) :=
  changeFirst (fun c => !c.busy) (fun _ => ⟨cid, true⟩) (CID_MAX - 1) cids

def cidRefresh (cid : Nat) (cids : List Channel) : Option (List Channel) :=
  changeFirst (fun c => c.cid = cid) (fun c => { c with busy := true }) (CID_MAX - 1) cids

def cidDel (cid : Nat) (cids : List Channel) : Option (List Channel) :=
  changeFirst (fun c => c.cid = cid) (fun c => { c with busy := false }) (CID_MAX - 1) cids

def CidExists (cid : Nat) (cids : List Channel) : Prop :=
  ∃ c ∈ cids.take (CID_MAX - 1), c.cid = cid

instance (cid : Nat) (cids : List Channel) : Decidable (CidExists cid cids) :=
  inferInstanceAs (Decidable (∃ c ∈ cids.take (CID_MAX - 1), c.cid = cid))

/-- `get_new_cid`: the static variable counts up past 0 and the broadcast channel, so that the
    loop makes at most three rounds. -/
def getNewCid : Nat → Nat → Nat
  | 0, cid => cid
  | rounds + 1, cid =>
    let cid := (cid + 1) % 2 ^ 32
    if cid = 0 ∨ cid = CTAPHID_BROADCAST_CID then getNewCid rounds cid else cid

/-! ### The layer -/

/-- `CTAP_BUFFER_STATE`. -/
inductive BufferState
  | EMPTY | BUFFERING | BUFFERED | HID_ERROR | HID_IGNORE
deriving DecidableEq

/-- The static variables of the layer and the responses it has sent, oldest first. -/
structure Ctaphid where
  cids : List Channel
  newCid : Nat
  ctapBuffer : Mem
  bufferCid : Nat
  bufferCmd : Nat
  bufferBcnt : Nat
  bufferOffset : Nat
  packetSeq : Int
  processingPacket : Bool
  randNeeded : Nat
  isBusy : Bool
  sent : List HidResponse
  exited : Bool

namespace Ctaphid

variable (s : Ctaphid)

def bufferReset : Ctaphid :=
  { s with bufferBcnt := 0, bufferOffset := 0, packetSeq := 0, bufferCid := 0 }

def bufferStatus : BufferState :=
  if s.bufferBcnt = 0 then .EMPTY
  else if s.bufferOffset = s.bufferBcnt then .BUFFERED
  else .BUFFERING

/-- `cid_del`, whose result is not looked at. -/
def del (cid : Nat) : Ctaphid := { s with cids := (cidDel cid s.cids).getD s.cids }

def send (r : HidResponse) : Ctaphid := { s with sent := s.sent ++ [r] }

def ctaphidSendError (cid : Nat) (error : UInt8) : Ctaphid :=
  s.send ⟨cid, CTAPHID_ERROR, 1, [[error]]⟩

/-- `ctaphid_update_status`. -/
def ctaphidUpdateStatus (status : UInt8) : Ctaphid :=
  s.send ⟨s.bufferCid, CTAPHID_KEEPALIVE, 1, [[status]]⟩

/-- `send_init_response`. -/
def initResponse (oldcid newcid : Nat) (nonce : Bytes) : HidResponse :=
  ⟨oldcid, CTAPHID_INIT, 17,
    [nonce ++ Mem.bytes32 newcid ++ [CTAPHID_PROTOCOL_VERSION, 0, 0, 0, CTAP_CAPABILITIES]]⟩

/-- `buffer_packet`; `false` stands for `SEQUENCE_ERROR`. -/
def bufferPacket (p : Packet) : Bool × Ctaphid :=
  if ¬ p.IsContPkt then
    let bcnt := p.ctaphidPacketLen
    let pktLen := if bcnt < CTAPHID_INIT_PAYLOAD_SIZE then bcnt else CTAPHID_INIT_PAYLOAD_SIZE
    (true, { s with
      bufferBcnt := bcnt
      bufferCmd := p.cmd
      bufferCid := p.cid
      bufferOffset := pktLen
      packetSeq := -1
      ctapBuffer := s.ctapBuffer.copy 0 p.mem 7 pktLen })
  else
    let leftover := s.bufferBcnt - s.bufferOffset
    let s := { s with packetSeq := s.packetSeq + 1 }
    if s.packetSeq ≠ (p.cmd : Int) then (false, s)
    else if leftover ≤ CTAPHID_CONT_PAYLOAD_SIZE then
      (true, { s with
        ctapBuffer := s.ctapBuffer.copy s.bufferOffset p.mem 5 leftover
        bufferOffset := s.bufferOffset + leftover })
    else
      (true, { s with
        ctapBuffer := s.ctapBuffer.copy s.bufferOffset p.mem 5 CTAPHID_CONT_PAYLOAD_SIZE
        bufferOffset := s.bufferOffset + CTAPHID_CONT_PAYLOAD_SIZE })

/-- The part of `ctaphid_buffer_packet` for CTAPHID_INIT: the status, the error and the state. -/
def bufferInit (p : Packet) : BufferState × UInt8 × Ctaphid :=
  if p.ctaphidPacketLen ≠ 8 then (.HID_ERROR, CTAP1_ERR_INVALID_LENGTH, s)
  else if p.cid = 0 then (.HID_ERROR, CTAP1_ERR_INVALID_CHANNEL, s)
  else
    let s := s.bufferReset
    let s := if p.IsBroadcast then { s with newCid := getNewCid 3 s.newCid } else s
    let newcid := if p.IsBroadcast then s.newCid else p.cid
    let ret :=
      if ¬ p.IsBroadcast ∧ CidExists newcid s.cids then cidRefresh newcid s.cids
      else addCid newcid s.cids
    match ret with
    | none => (.HID_ERROR, CTAP1_ERR_CHANNEL_BUSY, s)
    | some cids =>
      let s := { s with cids }
      let s := s.send (initResponse p.cid newcid (p.mem.read 7 8))
      (.HID_IGNORE, 0, s.del newcid)

/-- The part for a packet of a channel in the table. -/
def bufferKnown (p : Packet) : BufferState × UInt8 × Ctaphid :=
  if s.bufferStatus = .BUFFERING ∧ p.cid = s.bufferCid ∧ ¬ p.IsContPkt then
    (.HID_ERROR, CTAP1_ERR_INVALID_SEQ, s)
  else if s.bufferStatus = .BUFFERING ∧ p.cid ≠ s.bufferCid ∧ ¬ p.IsContPkt then
    (.HID_ERROR, CTAP1_ERR_CHANNEL_BUSY, s)
  else if s.bufferStatus = .BUFFERING ∧ p.cid ≠ s.bufferCid then (.HID_IGNORE, 0, s)
  else if ¬ p.IsContPkt ∧ p.ctaphidPacketLen > CTAPHID_BUFFER_SIZE then
    (.HID_ERROR, CTAP1_ERR_INVALID_LENGTH, s)
  else if p.IsContPkt ∧ (s.bufferStatus = .EMPTY ∨ p.cid ≠ s.bufferCid) then (.HID_IGNORE, 0, s)
  else
    match s.bufferPacket p with
    | (false, s) => (.HID_ERROR, CTAP1_ERR_INVALID_SEQ, s)
    | (true, s) =>
      match cidRefresh p.cid s.cids with
      | none => (s.bufferStatus, 0, { s with exited := true })
      | some cids =>
        let s := { s with cids }
        (s.bufferStatus, 0, s)

/-- The first packet of an unknown channel, when nothing is buffered, gives it an entry if
    there is room. -/
def openChannel (p : Packet) : Ctaphid :=
  if ¬ CidExists p.cid s.cids ∧ ¬ p.IsContPkt ∧ s.bufferStatus = .EMPTY then
    { s with cids := (addCid p.cid s.cids).getD s.cids }
  else s

/-- `ctaphid_buffer_packet`. -/
def ctaphidBufferPacket (p : Packet) : BufferState × UInt8 × Ctaphid :=
  if p.IsInitPkt then s.bufferInit p
  else if p.IsBroadcast then (.HID_ERROR, CTAP1_ERR_INVALID_CHANNEL, s)
  else
    let s := s.openChannel p
    if CidExists p.cid s.cids then s.bufferKnown p
    else if p.IsContPkt then (.HID_IGNORE, 0, s)
    else (.HID_ERROR, CTAP1_ERR_CHANNEL_BUSY, s)

/-! ### Requests -/

/-- What the code outside the layer answers in one execution of a request, and the status values
    that `ctap_request` reports meanwhile.  `u2f_request` is not told the length of the message. -/
structure Services where
  ctapRequest : Bytes → UInt8 × Bytes
  statuses : List UInt8
  u2fRequest : Mem → UInt16 × Bytes
  randRequested : Nat
  randServed : Nat
  randAvail : Nat
  generateRng : Nat → UInt8

/-- The bytes that the request was sent with. -/
def message : Bytes := s.ctapBuffer.read 0 s.bufferBcnt

/-- The end of `process_ctaphid_packet`, reached by every `break`. -/
def answered : Ctaphid := (s.del s.bufferCid).bufferReset

/-- The status of a CBOR request: one that succeeded without all of its random numbers is not
    finished. -/
def cborStatus (env : Services) (status : UInt8) : UInt8 :=
  if env.randRequested ≠ 0 ∧ env.randRequested ≠ env.randServed ∧ status = CTAP1_ERR_SUCCESS then
    CTAP2_ERR_PROCESSING
  else status

/-- The case CTAPHID_CBOR; `true`, here and below, when the request is not finished. -/
def processCborCase (env : Services) : Bool × Ctaphid :=
  if s.bufferBcnt = 0 then (false, s.ctaphidSendError s.bufferCid CTAP1_ERR_INVALID_LENGTH)
  else if s.isBusy then (false, s.ctaphidSendError s.bufferCid CTAP1_ERR_CHANNEL_BUSY)
  else
    let (status, data) := env.ctapRequest s.message
    let status := cborStatus env status
    let s := env.statuses.foldl ctaphidUpdateStatus s
    let s := { s with isBusy := false }
    if status = CTAP2_ERR_PROCESSING ∨ status = CTAP2_ERR_USER_ACTION_PENDING then (true, s)
    else if status = CTAP2_ERR_ACTION_TIMEOUT then
      (false, s.ctaphidSendError s.bufferCid status)
    else (false, (s.send ⟨s.bufferCid, CTAPHID_CBOR, data.length + 1, [[status], data]⟩).answered)

/-- The case CTAPHID_MSG. -/
def processMsgCase (env : Services) : Bool × Ctaphid :=
  if s.bufferBcnt = 0 then (false, s.ctaphidSendError s.bufferCid CTAP1_ERR_INVALID_LENGTH)
  else if s.isBusy then (false, s.ctaphidSendError s.bufferCid CTAP1_ERR_CHANNEL_BUSY)
  else
    let (ret, data) := env.u2fRequest s.ctapBuffer
    let s := { s with isBusy := false }
    if ret = U2F_SW_PROCESSING then (true, s)
    else (false, (s.send ⟨s.bufferCid, CTAPHID_MSG, data.length, [data]⟩).answered)

/-- The case CTAPHID_GETRNG. -/
def processGetrngCase (env : Services) : Bool × Ctaphid :=
  let bcnt := (s.ctapBuffer 0).toNat
  let bcnt := if bcnt = 0 then 57 else bcnt
  let s := { s with ctapBuffer := s.ctapBuffer.fill 0 bcnt 0, isBusy := false }
  if env.randAvail ≥ bcnt then
    let s := { s with ctapBuffer := s.ctapBuffer.write 0 ((List.range bcnt).map env.generateRng) }
    let data := s.ctapBuffer.read 0 bcnt
    (false, (s.send ⟨s.bufferCid, CTAPHID_GETRNG, bcnt, [data]⟩).answered)
  else (true, { s with randNeeded := bcnt })

/-- The case CTAPHID_GETVERSION. -/
def processGetversionCase : Bool × Ctaphid :=
  let s := { s with
    ctapBuffer := s.ctapBuffer.write 0
      [SIGNET_HC_MAJOR_VERSION, SIGNET_HC_MINOR_VERSION, SIGNET_HC_STEP_VERSION]
    isBusy := false }
  let data := s.ctapBuffer.read 0 3
  (false, (s.send ⟨s.bufferCid, CTAPHID_GETVERSION, 3, [data]⟩).answered)

/-- `process_ctaphid_packet`: the switch. -/
def processCtaphidPacket (env : Services) : Bool × Ctaphid :=
  if ¬ (s.bufferStatus = .BUFFERED ∨ s.bufferStatus = .EMPTY) then
    (false, { s with exited := true })
  else if s.bufferCmd = CTAPHID_INIT then (false, { s with exited := true })
  else if s.bufferCmd = CTAPHID_PING then
    (false, (s.send (.ping s.bufferCid s.message)).answered)
  else if s.bufferCmd = CTAPHID_WINK then
    (false, (s.send ⟨s.bufferCid, CTAPHID_WINK, 0, []⟩).answered)
  else if s.bufferCmd = CTAPHID_CBOR then s.processCborCase env
  else if s.bufferCmd = CTAPHID_MSG then s.processMsgCase env
  else if s.bufferCmd = CTAPHID_CANCEL then (false, s.answered)
  else if s.bufferCmd = CTAPHID_GETRNG then s.processGetrngCase env
  else if s.bufferCmd = CTAPHID_GETVERSION then s.processGetversionCase
  else (false, (s.ctaphidSendError s.bufferCid CTAP1_ERR_INVALID_COMMAND).answered)

/-- `restart_command`.  When it finds that the words which were missing have arrived meanwhile
    it calls itself: that is a further execution. -/
def restartCommand (env : Services) : Ctaphid :=
  let s := { s with randNeeded := 0 }
  match s.processCtaphidPacket env with
  | (false, s) => { s with processingPacket := false }
  | (true, s) =>
    if env.randRequested ≠ env.randServed ∧ env.randAvail < env.randRequested then
      { s with randNeeded := env.randRequested }
    else s

/-- `ctaphid_handle_packet`; the request is executed at once when `request_device` grants the
    device. -/
def ctaphidHandlePacket (p : Packet) (granted : Option Services) : Ctaphid :=
  match s.ctaphidBufferPacket p with
  | (.HID_IGNORE, _, s) => s
  | (.HID_ERROR, cmd, s) =>
    let s := s.del p.cid
    let s := if cmd = CTAP1_ERR_INVALID_SEQ then s.bufferReset else s
    s.ctaphidSendError p.cid cmd
  | (.BUFFERING, _, s) => s
  | (_, _, s) =>
    let s := { s with randNeeded := 0, processingPacket := true }
    match granted with
    | none => s
    | some env => s.restartCommand env

/-- `ctaphid_idle`, which a press, a timeout, arriving random words and the hand-over of the
    device lead to. -/
def ctaphidIdle (env : Services) : Ctaphid :=
  if s.processingPacket then s.restartCommand env else s

end Ctaphid

end SignetBase.FirmwareHc
