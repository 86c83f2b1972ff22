/-
  SignetBase/Host/Responses.lean
  ==============================
  **How the host takes a response apart (`signetdev.c`): `signetdev_priv_process_rx_packet`
  and `signetdev_priv_handle_command_resp`.**

  The packets of a response are put together in one static buffer, and its length, the
  place of each packet and the end of the response are what the device says.  Every
  step keeps a list of what it touches, so that "safe" is a predicate on that
  list, and `Harmless` says exactly for which packets it holds.
-/
import SignetBase.Host.EntryFormat

namespace SignetBase

/-! ### Sizes -/

/-- `MAX_CMD_PACKET_PAYLOAD_SIZE`: the size of the response buffer, and of the arrays that
    `decode_id` is given. -/
def MAX_CMD_PACKET_PAYLOAD_SIZE : Nat := 16391

/-- `signetdev_priv_startup_resp_info_size`. -/
def signetdevPrivStartupRespInfoSize : Device → Nat
  | .signet => 6
  | .signetHc => 8

/-- `signetdev_priv_startup_resp_size`. -/
def signetdevPrivStartupRespSize (d : Device) : Nat :=
  signetdevPrivStartupRespInfoSize d + HASH_FN_SZ + SALT_SZ_V2

/-- The length of `progress` and `progress_maximum` in
    `struct signetdev_get_progress_resp_data`. -/
def MAX_PROGRESS_COMPONENTS : Nat := 8

/-! ### Requests and responses -/

/-- `struct send_message_req`.  A request without `getResp` has neither `resp` nor
    `resp_code`. -/
structure SendMessageReq where
  devCmd : Command
  apiCmd : Nat
  payload : Bytes
  messagesRemaining : Nat
  getResp : Bool
  user : Nat
  token : Nat
  interrupt : Bool
  endDeviceState : UInt8

/-- `struct rx_message_state`, with `s_async_resp` and `s_async_resp_code`. -/
structure RxMessageState where
  expectedRespSize : UInt32
  expectedMessagesRemaining : Nat
  message : Option SendMessageReq
  asyncResp : Mem
  asyncRespCode : UInt8

/-- The arguments of `signetdev_priv_handle_command_resp`. -/
structure CommandResp where
  user : Nat
  token : Nat
  devCmd : Command
  apiCmd : Nat
  respCode : Int
  resp : Mem
  respLen : Nat
  endDeviceState : UInt8
  expectedMessagesRemaining : Nat

/-- What the callback is given. -/
inductive RespData where
  | none
  | bytes (resp : Mem)
  | progress (total totalMaximum : Nat) (components : List (Nat × Nat))
  | startup (info : Bytes) (hashfn salt : Bytes)
  | randBits (data : Mem) (size : Nat)
  | allUids (uid size : Nat) (entry : Decoded)
  | uid (size : Nat) (entry : Decoded)

/-- A handled response: what was touched for it, and what the callback gets, unless
    `signetdev_priv_handle_error` was called instead. -/
structure HandledResp where
  touched : List Access
  data : Option RespData

/-! ### `signetdev_priv_handle_command_resp` -/

/-- The same access through a pointer `k` bytes further on. -/
def Access.shift (k : Nat) : Access → Access
  | .respRead off len => .respRead (k + off) len
  | .respWrite off len => .respWrite (k + off) len
  | a => a

/-- The buffers in `cb_resp`, whatever they hold. -/
def freshEntry : Decoded := ⟨fun _ => 0, fun _ => 0, []⟩

/-- The record behind the first `k` bytes of the response; `none` when `decode_id` fails. -/
def decodeEntry (d : Device) (c : CommandResp) (k : Nat) : List Access × Option Decoded :=
  let touched := [.respRead 0 k, .difference c.respLen k]
  if c.respLen - k = 0 then (touched, some freshEntry)
  else
    let (ok, entry) := decodeId (some d) (c.resp.window k) (c.respLen - k) freshEntry
    (touched ++ entry.touched.map (Access.shift k), if ok then some entry else none)

/-- GET_PROGRESS. -/
def handleProgress (c : CommandResp) : HandledResp :=
  if c.respCode = CommandResponse.okay.code.toNat ∧ 4 ≤ c.respLen ∧ c.respLen % 4 = 0 then
    { touched := .difference (c.respLen / 4) 1 ::
        (List.range (c.respLen / 4)).map (fun j => .respRead (4 * j) 4) ++
        -- `progress[i]` and `progress_maximum[i]` in `cb_resp`
        (List.range (c.respLen / 4 - 1)).map .progressWrite
      data := some (.progress (c.resp.get16 0) (c.resp.get16 2)
        ((List.range (c.respLen / 4 - 1)).map fun i =>
          (c.resp.get16 (4 * (i + 1)), c.resp.get16 (4 * (i + 1) + 2)))) }
  else if c.respCode = CommandResponse.invalidState.code.toNat then ⟨[], some (.progress 0 0 [])⟩
  else ⟨[], none⟩

/-- STARTUP. -/
def handleStartup (d : Device) (c : CommandResp) : HandledResp :=
  let info := signetdevPrivStartupRespInfoSize d
  if c.respCode = CommandResponse.okay.code.toNat ∧ c.respLen < signetdevPrivStartupRespSize d then
    ⟨[], none⟩
  else if c.respCode = CommandResponse.okay.code.toNat ∨
      c.respCode = CommandResponse.unknownDbFormat.code.toNat then
    { touched := [.respRead 0 info, .respRead info HASH_FN_SZ,
        .respRead (info + HASH_FN_SZ) SALT_SZ_V2]
      data := some (.startup (c.resp.read 0 info) (c.resp.read info HASH_FN_SZ)
        (c.resp.read (info + HASH_FN_SZ) SALT_SZ_V2)) }
  else ⟨[], some .none⟩

/-- READ_ALL_UIDS. -/
def handleReadAllUids (d : Device) (c : CommandResp) : HandledResp :=
  if c.respCode = CommandResponse.okay.code.toNat then
    if c.respLen < 4 then ⟨[], none⟩
    else
      let (touched, entry) := decodeEntry d c 4
      ⟨touched, entry.map (.allUids (c.resp.get16 0) (c.resp.get16 2))⟩
  else ⟨[], some .none⟩

/-- READ_UID. -/
def handleReadUid (d : Device) (c : CommandResp) : HandledResp :=
  if c.respCode = CommandResponse.okay.code.toNat then
    if c.respLen < 2 then ⟨[], none⟩
    else
      let (touched, entry) := decodeEntry d c 2
      ⟨touched, entry.map (.uid (c.resp.get16 0))⟩
  else ⟨[], some .none⟩

/-- A response that is passed on as it is, if its length is the right one. -/
def handleBytes (wrong : Prop) [Decidable wrong] (c : CommandResp) : HandledResp :=
  ⟨[], if wrong then none else some (.bytes c.resp)⟩

/-- `signetdev_priv_handle_command_resp`. -/
def handleCommandResp (d : Device) (c : CommandResp) : HandledResp :=
  match c.devCmd with
  | .readBlockHc | .readBlock => handleBytes (c.respLen ≠ signetdevDeviceBlockSize (some d)) c
  | .readCleartextPassword =>
    handleBytes (c.respCode = CommandResponse.okay.code.toNat ∧ c.respLen ≠ CLEARTEXT_PASS_SIZE) c
  | .readCleartextPasswordNames =>
    handleBytes (c.respCode = CommandResponse.okay.code.toNat ∧
      c.respLen ≠ (CLEARTEXT_PASS_NAME_SIZE + 1) * NUM_CLEARTEXT_PASS) c
  | .getProgress => handleProgress c
  | .startup => handleStartup d c
  | .getRandBits => ⟨[], some (.randBits c.resp c.respLen)⟩
  | .readAllUids => handleReadAllUids d c
  | .readUid => handleReadUid d c
  | _ => ⟨[], some .none⟩

/-! ### `signetdev_priv_process_rx_packet` -/

/-- What the host is told while it takes in a packet. -/
inductive HostCall where
  | deviceEvent (eventType respLen : UInt8) (data : Mem)
  | commandResp (c : CommandResp)

/-- The state after a packet, what was touched in taking it in, and the calls made for it. -/
structure RxStep where
  state : RxMessageState
  touched : List Access
  calls : List HostCall

/-- `signetdev_priv_message_send_resp`. -/
def messageSendResp (s : RxMessageState) (msg : SendMessageReq) (rc : Int)
    (expectedMessagesRemaining : Nat) : List HostCall :=
  if msg.interrupt then []
  else
    [.commandResp
      { user := msg.user, token := msg.token, devCmd := msg.devCmd, apiCmd := msg.apiCmd
        respCode := if rc ≥ 0 then (if msg.getResp then (s.asyncRespCode.toNat : Int) else 0) else rc
        resp := s.asyncResp
        respLen := rc.toNat
        endDeviceState := msg.endDeviceState
        expectedMessagesRemaining }]

/-- `(int)expected_resp_size`. -/
def respSizeInt (size : UInt32) : Int :=
  if size.toNat < 2 ^ 31 then (size.toNat : Int) else (size.toNat : Int) - 2 ^ 32

/-- The sequence number of a packet, and whether it is the last one. -/
def packetSeq (pkt : Mem) : Nat := (pkt 0).toNat % 128
def packetLast (pkt : Mem) : Bool := (pkt 0).toNat / 128 = 1

/-- The first packet of a response: its header and the first bytes. -/
def rxFirst (d : Device) (s : RxMessageState) (msg : SendMessageReq) (pkt : Mem) :
    RxMessageState × List Access :=
  let len := d.hidLink.rawHidPayloadSize - CMD_PACKET_HEADER_SIZE
  ({ expectedRespSize := UInt32.ofNat (pkt.get16 1) - UInt32.ofNat CMD_PACKET_HEADER_SIZE
     expectedMessagesRemaining := pkt.get16 4
     message := some { msg with endDeviceState := pkt 6 }
     asyncResp := s.asyncResp.copy 0 pkt (RAW_HID_HEADER_SIZE + CMD_PACKET_HEADER_SIZE) len
     asyncRespCode := if msg.getResp then pkt 3 else s.asyncRespCode },
    [.difference (pkt.get16 1) CMD_PACKET_HEADER_SIZE, .respWrite 0 len])

/-- Where the bytes of a later packet belong. -/
def rxOffset (d : Device) (pkt : Mem) : Nat :=
  d.hidLink.rawHidPayloadSize * packetSeq pkt - CMD_PACKET_HEADER_SIZE

/-- Any other packet of a response.  The lengths are `size_t`. -/
def rxNext (d : Device) (s : RxMessageState) (pkt : Mem) : RxMessageState × List Access :=
  let offset := rxOffset d pkt
  let short := offset + d.hidLink.rawHidPayloadSize > s.expectedRespSize.toNat
  let toRead := if short then (s.expectedRespSize.toNat + 2 ^ 64 - offset) % 2 ^ 64
    else d.hidLink.rawHidPayloadSize
  let touched := if short then [.difference s.expectedRespSize.toNat offset] else []
  if toRead > 0 then
    ({ s with asyncResp := s.asyncResp.copy offset pkt RAW_HID_HEADER_SIZE toRead },
      touched ++ [.respWrite offset toRead])
  else (s, touched)

/-- The end of `signetdev_priv_process_rx_packet`. -/
def rxLast (s : RxMessageState) (last : Bool) : RxMessageState × List HostCall :=
  match s.message with
  | none => (s, [])
  | some msg =>
    if last then
      if s.expectedMessagesRemaining = 0 then
        -- `signetdev_priv_finalize_message`
        ({ s with message := none }, messageSendResp s msg (respSizeInt s.expectedRespSize) 0)
      else (s, messageSendResp s msg (respSizeInt s.expectedRespSize) s.expectedMessagesRemaining)
    else (s, [])

/-- `signetdev_priv_process_rx_packet`. -/
def processRxPacket (d : Device) (s : RxMessageState) (pkt : Mem) : RxStep :=
  if packetSeq pkt = 0x7f then ⟨s, [], [.deviceEvent (pkt 1) (pkt 2) (pkt.window 3)]⟩
  else
    match s.message with
    | none => ⟨s, [], []⟩
    | some msg =>
      let (s', touched) := if packetSeq pkt = 0 then rxFirst d s msg pkt else rxNext d s pkt
      let (s'', calls) := rxLast s' (packetLast pkt)
      ⟨s'', touched, calls⟩

end SignetBase
