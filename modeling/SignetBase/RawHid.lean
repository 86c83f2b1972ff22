/-
  SignetBase/RawHid.lean
  ======================
  **The response path of both devices: `finish_command_multi` and `usb_raw_hid.c`.**

  Every response is built in one static buffer and handed to the USB endpoint in
  packets of a fixed size, so the last packet takes along what lies in the buffer
  behind the response.  The two firmwares share this code and differ in the packet
  size and in the size of a block (`HidLink`).  Event packets travel over the same
  endpoint from a buffer of their own.
-/
import SignetBase.Common

namespace SignetBase

/-! ### The two links -/

def RAW_HID_HEADER_SIZE : Nat := 1

/-- The sizes of a device's raw HID link.  A packet has room for a command header,
    and the length of a response fits the two bytes it is sent as. -/
structure HidLink where
  rawHidPacketSize : Nat
  blkSize : Nat
  large : RAW_HID_HEADER_SIZE + CMD_PACKET_HEADER_SIZE < rawHidPacketSize
  small : blkSize + 2 * CMD_PACKET_HEADER_SIZE + 1 < 65536

namespace HidLink

variable (l : HidLink)

/-- `RAW_HID_PAYLOAD_SIZE`. -/
def rawHidPayloadSize : Nat := l.rawHidPacketSize - RAW_HID_HEADER_SIZE

/-- `CMD_PACKET_PAYLOAD_SIZE`. -/
def cmdPacketPayloadSize : Nat := l.blkSize + CMD_PACKET_HEADER_SIZE + 1

/-- `CMD_PACKET_BUF_SIZE`. -/
def cmdPacketBufSize : Nat :=
  l.cmdPacketPayloadSize + CMD_PACKET_HEADER_SIZE + l.rawHidPayloadSize - 1

theorem header_lt : CMD_PACKET_HEADER_SIZE < l.rawHidPayloadSize := by
  have hlarge := l.large
  unfold rawHidPayloadSize
  omega

end HidLink

/-- The two devices. -/
inductive Device where
  | signet | signetHc
deriving DecidableEq, Repr

/-- The link of a device (`signetdev_common_priv.h`). -/
def Device.hidLink : Device → HidLink
  | .signet => { rawHidPacketSize := 64, blkSize := 2048, large := by decide, small := by decide }
  | .signetHc => { rawHidPacketSize := 512, blkSize := 16384, large := by decide, small := by decide }

/-! ### Responses -/

/-- The arguments of `finish_command_multi`, with the device state that it reads.
    There may be a length without a payload. -/
structure HidResponse where
  resp : CommandResponse
  messagesRemaining : Int
  state : DeviceState
  payload : Option Bytes
  payloadLen : Nat
deriving DecidableEq

namespace HidResponse

/-- `full_length`. -/
def fullLength (r : HidResponse) : Nat := r.payloadLen + CMD_PACKET_HEADER_SIZE

/-- The command header. -/
def header (r : HidResponse) : Bytes :=
  Mem.bytes16 r.fullLength ++ [r.resp.code] ++ Mem.bytes16 (r.messagesRemaining % 65536).toNat ++
    [r.state.code]

/-- What `finish_command_multi` makes of `cmd_resp`. -/
def writeTo (r : HidResponse) (cmdResp : Mem) : Mem :=
  (cmdResp.write 0 r.header).write CMD_PACKET_HEADER_SIZE (r.payload.getD [])

/-- The payload has the length that is claimed for it, and the buffer is made for
    responses of this length. -/
structure Fits (l : HidLink) (r : HidResponse) : Prop where
  length : ∀ p ∈ r.payload, p.length = r.payloadLen
  le : r.payloadLen ≤ l.cmdPacketPayloadSize

@[simp] theorem length_header (r : HidResponse) : r.header.length = CMD_PACKET_HEADER_SIZE := rfl

end HidResponse

/-! ### Sending packets -/

/-- What is handed to the endpoint. -/
inductive HidPacket where
  | cmd (bytes : Bytes)
  | event (bytes : Bytes)
deriving DecidableEq

/-- The bytes of a packet of a response. -/
def HidPacket.cmd? : HidPacket → Option Bytes
  | .cmd bytes => some bytes
  | .event _ => none

/-- The statics of `usb_raw_hid.c` and `cmd_resp`; `txData` says that
    `raw_hid_tx_data` is set.  What was handed to the endpoint comes last. -/
structure HidTx where
  cmdResp : Mem
  txData : Bool
  txSeq : Nat
  txCount : Nat
  txCmdPacket : Mem
  txEventPacket : Mem
  eventMask : Nat → Bool
  eventData : Nat → Option Bytes
  sent : List HidPacket

section Send

variable (l : HidLink)

/-- `maybe_send_raw_hid_event`; `busy` is `usb_tx_pending`. -/
def maybeSendRawHidEvent (busy : Bool) (t : HidTx) : Bool × HidTx :=
  match (List.range 8).find? t.eventMask with
  | none => (false, t)
  | some i =>
    if busy then (false, t)
    else
      let body := match t.eventData i with
        | some data => UInt8.ofNat data.length :: data
        | none => [0]
      let packet := t.txEventPacket.write 0 ([0xff, UInt8.ofNat i] ++ body)
      (true,
        { t with
          eventMask := fun j => t.eventMask j && j != i
          txEventPacket := packet
          sent := t.sent ++ [.event (packet.read 0 l.rawHidPacketSize)] })

/-- The first byte of a packet: its number, and whether it is the last one. -/
def txHeader (seq count : Nat) : UInt8 :=
  UInt8.ofNat ((if seq + 1 = count then 128 else 0) ||| seq)

/-- `maybe_send_raw_hid_packet`. -/
def maybeSendRawHidPacket (busy : Bool) (t : HidTx) : HidTx :=
  let (event, t) := maybeSendRawHidEvent l busy t
  if event then t
  else if t.txSeq ≠ t.txCount then
    let packet := (t.txCmdPacket.write 0 [txHeader t.txSeq t.txCount]).copy RAW_HID_HEADER_SIZE
      t.cmdResp (t.txSeq * l.rawHidPayloadSize) l.rawHidPayloadSize
    { t with
      txCmdPacket := packet
      txSeq := t.txSeq + 1
      sent := t.sent ++ [.cmd (packet.read 0 l.rawHidPacketSize)] }
  else { t with txSeq := 0, txCount := 0, txData := false }

/-- The packets that `len` bytes take; `len` is a `u16`. -/
def packetCount (len : Nat) : Nat :=
  (len % 65536 + l.rawHidPayloadSize - 1) / l.rawHidPayloadSize

/-- `cmd_packet_send` on `cmd_resp`. -/
def hidCmdPacketSend (len : Nat) (busy : Bool) (t : HidTx) : HidTx :=
  maybeSendRawHidPacket l busy { t with txCount := packetCount l len, txSeq := 0, txData := true }

/-- `finish_command_multi`. -/
def hidFinishCommandMulti (r : HidResponse) (busy : Bool) (t : HidTx) : HidTx :=
  hidCmdPacketSend l r.fullLength busy { t with cmdResp := r.writeTo t.cmdResp }

/-- `cmd_event_send`. -/
def cmdEventSend (num : Nat) (data : Option Bytes) (busy : Bool) (t : HidTx) : HidTx :=
  (maybeSendRawHidEvent l busy
    { t with
      eventMask := fun j => t.eventMask j || j == num
      eventData := fun j => if j = num then data else t.eventData j }).2

/-- What happens on the link between two responses: the endpoint asks for the next
    packet (`usb_raw_hid_tx`), or an event is sent. -/
inductive HidStep where
  | tx (busy : Bool)
  | event (num : Nat) (data : Option Bytes) (busy : Bool)

def hidStep (t : HidTx) : HidStep → HidTx
  | .tx busy => maybeSendRawHidPacket l busy t
  | .event num data busy => cmdEventSend l num data busy t

/-- A response and what happens on the link after it. -/
structure Answer where
  response : HidResponse
  busy : Bool
  steps : List HidStep

/-- Issue a response and let the link run. -/
def runAnswer (t : HidTx) (a : Answer) : HidTx :=
  a.steps.foldl (hidStep l) (hidFinishCommandMulti l a.response a.busy t)

/-- The statics after a reset. -/
def hidInit : HidTx where
  cmdResp := fun _ => 0
  txData := false
  txSeq := 0
  txCount := 0
  txCmdPacket := fun _ => 0
  txEventPacket := fun _ => 0
  eventMask := fun _ => false
  eventData := fun _ => none
  sent := []

/-- The link after a history of responses. -/
def afterAnswers (h : List Answer) : HidTx := h.foldl (runAnswer l) hidInit

/-- The packets of responses that were handed over between two states. -/
def newPackets (t t' : HidTx) : List Bytes := (t'.sent.drop t.sent.length).filterMap HidPacket.cmd?

/-- A history of responses the buffer is made for. -/
def FitAnswers (h : List Answer) : Prop := ∀ a ∈ h, a.response.Fits l

/-- No packet of the response `r` depends on the responses before it. -/
def NoStaleBytes (r : HidResponse) : Prop :=
  ∀ h₁ h₂ : List Answer, FitAnswers l h₁ → FitAnswers l h₂ →
    ∀ a₁ a₂ : Answer, a₁.response = r → a₂.response = r → ∀ (k : Nat) (p₁ p₂ : Bytes),
      (newPackets (afterAnswers l h₁) (runAnswer l (afterAnswers l h₁) a₁))[k]? = some p₁ →
      (newPackets (afterAnswers l h₂) (runAnswer l (afterAnswers l h₂) a₂))[k]? = some p₂ →
      p₁ = p₂

/-! ### The packets of one response -/

/-- Packet `k` of `n` of a response in the buffer `buf`. -/
def packetBytes (buf : Mem) (n k : Nat) : Bytes :=
  txHeader k n :: buf.read (k * l.rawHidPayloadSize) l.rawHidPayloadSize

/-- While a response of `n` packets is being sent: `sent` was handed over before
    it, and of its own packets the first ones. -/
structure Sending (buf : Mem) (n : Nat) (sent : List HidPacket) (t : HidTx) : Prop where
  resp : t.cmdResp = buf
  packets : ∃ k ≤ n, (t.txSeq = k ∧ t.txCount = n ∨ k = n ∧ t.txSeq = 0 ∧ t.txCount = 0) ∧
    ∃ own, t.sent = sent ++ own ∧
      own.filterMap HidPacket.cmd? = (List.range k).map (packetBytes l buf n)

variable {l} {buf : Mem} {n : Nat} {sent : List HidPacket} {t : HidTx}

/-- An event packet is none of a response. -/
theorem sending_event (hs : Sending l buf n sent t) (busy : Bool) :
    Sending l buf n sent (maybeSendRawHidEvent l busy t).2 := by
  unfold maybeSendRawHidEvent
  split
  · exact hs
  · split
    · exact hs
    · obtain ⟨hbuf, k, hk, hpos, own, hown, hcmd⟩ := hs
      refine ⟨hbuf, k, hk, hpos, _,
        (congrArg (· ++ _) hown).trans (List.append_assoc _ _ _), ?_⟩
      rw [List.filterMap_append, hcmd]
      exact List.append_nil _

/-- A packet is its header and a slice of the response buffer. -/
theorem read_packet (m : Mem) (h : UInt8) (off : Nat) :
    ((m.write 0 [h]).copy RAW_HID_HEADER_SIZE buf off l.rawHidPayloadSize).read 0
      l.rawHidPacketSize = h :: buf.read off l.rawHidPayloadSize := by
  have hlarge := l.large
  unfold RAW_HID_HEADER_SIZE at hlarge ⊢
  have hsize : l.rawHidPacketSize = l.rawHidPayloadSize + 1 := by
    unfold HidLink.rawHidPayloadSize RAW_HID_HEADER_SIZE
    omega
  apply List.ext_getElem
  · simp [hsize]
  · intro i h₁ h₂
    simp only [Mem.length_read] at h₁
    rw [Mem.getElem_read, Nat.zero_add]
    cases i with
    | zero =>
      rw [Mem.copy_apply_of_notMem _ _ (.inl (by omega))]
      exact Mem.write_apply_of_mem _ (by omega) (by simp)
    | succ i =>
      rw [Mem.copy_apply_of_mem _ _ (by omega) (by omega), List.getElem_cons_succ, Mem.getElem_read]
      rfl

theorem sending_packet (hs : Sending l buf n sent t) (busy : Bool) :
    Sending l buf n sent (maybeSendRawHidPacket l busy t) := by
  have hev := sending_event hs busy
  unfold maybeSendRawHidPacket
  generalize maybeSendRawHidEvent l busy t = r at hev ⊢
  obtain ⟨event, t⟩ := r
  simp only at hev ⊢
  split
  · exact hev
  · obtain ⟨hbuf, k, hk, hpos, own, hown, hcmd⟩ := hev
    split
    · rename_i hne
      rcases hpos with ⟨hseq, hcount⟩ | ⟨-, hseq, hcount⟩
      · rw [hseq, hcount] at hne
        refine ⟨hbuf, k + 1, by omega, .inl ⟨congrArg (· + 1) hseq, hcount⟩, _,
          (congrArg (· ++ _) hown).trans (List.append_assoc _ _ _), ?_⟩
        rw [List.filterMap_append, hcmd, List.range_succ, List.map_append, hseq, hcount, hbuf,
          read_packet]
        rfl
      · exact absurd (hseq.trans hcount.symm) hne
    · rename_i heq
      refine ⟨hbuf, n, Nat.le_refl _, .inr ⟨rfl, rfl, rfl⟩, own, hown, ?_⟩
      rcases hpos with ⟨hseq, hcount⟩ | ⟨hkn, -, -⟩
      · have hkn : k = n := by
          rw [← hseq, ← hcount]
          exact not_not.mp heq
        rw [hkn] at hcmd
        exact hcmd
      · rw [hkn] at hcmd
        exact hcmd

theorem sending_step (hs : Sending l buf n sent t) (e : HidStep) :
    Sending l buf n sent (hidStep l t e) := by
  cases e with
  | tx busy => exact sending_packet hs busy
  | event num data busy =>
    refine sending_event ?_ busy
    exact ⟨hs.resp, hs.packets⟩

theorem sending_steps (hs : Sending l buf n sent t) (es : List HidStep) :
    Sending l buf n sent (es.foldl (hidStep l) t) := by
  induction es generalizing t with
  | nil => exact hs
  | cons e es ih => exact ih (sending_step hs e)

/-- **The packets handed over for a response** are the first ones of those its
    buffer is cut into. -/
theorem newPackets_runAnswer (l : HidLink) (t : HidTx) (a : Answer) :
    ∃ k ≤ packetCount l a.response.fullLength, newPackets t (runAnswer l t a) =
      (List.range k).map (packetBytes l (a.response.writeTo t.cmdResp)
        (packetCount l a.response.fullLength)) := by
  have hstart : Sending l (a.response.writeTo t.cmdResp) (packetCount l a.response.fullLength) t.sent
      { t with
        cmdResp := a.response.writeTo t.cmdResp
        txCount := packetCount l a.response.fullLength
        txSeq := 0
        txData := true } :=
    ⟨rfl, 0, Nat.zero_le _, .inl ⟨rfl, rfl⟩, [], (List.append_nil _).symm, rfl⟩
  obtain ⟨-, k, hk, -, own, hown, hcmd⟩ := sending_steps (sending_packet hstart a.busy) a.steps
  refine ⟨k, hk, ?_⟩
  unfold newPackets
  rw [show (runAnswer l t a).sent = t.sent ++ own from hown, List.drop_left]
  exact hcmd

/-! ### What lies behind a response -/

theorem cmdResp_runAnswer (l : HidLink) (t : HidTx) (a : Answer) :
    (runAnswer l t a).cmdResp = a.response.writeTo t.cmdResp := by
  have hstart : Sending l (a.response.writeTo t.cmdResp) (packetCount l a.response.fullLength) t.sent
      { t with
        cmdResp := a.response.writeTo t.cmdResp
        txCount := packetCount l a.response.fullLength
        txSeq := 0
        txData := true } :=
    ⟨rfl, 0, Nat.zero_le _, .inl ⟨rfl, rfl⟩, [], (List.append_nil _).symm, rfl⟩
  exact (sending_steps (sending_packet hstart a.busy) a.steps).resp

/-- A response writes its header and its payload. -/
theorem writeTo_apply {r : HidResponse} (hr : r.Fits l) (m : Mem) {a : Nat}
    (ha : r.fullLength ≤ a) : r.writeTo m a = m a := by
  have hlen : (r.payload.getD []).length ≤ r.payloadLen := by
    cases hp : r.payload with
    | none => exact Nat.zero_le _
    | some p => exact Nat.le_of_eq (hr.length p hp)
  unfold HidResponse.fullLength at ha
  unfold HidResponse.writeTo
  rw [Mem.write_apply_of_notMem _ (.inr (by omega)),
    Mem.write_apply_of_notMem _ (.inr (by rw [HidResponse.length_header]; omega))]

theorem writeTo_eq {r : HidResponse} (hr : r.Fits l) (hp : r.payload.isSome ∨ r.payloadLen = 0)
    (m m' : Mem) {a : Nat} (ha : a < r.fullLength) : r.writeTo m a = r.writeTo m' a := by
  have hlen : (r.payload.getD []).length = r.payloadLen := by
    cases h : r.payload with
    | none =>
      rw [h] at hp
      rcases hp with hp | hp
      · cases hp
      · exact hp.symm
    | some p => exact hr.length p h
  unfold HidResponse.fullLength at ha
  unfold HidResponse.writeTo
  by_cases hhead : a < CMD_PACKET_HEADER_SIZE
  · rw [Mem.write_apply_of_notMem _ (.inl hhead), Mem.write_apply_of_notMem _ (.inl hhead),
      Mem.write_apply_of_mem _ (Nat.zero_le a) (by simpa using hhead),
      Mem.write_apply_of_mem _ (Nat.zero_le a) (by simpa using hhead)]
  · rw [Mem.write_apply_of_mem _ (by omega) (by omega), Mem.write_apply_of_mem _ (by omega) (by omega)]

/-- What no response can reach stays as it was after the reset. -/
theorem cmdResp_afterAnswers {h : List Answer} (hh : FitAnswers l h) {a : Nat}
    (ha : l.cmdPacketPayloadSize + CMD_PACKET_HEADER_SIZE ≤ a) :
    (afterAnswers l h).cmdResp a = 0 := by
  have hrun : ∀ (h : List Answer) (t : HidTx), FitAnswers l h → t.cmdResp a = 0 →
      (h.foldl (runAnswer l) t).cmdResp a = 0 := by
    intro h
    induction h with
    | nil => exact fun _ _ ht => ht
    | cons x h ih =>
      intro t hx ht
      have hfit := hx x List.mem_cons_self
      apply ih _ fun y hy => hx y (List.mem_cons_of_mem _ hy)
      rw [cmdResp_runAnswer, writeTo_apply hfit]
      · exact ht
      · have := hfit.le
        unfold HidResponse.fullLength
        omega
  exact hrun h hidInit hh rfl

/-- The packets of a response of a length the buffer is made for. -/
theorem packetCount_eq {r : HidResponse} (hr : r.Fits l) :
    packetCount l r.fullLength = (r.fullLength + l.rawHidPayloadSize - 1) / l.rawHidPayloadSize := by
  have hsmall := l.small
  have hle := hr.le
  unfold packetCount
  rw [Nat.mod_eq_of_lt]
  unfold HidResponse.fullLength
  unfold HidLink.cmdPacketPayloadSize at hle
  omega

/-- All packets are full ones: the payload is there, and either the response ends
    with a packet, or it is as long as a response can be. -/
structure FullPackets (l : HidLink) (r : HidResponse) : Prop where
  payload : r.payload.isSome ∨ r.payloadLen = 0
  tail : l.rawHidPayloadSize ∣ r.fullLength ∨ r.payloadLen = l.cmdPacketPayloadSize

/-- A response of full packets leaves nothing of the buffer's history in them. -/
theorem noStaleBytes_of_fullPackets {r : HidResponse} (hr : r.Fits l) (hf : FullPackets l r) :
    NoStaleBytes l r := by
  intro h₁ h₂ hh₁ hh₂ a₁ a₂ ha₁ ha₂ k p₁ p₂ hp₁ hp₂
  obtain ⟨k₁, hk₁, e₁⟩ := newPackets_runAnswer l (afterAnswers l h₁) a₁
  obtain ⟨k₂, hk₂, e₂⟩ := newPackets_runAnswer l (afterAnswers l h₂) a₂
  rw [ha₁] at hk₁ e₁
  rw [ha₂] at hk₂ e₂
  rw [e₁, List.getElem?_map, Option.map_eq_some_iff] at hp₁
  rw [e₂, List.getElem?_map, Option.map_eq_some_iff] at hp₂
  obtain ⟨i₁, hi₁, rfl⟩ := hp₁
  obtain ⟨i₂, hi₂, rfl⟩ := hp₂
  obtain ⟨hlt₁, rfl⟩ := List.getElem?_eq_some_iff.mp hi₁
  obtain ⟨hlt₂, rfl⟩ := List.getElem?_eq_some_iff.mp hi₂
  simp only [List.getElem_range, List.length_range] at hlt₁ ⊢
  have hps := l.header_lt
  have hcount := packetCount_eq hr
  generalize hps' : l.rawHidPayloadSize = ps at hps hcount
  unfold packetBytes
  rw [hps']
  congr 1
  apply Mem.read_congr
  intro i hi
  by_cases ha : k * ps + i < r.fullLength
  · exact writeTo_eq hr hf.payload _ _ ha
  · rw [writeTo_apply hr _ (by omega), writeTo_apply hr _ (by omega)]
    rcases hf.tail with hdvd | hmax
    · -- the last packet ends with the response
      exfalso
      obtain ⟨c, hc⟩ := hdvd
      rw [hps'] at hc
      have hn : packetCount l r.fullLength = c := by
        rw [hcount, hc]
        exact Nat.div_eq_of_lt_le (by rw [Nat.mul_comm]; omega) (by rw [Nat.succ_mul, Nat.mul_comm]; omega)
      have hkc : (k + 1) * ps ≤ c * ps := Nat.mul_le_mul_right _ (by omega)
      rw [Nat.succ_mul, Nat.mul_comm c] at hkc
      omega
    · have hfar : l.cmdPacketPayloadSize + CMD_PACKET_HEADER_SIZE ≤ k * ps + i := by
        unfold HidResponse.fullLength at ha
        omega
      rw [cmdResp_afterAnswers hh₁ hfar, cmdResp_afterAnswers hh₂ hfar]

/-! ### What earlier responses leave behind -/

/-- With no event pending the endpoint gets the next packet. -/
theorem tx_next {t : HidTx} (hmask : t.eventMask = fun _ => false) (hne : t.txSeq ≠ t.txCount) :
    (maybeSendRawHidPacket l false t).txSeq = t.txSeq + 1 ∧
      (maybeSendRawHidPacket l false t).txCount = t.txCount ∧
      (maybeSendRawHidPacket l false t).eventMask = fun _ => false := by
  have hev : maybeSendRawHidEvent l false t = (false, t) := by
    unfold maybeSendRawHidEvent
    rw [hmask]
    rfl
  unfold maybeSendRawHidPacket
  rw [hev]
  simp only [Bool.false_eq_true, if_false]
  rw [if_pos hne]
  exact ⟨rfl, rfl, hmask⟩

/-- A response that is sent without an event in between: packet `k` is handed over
    when the endpoint has asked `k` times. -/
theorem tx_reaches (t : HidTx) (hmask : t.eventMask = fun _ => false) (r : HidResponse) (k : Nat)
    (hk : k < packetCount l r.fullLength) :
    let t' := runAnswer l t ⟨r, false, List.replicate k (.tx false)⟩
    t'.txSeq = k + 1 ∧ t'.txCount = packetCount l r.fullLength ∧ t'.eventMask = fun _ => false := by
  induction k with
  | zero => exact tx_next hmask (Nat.ne_of_lt hk)
  | succ k ih =>
    obtain ⟨hseq, hcount, hmask'⟩ := ih (by omega)
    have hrun : runAnswer l t ⟨r, false, List.replicate (k + 1) (.tx false)⟩ =
        maybeSendRawHidPacket l false (runAnswer l t ⟨r, false, List.replicate k (.tx false)⟩) := by
      unfold runAnswer
      rw [List.replicate_succ', List.foldl_append]
      rfl
    rw [hrun]
    obtain ⟨h₁, h₂, h₃⟩ := tx_next hmask' (by rw [hseq, hcount]; omega)
    exact ⟨h₁.trans (congrArg (· + 1) hseq), h₂.trans hcount, h₃⟩

theorem newPackets_getElem (t : HidTx) (hmask : t.eventMask = fun _ => false) (r : HidResponse)
    (k : Nat) (hk : k < packetCount l r.fullLength) :
    (newPackets t (runAnswer l t ⟨r, false, List.replicate k (.tx false)⟩))[k]? =
      some (packetBytes l (r.writeTo t.cmdResp) (packetCount l r.fullLength) k) := by
  obtain ⟨hseq, hcount, -⟩ := tx_reaches t hmask r k hk
  have hstart : Sending l (r.writeTo t.cmdResp) (packetCount l r.fullLength) t.sent
      { t with
        cmdResp := r.writeTo t.cmdResp
        txCount := packetCount l r.fullLength
        txSeq := 0
        txData := true } :=
    ⟨rfl, 0, Nat.zero_le _, .inl ⟨rfl, rfl⟩, [], (List.append_nil _).symm, rfl⟩
  obtain ⟨-, j, hj, hpos, own, hown, hcmd⟩ :=
    sending_steps (sending_packet hstart false) (List.replicate k (.tx false))
  have hjk : j = k + 1 := by
    rcases hpos with ⟨h, -⟩ | ⟨-, h, -⟩
    · exact h.symm.trans hseq
    · exact absurd (h.symm.trans hseq) (Nat.succ_ne_zero k).symm
  unfold newPackets
  rw [show (runAnswer l t ⟨r, false, List.replicate k (.tx false)⟩).sent = t.sent ++ own from hown,
    List.drop_left, hcmd, hjk]
  simp

/-- The longest response there is, all ones. -/
def longest (l : HidLink) : HidResponse where
  resp := .okay
  messagesRemaining := 0
  state := .loggedIn
  payload := some (List.replicate l.cmdPacketPayloadSize 0xff)
  payloadLen := l.cmdPacketPayloadSize

theorem fits_longest (l : HidLink) : (longest l).Fits l := by
  refine ⟨?_, Nat.le_refl _⟩
  rintro p ⟨⟩
  exact List.length_replicate

theorem longest_writeTo (m : Mem) {a : Nat} (ha : CMD_PACKET_HEADER_SIZE ≤ a)
    (ha' : a < l.cmdPacketPayloadSize + CMD_PACKET_HEADER_SIZE) : (longest l).writeTo m a = 0xff := by
  have hlen : ((longest l).payload.getD []).length = l.cmdPacketPayloadSize := List.length_replicate
  unfold HidResponse.writeTo
  rw [Mem.write_apply_of_mem _ ha (by omega)]
  exact List.getElem_replicate _

/-- A byte that a response does not write, but sends, tells the histories apart. -/
theorem stale_byte {r : HidResponse} {a : Nat} (ha : CMD_PACKET_HEADER_SIZE ≤ a)
    (ha' : a < l.cmdPacketPayloadSize + CMD_PACKET_HEADER_SIZE)
    (hsent : a / l.rawHidPayloadSize < packetCount l r.fullLength)
    (hkeep : ∀ m : Mem, r.writeTo m a = m a) : ¬ NoStaleBytes l r := by
  intro hno
  have hps := l.header_lt
  have hhead : 0 < CMD_PACKET_HEADER_SIZE := by decide
  generalize hk : a / l.rawHidPayloadSize = k at hsent
  have hbyte := hno [] [⟨longest l, false, []⟩] (by intro x hx; cases hx)
    (by
      intro x hx
      rw [List.mem_singleton] at hx
      rw [hx]
      exact fits_longest l)
    ⟨r, false, List.replicate k (.tx false)⟩ ⟨r, false, List.replicate k (.tx false)⟩ rfl rfl k _ _
    (newPackets_getElem _ rfl r k hsent)
    (newPackets_getElem _ (tx_reaches hidInit rfl (longest l) 0 (by
      rw [packetCount_eq (fits_longest l)]
      exact Nat.div_pos (by unfold HidResponse.fullLength; omega) (by omega))).2.2 r k hsent)
  have hdiv := Nat.div_add_mod a l.rawHidPayloadSize
  have hmod := Nat.mod_lt a (show 0 < l.rawHidPayloadSize by omega)
  rw [hk] at hdiv
  have hread := (List.cons.inj hbyte).2
  have hget := congrArg (fun bs => bs[a % l.rawHidPayloadSize]?) hread
  rw [List.getElem?_eq_getElem (by simpa using hmod), List.getElem?_eq_getElem (by simpa using hmod),
    Mem.getElem_read, Mem.getElem_read, Option.some.injEq, Nat.mul_comm, hdiv, hkeep, hkeep] at hget
  have hlong : (afterAnswers l [⟨longest l, false, []⟩]).cmdResp a = 0xff :=
    (congrFun (cmdResp_runAnswer l hidInit ⟨longest l, false, []⟩) a).trans (longest_writeTo _ ha ha')
  have hzero : (0 : UInt8) = 0xff := hget.trans hlong
  exact absurd hzero (by decide)

/-- Only responses of full packets are free of stale bytes. -/
theorem noStaleBytes_iff {r : HidResponse} (hr : r.Fits l) :
    NoStaleBytes l r ↔ FullPackets l r := by
  constructor
  · intro hno
    have hps := l.header_lt
    have hcount := packetCount_eq hr
    have hle := hr.le
    refine ⟨?_, ?_⟩
    · by_contra hp
      rw [not_or] at hp
      obtain ⟨hnone, hlen⟩ := hp
      -- the length counts a payload that is not written
      refine stale_byte (Nat.le_refl _) (by omega) ?_ ?_ hno
      · rw [hcount, Nat.div_eq_of_lt hps]
        apply Nat.div_pos
        · unfold HidResponse.fullLength
          omega
        · omega
      · intro m
        have hnil : r.payload.getD [] = [] := by
          cases h : r.payload with
          | none => rfl
          | some p => exact absurd (by rw [h]; rfl) hnone
        unfold HidResponse.writeTo
        rw [hnil, Mem.write_apply_of_notMem _ (.inr (by simp)),
          Mem.write_apply_of_notMem _ (.inr (by simp))]
    · by_contra htail
      rw [not_or] at htail
      obtain ⟨hdvd, hmax⟩ := htail
      -- the last packet goes on behind the response
      refine stale_byte (a := r.fullLength) (Nat.le_add_left _ _) ?_ ?_
        (fun m => writeTo_apply hr m (Nat.le_refl _)) hno
      · unfold HidResponse.fullLength
        omega
      · rw [hcount]
        have hmod : r.fullLength % l.rawHidPayloadSize ≠ 0 := fun h => hdvd (Nat.dvd_of_mod_eq_zero h)
        have hdiv := Nat.div_add_mod r.fullLength l.rawHidPayloadSize
        rw [Nat.lt_iff_add_one_le, Nat.le_div_iff_mul_le (by omega), Nat.succ_mul, Nat.mul_comm]
        omega
  · exact noStaleBytes_of_fullPackets hr

end Send

/-! ### The two devices -/

/-- The answer to READ_UID for a record of one sub-block. -/
def readUidAnswer : Answer where
  response :=
    { resp := .okay, messagesRemaining := 0, state := .loggedIn
      payload := some ([14, 0] ++ List.replicate 16 0x5a), payloadLen := 18 }
  busy := false
  steps := [.tx false]

/-- The answer to GET_DEVICE_STATE after the user has logged out. -/
def deviceStateAnswer : Answer where
  response :=
    { resp := .okay, messagesRemaining := 0, state := .loggedOut
      payload := some [DeviceState.loggedOut.code], payloadLen := 1 }
  busy := false
  steps := [.tx false]

/-- The answer to GET_DEVICE_STATE carries the record bytes of the answer to READ_UID
    before it. -/
def RecordResent (d : Device) : Prop :=
  deviceStateAnswer.response.Fits d.hidLink ∧
    (newPackets (afterAnswers d.hidLink [readUidAnswer])
      (runAnswer d.hidLink (afterAnswers d.hidLink [readUidAnswer]) deviceStateAnswer)).map
        (fun p => (p.drop 9).take 15) = [List.replicate 15 0x5a] ∧
    ¬ NoStaleBytes d.hidLink deviceStateAnswer.response

theorem recordResent (d : Device) : RecordResent d := by
  have hfits : deviceStateAnswer.response.Fits d.hidLink := by
    refine ⟨?_, ?_⟩
    · rintro p ⟨⟩
      rfl
    · cases d <;> decide
  refine ⟨hfits, ?_, ?_⟩
  · cases d <;> decide +kernel
  · intro hno
    have htail := ((noStaleBytes_iff hfits).mp hno).tail
    revert htail
    cases d <;> decide

/-- **Stale bytes are sent**, on both devices. -/
theorem record_bytes_resent : RecordResent .signet ∧ RecordResent .signetHc :=
  ⟨recordResent .signet, recordResent .signetHc⟩

/-- **A response is sent without stale bytes exactly when its payload is given and
    it fills its packets**, or is as long as responses can be. -/
theorem no_stale_bytes (d : Device) {r : HidResponse} (hr : r.Fits d.hidLink) :
    NoStaleBytes d.hidLink r ↔ FullPackets d.hidLink r := noStaleBytes_iff hr

/-- A response with 57 bytes of payload fills one packet of the original device. -/
theorem no_stale_bytes_one_packet :
    let r : HidResponse :=
      { resp := .okay, messagesRemaining := 0, state := .loggedOut
        payload := some (List.replicate 57 7), payloadLen := 57 }
    r.Fits Device.signet.hidLink ∧ NoStaleBytes Device.signet.hidLink r := by
  intro r
  have hfits : r.Fits Device.signet.hidLink := by
    refine ⟨?_, by decide⟩
    rintro p ⟨⟩
    rfl
  exact ⟨hfits, (no_stale_bytes .signet hfits).mpr ⟨.inl rfl, .inl (by decide)⟩⟩

end SignetBase
