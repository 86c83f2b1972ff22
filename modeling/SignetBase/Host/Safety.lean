/-
  SignetBase/Host/Safety.lean
  ===========================
  **What a faulty device can do to the host.**

  A packet is harmless when the lengths the device announces go together with the
  place and the size of what it sends, and when the response it completes is not one of
  those the host reads beyond their end.  A run of packets keeps the host within its
  buffers exactly when all its packets are harmless.
-/
import SignetBase.Host.Responses

namespace SignetBase

variable (d : Device)

/-! ### Safe and harmless -/

/-- An access within the host's buffers, and within the `len` bytes that were reported. -/
def Access.Safe (len : Nat) : Access → Prop
  | .respRead off n => off + n ≤ len ∧ off + n ≤ MAX_CMD_PACKET_PAYLOAD_SIZE
  | .respWrite off n => off + n ≤ MAX_CMD_PACKET_PAYLOAD_SIZE
  | .dataWrite i => i < MAX_CMD_PACKET_PAYLOAD_SIZE
  | .maskWrite i => i / 8 < MAX_CMD_PACKET_PAYLOAD_SIZE
  | .progressWrite i => i < MAX_PROGRESS_COMPONENTS
  | .difference a b => b ≤ a

/-- Nothing is touched in handling a response that should not be. -/
def CommandResp.Safe (c : CommandResp) : Prop :=
  ∀ a ∈ (handleCommandResp d c).touched, a.Safe c.respLen

/-- Neither in taking in a packet, nor in handling the response that it completes. -/
def RxStep.Safe (x : RxStep) : Prop :=
  (∀ a ∈ x.touched, a.Safe 0) ∧ ∀ c, .commandResp c ∈ x.calls → c.Safe d

/-- The host takes in the packets and stays within its buffers. -/
def SafeRun : RxMessageState → List Mem → Prop
  | _, [] => True
  | s, pkt :: pkts =>
    (processRxPacket d s pkt).Safe d ∧ SafeRun (processRxPacket d s pkt).state pkts

/-- The message behind the first `k` bytes of a response of `len` bytes is one that
    `decode_id` takes. -/
def Decodes (k len : Nat) : Prop :=
  k < len ∧ SUB_BLK_SIZE ∣ len - k ∧ len - k < signetdevPrivCmdPayloadSize (some d)

/-- A response in which the host reads no further than it goes, and writes no more components
    than it has room for. -/
def HarmlessResp (devCmd : Command) (respCode : Int) (len : Nat) : Prop :=
  (devCmd = .getProgress → respCode = CommandResponse.okay.code.toNat → 4 ≤ len → len % 4 = 0 →
    len ≤ 4 * (MAX_PROGRESS_COMPONENTS + 1)) ∧
  (devCmd = .startup → respCode = CommandResponse.unknownDbFormat.code.toNat →
    signetdevPrivStartupRespSize d ≤ len) ∧
  (devCmd = .readAllUids → respCode = CommandResponse.okay.code.toNat → ¬ Decodes d 4 len) ∧
  (devCmd = .readUid → respCode = CommandResponse.okay.code.toNat → ¬ Decodes d 2 len)

/-- The size and the code of the response that a packet belongs to. -/
def announcedSize (s : RxMessageState) (pkt : Mem) : UInt32 :=
  if packetSeq pkt = 0 then UInt32.ofNat (pkt.get16 1) - UInt32.ofNat CMD_PACKET_HEADER_SIZE
  else s.expectedRespSize

def announcedCode (s : RxMessageState) (pkt : Mem) : UInt8 :=
  if packetSeq pkt = 0 then pkt 3 else s.asyncRespCode

/-- The first packet of a response announces a whole header, and the bytes of any other
    packet begin within the announced length and end in the buffer. -/
def PacketFits (s : RxMessageState) (pkt : Mem) : Prop :=
  if packetSeq pkt = 0 then CMD_PACKET_HEADER_SIZE ≤ pkt.get16 1
  else rxOffset d pkt ≤ s.expectedRespSize.toNat ∧
    (rxOffset d pkt = s.expectedRespSize.toNat ∨
      min (rxOffset d pkt + d.hidLink.rawHidPayloadSize) s.expectedRespSize.toNat ≤
        MAX_CMD_PACKET_PAYLOAD_SIZE)

/-- The response that a last packet completes does no harm. -/
def CompletesHarmless (s : RxMessageState) (msg : SendMessageReq) (pkt : Mem) : Prop :=
  packetLast pkt = true → msg.interrupt = false → (announcedSize s pkt).toNat < 2 ^ 31 →
    HarmlessResp d msg.devCmd
      (if msg.getResp then (announcedCode s pkt).toNat else CommandResponse.okay.code.toNat)
      (announcedSize s pkt).toNat

/-- A packet that does no harm: an event, a packet nothing waits for, or one that fits
    and does not complete a harmful response. -/
def Harmless (s : RxMessageState) (pkt : Mem) : Prop :=
  packetSeq pkt = 0x7f ∨
    ∀ msg, s.message = some msg → PacketFits d s pkt ∧ CompletesHarmless d s msg pkt

/-- The packets are harmless, each in the state that those before it led to. -/
def HarmlessRun : RxMessageState → List Mem → Prop
  | _, [] => True
  | s, pkt :: pkts => Harmless d s pkt ∧ HarmlessRun (processRxPacket d s pkt).state pkts

/-! ### Handling a response -/

variable {d}

/-- The decoder keeps to the caller's arrays but not to the message. -/
theorem decodeEntry_safe_iff (c : CommandResp) {k : Nat} (hk : k ≤ c.respLen) (hsmall : k ≤ 4)
    (hlen : c.respLen < 2 ^ 31) :
    (∀ a ∈ (decodeEntry d c k).1, a.Safe c.respLen) ↔ ¬ Decodes d k c.respLen := by
  have hmax := (signetdevPrivCmdPayloadSize_le (some d)).2
  have hfirst : ∀ a ∈ [Access.respRead 0 k, .difference c.respLen k], a.Safe c.respLen := by
    intro a ha
    simp only [List.mem_cons, List.not_mem_nil, or_false] at ha
    rcases ha with rfl | rfl
    · exact ⟨by omega, by unfold MAX_CMD_PACKET_PAYLOAD_SIZE; omega⟩
    · exact hk
  unfold decodeEntry Decodes
  dsimp only
  by_cases hzero : c.respLen - k = 0
  · rw [if_pos hzero]
    exact ⟨fun _ h => absurd h.1 (by omega), fun _ => hfirst⟩
  · rw [if_neg hzero]
    have hsize : decodeSize (c.respLen - k) = (c.respLen - k + 15) / 16 * 16 := by
      unfold decodeSize SUB_BLK_SIZE AES_BLK_SIZE
      rw [Nat.mod_eq_of_lt (by omega)]
    unfold decodeId
    rw [hsize]
    by_cases hbig : (c.respLen - k + 15) / 16 * 16 ≥ signetdevPrivCmdPayloadSize (some d)
    · rw [if_pos hbig]
      simp only [freshEntry, List.map_nil, List.append_nil]
      refine ⟨fun _ h => ?_, fun _ => hfirst⟩
      obtain ⟨-, ⟨m, hm⟩, hlt⟩ := h
      simp only [SUB_BLK_SIZE, AES_BLK_SIZE] at hm
      omega
    · rw [if_neg hbig]
      by_cases hwhole : (c.respLen - k + 15) / 16 * 16 ≠ c.respLen - k
      · rw [if_pos hwhole]
        simp only [freshEntry, List.map_nil, List.append_nil]
        refine ⟨fun _ h => ?_, fun _ => hfirst⟩
        obtain ⟨-, ⟨m, hm⟩, -⟩ := h
        simp only [SUB_BLK_SIZE, AES_BLK_SIZE] at hm
        omega
      · rw [if_neg hwhole]
        dsimp only
        refine iff_of_false ?_ (fun h => h ⟨by omega, ?_, by omega⟩)
        · -- the first byte that has no place in the message
          intro h
          have htouched := (mem_touched_decodeBytes (c.resp.window k) (c.respLen - k) freshEntry
            (.respRead (subBlk (14 * ((c.respLen - k) / 16)) +
              14 * ((c.respLen - k) / 16) % 14 + 2) 1)).mpr
            (.inr ⟨14 * ((c.respLen - k) / 16), by omega, .inr (.inl rfl)⟩)
          have hsafe := (h _ (List.mem_append_right _ (List.mem_map.mpr ⟨_, htouched, rfl⟩))).1
          have heq := subBlk_eq (14 * ((c.respLen - k) / 16))
          omega
        · exact Nat.dvd_of_mod_eq_zero (by unfold SUB_BLK_SIZE AES_BLK_SIZE; omega)

theorem handleProgress_safe_iff (c : CommandResp) :
    (∀ a ∈ (handleProgress c).touched, a.Safe c.respLen) ↔
      (c.respCode = CommandResponse.okay.code.toNat → 4 ≤ c.respLen → c.respLen % 4 = 0 →
        c.respLen ≤ 4 * (MAX_PROGRESS_COMPONENTS + 1)) := by
  unfold handleProgress
  by_cases h : c.respCode = CommandResponse.okay.code.toNat ∧ 4 ≤ c.respLen ∧ c.respLen % 4 = 0
  · rw [if_pos h]
    obtain ⟨hcode, hfour, hmod⟩ := h
    constructor
    · intro hsafe _ _ _
      -- the last component is written in the array
      by_contra hlong
      have hlast := hsafe (.progressWrite (c.respLen / 4 - 1 - 1))
        (List.mem_append_right _ (List.mem_map.mpr ⟨c.respLen / 4 - 1 - 1,
          List.mem_range.mpr (by omega), rfl⟩))
      change c.respLen / 4 - 1 - 1 < MAX_PROGRESS_COMPONENTS at hlast
      omega
    · intro hmax a ha
      have hle := hmax hcode hfour hmod
      have hsmall : 4 * (MAX_PROGRESS_COMPONENTS + 1) ≤ MAX_CMD_PACKET_PAYLOAD_SIZE := by decide
      rcases List.mem_append.mp ha with ha | ha
      · rcases List.mem_cons.mp ha with rfl | ha
        · change 1 ≤ c.respLen / 4
          omega
        · obtain ⟨j, hj, rfl⟩ := List.mem_map.mp ha
          rw [List.mem_range] at hj
          exact ⟨by omega, by omega⟩
      · obtain ⟨i, hi, rfl⟩ := List.mem_map.mp ha
        rw [List.mem_range] at hi
        change i < MAX_PROGRESS_COMPONENTS
        omega
  · rw [if_neg h]
    refine iff_of_true ?_ (fun h₁ h₂ h₃ => absurd ⟨h₁, h₂, h₃⟩ h)
    split
    · intro a ha
      cases ha
    · intro a ha
      cases ha

theorem handleStartup_safe_iff (c : CommandResp) :
    (∀ a ∈ (handleStartup d c).touched, a.Safe c.respLen) ↔
      (c.respCode = CommandResponse.unknownDbFormat.code.toNat →
        signetdevPrivStartupRespSize d ≤ c.respLen) := by
  have hsize : signetdevPrivStartupRespSize d =
      signetdevPrivStartupRespInfoSize d + HASH_FN_SZ + SALT_SZ_V2 := rfl
  have hsmall : signetdevPrivStartupRespSize d ≤ MAX_CMD_PACKET_PAYLOAD_SIZE := by
    cases d <;> decide
  have hreads : signetdevPrivStartupRespSize d ≤ c.respLen →
      ∀ a ∈ [Access.respRead 0 (signetdevPrivStartupRespInfoSize d),
        .respRead (signetdevPrivStartupRespInfoSize d) HASH_FN_SZ,
        .respRead (signetdevPrivStartupRespInfoSize d + HASH_FN_SZ) SALT_SZ_V2],
      a.Safe c.respLen := by
    intro hle a ha
    simp only [List.mem_cons, List.not_mem_nil, or_false] at ha
    rcases ha with rfl | rfl | rfl
    · exact ⟨by omega, by omega⟩
    · exact ⟨by omega, by omega⟩
    · exact ⟨by omega, by omega⟩
  unfold handleStartup
  dsimp only
  by_cases hokay : c.respCode = CommandResponse.okay.code.toNat
  · have hne : c.respCode ≠ CommandResponse.unknownDbFormat.code.toNat := by
      rw [hokay]
      decide
    refine iff_of_true ?_ (fun h => absurd h hne)
    by_cases hlen : c.respLen < signetdevPrivStartupRespSize d
    · rw [if_pos ⟨hokay, hlen⟩]
      intro a ha
      cases ha
    · rw [if_neg (fun h => hlen h.2), if_pos (.inl hokay)]
      exact hreads (by omega)
  · rw [if_neg (fun h => hokay h.1)]
    by_cases hunknown : c.respCode = CommandResponse.unknownDbFormat.code.toNat
    · rw [if_pos (.inr hunknown)]
      refine ⟨fun h _ => ?_, fun h => hreads (h hunknown)⟩
      have hlast := (h _ (List.mem_cons_of_mem _ (List.mem_cons_of_mem _ List.mem_cons_self))).1
      omega
    · rw [if_neg (fun h => h.elim hokay hunknown)]
      refine iff_of_true ?_ (fun h => absurd h hunknown)
      intro a ha
      cases ha

/-- A record behind the first `k` bytes, which are there. -/
theorem entry_safe_iff (c : CommandResp) {k : Nat} (hk : k ≤ 4) (hlen : c.respLen < 2 ^ 31)
    {r : HandledResp} (hr : r.touched = (if c.respCode = CommandResponse.okay.code.toNat then
      if c.respLen < k then [] else (decodeEntry d c k).1 else [])) :
    (∀ a ∈ r.touched, a.Safe c.respLen) ↔
      (c.respCode = CommandResponse.okay.code.toNat → ¬ Decodes d k c.respLen) := by
  rw [hr]
  by_cases hokay : c.respCode = CommandResponse.okay.code.toNat
  · rw [if_pos hokay]
    by_cases hshort : c.respLen < k
    · rw [if_pos hshort]
      refine iff_of_true (fun a ha => ?_) (fun _ h => absurd h.1 (by omega))
      cases ha
    · rw [if_neg hshort, decodeEntry_safe_iff c (by omega) hk hlen]
      exact ⟨fun h _ => h, fun h => h hokay⟩
  · rw [if_neg hokay]
    refine iff_of_true (fun a ha => ?_) (fun h => absurd h hokay)
    cases ha

/-- **A response is handled safely exactly when it is harmless.** -/
theorem CommandResp.safe_iff (c : CommandResp) (hlen : c.respLen < 2 ^ 31) :
    c.Safe d ↔ HarmlessResp d c.devCmd c.respCode c.respLen := by
  have hall : (handleReadAllUids d c).touched =
      if c.respCode = CommandResponse.okay.code.toNat then
        if c.respLen < 4 then [] else (decodeEntry d c 4).1 else [] := by
    unfold handleReadAllUids
    split
    · split <;> rfl
    · rfl
  have huid : (handleReadUid d c).touched =
      if c.respCode = CommandResponse.okay.code.toNat then
        if c.respLen < 2 then [] else (decodeEntry d c 2).1 else [] := by
    unfold handleReadUid
    split
    · split <;> rfl
    · rfl
  unfold CommandResp.Safe handleCommandResp HarmlessResp
  split
  case h_5 h => simp [h, handleProgress_safe_iff]
  case h_6 h => simp [h, handleStartup_safe_iff]
  case h_8 h =>
    rw [entry_safe_iff c (Nat.le_refl 4) hlen hall]
    simp [h]
  case h_9 h =>
    rw [entry_safe_iff c (by decide) hlen huid]
    simp [h]
  all_goals simp_all [handleBytes]

/-! ### Taking in a packet -/

theorem rxFirst_safe_iff (s : RxMessageState) (msg : SendMessageReq) (pkt : Mem) :
    (∀ a ∈ (rxFirst d s msg pkt).2, a.Safe 0) ↔ CMD_PACKET_HEADER_SIZE ≤ pkt.get16 1 := by
  constructor
  · intro h
    exact h _ List.mem_cons_self
  · intro hle a ha
    simp only [rxFirst, List.mem_cons, List.not_mem_nil, or_false] at ha
    rcases ha with rfl | rfl
    · exact hle
    · change 0 + (d.hidLink.rawHidPayloadSize - CMD_PACKET_HEADER_SIZE) ≤ _
      cases d <;> decide

theorem rxNext_safe_iff (s : RxMessageState) (pkt : Mem) :
    (∀ a ∈ (rxNext d s pkt).2, a.Safe 0) ↔ rxOffset d pkt ≤ s.expectedRespSize.toNat ∧
      (rxOffset d pkt = s.expectedRespSize.toNat ∨
        min (rxOffset d pkt + d.hidLink.rawHidPayloadSize) s.expectedRespSize.toNat ≤
          MAX_CMD_PACKET_PAYLOAD_SIZE) := by
  have hpos := d.hidLink.header_lt
  have hlt := s.expectedRespSize.toNat_lt
  unfold rxNext
  dsimp only
  generalize s.expectedRespSize.toNat = size at hlt ⊢
  by_cases hshort : rxOffset d pkt + d.hidLink.rawHidPayloadSize > size
  · simp only [if_pos hshort]
    by_cases hle : rxOffset d pkt ≤ size
    · have hread : (size + 2 ^ 64 - rxOffset d pkt) % 2 ^ 64 = size - rxOffset d pkt := by omega
      rw [hread]
      by_cases hzero : size - rxOffset d pkt > 0
      · rw [if_pos hzero]
        simp only [List.cons_append, List.nil_append, List.mem_cons, List.not_mem_nil, or_false,
          forall_eq_or_imp, forall_eq]
        unfold Access.Safe
        dsimp only
        omega
      · rw [if_neg hzero]
        refine iff_of_true ?_ ⟨hle, .inl (by omega)⟩
        intro a ha
        rw [List.mem_singleton.mp ha]
        exact hle
    · -- the device says less than it has sent already
      refine iff_of_false ?_ (fun h => hle h.1)
      intro h
      apply hle
      split at h
      · exact h (.difference size (rxOffset d pkt))
          (List.mem_append_left _ (List.mem_singleton.mpr rfl))
      · exact h (.difference size (rxOffset d pkt)) (List.mem_singleton.mpr rfl)
  · simp only [if_neg hshort]
    rw [if_pos (by omega)]
    simp only [List.nil_append, List.mem_singleton, forall_eq]
    unfold Access.Safe
    dsimp only
    omega

/-- A response is passed on unless nobody waits for it. -/
theorem safe_messageSendResp (s : RxMessageState) (msg : SendMessageReq) (size : UInt32) (n : Nat) :
    (∀ c, .commandResp c ∈ messageSendResp s msg (respSizeInt size) n → c.Safe d) ↔
      (msg.interrupt = false → size.toNat < 2 ^ 31 → HarmlessResp d msg.devCmd
        (if msg.getResp then s.asyncRespCode.toNat else CommandResponse.okay.code.toNat)
        size.toNat) := by
  have hlt := size.toNat_lt
  unfold messageSendResp
  by_cases hint : msg.interrupt = true
  · rw [if_pos hint]
    refine iff_of_true (fun c hc => ?_) (fun h => absurd (hint.symm.trans h) (by decide))
    cases hc
  · rw [if_neg hint]
    simp only [List.mem_singleton, HostCall.commandResp.injEq, forall_eq]
    rw [Bool.not_eq_true] at hint
    by_cases hsize : size.toNat < 2 ^ 31
    · have hrc : respSizeInt size = size.toNat := if_pos hsize
      rw [CommandResp.safe_iff _ (by rw [hrc]; exact hsize)]
      dsimp only
      rw [hrc, if_pos (Int.natCast_nonneg _), Int.toNat_natCast,
        show (CommandResponse.okay.code.toNat : Int) = 0 from rfl]
      exact ⟨fun h _ _ => h, fun h => h hint hsize⟩
    · -- the length is taken for an error code
      have hrc : respSizeInt size = (size.toNat : Int) - 2 ^ 32 := if_neg hsize
      refine iff_of_true ?_ (fun _ h => absurd h hsize)
      rw [CommandResp.safe_iff _ (by rw [hrc]; simp only; omega)]
      dsimp only
      rw [hrc, if_neg (by omega)]
      refine ⟨?_, ?_, ?_, ?_⟩
      · intro _ h
        have hcode : (0 : Int) ≤ CommandResponse.okay.code.toNat := Int.natCast_nonneg _
        omega
      · intro _ h
        have hcode : (0 : Int) ≤ CommandResponse.unknownDbFormat.code.toNat := Int.natCast_nonneg _
        omega
      · intro _ h
        have hcode : (0 : Int) ≤ CommandResponse.okay.code.toNat := Int.natCast_nonneg _
        omega
      · intro _ h
        have hcode : (0 : Int) ≤ CommandResponse.okay.code.toNat := Int.natCast_nonneg _
        omega

/-- A later packet changes nothing but the buffer. -/
theorem rxNext_frame (s : RxMessageState) (pkt : Mem) :
    ∃ resp, (rxNext d s pkt).1 = { s with asyncResp := resp } := by
  unfold rxNext
  dsimp only
  split
  · split
    · exact ⟨_, rfl⟩
    · exact ⟨_, rfl⟩
  · split
    · exact ⟨_, rfl⟩
    · exact ⟨_, rfl⟩

/-- The state after a packet has what the packet announced. -/
theorem announced_processed (s : RxMessageState) {msg : SendMessageReq}
    (hmsg : s.message = some msg)
    (pkt : Mem) :
    ∃ state, (if packetSeq pkt = 0 then rxFirst d s msg pkt else rxNext d s pkt).1 = state ∧
      state.expectedRespSize = announcedSize s pkt ∧
      (msg.getResp = true → state.asyncRespCode = announcedCode s pkt) ∧
      ∃ msg', state.message = some msg' ∧ msg'.devCmd = msg.devCmd ∧
        msg'.interrupt = msg.interrupt ∧ msg'.getResp = msg.getResp := by
  refine ⟨_, rfl, ?_⟩
  unfold announcedSize announcedCode
  by_cases hseq : packetSeq pkt = 0
  · simp only [if_pos hseq]
    exact ⟨rfl, fun h => if_pos h, _, rfl, rfl, rfl, rfl⟩
  · simp only [if_neg hseq]
    obtain ⟨resp, hnext⟩ := rxNext_frame (d := d) s pkt
    rw [hnext]
    exact ⟨rfl, fun _ => rfl, msg, hmsg, rfl, rfl, rfl⟩

theorem safe_rxLast (s : RxMessageState) {msg : SendMessageReq} (hmsg : s.message = some msg)
    (last : Bool) :
    (∀ c, .commandResp c ∈ (rxLast s last).2 → c.Safe d) ↔
      (last = true → msg.interrupt = false → s.expectedRespSize.toNat < 2 ^ 31 →
        HarmlessResp d msg.devCmd
          (if msg.getResp then s.asyncRespCode.toNat else CommandResponse.okay.code.toNat)
          s.expectedRespSize.toNat) := by
  unfold rxLast
  rw [hmsg]
  dsimp only
  by_cases hlast : last = true
  · rw [if_pos hlast]
    split
    · rw [safe_messageSendResp]
      exact ⟨fun h _ => h, fun h => h hlast⟩
    · rw [safe_messageSendResp]
      exact ⟨fun h _ => h, fun h => h hlast⟩
  · rw [if_neg hlast]
    refine iff_of_true (fun c hc => ?_) (fun h => absurd h hlast)
    cases hc

/-- **A packet is taken in safely exactly when it is harmless.** -/
theorem processRxPacket_safe_iff (s : RxMessageState) (pkt : Mem) :
    (processRxPacket d s pkt).Safe d ↔ Harmless d s pkt := by
  unfold Harmless processRxPacket
  by_cases hevent : packetSeq pkt = 0x7f
  · rw [if_pos hevent]
    refine iff_of_true ⟨fun a ha => ?_, fun c hc => ?_⟩ (.inl hevent)
    · cases ha
    · cases List.mem_singleton.mp hc
  · rw [if_neg hevent]
    cases hmsg : s.message with
    | none =>
      refine iff_of_true ⟨fun a ha => ?_, fun c hc => ?_⟩ (.inr fun msg h => by cases h)
      · cases ha
      · cases hc
    | some msg =>
      simp only [hevent, Option.some.injEq, forall_eq', false_or]
      unfold RxStep.Safe
      dsimp only
      refine and_congr ?_ ?_
      · unfold PacketFits
        split
        · exact rxFirst_safe_iff s msg pkt
        · exact rxNext_safe_iff s pkt
      · obtain ⟨state, hstate, hsize, hcode, msg', hmsg', hcmd, hint, hresp⟩ :=
          announced_processed (d := d) s hmsg pkt
        rw [hstate, safe_rxLast state hmsg', hsize, hcmd, hint, hresp]
        unfold CompletesHarmless
        by_cases hget : msg.getResp = true
        · rw [hcode hget]
        · rw [if_neg hget, if_neg hget]

/-! ### Runs -/

/-- The answer to READ_UID for a record of one sub-block, as the device sends it. -/
def oneBlockAnswer : Mem :=
  Mem.write (fun _ => 0x5a) 0 [0x80, 24, 0, 0, 0, 0, DeviceState.loggedIn.code, 14, 0]

/-- The host waits for the answer to READ_UID. -/
def waitsForUid : RxMessageState where
  expectedRespSize := 0
  expectedMessagesRemaining := 0
  message := some
    { devCmd := .readUid, apiCmd := 0, payload := [1, 0, 0], messagesRemaining := 0
      getResp := true, user := 0, token := 0, interrupt := false, endDeviceState := 0 }
  asyncResp := fun _ => 0
  asyncRespCode := 0

end SignetBase
