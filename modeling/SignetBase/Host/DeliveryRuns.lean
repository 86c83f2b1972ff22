/-
  SignetBase/Host/DeliveryRuns.lean
  =================================
  **What arrives at the host, over whole runs of the link.**

  As long as a response is handed over while no transfer is in flight, every response
  and every event reaches the host once and as it was: `LinkInv` ties the packet in
  flight, what the host has put together and the events that wait to the responses
  and events the run has passed to the link.
-/
import Mathlib.Data.Finset.Card
import Mathlib.Data.Finset.Range
import SignetBase.Host.Delivery

namespace SignetBase

variable {d : Device}

/-! ### What a run has passed to the link -/

/-- The responses, in their order. -/
def passedOn : History RawHidLink (LinkEvent d) → List (SentResponse d)
  | [] => []
  | (_, .respond r) :: h => passedOn h ++ [r]
  | (_, .event _) :: h => passedOn h
  | (_, .complete) :: h => passedOn h

/-- The data of the events of number `i`, in their order.  An event that is queued again
    before it was sent stays one event, with the new data. -/
def queuedData (i : Nat) : History RawHidLink (LinkEvent d) → List Bytes
  | [] => []
  | (s, .event e) :: h =>
    if e.num = i then
      (if s.tx.eventMask i then (queuedData i h).dropLast else queuedData i h) ++ [e.data.getD []]
    else queuedData i h
  | (_, .respond _) :: h => queuedData i h
  | (_, .complete) :: h => queuedData i h

/-- The host after the packets it has got in this state. -/
def hostOf (d : Device) (reqs : Nat → Request) (rx : RxMessageState) (s : RawHidLink) : HostRx :=
  hostAfter d reqs ⟨rx, []⟩ s.delivered

/-- Everything the run has passed to the link reaches the host, once and unchanged. -/
structure AllDelivered (reqs : Nat → Request) (rx : RxMessageState)
    (h : History RawHidLink (LinkEvent d)) (s : RawHidLink) : Prop where
  /-- The host has passed on the first responses, among them all those for which
      `cmd_packet_sent` was called. -/
  inOrder : ∃ k, s.packetsSent ≤ k ∧ k ≤ (passedOn h).length ∧
    (hostOf d reqs rx s).calls.filterMap HostCall.passed? =
      ((passedOn h).take k).map SentResponse.passed
  /-- `cmd_packet_sent` was called for each response but the one being sent. -/
  sent : s.packetsSent + (if s.tx.txData then 1 else 0) = (passedOn h).length
  /-- The events the host has passed on are the first ones of those queued. -/
  events : ∀ i, (hostOf d reqs rx s).calls.filterMap (HostCall.event? i) <+: queuedData i h
  /-- With no transfer in flight nothing is left. -/
  idle : s.inFlight = none → s.tx.txData = false ∧
    (hostOf d reqs rx s).calls.filterMap HostCall.passed? = (passedOn h).map SentResponse.passed ∧
    ∀ i, (hostOf d reqs rx s).calls.filterMap (HostCall.event? i) = queuedData i h
  /-- And there will be none in flight when the endpoint has asked often enough. -/
  drains : ∃ n, ((fun s => linkStep d s .complete)^[n] s).inFlight = none

/-- `cmd_packet_send` is called while no transfer is in flight. -/
def EndpointFree (s : RawHidLink) : LinkEvent d → Prop
  | .respond _ => s.inFlight = none
  | .event _ => True
  | .complete => True

/-- The runs of the link whose steps all satisfy `ok`. -/
abbrev LinkRun (d : Device) (ok : RawHidLink → LinkEvent d → Prop) :=
  Run (· = linkInit) (linkStep d) ok

/-- In every run everything is delivered, whatever requests the host has made. -/
def AlwaysDelivered (d : Device) (ok : RawHidLink → LinkEvent d → Prop) : Prop :=
  ∀ (reqs : Nat → Request) (rx : RxMessageState), rx.message = none →
    ∀ h s, LinkRun d ok h s → AllDelivered reqs rx h s

/-! ### One call of `usb_raw_hid.c` -/

variable {s : RawHidLink} {f : Bool → HidTx → HidTx}

/-- A call that hands over nothing. -/
theorem usbRun_quiet (hf : (f s.inFlight.isSome s.tx).sent = s.tx.sent) :
    usbRun d f s =
      { s with
        tx := f s.inFlight.isSome s.tx
        packetsSent := if s.tx.txData && !(f s.inFlight.isSome s.tx).txData then s.packetsSent + 1
          else s.packetsSent } := by
  unfold usbRun
  dsimp only
  rw [hf, List.drop_length]
  rfl

/-- A call that hands over a packet to the idle endpoint. -/
theorem usbRun_send {p : HidPacket} (hidle : s.inFlight = none)
    (hf : (f false s.tx).sent = s.tx.sent ++ [p]) :
    usbRun d f s =
      { s with
        tx := f false s.tx
        inFlight := some p
        packetsSent := if s.tx.txData && !(f false s.tx).txData then s.packetsSent + 1
          else s.packetsSent } := by
  unfold usbRun
  dsimp only
  rw [hidle, Option.isSome_none, hf, List.drop_left]
  simp only [List.foldl_cons, List.foldl_nil, usbSendBytes]

theorem maybeSendRawHidEvent_busy (l : HidLink) (t : HidTx) :
    maybeSendRawHidEvent l true t = (false, t) := by
  unfold maybeSendRawHidEvent
  split
  · rfl
  · rfl

/-- With no event queued the call goes on to the response. -/
theorem maybeSendRawHidEvent_none (l : HidLink) {t : HidTx} (h : ∀ i < 8, t.eventMask i = false)
    (busy : Bool) : maybeSendRawHidEvent l busy t = (false, t) := by
  have hnone : (List.range 8).find? t.eventMask = none := by
    rw [List.find?_eq_none]
    intro i hi
    rw [h i (List.mem_range.mp hi)]
    decide
  unfold maybeSendRawHidEvent
  rw [hnone]

/-- One of the events queued is sent. -/
theorem maybeSendRawHidEvent_some (l : HidLink) {t : HidTx} {i : Nat} (hi : i < 8)
    (hmask : t.eventMask i = true) :
    ∃ k, t.eventMask k = true ∧ k < 8 ∧
      maybeSendRawHidEvent l false t =
        (true,
          { t with
            eventMask := fun j => t.eventMask j && j != k
            txEventPacket := t.txEventPacket.write 0 (eventBytes k (t.eventData k))
            sent := t.sent ++ [.event ((t.txEventPacket.write 0
              (eventBytes k (t.eventData k))).read 0 l.rawHidPacketSize)] }) := by
  cases hk : (List.range 8).find? t.eventMask with
  | none =>
    rw [List.find?_eq_none] at hk
    exact absurd hmask (hk i (List.mem_range.mpr hi))
  | some k =>
    refine ⟨k, List.find?_some hk, List.mem_range.mp (List.mem_of_find?_eq_some hk), ?_⟩
    unfold maybeSendRawHidEvent
    rw [hk]
    rfl

/-- With no event queued the next packet of the response is sent. -/
theorem maybeSendRawHidPacket_next {t : HidTx} (h : ∀ i < 8, t.eventMask i = false)
    (hne : t.txSeq ≠ t.txCount) :
    ∃ cmdPacket, maybeSendRawHidPacket d.hidLink false t =
      { t with
        txCmdPacket := cmdPacket
        txSeq := t.txSeq + 1
        sent := t.sent ++ [.cmd (packetBytes d.hidLink t.cmdResp t.txCount t.txSeq)] } := by
  unfold maybeSendRawHidPacket
  rw [maybeSendRawHidEvent_none d.hidLink h]
  simp only [Bool.false_eq_true, if_false]
  rw [if_pos hne, read_packet]
  exact ⟨_, rfl⟩

theorem maybeSendRawHidPacket_end {t : HidTx} (h : ∀ i < 8, t.eventMask i = false)
    (heq : t.txSeq = t.txCount) :
    maybeSendRawHidPacket d.hidLink false t =
      { t with txSeq := 0, txCount := 0, txData := false } := by
  unfold maybeSendRawHidPacket
  rw [maybeSendRawHidEvent_none d.hidLink h]
  simp only [Bool.false_eq_true, if_false]
  rw [if_neg (not_not.mpr heq)]

theorem maybeSendRawHidPacket_event {t t' : HidTx}
    (h : maybeSendRawHidEvent d.hidLink false t = (true, t')) :
    maybeSendRawHidPacket d.hidLink false t = t' := by
  unfold maybeSendRawHidPacket
  rw [h]
  rfl

/-! ### The invariant -/

variable {h : History RawHidLink (LinkEvent d)} {host : HostRx} {flying : Option (SentEvent d)}

/-- The packet of an event is in flight. -/
def Flies (e : SentEvent d) (s : RawHidLink) : Prop :=
  ∃ m : Mem, s.inFlight = some (.event ((m.write 0 (eventBytes e.num e.data)).read 0
    d.hidLink.rawHidPacketSize))

/-- The events: at the host, in flight, and queued. -/
structure Events (h : History RawHidLink (LinkEvent d)) (s : RawHidLink) (host : HostRx)
    (flying : Option (SentEvent d)) : Prop where
  queued : ∀ i, s.tx.eventMask i = true → ∃ e : SentEvent d, e.num = i ∧ s.tx.eventData i = e.data
  log : ∀ i, host.calls.filterMap (HostCall.event? i) ++
      ((flying.toList.filter (fun e => e.num = i)).map (fun e => e.data.getD []) ++
        if s.tx.eventMask i then [(s.tx.eventData i).getD []] else []) = queuedData i h

/-- No response is being sent. -/
structure Idle (h : History RawHidLink (LinkEvent d)) (s : RawHidLink) (host : HostRx) : Prop where
  txData : s.tx.txData = false
  txSeq : s.tx.txSeq = 0
  txCount : s.tx.txCount = 0
  waits : Waits host.rx
  passed : host.calls.filterMap HostCall.passed? = (passedOn h).map SentResponse.passed
  sent : s.packetsSent = (passedOn h).length

/-- The response `r` is being sent, after the responses `done`, and `j` of its packets are
    at the host. -/
structure Amid (h : History RawHidLink (LinkEvent d)) (s : RawHidLink) (host : HostRx)
    (done : List (SentResponse d)) (r : SentResponse d) (j : Nat) : Prop where
  txData : s.tx.txData = true
  buf : InBuffer r s.tx.cmdResp
  txCount : s.tx.txCount = r.packets
  le : j ≤ r.packets
  responses : passedOn h = done ++ [r]
  sent : s.packetsSent = done.length
  taken : if j = r.packets then
      Waits host.rx ∧
        host.calls.filterMap HostCall.passed? = (done ++ [r]).map SentResponse.passed
    else ReadyFor r j host.rx ∧
      host.calls.filterMap HostCall.passed? = done.map SentResponse.passed

/-- The transfer in flight is the one of an event, or the next packet of the response. -/
inductive Phase (h : History RawHidLink (LinkEvent d)) (s : RawHidLink) (host : HostRx) :
    Option (SentEvent d) → Prop where
  | free (hi : Idle h s host) (hf : s.inFlight = none) : Phase h s host none
  | event (hi : Idle h s host) {e : SentEvent d} (hf : Flies e s) : Phase h s host (some e)
  | packet {done : List (SentResponse d)} {r : SentResponse d} {j : Nat}
      (ha : Amid h s host done r j) (hj : j < r.packets) (hseq : s.tx.txSeq = j + 1)
      (hf : s.inFlight = some (.cmd (packetBytes d.hidLink s.tx.cmdResp r.packets j))) :
      Phase h s host none
  | between {done : List (SentResponse d)} {r : SentResponse d} {j : Nat}
      (ha : Amid h s host done r j) (hj : 0 < j) (hseq : s.tx.txSeq = j) {e : SentEvent d}
      (hf : Flies e s) : Phase h s host (some e)

/-- The invariant of a run. -/
structure LinkInv (reqs : Nat → Request) (rx : RxMessageState)
    (h : History RawHidLink (LinkEvent d)) (s : RawHidLink) : Prop where
  report : s.txReport = none
  failed : s.failed = false
  busy : ∀ i, s.tx.eventMask i = true → s.inFlight ≠ none
  rest : ∃ flying, Events h s (hostOf d reqs rx s) flying ∧ Phase h s (hostOf d reqs rx s) flying

/-- After a transfer, before the device looks for the next one. -/
inductive Landed (h : History RawHidLink (LinkEvent d)) (s : RawHidLink) (host : HostRx) :
    Prop where
  | idle (hi : Idle h s host)
  | amid {done : List (SentResponse d)} {r : SentResponse d} {j : Nat}
      (ha : Amid h s host done r j) (hj : 0 < j) (hseq : s.tx.txSeq = j)

theorem Phase.busy (hp : Phase h s host flying) :
    s.inFlight = none → Idle h s host ∧ flying = none := by
  intro hnone
  cases hp with
  | free hi _ => exact ⟨hi, rfl⟩
  | event hi hf =>
    obtain ⟨m, hm⟩ := hf
    rw [hnone] at hm
    cases hm
  | packet _ _ _ hf =>
    rw [hnone] at hf
    cases hf
  | between _ _ _ hf =>
    obtain ⟨m, hm⟩ := hf
    rw [hnone] at hm
    cases hm

/-! ### The end of a transfer -/

/-- The two states, each at the end of its history, have the same response under way. -/
structure SameResponse (h h' : History RawHidLink (LinkEvent d)) (s s' : RawHidLink) : Prop where
  passedOn : passedOn h' = passedOn h
  txData : s'.tx.txData = s.tx.txData
  txSeq : s'.tx.txSeq = s.tx.txSeq
  txCount : s'.tx.txCount = s.tx.txCount
  cmdResp : s'.tx.cmdResp = s.tx.cmdResp
  sent : s'.packetsSent = s.packetsSent

variable {h' : History RawHidLink (LinkEvent d)} {s' : RawHidLink}

theorem Idle.congr (hi : Idle h s host) (hsame : SameResponse h h' s s') : Idle h' s' host := by
  obtain ⟨hh, h₁, h₂, h₃, -, h₅⟩ := hsame
  refine ⟨h₁.trans hi.txData, h₂.trans hi.txSeq, h₃.trans hi.txCount, hi.waits, ?_, ?_⟩
  · rw [hh]
    exact hi.passed
  · rw [hh]
    exact h₅.trans hi.sent

theorem Amid.congr {done : List (SentResponse d)} {r : SentResponse d} {j : Nat}
    (ha : Amid h s host done r j) (hsame : SameResponse h h' s s') : Amid h' s' host done r j := by
  obtain ⟨hh, h₁, -, h₃, h₄, h₅⟩ := hsame
  refine ⟨h₁.trans ha.txData, ?_, h₃.trans ha.txCount, ha.le, hh.trans ha.responses,
    h₅.trans ha.sent, ha.taken⟩
  rw [h₄]
  exact ha.buf

theorem Phase.congr (hp : Phase h s host flying) (hsame : SameResponse h h' s s')
    (hflight : s'.inFlight = s.inFlight) : Phase h' s' host flying := by
  have hflies : ∀ {e : SentEvent d}, Flies e s → Flies e s' := by
    rintro e ⟨m, hm⟩
    exact ⟨m, hflight.trans hm⟩
  cases hp with
  | free hi hf => exact .free (hi.congr hsame) (hflight.trans hf)
  | event hi hf => exact .event (hi.congr hsame) (hflies hf)
  | packet ha hj hseq hf =>
    refine .packet (ha.congr hsame) hj (hsame.txSeq.trans hseq) ?_
    rw [hsame.cmdResp]
    exact hflight.trans hf
  | between ha hj hseq hf =>
    exact .between (ha.congr hsame) hj (hsame.txSeq.trans hseq) (hflies hf)

theorem Landed.congr (hl : Landed h s host) (hsame : SameResponse h h' s s') :
    Landed h' s' host := by
  cases hl with
  | idle hi => exact .idle (hi.congr hsame)
  | amid ha hj hseq => exact .amid (ha.congr hsame) hj (hsame.txSeq.trans hseq)

/-- An empty response, for the states in which none is being sent. -/
def emptyResponse (d : Device) : SentResponse d where
  resp := .okay
  messagesRemaining := 0
  state := .loggedIn
  payload := []
  fits := Nat.zero_le _
  small := by decide

/-- The host takes in an event. -/
theorem hostTake_flies (reqs : Nat → Request) (e : SentEvent d) (m : Mem) {r : SentResponse d}
    {j : Nat} (hs : ReadyFor r j host.rx) :
    let host' := hostTake d reqs host
      ((m.write 0 (eventBytes e.num e.data)).read 0 d.hidLink.rawHidPacketSize)
    ReadyFor r j host'.rx ∧
      host'.calls.filterMap HostCall.passed? = host.calls.filterMap HostCall.passed? ∧
      ∀ i, host'.calls.filterMap (HostCall.event? i) = host.calls.filterMap (HostCall.event? i) ++
        ([e].filter (fun e => e.num = i)).map (fun e => e.data.getD []) := by
  intro host'
  obtain ⟨hready, c, hcalls, hpassed, hevent⟩ := hostTake_event e m hs reqs
  refine ⟨hready, ?_, fun i => ?_⟩
  · rw [hcalls, List.filterMap_append]
    simp [hpassed]
  · rw [hcalls, List.filterMap_append]
    by_cases hi : i = e.num
    · simp [hevent, hi]
    · simp [hevent, hi, Ne.symm hi]

/-- **A transfer comes to its end**: the host takes in its packet. -/
theorem landed (reqs : Nat → Request) {p : HidPacket} (hp : s.inFlight = some p)
    (he : Events h s host flying) (hphase : Phase h s host flying) :
    Landed h s (hostTake d reqs host p.bytes) ∧ Events h s (hostTake d reqs host p.bytes) none := by
  cases hphase with
  | free _ hf =>
    rw [hp] at hf
    cases hf
  | @event hi e hf =>
    obtain ⟨m, hm⟩ := hf
    obtain rfl := Option.some.inj (hp.symm.trans hm)
    have hready : ReadyFor (emptyResponse d) 0 host.rx := by
      unfold ReadyFor
      rw [if_pos rfl]
      exact hi.waits
    obtain ⟨hwaits, hpassed, hevent⟩ := hostTake_flies reqs e m hready
    unfold ReadyFor at hwaits
    rw [if_pos rfl] at hwaits
    refine ⟨.idle ⟨hi.txData, hi.txSeq, hi.txCount, hwaits, hpassed.trans hi.passed, hi.sent⟩,
      he.queued, fun i => ?_⟩
    rw [← he.log i, HidPacket.bytes, hevent i, List.append_assoc]
    rfl
  | @packet done r j ha hj hseq hf =>
    obtain rfl := Option.some.inj (hp.symm.trans hf)
    have htaken := ha.taken
    rw [if_neg (Nat.ne_of_lt hj)] at htaken
    obtain ⟨hready, hpassed⟩ := htaken
    have htake := hostTake_packet ha.buf hj hready reqs
    rw [HidPacket.bytes]
    generalize hostTake d reqs host (packetBytes d.hidLink s.tx.cmdResp r.packets j) =
      host' at htake ⊢
    by_cases hend : j + 1 = r.packets
    · rw [if_pos hend] at htake
      obtain ⟨hwaits, c, hcalls, hc, hevent⟩ := htake
      refine ⟨.amid (j := j + 1) ⟨ha.txData, ha.buf, ha.txCount, hj, ha.responses, ha.sent, ?_⟩
        (Nat.succ_pos j) hseq, he.queued, fun i => ?_⟩
      · rw [if_pos hend, hcalls, List.filterMap_append, hpassed, List.map_append]
        exact ⟨hwaits, by simp [hc]⟩
      · rw [← he.log i, hcalls, List.filterMap_append]
        simp [hevent]
    · rw [if_neg hend] at htake
      obtain ⟨hready', hcalls⟩ := htake
      refine ⟨.amid (j := j + 1) ⟨ha.txData, ha.buf, ha.txCount, hj, ha.responses, ha.sent, ?_⟩
        (Nat.succ_pos j) hseq, he.queued, fun i => ?_⟩
      · rw [if_neg hend, hcalls]
        exact ⟨hready', hpassed⟩
      · rw [← he.log i, hcalls]
  | @between done r j ha hj hseq e hf =>
    obtain ⟨m, hm⟩ := hf
    obtain rfl := Option.some.inj (hp.symm.trans hm)
    have htaken := ha.taken
    have hlog : ∀ {host' : HostRx}, (∀ i, host'.calls.filterMap (HostCall.event? i) =
        host.calls.filterMap (HostCall.event? i) ++
          ([e].filter (fun e => e.num = i)).map (fun e => e.data.getD [])) →
          Events h s host' none := by
      intro host' hevent
      refine ⟨he.queued, fun i => ?_⟩
      rw [← he.log i, hevent i, List.append_assoc]
      rfl
    rw [HidPacket.bytes]
    by_cases hend : j = r.packets
    · rw [if_pos hend] at htaken
      obtain ⟨hwaits, hpassed⟩ := htaken
      have hready : ReadyFor (emptyResponse d) 0 host.rx := by
        unfold ReadyFor
        rw [if_pos rfl]
        exact hwaits
      obtain ⟨hwaits', hpassed', hevent⟩ := hostTake_flies reqs e m hready
      unfold ReadyFor at hwaits'
      rw [if_pos rfl] at hwaits'
      refine ⟨.amid ⟨ha.txData, ha.buf, ha.txCount, ha.le, ha.responses, ha.sent, ?_⟩ hj hseq,
        hlog hevent⟩
      rw [if_pos hend]
      exact ⟨hwaits', hpassed'.trans hpassed⟩
    · rw [if_neg hend] at htaken
      obtain ⟨hready, hpassed⟩ := htaken
      obtain ⟨hready', hpassed', hevent⟩ := hostTake_flies reqs e m hready
      refine ⟨.amid ⟨ha.txData, ha.buf, ha.txCount, ha.le, ha.responses, ha.sent, ?_⟩ hj hseq,
        hlog hevent⟩
      rw [if_neg hend]
      exact ⟨hready', hpassed'.trans hpassed⟩

/-! ### The next transfer -/

variable {reqs : Nat → Request} {rx : RxMessageState}

/-- A history in which nothing more was passed to the link. -/
theorem LinkInv.of_history (hinv : LinkInv reqs rx h s) (hpassed : passedOn h' = passedOn h)
    (hqueued : ∀ i, queuedData i h' = queuedData i h) : LinkInv reqs rx h' s := by
  obtain ⟨hreport, hfailed, hbusy, flying, ⟨hq, hlog⟩, hphase⟩ := hinv
  exact ⟨hreport, hfailed, hbusy, flying, ⟨hq, fun i => (hlog i).trans (hqueued i).symm⟩,
    hphase.congr ⟨hpassed, rfl, rfl, rfl, rfl, rfl⟩ rfl⟩

/-- The event with the number `k` leaves the queue. -/
theorem Events.sent {k : Nat} (he : Events h s host none) (hk : s.tx.eventMask k = true)
    (s' : RawHidLink) (hmask : s'.tx.eventMask = fun j => s.tx.eventMask j && j != k)
    (hdata : s'.tx.eventData = s.tx.eventData) :
    ∃ e : SentEvent d, e.num = k ∧ s.tx.eventData k = e.data ∧ Events h s' host (some e) := by
  obtain ⟨e, hnum, hed⟩ := he.queued k hk
  refine ⟨e, hnum, hed, fun i hi => ?_, fun i => ?_⟩
  · rw [hmask] at hi
    rw [hdata]
    exact he.queued i (Bool.and_eq_true _ _ ▸ hi).1
  · rw [← he.log i, hmask, hdata]
    congr 1
    by_cases hi : k = i
    · subst hi
      simp [hnum, hk, hed]
    · have hne : (i != k) = true := by
        simpa using Ne.symm hi
      simp [hnum, hi, hne]

/-- **`usb_raw_hid_tx` after a transfer**: an event, the next packet, or the end of the
    response. -/
theorem linkInv_tx (hfree : s.inFlight = none) (hreport : s.txReport = none)
    (hfailed : s.failed = false) (hland : Landed h s (hostOf d reqs rx s))
    (he : Events h s (hostOf d reqs rx s) none) :
    LinkInv reqs rx h (usbRun d (maybeSendRawHidPacket d.hidLink) s) := by
  by_cases hmask : ∃ i < 8, s.tx.eventMask i = true
  · -- an event is sent
    obtain ⟨i, hi, hmi⟩ := hmask
    obtain ⟨k, hk, -, hev⟩ := maybeSendRawHidEvent_some d.hidLink hi hmi
    have hcall := maybeSendRawHidPacket_event (d := d) hev
    obtain ⟨e, hnum, hed, hevents⟩ := he.sent hk (usbRun d (maybeSendRawHidPacket d.hidLink) s)
      (by rw [usbRun_send hfree (by rw [hcall]), hcall])
      (by rw [usbRun_send hfree (by rw [hcall]), hcall])
    rw [usbRun_send hfree (by rw [hcall]), hcall] at hevents ⊢
    have hdata : (s.tx.txData && !s.tx.txData) = false := by
      cases s.tx.txData <;> rfl
    simp only [hdata, Bool.false_eq_true, if_false] at hevents ⊢
    refine ⟨hreport, hfailed, (fun _ _ h => by cases h), some e, hevents, ?_⟩
    have hflies : ∀ s' : RawHidLink, s'.inFlight = some (.event ((s.tx.txEventPacket.write 0
        (eventBytes k (s.tx.eventData k))).read 0 d.hidLink.rawHidPacketSize)) → Flies e s' := by
      intro s' hs'
      refine ⟨s.tx.txEventPacket, ?_⟩
      rw [hs', hnum, ← hed]
    cases hland with
    | idle hi =>
      refine .event ?_ ?_
      · exact hi.congr ⟨rfl, rfl, rfl, rfl, rfl, rfl⟩
      · exact hflies _ rfl
    | @amid done r j ha hj hseq =>
      refine .between (ha.congr ?_) hj ?_ ?_
      · exact ⟨rfl, rfl, rfl, rfl, rfl, rfl⟩
      · exact hseq
      · exact hflies _ rfl
  · have hno : ∀ i < 8, s.tx.eventMask i = false := by
      intro i hi
      by_contra h
      exact hmask ⟨i, hi, by simpa using h⟩
    have hall : ∀ i, s.tx.eventMask i = false := by
      intro i
      by_contra h
      obtain ⟨e, hnum, -⟩ := he.queued i (by simpa using h)
      exact h (hno i (hnum ▸ e.bit))
    by_cases hseq : s.tx.txSeq = s.tx.txCount
    · -- nothing is left of the response
      have hcall := maybeSendRawHidPacket_end (d := d) hno hseq
      have hquiet : usbRun d (maybeSendRawHidPacket d.hidLink) s = _ := usbRun_quiet (by
        rw [hfree, Option.isSome_none, hcall])
      rw [hfree, Option.isSome_none, hcall] at hquiet
      rw [hquiet]
      simp only [Bool.not_false, Bool.and_true]
      refine ⟨hreport, hfailed, fun i h => ?_, none, ⟨he.queued, he.log⟩, .free ?_ rfl⟩
      · rw [hall i] at h
        cases h
      · cases hland with
        | idle hi => exact ⟨rfl, rfl, rfl, hi.waits, hi.passed, by simp only [hi.txData]; exact hi.sent⟩
        | amid ha _ hj =>
          have htaken := ha.taken
          rw [if_pos (hj.symm.trans (hseq.trans ha.txCount))] at htaken
          refine ⟨rfl, rfl, rfl, htaken.1, ?_, ?_⟩
          · rw [ha.responses]
            exact htaken.2
          · simp only [ha.txData, if_true, ha.responses, List.length_append, ha.sent]
            rfl
    · -- the next packet
      obtain ⟨pkt, hcall⟩ := maybeSendRawHidPacket_next (d := d) hno hseq
      rw [usbRun_send hfree (by rw [hcall]), hcall]
      have hdata : (s.tx.txData && !s.tx.txData) = false := by
        cases s.tx.txData <;> rfl
      simp only [hdata, Bool.false_eq_true, if_false]
      cases hland with
      | idle hi => exact absurd (hi.txSeq.trans hi.txCount.symm) hseq
      | @amid done r j ha hj hjseq =>
        have hlt : j < r.packets := by
          have := ha.le
          have hne : j ≠ r.packets := fun h => hseq (by rw [hjseq, ha.txCount, h])
          omega
        refine ⟨hreport, hfailed, fun i h => ?_, none, ⟨he.queued, he.log⟩,
          .packet ⟨ha.txData, ha.buf, ha.txCount, ha.le, ha.responses, ha.sent, ha.taken⟩ hlt
            (congrArg (· + 1) hjseq) ?_⟩
        · intro h'
          cases h'
        · change some (HidPacket.cmd (packetBytes d.hidLink s.tx.cmdResp s.tx.txCount s.tx.txSeq)) = _
          rw [ha.txCount, hjseq]

/-! ### The steps -/

theorem linkStep_respond (hfailed : s.failed = false) (r : SentResponse d) :
    linkStep d s (.respond r) = usbRun d (maybeSendRawHidPacket d.hidLink)
      { s with tx := beginResponse d.hidLink r.toHid s.tx } :=
  if_neg (by rw [hfailed]; decide)

theorem linkStep_event (hfailed : s.failed = false) (e : SentEvent d) :
    linkStep d s (.event e) = usbRun d (cmdEventSend d.hidLink e.num e.data) s :=
  if_neg (by rw [hfailed]; decide)

theorem linkStep_complete (hfailed : s.failed = false) {p : HidPacket} (hp : s.inFlight = some p) :
    linkStep d s .complete = usbRun d (maybeSendRawHidPacket d.hidLink)
      { s with inFlight := s.txReport, txReport := none, delivered := s.delivered ++ [p] } := by
  unfold linkStep
  rw [hp]
  exact if_neg (by rw [hfailed]; decide)

/-- **The end of a transfer keeps the invariant.** -/
theorem linkInv_complete (hinv : LinkInv reqs rx h s) :
    LinkInv reqs rx ((s, .complete) :: h) (linkStep d s .complete) := by
  refine LinkInv.of_history (h := h) ?_ rfl fun i => rfl
  cases hp : s.inFlight with
  | none =>
    have hstay : linkStep d s .complete = s := by
      unfold linkStep
      rw [hp]
    rw [hstay]
    exact hinv
  | some p =>
    obtain ⟨hreport, hfailed, -, flying, he, hphase⟩ := hinv
    obtain ⟨hland, hevents⟩ := landed reqs hp he hphase
    have hhost : hostTake d reqs (hostOf d reqs rx s) p.bytes = hostOf d reqs rx
        { s with inFlight := s.txReport, txReport := none, delivered := s.delivered ++ [p] } := by
      unfold hostOf hostAfter
      dsimp only
      rw [List.map_append, List.foldl_append]
      rfl
    rw [hhost] at hland hevents
    rw [linkStep_complete hfailed hp]
    exact linkInv_tx hreport rfl hfailed (hland.congr ⟨rfl, rfl, rfl, rfl, rfl, rfl⟩)
      ⟨hevents.queued, hevents.log⟩

/-- **A response keeps the invariant** when no transfer is in flight. -/
theorem linkInv_respond (hinv : LinkInv reqs rx h s) (r : SentResponse d)
    (hfree : s.inFlight = none) :
    LinkInv reqs rx ((s, .respond r) :: h) (linkStep d s (.respond r)) := by
  obtain ⟨hreport, hfailed, hbusy, flying, he, hphase⟩ := hinv
  obtain ⟨hidle, rfl⟩ := hphase.busy hfree
  have hall : ∀ i, s.tx.eventMask i = false := by
    intro i
    by_contra h
    exact hbusy i (by simpa using h) hfree
  have hpos := r.packets_bounds.1
  obtain ⟨pkt, hcall⟩ := maybeSendRawHidPacket_next (d := d)
    (t := beginResponse d.hidLink r.toHid s.tx) (fun i _ => hall i) (Nat.ne_of_lt hpos)
  have hfree' : ({ s with tx := beginResponse d.hidLink r.toHid s.tx } : RawHidLink).inFlight =
    none :=
    hfree
  rw [linkStep_respond hfailed, usbRun_send hfree' (by rw [hcall]), hcall]
  refine ⟨hreport, hfailed, (fun _ _ h => by cases h), none, ⟨he.queued, he.log⟩,
    .packet (r := r) (j := 0)
      ⟨rfl, inBuffer_writeTo r _, rfl, Nat.zero_le _, rfl, hidle.sent, ?_⟩ hpos rfl rfl⟩
  rw [if_neg (Nat.ne_of_lt hpos)]
  refine ⟨?_, hidle.passed⟩
  unfold ReadyFor
  rw [if_pos rfl]
  exact hidle.waits

/-- The queue with a new event. -/
theorem Events.queue (he : Events h s host flying) (e : SentEvent d) (s' : RawHidLink)
    (hmask : s'.tx.eventMask = fun j => s.tx.eventMask j || j == e.num)
    (hdata : s'.tx.eventData = fun j => if j = e.num then e.data else s.tx.eventData j) :
    Events ((s, .event e) :: h) s' host flying := by
  refine ⟨fun i hi => ?_, fun i => ?_⟩
  · rw [hdata]
    by_cases hn : i = e.num
    · exact ⟨e, hn.symm, by simp [hn]⟩
    · rw [hmask] at hi
      simp only [hn, beq_iff_eq, Bool.or_eq_true, or_false] at hi
      obtain ⟨e', hnum, hed⟩ := he.queued i hi
      exact ⟨e', hnum, by simp [hn, hed]⟩
  · rw [hmask, hdata]
    unfold queuedData
    by_cases hn : e.num = i
    · subst hn
      rw [← he.log e.num]
      cases hm : s.tx.eventMask e.num with
      | false => simp
      | true => simp [← List.append_assoc]
    · have hne : ¬ i = e.num := fun h => hn h.symm
      rw [if_neg hn, ← he.log i]
      simp [hne]

/-- **An event keeps the invariant.** -/
theorem linkInv_event (hinv : LinkInv reqs rx h s) (e : SentEvent d) :
    LinkInv reqs rx ((s, .event e) :: h) (linkStep d s (.event e)) := by
  obtain ⟨hreport, hfailed, hbusy, flying, he, hphase⟩ := hinv
  rw [linkStep_event hfailed]
  have hdata : (s.tx.txData && !s.tx.txData) = false := by
    cases s.tx.txData <;> rfl
  -- the queue before `maybe_send_raw_hid_event` is called
  generalize hq : ({ s.tx with
    eventMask := fun j => s.tx.eventMask j || j == e.num
    eventData := fun j => if j = e.num then e.data else s.tx.eventData j } : HidTx) = tx
  have hsame : tx.txData = s.tx.txData ∧ tx.txSeq = s.tx.txSeq ∧ tx.txCount = s.tx.txCount ∧
      tx.cmdResp = s.tx.cmdResp ∧ tx.sent = s.tx.sent := by
    rw [← hq]
    exact ⟨rfl, rfl, rfl, rfl, rfl⟩
  obtain ⟨h₁, h₂, h₃, h₄, h₅⟩ := hsame
  have hevents := he.queue e { s with tx } (by rw [← hq]) (by rw [← hq])
  have hcall : ∀ busy, cmdEventSend d.hidLink e.num e.data busy s.tx =
      (maybeSendRawHidEvent d.hidLink busy tx).2 := by
    intro busy
    rw [← hq]
    rfl
  cases hp : s.inFlight with
  | none =>
    obtain ⟨hidle, rfl⟩ := hphase.busy hp
    have hmask : tx.eventMask e.num = true := by
      rw [← hq]
      simp
    obtain ⟨k, hk, -, hev⟩ := maybeSendRawHidEvent_some d.hidLink e.bit hmask
    have hcall' := hcall false
    rw [hev] at hcall'
    have hsent : (cmdEventSend d.hidLink e.num e.data false s.tx).sent = s.tx.sent ++
        [.event ((tx.txEventPacket.write 0 (eventBytes k (tx.eventData k))).read 0
          d.hidLink.rawHidPacketSize)] := by
      rw [hcall', ← h₅]
    obtain ⟨e', hnum, hed, hevents'⟩ := hevents.sent hk
      (usbRun d (cmdEventSend d.hidLink e.num e.data) s)
      (by rw [usbRun_send hp hsent, hcall']) (by rw [usbRun_send hp hsent, hcall'])
    rw [usbRun_send hp hsent, hcall'] at hevents' ⊢
    simp only [h₁, hdata, Bool.false_eq_true, if_false] at hevents' ⊢
    refine ⟨hreport, hfailed, (fun _ _ h => by cases h), some e', hevents', .event ?_ ?_⟩
    · exact hidle.congr ⟨rfl, rfl, h₂, h₃, h₄, rfl⟩
    · refine ⟨tx.txEventPacket, ?_⟩
      dsimp only
      rw [hnum, ← hed]
  | some p =>
    have hcall' := hcall true
    rw [maybeSendRawHidEvent_busy] at hcall'
    have hquiet : usbRun d (cmdEventSend d.hidLink e.num e.data) s = _ := usbRun_quiet (by
      rw [hp, Option.isSome_some, hcall', h₅])
    rw [hp, Option.isSome_some, hcall'] at hquiet
    rw [hquiet]
    simp only [h₁, hdata, Bool.false_eq_true, if_false]
    refine ⟨hreport, hfailed, ?_, flying, ⟨hevents.queued, hevents.log⟩, ?_⟩
    · intro _ _ h
      cases h
    · exact hphase.congr ⟨rfl, h₁, h₂, h₃, h₄, rfl⟩ hp.symm

/-! ### The link comes to rest -/

/-- What is still to be transferred. -/
def transfersLeft (s : RawHidLink) : Nat :=
  ((Finset.range 8).filter fun i => s.tx.eventMask i = true).card + (s.tx.txCount - s.tx.txSeq) +
    if s.inFlight.isSome then 1 else 0

/-- An event that is sent is no longer queued. -/
theorem card_sent {mask : Nat → Bool} {k : Nat} (hk : k < 8) (hmask : mask k = true) :
    ((Finset.range 8).filter fun i => (mask i && i != k) = true).card <
      ((Finset.range 8).filter fun i => mask i = true).card := by
  apply Finset.card_lt_card
  rw [Finset.ssubset_iff_of_subset]
  · refine ⟨k, ?_, ?_⟩
    · simp [hk, hmask]
    · simp
  · intro i hi
    simp only [Finset.mem_filter, Bool.and_eq_true] at hi ⊢
    exact ⟨hi.1, hi.2.1⟩

theorem Phase.le (hp : Phase h s host flying) : s.tx.txSeq ≤ s.tx.txCount := by
  cases hp with
  | free hi _ => rw [hi.txSeq]; exact Nat.zero_le _
  | event hi _ => rw [hi.txSeq]; exact Nat.zero_le _
  | packet ha hj hseq _ => rw [hseq, ha.txCount]; exact hj
  | between ha _ hseq _ => rw [hseq, ha.txCount]; exact ha.le

/-- What `usb_raw_hid_tx` hands over was still to be transferred. -/
theorem transfersLeft_tx (hfree : s.inFlight = none) (hle : s.tx.txSeq ≤ s.tx.txCount) :
    transfersLeft (usbRun d (maybeSendRawHidPacket d.hidLink) s) ≤ transfersLeft s := by
  unfold transfersLeft
  rw [hfree]
  by_cases hmask : ∃ i < 8, s.tx.eventMask i = true
  · obtain ⟨i, hi, hmi⟩ := hmask
    obtain ⟨k, hk, hk8, hev⟩ := maybeSendRawHidEvent_some d.hidLink hi hmi
    have hcall := maybeSendRawHidPacket_event (d := d) hev
    have hcard := card_sent hk8 hk
    rw [usbRun_send hfree (by rw [hcall]), hcall]
    simp only [Option.isSome_some, Option.isSome_none, if_true, Bool.false_eq_true, if_false]
    omega
  · have hno : ∀ i < 8, s.tx.eventMask i = false := by
      intro i hi
      by_contra h
      exact hmask ⟨i, hi, by simpa using h⟩
    by_cases hseq : s.tx.txSeq = s.tx.txCount
    · have hcall := maybeSendRawHidPacket_end (d := d) hno hseq
      have hquiet : usbRun d (maybeSendRawHidPacket d.hidLink) s = _ := usbRun_quiet (by
        rw [hfree, Option.isSome_none, hcall])
      rw [hfree, Option.isSome_none, hcall] at hquiet
      rw [hquiet]
      simp only [Option.isSome_none, Bool.false_eq_true, if_false]
      omega
    · obtain ⟨pkt, hcall⟩ := maybeSendRawHidPacket_next (d := d) hno hseq
      rw [usbRun_send hfree (by rw [hcall]), hcall]
      simp only [Option.isSome_some, Option.isSome_none, if_true, Bool.false_eq_true, if_false]
      omega

/-- **The end of a transfer leaves less to transfer.** -/
theorem transfersLeft_complete (hinv : LinkInv reqs rx h s) (hp : s.inFlight ≠ none) :
    transfersLeft (linkStep d s .complete) < transfersLeft s := by
  obtain ⟨hreport, hfailed, -, flying, -, hphase⟩ := hinv
  obtain ⟨p, hp⟩ := Option.ne_none_iff_exists'.mp hp
  rw [linkStep_complete hfailed hp]
  refine lt_of_le_of_lt (transfersLeft_tx hreport hphase.le) ?_
  unfold transfersLeft
  rw [hreport, hp]
  simp only [Option.isSome_some, Option.isSome_none, if_true, Bool.false_eq_true, if_false]
  omega

/-- The link comes to rest when transfers end and nothing more is passed to it. -/
theorem LinkInv.drains (hinv : LinkInv reqs rx h s) :
    ∃ n, ((fun s => linkStep d s .complete)^[n] s).inFlight = none := by
  induction hleft : transfersLeft s using Nat.strong_induction_on generalizing h s with
  | _ left ih =>
    by_cases hp : s.inFlight = none
    · exact ⟨0, hp⟩
    · have hlt := transfersLeft_complete hinv hp
      obtain ⟨n, hn⟩ := ih _ (hleft ▸ hlt) (linkInv_complete hinv) rfl
      exact ⟨n + 1, hn⟩

/-! ### Whole runs -/

theorem linkInv_init (hrx : rx.message = none) : LinkInv (d := d) reqs rx [] linkInit := by
  refine ⟨rfl, rfl, (fun i h => by cases h), none, ⟨(fun i h => by cases h), fun i => rfl⟩, ?_⟩
  refine .free ⟨rfl, rfl, rfl, ?_, rfl, rfl⟩ rfl
  intro m h
  exact absurd (hrx.symm.trans h) (by simp)

/-- The invariant holds along the runs in which the endpoint is free for each response. -/
theorem linkInv_run (hrx : rx.message = none) (hr : LinkRun d EndpointFree h s) :
    LinkInv reqs rx h s := by
  refine Run.invariant ?_ ?_ hr
  · rintro _ rfl
    exact linkInv_init hrx
  · intro h s e _ hok ih
    cases e with
    | respond r => exact linkInv_respond ih r hok
    | event e => exact linkInv_event ih e
    | complete => exact linkInv_complete ih

/-- What the invariant says of the responses. -/
theorem Phase.inOrder (hp : Phase h s host flying) :
    s.packetsSent + (if s.tx.txData then 1 else 0) = (passedOn h).length ∧
      ∃ k, s.packetsSent ≤ k ∧ k ≤ (passedOn h).length ∧
        host.calls.filterMap HostCall.passed? = ((passedOn h).take k).map SentResponse.passed := by
  have hidle : ∀ {s : RawHidLink} {host : HostRx}, Idle h s host →
      s.packetsSent + (if s.tx.txData then 1 else 0) = (passedOn h).length ∧
      ∃ k, s.packetsSent ≤ k ∧ k ≤ (passedOn h).length ∧
        host.calls.filterMap HostCall.passed? = ((passedOn h).take k).map SentResponse.passed := by
    intro s host hi
    rw [hi.txData]
    refine ⟨hi.sent, _, le_of_eq hi.sent, le_rfl, ?_⟩
    rw [List.take_length]
    exact hi.passed
  have hamid : ∀ {s : RawHidLink} {host : HostRx} {done : List (SentResponse d)}
      {r : SentResponse d} {j : Nat}, Amid h s host done r j →
      s.packetsSent + (if s.tx.txData then 1 else 0) = (passedOn h).length ∧
      ∃ k, s.packetsSent ≤ k ∧ k ≤ (passedOn h).length ∧
        host.calls.filterMap HostCall.passed? = ((passedOn h).take k).map SentResponse.passed := by
    intro s host done r j ha
    have htaken := ha.taken
    rw [ha.txData, ha.responses, ha.sent, List.length_append]
    refine ⟨rfl, ?_⟩
    by_cases hj : j = r.packets
    · rw [if_pos hj] at htaken
      refine ⟨(done ++ [r]).length, by simp, by simp, ?_⟩
      rw [List.take_length]
      exact htaken.2
    · rw [if_neg hj] at htaken
      refine ⟨done.length, le_rfl, by simp, ?_⟩
      rw [List.take_left]
      exact htaken.2
  cases hp with
  | free hi _ => exact hidle hi
  | event hi _ => exact hidle hi
  | packet ha _ _ _ => exact hamid ha
  | between ha _ _ _ => exact hamid ha

/-- **What the invariant promises is delivered.** -/
theorem LinkInv.allDelivered (hinv : LinkInv reqs rx h s) : AllDelivered reqs rx h s := by
  have hdrains := hinv.drains
  obtain ⟨-, -, hbusy, flying, he, hphase⟩ := hinv
  obtain ⟨hsent, horder⟩ := hphase.inOrder
  refine ⟨horder, hsent, fun i => ?_, fun hfree => ?_, hdrains⟩
  · rw [← he.log i]
    exact List.prefix_append _ _
  · obtain ⟨hidle, rfl⟩ := hphase.busy hfree
    refine ⟨hidle.txData, hidle.passed, fun i => ?_⟩
    have hmask : s.tx.eventMask i = false := by
      by_contra h
      exact hbusy i (by simpa using h) hfree
    rw [← he.log i, hmask]
    simp

/-- **Every response and every event reaches the host once and unchanged** in the runs in
    which `cmd_packet_send` is called while no transfer is in flight. -/
theorem endpoint_free_delivers (d : Device) : AlwaysDelivered d EndpointFree :=
  fun _ _ hrx _ _ hr => (linkInv_run hrx hr).allDelivered

/-- A request to read a record. -/
def plainRequest : Request where
  req :=
    { devCmd := .readUid, apiCmd := 0, payload := [], messagesRemaining := 0, getResp := true
      user := 0, token := 0, interrupt := false, endDeviceState := 0 }
  getResp := rfl
  interrupt := rfl

/-- The host before it has got a packet. -/
def quietHost : RxMessageState where
  expectedRespSize := 0
  expectedMessagesRemaining := 0
  message := none
  asyncResp := fun _ => 0
  asyncRespCode := 0

/-- An event without data. -/
def plainEvent : SentEvent d where
  num := 1
  data := none
  bit := by decide
  fits := by
    intro b h
    cases h

/-- A response of 100 bytes, which needs two packets. -/
def longResponse : SentResponse .signet where
  resp := .okay
  messagesRemaining := 0
  state := .loggedIn
  payload := (List.range 100).map UInt8.ofNat
  fits := by decide
  small := by decide

/-- The response, an event that is queued meanwhile, and with the endpoint at rest again an
    empty response. -/
def freeRun : History RawHidLink (LinkEvent .signet) × RawHidLink :=
  replay (linkStep .signet)
    [.respond longResponse, .event plainEvent, .complete, .complete, .complete,
      .respond (emptyResponse .signet), .complete] ([], linkInit)

instance (s : RawHidLink) (e : LinkEvent d) : Decidable (EndpointFree s e) :=
  match e with
  | .respond _ => decidable_of_iff (s.inFlight.isNone = true) Option.isNone_iff_eq_none
  | .event _ => .isTrue trivial
  | .complete => .isTrue trivial

theorem endpoint_free_delivers_three :
    freeRun.2.packetsSent = 2 ∧ freeRun.2.delivered.length = 4 ∧
      AllDelivered (fun _ => plainRequest) quietHost freeRun.1 freeRun.2 := by
  have hrun : LinkRun .signet anyStep freeRun.1 freeRun.2 :=
    run_replay _ ([], linkInit) (.start rfl)
  have hfree : LinkRun .signet EndpointFree freeRun.1 freeRun.2 :=
    hrun.restrict (by decide +kernel)
  refine ⟨by decide +kernel, by decide +kernel, ?_⟩
  exact endpoint_free_delivers .signet _ _ rfl _ _ hfree

/-- A response handed over while an event is in flight is lost on the original device:
    `usb_send_bytes` drops its only packet, and the end of the event's transfer counts as
    the end of the response. -/
theorem response_lost_behind_event : ¬ AlwaysDelivered .signet anyStep := by
  intro h
  have hrun : LinkRun .signet anyStep _ _ := run_replay
    [.event plainEvent, .respond (emptyResponse .signet), .complete] ([], linkInit) (.start rfl)
  obtain ⟨-, -, -, hidle, -⟩ := h (fun _ => plainRequest) quietHost rfl _ _ hrun
  obtain ⟨-, hpassed, -⟩ := hidle rfl
  exact absurd (congrArg List.length hpassed) (by decide)

end SignetBase
