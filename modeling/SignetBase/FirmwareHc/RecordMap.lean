/-
  SignetBase/FirmwareHc/RecordMap.lean
  ====================================
  **What the record database of Signet HC is for: a map from uids to records.**

  The map is changed by UPDATE_UID alone, when it is answered OKAY, and READ_UID and
  READ_ALL_UIDS say what is in it.  A command becomes a job, which may take its time; the user
  can cancel it or not press the button.  Losing power ends the job: a change it was about is made
  or is not.
-/
import SignetBase.FirmwareHc.RecordStore
import SignetBase.Simulation
import SignetBase.Slots

namespace SignetBase.FirmwareHc

/-- A record that a partition holds: its size, which is not 0, and its sub-blocks. -/
structure Record where
  sz : Nat
  data : Bytes
  pos : sz ≠ 0
  fits : sizeToSubBlkCount sz ≤ MAX_PART_SIZE
  length : data.length = sizeToSubBlkCount sz * SUB_BLK_SIZE

/-- What is shown of a record. -/
def Record.shown (r : Record) (masked : Bool) : Bytes :=
  if masked then Firmware.maskUidData (sizeToSubBlkCount r.sz) r.data else r.data

/-- What a command that has not been answered is about: for UPDATE_UID the record, if it is not to
    be removed, for READ_ALL_UIDS the uids that are still to be reported. -/
inductive Job where
  | update (uid : Nat) (x : Option Record)
  | get (uid : Nat) (masked : Bool)
  | getAll (masked : Bool) (left : List Nat)
  | scan

/-- The records, the session and the job. -/
structure RecordMap where
  records : Nat → Option Record
  state : DeviceState
  job : Option Job

namespace RecordMap

variable (a : RecordMap)

/-- The uids that have a record, in ascending order. -/
def stored : List Nat := (List.range' MIN_UID MAX_UID).filter fun u => (a.records u).isSome

/-- The record of `uid` becomes `x`, or is removed. -/
def update (uid : Nat) (x : Option Record) : RecordMap :=
  { a with records := Function.update a.records uid x, job := none }

/-- The job is over. -/
def done : RecordMap := { a with job := none }

/-- What an update asks for. -/
def updateJob (uid sz : Nat) (data : Bytes) : Except CommandResponse Job :=
  if hzero : sz = 0 then .ok (.update uid none)
  else if h : sizeToSubBlkCount sz ≤ MAX_PART_SIZE ∧
      data.length = sizeToSubBlkCount sz * SUB_BLK_SIZE then
    .ok (.update uid (some ⟨sz, data, hzero, h.1, h.2⟩))
  else .error .invalidInput

/-- What a packet asks for in a session. -/
def askedInSession (p : StorePacket) : Except CommandResponse Job :=
  match p.cmd with
  | .readUid =>
    let uid := p.data.get16 0
    if p.dataLen < 3 ∨ uid < MIN_UID ∨ uid > MAX_UID then .error .invalidInput
    else .ok (.get uid (p.data 2 ≠ 0))
  | .updateUid | .updateUids =>
    match acceptUpdateUid p.data p.dataLen with
    | none => .error .invalidInput
    | some (uid, sz, data) => updateJob uid sz data
  | .readAllUids =>
    if p.dataLen < 1 then .error .invalidInput else .ok (.getAll (p.data 0 ≠ 0) a.stored)
  | _ => .error .invalidState

/-- What a packet asks for, or the answer with which it is refused. -/
def asked (p : StorePacket) : Except CommandResponse Job :=
  if p.cmd = .startup then .ok .scan
  else if p.dataLen > hcLink.cmdPacketPayloadSize then .error .invalidInput
  else if a.state ≠ .loggedIn then .error .invalidState
  else a.askedInSession p

/-- The last LOGOUT of a session. -/
structure LogsOut (p : StorePacket) : Prop where
  cmd : p.cmd = .logout
  state : a.state = .loggedIn
  len : p.dataLen ≤ hcLink.cmdPacketPayloadSize

/-- What may be sent for the job, and what comes of it; `resp` is the response of STARTUP. -/
inductive Works (resp : Bytes) (a : RecordMap) : List StoreAnswer → RecordMap → Prop
  | waits : Works resp a [] a
  | updated {uid : Nat} {x : Option Record} : a.job = some (.update uid x) →
      Works resp a [⟨.okay, 0, []⟩] (a.update uid x)
  | got {uid : Nat} {masked : Bool} {r : Record} : a.job = some (.get uid masked) →
      a.records uid = some r →
      Works resp a [⟨.okay, 0, Mem.bytes16 r.sz ++ r.shown masked⟩] a.done
  | missing {uid : Nat} {masked : Bool} : a.job = some (.get uid masked) →
      a.records uid = none → Works resp a [⟨.idInvalid, 0, []⟩] a.done
  | next {uid : Nat} {masked : Bool} {left : List Nat} {r : Record} :
      a.job = some (.getAll masked (uid :: left)) → a.records uid = some r →
      Works resp a
        [⟨.okay, left.length, Mem.bytes16 uid ++ Mem.bytes16 r.sz ++ r.shown masked⟩]
        { a with job := if left = [] then none else some (.getAll masked left) }
  | empty {masked : Bool} : a.job = some (.getAll masked []) →
      Works resp a [⟨.idInvalid, 0, Mem.bytes16 (MAX_UID + 1)⟩] a.done
  | scanned : a.job = some .scan →
      Works resp a [⟨.okay, 0, resp⟩] { a.done with state := .loggedOut }

/-- One event: a packet is refused or begins a job, LOGOUT ends the session, the user cancels the
    job or lets the wait run out, and any event may be the one at which the job goes on. -/
inductive Step (resp : Bytes) (a : RecordMap) : StoreEvent → List StoreAnswer → RecordMap → Prop
  | refuses {p : StorePacket} {t : Scratch} {rc : CommandResponse} : a.job = none →
      p.cmd ≠ .cancelButtonPress → ¬ a.LogsOut p → a.asked p = .error rc →
      Step resp a (.packet p t) [⟨rc, 0, []⟩] a
  | accepts {p : StorePacket} {t : Scratch} {job : Job} {out : List StoreAnswer} {a' : RecordMap} :
      a.job = none → a.asked p = .ok job → Works resp { a with job := some job } out a' →
      Step resp a (.packet p t) out a'
  | logsOut {p : StorePacket} {t : Scratch} : a.job = none → a.LogsOut p →
      Step resp a (.packet p t) [⟨.okay, 0, []⟩] { a with state := .loggedOut }
  | cancels {p : StorePacket} {t : Scratch} : p.cmd = .cancelButtonPress → a.job.isSome →
      Step resp a (.packet p t) [⟨.buttonPressCanceled, 0, []⟩] a.done
  | ignores {p : StorePacket} {t : Scratch} : p.cmd = .cancelButtonPress →
      Step resp a (.packet p t) [] a
  | timesOut : a.job.isSome → Step resp a .blinkTimeout [⟨.buttonPressTimeout, 0, []⟩] a.done
  | login : a.state = .loggedOut → Step resp a .login [] { a with state := .loggedIn }
  | losesPower {stored : Nat → Bool} :
      Step resp a (.powerOn stored) [] { a.done with state := .disconnected }
  | losesPowerAfter {uid : Nat} {x : Option Record} {stored : Nat → Bool} :
      a.job = some (.update uid x) →
      Step resp a (.powerOn stored) [] { a.update uid x with state := .disconnected }
  | works {e : StoreEvent} {out : List StoreAnswer} {a' : RecordMap} : (∀ p t, e ≠ .packet p t) →
      (∀ stored, e ≠ .powerOn stored) → Works resp a out a' → Step resp a e out a'

end RecordMap

end SignetBase.FirmwareHc
