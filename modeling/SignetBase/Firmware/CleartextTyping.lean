/-
  SignetBase/Firmware/CleartextTyping.lean
  ========================================
  **Typing a password while the device is disconnected.**

  Each press of the button types the digit of the next slot; a long press erases the digits
  and types the password of the slot, and after two seconds without a press the digits are
  erased.  A session is the list of what was typed, and the reports that were sent are those
  of a session as far as the keyboard has come (`Session`).

  The handlers keep it only if they are called at the right time: a long press takes the slot
  in front of the first one when no digit was typed, the timer and a long press overwrite
  what is still being typed, and the fifth press erases one digit more than were typed.
  `typing_right` is about the runs without these (`TypesWell`) that begin with the device at rest
  (`AtRest`): a TYPE that is still being typed when the host disconnects keeps the keyboard from
  typing the digits of the presses that follow, which are counted all the same.
-/
import SignetBase.Firmware.PowerLoss

namespace SignetBase.Firmware

variable (P : Platform)

/-! ### What is to be typed -/

/-- The reports of a digit: the key of slot `i`, and no key. -/
def digitReports (i : Nat) : List Bytes := [[0, UInt8.ofNat (30 + i)], [0, 0]]

/-- The reports of `n` backspaces. -/
def backspaceReports (n : Nat) : List Bytes :=
  (List.range (2 * n)).map fun j => if j % 2 = 0 then [0, 42] else [0, 0]

/-- `scancode_entries` of a slot. -/
def scancodeEntries (root : Mem) (slot : Nat) : Nat := (root (cleartextPassOff slot + 1)).toNat

/-- The reports of the password in a slot. -/
def passwordReports (root : Mem) (slot : Nat) : List Bytes :=
  (List.range (scancodeEntries root slot)).map fun j =>
    root.read (cleartextPassOff slot + 130 + 2 * j) 2

/-- The slot has a password that fits the buffer. -/
def SlotUsable (root : Mem) (slot : Nat) : Prop :=
  root (cleartextPassOff slot) ≠ 0xff ∧ root (cleartextPassOff slot) ≠ 0 ∧
    scancodeEntries root slot * 2 ≤ 126

/-- What is typed at a time: a digit, backspaces for the digits, or these with the password of
    the slot whose digit came last. -/
inductive Job where
  | digit (i : Nat)
  | erase (n : Nat)
  | password (n : Nat)
deriving DecidableEq

def Job.reports (root : Mem) : Job → List Bytes
  | digit i => digitReports i
  | erase n => backspaceReports n
  | password n => backspaceReports n ++ passwordReports root (n - 1)

/-- `Typed root n jobs`: `n` digits were typed since the last reset, 0, 1, … in order, each reset
    has erased all of them, and each password was that of the slot whose digit came last. -/
inductive Typed (root : Mem) : Nat → List Job → Prop where
  | start : Typed root 0 []
  | digit {n : Nat} {jobs : List Job} :
      Typed root n jobs → n < NUM_CLEARTEXT_PASS → Typed root (n + 1) (jobs ++ [.digit n])
  | erase {n : Nat} {jobs : List Job} :
      Typed root n jobs → 0 < n → Typed root 0 (jobs ++ [.erase n])
  | password {n : Nat} {jobs : List Job} :
      Typed root n jobs → 0 < n → SlotUsable root (n - 1) → Typed root 0 (jobs ++ [.password n])

/-! ### What was typed -/

def Output.report? : Output → Option Bytes
  | .keyboardReport bs => some bs
  | _ => none

/-- The reports sent so far, the first one first. -/
def sentReports (s : Dev) : List Bytes := s.outputs.reverse.filterMap Output.report?

/-- The size of `cleartext_type_buf`. -/
def CLEARTEXT_TYPE_BUF_SIZE : Nat := 144

/-- The device is disconnected and at rest, with a root page of format 2. -/
structure AtRest (s : Dev) : Prop where
  hung : s.hung = false
  state : s.deviceState = .disconnected
  notType : s.activeCmd ≠ some .type
  notWaiting : s.waitingForButtonPress = false
  notWaitingLong : s.waitingForLongButtonPress = false
  signature : s.rootPage RootPage.signature = 2
  typing : s.typing = false
  flag : s.cleartextPassTyping = false
  index : s.cleartextPassIndex = -1
  release : s.cleartextTypeBuf 2 = 0 ∧ s.cleartextTypeBuf 3 = 0

/-- The events of a disconnected device: the button, the timer and the keyboard. -/
def Disconnected : Event → Prop
  | .buttonDown | .buttonUp | .buttonHeld | .timer | .txKeyboard | .keyboardIdle _ => True
  | _ => False

/-- The session so far, with what is still to be typed of its last job. -/
def InSession (before : List Bytes) (s : Dev) : Prop :=
  ∃ n jobs pending, Typed s.rootPage n jobs ∧ s.cleartextPassIndex = (n : Int) - 1 ∧
    before ++ jobs.flatMap (Job.reports s.rootPage) = sentReports s ++ pending ∧
    (s.typing = false → pending = [])

/-- The step reads the slot at `cleartext_pass_index`. -/
def ReadsSlot (s : Dev) (e : Event) : Prop := e = .buttonHeld ∧ s.buttonState = true

/-- Everything is right along a run: the reports are those of a session, slots are read inside
    the table, and the buffer is neither overrun nor changed while it is being typed. -/
structure TypingRight (before : List Bytes) (h : History Dev Event) (s : Dev) : Prop where
  session : InSession before s
  sessionBefore : ∀ x ∈ h, InSession before x.1
  index : ∀ x ∈ h, -1 ≤ x.1.cleartextPassIndex ∧ x.1.cleartextPassIndex < NUM_CLEARTEXT_PASS
  slots : ∀ x ∈ h, ReadsSlot x.1 x.2 → 0 ≤ x.1.cleartextPassIndex
  inside : ∀ x ∈ h, ∀ a, CLEARTEXT_TYPE_BUF_SIZE ≤ a →
    (step P x.1 x.2).cleartextTypeBuf a = x.1.cleartextTypeBuf a
  kept : ∀ x ∈ h, x.1.typing = true →
    (step P x.1 x.2).cleartextTypeBuf = x.1.cleartextTypeBuf

/-! ### When it is right -/

/-- No fifth press, no long press without a digit, and neither the timer nor a long press while
    something is being typed. -/
def TypesWell (s : Dev) : Event → Prop
  | .buttonUp => s.buttonState = true →
      s.cleartextPassTyping = true ∨ s.cleartextPassIndex + 1 ≠ NUM_CLEARTEXT_PASS
  | .buttonHeld => s.buttonState = true → 0 ≤ s.cleartextPassIndex ∧ s.typing = false
  | .timer => s.timerRunning = true → s.cleartextPassIndex < 0 ∨ s.typing = false
  | _ => True

/-! ### The buffer -/

variable {P} {s : Dev} {root buf : Mem} {before : List Bytes} {n : Nat}

/-- The buffer holds the reports. -/
def HoldsReports (buf : Mem) (reports : List Bytes) : Prop :=
  ∀ j (hj : j < reports.length), buf.read (2 * j) 2 = reports[j]

theorem length_backspaces (n : Nat) :
    ((List.range n).flatMap fun _ => ([0, 42, 0, 0] : Bytes)).length = 4 * n := by
  induction n with
  | zero => rfl
  | succ n ih =>
    rw [List.range_succ, List.flatMap_append, List.length_append, ih]
    rfl

theorem generateBackspaces_apply (n : Nat) (buf : Mem) (a : Nat) :
    generateBackspaces n buf a = if a < 4 * n then (if a % 4 = 1 then 42 else 0) else buf a := by
  induction n with
  | zero => rfl
  | succ n ih =>
    have hstep : generateBackspaces (n + 1) buf =
        (generateBackspaces n buf).write (4 * n) [0, 42, 0, 0] := by
      unfold generateBackspaces
      rw [List.range_succ, List.flatMap_append, Mem.write_append, length_backspaces, Nat.zero_add]
      rfl
    rw [hstep]
    by_cases hnew : 4 * n ≤ a ∧ a < 4 * n + 4
    · obtain ⟨k, rfl⟩ := Nat.exists_eq_add_of_le hnew.1
      have hk : k = 0 ∨ k = 1 ∨ k = 2 ∨ k = 3 := by omega
      have hend : 4 * n + k < 4 * n + ([0, 42, 0, 0] : Bytes).length := hnew.2
      rw [Mem.write_apply_of_mem _ hnew.1 hend, if_pos (by omega)]
      rcases hk with rfl | rfl | rfl | rfl
      · simp
      · simp
      · simp
      · simp
    · rw [Mem.write_apply_of_notMem _ (by change a < 4 * n ∨ 4 * n + 4 ≤ a; omega), ih]
      by_cases hlt : a < 4 * n
      · have hlt' : a < 4 * (n + 1) := by omega
        rw [if_pos hlt, if_pos hlt']
      · have hge : ¬ a < 4 * (n + 1) := by omega
        rw [if_neg hlt, if_neg hge]

theorem length_backspaceReports (n : Nat) : (backspaceReports n).length = 2 * n := by
  unfold backspaceReports
  rw [List.length_map, List.length_range]

theorem getElem_backspaceReports {n j : Nat} (hj : j < (backspaceReports n).length) :
    (backspaceReports n)[j] = if j % 2 = 0 then [0, 42] else [0, 0] := by
  simp [backspaceReports]

/-- Backspaces are typed from the buffer as long as nothing else is written to it. -/
theorem holds_backspaces (h : ∀ a < 4 * n, buf a = generateBackspaces n root a) :
    HoldsReports buf (backspaceReports n) := by
  intro j hj
  rw [getElem_backspaceReports hj]
  rw [length_backspaceReports] at hj
  have hbytes : buf.read (2 * j) 2 = [buf (2 * j), buf (2 * j + 1)] := rfl
  have hfirst : 2 * j < 4 * n := by omega
  have hsecond : 2 * j + 1 < 4 * n := by omega
  have hzero : ¬ 2 * j % 4 = 1 := by omega
  rw [hbytes, h _ hfirst, h _ hsecond, generateBackspaces_apply, generateBackspaces_apply,
    if_pos hfirst, if_pos hsecond, if_neg hzero]
  by_cases heven : j % 2 = 0
  · have hone : (2 * j + 1) % 4 = 1 := by omega
    rw [if_pos hone, if_pos heven]
  · have hone : ¬ (2 * j + 1) % 4 = 1 := by omega
    rw [if_neg hone, if_neg heven]

theorem holds_digit (hrelease : buf 2 = 0 ∧ buf 3 = 0) (i : Nat) :
    HoldsReports (buf.write 0 [0, UInt8.ofNat (30 + i)]) (digitReports i) := by
  intro j hj
  have hj' : j = 0 ∨ j = 1 := by
    change j < 2 at hj
    omega
  rcases hj' with rfl | rfl
  · exact Mem.read_write buf 0 _ 2 rfl
  · have hbehind : ∀ a, 2 ≤ a → buf.write 0 [0, UInt8.ofNat (30 + i)] a = buf a :=
      fun a ha => Mem.write_apply_of_notMem _ (.inr ha)
    change [buf.write 0 _ 2, buf.write 0 _ 3] = [0, 0]
    rw [hbehind 2 (Nat.le_refl 2), hbehind 3 (by decide), hrelease.1, hrelease.2]

theorem getElem_passwordReports {root : Mem} {slot j : Nat}
    (hj : j < (passwordReports root slot).length) :
    (passwordReports root slot)[j] = root.read (cleartextPassOff slot + 130 + 2 * j) 2 := by
  simp [passwordReports]

theorem length_passwordReports (root : Mem) (slot : Nat) :
    (passwordReports root slot).length = scancodeEntries root slot := by
  unfold passwordReports
  rw [List.length_map, List.length_range]

/-- What a long press leaves in the buffer. -/
theorem holds_password (root buf p : Mem) {slot : Nat}
    (hp : ∀ a, p a = root (cleartextPassOff slot + a)) :
    HoldsReports ((generateBackspaces n buf).copy (n * 4) p 130 (scancodeEntries root slot * 2))
      (backspaceReports n ++ passwordReports root slot) := by
  intro j hj
  by_cases hback : j < 2 * n
  · have hj' : j < (backspaceReports n).length := by
      rw [length_backspaceReports]
      exact hback
    rw [List.getElem_append_left hj']
    refine @holds_backspaces buf _ n (fun a ha => ?_) j hj'
    exact Mem.copy_apply_of_notMem _ _ (.inl (by omega))
  · rw [List.length_append, length_backspaceReports, length_passwordReports] at hj
    rw [List.getElem_append_right (by rw [length_backspaceReports]; omega)]
    rw [getElem_passwordReports]
    simp only [length_backspaceReports]
    refine Mem.read_congr fun i hi => ?_
    rw [Mem.copy_apply_of_mem _ _ (by omega) (by omega), hp]
    congr 1
    omega

/-! ### The invariant -/

/-- What no event of a disconnected device changes. -/
structure Offline (s : Dev) : Prop where
  hung : s.hung = false
  state : s.deviceState = .disconnected
  notType : s.activeCmd ≠ some .type
  notWaiting : s.waitingForButtonPress = false
  notWaitingLong : s.waitingForLongButtonPress = false
  signature : s.rootPage RootPage.signature = 2

/-- The keyboard is typing these reports out of the buffer. -/
structure Typing (reports : List Bytes) (s : Dev) : Prop where
  chars : s.chars = ⟨.cleartextTypeBuf, 0⟩
  count : s.nChars = reports.length
  small : reports.length < 256
  pos : s.charPos ≤ reports.length
  next : s.charPosToType = -1 ∨ s.charPosToType = s.charPos ∧ s.charPos < reports.length
  holds : HoldsReports s.cleartextTypeBuf reports

/-- What was sent: all jobs, or all but the last and this one so far. -/
inductive JobsSent (before : List Bytes) (jobs : List Job) (s : Dev) : Prop where
  | all : s.typing = false →
      sentReports s = before ++ jobs.flatMap (Job.reports s.rootPage) → JobsSent before jobs s
  | until (done : List Job) (job : Job) : s.typing = true → jobs = done ++ [job] →
      Typing (job.reports s.rootPage) s →
      sentReports s = before ++ done.flatMap (Job.reports s.rootPage) ++
        (job.reports s.rootPage).take s.charPos → JobsSent before jobs s

/-- **The invariant**: the digits that count are those since the last reset, and the keyboard
    types the last job of the session. -/
structure Session (before : List Bytes) (n : Nat) (jobs : List Job) (s : Dev) : Prop where
  offline : Offline s
  typed : Typed s.rootPage n jobs
  index : s.cleartextPassIndex = (n : Int) - 1
  flag : s.cleartextPassTyping = s.typing
  release : s.cleartextTypeBuf 2 = 0 ∧ s.cleartextTypeBuf 3 = 0
  sent : JobsSent before jobs s

variable {jobs : List Job}

theorem Typed.le (h : Typed root n jobs) : n ≤ NUM_CLEARTEXT_PASS := by
  cases h with
  | start => exact Nat.zero_le _
  | digit _ hn => exact hn
  | erase _ _ => exact Nat.zero_le _
  | password _ _ _ => exact Nat.zero_le _

theorem AtRest.session (h : AtRest s) : Session (sentReports s) 0 [] s where
  offline := ⟨h.hung, h.state, h.notType, h.notWaiting, h.notWaitingLong, h.signature⟩
  typed := .start
  index := h.index
  flag := h.flag.trans h.typing.symm
  release := h.release
  sent := .all h.typing (List.append_nil _).symm

theorem Session.inSession (h : Session before n jobs s) : InSession before s := by
  rcases h.sent with ⟨htyping, hsent⟩ | ⟨done, job, htyping, hjobs, htype, hsent⟩
  · exact ⟨n, jobs, [], h.typed, h.index, by rw [hsent, List.append_nil], fun _ => rfl⟩
  · refine ⟨n, jobs, (job.reports s.rootPage).drop s.charPos, h.typed, h.index, ?_, ?_⟩
    · rw [hsent, hjobs, List.flatMap_append, List.append_assoc _ (List.take _ _),
        List.take_append_drop, List.append_assoc]
      simp
    · intro hidle
      rw [htyping] at hidle
      cases hidle

/-- The timer and the button flag do not matter. -/
theorem Session.board (h : Session before n jobs s) (timer button : Bool) :
    Session before n jobs { s with timerRunning := timer, buttonState := button } where
  offline := ⟨h.offline.hung, h.offline.state, h.offline.notType, h.offline.notWaiting,
    h.offline.notWaitingLong, h.offline.signature⟩
  typed := h.typed
  index := h.index
  flag := h.flag
  release := h.release
  sent := by
    rcases h.sent with ⟨htyping, hsent⟩ | ⟨done, job, htyping, hjobs, htype, hsent⟩
    · exact .all htyping hsent
    · exact .until done job htyping hjobs
        ⟨htype.chars, htype.count, htype.small, htype.pos, htype.next, htype.holds⟩ hsent

theorem sentReports_emit (s : Dev) (bs : Bytes) :
    sentReports (s.emit (.keyboardReport bs)) = sentReports s ++ [bs] := by
  unfold sentReports Dev.emit
  rw [List.reverse_cons, List.filterMap_append]
  rfl

/-- **The next job begins.** -/
theorem Session.type (h : Session before n jobs s) (hidle : s.typing = false) {job : Job}
    {n' : Nat} (htyped : Typed s.rootPage n' (jobs ++ [job])) {buf : Mem}
    (hbuf : HoldsReports buf (job.reports s.rootPage)) (hrelease : buf 2 = 0 ∧ buf 3 = 0)
    {len : Nat} (hlen : len = (job.reports s.rootPage).length) (hpos : 0 < len)
    (hsmall : len < 256) :
    Session before n' (jobs ++ [job]) (usbKeyboardType usbKeyboardTypingDone ⟨.cleartextTypeBuf, 0⟩
      len { s with
        cleartextPassIndex := (n' : Int) - 1, cleartextTypeBuf := buf
        cleartextPassTyping := true }) := by
  have hmod : len % 256 = len := Nat.mod_eq_of_lt hsmall
  unfold usbKeyboardType
  rw [if_neg (by rw [hidle]; exact Bool.false_ne_true), if_neg (by omega), hmod]
  refine ⟨⟨h.offline.hung, h.offline.state, h.offline.notType, h.offline.notWaiting,
    h.offline.notWaitingLong, h.offline.signature⟩, htyped, rfl, rfl, hrelease, ?_⟩
  rcases h.sent with ⟨-, hsent⟩ | ⟨-, -, htyping, -⟩
  · refine .until jobs job rfl rfl ⟨rfl, hlen, hlen ▸ hsmall, hlen ▸ hpos, .inl rfl, hbuf⟩ ?_
    change sentReports (Dev.emit _ (.keyboardReport (buf.read 0 2))) = _ ++ _ ++ List.take 1 _
    rw [sentReports_emit]
    change sentReports s ++ _ = before ++ jobs.flatMap (Job.reports s.rootPage) ++ _
    have hfirst := hbuf 0 (hlen ▸ hpos)
    rw [Nat.mul_zero] at hfirst
    rw [hsent, hfirst, List.take_one, List.head?_eq_getElem?, List.getElem?_eq_getElem
      (hlen ▸ hpos)]
    rfl
  · rw [hidle] at htyping
    cases htyping

/-! ### The handlers -/

/-- The buffer is not overrun, and kept while it is being typed. -/
structure BufferRight (s s' : Dev) : Prop where
  inside : ∀ a, CLEARTEXT_TYPE_BUF_SIZE ≤ a → s'.cleartextTypeBuf a = s.cleartextTypeBuf a
  kept : s.typing = true → s'.cleartextTypeBuf = s.cleartextTypeBuf

theorem BufferRight.of_eq {s' : Dev} (h : s'.cleartextTypeBuf = s.cleartextTypeBuf) :
    BufferRight s s' :=
  ⟨fun a _ => congrFun h a, fun _ => h⟩

/-- A buffer that is written to at rest. -/
theorem BufferRight.of_idle {s' : Dev} (hidle : s.typing = false)
    (h : ∀ a, CLEARTEXT_TYPE_BUF_SIZE ≤ a → s'.cleartextTypeBuf a = s.cleartextTypeBuf a) :
    BufferRight s s' := by
  refine ⟨h, fun htyping => ?_⟩
  rw [hidle] at htyping
  cases htyping

theorem cleartextTypeBuf_typingDone (s : Dev) :
    (usbKeyboardTypingDone s).cleartextTypeBuf = s.cleartextTypeBuf := by
  have hflag : ∀ t : Dev, (if t.deviceState = .disconnected then
      { t with cleartextPassTyping := false } else t).cleartextTypeBuf = t.cleartextTypeBuf := by
    intro t
    split <;> rfl
  unfold usbKeyboardTypingDone
  refine (hflag _).trans ?_
  split <;> rfl

theorem cleartextTypeBuf_type (p : Ptr) (n : Nat) (s : Dev) :
    (usbKeyboardType usbKeyboardTypingDone p n s).cleartextTypeBuf = s.cleartextTypeBuf := by
  unfold usbKeyboardType
  split
  · rfl
  · split
    · exact cleartextTypeBuf_typingDone s
    · rfl

theorem cleartextTypeBuf_txKeyboard (s : Dev) :
    (usbTxKeyboard s).cleartextTypeBuf = s.cleartextTypeBuf := by
  unfold usbTxKeyboard
  split
  · split
    · exact cleartextTypeBuf_typingDone _
    · rfl
  · rfl

theorem cleartextTypeBuf_keyboardIdle (elapsed : Bool) (s : Dev) :
    (usbKeyboardIdle elapsed s).cleartextTypeBuf = s.cleartextTypeBuf := by
  unfold usbKeyboardIdle
  split
  · rfl
  · rfl

/-- `timer_timeout` without a digit. -/
theorem Session.nothing_to_erase (h : Session before 0 jobs s) : timerTimeout s = s := by
  have hindex : s.cleartextPassIndex = -1 := h.index
  have hnone : ¬ s.cleartextPassIndex ≥ 0 := by
    rw [hindex]
    decide
  have hsame : { s with cleartextPassIndex := -1 } = s := by
    rw [← hindex]
  unfold timerTimeout
  dsimp only
  rw [if_neg hnone, hsame]

/-- **`timer_timeout` erases the digits.** -/
theorem Session.erases (h : Session before n jobs s) (hidle : s.typing = false) (hn : 0 < n) :
    Session before 0 (jobs ++ [.erase n]) (timerTimeout s) ∧ BufferRight s (timerTimeout s) := by
  have hle := h.typed.le
  rw [NUM_CLEARTEXT_PASS] at hle
  have hsome : s.cleartextPassIndex ≥ 0 := by
    rw [h.index]
    omega
  have hcount : s.cleartextPassIndex.toNat + 1 = n := by
    rw [h.index]
    omega
  unfold timerTimeout
  dsimp only
  rw [if_pos hsome, hcount]
  constructor
  · refine h.type hidle (.erase h.typed hn) ?_ ?_ ?_ (by omega) (by omega)
    · exact holds_backspaces fun _ _ => rfl
    · rw [generateBackspaces_apply, generateBackspaces_apply]
      have htwo : 2 < 4 * n := by omega
      have hthree : 3 < 4 * n := by omega
      rw [if_pos htwo, if_pos hthree]
      exact ⟨rfl, rfl⟩
    · change n * 2 = (backspaceReports n).length
      rw [length_backspaceReports, Nat.mul_comm]
  · refine .of_idle hidle fun a ha => ?_
    rw [CLEARTEXT_TYPE_BUF_SIZE] at ha
    rw [cleartextTypeBuf_type]
    change generateBackspaces n s.cleartextTypeBuf a = _
    rw [generateBackspaces_apply]
    exact if_neg (by omega)

/-- **A press types the next digit.** -/
theorem Session.types_digit (h : Session before n jobs s)
    (hfit : s.cleartextPassTyping = true ∨ s.cleartextPassIndex + 1 ≠ NUM_CLEARTEXT_PASS) :
    (∃ n' jobs', Session before n' jobs' (buttonReleaseDisconnected s)) ∧
      BufferRight s (buttonReleaseDisconnected s) := by
  unfold buttonReleaseDisconnected
  by_cases hflag : s.cleartextPassTyping = true
  · rw [if_pos hflag]
    exact ⟨⟨n, jobs, h⟩, .of_eq rfl⟩
  · rw [if_neg hflag]
    have hidle : s.typing = false := by
      rw [← h.flag]
      exact Bool.eq_false_iff.mpr hflag
    have hnext : s.cleartextPassIndex + 1 = n := by
      rw [h.index]
      omega
    have hne : s.cleartextPassIndex + 1 ≠ NUM_CLEARTEXT_PASS := hfit.resolve_left hflag
    have hle := h.typed.le
    have hlt : n < NUM_CLEARTEXT_PASS := by
      rw [hnext] at hne
      omega
    dsimp only
    rw [if_neg hne, hnext]
    have hkey : UInt8.ofNat (30 + (n : Int)).toNat = UInt8.ofNat (30 + n) := by
      congr 1
    rw [hkey]
    constructor
    · refine ⟨n + 1, jobs ++ [.digit n], ?_⟩
      have htype := h.type hidle (.digit h.typed hlt) (holds_digit h.release n) ?_
        (rfl : 2 = (digitReports n).length) (by decide) (by decide)
      · have hindex : ((n + 1 : Nat) : Int) - 1 = n := by omega
        rw [hindex] at htype
        exact htype.board true _
      · have hbehind : ∀ a, 2 ≤ a → s.cleartextTypeBuf.write 0 [0, UInt8.ofNat (30 + n)] a =
            s.cleartextTypeBuf a := fun a ha => Mem.write_apply_of_notMem _ (.inr ha)
        rw [hbehind 2 (Nat.le_refl 2), hbehind 3 (by decide)]
        exact h.release
    · refine .of_idle hidle fun a ha => ?_
      rw [CLEARTEXT_TYPE_BUF_SIZE] at ha
      refine (congrFun (cleartextTypeBuf_type ⟨.cleartextTypeBuf, 0⟩ 2 _) a).trans ?_
      exact Mem.write_apply_of_notMem _ (.inr (by change 2 ≤ a; omega))

theorem cleartextPass_eq (P : Platform) (s : Dev) (slot a : Nat) :
    cleartextPass P s slot a = s.rootPage (cleartextPassOff slot + a) := by
  have hoff : (RootPage.cleartextPasswords : Int) + CLEARTEXT_PASS_SIZE * (slot : Int) + a =
      ((cleartextPassOff slot + a : Nat) : Int) := by
    unfold cleartextPassOff
    push_cast
    rfl
  unfold cleartextPass
  dsimp only
  rw [hoff, if_pos (Int.natCast_nonneg _), Int.toNat_natCast]

/-- **A long press types the password of the slot whose digit came last, or erases the digits.** -/
theorem Session.types_password (h : Session before n jobs s) (hidle : s.typing = false)
    (hn : 0 < n) :
    (∃ n' jobs', Session before n' jobs' (longButtonPressDisconnected P s)) ∧
      BufferRight s (longButtonPressDisconnected P s) := by
  have hle := h.typed.le
  rw [NUM_CLEARTEXT_PASS] at hle
  have hslot : s.cleartextPassIndex = ((n - 1 : Nat) : Int) := by
    rw [h.index]
    omega
  have hcount : (((n - 1 : Nat) : Int) + 1).toNat = n := by omega
  have hp : ∀ a, cleartextPass P s ((n - 1 : Nat) : Int) a =
      s.rootPage (cleartextPassOff (n - 1) + a) := cleartextPass_eq P s (n - 1)
  have hformat := hp 0
  have hentries : (cleartextPass P s ((n - 1 : Nat) : Int) 1).toNat =
      scancodeEntries s.rootPage (n - 1) := congrArg UInt8.toNat (hp 1)
  rw [Nat.add_zero] at hformat
  unfold longButtonPressDisconnected
  rw [if_pos h.offline.signature]
  dsimp only
  rw [hslot, hentries, hformat, hcount]
  by_cases husable : SlotUsable s.rootPage (n - 1)
  · have hfits := husable.2.2
    have hcond : s.rootPage (cleartextPassOff (n - 1)) ≠ 0xff ∧
        s.rootPage (cleartextPassOff (n - 1)) ≠ 0 ∧
        scancodeEntries s.rootPage (n - 1) * 2 ≤ 126 := husable
    rw [if_pos hcond]
    constructor
    · refine ⟨0, jobs ++ [.password n], ?_⟩
      refine h.type hidle (.password h.typed hn husable) (holds_password _ _ _ hp) ?_ ?_
        (by omega) (by omega)
      · have hkept : ∀ a, a < n * 4 → (generateBackspaces n s.cleartextTypeBuf).copy (n * 4)
            (cleartextPass P s ((n - 1 : Nat) : Int)) 130
            (scancodeEntries s.rootPage (n - 1) * 2) a =
            generateBackspaces n s.cleartextTypeBuf a :=
          fun a ha => Mem.copy_apply_of_notMem _ _ (.inl ha)
        have htwo : 2 < 4 * n := by omega
        have hthree : 3 < 4 * n := by omega
        rw [hkept 2 (by omega), hkept 3 (by omega), generateBackspaces_apply,
          generateBackspaces_apply, if_pos htwo, if_pos hthree]
        exact ⟨rfl, rfl⟩
      · change _ = (backspaceReports n ++ passwordReports s.rootPage (n - 1)).length
        rw [List.length_append, length_backspaceReports, length_passwordReports]
        omega
    · refine .of_idle hidle fun a ha => ?_
      rw [CLEARTEXT_TYPE_BUF_SIZE] at ha
      rw [cleartextTypeBuf_type]
      refine (Mem.copy_apply_of_notMem _ _ (.inr (by omega))).trans ?_
      rw [generateBackspaces_apply]
      exact if_neg (by omega)
  · have hcond : ¬ (s.rootPage (cleartextPassOff (n - 1)) ≠ 0xff ∧
        s.rootPage (cleartextPassOff (n - 1)) ≠ 0 ∧
        scancodeEntries s.rootPage (n - 1) * 2 ≤ 126) := husable
    rw [if_neg hcond]
    obtain ⟨hsession, hbuffer⟩ := h.erases hidle hn
    exact ⟨⟨0, _, hsession.board false _⟩, hbuffer.inside, hbuffer.kept⟩

/-- `usb_keyboard_typing_done` while the device is disconnected. -/
theorem typingDone_offline (h : Offline s) :
    usbKeyboardTypingDone s = { s with cleartextPassTyping := false } := by
  unfold usbKeyboardTypingDone
  rw [if_neg h.notType]
  dsimp only
  rw [if_pos h.state]

/-- A report was transmitted. -/
theorem Session.transmitted (h : Session before n jobs s) :
    Session before n jobs (usbTxKeyboard s) := by
  unfold usbTxKeyboard
  rcases h.sent with ⟨hidle, hsent⟩ | ⟨done, job, htyping, hjobs, htype, hsent⟩
  · rw [if_neg (by rw [hidle]; exact Bool.false_ne_true)]
    exact h
  · rw [if_pos htyping]
    have hoffline : Offline { s with typing := false } := ⟨h.offline.hung, h.offline.state,
      h.offline.notType, h.offline.notWaiting, h.offline.notWaitingLong, h.offline.signature⟩
    have hsplit : jobs.flatMap (Job.reports s.rootPage) =
        done.flatMap (Job.reports s.rootPage) ++ job.reports s.rootPage := by
      rw [hjobs, List.flatMap_append, List.flatMap_singleton]
    by_cases hlast : s.charPos = s.nChars
    · rw [if_pos hlast, typingDone_offline hoffline]
      refine ⟨⟨h.offline.hung, h.offline.state, h.offline.notType, h.offline.notWaiting,
        h.offline.notWaitingLong, h.offline.signature⟩, h.typed, h.index, rfl, h.release, ?_⟩
      refine .all rfl ?_
      change sentReports s = before ++ jobs.flatMap (Job.reports s.rootPage)
      rw [hsent, hsplit, hlast, htype.count, List.take_length, List.append_assoc]
    · rw [if_neg hlast]
      refine ⟨⟨h.offline.hung, h.offline.state, h.offline.notType, h.offline.notWaiting,
        h.offline.notWaitingLong, h.offline.signature⟩, h.typed, h.index, h.flag, h.release, ?_⟩
      have hlt : s.charPos < (job.reports s.rootPage).length := by
        have hpos := htype.pos
        have hcount := htype.count
        omega
      exact .until done job htyping hjobs ⟨htype.chars, htype.count, htype.small, htype.pos,
        .inr ⟨rfl, hlt⟩, htype.holds⟩ hsent

/-- The next report is sent. -/
theorem Session.sends_next (h : Session before n jobs s) (elapsed : Bool) :
    Session before n jobs (usbKeyboardIdle elapsed s) := by
  unfold usbKeyboardIdle
  split
  · rename_i hnext
    obtain ⟨htyping, hpending, -⟩ := hnext
    rcases h.sent with ⟨hidle, -⟩ | ⟨done, job, -, hjobs, htype, hsent⟩
    · rw [hidle] at htyping
      cases htyping
    · rcases htype.next with hnone | ⟨hnext, hlt⟩
      · omega
      · have hsmall := htype.small
        have hmod : (s.charPos + 1) % 256 = s.charPos + 1 := Nat.mod_eq_of_lt (by omega)
        refine ⟨⟨h.offline.hung, h.offline.state, h.offline.notType, h.offline.notWaiting,
          h.offline.notWaitingLong, h.offline.signature⟩, h.typed, h.index, h.flag, h.release, ?_⟩
        refine .until done job htyping hjobs ⟨htype.chars, htype.count, htype.small, ?_, .inl rfl,
          htype.holds⟩ ?_
        · change (s.charPos + 1) % 256 ≤ (job.reports s.rootPage).length
          omega
        · have hreport : s.deref { s.chars with off := s.chars.off + s.charPosToType.toNat * 2 } 2 =
              (job.reports s.rootPage)[s.charPos] := by
            rw [hnext, htype.chars]
            change s.cleartextTypeBuf.read (0 + s.charPos * 2) 2 = _
            rw [Nat.zero_add, Nat.mul_comm]
            exact htype.holds s.charPos hlt
          refine (sentReports_emit s _).trans ?_
          rw [hsent, hreport]
          change _ = before ++ done.flatMap (Job.reports s.rootPage) ++
            List.take ((s.charPos + 1) % 256) (job.reports s.rootPage)
          rw [hmod, List.take_succ_eq_append_getElem hlt, ← List.append_assoc]
  · exact h

/-! ### Runs -/

/-- The button while nothing is waited for. -/
theorem buttonPress_offline (h : Offline s) :
    buttonPress P s = { s with timerRunning := false } := by
  unfold buttonPress
  rw [if_neg (by rw [h.notWaiting]; exact Bool.false_ne_true),
    if_neg (by rw [h.notWaitingLong]; exact Bool.false_ne_true), if_pos h.state]
  rfl

theorem buttonRelease_offline (h : Offline s) : buttonRelease s = buttonReleaseDisconnected s := by
  unfold buttonRelease
  rw [if_neg (by rw [h.notWaitingLong]; exact Bool.false_ne_true), if_pos h.state]

theorem longButtonPress_offline (h : Offline s) :
    longButtonPress P s = longButtonPressDisconnected P s := by
  unfold longButtonPress
  rw [if_neg (by rw [h.notWaitingLong]; exact Bool.false_ne_true), if_pos h.state]

/-- **Each event at the right time continues the session.** -/
theorem Session.step (h : Session before n jobs s) {e : Event} (he : Disconnected e)
    (hwell : TypesWell s e) :
    (∃ n' jobs', Session before n' jobs' (step P s e)) ∧ BufferRight s (step P s e) := by
  have hsame : (∃ n' jobs', Session before n' jobs' s) ∧ BufferRight s s :=
    ⟨⟨n, jobs, h⟩, .of_eq rfl⟩
  unfold Firmware.step
  rw [if_neg (by rw [h.offline.hung]; exact Bool.false_ne_true)]
  cases e with
  | buttonDown =>
    dsimp only
    split
    · exact hsame
    · rw [buttonPress_offline h.offline]
      exact ⟨⟨n, jobs, h.board false true⟩, .of_eq rfl⟩
  | buttonUp =>
    dsimp only
    split
    · rename_i hdown
      rw [buttonRelease_offline h.offline]
      obtain ⟨⟨n', jobs', hsession⟩, hbuffer⟩ := h.types_digit (hwell hdown)
      exact ⟨⟨n', jobs', hsession.board _ false⟩, hbuffer.inside, hbuffer.kept⟩
    · exact hsame
  | buttonHeld =>
    dsimp only
    split
    · rename_i hdown
      obtain ⟨hindex, hidle⟩ := hwell hdown
      have hn : 0 < n := by
        rw [h.index] at hindex
        omega
      have hup := h.board s.timerRunning false
      rw [longButtonPress_offline hup.offline]
      obtain ⟨hsession, hbuffer⟩ := @Session.types_password P _ _ _ _ hup hidle hn
      exact ⟨hsession, hbuffer.inside, hbuffer.kept⟩
    · exact hsame
  | timer =>
    dsimp only
    split
    · rename_i hrunning
      rcases Nat.eq_zero_or_pos n with rfl | hn
      · rw [h.nothing_to_erase]
        exact ⟨⟨0, jobs, h.board false _⟩, .of_eq rfl⟩
      · have hidle : s.typing = false := by
          refine (hwell hrunning).resolve_left ?_
          rw [h.index]
          omega
        obtain ⟨hsession, hbuffer⟩ := h.erases hidle hn
        exact ⟨⟨0, _, hsession.board false _⟩, hbuffer.inside, hbuffer.kept⟩
    · exact hsame
  | txKeyboard => exact ⟨⟨n, jobs, h.transmitted⟩, .of_eq (cleartextTypeBuf_txKeyboard s)⟩
  | keyboardIdle elapsed =>
    exact ⟨⟨n, jobs, h.sends_next elapsed⟩, .of_eq (cleartextTypeBuf_keyboardIdle elapsed s)⟩
  | hidRx packet => exact he.elim
  | packetSent => exact he.elim
  | blinkTimeout => exact he.elim
  | rtcWord w => exact he.elim
  | rngWord w => exact he.elim
  | flashHandler eop => exact he.elim
  | flashIdle err => exact he.elim

/-- The runs of a disconnected device from `s₀`, whose steps all satisfy `ok`. -/
abbrev TypingRun (P : Platform) (s₀ : Dev) (ok : Dev → Event → Prop) :=
  Run (· = s₀) (step P) fun s e => Disconnected e ∧ ok s e

/-- **Typing is right along every run without a fifth press, a long press without a digit, and a
    timer or a long press while something is being typed.** -/
theorem typing_right (P : Platform) {s₀ s : Dev} {h : History Dev Event} (hrest : AtRest s₀)
    (hr : TypingRun P s₀ TypesWell h s) : TypingRight P (sentReports s₀) h s := by
  have hright : (∃ n jobs, Session (sentReports s₀) n jobs s) ∧
      TypingRight P (sentReports s₀) h s := by
    refine hr.invariant (P := fun h s => (∃ n jobs, Session (sentReports s₀) n jobs s) ∧
      TypingRight P (sentReports s₀) h s) ?_ ?_
    · rintro _ rfl
      refine ⟨⟨0, [], hrest.session⟩, hrest.session.inSession, ?_, ?_, ?_, ?_, ?_⟩ <;> simp
    · rintro h s e - ⟨he, hwell⟩ ⟨⟨n, jobs, hs⟩, hbefore⟩
      obtain ⟨⟨n', jobs', hs'⟩, hbuffer⟩ := @Session.step P s _ n jobs hs e he hwell
      have hle := hs.typed.le
      refine ⟨⟨n', jobs', hs'⟩, hs'.inSession, ?_, ?_, ?_, ?_, ?_⟩
      · exact List.forall_mem_cons.mpr ⟨hs.inSession, hbefore.sessionBefore⟩
      · refine List.forall_mem_cons.mpr ⟨?_, hbefore.index⟩
        rw [hs.index]
        omega
      · refine List.forall_mem_cons.mpr ⟨?_, hbefore.slots⟩
        rintro ⟨rfl, hdown⟩
        exact (hwell hdown).1
      · exact List.forall_mem_cons.mpr ⟨hbuffer.inside, hbefore.inside⟩
      · exact List.forall_mem_cons.mpr ⟨hbuffer.kept, hbefore.kept⟩
  exact hright.2

/-- A device that was just connected to power is at rest. -/
theorem AtRest.powerOn (P : Platform) {flash : Mem} (hformat : flash ROOT_PAGE_ADDR = 2) :
    AtRest (powerOn P flash) where
  hung := rfl
  state := rfl
  notType := by
    intro h
    cases h
  notWaiting := rfl
  notWaitingLong := rfl
  signature := hformat
  typing := rfl
  flag := rfl
  index := rfl
  release := ⟨rfl, rfl⟩

/-- A chip that was just powered on, with the same byte everywhere. -/
def twosDev : Dev := powerOn plainPlatform fun _ => 2

theorem atRest_twosDev : AtRest twosDev := AtRest.powerOn plainPlatform rfl

/-- A press and a release. -/
theorem typing_right_press :
    TypingRight plainPlatform (sentReports twosDev)
      [(step plainPlatform twosDev .buttonDown, .buttonUp), (twosDev, .buttonDown)]
      (step plainPlatform (step plainPlatform twosDev .buttonDown) .buttonUp) := by
  refine typing_right plainPlatform atRest_twosDev ?_
  refine .next (.next (.start rfl) ⟨trivial, trivial⟩) ⟨trivial, fun _ => .inr ?_⟩
  change (-1 : Int) + 1 ≠ (NUM_CLEARTEXT_PASS : Int)
  decide

/-- A long press before any digit takes the slot in front of the first one. -/
theorem long_press_first :
    ¬ ∀ (P : Platform) (s₀ s : Dev) (h : History Dev Event), AtRest s₀ →
      TypingRun P s₀ anyStep h s → TypingRight P (sentReports s₀) h s := by
  intro hall
  have hr : TypingRun plainPlatform twosDev anyStep
      [(step plainPlatform twosDev .buttonDown, .buttonHeld), (twosDev, .buttonDown)]
      (step plainPlatform (step plainPlatform twosDev .buttonDown) .buttonHeld) :=
    .next (.next (.start rfl) ⟨trivial, trivial⟩) ⟨trivial, trivial⟩
  have hright := hall plainPlatform twosDev _ _ atRest_twosDev hr
  have hslot : (0 : Int) ≤ -1 := hright.slots _ List.mem_cons_self ⟨rfl, rfl⟩
  exact absurd hslot (by decide)

/-- The fifth press types five backspaces, for four digits. -/
theorem Session.fifth_press (h : Session before NUM_CLEARTEXT_PASS jobs s)
    (hidle : s.typing = false) :
    (buttonReleaseDisconnected s).nChars = (backspaceReports (NUM_CLEARTEXT_PASS + 1)).length ∧
      HoldsReports (buttonReleaseDisconnected s).cleartextTypeBuf
        (backspaceReports (NUM_CLEARTEXT_PASS + 1)) := by
  have hflag : ¬ s.cleartextPassTyping = true := by
    rw [h.flag, hidle]
    exact Bool.false_ne_true
  have hlast : s.cleartextPassIndex + 1 = NUM_CLEARTEXT_PASS := by
    rw [h.index]
    omega
  have hsome : (NUM_CLEARTEXT_PASS : Int) ≥ 0 := by decide
  unfold buttonReleaseDisconnected
  dsimp only
  rw [if_neg hflag, if_pos hlast]
  unfold timerTimeout
  dsimp only
  rw [hlast, if_pos hsome, cleartextTypeBuf_type]
  constructor
  · unfold usbKeyboardType
    dsimp only
    rw [if_neg (by rw [hidle]; exact Bool.false_ne_true), if_neg (by decide)]
    rw [length_backspaceReports]
    rfl
  · exact holds_backspaces fun _ _ => rfl

end SignetBase.Firmware
