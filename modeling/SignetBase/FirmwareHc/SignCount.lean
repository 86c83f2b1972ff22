/-
  SignetBase/FirmwareHc/SignCount.lean
  ====================================
  **The signature counter of the FIDO functions (`ctap_atomic_count`).**

  The counter is a static variable, so it begins with 1 after every restart.  As long as the
  device is not restarted, the counters of the responses that are sent increase strictly,
  also across requests that draw a counter and are executed again: such a draw leaves a gap.
  A restart between two counted responses is what breaks the order.

  What the requests do besides drawing (parsing, checks, signatures) is left open: a request
  carries what those parts return.
-/
import Mathlib.Algebra.Group.Nat.Defs
import Mathlib.Data.List.Count
import Mathlib.Data.List.Induction
import Mathlib.Tactic.Common

namespace SignetBase.FirmwareHc

/-! ### The code -/

def CTAP1_ERR_SUCCESS : UInt8 := 0x00
def CTAP2_ERR_PROCESSING : UInt8 := 0x21
def CTAP2_ERR_USER_ACTION_PENDING : UInt8 := 0x23
def CTAP2_ERR_ACTION_TIMEOUT : UInt8 := 0x3A
def U2F_SW_NO_ERROR : UInt16 := 0x9000
def U2F_SW_CONDITIONS_NOT_SATISFIED : UInt16 := 0x6985
def U2F_SW_PROCESSING : UInt16 := 0xffff

/-- `ctap_atomic_count`: the value and the new value of the static variable. -/
def ctapAtomicCount (count : UInt32) : UInt32 × UInt32 := (count, count + 1)

/-- `auth_data_update_count`. -/
def authDataUpdateCount (count : UInt32) : UInt32 × UInt32 :=
  let (c, count) := ctapAtomicCount count
  if c = 0 then ctapAtomicCount count else (c, count)

/-- What the parts of a CBOR request return that leave the counter alone: those before the
    authenticator data, those behind it, and whether the random numbers were all served. -/
structure CborChecks where
  before : UInt8
  after : UInt8
  randServed : Bool

/-- The status, the counter in the authenticator data, and the new value of the variable. -/
abbrev Answer (Status : Type) := Status × Option UInt32 × UInt32

/-- The body of the requests with authenticator data, as to the counter. -/
def countedRequest (k : CborChecks) (count : UInt32) : Answer UInt8 :=
  if k.before ≠ CTAP1_ERR_SUCCESS then (k.before, none, count)
  else
    let (c, count) := authDataUpdateCount count
    (k.after, some c, count)

def ctapMakeCredential := countedRequest
def ctapGetAssertion := countedRequest
def ctapGetNextAssertion := countedRequest

/-- The commands that `ctap_request` tells apart here. -/
inductive CtapCmd where
  | makeCredential | getAssertion | getNextAssertion | other

/-- `ctap_request`. -/
def ctapRequest (cmd : CtapCmd) (k : CborChecks) (count : UInt32) : Answer UInt8 :=
  match cmd with
  | .makeCredential => ctapMakeCredential k count
  | .getAssertion => ctapGetAssertion k count
  | .getNextAssertion => ctapGetNextAssertion k count
  | .other => (k.after, none, count)

/-- What the parts of `u2f_authenticate` return that leave the counter alone: the status word
    of a request that is refused (or only checked), the control byte's `up`, and
    `ctap_user_presence_test`. -/
structure U2fChecks where
  refused : Option UInt16
  up : Bool
  presence : Int

/-- `u2f_authenticate`. -/
def u2fAuthenticate (k : U2fChecks) (count : UInt32) : Answer UInt16 :=
  match k.refused with
  | some sw => (sw, none, count)
  | none =>
    if k.up ∧ k.presence = 0 then (U2F_SW_CONDITIONS_NOT_SATISFIED, none, count)
    else if k.up ∧ k.presence = -1 then (U2F_SW_PROCESSING, none, count)
    else
      let (c, count) := ctapAtomicCount count
      (U2F_SW_NO_ERROR, some c, count)

/-- The counter and the counters of the responses that were sent, oldest first. -/
structure FidoCount where
  count : UInt32
  sent : List UInt32

/-- The counter of a response that is sent with the data of the request, if it has one. -/
def FidoCount.respond (withData : Bool) (c : Option UInt32) (s : FidoCount) : FidoCount :=
  if withData then { s with sent := s.sent ++ c.toList } else s

/-- The branch of `process_ctaphid_packet` for CBOR requests.  One that is still processing or
    waits for the button is executed again later. -/
def processCbor (cmd : CtapCmd) (k : CborChecks) (s : FidoCount) : FidoCount :=
  let (status, c, count) := ctapRequest cmd k s.count
  let status := if ¬ k.randServed ∧ status = CTAP1_ERR_SUCCESS then CTAP2_ERR_PROCESSING else status
  let s := { s with count }
  if status = CTAP2_ERR_PROCESSING ∨ status = CTAP2_ERR_USER_ACTION_PENDING then s
  else if status = CTAP2_ERR_ACTION_TIMEOUT then s
  else s.respond (status = CTAP1_ERR_SUCCESS) c

/-- The branch for U2F requests. -/
def processMsg (k : U2fChecks) (s : FidoCount) : FidoCount :=
  let (sw, c, count) := u2fAuthenticate k s.count
  let s := { s with count }
  if sw = U2F_SW_PROCESSING then s
  else s.respond (sw = U2F_SW_NO_ERROR) c

/-- A restart, or one execution of a request. -/
inductive FidoEvent where
  | restart
  | cbor (cmd : CtapCmd) (k : CborChecks)
  | msg (k : U2fChecks)

namespace FidoCount

def start : FidoCount := ⟨1, []⟩

def step (s : FidoCount) : FidoEvent → FidoCount
  | .restart => { s with count := start.count }
  | .cbor cmd k => processCbor cmd k s
  | .msg k => processMsg k s

/-- The events in order, from the first start on. -/
def run (es : List FidoEvent) : FidoCount := es.foldl step start

end FidoCount

/-! ### What an execution does to the counter -/

/-- The execution comes to the counter. -/
def FidoEvent.draws : FidoEvent → Bool
  | .restart => false
  | .cbor .other _ => false
  | .cbor _ k => k.before = CTAP1_ERR_SUCCESS
  | .msg k => k.refused = none ∧ ¬ (k.up ∧ (k.presence = 0 ∨ k.presence = -1))

/-- The execution is not thrown away: what it drew is sent. -/
def FidoEvent.completes : FidoEvent → Bool
  | .restart => false
  | .cbor _ k => k.after = CTAP1_ERR_SUCCESS ∧ k.randServed
  | .msg _ => true

/-- A counted response is sent. -/
def FidoEvent.sends (e : FidoEvent) : Bool := e.draws && e.completes

theorem authDataUpdateCount_of_ne {count : UInt32} (h : count ≠ 0) :
    authDataUpdateCount count = (count, count + 1) := if_neg h

theorem ctapRequest_of_draws {cmd : CtapCmd} {k : CborChecks} {count : UInt32}
    (hdraws : (FidoEvent.cbor cmd k).draws) (h : count ≠ 0) :
    ctapRequest cmd k count = (k.after, some count, count + 1) := by
  have hcounted : k.before = CTAP1_ERR_SUCCESS → countedRequest k count =
      (k.after, some count, count + 1) := by
    intro hbefore
    unfold countedRequest
    rw [if_neg (not_not_intro hbefore), authDataUpdateCount_of_ne h]
  cases cmd with
  | other => cases hdraws
  | makeCredential => exact hcounted (of_decide_eq_true hdraws)
  | getAssertion => exact hcounted (of_decide_eq_true hdraws)
  | getNextAssertion => exact hcounted (of_decide_eq_true hdraws)

theorem ctapRequest_of_not_draws {cmd : CtapCmd} {k : CborChecks} {count : UInt32}
    (hdraws : ¬ (FidoEvent.cbor cmd k).draws) :
    ∃ status, ctapRequest cmd k count = (status, none, count) := by
  have hcounted : ¬ k.before = CTAP1_ERR_SUCCESS → countedRequest k count =
      (k.before, none, count) := fun hbefore => if_pos hbefore
  cases cmd with
  | other => exact ⟨_, rfl⟩
  | makeCredential => exact ⟨_, hcounted fun h => hdraws (decide_eq_true h)⟩
  | getAssertion => exact ⟨_, hcounted fun h => hdraws (decide_eq_true h)⟩
  | getNextAssertion => exact ⟨_, hcounted fun h => hdraws (decide_eq_true h)⟩

theorem u2fAuthenticate_eq (k : U2fChecks) (count : UInt32) :
    ((FidoEvent.msg k).draws ∧
        u2fAuthenticate k count = (U2F_SW_NO_ERROR, some count, count + 1)) ∨
      (¬ (FidoEvent.msg k).draws ∧ ∃ sw, u2fAuthenticate k count = (sw, none, count)) := by
  unfold u2fAuthenticate
  cases hrefused : k.refused with
  | some sw =>
    refine .inr ⟨?_, sw, rfl⟩
    simp [FidoEvent.draws, hrefused]
  | none =>
    dsimp only
    by_cases h₀ : k.up ∧ k.presence = 0
    · rw [if_pos h₀]
      exact .inr ⟨by simp [FidoEvent.draws, hrefused, h₀.1, h₀.2], _, rfl⟩
    · rw [if_neg h₀]
      by_cases h₁ : k.up ∧ k.presence = -1
      · rw [if_pos h₁]
        exact .inr ⟨by simp [FidoEvent.draws, hrefused, h₁.1, h₁.2], _, rfl⟩
      · rw [if_neg h₁]
        refine .inl ⟨?_, rfl⟩
        have hgo : ¬ (k.up ∧ (k.presence = 0 ∨ k.presence = -1)) := by
          rintro ⟨hup, h | h⟩
          · exact h₀ ⟨hup, h⟩
          · exact h₁ ⟨hup, h⟩
        exact decide_eq_true ⟨hrefused, hgo⟩

namespace FidoCount

theorem respond_none (withData : Bool) (s : FidoCount) : s.respond withData none = s := by
  unfold respond
  cases withData with
  | false => rfl
  | true => rw [if_pos rfl, Option.toList_none, List.append_nil]

/-- An execution that does not come to the counter leaves it and sends none. -/
theorem step_of_not_draws {s : FidoCount} {e : FidoEvent} (hdraws : ¬ e.draws)
    (hrestart : e ≠ .restart) : s.step e = s := by
  cases e with
  | restart => exact absurd rfl hrestart
  | cbor cmd k =>
    obtain ⟨status, hreq⟩ := @ctapRequest_of_not_draws cmd k s.count hdraws
    simp only [step, processCbor, hreq, respond_none, ite_self]
  | msg k =>
    rcases u2fAuthenticate_eq k s.count with ⟨h, -⟩ | ⟨-, sw, hreq⟩
    · exact absurd h hdraws
    · simp only [step, processMsg, hreq, respond_none, ite_self]

/-- An execution that comes to the counter takes its value; the value is sent if the execution is
    not thrown away. -/
theorem step_of_draws {s : FidoCount} {e : FidoEvent} (hdraws : e.draws) (h : s.count ≠ 0) :
    s.step e = ⟨s.count + 1, if e.sends then s.sent ++ [s.count] else s.sent⟩ := by
  rw [FidoEvent.sends, hdraws, Bool.true_and]
  cases e with
  | restart => cases hdraws
  | cbor cmd k =>
    simp only [step, processCbor, ctapRequest_of_draws hdraws h, FidoEvent.completes, respond]
    by_cases hafter : k.after = CTAP1_ERR_SUCCESS
    · by_cases hserved : k.randServed = true
      · simp [hafter, hserved, CTAP1_ERR_SUCCESS, CTAP2_ERR_PROCESSING,
          CTAP2_ERR_USER_ACTION_PENDING, CTAP2_ERR_ACTION_TIMEOUT]
      · simp [hafter, hserved]
    · simp [hafter]
  | msg k =>
    rcases u2fAuthenticate_eq k s.count with ⟨-, hreq⟩ | ⟨h', -⟩
    · simp [step, processMsg, hreq, FidoEvent.completes, respond, U2F_SW_NO_ERROR,
        U2F_SW_PROCESSING]
    · exact absurd hdraws h'

theorem run_append (es : List FidoEvent) (e : FidoEvent) : run (es ++ [e]) = (run es).step e := by
  unfold run
  rw [List.foldl_append]
  rfl

end FidoCount

/-! ### Whole runs -/

/-- No restart lies between two responses with a counter. -/
def NoRestartBetween (es : List FidoEvent) : Prop :=
  ∀ before after, es = before ++ .restart :: after →
    ¬ ((∃ e ∈ before, e.sends) ∧ ∃ e ∈ after, e.sends)

/-- Nothing was sent before a restart. -/
def Fresh (es : List FidoEvent) : Prop :=
  ∀ before after, es = before ++ .restart :: after → ¬ ∃ e ∈ before, e.sends

/-- The draws so far, thrown away or not. -/
def draws (es : List FidoEvent) : Nat := es.countP FidoEvent.draws

theorem NoRestartBetween.init {es : List FidoEvent} {e : FidoEvent}
    (h : NoRestartBetween (es ++ [e])) : NoRestartBetween es := by
  rintro before after rfl ⟨hbefore, e', hmem, hsends⟩
  refine h before (after ++ [e]) (by simp) ⟨hbefore, e', ?_, hsends⟩
  exact List.mem_append_left _ hmem

theorem Fresh.init {es : List FidoEvent} {e : FidoEvent} (h : Fresh (es ++ [e])) : Fresh es := by
  rintro before after rfl
  exact h before (after ++ [e]) (by simp)

/-- When a response is sent after others, all of them are of this life of the device. -/
theorem NoRestartBetween.fresh {es : List FidoEvent} {e : FidoEvent}
    (h : NoRestartBetween (es ++ [e])) (hsends : e.sends) : Fresh es := by
  rintro before after rfl hbefore
  exact h before (after ++ [e]) (by simp) ⟨hbefore, e, by simp, hsends⟩

/-- What holds after a run: the counter has gone up by the draws `n` of this life, the counters
    sent increase and come from responses, and those of this life are at most `n`. -/
structure CountInv (es : List FidoEvent) (s : FidoCount) (n : Nat) : Prop where
  count : s.count = UInt32.ofNat (n + 1)
  bound : n ≤ draws es
  from_sends : s.sent ≠ [] → ∃ e ∈ es, e.sends
  increasing : s.sent.Pairwise (· < ·)
  below : Fresh es → ∀ c ∈ s.sent, c.toNat ≤ n

theorem draws_append (es : List FidoEvent) (e : FidoEvent) :
    draws (es ++ [e]) = draws es + if e.draws then 1 else 0 := by
  unfold draws
  rw [List.countP_append, List.countP_singleton]

theorem CountInv.start : CountInv [] FidoCount.start 0 := by
  refine ⟨rfl, Nat.le_refl _, fun h => absurd rfl h, List.Pairwise.nil, ?_⟩
  intro _ c hc
  cases hc

/-- A restart sets the counter back; the responses before it are of an earlier life. -/
theorem CountInv.restart {es : List FidoEvent} {s : FidoCount} {n : Nat} (h : CountInv es s n) :
    CountInv (es ++ [.restart]) (s.step .restart) 0 := by
  refine ⟨rfl, Nat.zero_le _, ?_, h.increasing, ?_⟩
  · intro hne
    obtain ⟨e, hmem, hsends⟩ := h.from_sends hne
    exact ⟨e, List.mem_append_left _ hmem, hsends⟩
  · intro hfresh c hc
    exact absurd (h.from_sends (List.ne_nil_of_mem hc)) (hfresh es [] rfl)

theorem CountInv.idle {es : List FidoEvent} {s : FidoCount} {n : Nat} {e : FidoEvent}
    (h : CountInv es s n) (hdraws : ¬ e.draws) (hrestart : e ≠ .restart) :
    CountInv (es ++ [e]) (s.step e) n := by
  rw [FidoCount.step_of_not_draws hdraws hrestart]
  refine ⟨h.count, ?_, ?_, h.increasing, fun hfresh => h.below hfresh.init⟩
  · rw [draws_append]
    exact Nat.le_add_right_of_le h.bound
  · intro hne
    obtain ⟨e', hmem, hsends⟩ := h.from_sends hne
    exact ⟨e', List.mem_append_left _ hmem, hsends⟩

/-- A draw takes a counter above all that were sent in this life. -/
theorem CountInv.draw {es : List FidoEvent} {s : FidoCount} {n : Nat} {e : FidoEvent}
    (h : CountInv es s n) (hdraws : e.draws) (hlt : n + 1 < 2 ^ 32)
    (hcond : NoRestartBetween (es ++ [e])) : CountInv (es ++ [e]) (s.step e) (n + 1) := by
  have hval : s.count.toNat = n + 1 := by
    rw [h.count, UInt32.toNat_ofNat_of_lt' hlt]
  have hne : s.count ≠ 0 := by
    intro hzero
    rw [hzero] at hval
    cases hval
  rw [FidoCount.step_of_draws hdraws hne]
  have hcount : s.count + 1 = UInt32.ofNat (n + 1 + 1) := by
    rw [h.count, UInt32.ofNat_add (n + 1) 1]
    rfl
  have hbound : n + 1 ≤ draws (es ++ [e]) := by
    rw [draws_append, if_pos hdraws]
    exact Nat.succ_le_succ h.bound
  by_cases hsends : e.sends
  · simp only [hsends, if_true]
    have hbelow := h.below (hcond.fresh hsends)
    refine ⟨hcount, hbound, fun _ => ⟨e, by simp, hsends⟩, ?_, ?_⟩
    · rw [List.pairwise_append]
      refine ⟨h.increasing, List.pairwise_singleton _ _, ?_⟩
      intro c hc c' hc'
      rw [List.mem_singleton.mp hc', UInt32.lt_iff_toNat_lt, hval]
      exact Nat.lt_succ_of_le (hbelow c hc)
    · intro _ c hc
      rcases List.mem_append.mp hc with hc | hc
      · exact Nat.le_succ_of_le (hbelow c hc)
      · rw [List.mem_singleton.mp hc]
        exact Nat.le_of_eq hval
  · simp only [if_neg hsends]
    refine ⟨hcount, hbound, ?_, h.increasing, ?_⟩
    · intro hne
      obtain ⟨e', hmem, hsends'⟩ := h.from_sends hne
      exact ⟨e', List.mem_append_left _ hmem, hsends'⟩
    · intro hfresh c hc
      exact Nat.le_succ_of_le (h.below hfresh.init c hc)

/-- The invariant holds along every run without a restart between responses. -/
theorem countInv_run {es : List FidoEvent} (hlt : draws es < 2 ^ 32)
    (hcond : NoRestartBetween es) : ∃ n, CountInv es (FidoCount.run es) n := by
  induction es using List.reverseRecOn with
  | nil => exact ⟨0, CountInv.start⟩
  | append_singleton es e ih =>
    rw [draws_append] at hlt
    obtain ⟨n, hinv⟩ := ih (Nat.lt_of_le_of_lt (Nat.le_add_right _ _) hlt) hcond.init
    rw [FidoCount.run_append]
    by_cases hdraws : e.draws
    · rw [if_pos hdraws] at hlt
      exact ⟨n + 1, hinv.draw hdraws
        (Nat.lt_of_le_of_lt (Nat.succ_le_succ hinv.bound) hlt) hcond⟩
    · by_cases hrestart : e = .restart
      · subst hrestart
        exact ⟨0, hinv.restart⟩
      · exact ⟨n, hinv.idle hdraws hrestart⟩

/-! ### Restarts break the order -/

/-- While the counter has not gone round, it is the number of draws of this life plus one, and no
    response carries 0. -/
theorem sent_ne_zero {es : List FidoEvent} (hlt : draws es < 2 ^ 32) :
    (∃ n ≤ draws es, (FidoCount.run es).count = UInt32.ofNat (n + 1)) ∧
      ∀ c ∈ (FidoCount.run es).sent, c ≠ 0 := by
  induction es using List.reverseRecOn with
  | nil =>
    refine ⟨⟨0, Nat.le_refl _, rfl⟩, ?_⟩
    intro c hc
    cases hc
  | append_singleton es e ih =>
    rw [draws_append] at hlt ⊢
    obtain ⟨⟨n, hn, hcount⟩, hsent⟩ := ih (Nat.lt_of_le_of_lt (Nat.le_add_right _ _) hlt)
    rw [FidoCount.run_append]
    by_cases hdraws : e.draws
    · rw [if_pos hdraws] at hlt ⊢
      have hne : (FidoCount.run es).count ≠ 0 := by
        intro hzero
        have hval := congrArg UInt32.toNat hcount
        rw [UInt32.toNat_ofNat_of_lt' (Nat.lt_of_le_of_lt (Nat.succ_le_succ hn) hlt), hzero] at hval
        cases hval
      rw [FidoCount.step_of_draws hdraws hne]
      refine ⟨⟨n + 1, Nat.succ_le_succ hn, ?_⟩, ?_⟩
      · change (FidoCount.run es).count + 1 = _
        rw [hcount, UInt32.ofNat_add (n + 1) 1]
        rfl
      · intro c hc
        dsimp only at hc
        split at hc
        · rcases List.mem_append.mp hc with hc | hc
          · exact hsent c hc
          · rw [List.mem_singleton.mp hc]
            exact hne
        · exact hsent c hc
    · rw [if_neg hdraws]
      by_cases hrestart : e = .restart
      · subst hrestart
        exact ⟨⟨0, Nat.zero_le _, rfl⟩, hsent⟩
      · rw [FidoCount.step_of_not_draws hdraws hrestart]
        exact ⟨⟨n, hn, hcount⟩, hsent⟩

namespace FidoCount

theorem sent_step (s : FidoCount) (e : FidoEvent) : ∃ cs, (s.step e).sent = s.sent ++ cs := by
  have hrespond : ∀ (withData : Bool) (c : Option UInt32) (count : UInt32),
      ∃ cs, (respond withData c { s with count }).sent = s.sent ++ cs := by
    intro withData c count
    cases withData with
    | false => exact ⟨[], (List.append_nil _).symm⟩
    | true => exact ⟨c.toList, rfl⟩
  cases e with
  | restart => exact ⟨[], (List.append_nil _).symm⟩
  | cbor cmd k =>
    dsimp only [step, processCbor]
    obtain ⟨status, c, count⟩ := ctapRequest cmd k s.count
    dsimp only
    generalize (if ¬ k.randServed ∧ status = CTAP1_ERR_SUCCESS then CTAP2_ERR_PROCESSING
      else status) = status'
    split
    · exact ⟨[], (List.append_nil _).symm⟩
    · split
      · exact ⟨[], (List.append_nil _).symm⟩
      · exact hrespond _ _ _
  | msg k =>
    simp only [step, processMsg]
    split
    · exact ⟨[], (List.append_nil _).symm⟩
    · exact hrespond _ _ _

/-- What was sent stays sent. -/
theorem sent_foldl (es : List FidoEvent) (s : FidoCount) :
    ∃ cs, (es.foldl step s).sent = s.sent ++ cs := by
  induction es generalizing s with
  | nil => exact ⟨[], (List.append_nil _).symm⟩
  | cons e es ih =>
    obtain ⟨cs, hstep⟩ := s.sent_step e
    obtain ⟨cs', hrest⟩ := ih (s.step e)
    refine ⟨cs ++ cs', ?_⟩
    rw [List.foldl_cons, hrest, hstep, List.append_assoc]

/-- After a restart the counter waits for the first draw. -/
theorem foldl_of_not_draws {es : List FidoEvent} (h : ∀ e ∈ es, ¬ e.draws) (s : FidoCount)
    (hcount : s.count = start.count) : es.foldl step s = s := by
  induction es with
  | nil => rfl
  | cons e es ih =>
    have hstep : s.step e = s := by
      by_cases hrestart : e = .restart
      · subst hrestart
        simp only [step, ← hcount]
      · exact step_of_not_draws (h e List.mem_cons_self) hrestart
    rw [List.foldl_cons, hstep]
    exact ih fun e' hmem => h e' (List.mem_cons_of_mem _ hmem)

end FidoCount

/-- A response of a run is a counter that was sent. -/
theorem sent_ne_nil {es : List FidoEvent} (hlt : draws es < 2 ^ 32) (h : ∃ e ∈ es, e.sends) :
    (FidoCount.run es).sent ≠ [] := by
  obtain ⟨e, hmem, hsends⟩ := h
  obtain ⟨before, after, rfl⟩ := List.append_of_mem hmem
  have hdraws : e.draws := by
    rw [FidoEvent.sends, Bool.and_eq_true] at hsends
    exact hsends.1
  have hlt' : draws (before ++ [e]) < 2 ^ 32 := by
    have hadd : draws (before ++ e :: after) = draws (before ++ [e]) + draws after := by
      rw [List.append_cons]
      exact List.countP_append
    rw [hadd] at hlt
    exact Nat.lt_of_le_of_lt (Nat.le_add_right _ _) hlt
  have hne : (FidoCount.run before).count ≠ 0 := by
    rw [draws_append, if_pos hdraws] at hlt'
    obtain ⟨⟨n, hn, hcount⟩, -⟩ := sent_ne_zero (Nat.lt_of_succ_lt hlt')
    intro hzero
    have hval := congrArg UInt32.toNat hcount
    rw [UInt32.toNat_ofNat_of_lt' (Nat.lt_of_le_of_lt (Nat.succ_le_succ hn) hlt'), hzero] at hval
    cases hval
  obtain ⟨cs, hrest⟩ := FidoCount.sent_foldl after ((FidoCount.run before).step e)
  have hrun : (FidoCount.run (before ++ e :: after)).sent =
      (FidoCount.run before).sent ++ [(FidoCount.run before).count] ++ cs := by
    unfold FidoCount.run at hrest ⊢
    rw [List.foldl_append, List.foldl_cons, hrest]
    congr 1
    change ((FidoCount.run before).step e).sent = _
    rw [FidoCount.step_of_draws hdraws hne, if_pos hsends]
    rfl
  rw [hrun]
  simp

/-- The first response after a restart carries 1 again, if what was drawn before it was sent. -/
theorem not_increasing_of_restart {before after : List FidoEvent}
    (hlt : draws (before ++ .restart :: after) < 2 ^ 32)
    (hcompletes : ∀ e ∈ after, e.draws → e.completes) (hbefore : ∃ e ∈ before, e.sends)
    (hafter : ∃ e ∈ after, e.sends) :
    ¬ (FidoCount.run (before ++ .restart :: after)).sent.Pairwise (· < ·) := by
  have hsome : (after.find? FidoEvent.draws).isSome := by
    obtain ⟨e, hmem, hsends⟩ := hafter
    rw [List.find?_isSome]
    rw [FidoEvent.sends, Bool.and_eq_true] at hsends
    exact ⟨e, hmem, hsends.1⟩
  obtain ⟨e, he⟩ := Option.isSome_iff_exists.mp hsome
  obtain ⟨hdraws, p, q, rfl, hnone⟩ := List.find?_eq_some_iff_append.mp he
  have hsends : e.sends := by
    rw [FidoEvent.sends, hdraws, hcompletes e (by simp) hdraws]
    rfl
  have hltb : draws before < 2 ^ 32 := by
    refine Nat.lt_of_le_of_lt ?_ hlt
    unfold draws
    rw [List.countP_append]
    exact Nat.le_add_right _ _
  have hne := sent_ne_nil hltb hbefore
  have hzero := (sent_ne_zero hltb).2
  set s₁ := FidoCount.run before with hs₁
  have hp : p.foldl FidoCount.step (s₁.step .restart) = s₁.step .restart :=
    FidoCount.foldl_of_not_draws (fun e hmem hd => by simpa [hd] using hnone e hmem) _ rfl
  have hstep : (s₁.step .restart).step e = ⟨1 + 1, s₁.sent ++ [1]⟩ := by
    have hone : (1 : UInt32) ≠ 0 := by decide
    rw [FidoCount.step_of_draws hdraws hone, if_pos hsends]
    rfl
  obtain ⟨cs, hrest⟩ := FidoCount.sent_foldl q ((s₁.step .restart).step e)
  have hrun : (FidoCount.run (before ++ .restart :: (p ++ e :: q))).sent =
      s₁.sent ++ [1] ++ cs := by
    have hfold : FidoCount.run (before ++ .restart :: (p ++ e :: q)) =
        q.foldl FidoCount.step ((p.foldl FidoCount.step (s₁.step .restart)).step e) := by
      simp only [FidoCount.run, List.foldl_append, List.foldl_cons, hs₁]
    rw [hfold, hp, hrest, hstep]
  rw [hrun]
  intro hincreasing
  obtain ⟨c, cs', hcons⟩ := List.exists_cons_of_ne_nil hne
  have hmem : c ∈ s₁.sent := by
    rw [hcons]
    exact List.mem_cons_self
  have hfirst := (List.pairwise_append.mp hincreasing).1
  have hlt₁ := (List.pairwise_append.mp hfirst).2.2 c hmem 1 (by simp)
  apply hzero c hmem
  rw [UInt32.lt_iff_toNat_lt] at hlt₁
  exact UInt32.toNat_inj.mp (Nat.lt_one_iff.mp hlt₁)

/-- **Without a restart between two counted responses the counters that are sent increase
    strictly; if no draw is thrown away, only then.** -/
theorem counters_increase_iff {es : List FidoEvent} (hlt : draws es < 2 ^ 32) :
    (NoRestartBetween es → (FidoCount.run es).sent.Pairwise (· < ·)) ∧
      ((∀ e ∈ es, e.draws → e.completes) →
        ((FidoCount.run es).sent.Pairwise (· < ·) ↔ NoRestartBetween es)) := by
  have hsuff : NoRestartBetween es → (FidoCount.run es).sent.Pairwise (· < ·) := by
    intro hcond
    obtain ⟨n, hinv⟩ := countInv_run hlt hcond
    exact hinv.increasing
  refine ⟨hsuff, ?_⟩
  intro hcompletes
  refine ⟨?_, hsuff⟩
  rintro hincreasing before after rfl ⟨hbefore, hafter⟩
  refine not_increasing_of_restart hlt ?_ hbefore hafter hincreasing
  intro e hmem
  exact hcompletes e (by simp [hmem])

/-- An assertion that is answered. -/
def answeredAssertion : FidoEvent := .cbor .getAssertion ⟨0, 0, true⟩

/-- Two assertions, the second of them executed twice because random numbers were missing. -/
theorem counters_increase_twice :
    draws [answeredAssertion, .cbor .getAssertion ⟨0, 0, false⟩, answeredAssertion] < 2 ^ 32 ∧
      (FidoCount.run [answeredAssertion, .cbor .getAssertion ⟨0, 0, false⟩,
        answeredAssertion]).sent.Pairwise (· < ·) := by
  have hlt : draws [answeredAssertion, .cbor .getAssertion ⟨0, 0, false⟩, answeredAssertion] <
      2 ^ 32 := by decide
  refine ⟨hlt, (counters_increase_iff hlt).1 ?_⟩
  intro before after h
  have hmem : FidoEvent.restart ∈ [answeredAssertion, .cbor .getAssertion ⟨0, 0, false⟩,
      answeredAssertion] := by
    rw [h]
    simp
  simp [answeredAssertion] at hmem

/-- Two assertions with a restart between them carry the same counter. -/
theorem restart_repeats_counter :
    ¬ ∀ es : List FidoEvent, (FidoCount.run es).sent.length < 2 ^ 32 →
      (FidoCount.run es).sent.Pairwise (· < ·) := by
  intro h
  have hsent : (FidoCount.run [answeredAssertion, .restart, answeredAssertion]).sent = [1, 1] := by
    decide
  have hpair := h [answeredAssertion, .restart, answeredAssertion] (by rw [hsent]; decide)
  rw [hsent] at hpair
  exact absurd hpair (by decide)

end SignetBase.FirmwareHc
