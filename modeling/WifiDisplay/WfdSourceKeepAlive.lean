import Mathlib.Data.List.TakeWhile
import WifiDisplay.GuardedRuns
import WifiDisplay.WfdSourceSession

/-! The source that watches, after PLAY, whether its M16 requests are answered. -/

namespace WifiDisplay

inductive KeepAliveEvent where
  | tick
  | response (response : RtspResponse)
  | request (request : RtspRequest)

/-- A tick of the timer: the CSeq of its M16, when it sent one, and whether a response with that
CSeq came before the next tick. -/
structure KeepAliveTick where
  m16 : Option (BitVec 16)
  answered : Bool := false

/-- The source with the ticks since PLAY, the last one first. -/
structure KeepAlive where
  app : SourceApp
  ticks : List KeepAliveTick := []

namespace KeepAlive

variable (k : KeepAlive)

/-- The tick tells the agent of an error. -/
def Reports : Prop := k.app.sendM16Request.log = k.app.log ++ [.serviceError]

instance : Decidable k.Reports := inferInstanceAs (Decidable (_ = _))

/-- Every one of the previous ticks' M16 requests got no response in time. -/
def Overdue : Prop :=
  maxRtspTimeoutCounts ≤ k.ticks.length ∧ ∀ t ∈ k.ticks.take maxRtspTimeoutCounts, t.answered = false

def newTick (a : SourceApp) : KeepAliveTick :=
  { m16 := if a.rtspTimeoutCounts = 0 ∨ ¬ a.rtspServer then none else some (a.cseq + 1) }

/-- A response can only answer the M16 of the last tick in time. -/
def answer (cSeq : Int) : List KeepAliveTick → List KeepAliveTick
  | [] => []
  | t :: ticks => { t with answered := t.answered || t.m16.any fun c => cSeq = c.toNat } :: ticks

def step (k : KeepAlive) : KeepAliveEvent → Except Fault KeepAlive
  | .tick => .ok { app := k.app.sendM16Request, ticks := newTick k.app :: k.ticks }
  | .response response => do
    let app ← k.app.handleResponse response
    pure { app, ticks := answer response.cSeq k.ticks }
  | .request request => .ok { k with app := k.app.handleRequest request }

/-- A tick reports exactly when the M16 requests before it are overdue; a peer that answers every
one of them is not reported. -/
structure Supervised : Prop where
  reports : k.Reports ↔ k.Overdue
  answering : (∀ t ∈ k.ticks, t.m16.isSome → t.answered = true) → ¬ k.Reports

/-- The source as PLAY leaves it. -/
structure Playing (a : SourceApp) : Prop where
  state : a.wfdState = .m7
  server : a.rtspServer = true
  counts : a.rtspTimeoutCounts = maxRtspTimeoutCounts

/-- No OPTIONS is answered; no response refuses the PLAY that a SETUP makes the source wait for;
and none has the CSeq of the last M16 once a tick has reported. -/
def KeepsSupervision (k : KeepAlive) : KeepAliveEvent → Prop
  | .tick => True
  | .response response => response.cSeq = k.app.cseq.toNat →
      (k.app.wfdState = .m7Wait → response.status = rtspStatusOk) ∧ ∀ t ∈ k.ticks.head?, t.m16.isSome
  | .request request => request.method = "OPTIONS".toList → (k.app.network.headD {}).ok = false

instance (k : KeepAlive) (event : KeepAliveEvent) : Decidable (k.KeepsSupervision event) := by
  cases event <;> unfold KeepsSupervision <;> infer_instance

/-- The ticks since the last answer. -/
def unanswered : List KeepAliveTick := k.ticks.takeWhile (!·.answered)

/-- The counter counts the ticks without an answer, as far as it goes; the first of them sent an
M16, and `cseq_` is that of the last M16. -/
structure Counting : Prop where
  state : k.app.wfdState = .m7 ∨ k.app.wfdState = .m7Wait
  server : k.app.rtspServer = true
  counts : k.app.rtspTimeoutCounts = maxRtspTimeoutCounts - k.unanswered.length
  first : k.unanswered ≠ [] → ∃ t ∈ k.unanswered, t.m16.isSome
  cseq : ∀ t ∈ k.ticks.head?, ∀ c ∈ t.m16, k.app.cseq = c

variable {k}

theorem takeWhile_eq_take_iff {α : Type*} {p : α → Bool} {l : List α} {n : ℕ} :
    n ≤ (l.takeWhile p).length ↔ n ≤ l.length ∧ ∀ x ∈ l.take n, p x = true := by
  induction l generalizing n with
  | nil => simp
  | cons x l ih =>
    cases n with
    | zero => simp
    | succ n =>
      rw [List.takeWhile_cons]
      cases hp : p x with
      | false => simp [hp]
      | true => simp [hp, ih]

theorem overdue_iff : k.Overdue ↔ maxRtspTimeoutCounts ≤ k.unanswered.length := by
  rw [Overdue, unanswered, takeWhile_eq_take_iff]
  simp only [Bool.not_eq_true']

theorem reports_iff : k.Reports ↔ k.app.rtspTimeoutCounts = 0 := by
  rw [Reports, SourceApp.sendM16Request]
  split
  · rename_i hzero
    exact iff_of_true rfl hzero
  · rename_i hpos
    have hne : k.app.log ≠ k.app.log ++ [.serviceError] := by simp
    split
    · exact iff_of_false hne hpos
    · exact iff_of_false hne hpos

theorem Counting.watched (h : k.Counting) : k.Supervised := by
  have hcounts : k.Reports ↔ maxRtspTimeoutCounts ≤ k.unanswered.length := by
    rw [reports_iff, h.counts, Nat.sub_eq_zero_iff_le]
  refine ⟨hcounts.trans overdue_iff.symm, fun hanswered hreports => ?_⟩
  have hlong := hcounts.mp hreports
  have hne : k.unanswered ≠ [] := by
    rintro hnil
    rw [hnil] at hlong
    exact absurd hlong (by decide)
  obtain ⟨t, ht, hm16⟩ := h.first hne
  have hyes := hanswered t ((List.takeWhile_sublist _).subset ht) hm16
  have hno := List.mem_takeWhile_imp ht
  rw [hyes] at hno
  cases hno

/-! The steps. -/

theorem Counting.tick (h : k.Counting) :
    Counting { app := k.app.sendM16Request, ticks := newTick k.app :: k.ticks } := by
  have hunanswered : unanswered { app := k.app.sendM16Request, ticks := newTick k.app :: k.ticks } =
      newTick k.app :: k.unanswered := List.takeWhile_cons_of_pos rfl
  have hcounts := h.counts
  by_cases hzero : k.app.rtspTimeoutCounts = 0
  · have happ : k.app.sendM16Request = k.app.note .serviceError := by
      rw [SourceApp.sendM16Request, if_pos hzero]
    have htick : newTick k.app = { m16 := none } := by rw [newTick, if_pos (.inl hzero)]
    refine ⟨?_, ?_, ?_, fun _ => ?_, ?_⟩
    · rw [happ]
      exact h.state
    · rw [happ]
      exact h.server
    · rw [hunanswered, List.length_cons]
      change k.app.sendM16Request.rtspTimeoutCounts = _
      rw [happ]
      change k.app.rtspTimeoutCounts = _
      omega
    · have hne : k.unanswered ≠ [] := by
        intro hnil
        rw [hzero, hnil] at hcounts
        exact absurd hcounts (by decide)
      obtain ⟨t, ht, hm16⟩ := h.first hne
      exact ⟨t, hunanswered ▸ List.mem_cons_of_mem _ ht, hm16⟩
    · simp [htick]
  · have hserver := h.server
    have htick : newTick k.app = { m16 := some (k.app.cseq + 1) } := by
      rw [newTick, if_neg (by simp [hzero, hserver])]
    have happ : k.app.sendM16Request.wfdState = k.app.wfdState ∧
        k.app.sendM16Request.rtspServer = k.app.rtspServer ∧
        k.app.sendM16Request.rtspTimeoutCounts = k.app.rtspTimeoutCounts - 1 ∧
        k.app.sendM16Request.cseq = k.app.cseq + 1 := by
      rw [SourceApp.sendM16Request, if_neg hzero, if_neg (by simp [hserver])]
      exact ⟨rfl, rfl, rfl, rfl⟩
    obtain ⟨hstate, hsame, hless, hnext⟩ := happ
    refine ⟨?_, ?_, ?_, fun _ => ?_, ?_⟩
    · change k.app.sendM16Request.wfdState = _ ∨ k.app.sendM16Request.wfdState = _
      rw [hstate]
      exact h.state
    · exact hsame.trans hserver
    · rw [hunanswered, List.length_cons]
      change k.app.sendM16Request.rtspTimeoutCounts = _
      omega
    · exact ⟨newTick k.app, hunanswered ▸ List.mem_cons_self, by rw [htick]; rfl⟩
    · intro t ht c hc
      obtain rfl : newTick k.app = t := Option.some.inj ht
      rw [htick] at hc
      exact hnext.trans (Option.some.inj hc)

/-- The counter and `cseq_` stay, and so does the state but for M7 and the waiting for it. -/
structure Settled (a b : SourceApp) : Prop where
  cseq : b.cseq = a.cseq
  server : b.rtspServer = a.rtspServer
  counts : b.rtspTimeoutCounts = a.rtspTimeoutCounts
  state : b.wfdState = a.wfdState ∨ b.wfdState = .m7 ∨ b.wfdState = .m7Wait

theorem settled_sendCommonResponse (a : SourceApp) (cseq : Int) : Settled a (a.sendCommonResponse cseq).2 := by
  rw [SourceApp.sendCommonResponse]
  split
  · exact ⟨rfl, rfl, rfl, .inl rfl⟩
  · exact ⟨rfl, rfl, rfl, .inl rfl⟩

theorem settled_handleOptionRequest {a : SourceApp} (cseq : Int) (hfails : (a.network.headD {}).ok = false) :
    Settled a (a.handleOptionRequest cseq) := by
  have hret : (a.sendM2Response cseq).1 = false ∧ Settled a (a.sendM2Response cseq).2 := by
    rw [SourceApp.sendM2Response]
    split
    · exact ⟨rfl, rfl, rfl, rfl, .inl rfl⟩
    · simp only [SourceApp.send, hfails, Bool.false_eq_true, if_false]
      exact ⟨trivial, rfl, rfl, rfl, .inl rfl⟩
  rw [SourceApp.handleOptionRequest]
  simp only [hret.1, Bool.false_eq_true, if_false]
  exact hret.2

theorem Settled.trans {a b c : SourceApp} (h : Settled a b) (h' : Settled b c) : Settled a c where
  cseq := h'.cseq.trans h.cseq
  server := h'.server.trans h.server
  counts := h'.counts.trans h.counts
  state := by
    rcases h'.state with hsame | hlate
    · rw [hsame]
      exact h.state
    · exact .inr hlate

theorem settled_sendM6Response (a : SourceApp) (cseq : Int) : Settled a (a.sendM6Response cseq).2 := by
  rw [SourceApp.sendM6Response]
  split
  · exact ⟨rfl, rfl, rfl, .inl rfl⟩
  · exact ⟨rfl, rfl, rfl, .inr (.inr rfl)⟩

theorem settled_sendM7Response (a : SourceApp) (cseq : Int) : Settled a (a.sendM7Response cseq).2 := by
  rw [SourceApp.sendM7Response]
  split
  · exact ⟨rfl, rfl, rfl, .inl rfl⟩
  · exact ⟨rfl, rfl, rfl, .inr (.inl rfl)⟩

theorem settled_handleRequest {a : SourceApp} {request : RtspRequest}
    (hok : request.method = "OPTIONS".toList → (a.network.headD {}).ok = false) :
    Settled a (a.handleRequest request) := by
  have hnoted : Settled a (a.note (.request request.method a.wfdState)) := ⟨rfl, rfl, rfl, .inl rfl⟩
  have hnetwork : (a.note (.request request.method a.wfdState)).network = a.network := rfl
  rw [SourceApp.handleRequest]
  generalize a.note (.request request.method a.wfdState) = b at hnoted hnetwork
  refine hnoted.trans ?_
  split
  · rename_i hmethod
    exact settled_handleOptionRequest _ (hnetwork ▸ hok hmethod)
  · split
    · exact settled_sendM6Response b _
    · split
      · have hplays (state : ProsumerState) : Settled b ({ b with prosumerState := state }.note .played) :=
          ⟨rfl, rfl, rfl, .inl rfl⟩
        exact (hplays _).trans (settled_sendM7Response _ _)
      · split
        · have hpauses : Settled b ({ b with prosumerState := .start }.note .prosumerPause) :=
            ⟨rfl, rfl, rfl, .inl rfl⟩
          exact hpauses.trans (settled_sendCommonResponse _ _)
        · split
          · have hstops : Settled b { b.note .prosumerDestroy with prosumerState := .stop } :=
              ⟨rfl, rfl, rfl, .inl rfl⟩
            exact hstops.trans (settled_sendCommonResponse _ _)
          · split
            · rw [SourceApp.handleIDRRequest]
              split
              · exact settled_sendCommonResponse _ _
              · exact ⟨rfl, rfl, rfl, .inl rfl⟩
            · exact ⟨rfl, rfl, rfl, .inl rfl⟩

theorem Counting.settled (h : k.Counting) {b : SourceApp} (hb : Settled k.app b) : Counting { k with app := b } where
  state := by
    rcases hb.state with hsame | hlate
    · change b.wfdState = _ ∨ b.wfdState = _
      rw [hsame]
      exact h.state
    · exact hlate
  server := hb.server.trans h.server
  counts := hb.counts.trans h.counts
  first := h.first
  cseq t ht c hc := hb.cseq.trans (h.cseq t ht c hc)

/-- A response with another CSeq leaves the source and the ticks as they were. -/
theorem Counting.other (h : k.Counting) {response : RtspResponse} (hcseq : response.cSeq ≠ k.app.cseq.toNat) :
    k.step (.response response) = .ok k := by
  have hticks : answer response.cSeq k.ticks = k.ticks := by
    cases hcases : k.ticks with
    | nil => rfl
    | cons t ticks =>
      have hother : (t.m16.any fun c => decide (response.cSeq = c.toNat)) = false := by
        cases hm16 : t.m16 with
        | none => rfl
        | some c =>
          have hlast := h.cseq t (by rw [hcases]; rfl) c hm16
          rw [Option.any_some, ← hlast]
          exact decide_eq_false hcseq
      rw [answer, hother, Bool.or_false]
  rw [step, SourceApp.handleResponse, if_pos hcseq, hticks]
  rfl

/-- A response with the CSeq of the last M16 sets the counter back. -/
theorem Counting.answered (h : k.Counting) {response : RtspResponse} (hcseq : response.cSeq = k.app.cseq.toNat)
    (hplays : k.app.wfdState = .m7Wait → response.status = rtspStatusOk)
    (hm16 : ∀ t ∈ k.ticks.head?, t.m16.isSome) {k' : KeepAlive} (hstep : k.step (.response response) = .ok k') :
    k'.Counting := by
  have hhandled : ∃ b, k.app.handleResponse response = .ok b ∧ b.wfdState = .m7 ∧ b.rtspServer = k.app.rtspServer ∧
      b.rtspTimeoutCounts = maxRtspTimeoutCounts ∧ b.cseq = k.app.cseq := by
    rw [SourceApp.handleResponse, if_neg (not_not.mpr hcseq)]
    rcases h.state with hstate | hstate
    · rw [if_pos (by rw [hstate])]
      dsimp only
      simp only [hstate]
      exact ⟨_, rfl, rfl, rfl, rfl, rfl⟩
    · rw [if_pos (by rw [hstate]; decide)]
      dsimp only
      simp only [hstate]
      refine ⟨_, rfl, ?_⟩
      rw [SourceApp.handleM7Response, if_neg (not_not.mpr (hplays hstate))]
      exact ⟨rfl, rfl, rfl, rfl⟩
  obtain ⟨b, hb, hstate, hserver, hcounts, hsame⟩ := hhandled
  rw [step, hb] at hstep
  cases hstep
  have hhead : unanswered { app := b, ticks := answer response.cSeq k.ticks } = [] ∧
      ∀ t ∈ (answer response.cSeq k.ticks).head?, ∀ c ∈ t.m16, b.cseq = c := by
    cases hticks : k.ticks with
    | nil => exact ⟨rfl, fun t ht => by cases ht⟩
    | cons t ticks =>
      have ht : t ∈ k.ticks.head? := by rw [hticks]; rfl
      obtain ⟨c, hc⟩ := Option.isSome_iff_exists.mp (hm16 t ht)
      have hlast := h.cseq t ht c hc
      have hsome : (t.m16.any fun c => decide (response.cSeq = c.toNat)) = true := by
        rw [hc, Option.any_some, ← hlast]
        exact decide_eq_true hcseq
      rw [answer, hsome, Bool.or_true]
      refine ⟨List.takeWhile_cons_of_neg (by simp), fun t' ht' c' hc' => ?_⟩
      obtain rfl := Option.some.inj ht'
      exact hsame.trans (h.cseq t ht c' hc')
  refine ⟨.inl hstate, hserver.trans h.server, ?_, fun hne => absurd hhead.1 hne, hhead.2⟩
  rw [hhead.1]
  exact hcounts

theorem Counting.step (h : k.Counting) {event : KeepAliveEvent} (hok : k.KeepsSupervision event) {k' : KeepAlive}
    (hstep : k.step event = .ok k') : k'.Counting := by
  cases event with
  | tick =>
    cases hstep
    exact h.tick
  | response response =>
    by_cases hcseq : response.cSeq = k.app.cseq.toNat
    · obtain ⟨hplays, hm16⟩ := hok hcseq
      exact h.answered hcseq hplays hm16 hstep
    · rw [h.other hcseq] at hstep
      cases hstep
      exact h
  | request request =>
    cases hstep
    exact h.settled (settled_handleRequest hok)

theorem Playing.counting {a : SourceApp} (h : Playing a) : Counting { app := a } where
  state := .inl h.state
  server := h.server
  counts := h.counts
  first hne := absurd rfl hne
  cseq t ht := by cases ht

theorem playing_sendM7Response {a : SourceApp} (hserver : a.rtspServer = true)
    (hcounts : a.rtspTimeoutCounts = maxRtspTimeoutCounts) (cseq : Int) : Playing (a.sendM7Response cseq).2 := by
  rw [SourceApp.sendM7Response, if_neg (not_not.mpr hserver)]
  exact ⟨rfl, hserver, hcounts⟩

/-- PLAY of a source that no tick has counted yet. -/
theorem playing_handlePlayRequest {a : SourceApp} (hserver : a.rtspServer = true)
    (hcounts : a.rtspTimeoutCounts = maxRtspTimeoutCounts) (cseq : Int) : Playing (a.handlePlayRequest cseq) := by
  rw [SourceApp.handlePlayRequest]
  apply playing_sendM7Response
  · exact hserver
  · exact hcounts

/-- In the runs after PLAY whose steps all meet the condition, the ticks report exactly the overdue
M16 requests. -/
theorem supervised {a : SourceApp} (ha : Playing a) {events : List KeepAliveEvent}
    (run : GuardedRun step KeepsSupervision { app := a } events k) : k.Supervised :=
  Counting.watched (run.invariant ha.counting fun _ _ _ h hok hstep => h.step hok hstep)

/-- A source that plays; `cseq` was its last request. -/
def playingFrom (cseq : BitVec 16) : SourceApp := { wfdState := .m7, rtspServer := true, cseq }

def plainResponse (cSeq : Int) : KeepAliveEvent := .response { cSeq, status := rtspStatusOk }

/-- Two M16 are answered, with the CSeq going around between them, and three are not. -/
theorem supervised_silence :
    ∃ k, GuardedRun step KeepsSupervision { app := playingFrom 65534 }
      [.tick, plainResponse 65535, .tick, plainResponse 0, .tick, .tick, .tick] k ∧ k.Supervised ∧ k.Reports := by
  have hrun : ((GuardedRun.check step KeepsSupervision { app := playingFrom 65534 }
      [.tick, plainResponse 65535, .tick, plainResponse 0, .tick, .tick, .tick]).any
        fun k => decide k.Reports) = true := by decide +kernel
  obtain ⟨k, hk, hreports⟩ := (Option.any_eq_true _ _).mp hrun
  have hplaying : Playing (playingFrom 65534) := ⟨rfl, rfl, rfl⟩
  exact ⟨k, GuardedRun.of_check hk, supervised hplaying (GuardedRun.of_check hk), of_decide_eq_true hreports⟩

/-- A sink that goes through M2 to M5 again while it plays. -/
def handshakeAgain : List KeepAliveEvent :=
  [.request { method := "OPTIONS".toList },
    .response { cSeq := 5, status := rtspStatusOk, body := [field wfdParamVideoFormats
      (WfdRtspM3Response.videoFormatsText 0 2 16 1)] },
    plainResponse 6, plainResponse 7]

/-- It answers every M16, and is reported. -/
theorem handshakeAgain_not_supervised :
    ¬ ∀ a, Playing a → ∀ events k, GuardedRun step (fun _ _ => True) { app := a } events k → k.Supervised := by
  intro h
  have hrun : ((GuardedRun.check step (fun _ _ => True) { app := playingFrom 4 }
      (handshakeAgain ++ [.tick, plainResponse 8, .tick, plainResponse 9, .tick, plainResponse 10])).any
        fun k => decide (k.Reports ∧ ∀ t ∈ k.ticks, t.answered = true)) = true := by decide +kernel
  obtain ⟨k, hk, hboth⟩ := (Option.any_eq_true _ _).mp hrun
  obtain ⟨hreports, hall⟩ := of_decide_eq_true hboth
  have hplaying : Playing (playingFrom 4) := ⟨rfl, rfl, rfl⟩
  exact (h _ hplaying _ k (GuardedRun.of_check hk)).answering (fun t ht _ => hall t ht) hreports

end KeepAlive

end WifiDisplay
