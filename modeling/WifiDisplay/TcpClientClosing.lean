import Mathlib.Data.Fintype.Basic
import WifiDisplay.TcpClient

/-! Runs of the client whose steps are orderly: nobody locks `mutex_` twice, the client goes
unlocked, and every descriptor is closed once, with no read behind it. -/

namespace WifiDisplay

namespace TcpClient

namespace State

variable {ι : Type} {s : State ι}

def sends : Call → Bool
  | .send | .disconnect .send => true
  | _ => false

/-- The holder of `mutex_` owns the client in `OnShutdown`. -/
def answers : Option (Thread ι × Section) → Bool
  | some (_, .onClientClose) | some (_, .onShutdown) => true
  | _ => false

attribute [grind] Call.locks Call.connects Call.disconnects Call.endsSession Reading.isPast
  Reading.isReceiving Reading.isDelivering Reading.fd Closing sends answers

/-- What is so while a thread is in a call. -/
@[grind cases]
structure Placed (s : State ι) : Prop where
  connecting : ∀ t, (s.call t).connects → t ≠ .reader ∧ s.reading = .outside ∧
    s.listened = none ∧ s.sessionAlive ∧ (s.rtspClient → s.socket ≠ none)
  sending : ∀ t, sends (s.call t) → (t = .reader → s.reading.isDelivering) ∧
    (t ≠ .reader → s.sessionAlive)
  atEnd : ∀ t, s.call t = .disconnect .onClientReadable → t = .reader ∧ s.reading = .disconnecting
  ending : ∀ t, (s.call t).endsSession → (t = .reader → s.reading.isDelivering) ∧
    ¬ s.sessionAlive ∧ s.rtspClient ∧ ∀ i, .session i ≠ t → s.call (.session i) = .outside
  destroying : ∀ t, s.call t = .disconnect .destructor → s.owners = 0 ∧
    ∀ u, u ≠ t → s.call u = .outside
  connectsOnce : ∀ i j, (s.call (.session i)).connects → (s.call (.session j)).connects → i = j

/-- What is so while a thread holds `mutex_`. -/
@[grind cases]
structure Locked (s : State ι) : Prop where
  locks : ∀ t sec, s.mutex = some (t, sec) → (s.call t).locks
  disconnects : ∀ t sec, s.mutex = some (t, sec) → sec ≠ .entered → (s.call t).disconnects
  notDestructor : ∀ t, s.mutex ≠ some (t, .destructor)
  closing : ∀ t sec, s.mutex = some (t, sec) → sec ≠ .entered → s.reading.isPast ∨
    s.call t = .disconnect .sessionDestructor ∨ s.call t = .disconnect .destructor
  answered : ∀ t sec, s.mutex = some (t, sec) → sec = .onShutdown ∨ sec = .resetSocket →
    ¬ (s.sessionAlive ∧ s.rtspClient)
  answering : ∀ t, s.mutex = some (t, .onClientClose) → s.sessionAlive
  readAnswering : s.reading = .onShutdown → s.sessionAlive

@[grind cases]
structure Owned (s : State ι) : Prop where
  owners : s.owners = s.rtspClient.toNat + (if s.reading = .outside then 0 else 1) +
    (answers s.mutex).toNat
  noOwner : s.owners = 0 → s.destroyed ∨ ∃ t, s.call t = .disconnect .destructor
  destroyed : s.destroyed → s.owners = 0 ∧ s.socket = none ∧ ∀ t, s.call t = .outside

@[grind cases]
structure Accounted (s : State ι) : Prop where
  read : ∀ fd, s.reading.fd = some fd ∨ s.listened = some fd →
    s.socket = some (some fd) ∧ fd ∉ s.closed
  nodup : s.closed.Nodup
  closedLt : ∀ fd ∈ s.closed, fd < s.opened
  closedOrKept : ∀ fd < s.opened, fd ∈ s.closed ∨ s.socket = some (some fd)
  socketLt : ∀ fd, s.socket = some (some fd) → fd < s.opened
  socketOpen : ∀ fd, s.socket = some (some fd) → (fd ∈ s.closed ↔ s.Closing)
  socketKept : s.rtspClient → s.sessionAlive → s.reading ≠ .outside → s.socket ≠ none
  notStale : s.staleRead = false

@[grind cases]
structure Kept (s : State ι) : Prop extends Placed s, Locked s, Owned s, Accounted s

/-- A step that closes and opens nothing, after which nobody reads who did not. -/
theorem Accounted.of_same {s' : State ι} (h : Accounted s) (hsocket : s'.socket = s.socket)
    (hclosed : s'.closed = s.closed) (hopened : s'.opened = s.opened) (hstale : s'.staleRead = s.staleRead)
    (hlistened : s'.listened = s.listened) (hclosing : s'.Closing ↔ s.Closing)
    (hfd : ∀ fd, s'.reading.fd = some fd → s.reading.fd = some fd ∨ s.listened = some fd)
    (hkept : s'.rtspClient → s'.sessionAlive → s'.reading ≠ .outside →
      s.rtspClient ∧ s.sessionAlive ∧ s.reading ≠ .outside) : Accounted s' where
  read fd hread := by
    rw [hsocket, hclosed]
    rcases hread with hread | hread
    · exact h.read fd (hfd fd hread)
    · exact h.read fd (.inr (hlistened ▸ hread))
  nodup := hclosed ▸ h.nodup
  closedLt := by
    rw [hclosed, hopened]
    exact h.closedLt
  closedOrKept := by
    rw [hopened, hclosed, hsocket]
    exact h.closedOrKept
  socketLt := by
    rw [hsocket, hopened]
    exact h.socketLt
  socketOpen := by
    rw [hsocket, hclosed, hclosing]
    exact h.socketOpen
  socketKept hrtsp halive hin := by
    obtain ⟨hrtsp', halive', hin'⟩ := hkept hrtsp halive hin
    exact hsocket ▸ h.socketKept hrtsp' halive' hin'
  notStale := hstale ▸ h.notStale

namespace Kept

variable {t u : Thread ι} {sec : Section}

theorem alone_of_noOwner (hk : Kept s) (h0 : s.owners = 0) (ht : s.call t ≠ .outside) :
    s.call t = .disconnect .destructor := by
  rcases hk.noOwner h0 with hd | ⟨u, hu⟩
  · exact absurd ((hk.destroyed hd).2.2 t) ht
  · by_cases htu : t = u
    · rw [htu, hu]
    · exact absurd ((hk.destroying u hu).2 t htu) ht

theorem owners_pos (hk : Kept s) (h : s.rtspClient ∨ s.reading ≠ .outside ∨ answers s.mutex) :
    0 < s.owners := by
  rw [hk.owners]
  rcases h with h | h | h
  · simp only [h, Bool.toNat_true]
    omega
  · simp only [if_neg h]
    omega
  · simp only [h, Bool.toNat_true]
    omega

theorem not_closing_of_connects (hk : Kept s) (ht : (s.call t).connects) : ¬ s.Closing := by
  intro hc
  obtain ⟨⟨u, sec⟩, hm, hsec⟩ := (Option.any_eq_true _ _).mp hc
  obtain ⟨-, hout, -, halive, -⟩ := hk.connecting t ht
  rcases hk.closing u sec hm (by simpa using hsec) with h | h | h
  · rw [hout] at h
    cases h
  · exact (hk.ending u (by rw [h]; rfl)).2.1 halive
  · by_cases htu : t = u
    · rw [htu, h] at ht
      cases ht
    · rw [(hk.destroying u h).2 t htu] at ht
      cases ht

theorem eq_of_connects (hk : Kept s) {i : ι} (hi : (s.call (.session i)).connects)
    (ht : (s.call t).connects) : t = .session i := by
  cases t with
  | reader => exact absurd rfl (hk.connecting _ ht).1
  | session j => rw [hk.connectsOnce j i ht hi]

theorem not_holds_of_outside (hk : Kept s) (ht : s.call t = .outside) :
    s.mutex ≠ some (t, sec) := by
  intro hm
  have := hk.locks t sec hm
  rw [ht] at this
  cases this

/-- The read thread is in a call only while it delivers, meets the end or destroys the client. -/
theorem reader_outside (hk : Kept s) (hd : ¬ s.reading.isDelivering)
    (he : s.reading ≠ .disconnecting) (ho : 0 < s.owners) : s.call .reader = .outside := by
  cases hc : s.call .reader with
  | outside => rfl
  | connect => exact absurd rfl (hk.connecting .reader (by rw [hc]; rfl)).1
  | connectFailed => exact absurd rfl (hk.connecting .reader (by rw [hc]; rfl)).1
  | send => exact absurd ((hk.sending .reader (by rw [hc]; rfl)).1 rfl) hd
  | resetClient => exact absurd ((hk.ending .reader (by rw [hc]; rfl)).1 rfl) hd
  | disconnect caller =>
    cases caller with
    | send => exact absurd ((hk.sending .reader (by rw [hc]; rfl)).1 rfl) hd
    | onClientReadable => exact absurd (hk.atEnd .reader hc).2 he
    | sessionDestructor => exact absurd ((hk.ending .reader (by rw [hc]; rfl)).1 rfl) hd
    | destructor => exact absurd (hk.destroying .reader hc).1 (Nat.pos_iff_ne_zero.mp ho)

variable [DecidableEq ι]

theorem connect (hk : Kept s) (i : ι) (creates : Bool) (he : s.Enabled (.connect i creates))
    (ho : s.Orderly (.connect i creates)) : Kept (s.next (.connect i creates)) := by
  obtain ⟨hrtsp, halive, hcall⟩ := he
  have hsocket : s.socket = none := ho
  have hpos := hk.owners_pos (.inl hrtsp)
  have hout : s.reading = .outside := by
    by_contra hr
    exact hk.socketKept hrtsp halive hr hsocket
  have hfree : s.listened = none := by
    cases hl : s.listened with
    | none => rfl
    | some fd => cases hsocket.symm.trans (hk.read fd (.inr hl)).1
  have hno : ∀ j, ¬ (s.call (.session j)).connects := fun j hj =>
    (hk.connecting _ hj).2.2.2.2 hrtsp hsocket
  have hopen : ¬ s.Closing := by
    intro hc
    obtain ⟨⟨u, sec⟩, hm, hsec⟩ := (Option.any_eq_true _ _).mp hc
    rcases hk.closing u sec hm (by simpa using hsec) with h | h | h
    · rw [hout] at h
      cases h
    · exact (hk.ending u (by rw [h]; rfl)).2.1 halive
    · exact Nat.pos_iff_ne_zero.mp hpos (hk.destroying u h).1
  constructor
  all_goals constructor
  all_goals simp only [next, setCall]
  all_goals grind -linarith [Function.update_apply]

theorem connected (hk : Kept s) (i : ι) (listens : Bool) (he : s.Enabled (.connected i listens)) :
    Kept (s.next (.connected i listens)) := by
  obtain ⟨hcall, hsome⟩ := he
  obtain ⟨fd, hfd⟩ : ∃ fd, s.socket = some (some fd) := by
    cases h : s.socket with
    | none => simp [h] at hsome
    | some fd => cases fd with
      | none => simp [h] at hsome
      | some fd => exact ⟨fd, rfl⟩
  have hjoin : s.socket.join = some fd := by rw [hfd]; rfl
  have hconn : (s.call (.session i)).connects := by rw [hcall]; rfl
  obtain ⟨-, hout, hfree, halive, -⟩ := hk.connecting _ hconn
  have hopen := mt (hk.socketOpen fd hfd).mp (hk.not_closing_of_connects hconn)
  have hother := fun t => hk.eq_of_connects (t := t) hconn
  constructor
  all_goals constructor
  all_goals simp only [next, setCall]
  all_goals grind -linarith [Function.update_apply]

theorem refused (hk : Kept s) (i : ι) (he : s.Enabled (.refused i)) :
    Kept (s.next (.refused i)) := by
  have hcall : s.call (.session i) = .connect := he
  refine ⟨?_, ?_, ?_, hk.toAccounted.of_same rfl rfl rfl rfl rfl Iff.rfl (fun _ => .inl) fun h h' h'' => ⟨h, h', h''⟩⟩
  all_goals constructor
  all_goals simp only [next, setCall]
  all_goals grind -linarith [Function.update_apply]

theorem closeRefused (hk : Kept s) (i : ι) (he : s.Enabled (.closeRefused i)) :
    Kept (s.next (.closeRefused i)) := by
  obtain ⟨hcall, hm⟩ := he
  have hconn : (s.call (.session i)).connects := by rw [hcall]; rfl
  obtain ⟨-, hout, hfree, halive, -⟩ := hk.connecting _ hconn
  have hopen := hk.not_closing_of_connects hconn
  have hother := fun t => hk.eq_of_connects (t := t) hconn
  have hclosed : ∀ fd ∈ s.socket.join, s.socket = some (some fd) := fun _ hfd =>
    Option.join_eq_some_iff.mp hfd
  have hnodup : (s.closed ++ s.socket.join.toList).Nodup := by
    cases hj : s.socket.join with
    | none => simpa using hk.nodup
    | some fd =>
      have hfd := mt (hk.socketOpen fd (hclosed fd hj)).mp hopen
      refine List.nodup_append.mpr ⟨hk.nodup, List.nodup_cons.mpr ⟨by simp, List.nodup_nil⟩, ?_⟩
      rintro a ha b hb rfl
      exact hfd (List.mem_singleton.mp hb ▸ ha)
  have hmem : ∀ fd, fd ∈ s.closed ++ s.socket.join.toList ↔
      fd ∈ s.closed ∨ s.socket = some (some fd) := by
    intro fd
    rw [List.mem_append, Option.mem_toList, Option.join_eq_some_iff]
  constructor
  all_goals constructor
  all_goals simp only [next, setCall, closeFd]
  all_goals grind -linarith [Function.update_apply]

theorem send (hk : Kept s) (t : Thread ι) (he : s.Enabled (.send t)) :
    Kept (s.next (.send t)) := by
  obtain ⟨hrtsp, halive, hcall, hdel⟩ := he
  have hpos := hk.owners_pos (.inl hrtsp)
  refine ⟨?_, ?_, ?_, hk.toAccounted.of_same rfl rfl rfl rfl rfl Iff.rfl (fun _ => .inl) fun h h' h'' => ⟨h, h', h''⟩⟩
  all_goals constructor
  all_goals simp only [next, setCall]
  all_goals grind -linarith [Function.update_apply]

theorem lock (hk : Kept s) (t : Thread ι) (he : s.Enabled (.lock t)) :
    Kept (s.next (.lock t)) := by
  obtain ⟨hlocks, hm⟩ := he
  refine ⟨?_, ?_, ?_, hk.toAccounted.of_same rfl rfl rfl rfl rfl (by simp [Closing, next, hm]) (fun _ => .inl)
    fun h h' h'' => ⟨h, h', h''⟩⟩
  all_goals constructor
  all_goals simp only [next]
  all_goals grind -linarith [Function.update_apply]

theorem sent (hk : Kept s) (t : Thread ι) (fails : Bool) (he : s.Enabled (.sent t fails)) :
    Kept (s.next (.sent t fails)) := by
  obtain ⟨hcall, hm, hfails⟩ := he
  refine ⟨?_, ?_, ?_, hk.toAccounted.of_same rfl rfl rfl rfl rfl (by simp [Closing, next, hm]) (fun _ => .inl)
    fun h h' h'' => ⟨h, h', h''⟩⟩
  all_goals constructor
  all_goals simp only [next, setCall]
  all_goals grind -linarith [Function.update_apply]

theorem afterDisconnect (hk : Kept s) {t : Thread ι} {sec : Section} {caller : Caller}
    (hm : s.mutex = some (t, sec)) (hcall : s.call t = .disconnect caller)
    (hsec : sec = .resetSocket ∨ (sec = .entered ∧ s.socket = none)) :
    Kept ({ s with socket := none, mutex := none }.afterDisconnect t caller) := by
  have hanswers : answers s.mutex = false := by
    rw [hm]
    rcases hsec with rfl | ⟨rfl, -⟩ <;> rfl
  have hclosed : ∀ fd < s.opened, fd ∈ s.closed := by
    intro fd hfd
    rcases hk.closedOrKept fd hfd with h | h
    · exact h
    · rcases hsec with rfl | ⟨-, hnone⟩
      · exact (hk.socketOpen fd h).mpr (by simp [Closing, hm])
      · rw [hnone] at h
        cases h
  have hnotRead : ∀ fd, ¬ (s.reading.fd = some fd ∨ s.listened = some fd) := by
    intro fd h
    obtain ⟨hs, hopen⟩ := hk.read fd h
    exact hopen (hclosed fd (hk.socketLt fd hs))
  have hanswered : s.rtspClient → s.sessionAlive → s.reading = .outside ∧ s.socket = none := by
    intro hrtsp halive
    rcases hsec with rfl | ⟨-, hnone⟩
    · exact absurd ⟨halive, hrtsp⟩ (hk.answered t _ hm (.inr rfl))
    · exact ⟨by_contra fun hin => hk.socketKept hrtsp halive hin hnone, hnone⟩
  have haccounted : Accounted { s with socket := none, mutex := none } :=
    { read := fun fd h => absurd h (hnotRead fd)
      nodup := hk.nodup
      closedLt := hk.closedLt
      closedOrKept := fun fd hfd => .inl (hclosed fd hfd)
      socketLt := nofun
      socketOpen := nofun
      socketKept := fun hrtsp halive hin => absurd (hanswered hrtsp halive).1 hin
      notStale := hk.notStale }
  cases caller with
  | send =>
    refine ⟨?_, ?_, ?_, haccounted.of_same rfl rfl rfl rfl rfl Iff.rfl (fun _ => .inl) fun h h' h'' => ⟨h, h', h''⟩⟩
    all_goals constructor
    all_goals simp only [State.afterDisconnect, setCall]
    all_goals grind -linarith [Function.update_apply]
  | onClientReadable =>
    have hin : s.reading ≠ .outside := by simp [(hk.atEnd t hcall).2]
    refine ⟨?_, ?_, ?_, haccounted.of_same rfl rfl rfl rfl rfl Iff.rfl nofun fun h h' _ => ⟨h, h', hin⟩⟩
    all_goals constructor
    all_goals simp only [State.afterDisconnect, setCall]
    all_goals grind -linarith [Function.update_apply]
  | sessionDestructor =>
    refine ⟨?_, ?_, ?_, haccounted.of_same rfl rfl rfl rfl rfl Iff.rfl (fun _ => .inl) fun h h' h'' => ⟨h, h', h''⟩⟩
    all_goals constructor
    all_goals simp only [State.afterDisconnect, setCall]
    all_goals grind -linarith [Function.update_apply]
  | destructor =>
    refine ⟨?_, ?_, ?_, haccounted.of_same rfl rfl rfl rfl rfl Iff.rfl (fun _ => .inl) fun h h' h'' => ⟨h, h', h''⟩⟩
    all_goals constructor
    all_goals simp only [State.afterDisconnect, setCall]
    all_goals grind -linarith [Function.update_apply]

theorem close (hk : Kept s) (t : Thread ι) (he : s.Enabled (.close t)) (ho : s.Orderly (.close t)) :
    Kept (s.next (.close t)) := by
  obtain ⟨hdis, hm, hlistener⟩ := he
  obtain ⟨caller, hc⟩ : ∃ caller, s.call t = .disconnect caller := by
    cases hc : s.call t with
    | disconnect caller => exact ⟨caller, rfl⟩
    | _ => rw [hc] at hdis; cases hdis
  cases hs : s.socket with
  | none =>
    simp only [next, State.close, hc, hs]
    exact hk.afterDisconnect hm hc (.inr ⟨rfl, hs⟩)
  | some fd =>
    have hnc : ¬ s.Closing := by simp [Closing, hm]
    have hopen : ∀ fd', s.socket = some (some fd') → fd' ∉ s.closed := fun fd' h =>
      mt (hk.socketOpen fd' h).mp hnc
    have hfd : s.reading.fd = none := by
      rcases ho (by simp [hs]) with h | ⟨h, -⟩
      · cases hr : s.reading <;> simp_all [Reading.isPast, Reading.fd]
      · rw [h]
        rfl
    have hclosing : s.reading.isPast ∨ s.call t = .disconnect .sessionDestructor ∨
        s.call t = .disconnect .destructor := by
      rcases ho (by simp [hs]) with h | ⟨hout, hno⟩
      · exact .inl h
      · right
        cases caller with
        | sessionDestructor => exact .inl hc
        | destructor => exact .inr hc
        | onClientReadable => cases (hout.symm.trans (hk.atEnd t hc).2)
        | send =>
          obtain ⟨hdel, halive⟩ := hk.sending t (by rw [hc]; rfl)
          have ht : t ≠ .reader := by
            intro ht
            have := hdel ht
            rw [hout] at this
            cases this
          have hrtsp : s.rtspClient = false := by simpa [halive ht] using hno
          have h0 : s.owners = 0 := by
            rw [hk.owners, hrtsp, if_pos hout, hm]
            rfl
          exact .inr (hk.alone_of_noOwner h0 (by simp [hc]))
    constructor
    all_goals constructor
    all_goals simp only [next, State.close, hc, hs, closeFd]
    all_goals grind -linarith [Function.update_apply]

theorem onShutdown (hk : Kept s) (t : Thread ι) (he : s.Enabled (.onShutdown t)) :
    Kept (s.next (.onShutdown t)) := by
  have hm : s.mutex = some (t, .closed) := he
  by_cases h0 : s.owners = 0
  · simp only [next, State.onShutdown, if_pos h0]
    refine ⟨?_, ?_, ?_, hk.toAccounted.of_same rfl rfl rfl rfl rfl (by simp [Closing, hm]) (fun _ => .inl)
      fun h h' h'' => ⟨h, h', h''⟩⟩
    all_goals constructor
    all_goals dsimp only
    all_goals grind -linarith [Function.update_apply]
  · simp only [next, State.onShutdown, if_neg h0]
    have hclosing : (some (t, if s.sessionAlive then Section.onClientClose else .onShutdown)).any
        (fun h => h.2 ≠ .entered) ↔ s.Closing := by
      rw [Closing, hm]
      cases s.sessionAlive <;> simp
    refine ⟨?_, ?_, ?_, hk.toAccounted.of_same rfl rfl rfl rfl rfl hclosing (fun _ => .inl)
      fun h h' h'' => ⟨h, h', h''⟩⟩
    all_goals constructor
    all_goals dsimp only
    all_goals grind -linarith [Function.update_apply]

theorem onClientClose (hk : Kept s) (t : Thread ι) (he : s.Enabled (.onClientClose t)) :
    Kept (s.next (.onClientClose t)) := by
  have hm : s.mutex = some (t, .onClientClose) := he
  have halive := hk.answering t hm
  by_cases hrtsp : s.rtspClient
  · simp only [next, dropClient, if_pos hrtsp]
    refine ⟨?_, ?_, ?_, hk.toAccounted.of_same rfl rfl rfl rfl rfl (by simp [Closing, hm]) (fun _ => .inl) nofun⟩
    all_goals constructor
    all_goals dsimp only
    all_goals grind -linarith [Function.update_apply]
  · simp only [next, dropClient, if_neg hrtsp]
    refine ⟨?_, ?_, ?_, hk.toAccounted.of_same rfl rfl rfl rfl rfl (by simp [Closing, hm]) (fun _ => .inl)
      fun h h' h'' => ⟨h, h', h''⟩⟩
    all_goals constructor
    all_goals dsimp only
    all_goals grind -linarith [Function.update_apply]

theorem shutdownOver (hk : Kept s) (t : Thread ι) (he : s.Enabled (.shutdownOver t)) :
    Kept (s.next (.shutdownOver t)) := by
  have hm : s.mutex = some (t, .onShutdown) := he
  have htwo : 2 ≤ s.owners := by
    rw [hk.owners, hm]
    rcases hk.closing t _ hm (by decide) with h | h | h
    · have hout : s.reading ≠ .outside := by
        intro hout
        rw [hout] at h
        cases h
      rw [if_neg hout]
      simp only [answers, Bool.toNat_true]
      omega
    · simp only [answers, (hk.ending t (by rw [h]; rfl)).2.2.1, Bool.toNat_true]
      omega
    · have h0 := (hk.destroying t h).1
      have hpos := hk.owners_pos (.inr (.inr (by rw [hm]; rfl)))
      omega
  have hone : s.owners ≠ 1 := by omega
  simp only [next, State.shutdownOver, if_neg hone]
  refine ⟨?_, ?_, ?_, hk.toAccounted.of_same rfl rfl rfl rfl rfl (by simp [Closing, hm]) (fun _ => .inl)
    fun h h' h'' => ⟨h, h', h''⟩⟩
  all_goals constructor
  all_goals dsimp only
  all_goals grind -linarith [Function.update_apply]

theorem resetSocket (hk : Kept s) (t : Thread ι) (he : s.Enabled (.resetSocket t)) :
    Kept (s.next (.resetSocket t)) := by
  have hm : s.mutex = some (t, .resetSocket) := he
  have hdis := hk.disconnects t _ hm (by decide)
  cases hc : s.call t with
  | disconnect caller =>
    simp only [next, State.resetSocket, hc]
    exact hk.afterDisconnect hm hc (.inl rfl)
  | _ => rw [hc] at hdis; cases hdis

theorem onReadable (hk : Kept s) (fd : Nat) (he : s.Enabled (.onReadable fd)) :
    Kept (s.next (.onReadable fd)) := by
  obtain ⟨hl, hout, hcall⟩ := he
  by_cases h0 : s.owners = 0
  · simpa only [next, if_pos h0] using hk
  · have hread := hk.read fd (.inr hl)
    constructor
    all_goals constructor
    all_goals simp only [next, if_neg h0]
    all_goals grind -linarith [Function.update_apply]

theorem received (hk : Kept s) (answer : Received) (he : s.Enabled (.received answer)) :
    Kept (s.next (.received answer)) := by
  obtain ⟨fd, hr⟩ : ∃ fd, s.reading = .receiving fd := by
    cases h : s.reading with
    | receiving fd => exact ⟨fd, rfl⟩
    | _ => simp [Enabled, h, Reading.isReceiving] at he
  have hcall : s.call .reader = .outside :=
    hk.reader_outside (by simp [hr, Reading.isDelivering]) (by simp [hr])
      (hk.owners_pos (.inr (.inl (by simp [hr]))))
  have hopen : fd ∉ s.closed := (hk.read fd (.inl (by rw [hr]; rfl))).2
  cases answer with
  | data =>
    constructor
    all_goals constructor
    all_goals simp only [next, State.received, hr]
    all_goals grind -linarith [Function.update_apply]
  | wouldBlock =>
    constructor
    all_goals constructor
    all_goals simp only [next, State.received, hr]
    all_goals grind -linarith [Function.update_apply]
  | endOfStream =>
    constructor
    all_goals constructor
    all_goals simp only [next, State.received, hr, setCall]
    all_goals grind -linarith [Function.update_apply]

theorem delivered (hk : Kept s) (he : s.Enabled .delivered) : Kept (s.next .delivered) := by
  obtain ⟨hdel, hcall⟩ := he
  obtain ⟨fd, hr⟩ : ∃ fd, s.reading = .delivering fd := by
    cases h : s.reading with
    | delivering fd => exact ⟨fd, rfl⟩
    | _ => rw [h] at hdel; cases hdel
  have hfd : s.reading.fd = some fd := by rw [hr]; rfl
  have hread := hk.read fd (.inl hfd)
  simp only [next, hfd, Option.elim_some]
  refine ⟨?_, ?_, ?_, hk.toAccounted.of_same rfl rfl rfl rfl rfl Iff.rfl (fun _ h => .inl (hfd.trans h))
    fun h h' _ => ⟨h, h', by simp [hr]⟩⟩
  all_goals constructor
  all_goals dsimp only
  all_goals grind -linarith [Function.update_apply]

theorem onReadShutdown (hk : Kept s) (fd : Nat) (he : s.Enabled (.onReadShutdown fd)) :
    Kept (s.next (.onReadShutdown fd)) := by
  obtain ⟨hl, hout, hcall⟩ := he
  by_cases h0 : s.owners = 0
  · simpa only [next, if_pos h0] using hk
  · have hread := hk.read fd (.inr hl)
    constructor
    all_goals constructor
    all_goals simp only [next, if_neg h0]
    all_goals grind -linarith [Function.update_apply]

theorem readShutdown (hk : Kept s) (he : s.Enabled .readShutdown) : Kept (s.next .readShutdown) := by
  have hr : s.reading = .onShutdown := he
  have halive := hk.readAnswering hr
  have hcall : s.call .reader = .outside :=
    hk.reader_outside (by simp [hr, Reading.isDelivering]) (by simp [hr])
      (hk.owners_pos (.inr (.inl (by simp [hr]))))
  by_cases hrtsp : s.rtspClient
  · simp only [next, dropClient, if_pos hrtsp]
    refine ⟨?_, ?_, ?_, hk.toAccounted.of_same rfl rfl rfl rfl rfl Iff.rfl nofun nofun⟩
    all_goals constructor
    all_goals dsimp only
    all_goals grind -linarith [Function.update_apply]
  · simp only [next, dropClient, if_neg hrtsp]
    refine ⟨?_, ?_, ?_, hk.toAccounted.of_same rfl rfl rfl rfl rfl Iff.rfl nofun
      fun h h' _ => ⟨h, h', by simp [hr]⟩⟩
    all_goals constructor
    all_goals dsimp only
    all_goals grind -linarith [Function.update_apply]

theorem readOver (hk : Kept s) (he : s.Enabled .readOver) (ho : s.Orderly .readOver) :
    Kept (s.next .readOver) := by
  obtain ⟨hr, hcall⟩ := he
  have hin : s.reading ≠ .outside := by simp [hr]
  have hpos := hk.owners_pos (.inr (.inl hin))
  by_cases hone : s.owners = 1
  · -- the last owner leaves nobody behind
    have hcount := hk.owners
    rw [hone, if_neg hin] at hcount
    have hrtsp : s.rtspClient = false := by
      cases h : s.rtspClient with
      | false => rfl
      | true => simp only [h, Bool.toNat_true] at hcount; omega
    have hall : ∀ u, s.call u = .outside := by
      intro u
      cases u with
      | reader => exact hcall
      | session i =>
        rcases ho with ⟨h, -⟩ | h
        · simp [hrtsp] at h
        · exact h i
    have hfree : s.mutex = none := by
      cases hm : s.mutex with
      | none => rfl
      | some h => exact absurd hm (hk.not_holds_of_outside (hall h.1))
    have hlast : ∃ u, Function.update s.call .reader (.disconnect .destructor) u =
        .disconnect .destructor := ⟨.reader, Function.update_self ..⟩
    simp only [next, release, if_pos hone, setCall]
    refine ⟨?_, ?_, ?_, hk.toAccounted.of_same rfl rfl rfl rfl rfl Iff.rfl nofun fun _ _ h => absurd rfl h⟩
    all_goals constructor
    all_goals dsimp only
    all_goals grind -linarith [Function.update_apply]
  · have hends : ∀ u sec, s.mutex = some (u, sec) → sec ≠ .entered →
        s.call u = .disconnect .sessionDestructor ∨ s.call u = .disconnect .destructor := by
      intro u sec hm hsec
      have hclosing : s.Closing := by simp [Closing, hm, hsec]
      cases u with
      | reader => exact absurd hm (hk.not_holds_of_outside hcall)
      | session i =>
        rcases ho with ⟨-, h⟩ | h
        · have hdis := hk.disconnects _ sec hm hsec
          have hsend := hk.sending (.session i)
          have hend := hk.atEnd (.session i)
          cases hc : s.call (.session i) with
          | disconnect caller =>
            cases caller with
            | send => exact absurd ⟨(hsend (by rw [hc]; rfl)).2 nofun, hclosing⟩ h
            | onClientReadable => cases (hend hc).1
            | sessionDestructor => exact .inl rfl
            | destructor => exact .inr rfl
          | _ => rw [hc] at hdis; cases hdis
        · exact absurd hm (hk.not_holds_of_outside (h i))
    simp only [next, release, if_neg hone, setCall]
    refine ⟨?_, ?_, ?_, hk.toAccounted.of_same rfl rfl rfl rfl rfl Iff.rfl nofun fun _ _ h => absurd rfl h⟩
    all_goals constructor
    all_goals dsimp only
    all_goals grind -linarith [Function.update_apply]

theorem destroySession (hk : Kept s) (t : Thread ι) (he : s.Enabled (.destroySession t)) :
    Kept (s.next (.destroySession t)) := by
  obtain ⟨halive, hbusy, hends⟩ := he
  have hsession : ∀ u, u ≠ .reader → s.call u = .outside := by
    intro u hu
    cases u with
    | reader => exact absurd rfl hu
    | session i =>
      by_contra hc
      by_cases ht : .session i = t
      · subst ht
        exact hc hends
      · exact hbusy (.inl ⟨i, ht, hc⟩)
  have hread : t ≠ .reader → ¬ s.reading.isDelivering := fun ht h => hbusy (.inr (.inl ⟨ht, .inl h⟩))
  have hcall : s.rtspClient → s.call t = .outside ∧ (t = .reader → s.reading.isDelivering) := by
    intro hrtsp
    cases t with
    | session i => exact ⟨hends, nofun⟩
    | reader =>
      rcases hends with ⟨hout, hdel | ⟨-, hno⟩⟩ | hm
      · exact ⟨hout, fun _ => hdel⟩
      · exact absurd hrtsp hno
      · exact absurd ⟨halive, hrtsp⟩ (hk.answered .reader _ hm (.inl rfl))
  have hanswering : ∀ u, s.mutex ≠ some (u, .onClientClose) := by
    intro u hm
    by_cases hu : u = t
    · subst hu
      cases u with
      | session i => exact hk.not_holds_of_outside hends hm
      | reader =>
        rcases hends with ⟨hout, -⟩ | hm'
        · exact hk.not_holds_of_outside hout hm
        · cases hm.symm.trans hm'
    · exact hbusy (.inr (.inr (by simp [hm, hu])))
  have hshutdown : s.reading ≠ .onShutdown := by
    intro hr
    cases t with
    | session i => exact hbusy (.inr (.inl ⟨nofun, .inr hr⟩))
    | reader =>
      rcases hends with ⟨-, h | ⟨h, -⟩⟩ | hm
      · rw [hr] at h
        cases h
      · rw [hr] at h
        cases h
      · have hcall := hk.reader_outside (by simp [hr, Reading.isDelivering]) (by simp [hr])
          (hk.owners_pos (.inr (.inl (by simp [hr]))))
        exact hk.not_holds_of_outside hcall hm
  by_cases hrtsp : s.rtspClient
  · obtain ⟨hout, hdel⟩ := hcall hrtsp
    simp only [next, setCall, if_pos hrtsp]
    refine ⟨?_, ?_, ?_, hk.toAccounted.of_same rfl rfl rfl rfl rfl Iff.rfl (fun _ => .inl) fun _ => nofun⟩
    all_goals constructor
    all_goals dsimp only
    all_goals grind -linarith [Function.update_apply]
  · have hsame : Function.update s.call t (s.call t) = s.call := Function.update_eq_self t s.call
    simp only [next, setCall, if_neg hrtsp, hsame]
    refine ⟨?_, ?_, ?_, hk.toAccounted.of_same rfl rfl rfl rfl rfl Iff.rfl (fun _ => .inl) fun _ => nofun⟩
    all_goals constructor
    all_goals dsimp only
    all_goals grind -linarith [Function.update_apply]

theorem resetClient (hk : Kept s) (t : Thread ι) (he : s.Enabled (.resetClient t)) :
    Kept (s.next (.resetClient t)) := by
  have hcall : s.call t = .resetClient := he
  obtain ⟨hdel, halive, hrtsp, hothers⟩ := hk.ending t (by rw [hcall]; rfl)
  have hpos := hk.owners_pos (.inl hrtsp)
  by_cases hone : s.owners = 1
  · have hout : s.reading = .outside := by
      by_contra hin
      have hcount := hk.owners
      rw [hone, if_neg hin, hrtsp, Bool.toNat_true] at hcount
      omega
    have hall : ∀ u, u ≠ t → s.call u = .outside := by
      intro u hu
      cases u with
      | reader => exact hk.reader_outside (by simp [hout, Reading.isDelivering]) (by simp [hout]) hpos
      | session i => exact hothers i hu
    have hfree : s.mutex = none := by
      cases hm : s.mutex with
      | none => rfl
      | some h =>
        by_cases hu : h.1 = t
        · have hl := hk.locks h.1 h.2 hm
          rw [hu, hcall] at hl
          cases hl
        · exact absurd hm (hk.not_holds_of_outside (hall h.1 hu))
    have hlast : ∃ u, Function.update s.call t (.disconnect .destructor) u =
        .disconnect .destructor := ⟨t, Function.update_self ..⟩
    simp only [next, release, if_pos hone, setCall]
    refine ⟨?_, ?_, ?_, hk.toAccounted.of_same rfl rfl rfl rfl rfl Iff.rfl (fun _ => .inl) nofun⟩
    all_goals constructor
    all_goals dsimp only
    all_goals grind -linarith [Function.update_apply]
  · have honly : ∀ u, (s.call u).endsSession → u = t := by
      intro u hu
      by_contra hne
      cases u with
      | session i => rw [hothers i hne] at hu; cases hu
      | reader =>
        cases t with
        | reader => exact hne rfl
        | session j => cases hcall.symm.trans ((hk.ending .reader hu).2.2.2 j nofun)
    simp only [next, release, if_neg hone, setCall]
    refine ⟨?_, ?_, ?_, hk.toAccounted.of_same rfl rfl rfl rfl rfl Iff.rfl (fun _ => .inl) nofun⟩
    all_goals constructor
    all_goals dsimp only
    all_goals grind -linarith [Function.update_apply]

theorem step (hk : Kept s) (act : Act ι) (he : s.Enabled act) (ho : s.Orderly act) :
    Kept (s.next act) := by
  cases act with
  | connect i creates => exact hk.connect i creates he ho
  | connected i listens => exact hk.connected i listens he
  | refused i => exact hk.refused i he
  | closeRefused i => exact hk.closeRefused i he
  | send t => exact hk.send t he
  | lock t => exact hk.lock t he
  | sent t fails => exact hk.sent t fails he
  | close t => exact hk.close t he ho
  | onShutdown t => exact hk.onShutdown t he
  | onClientClose t => exact hk.onClientClose t he
  | shutdownOver t => exact hk.shutdownOver t he
  | resetSocket t => exact hk.resetSocket t he
  | onReadable fd => exact hk.onReadable fd he
  | received answer => exact hk.received answer he
  | delivered => exact hk.delivered he
  | onReadShutdown fd => exact hk.onReadShutdown fd he
  | readShutdown => exact hk.readShutdown he
  | readOver => exact hk.readOver he ho
  | destroySession t => exact hk.destroySession t he
  | resetClient t => exact hk.resetClient t he

omit [DecidableEq ι] in
theorem safe (hk : Kept s) : s.Safe where
  notRelocked t hlock hholds := by
    obtain ⟨sec, hm⟩ := hholds
    rcases hlock with h | ⟨-, h⟩
    · exact hk.notDestructor t h
    · exact h sec hm
  unlockedDestroying t u hdes hholds := by
    obtain ⟨sec, hm⟩ := hholds
    refine ⟨?_, hk.notDestructor u⟩
    rcases hdes with h | h
    · by_contra hne
      exact hk.not_holds_of_outside ((hk.destroying t h).2 u hne) hm
    · exact absurd h (hk.notDestructor t)
  unlockedDestroyed hd := by
    cases hm : s.mutex with
    | none => rfl
    | some h => exact absurd hm (hk.not_holds_of_outside ((hk.destroyed hd).2.2 h.1))
  closedOnce := hk.nodup
  closedOrKept := hk.closedOrKept
  closedAll hd fd hfd := by
    rcases hk.closedOrKept fd hfd with h | h
    · exact h
    · cases (hk.destroyed hd).2.1.symm.trans h
  notStale := hk.notStale

omit [DecidableEq ι] in
theorem initial : Kept ({} : State ι) :=
  ⟨⟨nofun, nofun, nofun, nofun, nofun, nofun⟩, ⟨nofun, nofun, nofun, nofun, nofun, nofun, nofun⟩,
    ⟨rfl, nofun, nofun⟩, ⟨fun _ h => h.elim nofun nofun, .nil, nofun, nofun, nofun, nofun, nofun, rfl⟩⟩

end Kept

variable [DecidableEq ι]

/-- Every state of a run whose steps are orderly is safe. -/
theorem run_safe {acts : List (Act ι)}
    (hrun : AllMeet next (fun s act => s.Enabled act ∧ s.Orderly act) ({} : State ι) acts) :
    (acts.foldl next ({} : State ι)).Safe := by
  have hk : Kept (acts.foldl next ({} : State ι)) :=
    AllMeet.invariant (I := Kept) (fun s act hk h => hk.step act h.1 h.2) Kept.initial hrun
  exact hk.safe

instance [Fintype ι] (s : State ι) (t : Thread ι) : Decidable (s.SessionBusy t) := by
  unfold SessionBusy
  infer_instance

instance (s : State ι) : Decidable s.CallbackEnds := by
  unfold CallbackEnds
  infer_instance

instance (s : State ι) : Decidable s.Closing := by
  unfold Closing
  infer_instance

instance [Fintype ι] (s : State ι) (act : Act ι) : Decidable (s.Enabled act) := by
  cases act with
  | destroySession t => cases t <;> unfold Enabled <;> infer_instance
  | _ => unfold Enabled; infer_instance

instance [Fintype ι] (s : State ι) (act : Act ι) : Decidable (s.Orderly act) := by
  cases act <;> unfold Orderly <;> infer_instance

/-- A refused attempt and one that connects, a request that is answered, and the end of the
stream, which the read thread meets. -/
def servedToTheEnd : List (Act Unit) :=
  [.connect () true, .refused (), .lock (.session ()), .closeRefused (), .connect () true,
    .connected () true, .onReadable 1, .received .data, .send .reader, .lock .reader,
    .sent .reader false, .delivered, .received .wouldBlock, .readOver, .send (.session ()),
    .lock (.session ()), .sent (.session ()) false, .onReadable 1, .received .endOfStream,
    .lock .reader, .close .reader, .onShutdown .reader, .onClientClose .reader,
    .shutdownOver .reader, .resetSocket .reader, .readOver, .lock .reader, .close .reader]

theorem run_safe_servedToTheEnd : (servedToTheEnd.foldl next ({} : State Unit)).Safe ∧
    (servedToTheEnd.foldl next ({} : State Unit)).destroyed :=
  ⟨run_safe (by decide), by decide⟩

/-- A send of a session thread fails while nobody reads. -/
def failingSend : List (Act Unit) :=
  [.connect () true, .connected () true, .send (.session ()), .lock (.session ()),
    .sent (.session ()) true, .lock (.session ()), .close (.session ()), .onShutdown (.session ()),
    .onClientClose (.session ()), .shutdownOver (.session ())]

/-- A reply fails that the session sends from the callback of the read loop. -/
def failingReply : List (Act Unit) :=
  [.connect () true, .connected () true, .onReadable 0, .received .data, .send .reader,
    .lock .reader, .sent .reader true, .lock .reader, .close .reader, .onShutdown .reader,
    .onClientClose .reader, .shutdownOver .reader, .resetSocket .reader, .delivered,
    .received .endOfStream]

/-- The listener cannot be added, and the session tries again. -/
def listenerRefused : List (Act Unit) :=
  [.connect () true, .connected () false, .connect () true, .connected () true]

theorem failingSend_not_safe :
    (∃ s : State Unit, AllMeet next Enabled {} failingSend ∧ failingSend.foldl next {} = s ∧
      s.AtLock (.session ()) ∧ s.Holds (.session ()) ∧ s.Destroying (.session ())) ∧
    (∃ s : State Unit, AllMeet next Enabled {} failingReply ∧ failingReply.foldl next {} = s ∧
      s.staleRead) ∧
    ∃ s : State Unit, AllMeet next Enabled {} listenerRefused ∧ listenerRefused.foldl next {} = s ∧
      0 < s.opened ∧ 0 ∉ s.closed ∧ s.socket = some (some 1) :=
  ⟨⟨_, by decide, rfl, .inl rfl, ⟨_, rfl⟩, .inr rfl⟩, ⟨_, by decide, rfl, rfl⟩,
    _, by decide, rfl, by decide, by decide, rfl⟩

end State

end TcpClient

end WifiDisplay
