import WifiDisplay.WfdConnectionTimer

/-! Runs in which every report of a connection timeout comes at the deadline of a request that
still waits. -/

namespace WifiDisplay

namespace WfdSourceScene

variable {s : WfdSourceScene}

theorem not_resetsTimer_p2p {action : SourceAction} (h : action.resetsTimer = false) :
    (s.p2p action).any (·.resetsTimer) = false := by
  rw [p2p]
  split <;> simp [h]

theorem not_resetsTimer_ipc {action : SourceAction} (h : action.resetsTimer = false) :
    (s.ipc action).any (·.resetsTimer) = false := by
  rw [ipc]
  split <;> simp [h]

theorem not_resetsTimer_onP2pPeerDisconnected (mac : Text) :
    (s.onP2pPeerDisconnected mac).actions.any (·.resetsTimer) = false := by
  rw [onP2pPeerDisconnected]
  split
  · rfl
  · split
    · rfl
    · have hchanged := @not_resetsTimer_ipc s
      have hgroup := @not_resetsTimer_p2p s .removeGroup rfl
      split
      · exact hchanged rfl
      · rw [List.any_append, List.any_append, hchanged rfl, hgroup]
        split <;> rfl

theorem not_resetsTimer_wfdP2pStart : s.wfdP2pStart.any (·.resetsTimer) = false := by
  rw [wfdP2pStart, List.any_append, not_resetsTimer_p2p rfl, not_resetsTimer_p2p rfl]
  rfl

theorem not_resetsTimer_wfdP2pStop : s.wfdP2pStop.actions.any (·.resetsTimer) = false := by
  rw [wfdP2pStop, List.any_append, not_resetsTimer_p2p rfl]
  split
  · rw [List.any_append]
    cases s.connDev with
    | none => dsimp only; split <;> rfl
    | some dev => dsimp only; split <;> split <;> rfl
  · rfl

/-- Of the calls other than a connection none resets the timer. -/
theorem not_resetsTimer_onCall {call : SourceCall}
    (h : ∀ connected owner answers, call ≠ .p2pConnectionChanged connected owner answers) :
    (s.onCall call).actions.any (·.resetsTimer) = false := by
  cases call with
  | startDiscovery status =>
    have hstart := @not_resetsTimer_wfdP2pStart s
    have herror := @not_resetsTimer_ipc s
      (.error .stateException "HandleStart current p2p state: CLOSING") rfl
    simp only [onCall, handleStartDiscovery]
    split
    · rfl
    · split
      · rfl
      · split
        all_goals first
          | exact herror
          | rfl
          | rw [List.any_append, hstart]; rfl
  | addDevice deviceId screenId displayIds =>
    simp only [onCall, handleAddDevice]
    split
    · rfl
    · split <;> rfl
  | removeDevice deviceId =>
    simp only [onCall, handleRemoveDevice]
    split
    · rfl
    · split
      · rfl
      · split
        · rfl
        · rw [List.any_append, not_resetsTimer_p2p rfl]
          rfl
  | destroyScreenCapture =>
    simp only [onCall, handleDestroyScreenCapture]
    split <;> rfl
  | p2pStateChanged state =>
    simp only [onCall, onP2pStateChanged]
    split
    · rfl
    · split
      · exact not_resetsTimer_wfdP2pStart
      · rw [List.any_append, not_resetsTimer_wfdP2pStop]
        exact not_resetsTimer_ipc rfl
      · rfl
  | p2pConnectionChanged connected owner answers => exact absurd rfl (h connected owner answers)
  | p2pThisDeviceChanged disconnected =>
    simp only [onCall, onP2pThisDeviceChanged]
    split
    · rfl
    · split
      · rfl
      · exact not_resetsTimer_onP2pPeerDisconnected _
  | rtspPlayed mac =>
    simp only [onCall, onRtspPlayed]
    split
    · rfl
    · split
      · rfl
      · exact not_resetsTimer_ipc rfl
  | rtspTeardown mac => exact not_resetsTimer_onP2pPeerDisconnected mac
  | agentDestroyed contextId agentId =>
    simp only [onCall, onInnerDestroy]
    split
    · rfl
    · split
      · exact not_resetsTimer_ipc rfl
      · rfl

theorem resetsTimer_connected {owner : GroupOwner} {answers : CastAnswers} (hip : owner.ip ≠ [])
    (hp2p : s.p2pInstance = true) (hipc : s.ipcAdapter = true) (hrunning : s.isSourceRunning = true)
    (hnew : s.sharingAdapter = true → ¬ s.isConnected owner.mac) :
    (s.onCall (.p2pConnectionChanged true owner answers)).actions.any (·.resetsTimer) = true := by
  have hreport : ∀ s' : WfdSourceScene, s'.ipcAdapter = true →
      (s'.onConnectionChanged owner.connectionInfo answers).actions.any (·.resetsTimer) = true := by
    intro s' hipc'
    have hstate : owner.connectionInfo.state = .connected := rfl
    rw [onConnectionChanged, if_neg (by simp [hipc']), if_pos hstate]
    simp [SourceAction.resetsTimer, hstate]
  simp only [onCall, onP2pConnectionChanged, onP2pPeerConnected]
  rw [if_neg (by simp [hp2p, hip]), if_neg (by simp [hrunning])]
  split
  · exact hreport s hipc
  · rename_i hsharing
    have hsharing' : s.sharingAdapter = true := by simpa using hsharing
    rw [if_neg (show ¬ s.isConnected owner.connectionInfo.mac = true from hnew hsharing')]
    exact hreport _ hipc

end WfdSourceScene

namespace TimedScene

variable {s : TimedScene} {k : Nat} {r : AddRequest}

theorem waiting_iff (hr : s.requests k = some r) :
    s.Waiting k ↔ r.accepted = true ∧ r.answered = false ∧ k ∉ s.reports := by
  constructor
  · rintro ⟨r', hr', h⟩
    rw [hr] at hr'
    cases hr'
    exact h
  · exact fun h => ⟨r, hr, h⟩

/-- At most one request waits, the timer is the one that was set for it, and without such a request
there is no timer. -/
structure Sound (s : TimedScene) : Prop where
  known : ∀ k ∈ s.reports, s.requests k ≠ none
  unset : ∀ k r, s.requests k = some r → r.timer = none → s.Waiting k
  unique : ∀ j k, s.Waiting j → s.Waiting k → j = k
  quiet : (∀ k, ¬ s.Waiting k) → s.timers = [] ∧ s.timerId = 0
  set : ∀ k r, s.requests k = some r → s.Waiting k →
    match r.timer with
    | none => s.timers = [] ∧ s.timerId = 0
    | some timerId => s.timers = [(timerId, k)] ∧ s.timerId = timerId ∧ timerId ≠ 0

theorem sound_init : Sound {} where
  known := nofun
  unset _ _ h := by cases h
  unique := fun _ _ ⟨_, h, _⟩ => by cases h
  quiet _ := ⟨rfl, rfl⟩
  set _ _ h := by cases h

theorem reset_of_zero (h : s.timerId = 0) : s.resetCheckWfdConnectionTimer = s := by
  rw [resetCheckWfdConnectionTimer, if_neg (by simp [h])]

theorem Sound.addDevice (hs : s.Sound) {deviceId : Text} {screenId : BitVec 64}
    {displayIds : List (BitVec 64)} {ret : Int32} (hnew : s.requests k = none)
    (haccepts : s.Accepts screenId displayIds ret) (hidle : ∀ j, ¬ s.Waiting j) :
    (s.addDevice k deviceId screenId displayIds ret).Sound := by
  obtain ⟨hrunning, hp2p, hscreen, rfl⟩ := haccepts
  obtain ⟨htimers, hzero⟩ := hs.quiet hidle
  have hadd : s.addDevice k deviceId screenId displayIds 0 =
      { s with
        scene := { s.scene with screenId := screenId }
        requests := Function.update s.requests k (some { deviceId, accepted := true }) } := by
    rw [TimedScene.addDevice, reset_of_zero hzero]
    simp [WfdSourceScene.handleAddDevice, hrunning, hp2p, hscreen]
  rw [hadd]
  generalize hs' : ({ s with
    scene := { s.scene with screenId := screenId }
    requests := Function.update s.requests k (some { deviceId, accepted := true }) } : TimedScene) = s'
  have hrequests : s'.requests = Function.update s.requests k (some { deviceId, accepted := true }) := by
    rw [← hs']
  have hrest : s'.reports = s.reports ∧ s'.timers = [] ∧ s'.timerId = 0 := by
    rw [← hs']
    exact ⟨rfl, htimers, hzero⟩
  obtain ⟨hreports, htimers', hzero'⟩ := hrest
  have hk : s'.Waiting k := by
    refine ⟨{ deviceId, accepted := true }, by rw [hrequests, Function.update_self], rfl, rfl, ?_⟩
    rw [hreports]
    exact fun hmem => hs.known k hmem hnew
  have honly : ∀ j, s'.Waiting j → j = k := by
    rintro j ⟨r, hr, haccepted, hanswered, hmem⟩
    by_contra hjk
    rw [hrequests, Function.update_of_ne hjk] at hr
    exact hidle j ⟨r, hr, haccepted, hanswered, by rwa [hreports] at hmem⟩
  refine ⟨fun j hj => ?_, fun j r hr htimer => ?_, fun i j hi hj => ?_, fun h => absurd hk (h k),
    fun j r hr hj => ?_⟩
  · rw [hrequests]
    by_cases hjk : j = k
    · subst hjk
      simp
    · rw [Function.update_of_ne hjk]
      exact hs.known j (by rwa [hreports] at hj)
  · by_cases hjk : j = k
    · exact hjk ▸ hk
    · rw [hrequests, Function.update_of_ne hjk] at hr
      exact absurd (hs.unset j r hr htimer) (hidle j)
  · rw [honly i hi, honly j hj]
  · obtain rfl := honly j hj
    rw [hrequests, Function.update_self] at hr
    cases hr
    exact ⟨htimers', hzero'⟩

theorem Sound.setTimer (hs : s.Sound) {timerId : Nat} (hr : s.requests k = some r)
    (hunset : r.timer = none) (hid : timerId ≠ 0) : (s.setCheckWfdConnectionTimer k r timerId).Sound := by
  have hk := hs.unset k r hr hunset
  have hset := hs.set k r hr hk
  rw [hunset] at hset
  have hwaiting : ∀ j, (s.setCheckWfdConnectionTimer k r timerId).Waiting j ↔ s.Waiting j := by
    intro j
    by_cases hjk : j = k
    · subst hjk
      rw [waiting_iff hr, waiting_iff (s := s.setCheckWfdConnectionTimer j r timerId)
        (Function.update_self j _ s.requests)]
      exact Iff.rfl
    · simp only [Waiting, setCheckWfdConnectionTimer, Function.update_of_ne hjk]
  refine ⟨fun j hj => ?_, fun j r' hr' htimer => ?_, fun i j hi hj => ?_, fun h => ?_,
    fun j r' hr' hj => ?_⟩
  · by_cases hjk : j = k
    · subst hjk
      simp [setCheckWfdConnectionTimer]
    · simp only [setCheckWfdConnectionTimer, Function.update_of_ne hjk]
      exact hs.known j hj
  · rw [hwaiting]
    by_cases hjk : j = k
    · exact hjk ▸ hk
    · simp only [setCheckWfdConnectionTimer, Function.update_of_ne hjk] at hr'
      exact hs.unset j r' hr' htimer
  · exact hs.unique i j ((hwaiting i).mp hi) ((hwaiting j).mp hj)
  · exact absurd ((hwaiting k).mpr hk) (h k)
  · obtain rfl := hs.unique j k ((hwaiting j).mp hj) hk
    simp only [setCheckWfdConnectionTimer, Function.update_self, Option.some.injEq] at hr'
    subst hr'
    refine ⟨?_, rfl, hid⟩
    simp only [setCheckWfdConnectionTimer, hset.1, List.nil_append]

/-- The deadline of the request that waits. -/
theorem Sound.report (hs : s.Sound) (hk : s.Waiting k) (hr : s.requests k = some r)
    (htimer : r.timer ≠ none) (hipc : s.scene.ipcAdapter = true) :
    s.step (.deadline k) = { s with timers := [], timerId := 0, reports := s.reports ++ [k] } := by
  obtain ⟨timerId, hsome⟩ := Option.ne_none_iff_exists'.mp htimer
  have hset := hs.set k r hr hk
  rw [hsome] at hset
  obtain ⟨htimers, hid, hne⟩ := hset
  rw [step, if_pos (by simp [htimers]), onCheckWfdConnection, if_pos hipc,
    resetCheckWfdConnectionTimer, if_pos (by rw [hid]; exact hne)]
  simp [htimers, hid]

theorem Sound.no_report (hs : s.Sound) (hk : ¬ s.Waiting k) : s.step (.deadline k) = s := by
  rw [step, if_neg]
  intro h
  obtain ⟨⟨timerId, j⟩, hmem, hj⟩ := List.any_eq_true.mp h
  obtain rfl : j = k := by simpa using hj
  by_cases hother : ∃ i, s.Waiting i
  · obtain ⟨i, hi⟩ := hother
    obtain ⟨r, hr, -⟩ := id hi
    have hset := hs.set i r hr hi
    split at hset
    · rw [hset.1] at hmem
      cases hmem
    · rw [hset.1] at hmem
      cases List.mem_singleton.mp hmem
      exact hk hi
  · rw [(hs.quiet fun i hi => hother ⟨i, hi⟩).1] at hmem
    cases hmem

theorem Sound.reported (hs : s.Sound) (hk : s.Waiting k) (hr : s.requests k = some r)
    (htimer : r.timer ≠ none) :
    Sound { s with timers := [], timerId := 0, reports := s.reports ++ [k] } := by
  have hnone : ∀ j, ¬ Waiting { s with timers := [], timerId := 0, reports := s.reports ++ [k] } j := by
    rintro j ⟨r', hr', haccepted, hanswered, hmem⟩
    rw [List.mem_append, not_or] at hmem
    obtain rfl := hs.unique j k ⟨r', hr', haccepted, hanswered, hmem.1⟩ hk
    exact hmem.2 List.mem_cons_self
  refine ⟨fun j hj => ?_, fun j r' hr' htimer' => ?_, fun i j hi => absurd hi (hnone i),
    fun _ => ⟨rfl, rfl⟩, fun j r' hr' hj => absurd hj (hnone j)⟩
  · rcases List.mem_append.mp hj with hj | hj
    · exact hs.known j hj
    · obtain rfl := List.mem_singleton.mp hj
      rw [hr]
      nofun
  · obtain rfl := hs.unique j k (hs.unset j r' hr' htimer') hk
    rw [hr] at hr'
    cases hr'
    exact absurd htimer' htimer

theorem onCall_requests (call : SourceCall) : (s.onCall call).requests k = (s.requests k).map fun r =>
    { r with answered := r.answered || call.answers r.deviceId } := by
  simp only [onCall, resetCheckWfdConnectionTimer]
  split <;> (try split) <;> rfl

theorem onCall_reports (call : SourceCall) : (s.onCall call).reports = s.reports := by
  simp only [onCall, resetCheckWfdConnectionTimer]
  split <;> (try split) <;> rfl

/-- The connection that a request waits for. -/
theorem Sound.connected (hs : s.Sound) {call : SourceCall} (hok : s.Undisturbed (.other call))
    (hk : s.Waiting k) (hr : s.requests k = some r) (hanswers : call.answers r.deviceId = true) :
    (s.onCall call).timers = [] ∧ (s.onCall call).timerId = 0 ∧ r.timer ≠ none := by
  cases call with
  | p2pConnectionChanged connected owner answers =>
    obtain ⟨rfl, hip, -⟩ : connected = true ∧ owner.ip ≠ [] ∧ owner.mac = r.deviceId := by
      simpa [SourceCall.answers] using hanswers
    obtain ⟨-, htimer, hp2p, hipc, hrunning, hnew⟩ := hok rfl hip k r hk hr
    have hreset := @WfdSourceScene.resetsTimer_connected s.scene owner answers hip hp2p hipc hrunning hnew
    obtain ⟨timerId, hsome⟩ := Option.ne_none_iff_exists'.mp htimer
    have hset := hs.set k r hr hk
    rw [hsome] at hset
    obtain ⟨htimers, hid, hne⟩ := hset
    have hne' : s.timerId ≠ 0 := by rwa [hid]
    simp only [onCall]
    rw [if_pos hreset, resetCheckWfdConnectionTimer, if_pos hne']
    exact ⟨by simp [htimers, hid], rfl, htimer⟩
  | removeDevice deviceId =>
    have hsame : deviceId = r.deviceId := by simpa [SourceCall.answers] using hanswers
    exact absurd hsame.symm (hok k r hk hr)
  | _ => cases hanswers

/-- A call that no waiting request waits for leaves the timer alone. -/
theorem Sound.unanswered (hs : s.Sound) {call : SourceCall} (hok : s.Undisturbed (.other call))
    (hnot : ∀ k r, s.Waiting k → s.requests k = some r → call.answers r.deviceId = false) :
    (s.onCall call).timers = s.timers ∧ (s.onCall call).timerId = s.timerId := by
  by_cases hwaiting : ∃ k, s.Waiting k
  · obtain ⟨k, hk⟩ := hwaiting
    obtain ⟨r, hr, -⟩ := id hk
    have hquiet : (s.scene.onCall call).actions.any (·.resetsTimer) = false := by
      by_cases hconnection : ∃ connected owner answers, call = .p2pConnectionChanged connected owner answers
      · obtain ⟨connected, owner, answers, rfl⟩ := hconnection
        have hno : ¬ (connected = true ∧ owner.ip ≠ []) := by
          rintro ⟨rfl, hip⟩
          have hmac := (hok rfl hip k r hk hr).1
          have := hnot k r hk hr
          simp [SourceCall.answers, hip, hmac] at this
        simp only [WfdSourceScene.onCall, WfdSourceScene.onP2pConnectionChanged]
        rw [if_pos (by by_cases hc : connected = true <;> simp_all)]
        rfl
      · exact WfdSourceScene.not_resetsTimer_onCall fun connected owner answers h =>
          hconnection ⟨connected, owner, answers, h⟩
    simp [onCall, hquiet]
  · obtain ⟨-, hzero⟩ := hs.quiet fun k hk => hwaiting ⟨k, hk⟩
    simp [onCall, reset_of_zero hzero]

theorem Sound.onCall (hs : s.Sound) {call : SourceCall} (hok : s.Undisturbed (.other call)) :
    (s.onCall call).Sound := by
  have hreports := s.onCall_reports call
  have hrequest : ∀ k r', (s.onCall call).requests k = some r' →
      ∃ r, s.requests k = some r ∧ r'.timer = r.timer ∧ r'.accepted = r.accepted ∧
        r'.answered = (r.answered || call.answers r.deviceId) := by
    intro k r' hr'
    rw [onCall_requests] at hr'
    obtain ⟨r, hr, rfl⟩ := Option.map_eq_some_iff.mp hr'
    exact ⟨r, hr, rfl, rfl, rfl⟩
  have hwaiting : ∀ k, (s.onCall call).Waiting k →
      s.Waiting k ∧ ∀ r, s.requests k = some r → call.answers r.deviceId = false := by
    rintro k ⟨r', hr', haccepted, hanswered, hmem⟩
    obtain ⟨r, hr, -, hacc, hans⟩ := hrequest k r' hr'
    rw [hans, Bool.or_eq_false_iff] at hanswered
    refine ⟨⟨r, hr, hacc ▸ haccepted, hanswered.1, by rwa [hreports] at hmem⟩, fun r₁ hr₁ => ?_⟩
    rw [hr] at hr₁
    cases hr₁
    exact hanswered.2
  have hknown : ∀ k ∈ (s.onCall call).reports, (s.onCall call).requests k ≠ none := by
    intro k hk
    rw [onCall_requests, ne_eq, Option.map_eq_none_iff]
    exact hs.known k (by rwa [hreports] at hk)
  have hunique : ∀ j k, (s.onCall call).Waiting j → (s.onCall call).Waiting k → j = k :=
    fun j k hj hk => hs.unique j k (hwaiting j hj).1 (hwaiting k hk).1
  by_cases hanswer : ∃ k r, s.Waiting k ∧ s.requests k = some r ∧ call.answers r.deviceId = true
  · obtain ⟨k, r, hk, hr, hans⟩ := hanswer
    obtain ⟨htimers, hzero, hset⟩ := hs.connected hok hk hr hans
    have hnone : ∀ j, ¬ (s.onCall call).Waiting j := by
      intro j hj
      obtain ⟨hj', hno⟩ := hwaiting j hj
      obtain rfl := hs.unique j k hj' hk
      rw [hno r hr] at hans
      cases hans
    refine ⟨hknown, fun j r' hr' htimer => ?_, hunique, fun _ => ⟨htimers, hzero⟩,
      fun j r' _ hj => absurd hj (hnone j)⟩
    obtain ⟨r₁, hr₁, hsame, -⟩ := hrequest j r' hr'
    obtain rfl := hs.unique j k (hs.unset j r₁ hr₁ (hsame ▸ htimer)) hk
    rw [hr] at hr₁
    cases hr₁
    exact absurd (hsame ▸ htimer) hset
  · have hnot : ∀ k r, s.Waiting k → s.requests k = some r → call.answers r.deviceId = false := by
      intro k r hk hr
      by_contra hans
      exact hanswer ⟨k, r, hk, hr, by simpa using hans⟩
    obtain ⟨htimers, hid⟩ := hs.unanswered hok hnot
    have hback : ∀ k, s.Waiting k → (s.onCall call).Waiting k := by
      intro k hk
      obtain ⟨r, hr, haccepted, hanswered, hmem⟩ := id hk
      refine ⟨{ r with answered := r.answered || call.answers r.deviceId }, by rw [onCall_requests, hr]; rfl,
        haccepted, ?_, by rwa [hreports]⟩
      rw [hanswered, hnot k r hk hr]
      rfl
    refine ⟨hknown, fun k r' hr' htimer => ?_, hunique, fun h => ?_, fun k r' hr' hk => ?_⟩
    · obtain ⟨r, hr, hsame, -⟩ := hrequest k r' hr'
      exact hback k (hs.unset k r hr (hsame ▸ htimer))
    · rw [htimers, hid]
      exact hs.quiet fun k hk => h k (hback k hk)
    · obtain ⟨r, hr, hsame, -⟩ := hrequest k r' hr'
      rw [htimers, hid, hsame]
      exact hs.set k r hr (hwaiting k hk).1

theorem Sound.step (hs : s.Sound) {call : TimedCall} (hok : s.Undisturbed call) :
    (s.step call).Sound ∧ s.Timely call := by
  cases call with
  | addDevice k deviceId screenId displayIds ret =>
    change (s.step _).Sound ∧ (s.step _).reports = s.reports
    rw [TimedScene.step]
    split
    · refine ⟨hs.addDevice ‹_› hok.1 hok.2, ?_⟩
      rw [TimedScene.addDevice, reset_of_zero (hs.quiet hok.2).2]
    · exact ⟨hs, rfl⟩
  | setTimer k timerId =>
    change (s.step _).Sound ∧ (s.step _).reports = s.reports
    rw [TimedScene.step]
    split
    · rename_i r hr
      split
      · rename_i h
        exact ⟨hs.setTimer hr h.1 h.2.1, rfl⟩
      · exact ⟨hs, rfl⟩
    · exact ⟨hs, rfl⟩
  | deadline k =>
    by_cases hk : s.Waiting k
    · obtain ⟨r, hr, -⟩ := id hk
      by_cases htimer : r.timer = none
      · refine ⟨?_, fun r' hr' htimer' => ?_⟩
        · have hset := hs.set k r hr hk
          rw [htimer] at hset
          rw [TimedScene.step, if_neg (by simp [hset.1])]
          exact hs
        · rw [hr] at hr'
          cases hr'
          exact absurd htimer htimer'
      · have hstep := hs.report hk hr htimer (hok hk)
        rw [hstep]
        refine ⟨hs.reported hk hr htimer, fun r' hr' _ => ⟨fun _ => ?_, fun h => absurd hk h⟩⟩
        rw [hstep]
    · have hstep := hs.no_report hk
      rw [hstep]
      exact ⟨hs, fun r _ _ => ⟨fun h => absurd h hk, fun _ => by rw [hstep]⟩⟩
  | other call =>
    cases call with
    | addDevice deviceId screenId displayIds => exact ⟨hs, rfl⟩
    | _ => exact ⟨hs.onCall hok, s.onCall_reports _⟩

end TimedScene

end WifiDisplay
