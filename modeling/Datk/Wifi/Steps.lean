import Datk.Wifi.Manager

/-!
# What a step of the Wi-Fi manager can do

`ManagerStep` lists the branches of `wifi_manager`, and `Step` those of every task
and of the driver, each with its condition and the state it leaves.  `step_cases`
says that there is no other step, so an invariant is one case for each branch.
-/

namespace Datk.Wifi

/-! ### The calls of the driver -/

/-- What `esp_wifi_disconnect` reports. -/
def State.cutOff (s : State) (cause : Cause) (reported : Bool) : List Report :=
  match s.link with
  | .idle => []
  | .connecting _ => if reported then [.disconnected ⟨cause, s.connects⟩] else []
  | .connected _ => [.disconnected ⟨cause, s.connects⟩]

theorem espWifiDisconnect_eq (s : State) (cause : Cause) (reported : Bool) :
    espWifiDisconnect s cause reported = { s with
      link := .idle, events := s.events ++ (s.cutOff cause reported).map .report } := by
  unfold espWifiDisconnect State.cutOff
  cases hl : s.link with
  | idle =>
    obtain ⟨⟩ := s
    cases hl
    simp
  | connecting c => cases reported <;> simp [State.drop, State.raise]
  | connected c => rfl

/-- What `esp_wifi_scan_stop` reports, and that no scan is left where the bit was
set. -/
theorem espWifiScanStop_eq (s : State) (scan : Bool) :
    espWifiScanStop s scan = { s with
      scanning := s.scanning && !scan
      events := s.events ++ if scan && s.scanning then [.report .scanDone] else [] } := by
  unfold espWifiScanStop
  obtain ⟨⟩ := s
  cases scan
  · simp
  · rename_i scanning _ _ _ _ _ _ _ _
    cases scanning <;> simp [State.raise]

theorem espWifiSetMode_eq (s : State) (apsta : Bool) :
    espWifiSetMode s apsta = { s with
      apsta := apsta
      events := s.events ++
        if s.apsta = apsta then [] else [if apsta then .apStart else .apStop] } := by
  unfold espWifiSetMode
  split
  · rename_i h
    subst h
    simp
  · rfl

/-! ### The branches -/

/-- A step of the manager, by its branch. -/
inductive ManagerStep (s : State) (ok : Bool) : State → Prop
  | receive {m : Message} {rest : List Message} (hpc : s.pc = .receive)
    (hq : s.queue = m :: rest) : ManagerStep s ok { s with pc := dispatch m, queue := rest }
  | scanIgnored (hpc : s.pc = .startScan) : ManagerStep s ok { s with pc := .receive }
  | scanSet (hpc : s.pc = .startScan) : ManagerStep s ok { s with pc := .scanStart, scan := true }
  | scanStart (hpc : s.pc = .scanStart) :
    ManagerStep s ok { s with pc := .receive, scanning := s.scanning || ok }
  | fetchNone (hpc : s.pc = .fetch) (hn : s.nvs = none) :
    ManagerStep s ok { s with pc := .send .startAp }
  | fetchSome {c : Config} (hpc : s.pc = .fetch) (hn : s.nvs = some c) :
    ManagerStep s ok { s with
      pc := .send (if c.ssid = [] then .startAp else .connectSta .restore)
      config := c }
  | send {o : Order} (hpc : s.pc = .send o) (hq : s.queue.length < 3) :
    ManagerStep s ok { s with pc := .receive, queue := s.queue ++ [.order o] }
  | requestUser {c : Config} (hpc : s.pc = .setRequest (.user c)) :
    ManagerStep s ok { s with
      pc := .httpStop (.user c), requestStaConnect := true, requests := s.requests + 1 }
  | requestRestore (hpc : s.pc = .setRequest .restore) :
    ManagerStep s ok { s with pc := .testConnected .restore, restoreSta := true }
  | requestAuto (hpc : s.pc = .setRequest .autoReconnect) :
    ManagerStep s ok { s with pc := .testConnected .autoReconnect }
  | stopUser {c : Config} (hpc : s.pc = .httpStop (.user c)) (hh : s.http = .idle) :
    ManagerStep s ok { s with httpUp := false, pc := .disconnect c }
  | stopAccessPoint (hpc : s.pc = .httpStop .accessPoint) (hh : s.http = .idle) :
    ManagerStep s ok { s with httpUp := false, pc := .httpStart .accessPoint }
  | disconnect {c : Config} (hpc : s.pc = .disconnect c) :
    ManagerStep s ok { s with
      pc := .setUserConfig c
      link := .idle
      events := s.events ++ (s.cutOff .userConnect ok).map .report }
  | setUserConfig {c : Config} (hpc : s.pc = .setUserConfig c) :
    ManagerStep s ok { s with pc := .httpStart (.user c), staConfig := s.config }
  | startUser {c : Config} (hpc : s.pc = .httpStart (.user c)) :
    ManagerStep s ok { s with httpUp := true, pc := .testConnected (.user c) }
  | startAccessPoint (hpc : s.pc = .httpStart .accessPoint) :
    ManagerStep s ok { s with httpUp := true, pc := .receive }
  | testTrue {r : Reason} (hpc : s.pc = .testConnected r) (hc : s.connected = true) :
    ManagerStep s ok { s with pc := .receive }
  | testFalse {r : Reason} (hpc : s.pc = .testConnected r) (hc : s.connected = false) :
    ManagerStep s ok { s with pc := .setConfig r s.scan }
  | setConfig {r : Reason} {scan : Bool} (hpc : s.pc = .setConfig r scan) :
    ManagerStep s ok { s with
      pc := .connect r
      staConfig := s.config
      scanning := s.scanning && !scan
      events := s.events ++ if scan && s.scanning then [.report .scanDone] else [] }
  | connectUser {c : Config} {l : Link} (hpc : s.pc = .connect (.user c))
    (hl : s.link = .idle ∧ l = .connecting s.staConfig ∨ s.link ≠ .idle ∧ l = s.link) :
    ManagerStep s ok { s with pc := .receive, connects := s.requests, link := l }
  | connectOther {r : Reason} {l : Link} (hpc : s.pc = .connect r) (hr : ∀ c, r ≠ .user c)
    (hl : s.link = .idle ∧ l = .connecting s.staConfig ∨ s.link ≠ .idle ∧ l = s.link) :
    ManagerStep s ok { s with pc := .receive, link := l }
  | branchFailed {d : Disconnect} (hpc : s.pc = .disconnected d)
    (hr : s.requestStaConnect = true) :
    ManagerStep s ok { s with
      pc := .failedAttempt d
      shutdownTimer := s.shutdownTimer && !ok
      requestStaConnect := false }
  | branchErase {d : Disconnect} (hpc : s.pc = .disconnected d)
    (hr : s.requestStaConnect = false) (hd : s.requestDisconnect = true) :
    ManagerStep s ok { s with
      pc := .erase d
      shutdownTimer := s.shutdownTimer && !ok
      requestDisconnect := false }
  | branchLost {d : Disconnect} (hpc : s.pc = .disconnected d)
    (hr : s.requestStaConnect = false) (hd : s.requestDisconnect = false) :
    ManagerStep s ok { s with
      pc := .lost d s.apStarted, shutdownTimer := s.shutdownTimer && !ok }
  | failedAttempt {d : Disconnect} (hpc : s.pc = .failedAttempt d) :
    ManagerStep s ok { s with pc := .receive }
  | erase {d : Disconnect} (hpc : s.pc = .erase d) :
    ManagerStep s ok { s with pc := .saveSsid .erased, config := .zero }
  | lostKeep {d : Disconnect} {ap : Bool} {n : Nat} (hpc : s.pc = .lost d ap)
    (hn : ap = true ∧ n = s.retries ∨ ap = false ∧ s.retries < 3 ∧ n = s.retries + 1) :
    ManagerStep s ok { s with
      pc := .receive
      retryTimer := s.retryTimer || ok
      restoreSta := false
      retries := n }
  | lostStart {d : Disconnect} (hpc : s.pc = .lost d false) (hn : ¬ s.retries < 3) :
    ManagerStep s ok { s with
      pc := .send .startAp
      retryTimer := s.retryTimer || ok
      restoreSta := false
      retries := 0 }
  | saveSsid {k : Save} (hpc : s.pc = .saveSsid k) :
    ManagerStep s ok { s with
      pc := .savePassword k
      nvs := some { s.nvs.getD .zero with ssid := s.config.ssid } }
  | saveErased (hpc : s.pc = .savePassword .erased) :
    ManagerStep s ok { s with
      pc := .send .startAp
      nvs := some { s.nvs.getD .zero with password := s.config.password } }
  | saveAddress {c : Config} {ap : Bool} (hpc : s.pc = .savePassword (.address c ap)) :
    ManagerStep s ok { s with
      pc := .finish c ap
      nvs := some { s.nvs.getD .zero with password := s.config.password } }
  | startAp (hpc : s.pc = .startAp) :
    ManagerStep s ok { s with
      pc := .httpStop .accessPoint
      apsta := true
      events := s.events ++ if s.apsta = true then [] else [.apStart] }
  | stopConnected (hpc : s.pc = .stopAp) (hc : s.connected = true) :
    ManagerStep s ok { s with pc := .setModeSta }
  | stopIgnored (hpc : s.pc = .stopAp) (hc : s.connected = false) :
    ManagerStep s ok { s with pc := .receive }
  | setModeSta (hpc : s.pc = .setModeSta) :
    ManagerStep s ok { s with
      pc := .httpStop .accessPoint
      apsta := false
      events := s.events ++ if s.apsta = false then [] else [.apStop] }
  | gotIpRestored {c : Config} (hpc : s.pc = .gotIp c) (hr : s.restoreSta = true) :
    ManagerStep s ok { s with
      pc := .finish c s.apStarted, requestStaConnect := false, restoreSta := false }
  | gotIpSaved {c : Config} (hpc : s.pc = .gotIp c) (hr : s.restoreSta = false) :
    ManagerStep s ok { s with
      pc := .saveSsid (.address c s.apStarted), requestStaConnect := false }
  | finish {c : Config} {ap : Bool} (hpc : s.pc = .finish c ap) :
    ManagerStep s ok { s with
      pc := .receive, retries := 0, shutdownTimer := s.shutdownTimer || (ap && ok) }
  | disconnectSta (hpc : s.pc = .disconnectSta) :
    ManagerStep s ok { s with
      pc := .receive
      requestDisconnect := true
      link := .idle
      events := s.events ++ (s.cutOff .userDisconnect ok).map .report }

variable {s s' : State}

theorem send_eq {m : Message} (hs : s.send m = some s') :
    s.queue.length < 3 ∧ s' = { s with queue := s.queue ++ [m] } := by
  obtain ⟨hq, hs⟩ := Option.ite_none_right_eq_some.mp hs
  exact ⟨hq, (Option.some.inj hs).symm⟩

theorem espWifiConnect_eq (s : State) :
    ∃ l, espWifiConnect s = { s with link := l } ∧
      (s.link = .idle ∧ l = .connecting s.staConfig ∨ s.link ≠ .idle ∧ l = s.link) := by
  unfold espWifiConnect
  cases hl : s.link with
  | idle => exact ⟨_, rfl, .inl ⟨rfl, rfl⟩⟩
  | connecting c =>
    refine ⟨.connecting c, ?_, .inr ⟨by simp, rfl⟩⟩
    show s = { s with link := .connecting c }
    rw [← hl]
  | connected c =>
    refine ⟨.connected c, ?_, .inr ⟨by simp, rfl⟩⟩
    show s = { s with link := .connected c }
    rw [← hl]

theorem manager_cases {ok : Bool} (hs : manager s ok = some s') : ManagerStep s ok s' := by
  unfold manager at hs
  cases hpc : s.pc with
  | receive =>
    cases hq : s.queue with
    | nil => simp [hpc, hq] at hs
    | cons m rest =>
      simp only [hpc, hq, Option.some.injEq] at hs
      exact hs ▸ .receive hpc hq
  | startScan =>
    simp only [hpc, Option.some.injEq] at hs
    subst hs
    split
    · exact .scanIgnored hpc
    · exact .scanSet hpc
  | fetch =>
    simp only [hpc, Option.some.injEq] at hs
    subst hs
    unfold fetch
    split
    · exact .fetchNone hpc ‹_›
    · exact .fetchSome hpc ‹_›
  | send o =>
    simp only [hpc] at hs
    obtain ⟨hq, rfl⟩ := send_eq hs
    exact .send hpc hq
  | setRequest r =>
    simp only [hpc, Option.some.injEq] at hs
    subst hs
    cases r with
    | user c => exact .requestUser hpc
    | restore => exact .requestRestore hpc
    | autoReconnect => exact .requestAuto hpc
  | httpStop k =>
    simp only [hpc] at hs
    obtain ⟨hh, hs⟩ := Option.ite_none_right_eq_some.mp hs
    cases hs
    cases k with
    | user c => exact .stopUser hpc hh
    | accessPoint => exact .stopAccessPoint hpc hh
  | disconnect c =>
    simp only [hpc, Option.some.injEq] at hs
    rw [← hs, espWifiDisconnect_eq]
    exact .disconnect hpc
  | httpStart k =>
    simp only [hpc, Option.some.injEq] at hs
    subst hs
    cases k with
    | user c => exact .startUser hpc
    | accessPoint => exact .startAccessPoint hpc
  | testConnected r =>
    simp only [hpc, Option.some.injEq] at hs
    subst hs
    split
    · exact .testTrue hpc ‹_›
    · exact .testFalse hpc (by simpa using ‹¬ s.connected = true›)
  | setConfig r scan =>
    simp only [hpc, Option.some.injEq] at hs
    rw [← hs, espWifiScanStop_eq]
    exact .setConfig hpc
  | connect r =>
    simp only [hpc, Option.some.injEq] at hs
    subst hs
    cases r with
    | user c =>
      obtain ⟨l, hl, hlink⟩ := espWifiConnect_eq { s with pc := .receive, connects := s.requests }
      rw [hl]
      exact .connectUser hpc hlink
    | restore =>
      obtain ⟨l, hl, hlink⟩ := espWifiConnect_eq { s with pc := .receive }
      exact hl ▸ .connectOther hpc (by simp) hlink
    | autoReconnect =>
      obtain ⟨l, hl, hlink⟩ := espWifiConnect_eq { s with pc := .receive }
      exact hl ▸ .connectOther hpc (by simp) hlink
  | disconnected d =>
    simp only [hpc, Option.some.injEq] at hs
    subst hs
    unfold disconnected
    split
    · exact .branchFailed hpc ‹_›
    · split
      · exact .branchErase hpc (by simpa using ‹¬ s.requestStaConnect = true›) ‹_›
      · exact .branchLost hpc (by simpa using ‹¬ s.requestStaConnect = true›)
          (by simpa using ‹¬ s.requestDisconnect = true›)
  | lost d ap =>
    simp only [hpc, Option.some.injEq] at hs
    subst hs
    unfold lost
    cases ap with
    | true => exact .lostKeep hpc (.inl ⟨rfl, rfl⟩)
    | false =>
      simp only [Bool.false_eq_true, if_false]
      split
      · exact .lostKeep hpc (.inr ⟨rfl, ‹_›, rfl⟩)
      · exact .lostStart hpc ‹_›
  | savePassword k =>
    simp only [hpc, Option.some.injEq] at hs
    subst hs
    cases k with
    | erased => exact .saveErased hpc
    | address c ap => exact .saveAddress hpc
  | startAp =>
    simp only [hpc, Option.some.injEq] at hs
    rw [← hs, espWifiSetMode_eq]
    exact .startAp hpc
  | stopAp =>
    simp only [hpc, Option.some.injEq] at hs
    subst hs
    split
    · exact .stopConnected hpc ‹_›
    · exact .stopIgnored hpc (by simpa using ‹¬ s.connected = true›)
  | setModeSta =>
    simp only [hpc, Option.some.injEq] at hs
    rw [← hs, espWifiSetMode_eq]
    exact .setModeSta hpc
  | gotIp c =>
    simp only [hpc, Option.some.injEq] at hs
    subst hs
    unfold gotIp
    split
    · exact .gotIpRestored hpc ‹_›
    · exact .gotIpSaved hpc (by simpa using ‹¬ s.restoreSta = true›)
  | disconnectSta =>
    simp only [hpc, Option.some.injEq] at hs
    rw [← hs, espWifiDisconnect_eq]
    exact .disconnectSta hpc
  | scanStart =>
    simp only [hpc, Option.some.injEq] at hs
    exact hs ▸ .scanStart hpc
  | setUserConfig c =>
    simp only [hpc, Option.some.injEq] at hs
    exact hs ▸ .setUserConfig hpc
  | failedAttempt d =>
    simp only [hpc, Option.some.injEq] at hs
    exact hs ▸ .failedAttempt hpc
  | erase d =>
    simp only [hpc, Option.some.injEq] at hs
    exact hs ▸ .erase hpc
  | saveSsid k =>
    simp only [hpc, Option.some.injEq] at hs
    exact hs ▸ .saveSsid hpc
  | finish c ap =>
    simp only [hpc, Option.some.injEq] at hs
    exact hs ▸ .finish hpc

/-- A step, by its branch. -/
inductive Step (s : State) : Act → State → Prop
  | manager {ok : Bool} {t : State} (h : ManagerStep s ok t) : Step s (.manager ok) t
  | connectOk {c : Config} (hl : s.link = .connecting c) :
    Step s .connectOk { s with link := .connected c }
  | connectFail {c : Config} (hl : s.link = .connecting c) :
    Step s .connectFail { s with
      link := .idle
      events := s.events ++ [.report (.disconnected ⟨.failed, s.connects⟩)] }
  | lost {c : Config} (hl : s.link = .connected c) :
    Step s .lost { s with
      link := .idle
      events := s.events ++ [.report (.disconnected ⟨.lost, s.connects⟩)] }
  | gotIp {c : Config} (hl : s.link = .connected c) :
    Step s .gotIp { s with events := s.events ++ [.report (.gotIp c)] }
  | scanDone (hsc : s.scanning = true) :
    Step s .scanDone { s with scanning := false, events := s.events ++ [.report .scanDone] }
  | eventSend {r : Report} (he : s.eventTask = some r) (hq : s.queue.length < 3) :
    Step s .eventTask { s with eventTask := none, queue := s.queue ++ [.report r] }
  | eventDisconnected {d : Disconnect} {rest : List Event} (he : s.eventTask = none)
    (hev : s.events = .report (.disconnected d) :: rest) :
    Step s .eventTask { s with
      events := rest, connected := false, scan := false, eventTask := some (.disconnected d) }
  | eventGotIp {c : Config} {rest : List Event} (he : s.eventTask = none)
    (hev : s.events = .report (.gotIp c) :: rest) :
    Step s .eventTask { s with
      events := rest, connected := true, eventTask := some (.gotIp c) }
  | eventScanDone {rest : List Event} (he : s.eventTask = none)
    (hev : s.events = .report .scanDone :: rest) :
    Step s .eventTask { s with events := rest, scan := false, eventTask := some .scanDone }
  | eventApStart {rest : List Event} (he : s.eventTask = none)
    (hev : s.events = .apStart :: rest) :
    Step s .eventTask { s with events := rest, apStarted := true, eventTask := none }
  | eventApStop {rest : List Event} (he : s.eventTask = none)
    (hev : s.events = .apStop :: rest) :
    Step s .eventTask { s with events := rest, apStarted := false, eventTask := none }
  | retryTimer (ht : s.retryTimer = true) (hn : s.timerTask = none) :
    Step s .retryTimer { s with
      retryTimer := false, timerTask := some (.connectSta .autoReconnect) }
  | shutdownTimer (ht : s.shutdownTimer = true) (hn : s.timerTask = none) :
    Step s .shutdownTimer { s with shutdownTimer := false, timerTask := some .stopAp }
  | timerTask {o : Order} {ok : Bool} (ht : s.timerTask = some o) (hq : s.queue.length < 3) :
    Step s (.timerTask ok) { s with
      timerTask := none
      retryTimer := s.retryTimer && !(ok && o == .connectSta .autoReconnect)
      shutdownTimer := s.shutdownTimer && !(ok && o == .stopAp)
      queue := s.queue ++ [.order o] }
  | request {r : Request} (hup : s.httpUp = true) (hh : s.http = .idle) (hr : r.Accepted) :
    Step s (.request r) { s with http := r.handler }
  | httpClear {c : Config} (hh : s.http = .clear c) :
    Step s .http { s with http := .copySsid c, config := .zero }
  | httpSsid {c : Config} (hh : s.http = .copySsid c) :
    Step s .http { s with http := .copyPassword c, config := { s.config with ssid := c.ssid } }
  | httpPassword {c : Config} (hh : s.http = .copyPassword c) :
    Step s .http { s with
      http := .send (.connectSta (.user c))
      config := { s.config with password := c.password } }
  | httpSend {o : Order} (hh : s.http = .send o) (hq : s.queue.length < 3) :
    Step s .http { s with http := .idle, queue := s.queue ++ [.order o] }
  | button (hb : s.buttonTask = none) :
    Step s .button { s with buttonTask := some .startAp }
  | buttonTask {o : Order} (hb : s.buttonTask = some o) (hq : s.queue.length < 3) :
    Step s .buttonTask { s with buttonTask := none, queue := s.queue ++ [.order o] }

theorem eventTask_cases (hs : eventTask s = some s') : Step s .eventTask s' := by
  unfold eventTask at hs
  cases he : s.eventTask with
  | some r =>
    simp only [he] at hs
    obtain ⟨hq, rfl⟩ := send_eq hs
    exact .eventSend he hq
  | none =>
    cases hev : s.events with
    | nil => simp [he, hev] at hs
    | cons e rest =>
      simp only [he, hev, Option.some.injEq] at hs
      subst hs
      rcases e with (_ | d | c) | _ | _
      · exact .eventScanDone he hev
      · exact .eventDisconnected he hev
      · exact .eventGotIp he hev
      · exact .eventApStart he hev
      · exact .eventApStop he hev

theorem http_cases (hs : http s = some s') : Step s .http s' := by
  unfold http at hs
  cases hh : s.http with
  | idle => simp [hh] at hs
  | clear c =>
    simp only [hh, Option.some.injEq] at hs
    exact hs ▸ .httpClear hh
  | copySsid c =>
    simp only [hh, Option.some.injEq] at hs
    exact hs ▸ .httpSsid hh
  | copyPassword c =>
    simp only [hh, Option.some.injEq] at hs
    exact hs ▸ .httpPassword hh
  | send o =>
    simp only [hh] at hs
    obtain ⟨hq, rfl⟩ := send_eq hs
    exact .httpSend hh hq

/-- **What a step can do.** -/
theorem step_cases {a : Act} (hs : step s a = some s') : Step s a s' := by
  cases a with
  | manager ok => exact .manager (manager_cases hs)
  | eventTask => exact eventTask_cases hs
  | http => exact http_cases hs
  | connectOk =>
    cases hl : s.link <;> simp only [step, hl, Option.some.injEq, reduceCtorEq] at hs
    exact hs ▸ .connectOk hl
  | connectFail =>
    cases hl : s.link <;> simp only [step, hl, Option.some.injEq, reduceCtorEq] at hs
    exact hs ▸ .connectFail hl
  | lost =>
    cases hl : s.link <;> simp only [step, hl, Option.some.injEq, reduceCtorEq] at hs
    exact hs ▸ .lost hl
  | gotIp =>
    cases hl : s.link <;> simp only [step, hl, Option.some.injEq, reduceCtorEq] at hs
    exact hs ▸ .gotIp hl
  | scanDone =>
    obtain ⟨hscan, hs⟩ := Option.ite_none_right_eq_some.mp hs
    exact Option.some.inj hs ▸ .scanDone hscan
  | retryTimer =>
    obtain ⟨ht, hs⟩ := Option.ite_none_right_eq_some.mp hs
    exact Option.some.inj hs ▸ .retryTimer ht.1 ht.2
  | shutdownTimer =>
    obtain ⟨ht, hs⟩ := Option.ite_none_right_eq_some.mp hs
    exact Option.some.inj hs ▸ .shutdownTimer ht.1 ht.2
  | timerTask ok =>
    cases ht : s.timerTask with
    | none => simp [step, ht] at hs
    | some o =>
      simp only [step, ht] at hs
      obtain ⟨hq, rfl⟩ := send_eq hs
      exact .timerTask ht hq
  | request r =>
    obtain ⟨hr, hs⟩ := Option.ite_none_right_eq_some.mp hs
    exact Option.some.inj hs ▸ .request hr.1 hr.2.1 hr.2.2
  | button =>
    obtain ⟨hb, hs⟩ := Option.ite_none_right_eq_some.mp hs
    exact Option.some.inj hs ▸ .button hb
  | buttonTask =>
    cases hb : s.buttonTask with
    | none => simp [step, hb] at hs
    | some o =>
      simp only [step, hb] at hs
      obtain ⟨hq, rfl⟩ := send_eq hs
      exact .buttonTask hb hq

end Datk.Wifi
