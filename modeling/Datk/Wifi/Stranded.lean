import Datk.Wifi.Reports

/-!
# The device is not stranded

A device whose station is idle and whose access point is off can be reached again only
if something is under way that will start one of them: a message, the retry timer, a
disconnection that the manager has yet to deal with, or the statement that it has come
to.  `Alive` says that there is such a thing.

Three branches use up the last one and start nothing: a disconnection taken for the
failure of a user's attempt, an order to disconnect that breaks off an attempt without
a report, and a lost connection whose `xTimerStart` is refused.
-/

namespace Datk.Wifi

/-- Nothing is in flight: no message, no operation or event of the driver, and no
retry. -/
structure Quiescent (s : State) : Prop where
  pc : s.pc = .receive
  queue : s.queue = []
  link : s.link = .idle ∨ s.link.isConnected = true
  scanning : s.scanning = false
  events : s.events = []
  eventTask : s.eventTask = none
  retryTimer : s.retryTimer = false
  timerTask : s.timerTask = none

instance (s : State) : Decidable (Quiescent s) :=
  decidable_of_iff (s.pc = .receive ∧ s.queue = [] ∧ (s.link = .idle ∨ s.link.isConnected = true) ∧
      s.scanning = false ∧ s.events = [] ∧ s.eventTask = none ∧ s.retryTimer = false ∧
      s.timerTask = none)
    ⟨fun ⟨hpc, hq, hl, hsc, hev, he, hr, ht⟩ => ⟨hpc, hq, hl, hsc, hev, he, hr, ht⟩,
      fun h => ⟨h.pc, h.queue, h.link, h.scanning, h.events, h.eventTask, h.retryTimer,
        h.timerTask⟩⟩

/-- **The device is never stranded.** -/
def NotStranded (s : State) : Prop := Quiescent s → s.link.isConnected = true ∨ s.apsta = true

/-- The orders that start the access point or an attempt. -/
def Order.restores : Order → Bool
  | .startAp | .loadAndRestore | .connectSta _ => true
  | .startScan | .disconnectSta | .stopAp => false

def Message.restores : Message → Bool
  | .order o => o.restores
  | .report _ => false

/-- The statements that lead to one of these orders, to the start of the retry timer,
or to the access point or an attempt itself. -/
def ManagerPc.restores : ManagerPc → Bool
  | .send o => o.restores
  | .fetch | .setRequest _ | .httpStop (.user _) | .disconnect _ | .setUserConfig _
  | .httpStart (.user _) | .testConnected _ | .setConfig _ _ | .connect _ | .erase _ | .lost _ _
  | .saveSsid .erased | .savePassword .erased | .startAp => true
  | _ => false

/-- What is under way apart from the station and the manager, with the disconnections
`ds`. -/
def State.Pending (s : State) (ds : List Disconnect) : Prop :=
  s.apsta = true ∨ ds ≠ [] ∨ s.queue.any Message.restores = true ∨ s.retryTimer = true ∨
    s.timerTask.any Order.restores = true

instance (s : State) (ds : List Disconnect) : Decidable (s.Pending ds) :=
  inferInstanceAs (Decidable (_ ∨ _ ∨ _ ∨ _ ∨ _))

def Alive (s : State) : Prop :=
  s.pc.restores = true ∨ s.link ≠ .idle ∨ s.Pending s.disconnects

def ManagerPc.Assisted (s : State) (ok : Bool) : ManagerPc → Prop
  | .disconnected _ =>
    s.requestStaConnect = true → s.link ≠ .idle ∨ s.Pending s.disconnects.tail
  | .lost _ ap =>
    ok = false → ap = false ∧ ¬ s.retries < 3 ∨ s.link ≠ .idle ∨ s.Pending s.disconnects
  | .disconnectSta =>
    s.cutOff .userDisconnect ok = [] → s.link = .idle ∨ s.Pending s.disconnects
  | _ => True

/-- A disconnection that is taken for the failure of a user's attempt, an order to
disconnect that breaks off an attempt without a report, and a lost connection whose
`xTimerStart` is refused come while the access point is on or something else is under
way, or the last of them is one too many and has the access point started. -/
def Assisted (s : State) : Act → Prop
  | .manager ok => s.pc.Assisted s ok
  | _ => True

instance (s : State) (ok : Bool) (p : ManagerPc) : Decidable (p.Assisted s ok) := by
  induction p using ManagerPc.casesOn with
  | disconnected d => exact inferInstanceAs (Decidable (_ → _ ∨ _))
  | lost d ap => exact inferInstanceAs (Decidable (_ → _ ∨ _ ∨ _))
  | disconnectSta => exact inferInstanceAs (Decidable (_ → _ ∨ _))
  | _ => exact .isTrue trivial

instance (s : State) : ∀ a, Decidable (Assisted s a)
  | .manager ok => inferInstanceAs (Decidable (s.pc.Assisted s ok))
  | .connectOk | .connectFail | .lost | .gotIp | .scanDone | .eventTask | .retryTimer
  | .shutdownTimer | .timerTask _ | .request _ | .http | .button | .buttonTask => .isTrue trivial

/-- The bit `WIFI_CONNECTED` once the event task has handled `es`. -/
def connectedAfter : Bool → List Event → Bool
  | b, [] => b
  | _, .report (.disconnected _) :: es => connectedAfter false es
  | _, .report (.gotIp _) :: es => connectedAfter true es
  | b, .report .scanDone :: es | b, .apStart :: es | b, .apStop :: es => connectedAfter b es

theorem connectedAfter_append (b : Bool) (es fs : List Event) :
    connectedAfter b (es ++ fs) = connectedAfter (connectedAfter b es) fs := by
  induction es generalizing b with
  | nil => rfl
  | cons e es ih => rcases e with (_ | _ | _) | _ | _ <;> exact ih _

/-- Only a disconnection clears the bit. -/
theorem disconnects_of_connectedAfter {es : List Event} (h : connectedAfter true es = false) :
    (es.filterMap Event.report?).filterMap Report.disconnect? ≠ [] := by
  induction es with
  | nil => cases h
  | cons e es ih =>
    rcases e with (_ | d | c) | _ | _
    · exact ih h
    · simp [Event.report?, Report.disconnect?]
    · exact ih h
    · exact ih h
    · exact ih h

structure Kept (s : State) : Prop where
  alive : Alive s
  bit : connectedAfter s.connected s.events = true → s.link.isConnected = true
  steady : s.pc = .setModeSta → s.link.isConnected = true ∨ s.disconnects ≠ []

theorem kept_boot (nvs : Option Config) : Kept (boot nvs) where
  alive := .inl rfl
  bit := by
    intro h
    cases h
  steady := by
    intro h
    cases h

variable {s s' : State}

theorem Quiescent.notStranded (h : Quiescent s) (halive : Alive s) :
    s.link.isConnected = true ∨ s.apsta = true := by
  have hdisc : s.disconnects = [] := by
    simp [State.disconnects, State.reports, h.pc, h.queue, h.events, h.eventTask,
      ManagerPc.report?]
  rcases halive with hpc | hlink | hap | hds | hq | ht | ho
  · rw [h.pc] at hpc
    cases hpc
  · exact .inl (h.link.resolve_left hlink)
  · exact .inr hap
  · exact absurd hdisc hds
  · rw [h.queue] at hq
    cases hq
  · rw [h.retryTimer] at ht
    cases ht
  · rw [h.timerTask] at ho
    cases ho

theorem disconnects_ne_nil {d : Disconnect} (hd : s.disconnects ++ [d] = s'.disconnects) :
    s'.disconnects ≠ [] := by
  rw [← hd]
  exact List.append_ne_nil_of_right_ne_nil _ (List.cons_ne_nil d [])

/-- What is under way stays so, where no disconnection is dealt with. -/
theorem State.Pending.frame {ds : List Disconnect} (h : s.Pending s.disconnects)
    (hap : s'.apsta = s.apsta) (hd : s.disconnects ++ ds = s'.disconnects)
    (hq : s.queue.any Message.restores = true → s'.queue.any Message.restores = true)
    (ht : s'.retryTimer = s.retryTimer)
    (ho : s.timerTask.any Order.restores = true →
      s'.queue.any Message.restores = true ∨ s'.timerTask.any Order.restores = true) :
    s'.Pending s'.disconnects := by
  rcases h with h | h | h | h | h
  · exact .inl (hap.trans h)
  · refine .inr (.inl fun hnil => h ?_)
    rw [← hd] at hnil
    exact (List.append_eq_nil_iff.mp hnil).1
  · exact .inr (.inr (.inl (hq h)))
  · exact .inr (.inr (.inr (.inl (ht.trans h))))
  · exact .inr (.inr ((ho h).imp_right .inr))

/-- A statement of the manager that is not under way itself. -/
theorem Alive.pass {ds : List Disconnect} (h : Alive s) (hpc : s.pc.restores = false)
    (hlink : s'.link = s.link) (hap : s'.apsta = s.apsta)
    (hd : s.disconnects ++ ds = s'.disconnects)
    (hq : s.queue.any Message.restores = true → s'.queue.any Message.restores = true)
    (ht : s'.retryTimer = s.retryTimer) (ho : s'.timerTask = s.timerTask) : Alive s' := by
  have hunder : s.link ≠ .idle ∨ s.Pending s.disconnects :=
    h.resolve_left (by simp [hpc])
  exact .inr (hunder.imp (hlink ▸ id) fun hp => hp.frame hap hd hq ht fun h => .inr (ho ▸ h))

/-- What another task does. -/
theorem Alive.frame {ds : List Disconnect} (h : Alive s) (hpc : s'.pc = s.pc)
    (hlink : s'.link = s.link) (hap : s'.apsta = s.apsta)
    (hd : s.disconnects ++ ds = s'.disconnects)
    (hq : s.queue.any Message.restores = true → s'.queue.any Message.restores = true)
    (ht : s'.retryTimer = s.retryTimer)
    (ho : s.timerTask.any Order.restores = true →
      s'.queue.any Message.restores = true ∨ s'.timerTask.any Order.restores = true) :
    Alive s' := by
  rw [Alive, hpc, hlink]
  exact h.imp_right (Or.imp_right fun hp => hp.frame hap hd hq ht ho)

theorem any_restores_append {q : List Message} {m : Message}
    (h : q.any Message.restores = true ∨ m.restores = true) :
    (q ++ [m]).any Message.restores = true := by
  rw [List.any_append, Bool.or_eq_true]
  refine h.imp id fun hm => ?_
  rw [List.any_cons, hm]
  rfl

theorem Link.ne_idle {l : Link} (h : l.isConnected = true) : l ≠ .idle := by
  rintro rfl
  cases h

/-- All that `esp_wifi_disconnect` reports are disconnections. -/
theorem disconnects_of_cutOff {cause : Cause} {ok : Bool} (h : s.cutOff cause ok ≠ []) :
    (s.cutOff cause ok).filterMap Report.disconnect? ≠ [] := by
  unfold State.cutOff at h ⊢
  cases hl : s.link with
  | idle => simp [hl] at h
  | connecting c =>
    cases ok with
    | false =>
      rw [hl] at h
      exact absurd rfl h
    | true => exact List.cons_ne_nil _ _
  | connected c => simp [Report.disconnect?]

namespace Kept

/-- The bit that the manager has found set is that of a connection, or a disconnection
is on its way. -/
theorem connected_or (h : Kept s) (hc : s.connected = true) :
    s.link.isConnected = true ∨ s.disconnects ≠ [] := by
  cases hafter : connectedAfter s.connected s.events with
  | true => exact .inl (h.bit hafter)
  | false =>
    rw [hc] at hafter
    refine .inr fun hnil => disconnects_of_connectedAfter hafter ?_
    rw [State.disconnects, State.reports, List.filterMap_append] at hnil
    exact (List.append_eq_nil_iff.mp hnil).2

theorem alive_manager {ok : Bool} (h : Kept s) (hok : s.pc.Assisted s ok)
    (hs : ManagerStep s ok s') : Alive s' := by
  have hd := disconnects_step (.manager hs)
  cases hs with
  | @receive m rest hpc hq =>
    cases hm : m.restores with
    | true =>
      left
      rcases m with (_ | _ | _ | _ | _ | _) | r <;> first | rfl | cases hm
    | false =>
      have hnone : (s.handled (.manager ok)).filterMap Report.disconnect? = [] := by
        rcases m with o | _ | d | c <;>
          simp [State.handled, hpc, hq, Message.report?, Report.disconnect?]
      simp only [hnone, State.raised, hpc, List.nil_append] at hd
      refine h.alive.pass (by rw [hpc]; rfl) rfl rfl hd (fun hany => ?_) rfl rfl
      rw [hq, List.any_cons, hm] at hany
      exact hany
  | @fetchSome c hpc hn =>
    left
    show (if c.ssid = [] then Order.startAp else Order.connectSta .restore).restores = true
    split <;> rfl
  | @send o hpc hq =>
    simp only [hpc, State.raised, State.handled] at hd
    cases ho : o.restores with
    | true => exact .inr (.inr (.inr (.inr (.inl (any_restores_append (.inr ho))))))
    | false =>
      exact h.alive.pass (by rw [hpc]; exact ho) rfl rfl hd
        (fun hany => any_restores_append (.inl hany)) rfl rfl
  | @testTrue r hpc hc =>
    simp only [hpc, State.raised, State.handled, List.filterMap_nil, List.append_nil,
      List.nil_append] at hd
    refine .inr ((h.connected_or hc).imp Link.ne_idle fun hne => .inr (.inl ?_))
    rw [← hd]
    exact hne
  | connectUser hpc hl | connectOther hpc hr hl =>
    rcases hl with ⟨-, rfl⟩ | ⟨hne, rfl⟩
    · exact .inr (.inl (by simp))
    · exact .inr (.inl hne)
  | @branchFailed d hpc hr =>
    simp only [hpc, State.raised, State.handled, List.filterMap_nil, List.append_nil] at hd
    rw [hpc] at hok
    have hpending := hok hr
    rw [hd] at hpending
    exact .inr hpending
  | disconnectSta hpc =>
    simp only [hpc, State.raised, State.handled, List.filterMap_nil, List.nil_append] at hd
    rw [hpc] at hok
    by_cases hcut : s.cutOff .userDisconnect ok = []
    · have hunder : s.link ≠ .idle ∨ s.Pending s.disconnects :=
        h.alive.resolve_left (by simp [hpc, ManagerPc.restores])
      have hpending : s.Pending s.disconnects :=
        (hok hcut).elim (fun hidle => hunder.resolve_left (absurd hidle)) id
      exact .inr (.inr (hpending.frame rfl hd id rfl .inr))
    · refine .inr (.inr (.inr (.inl ?_)))
      rw [← hd]
      exact List.append_ne_nil_of_right_ne_nil _ (disconnects_of_cutOff hcut)
  | setModeSta hpc =>
    simp only [hpc, State.raised, State.handled, List.filterMap_nil, List.append_nil,
      List.nil_append] at hd
    refine .inr ((h.steady hpc).imp Link.ne_idle fun hne => .inr (.inl ?_))
    rw [← hd]
    exact hne
  | @lostKeep d ap n hpc hn =>
    simp only [hpc, State.raised, State.handled] at hd
    rw [hpc] at hok
    cases ok with
    | true => exact .inr (.inr (.inr (.inr (.inr (.inl (Bool.or_true _))))))
    | false =>
      have hunder : s.link ≠ .idle ∨ s.Pending s.disconnects := by
        refine (hok rfl).resolve_left fun hstart => ?_
        rcases hn with ⟨htrue, -⟩ | ⟨-, hlt, -⟩
        · rw [hstart.1] at htrue
          cases htrue
        · exact hstart.2 hlt
      exact .inr (hunder.imp id fun hp => hp.frame rfl hd id (Bool.or_false _) .inr)
  | startAp hpc => exact .inr (.inr (.inl rfl))
  | @saveSsid k hpc =>
    simp only [hpc, State.raised, State.handled] at hd
    cases k with
    | erased => exact .inl rfl
    | address c ap => exact h.alive.pass (by rw [hpc]; rfl) rfl rfl hd id rfl rfl
  | saveAddress hpc =>
    simp only [hpc, State.raised, State.handled] at hd
    exact h.alive.pass (by rw [hpc]; rfl) rfl rfl hd id rfl rfl
  | gotIpRestored hpc hr | gotIpSaved hpc hr =>
    simp only [hpc, hr, State.raised, State.handled] at hd
    exact h.alive.pass (by rw [hpc]; rfl) rfl rfl hd id rfl rfl
  | _ hpc =>
    first
      | exact .inl rfl
      | simp only [hpc, State.raised, State.handled] at hd
        exact h.alive.pass (by rw [hpc]; rfl) rfl rfl hd id rfl rfl

/-- `esp_wifi_disconnect` leaves the bit clear, once its event is handled. -/
theorem bit_cutOff (h : Kept s) {cause : Cause} {ok : Bool} :
    connectedAfter s.connected (s.events ++ (s.cutOff cause ok).map .report) = false := by
  rw [connectedAfter_append]
  cases hafter : connectedAfter s.connected s.events with
  | true =>
    have hconnected := h.bit hafter
    cases hl : s.link with
    | idle | connecting c => simp [hl, Link.isConnected] at hconnected
    | connected c => simp [State.cutOff, hl, connectedAfter]
  | false =>
    cases hl : s.link with
    | idle => simp [State.cutOff, hl, connectedAfter]
    | connecting c => cases ok <;> simp [State.cutOff, hl, connectedAfter]
    | connected c => simp [State.cutOff, hl, connectedAfter]

theorem bit_manager {ok : Bool} (h : Kept s) (hs : ManagerStep s ok s') :
    connectedAfter s'.connected s'.events = true → s'.link.isConnected = true := by
  have hbit := h.bit
  cases hs with
  | disconnect hpc | disconnectSta hpc =>
    intro hafter
    rw [h.bit_cutOff] at hafter
    cases hafter
  | setConfig hpc | startAp hpc | setModeSta hpc =>
    intro hafter
    rw [connectedAfter_append] at hafter
    split at hafter <;> exact hbit hafter
  | connectUser hpc hl | connectOther hpc hr hl =>
    intro hafter
    rcases hl with ⟨hidle, rfl⟩ | ⟨-, rfl⟩
    · have hconnected := hbit hafter
      simp [hidle, Link.isConnected] at hconnected
    · exact hbit hafter
  | _ hpc => exact hbit

theorem steady_manager {ok : Bool} (h : Kept s) (hs : ManagerStep s ok s')
    (hmode : s'.pc = .setModeSta) : s'.link.isConnected = true ∨ s'.disconnects ≠ [] := by
  have hd := disconnects_step (.manager hs)
  cases hs with
  | @receive m rest hpc hq =>
    rcases m with (_ | _ | _ | _ | _ | _) | (_ | _ | _) <;> cases hmode
  | stopConnected hpc hc =>
    simp only [hpc, State.raised, State.handled, List.filterMap_nil, List.append_nil,
      List.nil_append] at hd
    refine (h.connected_or hc).imp id fun hne => ?_
    rw [← hd]
    exact hne
  | _ hpc => cases hmode

theorem step {a : Act} (h : Kept s) (hok : Assisted s a) (hs : Step s a s') : Kept s' := by
  have hd := disconnects_step hs
  have halive := h.alive
  have hbit := h.bit
  have hsteady : ∀ ds, s.disconnects ++ ds = s'.disconnects → s'.link = s.link →
      s.pc = .setModeSta → s'.link.isConnected = true ∨ s'.disconnects ≠ [] := by
    intro ds hds hlink hpc
    rw [hlink, ← hds]
    refine (h.steady hpc).imp id fun hne hnil => hne (List.append_eq_nil_iff.mp hnil).1
  cases hs with
  | manager hs => exact ⟨h.alive_manager hok hs, h.bit_manager hs, h.steady_manager hs⟩
  | connectOk hl => exact ⟨.inr (.inl (by simp)), fun _ => rfl, fun _ => .inl rfl⟩
  | connectFail hl | lost hl =>
    have hne := disconnects_ne_nil hd
    refine ⟨.inr (.inr (.inr (.inl hne))), fun hafter => ?_, fun _ => .inr hne⟩
    rw [connectedAfter_append] at hafter
    cases hafter
  | gotIp hl =>
    simp only [State.raised, hl] at hd
    refine ⟨halive.frame rfl rfl rfl hd id rfl .inr, fun _ => ?_, hsteady _ hd rfl⟩
    show s.link.isConnected = true
    rw [hl]
    rfl
  | scanDone hsc =>
    refine ⟨halive.frame rfl rfl rfl hd id rfl .inr, fun hafter => ?_, hsteady _ hd rfl⟩
    rw [connectedAfter_append] at hafter
    exact hbit hafter
  | eventDisconnected he hev | eventGotIp he hev | eventScanDone he hev | eventApStart he hev
  | eventApStop he hev =>
    rw [hev] at hbit
    exact ⟨halive.frame rfl rfl rfl hd id rfl .inr, hbit, hsteady _ hd rfl⟩
  | retryTimer ht hn =>
    exact ⟨.inr (.inr (.inr (.inr (.inr (.inr rfl))))), hbit, hsteady _ hd rfl⟩
  | shutdownTimer ht hn =>
    refine ⟨halive.frame rfl rfl rfl hd id rfl fun ho => ?_, hbit, hsteady _ hd rfl⟩
    rw [hn] at ho
    cases ho
  | @timerTask o ok ht hq =>
    refine ⟨?_, hbit, hsteady _ hd rfl⟩
    -- what stops the retry timer also sends its order
    by_cases ho : o = .connectSta .autoReconnect
    · subst ho
      exact .inr (.inr (.inr (.inr (.inl (any_restores_append (.inr rfl))))))
    · have htimer : (s.retryTimer && !(ok && o == .connectSta .autoReconnect)) = s.retryTimer := by
        simp [ho]
      refine halive.frame rfl rfl rfl hd (fun hany => any_restores_append (.inl hany)) htimer
        fun hany => ?_
      rw [ht] at hany
      exact .inl (any_restores_append (.inr hany))
  | eventSend hh hq | httpSend hh hq | buttonTask hb hq =>
    exact ⟨halive.frame rfl rfl rfl hd (fun hany => any_restores_append (.inl hany)) rfl .inr,
      hbit, hsteady _ hd rfl⟩
  | _ => exact ⟨halive.frame rfl rfl rfl hd id rfl .inr, hbit, hsteady _ hd rfl⟩

end Kept

/-- **The device is never stranded**, in all runs where a disconnection that starts
nothing itself comes while something else is under way. -/
theorem notStranded_of_assisted {s : State} (h : system.Reaches Assisted s) : NotStranded s := by
  have hkept : Kept s := by
    refine h.invariant ?_ fun _ _ _ hkept hok hs => hkept.step hok (step_cases hs)
    rintro _ ⟨nvs, rfl⟩
    exact kept_boot nvs
  exact fun hquiet => hquiet.notStranded hkept.alive

/-- A new device, after a user's attempt with a wrong password. -/
theorem notStranded_after_failure :
    ∃ s, system.Reaches Assisted s ∧ Quiescent s ∧ s.link = .idle ∧ NotStranded s := by
  have hrun : ∃ s, system.Reaches Assisted s ∧ Quiescent s ∧ s.link = .idle :=
    Lib.System.exists_of_execute
      (opened ++ posted ⟨['n'], ['p']⟩ ++ List.replicate 9 (.manager false) ++
        [.connectFail, .eventTask, .eventTask] ++ List.replicate 3 (.manager false))
      (s := boot none) ⟨_, rfl⟩ (by decide +kernel)
  obtain ⟨s, hs, hquiet, hlink⟩ := hrun
  exact ⟨s, hs, hquiet, hlink, notStranded_of_assisted hs⟩

/-- The station is connected and the access point is off, and a user posts another
network: the disconnection is taken for the failure of an attempt that is not made. -/
theorem not_notStranded : ¬ ∀ s, system.Reachable s → NotStranded s := by
  intro h
  have hrun : ∃ s, system.Reachable s ∧ Quiescent s ∧ s.link = .idle ∧ s.apsta = false :=
    Lib.System.exists_of_execute
      (restored ++ posted ⟨['m'], ['q']⟩ ++ List.replicate 7 (.manager false) ++
        [.eventTask, .eventTask] ++ List.replicate 3 (.manager false))
      (s := boot (some ⟨['n'], ['p']⟩)) ⟨_, rfl⟩ (by decide +kernel)
  obtain ⟨s, hs, hquiet, hlink, hap⟩ := hrun
  rcases h s hs hquiet with hc | hc
  · rw [hlink] at hc
    cases hc
  · rw [hap] at hc
    cases hc

end Datk.Wifi
