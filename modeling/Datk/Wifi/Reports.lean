import Datk.Wifi.Steps

/-!
# The reports on their way to the manager

What the driver reports goes from its list of events through the event task and the
queue to the manager, which may still be busy with it.  `reports_step` says what
one step does to these reports, in their order: it adds what it raises at the end
and takes what it handles from the front.  Orders take the same queue, and pass
the reports without changing their order.
-/

namespace Datk.Wifi

def Message.report? : Message → Option Report
  | .order _ => none
  | .report r => some r

def Event.report? : Event → Option Report
  | .report r => some r
  | .apStart | .apStop => none

/-- The report that the manager is busy with. -/
def ManagerPc.report? : ManagerPc → Option Report
  | .disconnected d => some (.disconnected d)
  | .gotIp c => some (.gotIp c)
  | .saveSsid (.address c _) | .savePassword (.address c _) => some (.gotIp c)
  | _ => none

def State.reports (s : State) : List Report :=
  s.pc.report?.toList ++ s.queue.filterMap Message.report? ++ s.eventTask.toList ++
    s.events.filterMap Event.report?

/-- What a step makes the driver report. -/
def State.raised (s : State) : Act → List Report
  | .manager ok =>
    match s.pc with
    | .disconnect _ => s.cutOff .userConnect ok
    | .disconnectSta => s.cutOff .userDisconnect ok
    | .setConfig _ scan => if scan && s.scanning then [.scanDone] else []
    | _ => []
  | .connectFail => [.disconnected ⟨.failed, s.connects⟩]
  | .lost => [.disconnected ⟨.lost, s.connects⟩]
  | .gotIp =>
    match s.link with
    | .connected c => [.gotIp c]
    | .idle | .connecting _ => []
  | .scanDone => [.scanDone]
  | _ => []

/-- The report that a step is the last to be busy with. -/
def State.handled (s : State) : Act → List Report
  | .manager _ =>
    match s.pc with
    | .receive => (s.queue.head?.bind Message.report?).toList.filter (· = .scanDone)
    | .disconnected d => [.disconnected d]
    | .gotIp c => if s.restoreSta then [.gotIp c] else []
    | .savePassword (.address c _) => [.gotIp c]
    | _ => []
  | _ => []

variable {s s' : State}

theorem reports_manager {ok : Bool} (h : ManagerStep s ok s') :
    s.reports ++ s.raised (.manager ok) = s.handled (.manager ok) ++ s'.reports := by
  cases h with
  | @receive m rest hpc hq =>
    rcases m with (_ | _ | _ | _ | _ | _) | (_ | _ | _) <;>
      simp [State.reports, State.raised, State.handled, hpc, hq, dispatch, ManagerPc.report?,
        Message.report?, List.filterMap_cons]
  | disconnect hpc | disconnectSta hpc =>
    simp [State.reports, State.raised, State.handled, hpc, ManagerPc.report?,
      List.filterMap_map, Function.comp_def, Event.report?]
  | setConfig hpc =>
    simp only [State.reports, State.raised, State.handled, hpc, ManagerPc.report?]
    split <;> simp [Event.report?]
  | startAp hpc | setModeSta hpc =>
    simp only [State.reports, State.raised, State.handled, hpc, ManagerPc.report?]
    split <;> simp [Event.report?]
  | @saveSsid k hpc =>
    cases k <;> simp [State.reports, State.raised, State.handled, hpc, ManagerPc.report?]
  | connectOther hpc hr hl =>
    simp [State.reports, State.raised, State.handled, hpc, ManagerPc.report?]
  | gotIpRestored hpc hr | gotIpSaved hpc hr =>
    simp [State.reports, State.raised, State.handled, hpc, hr, ManagerPc.report?]
  | _ => simp [State.reports, State.raised, State.handled, ManagerPc.report?, Message.report?, *]

/-- **One step and the reports**: what it raises comes last, and what it handles
came first. -/
theorem reports_step {a : Act} (h : Step s a s') :
    s.reports ++ s.raised a = s.handled a ++ s'.reports := by
  cases h with
  | manager h => exact reports_manager h
  | eventSend he hq => simp [State.reports, State.raised, State.handled, he, Message.report?]
  | _ =>
    simp [State.reports, State.raised, State.handled, Message.report?, Event.report?,
      List.filterMap_cons, *]

/-! ### Disconnections and addresses -/

def Report.disconnect? : Report → Option Disconnect
  | .disconnected d => some d
  | .scanDone | .gotIp _ => none

def Report.address? : Report → Option Config
  | .gotIp c => some c
  | .scanDone | .disconnected _ => none

/-- The disconnections that are reported and not accounted for yet. -/
def State.disconnects (s : State) : List Disconnect := s.reports.filterMap Report.disconnect?

/-- The configurations of the addresses that are reported and not handled yet. -/
def State.addresses (s : State) : List Config := s.reports.filterMap Report.address?

theorem disconnects_step {a : Act} (h : Step s a s') :
    s.disconnects ++ (s.raised a).filterMap Report.disconnect? =
      (s.handled a).filterMap Report.disconnect? ++ s'.disconnects := by
  have hreports := congrArg (List.filterMap Report.disconnect?) (reports_step h)
  rw [List.filterMap_append, List.filterMap_append] at hreports
  exact hreports

theorem addresses_step {a : Act} (h : Step s a s') :
    s.addresses ++ (s.raised a).filterMap Report.address? =
      (s.handled a).filterMap Report.address? ++ s'.addresses := by
  have hreports := congrArg (List.filterMap Report.address?) (reports_step h)
  rw [List.filterMap_append, List.filterMap_append] at hreports
  exact hreports

/-- What the manager is busy with is among the reports. -/
theorem mem_addresses_of_report {c : Config} (hpc : s.pc.report? = some (.gotIp c)) :
    c ∈ s.addresses := by
  rw [State.addresses, State.reports, hpc]
  exact List.mem_cons_self

theorem not_address_of_cutOff {cause : Cause} {ok : Bool} {c : Config} :
    c ∉ (s.cutOff cause ok).filterMap Report.address? := by
  unfold State.cutOff
  cases s.link with
  | idle | connected _ => simp [Report.address?]
  | connecting _ => cases ok <;> simp [Report.address?]

/-- An address on its way was so before, or has just been obtained. -/
theorem mem_addresses {a : Act} {c : Config} (h : Step s a s') (hc : c ∈ s'.addresses) :
    c ∈ s.addresses ∨ a = .gotIp ∧ s.link = .connected c := by
  have hmem : c ∈ s.addresses ++ (s.raised a).filterMap Report.address? := by
    rw [addresses_step h]
    exact List.mem_append_right _ hc
  refine (List.mem_append.mp hmem).imp_right fun hraised => ?_
  cases a with
  | manager ok =>
    simp only [State.raised] at hraised
    split at hraised
    · exact absurd hraised not_address_of_cutOff
    · exact absurd hraised not_address_of_cutOff
    · split at hraised <;> cases hraised
    · cases hraised
  | gotIp =>
    simp only [State.raised] at hraised
    cases hl : s.link with
    | connected c' =>
      rw [hl] at hraised
      cases List.mem_singleton.mp hraised
      exact ⟨rfl, rfl⟩
    | idle | connecting _ =>
      rw [hl] at hraised
      cases hraised
  | _ => cases hraised

/-! ### What a request claims -/

/-- The disconnection that a bit `REQUEST_STA_CONNECT` would be taken for: the next
one, unless an address comes before it and clears the bit. -/
def claimed : List Report → Option Disconnect
  | .disconnected d :: _ => some d
  | .scanDone :: rs => claimed rs
  | .gotIp _ :: _ | [] => none

theorem claimed_mem {rs : List Report} {d : Disconnect} (h : claimed rs = some d) :
    d ∈ rs.filterMap Report.disconnect? := by
  induction rs with
  | nil => cases h
  | cons r rs ih =>
    cases r with
    | scanDone => exact ih h
    | disconnected e =>
      cases h
      exact List.mem_cons_self
    | gotIp c => cases h

theorem claimed_append {rs : List Report}
    (h : rs.filterMap Report.disconnect? ≠ [] ∨ rs.filterMap Report.address? ≠ [])
    (es : List Report) : claimed (rs ++ es) = claimed rs := by
  induction rs with
  | nil => exact absurd h (by simp)
  | cons e rs ih =>
    cases e with
    | scanDone => exact ih h
    | disconnected d => rfl
    | gotIp c => rfl

/-- What is claimed behind later reports was claimed before, or is one of these. -/
theorem claimed_append_cases {rs es : List Report} {d : Disconnect}
    (h : claimed (rs ++ es) = some d) : claimed rs = some d ∨ claimed es = some d := by
  induction rs with
  | nil => exact .inr h
  | cons r rs ih =>
    cases r with
    | scanDone => exact ih h
    | disconnected e => exact .inl h
    | gotIp c => cases h

theorem after_of_cutOff {cause : Cause} {ok : Bool} {d : Disconnect}
    (h : claimed (s.cutOff cause ok) = some d) : d.after = s.connects := by
  unfold State.cutOff at h
  cases hl : s.link with
  | idle => simp [hl, claimed] at h
  | connecting c =>
    cases ok with
    | true =>
      simp only [hl, if_true, claimed, Option.some.injEq] at h
      rw [← h]
    | false => simp [hl, claimed] at h
  | connected c =>
    simp only [hl, claimed, Option.some.injEq] at h
    rw [← h]

/-- A message that the manager takes from the queue leaves what is claimed. -/
theorem claimed_receive {m : Message} {rest : List Message} (hpc : s.pc = .receive)
    (hq : s.queue = m :: rest) :
    claimed (State.reports { s with pc := dispatch m, queue := rest }) = claimed s.reports := by
  rcases m with (_ | _ | _ | _ | _ | _) | (_ | _ | _) <;>
    simp [State.reports, hpc, hq, dispatch, ManagerPc.report?, Message.report?, claimed,
      List.filterMap_cons]

end Datk.Wifi
