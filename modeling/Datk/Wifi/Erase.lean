import Datk.Wifi.Reports

/-!
# Which disconnection erases the credentials

The branch of `WM_EVENT_STA_DISCONNECTED` that erases the configuration is meant for
the disconnection that a user ordered.  The manager tells it by the bit
`REQUEST_DISCONNECT`, which the order sets whether or not the station is connected,
and it looks at `REQUEST_STA_CONNECT` first.  `Sticky` is what the two bits say of
the disconnections on their way.
-/

namespace Datk.Wifi

/-- The disconnections that a bit `REQUEST_STA_CONNECT` would not be taken for. -/
def unclaimed (request : Bool) : List Report → List Disconnect
  | .disconnected d :: rs =>
    if request then rs.filterMap Report.disconnect? else d :: rs.filterMap Report.disconnect?
  | .scanDone :: rs => unclaimed request rs
  | .gotIp _ :: rs => rs.filterMap Report.disconnect?
  | [] => []

/-- The comment in `wifi_manager_event_handler`: `esp_wifi_disconnect` raises no event
unless the station is connected. -/
def ManagerPc.AsDocumented (ok : Bool) : ManagerPc → Prop
  | .disconnect _ | .disconnectSta => ok = false
  | _ => True

def AsDocumented (s : State) : Act → Prop
  | .manager ok => s.pc.AsDocumented ok
  | _ => True

def ManagerPc.OneByOne (s : State) : ManagerPc → Prop
  | .disconnectSta =>
    if s.requestDisconnect then s.link.isConnected = false
    else s.link.isConnected = true ∧ unclaimed s.requestStaConnect s.reports = [] ∧
      (s.requestStaConnect = true → s.disconnects ≠ [] ∨ s.addresses ≠ [])
  | .setRequest (.user _) =>
    s.requestDisconnect = true → s.requestStaConnect = true ∨ claimed s.reports = none
  | _ => True

/-- An order to disconnect finds the station connected, and the disconnection it will
cause is the first that the manager can take for it; or else one is pending already
and the station is not connected any more.  A request of a connection does not claim
the disconnection that is pending. -/
def OneByOne (s : State) : Act → Prop
  | .manager _ => s.pc.OneByOne s
  | _ => True

instance (ok : Bool) (p : ManagerPc) : Decidable (p.AsDocumented ok) := by
  induction p using ManagerPc.casesOn with
  | disconnect c => exact inferInstanceAs (Decidable (_ = _))
  | disconnectSta => exact inferInstanceAs (Decidable (_ = _))
  | _ => exact .isTrue trivial

instance (s : State) : ∀ a, Decidable (AsDocumented s a)
  | .manager ok => inferInstanceAs (Decidable (s.pc.AsDocumented ok))
  | .connectOk | .connectFail | .lost | .gotIp | .scanDone | .eventTask | .retryTimer
  | .shutdownTimer | .timerTask _ | .request _ | .http | .button | .buttonTask => .isTrue trivial

instance (s : State) (p : ManagerPc) : Decidable (p.OneByOne s) := by
  induction p using ManagerPc.casesOn with
  | disconnectSta => exact inferInstanceAs (Decidable (ite _ _ _))
  | setRequest r =>
    induction r using Reason.casesOn with
    | user c => exact inferInstanceAs (Decidable (_ → _))
    | restore | autoReconnect => exact .isTrue trivial
  | _ => exact .isTrue trivial

instance (s : State) : ∀ a, Decidable (OneByOne s a)
  | .manager _ => inferInstanceAs (Decidable (s.pc.OneByOne s))
  | .connectOk | .connectFail | .lost | .gotIp | .scanDone | .eventTask | .retryTimer
  | .shutdownTimer | .timerTask _ | .request _ | .http | .button | .buttonTask => .isTrue trivial

/-! ### What is not claimed -/

theorem unclaimed_false (rs : List Report) :
    unclaimed false rs = rs.filterMap Report.disconnect? := by
  induction rs with
  | nil => rfl
  | cons r rs ih =>
    cases r with
    | scanDone => exact ih
    | disconnected e => rfl
    | gotIp c => rfl

/-- A bit that claims nothing leaves everything unclaimed. -/
theorem unclaimed_of_claimed_eq_none {rs : List Report} (h : claimed rs = none) (r : Bool) :
    unclaimed r rs = rs.filterMap Report.disconnect? := by
  induction rs with
  | nil => rfl
  | cons e rs ih =>
    cases e with
    | scanDone => exact ih h
    | disconnected d => cases h
    | gotIp c => rfl

/-- Later reports come behind what is unclaimed. -/
theorem unclaimed_append {rs : List Report} {r : Bool}
    (h : r = true → rs.filterMap Report.disconnect? ≠ [] ∨ rs.filterMap Report.address? ≠ [])
    (es : List Report) :
    unclaimed r (rs ++ es) = unclaimed r rs ++ es.filterMap Report.disconnect? := by
  induction rs with
  | nil =>
    cases r with
    | true => exact absurd (h rfl) (by simp)
    | false => exact unclaimed_false es
  | cons e rs ih =>
    cases e with
    | scanDone => exact ih h
    | disconnected d => cases r <;> simp [unclaimed]
    | gotIp c => simp [unclaimed]

/-! ### What is owed to a user -/

/-- With the bit `REQUEST_DISCONNECT` set: the first disconnection that is not claimed
is the one that the user ordered, and there is no other. -/
structure Owed (request : Bool) (rs : List Report) : Prop where
  first : ∃ d rest, unclaimed request rs = d :: rest ∧ d.cause = .userDisconnect ∧
    ∀ e ∈ rest, e.cause ≠ .userDisconnect
  other : request = true → ∀ d, claimed rs = some d → d.cause ≠ .userDisconnect

namespace Owed

variable {request : Bool} {rs es : List Report}

theorem disconnects_ne_nil (h : Owed request rs) : rs.filterMap Report.disconnect? ≠ [] := by
  obtain ⟨d, rest, hfirst, -⟩ := h.first
  induction rs with
  | nil => cases hfirst
  | cons e rs ih =>
    cases e with
    | scanDone => exact ih ⟨h.first, h.other⟩ hfirst
    | disconnected e => simp [Report.disconnect?]
    | gotIp c =>
      show rs.filterMap Report.disconnect? ≠ []
      exact (show rs.filterMap Report.disconnect? = d :: rest from hfirst) ▸ List.cons_ne_nil d rest

theorem append (h : Owed request rs)
    (hes : ∀ e ∈ es.filterMap Report.disconnect?, e.cause ≠ .userDisconnect) :
    Owed request (rs ++ es) := by
  obtain ⟨d, rest, hfirst, hd, hrest⟩ := h.first
  have hne := h.disconnects_ne_nil
  constructor
  · refine ⟨d, rest ++ es.filterMap Report.disconnect?, ?_, hd, ?_⟩
    · rw [unclaimed_append fun _ => .inl hne, hfirst, List.cons_append]
    · exact List.forall_mem_append.mpr ⟨hrest, hes⟩
  · rw [claimed_append (.inl hne)]
    exact h.other

theorem scanDone (h : Owed request (.scanDone :: rs)) : Owed request rs := ⟨h.first, h.other⟩

theorem failedAttempt {d : Disconnect} (h : Owed true (.disconnected d :: rs)) : Owed false rs where
  first := by
    rw [unclaimed_false]
    exact h.first
  other := by simp

theorem erase {d : Disconnect} (h : Owed false (.disconnected d :: rs)) :
    d.cause = .userDisconnect ∧
      ∀ e ∈ rs.filterMap Report.disconnect?, e.cause ≠ .userDisconnect := by
  obtain ⟨e, rest, hfirst, he, hrest⟩ := h.first
  obtain ⟨rfl, rfl⟩ := List.cons.inj hfirst
  exact ⟨he, hrest⟩

theorem gotIp {c : Config} (h : Owed request (.gotIp c :: rs)) : Owed false rs where
  first := by
    rw [unclaimed_false]
    exact h.first
  other := by simp

/-- An address that is on its way already leaves nothing to claim. -/
theorem address {c : Config} (h : Owed request (.gotIp c :: rs)) :
    Owed false (.gotIp c :: rs) := ⟨h.first, by simp⟩

theorem request_of (h : Owed request rs) (hr : request = true ∨ claimed rs = none) :
    Owed true rs := by
  cases request with
  | true => exact h
  | false =>
    have hnone := hr.resolve_left (by simp)
    constructor
    · rw [unclaimed_of_claimed_eq_none hnone, ← unclaimed_false]
      exact h.first
    · intro _ d hd
      rw [hnone] at hd
      cases hd

theorem order {d : Disconnect} (hd : d.cause = .userDisconnect)
    (hnone : unclaimed request rs = [])
    (hpast : request = true →
      rs.filterMap Report.disconnect? ≠ [] ∨ rs.filterMap Report.address? ≠ [])
    (hrs : ∀ e ∈ rs.filterMap Report.disconnect?, e.cause ≠ .userDisconnect) :
    Owed request (rs ++ [.disconnected d]) where
  first := by
    refine ⟨d, [], ?_, hd, by simp⟩
    rw [unclaimed_append hpast, hnone]
    rfl
  other := by
    intro hr e he
    rw [claimed_append (hpast hr)] at he
    exact hrs e (claimed_mem he)

end Owed

structure Sticky (s : State) : Prop where
  clear : s.requestDisconnect = false → ∀ d ∈ s.disconnects, d.cause ≠ .userDisconnect
  set : s.requestDisconnect = true → Owed s.requestStaConnect s.reports
  erase : ∀ d, s.pc = .erase d → d.cause = .userDisconnect
  saving : ∀ c ap, s.pc = .saveSsid (.address c ap) ∨ s.pc = .savePassword (.address c ap) →
    s.requestStaConnect = false

variable {s s' : State}

/-- A step that leaves the bits as they are, and raises no disconnection that a user
ordered. -/
theorem Sticky.of_append (h : Sticky s) {es : List Report}
    (hreports : s.reports ++ es = s'.reports)
    (hes : ∀ e ∈ es.filterMap Report.disconnect?, e.cause ≠ .userDisconnect)
    (hd : s'.requestDisconnect = s.requestDisconnect)
    (hr : s'.requestStaConnect = s.requestStaConnect)
    (herase : ∀ d, s'.pc = .erase d → d.cause = .userDisconnect)
    (hsaving : ∀ c ap, s'.pc = .saveSsid (.address c ap) ∨ s'.pc = .savePassword (.address c ap) →
      s.requestStaConnect = false) :
    Sticky s' where
  clear := by
    intro hbit
    rw [State.disconnects, ← hreports, List.filterMap_append]
    exact List.forall_mem_append.mpr ⟨h.clear (hd ▸ hbit), hes⟩
  set := by
    intro hbit
    rw [hr, ← hreports]
    exact (h.set (hd ▸ hbit)).append hes
  erase := herase
  saving := by
    rw [hr]
    exact hsaving

/-- A step that takes reports from the front, and pays what the bits say of them. -/
theorem Sticky.of_taken (h : Sticky s) {rs : List Report} (hreports : s.reports = rs ++ s'.reports)
    (hd : s'.requestDisconnect = s.requestDisconnect)
    (howed : s.requestDisconnect = true → Owed s.requestStaConnect (rs ++ s'.reports) →
      Owed s'.requestStaConnect s'.reports)
    (herase : ∀ d, s'.pc ≠ .erase d)
    (hsaving : ∀ c ap, s'.pc = .saveSsid (.address c ap) ∨ s'.pc = .savePassword (.address c ap) →
      s'.requestStaConnect = false) :
    Sticky s' where
  clear := by
    intro hbit d hmem
    apply h.clear (hd ▸ hbit)
    rw [State.disconnects, hreports, List.filterMap_append]
    exact List.mem_append_right _ hmem
  set := by
    intro hbit
    rw [hd] at hbit
    have hset := h.set hbit
    rw [hreports] at hset
    exact howed hbit hset
  erase := fun d hpc => absurd hpc (herase d)
  saving := hsaving

/-- What `esp_wifi_disconnect` reports has the cause it is called for. -/
theorem cause_of_cutOff {cause : Cause} {ok : Bool} :
    ∀ e ∈ (s.cutOff cause ok).filterMap Report.disconnect?, e.cause = cause := by
  intro e he
  unfold State.cutOff at he
  cases hl : s.link with
  | idle => simp [hl] at he
  | connecting c =>
    cases ok with
    | true =>
      simp only [hl, if_true, List.filterMap_cons, Report.disconnect?, List.filterMap_nil,
        List.mem_singleton] at he
      rw [he]
    | false => simp [hl] at he
  | connected c =>
    simp only [hl, List.filterMap_cons, Report.disconnect?, List.filterMap_nil,
      List.mem_singleton] at he
    rw [he]

/-- As documented, nothing is reported unless the station is connected. -/
theorem cutOff_false (s : State) (cause : Cause) :
    s.cutOff cause false =
      if s.link.isConnected then [.disconnected ⟨cause, s.connects⟩] else [] := by
  unfold State.cutOff
  cases s.link <;> rfl

namespace Sticky

theorem receive {m : Message} {rest : List Message} (h : Sticky s)
    (hpc : s.pc = .receive) (hq : s.queue = m :: rest) :
    Sticky { s with pc := dispatch m, queue := rest } := by
  have hstep : ManagerStep s true { s with pc := dispatch m, queue := rest } := .receive hpc hq
  have hreports := reports_step (.manager hstep)
  have herase : ∀ d, dispatch m = .erase d → d.cause = .userDisconnect := by
    rcases m with (_ | _ | _ | _ | _ | _) | (_ | _ | _) <;> simp [dispatch]
  have hsaving : ∀ c ap,
      dispatch m = .saveSsid (.address c ap) ∨ dispatch m = .savePassword (.address c ap) →
        s.requestStaConnect = false := by
    rcases m with (_ | _ | _ | _ | _ | _) | (_ | _ | _) <;> simp [dispatch]
  simp only [State.raised, State.handled, hpc, hq, List.append_nil, List.head?_cons,
    Option.bind_some] at hreports
  rcases m with o | (_ | d | c)
  · exact h.of_append ((List.append_nil _).trans (by simpa [Message.report?] using hreports))
      (by simp) rfl rfl herase hsaving
  · have hscan : s.reports =
        [.scanDone] ++ State.reports { s with pc := .receive, queue := rest } := by
      simpa [Message.report?, dispatch] using hreports
    exact h.of_taken hscan rfl (fun _ hset => hset.scanDone) (by simp [dispatch])
      (by simp [dispatch])
  · exact h.of_append ((List.append_nil _).trans (by simpa [Message.report?] using hreports))
      (by simp) rfl rfl herase hsaving
  · exact h.of_append ((List.append_nil _).trans (by simpa [Message.report?] using hreports))
      (by simp) rfl rfl herase hsaving

theorem manager {ok : Bool} (h : Sticky s) (hdoc : s.pc.AsDocumented ok)
    (hok : s.pc.OneByOne s) (hs : ManagerStep s ok s') : Sticky s' := by
  have hreports := reports_step (.manager hs)
  cases hs with
  | receive hpc hq => exact h.receive hpc hq
  | disconnect hpc =>
    simp only [State.raised, State.handled, hpc, List.nil_append] at hreports
    refine h.of_append hreports (fun e he => ?_) rfl rfl (by simp) (by simp)
    rw [cause_of_cutOff e he]
    decide
  | setConfig hpc =>
    simp only [State.raised, State.handled, hpc, List.nil_append] at hreports
    refine h.of_append hreports (fun e he => ?_) rfl rfl (by simp) (by simp)
    split at he <;> cases he
  | disconnectSta hpc =>
    rw [hpc] at hdoc hok
    cases show ok = false from hdoc
    simp only [State.raised, State.handled, hpc, List.nil_append] at hreports
    simp only [ManagerPc.OneByOne] at hok
    refine ⟨by simp, fun _ => ?_, by simp, by simp⟩
    rw [← hreports, cutOff_false]
    split at hok
    · rename_i hbit
      rw [hok]
      exact (h.set hbit).append (by simp)
    · rename_i hbit
      rw [hok.1, if_pos rfl]
      exact .order rfl hok.2.1 hok.2.2 (h.clear (by simpa using hbit))
  | requestUser hpc =>
    rw [hpc] at hok
    simp only [State.raised, State.handled, hpc, List.append_nil] at hreports
    refine h.of_taken hreports rfl (fun hbit hset => ?_) (by simp) (by simp)
    rw [List.nil_append] at hset hreports
    exact hset.request_of (hreports ▸ hok hbit)
  | branchFailed hpc hr =>
    simp only [State.raised, State.handled, hpc, List.append_nil] at hreports
    refine h.of_taken hreports rfl (fun _ hset => ?_) (by simp) (by simp)
    rw [hr] at hset
    exact hset.failedAttempt
  | @branchErase d hpc hr hb =>
    simp only [State.raised, State.handled, hpc, List.append_nil, List.singleton_append]
      at hreports
    have hset := h.set hb
    rw [hr, hreports] at hset
    refine ⟨fun _ => hset.erase.2, by simp, ?_, by simp⟩
    rintro e ⟨⟩
    exact hset.erase.1
  | branchLost hpc hr hb =>
    simp only [State.raised, State.handled, hpc, List.append_nil] at hreports
    exact h.of_taken hreports rfl (fun hbit => absurd (hb.symm.trans hbit) (by simp)) (by simp)
      (by simp)
  | gotIpRestored hpc hr =>
    simp only [State.raised, State.handled, hpc, hr, if_true, List.append_nil] at hreports
    exact h.of_taken hreports rfl (fun _ hset => hset.gotIp) (by simp) (by simp)
  | gotIpSaved hpc hr =>
    simp only [State.raised, State.handled, hpc, hr, Bool.false_eq_true, if_false,
      List.append_nil] at hreports
    exact h.of_taken hreports rfl (fun _ hset => hset.address) (by simp) (by simp)
  | @saveSsid k hpc =>
    simp only [State.raised, State.handled, hpc, List.nil_append] at hreports
    refine h.of_append hreports (by simp) rfl rfl (by simp) fun c ap hk => h.saving c ap ?_
    simpa [hpc] using hk
  | saveErased hpc =>
    simp only [State.raised, State.handled, hpc, List.nil_append] at hreports
    exact h.of_append hreports (by simp) rfl rfl (by simp) (by simp)
  | @saveAddress c ap hpc =>
    simp only [State.raised, State.handled, hpc, List.append_nil] at hreports
    refine h.of_taken hreports rfl (fun _ hset => ?_) (by simp) (by simp)
    rw [show s.requestStaConnect = false from h.saving c ap (.inr hpc)]
    exact hset.gotIp
  | connectOther hpc hr hl =>
    simp only [State.raised, State.handled, hpc, List.nil_append] at hreports
    exact h.of_append hreports (by simp) rfl rfl (by simp) (by simp)
  | _ hpc =>
    simp only [State.raised, State.handled, hpc, List.nil_append] at hreports
    exact h.of_append hreports (by simp) rfl rfl (by simp) (by simp)

theorem step {a : Act} (h : Sticky s) (hdoc : AsDocumented s a) (hok : OneByOne s a)
    (hs : Step s a s') : Sticky s' := by
  have hreports := reports_step hs
  cases hs with
  | manager hs => exact h.manager hdoc hok hs
  | connectFail hl | lost hl =>
    refine h.of_append hreports (fun e he => ?_) rfl rfl h.erase h.saving
    cases List.mem_singleton.mp he
    simp
  | gotIp hl =>
    simp only [State.raised, hl] at hreports
    exact h.of_append hreports (by simp [Report.disconnect?]) rfl rfl h.erase h.saving
  | _ =>
    exact h.of_append hreports (by simp [State.raised, Report.disconnect?]) rfl rfl h.erase h.saving

end Sticky

end Datk.Wifi
