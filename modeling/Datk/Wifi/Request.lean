import Datk.Wifi.Reports

/-!
# What becomes of a user's request

A user's `WM_ORDER_CONNECT_STA` sets `REQUEST_STA_CONNECT`, ends the connection there
is, and then asks the bit `WIFI_CONNECTED` whether to connect.  That bit is cleared by
the event task when it comes to the disconnection just caused, and the disconnection
is then taken for the failure of the new attempt.

`Served` holds of every run whose requests find the station disconnected, the
disconnections of before dealt with, and the buffer as they left it.
-/

namespace Datk.Wifi

/-- How far a user's request is from `esp_wifi_connect`. -/
@[simp] def ManagerPc.toConnect : ManagerPc → Nat
  | .setRequest (.user _) => 8
  | .httpStop (.user _) => 7
  | .disconnect _ => 6
  | .setUserConfig _ => 5
  | .httpStart (.user _) => 4
  | .testConnected (.user _) => 3
  | .setConfig (.user _) _ => 2
  | .connect (.user _) => 1
  | _ => 0

def ManagerPc.Undisturbed (s : State) (ok : Bool) : ManagerPc → Prop
  | .disconnect _ => claimed (s.reports ++ s.cutOff .userConnect ok) = none
  | .testConnected (.user _) => s.connected = false
  | .setConfig (.user c) _ => s.config = c
  | _ => True

/-- When a user's request calls `esp_wifi_disconnect`, this raises no disconnection,
and there is none on its way, except behind an address.  The bit `WIFI_CONNECTED` is
clear when it is read, and the buffer holds what was asked for. -/
def Undisturbed (s : State) : Act → Prop
  | .manager ok => s.pc.Undisturbed s ok
  | _ => True

instance (s : State) (ok : Bool) (p : ManagerPc) : Decidable (p.Undisturbed s ok) := by
  induction p using ManagerPc.casesOn with
  | disconnect c => exact inferInstanceAs (Decidable (_ = _))
  | testConnected r =>
    induction r using Reason.casesOn with
    | user c => exact inferInstanceAs (Decidable (_ = _))
    | restore | autoReconnect => exact .isTrue trivial
  | setConfig r scan =>
    induction r using Reason.casesOn with
    | user c => exact inferInstanceAs (Decidable (_ = _))
    | restore | autoReconnect => exact .isTrue trivial
  | _ => exact .isTrue trivial

instance (s : State) : ∀ a, Decidable (Undisturbed s a)
  | .manager ok => inferInstanceAs (Decidable (s.pc.Undisturbed s ok))
  | .connectOk | .connectFail | .lost | .gotIp | .scanDone | .eventTask | .retryTimer
  | .shutdownTimer | .timerTask _ | .request _ | .http | .button | .buttonTask => .isTrue trivial

/-! ### The statements of the manager -/

/-- Outside of a request. -/
structure Settled (s : State) : Prop where
  done : s.connects = s.requests
  claim : s.requestStaConnect = true → ∀ d, claimed s.reports = some d → d.after = s.requests

/-- Between the end of the old connection and the new attempt. -/
structure Cut (s : State) : Prop where
  idle : s.link = .idle
  claim : claimed s.reports = none

/-- By the statement that the manager has come to. -/
structure Served (s : State) : Prop where
  settled : s.pc.toConnect = 0 ∨ s.pc.toConnect = 8 → Settled s
  cut : 1 ≤ s.pc.toConnect → s.pc.toConnect ≤ 5 → Cut s
  connect : ∀ c, s.pc = .connect (.user c) → s.staConfig = c
  failed : ∀ d, s.pc = .failedAttempt d → d.after = s.requests
  saving : ∀ c ap, s.pc = .saveSsid (.address c ap) ∨ s.pc = .savePassword (.address c ap) →
    s.requestStaConnect = false

variable {s s' : State}

/-- What keeps the counters and the bit, and raises no disconnection of before. -/
theorem Settled.frame (h : Settled s) {es : List Report} (hreports : s.reports ++ es = s'.reports)
    (hes : ∀ d, claimed es = some d → d.after = s.connects) (hconnects : s'.connects = s.connects)
    (hrequests : s'.requests = s.requests) (hr : s'.requestStaConnect = s.requestStaConnect) :
    Settled s' where
  done := by rw [hconnects, hrequests, h.done]
  claim := by
    intro hrequest d hd
    rw [← hreports] at hd
    rw [hrequests]
    rcases claimed_append_cases hd with hold | hnew
    · exact h.claim (hr ▸ hrequest) d hold
    · rw [hes d hnew, h.done]

/-- What clears the bit, or finds it clear. -/
theorem Settled.clear (h : Settled s) (hconnects : s'.connects = s.connects)
    (hrequests : s'.requests = s.requests) (hr : s'.requestStaConnect = false) : Settled s' where
  done := by rw [hconnects, hrequests, h.done]
  claim := by
    intro hrequest
    rw [hr] at hrequest
    cases hrequest

theorem Cut.frame (h : Cut s) {es : List Report} (hreports : s.reports ++ es = s'.reports)
    (hes : claimed es = none) (hlink : s'.link = .idle) : Cut s' where
  idle := hlink
  claim := by
    rw [← hreports]
    cases hc : claimed (s.reports ++ es) with
    | none => rfl
    | some d =>
      rcases claimed_append_cases hc with hold | hnew
      · rw [h.claim] at hold
        cases hold
      · rw [hes] at hnew
        cases hnew

namespace Served

/-- What another task or the driver does. -/
theorem frame (h : Served s) {es : List Report} (hreports : s.reports ++ es = s'.reports)
    (hes : ∀ d, claimed es = some d → d.after = s.connects)
    (hidle : s.link = .idle → s'.link = .idle ∧ claimed es = none) (hpc : s'.pc = s.pc)
    (hconnects : s'.connects = s.connects) (hrequests : s'.requests = s.requests)
    (hr : s'.requestStaConnect = s.requestStaConnect) (hconfig : s'.staConfig = s.staConfig) :
    Served s' where
  settled := by
    rw [hpc]
    exact fun hto => (h.settled hto).frame hreports hes hconnects hrequests hr
  cut := by
    rw [hpc]
    intro hlow hhigh
    have hcut := h.cut hlow hhigh
    exact hcut.frame hreports (hidle hcut.idle).2 (hidle hcut.idle).1
  connect := by
    rw [hpc, hconfig]
    exact h.connect
  failed := by
    rw [hpc, hrequests]
    exact h.failed
  saving := by
    rw [hpc, hr]
    exact h.saving

/-- The manager outside of a request. -/
theorem of_settled (hs : Settled s) (hto : s.pc.toConnect = 0 ∨ s.pc.toConnect = 8)
    (hfailed : ∀ d, s.pc = .failedAttempt d → d.after = s.requests)
    (hsaving : ∀ c ap, s.pc = .saveSsid (.address c ap) ∨ s.pc = .savePassword (.address c ap) →
      s.requestStaConnect = false) : Served s where
  settled := fun _ => hs
  cut := by omega
  connect := by
    intro c hpc
    rw [hpc] at hto
    simp at hto
  failed := hfailed
  saving := hsaving

/-- The manager between the end of the old connection and the new attempt. -/
theorem of_cut (hs : Cut s) (hlow : 1 ≤ s.pc.toConnect) (hhigh : s.pc.toConnect ≤ 5)
    (hconnect : ∀ c, s.pc = .connect (.user c) → s.staConfig = c) : Served s where
  settled := by omega
  cut := fun _ _ => hs
  connect := hconnect
  failed := by
    intro d hpc
    rw [hpc] at hlow
    simp at hlow
  saving := by
    intro c ap hpc
    rcases hpc with hpc | hpc <;> (rw [hpc] at hlow; simp at hlow)

theorem manager {ok : Bool} (h : Served s) (hok : s.pc.Undisturbed s ok)
    (hs : ManagerStep s ok s') : Served s' := by
  have hreports := reports_step (.manager hs)
  have hsettled : s.pc.toConnect = 0 ∨ s.pc.toConnect = 8 → Settled s := h.settled
  have hcut : 1 ≤ s.pc.toConnect → s.pc.toConnect ≤ 5 → Cut s := h.cut
  cases hs with
  | @receive m rest hpc hq =>
    have hs : Settled s := hsettled (by simp [hpc])
    refine of_settled ⟨hs.done, ?_⟩ ?_ ?_ ?_
    · rw [claimed_receive hpc hq]
      exact hs.claim
    · rcases m with (_ | _ | ⟨_ | _ | _⟩ | _ | _ | _) | (_ | _ | _) <;> simp [dispatch]
    · rcases m with (_ | _ | _ | _ | _ | _) | (_ | _ | _) <;> simp [dispatch]
    · rcases m with (_ | _ | _ | _ | _ | _) | (_ | _ | _) <;> simp [dispatch]
  | @requestUser c hpc =>
    exact ⟨by simp, by simp, by simp, by simp, by simp⟩
  | stopUser hpc hh =>
    exact ⟨by simp, by simp, by simp, by simp, by simp⟩
  | disconnect hpc =>
    rw [hpc] at hok
    simp only [hpc, State.raised, State.handled, List.nil_append] at hreports
    refine of_cut ⟨rfl, ?_⟩ (by simp) (by simp) (by simp)
    rw [← hreports]
    exact hok
  | setUserConfig hpc =>
    simp only [hpc, State.raised, State.handled, List.nil_append] at hreports hcut
    have hc : Cut s := hcut (by simp) (by simp)
    exact of_cut (hc.frame hreports rfl hc.idle) (by simp)
      (by simp) (by simp)
  | startUser hpc =>
    simp only [hpc, State.raised, State.handled, List.nil_append] at hreports hcut
    have hc : Cut s := hcut (by simp) (by simp)
    exact of_cut (hc.frame hreports rfl hc.idle) (by simp)
      (by simp) (by simp)
  | @testTrue r hpc hc =>
    simp only [hpc, State.raised, State.handled, List.nil_append] at hreports hsettled
    cases r with
    | user c =>
      rw [hpc] at hok
      cases hc.symm.trans hok
    | restore | autoReconnect =>
      exact of_settled
        ((hsettled (by simp)).frame hreports (by simp [claimed]) rfl rfl rfl)
        (by simp) (by simp) (by simp)
  | @testFalse r hpc hc =>
    simp only [hpc, State.raised, State.handled, List.nil_append] at hreports hsettled hcut
    cases r with
    | user c =>
      have hc : Cut s := hcut (by simp) (by simp)
      exact of_cut (hc.frame hreports rfl hc.idle) (by simp)
        (by simp) (by simp)
    | restore | autoReconnect =>
      exact of_settled
        ((hsettled (by simp)).frame hreports (by simp [claimed]) rfl rfl rfl)
        (by simp) (by simp) (by simp)
  | @setConfig r scan hpc =>
    simp only [hpc, State.raised, State.handled, List.nil_append] at hreports hsettled hcut
    have hes : claimed (if scan && s.scanning then [Report.scanDone] else []) = none := by
      split <;> rfl
    cases r with
    | user c =>
      rw [hpc] at hok
      have hc : Cut s := hcut (by simp) (by simp)
      refine of_cut (hc.frame hreports hes hc.idle) (by simp)
        (by simp) ?_
      rintro c ⟨⟩
      exact hok
    | restore | autoReconnect =>
      exact of_settled
        ((hsettled (by simp)).frame hreports (fun d hd => by rw [hes] at hd; cases hd) rfl rfl rfl)
        (by simp) (by simp) (by simp)
  | connectUser hpc hl =>
    simp only [hpc, State.raised, State.handled, List.nil_append, List.append_nil] at hreports hcut
    have hc : Cut s := hcut (by simp) (by simp)
    refine of_settled ⟨rfl, fun _ d hd => ?_⟩ (by simp) (by simp) (by simp)
    rw [← hreports, hc.claim] at hd
    cases hd
  | @connectOther r l hpc hr hl =>
    simp only [hpc, State.raised, State.handled, List.nil_append] at hreports hsettled
    have hto : (ManagerPc.connect r).toConnect = 0 := by
      cases r with
      | user c => exact absurd rfl (hr c)
      | restore | autoReconnect => rfl
    exact of_settled ((hsettled (.inl hto)).frame hreports (by simp [claimed]) rfl rfl rfl)
      (by simp) (by simp) (by simp)
  | @branchFailed d hpc hr =>
    simp only [hpc, State.raised, State.handled, List.append_nil, List.singleton_append]
      at hreports hsettled
    have hs : Settled s := hsettled (by simp)
    refine of_settled (hs.clear rfl rfl rfl) (by simp) ?_ (by simp)
    rintro e ⟨⟩
    exact hs.claim hr d (by rw [hreports, claimed])
  | branchErase hpc hr hd | branchLost hpc hr hd =>
    simp only [hpc] at hsettled
    exact of_settled ((hsettled (by simp)).clear rfl rfl hr)
      (by simp) (by simp) (by simp)
  | gotIpRestored hpc hr | gotIpSaved hpc hr =>
    simp only [hpc] at hsettled
    exact of_settled ((hsettled (by simp)).clear rfl rfl rfl)
      (by simp) (by simp) (by simp)
  | @saveSsid k hpc =>
    simp only [hpc, State.raised, State.handled, List.nil_append] at hreports hsettled
    refine of_settled
      ((hsettled (by simp)).frame hreports (by simp [claimed]) rfl rfl rfl)
      (by simp) (by simp) fun c ap hk => h.saving c ap ?_
    simpa [hpc] using hk
  | @saveAddress c ap hpc =>
    simp only [hpc] at hsettled
    exact of_settled
      ((hsettled (by simp)).clear rfl rfl (h.saving c ap (.inr hpc)))
      (by simp) (by simp) (by simp)
  | disconnectSta hpc =>
    simp only [hpc, State.raised, State.handled, List.nil_append] at hreports hsettled
    exact of_settled ((hsettled (by simp)).frame hreports
      (fun d => after_of_cutOff) rfl rfl rfl) (by simp) (by simp) (by simp)
  | _ hpc =>
    simp only [hpc, State.raised, State.handled, List.nil_append] at hreports hsettled
    exact of_settled
      ((hsettled (by simp)).frame hreports (by simp [claimed]) rfl rfl rfl)
      (by simp) (by simp) (by simp)

theorem step {a : Act} (h : Served s) (hok : Undisturbed s a) (hs : Step s a s') :
    Served s' := by
  have hreports := reports_step hs
  cases hs with
  | manager hs => exact h.manager hok hs
  | connectFail hl | lost hl =>
    simp only [State.raised, State.handled, List.nil_append] at hreports
    exact h.frame hreports (by rintro d ⟨⟩; rfl) (by simp [hl]) rfl rfl rfl rfl rfl
  | gotIp hl =>
    simp only [State.raised, State.handled, hl, List.nil_append] at hreports
    exact h.frame hreports (by simp [claimed]) (by simp [hl]) rfl rfl rfl rfl rfl
  | connectOk hl =>
    exact h.frame hreports (by simp [State.raised, claimed]) (by simp [hl]) rfl rfl rfl rfl rfl
  | _ =>
    exact h.frame hreports (by simp [State.raised, claimed])
      (fun hidle => ⟨hidle, by simp [State.raised, claimed]⟩) rfl rfl rfl rfl rfl

end Served

end Datk.Wifi
