import Datk.Wifi.Reports

/-!
# What is remembered of a connection

When the manager turns to an address, it saves the buffer `wifi_manager_config_sta`
unless the bit `RESTORE_STA` says that the flash holds it already.  Both the buffer
and the bit are those of that moment, not of the connection that the address comes
from.

`Current` holds of every run in which they still fit when the address comes, and are
left alone while it is on its way.  `wifi_manager_save_sta_config` writes no field that
`strcmp` finds unchanged; the fields are padded with zeros, so it leaves what it would
have written.
-/

namespace Datk.Wifi

/-- **What connected is what is remembered**, once an address is dealt with. -/
def Remembered (s : State) : Prop := ∀ c ap, s.pc = .finish c ap → s.nvs = some c

def ManagerPc.Unhurried (s : State) : ManagerPc → Prop
  | .fetch | .erase _ | .setRequest .restore => s.addresses = []
  | _ => True

def HttpPc.Unhurried (s : State) : HttpPc → Prop
  | .clear _ | .copySsid _ | .copyPassword _ => s.addresses = []
  | .idle | .send _ => True

def Link.Unhurried (s : State) : Link → Prop
  | .connected c => s.config = c ∧ (s.restoreSta = true → s.nvs = some c)
  | .idle | .connecting _ => True

/-- An address comes while the buffer still holds the configuration of its connection,
and the flash as well if the bit `RESTORE_STA` is set.  The buffer is not written to,
and the bit is not set, while an address is on its way. -/
def Unhurried (s : State) : Act → Prop
  | .manager _ => s.pc.Unhurried s
  | .http => s.http.Unhurried s
  | .gotIp => s.link.Unhurried s
  | _ => True

instance (s : State) (p : ManagerPc) : Decidable (p.Unhurried s) := by
  induction p using ManagerPc.casesOn with
  | fetch => exact inferInstanceAs (Decidable (_ = _))
  | erase d => exact inferInstanceAs (Decidable (_ = _))
  | setRequest r =>
    induction r using Reason.casesOn with
    | restore => exact inferInstanceAs (Decidable (_ = _))
    | user c | autoReconnect => exact .isTrue trivial
  | _ => exact .isTrue trivial

instance (s : State) (p : HttpPc) : Decidable (p.Unhurried s) := by
  induction p using HttpPc.casesOn with
  | clear c | copySsid c | copyPassword c => exact inferInstanceAs (Decidable (_ = _))
  | idle | send o => exact .isTrue trivial

instance (s : State) (l : Link) : Decidable (l.Unhurried s) := by
  induction l using Link.casesOn with
  | connected c => exact inferInstanceAs (Decidable (_ ∧ _))
  | idle | connecting c => exact .isTrue trivial

instance (s : State) : ∀ a, Decidable (Unhurried s a)
  | .manager _ => inferInstanceAs (Decidable (s.pc.Unhurried s))
  | .http => inferInstanceAs (Decidable (s.http.Unhurried s))
  | .gotIp => inferInstanceAs (Decidable (s.link.Unhurried s))
  | .connectOk | .connectFail | .lost | .scanDone | .eventTask | .retryTimer
  | .shutdownTimer | .timerTask _ | .request _ | .button | .buttonTask => .isTrue trivial

/-- The buffer and the bit fit the addresses that are on their way. -/
structure Current (s : State) : Prop where
  address : ∀ c ∈ s.addresses, s.config = c ∧ (s.restoreSta = true → s.nvs = some c)
  saved : ∀ c ap, s.pc = .savePassword (.address c ap) → ∃ n, s.nvs = some n ∧ n.ssid = c.ssid
  finished : Remembered s

theorem current_boot (nvs : Option Config) : Current (boot nvs) where
  address := by
    intro c hc
    cases hc
  saved := by
    intro c ap h
    cases h
  finished := by
    intro c ap h
    cases h

variable {s s' : State}

namespace Current

/-- A step that writes neither the buffer nor the flash, and does not set the bit. -/
theorem frame {a : Act} (h : Current s) (hs : Step s a s') (ha : a ≠ .gotIp)
    (hconfig : s'.config = s.config) (hrestore : s'.restoreSta = true → s.restoreSta = true)
    (hnvs : s'.nvs = s.nvs)
    (hsaved : ∀ c ap, s'.pc = .savePassword (.address c ap) → s.pc = s'.pc)
    (hfinished : ∀ c ap, s'.pc = .finish c ap → s.pc = s'.pc ∨ s.nvs = some c) :
    Current s' where
  address := by
    intro c hc
    rw [hconfig, hnvs]
    have hold := h.address c ((mem_addresses hs hc).resolve_right fun hip => ha hip.1)
    exact ⟨hold.1, fun hr => hold.2 (hrestore hr)⟩
  saved := by
    intro c ap hpc
    rw [hnvs]
    exact h.saved c ap ((hsaved c ap hpc).trans hpc)
  finished := by
    intro c ap hpc
    rw [hnvs]
    exact (hfinished c ap hpc).elim (fun hsame => h.finished c ap (hsame.trans hpc)) id

/-- While no address is on its way, nothing has to fit. -/
theorem of_addresses_eq_nil {a : Act} (h : Current s) (hs : Step s a s') (ha : a ≠ .gotIp)
    (hnil : s.addresses = []) (hnvs : s'.nvs = s.nvs)
    (hsaved : ∀ c ap, s'.pc = .savePassword (.address c ap) → s.pc = s'.pc)
    (hfinished : ∀ c ap, s'.pc = .finish c ap → s.pc = s'.pc) : Current s' where
  address := by
    intro c hc
    have hold := (mem_addresses hs hc).resolve_right fun hip => ha hip.1
    rw [hnil] at hold
    cases hold
  saved := by
    intro c ap hpc
    rw [hnvs]
    exact h.saved c ap ((hsaved c ap hpc).trans hpc)
  finished := by
    intro c ap hpc
    rw [hnvs]
    exact h.finished c ap ((hfinished c ap hpc).trans hpc)

/-- Saving the buffer leaves what is saved already. -/
theorem save {a : Act} (h : Current s) (hs : Step s a s') (ha : a ≠ .gotIp)
    (hconfig : s'.config = s.config) (hrestore : s'.restoreSta = s.restoreSta)
    (hnvs : s.nvs = some s.config → s'.nvs = some s.config) :
    ∀ c ∈ s'.addresses, s'.config = c ∧ (s'.restoreSta = true → s'.nvs = some c) := by
  intro c hc
  have hold := h.address c ((mem_addresses hs hc).resolve_right fun hip => ha hip.1)
  refine ⟨hconfig.trans hold.1, fun hr => ?_⟩
  rw [← hold.1]
  exact hnvs (hold.1.symm ▸ hold.2 (hrestore ▸ hr))

theorem manager {ok : Bool} (h : Current s) (hok : s.pc.Unhurried s)
    (hs : ManagerStep s ok s') : Current s' := by
  have hstep : Step s (.manager ok) s' := .manager hs
  cases hs with
  | @receive m rest hpc hq =>
    refine h.frame hstep (by simp) rfl id rfl ?_ ?_ <;>
      rcases m with (_ | _ | _ | _ | _ | _) | (_ | _ | _) <;> simp [dispatch]
  | fetchSome hpc _ | requestRestore hpc | erase hpc =>
    rw [hpc] at hok
    exact h.of_addresses_eq_nil hstep (by simp) hok rfl (by simp) (by simp)
  | lostKeep hpc | lostStart hpc _ =>
    exact h.frame hstep (by simp) rfl (by simp) rfl (by simp) (by simp)
  | @saveSsid k hpc =>
    refine ⟨h.save hstep (by simp) rfl rfl (by intro hn; simp [hn]), ?_, by simp [Remembered]⟩
    rintro c ap ⟨⟩
    refine ⟨_, rfl, ?_⟩
    rw [(h.address c (mem_addresses_of_report (by simp [hpc, ManagerPc.report?]))).1]
  | saveErased hpc =>
    exact ⟨h.save hstep (by simp) rfl rfl (by intro hn; simp [hn]), by simp, by simp [Remembered]⟩
  | @saveAddress c ap hpc =>
    refine ⟨h.save hstep (by simp) rfl rfl (by intro hn; simp [hn]), by simp, ?_⟩
    rintro c ap ⟨⟩
    obtain ⟨n, hn, hssid⟩ := h.saved c ap hpc
    have hconfig := (h.address c (mem_addresses_of_report (by simp [hpc, ManagerPc.report?]))).1
    show some (⟨(s.nvs.getD .zero).ssid, s.config.password⟩ : Config) = some c
    rw [hn, hconfig, Option.getD_some, hssid]
  | @gotIpRestored c hpc hr =>
    have haddr := h.address c (mem_addresses_of_report (by simp [hpc, ManagerPc.report?]))
    refine h.frame hstep (by simp) rfl (by simp) rfl (by simp) ?_
    rintro c ap ⟨⟩
    exact .inr (haddr.2 hr)
  | connectOther hpc hr hl =>
    exact h.frame hstep (by simp) rfl id rfl (by simp) (by simp)
  | _ hpc =>
    exact h.frame hstep (by simp) rfl id rfl (by simp) (by simp)

theorem step {a : Act} (h : Current s) (hok : Unhurried s a) (hs : Step s a s') :
    Current s' := by
  have hstep := hs
  cases hs with
  | manager hs => exact h.manager hok hs
  | @gotIp c hl =>
    simp only [Unhurried, hl] at hok
    refine ⟨fun e he => ?_, h.saved, h.finished⟩
    refine (mem_addresses hstep he).elim (h.address e) fun hip => ?_
    cases hl.symm.trans hip.2
    exact hok
  | httpClear hh | httpSsid hh | httpPassword hh =>
    simp only [Unhurried, hh] at hok
    exact h.of_addresses_eq_nil hstep (by simp) hok rfl (fun _ _ _ => rfl) (fun _ _ _ => rfl)
  | _ =>
    exact h.frame hstep (by simp) rfl id rfl (fun _ _ _ => rfl) (fun _ _ _ => .inl rfl)

end Current

/-- **What connected is what is remembered**, in all runs in which the buffer still
holds the configuration that an address comes from until it is dealt with. -/
theorem remembered_of_unhurried {s : State} (h : system.Reaches Unhurried s) : Remembered s := by
  refine Current.finished (h.invariant ?_ fun _ _ _ hc hok hs => hc.step hok (step_cases hs))
  rintro _ ⟨nvs, rfl⟩
  exact current_boot nvs

/-- The first network of a new device. -/
theorem remembered_after_first :
    ∃ s, system.Reaches Unhurried s ∧ s.pc = .finish ⟨['n'], ['p']⟩ true ∧ Remembered s := by
  have hrun : ∃ s, system.Reaches Unhurried s ∧ s.pc = .finish ⟨['n'], ['p']⟩ true :=
    Lib.System.exists_of_execute
      (opened ++ posted ⟨['n'], ['p']⟩ ++ List.replicate 9 (.manager false) ++ addressed ++
        List.replicate 4 (.manager false))
      (s := boot none) ⟨_, rfl⟩ (by decide +kernel)
  obtain ⟨s, hs, hpc⟩ := hrun
  exact ⟨s, hs, hpc, remembered_of_unhurried hs⟩

/-- A user posts another network while the first one is being restored. -/
theorem not_remembered : ¬ ∀ s, system.Reachable s → Remembered s := by
  intro h
  have hrun : ∃ s, system.Reachable s ∧ s.pc = .finish ⟨['m'], ['q']⟩ false ∧
      s.nvs = some ⟨['n'], ['p']⟩ :=
    Lib.System.exists_of_execute
      (List.replicate 9 (.manager false) ++ posted ⟨['m'], ['q']⟩ ++
        List.replicate 9 (.manager false) ++ addressed ++ List.replicate 2 (.manager false))
      (s := boot (some ⟨['n'], ['p']⟩)) ⟨_, rfl⟩ (by decide +kernel)
  obtain ⟨s, hs, hpc, hnvs⟩ := hrun
  exact absurd (hnvs.symm.trans (h s hs _ _ hpc)) (by simp)

end Datk.Wifi
