import Datk.Wifi.Steps

/-!
# The bit that a scan is running

The manager sets `WIFI_MANAGER_SCAN_BIT` and then calls `esp_wifi_scan_start`, whose
result it does not look at.  The event task clears the bit when it handles the
`SCAN_DONE` of the scan, or a disconnection.  While the bit is set, an order to scan is
ignored.

The system is that of `Datk.Wifi.Manager`, in which a scan that is started while one is
running overrides it, with the scans that are overridden counted: each of them still
raises its own `SCAN_DONE`.  `Claimed` is the invariant of the runs in which a call of
`esp_wifi_scan_start` fails only while some scan is still to be reported.
-/

namespace Datk.Wifi.Scan

structure State where
  wifi : Wifi.State
  /-- The scans that are overridden, and whose `SCAN_DONE` is still to be raised. -/
  overridden : Nat
  deriving DecidableEq

inductive Act
  | wifi (a : Wifi.Act)
  /-- A scan that is overridden raises `SCAN_DONE`. -/
  | overridden
  deriving DecidableEq

/-- The step starts a scan while one is running. -/
def Overrides (s : Wifi.State) (a : Wifi.Act) : Prop :=
  a = .manager true ∧ s.pc = .scanStart ∧ s.scanning = true

instance (s : Wifi.State) (a : Wifi.Act) : Decidable (Overrides s a) :=
  inferInstanceAs (Decidable (_ ∧ _ ∧ _))

def step (s : State) : Act → Option State
  | .wifi a =>
    (Wifi.step s.wifi a).map fun t =>
      ⟨t, if Overrides s.wifi a then s.overridden + 1 else s.overridden⟩
  | .overridden =>
    if 0 < s.overridden then some ⟨s.wifi.raise (.report .scanDone), s.overridden - 1⟩ else none

def system : Lib.System State Act where
  Init s := ∃ nvs, s = ⟨boot nvs, 0⟩
  step := step

/-- A scan is started whose `SCAN_DONE` has not been handled. -/
def State.Outstanding (s : State) : Prop :=
  s.wifi.scanning = true ∨ 0 < s.overridden ∨ .report .scanDone ∈ s.wifi.events

instance (s : State) : Decidable s.Outstanding := inferInstanceAs (Decidable (_ ∨ _ ∨ _))

/-- **Scanning is not stuck**: between two messages the bit stands for a scan whose
`SCAN_DONE` is to come, and handling that clears it. -/
structure NotStuck (s : State) : Prop where
  outstanding : s.wifi.pc = .receive → s.wifi.scan = true → s.Outstanding
  cleared : ∀ rest s', s.wifi.eventTask = none → s.wifi.events = .report .scanDone :: rest →
    step s (.wifi .eventTask) = some s' → s'.wifi.scan = false

/-- `esp_wifi_scan_start` fails only while some scan is outstanding, or when the bit was
cleared again before the call. -/
def Answered (s : State) : Act → Prop
  | .wifi (.manager false) => s.wifi.pc = .scanStart → s.wifi.scan = true → s.Outstanding
  | _ => True

instance (s : State) : ∀ a, Decidable (Answered s a)
  | .wifi (.manager false) => inferInstanceAs (Decidable (_ → _ → _))
  | .wifi (.manager true) | .overridden => .isTrue trivial
  | .wifi .connectOk | .wifi .connectFail | .wifi .lost | .wifi .gotIp | .wifi .scanDone
  | .wifi .eventTask | .wifi .retryTimer | .wifi .shutdownTimer | .wifi (.timerTask _)
  | .wifi (.request _) | .wifi .http | .wifi .button | .wifi .buttonTask => .isTrue trivial

/-- The bit stands for a scan, or for one that is about to be started. -/
def Claimed (s : State) : Prop :=
  s.wifi.scan = true → s.wifi.pc = .scanStart ∨ s.Outstanding

/-! ### What a step does to the scans -/

variable {s s' : State}

/-- A scan stays outstanding until its `SCAN_DONE` is handled. -/
theorem State.Outstanding.frame (h : s.Outstanding)
    (hscanning : s.wifi.scanning = true →
      s'.wifi.scanning = true ∨ .report .scanDone ∈ s'.wifi.events)
    (hoverridden : s.overridden ≤ s'.overridden)
    (hevents : .report .scanDone ∈ s.wifi.events → .report .scanDone ∈ s'.wifi.events) :
    s'.Outstanding := by
  rcases h with h | h | h
  · exact (hscanning h).imp_right .inr
  · exact .inr (.inl (Nat.lt_of_lt_of_le h hoverridden))
  · exact .inr (.inr (hevents h))

/-- Events are raised at the end. -/
theorem State.Outstanding.append (h : s.Outstanding) {es : List Event}
    (hscanning : s'.wifi.scanning = s.wifi.scanning) (hoverridden : s.overridden ≤ s'.overridden)
    (hevents : s'.wifi.events = s.wifi.events ++ es) : s'.Outstanding := by
  refine h.frame (fun hs => .inl (hscanning.trans hs)) hoverridden fun he => ?_
  rw [hevents]
  exact List.mem_append_left es he

theorem le_overrides (s : State) (a : Wifi.Act) :
    s.overridden ≤ if Overrides s.wifi a then s.overridden + 1 else s.overridden := by
  split
  · exact Nat.le_succ _
  · exact Nat.le_refl _

namespace Claimed

theorem manager {ok : Bool} {t : Wifi.State} {n : Nat} (h : Claimed s)
    (hok : Answered s (.wifi (.manager ok))) (hs : ManagerStep s.wifi ok t)
    (hn : s.overridden ≤ n) : Claimed ⟨t, n⟩ := by
  intro hbit
  cases hs with
  | scanSet hpc => exact .inl rfl
  | scanStart hpc =>
    right
    cases ok with
    | true => exact .inl (Bool.or_true _)
    | false =>
      exact (hok hpc hbit).append (Bool.or_false _) hn (List.append_nil _).symm
  | @setConfig r scan hpc =>
    have hout := (h hbit).resolve_left (by simp [hpc])
    refine .inr (hout.frame (fun hs => ?_) hn fun he => List.mem_append_left _ he)
    cases scan with
    | true => exact .inr (by simp [hs])
    | false => exact .inl (by simp [hs])
  | disconnect hpc | startAp hpc | setModeSta hpc | disconnectSta hpc =>
    have hout := (h hbit).resolve_left (by simp [hpc])
    exact .inr (hout.append rfl hn rfl)
  | _ hpc =>
    have hout := (h hbit).resolve_left (by simp [hpc])
    exact .inr (hout.append rfl hn (List.append_nil _).symm)

/-- What the event task handles, if it is no `SCAN_DONE`. -/
theorem handled {e : Event} {rest : List Event} (h : s.Outstanding)
    (hev : s.wifi.events = e :: rest) (hne : e ≠ .report .scanDone)
    (hscanning : s'.wifi.scanning = s.wifi.scanning) (hoverridden : s.overridden ≤ s'.overridden)
    (hevents : s'.wifi.events = rest) : s'.Outstanding := by
  refine h.frame (fun hs => .inl (hscanning.trans hs)) hoverridden fun he => ?_
  rw [hev] at he
  rw [hevents]
  exact (List.mem_cons.mp he).resolve_left hne.symm

theorem wifi {a : Wifi.Act} {t : Wifi.State} {n : Nat} (h : Claimed s)
    (hok : Answered s (.wifi a)) (hs : Step s.wifi a t) (hn : s.overridden ≤ n) :
    Claimed ⟨t, n⟩ := by
  intro hbit
  cases hs with
  | manager hs => exact h.manager hok hs hn hbit
  | connectFail hl | lost hl | gotIp hl =>
    exact (h hbit).imp_right fun hout => hout.append rfl hn rfl
  | scanDone hsc =>
    exact .inr (.inr (.inr (List.mem_append_right _ (List.mem_singleton.mpr rfl))))
  | eventScanDone he hev => cases hbit
  | eventDisconnected he hev => cases hbit
  | eventGotIp he hev | eventApStart he hev | eventApStop he hev =>
    exact (h hbit).imp_right fun hout => handled hout hev (by simp) rfl hn rfl
  | _ =>
    exact (h hbit).imp_right fun hout => hout.append rfl hn (List.append_nil _).symm

theorem step {a : Act} (h : Claimed s) (hok : Answered s a) (hs : Scan.step s a = some s') :
    Claimed s' := by
  cases a with
  | wifi a =>
    obtain ⟨t, ht, rfl⟩ := Option.map_eq_some_iff.mp hs
    exact h.wifi hok (step_cases ht) (le_overrides s a)
  | overridden =>
    obtain ⟨-, hs⟩ := Option.ite_none_right_eq_some.mp hs
    cases hs
    intro _
    exact .inr (.inr (.inr (List.mem_append_right _ (List.mem_singleton.mpr rfl))))

end Claimed

/-! ### Which runs do not get stuck -/

theorem claimed_of_answered (h : system.Reaches Answered s) : Claimed s := by
  refine h.invariant ?_ fun _ _ _ hclaimed hok hs => hclaimed.step hok hs
  rintro _ ⟨nvs, rfl⟩
  intro hbit
  cases hbit

theorem Claimed.notStuck (h : Claimed s) : NotStuck s where
  outstanding := by
    intro hpc hbit
    exact (h hbit).resolve_left (by simp [hpc])
  cleared := by
    intro rest s' he hev hs
    obtain ⟨t, ht, rfl⟩ := Option.map_eq_some_iff.mp hs
    simp only [Wifi.step, eventTask, he, hev, Option.some.injEq] at ht
    rw [← ht]
    rfl

/-- **Scanning does not get stuck**, in all runs in which `esp_wifi_scan_start` fails
only while some scan is outstanding. -/
theorem notStuck_of_answered (h : system.Reaches Answered s) : NotStuck s :=
  (claimed_of_answered h).notStuck

/-- A user asks for the list of access points, and the scan is started. -/
theorem notStuck_after_start :
    ∃ s, system.Reaches Answered s ∧ s.wifi.pc = .receive ∧ s.wifi.scan = true ∧ NotStuck s := by
  have hrun : ∃ s, system.Reaches Answered s ∧ s.wifi.pc = .receive ∧ s.wifi.scan = true :=
    Lib.System.exists_of_execute
      ((opened ++ [.request .getAp, .http] ++ List.replicate 3 (.manager true) :
        List Wifi.Act).map .wifi)
      (s := ⟨boot none, 0⟩) ⟨_, rfl⟩ (by decide +kernel)
  obtain ⟨s, hs, hpc, hbit⟩ := hrun
  exact ⟨s, hs, hpc, hbit, notStuck_of_answered hs⟩

/-- The condition leaves out only steps that get stuck. -/
theorem stuck_of_not_answered {a : Act} (hs : step s a = some s') (ha : ¬ Answered s a) :
    ¬ NotStuck s' := by
  cases a with
  | overridden => exact absurd trivial ha
  | wifi a =>
    cases a with
    | manager ok =>
      cases ok with
      | true => exact absurd trivial ha
      | false =>
        simp only [Answered, Classical.not_imp] at ha
        obtain ⟨hpc, hbit, hnone⟩ := ha
        simp only [step, Wifi.step, manager, hpc, Overrides, Option.map_some, Option.some.injEq,
          reduceCtorEq, Wifi.Act.manager.injEq, false_and, if_false, Bool.or_false] at hs
        intro h
        apply hnone
        have hout := h.outstanding (by rw [← hs]) (by rw [← hs]; exact hbit)
        rw [← hs] at hout
        exact hout
    | _ => exact absurd trivial ha

/-- A scan is ordered while an attempt to connect is running. -/
theorem not_notStuck : ¬ ∀ s, system.Reachable s → NotStuck s := by
  intro h
  have hrun : ∃ s, system.Reachable s ∧ s.wifi.pc = .receive ∧ s.wifi.scan = true ∧
      ¬ s.Outstanding :=
    Lib.System.exists_of_execute
      ((List.replicate 9 (.manager false) ++ [.request .getAp, .http] ++
        List.replicate 3 (.manager false) : List Wifi.Act).map .wifi)
      (s := ⟨boot (some ⟨['n'], ['p']⟩), 0⟩) ⟨_, rfl⟩ (by decide +kernel)
  obtain ⟨s, hs, hpc, hbit, hnone⟩ := hrun
  exact hnone ((h s hs).outstanding hpc hbit)

end Datk.Wifi.Scan
