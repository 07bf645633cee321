import Datk.Wifi.Steps

/-!
# Falling back to the access point

`wifi_manager` counts in `retries` the connections lost while the access point is down.
After each of them it asks for the retry timer to be started, and after the fourth in a
row it orders the access point to be started.

The counter is a local variable, and what is said about it is about the messages that
were handled before.  So the system here is that of the manager along with a `log` of
these messages and of what was done with each, newest first.  `failures` counts in the
log; `counted_of_reachable` says that this is what `retries` is, that the fallback comes
where it should, and that the timer does in the runs in which `xTimerStart` finds room
for its command.
-/

namespace Datk.Wifi.Retries

/-- `WIFI_MANAGER_MAX_RETRY_START_AP`. -/
def wifiManagerMaxRetryStartAp : Nat := 3

/-- A message, and what `wifi_manager` did with it. -/
structure Handled where
  message : Message
  /-- If it was handled as a lost connection, the bit `AP_STARTED`. -/
  lost : Option Bool
  /-- The retry timer was started: `xTimerStart` was called, and accepted. -/
  timer : Bool
  sent : List Order
  deriving DecidableEq

structure Traced where
  state : State
  log : List Handled
  deriving DecidableEq

/-- The step leaves the retry timer running, even if it was not. -/
def startsRetryTimer (s : State) (ok : Bool) : Bool :=
  (manager { s with retryTimer := false } ok).any (·.retryTimer)

/-- What a step of the manager adds to what it did with a message. -/
def Handled.note (s : State) (ok : Bool) (e : Handled) : Handled where
  message := e.message
  lost := match s.pc with
    | .lost _ ap => some ap
    | _ => e.lost
  timer := e.timer || startsRetryTimer s ok
  sent := match s.pc with
    | .send o => e.sent ++ [o]
    | _ => e.sent

def record (s : State) (ok : Bool) (log : List Handled) : List Handled :=
  if s.pc = .receive then (s.queue.head?.map fun m => ⟨m, none, false, []⟩).toList ++ log
  else log.modifyHead (Handled.note s ok)

def traced : Lib.System Traced Act where
  Init t := ∃ nvs, t = ⟨boot nvs, []⟩
  step t a := (step t.state a).map fun s => ⟨s, match a with
    | .manager ok => record t.state ok t.log
    | _ => t.log⟩

def Message.IsGotIp (m : Message) : Prop := ∃ c, m = .report (.gotIp c)

instance : ∀ m : Message, Decidable (Message.IsGotIp m)
  | .report (.gotIp c) => .isTrue ⟨c, rfl⟩
  | .report .scanDone => .isFalse fun ⟨_, h⟩ => nomatch h
  | .report (.disconnected _) => .isFalse fun ⟨_, h⟩ => nomatch h
  | .order _ => .isFalse fun ⟨_, h⟩ => nomatch h

/-- The connections lost with the access point down, since the last `WM_EVENT_STA_GOT_IP`
or the last fallback. -/
def failures : List Handled → Nat
  | [] => 0
  | e :: l =>
    if Message.IsGotIp e.message then 0
    else if e.lost = some false then if .startAp ∈ e.sent then 0 else failures l + 1
    else failures l

/-- What was done with a message, if the older ones are `l`. -/
structure Handled.Right (e : Handled) (l : List Handled) : Prop where
  disconnected : e.lost.isSome → ∃ d, e.message = .report (.disconnected d)
  /-- The retry timer is started only if a connection was lost. -/
  timer : e.timer = true → e.lost.isSome
  /-- The access point is started by the one that makes them too many. -/
  fallback : e.lost.isSome →
    (.startAp ∈ e.sent ↔ e.lost = some false ∧ failures l + 1 = wifiManagerMaxRetryStartAp + 1)

def AllRight : List Handled → Prop
  | [] => True
  | e :: l => e.Right l ∧ AllRight l

/-- **The counter counts the failures.** -/
structure Counted (t : Traced) : Prop where
  le : t.state.retries ≤ wifiManagerMaxRetryStartAp
  /-- Between two messages. -/
  retries : t.state.pc = .receive → t.state.retries = failures t.log
  handled : t.state.pc = .receive → AllRight t.log

/-- **Each lost connection starts the retry timer.** -/
def Timed (t : Traced) : Prop := ∀ e ∈ t.log, e.lost.isSome → e.timer = true

def isLost : ManagerPc → Bool
  | .lost _ _ => true
  | _ => false

/-- `xTimerStart` of a lost connection finds room for its command. -/
def Accepted (t : Traced) : Act → Prop
  | .manager ok => isLost t.state.pc = true → ok = true
  | _ => True

instance (t : Traced) : ∀ a, Decidable (Accepted t a)
  | .manager ok => inferInstanceAs (Decidable (isLost t.state.pc = true → ok = true))
  | .connectOk | .connectFail | .lost | .gotIp | .scanDone | .eventTask | .retryTimer
  | .shutdownTimer | .timerTask _ | .request _ | .http | .button | .buttonTask => .isTrue trivial

/-! ### One message -/

/-- Where the manager may be with the message of `e`. -/
def Within (e : Handled) : ManagerPc → Prop
  | .receive => True
  | .gotIp _ | .finish _ _ | .saveSsid (.address _ _) | .savePassword (.address _ _) =>
    Message.IsGotIp e.message
  | .disconnected _ | .lost _ _ => (∃ d, e.message = .report (.disconnected d)) ∧ e.sent = []
  | _ => ¬ Message.IsGotIp e.message

section

variable {s s' : State} {ok : Bool} {e : Handled} {l : List Handled} {m : Message}

theorem not_isGotIp_disconnected {d : Disconnect} :
    ¬ Message.IsGotIp (.report (.disconnected d)) := fun ⟨_, h⟩ => nomatch h

theorem within_dispatch (m : Message) : Within ⟨m, none, false, []⟩ (dispatch m) := by
  rcases m with (_ | _ | _ | _ | _ | _) | (_ | d | c)
  case report.scanDone => exact trivial
  case report.disconnected => exact ⟨⟨d, rfl⟩, rfl⟩
  case report.gotIp => exact ⟨c, rfl⟩
  all_goals exact fun ⟨_, h⟩ => nomatch h

/-- A step that is not the one at a lost connection keeps to the message, and to the counter
unless the message is `WM_EVENT_STA_GOT_IP`, after which it is zero. -/
theorem within_step (h : ManagerStep s ok s') (hpc : s.pc ≠ .receive)
    (hlost : ∀ d ap, s.pc ≠ .lost d ap) (hw : Within e s.pc) :
    Within (e.note s ok) s'.pc ∧ s'.retries ≤ s.retries ∧
      (¬ Message.IsGotIp e.message → s'.retries = s.retries) ∧
      (Message.IsGotIp e.message → s'.pc = .receive → s'.retries = 0) := by
  cases h with
  | receive hr _ => exact absurd hr hpc
  | lostKeep hl => exact absurd hl (hlost _ _)
  | lostStart hl _ => exact absurd hl (hlost _ _)
  | branchLost hd =>
    rw [hd] at hw
    obtain ⟨hmsg, hsent⟩ := hw
    have hno : ¬ Message.IsGotIp e.message := by
      obtain ⟨d, hd⟩ := hmsg
      rw [hd]
      exact not_isGotIp_disconnected
    exact ⟨⟨hmsg, by simp [Handled.note, hd, hsent]⟩, Nat.le_refl _, fun _ => rfl,
      fun h => absurd h hno⟩
  | branchFailed hd | branchErase hd =>
    rw [hd] at hw
    have hno : ¬ Message.IsGotIp e.message := by
      obtain ⟨d, hd⟩ := hw.1
      rw [hd]
      exact not_isGotIp_disconnected
    exact ⟨hno, Nat.le_refl _, fun _ => rfl, fun h => absurd h hno⟩
  | finish hf =>
    rw [hf] at hw
    exact ⟨trivial, Nat.zero_le _, fun h => absurd hw h, fun _ _ => rfl⟩
  | gotIpRestored hg | gotIpSaved hg =>
    rw [hg] at hw
    exact ⟨hw, Nat.le_refl _, fun h => absurd hw h, fun _ h => nomatch h⟩
  | @saveSsid k hk =>
    rw [hk] at hw
    cases k with
    | erased => exact ⟨hw, Nat.le_refl _, fun _ => rfl, fun h => absurd h hw⟩
    | address c ap => exact ⟨hw, Nat.le_refl _, fun _ => rfl, fun _ h => nomatch h⟩
  | saveAddress hk =>
    rw [hk] at hw
    exact ⟨hw, Nat.le_refl _, fun _ => rfl, fun _ h => nomatch h⟩
  | fetchSome hf =>
    rw [hf] at hw
    exact ⟨hw, Nat.le_refl _, fun _ => rfl, fun h => absurd h hw⟩
  | scanIgnored hk | scanStart hk | send hk _ | startAccessPoint hk | testTrue hk _
  | connectUser hk _ | connectOther hk _ _ | failedAttempt hk | stopIgnored hk _
  | disconnectSta hk =>
    rw [hk] at hw
    exact ⟨trivial, Nat.le_refl _, fun _ => rfl, fun h => absurd h hw⟩
  | scanSet hk | fetchNone hk _ | requestUser hk | requestRestore hk | requestAuto hk
  | stopUser hk _ | stopAccessPoint hk _ | disconnect hk | setUserConfig hk | startUser hk
  | testFalse hk _ | setConfig hk | erase hk | saveErased hk | startAp hk | stopConnected hk _
  | setModeSta hk =>
    rw [hk] at hw
    exact ⟨hw, Nat.le_refl _, fun _ => rfl, fun h => absurd h hw⟩

/-- What the branch of a lost connection leaves. -/
theorem lost_cases (s : State) (ap ok : Bool) :
    (lost s ap ok).retryTimer = (s.retryTimer || ok) ∧
      (ap = true ∧ (lost s ap ok).pc = .receive ∧ (lost s ap ok).retries = s.retries ∨
        ap = false ∧ s.retries < wifiManagerMaxRetryStartAp ∧ (lost s ap ok).pc = .receive ∧
          (lost s ap ok).retries = s.retries + 1 ∨
        ap = false ∧ ¬ s.retries < wifiManagerMaxRetryStartAp ∧
          (lost s ap ok).pc = .send .startAp ∧ (lost s ap ok).retries = 0) := by
  cases ap with
  | true => exact ⟨rfl, .inl ⟨rfl, rfl, rfl⟩⟩
  | false =>
    by_cases hn : s.retries < wifiManagerMaxRetryStartAp
    · have heq : lost s false ok = { s with
          pc := .receive
          retryTimer := s.retryTimer || ok
          restoreSta := false
          retries := s.retries + 1 } :=
        if_pos hn
      rw [heq]
      exact ⟨rfl, .inr (.inl ⟨rfl, hn, rfl, rfl⟩)⟩
    · have heq : lost s false ok = { s with
          pc := .send .startAp
          retryTimer := s.retryTimer || ok
          restoreSta := false
          retries := 0 } :=
        if_neg hn
      rw [heq]
      exact ⟨rfl, .inr (.inr ⟨rfl, hn, rfl, rfl⟩)⟩

theorem manager_lost {d : Disconnect} {ap : Bool} (hpc : s.pc = .lost d ap) :
    manager s ok = some (lost s ap ok) := by
  rw [manager, hpc]

theorem startsRetryTimer_lost {d : Disconnect} {ap : Bool} (hpc : s.pc = .lost d ap) :
    startsRetryTimer s ok = ok := by
  rw [startsRetryTimer, manager_lost (s := { s with retryTimer := false }) hpc, Option.any_some]
  exact (lost_cases _ ap ok).1

theorem startsRetryTimer_eq_false (hlost : ∀ d ap, s.pc ≠ .lost d ap) :
    startsRetryTimer s ok = false := by
  rw [startsRetryTimer]
  cases hm : manager { s with retryTimer := false } ok with
  | none => rfl
  | some s' =>
    rw [Option.any_some]
    have hcases := manager_cases hm
    cases hcases with
    | lostKeep hpc | lostStart hpc _ => exact absurd hpc (hlost _ _)
    | _ => rfl

/-! ### The runs -/

/-- The message of `e` is under way or has been handled, after those of `l`. -/
inductive Head (s : State) (e : Handled) (l : List Handled) : Prop
  /-- It is not a lost connection, or not known to be one yet. -/
  | quiet (hlost : e.lost = none) (htimer : e.timer = false) (hw : Within e s.pc)
    (hno : ¬ Message.IsGotIp e.message → s.retries = failures l)
    (hgot : Message.IsGotIp e.message → s.pc = .receive → s.retries = 0)
  | lost (hpc : s.pc = .receive) (hright : e.Right l) (hr : s.retries = failures (e :: l))
  /-- The order to start the access point is about to be sent. -/
  | fallback (hpc : s.pc = .send .startAp) (hmsg : ∃ d, e.message = .report (.disconnected d))
    (hlost : e.lost = some false) (hl : failures l = wifiManagerMaxRetryStartAp)
    (hr : s.retries = 0)

def LogInv (s : State) : List Handled → Prop
  | [] => s.retries = 0 ∧ (s.pc = .receive ∨ ∃ o, s.pc = .send o)
  | e :: l => Head s e l ∧ AllRight l

structure Inv (t : Traced) : Prop where
  le : t.state.retries ≤ wifiManagerMaxRetryStartAp
  log : LogInv t.state t.log

theorem failures_quiet (hlost : e.lost = none) :
    failures (e :: l) = if Message.IsGotIp e.message then 0 else failures l := by
  rw [failures, hlost]
  simp

theorem right_quiet (hlost : e.lost = none) (htimer : e.timer = false) : e.Right l := by
  refine ⟨?_, ?_, ?_⟩
  · rw [hlost]
    intro h
    cases h
  · rw [htimer]
    intro h
    cases h
  · rw [hlost]
    intro h
    cases h

/-- Between two messages all is as it should be. -/
theorem Head.right (h : Head s e l) (hpc : s.pc = .receive) :
    s.retries = failures (e :: l) ∧ e.Right l := by
  cases h with
  | quiet hlost htimer _ hno hgot =>
    refine ⟨?_, right_quiet hlost htimer⟩
    rw [failures_quiet hlost]
    by_cases hm : Message.IsGotIp e.message
    · rw [if_pos hm, hgot hm hpc]
    · rw [if_neg hm, hno hm]
  | lost _ hright hr => exact ⟨hr, hright⟩
  | fallback hsend =>
    rw [hpc] at hsend
    cases hsend

theorem LogInv.right {log : List Handled} (h : LogInv s log) (hpc : s.pc = .receive) :
    s.retries = failures log ∧ AllRight log := by
  cases log with
  | nil => exact ⟨h.1, trivial⟩
  | cons e l =>
    obtain ⟨hr, hright⟩ := h.1.right hpc
    exact ⟨hr, hright, h.2⟩

/-- The branch of a lost connection. -/
theorem head_lost {d : Disconnect} {ap : Bool} (hpc : s.pc = .lost d ap)
    (hle : s.retries ≤ wifiManagerMaxRetryStartAp) (h : Head s e l) :
    (lost s ap ok).retries ≤ wifiManagerMaxRetryStartAp ∧
      Head (lost s ap ok) (e.note s ok) l := by
  cases h with
  | lost hrec | fallback hrec =>
    rw [hpc] at hrec
    cases hrec
  | quiet hlost htimer hw hno hgot =>
    rw [hpc] at hw
    obtain ⟨⟨d', hd'⟩, hsent⟩ := hw
    have hnot : ¬ Message.IsGotIp e.message := by
      rw [hd']
      exact not_isGotIp_disconnected
    have hr := hno hnot
    have hnote : e.note s ok = ⟨e.message, some ap, ok, []⟩ := by
      simp [Handled.note, hpc, hsent, htimer, startsRetryTimer_lost hpc]
    rw [hnote]
    obtain ⟨-, ⟨rfl, hrec, hr'⟩ | ⟨rfl, hlt, hrec, hr'⟩ | ⟨rfl, hnlt, hsend, hr'⟩⟩ :=
      lost_cases s ap ok
    · refine ⟨hr' ▸ hle, .lost hrec ⟨fun _ => ⟨d', hd'⟩, fun _ => rfl, ?_⟩ ?_⟩
      · simp
      · rw [hr', hr, failures, if_neg hnot]
        rfl
    · refine ⟨by omega, .lost hrec ⟨fun _ => ⟨d', hd'⟩, fun _ => rfl, ?_⟩ ?_⟩
      · rw [hr] at hlt
        simp
        omega
      · rw [hr', hr, failures, if_neg hnot]
        rfl
    · refine ⟨by omega, .fallback hsend ⟨d', hd'⟩ rfl ?_ hr'⟩
      omega

/-- The send of the fallback. -/
theorem head_fallback (hpc : s.pc = .send .startAp) (hs : manager s ok = some s')
    (hmsg : ∃ d, e.message = .report (.disconnected d)) (hlost : e.lost = some false)
    (hl : failures l = wifiManagerMaxRetryStartAp) (hr : s.retries = 0) :
    s'.retries = 0 ∧ Head s' (e.note s ok) l := by
  have hnot : ¬ Message.IsGotIp e.message := by
    obtain ⟨d, hd⟩ := hmsg
    rw [hd]
    exact not_isGotIp_disconnected
  have hstarts : startsRetryTimer s ok = false :=
    startsRetryTimer_eq_false fun d ap hat => by
      rw [hpc] at hat
      cases hat
  have hnote : e.note s ok = ⟨e.message, some false, e.timer, e.sent ++ [.startAp]⟩ := by
    simp [Handled.note, hpc, hlost, hstarts]
  simp only [manager, hpc] at hs
  obtain ⟨-, rfl⟩ := send_eq hs
  rw [hnote]
  refine ⟨hr, .lost rfl ⟨fun _ => hmsg, fun _ => rfl, ?_⟩ ?_⟩
  · simp [hl]
  · rw [failures, if_neg hnot]
    simp [hr]

theorem head_step (hs : manager s ok = some s') (hpc : s.pc ≠ .receive)
    (hle : s.retries ≤ wifiManagerMaxRetryStartAp) (h : Head s e l) :
    s'.retries ≤ wifiManagerMaxRetryStartAp ∧ Head s' (e.note s ok) l := by
  by_cases hlost : ∃ d ap, s.pc = .lost d ap
  · obtain ⟨d, ap, hat⟩ := hlost
    rw [manager_lost hat, Option.some.injEq] at hs
    exact hs ▸ head_lost hat hle h
  · have hlost : ∀ d ap, s.pc ≠ .lost d ap := fun d ap hat => hlost ⟨d, ap, hat⟩
    have hstep := manager_cases hs
    cases h with
    | lost hrec => exact absurd hrec hpc
    | fallback hsend hmsg hl hfail hr =>
      obtain ⟨hr', hhead⟩ := head_fallback hsend hs hmsg hl hfail hr
      exact ⟨hr' ▸ Nat.zero_le _, hhead⟩
    | quiet hnone htimer hw hno hgot =>
      obtain ⟨hw', hle', hkeep, hzero⟩ := within_step hstep hpc hlost hw
      refine ⟨Nat.le_trans hle' hle, .quiet ?_ ?_ hw' ?_ hzero⟩
      · rw [Handled.note]
        split
        · exact absurd ‹_› (hlost _ _)
        · exact hnone
      · rw [Handled.note, htimer, startsRetryTimer_eq_false hlost]
        rfl
      · intro hnot
        rw [hkeep hnot, hno hnot]

theorem log_step {log : List Handled} (hs : manager s ok = some s')
    (hle : s.retries ≤ wifiManagerMaxRetryStartAp) (h : LogInv s log) :
    s'.retries ≤ wifiManagerMaxRetryStartAp ∧ LogInv s' (record s ok log) := by
  by_cases hpc : s.pc = .receive
  · obtain ⟨hr, hright⟩ := h.right hpc
    cases hq : s.queue with
    | nil => simp [manager, hpc, hq] at hs
    | cons m rest =>
      simp only [manager, hpc, hq, Option.some.injEq] at hs
      subst hs
      have hrecord : record s ok log = ⟨m, none, false, []⟩ :: log := by
        rw [record, if_pos hpc, hq]
        rfl
      rw [hrecord]
      refine ⟨hle, .quiet rfl rfl (within_dispatch m) (fun _ => hr) ?_, hright⟩
      rintro ⟨c, rfl⟩ hrec
      cases hrec
  · rw [record, if_neg hpc]
    cases log with
    | nil =>
      obtain ⟨hr, hrec | ⟨o, ho⟩⟩ := h
      · exact absurd hrec hpc
      · simp only [manager, ho] at hs
        obtain ⟨-, rfl⟩ := send_eq hs
        exact ⟨hle, hr, .inl rfl⟩
    | cons e l =>
      obtain ⟨hle', hhead⟩ := head_step hs hpc hle h.1
      exact ⟨hle', hhead, h.2⟩

/-- Another task leaves the manager where it is. -/
theorem pc_retries_step {a : Act} (hs : step s a = some s') (ha : ∀ ok, a ≠ .manager ok) :
    s'.pc = s.pc ∧ s'.retries = s.retries := by
  have hcases := step_cases hs
  cases hcases with
  | manager _ => exact absurd rfl (ha _)
  | _ => exact ⟨rfl, rfl⟩

theorem Head.congr (h : Head s e l) (hpc : s'.pc = s.pc) (hr : s'.retries = s.retries) :
    Head s' e l := by
  cases h with
  | quiet hlost htimer hw hno hgot =>
    refine .quiet hlost htimer (hpc ▸ hw) (fun hm => hr ▸ hno hm) (fun hm hrec => ?_)
    rw [hr]
    exact hgot hm (hpc ▸ hrec)
  | lost hrec hright hfail => exact .lost (hpc.trans hrec) hright (hr.trans hfail)
  | fallback hsend hmsg hlost hl hzero =>
    exact .fallback (hpc.trans hsend) hmsg hlost hl (hr.trans hzero)

theorem LogInv.congr {log : List Handled} (h : LogInv s log) (hpc : s'.pc = s.pc)
    (hr : s'.retries = s.retries) : LogInv s' log := by
  cases log with
  | nil =>
    rw [LogInv, hpc, hr]
    exact h
  | cons e l => exact ⟨h.1.congr hpc hr, h.2⟩

end

theorem inv_step {t t' : Traced} {a : Act} (h : Inv t) (hs : traced.step t a = some t') :
    Inv t' := by
  obtain ⟨s', hstep, rfl⟩ := Option.map_eq_some_iff.mp hs
  by_cases ha : ∃ ok, a = .manager ok
  · obtain ⟨ok, rfl⟩ := ha
    obtain ⟨hle, hlog⟩ := log_step hstep h.le h.log
    exact ⟨hle, hlog⟩
  · obtain ⟨hpc, hr⟩ := pc_retries_step hstep fun ok hok => ha ⟨ok, hok⟩
    refine ⟨hr ▸ h.le, ?_⟩
    cases a with
    | manager ok => exact absurd ⟨ok, rfl⟩ ha
    | _ => exact LogInv.congr (s := t.state) h.log hpc hr

theorem inv_of_reachable {t : Traced} (h : traced.Reachable t) : Inv t := by
  refine h.invariant (P := Inv) ?_ ?_
  · rintro _ ⟨nvs, rfl⟩
    exact ⟨Nat.zero_le _, rfl, .inr ⟨_, rfl⟩⟩
  · intro t a t' hinv _ hs
    exact inv_step hinv hs

/-! ### The timer -/

/-- What a step adds to what is said of the message under way, and what it needs. -/
theorem timed_note {s : State} {ok : Bool} {e : Handled} {l : List Handled} (h : Head s e l) :
    ((e.note s ok).lost.isSome → (e.note s ok).timer = true) ↔
      (e.lost.isSome → e.timer = true) ∧ (isLost s.pc = true → ok = true) := by
  by_cases hlost : ∃ d ap, s.pc = .lost d ap
  · obtain ⟨d, ap, hpc⟩ := hlost
    cases h with
    | lost hrec | fallback hrec =>
      rw [hpc] at hrec
      cases hrec
    | quiet hnone htimer =>
      simp [Handled.note, hpc, hnone, htimer, startsRetryTimer_lost hpc, isLost]
  · have hlost : ∀ d ap, s.pc ≠ .lost d ap := fun d ap hat => hlost ⟨d, ap, hat⟩
    have hno : isLost s.pc = false := by
      cases hpc : s.pc with
      | lost d ap => exact absurd hpc (hlost d ap)
      | _ => rfl
    have hsame : (e.note s ok).lost = e.lost := by
      rw [Handled.note]
      split
      · exact absurd ‹_› (hlost _ _)
      · rfl
    have htimer : (e.note s ok).timer = e.timer := by
      rw [Handled.note, startsRetryTimer_eq_false hlost, Bool.or_false]
    simp [hsame, htimer, hno]

theorem timed_step {t t' : Traced} {a : Act} (h : Inv t) (hs : traced.step t a = some t') :
    Timed t' ↔ Timed t ∧ Accepted t a := by
  obtain ⟨s', hstep, rfl⟩ := Option.map_eq_some_iff.mp hs
  cases a with
  | manager ok =>
    by_cases hpc : t.state.pc = .receive
    · -- The entry of the next message says nothing yet.
      cases hq : t.state.queue.head? <;> simp [Timed, record, hpc, hq, Accepted, isLost]
    · have hlog := h.log
      cases hl : t.log with
      | nil =>
        rw [hl] at hlog
        obtain ⟨-, hrec | ⟨o, ho⟩⟩ := hlog
        · exact absurd hrec hpc
        · simp [Timed, record, hl, ho, Accepted, isLost]
      | cons e l =>
        rw [hl] at hlog
        simp only [Timed, record, if_neg hpc, hl, List.modifyHead_cons, List.forall_mem_cons,
          timed_note hlog.1, Accepted]
        exact and_right_comm
  | _ => exact (and_iff_left trivial).symm

/-- Each lost connection has started the retry timer in the runs in which the command is
accepted, and in no others. -/
theorem timed_iff {t : Traced} :
    traced.Reaches Accepted t ↔ traced.Reachable t ∧ Timed t := by
  have hiff : traced.Reaches (fun t a => True ∧ Accepted t a) t ↔ traced.Reachable t ∧ Timed t := by
    refine Lib.System.Reaches.iff_reaches_and ?_ ?_ ?_
    · rintro _ ⟨nvs, rfl⟩ e he
      cases he
    · intro t a t' h _ hs htimed
      exact ((timed_step (inv_of_reachable h) hs).mp htimed).1
    · intro t a t' h htimed _ hs
      rw [timed_step (inv_of_reachable h) hs, and_iff_right htimed]
  simpa only [true_and] using hiff

/-- **The access point comes up after exactly so many failures**, in all runs, and each
lost connection has started the retry timer in those in which `xTimerStart` found room for
its command. -/
theorem counted_of_reachable {t : Traced} (h : traced.Reachable t) :
    Counted t ∧ (Timed t ↔ traced.Reaches Accepted t) := by
  have hinv := inv_of_reachable h
  refine ⟨⟨hinv.le, fun hpc => (hinv.log.right hpc).1, fun hpc => (hinv.log.right hpc).2⟩, ?_⟩
  rw [timed_iff, and_iff_right h]

/-- The trace is of a run of the manager. -/
theorem reachable_state {t : Traced} (h : traced.Reachable t) : system.Reachable t.state := by
  induction h with
  | init h0 =>
    obtain ⟨nvs, rfl⟩ := h0
    exact .init ⟨nvs, rfl⟩
  | step _ _ hs ih =>
    obtain ⟨s', hstep, rfl⟩ := Option.map_eq_some_iff.mp hs
    exact .step ih trivial hstep

/-- Every run of the manager has its trace. -/
theorem exists_log {s : State} (h : system.Reachable s) : ∃ log, traced.Reachable ⟨s, log⟩ := by
  induction h with
  | init h0 =>
    obtain ⟨nvs, rfl⟩ := h0
    exact ⟨[], .init ⟨nvs, rfl⟩⟩
  | step _ _ hs ih =>
    obtain ⟨log, hlog⟩ := ih
    exact ⟨_, .step hlog trivial (Option.map_eq_some_iff.mpr ⟨_, hs, rfl⟩)⟩

/-- An attempt fails. -/
def failed : List Act := [.connectFail, .eventTask, .eventTask]

/-- An attempt fails, and is made again when the retry timer has run out. -/
def attempt : List Act :=
  failed ++ List.replicate 3 (Act.manager true) ++ [.retryTimer, .timerTask true] ++
    List.replicate 5 (Act.manager false)

/-- The access point that is saved is not there: the fourth failure brings up our own. -/
theorem counted_after_fallback : ∃ t, traced.Reaches Accepted t ∧
    (t.state.pc = .receive ∧ t.state.queue = [.order .startAp] ∧ t.state.retries = 0) ∧
      Counted t ∧ Timed t := by
  have hrun : ∃ t, traced.Reaches Accepted t ∧
      (t.state.pc = .receive ∧ t.state.queue = [.order .startAp] ∧ t.state.retries = 0) :=
    Lib.System.exists_of_execute
      (List.replicate 9 (Act.manager false) ++ attempt ++ attempt ++ attempt ++ failed ++
        List.replicate 4 (Act.manager true))
      (s := ⟨boot (some ⟨['a'], ['b']⟩), []⟩) ⟨_, rfl⟩ (by decide +kernel)
  obtain ⟨t, ht, hstate⟩ := hrun
  obtain ⟨hcounted, htimed⟩ := counted_of_reachable ht.reachable
  exact ⟨t, ht, hstate, hcounted, htimed.mpr ht⟩

/-- A connection is lost while the queue of the timer task is full: nothing will try to
restore it. -/
theorem not_timed : ¬ ∀ t, traced.Reachable t → Counted t ∧ Timed t := by
  intro h
  have hrun : ∃ t, traced.Reachable t ∧ ∃ e ∈ t.log, e.lost = some false ∧ e.timer = false :=
    Lib.System.exists_of_execute
      (List.replicate 9 (Act.manager false) ++ failed ++ List.replicate 3 (Act.manager false))
      (s := ⟨boot (some ⟨['a'], ['b']⟩), []⟩) ⟨_, rfl⟩ (by decide +kernel)
  obtain ⟨t, ht, e, he, hlost, htimer⟩ := hrun
  have hstarted := (h t ht).2 e he (by rw [hlost]; rfl)
  rw [htimer] at hstarted
  cases hstarted

end Datk.Wifi.Retries
