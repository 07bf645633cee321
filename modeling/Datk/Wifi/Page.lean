import Datk.Lib.System
import Datk.Wifi.Status

/-!
# What the page shows of an attempt

`code.js` asks for `status.json` every 950 ms, and shows success or failure when the status is
about the network that the user has chosen.  A status of an earlier attempt must not be taken
for that of the last one.  Two things are there for this: `wifi_manager_connect_async` flushes
the status, and `performConnect` stops the interval until its request has been answered.

* The user may click at any time, wherever the page allows it, and more often.
* Requests are answered in any order, and any of them may fail.  The server answers with the
  status of that moment, and the manager updates it whenever it likes.
* A turn of the event loop is one step.

Stopping the interval does not recall a request that is already on its way, and of two requests
that the page waits for, the first one to come back starts it again.  `fresh_of_orderly` says
that a user who clicks only when the page is loaded, and lets both come back, sees no status
that is older than the last post.  Such a status may still tell the end of an earlier attempt,
if the driver reports it late; that is not in the page's hands.
-/

namespace Datk.Wifi.Page

open Lib

/-! ### The page -/

/-- The intervals of a variable: those that run, and the one that can be stopped. -/
structure Interval where
  var : Option Nat
  running : List Nat
  next : Nat
  deriving DecidableEq, Repr

/-- `stopCheckStatusInterval` and `stopRefreshAPInterval`. -/
def Interval.stop (i : Interval) : Interval :=
  match i.var with
  | some n => { i with var := none, running := i.running.erase n }
  | none => i

/-- `startCheckStatusInterval` and `startRefreshAPInterval`. -/
def Interval.start (i : Interval) : Interval :=
  { var := some i.next, running := i.running ++ [i.next], next := i.next + 1 }

structure Details where
  ssid : Text
  ip : Text
  netmask : Text
  gw : Text
  deriving DecidableEq, Repr

/-- The object in `status.json`. -/
structure Status where
  details : Details
  urc : UpdateReason
  deriving DecidableEq, Repr

/-- A status, and the last post that had been accepted when it was made. -/
structure Made where
  status : Status
  after : Nat
  deriving DecidableEq, Repr

/-- A request for the status. -/
inductive Check
  | sent
  /-- The server has answered, with the empty object if there is no status. -/
  | answered (data : Option Made)
  deriving DecidableEq, Repr

/-- A request that the page waits for. -/
inductive Await
  /-- The post with this number. -/
  | post (n : Nat) (answered : Bool)
  | delete
  deriving DecidableEq, Repr

structure State where
  selectedSSID : Text
  checkStatusInterval : Interval
  refreshAPInterval : Interval
  /-- What is displayed. -/
  loading : Bool
  connectSuccess : Bool
  connectFail : Bool
  okConnectDisabled : Bool
  wifiStatus : Bool
  details : Details
  /-- The first list has been asked for, with an answer or without. -/
  loaded : Bool
  checks : List Check
  awaits : List Await
  /-- The last request that the page waited for has failed. -/
  failed : Bool
  /-- How many posts have been sent, and the last one that was accepted. -/
  posted : Nat
  accepted : Nat
  /-- What `status.json` has. -/
  served : Option Made
  /-- History: the statuses that the manager has made. -/
  made : List Made
  /-- History: the outcomes displayed, each with the number of posts sent before. -/
  shown : List (Nat × Made)
  deriving DecidableEq, Repr

inductive Act
  /-- `refreshAP` has returned for the first time. -/
  | load
  /-- A network is chosen in the list, or none with `cancel` and `manual_add`. -/
  | select (ssid : Text)
  /-- `performConnect`; the SSID is that of the form if it is manual. -/
  | performConnect (manual : Option Text)
  | yesDisconnect
  /-- An interval of `checkStatusInterval`. -/
  | interval (n : Nat)
  /-- The `i`-th request for the status: the server answers, the answer arrives, or the
  request fails. -/
  | answer (i : Nat)
  | checkStatus (i : Nat)
  | lose (i : Nat)
  /-- The `i`-th request that the page waits for: the server answers a post, `fetch` returns,
  or it fails. -/
  | post (i : Nat) (accepted : Bool)
  | fetched (i : Nat)
  | fail (i : Nat)
  /-- The manager has made a status. -/
  | generate (status : Status)
  deriving DecidableEq, Repr

def performConnect (s : State) (manual : Option Text) : State :=
  { s with
    selectedSSID := manual.getD s.selectedSSID
    checkStatusInterval := s.checkStatusInterval.stop
    refreshAPInterval := s.refreshAPInterval.stop
    loading := true
    connectSuccess := false
    connectFail := false
    okConnectDisabled := true
    awaits := s.awaits ++ [.post (s.posted + 1) false]
    posted := s.posted + 1 }

/-- `checkStatus`, once the status is there. -/
def checkStatus (s : State) : Option Made → State
  | none => s
  | some m =>
    if m.status.details.ssid ≠ [] then
      if m.status.details.ssid = s.selectedSSID then
        match m.status.urc with
        | .connectionOk =>
          { s with
            details := m.status.details
            wifiStatus := true
            okConnectDisabled := false
            loading := false
            connectSuccess := true
            connectFail := false
            shown := s.shown ++ [(s.posted, m)] }
        | .failedAttempt =>
          -- `display` is set without `style`, so `loading` and `wifi-status` stay.
          { s with
            details := ⟨m.status.details.ssid, "0.0.0.0".toList, "0.0.0.0".toList,
              "0.0.0.0".toList⟩
            okConnectDisabled := false
            connectSuccess := false
            connectFail := true
            shown := s.shown ++ [(s.posted, m)] }
        | _ => s
      else if m.status.urc = .connectionOk ∧ s.wifiStatus = false then
        { s with details := m.status.details, wifiStatus := true }
      else s
    else if m.status.urc = .userDisconnect then { s with wifiStatus := false } else s

/-- What follows the request: both intervals after a post, and the first one after a
delete. -/
def fetched (s : State) : Await → Option State
  | .post _ false => none
  | .post _ true => some { s with
      checkStatusInterval := s.checkStatusInterval.start
      refreshAPInterval := s.refreshAPInterval.start }
  | .delete => some { s with checkStatusInterval := s.checkStatusInterval.start }

def step (s : State) : Act → Option State
  | .load =>
    if s.loaded then none
    else some { s with
      checkStatusInterval := s.checkStatusInterval.start
      refreshAPInterval := s.refreshAPInterval.start
      loaded := true }
  | .select ssid => some { s with selectedSSID := ssid }
  | .performConnect manual => some (performConnect s manual)
  | .yesDisconnect => some { s with
      checkStatusInterval := s.checkStatusInterval.stop
      selectedSSID := []
      awaits := s.awaits ++ [.delete] }
  | .interval n =>
    if n ∈ s.checkStatusInterval.running then some { s with checks := s.checks ++ [.sent] }
    else none
  | .answer i =>
    match s.checks[i]? with
    | some .sent => some { s with checks := s.checks.set i (.answered s.served) }
    | _ => none
  | .checkStatus i =>
    match s.checks[i]? with
    | some (.answered data) => some (checkStatus { s with checks := s.checks.eraseIdx i } data)
    | _ => none
  | .lose i => if i < s.checks.length then some { s with checks := s.checks.eraseIdx i } else none
  | .post i accepted =>
    match s.awaits[i]? with
    | some (.post n false) =>
      let s := { s with awaits := s.awaits.set i (.post n true) }
      -- `wifi_manager_connect_async`
      some (if accepted then { s with accepted := n, served := none } else s)
    | _ => none
  | .fetched i =>
    (s.awaits[i]?).bind fun a =>
      fetched { s with awaits := s.awaits.eraseIdx i, failed := false } a
  | .fail i =>
    if i < s.awaits.length then
      some { s with awaits := s.awaits.eraseIdx i, failed := true }
    else none
  | .generate status => some { s with
      served := some ⟨status, s.accepted⟩
      made := s.made ++ [⟨status, s.accepted⟩] }

def boot : State where
  selectedSSID := []
  checkStatusInterval := ⟨none, [], 0⟩
  refreshAPInterval := ⟨none, [], 0⟩
  loading := true
  connectSuccess := false
  connectFail := false
  okConnectDisabled := false
  wifiStatus := false
  details := ⟨[], [], [], []⟩
  loaded := false
  checks := []
  awaits := []
  failed := false
  posted := 0
  accepted := 0
  served := none
  made := []
  shown := []

/-- The device may have a status when the page is loaded. -/
def system : System State Act where
  Init s := ∃ served : Option Made, (∀ m ∈ served, m.after = 0) ∧
    s = { boot with served := served, made := served.toList }
  step := step

/-! ### Users who wait -/

/-- No request of the user is started before the page is loaded, or while another one is under
way. -/
def OneAtATime (s : State) : Act → Prop
  | .performConnect _ | .yesDisconnect => s.loaded = true ∧ s.awaits = []
  | _ => True

/-- A network is joined while no status is under way either, and the server accepts the post,
though its answer may be lost. -/
def Clear (s : State) : Act → Prop
  | .performConnect _ => s.checks = []
  | .post _ accepted => accepted = true
  | .fail i => s.awaits[i]? ≠ some (.post s.posted false)
  | _ => True

instance (s : State) : ∀ a, Decidable (OneAtATime s a)
  | .performConnect _ | .yesDisconnect => inferInstanceAs (Decidable (_ ∧ _))
  | .load | .select _ | .interval _ | .answer _ | .checkStatus _ | .lose _ | .post _ _
  | .fetched _ | .fail _ | .generate _ => .isTrue trivial

instance (s : State) : ∀ a, Decidable (Clear s a)
  | .performConnect _ => inferInstanceAs (Decidable (_ = _))
  | .post _ accepted => inferInstanceAs (Decidable (accepted = true))
  | .fail i => inferInstanceAs (Decidable (s.awaits[i]? ≠ _))
  | .load | .select _ | .interval _ | .answer _ | .checkStatus _ | .lose _ | .yesDisconnect
  | .fetched _ | .generate _ => .isTrue trivial

/-! ### What a step does -/

variable {s s' : State}

/-- **What `checkStatus` can display.** -/
inductive Displays (s : State) : Option Made → State → Prop
  | same {data : Option Made} (details : Details) (wifiStatus : Bool) :
      Displays s data { s with details := details, wifiStatus := wifiStatus }
  | success {m : Made} : m.status.urc = .connectionOk →
      Displays s (some m) { s with
        details := m.status.details
        wifiStatus := true
        okConnectDisabled := false
        loading := false
        connectSuccess := true
        connectFail := false
        shown := s.shown ++ [(s.posted, m)] }
  | failure {m : Made} (details : Details) : m.status.urc = .failedAttempt →
      Displays s (some m) { s with
        details := details
        okConnectDisabled := false
        connectSuccess := false
        connectFail := true
        shown := s.shown ++ [(s.posted, m)] }

theorem displays_checkStatus (s : State) (data : Option Made) :
    Displays s data (checkStatus s data) := by
  cases data with
  | none => exact .same s.details s.wifiStatus
  | some m =>
    rw [checkStatus]
    split
    · split
      · split
        · exact .success ‹_›
        · exact .failure _ ‹_›
        · exact .same s.details s.wifiStatus
      · split
        · exact .same _ _
        · exact .same s.details s.wifiStatus
    · split
      · exact .same s.details _
      · exact .same s.details s.wifiStatus

/-- **What a step can do.** -/
inductive Step (s : State) : Act → State → Prop
  | load : s.loaded = false → Step s .load { s with
      checkStatusInterval := s.checkStatusInterval.start
      refreshAPInterval := s.refreshAPInterval.start
      loaded := true }
  | select (ssid : Text) : Step s (.select ssid) { s with selectedSSID := ssid }
  | performConnect (manual : Option Text) :
      Step s (.performConnect manual) (performConnect s manual)
  | yesDisconnect : Step s .yesDisconnect { s with
      checkStatusInterval := s.checkStatusInterval.stop
      selectedSSID := []
      awaits := s.awaits ++ [.delete] }
  | interval {n : Nat} : n ∈ s.checkStatusInterval.running →
      Step s (.interval n) { s with checks := s.checks ++ [.sent] }
  | answer {i : Nat} : s.checks[i]? = some .sent →
      Step s (.answer i) { s with checks := s.checks.set i (.answered s.served) }
  | checkStatus {i : Nat} {data : Option Made} {s' : State} :
      s.checks[i]? = some (.answered data) →
      Displays { s with checks := s.checks.eraseIdx i } data s' → Step s (.checkStatus i) s'
  | lose (i : Nat) : Step s (.lose i) { s with checks := s.checks.eraseIdx i }
  | accept {i n : Nat} : s.awaits[i]? = some (.post n false) →
      Step s (.post i true) { s with
        awaits := s.awaits.set i (.post n true)
        accepted := n
        served := none }
  | reject {i n : Nat} : s.awaits[i]? = some (.post n false) →
      Step s (.post i false) { s with awaits := s.awaits.set i (.post n true) }
  | fetched {i : Nat} {a : Await} (refreshAPInterval : Interval) : s.awaits[i]? = some a →
      (∀ n, a ≠ .post n false) →
      Step s (.fetched i) { s with
        awaits := s.awaits.eraseIdx i
        failed := false
        checkStatusInterval := s.checkStatusInterval.start
        refreshAPInterval := refreshAPInterval }
  | fail {i : Nat} : i < s.awaits.length →
      Step s (.fail i) { s with awaits := s.awaits.eraseIdx i, failed := true }
  | generate (status : Status) : Step s (.generate status) { s with
      served := some ⟨status, s.accepted⟩
      made := s.made ++ [⟨status, s.accepted⟩] }

theorem step_cases {a : Act} (hs : step s a = some s') : Step s a s' := by
  cases a <;> simp only [step] at hs
  case load =>
    split at hs <;> cases hs
    exact .load (Bool.eq_false_iff.mpr ‹_›)
  case select =>
    cases hs
    exact .select _
  case performConnect =>
    cases hs
    exact .performConnect _
  case yesDisconnect =>
    cases hs
    exact .yesDisconnect
  case interval =>
    split at hs <;> cases hs
    exact .interval ‹_›
  case answer =>
    split at hs <;> cases hs
    exact .answer ‹_›
  case checkStatus =>
    split at hs <;> cases hs
    exact .checkStatus ‹_› (displays_checkStatus _ _)
  case lose =>
    split at hs <;> cases hs
    exact .lose _
  case post i accepted =>
    split at hs <;> cases hs
    cases accepted
    · exact .reject ‹_›
    · exact .accept ‹_›
  case fetched i =>
    obtain ⟨a, ha, hs⟩ := Option.bind_eq_some_iff.mp hs
    rcases a with ⟨n, _ | _⟩ | _ <;> cases hs
    · exact .fetched _ ha fun _ h => (by cases h)
    · exact .fetched _ ha fun _ h => (by cases h)
  case fail =>
    split at hs <;> cases hs
    exact .fail ‹_›
  case generate =>
    cases hs
    exact .generate _

/-- A request that is sent has no status yet, -/
theorem answered_of_mem_sent {checks : List Check} {m : Made}
    (hm : .answered (some m) ∈ checks ++ [.sent]) : .answered (some m) ∈ checks := by
  rcases List.mem_append.mp hm with hm | hm
  · exact hm
  · cases List.mem_singleton.mp hm

/-- and one that is answered has that of the server. -/
theorem answered_of_mem_set {checks : List Check} {i : Nat} {served : Option Made} {m : Made}
    (hm : .answered (some m) ∈ checks.set i (.answered served)) :
    .answered (some m) ∈ checks ∨ m ∈ served := by
  refine (List.mem_or_eq_of_mem_set hm).imp_right fun heq => ?_
  injection heq with hserved
  exact hserved.symm

/-! ### What is displayed -/

/-- **What the page shows has been made by the manager**, and an outcome is displayed only
after it has arrived. -/
structure Genuine (s : State) : Prop where
  served : ∀ m ∈ s.served, m ∈ s.made
  checks : ∀ m, .answered (some m) ∈ s.checks → m ∈ s.made
  shown : ∀ e ∈ s.shown, e.2 ∈ s.made
  success : s.connectSuccess = true →
    ∃ m, (s.posted, m) ∈ s.shown ∧ m.status.urc = .connectionOk
  failure : s.connectFail = true →
    ∃ m, (s.posted, m) ∈ s.shown ∧ m.status.urc = .failedAttempt
  apart : s.connectSuccess = true → s.connectFail = false

theorem Genuine.displays {data : Option Made} (h : Genuine s)
    (hdata : ∀ m ∈ data, m ∈ s.made) (hs : Displays s data s') : Genuine s' := by
  cases hs with
  | same => exact { h with }
  | @success m hurc =>
    exact { h with
      shown := forall_mem_concat h.shown (hdata m rfl)
      success := fun _ => ⟨m, List.mem_concat_self, hurc⟩
      failure := fun hfail => (by cases hfail)
      apart := fun _ => rfl }
  | @failure m _ hurc =>
    exact { h with
      shown := forall_mem_concat h.shown (hdata m rfl)
      success := fun hsuccess => (by cases hsuccess)
      failure := fun _ => ⟨m, List.mem_concat_self, hurc⟩
      apart := fun hsuccess => (by cases hsuccess) }

theorem Genuine.step {a : Act} (h : Genuine s) (hs : Step s a s') : Genuine s' := by
  cases hs with
  | load | select | yesDisconnect | reject | fetched | fail => exact { h with }
  | performConnect =>
    exact { h with
      success := fun hsuccess => (by cases hsuccess)
      failure := fun hfail => (by cases hfail)
      apart := fun _ => rfl }
  | interval => exact { h with checks := fun m hm => h.checks m (answered_of_mem_sent hm) }
  | answer =>
    refine { h with checks := fun m hm => ?_ }
    rcases answered_of_mem_set hm with hm | hm
    · exact h.checks m hm
    · exact h.served m hm
  | @checkStatus i data _ hi hs =>
    have hrest : Genuine { s with checks := s.checks.eraseIdx i } :=
      { h with checks := fun m hm => h.checks m (List.mem_of_mem_eraseIdx hm) }
    refine hrest.displays (fun m hm => h.checks m ?_) hs
    cases hm
    exact List.mem_of_getElem? hi
  | lose i => exact { h with checks := fun m hm => h.checks m (List.mem_of_mem_eraseIdx hm) }
  | accept => exact { h with served := fun m hm => (by cases hm) }
  | generate =>
    exact { h with
      served := fun m hm => (by cases hm; exact List.mem_concat_self)
      checks := fun m hm => List.mem_append_left _ (h.checks m hm)
      shown := fun e he => List.mem_append_left _ (h.shown e he) }

theorem genuine_of_reachable (h : system.Reachable s) : Genuine s := by
  refine Lib.System.Reaches.invariant ?_ (fun _ _ _ h _ hs => h.step (step_cases hs)) h
  rintro _ ⟨served, -, rfl⟩
  refine ⟨fun m hm => ?_, nofun, nofun, nofun, nofun, nofun⟩
  exact Option.mem_toList.mpr hm

/-! ### The intervals -/

theorem Interval.var_stop (i : Interval) : i.stop.var = none := by
  rw [stop]
  split
  · rfl
  · assumption

theorem Interval.running_stop {i : Interval} (h : i.running = i.var.toList) :
    i.stop.running = [] := by
  rw [stop]
  split
  case h_1 n hvar =>
    rw [h, hvar]
    exact List.erase_cons_head n []
  case h_2 hvar =>
    rw [h, hvar]
    rfl

theorem Interval.running_start {i : Interval} (h : i.running = i.var.toList)
    (hvar : i.var = none) : i.start.running = i.start.var.toList := by
  rw [hvar] at h
  rw [start, h]
  rfl

theorem eq_singleton {α : Type} {l : List α} {i : Nat} {a : α} (hl : l.length ≤ 1)
    (ha : l[i]? = some a) : l = [a] ∧ i = 0 := by
  obtain ⟨hi, hget⟩ := List.getElem?_eq_some_iff.mp ha
  have hzero : i = 0 := by omega
  subst hzero
  obtain ⟨b, rfl⟩ := List.length_eq_one_iff.mp (show l.length = 1 by omega)
  exact ⟨congrArg (fun x => [x]) hget, rfl⟩

/-- **The interval that runs can be stopped**, and while the page waits for a request it is. -/
structure Waiting (s : State) : Prop where
  running : s.checkStatusInterval.running = s.checkStatusInterval.var.toList
  loaded : s.loaded = false →
    s.awaits = [] ∧ s.checkStatusInterval.var = none ∧ s.failed = false
  awaits : s.awaits.length ≤ 1
  quiet : s.awaits ≠ [] → s.checkStatusInterval.var = none
  polls : s.loaded = true → s.awaits = [] → s.checkStatusInterval.var.isNone = s.failed

/-- A request of the user stops the interval, -/
theorem Waiting.ask (h : Waiting s) (hloaded : s.loaded = true) (hidle : s.awaits = [])
    {a : Await} {t : State} (hinterval : t.checkStatusInterval = s.checkStatusInterval.stop)
    (hawaits : t.awaits = s.awaits ++ [a]) (hl : t.loaded = s.loaded) : Waiting t := by
  rw [hidle, List.nil_append] at hawaits
  constructor
  · rw [hinterval, Interval.running_stop h.running, Interval.var_stop]
    rfl
  · intro hnot
    rw [hl, hloaded] at hnot
    cases hnot
  · rw [hawaits]
    exact Nat.le_refl 1
  · intro _
    rw [hinterval]
    exact Interval.var_stop _
  · intro _ hnil
    rw [hawaits] at hnil
    cases hnil

/-- and it stays so until the request is over. -/
theorem Waiting.keep (h : Waiting s) (hne : s.awaits ≠ []) {t : State}
    (hlength : t.awaits.length = s.awaits.length)
    (hinterval : t.checkStatusInterval = s.checkStatusInterval) (hl : t.loaded = s.loaded) :
    Waiting t := by
  have hne' : t.awaits ≠ [] := by
    rw [← List.length_pos_iff, hlength]
    exact List.length_pos_iff.mpr hne
  constructor
  · rw [hinterval]
    exact h.running
  · intro hnot
    exact absurd (h.loaded (hl ▸ hnot)).1 hne
  · rw [hlength]
    exact h.awaits
  · intro _
    rw [hinterval]
    exact h.quiet hne
  · intro _ hnil
    exact absurd hnil hne'

theorem Waiting.loaded_of_awaits (h : Waiting s) (hne : s.awaits ≠ []) : s.loaded = true := by
  cases hloaded : s.loaded with
  | true => rfl
  | false => exact absurd (h.loaded hloaded).1 hne

theorem Waiting.displays {data : Option Made} (h : Waiting s) (hs : Displays s data s') :
    Waiting s' := by
  cases hs <;> exact { h with }

theorem Waiting.step {a : Act} (h : Waiting s) (hok : OneAtATime s a) (hs : Step s a s') :
    Waiting s' := by
  cases hs with
  | select | interval | answer | lose | generate => exact { h with }
  | @checkStatus i _ _ _ hs =>
    have hrest : Waiting { s with checks := s.checks.eraseIdx i } := { h with }
    exact hrest.displays hs
  | load hloaded =>
    obtain ⟨hidle, hvar, hfailed⟩ := h.loaded hloaded
    refine ⟨Interval.running_start h.running hvar, nofun, h.awaits, fun hne => absurd hidle hne,
      fun _ _ => ?_⟩
    exact hfailed.symm
  | performConnect => exact h.ask hok.1 hok.2 rfl rfl rfl
  | yesDisconnect => exact h.ask hok.1 hok.2 rfl rfl rfl
  | accept ha | reject ha =>
    exact h.keep (List.ne_nil_of_mem (List.mem_of_getElem? ha)) List.length_set rfl rfl
  | fetched _ ha =>
    have hne := List.ne_nil_of_mem (List.mem_of_getElem? ha)
    obtain ⟨hone, rfl⟩ := eq_singleton h.awaits ha
    have hloaded := h.loaded_of_awaits hne
    refine ⟨Interval.running_start h.running (h.quiet hne), fun hnot => ?_, ?_, fun hne' => ?_,
      fun _ _ => rfl⟩
    · exact absurd (hloaded.symm.trans hnot) (by decide)
    · simp only [hone]
      exact Nat.zero_le 1
    · exact absurd (by simp only [hone]; rfl) hne'
  | @fail i hi =>
    have hne := List.length_pos_iff.mp (Nat.lt_of_le_of_lt (Nat.zero_le i) hi)
    obtain ⟨hone, rfl⟩ := eq_singleton h.awaits (List.getElem?_eq_getElem hi)
    have hloaded := h.loaded_of_awaits hne
    refine ⟨h.running, fun hnot => ?_, ?_, fun _ => h.quiet hne, fun _ _ => ?_⟩
    · exact absurd (hloaded.symm.trans hnot) (by decide)
    · rw [hone]
      exact Nat.zero_le 1
    · rw [h.quiet hne]
      rfl

theorem waiting_of_oneAtATime (h : system.Reaches OneAtATime s) : Waiting s := by
  refine h.invariant ?_ (fun _ _ _ h hok hs => h.step hok (step_cases hs))
  rintro _ ⟨served, -, rfl⟩
  exact ⟨rfl, fun _ => ⟨rfl, rfl, rfl⟩, Nat.zero_le 1, fun _ => rfl, nofun⟩

/-- **The page polls exactly while it does not wait**: one interval runs, unless the page is
not loaded yet, a request of the user is under way, or the last one has failed. -/
theorem length_running (h : system.Reaches OneAtATime s) :
    s.checkStatusInterval.running.length =
      if s.loaded = true ∧ s.awaits = [] ∧ s.failed = false then 1 else 0 := by
  have hw := waiting_of_oneAtATime h
  rw [hw.running]
  split
  case isTrue hpolls =>
    obtain ⟨hloaded, hidle, hfailed⟩ := hpolls
    have hsome := hw.polls hloaded hidle
    rw [hfailed] at hsome
    cases hvar : s.checkStatusInterval.var with
    | none => rw [hvar] at hsome; cases hsome
    | some n => rfl
  case isFalse hpolls =>
    have hnone : s.checkStatusInterval.var = none := by
      cases hloaded : s.loaded with
      | false => exact (hw.loaded hloaded).2.1
      | true =>
        by_cases hidle : s.awaits = []
        · have hfailed : s.failed = true := by
            by_contra hnot
            exact hpolls ⟨hloaded, hidle, Bool.eq_false_iff.mpr hnot⟩
          rw [← Option.isNone_iff_eq_none, hw.polls hloaded hidle, hfailed]
        · exact hw.quiet hidle
    rw [hnone]
    rfl

/-! ### The outcome that is displayed -/

/-- The guard of `fresh_of_orderly`. -/
def Orderly (s : State) (a : Act) : Prop := OneAtATime s a ∧ Clear s a

instance (s : State) (a : Act) : Decidable (Orderly s a) := inferInstanceAs (Decidable (_ ∧ _))

/-- **No status is older than the last post**, once it has been accepted; and until then the page
has asked for none. -/
structure Fresh (s : State) : Prop where
  numbered : ∀ n answered, .post n answered ∈ s.awaits → n = s.posted
  accepted : s.accepted = s.posted ∨ .post s.posted false ∈ s.awaits ∧ s.checks = []
  served : ∀ m ∈ s.served, m.after = s.accepted
  checks : ∀ m, .answered (some m) ∈ s.checks → m.after = s.posted
  shown : ∀ e ∈ s.shown, e.2.after = e.1

theorem Fresh.displays {data : Option Made} (h : Fresh s)
    (hdata : ∀ m ∈ data, m.after = s.posted) (hs : Displays s data s') : Fresh s' := by
  cases hs with
  | same => exact { h with }
  | @success m =>
    exact { h with shown := forall_mem_concat h.shown (hdata m rfl) }
  | @failure m =>
    exact { h with shown := forall_mem_concat h.shown (hdata m rfl) }

/-- While no request of the user is under way, or a status is, the last post has been
accepted. -/
theorem Fresh.accepted_of_awaits (h : Fresh s) (hidle : s.awaits = []) :
    s.accepted = s.posted := by
  refine h.accepted.resolve_right fun hpending => ?_
  rw [hidle] at hpending
  cases hpending.1

theorem Fresh.accepted_of_checks (h : Fresh s) (hne : s.checks ≠ []) : s.accepted = s.posted :=
  h.accepted.resolve_right fun hpending => hne hpending.2

theorem Fresh.step {a : Act} (hw : Waiting s) (h : Fresh s) (hok : Orderly s a)
    (hs : Step s a s') : Fresh s' := by
  cases hs with
  | load | select => exact { h with }
  | performConnect =>
    obtain ⟨⟨-, hidle⟩, hclear⟩ := hok
    refine ⟨fun n answered hn => ?_, .inr ⟨List.mem_concat_self, hclear⟩, h.served,
      fun m hm => ?_, h.shown⟩
    · rw [performConnect, hidle] at hn
      cases List.mem_singleton.mp hn
      rfl
    · rw [performConnect, show s.checks = [] from hclear] at hm
      cases hm
  | yesDisconnect =>
    refine { h with
      numbered := fun n answered hn => ?_
      accepted := h.accepted.imp_right fun hpending =>
        ⟨List.mem_append_left _ hpending.1, hpending.2⟩ }
    rcases List.mem_append.mp hn with hn | hn
    · exact h.numbered n answered hn
    · cases List.mem_singleton.mp hn
  | interval hn =>
    have hidle : s.awaits = [] := by
      by_contra hne
      rw [hw.running, hw.quiet hne] at hn
      cases hn
    exact { h with
      accepted := .inl (h.accepted_of_awaits hidle)
      checks := fun m hm => h.checks m (answered_of_mem_sent hm) }
  | answer hi =>
    have haccepted := h.accepted_of_checks (List.ne_nil_of_mem (List.mem_of_getElem? hi))
    refine { h with accepted := .inl haccepted, checks := fun m hm => ?_ }
    rcases answered_of_mem_set hm with hm | hm
    · exact h.checks m hm
    · exact (h.served m hm).trans haccepted
  | @checkStatus i data _ hi hs =>
    have haccepted := h.accepted_of_checks (List.ne_nil_of_mem (List.mem_of_getElem? hi))
    have hrest : Fresh { s with checks := s.checks.eraseIdx i } :=
      { h with
        accepted := .inl haccepted
        checks := fun m hm => h.checks m (List.mem_of_mem_eraseIdx hm) }
    refine hrest.displays (fun m hm => h.checks m ?_) hs
    cases hm
    exact List.mem_of_getElem? hi
  | lose i =>
    refine { h with
      accepted := h.accepted.imp_right fun hpending => ⟨hpending.1, ?_⟩
      checks := fun m hm => h.checks m (List.mem_of_mem_eraseIdx hm) }
    rw [hpending.2]
    rfl
  | @accept i n ha =>
    have hn := h.numbered n false (List.mem_of_getElem? ha)
    refine ⟨fun n' answered hn' => ?_, .inl hn, fun m hm => (by cases hm), h.checks, h.shown⟩
    rcases List.mem_or_eq_of_mem_set hn' with hn' | hn'
    · exact h.numbered n' answered hn'
    · cases hn'
      exact hn
  | reject => cases hok.2
  | @fetched i a _ ha hpost =>
    refine { h with
      numbered := fun n answered hn => h.numbered n answered (List.mem_of_mem_eraseIdx hn)
      accepted := .inl (h.accepted.resolve_right fun hpending => ?_) }
    rw [(eq_singleton hw.awaits ha).1] at hpending
    exact hpost _ (List.mem_singleton.mp hpending.1).symm
  | @fail i hi =>
    refine { h with
      numbered := fun n answered hn => h.numbered n answered (List.mem_of_mem_eraseIdx hn)
      accepted := .inl (h.accepted.resolve_right fun hpending => hok.2 ?_) }
    have ha := List.getElem?_eq_getElem hi
    rw [(eq_singleton hw.awaits ha).1] at hpending
    rw [ha, List.mem_singleton.mp hpending.1]
  | generate =>
    refine { h with served := fun m hm => ?_ }
    cases hm
    rfl

theorem fresh_of_runs (h : system.Reaches Orderly s) : Fresh s := by
  have hone : ∀ s, system.Reaches Orderly s → Waiting s := by
    intro s h
    refine h.invariant (fun _ h0 => waiting_of_oneAtATime (.init h0))
      (fun _ _ _ h hok hs => h.step hok.1 (step_cases hs))
  refine Lib.System.Reaches.invariant_with hone ?_
    (fun _ _ _ hw h hok hs => h.step hw hok (step_cases hs)) h
  rintro _ ⟨served, hserved, rfl⟩
  exact ⟨nofun, .inl rfl, fun m hm => hserved m hm, nofun, nofun⟩

/-- **The outcome that is displayed is not older than the last post**: it was displayed after
that had been sent, and it is that of a status which the manager has made after it had accepted
it. -/
theorem fresh_of_orderly (h : system.Reaches Orderly s) :
    (s.connectSuccess = true → ∃ m ∈ s.made, (s.posted, m) ∈ s.shown ∧
        m.status.urc = .connectionOk ∧ m.after = s.posted) ∧
      (s.connectFail = true → ∃ m ∈ s.made, (s.posted, m) ∈ s.shown ∧
        m.status.urc = .failedAttempt ∧ m.after = s.posted) ∧
      (s.connectSuccess = true → s.connectFail = false) := by
  have hg := genuine_of_reachable h.reachable
  have hf := fresh_of_runs h
  refine ⟨fun hsuccess => ?_, fun hfail => ?_, hg.apart⟩
  · obtain ⟨m, hm, hurc⟩ := hg.success hsuccess
    exact ⟨m, hg.shown _ hm, hm, hurc, hf.shown _ hm⟩
  · obtain ⟨m, hm, hurc⟩ := hg.failure hfail
    exact ⟨m, hg.shown _ hm, hm, hurc, hf.shown _ hm⟩

/-! ### Runs -/

def home : Details := ⟨['n'], ['1'], ['2'], ['3']⟩

/-- The page is loaded, and a network is joined in the list. -/
def joined : List Act := [.load, .select ['n'], .performConnect none, .post 0 true, .fetched 0]

theorem init_boot : system.Init boot := ⟨none, nofun, rfl⟩

/-- A second attempt fails after the first one has succeeded. -/
theorem fresh_of_orderly_retried : ∃ s, system.Reaches Orderly s ∧ s.posted = 2 ∧
    s.connectFail = true ∧ ∃ m ∈ s.made, (s.posted, m) ∈ s.shown ∧
      m.status.urc = .failedAttempt ∧ m.after = s.posted := by
  have hrun : ∃ s, system.Reaches Orderly s ∧ s.posted = 2 ∧ s.connectFail = true :=
    Lib.System.exists_of_execute
      (joined ++ [.generate ⟨home, .connectionOk⟩, .interval 1, .answer 0, .checkStatus 0,
        .performConnect none, .post 0 true, .fetched 0, .generate ⟨home, .failedAttempt⟩,
        .interval 2, .answer 0, .checkStatus 0])
      init_boot (by decide +kernel)
  obtain ⟨s, hs, hposted, hfail⟩ := hrun
  exact ⟨s, hs, hposted, hfail, (fresh_of_orderly hs).2.1 hfail⟩

/-- After a post the page polls again. -/
theorem length_running_joined : ∃ s, system.Reaches OneAtATime s ∧ s.posted = 1 ∧
    s.checkStatusInterval.running.length = 1 := by
  have hrun : ∃ s, system.Reaches OneAtATime s ∧ s.posted = 1 ∧ s.loaded = true ∧
      s.awaits = [] ∧ s.failed = false :=
    Lib.System.exists_of_execute joined init_boot (by decide +kernel)
  obtain ⟨s, hs, hposted, hpolls⟩ := hrun
  refine ⟨s, hs, hposted, ?_⟩
  rw [length_running hs, if_pos hpolls]

/-- The network is joined anew while a status is under way, and the success of the first
attempt is taken for that of the second one, before its post is accepted. -/
theorem exists_stale : ∃ s, system.Reaches OneAtATime s ∧ s.connectSuccess = true ∧
    ∀ m ∈ s.made, m.after ≠ s.posted :=
  Lib.System.exists_of_execute
    (joined ++ [.generate ⟨home, .connectionOk⟩, .interval 1, .answer 0, .performConnect none,
      .checkStatus 0])
    init_boot (by decide +kernel)

/-- The second of two requests comes back while the first one is under way; two intervals
run, and only one of them can be stopped. -/
theorem exists_doubled : ∃ s, system.Reachable s ∧ s.checkStatusInterval.running.length = 2 :=
  Lib.System.exists_of_execute [.load, .yesDisconnect, .yesDisconnect, .fetched 0, .fetched 0]
    init_boot (by decide +kernel)

end Datk.Wifi.Page
