import Datk.Lib.Flow
import Datk.Wifi.Reports

/-!
# What the tasks tell the manager

Three things flow to the manager: what the driver reports, the messages in the queue, and
the orders of clients, which the HTTP server turns into messages.  `delivered` says of every
run, in whatever order the tasks take their steps, that nothing of this is lost, doubled or
overtaken on its way.

The bits of the event group follow what they stand for in the same way.  `apStarted_eq` says
that `AP_STARTED` is right as soon as the event task has handled what it has been told of the
access point.  `WIFI_CONNECTED` may stay clear when the station is connected, but by
`isConnected_or_of_connected` it is not set for a station that is not, once the event task
knows.
-/

namespace Datk.Wifi

open Lib

/-! ### The messages -/

/-- What a step puts into the queue, -/
def State.sent (s : State) : Act → List Message
  | .manager _ =>
    match s.pc with
    | .send o => [.order o]
    | _ => []
  | .eventTask => (s.eventTask.map .report).toList
  | .timerTask _ => (s.timerTask.map .order).toList
  | .http =>
    match s.http with
    | .send o => [.order o]
    | _ => []
  | .buttonTask => (s.buttonTask.map .order).toList
  | _ => []

/-- and what it takes from there. -/
def State.received (s : State) : Act → List Message
  | .manager _ =>
    match s.pc with
    | .receive => s.queue.head?.toList
    | _ => []
  | _ => []

variable {s s' : State}

theorem messages_manager {ok : Bool} (h : ManagerStep s ok s') :
    s.queue ++ s.sent (.manager ok) = s.received (.manager ok) ++ s'.queue := by
  cases h with
  | receive hpc hq => simp [State.sent, State.received, hpc, hq]
  | _ => simp [State.sent, State.received, *]

theorem messages_step {a : Act} (h : Step s a s') :
    s.queue ++ s.sent a = s.received a ++ s'.queue := by
  cases h with
  | manager h => exact messages_manager h
  | _ => simp [State.sent, State.received, *]

def messages : system.Flow Message where
  inv _ := True
  held := State.queue
  inflow := State.sent
  outflow := State.received
  keeps _ _ := trivial
  balance _ hs := messages_step (step_cases hs)

/-! ### The reports -/

def reports : system.Flow Report where
  inv _ := True
  held := State.reports
  inflow := State.raised
  outflow := State.handled
  keeps _ _ := trivial
  balance _ hs := reports_step (step_cases hs)

/-! ### The orders of clients -/

/-- The orders that only the HTTP server sends. -/
def Order.ofClient : Order → Bool
  | .startScan | .connectSta (.user _) | .disconnectSta => true
  | .loadAndRestore | .connectSta .restore | .connectSta .autoReconnect | .startAp | .stopAp =>
    false

def Message.client? : Message → Option Order
  | .order o => if o.ofClient then some o else none
  | .report _ => none

/-- What a request is to lead to. -/
def Request.order : Request → Order
  | .post c => .connectSta (.user c)
  | .delete => .disconnectSta
  | .getAp => .startScan

/-- What a handler is about to send. -/
def HttpPc.order? : HttpPc → Option Order
  | .idle => none
  | .clear c | .copySsid c | .copyPassword c => some (.connectSta (.user c))
  | .send o => some o

def State.clients (s : State) : List Order :=
  s.queue.filterMap Message.client? ++ s.http.order?.toList

def State.asked (_ : State) : Act → List Order
  | .request r => [r.order]
  | _ => []

def State.answered (s : State) (a : Act) : List Order :=
  (s.received a).filterMap Message.client?

/-- No other task sends the orders of clients. -/
structure Apart (s : State) : Prop where
  manager : ∀ o, s.pc = .send o → o.ofClient = false
  timerTask : ∀ o, s.timerTask = some o → o.ofClient = false
  buttonTask : ∀ o, s.buttonTask = some o → o.ofClient = false
  http : ∀ o, s.http = .send o → o.ofClient = true

theorem ofClient_dispatch (m : Message) : ∀ o, dispatch m ≠ .send o := by
  intro o
  rcases m with (_ | _ | _ | _ | _ | _) | (_ | _ | _) <;> simp [dispatch]

theorem Apart.managerStep {ok : Bool} (h : Apart s) (hs : ManagerStep s ok s') : Apart s' := by
  obtain ⟨hmanager, htimer, hbutton, hhttp⟩ := h
  cases hs with
  | receive => exact ⟨fun o ho => absurd ho (ofClient_dispatch _ o), htimer, hbutton, hhttp⟩
  | fetchSome =>
    refine ⟨fun o ho => ?_, htimer, hbutton, hhttp⟩
    split at ho <;> (cases ho; rfl)
  | fetchNone | lostStart | saveErased =>
    refine ⟨fun o ho => ?_, htimer, hbutton, hhttp⟩
    cases ho
    rfl
  | testFalse | testTrue => exact ⟨by simp, htimer, hbutton, hhttp⟩
  | _ => exact ⟨fun o ho => (by cases ho), htimer, hbutton, hhttp⟩

theorem Apart.step {a : Act} (h : Apart s) (hs : Step s a s') : Apart s' := by
  obtain ⟨hmanager, htimer, hbutton, hhttp⟩ := h
  cases hs with
  | manager hs => exact Apart.managerStep ⟨hmanager, htimer, hbutton, hhttp⟩ hs
  | retryTimer | shutdownTimer =>
    refine ⟨hmanager, fun o ho => ?_, hbutton, hhttp⟩
    cases ho
    rfl
  | timerTask => exact ⟨hmanager, fun o ho => (by cases ho), hbutton, hhttp⟩
  | button =>
    refine ⟨hmanager, htimer, fun o ho => ?_, hhttp⟩
    cases ho
    rfl
  | buttonTask => exact ⟨hmanager, htimer, fun o ho => (by cases ho), hhttp⟩
  | @request r =>
    refine ⟨hmanager, htimer, hbutton, fun o ho => ?_⟩
    cases r with
    | post c => cases ho
    | delete | getAp =>
      cases ho
      rfl
  | httpPassword =>
    refine ⟨hmanager, htimer, hbutton, fun o ho => ?_⟩
    cases ho
    rfl
  | httpClear | httpSsid | httpSend => exact ⟨hmanager, htimer, hbutton, fun o ho => (by cases ho)⟩
  | _ => exact ⟨hmanager, htimer, hbutton, hhttp⟩

theorem clients_step {a : Act} (h : Apart s) (hs : Step s a s') :
    s.clients ++ s.asked a = s.answered a ++ s'.clients := by
  have hqueue := congrArg (List.filterMap Message.client?) (messages_step hs)
  rw [List.filterMap_append, List.filterMap_append] at hqueue
  rw [State.clients, State.clients, State.answered, ← List.append_assoc, ← hqueue]
  obtain ⟨hmanager, htimer, hbutton, hhttp⟩ := h
  cases hs with
  | @manager ok _ hs =>
    have hown : (s.sent (.manager ok)).filterMap Message.client? = [] := by
      simp only [State.sent]
      split
      · simp [Message.client?, hmanager _ ‹_›]
      · rfl
    have hkeep : s'.http = s.http := by cases hs <;> rfl
    have hasked : s.asked (.manager ok) = [] := rfl
    rw [hown, hkeep, hasked, List.append_nil, List.append_nil]
  | timerTask ht => simp [State.sent, State.asked, ht, Message.client?, htimer _ ht]
  | buttonTask hb => simp [State.sent, State.asked, hb, Message.client?, hbutton _ hb]
  | eventSend he => simp [State.sent, State.asked, he, Message.client?]
  | httpSend hh => simp [State.sent, State.asked, hh, Message.client?, hhttp _ hh, HttpPc.order?]
  | @request r hup hh =>
    cases r <;> simp [State.sent, State.asked, hh, HttpPc.order?, Request.handler, Request.order]
  | httpClear hh | httpSsid hh | httpPassword hh =>
    simp [State.sent, State.asked, hh, HttpPc.order?]
  | _ => simp [State.sent, State.asked, *]

def clients : system.Flow Order where
  inv := Apart
  held := State.clients
  inflow := State.asked
  outflow := State.answered
  keeps h hs := h.step (step_cases hs)
  balance h hs := clients_step h (step_cases hs)

/-! ### Every run -/

/-- **Nothing is lost on its way to the manager.** -/
structure Delivered (nvs : Option Config) (as : List Act) (s : State) : Prop where
  /-- What the driver has reported is what the manager has handled, and then what is on its
  way. -/
  reports : reports.Through (boot nvs) as s
  /-- What was sent is what was received, and then what is in the queue. -/
  messages : messages.Through (boot nvs) as s
  /-- What clients have asked for is what the manager has received of it, and then what is
  on its way. -/
  clients : clients.Through (boot nvs) as s
  length_le : s.queue.length ≤ 3

theorem length_le_step {a : Act} (h : s.queue.length ≤ 3) (hs : Step s a s') :
    s'.queue.length ≤ 3 := by
  cases hs with
  | manager hs =>
    cases hs with
    | receive hpc hq =>
      rw [hq, List.length_cons] at h
      exact Nat.le_of_succ_le h
    | send hpc hq =>
      rw [List.length_append]
      exact hq
    | _ => exact h
  | eventSend he hq | timerTask he hq | httpSend he hq | buttonTask he hq =>
    rw [List.length_append]
    exact hq
  | _ => exact h

theorem apart_boot (nvs : Option Config) : Apart (boot nvs) where
  manager o ho := by
    cases ho
    rfl
  timerTask o ho := by cases ho
  buttonTask o ho := by cases ho
  http o ho := by cases ho

theorem length_le_of_runs {as : List Act} (h : s.queue.length ≤ 3) (hruns : system.Runs s as s') :
    s'.queue.length ≤ 3 := by
  induction as generalizing s with
  | nil =>
    cases hruns
    exact h
  | cons a as ih =>
    obtain ⟨t, ht, hrest⟩ := System.runs_cons hruns
    exact ih (length_le_step h (step_cases ht)) hrest

/-- **Every run delivers** what the driver reports, what the tasks send and what clients ask
for, once and in order. -/
theorem delivered_of_runs {nvs : Option Config} {as : List Act}
    (h : system.Runs (boot nvs) as s) : Delivered nvs as s where
  reports := System.Flow.through trivial rfl h
  messages := System.Flow.through trivial rfl h
  clients := System.Flow.through (apart_boot nvs) rfl h
  length_le := length_le_of_runs (show (boot nvs).queue.length ≤ 3 from Nat.zero_le 3) h

/-- A client asks for the networks while the station connects. -/
theorem delivered_of_runs_restored : ∃ s : State, ∃ as : List Act,
    Delivered (some ⟨['n'], ['p']⟩) as s ∧
      system.collect State.handled (boot (some ⟨['n'], ['p']⟩)) as = [.gotIp ⟨['n'], ['p']⟩] ∧
      system.collect State.answered (boot (some ⟨['n'], ['p']⟩)) as = [.startScan] := by
  have hrun : ∃ s, system.Runs (boot (some ⟨['n'], ['p']⟩))
      (List.replicate 9 (.manager true) ++ [.request .getAp, .http, .connectOk, .gotIp, .eventTask,
        .eventTask] ++ List.replicate 5 (.manager true)) s :=
    Option.isSome_iff_exists.mp (by decide +kernel)
  obtain ⟨s, hs⟩ := hrun
  exact ⟨s, _, delivered_of_runs hs, by decide +kernel, by decide +kernel⟩

/-! ### The bits of the event group -/

/-- What a list of events makes of a bit; `effect` says which of them set or clear it. -/
def bitAfter (effect : Event → Option Bool) : List Event → Bool → Bool
  | [], b => b
  | e :: events, b => bitAfter effect events ((effect e).getD b)

variable {effect : Event → Option Bool}

theorem bitAfter_append (events es : List Event) (b : Bool) :
    bitAfter effect (events ++ es) b = bitAfter effect es (bitAfter effect events b) := by
  induction events generalizing b with
  | nil => rfl
  | cons e events ih => exact ih _

theorem bitAfter_of_none {events : List Event} (b : Bool) (h : ∀ e ∈ events, effect e = none) :
    bitAfter effect events b = b := by
  induction events generalizing b with
  | nil => rfl
  | cons e events ih =>
    rw [bitAfter, h e List.mem_cons_self]
    exact ih b fun x hx => h x (List.mem_cons_of_mem _ hx)

/-- Events that do not clear the bit. -/
theorem bitAfter_true {events : List Event} (h : ∀ e ∈ events, effect e ≠ some false) :
    bitAfter effect events true = true := by
  induction events with
  | nil => rfl
  | cons e events ih =>
    have hkeep : (effect e).getD true = true := by
      cases he : effect e with
      | none => rfl
      | some b =>
        cases b with
        | true => rfl
        | false => exact absurd he (h e List.mem_cons_self)
    rw [bitAfter, hkeep]
    exact ih fun x hx => h x (List.mem_cons_of_mem _ hx)

/-- Events that do not touch the bit. -/
theorem bitAfter_append_none (events : List Event) {es : List Event} (b : Bool)
    (h : ∀ e ∈ es, effect e = none) :
    bitAfter effect (events ++ es) b = bitAfter effect events b := by
  rw [bitAfter_append]
  exact bitAfter_of_none _ h

/-- `WIFI_MANAGER_AP_STARTED_BIT`. -/
def apEffect : Event → Option Bool
  | .apStart => some true
  | .apStop => some false
  | .report _ => none

/-- `WIFI_MANAGER_WIFI_CONNECTED_BIT`. -/
def staEffect : Event → Option Bool
  | .report (.gotIp _) => some true
  | .report (.disconnected _) => some false
  | .report .scanDone | .apStart | .apStop => none

theorem apEffect_reports (rs : List Report) : ∀ e ∈ rs.map .report, apEffect e = none := by
  intro e he
  obtain ⟨r, -, rfl⟩ := List.mem_map.mp he
  rfl

/-- What is still to be handled leads from the bits to the mode and to the station: if an
address is left of all, the station is connected. -/
structure Tracked (s : State) : Prop where
  ap : bitAfter apEffect s.events s.apStarted = s.apsta
  sta : bitAfter staEffect s.events s.connected = true → s.link.isConnected = true

/-- A list of events that the end of a scan makes. -/
theorem effect_scanDone (b : Bool) :
    ∀ e ∈ (if b = true then [Event.report .scanDone] else []),
      apEffect e = none ∧ staEffect e = none := by
  cases b <;> simp [apEffect, staEffect]

/-- The station goes idle. -/
theorem Tracked.cutOff (h : Tracked s) (cause : Cause) (ok : Bool) :
    bitAfter apEffect (s.events ++ (s.cutOff cause ok).map .report) s.apStarted = s.apsta ∧
      bitAfter staEffect (s.events ++ (s.cutOff cause ok).map .report) s.connected = false := by
  refine ⟨(bitAfter_append_none _ _ (apEffect_reports _)).trans h.ap, ?_⟩
  have hidle : s.link.isConnected = false → bitAfter staEffect s.events s.connected = false := by
    intro hlink
    by_contra hsta
    have hconnected := h.sta (Bool.not_eq_false _ ▸ hsta)
    rw [hlink] at hconnected
    cases hconnected
  rw [bitAfter_append, State.cutOff]
  cases hlink : s.link with
  | connected c => rfl
  | idle => exact hidle (by rw [hlink]; rfl)
  | connecting c =>
    cases ok with
    | true => rfl
    | false => exact hidle (by rw [hlink]; rfl)

/-- The mode is set, and an event raised if it changes. -/
theorem Tracked.setMode (h : Tracked s) {e : Event} {b : Bool} (hap : apEffect e = some b)
    (hsta : staEffect e = none) :
    bitAfter apEffect (s.events ++ if s.apsta = b then [] else [e]) s.apStarted = b ∧
      bitAfter staEffect (s.events ++ if s.apsta = b then [] else [e]) s.connected =
        bitAfter staEffect s.events s.connected := by
  rw [bitAfter_append, bitAfter_append, h.ap]
  split
  · exact ⟨‹_›, rfl⟩
  · simp only [bitAfter, hap, hsta, Option.getD_some, Option.getD_none, and_self]

theorem Tracked.managerStep {ok : Bool} (h : Tracked s) (hs : ManagerStep s ok s') :
    Tracked s' := by
  cases hs with
  | disconnect | disconnectSta =>
    obtain ⟨hap, hsta⟩ := h.cutOff _ ok
    exact ⟨hap, fun hbit => by cases hsta.symm.trans hbit⟩
  | @setConfig r scan =>
    have heffect := effect_scanDone (scan && s.scanning)
    refine ⟨(bitAfter_append_none _ _ fun e he => (heffect e he).1).trans h.ap, fun hbit => ?_⟩
    exact h.sta ((bitAfter_append_none _ _ fun e he => (heffect e he).2).symm.trans hbit)
  | startAp =>
    obtain ⟨hap, hsta⟩ := h.setMode (e := .apStart) rfl rfl
    exact ⟨hap, fun hbit => h.sta (hsta.symm.trans hbit)⟩
  | setModeSta =>
    obtain ⟨hap, hsta⟩ := h.setMode (e := .apStop) rfl rfl
    exact ⟨hap, fun hbit => h.sta (hsta.symm.trans hbit)⟩
  | connectUser hpc hl | connectOther hpc hr hl =>
    refine ⟨h.ap, fun hbit => ?_⟩
    have hconnected := h.sta hbit
    rcases hl with ⟨hlink, rfl⟩ | ⟨-, rfl⟩
    · rw [hlink] at hconnected
      cases hconnected
    · exact hconnected
  | _ => exact ⟨h.ap, h.sta⟩

/-- An event of the station that the driver raises. -/
theorem Tracked.raised (h : Tracked s) (r : Report) :
    bitAfter apEffect (s.events ++ [.report r]) s.apStarted = s.apsta :=
  (bitAfter_append_none _ _ (apEffect_reports [r])).trans h.ap

theorem Tracked.step {a : Act} (h : Tracked s) (hs : Step s a s') : Tracked s' := by
  cases hs with
  | manager hs => exact h.managerStep hs
  | connectOk => exact ⟨h.ap, fun _ => rfl⟩
  | connectFail | lost =>
    refine ⟨h.raised _, fun hbit => ?_⟩
    rw [bitAfter_append] at hbit
    cases hbit
  | gotIp hl => exact ⟨h.raised _, fun _ => by rw [hl]; rfl⟩
  | scanDone =>
    refine ⟨h.raised _, fun hbit => h.sta ?_⟩
    rwa [bitAfter_append] at hbit
  | eventDisconnected he hev | eventGotIp he hev | eventScanDone he hev | eventApStart he hev
  | eventApStop he hev =>
    have hap := h.ap
    have hsta := h.sta
    rw [hev] at hap hsta
    exact ⟨hap, hsta⟩
  | _ => exact ⟨h.ap, h.sta⟩

theorem tracked_of_reachable (h : system.Reachable s) : Tracked s := by
  refine h.invariant ?_ fun s a s' htracked _ hs => htracked.step (step_cases hs)
  rintro _ ⟨nvs, rfl⟩
  exact ⟨rfl, fun hbit => by cases hbit⟩

/-- **The bit `AP_STARTED` tells the mode**, as soon as what the event task has been told of
the access point is handled. -/
theorem apStarted_eq (h : system.Reachable s)
    (hhandled : ∀ e ∈ s.events, e ≠ .apStart ∧ e ≠ .apStop) : s.apStarted = s.apsta := by
  rw [← (tracked_of_reachable h).ap, bitAfter_of_none]
  intro e he
  cases e with
  | report r => rfl
  | apStart => exact absurd rfl (hhandled _ he).1
  | apStop => exact absurd rfl (hhandled _ he).2

/-- A device that has nothing saved. -/
theorem apStarted_eq_fresh : ∃ s, system.Reachable s ∧ s.apStarted = true ∧
    s.apStarted = s.apsta := by
  have hrun : ∃ s, system.Reachable s ∧ s.events = [] ∧ s.apStarted = true :=
    System.exists_of_execute (List.replicate 6 (.manager true) ++ [.eventTask]) (s := boot none)
      ⟨_, rfl⟩ (by decide +kernel)
  obtain ⟨s, hs, hevents, hstarted⟩ := hrun
  exact ⟨s, hs, hstarted, apStarted_eq hs (by rw [hevents]; exact List.forall_mem_nil _)⟩

/-- **If the bit `WIFI_CONNECTED` is set**, the station is connected, or the event task has
still to handle that it is not. -/
theorem isConnected_or_of_connected (h : system.Reachable s) (hbit : s.connected = true) :
    s.link.isConnected = true ∨ ∃ d, .report (.disconnected d) ∈ s.events := by
  by_contra hneither
  obtain ⟨hlink, hnone⟩ := not_or.mp hneither
  refine hlink ((tracked_of_reachable h).sta ?_)
  rw [hbit]
  refine bitAfter_true fun e he heffect => ?_
  rcases e with (_ | d | _) | _ | _
  case report.disconnected => exact hnone ⟨d, he⟩
  all_goals cases heffect

/-- The connection of a device that has one saved is lost. -/
theorem isConnected_or_of_connected_lost : ∃ s, system.Reachable s ∧ s.connected = true ∧
    s.link.isConnected = false ∧ ∃ d, .report (.disconnected d) ∈ s.events := by
  have hrun : ∃ s, system.Reachable s ∧ s.connected = true ∧ s.link.isConnected = false :=
    System.exists_of_execute (restored ++ [.lost]) (s := boot (some ⟨['n'], ['p']⟩))
      ⟨_, rfl⟩ (by decide +kernel)
  obtain ⟨s, hs, hbit, hlink⟩ := hrun
  refine ⟨s, hs, hbit, hlink, ?_⟩
  rcases isConnected_or_of_connected hs hbit with hconnected | hpending
  · rw [hlink] at hconnected
    cases hconnected
  · exact hpending

end Datk.Wifi
