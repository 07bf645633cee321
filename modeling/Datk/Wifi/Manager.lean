import Datk.Basic
import Datk.Lib.System

/-!
# The Wi-Fi manager

`common/wifi_manager/src/wifi_manager.c` is one task that takes messages from a
queue of capacity three.  Five others put messages there: the event task, which
handles the events of the driver, the timer task with the retry timer and the
shutdown timer, the handlers of the HTTP server, the button, and the manager itself.
What a message leads to depends on the bits of an event group, on the buffer
`wifi_manager_config_sta` and on the flash.

* The manager is a program counter over its statements.  Statements between which
  no other task can tell the difference are one step: among them are those on the
  bits that only the manager reads and writes, `REQUEST_STA_CONNECT`, `RESTORE_STA`
  and `REQUEST_DISCONNECT`.
* The driver is the state of the station and the list of the events it has raised
  and the event task has not handled yet.  As the comment in
  `wifi_manager_event_handler` has it, `STA_DISCONNECTED` is raised when an attempt
  fails, when a connection is lost, and when `esp_wifi_disconnect` ends one;
  whether it is raised when `esp_wifi_disconnect` breaks off an attempt is left
  open.  `esp_wifi_connect` starts an attempt if the station is idle.
* Sends wait for a free slot, and `httpd_stop` waits for the handler that runs.
* `xTimerStart` and `xTimerStop` post a command to the queue of the timer task and do
  not wait for room there: the command may be refused, and the code does not look.  A
  command that is accepted takes effect at once.
* An `ESP_ERROR_CHECK` that fails restarts the device, which ends the run.  The
  calls of the flash succeed.

What a message or an event carries beyond the data of the source is history: the
configuration of the link that an address belongs to, the cause of a disconnection,
and the configuration that a user asked for.
-/

namespace Datk.Wifi

/-- The fields `ssid` and `password` of `wifi_config_t.sta`. -/
structure Config where
  ssid : Text
  password : Text
  deriving DecidableEq, Repr

/-- `memset(config, 0x00, sizeof(wifi_config_t))`. -/
def Config.zero : Config := ⟨[], []⟩

/-- The headers that `http_server_post_handler` accepts. -/
def Config.Accepted (c : Config) : Prop :=
  c.ssid ≠ [] ∧ c.ssid.length ≤ 32 ∧ c.password ≠ [] ∧ c.password.length ≤ 64

instance (c : Config) : Decidable c.Accepted := inferInstanceAs (Decidable (_ ∧ _))

/-- Why a `STA_DISCONNECTED` is raised. -/
inductive Cause
  /-- `esp_wifi_disconnect` of `WM_ORDER_DISCONNECT_STA`. -/
  | userDisconnect
  /-- `esp_wifi_disconnect` of a user's `WM_ORDER_CONNECT_STA`. -/
  | userConnect
  | lost
  | failed
  deriving DecidableEq, Repr

structure Disconnect where
  cause : Cause
  /-- How many requests of users had led to an `esp_wifi_connect` before it. -/
  after : Nat
  deriving DecidableEq, Repr

inductive Reason
  /-- `CONNECTION_REQUEST_USER`: a user asked for `c`. -/
  | user (c : Config)
  | restore
  | autoReconnect
  deriving DecidableEq, Repr

/-- The messages `WM_ORDER_...` of `message_code_t`. -/
inductive Order
  | startScan
  | loadAndRestore
  | connectSta (r : Reason)
  | disconnectSta
  | startAp
  | stopAp
  deriving DecidableEq, Repr

/-- The messages `WM_EVENT_...`. -/
inductive Report
  | scanDone
  | disconnected (d : Disconnect)
  | gotIp (c : Config)
  deriving DecidableEq, Repr

inductive Message
  | order (o : Order)
  | report (r : Report)
  deriving DecidableEq, Repr

/-- The events of the driver and of the network interface. -/
inductive Event
  | report (r : Report)
  | apStart
  | apStop
  deriving DecidableEq, Repr

/-- The station. -/
inductive Link
  | idle
  | connecting (c : Config)
  | connected (c : Config)
  deriving DecidableEq, Repr

def Link.isConnected : Link → Bool
  | .connected _ => true
  | .idle | .connecting _ => false

/-- What a restart of the HTTP server is part of. -/
inductive Restart
  | user (c : Config)
  | accessPoint
  deriving DecidableEq, Repr

/-- What a call of `wifi_manager_save_sta_config` is part of. -/
inductive Save
  | erased
  | address (c : Config) (ap : Bool)
  deriving DecidableEq, Repr

/-- The next step of `wifi_manager`.  An argument `ap` is the bit `AP_STARTED` as it
was read. -/
inductive ManagerPc
  | receive
  | startScan
  | scanStart
  | fetch
  | send (o : Order)
  | setRequest (r : Reason)
  | httpStop (k : Restart)
  | disconnect (c : Config)
  | setUserConfig (c : Config)
  | httpStart (k : Restart)
  | testConnected (r : Reason)
  | setConfig (r : Reason) (scan : Bool)
  | connect (r : Reason)
  | disconnected (d : Disconnect)
  | failedAttempt (d : Disconnect)
  | erase (d : Disconnect)
  | lost (d : Disconnect) (ap : Bool)
  | saveSsid (k : Save)
  | savePassword (k : Save)
  | startAp
  | stopAp
  | setModeSta
  | gotIp (c : Config)
  | finish (c : Config) (ap : Bool)
  | disconnectSta
  deriving DecidableEq, Repr

/-- A request to the HTTP server that sends a message. -/
inductive Request
  | post (c : Config)
  | delete
  | getAp
  deriving DecidableEq, Repr

/-- The next step of the handler that runs. -/
inductive HttpPc
  | idle
  | clear (c : Config)
  | copySsid (c : Config)
  | copyPassword (c : Config)
  | send (o : Order)
  deriving DecidableEq, Repr

structure State where
  pc : ManagerPc
  queue : List Message
  retries : Nat
  connected : Bool
  apStarted : Bool
  requestStaConnect : Bool
  restoreSta : Bool
  requestDisconnect : Bool
  scan : Bool
  /-- `wifi_manager_config_sta`. -/
  config : Config
  /-- What the flash holds, once anything was saved. -/
  nvs : Option Config
  retryTimer : Bool
  shutdownTimer : Bool
  /-- The mode is `WIFI_MODE_APSTA`. -/
  apsta : Bool
  /-- The argument of the last `esp_wifi_set_config`. -/
  staConfig : Config
  link : Link
  scanning : Bool
  events : List Event
  /-- The message that the event task is about to send, and so on. -/
  eventTask : Option Report
  timerTask : Option Order
  buttonTask : Option Order
  httpUp : Bool
  http : HttpPc
  /-- The requests of users that the manager has turned to, and how many of them had
  led to an `esp_wifi_connect` when the last one did. -/
  requests : Nat
  connects : Nat
  deriving DecidableEq, Repr

/-- The manager before its main loop, with `nvs` in the flash. -/
def boot (nvs : Option Config) : State where
  pc := .send .loadAndRestore
  queue := []
  retries := 0
  connected := false
  apStarted := false
  requestStaConnect := false
  restoreSta := false
  requestDisconnect := false
  scan := false
  config := .zero
  nvs := nvs
  retryTimer := false
  shutdownTimer := false
  apsta := false
  staConfig := .zero
  link := .idle
  scanning := false
  events := []
  eventTask := none
  timerTask := none
  buttonTask := none
  httpUp := true
  http := .idle
  requests := 0
  connects := 0

inductive Act
  /-- A step of `wifi_manager`; `ok` is how what it calls answers: a scan is started, an
  attempt that is broken off is reported, a command to a timer is accepted. -/
  | manager (ok : Bool)
  | connectOk
  | connectFail
  | lost
  | gotIp
  | scanDone
  | eventTask
  | retryTimer
  | shutdownTimer
  /-- `wifi_manager_timer_retry_cb` or `wifi_manager_timer_shutdown_ap_cb`, for the timer that
  has run out; `ok` if its `xTimerStop` is accepted. -/
  | timerTask (ok : Bool)
  | request (r : Request)
  | http
  | button
  | buttonTask
  deriving DecidableEq, Repr

/-! ### The driver -/

def State.raise (s : State) (e : Event) : State := { s with events := s.events ++ [e] }

/-- The station goes idle, and `STA_DISCONNECTED` is raised. -/
def State.drop (s : State) (cause : Cause) : State :=
  State.raise { s with link := .idle } (.report (.disconnected ⟨cause, s.connects⟩))

def espWifiDisconnect (s : State) (cause : Cause) (reported : Bool) : State :=
  match s.link with
  | .idle => s
  | .connecting _ => if reported then s.drop cause else { s with link := .idle }
  | .connected _ => s.drop cause

def espWifiConnect (s : State) : State :=
  match s.link with
  | .idle => { s with link := .connecting s.staConfig }
  | .connecting _ | .connected _ => s

/-- `esp_wifi_scan_stop`, if the bit `SCAN` was set. -/
def espWifiScanStop (s : State) (scan : Bool) : State :=
  if scan && s.scanning then State.raise { s with scanning := false } (.report .scanDone) else s

/-- `esp_wifi_set_mode`. -/
def espWifiSetMode (s : State) (apsta : Bool) : State :=
  if s.apsta = apsta then s
  else State.raise { s with apsta := apsta } (if apsta then .apStart else .apStop)

/-! ### The tasks -/

/-- `xQueueSend`. -/
def State.send (s : State) (m : Message) : Option State :=
  if s.queue.length < 3 then some { s with queue := s.queue ++ [m] } else none

/-- The `switch` of `wifi_manager`. -/
def dispatch : Message → ManagerPc
  | .order .startScan => .startScan
  | .order .loadAndRestore => .fetch
  | .order (.connectSta r) => .setRequest r
  | .order .disconnectSta => .disconnectSta
  | .order .startAp => .startAp
  | .order .stopAp => .stopAp
  | .report .scanDone => .receive
  | .report (.disconnected d) => .disconnected d
  | .report (.gotIp c) => .gotIp c

/-- `wifi_manager_fetch_wifi_sta_config`. -/
def fetch (s : State) : State :=
  match s.nvs with
  | none => { s with pc := .send .startAp }
  | some c =>
    { s with
      pc := .send (if c.ssid = [] then .startAp else .connectSta .restore)
      config := c }

def setRequest (s : State) : Reason → State
  | .user c =>
    { s with pc := .httpStop (.user c), requestStaConnect := true, requests := s.requests + 1 }
  | .restore => { s with pc := .testConnected .restore, restoreSta := true }
  | .autoReconnect => { s with pc := .testConnected .autoReconnect }

/-- `WM_EVENT_STA_DISCONNECTED` up to the choice of the branch. -/
def disconnected (s : State) (d : Disconnect) (ok : Bool) : State :=
  if s.requestStaConnect then
    { s with
      pc := .failedAttempt d
      shutdownTimer := s.shutdownTimer && !ok
      requestStaConnect := false }
  else if s.requestDisconnect then
    { s with
      pc := .erase d
      shutdownTimer := s.shutdownTimer && !ok
      requestDisconnect := false }
  else { s with pc := .lost d s.apStarted, shutdownTimer := s.shutdownTimer && !ok }

/-- The branch of a lost connection. -/
def lost (s : State) (ap ok : Bool) : State :=
  if ap then { s with pc := .receive, retryTimer := s.retryTimer || ok, restoreSta := false }
  else if s.retries < 3 then
    { s with
      pc := .receive
      retryTimer := s.retryTimer || ok
      restoreSta := false
      retries := s.retries + 1 }
  else
    { s with
      pc := .send .startAp
      retryTimer := s.retryTimer || ok
      restoreSta := false
      retries := 0 }

/-- `WM_EVENT_STA_GOT_IP` up to the choice whether to save. -/
def gotIp (s : State) (c : Config) : State :=
  if s.restoreSta then
    { s with pc := .finish c s.apStarted, requestStaConnect := false, restoreSta := false }
  else { s with pc := .saveSsid (.address c s.apStarted), requestStaConnect := false }

/-- A step of `wifi_manager`. -/
def manager (s : State) (ok : Bool) : Option State :=
  match s.pc with
  | .receive =>
    match s.queue with
    | [] => none
    | m :: rest => some { s with pc := dispatch m, queue := rest }
  | .startScan =>
    some (if s.scan then { s with pc := .receive } else { s with pc := .scanStart, scan := true })
  | .scanStart => some { s with pc := .receive, scanning := s.scanning || ok }
  | .fetch => some (fetch s)
  | .send o => State.send { s with pc := .receive } (.order o)
  | .setRequest r => some (setRequest s r)
  | .httpStop k =>
    if s.http = .idle then
      some { s with
        httpUp := false
        pc := match k with
          | .user c => .disconnect c
          | .accessPoint => .httpStart .accessPoint }
    else none
  | .disconnect c =>
    some (espWifiDisconnect { s with pc := .setUserConfig c } .userConnect ok)
  | .setUserConfig c => some { s with pc := .httpStart (.user c), staConfig := s.config }
  | .httpStart k =>
    some { s with
      httpUp := true
      pc := match k with
        | .user c => .testConnected (.user c)
        | .accessPoint => .receive }
  | .testConnected r =>
    some { s with pc := if s.connected then .receive else .setConfig r s.scan }
  | .setConfig r scan =>
    some (espWifiScanStop { s with pc := .connect r, staConfig := s.config } scan)
  | .connect r =>
    some (espWifiConnect { s with
      pc := .receive
      connects := match r with
        | .user _ => s.requests
        | .restore | .autoReconnect => s.connects })
  | .disconnected d => some (disconnected s d ok)
  | .failedAttempt _ => some { s with pc := .receive }
  | .erase _ => some { s with pc := .saveSsid .erased, config := .zero }
  | .lost _ ap => some (lost s ap ok)
  | .saveSsid k =>
    some { s with
      pc := .savePassword k
      nvs := some { s.nvs.getD .zero with ssid := s.config.ssid } }
  | .savePassword k =>
    some { s with
      pc := match k with
        | .erased => .send .startAp
        | .address c ap => .finish c ap
      nvs := some { s.nvs.getD .zero with password := s.config.password } }
  | .startAp => some (espWifiSetMode { s with pc := .httpStop .accessPoint } true)
  | .stopAp => some { s with pc := if s.connected then .setModeSta else .receive }
  | .setModeSta => some (espWifiSetMode { s with pc := .httpStop .accessPoint } false)
  | .gotIp c => some (gotIp s c)
  | .finish _ ap =>
    some { s with pc := .receive, retries := 0, shutdownTimer := s.shutdownTimer || (ap && ok) }
  | .disconnectSta =>
    some (espWifiDisconnect { s with pc := .receive, requestDisconnect := true }
      .userDisconnect ok)

/-- `wifi_manager_event_handler` up to its send. -/
def handleEvent (s : State) : Event → State
  | .report (.disconnected d) =>
    { s with connected := false, scan := false, eventTask := some (.disconnected d) }
  | .report (.gotIp c) => { s with connected := true, eventTask := some (.gotIp c) }
  | .report .scanDone => { s with scan := false, eventTask := some .scanDone }
  | .apStart => { s with apStarted := true }
  | .apStop => { s with apStarted := false }

def eventTask (s : State) : Option State :=
  match s.eventTask with
  | some r => State.send { s with eventTask := none } (.report r)
  | none =>
    match s.events with
    | [] => none
    | e :: rest => some (handleEvent { s with events := rest } e)

/-- Where the handler of a request begins. -/
def Request.handler : Request → HttpPc
  | .post c => .clear c
  | .delete => .send .disconnectSta
  | .getAp => .send .startScan

/-- A step of the handler that runs. -/
def http (s : State) : Option State :=
  match s.http with
  | .idle => none
  | .clear c => some { s with http := .copySsid c, config := .zero }
  | .copySsid c =>
    some { s with http := .copyPassword c, config := { s.config with ssid := c.ssid } }
  | .copyPassword c =>
    some { s with
      http := .send (.connectSta (.user c))
      config := { s.config with password := c.password } }
  | .send o => State.send { s with http := .idle } (.order o)

def Request.Accepted : Request → Prop
  | .post c => c.Accepted
  | .delete | .getAp => True

instance : ∀ r : Request, Decidable r.Accepted
  | .post c => inferInstanceAs (Decidable c.Accepted)
  | .delete | .getAp => .isTrue trivial

def step (s : State) : Act → Option State
  | .manager ok => manager s ok
  | .connectOk =>
    match s.link with
    | .connecting c => some { s with link := .connected c }
    | .idle | .connected _ => none
  | .connectFail =>
    match s.link with
    | .connecting _ => some (s.drop .failed)
    | .idle | .connected _ => none
  | .lost =>
    match s.link with
    | .connected _ => some (s.drop .lost)
    | .idle | .connecting _ => none
  | .gotIp =>
    match s.link with
    | .connected c => some (s.raise (.report (.gotIp c)))
    | .idle | .connecting _ => none
  | .scanDone =>
    if s.scanning then some (State.raise { s with scanning := false } (.report .scanDone)) else none
  | .eventTask => eventTask s
  | .retryTimer =>
    if s.retryTimer ∧ s.timerTask = none then
      some { s with retryTimer := false, timerTask := some (.connectSta .autoReconnect) }
    else none
  | .shutdownTimer =>
    if s.shutdownTimer ∧ s.timerTask = none then
      some { s with shutdownTimer := false, timerTask := some .stopAp }
    else none
  | .timerTask ok =>
    match s.timerTask with
    | some o =>
      -- an `xTimerStart` since the timer has run out is undone by this `xTimerStop`
      State.send
        { s with
          timerTask := none
          retryTimer := s.retryTimer && !(ok && o == .connectSta .autoReconnect)
          shutdownTimer := s.shutdownTimer && !(ok && o == .stopAp) }
        (.order o)
    | none => none
  | .request r =>
    if s.httpUp ∧ s.http = .idle ∧ r.Accepted then some { s with http := r.handler } else none
  | .http => http s
  | .button => if s.buttonTask = none then some { s with buttonTask := some .startAp } else none
  | .buttonTask =>
    match s.buttonTask with
    | some o => State.send { s with buttonTask := none } (.order o)
    | none => none

def system : Lib.System State Act where
  Init s := ∃ nvs, s = boot nvs
  step := step

/-! ### Runs -/

/-- Restore the connection that is saved. -/
def restored : List Act :=
  List.replicate 9 (Act.manager false) ++ [Act.connectOk, .gotIp, .eventTask, .eventTask] ++
    List.replicate 3 (Act.manager false)

/-- Start the access point, where nothing is saved. -/
def opened : List Act := List.replicate 8 (.manager false) ++ [.eventTask]

/-- A user posts `c`. -/
def posted (c : Config) : List Act := .request (.post c) :: List.replicate 4 .http

/-- The attempt succeeds. -/
def addressed : List Act := [.connectOk, .gotIp, .eventTask, .eventTask]

end Datk.Wifi
