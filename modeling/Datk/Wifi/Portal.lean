import Datk.Lib.Guarded
import Datk.Lib.Register
import Datk.Wifi.Capacity
import Datk.Wifi.Routes

/-!
# What the web server publishes

`accessp_json` and `ip_info_json` of `common/wifi_manager/src/wifi_manager.c` are under one
mutex, and the string `wifi_manager_sta_ip` is under another one.  The manager prints them
anew: the list after a scan, the status when a connection is made or lost, and the string
with each address.  The handlers of the HTTP server read them, and one of them clears the
status.  None of these stores is a single one: while the list is printed, `accessp_json` is
only a part of it.

* Any number of tasks do what the manager and the server do, statement by statement.
* Whoever does not want to wait may give up: the handlers after ten ticks, with
  `503 Service Unavailable`, and the manager after a second, without a new list.
* A store past the end of a buffer ends the run.  `Fitting` says of which scans and updates
  there is no such store, and what is shown is about the runs with nothing but these.
* What is copied or printed from elsewhere, such as the SSID of the configuration, is as it
  is found then.
* `esp_ip4addr_ntoa` belongs to ESP-IDF and is a parameter.  `Printable` is what the code
  relies on.

The histories are those of what has been stored as a whole, and of what has been read.  What
`httpd_resp_send` has sent is kept along with the request that it answers.
-/

namespace Datk.Wifi.Portal

open Lib
open Server (Site)

/-! ### The data -/

inductive Lock
  | json
  | staIp
  deriving DecidableEq, Repr

/-- The content of `ap.json`, and that of `status.json`. -/
inductive Content
  | apList
  | ipInfo
  deriving DecidableEq, Repr

/-- Where it is published. -/
def Content.url : Content → Server.Url
  | .apList => .ap
  | .ipInfo => .status

/-- A request, and whether it has come to the address of the station. -/
structure Query where
  request : Request
  accessFromStaIp : Bool
  deriving DecidableEq, Repr

/-- What `wifi_manager_generate_ip_info_json` prints. -/
structure Update where
  reason : UpdateReason
  config : StaConfig
  info : IpInfo

/-- What `wifi_manager_json_mutex` is for. -/
structure Json where
  accesspJson : Buffer Byte (15 * 99 + 4)
  ipInfoJson : Buffer Byte 159
  history : List (Access Content (List Byte))
  /-- The updates whose object is finished. -/
  updates : List Update
  sent : List (Query × List Byte)

/-- The string in a buffer. -/
def Json.text (j : Json) : Content → Option (List Byte)
  | .apList => j.accesspJson.text 0
  | .ipInfo => j.ipInfoJson.text 0

/-- What `httpd_resp_send` loads. -/
def Json.load (j : Json) (p : Content) (len : Nat) : Option (List Byte) :=
  match p with
  | .apList => j.accesspJson.read 0 len
  | .ipInfo => j.ipInfoJson.read 0 len

/-- A buffer is finished. -/
def Json.stored (j : Json) (p : Content) : Json :=
  { j with history := j.history ++ [.write p ((j.text p).getD [])] }

/-- What `wifi_manager_sta_ip_mutex` is for. -/
structure StaIp where
  string : Buffer Char 16
  history : List (Access Unit Text)

abbrev Resource : Lock → Type
  | .json => Json
  | .staIp => StaIp

/-- What `esp_ip4addr_ntoa` writes fits in `IP4ADDR_STRLEN_MAX` characters. -/
structure Printable (espIp4addrNtoa : BitVec 32 → Text) : Prop where
  no_nul : ∀ addr, '\x00' ∉ espIp4addrNtoa addr
  length_lt : ∀ addr, (espIp4addrNtoa addr).length < 16

/-- What `esp_wifi_scan_get_ap_records` gets. -/
structure Scan (ρ : Type) where
  records : List (ApRecord ρ)
  length_le : records.length ≤ 15
  deriving DecidableEq

/-! ### The tasks -/

/-- Where a task is. -/
inductive Place (ρ : Type)
  /-- With the answer of a handler that has returned. -/
  | out (answer : Option (Query × Response))
  | lockStaIp (r : Request)
  | strstr (r : Request)
  | unlockStaIp (q : Query)
  | route (q : Query)
  | lockJson (q : Query) (p : Content)
  | strlen (q : Query) (p : Content)
  | send (q : Query) (p : Content) (len : Nat)
  | lockClear (q : Query)
  | clear (q : Query)
  | lockScan (s : Scan ρ) (oneAp : Buffer Byte 99)
  | filterUnique (s : Scan ρ) (oneAp : Buffer Byte 99)
  | openList (records : List (ApRecord ρ)) (oneAp : Buffer Byte 99)
  | printAp (records : List (ApRecord ρ)) (i : Nat) (oneAp : Buffer Byte 99)
  | lockInfo (u : Update)
  | memset (u : Update)
  | head (u : Update)
  | ssid (u : Update)
  | members (u : Update)
  | lockUpdate (addr : BitVec 32)
  | strcpy (addr : BitVec 32) (i : Nat)
  | unlock (k : Lock) (answer : Option (Query × Response))

inductive Action (ρ : Type)
  | request (r : Request)
  /-- `WM_EVENT_SCAN_DONE` of a scan that succeeded, with what is on the stack. -/
  | scanDone (s : Scan ρ) (oneAp : Buffer Byte 99)
  /-- `wifi_manager_generate_ip_info_json`. -/
  | update (u : Update)
  /-- `wifi_manager_safe_update_sta_ip_string`. -/
  | staIp (addr : BitVec 32)
  | next
  | timeout

variable {ρ : Type}

def Place.holds : Place ρ → Option Lock
  | .out _ | .lockStaIp _ | .route _ | .lockJson _ _ | .lockClear _ | .lockScan _ _ | .lockInfo _
  | .lockUpdate _ => none
  | .strstr _ | .unlockStaIp _ | .strcpy _ _ => some .staIp
  | .strlen _ _ | .send _ _ _ | .clear _ | .filterUnique _ _ | .openList _ _ | .printAp _ _ _
  | .memset _ | .head _ | .ssid _ | .members _ => some .json
  | .unlock k _ => some k

/-- What the handlers do next, once it is known whether the station was asked. -/
def handle (c : Site) (pages : Pages) (q : Query) : Place ρ :=
  match route c q.request q.accessFromStaIp with
  | .apJson => .lockJson q .apList
  | .statusJson => .lockJson q .ipInfo
  | .connect _ => .lockClear q
  | branch => .out ((respond c pages q.request branch).map fun response => (q, response))

def outside (c : Site) (pages : Pages) : Place ρ → Action ρ → Option (Place ρ)
  | .out _, .request r => some (if r.method = .get then .lockStaIp r else .route ⟨r, false⟩)
  | .out _, .scanDone s oneAp => some (.lockScan s oneAp)
  | .out _, .update u => some (.lockInfo u)
  | .out _, .staIp addr => some (.lockUpdate addr)
  | .route q, .next => some (handle c pages q)
  | .lockJson q _, .timeout => some (.out (some (q, .bare "503 Service Unavailable")))
  | .lockScan _ _, .timeout => some (.out none)
  | _, _ => none

/-- `xSemaphoreTake`. -/
def enter : Place ρ → Action ρ → Option (Lock × Place ρ)
  | .lockStaIp r, .next => some (.staIp, .strstr r)
  | .lockJson q p, .next => some (.json, .strlen q p)
  | .lockClear q, .next => some (.json, .clear q)
  | .lockScan s oneAp, .next => some (.json, .filterUnique s oneAp)
  | .lockInfo u, .next => some (.json, .memset u)
  | .lockUpdate addr, .next => some (.staIp, .strcpy addr 0)
  | _, _ => none

/-- The records that `wifi_manager_filter_unique` leaves. -/
def uniqueRecords [Zero ρ] (s : Scan ρ) : List (ApRecord ρ) :=
  (Wifi.filterUnique s.records).1.take (Wifi.filterUnique s.records).2.toNat

/-- The statements between `wifi_manager_lock_json_buffer` and
`wifi_manager_unlock_json_buffer`. -/
def insideJson [Zero ρ] : Place ρ → Json → Option (Place ρ × Json)
  | .strlen q p, j => (j.text p).map fun t => (.send q p t.length, j)
  | .send q p len, j => (j.load p len).map fun t =>
    (.unlock .json (some (q, .json t)),
      { j with history := j.history ++ [.read p t], sent := j.sent ++ [(q, t)] })
  -- `wifi_manager_clear_ip_info_json`
  | .clear q, j => (j.ipInfoJson.sprintf 0 (bytes "\x7b\x7d\n")).map fun b =>
    (.unlock .json (some (q, .json [])), Json.stored { j with ipInfoJson := b } .ipInfo)
  -- `wifi_manager_generate_acess_points_json`
  | .filterUnique s oneAp, j => some (.openList (uniqueRecords s) oneAp, j)
  | .openList records oneAp, j => (j.accesspJson.sprintf 0 (bytes "[")).map fun b =>
    (.printAp records 0 oneAp, { j with accesspJson := b })
  | .printAp records i oneAp, j =>
    match records.zipIdx[i]? with
    | some ap => (Wifi.printAp records.length (j.accesspJson, oneAp) ap).map fun r =>
      (.printAp records (i + 1) r.2, { j with accesspJson := r.1 })
    | none => some (.unlock .json none, j.stored .apList)
  -- `wifi_manager_generate_ip_info_json`
  | .memset u, j => some (.head u, { j with ipInfoJson := .fill 159 0 })
  | .head u, j => (j.ipInfoJson.sprintf 0 (bytes "\x7b\"ssid\":")).map fun b =>
    (.ssid u, { j with ipInfoJson := b })
  | .ssid u, j => do
    let start ← j.ipInfoJson.text 0
    let b ← jsonPrintString u.config.ssidString j.ipInfoJson start.length
    return (.members u, { j with ipInfoJson := b })
  | .members u, j => do
    let text ← j.ipInfoJson.text 0
    let b ← j.ipInfoJson.snprintf 0 text.length (159 - text.length)
      (ipInfo u.reason u.info ++ bytes "\x7d\n")
    return (.unlock .json none,
      Json.stored { j with ipInfoJson := b, updates := j.updates ++ [u] } .ipInfo)
  | .unlock .json answer, j => some (.out answer, j)
  | _, _ => none

/-- The statements between `wifi_manager_lock_sta_ip_string` and
`wifi_manager_unlock_sta_ip_string`. -/
def insideStaIp (espIp4addrNtoa : BitVec 32 → Text) :
    Place ρ → StaIp → Option (Place ρ × StaIp)
  | .strstr r, s =>
    if r.hostString = none then some (.unlockStaIp ⟨r, false⟩, s)
    else (s.string.text '\x00').map fun t =>
      (.unlockStaIp ⟨r, r.accessFromStaIp t⟩, { s with history := s.history ++ [.read () t] })
  | .unlockStaIp q, s => some (.route q, s)
  | .strcpy addr i, s =>
    match (espIp4addrNtoa addr ++ ['\x00'])[i]? with
    | some ch => (s.string.write i [ch]).map fun b => (.strcpy addr (i + 1), { s with string := b })
    | none =>
      some (.unlock .staIp none,
        { s with history := s.history ++ [.write () ((s.string.text '\x00').getD [])] })
  | .unlock .staIp answer, s => some (.out answer, s)
  | _, _ => none

def inside [Zero ρ] (espIp4addrNtoa : BitVec 32 → Text) :
    ∀ k, Place ρ → Resource k → Action ρ → Option (Place ρ × Resource k)
  | .json, t, j, .next => insideJson t j
  | .staIp, t, s, .next => insideStaIp espIp4addrNtoa t s
  | _, _, _, _ => none

/-! ### What a statement inside can do -/

/-- A statement under `wifi_manager_json_mutex`. -/
inductive JsonStatement [Zero ρ] (j : Json) : Place ρ → Place ρ → Json → Prop
  | strlen {q : Query} {p : Content} {t : List Byte} : j.text p = some t →
      JsonStatement j (.strlen q p) (.send q p t.length) j
  | send {q : Query} {p : Content} {len : Nat} {t : List Byte} : j.load p len = some t →
      JsonStatement j (.send q p len) (.unlock .json (some (q, .json t)))
        { j with history := j.history ++ [.read p t], sent := j.sent ++ [(q, t)] }
  | clear {q : Query} {b : Buffer Byte 159} :
      j.ipInfoJson.sprintf 0 (bytes "\x7b\x7d\n") = some b →
      JsonStatement j (.clear q) (.unlock .json (some (q, .json [])))
        (Json.stored { j with ipInfoJson := b } .ipInfo)
  | filterUnique {s : Scan ρ} {oneAp : Buffer Byte 99} :
      JsonStatement j (.filterUnique s oneAp) (.openList (uniqueRecords s) oneAp) j
  | openList {records : List (ApRecord ρ)} {oneAp : Buffer Byte 99}
      {b : Buffer Byte (15 * 99 + 4)} : j.accesspJson.sprintf 0 (bytes "[") = some b →
      JsonStatement j (.openList records oneAp) (.printAp records 0 oneAp)
        { j with accesspJson := b }
  | printAp {records : List (ApRecord ρ)} {i : Nat} {oneAp oneAp' : Buffer Byte 99}
      {ap : ApRecord ρ × Nat} {b : Buffer Byte (15 * 99 + 4)} : records.zipIdx[i]? = some ap →
      Wifi.printAp records.length (j.accesspJson, oneAp) ap = some (b, oneAp') →
      JsonStatement j (.printAp records i oneAp) (.printAp records (i + 1) oneAp')
        { j with accesspJson := b }
  | endList {records : List (ApRecord ρ)} {i : Nat} {oneAp : Buffer Byte 99} :
      records.zipIdx[i]? = none →
      JsonStatement j (.printAp records i oneAp) (.unlock .json none) (j.stored .apList)
  | memset {u : Update} :
      JsonStatement j (.memset u) (.head u) { j with ipInfoJson := .fill 159 0 }
  | head {u : Update} {b : Buffer Byte 159} :
      j.ipInfoJson.sprintf 0 (bytes "\x7b\"ssid\":") = some b →
      JsonStatement j (.head u) (.ssid u) { j with ipInfoJson := b }
  | ssid {u : Update} {start : List Byte} {b : Buffer Byte 159} :
      j.ipInfoJson.text 0 = some start →
      jsonPrintString u.config.ssidString j.ipInfoJson start.length = some b →
      JsonStatement j (.ssid u) (.members u) { j with ipInfoJson := b }
  | members {u : Update} {text : List Byte} {b : Buffer Byte 159} :
      j.ipInfoJson.text 0 = some text →
      j.ipInfoJson.snprintf 0 text.length (159 - text.length)
        (ipInfo u.reason u.info ++ bytes "\x7d\n") = some b →
      JsonStatement j (.members u) (.unlock .json none)
        (Json.stored { j with ipInfoJson := b, updates := j.updates ++ [u] } .ipInfo)
  | unlock {answer : Option (Query × Response)} :
      JsonStatement j (.unlock .json answer) (.out answer) j

/-- A statement under `wifi_manager_sta_ip_mutex`. -/
inductive StaIpStatement (espIp4addrNtoa : BitVec 32 → Text) (s : StaIp) :
    Place ρ → Place ρ → StaIp → Prop
  | noHost {r : Request} : r.hostString = none →
      StaIpStatement espIp4addrNtoa s (.strstr r) (.unlockStaIp ⟨r, false⟩) s
  | strstr {r : Request} {t : Text} : s.string.text '\x00' = some t →
      StaIpStatement espIp4addrNtoa s (.strstr r) (.unlockStaIp ⟨r, r.accessFromStaIp t⟩)
        { s with history := s.history ++ [.read () t] }
  | unlockGet {q : Query} :
      StaIpStatement espIp4addrNtoa s (.unlockStaIp q) (.route q) s
  | strcpy {addr : BitVec 32} {i : Nat} {ch : Char} {b : Buffer Char 16} :
      (espIp4addrNtoa addr ++ ['\x00'])[i]? = some ch → s.string.write i [ch] = some b →
      StaIpStatement espIp4addrNtoa s (.strcpy addr i) (.strcpy addr (i + 1))
        { s with string := b }
  | endCopy {addr : BitVec 32} {i : Nat} : (espIp4addrNtoa addr ++ ['\x00'])[i]? = none →
      StaIpStatement espIp4addrNtoa s (.strcpy addr i) (.unlock .staIp none)
        { s with history := s.history ++ [.write () ((s.string.text '\x00').getD [])] }
  | unlock {answer : Option (Query × Response)} :
      StaIpStatement espIp4addrNtoa s (.unlock .staIp answer) (.out answer) s

theorem insideJson_cases [Zero ρ] {t t' : Place ρ} {j j' : Json}
    (h : insideJson t j = some (t', j')) : JsonStatement j t t' j' := by
  cases t with
  | strlen q p =>
    obtain ⟨t, ht, heq⟩ := Option.map_eq_some_iff.mp h
    cases heq
    exact .strlen ht
  | send q p len =>
    obtain ⟨t, ht, heq⟩ := Option.map_eq_some_iff.mp h
    cases heq
    exact .send ht
  | clear q =>
    rw [insideJson] at h
    obtain ⟨b, hb, heq⟩ := Option.map_eq_some_iff.mp h
    cases heq
    exact .clear hb
  | filterUnique s oneAp =>
    cases h
    exact .filterUnique
  | openList records oneAp =>
    rw [insideJson] at h
    obtain ⟨b, hb, heq⟩ := Option.map_eq_some_iff.mp h
    cases heq
    exact .openList hb
  | printAp records i oneAp =>
    rw [insideJson] at h
    split at h
    · obtain ⟨⟨b, oneAp'⟩, hb, heq⟩ := Option.map_eq_some_iff.mp h
      cases heq
      exact .printAp ‹_› hb
    · cases h
      exact .endList ‹_›
  | memset u =>
    cases h
    exact .memset
  | head u =>
    rw [insideJson] at h
    obtain ⟨b, hb, heq⟩ := Option.map_eq_some_iff.mp h
    cases heq
    exact .head hb
  | ssid u =>
    obtain ⟨start, hstart, h⟩ := Option.bind_eq_some_iff.mp h
    obtain ⟨b, hb, heq⟩ := Option.bind_eq_some_iff.mp h
    cases heq
    exact .ssid hstart hb
  | members u =>
    obtain ⟨text, htext, h⟩ := Option.bind_eq_some_iff.mp h
    obtain ⟨b, hb, heq⟩ := Option.bind_eq_some_iff.mp h
    cases heq
    exact .members htext hb
  | unlock k answer =>
    cases k with
    | json =>
      cases h
      exact .unlock
    | staIp => cases h
  | _ => cases h

theorem insideStaIp_cases {espIp4addrNtoa : BitVec 32 → Text} {t t' : Place ρ} {s s' : StaIp}
    (h : insideStaIp espIp4addrNtoa t s = some (t', s')) :
    StaIpStatement espIp4addrNtoa s t t' s' := by
  cases t with
  | strstr r =>
    rw [insideStaIp] at h
    split at h
    · cases h
      exact .noHost ‹_›
    · obtain ⟨t, ht, heq⟩ := Option.map_eq_some_iff.mp h
      cases heq
      exact .strstr ht
  | unlockStaIp q =>
    cases h
    exact .unlockGet
  | strcpy addr i =>
    rw [insideStaIp] at h
    split at h
    · obtain ⟨b, hb, heq⟩ := Option.map_eq_some_iff.mp h
      cases heq
      exact .strcpy ‹_› hb
    · cases h
      exact .endCopy ‹_›
  | unlock k answer =>
    cases k with
    | json => cases h
    | staIp =>
      cases h
      exact .unlock
  | _ => cases h

/-- The case of a statement. -/
theorem inside_cases [Zero ρ] {espIp4addrNtoa : BitVec 32 → Text}
    {P : ∀ k, Place ρ → Place ρ → Resource k → Resource k → Prop}
    (hjson : ∀ j t t' j', JsonStatement j t t' j' → P .json t t' j j')
    (hstaIp : ∀ s t t' s', StaIpStatement espIp4addrNtoa s t t' s' → P .staIp t t' s s')
    {k : Lock} {t t' : Place ρ} {r r' : Resource k} {a : Action ρ}
    (h : inside espIp4addrNtoa k t r a = some (t', r')) : P k t t' r r' := by
  cases k with
  | json =>
    cases a with
    | next => exact hjson r t t' r' (insideJson_cases h)
    | _ => cases h
  | staIp =>
    cases a with
    | next => exact hstaIp r t t' r' (insideStaIp_cases h)
    | _ => cases h

theorem holds_handle (c : Site) (pages : Pages) (q : Query) :
    (handle c pages q : Place ρ).holds = none := by
  unfold handle
  split <;> rfl

/-- The tasks, and the two locks. -/
def tasks [Zero ρ] (espIp4addrNtoa : BitVec 32 → Text) (c : Site) (pages : Pages) :
    Guarded Lock Resource (Place ρ) (Action ρ) where
  holds := Place.holds
  outside := outside c pages
  enter := enter
  inside := inside espIp4addrNtoa
  holds_outside := by
    intro t a t' _ h
    unfold outside at h
    split at h
    · cases h
      split <;> rfl
    · cases h
      rfl
    · cases h
      rfl
    · cases h
      rfl
    · cases h
      exact holds_handle _ _ _
    · cases h
      rfl
    · cases h
      rfl
    · cases h
  holds_enter := by
    intro t a k t' h
    unfold enter at h
    split at h <;> cases h <;> rfl
  holds_inside := by
    intro k t r a t' r' _ h
    refine inside_cases (P := fun k _ t' _ _ => t'.holds = some k ∨ t'.holds = none) ?_ ?_ h
    · intro j t t' j' hs
      cases hs with
      | unlock => exact .inr rfl
      | _ => exact .inl rfl
    · intro s t t' s' hs
      cases hs with
      | unlockGet => exact .inr rfl
      | unlock => exact .inr rfl
      | _ => exact .inl rfl

/-! ### What fits -/

/-- The list of a scan fits in `accessp_json`. -/
def Scan.Fits [Zero ρ] (s : Scan ρ) : Prop := ((uniqueRecords s).map recordLength).sum ≤ 1487

/-- The SSID fits in `ip_info_json`.  What is printed behind it is cut off if it does not. -/
def Update.Fits (u : Update) : Prop := escapedLength u.config.ssidString ≤ 148

def Action.Fits [Zero ρ] : Action ρ → Prop
  | .scanDone s _ => s.Fits
  | .update u => u.Fits
  | _ => True

instance [Zero ρ] (s : Scan ρ) : Decidable s.Fits := inferInstanceAs (Decidable (_ ≤ _))

instance (u : Update) : Decidable u.Fits := inferInstanceAs (Decidable (_ ≤ _))

instance [Zero ρ] : ∀ a : Action ρ, Decidable a.Fits
  | .scanDone s _ => inferInstanceAs (Decidable s.Fits)
  | .update u => inferInstanceAs (Decidable u.Fits)
  | .request _ | .staIp _ | .next | .timeout => .isTrue trivial

/-! ### What is asked for -/

theorem get_of_route {c : Site} {r : Request} {access : Bool} {p : Route} {u : Server.Url}
    (hp : p.url = some u) (h : route c r access = p) : r.method = .get ∧ r.uri = c.text u := by
  unfold route at h
  split at h
  · refine ⟨‹_›, ?_⟩
    rcases routeGet_cases c r access with hredirect | ⟨w, hw, huri⟩ | ⟨hcustom, -⟩
    · rw [← h, hredirect] at hp
      cases hp
    · rw [h, hp] at hw
      exact Option.some.inj hw ▸ huri
    · rw [← h, hcustom] at hp
      cases hp
  · unfold routePost at h
    repeat' split at h
    all_goals
      subst h
      cases hp
  · unfold routeDelete at h
    split at h
    all_goals
      subst h
      cases hp

theorem post_of_route {c : Site} {r : Request} {access : Bool} {config : Config}
    (h : route c r access = .connect config) : r.method = .post := by
  unfold route at h
  split at h
  · rcases routeGet_cases c r access with hredirect | ⟨w, hw, -⟩ | ⟨hcustom, -⟩
    · rw [hredirect] at h
      cases h
    · rw [h] at hw
      cases hw
    · rw [hcustom] at h
      cases h
  · assumption
  · unfold routeDelete at h
    split at h <;> cases h

/-- What is known of a place: what is loaded there is what was asked for, and what is
printed there fits. -/
def Place.Sound [Zero ρ] (c : Site) : Place ρ → Prop
  | .lockJson q p | .strlen q p | .send q p _ =>
    q.request.method = .get ∧ q.request.uri = c.text p.url
  | .lockClear q | .clear q => q.request.method = .post
  | .lockScan s _ | .filterUnique s _ => s.Fits
  | .lockInfo u | .memset u | .head u | .ssid u => u.Fits
  | .openList records _ | .printAp records _ _ => (records.map recordLength).sum ≤ 1487
  | _ => True

theorem sound_handle [Zero ρ] (c : Site) (pages : Pages) (q : Query) :
    (handle c pages q : Place ρ).Sound c := by
  unfold handle
  split
  · exact get_of_route (p := .apJson) rfl ‹_›
  · exact get_of_route (p := .statusJson) rfl ‹_›
  · exact post_of_route ‹_›
  · exact trivial

end Datk.Wifi.Portal
