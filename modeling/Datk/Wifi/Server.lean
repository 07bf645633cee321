import Mathlib.Logic.Function.Basic
import Datk.Basic
import Datk.Lib.System

/-!
# The URLs of the web server

`http_app_start` allocates the seven strings that the request handlers compare `uri`
with, or redirect to, and starts the HTTP server.  `http_app_stop` frees them one by
one, and stops the server after that.  The manager does both for a user's connection
request, and when it starts or stops the access point, while the task of the HTTP
server may be anywhere in a handler.

* The manager is a program counter over the statements of `http_app_stop` and
  `http_app_start`.  It may come to them at any time.  `httpd_start` may fail;
  `httpd_stop` returns once no handler runs.
* The task of the server runs one handler at a time.  A handler loads a string and
  then reads what it points to; what it does after its last string is one step.
* The memory is a list of blocks, of which those that are freed read as `none`.

`misread` records the strings that were null when a handler loaded them, or freed when
it read them.  `safe_iff` says which runs have none.
-/

namespace Datk.Wifi.Server

inductive Url
  | root
  | redirect
  | js
  | css
  | connect
  | ap
  | status
  deriving DecidableEq, Repr

/-- The strings in the order in which they are freed, and allocated. -/
def urls : List Url := [.root, .redirect, .js, .css, .connect, .ap, .status]

/-- The settings `WEBAPP_LOCATION` and `DEFAULT_AP_IP`. -/
structure Site where
  webappLocation : Text
  defaultApIp : Text

/-- `http_app_generate_url`. -/
def Site.httpAppGenerateUrl (c : Site) (page : String) : Text := c.webappLocation ++ page.toList

/-- What `http_app_start` stores in a string.  The size that it passes to `snprintf` for
the redirection leaves room for `22 + root_len` characters. -/
def Site.text (c : Site) : Url → Text
  | .root => c.webappLocation
  | .redirect =>
    ("http://".toList ++ c.defaultApIp ++
      if c.webappLocation.length = 1 then [] else c.webappLocation).take
        (22 + c.webappLocation.length)
  | .js => c.httpAppGenerateUrl "code.js"
  | .css => c.httpAppGenerateUrl "style.css"
  | .connect => c.httpAppGenerateUrl "connect.json"
  | .ap => c.httpAppGenerateUrl "ap.json"
  | .status => c.httpAppGenerateUrl "status.json"

inductive Method
  | get
  | post
  | delete
  deriving DecidableEq, Repr

/-- A request; it is foreign if its host is neither address of the device. -/
structure Request where
  method : Method
  uri : Text
  foreign : Bool
  deriving DecidableEq, Repr

/-- The strings that the handler of a request comes to, in their order. -/
def Request.urls (r : Request) : List Url :=
  match r.method with
  | .get => if r.foreign then [.redirect] else [.root, .js, .css, .ap, .status]
  | .post | .delete => [.connect]

/-- The next statement of the manager; the strings are those that are still to come. -/
inductive ManagerPc
  | receive
  | free (us : List Url)
  /-- The string `u` is freed and not yet null. -/
  | clear (u : Url) (us : List Url)
  | start
  | generate (us : List Url)
  | httpdStart
  | register (ms : List Method)
  deriving DecidableEq, Repr

/-- The next statement of the task of the server. -/
inductive HttpPc
  | idle
  | load (r : Request) (u : Url) (us : List Url)
  | read (r : Request) (u : Url) (us : List Url) (p : Nat)
  | answer
  deriving DecidableEq, Repr

structure State where
  pc : ManagerPc
  http : HttpPc
  /-- Whether `httpd_handle` is not null. -/
  handle : Bool
  registered : List Method
  /-- The variables `http_root_url` to `http_status_url`. -/
  url : Url → Option Nat
  memory : List (Option Text)
  /-- History. -/
  misread : List Url

/-- `wifi_manager` before its first `http_app_start`. -/
def boot : State where
  pc := .start
  http := .idle
  handle := false
  registered := []
  url := fun _ => none
  memory := []
  misread := []

inductive Act
  /-- A statement of the manager; `ok` is how `httpd_start` ends. -/
  | manager (ok : Bool)
  | request (r : Request)
  | http
  deriving DecidableEq, Repr

/-- The handler comes to its next string. -/
def HttpPc.next (r : Request) : List Url → HttpPc
  | [] => .answer
  | u :: us => .load r u us

/-- `http_app_stop` and `http_app_start`. -/
def manager (c : Site) (s : State) (ok : Bool) : Option State :=
  match s.pc with
  | .receive => some { s with pc := if s.handle then .free urls else .start }
  | .free (u :: us) =>
    some <| match s.url u with
    | some p => { s with pc := .clear u us, memory := s.memory.set p none }
    | none => { s with pc := .free us }
  | .clear u us => some { s with pc := .free us, url := Function.update s.url u none }
  | .free [] =>
    -- `httpd_stop` waits for the handler that runs
    if s.http = .idle then some { s with pc := .start, handle := false, registered := [] }
    else none
  | .start =>
    some { s with pc := if s.url .root = none then .generate urls else .httpdStart }
  | .generate (u :: us) =>
    some { s with
      pc := .generate us
      url := Function.update s.url u (some s.memory.length)
      memory := s.memory ++ [some (c.text u)] }
  | .generate [] => some { s with pc := .httpdStart }
  | .httpdStart =>
    some (if ok then { s with pc := .register [.get, .post, .delete], handle := true }
      else { s with pc := .receive })
  | .register (m :: ms) => some { s with pc := .register ms, registered := m :: s.registered }
  | .register [] => some { s with pc := .receive }

/-- A handler. -/
def http (s : State) : Option State :=
  match s.http with
  | .idle => none
  | .load r u us =>
    some <| match s.url u with
    | some p => { s with http := .read r u us p }
    | none => { s with http := .answer, misread := s.misread ++ [u] }
  | .read r u us p =>
    some <| match s.memory[p]? with
    | some (some t) => { s with http := if t = r.uri then .answer else .next r us }
    | _ => { s with http := .answer, misread := s.misread ++ [u] }
  | .answer => some { s with http := .idle }

def step (c : Site) (s : State) : Act → Option State
  | .manager ok => manager c s ok
  | .request r =>
    if s.http = .idle ∧ r.method ∈ s.registered then some { s with http := .next r r.urls }
    else none
  | .http => http s

def system (c : Site) : Lib.System State Act where
  Init s := s = boot
  step := step c

/-- The string holds its generated URL. -/
def State.Holds (c : Site) (s : State) (u : Url) : Prop :=
  ∃ p, s.url u = some p ∧ s.memory[p]? = some (some (c.text u))

/-- **Restarting the server is safe**: no handler reads a string while it is null or
after it was freed, and between two messages the server is down, or all of the strings
hold their URLs. -/
structure Safe (c : Site) (s : State) : Prop where
  misread : s.misread = []
  complete : s.pc = .receive → s.handle = false ∨ ∀ u, s.Holds c u

/-- `http_app_stop` has freed the string, and not yet stopped the server. -/
def ManagerPc.Freed (u : Url) : ManagerPc → Prop
  | .free us | .clear _ us => u ∉ us
  | _ => False

/-- It has also set it to null. -/
def ManagerPc.Null (u : Url) : ManagerPc → Prop
  | .free us => u ∉ us
  | .clear v us => u ∉ v :: us
  | _ => False

/-- A handler loads a string before `http_app_stop` sets it to null, and reads it before
`http_app_stop` frees it, or does so after the restart. -/
def Timely (s : State) : Act → Prop
  | .http =>
    match s.http with
    | .load _ u _ => ¬ s.pc.Null u
    | .read _ u _ _ => ¬ s.pc.Freed u
    | .idle | .answer => True
  | .manager _ | .request _ => True

/-! ### The strings at each statement of the manager -/

/-- The manager is between `httpd_stop` and `httpd_start`. -/
def ManagerPc.down : ManagerPc → Bool
  | .start | .generate _ | .httpdStart => true
  | .receive | .free _ | .clear _ _ | .register _ => false

/-- What the strings hold, by the statement that the manager has come to. -/
def State.Strings (c : Site) (s : State) : ManagerPc → Prop
  | .receive | .httpdStart => ∀ u, s.Holds c u
  | .register _ => s.handle = true ∧ ∀ u, s.Holds c u
  | .free us => us.Nodup ∧ (∀ u ∈ us, s.Holds c u) ∧ ∀ u ∉ us, s.url u = none
  | .clear u us =>
    (u :: us).Nodup ∧ (∀ v ∈ us, s.Holds c v) ∧ (∀ v ∉ u :: us, s.url v = none) ∧
      ∃ p, s.url u = some p ∧ s.memory[p]? = some none
  | .start => (∀ u, s.url u = none) ∨ ∀ u, s.Holds c u
  | .generate us => us.Nodup ∧ (∀ u ∈ us, s.url u = none) ∧ ∀ u ∉ us, s.Holds c u

structure Kept (c : Site) (s : State) : Prop where
  strings : s.Strings c s.pc
  distinct : ∀ u v p, s.url u = some p → s.url v = some p → u = v
  down : s.pc.down = true → s.handle = false
  idle : s.handle = false → s.http = .idle ∧ s.registered = []
  reading : ∀ r u us p, s.http = .read r u us p →
    (¬ s.pc.Freed u → s.url u = some p) ∧ (s.pc.Freed u → s.memory[p]? = some none)

theorem kept_boot (c : Site) : Kept c boot where
  strings := .inl fun _ => rfl
  distinct := by
    intro u v p hu
    cases hu
  down := fun _ => rfl
  idle := fun _ => ⟨rfl, rfl⟩
  reading := by
    intro r u us p hread
    cases hread

theorem mem_urls (u : Url) : u ∈ urls := by
  cases u <;> decide

variable {c : Site} {s s' : State}

/-- Freeing one string leaves the others. -/
theorem Kept.holds_free (h : Kept c s) {u v : Url} {p : Nat} (hu : s.url u = some p)
    (hne : v ≠ u) (hv : s.Holds c v) {pc : ManagerPc} :
    State.Holds c { s with pc := pc, memory := s.memory.set p none } v := by
  obtain ⟨q, hq, hmem⟩ := hv
  refine ⟨q, hq, ?_⟩
  have hpq : p ≠ q := by
    rintro rfl
    exact hne (h.distinct v u p hq hu)
  show (s.memory.set p none)[q]? = some (some (c.text v))
  rw [List.getElem?_set_ne hpq, hmem]

namespace Kept

/-- While a handler runs, what is not freed holds its URL. -/
theorem holds (h : Kept c s) (hrun : s.http ≠ .idle) {u : Url} (hu : ¬ s.pc.Freed u) :
    s.Holds c u := by
  have hup : s.handle = true := by
    by_contra hdown
    exact hrun (h.idle (by simpa using hdown)).1
  have hstrings := h.strings
  have hdown := h.down
  cases hpc : s.pc with
  | receive =>
    rw [hpc] at hstrings
    exact hstrings u
  | register ms =>
    rw [hpc] at hstrings
    exact hstrings.2 u
  | free us =>
    rw [hpc] at hstrings hu
    exact hstrings.2.1 u (not_not.mp hu)
  | clear v us =>
    rw [hpc] at hstrings hu
    exact hstrings.2.1 u (not_not.mp hu)
  | start | generate us | httpdStart =>
    rw [hdown (by rw [hpc]; rfl)] at hup
    cases hup

/-- What is null is so because `http_app_stop` has come to it. -/
theorem null (h : Kept c s) {u : Url} (hu : s.pc.Null u) : s.url u = none := by
  have hstrings := h.strings
  cases hpc : s.pc with
  | free us =>
    rw [hpc] at hstrings hu
    exact hstrings.2.2 u hu
  | clear v us =>
    rw [hpc] at hstrings hu
    exact hstrings.2.2.1 u hu
  | receive | start | generate us | httpdStart | register ms =>
    rw [hpc] at hu
    cases hu

/-- What is freed and not yet null points to the block that is freed. -/
theorem freed (h : Kept c s) {u : Url} (hu : s.pc.Freed u) (hnull : ¬ s.pc.Null u) :
    ∃ p, s.url u = some p ∧ s.memory[p]? = some none := by
  have hstrings := h.strings
  cases hpc : s.pc with
  | clear v us =>
    rw [hpc] at hstrings hnull hu
    have huv : u = v := by
      by_contra hne
      exact hnull (List.not_mem_cons_of_ne_of_not_mem hne hu)
    exact huv ▸ hstrings.2.2.2
  | free us =>
    rw [hpc] at hnull hu
    exact absurd hu hnull
  | receive | start | generate us | httpdStart | register ms =>
    rw [hpc] at hu
    cases hu

theorem dangling (h : Kept c s) {u : Url} {p : Nat} (hu : s.pc.Freed u) (hp : s.url u = some p) :
    s.memory[p]? = some none := by
  have hnull : ¬ s.pc.Null u := fun hnull => by
    rw [h.null hnull] at hp
    cases hp
  obtain ⟨q, hq, hmem⟩ := h.freed hu hnull
  cases hp.symm.trans hq
  exact hmem

theorem ne_none (h : Kept c s) (hrun : s.http ≠ .idle) {u : Url} (hu : ¬ s.pc.Null u) :
    s.url u ≠ none := by
  have hpoints : ∃ p, s.url u = some p := by
    by_cases hfreed : s.pc.Freed u
    · exact (h.freed hfreed hu).imp fun p hp => hp.1
    · exact (h.holds hrun hfreed).imp fun p hp => hp.1
  obtain ⟨p, hp⟩ := hpoints
  simp [hp]

/-- The server is not up: there is no handler to think of. -/
theorem of_down {pc : ManagerPc} (hhttp : s.http = .idle) (hstrings : s.Strings c pc)
    (hdistinct : ∀ u v p, s.url u = some p → s.url v = some p → u = v)
    (hdown : s.handle = false) (hregistered : s.registered = []) :
    Kept c { s with pc := pc } where
  strings := hstrings
  distinct := hdistinct
  down := fun _ => hdown
  idle := fun _ => ⟨hhttp, hregistered⟩
  reading := by
    intro r u us p hread
    cases hhttp.symm.trans hread

/-- `http_app_stop`. -/
theorem stop {u : Url} {us : List Url} {p : Nat} (h : Kept c s) (hpc : s.pc = .free (u :: us))
    (hp : s.url u = some p) :
    Kept c { s with pc := .clear u us, memory := s.memory.set p none } := by
  have hstrings := h.strings
  rw [hpc] at hstrings
  obtain ⟨hnodup, hholds, hnull⟩ := hstrings
  obtain ⟨q, hq, hmem⟩ := hholds u List.mem_cons_self
  cases hp.symm.trans hq
  have hlt : p < s.memory.length := (List.getElem?_eq_some_iff.mp hmem).1
  have hfreed : (s.memory.set p none)[p]? = some none := List.getElem?_set_self hlt
  refine ⟨⟨hnodup, fun v hv => ?_, hnull, p, hp, hfreed⟩, h.distinct, nofun, h.idle, ?_⟩
  · have hne : v ≠ u := by
      rintro rfl
      exact (List.nodup_cons.mp hnodup).1 hv
    exact h.holds_free hp hne (hholds v (List.mem_cons_of_mem u hv))
  · intro r v vs q hread
    obtain ⟨hlive, hdead⟩ := h.reading r v vs q hread
    rw [hpc] at hlive hdead
    by_cases hv : v ∈ u :: us
    · have hv' : s.url v = some q := hlive (not_not.mpr hv)
      refine ⟨fun _ => hv', fun hnot => ?_⟩
      rcases List.mem_cons.mp hv with rfl | hmem
      · cases hp.symm.trans hv'
        exact hfreed
      · exact absurd hmem hnot
    · refine ⟨fun hnot => absurd (fun hmem => hv (List.mem_cons_of_mem u hmem)) hnot, fun _ => ?_⟩
      have hq := hdead hv
      by_cases hpq : p = q
      · exact hpq ▸ hfreed
      · show (s.memory.set p none)[q]? = some none
        rw [List.getElem?_set_ne hpq, hq]

/-- `http_app_stop` sets the string to null. -/
theorem clear {u : Url} {us : List Url} (h : Kept c s) (hpc : s.pc = .clear u us) :
    Kept c { s with pc := .free us, url := Function.update s.url u none } := by
  have hstrings := h.strings
  rw [hpc] at hstrings
  obtain ⟨hnodup, hholds, hnull, p, hp, hfreed⟩ := hstrings
  obtain ⟨hu, hnodup⟩ := List.nodup_cons.mp hnodup
  have hother : ∀ v, v ≠ u → Function.update s.url u none v = s.url v := fun v hv =>
    Function.update_of_ne hv none s.url
  refine ⟨⟨hnodup, fun v hv => ?_, fun v hv => ?_⟩, fun v w q hv hw => ?_, nofun, h.idle, ?_⟩
  · have hne : v ≠ u := by
      rintro rfl
      exact hu hv
    obtain ⟨q, hq, hmem⟩ := hholds v hv
    exact ⟨q, (hother v hne).trans hq, hmem⟩
  · show Function.update s.url u none v = none
    by_cases hne : v = u
    · rw [hne, Function.update_self]
    · rw [hother v hne]
      exact hnull v (List.not_mem_cons_of_ne_of_not_mem hne hv)
  · have hne : ∀ w, Function.update s.url u none w = some q → w ≠ u := by
      rintro w hw rfl
      rw [Function.update_self] at hw
      cases hw
    exact h.distinct v w q ((hother v (hne v hv)).symm.trans hv)
      ((hother w (hne w hw)).symm.trans hw)
  · intro r v vs q hread
    obtain ⟨hlive, hdead⟩ := h.reading r v vs q hread
    rw [hpc] at hlive hdead
    refine ⟨fun hv => ?_, hdead⟩
    have hne : v ≠ u := by
      rintro rfl
      exact hv hu
    exact (hother v hne).trans (hlive hv)

/-- `http_app_start` allocates a string. -/
theorem allocate {u : Url} {us : List Url} (h : Kept c s) (hpc : s.pc = .generate (u :: us)) :
    Kept c { s with
      pc := .generate us
      url := Function.update s.url u (some s.memory.length)
      memory := s.memory ++ [some (c.text u)] } := by
  have hdown := h.down (by rw [hpc]; rfl)
  have hstrings := h.strings
  rw [hpc] at hstrings
  obtain ⟨hnodup, hnull, hholds⟩ := hstrings
  obtain ⟨hu, hnodup⟩ := List.nodup_cons.mp hnodup
  have hother : ∀ v, v ≠ u → Function.update s.url u (some s.memory.length) v = s.url v :=
    fun v hv => Function.update_of_ne hv _ s.url
  have hself : Function.update s.url u (some s.memory.length) u = some s.memory.length :=
    Function.update_self u _ s.url
  -- no other string points to the new block
  have hnew : ∀ v, v ≠ u → s.url v ≠ some s.memory.length := by
    intro v hv hlen
    by_cases hmem : v ∈ us
    · rw [hnull v (List.mem_cons_of_mem u hmem)] at hlen
      cases hlen
    · obtain ⟨p, hp, hblock⟩ := hholds v (List.not_mem_cons_of_ne_of_not_mem hv hmem)
      cases hp.symm.trans hlen
      exact Nat.lt_irrefl _ (List.getElem?_eq_some_iff.mp hblock).1
  refine of_down (s := { s with
    url := Function.update s.url u (some s.memory.length)
    memory := s.memory ++ [some (c.text u)] }) (h.idle hdown).1
    ⟨hnodup, fun v hv => ?_, fun v hv => ?_⟩ (fun v w q hv hw => ?_) hdown (h.idle hdown).2
  · have hne : v ≠ u := by
      rintro rfl
      exact hu hv
    exact (hother v hne).trans (hnull v (List.mem_cons_of_mem u hv))
  · by_cases hne : v = u
    · exact ⟨s.memory.length, hne ▸ hself, by simp [hne]⟩
    · obtain ⟨p, hp, hblock⟩ := hholds v (List.not_mem_cons_of_ne_of_not_mem hne hv)
      refine ⟨p, (hother v hne).trans hp, ?_⟩
      exact (List.getElem?_append_left (List.getElem?_eq_some_iff.mp hblock).1).trans hblock
  · by_cases hvu : v = u <;> by_cases hwu : w = u
    · rw [hvu, hwu]
    · have hq : s.memory.length = q := Option.some.inj (hself.symm.trans (hvu ▸ hv))
      exact absurd (hq ▸ (hother w hwu).symm.trans hw) (hnew w hwu)
    · have hq : s.memory.length = q := Option.some.inj (hself.symm.trans (hwu ▸ hw))
      exact absurd (hq ▸ (hother v hvu).symm.trans hv) (hnew v hvu)
    · exact h.distinct v w q ((hother v hvu).symm.trans hv) ((hother w hwu).symm.trans hw)

theorem manager {ok : Bool} (h : Kept c s) (hs : Server.manager c s ok = some s') :
    Kept c s' := by
  have hstrings := h.strings
  unfold Server.manager at hs
  cases hpc : s.pc with
  | receive =>
    simp only [hpc, Option.some.injEq] at hs
    subst hs
    rw [hpc] at hstrings
    split
    · refine ⟨⟨by decide, fun u _ => hstrings u, fun u hu => absurd (mem_urls u) hu⟩, h.distinct,
        nofun, h.idle, fun r u us p hread => ⟨fun _ => ?_, fun hu => absurd (mem_urls u) hu⟩⟩
      exact (h.reading r u us p hread).1 (by rw [hpc]; exact id)
    · rename_i hdown
      have hdown : s.handle = false := by simpa using hdown
      exact of_down (h.idle hdown).1 (.inr hstrings) h.distinct hdown (h.idle hdown).2
  | free us =>
    cases us with
    | cons u us =>
      simp only [hpc, Option.some.injEq] at hs
      subst hs
      have hu : ∃ p, s.url u = some p := by
        rw [hpc] at hstrings
        obtain ⟨p, hp, -⟩ := hstrings.2.1 u List.mem_cons_self
        exact ⟨p, hp⟩
      obtain ⟨p, hp⟩ := hu
      rw [hp]
      exact h.stop hpc hp
    | nil =>
      simp only [hpc] at hs
      obtain ⟨hidle, hs⟩ := Option.ite_none_right_eq_some.mp hs
      cases hs
      rw [hpc] at hstrings
      exact of_down (s := { s with handle := false, registered := [] }) hidle
        (.inl fun u => hstrings.2.2 u List.not_mem_nil) h.distinct rfl rfl
  | clear u us =>
    simp only [hpc, Option.some.injEq] at hs
    subst hs
    exact h.clear hpc
  | start =>
    simp only [hpc, Option.some.injEq] at hs
    subst hs
    have hdown := h.down (by rw [hpc]; rfl)
    rw [hpc] at hstrings
    refine of_down (h.idle hdown).1 ?_ h.distinct hdown (h.idle hdown).2
    split
    · rename_i hroot
      refine ⟨by decide, fun u _ => ?_, fun u hu => absurd (mem_urls u) hu⟩
      refine hstrings.elim (fun hnone => hnone u) fun hall => ?_
      obtain ⟨p, hp, -⟩ := hall .root
      cases hroot.symm.trans hp
    · rename_i hroot
      exact hstrings.resolve_left fun hnone => hroot (hnone .root)
  | generate us =>
    have hdown := h.down (by rw [hpc]; rfl)
    rw [hpc] at hstrings
    obtain ⟨hnodup, hnull, hholds⟩ := hstrings
    cases us with
    | nil =>
      simp only [hpc, Option.some.injEq] at hs
      subst hs
      exact of_down (h.idle hdown).1 (fun u => hholds u List.not_mem_nil) h.distinct hdown
        (h.idle hdown).2
    | cons u us =>
      simp only [hpc, Option.some.injEq] at hs
      subst hs
      exact h.allocate hpc
  | httpdStart =>
    simp only [hpc, Option.some.injEq] at hs
    subst hs
    have hdown := h.down (by rw [hpc]; rfl)
    rw [hpc] at hstrings
    have hidle := h.idle hdown
    split
    · refine ⟨⟨rfl, hstrings⟩, h.distinct, nofun, nofun, fun r u us p hread => ?_⟩
      cases hidle.1.symm.trans hread
    · exact of_down hidle.1 hstrings h.distinct hdown hidle.2
  | register ms =>
    rw [hpc] at hstrings
    obtain ⟨hup, hholds⟩ := hstrings
    have hreading : ∀ r u us p, s.http = .read r u us p → s.url u = some p := by
      intro r u us p hread
      exact (h.reading r u us p hread).1 (by rw [hpc]; exact id)
    cases ms with
    | nil =>
      simp only [hpc, Option.some.injEq] at hs
      subst hs
      exact ⟨hholds, h.distinct, nofun, h.idle,
        fun r u us p hread => ⟨fun _ => hreading r u us p hread, nofun⟩⟩
    | cons m ms =>
      simp only [hpc, Option.some.injEq] at hs
      subst hs
      exact ⟨⟨hup, hholds⟩, h.distinct, nofun,
        fun hdown => absurd (hup.symm.trans hdown) (by decide),
        fun r u us p hread => ⟨fun _ => hreading r u us p hread, nofun⟩⟩

/-- A handler leaves the strings alone. -/
theorem of_http (h : Kept c s) (hrun : s.http ≠ .idle) {pc : HttpPc} {us : List Url}
    (hreading : ∀ r u vs p, pc = .read r u vs p →
      (¬ s.pc.Freed u → s.url u = some p) ∧ (s.pc.Freed u → s.memory[p]? = some none)) :
    Kept c { s with http := pc, misread := us } :=
  { h with
    idle := fun hdown => absurd (h.idle hdown).1 hrun
    reading := hreading }

theorem http (h : Kept c s) (hs : Server.http s = some s') : Kept c s' := by
  unfold Server.http at hs
  cases hhttp : s.http with
  | idle => simp [hhttp] at hs
  | load r u us =>
    simp only [hhttp, Option.some.injEq] at hs
    subst hs
    have hrun : s.http ≠ .idle := by simp [hhttp]
    split
    · rename_i p hp
      refine h.of_http hrun ?_
      rintro _ v _ q ⟨⟩
      exact ⟨fun _ => hp, fun hfreed => h.dangling hfreed hp⟩
    · exact h.of_http hrun nofun
  | read r u us p =>
    simp only [hhttp, Option.some.injEq] at hs
    subst hs
    have hrun : s.http ≠ .idle := by simp [hhttp]
    split
    · refine h.of_http hrun ?_
      intro r v vs q hread
      split at hread
      · cases hread
      · cases us <;> cases hread
    · exact h.of_http hrun nofun
  | answer =>
    simp only [hhttp, Option.some.injEq] at hs
    subst hs
    exact { h with
      idle := fun hdown => ⟨rfl, (h.idle hdown).2⟩
      reading := nofun }

theorem step {a : Act} (h : Kept c s) (hs : Server.step c s a = some s') : Kept c s' := by
  cases a with
  | manager ok => exact h.manager hs
  | http => exact h.http hs
  | request r =>
    obtain ⟨⟨hidle, hmem⟩, hs⟩ := Option.ite_none_right_eq_some.mp hs
    cases hs
    refine { h with
      idle := fun hdown => ?_
      reading := fun r' u us p hread => ?_ }
    · rw [(h.idle hdown).2] at hmem
      exact absurd hmem List.not_mem_nil
    · obtain ⟨m, uri, foreign⟩ := r
      cases m <;> cases foreign <;> cases hread

end Kept

/-! ### Which runs are safe -/

theorem kept_of_reachable (h : (system c).Reachable s) : Kept c s := by
  refine h.invariant ?_ fun _ _ _ hkept _ hs => hkept.step hs
  rintro _ rfl
  exact kept_boot c

theorem misread_manager {ok : Bool} (hs : manager c s ok = some s') : s'.misread = s.misread := by
  unfold manager at hs
  split at hs
  case h_4 =>
    obtain ⟨-, hs⟩ := Option.ite_none_right_eq_some.mp hs
    cases hs
    rfl
  all_goals
    cases hs
    first
      | rfl
      | split <;> rfl

/-- What was misread stays on record. -/
theorem misread_step {a : Act} (hs : step c s a = some s') : s.misread <+: s'.misread := by
  cases a with
  | manager ok => exact misread_manager hs ▸ List.prefix_refl _
  | request r =>
    obtain ⟨-, hs⟩ := Option.ite_none_right_eq_some.mp hs
    cases hs
    exact List.prefix_refl _
  | http =>
    have hs : http s = some s' := hs
    unfold http at hs
    split at hs
    · cases hs
    all_goals
      cases hs
      try split
      all_goals first
        | exact List.prefix_refl _
        | exact List.prefix_append _ _

/-- A step of a handler misreads a string exactly when it comes too late. -/
theorem timely_iff {a : Act} (h : Kept c s) (hsafe : s.misread = [])
    (hs : step c s a = some s') : Timely s a ↔ s'.misread = [] := by
  cases a with
  | request r =>
    obtain ⟨-, hs⟩ := Option.ite_none_right_eq_some.mp hs
    cases hs
    exact iff_of_true trivial hsafe
  | manager ok =>
    rw [misread_manager hs]
    exact iff_of_true trivial hsafe
  | http =>
    have hs : http s = some s' := hs
    unfold http at hs
    cases hhttp : s.http with
    | idle => simp [hhttp] at hs
    | load r u us =>
      simp only [hhttp, Option.some.injEq] at hs
      subst hs
      have hrun : s.http ≠ .idle := by simp [hhttp]
      simp only [Timely, hhttp]
      split
      · rename_i p hp
        refine iff_of_true (fun hnull => ?_) hsafe
        rw [h.null hnull] at hp
        cases hp
      · rename_i hnone
        refine iff_of_false (fun hnull => ?_) (by simp)
        exact h.ne_none hrun hnull hnone
    | read r u us p =>
      simp only [hhttp, Option.some.injEq] at hs
      subst hs
      have hrun : s.http ≠ .idle := by simp [hhttp]
      obtain ⟨hlive, hdead⟩ := h.reading r u us p hhttp
      simp only [Timely, hhttp]
      split
      · rename_i t ht
        refine iff_of_true (fun hfreed => ?_) hsafe
        cases ht.symm.trans (hdead hfreed)
      · rename_i hnone
        refine iff_of_false (fun hfreed => ?_) (by simp)
        obtain ⟨q, hq, hblock⟩ := h.holds hrun hfreed
        cases (hlive hfreed).symm.trans hq
        exact hnone _ hblock
    | answer =>
      simp only [hhttp, Option.some.injEq] at hs
      subst hs
      simpa only [Timely, hhttp, true_iff] using hsafe

/-- **The server is restarted safely in exactly the runs whose handlers come to their
strings in time.** -/
theorem safe_iff (c : Site) (s : State) :
    (system c).Reaches Timely s ↔ (system c).Reachable s ∧ Safe c s := by
  have hmisread : ∀ s, (system c).Reaches Timely s ↔
      (system c).Reachable s ∧ s.misread = [] := by
    intro s
    refine Lib.System.Reaches.iff_reachable_and (H := fun s : State => s.misread = []) ?_ ?_ ?_
    · rintro _ rfl
      rfl
    · intro s a s' hs hsafe
      exact List.prefix_nil.mp (hsafe ▸ misread_step hs)
    · intro s a s' hrun hsafe hs
      exact timely_iff (kept_of_reachable hrun.reachable) hsafe hs
  rw [hmisread]
  refine and_congr_right fun hrun => ⟨fun hsafe => ⟨hsafe, fun hpc => .inr ?_⟩, Safe.misread⟩
  have hstrings := (kept_of_reachable hrun).strings
  rw [hpc] at hstrings
  exact hstrings

/-- The manager has freed the first string when a handler comes to it. -/
theorem not_safe : ¬ ∀ c s, (system c).Reachable s → Safe c s := by
  intro h
  have hrun : ∃ s, (system ⟨['/'], "10.10.0.1".toList⟩).Reachable s ∧ s.misread = [.root] :=
    Lib.System.exists_of_execute
      (List.replicate 14 (.manager true) ++
        [.request ⟨.get, "/style.css".toList, false⟩, .manager true, .manager true, .manager true,
          .http])
      (s := boot) rfl (by decide +kernel)
  obtain ⟨s, hs, hmisread⟩ := hrun
  rw [(h _ s hs).misread] at hmisread
  cases hmisread

end Datk.Wifi.Server
