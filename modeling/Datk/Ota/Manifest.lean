import Mathlib.Data.Rat.Defs
import Mathlib.Algebra.Order.Ring.Rat
import Datk.Basic
import Datk.Lib.Buffer
import Datk.Lib.System

/-!
# The manifest that decides on an update

`check_update_task` downloads a JSON text of the available firmware and parses
it.  The text goes through the global `rcv_buffer`: `_http_event_handler` copies
each chunk of the response to its start, without a terminator, and not at all if
the response is in chunked encoding.  What an earlier response left in the buffer
is still there.

`cJSON_Parse` and `esp_https_ota` are not part of the repository: the first is
the parameter `cJSONParse`, the second a result that comes with the response.
`trusted_of_fitting` proves that the decision is taken on the text just
downloaded, in all runs where each response fits the buffer as it then is.
-/

namespace Datk.Ota

open Lib

/-- `char rcv_buffer[200]`. -/
abbrev RcvBuffer := Buffer Byte 200

structure Manifest where
  /-- `valuedouble` of the member `version`, if that is a number. -/
  version : Option ℚ
  /-- `valuestring` of the member `file`, if that is a string. -/
  file : Option (List Byte)
  deriving DecidableEq

structure Update where
  version : ℚ
  file : List Byte
  deriving DecidableEq

/-- A run of `esp_http_client_perform`, and what follows on it. -/
structure Response where
  chunked : Bool
  /-- The data of the `HTTP_EVENT_ON_DATA` events. -/
  chunks : List (List Byte)
  nonempty : ∀ c ∈ chunks, c ≠ []
  ok : Bool
  /-- `esp_https_ota` returns `ESP_OK`, if it is called. -/
  otaOk : Bool
  /-- What `cJSON_Parse` makes of `rcv_buffer` if it reads past its end. -/
  wild : Option Manifest
  deriving DecidableEq

def Response.body (r : Response) : List Byte := r.chunks.flatten

/-- `FIRMWARE_VERSION`: the `double` that `0.1` is. -/
def firmwareVersion : ℚ := 3602879701896397 / 2 ^ 55

/-- `_http_event_handler` on `HTTP_EVENT_ON_DATA`; `none` if it stores outside of
`rcv_buffer`. -/
def httpEventHandler (chunked : Bool) (b : RcvBuffer) (data : List Byte) : Option RcvBuffer :=
  if chunked then some b else b.strncpy 0 data data.length

def perform (b : RcvBuffer) (r : Response) : Option RcvBuffer :=
  r.chunks.foldlM (httpEventHandler r.chunked) b

/-- The checks between `cJSON_Parse` and `esp_https_ota`. -/
def upgrade : Option Manifest → Option Update
  | none => none
  | some json =>
    match json.version with
    | none => none
    | some newVersion =>
      if newVersion > firmwareVersion then json.file.map fun file => ⟨newVersion, file⟩ else none

/-- An iteration in which `cJSON_Parse` was called. -/
structure Iteration where
  response : Response
  /-- What `rcv_buffer` read as, unless there was no terminator in it. -/
  text : Option (List Byte)
  update : Option Update
  deriving DecidableEq

structure State where
  /-- `none` once something was stored outside of it. -/
  rcvBuffer : Option RcvBuffer
  log : List Iteration
  deriving DecidableEq

def boot : State := ⟨some (.fill 200 0), []⟩

section

variable (cJSONParse : List Byte → Option Manifest)

/-- An iteration of `check_update_task`; `esp_restart` clears `rcv_buffer`. -/
def step (s : State) (r : Response) : Option State :=
  s.rcvBuffer.map fun b =>
    match perform b r with
    | none => { s with rcvBuffer := none }
    | some b =>
      if r.ok then
        let text := b.text 0
        let update := upgrade (match text with
          | some t => cJSONParse t
          | none => r.wild)
        { rcvBuffer := some (if update.isSome && r.otaOk then .fill 200 0 else b)
          log := s.log ++ [⟨r, text, update⟩] }
      else { s with rcvBuffer := some b }

def system : System State Response where
  Init s := s = boot
  step := step cJSONParse

/-- **The decision is taken on the manifest just downloaded.** -/
structure Trusted (s : State) : Prop where
  inside : s.rcvBuffer ≠ none
  /-- What is parsed is the body of the same iteration, -/
  text : ∀ i ∈ s.log, i.text = some i.response.body
  /-- and so is what the update is started with. -/
  update : ∀ i ∈ s.log, i.update = upgrade (cJSONParse i.response.body)

/-- The response fits the buffer: no chunk is longer than it, and a body that is
going to be parsed comes plain and in one chunk, without a zero byte, and up to a
zero byte that the buffer already has. -/
def Fits (b : RcvBuffer) (r : Response) : Prop :=
  (r.chunked = false → ∀ c ∈ r.chunks, c.length ≤ 200) ∧
  (r.ok = true → r.chunks.length ≤ 1 ∧ (r.chunked = true → r.chunks = []) ∧ 0 ∉ r.body ∧
    b.cells[r.body.length]? = some 0)

instance (b : RcvBuffer) (r : Response) : Decidable (Fits b r) :=
  inferInstanceAs (Decidable (_ ∧ _))

def Fitting (s : State) (r : Response) : Prop :=
  match s.rcvBuffer with
  | none => True
  | some b => Fits b r

instance (s : State) (r : Response) : Decidable (Fitting s r) :=
  match h : s.rcvBuffer with
  | none => .isTrue (by rw [Fitting, h]; trivial)
  | some b => decidable_of_iff (Fits b r) (by rw [Fitting, h])

variable {cJSONParse}

theorem exists_foldlM {α β : Type*} {f : β → α → Option β} {l : List α}
    (h : ∀ a ∈ l, ∀ b, ∃ b', f b a = some b') (b : β) : ∃ b', l.foldlM f b = some b' := by
  induction l generalizing b with
  | nil => exact ⟨b, rfl⟩
  | cons a l ih =>
    obtain ⟨b', hb'⟩ := h a List.mem_cons_self b
    rw [List.foldlM_cons, hb']
    exact ih (fun x hx => h x (List.mem_cons_of_mem _ hx)) b'

theorem perform_inside {b : RcvBuffer} {r : Response}
    (h : r.chunked = false → ∀ c ∈ r.chunks, c.length ≤ 200) :
    ∃ b', perform b r = some b' := by
  refine exists_foldlM (fun c hc b => ?_) b
  by_cases hr : r.chunked = true
  · exact ⟨b, by rw [httpEventHandler, if_pos hr]⟩
  · rw [httpEventHandler, if_neg hr]
    exact Buffer.strncpy_of_le (h (by simpa using hr) c hc)

theorem text_perform {b b' : RcvBuffer} {r : Response} (h : Fits b r) (hok : r.ok = true)
    (hb' : perform b r = some b') : b'.text 0 = some r.body := by
  obtain ⟨hone, hplain, hzero, hend⟩ := h.2 hok
  rw [perform] at hb'
  rw [Response.body] at hzero hend ⊢
  cases hc : r.chunks with
  | nil =>
    rw [hc] at hb' hend
    cases hb'
    have hhead : ∃ rest, b.cells = 0 :: rest := by
      cases hcells : b.cells with
      | nil => simp [hcells] at hend
      | cons x rest =>
        simp only [hcells, List.flatten_nil, List.length_nil, List.getElem?_cons_zero,
          Option.some.injEq] at hend
        exact ⟨rest, by rw [hend]⟩
    exact Buffer.text_eq_some_iff.mpr ⟨List.not_mem_nil, hhead⟩
  | cons c cs =>
    have hcs : cs = [] := by
      rw [hc, List.length_cons] at hone
      exact List.length_eq_zero_iff.mp (by omega)
    have hr : r.chunked = false := by
      by_contra hr
      rw [hplain (by simpa using hr)] at hc
      exact nomatch hc
    subst hcs
    rw [hc, List.flatten_cons, List.flatten_nil, List.append_nil] at hzero hend
    obtain ⟨b₁, hb₁, ht₁⟩ := Buffer.text_strncpy hzero hend
    rw [hc, hr, List.foldlM_cons, httpEventHandler, if_neg (by decide), hb₁] at hb'
    cases hb'
    simpa using ht₁

theorem trusted_boot : Trusted cJSONParse boot where
  inside := Option.some_ne_none _
  text := fun _ hi => absurd hi List.not_mem_nil
  update := fun _ hi => absurd hi List.not_mem_nil

theorem Trusted.step {s s' : State} {r : Response} (h : Trusted cJSONParse s)
    (hok : Fitting s r) (hs : step cJSONParse s r = some s') : Trusted cJSONParse s' := by
  obtain ⟨b, hb, rfl⟩ := Option.map_eq_some_iff.mp hs
  rw [Fitting, hb] at hok
  obtain ⟨b', hb'⟩ := perform_inside (b := b) hok.1
  rw [hb']
  by_cases hr : r.ok = true
  · have htext := text_perform hok hr hb'
    simp only [hr, if_true, htext]
    exact ⟨Option.some_ne_none _, Lib.forall_mem_concat h.text rfl,
      Lib.forall_mem_concat h.update rfl⟩
  · simp only [hr]
    exact { h with inside := Option.some_ne_none _ }

/-- **The decision is taken on the manifest just downloaded**, in all runs where
each response fits the buffer as the earlier ones left it. -/
theorem trusted_of_fitting {s : State} (h : (system cJSONParse).Reaches Fitting s) :
    Trusted cJSONParse s :=
  h.invariant (fun _ h0 => h0 ▸ trusted_boot) fun _ _ _ ht hok hs => ht.step hok hs

end

/-! ### Responses -/

def manifest : List Byte := bytes "\x7b\"version\":1,\"file\":\"https://a/b\"\x7d"

def parseManifest (t : List Byte) : Option Manifest :=
  if t = manifest then some ⟨some 1, some (bytes "https://a/b")⟩ else none

/-- The manifest is downloaded, and the update fails. -/
def download : Response where
  chunked := false
  chunks := [manifest]
  nonempty := by decide
  ok := true
  otaOk := false
  wild := none

def chunkedResponse : Response :=
  { download with chunked := true, chunks := [bytes "\x7b\x7d"], nonempty := by decide }

def longResponse : Response :=
  { download with chunks := [List.replicate 201 32], nonempty := by decide }

theorem trusted_after_download :
    ∃ s, (system parseManifest).Reaches Fitting s ∧
      s.log.map Iteration.update = List.replicate 2 (some ⟨1, bytes "https://a/b"⟩) ∧
      Trusted parseManifest s := by
  have hrun : ∃ s, (system parseManifest).Reaches Fitting s ∧
      s.log.map Iteration.update = List.replicate 2 (some ⟨1, bytes "https://a/b"⟩) :=
    System.exists_of_execute [download, download] rfl (by decide +kernel)
  obtain ⟨s, hs, hlog⟩ := hrun
  exact ⟨s, hs, hlog, trusted_of_fitting hs⟩

/-- A long response is stored past the end of `rcv_buffer`; one in chunked
encoding leaves the earlier manifest there, which is parsed again and starts an
update. -/
theorem not_trusted :
    (¬ ∀ s, (system parseManifest).Reachable s → s.rcvBuffer ≠ none) ∧
    (¬ ∀ s, (system parseManifest).Reachable s → ∀ i ∈ s.log, i.text = some i.response.body) ∧
    (¬ ∀ s, (system parseManifest).Reachable s → ∀ i ∈ s.log,
      i.update = upgrade (parseManifest i.response.body)) := by
  refine ⟨fun h => ?_, fun h => ?_, fun h => ?_⟩
  · have hrun : ∃ s, (system parseManifest).Reachable s ∧ s.rcvBuffer = none :=
      System.exists_of_execute [longResponse] rfl (by decide +kernel)
    obtain ⟨s, hs, hnone⟩ := hrun
    exact h s hs hnone
  · have hrun : ∃ s, (system parseManifest).Reachable s ∧
        ⟨chunkedResponse, some manifest, some ⟨1, bytes "https://a/b"⟩⟩ ∈ s.log :=
      System.exists_of_execute [download, chunkedResponse] rfl (by decide +kernel)
    obtain ⟨s, hs, hi⟩ := hrun
    exact absurd (h s hs _ hi) (by decide +kernel)
  · have hrun : ∃ s, (system parseManifest).Reachable s ∧
        ⟨chunkedResponse, some manifest, some ⟨1, bytes "https://a/b"⟩⟩ ∈ s.log :=
      System.exists_of_execute [download, chunkedResponse] rfl (by decide +kernel)
    obtain ⟨s, hs, hi⟩ := hrun
    exact absurd (h s hs _ hi) (by decide +kernel)

end Datk.Ota
