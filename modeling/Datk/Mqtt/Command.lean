import Datk.Basic
import Datk.Lib.Buffer
import Datk.Lib.System

/-!
# Remote commands

`mqtt_handler` is called by the MQTT client with a pointer into its receive
buffer, and queues the pointer and the length.  `mqtt_handler_task` copies the
bytes later, to an array of `data_len + 1` bytes on its stack, and parses them.

The client may have stored other bytes in its buffer by then, byte by byte
against the copying loop of `strncpy`; the queue drops a sixth message; the copy
has a terminator only if the last byte of the array happened to be zero.
`exact_of_timely` proves that the commands are executed as sent in all runs where
none of this happens.

`cJSON_Parse` is not part of the repository and is the parameter `cJSONParse`.
-/

namespace Datk.Mqtt

open Lib

/-- `xMessageMQTT`, with `data_mqtt` an offset into the receive buffer. -/
structure XMessageMQTT where
  dataMqtt : Nat
  dataLen : Nat
  deriving DecidableEq, Repr

/-- The members of a command that `mqtt_handler_task` looks at, where they are
strings. -/
structure Command where
  ota : Option (List Byte)
  rem : Option (List Byte)
  deriving DecidableEq, Repr

inductive Effect
  | checkUpdate
  | setLevel (on : Bool)
  deriving DecidableEq, Repr

/-- The effects of a parsed text; `0x31` is the character `1`. -/
def effectsOf : Option Command → List Effect
  | none => []
  | some json =>
    (match json.ota with
      | none => []
      | some state => if 0x31 ∈ state then [.checkUpdate] else []) ++
    (match json.rem with
      | none => []
      | some state => [.setLevel (decide (0x31 ∈ state))])

/-- The next statement of `mqtt_handler_task`. -/
inductive TaskPc
  | receive
  /-- In `strncpy`, with `done` stored in `string_json`. -/
  | copy (m : XMessageMQTT) (done : List Byte)
  deriving DecidableEq, Repr

/-- The client's receive buffer of `n` bytes, the queue and the task, and the
history of the run. -/
structure State (n : Nat) where
  rx : Buffer Byte n
  xQueueMQTT : List XMessageMQTT
  pc : TaskPc
  events : List (List Byte)
  /-- The texts given to `cJSON_Parse`; `none` where `strcat` finds no terminator
  in `string_json`. -/
  parsed : List (Option (List Byte))
  effects : List Effect
  deriving DecidableEq

def boot {n : Nat} (rx : Buffer Byte n) : State n := ⟨rx, [], .receive, [], [], []⟩

inductive Act
  /-- `MQTT_EVENT_DATA` with `payload` at `data` in the receive buffer. -/
  | event (data : Nat) (payload : List Byte)
  /-- The client stores other bytes in its receive buffer. -/
  | reuse (data : Nat) (bs : List Byte)
  /-- A step of `mqtt_handler_task`; `junk` is the last byte of `string_json`. -/
  | task (junk : Byte)
  deriving DecidableEq

def State.next {n : Nat} (s : State n) (m : XMessageMQTT) (done : List Byte) : Byte :=
  if 0 ∈ done then 0 else s.rx.cells.getD (m.dataMqtt + done.length) 0

/-- `strcat(string_json, "\0")` and what `string_json` reads as then. -/
def stringJson (done : List Byte) (junk : Byte) : Option (List Byte) :=
  let string_json : Buffer Byte (done.length + 1) := ⟨done ++ [junk], List.length_append⟩
  (string_json.strcat 0 []).bind fun b => b.text 0

section

variable (cJSONParse : List Byte → Option Command) {n : Nat}

/-- A step of `mqtt_handler_task`, `main/app_main.c`. -/
def mqttHandlerTask (s : State n) (junk : Byte) : Option (State n) :=
  match s.pc with
  | .receive =>
    match s.xQueueMQTT with
    | [] => none
    | m :: rest => some { s with pc := .copy m [], xQueueMQTT := rest }
  | .copy m done =>
    if done.length < m.dataLen then some { s with pc := .copy m (done ++ [s.next m done]) }
    else
      let text := stringJson done junk
      some { s with
        pc := .receive
        parsed := s.parsed ++ [text]
        effects := s.effects ++ (match text with
          | some t => effectsOf (cJSONParse t)
          | none => []) }

def step (s : State n) : Act → Option (State n)
  | .event data payload =>
    (s.rx.write data payload).map fun rx =>
      { s with
        rx := rx
        xQueueMQTT := if s.xQueueMQTT.length < 5 then s.xQueueMQTT ++ [⟨data, payload.length⟩]
          else s.xQueueMQTT
        events := s.events ++ [payload] }
  | .reuse data bs => (s.rx.write data bs).map fun rx => { s with rx := rx }
  | .task junk => mqttHandlerTask cJSONParse s junk

def system (n : Nat) : System (State n) Act where
  Init s := ∃ rx, s = boot rx
  step := step cJSONParse

end

/-! ### Commands as sent -/

section

variable {n : Nat}

/-- The messages received from the client and not yet parsed. -/
def State.pending (s : State n) : Nat :=
  s.xQueueMQTT.length + (match s.pc with
    | .receive => 0
    | .copy _ _ => 1)

/-- **Commands are executed as sent.** -/
structure Exact (cJSONParse : List Byte → Option Command) (s : State n) : Prop where
  inside : none ∉ s.parsed
  /-- The `i`-th text is the payload of the `i`-th event. -/
  texts : ∀ (i : Nat) (t : List Byte), s.parsed[i]? = some (some t) → s.events[i]? = some t
  lossless : s.parsed.length + s.pending = s.events.length
  effects : s.effects =
    (s.events.take s.parsed.length).flatMap fun payload => effectsOf (cJSONParse payload)

/-- The bytes of a message, as they are in the receive buffer now. -/
def bytesAt (rx : Buffer Byte n) (m : XMessageMQTT) : List Byte :=
  (rx.cells.drop m.dataMqtt).take m.dataLen

def State.unread (s : State n) : List XMessageMQTT :=
  (match s.pc with
    | .receive => []
    | .copy m done => [⟨m.dataMqtt + done.length, m.dataLen - done.length⟩]) ++ s.xQueueMQTT

/-- No byte that is still to be copied changes. -/
def Untouched (s : State n) (data : Nat) (bs : List Byte) : Prop :=
  match s.rx.write data bs with
  | none => True
  | some rx => ∀ m ∈ s.unread, bytesAt rx m = bytesAt s.rx m

instance (s : State n) (data : Nat) (bs : List Byte) : Decidable (Untouched s data bs) :=
  match h : s.rx.write data bs with
  | none => .isTrue (by rw [Untouched, h]; trivial)
  | some rx =>
    decidable_of_iff (∀ m ∈ s.unread, bytesAt rx m = bytesAt s.rx m) (by rw [Untouched, h])

/-- Each payload is free of zero bytes, finds room in the queue and is copied
before its bytes change, and the last byte of the array it is copied to is zero. -/
def Timely (s : State n) : Act → Prop
  | .event data payload => s.xQueueMQTT.length < 5 ∧ 0 ∉ payload ∧ Untouched s data payload
  | .reuse data bs => Untouched s data bs
  | .task junk => junk = 0

instance (s : State n) : ∀ a, Decidable (Timely s a)
  | .event _ _ => inferInstanceAs (Decidable (_ ∧ _ ∧ _))
  | .reuse _ _ => inferInstanceAs (Decidable (Untouched _ _ _))
  | .task _ => inferInstanceAs (Decidable (_ = _))

/-- The payloads on their way, as they will be parsed if nothing changes. -/
def State.payloads (s : State n) : List (List Byte) :=
  (match s.pc with
    | .receive => []
    | .copy m done =>
      [done ++ bytesAt s.rx ⟨m.dataMqtt + done.length, m.dataLen - done.length⟩]) ++
    s.xQueueMQTT.map (bytesAt s.rx)

/-- Every event is parsed, or on its way with its own bytes. -/
structure Intact (cJSONParse : List Byte → Option Command) (s : State n) : Prop where
  account : s.events.map some = s.parsed ++ s.payloads.map some
  nonzero : ∀ payload ∈ s.events, 0 ∉ payload
  bounds : ∀ m ∈ s.unread, m.dataMqtt + m.dataLen ≤ n
  effects : s.effects =
    (s.events.take s.parsed.length).flatMap fun payload => effectsOf (cJSONParse payload)

variable {cJSONParse : List Byte → Option Command}

theorem intact_boot (rx : Buffer Byte n) : Intact cJSONParse (boot rx) where
  account := rfl
  nonzero := nofun
  bounds := nofun
  effects := rfl

/-- The payloads on their way do not see a change elsewhere in the buffer. -/
theorem payloads_congr {s : State n} {rx : Buffer Byte n}
    (h : ∀ m ∈ s.unread, bytesAt rx m = bytesAt s.rx m) :
    State.payloads { s with rx := rx } = s.payloads := by
  have hqueue : s.xQueueMQTT.map (bytesAt rx) = s.xQueueMQTT.map (bytesAt s.rx) :=
    List.map_congr_left fun m hm => h m (List.mem_append_right _ hm)
  cases hpc : s.pc with
  | receive => simp only [State.payloads, hpc, hqueue]
  | copy m done =>
    have hfirst := h ⟨m.dataMqtt + done.length, m.dataLen - done.length⟩
      (List.mem_append_left _ (by rw [hpc]; exact List.mem_cons_self))
    simp only [State.payloads, hpc, hqueue, hfirst]

theorem Intact.reuse {s : State n} (h : Intact cJSONParse s) {data : Nat} {bs : List Byte}
    {rx : Buffer Byte n} (hrx : s.rx.write data bs = some rx) (hok : Untouched s data bs) :
    Intact cJSONParse { s with rx := rx } := by
  rw [Untouched, hrx] at hok
  exact { h with account := by rw [payloads_congr hok]; exact h.account }

theorem bytesAt_write {b rx : Buffer Byte n} {data : Nat} {bs : List Byte}
    (hrx : b.write data bs = some rx) :
    data + bs.length ≤ n ∧ bytesAt rx ⟨data, bs.length⟩ = bs := by
  by_cases hle : data + bs.length ≤ n
  · obtain ⟨rx', hrx', hcells⟩ := Buffer.write_of_le b hle
    rw [hrx] at hrx'
    cases hrx'
    have htake : (b.cells.take data).length = data := by
      rw [List.length_take, b.size]
      omega
    refine ⟨hle, ?_⟩
    rw [bytesAt, hcells, List.append_assoc, List.drop_left' htake, List.take_left]
  · rw [Buffer.write_of_lt (by omega)] at hrx
    exact nomatch hrx

theorem Intact.event {s : State n} (h : Intact cJSONParse s) {data : Nat} {payload : List Byte}
    {rx : Buffer Byte n} (hrx : s.rx.write data payload = some rx) (hzero : 0 ∉ payload)
    (hok : Untouched s data payload) :
    Intact cJSONParse { s with
      rx := rx
      xQueueMQTT := s.xQueueMQTT ++ [⟨data, payload.length⟩]
      events := s.events ++ [payload] } := by
  obtain ⟨hle, hbytes⟩ := bytesAt_write hrx
  rw [Untouched, hrx] at hok
  have hparsed : s.parsed.length ≤ s.events.length := by
    have := congrArg List.length h.account
    rw [List.length_map, List.length_append] at this
    omega
  have hpay : State.payloads { s with
      rx := rx
      xQueueMQTT := s.xQueueMQTT ++ [⟨data, payload.length⟩]
      events := s.events ++ [payload] } = s.payloads ++ [payload] := by
    rw [← payloads_congr hok]
    simp only [State.payloads, List.map_append, List.map_cons, List.map_nil, hbytes,
      List.append_assoc]
  refine ⟨?_, Lib.forall_mem_concat h.nonzero hzero, ?_, ?_⟩
  · rw [hpay, List.map_append, List.map_append, h.account, List.append_assoc]
  · simp only [State.unread, ← List.append_assoc]
    exact Lib.forall_mem_concat h.bounds hle
  · simp only
    rw [List.take_append_of_le_length hparsed]
    exact h.effects

/-! ### The task -/

theorem bytesAt_cons {rx : Buffer Byte n} {a k : Nat} (h : a + (k + 1) ≤ n) :
    bytesAt rx ⟨a, k + 1⟩ = rx.cells.getD a 0 :: bytesAt rx ⟨a + 1, k⟩ := by
  have hlt : a < rx.cells.length := by
    rw [rx.size]
    omega
  simp only [bytesAt]
  rw [List.drop_eq_getElem_cons hlt, List.take_succ_cons, List.getD_eq_getElem?_getD,
    List.getElem?_eq_getElem hlt, Option.getD_some]

theorem stringJson_zero {done : List Byte} (h : 0 ∉ done) : stringJson done 0 = some done := by
  have htext : (⟨done ++ [0], List.length_append⟩ : Buffer Byte (done.length + 1)).text 0 =
      some done :=
    Buffer.text_eq_some_iff.mpr ⟨h, [], rfl⟩
  obtain ⟨b, hb, ht⟩ := Buffer.text_strcat htext List.not_mem_nil (s := []) (by simp)
  simp only [stringJson]
  rw [hb, Option.bind_some, ht, List.append_nil]

theorem Intact.receive {s : State n} (h : Intact cJSONParse s) {m : XMessageMQTT}
    {rest : List XMessageMQTT} (hpc : s.pc = .receive) (hq : s.xQueueMQTT = m :: rest) :
    Intact cJSONParse { s with pc := .copy m [], xQueueMQTT := rest } := by
  refine { h with account := ?_, bounds := fun x hx => h.bounds x ?_ }
  · rw [h.account]
    simp only [State.payloads, hpc, hq]
    rfl
  · simp only [State.unread, hpc, hq]
    exact hx

/-- What is copied is the start of a payload, so it has no zero byte. -/
theorem Intact.done_nonzero {s : State n} (h : Intact cJSONParse s) {m : XMessageMQTT}
    {done : List Byte} (hpc : s.pc = .copy m done) : 0 ∉ done := by
  intro hzero
  have hmem : some (done ++ bytesAt s.rx ⟨m.dataMqtt + done.length, m.dataLen - done.length⟩) ∈
      s.events.map some := by
    rw [h.account]
    simp only [State.payloads, hpc]
    exact List.mem_append_right _ (List.mem_map_of_mem List.mem_cons_self)
  obtain ⟨payload, hp, heq⟩ := List.mem_map.mp hmem
  rw [Option.some.injEq] at heq
  exact h.nonzero payload hp (by rw [heq]; exact List.mem_append_left _ hzero)

theorem Intact.copy {s : State n} (h : Intact cJSONParse s) {m : XMessageMQTT}
    {done : List Byte} (hpc : s.pc = .copy m done) (hlt : done.length < m.dataLen) :
    Intact cJSONParse { s with pc := .copy m (done ++ [s.next m done]) } := by
  have hbound := h.bounds ⟨m.dataMqtt + done.length, m.dataLen - done.length⟩
    (List.mem_append_left _ (by rw [hpc]; exact List.mem_cons_self))
  have hlen : m.dataLen - done.length = m.dataLen - (done.length + 1) + 1 := by omega
  have hnext : s.next m done = s.rx.cells.getD (m.dataMqtt + done.length) 0 :=
    if_neg (h.done_nonzero hpc)
  refine { h with account := ?_, bounds := fun x hx => ?_ }
  · rw [h.account]
    simp only [State.payloads, hpc, List.length_append, List.length_singleton]
    rw [hlen, bytesAt_cons (by simp only at hbound; omega), hnext]
    simp [Nat.add_assoc]
  · simp only [State.unread, List.length_append, List.length_singleton] at hx
    rcases List.mem_append.mp hx with hx | hx
    · rw [List.mem_singleton] at hx
      rw [hx]
      simp only at hbound ⊢
      omega
    · exact h.bounds x (List.mem_append_right _ hx)

/-- The copy is complete: it is the payload of the next event. -/
theorem Intact.parse {s : State n} (h : Intact cJSONParse s) {m : XMessageMQTT}
    {done : List Byte} (hpc : s.pc = .copy m done) (hge : ¬ done.length < m.dataLen) :
    Intact cJSONParse { s with
      pc := .receive
      parsed := s.parsed ++ [some done]
      effects := s.effects ++ effectsOf (cJSONParse done) } := by
  have hlen : m.dataLen - done.length = 0 := by omega
  have haccount : s.events.map some =
      s.parsed ++ some done :: (s.xQueueMQTT.map (bytesAt s.rx)).map some := by
    rw [h.account]
    simp only [State.payloads, hpc, hlen]
    simp [bytesAt]
  have hnext : s.events[s.parsed.length]? = some done := by
    have hget : (s.events.map some)[s.parsed.length]? = some (some done) := by
      rw [haccount, List.getElem?_append_right (Nat.le_refl _), Nat.sub_self,
        List.getElem?_cons_zero]
    rw [List.getElem?_map] at hget
    simpa using hget
  refine { h with account := ?_, bounds := fun x hx => ?_, effects := ?_ }
  · rw [haccount]
    simp [State.payloads]
  · exact h.bounds x (List.mem_append_right _ (by simpa [State.unread] using hx))
  · simp only [List.length_append, List.length_singleton]
    rw [List.take_add_one, hnext, List.flatMap_append, ← h.effects]
    simp

theorem Intact.step {s s' : State n} {a : Act} (h : Intact cJSONParse s) (hok : Timely s a)
    (hs : step cJSONParse s a = some s') : Intact cJSONParse s' := by
  cases a with
  | event data payload =>
    obtain ⟨hroom, hzero, hok⟩ := hok
    obtain ⟨rx, hrx, rfl⟩ := Option.map_eq_some_iff.mp hs
    rw [if_pos hroom]
    exact h.event hrx hzero hok
  | reuse data bs =>
    obtain ⟨rx, hrx, rfl⟩ := Option.map_eq_some_iff.mp hs
    exact h.reuse hrx hok
  | task junk =>
    have hjunk : junk = 0 := hok
    subst hjunk
    simp only [Mqtt.step, mqttHandlerTask] at hs
    cases hpc : s.pc with
    | receive =>
      cases hq : s.xQueueMQTT with
      | nil => simp [hpc, hq] at hs
      | cons m rest =>
        simp only [hpc, hq, Option.some.injEq] at hs
        exact hs ▸ h.receive hpc hq
    | copy m done =>
      simp only [hpc] at hs
      split at hs
      · rename_i hlt
        rw [Option.some.injEq] at hs
        exact hs ▸ h.copy hpc hlt
      · rename_i hge
        rw [stringJson_zero (h.done_nonzero hpc), Option.some.injEq] at hs
        exact hs ▸ h.parse hpc hge

theorem Intact.exact {s : State n} (h : Intact cJSONParse s) : Exact cJSONParse s where
  inside := by
    intro hnone
    have hmem : none ∈ s.events.map some := by
      rw [h.account]
      exact List.mem_append_left _ hnone
    simp at hmem
  texts := by
    intro i t hi
    have hget : (s.events.map some)[i]? = some (some t) := by
      rw [h.account, List.getElem?_append_left (List.getElem?_eq_some_iff.mp hi).1, hi]
    rw [List.getElem?_map] at hget
    simpa using hget
  lossless := by
    have hlen := congrArg List.length h.account
    rw [List.length_map, List.length_append, List.length_map] at hlen
    have hpay : s.payloads.length = s.pending := by
      cases hpc : s.pc <;> simp [State.payloads, State.pending, hpc]
    omega
  effects := h.effects

/-- **Commands are executed as sent**, in all runs where each payload is copied in
time, to an array whose last byte is zero. -/
theorem exact_of_timely {s : State n} (h : (system cJSONParse n).Reaches Timely s) :
    Exact cJSONParse s := by
  refine (h.invariant ?_ fun _ _ _ hi hok hs => hi.step hok hs : Intact cJSONParse s).exact
  rintro _ ⟨rx, rfl⟩
  exact intact_boot rx

end

def switchOn : List Byte := bytes "\x7b\"Rem\":\"1\"\x7d"

def parseSwitchOn (t : List Byte) : Option Command :=
  if t = switchOn then some ⟨none, some (bytes "1")⟩ else none

def emptyRx : Buffer Byte 16 := .fill 16 0

theorem exact_after_switchOn :
    ∃ s, (system parseSwitchOn 16).Reaches Timely s ∧ s.effects = [.setLevel true] ∧
      Exact parseSwitchOn s := by
  have hrun : ∃ s, (system parseSwitchOn 16).Reaches Timely s ∧ s.effects = [.setLevel true] :=
    System.exists_of_execute (.event 2 switchOn :: List.replicate 13 (.task 0))
      ⟨emptyRx, rfl⟩ (by decide +kernel)
  obtain ⟨s, hs, heff⟩ := hrun
  exact ⟨s, hs, heff, exact_of_timely hs⟩

/-- A second message overwrites the first one, a sixth one is dropped, and with a
nonzero byte at its end `string_json` has no terminator. -/
theorem not_exact :
    (¬ ∀ s, (system parseSwitchOn 16).Reachable s → ∀ (i : Nat) (t : List Byte),
      s.parsed[i]? = some (some t) → s.events[i]? = some t) ∧
    (¬ ∀ s, (system parseSwitchOn 16).Reachable s →
      s.parsed.length + s.pending = s.events.length) ∧
    (¬ ∀ s, (system parseSwitchOn 16).Reachable s → none ∉ s.parsed) := by
  refine ⟨fun h => ?_, fun h => ?_, fun h => ?_⟩
  · have hrun : ∃ s, (system parseSwitchOn 16).Reachable s ∧
        s.parsed[0]? = some (some [2]) ∧ s.events[0]? = some [1] :=
      System.exists_of_execute [.event 0 [1], .event 0 [2], .task 0, .task 0, .task 0]
        ⟨emptyRx, rfl⟩ (by decide +kernel)
    obtain ⟨s, hs, hp, he⟩ := hrun
    have := h s hs 0 [2] hp
    simp [he] at this
  · have hrun : ∃ s, (system parseSwitchOn 16).Reachable s ∧
        s.parsed.length = 0 ∧ s.pending = 5 ∧ s.events.length = 6 :=
      System.exists_of_execute (List.replicate 6 (.event 0 [1])) ⟨emptyRx, rfl⟩
        (by decide +kernel)
    obtain ⟨s, hs, hp, hq, he⟩ := hrun
    have := h s hs
    omega
  · have hrun : ∃ s, (system parseSwitchOn 16).Reachable s ∧ none ∈ s.parsed :=
      System.exists_of_execute [.event 0 [1], .task 0, .task 0, .task 1] ⟨emptyRx, rfl⟩
        (by decide +kernel)
    obtain ⟨s, hs, hnone⟩ := hrun
    exact h s hs hnone

end Datk.Mqtt
