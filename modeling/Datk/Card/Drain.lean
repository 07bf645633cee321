import Datk.Card.Written

/-!
# Draining the card

The file branch of `wifi_connect_read_sd_card_task`, while nothing is appended: it reads
line after line, publishes each, and unlinks the file.  The file, `id` and `line` are then
what they were before the first record, so that writing and draining can go on in turns.

`exact_iff` says when the turns publish what was written.  Three things can go wrong.
`time_values` points into the buffer of `sd_card_read`, which has returned when
`mqtt_app_pub_json` reads the time; the payload may not fit `JSON[100]`; and the loop counts
in an `int`.
-/

namespace Datk.Card

open Lib Mqtt

/-- `mqtt_app_pub_json` of a record, with what `time` points to. -/
def publish (time : Text) (m : ModuleData) : Option Publish :=
  pubJson time m.bme680Values.temperature.fixed2 m.bme680Values.humidity.fixed2
    m.bme680Values.pressure.fixed2 m.bme680Values.gasResistance.fixed2 m.uvValues.fixed2

/-- The object that is published, if it fits. -/
def objectOf (time : Text) (m : ModuleData) : Text :=
  object time m.bme680Values.temperature.fixed2 m.bme680Values.humidity.fixed2
    m.bme680Values.pressure.fixed2 m.bme680Values.gasResistance.fixed2 m.uvValues.fixed2

section

variable (float : Number → Number) (stale : Nat → Text)

/-- The loop of the file branch before pass `j`, with the numbers of the lines and what is
published.  In pass `j` what `time_values` points to reads as `stale j`. -/
def drainLoop (file : Option Text) : Nat → Nat → BitVec 32 →
    Option (List (BitVec 32 × Publish))
  | 0, _, _ => some []
  | remaining + 1, j, line =>
    match sdCardRead float file line with
    | .error _ => none
    | .ok messagesSend => do
      let p ← publish (stale j) messagesSend
      -- The `int` overflows.
      if 2 ^ 31 ≤ j + 1 then none
      else
        let log ← drainLoop file remaining (j + 1) (line + 1)
        return (line, p) :: log

/-- One pass of the reader.  Without a file it turns to the queue, and the card is left as
it is. -/
def drain (c : State) : Option (List (BitVec 32 × Publish) × State) :=
  match c.file with
  | none => some ([], c)
  | some _ => do
    let log ← drainLoop float stale c.file c.id.toNat 0 c.line
    return (log, { file := none, id := 0, line := 2 })

end

/-! ### Turns -/

/-- The records of a turn, and what their `time_values` read as in the drain that follows. -/
structure Phase where
  records : List ModuleData
  stale : Nat → Text
  printable : ∀ m ∈ records, Printable m
  few : records.length + 2 < 2 ^ 32
  noNul : ∀ j, '\x00' ∉ stale j

section

variable (float : Number → Number)

/-- The records of each turn are written and drained; what is published. -/
def cycles (c : State) : List Phase → Option (List Publish × State)
  | [] => some ([], c)
  | p :: ps =>
    match writeAll c p.records with
    | .error _ => none
    | .ok c => do
      let (log, c) ← drain float p.stale c
      let (published, c) ← cycles c ps
      return (log.map Prod.snd ++ published, c)

/-- The time column of a line. -/
def timeField (m : ModuleData) : Text := (fields ',' (dataLine m)).getD 1 []

/-- The payload that is built from the line of a record. -/
def payload (m : ModuleData) : Text :=
  objectOf (timeField m) (decode float (fields ',' (dataLine m)))

/-- **A quiet drain is exact**: what is in the file, what is read and published, and that
the next record is written as the first was. -/
structure Quiet (p : Phase) (c : State) (log : List (BitVec 32 × Publish)) (c' : State) :
    Prop where
  write : writeAll fresh p.records = .ok c
  file : p.records ≠ [] → c.file = some (header ++ (p.records.map dataLine).flatten)
  id : c.id = .ofNat 32 p.records.length
  drain : drain float p.stale c = some (log, c')
  lines : log.map Prod.fst = (List.range' 0 p.records.length).map fun k => .ofNat 32 (k + 2)
  payloads : log.map (fun e => e.2.data) = p.records.map (payload float)
  fresh : c' = fresh
  next : ∀ m, ∃ c'', sdCardWrite .stored c' m = .ok c'' ∧ c''.file = some (header ++ dataLine m)

/-- Every drain is exact, and together they publish what was written. -/
structure Exact (phases : List Phase) : Prop where
  quiet : ∀ p ∈ phases, ∃ c log c', Quiet float p c log c'
  concatenation : ∃ published, cycles float fresh phases = some (published, fresh) ∧
    published.map Publish.data = (phases.flatMap Phase.records).map (payload float)

/-- The buffer still holds the line, the payloads fit, and the count does. -/
structure Fits (p : Phase) : Prop where
  few : p.records.length < 2 ^ 31
  stale : ∀ k m, p.records[k]? = some m → p.stale k = timeField m
  short : ∀ m ∈ p.records, (payload float m).length < 100

end

/-! ### A pass of the loop -/

theorem objectOf_inj {t t' : Text} {m : ModuleData} : objectOf t m = objectOf t' m ↔ t = t' := by
  constructor
  · intro h
    simpa [objectOf, object, Json.print, Json.printMembers, Json.printMember, Json.printString]
      using h
  · rintro rfl
    rfl

/-- A record of the sensors is published as `mqttAppPubJson` says. -/
theorem publish_ofRat (time : Text) (n : Int) (temp humidity pressure gas uv : ℚ) :
    publish time ⟨n, time, ⟨.ofRat temp, .ofRat pressure, .ofRat humidity, .ofRat gas⟩,
      .ofRat uv⟩ = mqttAppPubJson time temp humidity pressure gas uv := by
  simp only [publish, Number.fixed2_ofRat, mqttAppPubJson_eq_pubJson]

def message (data : Text) : Publish := ⟨"hieu45678vip/pub".toList, data, data.length, 1, 0⟩

theorem publish_eq {time : Text} (htime : '\x00' ∉ time) (m : ModuleData) :
    publish time m =
      if (objectOf time m).length < 100 then some (message (objectOf time m)) else none := by
  have hnumber : ∀ x : Number, '\x00' ∉ x.fixed2 := notMem_fixed2 (by decide) (by decide)
  apply pubJson_eq
  simp only [List.forall_mem_cons, List.not_mem_nil, false_implies, implies_true, and_true]
  exact ⟨htime, hnumber _, hnumber _, hnumber _, hnumber _, hnumber _⟩

variable {float : Number → Number} {stale : Nat → Text}

theorem drainLoop_succ {ms : List ModuleData} (hms : ∀ m ∈ ms, Printable m)
    (hlen : ms.length + 1 < 2 ^ 32) (hstale : ∀ j, '\x00' ∉ stale j) {j : Nat} {m : ModuleData}
    (hj : ms[j]? = some m) (remaining : Nat) :
    drainLoop float stale (some (written ms)) (remaining + 1) j (.ofNat 32 (j + 2)) =
      if (objectOf (stale j) (decode float (fields ',' (dataLine m)))).length < 100 ∧
          j + 1 < 2 ^ 31 then
        (drainLoop float stale (some (written ms)) remaining (j + 1) (.ofNat 32 (j + 1 + 2))).map
          ((.ofNat 32 (j + 2),
            message (objectOf (stale j) (decode float (fields ',' (dataLine m))))) :: ·)
      else none := by
  have hnext : BitVec.ofNat 32 (j + 2) + 1 = .ofNat 32 (j + 1 + 2) := by
    apply BitVec.eq_of_toNat_eq
    have hone : BitVec.toNat (1 : BitVec 32) = 1 := rfl
    simp only [BitVec.toNat_add, BitVec.toNat_ofNat, hone]
    omega
  rw [drainLoop, sdCardRead_written float hms hlen hj]
  simp only [publish_eq (hstale j), hnext]
  by_cases hfits : (objectOf (stale j) (decode float (fields ',' (dataLine m)))).length < 100
  · rw [if_pos hfits, Option.bind_eq_bind, Option.bind_some]
    by_cases hcount : j + 1 < 2 ^ 31
    · rw [if_neg (by omega), if_pos ⟨hfits, hcount⟩]
      cases drainLoop float stale (some (written ms)) remaining (j + 1) (.ofNat 32 (j + 1 + 2))
      · rfl
      · rfl
    · rw [if_pos (by omega), if_neg fun h => hcount h.2]
  · rw [if_neg hfits, if_neg fun h => hfits h.1]
    rfl

/-- **The loop is exact** exactly if each pass is. -/
theorem drainLoop_exact_iff (before rest : List ModuleData)
    (hms : ∀ m ∈ before ++ rest, Printable m) (hlen : (before ++ rest).length + 1 < 2 ^ 32)
    (hstale : ∀ j, '\x00' ∉ stale j) {j : Nat} (hj : before.length = j) :
    (∃ log, drainLoop float stale (some (written (before ++ rest))) rest.length j
        (.ofNat 32 (j + 2)) = some log ∧
      log.map Prod.fst = (List.range' j rest.length).map (fun k => .ofNat 32 (k + 2)) ∧
      log.map (fun e => e.2.data) = rest.map (payload float)) ↔
    ∀ i m, rest[i]? = some m →
      j + i + 1 < 2 ^ 31 ∧ stale (j + i) = timeField m ∧ (payload float m).length < 100 := by
  induction rest generalizing before j with
  | nil =>
    refine ⟨fun _ i m hi => ?_, fun _ => ⟨[], rfl, rfl, rfl⟩⟩
    cases hi
  | cons m rest ih =>
    have hm : (before ++ m :: rest)[j]? = some m := by
      rw [← hj, List.getElem?_append_right (Nat.le_refl _), Nat.sub_self]
      rfl
    have hsplit : before ++ m :: rest = (before ++ [m]) ++ rest := by simp
    have hlength : (before ++ [m]).length = j + 1 := by rw [List.length_append, hj]; rfl
    have hrest := ih (before ++ [m]) (hsplit ▸ hms) (hsplit ▸ hlen) hlength
    rw [← hsplit] at hrest
    have hshift : ∀ i, j + 1 + i = j + (i + 1) := by omega
    rw [List.length_cons, drainLoop_succ hms hlen hstale hm]
    constructor
    · rintro ⟨log, hlog, hlines, hpayloads⟩
      obtain ⟨⟨hfits, hcount⟩, hlog⟩ := Option.ite_none_right_eq_some.mp hlog
      obtain ⟨log, hloop, rfl⟩ := Option.map_eq_some_iff.mp hlog
      simp only [List.map_cons, List.range'_succ, List.cons.injEq] at hlines hpayloads
      have htime : stale j = timeField m := objectOf_inj.mp hpayloads.1
      intro i m' hi
      cases i with
      | zero =>
        cases hi
        exact ⟨hcount, htime, hpayloads.1 ▸ hfits⟩
      | succ i =>
        have h := hrest.mp ⟨log, hloop, hlines.2, hpayloads.2⟩ i m' hi
        rw [hshift] at h
        exact h
    · intro h
      obtain ⟨hcount, htime, hshort⟩ := h 0 m rfl
      have hpayload : objectOf (stale j) (decode float (fields ',' (dataLine m))) =
          payload float m := objectOf_inj.mpr htime
      obtain ⟨log, hloop, hlines, hpayloads⟩ := hrest.mpr fun i m' hi => by
        rw [hshift]
        exact h (i + 1) m' hi
      rw [hpayload, if_pos ⟨hshort, hcount⟩, hloop]
      refine ⟨_, rfl, ?_, ?_⟩
      · rw [List.map_cons, hlines, List.range'_succ, List.map_cons]
      · rw [List.map_cons, hpayloads, List.map_cons]
        rfl

/-! ### Turns -/

theorem drain_stored (p : Phase) :
    drain float p.stale (stored p.records) =
      (drainLoop float p.stale (some (written p.records)) p.records.length 0 2).map
        (·, fresh) := by
  by_cases hnil : p.records = []
  · rw [stored, if_pos hnil, hnil]
    rfl
  · have hlength : (BitVec.ofNat 32 p.records.length).toNat = p.records.length := by
      have hfew := p.few
      rw [BitVec.toNat_ofNat]
      exact Nat.mod_eq_of_lt (by omega)
    simp only [stored, if_neg hnil, drain, hlength]
    cases drainLoop float p.stale (some (written p.records)) p.records.length 0 2
    · rfl
    · rfl

/-- The passes are exact exactly if the turn fits. -/
theorem fits_iff (p : Phase) :
    Fits float p ↔ ∀ i m, p.records[i]? = some m →
      0 + i + 1 < 2 ^ 31 ∧ p.stale (0 + i) = timeField m ∧ (payload float m).length < 100 := by
  simp only [Nat.zero_add]
  constructor
  · intro h i m hi
    have hlt := (List.getElem?_eq_some_iff.mp hi).1
    exact ⟨by have := h.few; omega, h.stale i m hi, h.short m (List.mem_of_getElem? hi)⟩
  · intro h
    refine ⟨?_, fun k m hk => (h k m hk).2.1, fun m hm => ?_⟩
    · by_cases hnil : p.records = []
      · rw [hnil]
        decide
      · have hpos := List.length_pos_iff.mpr hnil
        have hlast := (h _ _ (List.getElem?_eq_getElem (Nat.sub_one_lt_of_lt hpos))).1
        omega
    · obtain ⟨k, hk⟩ := List.getElem?_of_mem hm
      exact (h k m hk).2.2

/-- **When a drain is exact.** -/
theorem quiet_iff (p : Phase) : (∃ c log c', Quiet float p c log c') ↔ Fits float p := by
  have hfew := p.few
  have hexact : _ ↔ Fits float p := (drainLoop_exact_iff (j := 0) [] p.records p.printable
    (by rw [List.nil_append]; omega) p.noNul rfl).trans (fits_iff p).symm
  have hwrite : writeAll fresh p.records = _ := writeAll_eq (by omega)
  rw [← hexact]
  constructor
  · rintro ⟨c, log, c', h⟩
    have hc : c = stored p.records := Except.ok.inj (h.write.symm.trans hwrite)
    have hdrain := h.drain
    rw [hc, drain_stored] at hdrain
    obtain ⟨log', hloop, heq⟩ := Option.map_eq_some_iff.mp hdrain
    cases heq
    exact ⟨log, hloop, h.lines, h.payloads⟩
  · rintro ⟨log, hloop, hlines, hpayloads⟩
    refine ⟨stored p.records, log, fresh, ⟨hwrite, ?_, ?_, ?_, hlines, hpayloads, rfl, ?_⟩⟩
    · intro hne
      rw [stored, if_neg hne]
      rfl
    · by_cases hnil : p.records = []
      · rw [stored, if_pos hnil, hnil]
        rfl
      · rw [stored, if_neg hnil]
    · rw [drain_stored]
      exact congrArg (Option.map (·, fresh)) hloop
    · exact fun m => ⟨_, rfl, rfl⟩

/-- **When the turns publish what was written.** -/
theorem exact_iff (float : Number → Number) (phases : List Phase) :
    Exact float phases ↔ ∀ p ∈ phases, Fits float p := by
  refine ⟨fun h p hp => quiet_iff p |>.mp (h.quiet p hp), fun h => ?_⟩
  have hquiet : ∀ p ∈ phases, ∃ c log c', Quiet float p c log c' := fun p hp =>
    (quiet_iff p).mpr (h p hp)
  refine ⟨hquiet, ?_⟩
  clear h
  induction phases with
  | nil => exact ⟨[], rfl, rfl⟩
  | cons p ps ih =>
    obtain ⟨⟨c, log, c', hp⟩, hps⟩ := List.forall_mem_cons.mp hquiet
    obtain ⟨published, hcycles, hpublished⟩ := ih hps
    refine ⟨log.map Prod.snd ++ published, ?_, ?_⟩
    · rw [cycles, hp.write]
      simp only [hp.drain, hp.fresh, hcycles, Option.bind_eq_bind, Option.bind_some]
      rfl
    · rw [List.map_append, List.map_map, hpublished, List.flatMap_cons, List.map_append,
        ← hp.payloads]
      rfl

/-- The same in the last seconds of a year. -/
def newYearsEve : ModuleData := { indoor with timeValues := "2024/12/31 23:59:59".toList }

/-- A turn of one record, while the buffer is left alone. -/
def oneRecord : Phase where
  records := [newYearsEve]
  stale := fun _ => timeField newYearsEve
  printable := List.forall_mem_singleton.mpr
    ⟨by decide, by decide, by decide +kernel⟩
  few := by decide
  noNul := fun _ => by decide +kernel

/-- Plausible readings overflow `JSON` on their way over the card, too. -/
theorem not_exact_newYearsEve : ¬ ∀ phases, Exact id phases := by
  intro h
  have hfits := (quiet_iff oneRecord).mp ((h [oneRecord]).quiet oneRecord List.mem_cons_self)
  exact absurd (hfits.short newYearsEve List.mem_cons_self) (by decide +kernel)

end Datk.Card
