import Datk.Lib.Buffer
import Datk.Lib.Decimal
import Datk.Lib.Json
import Datk.Rtc.Registers
import Datk.Sensor.Values

/-!
# The telemetry payload

`mqtt_app_pub_json` prints a record into `JSON[100]`, field by field.  The names
and the punctuation are 51 characters and the terminator is one, which leaves 48
for the time and the five values.  `wellFormed_iff` says that this is the exact
condition: a record within it is published as the JSON object it is meant to be,
any other writes past the end of an array.  Readings that are wide at the same
time do not fit, `not_wellFormed`.

The numbers are those that `bme680_get_results_float` and `ml851_uv_intensity`
return.  None of them is a negative zero.
-/

namespace Datk.Mqtt

open Lib Rtc Sensor

/-! ### The time text -/

/-- `%d/%d/%d %d:%d:%d` in `DS1302_getClock`. -/
def timeStr (d : DateTime) : Text :=
  decimal d.year.toNat ++ '/' :: decimal d.month.toNat ++ '/' :: decimal d.dayMonth.toNat ++
    ' ' :: decimal d.hour.toNat ++ ':' :: decimal d.minute.toNat ++ ':' :: decimal d.second.toNat

/-- `strtok(s, ",")`: the token and what is left after it. -/
def strtok (s : Text) : Option (Text × Text) :=
  match s.dropWhile (· = ',') with
  | [] => none
  | token => some (token.takeWhile (· ≠ ','), (token.dropWhile (· ≠ ',')).drop 1)

/-- The line that `sd_card_write` prints, up to the time and the comma after it. -/
def sdCardLine (id : Int) (timeValues rest : Text) : Text :=
  (if id < 0 then ['-'] else []) ++ decimal id.natAbs ++ ", ".toList ++ timeValues ++ ',' :: rest

/-- The `time_values` of `sd_card_read`: the second token of the line. -/
def sdCardReadTime (line : Text) : Option Text := do
  let (_, rest) ← strtok line
  let (token, _) ← strtok rest
  return token

/-- The time text of a record, taken from the queue or read from the card. -/
def timeValues (d : DateTime) (fromCard : Bool) : Text :=
  if fromCard then ' ' :: timeStr d else timeStr d

/-! ### Publishing -/

structure Publish where
  topic : Text
  data : Text
  len : Nat
  qos : Nat
  retain : Nat
  deriving DecidableEq, Repr

def zeroed : Buffer Char 100 := .fill 100 '\x00'

/-- One of the arrays `Str_time` to `Str_UV`: what `sprintf` leaves in it. -/
def str (s : Text) : Option Text := (zeroed.sprintf '\x00' s).bind fun b => b.text '\x00'

/-- The array `JSON`: what a sequence of `strcat`s leaves in it. -/
def json (ss : List Text) : Option Text :=
  (zeroed.strcats '\x00' ss).bind fun b => b.text '\x00'

/-- The arguments of `strcat(JSON, ..)` in their order. -/
def pieces (strTime strNd strDa strPr strGa strUv : Text) : List Text :=
  ["\x7b\"TIME\":\"".toList, strTime, "\",".toList,
    "\"ND\":\"".toList, strNd, "\",".toList,
    "\"DA\":\"".toList, strDa, "\",".toList,
    "\"PR\":\"".toList, strPr, "\",".toList,
    "\"GA\":\"".toList, strGa, "\",".toList,
    "\"UV\":\"".toList, strUv, "\"\x7d".toList]

/-- `mqtt_app_pub_json`, or `none` where it writes past the end of an array. -/
def mqttAppPubJson (time : Text) (temp humidity pressure gas uv : ℚ) : Option Publish := do
  let strTime ← str time
  let strNd ← str (fixed2 temp)
  let strDa ← str (fixed2 humidity)
  let strPr ← str (fixed2 pressure)
  let strGa ← str (fixed2 gas)
  let strUv ← str (fixed2 uv)
  let data ← json (pieces strTime strNd strDa strPr strGa strUv)
  return ⟨"hieu45678vip/pub".toList, data, data.length, 1, 0⟩

/-- `mqtt_app_pub_json`, with the texts that the five values are printed as. -/
def pubJson (time nd da pr ga uv : Text) : Option Publish := do
  let strTime ← str time
  let strNd ← str nd
  let strDa ← str da
  let strPr ← str pr
  let strGa ← str ga
  let strUv ← str uv
  let data ← json (pieces strTime strNd strDa strPr strGa strUv)
  return ⟨"hieu45678vip/pub".toList, data, data.length, 1, 0⟩

theorem mqttAppPubJson_eq_pubJson (time : Text) (temp humidity pressure gas uv : ℚ) :
    mqttAppPubJson time temp humidity pressure gas uv =
      pubJson time (fixed2 temp) (fixed2 humidity) (fixed2 pressure) (fixed2 gas) (fixed2 uv) :=
  rfl

/-! ### What it is meant to publish -/

def members (time : Text) (temp humidity pressure gas uv : ℚ) : List (Text × Text) :=
  [("TIME".toList, time), ("ND".toList, fixed2 temp), ("DA".toList, fixed2 humidity),
    ("PR".toList, fixed2 pressure), ("GA".toList, fixed2 gas), ("UV".toList, fixed2 uv)]

/-- The record is published as an object of these members, in at most 99
characters and with the right length. -/
def WellFormed (time : Text) (temp humidity pressure gas uv : ℚ) : Prop :=
  ∃ p, mqttAppPubJson time temp humidity pressure gas uv = some p ∧
    Json.object p.data = some (members time temp humidity pressure gas uv) ∧
    p.data.length ≤ 99 ∧ p.len = p.data.length

def digits (n : Nat) : Nat := Nat.log 10 n + 1

/-- The characters of a time text: those of the six numbers, the five between
them and the blank that `strtok` leaves in front. -/
def timeWidth (d : DateTime) (fromCard : Bool) : Nat :=
  digits d.year.toNat + digits d.month.toNat + digits d.dayMonth.toNat + digits d.hour.toNat +
    digits d.minute.toNat + digits d.second.toNat + 5 + if fromCard then 1 else 0

/-- The characters of a value: the sign, the integer part of the value rounded to
hundredths, the point and two decimals. -/
def width (q : ℚ) : Nat := (if q < 0 then 1 else 0) + digits ⌊|q| + 1 / 200⌋₊ + 3

/-! ### Widths and characters -/

theorem length_timeValues (d : DateTime) (fromCard : Bool) :
    (timeValues d fromCard).length = timeWidth d fromCard := by
  have hstr : (timeStr d).length = timeWidth d false := by
    simp only [timeStr, timeWidth, digits, List.length_append, List.length_cons, length_decimal]
    simp only [Bool.false_eq_true, if_false]
    omega
  cases fromCard with
  | false => exact hstr
  | true =>
    rw [timeValues, if_pos rfl, List.length_cons, hstr]
    rfl

/-- `time_str[26]` holds every time text. -/
theorem length_timeStr_lt (d : DateTime) : (timeStr d).length < 26 := by
  have hbyte : ∀ b : Byte, digits b.toNat ≤ 3 := fun b =>
    Nat.succ_le_succ (Nat.le_of_lt_succ (Nat.log_lt_of_lt_pow' (by decide)
      (Nat.lt_of_lt_of_le b.isLt (by decide))))
  have hyear : digits d.year.toNat ≤ 5 :=
    Nat.succ_le_succ (Nat.le_of_lt_succ (Nat.log_lt_of_lt_pow' (by decide)
      (Nat.lt_of_lt_of_le d.year.isLt (by decide))))
  have hlen := length_timeValues d false
  have := hbyte d.month
  have := hbyte d.dayMonth
  have := hbyte d.hour
  have := hbyte d.minute
  have := hbyte d.second
  simp only [timeValues, timeWidth, Bool.false_eq_true, if_false] at hlen
  omega

theorem plain_of_isDigit {c : Char} (h : c.isDigit = true) : Json.plain c = true := by
  rw [Char.isDigit, Bool.and_eq_true, decide_eq_true_eq, decide_eq_true_eq] at h
  have hlo : 48 ≤ c.toNat := h.1
  have hhi : c.toNat ≤ 57 := h.2
  have hne : ∀ x : Char, c.toNat ≠ x.toNat → c ≠ x := fun x hx heq => hx (heq ▸ rfl)
  simp only [Json.plain, Bool.and_eq_true, decide_eq_true_eq]
  refine ⟨⟨hne _ ?_, hne _ ?_⟩, by omega⟩
  · show c.toNat ≠ 34
    omega
  · show c.toNat ≠ 92
    omega

theorem plain_fixed2 {q : ℚ} {c : Char} (h : c ∈ fixed2 q) : Json.plain c = true := by
  rcases mem_fixed2 h with h | rfl | rfl
  · exact plain_of_isDigit h
  · rfl
  · rfl

theorem mem_timeStr {d : DateTime} {c : Char} (h : c ∈ timeStr d) :
    c.isDigit = true ∨ c = '/' ∨ c = ' ' ∨ c = ':' := by
  simp only [timeStr, List.mem_append, List.mem_cons] at h
  rcases h with ((((h | rfl | h) | rfl | h) | rfl | h) | rfl | h) | rfl | h
  all_goals first
    | exact Or.inl (mem_decimal h)
    | simp

theorem plain_timeValues {d : DateTime} {fromCard : Bool} {c : Char}
    (h : c ∈ timeValues d fromCard) : Json.plain c = true := by
  have hstr : ∀ c ∈ timeStr d, Json.plain c = true := fun c hc => by
    rcases mem_timeStr hc with h | rfl | rfl | rfl
    · exact plain_of_isDigit h
    · rfl
    · rfl
    · rfl
  cases fromCard with
  | false => exact hstr c h
  | true =>
    rcases List.mem_cons.mp h with rfl | h
    · rfl
    · exact hstr c h

/-! ### The time text of a record on the card -/

theorem strtok_append {token : Text} (hne : token ≠ []) (h : ',' ∉ token) (rest : Text) :
    strtok (token ++ ',' :: rest) = some (token, rest) := by
  cases token with
  | nil => exact absurd rfl hne
  | cons c t =>
    have hc : decide (c = ',') = false :=
      decide_eq_false fun hc => h (hc ▸ List.mem_cons_self)
    have htake : (c :: t ++ ',' :: rest).takeWhile (· ≠ ',') = c :: t :=
      Buffer.takeWhile_append_nul h rest
    have hdrop : (c :: t ++ ',' :: rest).dropWhile (· ≠ ',') = ',' :: rest :=
      Buffer.dropWhile_append_nul h rest
    have hskip : (c :: t ++ ',' :: rest).dropWhile (· = ',') = c :: t ++ ',' :: rest := by
      rw [List.cons_append, List.dropWhile_cons, hc]
      rfl
    rw [strtok, hskip]
    simp only [List.cons_append] at htake hdrop ⊢
    rw [htake, hdrop]
    rfl

/-- **`sd_card_read` gives the time text back** with the blank before it. -/
theorem sdCardReadTime_sdCardLine (id : Int) (d : DateTime) (rest : Text) :
    sdCardReadTime (sdCardLine id (timeStr d) rest) = some (timeValues d true) := by
  have hid : ',' ∉ (if id < 0 then ['-'] else []) ++ decimal id.natAbs := by
    intro h
    rcases List.mem_append.mp h with h | h
    · split at h <;> simp at h
    · exact absurd (mem_decimal h) (by decide)
  have htime : ',' ∉ ' ' :: timeStr d := by
    intro h
    rcases List.mem_cons.mp h with h | h
    · exact absurd h (by decide)
    · exact absurd (mem_timeStr h) (by decide)
  have hne : (if id < 0 then ['-'] else []) ++ decimal id.natAbs ≠ [] := fun h =>
    Nat.toDigits_ne_nil (List.append_eq_nil_iff.mp h).2
  have hline : sdCardLine id (timeStr d) rest =
      ((if id < 0 then ['-'] else []) ++ decimal id.natAbs) ++
        ',' :: ((' ' :: timeStr d) ++ ',' :: rest) := by
    simp [sdCardLine]
  rw [sdCardReadTime, hline, strtok_append hne hid]
  simp only [Option.bind_eq_bind, Option.bind_some]
  rw [strtok_append (List.cons_ne_nil _ _) htime]
  rfl

/-! ### The arrays -/

theorem notMem_of_plain {s : Text} (h : ∀ c ∈ s, Json.plain c = true) : '\x00' ∉ s :=
  fun hnul => absurd (h _ hnul) (by decide)

theorem str_bind {s : Text} (hs : '\x00' ∉ s) (f : Text → Option Publish) :
    (str s).bind f = if s.length < 100 then f s else none := by
  rw [str, Buffer.sprintf_bind_text hs]
  split <;> rfl

theorem json_eq {ss : List Text} (h : ∀ s ∈ ss, '\x00' ∉ s) :
    json ss = if ss.flatten.length < 100 then some ss.flatten else none :=
  Buffer.strcats_bind_text (Buffer.text_fill (by decide)) h

/-- The object of these texts. -/
def object (time nd da pr ga uv : Text) : Text :=
  Json.print [("TIME".toList, time), ("ND".toList, nd), ("DA".toList, da), ("PR".toList, pr),
    ("GA".toList, ga), ("UV".toList, uv)]

/-- 51 characters are not in a field. -/
theorem length_object (time nd da pr ga uv : Text) :
    (object time nd da pr ga uv).length =
      51 + (time.length + nd.length + da.length + pr.length + ga.length + uv.length) := by
  simp [object, Json.print, Json.printMembers, Json.printMember, Json.printString]
  omega

/-- What `mqtt_app_pub_json` does: it publishes the object or overflows. -/
theorem pubJson_eq {time nd da pr ga uv : Text}
    (h : ∀ s ∈ [time, nd, da, pr, ga, uv], '\x00' ∉ s) :
    pubJson time nd da pr ga uv =
      if (object time nd da pr ga uv).length < 100 then
        some ⟨"hieu45678vip/pub".toList, object time nd da pr ga uv,
          (object time nd da pr ga uv).length, 1, 0⟩
      else none := by
  simp only [List.forall_mem_cons] at h
  obtain ⟨htime, hnd, hda, hpr, hga, huv, -⟩ := h
  have hpieces : ∀ s ∈ pieces time nd da pr ga uv, '\x00' ∉ s := by
    simp only [pieces, List.forall_mem_cons]
    simp [htime, hnd, hda, hpr, hga, huv]
  have hflatten : (pieces time nd da pr ga uv).flatten = object time nd da pr ga uv := by
    simp [pieces, object, Json.print, Json.printMembers, Json.printMember, Json.printString]
  have hlen := length_object time nd da pr ga uv
  simp only [pubJson, Option.bind_eq_bind, str_bind htime, str_bind hnd, str_bind hda,
    str_bind hpr, str_bind hga, str_bind huv, json_eq hpieces, hflatten]
  by_cases hfits : (object time nd da pr ga uv).length < 100
  · simp only [if_pos hfits]
    rw [hlen] at hfits
    rw [if_pos (by omega), if_pos (by omega), if_pos (by omega), if_pos (by omega),
      if_pos (by omega), if_pos (by omega)]
    rfl
  · simp only [if_neg hfits, Option.bind_none, ite_self]

section

variable (time : Text) (temp humidity pressure gas uv : ℚ)

theorem length_print_members :
    (Json.print (members time temp humidity pressure gas uv)).length =
      51 + (time.length + width temp + width humidity + width pressure + width gas + width uv) := by
  have hwidth : ∀ q, (fixed2 q).length = width q := length_fixed2
  have hlen := length_object time (fixed2 temp) (fixed2 humidity) (fixed2 pressure) (fixed2 gas)
    (fixed2 uv)
  simp only [hwidth] at hlen
  exact hlen

variable {time}

theorem plain_members (htime : ∀ c ∈ time, Json.plain c = true) :
    ∀ m ∈ members time temp humidity pressure gas uv, Json.Plain m := by
  have hvalue : ∀ q, ∀ c ∈ fixed2 q, Json.plain c = true := fun q c => plain_fixed2
  have hnames : ∀ name ∈ (members time temp humidity pressure gas uv).map Prod.fst,
      name.all Json.plain = true := by
    simp only [members, List.map_cons, List.map_nil, List.forall_mem_cons]
    refine ⟨by decide, by decide, by decide, by decide, by decide, by decide, ?_⟩
    exact fun name h => absurd h List.not_mem_nil
  intro m hm
  refine ⟨List.all_eq_true.mp (hnames _ (List.mem_map_of_mem hm)), ?_⟩
  simp only [members, List.mem_cons, List.not_mem_nil, or_false] at hm
  rcases hm with rfl | rfl | rfl | rfl | rfl | rfl
  · exact htime
  all_goals exact hvalue _

theorem mqttAppPubJson_eq (htime : '\x00' ∉ time) :
    mqttAppPubJson time temp humidity pressure gas uv =
      if (Json.print (members time temp humidity pressure gas uv)).length < 100 then
        some ⟨"hieu45678vip/pub".toList, Json.print (members time temp humidity pressure gas uv),
          (Json.print (members time temp humidity pressure gas uv)).length, 1, 0⟩
      else none := by
  have hvalue : ∀ q, '\x00' ∉ fixed2 q := fun q => notMem_of_plain fun c => plain_fixed2
  rw [mqttAppPubJson_eq_pubJson]
  apply pubJson_eq
  simp only [List.forall_mem_cons, List.not_mem_nil, false_implies, implies_true, and_true]
  exact ⟨htime, hvalue _, hvalue _, hvalue _, hvalue _, hvalue _⟩

end

/-- **When the payload is well formed**: the time and the five values are at most
48 characters wide. -/
theorem wellFormed_iff (d : DateTime) (fromCard : Bool) (temp humidity pressure gas uv : ℚ) :
    WellFormed (timeValues d fromCard) temp humidity pressure gas uv ↔
      timeWidth d fromCard + width temp + width humidity + width pressure + width gas +
        width uv ≤ 48 := by
  have htime : ∀ c ∈ timeValues d fromCard, Json.plain c = true := fun c => plain_timeValues
  have hlen := length_print_members (timeValues d fromCard) temp humidity pressure gas uv
  rw [length_timeValues] at hlen
  rw [WellFormed, mqttAppPubJson_eq temp humidity pressure gas uv (notMem_of_plain htime)]
  constructor
  · rintro ⟨p, hp, -⟩
    split at hp
    · omega
    · exact absurd hp (by simp)
  · intro hle
    rw [if_pos (by omega)]
    refine ⟨_, rfl, Json.object_print (plain_members temp humidity pressure gas uv htime), ?_, rfl⟩
    show (Json.print _).length ≤ 99
    omega

def newYear : Registers := ⟨0x59, 0x59, 0x23, 0x31, 0x12, 0x03, 0x24, 0x00⟩

/-- 25 °C, 50 % and 1013.25 hPa, with a gas resistance of six digits. -/
def indoor : ValuesFixed := ⟨2500, 101325, 50000, 123456⟩

/-- Plausible readings overflow `JSON`. -/
theorem not_wellFormed :
    ¬ ∀ (r : Registers) (fromCard : Bool) (fixed : ValuesFixed) (voltage : Nat),
      -2 ^ 15 ≤ fixed.temperature → fixed.temperature < 2 ^ 15 → fixed.humidity ≤ 100000 →
      fixed.pressure < 2 ^ 32 → fixed.gasResistance < 2 ^ 32 → voltage < 2 ^ 32 →
      WellFormed (timeValues (getDateTime r).2 fromCard) fixed.toFloat.temperature
        fixed.toFloat.humidity fixed.toFloat.pressure fixed.toFloat.gasResistance
        (ml851UvIntensity voltage) := by
  intro h
  obtain ⟨p, hp, -⟩ := h newYear false indoor 1000 (by decide) (by decide) (by decide)
    (by decide) (by decide) (by decide)
  have hnone : mqttAppPubJson (timeValues (getDateTime newYear).2 false)
      indoor.toFloat.temperature indoor.toFloat.humidity indoor.toFloat.pressure
      indoor.toFloat.gasResistance (ml851UvIntensity 1000) = none := by
    decide +kernel
  rw [hnone] at hp
  exact absurd hp (by simp)

end Datk.Mqtt
