import Mathlib.Data.Nat.Log
import Datk.Lib.JsonArray
import Datk.Wifi.Json
import Datk.Wifi.Unique

/-!
# The access points that the server publishes

After a scan `wifi_manager_generate_acess_points_json` of
`common/wifi_manager/src/wifi_manager.c` prints the records that were found, as the
content of `ap.json`.  It opens the array before the loop, and closes it in the loop,
behind the last record.  So there is nothing that closes it if there is no record.

`exists_generate` is the text that it stores; `published_iff` says that a reader gets the
records back, unless there is none.
-/

namespace Datk.Wifi

open Lib
open Lib.JsonBytes (printArray printElements printInt printMember printObject)

variable {ρ : Type} {n : Nat}

/-- `oneap_str`, with its values. -/
def oneapStr (ap : ApRecord ρ) (c : Byte) : List Byte :=
  bytes ",\"chan\":" ++ printInt ap.primary.toNat ++ bytes ",\"rssi\":" ++ printInt ap.rssi.toInt ++
    bytes ",\"auth\":" ++ printInt ap.authmode.toInt ++ 0x7d :: c :: bytes "\n"

/-- The character behind the record at `i`. -/
def separator (apNum i : Nat) : Byte := if i = apNum - 1 then 0x5d else 0x2c

/-- The body of the loop, on `accessp_json` and `one_ap`. -/
def printAp (apNum : Nat) (r : Buffer Byte n × Buffer Byte 99) (ap : ApRecord ρ × Nat) :
    Option (Buffer Byte n × Buffer Byte 99) := do
  let b ← r.1.strcat 0 (bytes "\x7b\"ssid\":")
  let text ← b.text 0
  let b ← jsonPrintString ap.1.ssid.bytes b text.length
  let oneAp ← r.2.snprintf 0 0 99 (oneapStr ap.1 (separator apNum ap.2))
  let record ← oneAp.text 0
  let b ← b.strcat 0 record
  return (b, oneAp)

/-- `wifi_manager_generate_acess_points_json`, of the first `ap_num` of `accessp_records`.
What `accessp_json` and `one_ap` hold before is arbitrary. -/
def wifiManagerGenerateAcessPointsJson (accesspJson : Buffer Byte n) (oneAp : Buffer Byte 99)
    (records : List (ApRecord ρ)) : Option (Buffer Byte n) := do
  let b ← accesspJson.sprintf 0 (bytes "[")
  let r ← records.zipIdx.foldlM (printAp records.length) (b, oneAp)
  return r.1

/-- What the object of a record holds. -/
def ApRecord.members (ap : ApRecord ρ) : List JsonBytes.Member :=
  [(bytes "ssid", .str ap.ssid.bytes), (bytes "chan", .int ap.primary.toNat),
    (bytes "rssi", .int ap.rssi.toInt), (bytes "auth", .int ap.authmode.toInt)]

/-- **A reader gets the records**, in order and with all their values, once the buffer is
large enough. -/
def Published (records : List (ApRecord ρ)) : Prop :=
  ∃ N, ∀ n, N ≤ n → ∀ (accesspJson : Buffer Byte n) (oneAp : Buffer Byte 99),
    (((wifiManagerGenerateAcessPointsJson accesspJson oneAp records).bind fun b =>
      b.text 0).bind JsonBytes.array) = some (records.map ApRecord.members)

/-! ### The text that is stored -/

/-- What is appended for a record. -/
def apTexts (apNum : Nat) (ap : ApRecord ρ × Nat) : List (List Byte) :=
  [bytes "\x7b\"ssid\":", quote ap.1.ssid.bytes, oneapStr ap.1 (separator apNum ap.2)]

/-- The whole text. -/
def listText (records : List (ApRecord ρ)) : List Byte :=
  bytes "[" ++ (records.zipIdx.flatMap (apTexts records.length)).flatten

/-- The decimal digits of a number, and its sign. -/
def width (z : Int) : Nat := (if z < 0 then 1 else 0) + (Nat.log 10 z.natAbs + 1)

theorem length_toDigits (k : Nat) : (Nat.toDigits 10 k).length = Nat.log 10 k + 1 := by
  induction k using Nat.strong_induction_on with
  | h k ih =>
    by_cases hk : k < 10
    · rw [Nat.toDigits_of_lt_base hk, Nat.log_of_lt hk, List.length_singleton]
    · rw [Nat.toDigits_of_base_le (by decide) (by omega),
        Nat.log_of_one_lt_of_le (by decide) (by omega), List.length_append, List.length_singleton,
        ih (k / 10) (by omega)]

theorem length_printInt (z : Int) : (printInt z).length = width z := by
  have hsign : (if z < 0 then [(0x2d : Byte)] else []).length = if z < 0 then 1 else 0 := by
    split
    · rfl
    · rfl
  rw [printInt, JsonBytes.ascii, List.length_append, List.length_map, length_toDigits, width,
    hsign]

theorem length_oneapStr (ap : ApRecord ρ) (c : Byte) : (oneapStr ap c).length =
    27 + width ap.primary.toNat + width ap.rssi.toInt + width ap.authmode.toInt := by
  have hnames : (bytes ",\"chan\":").length = 8 ∧ (bytes ",\"rssi\":").length = 8 ∧
      (bytes ",\"auth\":").length = 8 ∧ (bytes "\n").length = 1 := by
    decide
  simp only [oneapStr, List.length_append, List.length_cons, length_printInt, hnames]
  omega

/-- A 32-bit number takes at most eleven characters. -/
theorem width_le {z : Int} (h : z.natAbs < 10 ^ 10) : width z ≤ 11 := by
  have hlog : Nat.log 10 z.natAbs < 10 := Nat.log_lt_of_lt_pow' (by decide) h
  rw [width]
  split
  · omega
  · omega

/-- `one_ap` is never cut off. -/
theorem length_oneapStr_lt (ap : ApRecord ρ) (c : Byte) : (oneapStr ap c).length < 99 := by
  have hchan : width ap.primary.toNat ≤ 11 := width_le (by omega)
  have hrssi : width ap.rssi.toInt ≤ 11 := width_le (by
    have hlow := ap.rssi.le_toInt
    have hhigh := ap.rssi.toInt_lt
    omega)
  have hauth : width ap.authmode.toInt ≤ 11 := width_le (by
    have hlow := ap.authmode.le_toInt
    have hhigh := ap.authmode.toInt_lt
    omega)
  rw [length_oneapStr]
  omega

theorem zero_notMem_printInt (z : Int) : (0 : Byte) ∉ printInt z := by
  rw [printInt, List.mem_append, not_or]
  constructor
  · split
    · decide
    · exact List.not_mem_nil
  · intro h
    cases JsonBytes.isDigit_toDigits z.natAbs 0 h

theorem zero_notMem_oneapStr (ap : ApRecord ρ) {c : Byte} (hc : c ≠ 0) : 0 ∉ oneapStr ap c := by
  simp only [oneapStr, List.mem_append, List.mem_cons, not_or]
  exact ⟨⟨⟨⟨⟨⟨by decide, zero_notMem_printInt _⟩, by decide⟩, zero_notMem_printInt _⟩,
    by decide⟩, zero_notMem_printInt _⟩, by decide, Ne.symm hc, by decide⟩

theorem separator_ne_zero (apNum i : Nat) : separator apNum i ≠ 0 := by
  rw [separator]
  split
  · decide
  · decide

theorem zero_notMem_apTexts (apNum : Nat) (ap : ApRecord ρ × Nat) :
    ∀ s ∈ apTexts apNum ap, (0 : Byte) ∉ s := by
  simp only [apTexts, List.forall_mem_cons]
  exact ⟨by decide, zero_notMem_quote ap.1.ssid.zero_notMem,
    zero_notMem_oneapStr ap.1 (separator_ne_zero _ _), List.forall_mem_nil _⟩

/-- The body of the loop is three calls of `strcat`. -/
theorem printAp_eq (apNum : Nat) (r : Buffer Byte n × Buffer Byte 99) (ap : ApRecord ρ × Nat) :
    ∃ oneAp, printAp apNum r ap =
      (r.1.strcats 0 (apTexts apNum ap)).map fun b => (b, oneAp) := by
  have hlen := length_oneapStr_lt ap.1 (separator apNum ap.2)
  obtain ⟨oneAp, hone, htext⟩ := Buffer.text_sprintf (b := r.2)
    (zero_notMem_oneapStr ap.1 (separator_ne_zero apNum ap.2)) hlen
  have hsnprintf : r.2.snprintf 0 0 99 (oneapStr ap.1 (separator apNum ap.2)) = some oneAp := by
    rw [Buffer.snprintf, if_neg (by decide), List.take_of_length_le (Nat.le_sub_one_of_lt hlen)]
    exact hone
  refine ⟨oneAp, ?_⟩
  simp only [printAp, jsonPrintString_eq, hsnprintf, htext, Option.bind_eq_bind, Option.bind_some,
    apTexts, Buffer.strcats_cons, Option.map_bind]
  refine Option.bind_congr fun b _ => ?_
  show ((b.text 0).bind fun t => _) = _
  rw [← Option.bind_assoc, ← Buffer.strcat, Function.comp_apply, Option.map_bind]
  refine Option.bind_congr fun b' _ => ?_
  rw [Function.comp_apply, Option.map_bind]
  rfl

theorem foldlM_printAp (apNum : Nat) (aps : List (ApRecord ρ × Nat)) :
    ∀ r : Buffer Byte n × Buffer Byte 99,
      (aps.foldlM (printAp apNum) r).map Prod.fst =
        r.1.strcats 0 (aps.flatMap (apTexts apNum)) := by
  induction aps with
  | nil =>
    intro r
    rfl
  | cons ap aps ih =>
    intro r
    obtain ⟨oneAp, hstep⟩ := printAp_eq apNum r ap
    rw [List.foldlM_cons, hstep, List.flatMap_cons, Buffer.strcats_append]
    cases hb : r.1.strcats 0 (apTexts apNum ap) with
    | none => rfl
    | some b => exact ih (b, oneAp)

theorem zero_notMem_open : (0 : Byte) ∉ bytes "[" := by decide

theorem zero_notMem_flatMap_apTexts (apNum : Nat) (aps : List (ApRecord ρ × Nat)) :
    ∀ s ∈ aps.flatMap (apTexts apNum), (0 : Byte) ∉ s := by
  intro s hs
  obtain ⟨ap, -, hs⟩ := List.mem_flatMap.mp hs
  exact zero_notMem_apTexts apNum ap s hs

theorem generate_eq (b : Buffer Byte n) (oneAp : Buffer Byte 99) (records : List (ApRecord ρ)) :
    wifiManagerGenerateAcessPointsJson b oneAp records =
      (b.sprintf 0 (bytes "[")).bind fun b =>
        b.strcats 0 (records.zipIdx.flatMap (apTexts records.length)) := by
  rw [wifiManagerGenerateAcessPointsJson]
  refine Option.bind_congr fun b _ => ?_
  rw [← foldlM_printAp records.length records.zipIdx (b, oneAp), Option.map_eq_bind]
  rfl

/-- The whole text is stored if there is room for it and its terminator, -/
theorem exists_generate (b : Buffer Byte n) (oneAp : Buffer Byte 99)
    {records : List (ApRecord ρ)} (h : (listText records).length < n) :
    ∃ b', wifiManagerGenerateAcessPointsJson b oneAp records = some b' ∧
      b'.text 0 = some (listText records) := by
  have hlen : (bytes "[").length < n := by
    rw [listText, List.length_append] at h
    omega
  obtain ⟨b₁, hb₁, ht₁⟩ := Buffer.text_sprintf (b := b) zero_notMem_open hlen
  rw [generate_eq, hb₁, Option.bind_some]
  exact Buffer.text_strcats ht₁ (zero_notMem_flatMap_apTexts _ _) h

/-- and else a store is past the end. -/
theorem generate_overflow (b : Buffer Byte n) (oneAp : Buffer Byte 99)
    {records : List (ApRecord ρ)} (h : n ≤ (listText records).length) :
    wifiManagerGenerateAcessPointsJson b oneAp records = none := by
  rw [generate_eq]
  by_cases hlen : (bytes "[").length < n
  · obtain ⟨b₁, hb₁, ht₁⟩ := Buffer.text_sprintf (b := b) zero_notMem_open hlen
    rw [hb₁, Option.bind_some]
    exact Buffer.strcats_overflow ht₁ (zero_notMem_flatMap_apTexts _ _) h
  · rw [Buffer.sprintf, Buffer.write_of_lt]
    · rfl
    · rw [List.length_append, List.length_singleton]
      omega

/-! ### What is read of it -/

/-- The object of a record. -/
def apObject (ap : ApRecord ρ) : List Byte :=
  printObject [printMember (bytes "ssid") (quote ap.ssid.bytes),
    printMember (bytes "chan") (printInt ap.primary.toNat),
    printMember (bytes "rssi") (printInt ap.rssi.toInt),
    printMember (bytes "auth") (printInt ap.authmode.toInt)]

theorem flatten_apTexts (apNum : Nat) (ap : ApRecord ρ × Nat) :
    (apTexts apNum ap).flatten = apObject ap.1 ++ separator apNum ap.2 :: bytes "\n" := by
  have hssid : bytes "\x7b\"ssid\":" = 0x7b :: 0x22 :: (bytes "ssid" ++ [0x22, 0x3a]) := by decide
  have hchan : bytes ",\"chan\":" = 0x2c :: 0x22 :: (bytes "chan" ++ [0x22, 0x3a]) := by decide
  have hrssi : bytes ",\"rssi\":" = 0x2c :: 0x22 :: (bytes "rssi" ++ [0x22, 0x3a]) := by decide
  have hauth : bytes ",\"auth\":" = 0x2c :: 0x22 :: (bytes "auth" ++ [0x22, 0x3a]) := by decide
  simp only [apTexts, apObject, oneapStr, printObject, JsonBytes.printMembers, printMember, hssid,
    hchan, hrssi, hauth, List.flatten_cons, List.flatten_nil, List.append_nil, List.append_assoc,
    List.cons_append, List.nil_append]

/-- The records from `k` on, up to the closing bracket. -/
theorem flatten_flatMap_apTexts (l : List (ApRecord ρ)) : ∀ k, l ≠ [] →
    ((l.zipIdx k).flatMap (apTexts (k + l.length))).flatten =
      printElements (bytes "\n") (l.map apObject) ++ bytes "\n" := by
  induction l with
  | nil =>
    intro k hne
    exact absurd rfl hne
  | cons ap l ih =>
    intro k _
    rw [List.zipIdx_cons, List.flatMap_cons, List.flatten_append, flatten_apTexts, separator]
    cases l with
    | nil =>
      have hlast : k = k + [ap].length - 1 := by
        rw [List.length_singleton]
        omega
      rw [if_pos hlast]
      simp only [List.zipIdx_nil, List.flatMap_nil, List.flatten_nil, List.append_nil,
        List.map_cons, List.map_nil, printElements, List.append_assoc, List.singleton_append]
    | cons ap' l =>
      have hnext := ih (k + 1) (List.cons_ne_nil _ _)
      have hlen : k + (ap :: ap' :: l).length = k + 1 + (ap' :: l).length := by
        simp only [List.length_cons]
        omega
      have hmore : ¬ k = k + (ap :: ap' :: l).length - 1 := by
        simp only [List.length_cons]
        omega
      rw [if_neg hmore, hlen, hnext]
      simp only [List.map_cons, printElements, List.append_assoc, List.cons_append]

theorem listText_eq {records : List (ApRecord ρ)} (hne : records ≠ []) :
    listText records = printArray (bytes "\n") (records.map apObject) ++ bytes "\n" := by
  have htexts := flatten_flatMap_apTexts records 0 hne
  have hopen : bytes "[" = [0x5b] := by decide
  rw [Nat.zero_add] at htexts
  rw [listText, htexts, hopen, printArray, List.singleton_append, List.cons_append]

/-- A record is read back. -/
theorem readsObject_apObject (ap : ApRecord ρ) :
    JsonBytes.ReadsObject (apObject ap) ap.members := by
  refine JsonBytes.readsObject_printObject (.cons ?_ (.cons ?_ (.cons ?_ (.cons ?_ .nil))))
  · exact JsonBytes.reads_str (List.all_eq_true.mp rfl) (readChars_quote ap.ssid.bytes)
  · exact JsonBytes.reads_int (List.all_eq_true.mp rfl) ap.primary.toNat
  · exact JsonBytes.reads_int (List.all_eq_true.mp rfl) ap.rssi.toInt
  · exact JsonBytes.reads_int (List.all_eq_true.mp rfl) ap.authmode.toInt

theorem array_listText {records : List (ApRecord ρ)} (hne : records ≠ []) :
    JsonBytes.array (listText records) = some (records.map ApRecord.members) := by
  have hreads : List.Forall₂ JsonBytes.ReadsObject (records.map apObject)
      (records.map ApRecord.members) := by
    rw [List.forall₂_map_left_iff, List.forall₂_map_right_iff]
    exact List.forall₂_same.mpr fun ap _ => readsObject_apObject ap
  rw [listText_eq hne]
  exact JsonBytes.array_printArray (by decide) hreads (by decide)

theorem array_generate (b : Buffer Byte n) (oneAp : Buffer Byte 99) {records : List (ApRecord ρ)}
    (h : (listText records).length < n) :
    (((wifiManagerGenerateAcessPointsJson b oneAp records).bind fun b =>
      b.text 0).bind JsonBytes.array) = JsonBytes.array (listText records) := by
  obtain ⟨b', hb', ht'⟩ := exists_generate b oneAp h
  rw [hb', Option.bind_some, ht', Option.bind_some]

/-- Nothing closes the array of no records. -/
theorem array_listText_nil : JsonBytes.array (listText ([] : List (ApRecord ρ))) = none := rfl

theorem length_listText_nil_lt (k : Nat) : (listText ([] : List (ApRecord ρ))).length < k + 2 :=
  Nat.lt_add_left k (show 1 < 2 by decide)

/-- **The scan is published exactly if it found an access point.** -/
theorem published_iff (records : List (ApRecord ρ)) : Published records ↔ records ≠ [] := by
  constructor
  · rintro ⟨N, h⟩ rfl
    have hopen := h (N + 2) (Nat.le_add_right N 2) (.fill _ 0) (.fill _ 0)
    rw [array_generate _ _ (length_listText_nil_lt N), array_listText_nil] at hopen
    cases hopen
  · intro hne
    refine ⟨(listText records).length + 1, fun n hn accesspJson oneAp => ?_⟩
    rw [array_generate _ _ (Nat.lt_of_succ_le hn)]
    exact array_listText hne

/-- A scan that finds nothing. -/
theorem not_published : ¬ ∀ records : List (ApRecord Unit), records.length ≤ 15 →
    Published records := by
  intro h
  obtain ⟨N, hN⟩ := h [] (by decide)
  have hopen := hN (N + 2) (Nat.le_add_right N 2) (.fill _ 0) (.fill _ 0)
  rw [array_generate _ _ (length_listText_nil_lt N), array_listText_nil] at hopen
  cases hopen

end Datk.Wifi
