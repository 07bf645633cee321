import Datk.Wifi.AccessPoints
import Datk.Wifi.Status

/-!
# Whether the JSON fits in its buffers

`wifi_manager_start` gives `accessp_json` `MAX_AP_NUM * JSON_ONE_APP_SIZE + 4` bytes and
`ip_info_json` `JSON_IP_INFO_SIZE`.  The comments on these constants count two characters
for each byte of an SSID, but a control character is written as six, and an object with
nothing but quotation marks in its SSID is longer than `JSON_ONE_APP_SIZE` too.

`jsonBuffers_iff` has the exact bounds, in the bytes of the SSIDs and the digits of the
numbers.
-/

namespace Datk.Wifi

open Lib

variable {ρ : Type}

/-! ### The lengths -/

/-- Written as two characters. -/
def lettered (c : Byte) : Bool := [0x22, 0x5c, 0x08, 0x0c, 0x0a, 0x0d, 0x09].contains c

/-- Written as six characters. -/
def coded (c : Byte) : Bool := c.toNat < 32 && !lettered c

/-- What a string takes between its quotation marks. -/
def escapedLength (s : List Byte) : Nat := s.length + s.countP lettered + 5 * s.countP coded

/-- What the object of a record takes, with the two characters behind it. -/
def recordLength (ap : ApRecord ρ) : Nat :=
  37 + escapedLength ap.ssid.bytes + width ap.primary.toNat + width ap.rssi.toInt +
    width ap.authmode.toInt

theorem add_sumEscapes (s : List Byte) : s.length + sumEscapes s = escapedLength s := by
  have hbyte : ∀ c : Byte, escapeCharacters c =
      (if lettered c then 1 else 0) + 5 * (if coded c then 1 else 0) := by
    decide +kernel
  have hsum : sumEscapes s = s.countP lettered + 5 * s.countP coded := by
    induction s with
    | nil => rfl
    | cons c s ih =>
      rw [sumEscapes, List.map_cons, List.sum_cons, ← sumEscapes, ih, hbyte, List.countP_cons,
        List.countP_cons]
      omega
  rw [hsum, escapedLength]
  omega

theorem length_quote (s : List Byte) : (quote s).length = 2 + escapedLength s := by
  rw [quote, List.length_append, List.length_cons, length_flatMap_escaped, add_sumEscapes,
    List.length_singleton]
  omega

theorem length_flatten_apTexts (apNum : Nat) (ap : ApRecord ρ × Nat) :
    (apTexts apNum ap).flatten.length = recordLength ap.1 := by
  have hname : (bytes "\x7b\"ssid\":").length = 8 := by decide
  simp only [apTexts, List.flatten_cons, List.flatten_nil, List.length_append, List.length_nil,
    hname, length_quote, length_oneapStr, recordLength]
  omega

theorem length_flatten_flatMap (apNum : Nat) (l : List (ApRecord ρ)) : ∀ k,
    ((l.zipIdx k).flatMap (apTexts apNum)).flatten.length = (l.map recordLength).sum := by
  induction l with
  | nil =>
    intro k
    rfl
  | cons ap l ih =>
    intro k
    rw [List.zipIdx_cons, List.flatMap_cons, List.flatten_append, List.length_append,
      length_flatten_apTexts, ih, List.map_cons, List.sum_cons]

theorem length_listText (records : List (ApRecord ρ)) :
    (listText records).length = 1 + (records.map recordLength).sum := by
  have hopen : (bytes "[").length = 1 := by decide
  rw [listText, List.length_append, hopen, length_flatten_flatMap]

/-! ### The access points -/

/-- **The records that fit** in a buffer, whatever was in it. -/
theorem isSome_generate_iff {n : Nat} (b : Buffer Byte n) (oneAp : Buffer Byte 99)
    (records : List (ApRecord ρ)) :
    (wifiManagerGenerateAcessPointsJson b oneAp records).isSome = true ↔
      1 + (records.map recordLength).sum < n := by
  rw [← length_listText]
  by_cases h : (listText records).length < n
  · obtain ⟨b', hb', -⟩ := exists_generate b oneAp h
    rw [hb']
    exact iff_of_true rfl h
  · rw [generate_overflow b oneAp (Nat.le_of_not_lt h)]
    exact iff_of_false Bool.false_ne_true h

/-! ### The status -/

/-- `ip_info_json_len`. -/
def ipInfoJsonLen (config : StaConfig) : Option Nat := do
  let b ← (Buffer.fill 159 0).sprintf 0 (bytes "\x7b\"ssid\":")
  let start ← b.text 0
  let b ← jsonPrintString config.ssidString b start.length
  let text ← b.text 0
  return text.length

/-- The object that is to be stored. -/
def ipInfoObject (config : StaConfig) (reason : UpdateReason) (info : IpInfo) : List Byte :=
  ipInfoHead config.ssidString ++ (ipInfo reason info ++ bytes "\x7d")

/-- `ip_info_json` is large enough: no store is outside of it, `remaining` does not wrap, and
the object is stored up to its closing brace. -/
structure IpInfoSafe (config : StaConfig) (reason : UpdateReason) (info : IpInfo) : Prop where
  inside : (wifiManagerGenerateIpInfoJson config reason info).isSome = true
  remaining : ∃ len, ipInfoJsonLen config = some len ∧ len ≤ 159
  whole : ∃ text, ((wifiManagerGenerateIpInfoJson config reason info).bind fun b => b.text 0) =
    some text ∧ ipInfoObject config reason info <+: text

theorem zero_notMem_ssidString (config : StaConfig) : (0 : Byte) ∉ config.ssidString := by
  intro h
  rw [StaConfig.ssidString] at h
  simpa using List.mem_takeWhile_imp h

theorem ipInfoJsonLen_eq {config : StaConfig} (h : (ipInfoHead config.ssidString).length < 159) :
    ipInfoJsonLen config = some (ipInfoHead config.ssidString).length := by
  have hname : (0 : Byte) ∉ bytes "\x7b\"ssid\":" := by decide
  obtain ⟨b₁, hb₁, ht₁⟩ := Buffer.text_sprintf (b := Buffer.fill 159 (0 : Byte)) hname (by decide)
  obtain ⟨b₂, hb₂, ht₂⟩ := Buffer.text_strcat ht₁
    (zero_notMem_quote (zero_notMem_ssidString config)) h
  have hcat : b₁.write (bytes "\x7b\"ssid\":").length (quote config.ssidString ++ [0]) =
      b₁.strcat 0 (quote config.ssidString) := by
    rw [Buffer.strcat, ht₁, Option.bind_some]
  simp only [ipInfoJsonLen, Option.bind_eq_bind, hb₁, Option.bind_some, ht₁, jsonPrintString_eq,
    hcat, hb₂, ht₂]
  rfl

theorem length_ipInfoObject (config : StaConfig) (reason : UpdateReason) (info : IpInfo) :
    (ipInfoObject config reason info).length =
      48 + escapedLength config.ssidString + addressesLength reason info := by
  have hbrace : (bytes "\x7d").length = 1 := by decide
  rw [ipInfoObject, List.length_append, List.length_append, hbrace, length_ipInfoHead,
    length_ipInfo, ← add_sumEscapes]
  omega

/-- What is stored, in terms of the object. -/
theorem text_generate_object (config : StaConfig) (reason : UpdateReason) (info : IpInfo) :
    ((wifiManagerGenerateIpInfoJson config reason info).bind fun b => b.text 0) =
      if (ipInfoHead config.ssidString).length < 159 then
        some ((ipInfoObject config reason info ++ bytes "\n").take 158)
      else none := by
  have hend : bytes "\x7d\n" = bytes "\x7d" ++ bytes "\n" := by decide
  rw [text_generate rfl (zero_notMem_ssidString config), hend, ipInfoObject]
  simp only [List.append_assoc]

/-- **The status fits for exactly these SSIDs and addresses.** -/
theorem ipInfoSafe_iff_length (config : StaConfig) (reason : UpdateReason) (info : IpInfo) :
    IpInfoSafe config reason info ↔
      escapedLength config.ssidString + addressesLength reason info ≤ 110 := by
  have hobject := length_ipInfoObject config reason info
  have htext := text_generate_object config reason info
  constructor
  · intro h
    obtain ⟨text, hstored, hwhole⟩ := h.whole
    rw [htext] at hstored
    split at hstored
    · cases hstored
      have hle := hwhole.length_le
      rw [List.length_take] at hle
      omega
    · cases hstored
  · intro hfits
    have hhead : (ipInfoHead config.ssidString).length < 159 := by
      rw [length_ipInfoHead, Nat.add_assoc, add_sumEscapes]
      omega
    rw [if_pos hhead, List.take_append, List.take_of_length_le (by omega)] at htext
    obtain ⟨b, hb, -⟩ := Option.bind_eq_some_iff.mp htext
    exact {
      inside := by
        rw [hb]
        rfl
      remaining := ⟨_, ipInfoJsonLen_eq hhead, Nat.le_of_lt hhead⟩
      whole := ⟨_, htext, List.prefix_append _ _⟩ }

/-! ### Both -/

/-- **When the buffers are large enough.** -/
theorem jsonBuffers_iff :
    (∀ (b : Buffer Byte (15 * 99 + 4)) (oneAp : Buffer Byte 99) (records : List (ApRecord ρ)),
      (wifiManagerGenerateAcessPointsJson b oneAp records).isSome = true ↔
        (records.map recordLength).sum ≤ 1487) ∧
    ∀ (config : StaConfig) (reason : UpdateReason) (info : IpInfo),
      IpInfoSafe config reason info ↔
        escapedLength config.ssidString + addressesLength reason info ≤ 110 := by
  constructor
  · intro b oneAp records
    rw [isSome_generate_iff]
    omega
  · exact ipInfoSafe_iff_length

/-- An SSID of quotation marks. -/
def quoted : ApRecord Unit where
  ssid := ⟨List.replicate 32 0x22, by decide, by decide⟩
  primary := 12
  rssi := 0x9c
  authmode := 4
  rest := ()

/-- Quotation marks in fifteen SSIDs, and control characters in one. -/
theorem not_jsonBuffers :
    ¬ (∀ (b : Buffer Byte (15 * 99 + 4)) (oneAp : Buffer Byte 99)
      (records : List (ApRecord Unit)), records.length ≤ 15 →
        (wifiManagerGenerateAcessPointsJson b oneAp records).isSome = true) ∧
    ¬ ∀ (config : StaConfig) (reason : UpdateReason) (info : IpInfo),
      IpInfoSafe config reason info := by
  constructor
  · intro h
    have hlen : (List.replicate 15 quoted).length ≤ 15 := List.length_replicate.le
    have hfits := h (.fill _ 0) (.fill _ 0) (List.replicate 15 quoted) hlen
    rw [isSome_generate_iff, List.map_replicate] at hfits
    revert hfits
    decide +kernel
  · intro h
    have hinside := (h ⟨⟨.replicate 32 0x01, by decide⟩, .fill 64 0⟩ .failedAttempt
      ⟨⟨[], by decide, by decide⟩, ⟨[], by decide, by decide⟩, ⟨[], by decide, by decide⟩⟩).inside
    revert hinside
    decide +kernel

end Datk.Wifi
