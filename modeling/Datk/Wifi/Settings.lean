import Datk.Basic
import Datk.Lib.Buffer

/-!
# The Wi-Fi settings in flash

`wifi_manager_save_sta_config` writes the SSID, the password and the settings to NVS,
each only if a comparison with what is stored sees a difference.  Where nothing is
stored, it compares with zeros.  `wifi_manager_fetch_wifi_sta_config` reads the three
back.  All calls of NVS succeed; to read a blob that is not there is no failure.

The strings are compared with `strcmp`, which goes on behind an array that is full.
That does no harm (`strcmp_eq_false`, `settingsDiffer_eq_false_iff`).  But the settings
are compared field by field, and two fields are left out.  `restores_iff` says when
saving and fetching restores what was saved.
-/

namespace Datk.Wifi.Settings

open Lib (Buffer)

/-- A string for an array of `n` bytes. -/
structure Text (n : Nat) where
  chars : List Byte
  noNul : 0 ∉ chars
  fits : chars.length ≤ n

/-- The array, filled up with zeros. -/
def Text.array {n : Nat} (t : Text n) : Buffer Byte n :=
  ⟨Buffer.padded 0 t.chars n, Buffer.length_padded _ _⟩

/-- `wifi_config_t`. -/
structure StaConfig where
  ssid : Buffer Byte 32
  password : Buffer Byte 64
  /-- The fields behind, without the zeros at the end. -/
  others : List Byte

structure IpInfo where
  ip : BitVec 32
  netmask : BitVec 32
  gw : BitVec 32
  deriving DecidableEq

/-- `wifi_settings_t`. -/
structure WifiSettings where
  apSsid : Buffer Byte 32
  apPwd : Buffer Byte 64
  apChannel : Byte
  apSsidHidden : Byte
  apBandwidth : BitVec 32
  staOnly : Bool
  staPowerSave : BitVec 32
  staStaticIp : Bool
  staStaticIpConfig : IpInfo
  deriving DecidableEq

def StaConfig.zero : StaConfig := ⟨.fill 32 0, .fill 64 0, []⟩

def WifiSettings.zero : WifiSettings :=
  ⟨.fill 32 0, .fill 64 0, 0, 0, 0, false, 0, false, ⟨0, 0, 0⟩⟩

/-! ### The comparisons -/

/-- Whether `strcmp(p, q)` is not zero, given the memory from `p` and from `q` on. -/
def strcmp (p q : List Byte) : Bool := p.takeWhile (· ≠ 0) ≠ q.takeWhile (· ≠ 0)

/-- The memory from the SSID on. -/
def StaConfig.fromSsid (c : StaConfig) : List Byte := c.ssid.cells ++ (c.password.cells ++ c.others)

def StaConfig.fromPassword (c : StaConfig) : List Byte := c.password.cells ++ c.others

/-- The two bytes behind `ap_ssid_hidden` align the next field, and are zero. -/
def WifiSettings.fromApPwd (s : WifiSettings) : List Byte :=
  s.apPwd.cells ++ [s.apChannel, s.apSsidHidden, 0, 0]

def WifiSettings.fromApSsid (s : WifiSettings) : List Byte := s.apSsid.cells ++ s.fromApPwd

def settingsDiffer (a b : WifiSettings) : Bool :=
  strcmp a.fromApSsid b.fromApSsid || strcmp a.fromApPwd b.fromApPwd ||
    a.apSsidHidden ≠ b.apSsidHidden || a.apBandwidth ≠ b.apBandwidth || a.staOnly ≠ b.staOnly ||
    a.staPowerSave ≠ b.staPowerSave || a.apChannel ≠ b.apChannel

/-! ### Saving and fetching -/

/-- The blobs `ssid`, `password` and `settings`. -/
structure Nvs where
  ssid : Option (Buffer Byte 32)
  password : Option (Buffer Byte 64)
  settings : Option WifiSettings

inductive EspErr
  | ok
  | nvsNotFound
  deriving DecidableEq

structure Saved where
  err : EspErr
  nvs : Nvs
  /-- `nvs_sync_unlock` has been called. -/
  unlocked : Bool

/-- `wifi_manager_save_sta_config`. -/
def saveStaConfig (nvs : Nvs) (c : StaConfig) (s : WifiSettings) : Saved :=
  let tmpConf := { StaConfig.zero with ssid := nvs.ssid.getD StaConfig.zero.ssid }
  let ssid := strcmp tmpConf.fromSsid c.fromSsid
  let tmpConf := { tmpConf with password := nvs.password.getD tmpConf.password }
  let password := strcmp tmpConf.fromPassword c.fromPassword
  let settings := settingsDiffer (nvs.settings.getD WifiSettings.zero) s
  let written : Nvs := {
    ssid := if ssid then some c.ssid else nvs.ssid
    password := if password then some c.password else nvs.password
    settings := if settings then some s else nvs.settings }
  -- `esp_err` is that of the last call: the commit, or the last blob that was read.
  let err : EspErr :=
    if ssid || password || settings then .ok
    else if nvs.settings.isSome then .ok else .nvsNotFound
  ⟨err, written, err = .ok⟩

structure Ram where
  /-- `wifi_manager_config_sta`, unless it is `NULL`. -/
  config : Option StaConfig
  settings : WifiSettings

/-- `wifi_manager_fetch_wifi_sta_config` after a save: what it returns, and the memory.
It is `none` if the lock is never given back. -/
def fetchWifiStaConfig (m : Saved) (ram : Ram) : Option (Bool × Ram) :=
  if m.unlocked then
    let ram := { ram with config := some .zero }
    match m.nvs.ssid with
    | none => some (false, ram)
    | some ssid =>
      let ram := { ram with config := some { StaConfig.zero with ssid := ssid } }
      match m.nvs.password with
      | none => some (false, ram)
      | some password =>
        let c : StaConfig := { StaConfig.zero with ssid := ssid, password := password }
        let ram := { ram with config := some c }
        match m.nvs.settings with
        | none => some (false, ram)
        | some settings =>
          some (c.ssid.cells.head? ≠ some 0, { ram with settings := settings })
  else none

/-- The configuration with an SSID and a password. -/
def staConfig (ssid : Text 32) (password : Text 64) (others : List Byte) : StaConfig :=
  ⟨ssid.array, password.array, others⟩

/-- The contents of NVS that come of saving. -/
inductive Produced : Nvs → Prop
  | empty : Produced ⟨none, none, none⟩
  | save {nvs : Nvs} (ssid : Text 32) (password : Text 64) (others : List Byte)
      (s : WifiSettings) : Produced nvs →
      Produced (saveStaConfig nvs (staConfig ssid password others) s).nvs

/-- **Saving stores everything, and fetching restores it.** -/
structure Restores (nvs : Nvs) (ssid : Text 32) (password : Text 64) (others : List Byte)
    (s : WifiSettings) : Prop where
  saved : (saveStaConfig nvs (staConfig ssid password others) s).nvs =
    ⟨some ssid.array, some password.array, some s⟩
  fetched : ∀ ram, ∃ r c, fetchWifiStaConfig
      (saveStaConfig nvs (staConfig ssid password others) s) ram = some (r, ⟨some c, s⟩) ∧
    c.ssid = ssid.array ∧ c.password = password.array ∧ (r = true ↔ ssid.chars ≠ [])

/-- The settings agree in all that is compared. -/
structure Agree (a b : WifiSettings) : Prop where
  apSsid : a.apSsid.cells.takeWhile (· ≠ 0) = b.apSsid.cells.takeWhile (· ≠ 0)
  apPwd : a.apPwd.cells.takeWhile (· ≠ 0) = b.apPwd.cells.takeWhile (· ≠ 0)
  apChannel : a.apChannel = b.apChannel
  apSsidHidden : a.apSsidHidden = b.apSsidHidden
  apBandwidth : a.apBandwidth = b.apBandwidth
  staOnly : a.staOnly = b.staOnly
  staPowerSave : a.staPowerSave = b.staPowerSave

/-- What is stored and is to change can be seen to change, and what is not stored is not
blank. -/
structure Seen (nvs : Nvs) (ssid : Text 32) (password : Text 64) (s : WifiSettings) : Prop where
  ssid : nvs.ssid = none → ssid.chars ≠ []
  password : nvs.password = none → password.chars ≠ []
  settings : ∀ old, nvs.settings = some old → Agree old s → old = s
  blank : nvs.settings = none → ¬ Agree .zero s

/-! ### Strings that fill their array -/

theorem array_cells {n : Nat} (t : Text n) :
    t.array.cells = t.chars ++ List.replicate (n - t.chars.length) 0 := by
  have hfits : t.chars.take n = t.chars := List.take_of_length_le t.fits
  show Buffer.padded 0 t.chars n = _
  rw [Buffer.padded, Buffer.takeWhile_of_notMem t.noNul, hfits]

def Text.empty (n : Nat) : Text n := ⟨[], List.not_mem_nil, Nat.zero_le n⟩

theorem buffer_ext {n : Nat} {a b : Buffer Byte n} (h : a.cells = b.cells) : a = b := by
  cases a
  cases b
  cases h
  rfl

theorem fill_eq_array (n : Nat) : Buffer.fill n 0 = (Text.empty n).array := by
  apply buffer_ext
  rw [array_cells]
  rfl

theorem takeWhile_replicate_zero (k : Nat) (rest : List Byte) :
    (List.replicate (k + 1) 0 ++ rest).takeWhile (· ≠ (0 : Byte)) = [] := by
  rw [List.replicate_succ, List.cons_append, List.takeWhile_cons, if_neg (by simp)]

/-- What `strcmp` sees of an array: its string, and what is behind it if it is full. -/
theorem takeWhile_array {n : Nat} (t : Text n) (rest : List Byte) :
    (t.array.cells ++ rest).takeWhile (· ≠ 0) =
      if t.chars.length < n then t.chars else t.chars ++ rest.takeWhile (· ≠ 0) := by
  have hall : ∀ a ∈ t.chars, decide (a ≠ 0) = true := by
    intro a ha
    exact decide_eq_true fun hzero => t.noNul (hzero ▸ ha)
  rw [array_cells, List.append_assoc, List.takeWhile_append_of_pos hall]
  by_cases hlt : t.chars.length < n
  · obtain ⟨k, hk⟩ := Nat.exists_eq_add_of_lt hlt
    rw [if_pos hlt, show n - t.chars.length = k + 1 by omega, takeWhile_replicate_zero,
      List.append_nil]
  · rw [if_neg hlt, show n - t.chars.length = 0 by omega]
    rfl

/-- **A comparison that sees no difference is right**, though it may go on behind the
second array. -/
theorem strcmp_eq_false {n : Nat} {t u : Text n} {rest rest' : List Byte}
    (hrest : rest.takeWhile (· ≠ 0) = [])
    (h : strcmp (t.array.cells ++ rest) (u.array.cells ++ rest') = false) : t.chars = u.chars := by
  rw [strcmp, decide_eq_false_iff_not, not_not, takeWhile_array, takeWhile_array, hrest,
    List.append_nil, ite_self] at h
  by_cases hlt : u.chars.length < n
  · rw [if_pos hlt] at h
    exact h
  · rw [if_neg hlt] at h
    -- The second array is full, so there is no room for more in the first.
    have hlen := congrArg List.length h
    rw [List.length_append] at hlen
    have hnone : rest'.takeWhile (· ≠ 0) = [] := by
      apply List.eq_nil_of_length_eq_zero
      have hfits := t.fits
      omega
    rw [hnone, List.append_nil] at h
    exact h

theorem array_congr {n : Nat} {t u : Text n} (h : t.chars = u.chars) : t.array = u.array := by
  cases t
  cases u
  cases h
  rfl

/-- A blob that has only been written by saving. -/
def Stored {n : Nat} (b : Option (Buffer Byte n)) : Prop :=
  ∀ a, b = some a → ∃ t : Text n, a = t.array

/-- What is written if the comparison sees a difference is there in any case, unless
nothing was stored and nothing is to be. -/
theorem written_iff {n : Nat} (hn : 0 < n) {b : Option (Buffer Byte n)} (hb : Stored b)
    (u : Text n) {rest : List Byte} (rest' : List Byte) (hrest : rest.takeWhile (· ≠ 0) = []) :
    (if strcmp ((b.getD (.fill n 0)).cells ++ rest) (u.array.cells ++ rest') then some u.array
      else b) = some u.array ↔ (b = none → u.chars ≠ []) := by
  cases b with
  | none =>
    show (if strcmp ((Buffer.fill n 0).cells ++ rest) _ then _ else _) = _ ↔ _
    rw [fill_eq_array]
    by_cases hdiffer : strcmp ((Text.empty n).array.cells ++ rest) (u.array.cells ++ rest') = true
    · rw [if_pos hdiffer]
      refine ⟨fun _ _ hnil => ?_, fun _ => rfl⟩
      have heq : u.array = (Text.empty n).array := array_congr hnil
      have hempty : (Text.empty n).chars.length < n := hn
      rw [strcmp, decide_eq_true_eq, heq, takeWhile_array, takeWhile_array, if_pos hempty,
        if_pos hempty] at hdiffer
      exact hdiffer rfl
    · rw [if_neg hdiffer]
      have hnil := strcmp_eq_false hrest (Bool.eq_false_iff.mpr hdiffer)
      refine ⟨fun h => ?_, fun h => absurd hnil.symm (h rfl)⟩
      cases h
  | some a =>
    obtain ⟨t, rfl⟩ := hb a rfl
    refine ⟨fun _ h => ?_, fun _ => ?_⟩
    · cases h
    · by_cases hdiffer : strcmp (t.array.cells ++ rest) (u.array.cells ++ rest') = true
      · exact if_pos hdiffer
      · have hchars := strcmp_eq_false hrest (Bool.eq_false_iff.mpr hdiffer)
        exact (if_neg hdiffer).trans (congrArg some (array_congr hchars))

/-! ### The settings -/

/-- Behind arrays of one size, what follows matters only if it differs. -/
theorem takeWhile_cells {n : Nat} {a b : Buffer Byte n} {rest rest' : List Byte}
    (hrest : rest.takeWhile (· ≠ 0) = rest'.takeWhile (· ≠ 0)) :
    (a.cells ++ rest).takeWhile (· ≠ 0) = (b.cells ++ rest').takeWhile (· ≠ 0) ↔
      a.cells.takeWhile (· ≠ 0) = b.cells.takeWhile (· ≠ 0) := by
  have hfull : ∀ c : Buffer Byte n, (c.cells.takeWhile (· ≠ 0)).length = n →
      c.cells.takeWhile (· ≠ 0) = c.cells := by
    intro c hc
    exact (List.takeWhile_prefix _).eq_of_length (hc.trans c.size.symm)
  rw [List.takeWhile_append, List.takeWhile_append, hrest, a.size, b.size]
  by_cases ha : (a.cells.takeWhile (· ≠ 0)).length = n
  · by_cases hb : (b.cells.takeWhile (· ≠ 0)).length = n
    · rw [if_pos ha, if_pos hb, hfull a ha, hfull b hb, List.append_cancel_right_eq]
    · rw [if_pos ha, if_neg hb]
      refine ⟨fun h => ?_, fun h => absurd (h ▸ ha) hb⟩
      have hlen := congrArg List.length h
      have hle := (List.takeWhile_prefix (l := b.cells) (· ≠ 0)).length_le
      rw [List.length_append, a.size] at hlen
      rw [b.size] at hle
      omega
  · by_cases hb : (b.cells.takeWhile (· ≠ 0)).length = n
    · rw [if_neg ha, if_pos hb]
      refine ⟨fun h => ?_, fun h => absurd (h.symm ▸ hb) ha⟩
      have hlen := congrArg List.length h
      have hle := (List.takeWhile_prefix (l := a.cells) (· ≠ 0)).length_le
      rw [List.length_append, b.size] at hlen
      rw [a.size] at hle
      omega
    · rw [if_neg ha, if_neg hb]

theorem strcmp_eq_false_iff {p q : List Byte} :
    strcmp p q = false ↔ p.takeWhile (· ≠ 0) = q.takeWhile (· ≠ 0) := by
  rw [strcmp, decide_eq_false_iff_not, not_not]

/-- **What the comparison of the settings sees.** -/
theorem settingsDiffer_eq_false_iff {a b : WifiSettings} :
    settingsDiffer a b = false ↔ Agree a b := by
  simp only [settingsDiffer, Bool.or_eq_false_iff, strcmp_eq_false_iff, decide_eq_false_iff_not,
    not_not]
  constructor
  · rintro ⟨⟨⟨⟨⟨⟨hssid, hpwd⟩, hhidden⟩, hbandwidth⟩, honly⟩, hpower⟩, hchannel⟩
    have hssid := (takeWhile_cells hpwd).mp hssid
    have hpwd := (takeWhile_cells (by rw [hhidden, hchannel])).mp hpwd
    exact ⟨hssid, hpwd, hchannel, hhidden, hbandwidth, honly, hpower⟩
  · rintro ⟨hssid, hpwd, hchannel, hhidden, hbandwidth, honly, hpower⟩
    have hpwd : a.fromApPwd.takeWhile (· ≠ 0) = b.fromApPwd.takeWhile (· ≠ 0) :=
      (takeWhile_cells (by rw [hhidden, hchannel])).mpr hpwd
    exact ⟨⟨⟨⟨⟨⟨(takeWhile_cells hpwd).mpr hssid, hpwd⟩, hhidden⟩, hbandwidth⟩, honly⟩, hpower⟩,
      hchannel⟩

/-! ### What saving leaves in flash -/

variable {nvs : Nvs}

theorem Stored.write {n : Nat} {b : Option (Buffer Byte n)} (hb : Stored b) (u : Text n)
    (differs : Bool) : Stored (if differs then some u.array else b) := by
  cases differs with
  | false => exact hb
  | true =>
    intro a ha
    cases ha
    exact ⟨u, rfl⟩

theorem Produced.stored (h : Produced nvs) : Stored nvs.ssid ∧ Stored nvs.password := by
  induction h with
  | empty =>
    constructor
    · intro a ha
      cases ha
    · intro a ha
      cases ha
  | save ssid password others s _ ih => exact ⟨ih.1.write ssid _, ih.2.write password _⟩

variable {ssid : Text 32} {password : Text 64} {others : List Byte} {s : WifiSettings}

theorem settings_written_iff (old : Option WifiSettings) (s : WifiSettings) :
    (if settingsDiffer (old.getD .zero) s then some s else old) = some s ↔
      (∀ a, old = some a → Agree a s → a = s) ∧ (old = none → ¬ Agree .zero s) := by
  cases old with
  | none =>
    show (if settingsDiffer .zero s then some s else none) = some s ↔ _
    by_cases hdiffer : settingsDiffer .zero s = true
    · rw [if_pos hdiffer]
      refine ⟨fun _ => ⟨fun a ha => ?_, fun _ hagree => ?_⟩, fun _ => rfl⟩
      · cases ha
      · rw [settingsDiffer_eq_false_iff.mpr hagree] at hdiffer
        cases hdiffer
    · have hagree := settingsDiffer_eq_false_iff.mp (Bool.eq_false_iff.mpr hdiffer)
      rw [if_neg hdiffer]
      refine ⟨fun h => ?_, fun h => absurd hagree (h.2 rfl)⟩
      cases h
  | some a =>
    show (if settingsDiffer a s then some s else some a) = some s ↔ _
    by_cases hdiffer : settingsDiffer a s = true
    · rw [if_pos hdiffer]
      refine ⟨fun _ => ⟨fun b hb hagree => ?_, fun h => ?_⟩, fun _ => rfl⟩
      · cases hb
        rw [settingsDiffer_eq_false_iff.mpr hagree] at hdiffer
        cases hdiffer
      · cases h
    · have hagree := settingsDiffer_eq_false_iff.mp (Bool.eq_false_iff.mpr hdiffer)
      rw [if_neg hdiffer, Option.some.injEq]
      refine ⟨fun h => ⟨fun b hb _ => ?_, fun h => ?_⟩, fun h => h.1 a rfl hagree⟩
      · cases hb
        exact h
      · cases h

/-- **What is in flash after saving.** -/
theorem saved_iff (h : Produced nvs) :
    (saveStaConfig nvs (staConfig ssid password others) s).nvs =
      ⟨some ssid.array, some password.array, some s⟩ ↔ Seen nvs ssid password s := by
  obtain ⟨hssid, hpassword⟩ := h.stored
  have hzeros : ((Buffer.fill 64 (0 : Byte)).cells ++ []).takeWhile (· ≠ 0) = [] := by decide
  have hs := written_iff (by decide) hssid ssid (password.array.cells ++ others) hzeros
  have hp := written_iff (by decide) hpassword password others List.takeWhile_nil
  have hset := settings_written_iff nvs.settings s
  rw [saveStaConfig, Nvs.mk.injEq]
  constructor
  · rintro ⟨h1, h2, h3⟩
    exact ⟨hs.mp h1, hp.mp h2, (hset.mp h3).1, (hset.mp h3).2⟩
  · rintro ⟨h1, h2, h3, h4⟩
    exact ⟨hs.mpr h1, hp.mpr h2, hset.mpr ⟨h3, h4⟩⟩

/-- If the settings are stored in the end, the lock has been given back. -/
theorem unlocked_of_saved {c : StaConfig} (h : (saveStaConfig nvs c s).nvs.settings = some s) :
    (saveStaConfig nvs c s).unlocked = true := by
  simp only [saveStaConfig] at h ⊢
  by_cases hsettings : settingsDiffer (nvs.settings.getD .zero) s = true
  · simp [hsettings]
  · rw [if_neg hsettings] at h
    simp [h]

theorem head_array (t : Text 32) : t.array.cells.head? ≠ some 0 ↔ t.chars ≠ [] := by
  rw [array_cells]
  cases hchars : t.chars with
  | nil => simp [List.replicate_succ]
  | cons a as =>
    have hne : a ≠ 0 := fun hzero => t.noNul (by rw [hchars, hzero]; exact List.mem_cons_self)
    simp only [List.cons_append, List.head?_cons, ne_eq, Option.some.injEq, hne, not_false_eq_true,
      reduceCtorEq]

/-- **What is saved is restored**, if and only if every change can be seen and nothing
is left blank. -/
theorem restores_iff (h : Produced nvs) (ssid : Text 32) (password : Text 64)
    (others : List Byte) (s : WifiSettings) :
    Restores nvs ssid password others s ↔ Seen nvs ssid password s := by
  constructor
  · intro hr
    exact (saved_iff h).mp hr.saved
  · intro hseen
    have hsaved : (saveStaConfig nvs (staConfig ssid password others) s).nvs =
        ⟨some ssid.array, some password.array, some s⟩ := (saved_iff h).mpr hseen
    have hunlocked : (saveStaConfig nvs (staConfig ssid password others) s).unlocked = true :=
      unlocked_of_saved (by rw [hsaved])
    refine ⟨hsaved, fun ram => ⟨ssid.array.cells.head? ≠ some 0, staConfig ssid password [], ?_,
      rfl, rfl, ?_⟩⟩
    · rw [fetchWifiStaConfig, if_pos hunlocked, hsaved]
      rfl
    · rw [decide_eq_true_iff]
      exact head_array ssid

/-! ### Examples -/

def network : Text 32 := ⟨[0x6e], by decide, by decide⟩

def passphrase : Text 64 := ⟨[0x70], by decide, by decide⟩

/-- The settings after a start, with an access point `esp32`. -/
def factory : WifiSettings :=
  { WifiSettings.zero with
    apSsid := (Text.mk [0x65, 0x73, 0x70, 0x33, 0x32] (by decide) (by decide)).array
    apChannel := 5
    apBandwidth := 1
    staOnly := true }

/-- The first network is saved. -/
theorem restores_first : Restores ⟨none, none, none⟩ network passphrase [] factory := by
  refine (restores_iff .empty network passphrase [] factory).mpr ⟨?_, ?_, ?_, ?_⟩
  · intro _
    decide
  · intro _
    decide
  · intro old hold
    cases hold
  · intro _ hagree
    exact absurd hagree.staOnly (by decide)

/-- A static address is configured for the network that is stored. -/
theorem not_restores : ¬ ∀ nvs, Produced nvs → ∀ ssid password others s,
    Restores nvs ssid password others s := by
  intro h
  have hfirst := Produced.empty.save network passphrase [] factory
  have hsecond := (h _ hfirst network passphrase [] { factory with staStaticIp := true }).saved
  exact absurd (congrArg Nvs.settings hsecond) (by decide +kernel)

end Datk.Wifi.Settings
