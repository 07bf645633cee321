import Datk.Wifi.Settings

/-!
# The flash store when its calls fail

`wifi_manager_save_sta_config` and `wifi_manager_fetch_wifi_sta_config` take the mutex
`nvs_sync`, open the store, and return from many places.  `Wifi/Settings.lean` is about
what they read and write.  Here any call of NVS may fail, and what counts is whether the
mutex is given back and the store closed.

* Where `nvs_get_blob` or `nvs_set_blob` fails, the mutex is given back, and the store
  is left open.
* At the end of a save, with an error in `esp_err`, neither is done.  It may be the error
  of the commit, or, if nothing had to be written, that of the last blob read, and that
  there is no such blob is an error too.

After the second kind the next call waits for ever.  `released_iff` says exactly which
calls leave neither behind.
-/

namespace Datk.Wifi.Flash

open Lib (Buffer)
open Settings (StaConfig WifiSettings Ram strcmp settingsDiffer)

/-- The errors of NVS. -/
inductive NvsError
  | notFound
  | other (code : Nat)
  deriving DecidableEq

/-- `esp_err_t`. -/
inductive EspErr
  | ok
  | err (e : NvsError)
  deriving DecidableEq

/-- What `nvs_get_blob` returns, and reads. -/
abbrev Got (α : Type) := Except NvsError α

def Got.espErr {α : Type} : Got α → EspErr
  | .ok _ => .ok
  | .error e => .err e

/-- What the buffer holds that had `a` in it. -/
def Got.getD {α : Type} (a : α) : Got α → α
  | .ok blob => blob
  | .error _ => a

/-! ### The mutex and the handles -/

structure Store where
  /-- `nvs_sync_create` has succeeded. -/
  created : Bool
  /-- The mutex is taken. -/
  taken : Bool
  /-- How many handles are open. -/
  handles : Nat
  deriving DecidableEq

/-- `nvs_sync_lock(portMAX_DELAY)`; it is `none` if it does not return. -/
def nvsSyncLock (s : Store) : Option (Bool × Store) :=
  if s.created then if s.taken then none else some (true, { s with taken := true })
  else some (false, s)

def nvsSyncUnlock (s : Store) : Store := { s with taken := false }

/-- `nvs_open`, where it succeeds. -/
def nvsOpen (s : Store) : Store := { s with handles := s.handles + 1 }

def nvsClose (s : Store) : Store := { s with handles := s.handles - 1 }

/-! ### Saving -/

/-- What the calls of NVS in `wifi_manager_save_sta_config` return. -/
structure SaveResults where
  nvsOpen : EspErr
  getSsid : Got (Buffer Byte 32)
  setSsid : EspErr
  getPassword : Got (Buffer Byte 64)
  setPassword : EspErr
  getSettings : Got WifiSettings
  setSettings : EspErr
  commit : EspErr

/-- Reads a blob, and writes it if it differs: `esp_err`, and whether it was written, or
the error that is returned at once. -/
def saveBlob {α : Type} (get : Got α) (differs : Bool) (set : EspErr) :
    Except EspErr (EspErr × Bool) :=
  if (get.espErr = .ok ∨ get.espErr = .err .notFound) ∧ differs = true then
    if set ≠ .ok then .error set else .ok (.ok, true)
  else .ok (get.espErr, false)

namespace SaveResults

variable (r : SaveResults) (c : StaConfig) (settings : WifiSettings)

def ssidDiffers : Bool :=
  strcmp { StaConfig.zero with ssid := r.getSsid.getD StaConfig.zero.ssid }.fromSsid c.fromSsid

def passwordDiffers : Bool :=
  strcmp { StaConfig.zero with
    ssid := r.getSsid.getD StaConfig.zero.ssid
    password := r.getPassword.getD StaConfig.zero.password }.fromPassword c.fromPassword

def settingsDiffer : Bool := Settings.settingsDiffer (r.getSettings.getD WifiSettings.zero) settings

/-- The three blobs: `esp_err`, and `change`. -/
def saveBlobs : Except EspErr (EspErr × Bool) := do
  let (_, ssid) ← saveBlob r.getSsid (r.ssidDiffers c) r.setSsid
  let (_, password) ← saveBlob r.getPassword (r.passwordDiffers c) r.setPassword
  let (espErr, settings) ← saveBlob r.getSettings (r.settingsDiffer settings) r.setSettings
  return (espErr, ssid || password || settings)

/-- `wifi_manager_save_sta_config` once it has the mutex. -/
def saveLocked (s : Store) : EspErr × Store :=
  if r.nvsOpen ≠ .ok then (r.nvsOpen, nvsSyncUnlock s)
  else
    let s := Flash.nvsOpen s
    match r.saveBlobs c settings with
    | .error e => (e, nvsSyncUnlock s)
    | .ok (espErr, change) =>
      let espErr := if change then r.commit else espErr
      -- this return is without `nvs_close` and `nvs_sync_unlock`
      if espErr ≠ .ok then (espErr, s) else (.ok, nvsSyncUnlock (nvsClose s))

end SaveResults

/-- `wifi_manager_save_sta_config`. -/
def saveStaConfig (r : SaveResults) (ram : Ram) (s : Store) : Option (EspErr × Store) :=
  match ram.config with
  | none => some (.ok, s)
  | some c => (nvsSyncLock s).map fun (locked, s) =>
    if locked then r.saveLocked c ram.settings s else (.ok, s)

/-! ### Fetching -/

/-- What the calls of NVS in `wifi_manager_fetch_wifi_sta_config` return. -/
structure FetchResults where
  nvsOpen : EspErr
  getSsid : Got (Buffer Byte 32)
  getPassword : Got (Buffer Byte 64)
  getSettings : Got WifiSettings

/-- `wifi_manager_fetch_wifi_sta_config` once it has the mutex. -/
def FetchResults.fetchLocked (r : FetchResults) (ram : Ram) (s : Store) : Bool × Ram × Store :=
  if r.nvsOpen ≠ .ok then (false, ram, nvsSyncUnlock s)
  else
    let s := Flash.nvsOpen s
    let ram := { ram with config := some .zero }
    match r.getSsid with
    | .error _ => (false, ram, nvsSyncUnlock s)
    | .ok ssid =>
      let ram := { ram with config := some { StaConfig.zero with ssid := ssid } }
      match r.getPassword with
      | .error _ => (false, ram, nvsSyncUnlock s)
      | .ok password =>
        let c : StaConfig := { StaConfig.zero with ssid := ssid, password := password }
        let ram := { ram with config := some c }
        match r.getSettings with
        | .error _ => (false, ram, nvsSyncUnlock s)
        | .ok settings =>
          (c.ssid.cells.head? ≠ some 0, { ram with settings := settings },
            nvsSyncUnlock (nvsClose s))

/-- `wifi_manager_fetch_wifi_sta_config`. -/
def fetchWifiStaConfig (r : FetchResults) (ram : Ram) (s : Store) : Option (Bool × Ram × Store) :=
  (nvsSyncLock s).map fun (locked, s) =>
    if locked then r.fetchLocked ram s else (false, ram, s)

/-! ### Sequences of calls -/

/-- A call, with the memory that it finds. -/
inductive Call
  | save (r : SaveResults) (ram : Ram)
  | fetch (r : FetchResults) (ram : Ram)

/-- The store after a call; `none` if it does not return. -/
def Call.run : Call → Store → Option Store
  | .save r ram, s => (saveStaConfig r ram s).map Prod.snd
  | .fetch r ram, s => (fetchWifiStaConfig r ram s).map fun result => result.2.2

def Store.boot (created : Bool) : Store := ⟨created, false, 0⟩

/-- **Every call returns**, with the mutex given back and the store closed. -/
def Released : List Call → Store → Prop
  | [], _ => True
  | c :: cs, s => ∃ s', c.run s = some s' ∧ s'.taken = false ∧ s'.handles = s.handles ∧
    Released cs s'

/-- A blob that has been read, or is not there, and differs, is written. -/
def Written {α : Type} (get : Got α) (differs : Bool) : Prop :=
  (get.espErr = .ok ∨ get.espErr = .err .notFound) ∧ differs = true

instance {α : Type} (get : Got α) (differs : Bool) : Decidable (Written get differs) :=
  inferInstanceAs (Decidable (_ ∧ _))

/-- Something is written. -/
def SaveResults.Changes (r : SaveResults) (c : StaConfig) (settings : WifiSettings) : Prop :=
  Written r.getSsid (r.ssidDiffers c) ∨ Written r.getPassword (r.passwordDiffers c) ∨
    Written r.getSettings (r.settingsDiffer settings)

instance (r : SaveResults) (c : StaConfig) (settings : WifiSettings) :
    Decidable (r.Changes c settings) := inferInstanceAs (Decidable (_ ∨ _ ∨ _))

/-- What is written is written without errors, and so is the commit.  If nothing is, the
settings are there. -/
structure SaveResults.Succeeds (r : SaveResults) (c : StaConfig) (settings : WifiSettings) :
    Prop where
  setSsid : Written r.getSsid (r.ssidDiffers c) → r.setSsid = .ok
  setPassword : Written r.getPassword (r.passwordDiffers c) → r.setPassword = .ok
  setSettings : Written r.getSettings (r.settingsDiffer settings) → r.setSettings = .ok
  commit : r.Changes c settings → r.commit = .ok
  getSettings : ¬ r.Changes c settings → r.getSettings.espErr = .ok

/-- The store is not opened, or all goes well. -/
def Call.Clean (created : Bool) : Call → Prop
  | .save r ram => created = true → r.nvsOpen = .ok →
    ∀ c, ram.config = some c → r.Succeeds c ram.settings
  | .fetch r _ => created = true → r.nvsOpen = .ok →
    r.getSsid.espErr = .ok ∧ r.getPassword.espErr = .ok ∧ r.getSettings.espErr = .ok

/-! ### One call -/

/-- The mutex is given back, and the store is closed. -/
def Restored (s s' : Store) : Prop := s'.taken = false ∧ s'.handles = s.handles

section

variable {s : Store}

theorem restored_unlock (s : Store) : Restored s (nvsSyncUnlock s) := ⟨rfl, rfl⟩

theorem restored_close (s : Store) : Restored s (nvsSyncUnlock (nvsClose (nvsOpen s))) := ⟨rfl, rfl⟩

theorem not_restored_open (s : Store) : ¬ Restored s (nvsSyncUnlock (nvsOpen s)) := by
  intro h
  have hhandles : s.handles + 1 = s.handles := h.2
  omega

theorem not_restored_taken (hs : s.taken = true) : ¬ Restored s (nvsOpen s) := by
  intro h
  have htaken : s.taken = false := h.1
  rw [hs] at htaken
  cases htaken

theorem saveBlob_ok {α : Type} {get : Got α} {differs : Bool} {set : EspErr}
    (h : Written get differs → set = .ok) : saveBlob get differs set =
      .ok (if Written get differs then .ok else get.espErr, decide (Written get differs)) := by
  by_cases hw : Written get differs
  · rw [if_pos hw, decide_eq_true hw]
    exact (if_pos hw).trans (if_neg (by simpa using h hw))
  · rw [if_neg hw, decide_eq_false hw]
    exact if_neg hw

theorem saveBlob_error {α : Type} {get : Got α} {differs : Bool} {set : EspErr}
    (h : ¬ (Written get differs → set = .ok)) : saveBlob get differs set = .error set := by
  obtain ⟨hw, hset⟩ := Classical.not_imp.mp h
  exact (if_pos hw).trans (if_pos hset)

variable {r : SaveResults} {c : StaConfig} {settings : WifiSettings}

/-- No write of a blob fails. -/
def SaveResults.Stores (r : SaveResults) (c : StaConfig) (settings : WifiSettings) : Prop :=
  (Written r.getSsid (r.ssidDiffers c) → r.setSsid = .ok) ∧
    (Written r.getPassword (r.passwordDiffers c) → r.setPassword = .ok) ∧
      (Written r.getSettings (r.settingsDiffer settings) → r.setSettings = .ok)

theorem saveBlobs_ok (h : r.Stores c settings) : r.saveBlobs c settings =
    .ok (if Written r.getSettings (r.settingsDiffer settings) then .ok
      else r.getSettings.espErr, decide (r.Changes c settings)) := by
  obtain ⟨hssid, hpassword, hsettings⟩ := h
  have hchange : decide (r.Changes c settings) =
      (decide (Written r.getSsid (r.ssidDiffers c)) ||
        decide (Written r.getPassword (r.passwordDiffers c)) ||
          decide (Written r.getSettings (r.settingsDiffer settings))) := by
    rw [Bool.or_assoc, ← Bool.decide_or, ← Bool.decide_or]
    rfl
  rw [SaveResults.saveBlobs, saveBlob_ok hssid, saveBlob_ok hpassword, saveBlob_ok hsettings,
    hchange]
  rfl

theorem saveBlobs_error (h : ¬ r.Stores c settings) :
    ∃ e, r.saveBlobs c settings = .error e := by
  rw [SaveResults.saveBlobs]
  by_cases hssid : Written r.getSsid (r.ssidDiffers c) → r.setSsid = .ok
  · by_cases hpassword : Written r.getPassword (r.passwordDiffers c) → r.setPassword = .ok
    · have hsettings : ¬ (Written r.getSettings (r.settingsDiffer settings) →
          r.setSettings = .ok) := fun hsettings => h ⟨hssid, hpassword, hsettings⟩
      rw [saveBlob_ok hssid, saveBlob_ok hpassword, saveBlob_error hsettings]
      exact ⟨_, rfl⟩
    · rw [saveBlob_ok hssid, saveBlob_error hpassword]
      exact ⟨_, rfl⟩
  · rw [saveBlob_error hssid]
    exact ⟨_, rfl⟩

/-- What is last in `esp_err`, if no write fails. -/
theorem last_eq_ok_iff (h : r.Stores c settings) :
    (if decide (r.Changes c settings) = true then r.commit
      else if Written r.getSettings (r.settingsDiffer settings) then .ok
        else r.getSettings.espErr) = .ok ↔ r.Succeeds c settings := by
  obtain ⟨hssid, hpassword, hsettings⟩ := h
  by_cases hchange : r.Changes c settings
  · rw [decide_eq_true hchange, if_pos rfl]
    exact ⟨fun hcommit => ⟨hssid, hpassword, hsettings, fun _ => hcommit,
      fun hnot => absurd hchange hnot⟩, fun h => h.commit hchange⟩
  · have hnot : ¬ Written r.getSettings (r.settingsDiffer settings) :=
      fun h => hchange (.inr (.inr h))
    rw [decide_eq_false hchange, if_neg Bool.false_ne_true, if_neg hnot]
    exact ⟨fun hget => ⟨hssid, hpassword, hsettings, fun h => absurd h hchange, fun _ => hget⟩,
      fun h => h.getSettings hchange⟩

/-- The save reaches its end with `ESP_OK` exactly if all goes well. -/
theorem succeeds_iff : r.Succeeds c settings ↔ ∃ espErr change,
    r.saveBlobs c settings = .ok (espErr, change) ∧
      (if change = true then r.commit else espErr) = .ok := by
  by_cases hstores : r.Stores c settings
  · rw [saveBlobs_ok hstores, ← last_eq_ok_iff hstores]
    constructor
    · intro h
      exact ⟨_, _, rfl, h⟩
    · rintro ⟨_, _, heq, hlast⟩
      cases heq
      exact hlast
  · obtain ⟨e, he⟩ := saveBlobs_error hstores
    rw [he]
    refine iff_of_false (fun h => hstores ⟨h.setSsid, h.setPassword, h.setSettings⟩) ?_
    rintro ⟨_, _, heq, -⟩
    cases heq

theorem restored_saveLocked (hs : s.taken = true) :
    Restored s (r.saveLocked c settings s).2 ↔ (r.nvsOpen = .ok → r.Succeeds c settings) := by
  rw [SaveResults.saveLocked, succeeds_iff]
  by_cases hopen : r.nvsOpen = .ok
  · rw [if_neg (by simpa using hopen)]
    simp only [hopen, true_implies]
    cases hblobs : r.saveBlobs c settings with
    | error e => simp [not_restored_open]
    | ok result =>
      obtain ⟨espErr, change⟩ := result
      simp only [Except.ok.injEq, Prod.mk.injEq]
      by_cases hlast : (if change = true then r.commit else espErr) = .ok
      · rw [if_neg (by simpa using hlast)]
        exact iff_of_true (restored_close s) ⟨espErr, change, ⟨rfl, rfl⟩, hlast⟩
      · rw [if_pos hlast]
        refine iff_of_false (not_restored_taken hs) ?_
        rintro ⟨_, _, ⟨rfl, rfl⟩, h⟩
        exact hlast h
  · rw [if_pos hopen]
    exact iff_of_true (restored_unlock s) fun h => absurd h hopen

theorem restored_fetchLocked {f : FetchResults} {ram : Ram} :
    Restored s (f.fetchLocked ram s).2.2 ↔ (f.nvsOpen = .ok →
      f.getSsid.espErr = .ok ∧ f.getPassword.espErr = .ok ∧ f.getSettings.espErr = .ok) := by
  rw [FetchResults.fetchLocked]
  by_cases hopen : f.nvsOpen = .ok
  · rw [if_neg (by simpa using hopen)]
    simp only [hopen, true_implies]
    cases f.getSsid with
    | error e => exact iff_of_false (not_restored_open s) fun h => nomatch h.1
    | ok ssid =>
      cases f.getPassword with
      | error e => exact iff_of_false (not_restored_open s) fun h => nomatch h.2.1
      | ok password =>
        cases f.getSettings with
        | error e => exact iff_of_false (not_restored_open s) fun h => nomatch h.2.2
        | ok settings => exact iff_of_true (restored_close s) ⟨rfl, rfl, rfl⟩
  · rw [if_pos hopen]
    exact iff_of_true (restored_unlock s) fun h => absurd h hopen

theorem created_saveLocked : (r.saveLocked c settings s).2.created = s.created := by
  rw [SaveResults.saveLocked]
  split
  · rfl
  · dsimp only
    split
    · rfl
    · split
      · split
        · rfl
        · rfl
      · split
        · rfl
        · rfl

theorem created_fetchLocked {f : FetchResults} {ram : Ram} :
    (f.fetchLocked ram s).2.2.created = s.created := by
  rw [FetchResults.fetchLocked]
  split
  · rfl
  · dsimp only
    split
    · rfl
    · split
      · rfl
      · split
        · rfl
        · rfl

/-- **One call** on a free mutex returns, and leaves it free and the store closed exactly if
it is clean. -/
theorem run_spec (call : Call) (hs : s.taken = false) :
    ∃ s', call.run s = some s' ∧ s'.created = s.created ∧
      (Restored s s' ↔ call.Clean s.created) := by
  have hlock : nvsSyncLock s =
      if s.created = true then some (true, { s with taken := true }) else some (false, s) := by
    rw [nvsSyncLock, hs]
    rfl
  cases call with
  | save r ram =>
    cases hconfig : ram.config with
    | none =>
      refine ⟨s, by simp only [Call.run, saveStaConfig, hconfig]; rfl, rfl, ?_⟩
      refine iff_of_true ⟨hs, rfl⟩ fun _ _ c hc => ?_
      rw [hconfig] at hc
      cases hc
    | some c =>
      by_cases hcreated : s.created = true
      · rw [if_pos hcreated] at hlock
        refine ⟨(r.saveLocked c ram.settings { s with taken := true }).2, ?_,
          created_saveLocked, ?_⟩
        · simp only [Call.run, saveStaConfig, hconfig, hlock]
          rfl
        · have hiff : Restored { s with taken := true }
              (r.saveLocked c ram.settings { s with taken := true }).2 ↔
                (r.nvsOpen = .ok → r.Succeeds c ram.settings) := restored_saveLocked rfl
          refine hiff.trans ⟨?_, ?_⟩
          · intro h _ hopen c' hc'
            rw [hconfig, Option.some.injEq] at hc'
            exact hc' ▸ h hopen
          · intro h hopen
            exact h hcreated hopen c hconfig
      · rw [if_neg hcreated] at hlock
        refine ⟨s, by simp only [Call.run, saveStaConfig, hconfig, hlock]; rfl, rfl, ?_⟩
        exact iff_of_true ⟨hs, rfl⟩ fun h => absurd h hcreated
  | fetch f ram =>
    by_cases hcreated : s.created = true
    · rw [if_pos hcreated] at hlock
      refine ⟨(f.fetchLocked ram { s with taken := true }).2.2, ?_, created_fetchLocked, ?_⟩
      · simp only [Call.run, fetchWifiStaConfig, hlock]
        rfl
      · exact restored_fetchLocked.trans ⟨fun h _ => h, fun h => h hcreated⟩
    · rw [if_neg hcreated] at hlock
      refine ⟨s, by simp only [Call.run, fetchWifiStaConfig, hlock]; rfl, rfl, ?_⟩
      exact iff_of_true ⟨hs, rfl⟩ fun h => absurd h hcreated

/-! ### All calls -/

theorem released_iff_of_free (calls : List Call) : ∀ s : Store, s.taken = false →
    (Released calls s ↔ ∀ call ∈ calls, call.Clean s.created) := by
  induction calls with
  | nil =>
    intro s _
    exact iff_of_true trivial (List.forall_mem_nil _)
  | cons call calls ih =>
    intro s hs
    obtain ⟨s', hrun, hcreated, hclean⟩ := run_spec call hs
    rw [List.forall_mem_cons, Released]
    constructor
    · rintro ⟨t, ht, htaken, hhandles, hrest⟩
      rw [hrun, Option.some.injEq] at ht
      subst ht
      rw [ih s' htaken, hcreated] at hrest
      exact ⟨hclean.mp ⟨htaken, hhandles⟩, hrest⟩
    · rintro ⟨hcall, hrest⟩
      obtain ⟨htaken, hhandles⟩ := hclean.mpr hcall
      refine ⟨s', hrun, htaken, hhandles, ?_⟩
      rw [ih s' htaken, hcreated]
      exact hrest

end

/-- **The flash store is released by every call** of a sequence exactly if all are clean. -/
theorem released_iff (created : Bool) (calls : List Call) :
    Released calls (.boot created) ↔ ∀ call ∈ calls, call.Clean created :=
  released_iff_of_free calls (.boot created) rfl

/-! ### A store that is never released -/

/-- A call that needs the mutex does not return once it was kept. -/
theorem fetch_blocks {s : Store} (hcreated : s.created = true) (htaken : s.taken = true)
    (r : FetchResults) (ram : Ram) : (Call.fetch r ram).run s = none := by
  rw [Call.run, fetchWifiStaConfig, nvsSyncLock, if_pos hcreated, if_pos htaken]
  rfl

/-- Nothing is stored yet, and there is no room: the commit fails. -/
def commitFails : SaveResults where
  nvsOpen := .ok
  getSsid := .error .notFound
  setSsid := .ok
  getPassword := .error .notFound
  setPassword := .ok
  getSettings := .error .notFound
  setSettings := .ok
  commit := .err (.other 0x1105)

/-- The SSID is `a`. -/
def ramOfA : Ram where
  config := some { StaConfig.zero with
    ssid := ⟨Buffer.padded 0 [0x61] 32, Buffer.length_padded _ _⟩ }
  settings := .zero

/-- The save keeps the mutex: no later call returns. -/
theorem taken_commitFails : ∃ s, (Call.save commitFails ramOfA).run (.boot true) = some s ∧
    s.created = true ∧ s.taken = true ∧
      ∀ (r : FetchResults) (ram : Ram), (Call.fetch r ram).run s = none :=
  ⟨⟨true, true, 1⟩, by decide +kernel, rfl, rfl, fetch_blocks rfl rfl⟩

theorem not_released :
    ¬ ∀ (created : Bool) (calls : List Call), Released calls (.boot created) := by
  intro h
  obtain ⟨s, hs, -, htaken, -⟩ := taken_commitFails
  obtain ⟨s', hs', hfree, -⟩ := h true [.save commitFails ramOfA]
  rw [hs, Option.some.injEq] at hs'
  rw [← hs', htaken] at hfree
  cases hfree

end Datk.Wifi.Flash
