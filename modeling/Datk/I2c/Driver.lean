import Datk.I2c.Port

/-!
# When the driver of a port is there

The driver of a port is deleted before it is installed with another configuration, and
the configuration that the port is known by is stored after that.  So there are two kinds
of runs.

* While all devices of a port are configured alike, the driver is installed once, and is
  there whenever a transaction begins (`ready_of_alike`).
* Once it has been deleted and could not be installed again, no call for a device with the
  configuration known installs it: such calls fail for ever (`lost_of_alike`).

In both of them a call gives the lock back after at most nine statements (`call_gives_back`).
-/

namespace Datk.I2c

open Lib

section

variable {π : Type} {maxStretchTime : Nat} {t t' : Place π} {p p' : Port π}

/-- The request of a call under way. -/
def Place.request : Place π → Option (Request π)
  | .out _ => none
  | .take r => some r
  | .cfgEqual r => some r
  | .driverDelete r => some r
  | .paramConfig r => some r
  | .driverInstall r => some r
  | .store r => some r
  | .getTimeout r => some r
  | .setTimeout r => some r
  | .cmdBegin r => some r
  | .give r _ => some r

theorem cfgEqual_iff {a b : Config} : cfgEqual a b = true ↔
    a.sclIoNum = b.sclIoNum ∧ a.sdaIoNum = b.sdaIoNum ∧ a.clkSpeed = b.clkSpeed ∧
      a.sclPullupEn = b.sclPullupEn ∧ a.sdaPullupEn = b.sdaPullupEn := by
  simp [cfgEqual, and_assoc]

theorem cfgEqual_symm {a b : Config} (h : cfgEqual a b = true) : cfgEqual b a = true := by
  rw [cfgEqual_iff] at h ⊢
  obtain ⟨h1, h2, h3, h4, h5⟩ := h
  exact ⟨h1.symm, h2.symm, h3.symm, h4.symm, h5.symm⟩

theorem cfgEqual_trans {a b c : Config} (hab : cfgEqual a b = true) (hbc : cfgEqual b c = true) :
    cfgEqual a c = true := by
  rw [cfgEqual_iff] at hab hbc ⊢
  obtain ⟨h1, h2, h3, h4, h5⟩ := hab
  obtain ⟨k1, k2, k3, k4, k5⟩ := hbc
  exact ⟨h1.trans k1, h2.trans k2, h3.trans k3, h4.trans k4, h5.trans k5⟩

theorem Statement.request (h : Statement maxStretchTime p t t' p') {r : Request π}
    (hr : t'.request = some r) : t.request = some r := by
  cases h with
  | give => cases hr
  | _ => exact hr

theorem request_out {t : Place π} (h : ∃ res, t = .out res) : t.request = none := by
  obtain ⟨res, rfl⟩ := h
  rfl

/-! ### The statements to go -/

/-- The statements to go until the lock is given back. -/
def Place.rank : Place π → Nat
  | .cfgEqual _ => 8
  | .driverDelete _ => 7
  | .paramConfig _ => 6
  | .driverInstall _ => 5
  | .store _ => 4
  | .getTimeout _ => 3
  | .setTimeout _ => 2
  | .cmdBegin _ => 1
  | _ => 0

theorem Statement.rank_lt (h : Statement maxStretchTime p t t' p') (ht : t'.holds ≠ none) :
    t'.rank < t.rank := by
  cases h with
  | give => exact absurd rfl ht
  | _ => simp [Place.rank]

theorem rank_le (t : Place π) : t.rank ≤ 8 := by
  cases t <;> simp [Place.rank]

/-- A statement is always possible. -/
theorem exists_inside {k : π} (ht : t.holds = some k) (p : Port π) (ok : Bool) (n : Nat) :
    ∃ t' p', inside maxStretchTime t p (.next ok n) = some (t', p') := by
  cases t with
  | out res => cases ht
  | take r => cases ht
  | cfgEqual r => exact ⟨_, _, rfl⟩
  | driverDelete r => exact ⟨_, _, rfl⟩
  | paramConfig r => cases ok <;> exact ⟨_, _, rfl⟩
  | driverInstall r =>
    simp only [inside]
    split <;> exact ⟨_, _, rfl⟩
  | store r => exact ⟨_, _, rfl⟩
  | getTimeout r => cases ok <;> exact ⟨_, _, rfl⟩
  | setTimeout r => cases ok <;> exact ⟨_, _, rfl⟩
  | cmdBegin r =>
    simp only [inside]
    split <;> exact ⟨_, _, rfl⟩
  | give r res => exact ⟨_, _, rfl⟩

/-! ### The driver of a port that is not configured anew -/

variable {c : Config}

/-- The driver is there exactly if the port is known to be configured. -/
structure Known (c : Config) (p : Port π) : Prop where
  installed : p.installed = true → cfgEqual c p.config = true ∧ p.driver = some .master
  fresh : p.installed = false → p.config = .zero ∧ p.driver = none

/-- What holds of the port at work for a device that is configured like `c`. -/
def KnownAt (c : Config) : Place π → Port π → Prop
  | .driverDelete _, p => p.installed = false ∧ Known c p
  | .paramConfig _, p => p.installed = false ∧ Known c p
  | .driverInstall _, p => p.installed = false ∧ Known c p
  | .store _, p => p.driver = some .master
  | .getTimeout _, p => p.installed = true ∧ Known c p
  | .setTimeout _, p => p.installed = true ∧ Known c p
  | .cmdBegin _, p => p.installed = true ∧ Known c p
  | _, p => Known c p

theorem KnownAt.statement (hne : cfgEqual c .zero = false) (h : KnownAt c t p)
    (hr : ∀ r, t.request = some r → cfgEqual r.dev.cfg c = true)
    (hs : Statement maxStretchTime p t t' p') : KnownAt c t' p' := by
  cases hs with
  | @equal r hcfg =>
    have hc : cfgEqual c p.config = true := cfgEqual_trans (cfgEqual_symm (hr r rfl)) hcfg
    refine ⟨?_, h⟩
    by_contra hin
    have hzero := (h.fresh (Bool.eq_false_iff.mpr hin)).1
    rw [hzero, hne] at hc
    cases hc
  | @differ r hcfg =>
    refine ⟨?_, h⟩
    by_contra hin
    have hc := (h.installed (by simpa using hin)).1
    rw [cfgEqual_trans (hr r rfl) hc] at hcfg
    cases hcfg
  | delete hin =>
    rw [h.1] at hin
    cases hin
  | noDelete hin => exact h
  | paramConfig => exact ⟨h.1, h.2.installed, h.2.fresh⟩
  | paramConfigFails => exact ⟨h.2.installed, h.2.fresh⟩
  | driverInstall hdriver => exact rfl
  | driverInstallFails => exact h.2
  | @store r =>
    have hc : cfgEqual c r.dev.temp = true :=
      cfgEqual_trans (cfgEqual_symm (hr r rfl)) (cfgEqual_temp r.dev)
    exact ⟨rfl, fun _ => ⟨hc, h⟩, fun hin => nomatch hin⟩
  | sameTimeout htimeout => exact h
  | otherTimeout => exact h
  | getTimeoutFails => exact h.2
  | setTimeout => exact ⟨h.1, h.2.installed, h.2.fresh⟩
  | setTimeoutFails => exact h.2
  | noDriver hdriver => exact h.2
  | cmdBegin hdriver => exact ⟨h.2.installed, h.2.fresh⟩
  | give => exact h

/-- The driver has been deleted, and the configuration is still known. -/
structure Lost (c : Config) (bus : List (Transaction π)) (p : Port π) : Prop where
  installed : p.installed = true
  config : cfgEqual c p.config = true
  driver : p.driver = none
  bus : p.bus = bus

/-- The places where a port is that has lost its driver. -/
def LostAt (c : Config) (bus : List (Transaction π)) : Place π → Port π → Prop
  | .driverDelete _, _ => False
  | .paramConfig _, _ => False
  | .driverInstall _, _ => False
  | .store _, _ => False
  | .give _ res, p => res ≠ .ok ∧ Lost c bus p
  | _, p => Lost c bus p

theorem LostAt.statement {bus : List (Transaction π)} (h : LostAt c bus t p)
    (hr : ∀ r, t.request = some r → cfgEqual r.dev.cfg c = true)
    (hs : Statement maxStretchTime p t t' p') : LostAt c bus t' p' := by
  cases hs with
  | equal hcfg => exact h
  | @differ r hcfg =>
    rw [cfgEqual_trans (hr r rfl) h.config] at hcfg
    cases hcfg
  | delete hin => exact h
  | noDelete hin => exact h
  | paramConfig => exact h
  | paramConfigFails => exact h.elim
  | driverInstall hdriver => exact h
  | driverInstallFails => exact h.elim
  | store => exact h.elim
  | sameTimeout htimeout => exact h
  | otherTimeout => exact h
  | getTimeoutFails => exact ⟨nofun, h⟩
  | setTimeout => exact ⟨h.installed, h.config, h.driver, h.bus⟩
  | setTimeoutFails => exact ⟨nofun, h⟩
  | noDriver hdriver => exact ⟨nofun, h⟩
  | cmdBegin hdriver =>
    rw [h.driver] at hdriver
    cases hdriver
  | give => exact h.2

/-! ### Every run with devices that are configured alike -/

section

variable [DecidableEq π]

/-- A call for the port `k` is for a device that is configured like `c`. -/
def Action.alike (k : π) (c : Config) : Action π → Bool
  | .call r => r.dev.port ≠ k || cfgEqual r.dev.cfg c
  | .next _ _ => true

def Alike (k : π) (c : Config) (_ : State π)
    (e : Nat × Action π) : Prop := e.2.alike k c = true

instance (k : π) (c : Config) (s : State π) (e : Nat × Action π) :
    Decidable (Alike k c s e) := inferInstanceAs (Decidable (_ = true))

variable {P : Place π → Prop} {R : π → Port π → Prop} {k : π} {c : Config}
  {s : State π}

/-- Every request under way for the port is one that was called for. -/
theorem request_alike (hP : ∀ t, P t → t.request = none)
    (h : ((calls maxStretchTime).system P R).Reaches (Alike k c) s) (i : Nat) {r : Request π}
    (hr : (s.task i).request = some r) (hk : r.dev.port = k) : cfgEqual r.dev.cfg c = true := by
  revert i r
  refine h.invariant (P := fun s => ∀ i {r}, (s.task i).request = some r → r.dev.port = k →
    cfgEqual r.dev.cfg c = true) ?_ ?_
  · rintro s ⟨-, htask, -⟩ i r hr
    rw [hP _ (htask i).1] at hr
    cases hr
  · rintro s ⟨i, a⟩ s' ih hok hs j r hr hk
    -- the task that takes the step has its old request, or the one it calls for
    have hmove : ∀ t, (∀ r, t.request = some r → (s.task i).request = some r ∨ a = .call r) →
        (Function.update s.task i t j).request = some r → cfgEqual r.dev.cfg c = true := by
      intro t ht hr
      by_cases hj : j = i
      · subst hj
        rw [Function.update_self] at hr
        rcases ht r hr with hold | hcall
        · exact ih j hold hk
        · subst hcall
          simpa [Alike, Action.alike, hk] using hok
      · rw [Function.update_of_ne hj] at hr
        exact ih j hr hk
    cases Guarded.step_cases hs with
    | @outside t hi ht =>
      refine hmove t (fun r' hr' => ?_) hr
      change outside (s.task i) a = some t at ht
      unfold outside at ht
      split at ht
      · rename_i r''
        right
        cases ht
        split at hr'
        · cases hr'
          rfl
        · cases hr'
      · cases ht
        cases hr'
      · cases ht
    | @enter l t hi he hfree =>
      refine hmove t (fun r' hr' => .inl ?_) hr
      change enter (s.task i) a = some (l, t) at he
      unfold enter at he
      split at he
      · rename_i heq
        cases he
        rw [heq]
        exact hr'
      · cases he
    | inside hi ht htr =>
      exact hmove _ (fun r' hr' => .inl ((inside_cases htr).request hr')) hr
    | leave hi ht htr =>
      exact hmove _ (fun r' hr' => .inl ((inside_cases htr).request hr')) hr

/-- **The rule for a port whose devices are configured alike.** -/
theorem meets_of_alike {I : Port π → Prop} {J : Place π → Port π → Prop}
    (hP : ∀ t, P t → t.request = none) (hinit : ∀ p, R k p → I p)
    (henter : ∀ r p, I p → J (.cfgEqual r) p)
    (hstatement : ∀ t p t' p', J t p →
      (∀ r, t.request = some r → cfgEqual r.dev.cfg c = true) →
      Statement maxStretchTime p t t' p' → J t' p')
    (hgive : ∀ res p, J (.out res) p → I p)
    (h : ((calls maxStretchTime).system P R).Reaches (Alike k c) s) :
    Guarded.Meets (fun _ p => I p) (fun _ t p => J t p) s k := by
  have hmeets := Guarded.meets (G := calls maxStretchTime)
    (I := fun l p => l = k → I p)
    (J := fun l t p => l = k → J t p ∧ ∀ r, t.request = some r → cfgEqual r.dev.cfg c = true)
    (Q := fun s => ∀ i r, (s.task i).request = some r → r.dev.port = k →
      cfgEqual r.dev.cfg c = true)
    (fun s hs i r => request_alike hP hs i) ?_ ?_ ?_ h k
  · exact ⟨fun hfree => hmeets.free hfree rfl, fun i hi => (hmeets.held i hi rfl).1⟩
  · rintro l p hp rfl
    exact hinit p hp
  · rintro s i a l t hknown he hfree rfl
    change enter (s.task i) a = some (l, t) at he
    unfold enter at he
    split at he
    · rename_i r _ htask
      cases he
      refine ⟨henter r _ (hfree rfl), fun r' hr' => ?_⟩
      cases hr'
      exact hknown i r (by rw [htask]; rfl) rfl
    · cases he
  · intro l t p a t' p' ht hin hJ
    have hs := inside_cases hin
    refine ⟨fun _ hl => ?_, fun hout hl => ?_⟩
    · obtain ⟨hplace, hreq⟩ := hJ hl
      exact ⟨hstatement t p t' p' hplace hreq hs, fun r hr => hreq r (hs.request hr)⟩
    · obtain ⟨hplace, hreq⟩ := hJ hl
      have hnext := hstatement t p t' p' hplace hreq hs
      cases hs with
      | give => exact hgive _ _ hnext
      | _ => cases hout

/-- **The driver is there for every transaction**, and is never deleted, if the devices of
the port are configured alike, and not as `memset` leaves the configuration. -/
theorem ready_of_alike (hne : cfgEqual c .zero = false)
    (h : (system maxStretchTime).Reaches (Alike k c) s) :
    (∀ i r, s.task i = .cmdBegin r → r.dev.port = k →
        (s.resource k).driver = some .master) ∧
      ∀ i r, s.task i = .driverDelete r → r.dev.port = k → (s.resource k).installed = false := by
  have hmeets := meets_of_alike (I := Known c) (J := KnownAt c) (fun t => request_out)
    (fun p hp => ⟨fun hin => by simp [hp.installed] at hin, fun _ => ⟨hp.config, hp.driver⟩⟩)
    (fun r p hp => hp) (fun t p t' p' ht hr => ht.statement hne hr) (fun res p hp => hp) h
  have hlocked := Guarded.locked (G := calls maxStretchTime) h
  have hat : ∀ i, (s.task i).holds = some k → KnownAt c (s.task i) (s.resource k) :=
    fun i hi => hmeets.held i ((hlocked i k).mpr hi)
  refine ⟨fun i r hi hr => ?_, fun i r hi hr => ?_⟩
  · have hknown := hat i (by rw [hi, ← hr]; rfl)
    rw [hi] at hknown
    exact (hknown.2.installed hknown.1).2
  · have hknown := hat i (by rw [hi, ← hr]; rfl)
    rw [hi] at hknown
    exact hknown.1

/-- All locks are free, and the port `k` has lost its driver. -/
def lostSystem (maxStretchTime : Nat) (k : π) (c : Config) (bus : List (Transaction π)) :
    System (State π) (Nat × Action π) :=
  (calls maxStretchTime).system (fun t => ∃ res, t = .out res) fun l p => l = k → Lost c bus p

/-- **A driver that is lost stays lost** as long as the calls are for devices with the
configuration that is known: there is no transaction, and no such call returns `ESP_OK`. -/
theorem lost_of_alike {bus : List (Transaction π)}
    (h : (lostSystem maxStretchTime k c bus).Reaches (Alike k c) s) :
    (s.resource k).bus = bus ∧ ∀ i r, s.task i = .give r .ok → r.dev.port ≠ k := by
  have hmeets := meets_of_alike (I := Lost c bus) (J := LostAt c bus) (fun t => request_out)
    (fun p hp => hp rfl) (fun r p hp => hp) (fun t p t' p' ht hr => ht.statement hr)
    (fun res p hp => hp) h
  have hlocked := Guarded.locked (G := calls maxStretchTime) h
  constructor
  · cases hlock : s.lock k with
    | none => exact (hmeets.free hlock).bus
    | some i =>
      have hlost := hmeets.held i hlock
      cases hi : s.task i with
      | driverDelete r => exact absurd hlost (by rw [hi]; exact id)
      | paramConfig r => exact absurd hlost (by rw [hi]; exact id)
      | driverInstall r => exact absurd hlost (by rw [hi]; exact id)
      | store r => exact absurd hlost (by rw [hi]; exact id)
      | give r res =>
        rw [hi] at hlost
        exact hlost.2.bus
      | _ =>
        rw [hi] at hlost
        exact hlost.bus
  · rintro i r hi rfl
    have hlost := hmeets.held i ((hlocked i r.dev.port).mpr (by rw [hi]; rfl))
    rw [hi] at hlost
    exact hlost.1 rfl

/-! ### The lock is given back -/

/-- **A call gives the lock back** after at most nine statements, whatever the functions of
the driver return. -/
theorem call_gives_back {e : Nat → Action π} (he : ∀ n, ∃ ok m, e n = .next ok m) {i : Nat}
    (hi : (s.task i).holds = some k) :
    ∃ n ≤ 9, ∃ s',
      (system maxStretchTime).execute (fun _ _ => True) s
          ((List.range n).map fun m => (i, e m)) = some s' ∧
        s'.lock k = none ∧ (s'.task i).holds = none := by
  have hgo : ∀ (t : Place π) (p : Port π) (a : Action π), t.holds = some k →
      (∃ ok m, a = .next ok m) → ∃ t' p', inside maxStretchTime t p a = some (t', p') ∧
        (t'.holds = some k → t'.rank < t.rank) := by
    rintro t p a ht ⟨ok, m, rfl⟩
    obtain ⟨t', p', hin⟩ := exists_inside ht p ok m
    refine ⟨t', p', hin, fun ht' => (inside_cases hin).rank_lt ?_⟩
    rw [ht']
    simp
  obtain ⟨n, hn, hrun⟩ := Guarded.gives_back (G := calls maxStretchTime)
    (fun t => ∃ res, t = .out res) (fun _ p => p.Initial) Place.rank
    (fun a => ∃ ok m, a = .next ok m) hgo he hi
  have hle := rank_le (s.task i)
  exact ⟨n, by omega, hrun⟩

end

end

/-! ### Runs of one port -/

/-- A call that has the lock, and then fails to install the driver again. -/
def loses (r : Request Unit) : List (Nat × Action Unit) :=
  (1, .call r) :: List.replicate 4 (1, .next true 0) ++ List.replicate 2 (1, .next false 0)

theorem ready_of_alike_fast :
    ∃ s : State Unit, (system 1).Reaches (Alike () fast) s ∧
      (s.task 1 = .cmdBegin (readReg fast 0x77) → (s.resource ()).driver = some .master) ∧
        s.task 1 = .cmdBegin (readReg fast 0x77) := by
  have hrun : ∃ s, (system 1).Reaches (Alike () fast) s ∧
      s.task 1 = .cmdBegin (readReg fast 0x77) :=
    System.exists_of_execute
      (succeeds 0 (readReg fast 0x76) ++ (succeeds 1 (readReg fast 0x77)).take 4) init_initial
      (by decide +kernel)
  obtain ⟨s, hs, htask⟩ := hrun
  exact ⟨s, hs, fun h => (ready_of_alike (by decide) hs).1 1 _ h rfl, htask⟩

/-- A device that is configured in another way may cost the others the driver. -/
theorem exists_lost : ∃ s : State Unit,
    (system 1).Reachable s ∧ s.lock () = none ∧ (s.resource ()).installed = true ∧
      cfgEqual fast (s.resource ()).config = true ∧ (s.resource ()).driver = none :=
  System.exists_of_execute
    (succeeds 0 (readReg fast 0x76) ++ loses (readReg slow 0x77)) init_initial (by decide +kernel)

def lostPort : State Unit :=
  { initial with resource := fun _ => ⟨fast, true, some slow, none, 0, []⟩ }

theorem lost_of_alike_fast : ∃ s, (lostSystem 1 () fast []).Reaches (Alike () fast) s ∧
    ((s.resource ()).bus = [] ∧ ∀ i r, s.task i = .give r .ok → r.dev.port ≠ ()) ∧
      s.task 0 = .out .driver := by
  have hinit : (lostSystem 1 () fast []).Init lostPort :=
    ⟨fun _ => rfl, fun _ => ⟨⟨_, rfl⟩, rfl⟩, fun _ _ => ⟨rfl, rfl, rfl, rfl⟩⟩
  have hrun : ∃ s, (lostSystem 1 () fast []).Reaches (Alike () fast) s ∧
      s.task 0 = .out .driver :=
    System.exists_of_execute ((succeeds 0 (readReg fast 0x76)).take 7) hinit (by decide +kernel)
  obtain ⟨s, hs, htask⟩ := hrun
  exact ⟨s, hs, lost_of_alike hs, htask⟩

theorem call_gives_back_initial :
    ∃ n ≤ 9, ∃ s',
      (system 1).execute (fun _ _ => True)
          { initial with
            lock := fun _ => some 0, task := fun _ => .cfgEqual (readReg fast 0x76) }
          ((List.range n).map fun _ => (0, .next false 0)) = some s' ∧
        s'.lock () = none ∧ (s'.task 0).holds = none :=
  call_gives_back (fun _ => ⟨false, 0, rfl⟩) rfl

end Datk.I2c
