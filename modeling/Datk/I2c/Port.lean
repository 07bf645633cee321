import Datk.Basic
import Datk.Lib.Guarded

/-!
# The ports of the I2C bus

Tasks call `i2c_dev_probe`, `i2c_dev_read` and `i2c_dev_write` of `common/i2cdev/i2cdev.c`
for devices that share a port and need not be configured alike.  A call takes the lock of
the port, installs the driver again if the configuration of the port is another one, sets
the timeout, transfers, and gives the lock back.  Any of the functions of the driver may
fail.

The configuration that the port is known by is only stored when the driver has been
installed.  If that fails, the old driver is gone already, but its configuration stays.

`safe_of_reachable` says that no transaction is ever carried out with the pins, the pull-ups or
the clock speed of another device.  The flags for the source of the clock are not compared: a
device that differs only there gets those of the device before it (`exists_clkFlags`).
-/

namespace Datk.I2c

open Lib

/-! ### The data -/

inductive Mode
  | slave
  | master
  deriving DecidableEq, Repr

/-- `i2c_config_t`. -/
structure Config where
  mode : Mode
  sdaIoNum : Nat
  sclIoNum : Nat
  sdaPullupEn : Bool
  sclPullupEn : Bool
  clkSpeed : Nat
  clkFlags : Nat
  deriving DecidableEq, Repr

/-- What `memset` leaves. -/
def Config.zero : Config := ⟨.slave, 0, 0, false, false, 0, 0⟩

/-- `cfg_equal`, which looks neither at the mode nor at `clk_flags`. -/
def cfgEqual (a b : Config) : Bool :=
  a.sclIoNum == b.sclIoNum && a.sdaIoNum == b.sdaIoNum && a.clkSpeed == b.clkSpeed &&
    a.sclPullupEn == b.sclPullupEn && a.sdaPullupEn == b.sdaPullupEn

/-- `i2c_dev_t`, without the mutex of the device. -/
structure Dev (π : Type) where
  port : π
  cfg : Config
  addr : Byte
  timeoutTicks : Nat
  deriving DecidableEq, Repr

/-- The arguments of the three calls; a buffer that is `NULL` is empty. -/
inductive Operation
  /-- `i2c_dev_probe`, for reading or for writing. -/
  | probe (read : Bool)
  | read (outData : List Byte) (inSize : Nat)
  | write (outReg outData : List Byte)
  deriving DecidableEq, Repr

structure Request (π : Type) where
  dev : Dev π
  operation : Operation
  deriving DecidableEq, Repr

/-- What a command link is made of. -/
inductive Cmd
  | start
  | writeByte (b : Byte)
  | write (data : List Byte)
  | read (size : Nat)
  | stop
  deriving DecidableEq, Repr

def Operation.cmdLink (addr : Byte) : Operation → List Cmd
  | .probe forRead => [.start, .writeByte (addr <<< 1 ||| if forRead then 1 else 0), .stop]
  | .read outData inSize =>
    (if outData ≠ [] then [.start, .writeByte (addr <<< 1), .write outData] else []) ++
      [.start, .writeByte ((addr <<< 1) ||| 1), .read inSize, .stop]
  | .write outReg outData =>
    [.start, .writeByte (addr <<< 1)] ++ (if outReg ≠ [] then [.write outReg] else []) ++
      [.write outData, .stop]

/-- The check at the beginning of a call. -/
def Operation.valid : Operation → Bool
  | .probe _ => true
  | .read _ inSize => inSize ≠ 0
  | .write _ outData => outData ≠ []

inductive EspErr
  | ok
  | invalidArg
  | timeout
  /-- What a function of the driver returned. -/
  | driver
  deriving DecidableEq, Repr

/-- What has been on the bus, and what the controller was set to. -/
structure Transaction (π : Type) where
  request : Request π
  cmds : List Cmd
  params : Option Config
  mode : Mode
  timeout : Nat
  deriving DecidableEq, Repr

/-- A port: what `states` has of it besides the lock, and the driver behind it. -/
structure Port (π : Type) where
  config : Config
  installed : Bool
  /-- What `i2c_param_config` has set up, if it succeeded. -/
  params : Option Config
  /-- The mode that the driver is installed with. -/
  driver : Option Mode
  /-- The timeout of the controller. -/
  timeout : Nat
  bus : List (Transaction π)

/-! ### A call -/

/-- Where a task is; `out` has what the last call returned. -/
inductive Place (π : Type)
  | out (res : EspErr)
  | take (r : Request π)
  | cfgEqual (r : Request π)
  | driverDelete (r : Request π)
  | paramConfig (r : Request π)
  | driverInstall (r : Request π)
  | store (r : Request π)
  | getTimeout (r : Request π)
  | setTimeout (r : Request π)
  | cmdBegin (r : Request π)
  | give (r : Request π) (res : EspErr)
  deriving DecidableEq, Repr

inductive Action (π : Type)
  | call (r : Request π)
  /-- The next statement, in which a function succeeds or not; `t` is the timeout that
  `i2c_param_config` leaves. -/
  | next (ok : Bool) (t : Nat)
  deriving DecidableEq, Repr

section

variable {π : Type}

/-- The port whose lock is held. -/
def Place.holds : Place π → Option π
  | .out _ => none
  | .take _ => none
  | .cfgEqual r => some r.dev.port
  | .driverDelete r => some r.dev.port
  | .paramConfig r => some r.dev.port
  | .driverInstall r => some r.dev.port
  | .store r => some r.dev.port
  | .getTimeout r => some r.dev.port
  | .setTimeout r => some r.dev.port
  | .cmdBegin r => some r.dev.port
  | .give r _ => some r.dev.port

def outside : Place π → Action π → Option (Place π)
  | .out _, .call r => some (if r.operation.valid then .take r else .out .invalidArg)
  | .take _, .next false _ => some (.out .timeout)
  | _, _ => none

/-- `SEMAPHORE_TAKE`. -/
def enter : Place π → Action π → Option (π × Place π)
  | .take r, .next true _ => some (r.dev.port, .cfgEqual r)
  | _, _ => none

/-- The configuration that the driver is installed with. -/
def Dev.temp (dev : Dev π) : Config := { dev.cfg with mode := .master }

/-- The timeout cannot be zero. -/
def Dev.ticks (maxStretchTime : Nat) (dev : Dev π) : Nat :=
  if dev.timeoutTicks ≠ 0 then dev.timeoutTicks else maxStretchTime

/-- `i2c_setup_port`, `i2c_master_cmd_begin` and `SEMAPHORE_GIVE`, statement by statement. -/
def inside (maxStretchTime : Nat) : Place π → Port π → Action π → Option (Place π × Port π)
  | .cfgEqual r, p, .next _ _ =>
    some (if I2c.cfgEqual r.dev.cfg p.config then .getTimeout r else .driverDelete r, p)
  | .driverDelete r, p, .next _ _ =>
    some (.paramConfig r, if p.installed then { p with driver := none } else p)
  | .paramConfig r, p, .next ok t =>
    if ok then some (.driverInstall r, { p with params := some r.dev.temp, timeout := t })
    else some (.give r .driver, { p with params := none, timeout := t })
  | .driverInstall r, p, .next ok _ =>
    -- a driver that is installed is not installed again
    if ok ∧ p.driver = none then some (.store r, { p with driver := some r.dev.temp.mode })
    else some (.give r .driver, p)
  | .store r, p, .next _ _ =>
    some (.getTimeout r, { p with installed := true, config := r.dev.temp })
  | .getTimeout r, p, .next ok _ =>
    if ok then
      some (if r.dev.ticks maxStretchTime ≠ p.timeout then .setTimeout r else .cmdBegin r, p)
    else some (.give r .driver, p)
  | .setTimeout r, p, .next ok _ =>
    if ok then some (.cmdBegin r, { p with timeout := r.dev.ticks maxStretchTime })
    else some (.give r .driver, p)
  | .cmdBegin r, p, .next ok _ =>
    match p.driver with
    -- without a driver there is no transaction
    | none => some (.give r .driver, p)
    | some mode =>
      let t : Transaction π :=
        ⟨r, r.operation.cmdLink r.dev.addr, p.params, mode, p.timeout⟩
      some (.give r (if ok then .ok else .driver), { p with bus := p.bus ++ [t] })
  | .give _ res, p, .next _ _ => some (.out res, p)
  | _, _, _ => none

/-- The transaction of a request, as the port is set up. -/
def Port.transaction (p : Port π) (r : Request π) (mode : Mode) : Transaction π :=
  ⟨r, r.operation.cmdLink r.dev.addr, p.params, mode, p.timeout⟩

/-- **What a statement inside can do.** -/
inductive Statement (maxStretchTime : Nat) (p : Port π) : Place π → Place π → Port π → Prop
  | equal {r : Request π} : I2c.cfgEqual r.dev.cfg p.config = true →
      Statement maxStretchTime p (.cfgEqual r) (.getTimeout r) p
  | differ {r : Request π} : I2c.cfgEqual r.dev.cfg p.config = false →
      Statement maxStretchTime p (.cfgEqual r) (.driverDelete r) p
  | delete {r : Request π} : p.installed = true →
      Statement maxStretchTime p (.driverDelete r) (.paramConfig r) { p with driver := none }
  | noDelete {r : Request π} : p.installed = false →
      Statement maxStretchTime p (.driverDelete r) (.paramConfig r) p
  | paramConfig {r : Request π} {t : Nat} :
      Statement maxStretchTime p (.paramConfig r) (.driverInstall r)
        { p with params := some r.dev.temp, timeout := t }
  | paramConfigFails {r : Request π} {t : Nat} :
      Statement maxStretchTime p (.paramConfig r) (.give r .driver)
        { p with params := none, timeout := t }
  | driverInstall {r : Request π} : p.driver = none →
      Statement maxStretchTime p (.driverInstall r) (.store r) { p with driver := some .master }
  | driverInstallFails {r : Request π} :
      Statement maxStretchTime p (.driverInstall r) (.give r .driver) p
  | store {r : Request π} :
      Statement maxStretchTime p (.store r) (.getTimeout r)
        { p with installed := true, config := r.dev.temp }
  | sameTimeout {r : Request π} : p.timeout = r.dev.ticks maxStretchTime →
      Statement maxStretchTime p (.getTimeout r) (.cmdBegin r) p
  | otherTimeout {r : Request π} :
      Statement maxStretchTime p (.getTimeout r) (.setTimeout r) p
  | getTimeoutFails {r : Request π} :
      Statement maxStretchTime p (.getTimeout r) (.give r .driver) p
  | setTimeout {r : Request π} :
      Statement maxStretchTime p (.setTimeout r) (.cmdBegin r)
        { p with timeout := r.dev.ticks maxStretchTime }
  | setTimeoutFails {r : Request π} :
      Statement maxStretchTime p (.setTimeout r) (.give r .driver) p
  | noDriver {r : Request π} : p.driver = none →
      Statement maxStretchTime p (.cmdBegin r) (.give r .driver) p
  | cmdBegin {r : Request π} {mode : Mode} {res : EspErr} : p.driver = some mode →
      Statement maxStretchTime p (.cmdBegin r) (.give r res)
        { p with bus := p.bus ++ [p.transaction r mode] }
  | give {r : Request π} {res : EspErr} : Statement maxStretchTime p (.give r res) (.out res) p

variable {maxStretchTime : Nat} {t t' : Place π} {p p' : Port π}

theorem inside_cases {a : Action π} (h : inside maxStretchTime t p a = some (t', p')) :
    Statement maxStretchTime p t t' p' := by
  cases a with
  | call r => cases t <;> cases h
  | next ok n =>
    cases t with
    | out res => cases h
    | take r => cases h
    | cfgEqual r =>
      cases hcfg : I2c.cfgEqual r.dev.cfg p.config with
      | true =>
        simp only [inside, hcfg, if_true] at h
        cases h
        exact .equal hcfg
      | false =>
        simp only [inside, hcfg, Bool.false_eq_true, if_false] at h
        cases h
        exact .differ hcfg
    | driverDelete r =>
      by_cases hin : p.installed = true
      · simp only [inside, if_pos hin] at h
        cases h
        exact .delete hin
      · simp only [inside, if_neg hin] at h
        cases h
        exact .noDelete (Bool.eq_false_iff.mpr hin)
    | paramConfig r =>
      cases ok with
      | true =>
        cases h
        exact .paramConfig
      | false =>
        cases h
        exact .paramConfigFails
    | driverInstall r =>
      by_cases hok : ok = true ∧ p.driver = none
      · simp only [inside, if_pos hok] at h
        cases h
        exact .driverInstall hok.2
      · simp only [inside, if_neg hok] at h
        cases h
        exact .driverInstallFails
    | store r =>
      cases h
      exact .store
    | getTimeout r =>
      cases ok with
      | true =>
        by_cases hticks : r.dev.ticks maxStretchTime ≠ p.timeout
        · simp only [inside, if_true, if_pos hticks] at h
          cases h
          exact .otherTimeout
        · simp only [inside, if_true, if_neg hticks] at h
          cases h
          exact .sameTimeout (not_not.mp hticks).symm
      | false =>
        cases h
        exact .getTimeoutFails
    | setTimeout r =>
      cases ok with
      | true =>
        cases h
        exact .setTimeout
      | false =>
        cases h
        exact .setTimeoutFails
    | cmdBegin r =>
      simp only [inside] at h
      split at h
      · rename_i hdriver
        cases h
        exact .noDriver hdriver
      · rename_i mode hdriver
        cases h
        exact .cmdBegin hdriver
    | give r res =>
      cases h
      exact .give

theorem Statement.holds (h : Statement maxStretchTime p t t' p') :
    t'.holds = t.holds ∨ t'.holds = none := by
  cases h with
  | give => exact .inr rfl
  | _ => exact .inl rfl

/-- The tasks, the ports and their locks. -/
abbrev State (π : Type) := Guarded.State Nat π (fun _ => Port π) (Place π)

/-- The calls of the tasks, and the locks of the ports. -/
def calls (maxStretchTime : Nat) : Guarded π (fun _ => Port π) (Place π) (Action π) where
  holds := Place.holds
  outside := outside
  enter := enter
  inside _ := inside maxStretchTime
  holds_outside := by
    intro t a t' _ h
    unfold outside at h
    split at h
    · cases h
      split <;> rfl
    · cases h
      rfl
    · cases h
  holds_enter := by
    intro t a k t' h
    unfold enter at h
    split at h
    · cases h
      rfl
    · cases h
  holds_inside := by
    intro t k p a t' p' ht h
    rw [← ht]
    exact (inside_cases h).holds

/-- `memset(states, 0, sizeof(states))`, and no driver. -/
structure Port.Initial (p : Port π) : Prop where
  config : p.config = .zero
  installed : p.installed = false
  driver : p.driver = none
  bus : p.bus = []

/-! ### Transactions with the device's own configuration -/

/-- It has been carried out as its device wants it, but for what `cfg_equal` does not
compare. -/
structure Transaction.Own (maxStretchTime : Nat) (t : Transaction π) : Prop where
  cmds : t.cmds = t.request.operation.cmdLink t.request.dev.addr
  params : ∃ c, t.params = some c ∧ cfgEqual t.request.dev.cfg c = true
  mode : t.mode = .master
  timeout : t.timeout = t.request.dev.ticks maxStretchTime

/-- The configuration that is known is that of the driver, if there is one. -/
structure Settled (maxStretchTime : Nat) (p : Port π) : Prop where
  driver : ∀ mode, p.driver = some mode →
    mode = .master ∧ p.installed = true ∧ p.params = some p.config
  bus : ∀ t ∈ p.bus, t.Own maxStretchTime

/-- What holds of the port where a task is at work on it. -/
def Working (maxStretchTime : Nat) : Place π → Port π → Prop
  | .paramConfig _, p => p.driver = none ∧ ∀ t ∈ p.bus, t.Own maxStretchTime
  | .driverInstall r, p =>
    p.driver = none ∧ p.params = some r.dev.temp ∧ ∀ t ∈ p.bus, t.Own maxStretchTime
  | .store r, p =>
    p.driver = some .master ∧ p.params = some r.dev.temp ∧ ∀ t ∈ p.bus, t.Own maxStretchTime
  | .getTimeout r, p => Settled maxStretchTime p ∧ cfgEqual r.dev.cfg p.config = true
  | .setTimeout r, p => Settled maxStretchTime p ∧ cfgEqual r.dev.cfg p.config = true
  | .cmdBegin r, p => Settled maxStretchTime p ∧ cfgEqual r.dev.cfg p.config = true ∧
      p.timeout = r.dev.ticks maxStretchTime
  | .give r res, p => Settled maxStretchTime p ∧
      (res = .ok → ∃ t, p.bus.getLast? = some t ∧ t.request = r)
  | _, p => Settled maxStretchTime p

/-- The mode is not compared. -/
theorem cfgEqual_temp (dev : Dev π) : cfgEqual dev.cfg dev.temp = true := by
  simp [cfgEqual, Dev.temp]

/-- Without a driver nothing is said about the configuration. -/
theorem settled_of_no_driver (hdriver : p.driver = none)
    (hbus : ∀ t ∈ p.bus, t.Own maxStretchTime) : Settled maxStretchTime p := by
  refine ⟨fun mode h => ?_, hbus⟩
  rw [hdriver] at h
  cases h

theorem Settled.own (h : Settled maxStretchTime p) {r : Request π} {mode : Mode}
    (hcfg : cfgEqual r.dev.cfg p.config = true) (htimeout : p.timeout = r.dev.ticks maxStretchTime)
    (hdriver : p.driver = some mode) : (p.transaction r mode).Own maxStretchTime := by
  obtain ⟨hmode, -, hparams⟩ := h.driver mode hdriver
  exact ⟨rfl, ⟨p.config, hparams, hcfg⟩, hmode, htimeout⟩

theorem Working.statement (h : Working maxStretchTime t p)
    (hs : Statement maxStretchTime p t t' p') :
    (t'.holds ≠ none → Working maxStretchTime t' p') ∧
      (t'.holds = none → Settled maxStretchTime p') := by
  cases hs with
  | equal hcfg => exact ⟨fun _ => ⟨h, hcfg⟩, fun h => nomatch h⟩
  | differ hcfg => exact ⟨fun _ => h, fun h => nomatch h⟩
  | delete hin => exact ⟨fun _ => ⟨rfl, h.bus⟩, fun h => nomatch h⟩
  | noDelete hin =>
    refine ⟨fun _ => ⟨?_, h.bus⟩, fun h => nomatch h⟩
    cases hdriver : p.driver with
    | none => rfl
    | some mode =>
      have hinstalled := (h.driver mode hdriver).2.1
      rw [hin] at hinstalled
      cases hinstalled
  | paramConfig => exact ⟨fun _ => ⟨h.1, rfl, h.2⟩, fun h => nomatch h⟩
  | paramConfigFails =>
    exact ⟨fun _ => ⟨settled_of_no_driver h.1 h.2, fun h => nomatch h⟩, fun h => nomatch h⟩
  | driverInstall hdriver => exact ⟨fun _ => ⟨rfl, h.2⟩, fun h => nomatch h⟩
  | driverInstallFails =>
    exact ⟨fun _ => ⟨settled_of_no_driver h.1 h.2.2, fun h => nomatch h⟩, fun h => nomatch h⟩
  | @store r =>
    refine ⟨fun _ => ⟨⟨fun mode hmode => ?_, h.2.2⟩, cfgEqual_temp r.dev⟩, fun h => nomatch h⟩
    obtain ⟨hdriver, hparams, -⟩ := h
    exact ⟨Option.some.inj (hmode.symm.trans hdriver), rfl, hparams⟩
  | sameTimeout htimeout => exact ⟨fun _ => ⟨h.1, h.2, htimeout⟩, fun h => nomatch h⟩
  | otherTimeout => exact ⟨fun _ => h, fun h => nomatch h⟩
  | getTimeoutFails => exact ⟨fun _ => ⟨h.1, fun h => nomatch h⟩, fun h => nomatch h⟩
  | setTimeout => exact ⟨fun _ => ⟨⟨h.1.driver, h.1.bus⟩, h.2, rfl⟩, fun h => nomatch h⟩
  | setTimeoutFails => exact ⟨fun _ => ⟨h.1, fun h => nomatch h⟩, fun h => nomatch h⟩
  | noDriver hdriver => exact ⟨fun _ => ⟨h.1, fun h => nomatch h⟩, fun h => nomatch h⟩
  | cmdBegin hdriver =>
    obtain ⟨hsettled, hcfg, htimeout⟩ := h
    have hown := hsettled.own hcfg htimeout hdriver
    refine ⟨fun _ => ⟨⟨hsettled.driver, forall_mem_concat hsettled.bus hown⟩, fun _ => ?_⟩,
      fun h => nomatch h⟩
    exact ⟨_, List.getLast?_concat, rfl⟩
  | give => exact ⟨fun h => absurd rfl h, fun _ => h.1⟩

theorem Working.bus (h : Working maxStretchTime t p) : ∀ u ∈ p.bus, u.Own maxStretchTime := by
  cases t with
  | out res => exact h.bus
  | take r => exact h.bus
  | cfgEqual r => exact h.bus
  | driverDelete r => exact h.bus
  | paramConfig r => exact h.2
  | driverInstall r => exact h.2.2
  | store r => exact h.2.2
  | getTimeout r => exact h.1.bus
  | setTimeout r => exact h.1.bus
  | cmdBegin r => exact h.1.bus
  | give r res => exact h.1.bus

/-! ### Every run -/

variable [DecidableEq π]

/-- After `i2cdev_init`. -/
def system (maxStretchTime : Nat) : System (State π) (Nat × Action π) :=
  (calls maxStretchTime).system (fun t => ∃ res, t = .out res) fun _ p => p.Initial

/-- **The ports in every state reached.** -/
structure Safe (maxStretchTime : Nat) (s : State π) : Prop where
  /-- One task at a time is at work on a port. -/
  exclusive : ∀ i j k, (s.task i).holds = some k → (s.task j).holds = some k → i = j
  /-- All transactions have been carried out as their devices want them. -/
  own : ∀ k, ∀ t ∈ (s.resource k).bus, t.Own maxStretchTime
  /-- A call that is about to return `ESP_OK` has made the last transaction. -/
  done : ∀ i r, s.task i = .give r .ok →
    ∃ t, (s.resource r.dev.port).bus.getLast? = some t ∧ t.request = r

/-- **No transaction is carried out with a configuration that `cfg_equal` tells from that of
its device**, whatever the tasks call in whatever order, and whichever functions of the driver
fail. -/
theorem safe_of_reachable {s : State π} (h : (system maxStretchTime).Reachable s) :
    Safe maxStretchTime s := by
  have hmeets : ∀ k, Guarded.Meets (fun _ p => Settled maxStretchTime p)
      (fun _ t p => Working maxStretchTime t p) s k := by
    refine Guarded.meets (G := calls maxStretchTime) (Q := fun _ => True) (fun _ _ => trivial)
      ?_ ?_ ?_ h
    · intro k p hp
      exact settled_of_no_driver hp.driver (by simp [hp.bus])
    · intro s i a k t _ he hsettled
      change enter (s.task i) a = some (k, t) at he
      unfold enter at he
      split at he
      · cases he
        exact hsettled
      · cases he
    · intro k t p a t' p' ht hin hworking
      obtain ⟨hheld, hfree⟩ := hworking.statement (inside_cases hin)
      refine ⟨fun ht' => hheld ?_, hfree⟩
      rw [show t'.holds = some k from ht']
      simp
  have hlocked := Guarded.locked (G := calls maxStretchTime) h
  refine ⟨fun i j k => Guarded.eq_of_holds h, fun k => ?_, fun i r hi => ?_⟩
  · cases hlock : s.lock k with
    | none => exact ((hmeets k).free hlock).bus
    | some i => exact ((hmeets k).held i hlock).bus
  · have hholds : (s.task i).holds = some r.dev.port := by
      rw [hi]
      rfl
    have hworking := (hmeets r.dev.port).held i ((hlocked i r.dev.port).mpr hholds)
    rw [hi] at hworking
    exact hworking.2 rfl

/-! ### Two devices on a port -/

def fast : Config := ⟨.slave, 21, 22, true, true, 400000, 0⟩

def slow : Config := { fast with clkSpeed := 100000 }

/-- Reads a register of a device. -/
def readReg (cfg : Config) (addr : Byte) : Request Unit := ⟨⟨(), cfg, addr, 0⟩, .read [0xd0] 1⟩

/-- The task `i` makes a call, all of which succeeds. -/
def succeeds (i : Nat) (r : Request Unit) : List (Nat × Action Unit) :=
  (i, .call r) :: List.replicate 10 (i, .next true 0)

def initial : State Unit where
  lock _ := none
  resource _ := ⟨.zero, false, none, none, 0, []⟩
  task _ := .out .ok

theorem init_initial : (system (π := Unit) maxStretchTime).Init initial :=
  ⟨fun _ => rfl, fun _ => ⟨⟨_, rfl⟩, rfl⟩, fun _ => ⟨rfl, rfl, rfl, rfl⟩⟩

/-- The port is configured anew for every call. -/
theorem safe_of_reachable_two : ∃ s : State Unit, (system 1).Reachable s ∧
    Safe 1 s ∧ (s.resource ()).bus.map (fun t => t.request.dev.cfg) = [fast, slow, fast] := by
  have hrun : ∃ s, (system 1).Reachable s ∧
      (s.resource ()).bus.map (fun t => t.request.dev.cfg) = [fast, slow, fast] :=
    System.exists_of_execute
      (succeeds 0 (readReg fast 0x76) ++ succeeds 1 (readReg slow 0x77) ++
        succeeds 0 (readReg fast 0x76)) init_initial (by decide +kernel)
  obtain ⟨s, hs, hbus⟩ := hrun
  exact ⟨s, hs, safe_of_reachable hs, hbus⟩

/-- The second device wants another source for the same clock, and does not get it. -/
theorem exists_clkFlags : ∃ s : State Unit, (system 1).Reachable s ∧
    ∃ t ∈ (s.resource ()).bus, t.request.dev.cfg.clkFlags = 1 ∧ t.params.map Config.clkFlags =
      some 0 :=
  System.exists_of_execute
    (succeeds 0 (readReg fast 0x76) ++
      (succeeds 1 (readReg { fast with clkFlags := 1 } 0x77)).take 6)
    init_initial (by decide +kernel)

end

end Datk.I2c
