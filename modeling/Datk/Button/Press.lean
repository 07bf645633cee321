import Mathlib.Tactic.Common
import Mathlib.Algebra.Ring.Nat

/-!
# How long the button was held

`gpio_input_handler` of `common/input_iot/input_iot.c` runs at each edge of the button.
It reads the 32-bit tick counter into 64-bit variables, and at a release hands their
difference to `input_event_callback` of `main/app_main.c`, which brings it to
milliseconds and to an `int`.

If the counter wrapped while the button was down, the difference is negative, thus huge.
The conversion to `int` drops all that is wrong about it: `pressTickMs_sub` says that
`pressTick_ms` is, as a residue modulo `2 ^ 32`, ten times the ticks that elapsed.
-/

namespace Datk.Button

/-- `uint64_t start, stop, pressTick`. -/
structure Ticks where
  start : BitVec 64
  stop : BitVec 64
  pressTick : BitVec 64
  deriving DecidableEq, Repr

/-- What `gpio_input_handler` calls. -/
inductive Call
  /-- `xTimerStartFromISR(button_timer, 0)`. -/
  | timerStart
  | timerStop
  | inputCallback (pin : Int) (pressTick : BitVec 64)
  deriving DecidableEq, Repr

/-- `Event_press_short` and `Event_press_long`. -/
inductive PressEvent
  | short
  | long
  deriving DecidableEq, Repr

def gpioInputHandler (gpioNum level : Int) (rtc : BitVec 32) (t : Ticks) : Ticks × List Call :=
  if level = 0 then ({ t with start := rtc.setWidth 64 }, [.timerStart])
  else
    let stop := rtc.setWidth 64
    let pressTick := stop - t.start
    ({ t with stop := stop, pressTick := pressTick },
      [.timerStop, .inputCallback gpioNum pressTick])

/-- `portTICK_PERIOD_MS`. -/
def portTickPeriodMs : BitVec 64 := 10

/-- `int pressTick_ms = pressTick * portTICK_PERIOD_MS`. -/
def pressTickMs (pressTick : BitVec 64) : Int :=
  ((pressTick * portTickPeriodMs).setWidth 32).toInt

/-- `GPIO_NUM_0`. -/
def gpioNum0 : Int := 0

/-- `input_event_callback`: the bit it sets in `xEventGroup`. -/
def inputEventCallback (pin : Int) (pressTick : BitVec 64) : Option PressEvent :=
  if pin = gpioNum0 then
    if pressTickMs pressTick < 1000 then some .short
    else if pressTickMs pressTick > 3000 then some .long
    else none
  else none

/-- The bits that are set by the calls. -/
def bitsSet (calls : List Call) : List PressEvent :=
  calls.filterMap fun
    | .inputCallback pin pressTick => inputEventCallback pin pressTick
    | .timerStart | .timerStop => none

/-! ### The milliseconds -/

/-- Narrowed again, the difference of two widened counters is their own. -/
theorem setWidth_sub_setWidth (start stop : BitVec 32) :
    (stop.setWidth 64 - start.setWidth 64).setWidth 32 = stop - start := by
  rw [BitVec.sub_eq_add_neg, BitVec.setWidth_add _ _ (by decide),
    BitVec.setWidth_neg_of_le (by decide), BitVec.setWidth_setWidth_of_le _ (by decide),
    BitVec.setWidth_setWidth_of_le _ (by decide), BitVec.setWidth_eq, BitVec.setWidth_eq,
    ← BitVec.sub_eq_add_neg]

theorem pressTickMs_sub (start stop : BitVec 32) :
    pressTickMs (stop.setWidth 64 - start.setWidth 64) =
      Int.bmod (10 * (stop - start).toNat) (2 ^ 32) := by
  have hms : ((stop.setWidth 64 - start.setWidth 64) * portTickPeriodMs).setWidth 32 =
      (stop - start) * 10 := by
    rw [BitVec.setWidth_mul _ _ (by decide), setWidth_sub_setWidth]
    rfl
  have hnat : ((stop - start) * 10).toNat = 10 * (stop - start).toNat % 2 ^ 32 := by
    rw [BitVec.toNat_mul, Nat.mul_comm]
    rfl
  rw [pressTickMs, hms, BitVec.toInt_eq_toNat_bmod, hnat, Int.natCast_emod]
  exact Int.emod_bmod _ _

/-- Below `2 ^ 31` nothing is lost. -/
theorem pressTickMs_of_lt {start stop : BitVec 32} (h : 10 * (stop - start).toNat < 2 ^ 31) :
    pressTickMs (stop.setWidth 64 - start.setWidth 64) = 10 * (stop - start).toNat := by
  rw [pressTickMs_sub]
  apply Int.bmod_eq_of_le
  · omega
  · omega

theorem inputEventCallback_eq_short {pressTick : BitVec 64} :
    inputEventCallback gpioNum0 pressTick = some .short ↔ pressTickMs pressTick < 1000 := by
  rw [inputEventCallback, if_pos rfl]
  by_cases hshort : pressTickMs pressTick < 1000
  · simp [hshort]
  · by_cases hlong : pressTickMs pressTick > 3000
    · simp [hshort, hlong]
    · simp [hshort, hlong]

theorem inputEventCallback_eq_long {pressTick : BitVec 64} :
    inputEventCallback gpioNum0 pressTick = some .long ↔ pressTickMs pressTick > 3000 := by
  rw [inputEventCallback, if_pos rfl]
  by_cases hshort : pressTickMs pressTick < 1000
  · rw [if_pos hshort]
    constructor
    · intro h
      cases h
    · intro h
      omega
  · rw [if_neg hshort]
    simp

/-- The calls of a press that began at `start` and of its release at `stop`. -/
def pressAndRelease (start stop : BitVec 32) (level : Int) (t : Ticks) : List Call :=
  (gpioInputHandler gpioNum0 level stop (gpioInputHandler gpioNum0 0 start t).1).2

theorem mem_bitsSet_pressAndRelease {start stop : BitVec 32} {level : Int} {t : Ticks}
    {e : PressEvent} (hlevel : level ≠ 0) :
    e ∈ bitsSet (pressAndRelease start stop level t) ↔
      inputEventCallback gpioNum0 (stop.setWidth 64 - start.setWidth 64) = some e := by
  simp [pressAndRelease, gpioInputHandler, bitsSet, hlevel]

/-- **A press is told by the ticks that elapsed**, also when the counter wrapped. -/
theorem press_classified (start stop : BitVec 32) (level : Int) (t : Ticks) (hlevel : level ≠ 0)
    (h : 10 * (stop - start).toNat < 2 ^ 31) :
    (.short ∈ bitsSet (pressAndRelease start stop level t) ↔ 10 * (stop - start).toNat < 1000) ∧
      (.long ∈ bitsSet (pressAndRelease start stop level t) ↔
        10 * (stop - start).toNat > 3000) := by
  rw [mem_bitsSet_pressAndRelease hlevel, mem_bitsSet_pressAndRelease hlevel,
    inputEventCallback_eq_short, inputEventCallback_eq_long, pressTickMs_of_lt h]
  constructor
  · omega
  · omega

/-- Sixteen ticks before the counter wraps to four seconds after. -/
theorem press_classified_wrapped :
    10 * ((400 : BitVec 32) - 0xfffffff0).toNat < 2 ^ 31 ∧
      (.short ∈ bitsSet (pressAndRelease 0xfffffff0 400 1 ⟨0, 0, 0⟩) ↔
        10 * ((400 : BitVec 32) - 0xfffffff0).toNat < 1000) ∧
      (.long ∈ bitsSet (pressAndRelease 0xfffffff0 400 1 ⟨0, 0, 0⟩) ↔
        10 * ((400 : BitVec 32) - 0xfffffff0).toNat > 3000) :=
  ⟨by decide, press_classified 0xfffffff0 400 1 ⟨0, 0, 0⟩ (by decide) (by decide)⟩

end Datk.Button
