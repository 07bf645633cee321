import Datk.Card.File

/-!
# What was written is read

The file after records have been written to it, one `sd_card_write` after the other, with
no file before.  `writeAll_eq` says what is in it, `fields_dataLine` what a line of it is
cut into, and `sdCardRead_written` that `sd_card_read` finds the line of each record by its
number: the header is line 1, so that record `k` is line `k + 2`.
-/

namespace Datk.Card

open Lib Mqtt

/-- A record that is printed on one line, which fits the buffer of `sd_card_read`. -/
structure Printable (m : ModuleData) : Prop where
  noNewline : '\n' ∉ m.timeValues
  noNul : '\x00' ∉ m.timeValues
  short : (dataLine m).length ≤ 1023

/-- No file, and nothing counted. -/
def fresh : State := ⟨none, 0, 2⟩

def written (ms : List ModuleData) : Text := header ++ (ms.map dataLine).flatten

/-- `sd_card_write` for each record. -/
def writeAll (c : State) (ms : List ModuleData) : Except Fault State :=
  ms.foldlM (sdCardWrite .stored) c

def stored (ms : List ModuleData) : State :=
  if ms = [] then fresh else ⟨some (written ms), .ofNat 32 ms.length, 2⟩

theorem writeAll_append {c : State} {f : Text} (hf : c.file = some f) (ms : List ModuleData)
    (hid : 0 < c.id.toNat) (hlen : c.id.toNat + ms.length < 2 ^ 32) :
    writeAll c ms = .ok ⟨some (f ++ (ms.map dataLine).flatten),
      c.id + .ofNat 32 ms.length, c.line⟩ := by
  induction ms generalizing c f with
  | nil =>
    obtain ⟨file, id, line⟩ := c
    cases hf
    simp [writeAll, pure, Except.pure]
  | cons m ms ih =>
    rw [List.length_cons] at hlen
    have hid' : c.id ≠ 0 := by
      intro h0
      rw [h0] at hid
      exact absurd hid (by decide)
    have hnext : (c.id + 1).toNat = c.id.toNat + 1 := by
      rw [BitVec.toNat_add]
      exact Nat.mod_eq_of_lt (by show c.id.toNat + 1 < _; omega)
    have hwrite : sdCardWrite .stored c m =
        .ok { c with id := c.id + 1, file := some (f ++ dataLine m) } := by
      simp only [sdCardWrite, printed, hf, if_neg hid', Option.getD_some, List.nil_append]
    rw [writeAll, List.foldlM_cons, hwrite]
    refine (ih rfl (by rw [hnext]; omega) (by rw [hnext]; omega)).trans ?_
    have hsum := add_one_add_ofNat c.id ms.length
    simp only [hsum, List.map_cons, List.flatten_cons, List.append_assoc, List.length_cons]

/-- **What is in the file**, and what is counted. -/
theorem writeAll_eq {ms : List ModuleData} (hlen : ms.length < 2 ^ 32) :
    writeAll fresh ms = .ok (stored ms) := by
  cases ms with
  | nil => rfl
  | cons m ms =>
    rw [List.length_cons] at hlen
    have hrest := writeAll_append (c := ⟨some (header ++ dataLine m), 1, 2⟩) rfl ms
      (Nat.one_pos) (by show 1 + ms.length < 2 ^ 32; omega)
    have hone : (1 : BitVec 32) + .ofNat 32 ms.length = .ofNat 32 (ms.length + 1) := by
      apply BitVec.eq_of_toNat_eq
      have h1 : BitVec.toNat (1 : BitVec 32) = 1 := rfl
      simp only [BitVec.toNat_add, BitVec.toNat_ofNat, h1]
      omega
    simp only [hone, List.append_assoc] at hrest
    exact hrest

/-! ### A line -/

/-- The five numbers, each with the blank before it. -/
def numbers (m : ModuleData) : Text :=
  ' ' :: m.bme680Values.temperature.fixed2 ++ ',' :: ' ' :: m.bme680Values.humidity.fixed2 ++
    ',' :: ' ' :: m.bme680Values.pressure.fixed2 ++
    ',' :: ' ' :: m.bme680Values.gasResistance.fixed2 ++ ',' :: ' ' :: m.uvValues.fixed2

/-- The line without its end. -/
def body (m : ModuleData) : Text :=
  decimalInt m.id ++ ',' :: (' ' :: m.timeValues ++ ',' :: numbers m)

theorem dataLine_eq (m : ModuleData) : dataLine m = body m ++ ['\n'] := by
  simp [dataLine, sdCardLine, body, numbers, decimalInt, sign]

theorem notMem_decimalInt {c : Char} (hdigit : c.isDigit = false) (hminus : c ≠ '-') (n : Int) :
    c ∉ decimalInt n := by
  intro h
  rcases mem_decimalInt h with h | h
  · exact absurd (h.symm.trans hdigit) (by decide)
  · exact hminus h

theorem notMem_fixed2 {c : Char} (hdigit : c.isDigit = false) (hother : c ∉ "-.infan".toList)
    (x : Number) : c ∉ x.fixed2 := by
  intro h
  rcases Number.mem_fixed2 h with h | h
  · exact absurd (h.symm.trans hdigit) (by decide)
  · exact hother h

/-- A line has no character but those of its texts, blanks and commas. -/
theorem notMem_body {c : Char} (hdigit : c.isDigit = false) (hother : c ∉ "-.infan, ".toList)
    {m : ModuleData} (hm : c ∉ m.timeValues) : c ∉ body m := by
  have hminus : c ≠ '-' := fun heq => hother (heq ▸ by decide)
  have hcomma : c ≠ ',' := fun heq => hother (heq ▸ by decide)
  have hblank : c ≠ ' ' := fun heq => hother (heq ▸ by decide)
  have hnumber : ∀ x : Number, c ∉ x.fixed2 :=
    notMem_fixed2 hdigit fun h => hother (List.mem_append_left ", ".toList h)
  simp [body, numbers, notMem_decimalInt hdigit hminus, hnumber, hblank, hcomma, hm]

/-- **What a line is cut into.** -/
theorem fields_dataLine (m : ModuleData) :
    fields ',' (dataLine m) = decimalInt m.id :: (fields ',' (' ' :: m.timeValues) ++
      [' ' :: m.bme680Values.temperature.fixed2, ' ' :: m.bme680Values.humidity.fixed2,
        ' ' :: m.bme680Values.pressure.fixed2, ' ' :: m.bme680Values.gasResistance.fixed2,
        ' ' :: (m.uvValues.fixed2 ++ ['\n'])]) := by
  have hid : ',' ∉ decimalInt m.id := notMem_decimalInt (by decide) (by decide) _
  have hnumber : ∀ x : Number, ',' ∉ ' ' :: x.fixed2 := by
    intro x
    simp [notMem_fixed2 (c := ',') (by decide) (by decide)]
  have hlast : ',' ∉ ' ' :: (m.uvValues.fixed2 ++ ['\n']) := by
    simp [notMem_fixed2 (c := ',') (by decide) (by decide)]
  have hne : ∀ x : Number, ' ' :: x.fixed2 ≠ [] := fun x => List.cons_ne_nil _ _
  have hline : dataLine m = decimalInt m.id ++ ',' :: ((' ' :: m.timeValues) ++ ',' ::
      ((' ' :: m.bme680Values.temperature.fixed2) ++ ',' ::
      ((' ' :: m.bme680Values.humidity.fixed2) ++ ',' ::
      ((' ' :: m.bme680Values.pressure.fixed2) ++ ',' ::
      ((' ' :: m.bme680Values.gasResistance.fixed2) ++ ',' ::
      (' ' :: (m.uvValues.fixed2 ++ ['\n']))))))) := by
    simp [dataLine_eq, body, numbers]
  rw [hline, fields_append hid (decimalInt_ne_nil _), fields_append_sep,
    fields_append (hnumber _) (hne _), fields_append (hnumber _) (hne _),
    fields_append (hnumber _) (hne _), fields_append (hnumber _) (hne _),
    fields_of_notMem hlast (List.cons_ne_nil _ _)]

/-! ### The lines of the file -/

theorem Printable.length_body {m : ModuleData} (h : Printable m) : (body m).length ≤ 1022 := by
  have hlen := h.short
  rw [dataLine_eq, List.length_append] at hlen
  exact Nat.le_of_succ_le_succ hlen

theorem fgets_header (rest : Text) : fgets (header ++ rest) = header :: fgets rest := by
  have hheader : header = header.dropLast ++ ['\n'] := by decide
  rw [fgets, hheader, List.append_assoc, List.singleton_append,
    lines_append (by decide) (by decide), fgets]

/-- The lines as a list of bodies with a line end. -/
theorem map_dataLine (ms : List ModuleData) :
    ms.map dataLine = (ms.map body).map (· ++ ['\n']) := by
  rw [List.map_map]
  exact List.map_congr_left fun m _ => dataLine_eq m

/-- **The lines of the file** are the header and one for each record. -/
theorem fgets_written {ms : List ModuleData} (hms : ∀ m ∈ ms, Printable m) :
    fgets (written ms) = header :: ms.map dataLine := by
  have hbodies : ∀ l ∈ ms.map body, '\n' ∉ l ∧ l.length ≤ 1022 := by
    intro l hl
    obtain ⟨m, hm, rfl⟩ := List.mem_map.mp hl
    refine ⟨?_, (hms m hm).length_body⟩
    exact notMem_body (by decide) (by decide) (hms m hm).noNewline
  rw [written, fgets_header, map_dataLine, fgets, lines_flatten hbodies]

theorem cString_eq {s : Text} (h : '\x00' ∉ s) : cString s = s := by
  rw [cString, List.takeWhile_eq_self_iff]
  intro c hc
  exact decide_eq_true fun heq => h (heq ▸ hc)

theorem Printable.cString_dataLine {m : ModuleData} (h : Printable m) :
    cString (dataLine m) = dataLine m := by
  apply cString_eq
  rw [dataLine_eq]
  simp [notMem_body (c := '\x00') (by decide) (by decide) h.noNul]

theorem Printable.whole {m : ModuleData} (h : Printable m) : Whole (dataLine m) := by
  have htime : 0 < (fields ',' (' ' :: m.timeValues)).length :=
    List.length_pos_iff.mpr (fields_ne_nil List.mem_cons_self (by decide))
  rw [Whole, h.cString_dataLine, fields_dataLine, List.length_cons, List.length_append]
  simp only [List.length_cons, List.length_nil]
  omega

/-- **`sd_card_read` finds the record**, by the number of its line. -/
theorem sdCardRead_written (float : Number → Number) {ms : List ModuleData}
    (hms : ∀ m ∈ ms, Printable m) (hlen : ms.length + 1 < 2 ^ 32) {k : Nat}
    {m : ModuleData} (hk : ms[k]? = some m) :
    sdCardRead float (some (written ms)) (.ofNat 32 (k + 2)) =
      .ok (decode float (fields ',' (dataLine m))) := by
  have hm := hms m (List.mem_of_getElem? hk)
  have hline : (fgets (written ms))[k + 1]? = some (dataLine m) := by
    rw [fgets_written hms, List.getElem?_cons_succ, List.getElem?_map, hk]
    rfl
  have hloop : readLoop float (.ofNat 32 (k + 2)) 0 none (fgets (written ms)) =
      .ok (some (decode float (fields ',' (cString (dataLine m))))) := by
    refine readLoop_getElem ?_ hline (BitVec.zero_add _) hm.whole
    rw [fgets_written hms, List.length_cons, List.length_map]
    exact hlen
  rw [sdCardRead, hloop, hm.cString_dataLine]

end Datk.Card
