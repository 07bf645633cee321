import Datk.Card.Drain

/-!
# There and back

What `sd_card_write` prints is parted by `", "`, and `sd_card_read` cuts at `','`.  `atoi` and
`atof` skip the blank in front of a number, but nothing does so for the time:
`sdCardRead_written_of_plain` says that a record comes back with a blank before its time, and
else as it was.  `roundTrips_iff` concludes that no file brings its records back.

For this no record needs to fit the buffer.  A line that is too long is read in pieces,
and a number may stand for a piece of another record; but a piece with seven tokens has
the time of its record, which the blank makes longer than the time that is asked for.
-/

namespace Datk.Card

open Lib Mqtt

/-- A number of hundredths. -/
def Hundredths (x : Number) : Prop := ∃ negative n, x = .hundredths negative n

/-- A record whose time is a text without comma and line end, and whose measurements are
multiples of 0.01. -/
structure Plain (m : ModuleData) : Prop where
  nonempty : m.timeValues ≠ []
  noComma : ',' ∉ m.timeValues
  noNewline : '\n' ∉ m.timeValues
  noNul : '\x00' ∉ m.timeValues
  temperature : Hundredths m.bme680Values.temperature
  pressure : Hundredths m.bme680Values.pressure
  humidity : Hundredths m.bme680Values.humidity
  gasResistance : Hundredths m.bme680Values.gasResistance
  uvValues : Hundredths m.uvValues

/-- **The records come back**, and are published as if they had not been on the card. -/
structure RoundTrips (float : Number → Number) (ms : List ModuleData) (c : State) : Prop where
  write : writeAll fresh ms = .ok c
  read : ∀ k m, ms[k]? = some m → sdCardRead float c.file (.ofNat 32 (k + 2)) = .ok m
  publish : ∀ k m m', ms[k]? = some m → sdCardRead float c.file (.ofNat 32 (k + 2)) = .ok m' →
    publish m'.timeValues m' = publish m.timeValues m

/-! ### What comes back -/

theorem atof_number {x : Number} (hx : Hundredths x) {rest : Text}
    (hrest : ∀ c ∈ rest, isSpace c = true) : atof (' ' :: (x.fixed2 ++ rest)) = x := by
  obtain ⟨negative, n, rfl⟩ := hx
  exact atof_hundredths negative n hrest

theorem atof_number_end {x : Number} (hx : Hundredths x) : atof (' ' :: x.fixed2) = x := by
  have h : atof (' ' :: (x.fixed2 ++ [])) = x := atof_number hx (List.forall_mem_nil _)
  rwa [List.append_nil] at h

theorem fields_time {m : ModuleData} (h : ',' ∉ m.timeValues) :
    fields ',' (' ' :: m.timeValues) = [' ' :: m.timeValues] := by
  apply fields_of_notMem
  · rw [List.mem_cons, not_or]
    exact ⟨by decide, h⟩
  · exact List.cons_ne_nil _ _

/-- A line is read as the record, with a blank before the time. -/
theorem decode_dataLine {m : ModuleData} (h : Plain m) :
    decode id (fields ',' (dataLine m)) = { m with timeValues := ' ' :: m.timeValues } := by
  have hnewline : ∀ c ∈ ['\n'], isSpace c = true := List.forall_mem_singleton.mpr rfl
  rw [fields_dataLine, fields_time h.noComma]
  simp only [decode, List.cons_append, List.nil_append, List.getD_cons_zero, List.getD_cons_succ,
    atoi_decimalInt, id_eq, atof_number_end h.temperature, atof_number_end h.humidity,
    atof_number_end h.pressure, atof_number_end h.gasResistance, atof_number h.uvValues hnewline]

/-- **What comes back** of records that fit the buffer: all but that the time has a blank in
front. -/
theorem sdCardRead_written_of_plain {ms : List ModuleData} (hms : ∀ m ∈ ms, Plain m)
    (hshort : ∀ m ∈ ms, (dataLine m).length ≤ 1023) (hlen : ms.length + 1 < 2 ^ 32) {k : Nat}
    {m : ModuleData} (hk : ms[k]? = some m) :
    sdCardRead id (some (written ms)) (.ofNat 32 (k + 2)) =
      .ok { m with timeValues := ' ' :: m.timeValues } := by
  have hprintable : ∀ m ∈ ms, Printable m := fun m hm =>
    ⟨(hms m hm).noNewline, (hms m hm).noNul, hshort m hm⟩
  rw [sdCardRead_written id hprintable hlen hk, decode_dataLine (hms m (List.mem_of_getElem? hk))]

/-! ### Pieces of lines -/

theorem count_numbers (m : ModuleData) : (numbers m ++ ['\n']).count ',' = 4 := by
  have hnumber : ∀ x : Number, x.fixed2.count ',' = 0 := fun x =>
    List.count_eq_zero_of_not_mem (notMem_fixed2 (by decide) (by decide) x)
  simp [numbers, List.count_append, hnumber]

/-- **A piece with seven tokens** has the time of its record. -/
theorem timeValues_of_infix (float : Number → Number) {m : ModuleData} (hm : Plain m) {l : Text}
    (hl : l <:+: dataLine m) (hwhole : Whole l) :
    (decode float (fields ',' (cString l))).timeValues = ' ' :: m.timeValues := by
  have hline : dataLine m = decimalInt m.id ++ ',' ::
      ((' ' :: m.timeValues) ++ ',' :: (numbers m ++ ['\n'])) := by
    rw [dataLine_eq, body]
    simp
  have hnul : '\x00' ∉ l := by
    intro h
    have hmem := hl.subset h
    rw [dataLine_eq, List.mem_append] at hmem
    rcases hmem with hmem | hmem
    · exact notMem_body (by decide) (by decide) hm.noNul hmem
    · exact absurd hmem (by decide)
  have htime : ',' ∉ ' ' :: m.timeValues := by
    rw [List.mem_cons, not_or]
    exact ⟨by decide, hm.noComma⟩
  have hcount := count_numbers m
  rw [Whole, cString_eq hnul] at hwhole
  rw [hline] at hl
  have hsecond := getElem?_fields_of_infix (notMem_decimalInt (by decide) (by decide) _) htime
    (List.cons_ne_nil _ _) (List.count_pos_iff.mp (by omega)) hl (by omega)
  rw [cString_eq hnul]
  show (fields ',' l).getD 1 [] = _
  rw [List.getD_eq_getElem?_getD, hsecond]
  rfl

/-- What is read has the time of a record, with a blank in front. -/
theorem exists_of_sdCardRead {float : Number → Number} {ms : List ModuleData}
    (hms : ∀ m ∈ ms, Plain m) {k : Nat} (hk : k + 2 < 2 ^ 32) {m : ModuleData}
    (h : sdCardRead float (some (written ms)) (.ofNat 32 (k + 2)) = .ok m) :
    ∃ m' ∈ ms, m.timeValues = ' ' :: m'.timeValues := by
  obtain ⟨l, ⟨i, hi, hn⟩, hwhole, rfl⟩ := numbered_of_sdCardRead h
  rw [written, fgets_header] at hi
  cases i with
  | zero =>
    -- The header has the number 1.
    have hnat : (1 : Nat) = (k + 2) % 2 ^ 32 :=
      (congrArg BitVec.toNat hn).trans (BitVec.toNat_ofNat _ _)
    omega
  | succ i =>
    rw [List.getElem?_cons_succ, map_dataLine] at hi
    have hbodies : ∀ l ∈ ms.map body, '\n' ∉ l := by
      intro l hl
      obtain ⟨m, hm, rfl⟩ := List.mem_map.mp hl
      exact notMem_body (by decide) (by decide) (hms m hm).noNewline
    obtain ⟨b, hb, hinfix⟩ := infix_of_mem_lines hbodies (List.mem_of_getElem? hi)
    obtain ⟨m, hm, rfl⟩ := List.mem_map.mp hb
    rw [← dataLine_eq] at hinfix
    exact ⟨m, hm, timeValues_of_infix float (hms m hm) hinfix hwhole⟩

/-- **No file brings its records back.** -/
theorem roundTrips_iff (float : Number → Number) {ms : List ModuleData}
    (hms : ∀ m ∈ ms, Plain m) (hlen : ms.length + 1 < 2 ^ 32) :
    (∃ c, RoundTrips float ms c) ↔ ms = [] := by
  constructor
  · rintro ⟨c, hc⟩
    by_contra hne
    have hfile : c = stored ms :=
      Except.ok.inj (hc.write.symm.trans (writeAll_eq (by omega)))
    have hread := hc.read
    simp only [hfile, stored, if_neg hne] at hread
    -- Each time is a blank and the time of another record: there is no shortest.
    have hnone : ∀ n, ∀ m ∈ ms, m.timeValues.length ≠ n := by
      intro n
      induction n using Nat.strong_induction_on with
      | _ n ih =>
      intro m hm hlength
      obtain ⟨k, hk⟩ := List.getElem?_of_mem hm
      have hlt := (List.getElem?_eq_some_iff.mp hk).1
      obtain ⟨m', hm', htime⟩ := exists_of_sdCardRead hms (by omega) (hread k m hk)
      rw [htime, List.length_cons] at hlength
      exact ih _ (by omega) m' hm' rfl
    obtain ⟨m, hm⟩ := List.exists_mem_of_ne_nil ms hne
    exact hnone _ m hm rfl
  · rintro rfl
    refine ⟨fresh, rfl, fun k m hk => ?_, fun k m m' hk _ => ?_⟩
    · cases hk
    · cases hk

theorem plain_indoor : Plain indoor :=
  ⟨by decide, by decide, by decide, by decide, ⟨_, _, rfl⟩, ⟨_, _, rfl⟩, ⟨_, _, rfl⟩,
    ⟨_, _, rfl⟩, ⟨_, _, rfl⟩⟩

theorem roundTrips_iff_indoor : (∃ c, RoundTrips id [indoor] c) ↔ [indoor] = [] :=
  roundTrips_iff id (List.forall_mem_singleton.mpr plain_indoor) (by decide)

/-- The time of a record comes back as another text. -/
theorem not_roundTrips : ¬ ∀ ms : List ModuleData, (∀ m ∈ ms, Plain m) →
    ms.length + 1 < 2 ^ 32 → ∃ c, RoundTrips id ms c := by
  intro h
  have hplain : ∀ m ∈ [indoor], Plain m := List.forall_mem_singleton.mpr plain_indoor
  obtain ⟨c, hc⟩ := h [indoor] hplain (by decide)
  have hfile : c = stored [indoor] :=
    Except.ok.inj (hc.write.symm.trans (writeAll_eq (by decide)))
  have hread := hc.read 0 indoor rfl
  have hback := sdCardRead_written_of_plain hplain
    (List.forall_mem_singleton.mpr (by decide +kernel)) (by decide) (k := 0) rfl
  rw [hfile] at hread
  have htime := congrArg ModuleData.timeValues (Except.ok.inj (hread.symm.trans hback))
  exact absurd htime (by decide)

end Datk.Card
