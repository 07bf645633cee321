import Datk.Lib.Lines
import Datk.Lib.Number
import Datk.Mqtt.Payload

/-!
# The file on the SD card

`sd_card_write` and `sd_card_read`, on the characters of the file.  The one prints a line,
after a header if it is the first; the other takes the file in lines of at most 1023
characters, counts them in a `uint32_t`, and cuts the line with the right number into
tokens.

Neither looks at the result of `fopen`, `sd_card_write` counts the line before it is printed
and does not ask whether it was stored, and `sd_card_read` takes it that the line is there
and that it has seven tokens.  `survivable_iff` says that nothing goes wrong exactly if
this is so.

`float` is what a number becomes as a `float`: the results hold for the rounding of the
hardware, and for exact decimals, where it is the identity.
-/

namespace Datk.Card

open Lib Mqtt

/-- What the program must not do. -/
inductive Fault
  /-- A stream that is `NULL` is used. -/
  | nullStream
  /-- `atoi` or `atof` is given a `NULL` token. -/
  | nullToken
  /-- A structure is returned that was never assigned. -/
  | unassigned
  deriving DecidableEq

/-- `bme680_values_float_t`. -/
structure Values where
  temperature : Number
  pressure : Number
  humidity : Number
  gasResistance : Number
  deriving DecidableEq

/-- `module_data_t`, with the text that `time_values` points to. -/
structure ModuleData where
  id : Int
  timeValues : Text
  bme680Values : Values
  uvValues : Number
  deriving DecidableEq

/-- 25 °C, 1013.25 hPa, 50 % and 123456 Ω in the first seconds of a year. -/
def indoor : ModuleData :=
  ⟨0, "2024/1/1 0:0:0".toList, ⟨.hundredths false 2500, .hundredths false 101325,
    .hundredths false 5000, .hundredths false 12345600⟩, .hundredths false 8⟩

/-- The file, if there is one, and the globals `id` and `line`. -/
structure State where
  file : Option Text
  id : BitVec 32
  line : BitVec 32
  deriving DecidableEq

/-! ### Writing -/

def header : Text := "ID, Time, temperature, humidity, pressure, gas, uv\n".toList

def dataLine (m : ModuleData) : Text :=
  sdCardLine m.id m.timeValues (' ' :: m.bme680Values.temperature.fixed2 ++
    ',' :: ' ' :: m.bme680Values.humidity.fixed2 ++
    ',' :: ' ' :: m.bme680Values.pressure.fixed2 ++
    ',' :: ' ' :: m.bme680Values.gasResistance.fixed2 ++
    ',' :: ' ' :: m.uvValues.fixed2 ++ ['\n'])

/-- How `fopen`, `fprintf` and `fclose` end. -/
inductive Outcome
  | notOpened
  | stored
  /-- Of what is printed, no more than the first `n` characters get to the card. -/
  | cut (n : Nat)
  deriving DecidableEq, Repr

/-- What `sd_card_write` prints. -/
def printed (c : State) (m : ModuleData) : Text :=
  (if c.id = 0 then header else []) ++ dataLine m

/-- `sd_card_write`; a `fopen` that fails is reported, and no more, and what follows it is
not checked. -/
def sdCardWrite (outcome : Outcome) (c : State) (m : ModuleData) : Except Fault State :=
  match outcome with
  | .notOpened => .error .nullStream
  | .stored => .ok { c with id := c.id + 1, file := some (c.file.getD [] ++ printed c m) }
  | .cut n => .ok { c with id := c.id + 1, file := some (c.file.getD [] ++ (printed c m).take n) }

/-! ### Reading -/

/-- What a buffer reads as. -/
def cString (buffer : Text) : Text := buffer.takeWhile (· ≠ '\x00')

/-- `strtok`, for a token that is used. -/
def token (s : Text) : Except Fault (Text × Text) :=
  match strtok s with
  | none => .error .nullToken
  | some r => .ok r

section

variable (float : Number → Number)

/-- The seven tokens of a line. -/
def parse (buffer : Text) : Except Fault ModuleData := do
  let (id, s) ← token buffer
  -- A `NULL` is not used here, but the next token is then one, too.
  let (time, s) := (strtok s).getD ([], [])
  let (temperature, s) ← token s
  let (humidity, s) ← token s
  let (pressure, s) ← token s
  let (gasResistance, s) ← token s
  let (uv, _) ← token s
  return {
    id := atoi id
    timeValues := time
    bme680Values := {
      temperature := float (atof temperature)
      humidity := float (atof humidity)
      pressure := float (atof pressure)
      gasResistance := float (atof gasResistance) }
    uvValues := float (atof uv) }

/-- The loop of `sd_card_read`, with what is in `messages_data`. -/
def readLoop (lineNumber : BitVec 32) (i : BitVec 32) (data : Option ModuleData) :
    List Text → Except Fault (Option ModuleData)
  | [] => .ok data
  | buffer :: rest =>
    let i := i + 1
    if i = lineNumber then do
      let data ← parse float (cString buffer)
      readLoop lineNumber i (some data) rest
    else readLoop lineNumber i data rest

/-- What `fgets` reads into `buffer[1024]`, time after time. -/
def fgets (contents : Text) : List Text := lines '\n' 1022 contents

/-- `sd_card_read`, of a file that has been opened if it is not `none`. -/
def sdCardRead (f : Option Text) (lineNumber : BitVec 32) : Except Fault ModuleData :=
  match f with
  | none => .error .nullStream
  | some contents =>
    match readLoop float lineNumber 0 none (fgets contents) with
    | .error e => .error e
    | .ok none => .error .unassigned
    | .ok (some data) => .ok data

/-! ### Tokens and fields -/

theorem strtok_cases (s : Text) :
    strtok s = none ∧ fields ',' s = [] ∨
      ∃ t r, strtok s = some (t, r) ∧ fields ',' s = t :: fields ',' r := by
  rw [← fields_dropWhile]
  cases hskip : s.dropWhile (· = ',') with
  | nil => exact .inl ⟨by rw [strtok, hskip], fields_nil⟩
  | cons c u =>
    right
    have hc : c ≠ ',' := by
      have hhead := List.head_dropWhile_not (· = ',') (l := s) (by rw [hskip]; simp)
      simpa [hskip] using hhead
    refine ⟨(c :: u).takeWhile (· ≠ ','), ((c :: u).dropWhile (· ≠ ',')).drop 1, ?_, ?_⟩
    · rw [strtok, hskip]
    · have hmem : ',' ∉ (c :: u).takeWhile (· ≠ ',') := fun h => by
        simpa using List.mem_takeWhile_imp h
      have hne : (c :: u).takeWhile (· ≠ ',') ≠ [] := by simp [hc]
      have hsplit := List.takeWhile_append_dropWhile (p := (· ≠ ',')) (l := c :: u)
      cases hrest : (c :: u).dropWhile (· ≠ ',') with
      | nil =>
        rw [hrest, List.append_nil] at hsplit
        rw [List.drop_nil, fields_nil, hsplit]
        exact fields_of_notMem (hsplit ▸ hmem) (List.cons_ne_nil _ _)
      | cons d r =>
        have hd : d = ',' := by
          have hhead := List.head_dropWhile_not (· ≠ ',') (l := c :: u) (by rw [hrest]; simp)
          simp only [hrest, List.head_cons] at hhead
          simpa using hhead
        rw [hrest, hd] at hsplit
        rw [List.drop_one, List.tail_cons, ← hsplit, fields_append hmem hne, hsplit]

/-- The time text is the second field. -/
theorem sdCardReadTime_eq (s : Text) : sdCardReadTime s = (fields ',' s)[1]? := by
  rcases strtok_cases s with ⟨hs, hf⟩ | ⟨t, r, hs, hf⟩
  · rw [sdCardReadTime, hs, hf]
    rfl
  · rcases strtok_cases r with ⟨hr, hg⟩ | ⟨u, v, hr, hg⟩
    · simp [sdCardReadTime, hs, hr, hf, hg]
    · simp [sdCardReadTime, hs, hr, hf, hg]

/-- The record that seven fields make. -/
def decode (fs : List Text) : ModuleData where
  id := atoi (fs.getD 0 [])
  timeValues := fs.getD 1 []
  bme680Values := {
    temperature := float (atof (fs.getD 2 []))
    humidity := float (atof (fs.getD 3 []))
    pressure := float (atof (fs.getD 4 []))
    gasResistance := float (atof (fs.getD 5 [])) }
  uvValues := float (atof (fs.getD 6 []))

theorem token_cases (s : Text) :
    token s = .error .nullToken ∧ fields ',' s = [] ∨
      ∃ t r, token s = .ok (t, r) ∧ fields ',' s = t :: fields ',' r := by
  rcases strtok_cases s with ⟨hs, hf⟩ | ⟨t, r, hs, hf⟩
  · exact .inl ⟨by rw [token, hs], hf⟩
  · exact .inr ⟨t, r, by rw [token, hs], hf⟩

/-- **What `sd_card_read` makes of a line.** -/
theorem parse_eq (s : Text) :
    parse float s =
      if 7 ≤ (fields ',' s).length then .ok (decode float (fields ',' s))
      else .error .nullToken := by
  have hnil : token [] = .error .nullToken := rfl
  rcases token_cases s with ⟨h0, hf0⟩ | ⟨t0, s0, h0, hf0⟩
  · simp [parse, bind, Except.bind, h0, hf0]
  rcases strtok_cases s0 with ⟨h1, hf1⟩ | ⟨t1, s1, h1, hf1⟩
  · simp [parse, bind, Except.bind, hnil, h0, hf0, h1, hf1]
  rcases token_cases s1 with ⟨h2, hf2⟩ | ⟨t2, s2, h2, hf2⟩
  · simp [parse, bind, Except.bind, h0, hf0, h1, hf1, h2, hf2]
  rcases token_cases s2 with ⟨h3, hf3⟩ | ⟨t3, s3, h3, hf3⟩
  · simp [parse, bind, Except.bind, h0, hf0, h1, hf1, h2, hf2, h3, hf3]
  rcases token_cases s3 with ⟨h4, hf4⟩ | ⟨t4, s4, h4, hf4⟩
  · simp [parse, bind, Except.bind, h0, hf0, h1, hf1, h2, hf2, h3, hf3, h4, hf4]
  rcases token_cases s4 with ⟨h5, hf5⟩ | ⟨t5, s5, h5, hf5⟩
  · simp [parse, bind, Except.bind, h0, hf0, h1, hf1, h2, hf2, h3, hf3, h4, hf4, h5, hf5]
  rcases token_cases s5 with ⟨h6, hf6⟩ | ⟨t6, s6, h6, hf6⟩
  · simp [parse, bind, Except.bind, h0, hf0, h1, hf1, h2, hf2, h3, hf3, h4, hf4, h5, hf5, h6, hf6]
  · simp [parse, bind, Except.bind, pure, Except.pure, decode, h0, hf0, h1, hf1, h2, hf2, h3, hf3,
      h4, hf4, h5, hf5, h6, hf6]

/-! ### The lines of the file -/

variable {float}

/-- The line can be cut into a record. -/
def Whole (l : Text) : Prop := 7 ≤ (fields ',' (cString l)).length

instance (l : Text) : Decidable (Whole l) := inferInstanceAs (Decidable (_ ≤ _))

theorem readLoop_cons {n i : BitVec 32} {data : Option ModuleData} {l : Text} {ls : List Text} :
    readLoop float n i data (l :: ls) =
      if i + 1 = n then
        if Whole l then readLoop float n (i + 1) (some (decode float (fields ',' (cString l)))) ls
        else .error .nullToken
      else readLoop float n (i + 1) data ls := by
  have hparse : parse float (cString l) =
      if Whole l then .ok (decode float (fields ',' (cString l))) else .error .nullToken :=
    parse_eq float (cString l)
  rw [readLoop, hparse]
  by_cases hi : i + 1 = n
  · rw [if_pos hi, if_pos hi]
    by_cases hl : Whole l
    · rw [if_pos hl, if_pos hl]
      rfl
    · rw [if_neg hl, if_neg hl]
      rfl
  · rw [if_neg hi, if_neg hi]

/-- The lines that the counter gives the number `n`, if it is at `i` before the first. -/
def Numbered (n i : BitVec 32) (ls : List Text) (l : Text) : Prop :=
  ∃ k, ls[k]? = some l ∧ i + BitVec.ofNat 32 (k + 1) = n

theorem add_ofNat_ne (i : BitVec 32) {k : Nat} (hk : k + 1 < 2 ^ 32) :
    i + BitVec.ofNat 32 (k + 1) ≠ i := by
  intro h
  have hnat := congrArg BitVec.toNat h
  have hlt := i.isLt
  rw [BitVec.toNat_add, BitVec.toNat_ofNat] at hnat
  omega

theorem add_one_add_ofNat (i : BitVec 32) (k : Nat) :
    i + 1 + BitVec.ofNat 32 k = i + BitVec.ofNat 32 (k + 1) := by
  apply BitVec.eq_of_toNat_eq
  have hone : BitVec.toNat (1 : BitVec 32) = 1 := rfl
  simp only [BitVec.toNat_add, BitVec.toNat_ofNat, hone]
  omega

theorem numbered_cons {n i : BitVec 32} {l m : Text} {ls : List Text} :
    Numbered n i (l :: ls) m ↔ i + 1 = n ∧ l = m ∨ Numbered n (i + 1) ls m := by
  constructor
  · rintro ⟨k, hk, hn⟩
    cases k with
    | zero => exact .inl ⟨hn, Option.some.inj hk⟩
    | succ k => exact .inr ⟨k, hk, (add_one_add_ofNat i (k + 1)).trans hn⟩
  · rintro (⟨hn, rfl⟩ | ⟨k, hk, hn⟩)
    · exact ⟨0, rfl, hn⟩
    · exact ⟨k + 1, hk, (add_one_add_ofNat i (k + 1)).symm.trans hn⟩

/-- **When the loop succeeds**: every line it takes is whole. -/
theorem readLoop_ok_iff {n i : BitVec 32} {data : Option ModuleData} {ls : List Text} :
    (∃ d, readLoop float n i data ls = .ok d) ↔ ∀ l, Numbered n i ls l → Whole l := by
  induction ls generalizing i data with
  | nil =>
    refine ⟨fun _ l => ?_, fun _ => ⟨data, rfl⟩⟩
    rintro ⟨k, hk, -⟩
    cases hk
  | cons l ls ih =>
    rw [readLoop_cons]
    by_cases hi : i + 1 = n
    · rw [if_pos hi]
      by_cases hl : Whole l
      · rw [if_pos hl, ih]
        refine ⟨fun h m hm => ?_, fun h m hm => h m (numbered_cons.mpr (.inr hm))⟩
        rcases numbered_cons.mp hm with ⟨-, rfl⟩ | hm
        · exact hl
        · exact h m hm
      · rw [if_neg hl]
        refine ⟨fun ⟨d, hd⟩ => ?_, fun h => ?_⟩
        · cases hd
        · exact absurd (h l (numbered_cons.mpr (.inl ⟨hi, rfl⟩))) hl
    · rw [if_neg hi, ih]
      refine ⟨fun h m hm => ?_, fun h m hm => h m (numbered_cons.mpr (.inr hm))⟩
      rcases numbered_cons.mp hm with ⟨hn, -⟩ | hm
      · exact absurd hn hi
      · exact h m hm

/-- Something is returned if there is a line of that number. -/
theorem isSome_readLoop {n i : BitVec 32} {data d : Option ModuleData} {ls : List Text}
    (h : readLoop float n i data ls = .ok d) :
    d.isSome = true ↔ data.isSome = true ∨ ∃ l, Numbered n i ls l := by
  induction ls generalizing i data with
  | nil =>
    cases h
    refine ⟨.inl, ?_⟩
    rintro (h | ⟨l, k, hk, -⟩)
    · exact h
    · cases hk
  | cons l ls ih =>
    rw [readLoop_cons] at h
    by_cases hi : i + 1 = n
    · rw [if_pos hi] at h
      by_cases hl : Whole l
      · rw [if_pos hl] at h
        have hsome := (ih h).mpr (.inl rfl)
        exact ⟨fun _ => .inr ⟨l, numbered_cons.mpr (.inl ⟨hi, rfl⟩)⟩, fun _ => hsome⟩
      · rw [if_neg hl] at h
        cases h
    · rw [if_neg hi] at h
      rw [ih h]
      refine or_congr_right ⟨?_, ?_⟩
      · rintro ⟨m, hm⟩
        exact ⟨m, numbered_cons.mpr (.inr hm)⟩
      · rintro ⟨m, hm⟩
        rcases numbered_cons.mp hm with ⟨hn, -⟩ | hm
        · exact absurd hn hi
        · exact ⟨m, hm⟩

theorem readLoop_of_not_numbered {n i : BitVec 32} {data : Option ModuleData} {ls : List Text}
    (h : ∀ l, ¬ Numbered n i ls l) : readLoop float n i data ls = .ok data := by
  induction ls generalizing i with
  | nil => rfl
  | cons l ls ih =>
    have hi : i + 1 ≠ n := fun hi => h l (numbered_cons.mpr (.inl ⟨hi, rfl⟩))
    rw [readLoop_cons, if_neg hi, ih fun m hm => h m (numbered_cons.mpr (.inr hm))]

/-- As long as the counter does not wrap around, a number stands for one line. -/
theorem readLoop_getElem {n i : BitVec 32} {data : Option ModuleData} {ls : List Text}
    (hlen : ls.length < 2 ^ 32) {k : Nat} {l : Text} (hk : ls[k]? = some l)
    (hn : i + BitVec.ofNat 32 (k + 1) = n) (hl : Whole l) :
    readLoop float n i data ls = .ok (some (decode float (fields ',' (cString l)))) := by
  induction ls generalizing i k data with
  | nil => cases hk
  | cons m ls ih =>
    rw [List.length_cons] at hlen
    rw [readLoop_cons]
    cases k with
    | zero =>
      cases hk
      have hone : i + 1 = n := hn
      rw [if_pos hone, if_pos hl]
      apply readLoop_of_not_numbered
      rintro m ⟨k, hk, hnk⟩
      have hlt := (List.getElem?_eq_some_iff.mp hk).1
      rw [hone] at hnk
      exact add_ofNat_ne _ (by omega) hnk
    | succ k =>
      have hlt := (List.getElem?_eq_some_iff.mp hk).1
      rw [List.length_cons] at hlt
      have hshift : i + 1 + BitVec.ofNat 32 (k + 1) = n := (add_one_add_ofNat i (k + 1)).trans hn
      have hi : i + 1 ≠ n := by
        intro hi
        rw [← hi] at hshift
        exact add_ofNat_ne _ (by omega) hshift
      rw [if_neg hi]
      exact ih (by omega) hk hshift

/-- **When `sd_card_read` succeeds**: there is a line of the number, and it is whole. -/
theorem sdCardRead_ok_iff {f : Option Text} {n : BitVec 32} :
    (∃ m, sdCardRead float f n = .ok m) ↔ ∃ contents, f = some contents ∧
      (∃ l, Numbered n 0 (fgets contents) l) ∧
      ∀ l, Numbered n 0 (fgets contents) l → Whole l := by
  cases f with
  | none =>
    refine ⟨fun ⟨m, hm⟩ => ?_, fun ⟨contents, h, _⟩ => ?_⟩
    · cases hm
    · cases h
  | some contents =>
    have hloop : (∃ d, readLoop float n 0 none (fgets contents) = .ok d) ↔ _ := readLoop_ok_iff
    cases hd : readLoop float n 0 none (fgets contents) with
    | error e =>
      refine ⟨fun ⟨m, hm⟩ => ?_, ?_⟩
      · rw [sdCardRead, hd] at hm
        cases hm
      · rintro ⟨_, ⟨⟩, -, hwhole⟩
        obtain ⟨d, h⟩ := hloop.mpr hwhole
        rw [hd] at h
        cases h
    | ok d =>
      have hwhole := hloop.mp ⟨d, hd⟩
      have hsome := isSome_readLoop hd
      cases d with
      | none =>
        refine ⟨fun ⟨m, hm⟩ => ?_, ?_⟩
        · rw [sdCardRead, hd] at hm
          cases hm
        · rintro ⟨_, ⟨⟩, hline, -⟩
          exact absurd (hsome.mpr (.inr hline)) (by simp)
      | some m =>
        refine ⟨fun _ => ⟨contents, rfl, ?_, hwhole⟩, fun _ => ⟨m, ?_⟩⟩
        · exact (hsome.mp rfl).resolve_left (by simp)
        · rw [sdCardRead, hd]

/-- What is returned was made of a line of the number. -/
theorem numbered_of_readLoop {n i : BitVec 32} {data : Option ModuleData} {m : ModuleData}
    {ls : List Text} (h : readLoop float n i data ls = .ok (some m)) :
    data = some m ∨
      ∃ l, Numbered n i ls l ∧ Whole l ∧ m = decode float (fields ',' (cString l)) := by
  induction ls generalizing i data with
  | nil => exact .inl (Except.ok.inj h)
  | cons l ls ih =>
    have hlater : (∃ l', Numbered n (i + 1) ls l' ∧ Whole l' ∧
        m = decode float (fields ',' (cString l'))) →
        ∃ l', Numbered n i (l :: ls) l' ∧ Whole l' ∧
          m = decode float (fields ',' (cString l')) := by
      rintro ⟨l', hl', hwhole⟩
      exact ⟨l', numbered_cons.mpr (.inr hl'), hwhole⟩
    rw [readLoop_cons] at h
    by_cases hi : i + 1 = n
    · rw [if_pos hi] at h
      by_cases hl : Whole l
      · rw [if_pos hl] at h
        rcases ih h with hm | hm
        · exact .inr ⟨l, numbered_cons.mpr (.inl ⟨hi, rfl⟩), hl, (Option.some.inj hm).symm⟩
        · exact .inr (hlater hm)
      · rw [if_neg hl] at h
        cases h
    · rw [if_neg hi] at h
      exact (ih h).imp_right hlater

theorem numbered_of_sdCardRead {contents : Text} {n : BitVec 32} {m : ModuleData}
    (h : sdCardRead float (some contents) n = .ok m) :
    ∃ l, Numbered n 0 (fgets contents) l ∧ Whole l ∧ m = decode float (fields ',' (cString l)) := by
  rw [sdCardRead] at h
  cases hloop : readLoop float n 0 none (fgets contents) with
  | error e =>
    rw [hloop] at h
    cases h
  | ok d =>
    rw [hloop] at h
    cases d with
    | none => cases h
    | some d =>
      cases h
      exact (numbered_of_readLoop hloop).resolve_left (by simp)

/-- A data line starts with a character that the header does not have. -/
theorem dataLine_head (m : ModuleData) : ∃ ch l, dataLine m = ch :: l ∧ ch ∉ header := by
  have hhead : ∀ ch, ch.isDigit = true ∨ ch = '-' → ch ∉ header := by
    rintro ch (hdigit | rfl) hmem
    · have hall : header.all (fun x => !x.isDigit) = true := by decide
      have hnot := List.all_eq_true.mp hall ch hmem
      rw [hdigit] at hnot
      cases hnot
    · exact absurd hmem (by decide)
  have hline : dataLine m = decimalInt m.id ++ (dataLine m).drop (decimalInt m.id).length := by
    simp [dataLine, sdCardLine, decimalInt, sign]
  cases hid : decimalInt m.id with
  | nil => exact absurd hid (decimalInt_ne_nil m.id)
  | cons ch l =>
    rw [hid] at hline
    have hmem : ch ∈ decimalInt m.id := by
      rw [hid]
      exact List.mem_cons_self
    exact ⟨ch, _, hline, hhead ch (mem_decimalInt hmem)⟩

/-- A data line is not found in what was cut off before its end. -/
theorem length_le_of_take_printed {c : State} {m : ModuleData} {n : Nat} {before : Text}
    (h : (printed c m).take n = before ++ dataLine m) : (printed c m).length ≤ n := by
  by_contra hlt
  have hlength := congrArg List.length h
  rw [List.length_take, List.length_append, Nat.min_eq_left (by omega)] at hlength
  have hprefix : before ++ dataLine m <+: printed c m := by
    rw [← h]
    exact List.take_prefix _ _
  rw [printed, List.length_append] at hlt
  by_cases hid : c.id = 0
  · rw [if_pos hid] at hlt
    rw [printed, if_pos hid] at hprefix
    obtain ⟨ch, l, hline, hch⟩ := dataLine_head m
    -- The data line would start within the header.
    have hget : header[before.length]? = some ch := by
      have hlt' : before.length < header.length := by omega
      have hleft : (header ++ dataLine m)[before.length]? = header[before.length]? :=
        List.getElem?_append_left hlt'
      obtain ⟨rest, hrest⟩ := hprefix
      rw [← hleft, ← hrest, hline, List.append_assoc, List.getElem?_append_right (Nat.le_refl _),
        Nat.sub_self]
      rfl
    exact hch (List.mem_of_getElem? hget)
  · rw [if_neg hid] at hlt
    simp only [List.length_nil] at hlt
    omega

/-! ### What goes wrong -/

/-- **Neither function does what it must not**, and `id` counts lines that were appended. -/
structure Survivable (float : Number → Number) (outcome : Outcome) (c : State) (m : ModuleData)
    (f : Option Text) (lineNumber : BitVec 32) : Prop where
  write : ∃ c', sdCardWrite outcome c m = .ok c' ∧
    (c'.id ≠ c.id → ∃ before, c'.file = some (c.file.getD [] ++ (before ++ dataLine m)))
  read : ∃ data, sdCardRead float f lineNumber = .ok data

/-- Both files are opened, all that is printed gets to the card, and the line that is read is
there, in one piece, with its seven tokens. -/
structure Intact (outcome : Outcome) (c : State) (m : ModuleData) (f : Option Text)
    (lineNumber : BitVec 32) : Prop where
  opened : outcome ≠ .notOpened
  room : ∀ n, outcome = .cut n → (printed c m).length ≤ n
  line : ∃ contents, f = some contents ∧ (∃ l, Numbered lineNumber 0 (fgets contents) l) ∧
    ∀ l, Numbered lineNumber 0 (fgets contents) l → Whole l

/-- **When the card is survived**: never but when nothing is the matter with it. -/
theorem survivable_iff (float : Number → Number) (outcome : Outcome) (c : State) (m : ModuleData)
    (f : Option Text) (lineNumber : BitVec 32) :
    Survivable float outcome c m f lineNumber ↔ Intact outcome c m f lineNumber := by
  have hcount : c.id + 1 ≠ c.id := add_ofNat_ne c.id (k := 0) (by decide)
  constructor
  · rintro ⟨⟨c', hc', hid⟩, hread⟩
    refine ⟨?_, ?_, sdCardRead_ok_iff.mp hread⟩
    · rintro rfl
      cases hc'
    · rintro n rfl
      cases hc'
      obtain ⟨before, hfile⟩ := hid hcount
      exact length_le_of_take_printed (List.append_cancel_left (Option.some.inj hfile))
  · rintro ⟨hopened, hroom, hline⟩
    refine ⟨?_, sdCardRead_ok_iff.mpr hline⟩
    cases outcome with
    | notOpened => exact absurd rfl hopened
    | stored => exact ⟨_, rfl, fun _ => ⟨_, rfl⟩⟩
    | cut n =>
      refine ⟨_, rfl, fun _ => ⟨if c.id = 0 then header else [], ?_⟩⟩
      show some (c.file.getD [] ++ (printed c m).take n) = _
      rw [List.take_of_length_le (hroom n rfl), printed]

/-- A line that was cut short by a power loss. -/
theorem not_survivable : ¬ ∀ (outcome : Outcome) (c : State) (m : ModuleData) (f : Option Text)
    (lineNumber : BitVec 32), Survivable id outcome c m f lineNumber := by
  intro h
  have hread := (h .stored ⟨none, 0, 2⟩ indoor
    (some (header ++ "0, 2024/1/1 0:0:0, 25".toList)) 2).read
  obtain ⟨_, ⟨⟩, -, hwhole⟩ := sdCardRead_ok_iff.mp hread
  have hlines : fgets (header ++ "0, 2024/1/1 0:0:0, 25".toList) =
      [header, "0, 2024/1/1 0:0:0, 25".toList] := by
    have hheader : header = header.dropLast ++ ['\n'] := by decide
    rw [fgets, hheader, List.append_assoc, List.singleton_append,
      lines_append (by decide) (by decide), lines_last (by decide) (by decide) (by decide)]
  have hline : Numbered 2 0 (fgets (header ++ "0, 2024/1/1 0:0:0, 25".toList))
      "0, 2024/1/1 0:0:0, 25".toList := by
    rw [hlines]
    exact ⟨1, rfl, rfl⟩
  exact absurd (hwhole _ hline) (by decide)

end

end Datk.Card
