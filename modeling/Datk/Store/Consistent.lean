import Datk.Store.Tasks

/-!
# When the counter, the cursor and the file agree

`id` counts the data lines of the file, `line` follows the reader's loop through
them, and the two tasks change all three in pieces.  `Consistent` is what holds
between any two statements as long as the tasks stay `Separate`: the writer does
not close the file while the reader is past its loop, the reader does not unlink
it while the writer has it open, and it does not ask for the line that the writer
has counted and the file does not have yet.  `Consistent.step` says that every
such step keeps it, whoever is suspended.
-/

namespace Datk.Store

/-! ### Where the tasks are -/

/-- The writer is about to close the file, which then has its data line. -/
def WriterPc.closing : WriterPc → Bool
  | .sdCardWrite _ .fclose => true
  | _ => false

def WriterPc.counting : WriterPc → Bool
  | .sdCardWrite _ .count => true
  | _ => false

/-- The writer has counted its data line, and the file does not have it yet. -/
def WriterPc.appending : WriterPc → Bool
  | .sdCardWrite _ .append => true
  | .sdCardWrite _ .fclose => true
  | _ => false

/-- The reader is past its loop and has not yet unlinked the file. -/
def ReaderPc.leaving : ReaderPc → Bool
  | .resetLine => true
  | .resetId => true
  | .unlink => true
  | _ => false

/-- The reader is about to read the line of the last record counted. -/
def ReaderPc.readsLast (id : Nat) : ReaderPc → Bool
  | .read j => j + 1 = id
  | _ => false

/-- How many of the `n` data lines of the file the reader has published. -/
def ReaderPc.cursor (n : Nat) : ReaderPc → Nat
  | .test j => j
  | .read j => j
  | .publish j _ => j
  | .next j => j + 1
  | .resetLine => n
  | .resetId => n
  | .unlink => n
  | _ => 0

/-- **The tasks stay apart** in this step.  The last clause keeps `id` in the
range of the reader's `int j`. -/
def Separate (s : State) (a : Act) : Prop :=
  (a = .writer → s.writer.closing = true → s.reader.leaving = false) ∧
  (a = .reader → s.reader = .unlink → s.writer.opened = false) ∧
  (a = .reader → s.reader.readsLast s.id = true → s.writer.appending = false) ∧
  (a = .writer → s.writer.counting = true → s.id + 1 < 2 ^ 31)

instance (s : State) (a : Act) : Decidable (Separate s a) :=
  inferInstanceAs (Decidable (_ ∧ _ ∧ _ ∧ _))

/-! ### The shape of the file -/

/-- The lines of a file with the data lines `ds`, once its header is printed. -/
def lines (ds : List DataLine) : List Line := .header :: ds.map .data

def freshLines : List DataLine → List Line
  | [] => []
  | d :: ds => lines (d :: ds)

/-- What the file, the writer's stream and `id` are, by how far the writer is. -/
def Shape (id : Nat) (file : Option (List Line)) (stream : List Line) : WriterPc → Prop
  | .sdCardWrite _ .header => ∃ ds, file = some (freshLines ds) ∧ stream = [] ∧ id = ds.length
  | .sdCardWrite _ .count =>
    ∃ ds, file = some (freshLines ds) ∧ freshLines ds ++ stream = lines ds ∧ id = ds.length
  | .sdCardWrite _ .append =>
    ∃ ds, file = some (freshLines ds) ∧ freshLines ds ++ stream = lines ds ∧ id = ds.length + 1
  | .sdCardWrite m .fclose =>
    ∃ ds d, file = some (freshLines ds) ∧ freshLines ds ++ stream = lines (ds ++ [d]) ∧
      d.seq = m.seq ∧ id = ds.length + 1
  | _ =>
    (file.getD [] = [] ∧ id = 0) ∨ ∃ d ds, file = some (lines (d :: ds)) ∧ id = ds.length + 1

@[simp] theorem records_none : records none = [] := rfl

theorem records_of_empty {file : Option (List Line)} (h : file.getD [] = []) :
    records file = [] := by
  rw [records, h]
  rfl

@[simp] theorem records_lines (ds : List DataLine) : records (some (lines ds)) = ds := by
  induction ds with
  | nil => rfl
  | cons d ds ih => exact congrArg (d :: ·) ih

@[simp] theorem records_freshLines (ds : List DataLine) :
    records (some (freshLines ds)) = ds := by
  cases ds with
  | nil => rfl
  | cons d ds => exact records_lines (d :: ds)

theorem lines_append (ds : List DataLine) (d : DataLine) :
    lines ds ++ [.data d] = lines (ds ++ [d]) := by simp [lines]

/-- Line `j + 2` of the file is its data line number `j`. -/
theorem sdCardRead_lines (ds : List DataLine) {j : Nat} {d : DataLine} (h : ds[j]? = some d) :
    sdCardRead (some (lines ds)) (j + 2) = .data d := by
  simp [sdCardRead, lines, h]

theorem mem_records_flushed {s : State} {d : DataLine} (h : d ∈ records s.flushed) :
    d ∈ records s.file ∨ .data d ∈ s.stream := by
  unfold State.flushed at h
  split at h
  · exact Or.inl h
  · cases hf : s.file with
    | none =>
      rw [hf] at h
      exact absurd h (by simp [records])
    | some ls =>
      rw [hf, Option.map_some, records, Option.getD_some, List.filterMap_append,
        List.mem_append] at h
      refine h.imp_right fun hd => ?_
      obtain ⟨l, hl, hsome⟩ := List.mem_filterMap.mp hd
      cases l with
      | header => cases hsome
      | data e =>
        cases hsome
        exact hl

theorem mem_records_of_sdCardRead {file : Option (List Line)} {n : Nat} {d : DataLine}
    (h : sdCardRead file n = .data d) : d ∈ records file := by
  cases n with
  | zero => exact absurd h (by simp [sdCardRead])
  | succ i =>
    simp only [sdCardRead] at h
    cases hl : (file.getD [])[i]? with
    | none => simp [hl] at h
    | some l =>
      have hmem := List.mem_of_getElem? hl
      cases l with
      | header => simp [hl] at h
      | data e =>
        simp only [hl, Fetched.data.injEq] at h
        subst h
        exact List.mem_filterMap.mpr ⟨_, hmem, rfl⟩

theorem Shape.length_le {id : Nat} {file : Option (List Line)} {stream : List Line} {w : WriterPc}
    (h : Shape id file stream w) : (records file).length ≤ id := by
  unfold Shape at h
  split at h
  · obtain ⟨ds, rfl, -, rfl⟩ := h; simp
  · obtain ⟨ds, rfl, -, rfl⟩ := h; simp
  · obtain ⟨ds, rfl, -, rfl⟩ := h; simp
  · obtain ⟨ds, d, rfl, -, -, rfl⟩ := h; simp
  · rcases h with ⟨hf, rfl⟩ | ⟨d, ds, rfl, rfl⟩
    · simp [records_of_empty hf]
    · simp

/-- A counted line is there to be read, unless it is the one that the file does not have yet. -/
theorem Shape.fetch {id : Nat} {file : Option (List Line)} {stream : List Line} {w : WriterPc}
    (h : Shape id file stream w) {j : Nat} (hj : j < id)
    (hlast : j + 1 = id → w.appending = false) :
    ∃ d, (records file)[j]? = some d ∧ sdCardRead file (j + 2) = .data d := by
  have hread : ∀ ds : List DataLine, file = some (freshLines ds) → j < ds.length →
      ∃ d, (records file)[j]? = some d ∧ sdCardRead file (j + 2) = .data d := by
    rintro (_ | ⟨d, ds⟩) rfl hlt
    · exact absurd hlt (Nat.not_lt_zero _)
    · have hget := List.getElem?_eq_getElem hlt
      exact ⟨_, by rw [records_freshLines, hget], sdCardRead_lines (d :: ds) hget⟩
  unfold Shape at h
  split at h
  · obtain ⟨ds, hf, -, hid⟩ := h
    exact hread ds hf (by omega)
  · obtain ⟨ds, hf, -, hid⟩ := h
    exact hread ds hf (by omega)
  · obtain ⟨ds, hf, -, hid⟩ := h
    refine hread ds hf ?_
    by_contra hge
    exact absurd (hlast (by omega)) (by simp [WriterPc.appending])
  · obtain ⟨ds, d, hf, -, -, hid⟩ := h
    refine hread ds hf ?_
    by_contra hge
    exact absurd (hlast (by omega)) (by simp [WriterPc.appending])
  · rcases h with ⟨-, rfl⟩ | ⟨d, ds, hf, hid⟩
    · omega
    · exact hread (d :: ds) hf (by simp; omega)

/-! ### The invariant -/

/-- The reader's `line`, by its place: it runs two ahead of `j`. -/
def ReaderPc.LineAt (line : Nat) : ReaderPc → Prop
  | .test j => line = j + 2
  | .read j => line = j + 2
  | .publish j _ => line = j + 2
  | .next j => line = j + 2
  | .resetLine => True
  | _ => line = 2

/-- **Counter, cursor and file agree.** -/
structure Consistent (s : State) : Prop where
  stream : s.writer.opened = true → s.unlinked = false
  shape : s.reader.leaving = false → Shape s.id s.file s.stream s.writer
  /-- `id` is back to zero when the file goes. -/
  cleared : s.reader = .unlink → s.writer.opened = false → s.id = 0
  small : s.id < 2 ^ 31
  line : s.reader.LineAt s.line
  inside : s.reader.cursor (records s.file).length ≤ (records s.file).length
  counted : ∀ j, s.reader = .read j → j < s.id
  /-- What the reader holds is the data line it stands at. -/
  fetched : ∀ j f, s.reader = .publish j f →
    ∃ d, f = .data d ∧ (records s.file)[j]? = some d
  drained : ∀ d ∈ (records s.file).take (s.reader.cursor (records s.file).length),
    d.seq ∈ publishedSeqs s.published
  honest : ∀ p ∈ s.published, p.source.seq? ≠ none

theorem Consistent.boot : Consistent boot where
  stream h := nomatch h
  shape _ := Or.inl ⟨rfl, rfl⟩
  cleared h := nomatch h
  small := by decide
  line := rfl
  inside := Nat.le_refl _
  counted _ h := nomatch h
  fetched _ _ h := nomatch h
  drained d h := nomatch h
  honest p h := nomatch h

/-! ### The writer's statements -/

/-- The writer moves on without holding the file open before or after. -/
theorem Consistent.rest {s : State} (h : Consistent s) {w : WriterPc}
    (hold : s.writer.opened = false) (hnew : w.opened = false)
    (hshape : Shape s.id s.file s.stream s.writer → Shape s.id s.file s.stream w) :
    Consistent { s with writer := w } :=
  { h with
    stream := fun hw => absurd (hnew.symm.trans hw) (by decide)
    shape := fun hl => hshape (h.shape hl)
    cleared := fun hu _ => h.cleared hu hold }

theorem Consistent.fopen {s : State} (h : Consistent s) {m : ModuleData}
    (hw : s.writer = .sdCardWrite m .fopen) : Consistent (sdCardWrite s m .fopen) := by
  refine { h with stream := fun _ => rfl, shape := fun hl => ?_, cleared := nofun }
  have hs := h.shape hl
  rw [hw] at hs
  rcases hs with ⟨hf, hid⟩ | ⟨d, ds, hf, hid⟩
  · exact ⟨[], by simp [sdCardWrite, hf, freshLines], rfl, hid⟩
  · exact ⟨d :: ds, by simp [sdCardWrite, hf, freshLines], rfl, hid⟩

theorem Consistent.header {s : State} (h : Consistent s) {m : ModuleData}
    (hw : s.writer = .sdCardWrite m .header) : Consistent (sdCardWrite s m .header) := by
  refine { h with stream := fun _ => h.stream (by rw [hw]; rfl), shape := fun hl => ?_,
                  cleared := nofun }
  have hs := h.shape hl
  rw [hw] at hs
  obtain ⟨ds, hf, hst, hid⟩ := hs
  refine ⟨ds, hf, ?_, hid⟩
  cases ds with
  | nil => simp [sdCardWrite, hst, hid, freshLines, lines]
  | cons d ds => simp [sdCardWrite, hst, hid, freshLines]

theorem Consistent.count {s : State} (h : Consistent s) {m : ModuleData}
    (hw : s.writer = .sdCardWrite m .count) (hid : s.id + 1 < 2 ^ 31) :
    Consistent (sdCardWrite s m .count) := by
  have hmod : (s.id + 1) % 2 ^ 32 = s.id + 1 := Nat.mod_eq_of_lt (by omega)
  refine { h with stream := fun _ => h.stream (by rw [hw]; rfl), shape := fun hl => ?_,
                  cleared := nofun, small := ?_, counted := fun j hj => ?_ }
  · have hs := h.shape hl
    rw [hw] at hs
    obtain ⟨ds, hf, hst, hn⟩ := hs
    exact ⟨ds, hf, hst, hmod.trans (congrArg (· + 1) hn)⟩
  · simp only [sdCardWrite, hmod]
    exact hid
  · simp only [sdCardWrite, hmod]
    exact Nat.lt_succ_of_lt (h.counted j hj)

theorem Consistent.append {s : State} (h : Consistent s) {m : ModuleData}
    (hw : s.writer = .sdCardWrite m .append) : Consistent (sdCardWrite s m .append) := by
  refine { h with stream := fun _ => h.stream (by rw [hw]; rfl), shape := fun hl => ?_,
                  cleared := nofun }
  have hs := h.shape hl
  rw [hw] at hs
  obtain ⟨ds, hf, hst, hid⟩ := hs
  refine ⟨ds, ⟨m.seq, s.deref m.timeValues⟩, hf, ?_, rfl, hid⟩
  rw [sdCardWrite, ← List.append_assoc, hst, lines_append]

/-- A place of the loop does not depend on how many lines there are. -/
theorem ReaderPc.cursor_eq {r : ReaderPc} (h : r.leaving = false) (n n' : Nat) :
    r.cursor n = r.cursor n' := by
  cases r <;> first | rfl | exact absurd h (by simp [ReaderPc.leaving])

/-- The file gets the line that has been counted. -/
theorem Consistent.flushed {s : State} (h : Consistent s) {m : ModuleData}
    (hw : s.writer = .sdCardWrite m .fclose) (hl : s.reader.leaving = false) :
    ∃ d, d.seq = m.seq ∧ s.flushed = some (lines (records s.file ++ [d])) ∧
      s.id = (records s.file).length + 1 := by
  have hs := h.shape hl
  rw [hw] at hs
  obtain ⟨ds, d, hf, hst, hd, hid⟩ := hs
  refine ⟨d, hd, ?_, ?_⟩
  · rw [State.flushed, h.stream (by rw [hw]; rfl), if_neg (by decide), hf, Option.map_some, hst,
      records_freshLines]
  · rw [hf, records_freshLines]
    exact hid

theorem Consistent.records_fclose {s : State} (h : Consistent s) {m : ModuleData}
    (hw : s.writer = .sdCardWrite m .fclose) (hl : s.reader.leaving = false) :
    ∃ d, d.seq = m.seq ∧ records (sdCardWrite s m .fclose).file = records s.file ++ [d] := by
  obtain ⟨d, hd, hfile, -⟩ := h.flushed hw hl
  exact ⟨d, hd, by rw [sdCardWrite, hfile, records_lines]⟩

theorem Consistent.fclose {s : State} (h : Consistent s) {m : ModuleData}
    (hw : s.writer = .sdCardWrite m .fclose) (hl : s.reader.leaving = false) :
    Consistent (sdCardWrite s m .fclose) := by
  obtain ⟨d, -, hfile, hid⟩ := h.flushed hw hl
  have hrec : records (sdCardWrite s m .fclose).file = records s.file ++ [d] := by
    rw [sdCardWrite, hfile, records_lines]
  have hin := h.inside
  have hcur := ReaderPc.cursor_eq hl (records (sdCardWrite s m .fclose).file).length
    (records s.file).length
  refine { stream := nofun, shape := fun _ => Or.inr ?_, cleared := fun hu => ?_,
           small := h.small, line := h.line, inside := ?_, counted := h.counted,
           fetched := fun j f hj => ?_, drained := ?_, honest := h.honest }
  · cases hds : records s.file with
    | nil =>
      rw [hds] at hfile hid
      exact ⟨_, [], hfile, hid⟩
    | cons e ds =>
      rw [hds, List.cons_append] at hfile
      rw [hds] at hid
      exact ⟨e, _, hfile, by simpa [sdCardWrite] using hid⟩
  · exact absurd hl (by rw [show s.reader = .unlink from hu]; simp [ReaderPc.leaving])
  · rw [show (sdCardWrite s m .fclose).reader = s.reader from rfl, hcur, hrec, List.length_append]
    omega
  · obtain ⟨e, he, hget⟩ := h.fetched j f hj
    refine ⟨e, he, ?_⟩
    rw [hrec, List.getElem?_append_left (List.getElem?_eq_some_iff.mp hget).1, hget]
  · rw [show (sdCardWrite s m .fclose).reader = s.reader from rfl, hcur, hrec,
      List.take_append_of_le_length hin]
    exact h.drained

theorem Consistent.writer {s s' : State} (h : Consistent s) (hok : Separate s .writer)
    (hs : wifiDisconectWriteSdCardTask s = some s') : Consistent s' := by
  obtain ⟨hclose, -, -, hcount⟩ := hok
  cases writer_cases hs with
  | suspendSelf hw =>
    have h' := h.rest (w := .receive) (by rw [hw]; rfl) rfl (by rw [hw]; exact id)
    exact { h' with }
  | receive m rest hw hq =>
    have h' := h.rest (w := .sdCardWrite m .fopen) (by rw [hw]; rfl) rfl (by rw [hw]; exact id)
    exact { h' with }
  | sdCardWrite m pc hw =>
    cases pc with
    | fopen => exact h.fopen hw
    | header => exact h.header hw
    | count => exact h.count hw (hcount rfl (by rw [hw]; rfl))
    | append => exact h.append hw
    | fclose => exact h.fclose hw (hclose rfl (by rw [hw]; rfl))
  | delay hw =>
    exact h.rest (by rw [hw]; rfl) rfl (by rw [hw]; exact id)

/-! ### The reader's statements -/

/-- The reader moves on in its loop or outside it, with nothing read or published. -/
theorem Consistent.move {s : State} (h : Consistent s) {r : ReaderPc} {l : Nat}
    (hold : s.reader.leaving = false) (hnew : r.leaving = false)
    (hcur : r.cursor 0 = s.reader.cursor 0) (hline : r.LineAt l)
    (hcount : ∀ j, r = .read j → j < s.id)
    (hfetch : ∀ j f, r = .publish j f → ∃ d, f = .data d ∧ (records s.file)[j]? = some d) :
    Consistent { s with reader := r, line := l } := by
  have hat : r.cursor (records s.file).length = s.reader.cursor (records s.file).length := by
    rw [ReaderPc.cursor_eq hnew _ 0, hcur, ReaderPc.cursor_eq hold]
  refine { h with
    shape := fun _ => h.shape hold
    cleared := fun hu => ?_
    line := hline
    inside := ?_
    counted := hcount
    fetched := hfetch
    drained := ?_ }
  · exact absurd hnew (by rw [show r = .unlink from hu]; simp [ReaderPc.leaving])
  · exact hat ▸ h.inside
  · exact hat ▸ h.drained

@[simp] theorem publishedSeqs_append (ps : List Publication) (p : Publication) :
    publishedSeqs (ps ++ [p]) = publishedSeqs ps ++ p.source.seq?.toList := by
  unfold publishedSeqs
  rw [List.filterMap_append]
  cases h : p.source.seq? <;> simp [h]

theorem Consistent.passed {s : State} (h : Consistent s) {j : Nat} (hr : s.reader = .test j)
    (hj : ¬ j < s.id) : (records s.file).length ≤ j :=
  Nat.le_trans (h.shape (by rw [hr]; rfl)).length_le (Nat.le_of_not_lt hj)

theorem Consistent.leave {s : State} (h : Consistent s) {j : Nat} (hr : s.reader = .test j)
    (hj : ¬ j < s.id) : Consistent { s with reader := .resetLine } := by
  have hlen := h.passed hr hj
  have hdr := h.drained
  rw [hr] at hdr
  refine { h with
    shape := nofun
    cleared := nofun
    line := trivial
    inside := Nat.le_refl _
    counted := nofun
    fetched := nofun
    drained := fun d hd => ?_ }
  rw [ReaderPc.cursor, List.take_length] at hd
  exact hdr d (by rw [ReaderPc.cursor, List.take_of_length_le hlen]; exact hd)

theorem Consistent.publish {s : State} (h : Consistent s) {j : Nat} {f : Fetched} {t : Text}
    (hr : s.reader = .publish j f) :
    Consistent { s with reader := .next j, published := s.published ++ [⟨.file f, t⟩] } := by
  obtain ⟨d, rfl, hget⟩ := h.fetched j f hr
  have hlt := (List.getElem?_eq_some_iff.mp hget).1
  have hl := h.line
  have hdr := h.drained
  rw [hr] at hl hdr
  refine { h with
    shape := fun _ => h.shape (by rw [hr]; rfl)
    cleared := nofun
    line := hl
    inside := hlt
    counted := nofun
    fetched := nofun
    drained := fun e he => ?_
    honest := Lib.forall_mem_concat h.honest (by simp [Source.seq?]) }
  rw [publishedSeqs_append, List.mem_append]
  rw [ReaderPc.cursor, List.take_add_one, hget, List.mem_append] at he
  rcases he with he | he
  · exact Or.inl (hdr e he)
  · right
    rw [Option.toList_some, List.mem_singleton] at he
    simp [he, Source.seq?]

theorem Consistent.publishDirect {s : State} (h : Consistent s) {m : ModuleData} {t : Text}
    (hr : s.reader = .publishDirect m) :
    Consistent
      { s with reader := .delay, published := s.published ++ [⟨.queue m.seq, t⟩] } := by
  have hl := h.line
  rw [hr] at hl
  exact { h with
    shape := fun _ => h.shape (by rw [hr]; rfl)
    cleared := nofun
    line := hl
    inside := Nat.zero_le _
    counted := nofun
    fetched := nofun
    drained := nofun
    honest := Lib.forall_mem_concat h.honest (by simp [Source.seq?]) }

theorem Consistent.resetLine {s : State} (h : Consistent s) (hr : s.reader = .resetLine) :
    Consistent { s with reader := .resetId, line := 2 } := by
  have hdr := h.drained
  rw [hr] at hdr
  exact { h with
    shape := nofun
    cleared := nofun
    line := rfl
    inside := Nat.le_refl _
    counted := nofun
    fetched := nofun
    drained := hdr }

theorem Consistent.resetId {s : State} (h : Consistent s) (hr : s.reader = .resetId) :
    Consistent { s with reader := .unlink, id := 0 } := by
  have hdr := h.drained
  have hl := h.line
  rw [hr] at hdr hl
  exact { h with
    shape := nofun
    cleared := fun _ _ => rfl
    small := by simp
    line := hl
    inside := Nat.le_refl _
    counted := nofun
    fetched := nofun
    drained := hdr }

theorem Consistent.unlink {s : State} (h : Consistent s) (hr : s.reader = .unlink)
    (hw : s.writer.opened = false) :
    Consistent { s with reader := .delay, file := none, unlinked := true } := by
  have hl := h.line
  rw [hr] at hl
  have hshape : Shape s.id none s.stream s.writer := by
    have hid := h.cleared hr hw
    cases hpc : s.writer with
    | sdCardWrite m pc =>
      rw [hpc] at hw
      cases pc <;> first | exact Or.inl ⟨rfl, hid⟩ | exact absurd hw (by simp [WriterPc.opened])
    | _ => exact Or.inl ⟨rfl, hid⟩
  exact { h with
    stream := fun hx => absurd (hw.symm.trans hx) (by decide)
    shape := fun _ => hshape
    cleared := nofun
    line := hl
    inside := Nat.zero_le _
    counted := nofun
    fetched := nofun
    drained := nofun }

theorem Consistent.reader {s s' : State} (h : Consistent s) (hok : Separate s .reader)
    (hs : wifiConnectReadSdCardTask s = some s') : Consistent s' := by
  obtain ⟨-, hunlink, hlast, -⟩ := hok
  have hline := h.line
  cases reader_cases hs with
  | found hr hf | missing hr hf | delay hr =>
    rw [hr] at hline
    exact h.move (by rw [hr]; rfl) rfl (by rw [hr]; rfl) hline nofun nofun
  | enter j hr hj =>
    rw [hr] at hline
    refine h.move (by rw [hr]; rfl) rfl (by rw [hr]; rfl) hline (fun i hi => ?_) nofun
    cases hi
    exact hj
  | leave j hr hj => exact h.leave hr hj
  | read j t hr =>
    rw [hr] at hline
    obtain ⟨d, hget, hf⟩ := (h.shape (by rw [hr]; rfl)).fetch (h.counted j hr)
      (fun hj => hlast rfl (by rw [hr]; simpa [ReaderPc.readsLast] using hj))
    rw [show sdCardRead s.file s.line = .data d from (congrArg _ hline).trans hf]
    have h' := h.move (r := .publish j (.data d)) (by rw [hr]; rfl) rfl (by rw [hr]; rfl) hline
      nofun (fun i f hi => by cases hi; exact ⟨d, rfl, hget⟩)
    exact { h' with }
  | publish j f hr =>
    exact h.publish hr
  | next j hr =>
    rw [hr] at hline
    have hin := h.inside
    rw [hr] at hin
    have hid := (h.shape (by rw [hr]; rfl)).length_le
    have hsmall := h.small
    have hmod : (s.line + 1) % 2 ^ 32 = j + 1 + 2 := by
      rw [show s.line = j + 2 from hline]
      exact Nat.mod_eq_of_lt (by simp only [ReaderPc.cursor] at hin; omega)
    exact h.move (by rw [hr]; rfl) rfl (by rw [hr]; rfl) hmod nofun nofun
  | resetLine hr =>
    exact h.resetLine hr
  | resetId hr =>
    exact h.resetId hr
  | unlink hr =>
    exact h.unlink hr (hunlink rfl hr)
  | receive m rest hr hq =>
    rw [hr] at hline
    have h' := h.move (r := .publishDirect m) (by rw [hr]; rfl) rfl (by rw [hr]; rfl) hline
      nofun nofun
    exact { h' with }
  | publishDirect m hr =>
    exact h.publishDirect hr

/-! ### Every step -/

theorem Consistent.restart {s : State} (h : Consistent s) (hf : s.file.getD [] = []) :
    Consistent (restart s) :=
  { Consistent.boot with
    shape := fun _ => Or.inl ⟨hf, rfl⟩
    inside := Nat.zero_le _
    fetched := nofun
    drained := nofun
    honest := h.honest }

/-- **Separate steps keep counter, cursor and file in agreement**, a restart
included when it finds no line in the file. -/
theorem Consistent.step {s s' : State} {a : Act} (h : Consistent s) (hok : Separate s a)
    (hfile : a = .restart → s.file.getD [] = []) (hs : step s a = some s') : Consistent s' := by
  obtain ⟨e, pc, rfl, -, -, rfl⟩ | ⟨rfl, hs⟩ | ⟨rfl, -, hs⟩ | ⟨rfl, -, hs⟩ | ⟨t, rfl, -, rfl⟩ |
    ⟨rfl, -, -, rfl⟩ | ⟨t, rfl, rfl⟩ | ⟨rfl, rfl⟩ := step_cases hs
  · exact { h with }
  · obtain ⟨pc, sw, wf, ws, rs, e, rfl⟩ := wifiEventHandler_frame hs
    exact { h with }
  · exact h.writer hok hs
  · exact h.reader hok hs
  · exact { h with }
  · exact { h with }
  · exact { h with }
  · exact h.restart (hfile rfl)

end Datk.Store
