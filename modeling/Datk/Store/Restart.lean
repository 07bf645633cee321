import Datk.Store.Consistent

/-!
# Buffered records across a restart

The file on the SD card outlives a restart and the counter of its lines does
not: `id` is zero again.  A reader that finds the file then leaves its loop at
once and unlinks it, and a writer prints a second header into it.

`survives_iff` says for every history of calls of `sd_card_write` and drains
that do not overlap, and a restart at any point of it, that the buffered records
survive in every continuation exactly if there was no line in the file.
-/

namespace Datk.Store

def ReaderPc.draining : ReaderPc → Bool
  | .test _ => true
  | .read _ => true
  | .publish _ _ => true
  | .next _ => true
  | .resetLine => true
  | .resetId => true
  | .unlink => true
  | _ => false

def WriterPc.inCall : WriterPc → Bool
  | .sdCardWrite _ _ => true
  | _ => false

/-- Calls of `sd_card_write` and drains do not overlap; `id` stays in the range of
the reader's `int j`. -/
def Sequential (s : State) (a : Act) : Prop :=
  (a = .writer → s.writer.inCall = true → s.reader.draining = false) ∧
  (a = .reader → s.reader.draining = true ∨ s.reader = .stat → s.writer.opened = false) ∧
  (a = .writer → s.writer.counting = true → s.id + 1 < 2 ^ 31)

/-- A history: it may restart where there is no line in the file. -/
def History (s : State) (a : Act) : Prop :=
  (a = .restart → s.file.getD [] = []) ∧ Sequential s a

/-- A continuation has no further restart. -/
def Continuing (s : State) (a : Act) : Prop := a ≠ .restart ∧ Sequential s a

instance (s : State) (a : Act) : Decidable (Sequential s a) :=
  inferInstanceAs (Decidable (_ ∧ _ ∧ _))

instance (s : State) (a : Act) : Decidable (History s a) := inferInstanceAs (Decidable (_ ∧ _))

instance (s : State) (a : Act) : Decidable (Continuing s a) := inferInstanceAs (Decidable (_ ∧ _))

/-- **Buffered records survive**: each data line that was unpublished at the
restart is in the file or published once, `unlink` removes published lines only,
and no header line is published. -/
structure Survives (s : State) : Prop where
  kept : ∀ k ∈ s.kept,
    k ∈ (records s.file).map DataLine.seq ∨ (publishedSeqs s.published).count k = 1
  unlink : s.reader = .unlink → ∀ d ∈ records s.file, d.seq ∈ publishedSeqs s.published
  header : ∀ p ∈ s.published, p.source ≠ .file .header

/-! ### What does not overlap is separate -/

theorem ReaderPc.draining_of_leaving {r : ReaderPc} (h : r.leaving = true) :
    r.draining = true := by
  cases r <;> first | rfl | exact absurd h (by simp [ReaderPc.leaving])

theorem ReaderPc.draining_of_readsLast {r : ReaderPc} {n : Nat} (h : r.readsLast n = true) :
    r.draining = true := by
  cases r <;> first | rfl | exact absurd h (by simp [ReaderPc.readsLast])

theorem WriterPc.opened_of_closing {w : WriterPc} (h : w.closing = true) : w.opened = true := by
  unfold WriterPc.closing at h
  split at h
  · rfl
  · exact absurd h (by simp)

theorem WriterPc.opened_of_appending {w : WriterPc} (h : w.appending = true) :
    w.opened = true := by
  unfold WriterPc.appending at h
  split at h <;> first | rfl | exact absurd h (by simp)

theorem WriterPc.inCall_of_opened {w : WriterPc} (h : w.opened = true) : w.inCall = true := by
  unfold WriterPc.opened at h
  split at h
  · exact absurd h (by simp)
  · rfl
  · exact absurd h (by simp)

theorem Sequential.separate {s : State} {a : Act} (h : Sequential s a) : Separate s a := by
  obtain ⟨hw, hr, hid⟩ := h
  refine ⟨fun ha hclose => ?_, fun ha hu => ?_, fun ha hlast => ?_, hid⟩
  · have hcall := WriterPc.inCall_of_opened (WriterPc.opened_of_closing hclose)
    by_contra hl
    have := ReaderPc.draining_of_leaving (by simpa using hl)
    exact absurd ((hw ha hcall).symm.trans this) (by decide)
  · by_contra hx
    have : s.writer.opened = true := by simpa using hx
    exact absurd ((hr ha (Or.inl (by rw [hu]; rfl))).symm.trans this) (by decide)
  · by_contra hx
    have := WriterPc.opened_of_appending (w := s.writer) (by simpa using hx)
    exact absurd ((hr ha (Or.inl (ReaderPc.draining_of_readsLast hlast))).symm.trans this)
      (by decide)

theorem consistent_of_history {s : State} (h : system.Reaches History s) : Consistent s :=
  h.invariant (fun _ h0 => h0 ▸ Consistent.boot)
    fun _ _ _ hc hok hs => hc.step hok.2.separate hok.1 hs

theorem kept_step {s s' : State} {a : Act} (hs : step s a = some s') (ha : a ≠ .restart) :
    s'.kept = s.kept := by
  obtain ⟨e, pc, rfl, -, -, rfl⟩ | ⟨rfl, hs⟩ | ⟨rfl, -, hs⟩ | ⟨rfl, -, hs⟩ | ⟨t, rfl, -, rfl⟩ |
    ⟨rfl, -, -, rfl⟩ | ⟨t, rfl, rfl⟩ | ⟨rfl, -⟩ := step_cases hs
  · rfl
  · obtain ⟨pc, sw, wf, ws, rs, e, rfl⟩ := wifiEventHandler_frame hs
    rfl
  · obtain ⟨w, ws, i, f, st, u, q, tk, wr, rfl⟩ := wifiDisconectWriteSdCardTask_frame hs
    rfl
  · obtain ⟨r, i, l, f, u, b, q, tk, p, rfl⟩ := wifiConnectReadSdCardTask_frame hs
    rfl
  · rfl
  · rfl
  · rfl
  · exact absurd rfl ha

/-- No history leaves a line behind at a restart. -/
theorem kept_of_history {s : State} (h : system.Reaches History s) : s.kept = [] := by
  refine h.invariant (P := fun s => s.kept = []) (fun _ h0 => h0 ▸ rfl) ?_
  intro s a s' hk hok hs
  by_cases ha : a = .restart
  · subst ha
    cases hs
    show s.kept ++ s.waiting = []
    rw [hk, State.waiting, records_of_empty (hok.1 rfl)]
    rfl
  · exact (kept_step hs ha).trans hk

/-! ### The file at the restart -/

/-- There is no line, or a header followed by data lines. -/
def WellFormed (file : Option (List Line)) : Prop :=
  file.getD [] = [] ∨ ∃ ds, file = some (lines ds)

theorem wellFormed_freshLines (ds : List DataLine) : WellFormed (some (freshLines ds)) := by
  cases ds with
  | nil => exact Or.inl rfl
  | cons d ds => exact Or.inr ⟨d :: ds, rfl⟩

theorem Shape.wellFormed {id : Nat} {file : Option (List Line)} {stream : List Line}
    {w : WriterPc} (h : Shape id file stream w) : WellFormed file := by
  unfold Shape at h
  split at h
  · obtain ⟨ds, hf, -⟩ := h
    exact hf ▸ wellFormed_freshLines ds
  · obtain ⟨ds, hf, -⟩ := h
    exact hf ▸ wellFormed_freshLines ds
  · obtain ⟨ds, hf, -⟩ := h
    exact hf ▸ wellFormed_freshLines ds
  · obtain ⟨ds, d, hf, -⟩ := h
    exact hf ▸ wellFormed_freshLines ds
  · rcases h with ⟨hf, -⟩ | ⟨d, ds, hf, -⟩
    · exact Or.inl hf
    · exact Or.inr ⟨d :: ds, hf⟩

theorem wifiDisconectWriteSdCardTask_file {s s' : State}
    (hs : wifiDisconectWriteSdCardTask s = some s') (hcall : s.writer.inCall = false) :
    s'.file = s.file := by
  cases writer_cases hs with
  | sdCardWrite m pc hw =>
    rw [hw] at hcall
    exact nomatch hcall
  | _ => rfl

/-- The reader enters its drain by `stat` only, and keeps the file in it. -/
theorem wifiConnectReadSdCardTask_draining {s s' : State}
    (hs : wifiConnectReadSdCardTask s = some s') (hd : s'.reader.draining = true) :
    s'.file = s.file ∧ (s.reader.draining = true ∨ s.reader = .stat) := by
  cases reader_cases hs with
  | found hr hf | missing hr hf => exact ⟨rfl, Or.inr hr⟩
  | enter j hr | leave j hr | read j t hr | publish j f hr | next j hr | resetLine hr
  | resetId hr =>
    exact ⟨rfl, Or.inl (by rw [hr]; rfl)⟩
  | _ => exact nomatch hd

theorem wellFormed_of_draining {s : State} (h : system.Reaches History s) :
    s.reader.draining = true → WellFormed s.file := by
  refine h.invariant_with (P := fun s => s.reader.draining = true → WellFormed s.file)
    (fun _ => consistent_of_history) (fun _ h0 _ => h0 ▸ Or.inl rfl) ?_
  intro s a s' hc hf hok hs hd
  obtain ⟨e, pc, rfl, -, -, rfl⟩ | ⟨rfl, hs⟩ | ⟨rfl, -, hs⟩ | ⟨rfl, -, hs⟩ | ⟨t, rfl, -, rfl⟩ |
    ⟨rfl, -, -, rfl⟩ | ⟨t, rfl, rfl⟩ | ⟨rfl, rfl⟩ := step_cases hs
  · exact hf hd
  · obtain ⟨pc, sw, wf, ws, rs, e, rfl⟩ := wifiEventHandler_frame hs
    exact hf hd
  · have hr : s'.reader = s.reader := by
      obtain ⟨w, ws, i, f, st, u, q, tk, wr, rfl⟩ := wifiDisconectWriteSdCardTask_frame hs
      rfl
    rw [hr] at hd
    have hcall : s.writer.inCall = false := by
      by_contra hcall
      exact absurd ((hok.2.1 rfl (by simpa using hcall)).symm.trans hd) (by decide)
    rw [wifiDisconectWriteSdCardTask_file hs hcall]
    exact hf hd
  · obtain ⟨hfile, hold | hr⟩ := wifiConnectReadSdCardTask_draining hs hd
    · exact hfile ▸ hf hold
    · exact hfile ▸ (hc.shape (by rw [hr]; rfl)).wellFormed
  · exact hf hd
  · exact hf hd
  · exact hf hd
  · exact nomatch hd

theorem wellFormed_of_history {s : State} (h : system.Reaches History s) : WellFormed s.file := by
  by_cases hd : s.reader.draining = true
  · exact wellFormed_of_draining h hd
  · have hl : s.reader.leaving = false := by
      by_contra hl
      exact hd (ReaderPc.draining_of_leaving (by simpa using hl))
    exact ((consistent_of_history h).shape hl).wellFormed

/-! ### The numbers of the records -/

/-- **Every number in use was given out** by `xQueueSend`. -/
structure Numbered (s : State) : Prop where
  queue : ∀ m ∈ s.sensorQueue, m.seq < s.formatted.length
  writer : ∀ m pc, s.writer = .sdCardWrite m pc → m.seq < s.formatted.length
  fetched : ∀ j d, s.reader = .publish j (.data d) → d.seq < s.formatted.length
  reader : ∀ m, s.reader = .publishDirect m → m.seq < s.formatted.length
  stream : ∀ d, .data d ∈ s.stream → d.seq < s.formatted.length
  file : ∀ d ∈ records s.file, d.seq < s.formatted.length
  published : ∀ k ∈ publishedSeqs s.published, k < s.formatted.length

theorem Numbered.boot : Numbered boot where
  queue := nofun
  writer := nofun
  fetched := nofun
  reader := nofun
  stream := nofun
  file := nofun
  published := nofun

theorem Numbered.writer_step {s s' : State} (h : Numbered s)
    (hs : wifiDisconectWriteSdCardTask s = some s') : Numbered s' := by
  cases writer_cases hs with
  | receive m rest hw hq =>
    have hqueue := h.queue
    rw [hq] at hqueue
    refine { h with queue := fun x hx => hqueue x (List.mem_cons_of_mem _ hx), writer := ?_ }
    rintro x pc ⟨⟩
    exact hqueue m List.mem_cons_self
  | sdCardWrite m pc hw =>
    have hm := h.writer m pc hw
    cases pc with
    | fopen =>
      refine { h with
        writer := ?_
        stream := fun d hd => (by cases hd)
        file := fun d hd => h.file d (by simpa [sdCardWrite, records] using hd) }
      rintro x pc ⟨⟩
      exact hm
    | header =>
      refine { h with writer := ?_, stream := fun d hd => h.stream d ?_ }
      · rintro x pc ⟨⟩
        exact hm
      · simp only [sdCardWrite] at hd
        split at hd
        · exact (List.mem_append.mp hd).resolve_right (by simp)
        · exact hd
    | count =>
      refine { h with writer := ?_ }
      rintro x pc ⟨⟩
      exact hm
    | append =>
      refine { h with writer := ?_, stream := fun d hd => ?_ }
      · rintro x pc ⟨⟩
        exact hm
      · rcases List.mem_append.mp hd with hd | hd
        · exact h.stream d hd
        · cases List.mem_singleton.mp hd
          exact hm
    | fclose =>
      exact { h with
        writer := by simp [sdCardWrite]
        stream := fun d hd => (by cases hd)
        file := fun d hd => (mem_records_flushed hd).elim (h.file d) (h.stream d) }
  | _ =>
    exact { h with writer := by simp }

theorem Numbered.reader_step {s s' : State} (h : Numbered s)
    (hs : wifiConnectReadSdCardTask s = some s') : Numbered s' := by
  cases reader_cases hs with
  | read j t hr =>
    refine { h with fetched := fun i d hi => ?_, reader := by simp }
    exact h.file d (mem_records_of_sdCardRead (ReaderPc.publish.inj hi).2)
  | publish j f hr =>
    refine { h with fetched := by simp, reader := by simp, published := fun k hk => ?_ }
    rw [publishedSeqs_append, List.mem_append] at hk
    rcases hk with hk | hk
    · exact h.published k hk
    · cases f with
      | data d =>
        rw [Source.seq?, Option.toList_some, List.mem_singleton] at hk
        exact hk ▸ h.fetched j d hr
      | _ => exact absurd hk (by simp [Source.seq?])
  | unlink hr =>
    exact { h with fetched := by simp, reader := by simp, file := by simp }
  | receive m rest hr hq =>
    have hqueue := h.queue
    rw [hq] at hqueue
    refine { h with
      queue := fun x hx => hqueue x (List.mem_cons_of_mem _ hx)
      fetched := by simp
      reader := ?_ }
    rintro x ⟨⟩
    exact hqueue m List.mem_cons_self
  | publishDirect m hr =>
    refine { h with fetched := by simp, reader := by simp, published := fun k hk => ?_ }
    rw [publishedSeqs_append, List.mem_append] at hk
    rcases hk with hk | hk
    · exact h.published k hk
    · rw [Source.seq?, Option.toList_some, List.mem_singleton] at hk
      exact hk ▸ h.reader m hr
  | _ =>
    exact { h with fetched := by simp, reader := by simp }

theorem Numbered.send {s : State} (h : Numbered s) {p : ProducerPc} :
    Numbered
      { s with
        producer := p
        sensorQueue := s.sensorQueue ++ [⟨s.formatted.length, .timeStr⟩]
        formatted := s.formatted ++ [s.timeStr] } := by
  have hlen : (s.formatted ++ [s.timeStr]).length = s.formatted.length + 1 := by simp
  refine ⟨fun m hm => ?_, fun m pc hm => ?_, fun j d hd => ?_, fun m hm => ?_, fun d hd => ?_,
    fun d hd => ?_, fun k hk => ?_⟩ <;> simp only [hlen]
  · rcases List.mem_append.mp hm with hm | hm
    · exact Nat.lt_succ_of_lt (h.queue m hm)
    · rw [List.mem_singleton] at hm
      simp [hm]
  · exact Nat.lt_succ_of_lt (h.writer m pc hm)
  · exact Nat.lt_succ_of_lt (h.fetched j d hd)
  · exact Nat.lt_succ_of_lt (h.reader m hm)
  · exact Nat.lt_succ_of_lt (h.stream d hd)
  · exact Nat.lt_succ_of_lt (h.file d hd)
  · exact Nat.lt_succ_of_lt (h.published k hk)

theorem Numbered.step {s s' : State} {a : Act} (h : Numbered s) (hs : step s a = some s') :
    Numbered s' := by
  obtain ⟨e, pc, rfl, -, -, rfl⟩ | ⟨rfl, hs⟩ | ⟨rfl, -, hs⟩ | ⟨rfl, -, hs⟩ | ⟨t, rfl, -, rfl⟩ |
    ⟨rfl, -, -, rfl⟩ | ⟨t, rfl, rfl⟩ | ⟨rfl, rfl⟩ := step_cases hs
  · exact { h with }
  · obtain ⟨pc, sw, wf, ws, rs, e, rfl⟩ := wifiEventHandler_frame hs
    exact { h with }
  · exact h.writer_step hs
  · exact h.reader_step hs
  · exact { h with }
  · exact h.send
  · exact { h with }
  · exact { h with
      queue := nofun
      writer := nofun
      fetched := nofun
      reader := nofun
      stream := nofun }

theorem numbered_of_reaches {ok : State → Act → Prop} {s : State} (h : system.Reaches ok s) :
    Numbered s :=
  h.invariant (fun _ h0 => h0 ▸ Numbered.boot) fun _ _ _ hn _ hs => hn.step hs

/-! ### After the restart -/

theorem survives_of_empty {s t : State} (h : system.Reaches History s)
    (hf : s.file.getD [] = []) (ht : (system.startAt (restart s)).Reaches Continuing t) :
    Survives t := by
  have hc : Consistent t :=
    ht.invariant (fun _ h0 => h0 ▸ (consistent_of_history h).restart hf)
      fun _ _ _ hc hok hs => hc.step hok.2.separate (fun ha => absurd ha hok.1) hs
  have hk : t.kept = [] := by
    refine ht.invariant (P := fun t => t.kept = []) (fun _ h0 => ?_) ?_
    · rw [h0]
      show s.kept ++ s.waiting = []
      rw [kept_of_history h, State.waiting, records_of_empty hf]
      rfl
    · intro t a t' hk hok hs
      exact (kept_step hs hok.1).trans hk
  refine ⟨by simp [hk], fun hu d hd => hc.drained d ?_, fun p hp hsrc => hc.honest p hp ?_⟩
  · rw [hu, ReaderPc.cursor, List.take_length]
    exact hd
  · rw [hsrc]
    rfl

/-- The writer stores a record behind the old lines, with a second header, and
the reader publishes the second line of the file for the one record counted. -/
def storeAndDrain : List Act :=
  .writer :: .event .staDisconnected :: List.replicate 5 Act.handler ++ [Act.format [], .send] ++
    List.replicate 6 Act.writer ++ .event .staGotIp :: List.replicate 4 Act.handler ++
    List.replicate 8 Act.reader

theorem execute_storeAndDrain {s : State} {ds : List DataLine}
    (hf : s.file = some (lines ds)) :
    ∃ t, (system.startAt (restart s)).execute Continuing (restart s) storeAndDrain = some t ∧
      t.reader = .unlink ∧
      t.file = some (lines ds ++ [.header, .data ⟨s.formatted.length, []⟩]) ∧
      publishedSeqs t.published =
        publishedSeqs s.published ++ (ds.head?.map DataLine.seq).toList := by
  have hr : restart s = { boot with
      file := some (lines ds)
      taken := s.taken
      formatted := s.formatted
      written := s.written
      published := s.published
      kept := s.kept ++ s.waiting } := by
    rw [restart, hf]
    rfl
  rw [hr]
  cases ds with
  | nil => exact ⟨_, rfl, rfl, rfl, publishedSeqs_append _ _⟩
  | cons d ds => exact ⟨_, rfl, rfl, rfl, publishedSeqs_append _ _⟩

/-- **Buffered records survive every continuation exactly if none are buffered**:
after any history, and wherever the tasks are, a restart is harmless if and only
if it finds no line in the file. -/
theorem survives_iff {s : State} (h : system.Reaches History s) :
    (∀ t, (system.startAt (restart s)).Reaches Continuing t → Survives t) ↔
      s.file.getD [] = [] := by
  constructor
  · intro hall
    rcases wellFormed_of_history h with hf | ⟨ds, hf⟩
    · exact hf
    · exfalso
      obtain ⟨t, hrun, hr, htf, htp⟩ := execute_storeAndDrain hf
      have ht := hall t (Lib.System.reaches_of_execute storeAndDrain (.init rfl) hrun)
      have hmem : (⟨s.formatted.length, []⟩ : DataLine) ∈ records t.file := by
        rw [htf]
        simp [records]
      have hpub := ht.unlink hr _ hmem
      have hn := numbered_of_reaches h
      rw [htp, List.mem_append] at hpub
      rcases hpub with hpub | hpub
      · exact absurd (hn.published _ hpub) (Nat.lt_irrefl _)
      · cases ds with
        | nil => simp at hpub
        | cons d ds =>
          have hd : d.seq < s.formatted.length := hn.file d (by rw [hf, records_lines]; simp)
          rw [List.head?_cons, Option.map_some, Option.toList_some, List.mem_singleton] at hpub
          exact absurd (hpub ▸ hd) (Nat.lt_irrefl _)
  · exact fun hf t ht => survives_of_empty h hf ht

def storeOne : List Act :=
  .writer :: .event .staDisconnected :: List.replicate 5 Act.handler ++
    [Act.format ['a'], .send] ++ List.replicate 7 Act.writer

def storedOne : State :=
  { boot with
    stateWrite := 2
    writer := .receive
    readerSuspended := true
    id := 1
    file := some (lines [⟨0, ['a']⟩])
    timeStr := ['a']
    last := some .staDisconnected
    taken := [0]
    formatted := [['a']]
    written := [⟨0, ['a']⟩] }

theorem survives_of_storedOne :
    (∀ t, (system.startAt (restart storedOne)).Reaches Continuing t → Survives t) ↔
      storedOne.file.getD [] = [] :=
  survives_iff (Lib.System.reaches_of_execute storeOne (.init rfl) (by decide))

/-- The reader finds the file after the restart, leaves its loop at once and
unlinks the record. -/
theorem not_survives :
    ¬ ∀ s t, system.Reaches Continuing s →
      (system.startAt (restart s)).Reaches Continuing t → Survives t := by
  intro hall
  have hs : system.Reaches Continuing storedOne :=
    Lib.System.reaches_of_execute storeOne (.init rfl) (by decide)
  have hcont : ∃ t, (system.startAt (restart storedOne)).Reaches Continuing t ∧ t.kept = [0] ∧
      t.file = none ∧ t.published = [] :=
    Lib.System.exists_of_execute (List.replicate 5 .reader) rfl (by decide)
  obtain ⟨t, ht, hkept, hfile, hpub⟩ := hcont
  have := (hall _ t hs ht).kept 0 (by rw [hkept]; simp)
  simp [hfile, hpub, publishedSeqs] at this

end Datk.Store
