import Mathlib.Data.List.Nodup
import Datk.Store.Consistent

/-!
# No record is lost and none is published twice

`Conserved` says where the records taken from `sensor_queue` are: each is in
exactly one of three places, and there once.  It was handed to
`mqtt_app_pub_json`, or one of the tasks holds it, or its data line is in the
file and unpublished.

The two tasks keep this only as long as they stay apart.  Suspended between the
end of its loop and `unlink`, the reader leaves the writer free to append a
record, which the `unlink` then removes.  And a record whose line has been printed
is not in the file before `fclose`: if the reader unlinks the file in between, the
line is lost.  `conserved_of_undisturbed` proves
`Conserved` of every state of the runs without a restart whose steps are all
`Separate`, whatever the events and whoever is suspended when.
-/

namespace Datk.Store

/-- The record that the writer has received and is about to store. -/
def WriterPc.held : WriterPc → List Nat
  | .sdCardWrite m _ => [m.seq]
  | _ => []

def ReaderPc.held : ReaderPc → List Nat
  | .publishDirect m => [m.seq]
  | _ => []

/-- The records that one of the tasks has in its hands. -/
def State.held (s : State) : List Nat := s.writer.held ++ s.reader.held

/-- **Every record taken is in one place.** -/
structure Conserved (s : State) : Prop where
  place : ∀ k ∈ s.taken,
    (publishedSeqs s.published).count k + s.held.count k + s.waiting.count k = 1
  once : (publishedSeqs s.published).Nodup
  /-- `unlink` removes no data line that was not published. -/
  unlink : s.reader = .unlink → ∀ d ∈ records s.file, d.seq ∈ publishedSeqs s.published

/-- The step is no restart and keeps the tasks apart. -/
def Undisturbed (s : State) (a : Act) : Prop := a ≠ .restart ∧ Separate s a

instance (s : State) (a : Act) : Decidable (Undisturbed s a) :=
  inferInstanceAs (Decidable (_ ∧ _))

theorem consistent_of_undisturbed {s : State} (h : system.Reaches Undisturbed s) : Consistent s :=
  h.invariant (fun _ h0 => h0 ▸ Consistent.boot)
    fun _ _ _ hc hok hs => hc.step hok.2 (fun ha => absurd ha hok.1) hs

/-! ### The balance of a run -/

/-- The records of the data lines the reader has yet to publish. -/
def State.ahead (s : State) : List Nat :=
  ((records s.file).drop (s.reader.cursor (records s.file).length)).map DataLine.seq

/-- Every record taken is published, held or ahead of the reader, as often as it
was taken; and the queue numbers its records in order. -/
structure Balanced (s : State) : Prop where
  fifo : s.taken ++ s.sensorQueue.map ModuleData.seq = List.range s.formatted.length
  balance : ∀ k, s.taken.count k =
    (publishedSeqs s.published).count k + s.held.count k + s.ahead.count k

theorem Balanced.boot : Balanced boot where
  fifo := rfl
  balance _ := rfl

theorem Balanced.take {s : State} (h : Balanced s) {m : ModuleData} {rest : List ModuleData}
    (hq : s.sensorQueue = m :: rest) :
    (s.taken ++ [m.seq]) ++ rest.map ModuleData.seq = List.range s.formatted.length := by
  rw [← h.fifo, hq, List.map_cons, List.append_assoc, List.singleton_append]

theorem Balanced.writer {s s' : State} (h : Balanced s) (hc : Consistent s)
    (hok : Separate s .writer) (hs : wifiDisconectWriteSdCardTask s = some s') : Balanced s' := by
  have hbal := h.balance
  cases writer_cases hs with
  | suspendSelf hw =>
    refine ⟨h.fifo, fun k => ?_⟩
    simpa [State.held, State.ahead, WriterPc.held, hw] using hbal k
  | receive m rest hw hq =>
    refine ⟨h.take hq, fun k => ?_⟩
    have := hbal k
    simp only [State.held, State.ahead, WriterPc.held, hw, List.nil_append, List.count_append]
      at this ⊢
    omega
  | sdCardWrite m pc hw =>
    cases pc with
    | fopen =>
      refine ⟨h.fifo, fun k => ?_⟩
      simpa [State.held, State.ahead, WriterPc.held, hw, sdCardWrite, records] using hbal k
    | header | count | append =>
      refine ⟨h.fifo, fun k => ?_⟩
      simpa [State.held, State.ahead, WriterPc.held, hw, sdCardWrite] using hbal k
    | fclose =>
      have hl := hok.1 rfl (by rw [hw]; rfl)
      obtain ⟨d, hd, hrec⟩ := hc.records_fclose hw hl
      refine ⟨h.fifo, fun k => ?_⟩
      have := hbal k
      simp only [State.held, State.ahead, hw] at this ⊢
      rw [hrec,
        ReaderPc.cursor_eq (show (sdCardWrite s m .fclose).reader.leaving = false from hl) _
          (records s.file).length]
      rw [show (sdCardWrite s m .fclose).reader = s.reader from rfl,
        List.drop_append_of_le_length hc.inside]
      simp only [sdCardWrite, WriterPc.held, List.map_append, List.map_cons, List.map_nil, hd,
        List.count_append, List.nil_append] at this ⊢
      omega
  | delay hw =>
    refine ⟨h.fifo, fun k => ?_⟩
    simpa [State.held, State.ahead, WriterPc.held, hw] using hbal k

/-- The reader moves on with the same data lines ahead of it. -/
theorem Balanced.move {s : State} (h : Balanced s) {r : ReaderPc}
    (hheld : r.held = s.reader.held)
    (hcur : r.cursor (records s.file).length = s.reader.cursor (records s.file).length) :
    Balanced { s with reader := r } := by
  refine ⟨h.fifo, fun k => ?_⟩
  have := h.balance k
  simp only [State.held, State.ahead, hheld, hcur] at this ⊢
  exact this

theorem Balanced.publish {s : State} (h : Balanced s) (hc : Consistent s) {j : Nat} {f : Fetched}
    {t : Text} (hr : s.reader = .publish j f) :
    Balanced { s with reader := .next j, published := s.published ++ [⟨.file f, t⟩] } := by
  obtain ⟨d, rfl, hget⟩ := hc.fetched j f hr
  obtain ⟨hlt, hd⟩ := List.getElem?_eq_some_iff.mp hget
  refine ⟨h.fifo, fun k => ?_⟩
  have := h.balance k
  simp only [State.held, State.ahead, hr, ReaderPc.held, ReaderPc.cursor,
    List.drop_eq_getElem_cons hlt, hd, List.map_cons, publishedSeqs_append, Source.seq?,
    Option.toList_some, List.count_append, List.count_cons, List.count_nil] at this ⊢
  omega

theorem Balanced.publishDirect {s : State} (h : Balanced s) {m : ModuleData} {t : Text}
    (hr : s.reader = .publishDirect m) :
    Balanced
      { s with reader := .delay, published := s.published ++ [⟨.queue m.seq, t⟩] } := by
  refine ⟨h.fifo, fun k => ?_⟩
  have := h.balance k
  simp only [State.held, State.ahead, hr, ReaderPc.held, ReaderPc.cursor, publishedSeqs_append,
    Source.seq?, Option.toList_some, List.count_append, List.append_nil] at this ⊢
  omega

theorem Balanced.reader {s s' : State} (h : Balanced s) (hc : Consistent s)
    (hs : wifiConnectReadSdCardTask s = some s') : Balanced s' := by
  cases reader_cases hs with
  | found hr hf | missing hr hf | enter j hr hj | delay hr =>
    exact h.move (by rw [hr]; rfl) (by rw [hr]; rfl)
  | leave j hr hj =>
    have hlen := hc.passed hr hj
    have hin := hc.inside
    rw [hr] at hin
    exact h.move (by rw [hr]; rfl) (by rw [hr]; exact Nat.le_antisymm hlen hin)
  | read j t hr =>
    have h' := h.move (r := .publish j (sdCardRead s.file s.line)) (by rw [hr]; rfl)
      (by rw [hr]; rfl)
    exact { h' with }
  | publish j f hr =>
    exact h.publish hc hr
  | next j hr =>
    have h' := h.move (r := .test (j + 1)) (by rw [hr]; rfl) (by rw [hr]; rfl)
    exact { h' with }
  | resetLine hr =>
    have h' := h.move (r := .resetId) (by rw [hr]; rfl) (by rw [hr]; rfl)
    exact { h' with }
  | resetId hr =>
    have h' := h.move (r := .unlink) (by rw [hr]; rfl) (by rw [hr]; rfl)
    exact { h' with }
  | unlink hr =>
    refine ⟨h.fifo, fun k => ?_⟩
    have := h.balance k
    simp only [State.held, State.ahead, hr, ReaderPc.held, ReaderPc.cursor, List.drop_length,
      records_none, List.drop_nil] at this ⊢
    exact this
  | receive m rest hr hq =>
    refine ⟨h.take hq, fun k => ?_⟩
    have := h.balance k
    simp only [State.held, State.ahead, hr, ReaderPc.held, ReaderPc.cursor, List.append_nil,
      List.count_append] at this ⊢
    omega
  | publishDirect m hr =>
    exact h.publishDirect hr

theorem Balanced.send {s : State} (h : Balanced s) {p : ProducerPc} :
    Balanced
      { s with
        producer := p
        sensorQueue := s.sensorQueue ++ [⟨s.formatted.length, .timeStr⟩]
        formatted := s.formatted ++ [s.timeStr] } := by
  refine ⟨?_, h.balance⟩
  simp only [List.map_append, List.map_cons, List.map_nil, List.length_append, List.length_cons,
    List.length_nil, List.range_succ]
  rw [← List.append_assoc, h.fifo]

theorem Balanced.step {s s' : State} {a : Act} (h : Balanced s) (hc : Consistent s)
    (hok : Undisturbed s a) (hs : step s a = some s') : Balanced s' := by
  obtain ⟨e, pc, rfl, -, -, rfl⟩ | ⟨rfl, hs⟩ | ⟨rfl, -, hs⟩ | ⟨rfl, -, hs⟩ | ⟨t, rfl, -, rfl⟩ |
    ⟨rfl, -, -, rfl⟩ | ⟨t, rfl, rfl⟩ | ⟨rfl, -⟩ := step_cases hs
  · exact { h with }
  · obtain ⟨pc, sw, wf, ws, rs, e, rfl⟩ := wifiEventHandler_frame hs
    exact { h with }
  · exact h.writer hc hok.2 hs
  · exact h.reader hc hs
  · exact { h with }
  · exact h.send
  · exact { h with }
  · exact absurd rfl hok.1

theorem balanced_of_undisturbed {s : State} (h : system.Reaches Undisturbed s) : Balanced s :=
  h.invariant_with (fun _ => consistent_of_undisturbed) (fun _ h0 => h0 ▸ Balanced.boot)
    fun _ _ _ hc hb hok hs => hb.step hc hok hs

/-! ### Where the records are -/

/-- In a balanced state the unpublished data lines are those ahead of the reader. -/
theorem waiting_eq_ahead {s : State} (hc : Consistent s)
    (hnd : (publishedSeqs s.published ++ s.held ++ s.ahead).Nodup) : s.waiting = s.ahead := by
  have hsplit : (records s.file).map DataLine.seq =
      ((records s.file).take (s.reader.cursor (records s.file).length)).map DataLine.seq ++
        s.ahead := by
    rw [State.ahead, ← List.map_append, List.take_append_drop]
  have hbehind : ∀ k ∈ ((records s.file).take (s.reader.cursor (records s.file).length)).map
      DataLine.seq, ¬ k ∉ publishedSeqs s.published := by
    intro k hk
    obtain ⟨d, hd, rfl⟩ := List.mem_map.mp hk
    exact not_not_intro (hc.drained d hd)
  have hahead : ∀ k ∈ s.ahead, k ∉ publishedSeqs s.published := by
    intro k hk hp
    exact (List.nodup_append.mp hnd).2.2 k (List.mem_append_left _ hp) k hk rfl
  rw [State.waiting, hsplit, List.filter_append,
    List.filter_eq_nil_iff.mpr (by simpa using hbehind), List.nil_append,
    List.filter_eq_self.mpr (by simpa using hahead)]

theorem Balanced.conserved {s : State} (h : Balanced s) (hc : Consistent s) : Conserved s := by
  have hbal : ∀ k, s.taken.count k =
      (publishedSeqs s.published ++ s.held ++ s.ahead).count k := by
    intro k
    rw [List.count_append, List.count_append, h.balance]
  have htaken : s.taken.Nodup := by
    have hr := h.fifo ▸ List.nodup_range
    exact (List.nodup_append.mp hr).1
  have hnd : (publishedSeqs s.published ++ s.held ++ s.ahead).Nodup := by
    rw [List.nodup_iff_count_le_one] at htaken ⊢
    intro k
    rw [← hbal]
    exact htaken k
  refine ⟨fun k hk => ?_, ?_, fun hu d hd => ?_⟩
  · rw [waiting_eq_ahead hc hnd, ← h.balance]
    exact List.count_eq_one_of_mem htaken hk
  · exact (List.nodup_append.mp (List.nodup_append.mp hnd).1).1
  · refine hc.drained d ?_
    rw [hu, ReaderPc.cursor, List.take_length]
    exact hd

/-- **No loss, no duplication**: in the runs without a restart in which the two
tasks stay apart, every record taken is in exactly one place, no record is
published twice, and `unlink` removes published lines only. -/
theorem conserved_of_undisturbed {s : State} (h : system.Reaches Undisturbed s) : Conserved s :=
  (balanced_of_undisturbed h).conserved (consistent_of_undisturbed h)

/-- `STA_DISCONNECTED` while the reader is active, with all of its handler. -/
def disconnect : List Act := .event .staDisconnected :: List.replicate 5 .handler

/-- `STA_GOT_IP`, with all of its handler. -/
def gotIp : List Act := .event .staGotIp :: List.replicate 4 .handler

/-- `DS1302_getClock` enqueues a record with the time text `t`. -/
def enqueue (t : Text) : List Act := [.format t, .send]

def store : List Act := List.replicate 7 .writer

/-- A disconnection, a record stored, a connection, and the reader up to the end
of its loop over the one data line. -/
def drainOne : List Act :=
  .writer :: disconnect ++ enqueue ['a'] ++ store ++ gotIp ++ List.replicate 6 .reader

theorem conserved_after_drainOne :
    ∃ s, system.execute Undisturbed boot (drainOne ++ List.replicate 3 .reader) = some s ∧
      s.taken = [0] ∧ s.file = none ∧ Conserved s :=
  ⟨_, rfl, rfl, rfl, conserved_of_undisturbed
    (Lib.System.reaches_of_execute (drainOne ++ List.replicate 3 .reader) (.init rfl) rfl)⟩

/-- Suspended at the end of its loop, the reader lets the writer store record 1
and unlinks it when it is resumed. -/
def lostRecord : List Act :=
  drainOne ++ disconnect ++ enqueue ['b'] ++ store ++ gotIp ++ List.replicate 3 .reader

/-- The writer is suspended when it has printed record 1, and closes the file when the reader
has unlinked it. -/
def lostLine : List Act :=
  .writer :: disconnect ++ enqueue ['a'] ++ store ++ enqueue ['b'] ++ List.replicate 5 .writer ++
    gotIp ++ List.replicate 13 .reader ++ disconnect ++ [.writer]

theorem not_conserved_of_lostRecord :
    ¬ ∀ s, system.Reaches (fun _ a => a ≠ .restart) s → Conserved s := by
  intro h
  have hrun : ∃ s, system.Reaches (fun _ a => a ≠ .restart) s ∧ 1 ∈ s.taken ∧
      (publishedSeqs s.published).count 1 + s.held.count 1 + s.waiting.count 1 = 0 :=
    Lib.System.exists_of_execute lostRecord rfl (by decide)
  obtain ⟨s, hs, hk, hgone⟩ := hrun
  have := (h s hs).place 1 hk
  omega

theorem exists_lostLine :
    ∃ s, system.Reaches (fun _ a => a ≠ .restart) s ∧ s.written.map DataLine.seq = [0, 1] ∧
      s.held = [] ∧ s.file = none ∧ publishedSeqs s.published = [0] :=
  Lib.System.exists_of_execute lostLine rfl (by decide +kernel)

end Datk.Store
