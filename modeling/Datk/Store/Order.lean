import Mathlib.Data.List.Sort
import Datk.Store.Conserved

/-!
# The order of publication

No record is lost and none is published twice, but they may be published in another order
than they were measured in.  The reader waits in `xQueueReceive` while there is no file.  If
it is suspended there, the writer stores what comes in the meantime; and when the reader is
resumed, it takes a newer record from the queue first, and then finds the file.

`reaches_inTurn_iff` says that this is the only way, and that a record which the writer
still has is overtaken likewise.
-/

namespace Datk.Store

/-- The records taken from the queue, in the order in which they are published if nothing
else is taken. -/
def State.order (s : State) : List Nat :=
  publishedSeqs s.published ++ s.reader.held ++ s.ahead ++ s.writer.held

/-- **The records are published in the order in which they were measured**, those that are
published already and those that are taken. -/
def InOrder (s : State) : Prop := s.order = s.taken

/-- When the reader receives a record, there is none in the file and the writer has none. -/
def InTurn (s : State) (a : Act) : Prop :=
  a = .reader → s.reader = .receive → s.waiting = [] ∧ s.writer.held = []

instance (s : State) (a : Act) : Decidable (InTurn s a) :=
  inferInstanceAs (Decidable (_ → _ → _))

/-! ### The records taken -/

variable {s s' : State} {a : Act}

theorem Balanced.taken_eq (h : Balanced s) : s.taken = List.range s.taken.length := by
  have htake := congrArg (List.take s.taken.length) h.fifo
  rw [List.take_left, List.take_range] at htake
  have hlength := congrArg List.length h.fifo
  rw [List.length_append, List.length_range] at hlength
  rwa [Nat.min_eq_left (by omega)] at htake

theorem Balanced.pairwise_taken (h : Balanced s) : s.taken.Pairwise (· < ·) := by
  rw [h.taken_eq]
  exact List.pairwise_lt_range

theorem Balanced.order_perm (h : Balanced s) : s.order.Perm s.taken := by
  refine List.perm_iff_count.mpr fun k => ?_
  rw [h.balance, State.order, State.held]
  simp only [List.count_append]
  omega

/-- The records are in the order in which they were taken if each is newer than the one
before. -/
theorem Balanced.inOrder_iff (h : Balanced s) : InOrder s ↔ s.order.Pairwise (· < ·) := by
  constructor
  · intro horder
    rw [horder]
    exact h.pairwise_taken
  · intro hpairwise
    refine h.order_perm.eq_of_pairwise ?_ hpairwise h.pairwise_taken
    intro i j _ _ hij hji
    exact absurd (Nat.lt_trans hij hji) (Nat.lt_irrefl i)

theorem Balanced.waiting_eq (h : Balanced s) (hc : Consistent s) : s.waiting = s.ahead := by
  refine waiting_eq_ahead hc ?_
  have hperm : (publishedSeqs s.published ++ s.held ++ s.ahead).Perm s.taken := by
    refine List.perm_iff_count.mpr fun k => ?_
    rw [List.count_append, List.count_append, h.balance]
  exact hperm.nodup_iff.mpr (h.pairwise_taken.imp Nat.ne_of_lt)

/-! ### What a step does to the order -/

/-- A step leaves the order as it is, or puts a new record behind all others, or, as the
reader receives it, before those that are not published yet. -/
inductive OrderStep (s : State) (a : Act) (s' : State) : Prop
  | same (horder : s'.order = s.order) (htaken : s'.taken = s.taken)
    (hquiet : a = .reader → s.reader ≠ .receive)
  | behind (k : Nat) (horder : s'.order = s.order ++ [k]) (htaken : s'.taken = s.taken ++ [k])
    (hquiet : a = .reader → s.reader ≠ .receive)
  | before (k : Nat) (horder : s.order = publishedSeqs s.published ++ (s.ahead ++ s.writer.held))
    (horder' : s'.order = publishedSeqs s.published ++ k :: (s.ahead ++ s.writer.held))
    (htaken : s'.taken = s.taken ++ [k]) (ha : a = .reader) (hr : s.reader = .receive)

theorem orderStep_writer (hc : Consistent s) (hok : Separate s .writer)
    (hs : wifiDisconectWriteSdCardTask s = some s') : OrderStep s .writer s' := by
  cases writer_cases hs with
  | suspendSelf hw | delay hw =>
    refine .same ?_ rfl nofun
    simp [State.order, State.ahead, WriterPc.held, hw]
  | receive m rest hw hq =>
    refine .behind m.seq ?_ rfl nofun
    simp [State.order, State.ahead, WriterPc.held, hw]
  | sdCardWrite m pc hw =>
    cases pc with
    | fopen =>
      refine .same ?_ rfl nofun
      simp [State.order, State.ahead, WriterPc.held, hw, sdCardWrite, records]
    | header | count | append =>
      refine .same ?_ rfl nofun
      simp [State.order, State.ahead, WriterPc.held, hw, sdCardWrite]
    | fclose =>
      have hl : s.reader.leaving = false := hok.1 rfl (by rw [hw]; rfl)
      obtain ⟨d, hd, hrec⟩ := hc.records_fclose hw hl
      refine .same ?_ rfl nofun
      -- The record moves from the writer's hand to the end of the file.
      have hahead : (sdCardWrite s m .fclose).ahead = s.ahead ++ [m.seq] := by
        rw [State.ahead, hrec, show (sdCardWrite s m .fclose).reader = s.reader from rfl,
          ReaderPc.cursor_eq hl _ (records s.file).length,
          List.drop_append_of_le_length hc.inside, List.map_append, ← hd]
        rfl
      rw [State.order, State.order, hahead, hw]
      simp [sdCardWrite, WriterPc.held]

theorem orderStep_reader (hc : Consistent s) (hs : wifiConnectReadSdCardTask s = some s') :
    OrderStep s .reader s' := by
  cases reader_cases hs with
  | found hr | missing hr | enter j hr | read j t hr | next j hr | resetLine hr | resetId hr
    | delay hr =>
    refine .same ?_ rfl (by simp [hr])
    simp [State.order, State.ahead, ReaderPc.held, ReaderPc.cursor, hr]
  | leave j hr hj =>
    have hlen := hc.passed hr hj
    have hin := hc.inside
    rw [hr, ReaderPc.cursor] at hin
    refine .same ?_ rfl (by simp [hr])
    simp [State.order, State.ahead, ReaderPc.held, ReaderPc.cursor, hr, Nat.le_antisymm hin hlen]
  | publish j f hr =>
    obtain ⟨d, rfl, hget⟩ := hc.fetched j f hr
    obtain ⟨hlt, hd⟩ := List.getElem?_eq_some_iff.mp hget
    refine .same ?_ rfl (by simp [hr])
    simp [State.order, State.ahead, ReaderPc.held, ReaderPc.cursor, hr, Source.seq?,
      List.drop_eq_getElem_cons hlt, hd]
  | unlink hr =>
    refine .same ?_ rfl (by simp [hr])
    simp [State.order, State.ahead, ReaderPc.held, ReaderPc.cursor, hr]
  | receive m rest hr hq =>
    refine .before m.seq ?_ ?_ rfl rfl hr
    · simp [State.order, ReaderPc.held, hr]
    · simp [State.order, State.ahead, ReaderPc.held, ReaderPc.cursor, hr]
  | publishDirect m hr =>
    refine .same ?_ rfl (by simp [hr])
    simp [State.order, State.ahead, ReaderPc.held, ReaderPc.cursor, hr, Source.seq?]

theorem orderStep (hc : Consistent s) (hok : Undisturbed s a) (hs : step s a = some s') :
    OrderStep s a s' := by
  obtain ⟨e, pc, rfl, -, -, rfl⟩ | ⟨rfl, hs⟩ | ⟨rfl, -, hs⟩ | ⟨rfl, -, hs⟩ | ⟨t, rfl, -, rfl⟩ |
    ⟨rfl, -, -, rfl⟩ | ⟨t, rfl, rfl⟩ | ⟨rfl, -⟩ := step_cases hs
  · exact .same rfl rfl nofun
  · obtain ⟨pc, sw, wf, ws, rs, e, rfl⟩ := wifiEventHandler_frame hs
    exact .same rfl rfl nofun
  · exact orderStep_writer hc hok.2 hs
  · exact orderStep_reader hc hs
  · exact .same rfl rfl nofun
  · exact .same rfl rfl nofun
  · exact .same rfl rfl nofun
  · exact absurd rfl hok.1

/-- Records never change places. -/
theorem OrderStep.sublist (h : OrderStep s a s') : s.order.Sublist s'.order := by
  cases h with
  | same horder => rw [horder]
  | behind k horder =>
    rw [horder]
    exact List.sublist_append_left _ _
  | before k horder horder' =>
    rw [horder, horder']
    exact (List.Sublist.refl _).append (List.sublist_cons_self _ _)

/-! ### The runs that keep the order -/

/-- A step from an ordered state keeps the order exactly if the reader keeps its turn. -/
theorem inTurn_iff (hc : Consistent s) (h : Balanced s) (h' : Balanced s')
    (horder : InOrder s) (hs : OrderStep s a s') : InTurn s a ↔ InOrder s' := by
  rw [InOrder] at horder
  cases hs with
  | same horder' htaken hquiet =>
    refine iff_of_true (fun ha hr => absurd hr (hquiet ha)) ?_
    rw [InOrder, horder', htaken, horder]
  | behind k horder' htaken hquiet =>
    refine iff_of_true (fun ha hr => absurd hr (hquiet ha)) ?_
    rw [InOrder, horder', htaken, horder]
  | before k hsplit hsplit' htaken ha hr =>
    have hrest : InTurn s a ↔ s.ahead ++ s.writer.held = [] := by
      rw [InTurn, h.waiting_eq hc, List.append_eq_nil_iff]
      exact ⟨fun hturn => hturn ha hr, fun hrest _ _ => hrest⟩
    rw [hrest]
    constructor
    · intro hnil
      rw [InOrder, hsplit', htaken, ← horder, hsplit, hnil, List.append_nil]
    · intro horder'
      have hpairwise := h'.inOrder_iff.mp horder'
      rw [hsplit'] at hpairwise
      refine List.eq_nil_iff_forall_not_mem.mpr fun i hi => ?_
      -- An older record behind the new one.
      have hlt : k < i :=
        (List.pairwise_cons.mp (List.pairwise_append.mp hpairwise).2.1).1 i hi
      have hmem : i ∈ s.taken := by
        rw [← horder, hsplit]
        exact List.mem_append_right _ hi
      have htaken' := h'.pairwise_taken
      rw [htaken] at htaken'
      have hgt : i < k :=
        (List.pairwise_append.mp htaken').2.2 i hmem k (List.mem_singleton_self k)
      exact absurd (Nat.lt_trans hlt hgt) (Nat.lt_irrefl k)

/-- **The runs that keep the order**, among those in which the tasks stay apart, are those
in which the reader never receives a record while there is an older one that is not
published. -/
theorem reaches_inTurn_iff :
    system.Reaches (fun s a => Undisturbed s a ∧ InTurn s a) s ↔
      system.Reaches Undisturbed s ∧ InOrder s := by
  refine Lib.System.Reaches.iff_reaches_and ?_ ?_ ?_
  · rintro _ rfl
    rfl
  · intro s a s' h hok hs horder
    have hb' := balanced_of_undisturbed (.step h hok hs)
    rw [(balanced_of_undisturbed h).inOrder_iff]
    exact (hb'.inOrder_iff.mp horder).sublist
      (orderStep (consistent_of_undisturbed h) hok hs).sublist
  · intro s a s' h horder hok hs
    have hc := consistent_of_undisturbed h
    exact inTurn_iff hc (balanced_of_undisturbed h)
      (balanced_of_undisturbed (.step h hok hs)) horder (orderStep hc hok hs)

/-- **What such a run has published** is the first records that were measured, each once and
in this order. -/
theorem published_eq_range
    (h : system.Reaches (fun s a => Undisturbed s a ∧ InTurn s a) s) :
    publishedSeqs s.published = List.range (publishedSeqs s.published).length := by
  obtain ⟨h, horder⟩ := reaches_inTurn_iff.mp h
  have hprefix : publishedSeqs s.published <+: List.range s.taken.length := by
    rw [← (balanced_of_undisturbed h).taken_eq, ← show s.order = s.taken from horder,
      State.order, List.append_assoc, List.append_assoc]
    exact List.prefix_append _ _
  have htake := List.prefix_iff_eq_take.mp hprefix
  have hlength := hprefix.length_le
  rw [List.length_range] at hlength
  rwa [List.take_range, Nat.min_eq_left hlength] at htake

/-- Two records are stored and a third one comes while they are published. -/
theorem published_eq_range_drained :
    ∃ s, system.Reaches (fun s a => Undisturbed s a ∧ InTurn s a) s ∧
      publishedSeqs s.published = List.range 3 := by
  have hrun : ∃ s, system.Reaches (fun s a => Undisturbed s a ∧ InTurn s a) s ∧
      (publishedSeqs s.published).length = 3 :=
    Lib.System.exists_of_execute
      (.writer :: disconnect ++ enqueue ['a'] ++ store ++ enqueue ['b'] ++ store ++ gotIp ++
        enqueue ['c'] ++ List.replicate 17 .reader)
      rfl (by decide +kernel)
  obtain ⟨s, h, hlength⟩ := hrun
  exact ⟨s, h, hlength ▸ published_eq_range h⟩

/-- The reader is suspended while it waits for the queue, and overtakes the writer. -/
theorem exists_overtaken :
    ∃ s, system.Reaches Undisturbed s ∧ publishedSeqs s.published = [1, 0] :=
  Lib.System.exists_of_execute
    ([.reader, .writer] ++ disconnect ++ enqueue ['a'] ++ store ++ gotIp ++ enqueue ['b'] ++
      List.replicate 7 .reader)
    rfl (by decide +kernel)

end Datk.Store
