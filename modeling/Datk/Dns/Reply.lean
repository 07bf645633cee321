import Datk.Dns.Server
import Datk.Lib.Dns

/-!
# The replies of the name server

The reply to a query is the query itself with another header, and one answer behind it.
The header announces as many answers as there are questions, and no other records, while
the records of the query are still there.  So what a reader takes for answers are first
these records, in their order, and the appended one is the last.

`answered_iff` says when that adds up: if there is one question more than there are
records.
-/

namespace Datk.Dns

open Lib
open Lib.Dns (Message Name message)

/-- What `r` has to say, as a reply to `m`. -/
structure RepliesTo (ipResolved : BitVec 32) (m r : Message) : Prop where
  id : r.header.id = m.header.id
  questions : r.questions = m.questions
  qr : r.header.qr = true
  aa : r.header.aa = true
  qdcount : r.header.qdcount = r.questions.length
  ancount : r.header.ancount = r.answers.length
  nscount : r.header.nscount = r.authorities.length
  arcount : r.header.arcount = r.additionals.length
  /-- The answer is of type A, class IN and with a TTL of 0. -/
  answer : ∀ q, m.questions = [q] → r.answers = [⟨q.name, 1, 1, 0, cells32 ipResolved⟩]

/-- **The query gets a reply**, and it can be read as one. -/
def Answered (ipResolved : BitVec 32) (response : Buffer Byte 96) (query : List Byte)
    (m : Message) : Prop :=
  ∃ reply response' r, dnsServer ipResolved response (some query) = some (some reply, response') ∧
    message reply = some r ∧ RepliesTo ipResolved m r

variable {ipResolved : BitVec 32} {query : List Byte} {m : Message}

/-! ### The header -/

theorem cells16_append (c d : Byte) : cells16 (d ++ c) = [c, d] := by
  have hlow : (d ++ c).extractLsb' 0 8 = c :=
    (BitVec.extractLsb'_append_of_lt (i := 0) (k := 1) (w := 8) (by decide)).trans
      BitVec.extractLsb'_eq_self
  have hhigh : (d ++ c).extractLsb' 8 8 = d := BitVec.extractLsb'_append_of_eq (i := 1) (k := 1) rfl
  rw [cells16, hlow, hhigh]

/-- The header of a reply to a query with the header `h`. -/
def replyHeader (h : Dns.Header) : Dns.Header :=
  { h with
    qr := true
    opcode := 0
    aa := true
    tc := false
    rd := false
    rcode := 0
    ancount := h.qdcount
    nscount := 0
    arcount := 0 }

theorem header_replyTo (ipResolved : BitVec 32) {h : Dns.Header}
    (hquery : Dns.header query = some h) :
    Dns.header (replyTo ipResolved query) = some (replyHeader h) := by
  rw [Dns.header.eq_def] at hquery
  split at hquery
  · rename_i c₀ c₁ c₂ c₃ c₄ c₅ c₆ c₇ c₈ c₉ c₁₀ c₁₁ body
    cases hquery
    have hflags : (1 : BitVec 1) ++ (0 : BitVec 4) ++ (1 : BitVec 1) ++ (0 : BitVec 1) ++
        (0 : BitVec 1) = (0x84 : Byte) := by
      decide
    have hzero : cells16 0 = [0, 0] := by decide
    have hra : ∀ c : Byte, (c.extractLsb' 7 1 ++ c.extractLsb' 4 3 ++ (0 : BitVec 4)).getLsbD 7 =
        c.getLsbD 7 := by
      decide +kernel
    have hz : ∀ c : Byte, (c.extractLsb' 7 1 ++ c.extractLsb' 4 3 ++
        (0 : BitVec 4)).extractLsb' 4 3 = c.extractLsb' 4 3 := by
      decide +kernel
    have hrcode : ∀ c : Byte, (c.extractLsb' 7 1 ++ c.extractLsb' 4 3 ++
        (0 : BitVec 4)).extractLsb' 0 4 = 0 := by
      decide +kernel
    have hcells : (dnsHeader [c₀, c₁, c₂, c₃, c₄, c₅, c₆, c₇, c₈, c₉, c₁₀, c₁₁]).respond.cells =
        [c₀, c₁, 0x84, c₃.extractLsb' 7 1 ++ c₃.extractLsb' 4 3 ++ (0 : BitVec 4), c₄, c₅, c₄, c₅,
          0, 0, 0, 0] := by
      show cells16 (c₁ ++ c₀) ++ [(1 : BitVec 1) ++ (0 : BitVec 4) ++ (1 : BitVec 1) ++
        (0 : BitVec 1) ++ (0 : BitVec 1), _] ++ cells16 (c₅ ++ c₄) ++ cells16 (c₅ ++ c₄) ++
          cells16 0 ++ cells16 0 = _
      rw [cells16_append, cells16_append, hflags, hzero]
      rfl
    have htake : (c₀ :: c₁ :: c₂ :: c₃ :: c₄ :: c₅ :: c₆ :: c₇ :: c₈ :: c₉ :: c₁₀ :: c₁₁ ::
        body).take 12 = [c₀, c₁, c₂, c₃, c₄, c₅, c₆, c₇, c₈, c₉, c₁₀, c₁₁] := rfl
    rw [replyTo, htake, hcells]
    simp only [List.cons_append, Dns.header, replyHeader, hra, hz, hrcode]
    rfl
  · cases hquery

theorem le_of_header {h : Dns.Header} (hquery : Dns.header query = some h) :
    12 ≤ query.length := by
  rw [Dns.header.eq_def] at hquery
  split at hquery
  · simp only [List.length_cons]
    omega
  · cases hquery

/-! ### The records -/

theorem drop_replyTo (ipResolved : BitVec 32) (query : List Byte) :
    (replyTo ipResolved query).drop 12 = query.drop 12 ++ dnsAnswer ipResolved :=
  List.drop_left' (length_cells _)

theorem extends_replyTo (ipResolved : BitVec 32) (h : 12 ≤ query.length) :
    Dns.Extends query (replyTo ipResolved query) where
  body := ⟨dnsAnswer ipResolved, drop_replyTo ipResolved query⟩
  length_le := by
    rw [length_replyTo ipResolved h]
    exact Nat.le_add_right _ 16

theorem extends_self (msg : List Byte) : Dns.Extends msg msg :=
  ⟨⟨[], (List.append_nil _).symm⟩, Nat.le_refl _⟩

/-- The questions and records of the query are read in the reply, one after the other. -/
theorem records_replyTo (ipResolved : BitVec 32) (hm : message query = some m) :
    ∃ p, 12 ≤ p ∧
      Dns.many (Dns.question (replyTo ipResolved query)) m.questions.length 12 =
        some (m.questions, p) ∧
      Dns.many (Dns.record (replyTo ipResolved query)) m.records.length p =
        some (m.records, query.length) := by
  have hextends := extends_replyTo ipResolved (le_of_header (Dns.message_eq_some.mp hm).1)
  obtain ⟨p, hquestions, hrecords⟩ := Dns.records_of_message hm
  obtain ⟨hquestions, hp⟩ :=
    (Dns.follows_question hextends).many _ _ _ _ (Nat.le_refl 12) hquestions
  obtain ⟨hrecords, -⟩ := (Dns.follows_record hextends).many _ _ _ _ hp hrecords
  exact ⟨p, hp, hquestions, hrecords⟩

/-- The name of the first question stands behind the header. -/
theorem name_of_questions {msg : List Byte} {q : Dns.Question} {qs : List Dns.Question}
    {n p : Nat} (h : Dns.many (Dns.question msg) n 12 = some (q :: qs, p)) :
    ∃ next, Dns.name msg 12 = some (q.name, next) := by
  cases n with
  | zero => cases h
  | succ n =>
    obtain ⟨q', p₁, hq, h⟩ := Dns.bind_eq_some.mp h
    obtain ⟨qs', p₂, -, h⟩ := Dns.bind_eq_some.mp h
    cases Dns.pure_eq_some.mp h
    obtain ⟨name, next, hname, hq⟩ := Dns.bind_eq_some.mp hq
    obtain ⟨type, p₃, -, hq⟩ := Dns.bind_eq_some.mp hq
    obtain ⟨cls, p₄, -, hq⟩ := Dns.bind_eq_some.mp hq
    cases Dns.pure_eq_some.mp hq
    exact ⟨next, hname⟩

theorem dnsAnswer_eq (ipResolved : BitVec 32) : dnsAnswer ipResolved =
    [0xC0, 0x0C] ++ ([0, 1] ++ ([0, 1] ++ ([0, 0, 0, 0] ++ ([0, 4] ++
      (cells32 ipResolved ++ []))))) := by
  have hname : cells16 (bswap16 0xC00C) = [0xC0, 0x0C] := by decide
  have hone : cells16 (bswap16 1) = [0, 1] := by decide
  have hfour : cells16 (bswap16 4) = [0, 4] := by decide
  have hzero : cells32 0 = [0, 0, 0, 0] := by decide
  rw [dnsAnswer, hname, hone, hfour, hzero]
  simp only [List.append_assoc, List.append_nil]

/-- **The answer that is appended** names the first question. -/
theorem record_replyTo (ipResolved : BitVec 32) {n : Name} {next : Nat} (hlow : 12 < query.length)
    (hname : Dns.name (replyTo ipResolved query) 12 = some (n, next)) :
    Dns.record (replyTo ipResolved query) query.length =
      some (⟨n, 1, 1, 0, cells32 ipResolved⟩, query.length + 16) := by
  have hanswer : (replyTo ipResolved query).drop query.length = [0xC0, 0x0C] ++ ([0, 1] ++
      ([0, 1] ++ ([0, 0, 0, 0] ++ ([0, 4] ++ (cells32 ipResolved ++ []))))) := by
    have hlen : query.length = 12 + (query.drop 12).length := by
      rw [List.length_drop]
      omega
    rw [hlen, ← List.drop_drop, drop_replyTo, List.drop_left, dnsAnswer_eq]
  have hpointer := Dns.name_pointer hanswer (by decide) rfl (by decide) hlow hname
  have htype := Dns.drop_at hanswer
  have hcls := Dns.drop_at htype
  have httl := Dns.drop_at hcls
  have hrdlength := Dns.drop_at httl
  have hrdata := Dns.drop_at hrdlength
  exact Dns.bind_eq_some.mpr ⟨_, _, hpointer,
    Dns.bind_eq_some.mpr ⟨_, _, Dns.number_at htype (List.cons_ne_nil _ _),
    Dns.bind_eq_some.mpr ⟨_, _, Dns.number_at hcls (List.cons_ne_nil _ _),
    Dns.bind_eq_some.mpr ⟨_, _, Dns.number_at httl (List.cons_ne_nil _ _),
    Dns.bind_eq_some.mpr ⟨_, _, Dns.number_at hrdlength (List.cons_ne_nil _ _),
    Dns.bind_eq_some.mpr ⟨_, _, Dns.octets_at hrdata (List.cons_ne_nil _ _), rfl⟩⟩⟩⟩⟩⟩

/-- The appended answer, behind which nothing is left. -/
theorem answer_replyTo (ipResolved : BitVec 32) (hm : message query = some m) {q : Dns.Question}
    {qs : List Dns.Question} (hqs : m.questions = q :: qs) :
    Dns.record (replyTo ipResolved query) query.length =
      some (⟨q.name, 1, 1, 0, cells32 ipResolved⟩, query.length + 16) := by
  obtain ⟨p, -, hquestions, -⟩ := records_replyTo ipResolved hm
  obtain ⟨p', hquestions', -⟩ := Dns.records_of_message hm
  rw [hqs] at hquestions hquestions'
  obtain ⟨next, hname⟩ := name_of_questions hquestions
  obtain ⟨next', hname'⟩ := name_of_questions hquestions'
  obtain ⟨⟨fuel, hlabels⟩, -⟩ := Dns.name_eq_some.mp hname'
  exact record_replyTo ipResolved (Dns.lt_of_labels hlabels) hname

theorem record_past_end {msg : List Byte} {pos : Nat} (h : msg.length ≤ pos) :
    Dns.record msg pos = none := by
  cases hread : Dns.record msg pos with
  | none => rfl
  | some r =>
    obtain ⟨n, p, hname, -⟩ := Dns.bind_eq_some.mp hread
    obtain ⟨⟨fuel, hlabels⟩, -⟩ := Dns.name_eq_some.mp hname
    exact absurd (Dns.lt_of_labels hlabels) (Nat.not_lt.mpr h)

/-! ### When the reply can be read -/

/-- **The reply adds up** if there is one question more than there are records. -/
theorem message_replyTo (ipResolved : BitVec 32) (hm : message query = some m)
    {q : Dns.Question} {qs : List Dns.Question} (hqs : m.questions = q :: qs)
    (hcount : m.questions.length = m.records.length + 1) :
    message (replyTo ipResolved query) = some ⟨replyHeader m.header, m.questions,
      m.records ++ [⟨q.name, 1, 1, 0, cells32 ipResolved⟩], [], []⟩ := by
  have hheader := (Dns.message_eq_some.mp hm).1
  have hqd := (Dns.counts_of_message hm).1
  obtain ⟨p, -, hquestions, hrecords⟩ := records_replyTo ipResolved hm
  have hanswer := Dns.many_one (answer_replyTo ipResolved hm hqs)
  refine Dns.message_eq_some.mpr ⟨header_replyTo ipResolved hheader, p, query.length + 16,
    query.length + 16, hqd ▸ hquestions, ?_, rfl, ?_⟩
  · show Dns.many _ m.header.qdcount p = _
    rw [← hqd, hcount]
    exact Dns.many_append hrecords hanswer
  · rw [length_replyTo ipResolved (le_of_header hheader)]
    rfl

/-- In a reply that can be read, the answers go from the questions to the end. -/
theorem answers_replyTo (ipResolved : BitVec 32) (hm : message query = some m) {r : Message}
    (hr : message (replyTo ipResolved query) = some r) {p : Nat}
    (hquestions : Dns.many (Dns.question (replyTo ipResolved query)) m.questions.length 12 =
      some (m.questions, p)) :
    Dns.many (Dns.record (replyTo ipResolved query)) m.questions.length p =
      some (r.answers, query.length + 16) := by
  obtain ⟨hheader, -⟩ := Dns.message_eq_some.mp hm
  have hqd := (Dns.counts_of_message hm).1
  have hlen := length_replyTo ipResolved (le_of_header hheader)
  obtain ⟨hrheader, p₁, p₂, p₃, hq, ha, hn, har⟩ := Dns.message_eq_some.mp hr
  rw [header_replyTo ipResolved hheader, Option.some.injEq] at hrheader
  rw [← hrheader] at hq ha hn har
  have hp₁ : some (m.questions, p) = some (r.questions, p₁) := by
    rw [← hquestions, hqd]
    exact hq
  -- the last two sections are empty
  have hp₂ : p₂ = p₃ := congrArg Prod.snd (Option.some.inj hn)
  have hp₃ : p₃ = (replyTo ipResolved query).length := congrArg Prod.snd (Option.some.inj har)
  rw [Option.some.injEq, Prod.mk.injEq] at hp₁
  rw [← hlen, ← hp₃, ← hp₂, hp₁.2, hqd]
  exact ha

/-- The counts of a reply that can be read. -/
theorem count_of_message_replyTo (ipResolved : BitVec 32) (hm : message query = some m)
    {r : Message} (hr : message (replyTo ipResolved query) = some r) :
    m.questions.length = m.records.length + 1 := by
  have hlow := le_of_header (Dns.message_eq_some.mp hm).1
  obtain ⟨p, hp, hquestions, hrecords⟩ := records_replyTo ipResolved hm
  have hall := answers_replyTo ipResolved hm hr hquestions
  rcases Nat.lt_or_ge m.records.length m.questions.length with hmore | hless
  · obtain ⟨j, hj⟩ := Nat.exists_eq_add_of_lt hmore
    cases hqs : m.questions with
    | nil =>
      rw [hqs] at hmore
      exact absurd hmore (Nat.not_lt_zero _)
    | cons q qs =>
      -- the records come first, then the answer, and nothing is left for any more
      rw [hj, Nat.add_assoc, Nat.add_comm j] at hall
      obtain ⟨as, bs, p₄, has, hbs, -⟩ := Dns.many_split hall
      obtain ⟨cs, ds, p₅, hcs, hds, -⟩ := Dns.many_split hbs
      rw [hrecords, Option.some.injEq, Prod.mk.injEq] at has
      obtain ⟨-, rfl⟩ := has
      rw [Dns.many_one (answer_replyTo ipResolved hm hqs), Option.some.injEq,
        Prod.mk.injEq] at hcs
      obtain ⟨-, rfl⟩ := hcs
      cases j with
      | zero =>
        rw [← hqs, hj]
      | succ j =>
        obtain ⟨d, p₆, hd, -⟩ := Dns.bind_eq_some.mp hds
        rw [record_past_end (Nat.le_of_eq (length_replyTo ipResolved hlow))] at hd
        cases hd
  · -- the answers would end with a record of the query
    obtain ⟨j, hj⟩ := Nat.exists_eq_add_of_le hless
    rw [hj] at hrecords
    obtain ⟨as, bs, p₄, has, hbs, -⟩ := Dns.many_split hrecords
    rw [hall, Option.some.injEq, Prod.mk.injEq] at has
    obtain ⟨-, rfl⟩ := has
    have hback := ((Dns.follows_record (extends_self (replyTo ipResolved query))).many j _ _ _
      (Nat.le_trans hlow (Nat.le_add_right _ 16)) hbs).2
    omega

/-- **A query is answered exactly if it has one question more than it has records**, and so,
with one question, if it has no records. -/
theorem answered_iff (ipResolved : BitVec 32) (response : Buffer Byte 96)
    (hm : message query = some m) (hlen : query.length ≤ 79) :
    Answered ipResolved response query m ↔ m.questions.length = m.records.length + 1 := by
  have hheader := (Dns.message_eq_some.mp hm).1
  obtain ⟨response', hreply⟩ := dnsServer_eq ipResolved response (le_of_header hheader)
    (Nat.lt_succ_of_le hlen)
  constructor
  · rintro ⟨reply, response'', r, hsent, hr, -⟩
    rw [hreply, Option.some.injEq, Prod.mk.injEq, Option.some.injEq] at hsent
    obtain ⟨rfl, -⟩ := hsent
    exact count_of_message_replyTo ipResolved hm hr
  · intro hcount
    cases hqs : m.questions with
    | nil =>
      rw [hqs] at hcount
      cases hcount
    | cons q qs =>
      have hr := message_replyTo ipResolved hm hqs hcount
      obtain ⟨hqd, han, hns, har⟩ := Dns.counts_of_message hr
      refine ⟨_, _, _, hreply, hr, ?_⟩
      exact {
        id := rfl
        questions := rfl
        qr := rfl
        aa := rfl
        qdcount := hqd.symm
        ancount := han.symm
        nscount := hns.symm
        arcount := har.symm
        answer := by
          intro q' hq'
          rw [hqs, List.cons.injEq] at hq'
          obtain ⟨rfl, rfl⟩ := hq'
          have hnone : m.records = [] := by
            rw [hqs] at hcount
            exact List.length_eq_zero_iff.mp (Nat.succ.inj hcount).symm
          rw [hnone, List.nil_append] }

/-- A query for the address of `a`. -/
def plainQuery : List Byte := [0, 7, 1, 0, 0, 1, 0, 0, 0, 0, 0, 0, 1, 0x61, 0, 0, 1, 0, 1]

theorem answered_plain : ∃ m, message plainQuery = some m ∧
    (Answered 0x01000a0a (.fill 96 0) plainQuery m ↔
      m.questions.length = m.records.length + 1) := by
  obtain ⟨m, hm⟩ := Option.isSome_iff_exists.mp
    (show (message plainQuery).isSome = true by decide +kernel)
  exact ⟨m, hm, answered_iff 0x01000a0a (.fill 96 0) hm (by decide)⟩

/-- The same query with an additional record of type OPT. -/
def ednsQuery : List Byte :=
  [0, 7, 1, 0, 0, 1, 0, 0, 0, 0, 0, 1, 1, 0x61, 0, 0, 1, 0, 1, 0, 0, 41, 16, 0, 0, 0, 0, 0, 0, 0]

theorem not_answered : ¬ ∀ (ipResolved : BitVec 32) (response : Buffer Byte 96)
    (query : List Byte) (m : Message), message query = some m → query.length ≤ 79 →
      Answered ipResolved response query m := by
  intro h
  obtain ⟨m, hm⟩ := Option.isSome_iff_exists.mp
    (show (message ednsQuery).isSome = true by decide +kernel)
  have hlow : 12 ≤ ednsQuery.length := by decide
  obtain ⟨response', hreply⟩ := dnsServer_eq 0 (.fill 96 0) hlow (by decide)
  obtain ⟨reply, response'', r, hsent, hr, -⟩ := h 0 (.fill 96 0) ednsQuery m hm (by decide)
  rw [hreply, Option.some.injEq, Prod.mk.injEq, Option.some.injEq] at hsent
  obtain ⟨rfl, -⟩ := hsent
  have hunread : message (replyTo 0 ednsQuery) = none := by decide +kernel
  rw [hunread] at hr
  cases hr

end Datk.Dns
