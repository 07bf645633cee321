import Mathlib.Algebra.Ring.Nat
import Mathlib.Data.List.Basic
import Mathlib.Tactic.Common

/-!
# The message format of DNS

A message is a header of twelve octets and four sections: questions, answers, authorities
and additional records, as many of each as the header says.  A name is a sequence of
labels up to an empty one, or up to a pointer to an earlier place of the message, where
it goes on.

`message` reads a text that is one message.  A pointer has to go to a place behind the
header and before the labels that lead to it, so that following it ends:
`labels_of_fuel` says that the fuel of the reader does not matter.

`Extends` is a message with another header and something appended; what was read behind
the header of the first is read in the second too, `follows_record`.
-/

namespace Lib.Dns

abbrev Octet := BitVec 8

/-- Reads from a position of a message on, and returns where it has stopped. -/
abbrev Read (α : Type) := StateT Nat Option α

variable {α β : Type}

/-! ### The grammar -/

def octets (msg : List Octet) (n : Nat) : Read (List Octet) := fun pos =>
  if pos + n ≤ msg.length then some ((msg.drop pos).take n, pos + n) else none

/-- A number in network order. -/
def value (os : List Octet) : Nat := os.foldl (fun n c => 256 * n + c.toNat) 0

def number (msg : List Octet) (n : Nat) : Read Nat := do
  let os ← octets msg n
  return value os

abbrev Name := List (List Octet)

/-- The labels of a name, of which the first ones begin at `start`. -/
def labels (msg : List Octet) : Nat → Nat → Read Name
  | 0, _ => fun _ => none
  | fuel + 1, start => do
    let c ← number msg 1
    if c = 0 then return []
    else if c < 64 then
      let label ← octets msg c
      let rest ← labels msg fuel start
      return label :: rest
    else if 192 ≤ c then
      let d ← number msg 1
      let target := 256 * (c - 192) + d
      fun pos =>
        if 12 ≤ target ∧ target < start then
          (labels msg fuel target target).map fun r => (r.1, pos)
        else none
    else fun _ => none

/-- The octets of a name that is written without a pointer. -/
def nameLength (name : Name) : Nat := (name.map fun label => label.length + 1).sum + 1

def name (msg : List Octet) : Read Name := do
  let start ← get
  let name ← labels msg ((msg.length + 1) * (msg.length + 1)) start
  if nameLength name ≤ 255 then return name else fun _ => none

structure Question where
  name : Name
  type : Nat
  cls : Nat
  deriving DecidableEq

def question (msg : List Octet) : Read Question := do
  let name ← name msg
  let type ← number msg 2
  let cls ← number msg 2
  return ⟨name, type, cls⟩

structure Record where
  name : Name
  type : Nat
  cls : Nat
  ttl : Nat
  rdata : List Octet
  deriving DecidableEq

def record (msg : List Octet) : Read Record := do
  let name ← name msg
  let type ← number msg 2
  let cls ← number msg 2
  let ttl ← number msg 4
  let rdlength ← number msg 2
  let rdata ← octets msg rdlength
  return ⟨name, type, cls, ttl, rdata⟩

def many (read : Read α) : Nat → Read (List α)
  | 0 => return []
  | n + 1 => do
    let a ← read
    let as ← many read n
    return a :: as

structure Header where
  id : Nat
  qr : Bool
  opcode : BitVec 4
  aa : Bool
  tc : Bool
  rd : Bool
  ra : Bool
  z : BitVec 3
  rcode : BitVec 4
  qdcount : Nat
  ancount : Nat
  nscount : Nat
  arcount : Nat
  deriving DecidableEq

def header : List Octet → Option Header
  | i₁ :: i₀ :: f :: g :: q₁ :: q₀ :: a₁ :: a₀ :: n₁ :: n₀ :: r₁ :: r₀ :: _ =>
    some {
      id := value [i₁, i₀]
      qr := f.getLsbD 7
      opcode := f.extractLsb' 3 4
      aa := f.getLsbD 2
      tc := f.getLsbD 1
      rd := f.getLsbD 0
      ra := g.getLsbD 7
      z := g.extractLsb' 4 3
      rcode := g.extractLsb' 0 4
      qdcount := value [q₁, q₀]
      ancount := value [a₁, a₀]
      nscount := value [n₁, n₀]
      arcount := value [r₁, r₀] }
  | _ => none

structure Message where
  header : Header
  questions : List Question
  answers : List Record
  authorities : List Record
  additionals : List Record
  deriving DecidableEq

/-- The records of all sections. -/
def Message.records (m : Message) : List Record := m.answers ++ m.authorities ++ m.additionals

def sections (msg : List Octet) (h : Header) : Read Message := do
  let questions ← many (question msg) h.qdcount
  let answers ← many (record msg) h.ancount
  let authorities ← many (record msg) h.nscount
  let additionals ← many (record msg) h.arcount
  return ⟨h, questions, answers, authorities, additionals⟩

/-- **A text that is one message.** -/
def message (msg : List Octet) : Option Message := do
  let h ← header msg
  let (m, pos) ← sections msg h 12
  if pos = msg.length then some m else none

/-! ### Reading step by step -/

theorem bind_eq_some {f : Read α} {g : α → Read β} {pos : Nat} {r : β × Nat} :
    (f >>= g) pos = some r ↔ ∃ a p, f pos = some (a, p) ∧ g a p = some r := by
  show (f pos).bind (fun s => g s.1 s.2) = some r ↔ _
  rw [Option.bind_eq_some_iff]
  constructor
  · rintro ⟨⟨a, p⟩, hf, hg⟩
    exact ⟨a, p, hf, hg⟩
  · rintro ⟨a, p, hf, hg⟩
    exact ⟨⟨a, p⟩, hf, hg⟩

theorem pure_eq_some {a : α} {pos : Nat} {r : α × Nat} :
    (pure a : Read α) pos = some r ↔ r = (a, pos) := by
  show some (a, pos) = some r ↔ _
  rw [Option.some.injEq, eq_comm]

theorem octets_eq_some {msg : List Octet} {n pos : Nat} {r : List Octet × Nat} :
    octets msg n pos = some r ↔
      pos + n ≤ msg.length ∧ r = ((msg.drop pos).take n, pos + n) := by
  rw [octets]
  split
  · rename_i h
    rw [Option.some.injEq, eq_comm]
    exact (and_iff_right h).symm
  · rename_i h
    exact iff_of_false (by simp) fun hr => h hr.1

/-- What stands at a position is read there. -/
theorem octets_at {msg os rest : List Octet} {pos : Nat} (h : msg.drop pos = os ++ rest)
    (hne : os ≠ []) : octets msg os.length pos = some (os, pos + os.length) := by
  have hpos := List.length_pos_iff.mpr hne
  have hlen := congrArg List.length h
  rw [List.length_drop, List.length_append] at hlen
  exact octets_eq_some.mpr ⟨by omega, by rw [h, List.take_left]⟩

theorem number_at {msg os rest : List Octet} {pos : Nat} (h : msg.drop pos = os ++ rest)
    (hne : os ≠ []) : number msg os.length pos = some (value os, pos + os.length) :=
  bind_eq_some.mpr ⟨os, _, octets_at h hne, pure_eq_some.mpr rfl⟩

theorem drop_at {msg os rest : List Octet} {pos : Nat} (h : msg.drop pos = os ++ rest) :
    msg.drop (pos + os.length) = rest := by
  rw [← List.drop_drop, h, List.drop_left]

/-- Many readings one after the other. -/
theorem many_append {read : Read α} {as bs : List α} {n k pos p q : Nat}
    (ha : many read n pos = some (as, p)) (hb : many read k p = some (bs, q)) :
    many read (n + k) pos = some (as ++ bs, q) := by
  induction n generalizing as pos with
  | zero =>
    cases ha
    rw [Nat.zero_add]
    exact hb
  | succ n ih =>
    obtain ⟨a, p₁, hread, ha⟩ := bind_eq_some.mp ha
    obtain ⟨as', p₂, hmany, ha⟩ := bind_eq_some.mp ha
    cases pure_eq_some.mp ha
    rw [Nat.add_right_comm, many]
    exact bind_eq_some.mpr ⟨a, p₁, hread, bind_eq_some.mpr
      ⟨as' ++ bs, q, ih hmany, pure_eq_some.mpr rfl⟩⟩

theorem many_split {read : Read α} {cs : List α} {n k pos q : Nat}
    (h : many read (n + k) pos = some (cs, q)) :
    ∃ as bs p, many read n pos = some (as, p) ∧ many read k p = some (bs, q) ∧ cs = as ++ bs := by
  induction n generalizing cs pos with
  | zero =>
    rw [Nat.zero_add] at h
    exact ⟨[], cs, pos, rfl, h, rfl⟩
  | succ n ih =>
    rw [Nat.add_right_comm, many] at h
    obtain ⟨a, p₁, hread, h⟩ := bind_eq_some.mp h
    obtain ⟨cs', p₂, hmany, h⟩ := bind_eq_some.mp h
    cases pure_eq_some.mp h
    obtain ⟨as, bs, p, has, hbs, rfl⟩ := ih hmany
    exact ⟨a :: as, bs, p, bind_eq_some.mpr ⟨a, p₁, hread, bind_eq_some.mpr
      ⟨as, p, has, pure_eq_some.mpr rfl⟩⟩, hbs, rfl⟩

theorem many_one {read : Read α} {a : α} {pos p : Nat} (h : read pos = some (a, p)) :
    many read 1 pos = some ([a], p) :=
  bind_eq_some.mpr ⟨a, p, h, bind_eq_some.mpr ⟨[], p, rfl, pure_eq_some.mpr rfl⟩⟩

theorem length_many {read : Read α} {as : List α} {n pos p : Nat}
    (h : many read n pos = some (as, p)) : as.length = n := by
  induction n generalizing as pos with
  | zero =>
    cases h
    rfl
  | succ n ih =>
    obtain ⟨a, p₁, -, h⟩ := bind_eq_some.mp h
    obtain ⟨as', p₂, hmany, h⟩ := bind_eq_some.mp h
    cases pure_eq_some.mp h
    rw [List.length_cons, ih hmany]

theorem message_eq_some {msg : List Octet} {m : Message} :
    message msg = some m ↔ header msg = some m.header ∧ ∃ p₁ p₂ p₃,
      many (question msg) m.header.qdcount 12 = some (m.questions, p₁) ∧
      many (record msg) m.header.ancount p₁ = some (m.answers, p₂) ∧
      many (record msg) m.header.nscount p₂ = some (m.authorities, p₃) ∧
      many (record msg) m.header.arcount p₃ = some (m.additionals, msg.length) := by
  constructor
  · intro h
    obtain ⟨hd, hhead, h⟩ := Option.bind_eq_some_iff.mp h
    obtain ⟨⟨m', pos⟩, hsections, h⟩ := Option.bind_eq_some_iff.mp h
    obtain ⟨questions, p₁, hq, hsections⟩ := bind_eq_some.mp hsections
    obtain ⟨answers, p₂, ha, hsections⟩ := bind_eq_some.mp hsections
    obtain ⟨authorities, p₃, hn, hsections⟩ := bind_eq_some.mp hsections
    obtain ⟨additionals, p₄, hr, hsections⟩ := bind_eq_some.mp hsections
    cases pure_eq_some.mp hsections
    simp only at h
    split at h
    · rename_i hpos
      cases h
      exact ⟨hhead, p₁, p₂, p₃, hq, ha, hn, hpos ▸ hr⟩
    · cases h
  · rintro ⟨hhead, p₁, p₂, p₃, hq, ha, hn, hr⟩
    have hsections : sections msg m.header 12 = some (m, msg.length) :=
      bind_eq_some.mpr ⟨_, p₁, hq, bind_eq_some.mpr ⟨_, p₂, ha, bind_eq_some.mpr ⟨_, p₃, hn,
        bind_eq_some.mpr ⟨_, _, hr, rfl⟩⟩⟩⟩
    simp only [message, hhead, hsections, Option.bind_eq_bind, Option.bind_some, if_true]

/-- The counts of the header are those of the sections. -/
theorem counts_of_message {msg : List Octet} {m : Message} (h : message msg = some m) :
    m.questions.length = m.header.qdcount ∧ m.answers.length = m.header.ancount ∧
      m.authorities.length = m.header.nscount ∧ m.additionals.length = m.header.arcount := by
  obtain ⟨-, p₁, p₂, p₃, hq, ha, hn, hr⟩ := message_eq_some.mp h
  exact ⟨length_many hq, length_many ha, length_many hn, length_many hr⟩

/-- The records of all sections are one sequence up to the end. -/
theorem records_of_message {msg : List Octet} {m : Message} (h : message msg = some m) :
    ∃ p, many (question msg) m.questions.length 12 = some (m.questions, p) ∧
      many (record msg) m.records.length p = some (m.records, msg.length) := by
  obtain ⟨hqd, han, hns, har⟩ := counts_of_message h
  obtain ⟨-, p₁, p₂, p₃, hq, ha, hn, hr⟩ := message_eq_some.mp h
  refine ⟨p₁, hqd ▸ hq, ?_⟩
  rw [Message.records, List.length_append, List.length_append, han, hns, har]
  exact many_append (many_append ha hn) hr

/-! ### Names -/

/-- How labels begin: with the empty one, with another one, or with a pointer. -/
inductive LabelsStep (msg : List Octet) (fuel start pos : Nat) : Name → Nat → Prop
  | root {p : Nat} (hc : number msg 1 pos = some (0, p)) : LabelsStep msg fuel start pos [] p
  | label {c p q next : Nat} {label : List Octet} {rest : Name}
    (hc : number msg 1 pos = some (c, p)) (hzero : c ≠ 0) (hlt : c < 64)
    (hlabel : octets msg c p = some (label, q))
    (hrest : labels msg fuel start q = some (rest, next)) :
    LabelsStep msg fuel start pos (label :: rest) next
  | pointer {c d p q next target : Nat} {name : Name}
    (hc : number msg 1 pos = some (c, p)) (hle : 192 ≤ c)
    (hd : number msg 1 p = some (d, next)) (htarget : target = 256 * (c - 192) + d)
    (hlow : 12 ≤ target) (hback : target < start)
    (hname : labels msg fuel target target = some (name, q)) :
    LabelsStep msg fuel start pos name next

theorem labels_succ {msg : List Octet} {fuel start pos next : Nat} {n : Name} :
    labels msg (fuel + 1) start pos = some (n, next) ↔ LabelsStep msg fuel start pos n next := by
  constructor
  · intro h
    obtain ⟨c, p, hc, h⟩ := bind_eq_some.mp h
    split at h
    · rename_i hzero
      cases pure_eq_some.mp h
      exact .root (hzero ▸ hc)
    rename_i hzero
    split at h
    · rename_i hlt
      obtain ⟨label, q, hlabel, h⟩ := bind_eq_some.mp h
      obtain ⟨rest, q', hrest, h⟩ := bind_eq_some.mp h
      cases pure_eq_some.mp h
      exact .label hc hzero hlt hlabel hrest
    split at h
    · rename_i hle
      obtain ⟨d, q, hd, h⟩ := bind_eq_some.mp h
      split at h
      · rename_i htarget
        obtain ⟨⟨name, q'⟩, hname, hr⟩ := Option.map_eq_some_iff.mp h
        cases hr
        exact .pointer hc hle hd rfl htarget.1 htarget.2 hname
      · cases h
    · cases h
  · rintro (hc | ⟨hc, hzero, hlt, hlabel, hrest⟩ | ⟨hc, hle, hd, rfl, hlow, hback, hname⟩)
    · exact bind_eq_some.mpr ⟨0, _, hc, rfl⟩
    · refine bind_eq_some.mpr ⟨_, _, hc, ?_⟩
      rw [if_neg hzero, if_pos hlt]
      exact bind_eq_some.mpr ⟨_, _, hlabel, bind_eq_some.mpr ⟨_, _, hrest, rfl⟩⟩
    · refine bind_eq_some.mpr ⟨_, _, hc, ?_⟩
      rw [if_neg (by omega), if_neg (by omega), if_pos hle]
      refine bind_eq_some.mpr ⟨_, _, hd, ?_⟩
      show (if _ then (labels msg fuel _ _).map _ else none) = _
      rw [if_pos ⟨hlow, hback⟩, hname]
      rfl

/-- What is read is there, and the reader stops behind it. -/
theorem number_eq_some {msg : List Octet} {k pos c p : Nat}
    (h : number msg k pos = some (c, p)) : pos + k ≤ msg.length ∧ p = pos + k := by
  obtain ⟨os, q, hos, hp⟩ := bind_eq_some.mp h
  obtain ⟨hlen, hos⟩ := octets_eq_some.mp hos
  cases hos
  cases pure_eq_some.mp hp
  exact ⟨hlen, rfl⟩

theorem lt_of_labels {msg : List Octet} {fuel start pos next : Nat} {n : Name}
    (h : labels msg fuel start pos = some (n, next)) : pos < msg.length := by
  cases fuel with
  | zero => cases h
  | succ fuel =>
    obtain ⟨c, p, hc, -⟩ := bind_eq_some.mp h
    exact (number_eq_some hc).1

/-- The steps that a name can take: each pointer lowers `start`. -/
def enough (msg : List Octet) (start pos : Nat) : Nat :=
  start * (msg.length + 1) + (msg.length - pos) + 1

/-- **The fuel does not matter**, if there is enough of it. -/
theorem labels_of_fuel {msg : List Octet} {fuel : Nat} : ∀ {start pos next fuel' : Nat}
    {n : Name}, labels msg fuel start pos = some (n, next) → enough msg start pos ≤ fuel' →
      labels msg fuel' start pos = some (n, next) := by
  induction fuel with
  | zero =>
    intro start pos next fuel' n h _
    cases h
  | succ fuel ih =>
    intro start pos next fuel' n h hfuel
    rw [enough] at hfuel
    obtain ⟨fuel', rfl⟩ : ∃ k, fuel' = k + 1 := ⟨fuel' - 1, by omega⟩
    refine labels_succ.mpr ?_
    cases labels_succ.mp h with
    | root hc => exact .root hc
    | label hc hzero hlt hlabel hrest =>
      refine .label hc hzero hlt hlabel (ih hrest ?_)
      obtain ⟨hlen, rfl⟩ := number_eq_some hc
      cases (octets_eq_some.mp hlabel).2
      rw [enough]
      omega
    | pointer hc hle hd htarget hlow hback hname =>
      refine .pointer hc hle hd htarget hlow hback (ih hname ?_)
      have hmul := Nat.mul_le_mul_right (msg.length + 1) hback
      rw [Nat.succ_mul] at hmul
      rw [enough]
      omega

theorem enough_le {msg : List Octet} {pos : Nat} (h : pos < msg.length) :
    enough msg pos pos ≤ (msg.length + 1) * (msg.length + 1) := by
  have hmul := Nat.mul_le_mul_right (msg.length + 1) h
  rw [Nat.succ_mul] at hmul
  rw [enough, Nat.succ_mul]
  omega

/-- A name is what can be read with any fuel. -/
theorem name_eq_some {msg : List Octet} {pos next : Nat} {n : Name} :
    name msg pos = some (n, next) ↔
      (∃ fuel, labels msg fuel pos pos = some (n, next)) ∧ nameLength n ≤ 255 := by
  constructor
  · intro h
    obtain ⟨start, p, hget, h⟩ := bind_eq_some.mp h
    cases hget
    obtain ⟨n', q, hlabels, h⟩ := bind_eq_some.mp h
    split at h
    · rename_i hlen
      cases pure_eq_some.mp h
      exact ⟨⟨_, hlabels⟩, hlen⟩
    · cases h
  · rintro ⟨⟨fuel, hlabels⟩, hlen⟩
    have hall := labels_of_fuel hlabels (enough_le (lt_of_labels hlabels))
    refine bind_eq_some.mpr ⟨pos, pos, rfl, bind_eq_some.mpr ⟨n, next, hall, ?_⟩⟩
    rw [if_pos hlen]
    rfl

/-- A name that is a pointer to another one. -/
theorem name_pointer {msg rest : List Octet} {pos target next : Nat} {n : Name} {c d : Octet}
    (h : msg.drop pos = [c, d] ++ rest) (hc : 192 ≤ c.toNat)
    (htarget : target = 256 * (c.toNat - 192) + d.toNat) (hlow : 12 ≤ target) (hlt : target < pos)
    (hname : name msg target = some (n, next)) : name msg pos = some (n, pos + 2) := by
  obtain ⟨⟨fuel, hlabels⟩, hlen⟩ := name_eq_some.mp hname
  have hfirst : number msg 1 pos = some (c.toNat, pos + 1) := by
    have hread : number msg [c].length pos = some (value [c], pos + [c].length) :=
      number_at h (List.cons_ne_nil _ _)
    simpa [value] using hread
  have hsecond : number msg 1 (pos + 1) = some (d.toNat, pos + 2) := by
    have hrest : msg.drop (pos + [c].length) = [d] ++ rest := drop_at h
    have hread : number msg [d].length (pos + 1) = some (value [d], pos + 1 + [d].length) :=
      number_at hrest (List.cons_ne_nil _ _)
    simpa [value] using hread
  exact name_eq_some.mpr
    ⟨⟨fuel + 1, labels_succ.mpr (.pointer hfirst hc hsecond htarget hlow hlt hlabels)⟩, hlen⟩

/-! ### A message that another one extends -/

structure Extends (msg msg' : List Octet) : Prop where
  body : ∃ tail, msg'.drop 12 = msg.drop 12 ++ tail
  length_le : msg.length ≤ msg'.length

/-- `g` reads what `f` does behind the header, and does not go back. -/
def Follows (f g : Read α) : Prop :=
  ∀ pos a next, 12 ≤ pos → f pos = some (a, next) → g pos = some (a, next) ∧ pos ≤ next

theorem follows_pure (a : α) : Follows (pure a : Read α) (pure a) := by
  intro pos b next _ h
  cases pure_eq_some.mp h
  exact ⟨rfl, Nat.le_refl pos⟩

theorem follows_none (g : Read α) : Follows (fun _ => none) g := by
  intro pos b next _ h
  cases h

theorem Follows.bind {f g : Read α} {h k : α → Read β} (hf : Follows f g)
    (hk : ∀ a, Follows (h a) (k a)) : Follows (f >>= h) (g >>= k) := by
  intro pos b next hpos hread
  obtain ⟨a, p, hp, hread⟩ := bind_eq_some.mp hread
  obtain ⟨hg, hle⟩ := hf pos a p hpos hp
  obtain ⟨hnext, hle'⟩ := hk a p b next (Nat.le_trans hpos hle) hread
  exact ⟨bind_eq_some.mpr ⟨a, p, hg, hnext⟩, Nat.le_trans hle hle'⟩

theorem Follows.many {f g : Read α} (hf : Follows f g) (n : Nat) :
    Follows (many f n) (many g n) := by
  induction n with
  | zero => exact follows_pure []
  | succ n ih => exact hf.bind fun a => ih.bind fun as => follows_pure (a :: as)

section

variable {msg msg' : List Octet} (h : Extends msg msg')

include h

theorem follows_octets (n : Nat) : Follows (octets msg n) (octets msg' n) := by
  intro pos os next hpos hread
  obtain ⟨hlen, hr⟩ := octets_eq_some.mp hread
  cases hr
  obtain ⟨tail, htail⟩ := h.body
  obtain ⟨k, rfl⟩ := Nat.exists_eq_add_of_le hpos
  have hsame : (msg'.drop (12 + k)).take n = (msg.drop (12 + k)).take n := by
    have hk : k ≤ (msg.drop 12).length := by
      rw [List.length_drop]
      omega
    have hn : n ≤ ((msg.drop 12).drop k).length := by
      rw [List.length_drop, List.length_drop]
      omega
    rw [← List.drop_drop, ← List.drop_drop, htail, List.drop_append_of_le_length hk,
      List.take_append_of_le_length hn]
  exact ⟨octets_eq_some.mpr ⟨Nat.le_trans hlen h.length_le, by rw [hsame]⟩, Nat.le_add_right _ n⟩

theorem follows_number (n : Nat) : Follows (number msg n) (number msg' n) :=
  (follows_octets h n).bind fun os => follows_pure (value os)

theorem follows_labels (fuel : Nat) : ∀ start,
    Follows (labels msg fuel start) (labels msg' fuel start) := by
  induction fuel with
  | zero =>
    intro start
    exact follows_none _
  | succ fuel ih =>
    intro start pos n next hpos hread
    suffices hstep : LabelsStep msg' fuel start pos n next ∧ pos ≤ next from
      ⟨labels_succ.mpr hstep.1, hstep.2⟩
    cases labels_succ.mp hread with
    | root hc =>
      obtain ⟨hc', hp⟩ := follows_number h 1 _ _ _ hpos hc
      exact ⟨.root hc', hp⟩
    | label hc hzero hlt hlabel hrest =>
      obtain ⟨hc', hp⟩ := follows_number h 1 _ _ _ hpos hc
      obtain ⟨hlabel', hq⟩ := follows_octets h _ _ _ _ (Nat.le_trans hpos hp) hlabel
      have hpq := Nat.le_trans hp hq
      obtain ⟨hrest', hnext⟩ := ih start _ _ _ (Nat.le_trans hpos hpq) hrest
      exact ⟨.label hc' hzero hlt hlabel' hrest', Nat.le_trans hpq hnext⟩
    | pointer hc hle hd htarget hlow hback hname =>
      obtain ⟨hc', hp⟩ := follows_number h 1 _ _ _ hpos hc
      obtain ⟨hd', hnext⟩ := follows_number h 1 _ _ _ (Nat.le_trans hpos hp) hd
      obtain ⟨hname', -⟩ := ih _ _ _ _ hlow hname
      exact ⟨.pointer hc' hle hd' htarget hlow hback hname', Nat.le_trans hp hnext⟩

theorem follows_name : Follows (name msg) (name msg') := by
  intro pos n next hpos hread
  obtain ⟨⟨fuel, hlabels⟩, hlen⟩ := name_eq_some.mp hread
  obtain ⟨hsame, hle⟩ := follows_labels h fuel pos pos n next hpos hlabels
  exact ⟨name_eq_some.mpr ⟨⟨fuel, hsame⟩, hlen⟩, hle⟩

theorem follows_question : Follows (question msg) (question msg') :=
  (follows_name h).bind fun name => (follows_number h 2).bind fun type =>
    (follows_number h 2).bind fun cls => follows_pure (Question.mk name type cls)

theorem follows_record : Follows (record msg) (record msg') :=
  (follows_name h).bind fun name => (follows_number h 2).bind fun type =>
    (follows_number h 2).bind fun cls => (follows_number h 4).bind fun ttl =>
      (follows_number h 2).bind fun rdlength => (follows_octets h rdlength).bind fun rdata =>
        follows_pure (Record.mk name type cls ttl rdata)

end

end Lib.Dns
