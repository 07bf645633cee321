import Datk.Basic
import Datk.Lib.Buffer

/-!
# The name server of the access point

`dns_server` of `common/wifi_manager/src/dns_server.c` answers every query with the
address of the access point, so that a browser ends up on its page.  It reads a datagram
into `data`, copies it to `response` with another header, and appends one answer.

The length is checked for `response`, and against zero.  So two kinds of datagrams are let
through that should not be.  One of 80 bytes leaves `data` no room for its terminator, and
where one is shorter than the header, the number of bytes behind the header wraps around.
`inBounds_iff` says that there are no others.
-/

namespace Datk.Dns

open Lib

/-! ### The structures -/

/-- A `uint16_t` in memory. -/
def cells16 (v : BitVec 16) : List Byte := [v.extractLsb' 0 8, v.extractLsb' 8 8]

def cells32 (v : BitVec 32) : List Byte :=
  cells16 (v.extractLsb' 0 16) ++ cells16 (v.extractLsb' 16 16)

def bswap16 (v : BitVec 16) : BitVec 16 := v.extractLsb' 0 8 ++ v.extractLsb' 8 8

/-- `dns_header_t`. -/
structure DnsHeader where
  id : BitVec 16
  rd : BitVec 1
  tc : BitVec 1
  aa : BitVec 1
  opCode : BitVec 4
  qr : BitVec 1
  rCode : BitVec 4
  z : BitVec 3
  ra : BitVec 1
  qdCount : BitVec 16
  anCount : BitVec 16
  nsCount : BitVec 16
  arCount : BitVec 16
  deriving DecidableEq

/-- The header that twelve bytes are. -/
def dnsHeader (cells : List Byte) : DnsHeader :=
  let c := fun i => cells.getD i 0
  { id := c 1 ++ c 0
    rd := (c 2).extractLsb' 0 1
    tc := (c 2).extractLsb' 1 1
    aa := (c 2).extractLsb' 2 1
    opCode := (c 2).extractLsb' 3 4
    qr := (c 2).extractLsb' 7 1
    rCode := (c 3).extractLsb' 0 4
    z := (c 3).extractLsb' 4 3
    ra := (c 3).extractLsb' 7 1
    qdCount := c 5 ++ c 4
    anCount := c 7 ++ c 6
    nsCount := c 9 ++ c 8
    arCount := c 11 ++ c 10 }

/-- The twelve bytes of a header. -/
def DnsHeader.cells (h : DnsHeader) : List Byte :=
  cells16 h.id ++ [h.qr ++ h.opCode ++ h.aa ++ h.tc ++ h.rd, h.ra ++ h.z ++ h.rCode] ++
    cells16 h.qdCount ++ cells16 h.anCount ++ cells16 h.nsCount ++ cells16 h.arCount

/-- What is assigned to the header of the response. -/
def DnsHeader.respond (h : DnsHeader) : DnsHeader :=
  { h with
    qr := 1
    opCode := 0
    aa := 1
    rCode := 0
    tc := 0
    rd := 0
    anCount := h.qdCount
    nsCount := 0
    arCount := 0 }

/-- `dns_answer_t`, as it is filled in. -/
def dnsAnswer (ipResolved : BitVec 32) : List Byte :=
  cells16 (bswap16 0xC00C) ++ cells16 (bswap16 1) ++ cells16 (bswap16 1) ++ cells32 0 ++
    cells16 (bswap16 4) ++ cells32 ipResolved

/-! ### The loop -/

/-- `length`, for a datagram, or an error. -/
def receivedLength : Option (List Byte) → Int
  | some datagram => (datagram.take 80).length
  | none => -1

/-- `recvfrom`, which cuts off what `data` has no room for. -/
def recvfrom (data : Buffer Byte 80) : Option (List Byte) → Option (Buffer Byte 80)
  | some datagram => data.write 0 (datagram.take 80)
  | none => some data

/-- `length + sizeof(dns_answer_t)-1`. -/
def answerEnd (length : Int) : BitVec 32 := .ofInt 32 length + 16 - 1

/-- `length - sizeof(dns_header_t)`. -/
def bodySize (length : Int) : BitVec 32 := .ofInt 32 length - 12

/-- The length that is processed. -/
def Accepted (length : Int) : Prop := length > 0 ∧ (answerEnd length).toNat < 96

instance (length : Int) : Decidable (Accepted length) := inferInstanceAs (Decidable (_ ∧ _))

/-- The loop over the domain name, on the bytes of `data` from its first character on. -/
def replaceSpecial : List Byte → Option (List Byte)
  | [] => none
  | c :: s =>
    if c = 0 then some (c :: s)
    else
      (replaceSpecial s).map fun s =>
        (if c.toNat < 0x20 ∨ 0x7a < c.toNat then 0x2e else c) :: s

/-- The body of the loop of `dns_server`: the bytes that are sent, if any, or `none` where
a load or store is outside of `data` or `response`. -/
def dnsServer (ipResolved : BitVec 32) (response : Buffer Byte 96)
    (datagram : Option (List Byte)) : Option (Option (List Byte) × Buffer Byte 96) := do
  let data ← recvfrom (.fill 80 0) datagram
  let length := receivedLength datagram
  if Accepted length then
    let data ← data.write length.toNat [0]
    let head ← data.read 0 12
    let response ← response.write 0 head
    let response ← response.write 0 (dnsHeader head).respond.cells
    let body ← data.read 12 (bodySize length).toNat
    let response ← response.write 12 body
    let _domain ← replaceSpecial (data.cells.drop 13)
    let response ← response.write length.toNat (dnsAnswer ipResolved)
    let reply ← response.read 0 (length.toNat + 16)
    return (some reply, response)
  else
    return (none, response)

/-- No load or store is outside of its array, and no size wraps around. -/
structure InBounds (ipResolved : BitVec 32) (response : Buffer Byte 96)
    (datagram : Option (List Byte)) : Prop where
  inside : (dnsServer ipResolved response datagram).isSome = true
  answerEnd : receivedLength datagram > 0 →
    ((answerEnd (receivedLength datagram)).toNat : Int) = receivedLength datagram + 15
  bodySize : Accepted (receivedLength datagram) →
    ((bodySize (receivedLength datagram)).toNat : Int) = receivedLength datagram - 12

/-! ### The sizes -/

theorem toNat_answerEnd {k : Nat} (h : k ≤ 80) : (answerEnd k).toNat = k + 15 := by
  rw [answerEnd, BitVec.ofInt_natCast]
  bv_omega

theorem toNat_bodySize {k : Nat} (h : 12 ≤ k) (h' : k ≤ 80) : (bodySize k).toNat = k - 12 := by
  rw [bodySize, BitVec.ofInt_natCast]
  bv_omega

/-- The size that has wrapped around. -/
theorem lt_toNat_bodySize {k : Nat} (h : k < 12) : 80 < (bodySize k).toNat := by
  rw [bodySize, BitVec.ofInt_natCast]
  bv_omega

theorem accepted_iff {k : Nat} (h : k ≤ 80) : Accepted k ↔ 0 < k := by
  rw [Accepted, toNat_answerEnd h]
  omega

theorem length_cells (h : DnsHeader) : h.cells.length = 12 := rfl

theorem length_dnsAnswer (ipResolved : BitVec 32) : (dnsAnswer ipResolved).length = 16 := rfl

/-! ### What stays inside -/

/-- The loop stops at a terminator, and at nothing else. -/
theorem isSome_replaceSpecial (s : List Byte) : (replaceSpecial s).isSome = true ↔ 0 ∈ s := by
  induction s with
  | nil => exact iff_of_false Bool.false_ne_true List.not_mem_nil
  | cons c s ih =>
    rw [replaceSpecial, List.mem_cons]
    by_cases hc : c = 0
    · rw [if_pos hc]
      exact iff_of_true rfl (.inl hc.symm)
    · rw [if_neg hc, Option.isSome_map, ih]
      exact ⟨.inr, fun h => h.resolve_left fun h => hc h.symm⟩

/-- What has been accepted is in `data` with a terminator, and the size of its rest has not
wrapped around. -/
theorem of_isSome_dnsServer {ipResolved : BitVec 32} {response : Buffer Byte 96}
    {datagram : Option (List Byte)}
    (h : (dnsServer ipResolved response datagram).isSome = true)
    (haccepted : Accepted (receivedLength datagram)) :
    (receivedLength datagram).toNat + 1 ≤ 80 ∧
      12 + (bodySize (receivedLength datagram)).toNat ≤ 80 := by
  obtain ⟨r, h⟩ := Option.isSome_iff_exists.mp h
  obtain ⟨data, -, h⟩ := Option.bind_eq_some_iff.mp h
  rw [if_pos haccepted] at h
  obtain ⟨data, hdata, h⟩ := Option.bind_eq_some_iff.mp h
  obtain ⟨head, -, h⟩ := Option.bind_eq_some_iff.mp h
  obtain ⟨response, -, h⟩ := Option.bind_eq_some_iff.mp h
  obtain ⟨response, -, h⟩ := Option.bind_eq_some_iff.mp h
  obtain ⟨body, hbody, -⟩ := Option.bind_eq_some_iff.mp h
  exact ⟨Buffer.le_of_write hdata, Buffer.le_of_read hbody⟩

/-- The bytes that are sent. -/
def replyTo (ipResolved : BitVec 32) (query : List Byte) : List Byte :=
  (dnsHeader (query.take 12)).respond.cells ++ (query.drop 12 ++ dnsAnswer ipResolved)

theorem receivedLength_of_lt {query : List Byte} (h : query.length < 80) :
    receivedLength (some query) = query.length := by
  rw [receivedLength, List.take_of_length_le (Nat.le_of_lt h)]

/-- `data`, which its terminator does not change. -/
theorem exists_data {query : List Byte} (h : query.length < 80) :
    ∃ data, recvfrom (.fill 80 0) (some query) = some data ∧
      data.write query.length [0] = some data ∧
      data.cells = query ++ 0 :: List.replicate (79 - query.length) 0 := by
  have htake : query.take 80 = query := List.take_of_length_le (Nat.le_of_lt h)
  have hfit : query.length + [(0 : Byte)].length ≤ 80 := h
  have hzeros : List.replicate (80 - query.length) (0 : Byte) =
      0 :: List.replicate (79 - query.length) 0 := by
    rw [← List.replicate_succ]
    congr 1
    omega
  have hquery : 0 + query.length ≤ 80 := by omega
  obtain ⟨data, hdata, hcells⟩ := (Buffer.fill 80 (0 : Byte)).write_of_le hquery
  rw [List.take_zero, List.nil_append, Nat.zero_add, Buffer.fill, List.drop_replicate,
    hzeros] at hcells
  obtain ⟨data', hdata', hcells'⟩ := data.write_of_le hfit
  have hsame : data'.cells = data.cells := by
    rw [hcells', hcells, List.take_left, List.append_assoc, ← List.drop_drop, List.drop_left]
    rfl
  refine ⟨data, by rw [recvfrom, htake, hdata], ?_, hcells⟩
  rw [hdata', Option.some.injEq]
  cases data
  cases data'
  congr

/-- The scan of the domain name ends at the last byte of `data`, if not before. -/
theorem exists_domain {query : List Byte} {data : Buffer Byte 80} (h : query.length < 80)
    (hcells : data.cells = query ++ 0 :: List.replicate (79 - query.length) 0) :
    ∃ domain, replaceSpecial (data.cells.drop 13) = some domain := by
  rw [← Option.isSome_iff_exists, isSome_replaceSpecial]
  have hlast : data.cells[79]? = some 0 := by
    rw [hcells, List.getElem?_append_right (by omega), ← List.replicate_succ,
      List.getElem?_replicate, if_pos (by omega)]
  rw [← List.getElem?_drop (i := 13) (j := 66)] at hlast
  exact List.mem_of_getElem? hlast

theorem length_replyTo (ipResolved : BitVec 32) {query : List Byte} (h : 12 ≤ query.length) :
    (replyTo ipResolved query).length = query.length + 16 := by
  rw [replyTo, List.length_append, List.length_append, List.length_drop, length_cells,
    length_dnsAnswer]
  omega

/-- The four stores to `response` are one of the whole reply. -/
theorem exists_response (ipResolved : BitVec 32) (response : Buffer Byte 96) {query : List Byte}
    (hlow : 12 ≤ query.length) (hhigh : query.length < 80) :
    ∃ r₁ r₂ r₃ r₄, response.write 0 (query.take 12) = some r₁ ∧
      r₁.write 0 (dnsHeader (query.take 12)).respond.cells = some r₂ ∧
      r₂.write 12 (query.drop 12) = some r₃ ∧
      r₃.write query.length (dnsAnswer ipResolved) = some r₄ ∧
      r₄.read 0 (query.length + 16) = some (replyTo ipResolved query) := by
  have hlen := length_replyTo ipResolved hlow
  have hbody : 12 + (query.drop 12).length = query.length := by
    rw [List.length_drop]
    omega
  have hhead : (query.take 12).length = 12 := by
    rw [List.length_take]
    omega
  have hstores : ((response.write 0 (query.take 12)).bind fun r =>
      (r.write 0 (dnsHeader (query.take 12)).respond.cells).bind fun r =>
        (r.write 12 (query.drop 12)).bind fun r => r.write query.length (dnsAnswer ipResolved)) =
          response.write 0 (replyTo ipResolved query) := by
    have hanswer : ∀ r : Buffer Byte 96, ((r.write 12 (query.drop 12)).bind fun r =>
        r.write query.length (dnsAnswer ipResolved)) =
          r.write 12 (query.drop 12 ++ dnsAnswer ipResolved) := by
      intro r
      have happend := r.write_append 12 (query.drop 12) (dnsAnswer ipResolved)
      rwa [hbody] at happend
    have hrest : ∀ r : Buffer Byte 96,
        ((r.write 0 (dnsHeader (query.take 12)).respond.cells).bind fun r =>
          r.write 12 (query.drop 12 ++ dnsAnswer ipResolved)) =
            r.write 0 (replyTo ipResolved query) := fun r =>
      r.write_append 0 (dnsHeader (query.take 12)).respond.cells _
    simp only [hanswer, hrest]
    exact response.write_bind_write 0 (k := 0) (Nat.zero_le _) (by omega)
  have hfit : 0 + (replyTo ipResolved query).length ≤ 96 := by omega
  obtain ⟨r₄, hwhole, -⟩ := response.write_of_le hfit
  rw [hwhole] at hstores
  obtain ⟨r₁, h₁, hstores⟩ := Option.bind_eq_some_iff.mp hstores
  obtain ⟨r₂, h₂, hstores⟩ := Option.bind_eq_some_iff.mp hstores
  obtain ⟨r₃, h₃, h₄⟩ := Option.bind_eq_some_iff.mp hstores
  refine ⟨r₁, r₂, r₃, r₄, h₁, h₂, h₃, h₄, ?_⟩
  rw [← hlen]
  exact Buffer.read_write hwhole

/-- **A query of 12 to 79 bytes is answered.** -/
theorem dnsServer_eq (ipResolved : BitVec 32) (response : Buffer Byte 96) {query : List Byte}
    (hlow : 12 ≤ query.length) (hhigh : query.length < 80) :
    ∃ response', dnsServer ipResolved response (some query) =
      some (some (replyTo ipResolved query), response') := by
  have haccepted : Accepted (query.length : Int) :=
    (accepted_iff (Nat.le_of_lt hhigh)).mpr (Nat.lt_of_lt_of_le (by decide) hlow)
  obtain ⟨data, hdata, hnul, hcells⟩ := exists_data hhigh
  obtain ⟨domain, hdomain⟩ := exists_domain hhigh hcells
  have hhead : data.read 0 12 = some (query.take 12) := by
    rw [Buffer.read_of_le _ (by decide), List.drop_zero, hcells,
      List.take_append_of_le_length hlow]
  have hbody : data.read 12 (query.length - 12) = some (query.drop 12) := by
    rw [Buffer.read_of_le _ (by omega), hcells, List.drop_append_of_le_length hlow,
      ← List.length_drop, List.take_left]
  obtain ⟨r₁, r₂, r₃, r₄, h₁, h₂, h₃, h₄, hreply⟩ :=
    exists_response ipResolved response hlow hhigh
  refine ⟨r₄, ?_⟩
  simp only [dnsServer, hdata, receivedLength_of_lt hhigh, if_pos haccepted, Int.toNat_natCast,
    toNat_bodySize hlow (Nat.le_of_lt hhigh), hnul, hhead, hbody, hdomain, h₁, h₂, h₃, h₄, hreply,
    Option.bind_eq_bind, Option.bind_some]
  rfl

theorem exists_recvfrom (datagram : Option (List Byte)) :
    ∃ data, recvfrom (.fill 80 0) datagram = some data := by
  cases datagram with
  | none => exact ⟨_, rfl⟩
  | some query =>
    have hfit : 0 + (query.take 80).length ≤ 80 := by
      rw [List.length_take]
      omega
    obtain ⟨data, hdata, -⟩ := (Buffer.fill 80 (0 : Byte)).write_of_le hfit
    exact ⟨data, hdata⟩

/-- Nothing is sent for an error, or for an empty datagram. -/
theorem dnsServer_ignored (ipResolved : BitVec 32) (response : Buffer Byte 96)
    {datagram : Option (List Byte)} (h : ¬ Accepted (receivedLength datagram)) :
    dnsServer ipResolved response datagram = some (none, response) := by
  obtain ⟨data, hdata⟩ := exists_recvfrom datagram
  simp only [dnsServer, hdata, if_neg h, Option.bind_eq_bind, Option.bind_some]
  rfl

theorem inBounds_of_ignored (ipResolved : BitVec 32) (response : Buffer Byte 96)
    {datagram : Option (List Byte)} (h : receivedLength datagram ≤ 0) :
    InBounds ipResolved response datagram := by
  have hignored : ¬ Accepted (receivedLength datagram) := fun haccepted =>
    absurd haccepted.1 (Int.not_lt.mpr h)
  exact {
    inside := by
      rw [dnsServer_ignored _ _ hignored]
      rfl
    answerEnd := fun hpos => absurd hpos (Int.not_lt.mpr h)
    bodySize := fun haccepted => absurd haccepted hignored }

theorem inBounds_of_answered (ipResolved : BitVec 32) (response : Buffer Byte 96)
    {query : List Byte} (hlow : 12 ≤ query.length) (hhigh : query.length < 80) :
    InBounds ipResolved response (some query) := by
  have hle := Nat.le_of_lt hhigh
  obtain ⟨response', hanswered⟩ := dnsServer_eq ipResolved response hlow hhigh
  exact {
    inside := by
      rw [hanswered]
      rfl
    answerEnd := by
      intro _
      rw [receivedLength_of_lt hhigh, toNat_answerEnd hle]
      rfl
    bodySize := by
      intro _
      rw [receivedLength_of_lt hhigh, toNat_bodySize hlow hle]
      omega }

/-! ### All datagrams -/

/-- **The server is safe for exactly these datagrams**: the empty one, and those from the
length of a header on that leave room for a terminator. -/
theorem inBounds_iff (ipResolved : BitVec 32) (response : Buffer Byte 96)
    (datagram : Option (List Byte)) :
    InBounds ipResolved response datagram ↔
      ∀ query, datagram = some query → query = [] ∨ 12 ≤ query.length ∧ query.length < 80 := by
  constructor
  · rintro h query rfl
    by_cases hnil : query = []
    · exact .inl hnil
    right
    have hpos := List.length_pos_iff.mpr hnil
    have hlen : (query.take 80).length = min 80 query.length := List.length_take
    have haccepted : Accepted (receivedLength (some query)) :=
      (accepted_iff (by omega)).mpr (by omega)
    obtain ⟨hdata, hbody⟩ := of_isSome_dnsServer h.inside haccepted
    have hlow : 12 ≤ (query.take 80).length := by
      by_contra hshort
      have hwrapped := lt_toNat_bodySize (Nat.lt_of_not_le hshort)
      exact absurd hbody (by
        rw [receivedLength]
        omega)
    rw [receivedLength] at hdata
    omega
  · intro h
    cases datagram with
    | none => exact inBounds_of_ignored ipResolved response (by decide)
    | some query =>
      rcases h query rfl with rfl | ⟨hlow, hhigh⟩
      · exact inBounds_of_ignored ipResolved response (Int.le_refl 0)
      · exact inBounds_of_answered ipResolved response hlow hhigh

/-- A datagram that fills `data`, and one of a single byte. -/
theorem not_inBounds :
    ¬ InBounds 0 (.fill 96 0) (some (.replicate 80 0)) ∧ ¬ InBounds 0 (.fill 96 0) (some [0]) := by
  constructor
  · intro h
    have hinside := h.inside
    revert hinside
    decide +kernel
  · intro h
    have hinside := h.inside
    revert hinside
    decide +kernel

end Datk.Dns
