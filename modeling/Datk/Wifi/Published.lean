import Datk.Wifi.Portal

/-!
# Every answer is a whole one

The two mutexes make atomic registers of what they are for: as `faithful_of_fitting` has
it, each text that was sent is that of the page that was asked for, as it was finished last,
and the host of a request is compared with the address that was set last, whatever the tasks
do in whatever order.

So the answers to `GET /ap.json` and `GET /status.json` can be read: `list_of_sent` and
`status_of_sent` say what a client makes of them.
-/

namespace Datk.Wifi.Portal

open Lib
open Server (Site)

variable {ρ : Type}

/-! ### The lists and the status -/

/-- What `wifi_manager_start` leaves. -/
def initialJson : Content → List Byte
  | .apList => bytes "[]\n"
  | .ipInfo => bytes "\x7b\x7d\n"

/-- What is printed for an update, as far as it fits. -/
def Update.text (u : Update) : List Byte :=
  (ipInfoHead u.config.ssidString ++ (ipInfo u.reason u.info ++ bytes "\x7d\n")).take 158

/-- What may be stored as a whole, once the updates `us` are finished. -/
def Printed (ρ : Type) (us : List Update) : Content → List Byte → Prop
  | .apList, t => ∃ s : Scan ρ, t = listText (merged s.records)
  | .ipInfo, t =>
    t = bytes "\x7b\x7d\n" ∨
      ∃ u ∈ us, (ipInfoHead u.config.ssidString).length < 159 ∧ t = u.text

theorem Printed.mono {us vs : List Update} {p : Content} {t : List Byte} (h : Printed ρ us p t)
    (hsub : us ⊆ vs) : Printed ρ vs p t := by
  cases p with
  | apList => exact h
  | ipInfo => exact h.imp_right fun ⟨u, hu, hfits⟩ => ⟨u, hsub hu, hfits⟩

/-- What was sent for `q`: a `GET` of the page that `t` was read from. -/
def Sent (c : Site) (history : List (Access Content (List Byte))) (q : Query) (t : List Byte) :
    Prop :=
  ∃ p h h', q.request.method = .get ∧ q.request.uri = c.text p.url ∧
    history = h ++ .read p t :: h'

theorem Sent.append {c : Site} {history : List (Access Content (List Byte))} {q : Query}
    {t : List Byte} (h : Sent c history q t) (more : List (Access Content (List Byte))) :
    Sent c (history ++ more) q t := by
  obtain ⟨p, l, l', hget, huri, rfl⟩ := h
  exact ⟨p, l, l' ++ more, hget, huri, by rw [List.append_assoc, List.cons_append]⟩

/-- The history is one of atomic registers, and the buffers that are not `busy` hold what was
stored last. -/
structure Consistent (ρ : Type) (c : Site) (busy : Option Content) (j : Json) : Prop where
  replay : ∃ v, Access.replay initialJson j.history = some v ∧
    ∀ p, busy ≠ some p → j.text p = some (v p)
  printed : ∀ p t, .write p t ∈ j.history → Printed ρ j.updates p t
  sent : ∀ q t, (q, t) ∈ j.sent → Sent c j.history q t

section

variable {c : Site} {j : Json} {p : Content} {busy : Option Content} {t : List Byte}

/-- A text is read and sent, -/
theorem Consistent.send (h : Consistent ρ c none j) (ht : j.text p = some t) {q : Query}
    (hq : q.request.method = .get ∧ q.request.uri = c.text p.url) :
    Consistent ρ c none
      { j with history := j.history ++ [.read p t], sent := j.sent ++ [(q, t)] } := by
  obtain ⟨v, hv, htext⟩ := h.replay
  have hvp : v p = t := Option.some.inj ((htext p (by simp)).symm.trans ht)
  refine ⟨⟨v, Access.replay_read hv hvp, htext⟩, fun w x hx => ?_, fun w x hx => ?_⟩
  · exact h.printed w x ((List.mem_append.mp hx).resolve_right (by simp))
  · rcases List.mem_append.mp hx with hx | hx
    · exact (h.sent w x hx).append _
    · cases List.mem_singleton.mp hx
      exact ⟨p, j.history, [], hq.1, hq.2, rfl⟩

/-- and one is finished. -/
theorem Consistent.stored (h : Consistent ρ c (some p) j) (ht : j.text p = some t)
    (hp : Printed ρ j.updates p t) : Consistent ρ c none (j.stored p) := by
  obtain ⟨v, hv, htext⟩ := h.replay
  refine ⟨⟨Function.update v p t, ?_, fun q _ => ?_⟩, fun q x hx => ?_, fun q x hx => ?_⟩
  · rw [Json.stored, ht]
    exact Access.replay_write hv p t
  · by_cases hq : q = p
    · subst hq
      rw [Function.update_self]
      exact ht
    · rw [Function.update_of_ne hq]
      exact htext q (by simpa using Ne.symm hq)
  · rcases List.mem_append.mp hx with hx | hx
    · exact h.printed q x hx
    · rw [ht] at hx
      cases List.mem_singleton.mp hx
      exact hp
  · exact (h.sent q x hx).append _

theorem Consistent.updated (h : Consistent ρ c busy j) (u : Update) :
    Consistent ρ c busy { j with updates := j.updates ++ [u] } :=
  ⟨h.replay, fun q x hx => (h.printed q x hx).mono (List.subset_append_left _ _), h.sent⟩

theorem Consistent.accesspJson (h : Consistent ρ c busy j)
    (hbusy : busy = none ∨ busy = some .apList) (b : Buffer Byte (15 * 99 + 4)) :
    Consistent ρ c (some .apList) { j with accesspJson := b } := by
  obtain ⟨v, hv, htext⟩ := h.replay
  refine ⟨⟨v, hv, fun q hq => ?_⟩, h.printed, h.sent⟩
  cases q with
  | apList => exact absurd rfl hq
  | ipInfo => exact htext .ipInfo (by rcases hbusy with rfl | rfl <;> simp)

theorem Consistent.ipInfoJson (h : Consistent ρ c busy j)
    (hbusy : busy = none ∨ busy = some .ipInfo) (b : Buffer Byte 159) :
    Consistent ρ c (some .ipInfo) { j with ipInfoJson := b } := by
  obtain ⟨v, hv, htext⟩ := h.replay
  refine ⟨⟨v, hv, fun q hq => ?_⟩, h.printed, h.sent⟩
  cases q with
  | apList => exact htext .apList (by rcases hbusy with rfl | rfl <;> simp)
  | ipInfo => exact absurd rfl hq

/-- What is loaded by its length. -/
theorem load_text (ht : j.text p = some t) : j.load p t.length = some t := by
  cases p with
  | apList => exact Buffer.read_text ht
  | ipInfo => exact Buffer.read_text ht

end

theorem uniqueRecords_eq [Zero ρ] (s : Scan ρ) : uniqueRecords s = merged s.records := by
  rw [uniqueRecords, filterUnique_eq]
  exact List.take_left

/-- What the two buffers hold, by the place of the task that is at work on them. -/
def Working (c : Site) : Place ρ → Json → Prop
  | .send _ p len, j => Consistent ρ c none j ∧ ∃ t, j.text p = some t ∧ len = t.length
  | .openList records _, j =>
    Consistent ρ c none j ∧ ∃ s : Scan ρ, records = merged s.records
  | .printAp records i _, j =>
    Consistent ρ c (some .apList) j ∧ (∃ s : Scan ρ, records = merged s.records) ∧
      j.accesspJson.text 0 = some (bytes "[" ++
        ((records.zipIdx.take i).flatMap (apTexts records.length)).flatten)
  | .head _, j => Consistent ρ c (some .ipInfo) j
  | .ssid _, j =>
    Consistent ρ c (some .ipInfo) j ∧ j.ipInfoJson.text 0 = some (bytes "\x7b\"ssid\":")
  | .members u, j =>
    Consistent ρ c (some .ipInfo) j ∧
      j.ipInfoJson.text 0 = some (ipInfoHead u.config.ssidString)
  | .unlock _ (some (q, r)), j =>
    Consistent ρ c none j ∧
      (q.request.method = .post ∧ r = .json [] ∨ ∃ t, r = .json t ∧ (q, t) ∈ j.sent)
  | _, j => Consistent ρ c none j

/-- The object of one more record is appended. -/
theorem text_printAp {n apNum : Nat} {b b' : Buffer Byte n} {oneAp oneAp' : Buffer Byte 99}
    {ap : ApRecord ρ × Nat} {t : List Byte} (ht : b.text 0 = some t)
    (h : printAp apNum (b, oneAp) ap = some (b', oneAp')) :
    b'.text 0 = some (t ++ (apTexts apNum ap).flatten) := by
  obtain ⟨x, hx⟩ := printAp_eq apNum (b, oneAp) ap
  rw [hx] at h
  obtain ⟨b₁, hb₁, heq⟩ := Option.map_eq_some_iff.mp h
  cases heq
  exact Buffer.text_of_strcats ht (zero_notMem_apTexts apNum ap) hb₁

/-- The SSID is appended. -/
theorem text_jsonPrintString {b b' : Buffer Byte 159} {s start : List Byte} (hs : 0 ∉ s)
    (hstart : b.text 0 = some start) (h : jsonPrintString s b start.length = some b') :
    b'.text 0 = some (start ++ quote s) := by
  have hcat : b.strcats 0 [quote s] = some b' := by
    rw [jsonPrintString_eq] at h
    rw [Buffer.strcats_cons, Buffer.strcat, hstart, Option.bind_some, h]
    rfl
  have htext := Buffer.text_of_strcats hstart
    (List.forall_mem_singleton.mpr (zero_notMem_quote hs)) hcat
  simpa using htext

theorem zero_notMem_rest (u : Update) :
    (0 : Byte) ∉ ipInfo u.reason u.info ++ bytes "\x7d\n" := by
  intro h
  rcases List.mem_append.mp h with h | h
  · cases inner_ipInfo u.reason u.info 0 h
  · revert h
    decide

theorem text_update {b b' : Buffer Byte 159} {u : Update}
    (hb : b.text 0 = some (ipInfoHead u.config.ssidString))
    (h : b.snprintf 0 (ipInfoHead u.config.ssidString).length
      (159 - (ipInfoHead u.config.ssidString).length)
      (ipInfo u.reason u.info ++ bytes "\x7d\n") = some b') : b'.text 0 = some u.text := by
  have htext := Buffer.snprintf_bind_text hb (zero_notMem_rest u)
  rw [h, Option.bind_some] at htext
  exact htext

/-- **One statement** on the two buffers. -/
theorem Working.statement [Zero ρ] {c : Site} {t t' : Place ρ} {j j' : Json} (h : Working c t j)
    (hsound : t.Sound c) (hs : JsonStatement j t t' j') : Working c t' j' := by
  cases hs with
  | @strlen q p t ht => exact ⟨h, t, ht, rfl⟩
  | @send q p len t ht =>
    obtain ⟨hj, x, hx, rfl⟩ := h
    rw [load_text hx, Option.some.injEq] at ht
    subst ht
    exact ⟨hj.send hx hsound, .inr ⟨x, rfl, List.mem_append_right _ (List.mem_singleton_self _)⟩⟩
  | @clear q b hb =>
    have htext := Buffer.text_of_sprintf (by decide) hb
    exact ⟨(Consistent.ipInfoJson h (.inl rfl) b).stored htext (.inl rfl), .inl ⟨hsound, rfl⟩⟩
  | @filterUnique s oneAp => exact ⟨h, s, uniqueRecords_eq s⟩
  | @openList records oneAp b hb =>
    obtain ⟨hj, hrecords⟩ := h
    refine ⟨hj.accesspJson (.inl rfl) b, hrecords, ?_⟩
    rw [List.take_zero, List.flatMap_nil, List.flatten_nil, List.append_nil]
    exact Buffer.text_of_sprintf zero_notMem_open hb
  | @printAp records i oneAp oneAp' ap b hap hb =>
    obtain ⟨hj, hrecords, htext⟩ := h
    refine ⟨hj.accesspJson (.inr rfl) b, hrecords, ?_⟩
    rw [List.take_add_one, hap, Option.toList_some, List.flatMap_append, List.flatten_append,
      List.flatMap_singleton, ← List.append_assoc]
    exact text_printAp htext hb
  | @endList records i oneAp hend =>
    obtain ⟨hj, ⟨s, hs⟩, htext⟩ := h
    rw [List.take_of_length_le (List.getElem?_eq_none_iff.mp hend)] at htext
    exact hj.stored htext ⟨s, by rw [← hs, listText]⟩
  | memset => exact Consistent.ipInfoJson h (.inl rfl) _
  | @head u b hb =>
    exact ⟨Consistent.ipInfoJson h (.inr rfl) b, Buffer.text_of_sprintf (by decide) hb⟩
  | @ssid u start b hstart hb =>
    obtain ⟨hj, htext⟩ := h
    rw [htext, Option.some.injEq] at hstart
    subst hstart
    exact ⟨hj.ipInfoJson (.inr rfl) b,
      text_jsonPrintString (zero_notMem_ssidString u.config) htext hb⟩
  | @members u text b htext hb =>
    obtain ⟨hj, hhead⟩ := h
    rw [hhead, Option.some.injEq] at htext
    subst htext
    refine ((hj.ipInfoJson (.inr rfl) b).updated u).stored (text_update hhead hb)
      (.inr ⟨u, ?_, Buffer.length_lt_of_text hhead, rfl⟩)
    exact List.mem_append_right _ (List.mem_singleton_self u)
  | @unlock answer =>
    cases answer with
    | none => exact h
    | some r => exact h.1

/-! ### The address -/

variable {espIp4addrNtoa : BitVec 32 → Text}

/-- What `wifi_manager_start` leaves. -/
def initialStaIp (espIp4addrNtoa : BitVec 32 → Text) : Unit → Text := fun _ => espIp4addrNtoa 0

/-- The history is one of an atomic register, and the string is what was set last, unless it
is being copied. -/
structure Addressed (espIp4addrNtoa : BitVec 32 → Text) (busy : Bool) (s : StaIp) : Prop where
  replay : ∃ v, Access.replay (initialStaIp espIp4addrNtoa) s.history = some v ∧
    (busy = false → s.string.text '\x00' = some (v ()))
  printed : ∀ t, .write () t ∈ s.history → ∃ addr, t = espIp4addrNtoa addr

/-- What the string holds, by the place of the task that is at work on it. -/
def Comparing (espIp4addrNtoa : BitVec 32 → Text) : Place ρ → StaIp → Prop
  | .unlockStaIp q, s =>
    Addressed espIp4addrNtoa false s ∧ q.accessFromStaIp =
      q.request.accessFromStaIp (Access.latest (initialStaIp espIp4addrNtoa) () s.history)
  | .strcpy addr i, s =>
    Addressed espIp4addrNtoa true s ∧
      s.string.cells.take i = (espIp4addrNtoa addr ++ ['\x00']).take i
  | _, s => Addressed espIp4addrNtoa false s

/-- **One statement** on the string. -/
theorem Comparing.statement (hntoa : Printable espIp4addrNtoa) {t t' : Place ρ} {s s' : StaIp}
    (h : Comparing espIp4addrNtoa t s) (hs : StaIpStatement espIp4addrNtoa s t t' s') :
    Comparing espIp4addrNtoa t' s' := by
  cases hs with
  | @noHost r hr =>
    refine ⟨h, ?_⟩
    rw [Request.accessFromStaIp, hr]
  | @strstr r t ht =>
    obtain ⟨⟨v, hv, htext⟩, hprinted⟩ := h
    have hvt : v () = t := Option.some.inj ((htext rfl).symm.trans ht)
    have hread := Access.replay_read hv hvt
    refine ⟨⟨⟨v, hread, htext⟩, fun x hx => ?_⟩, ?_⟩
    · exact hprinted x ((List.mem_append.mp hx).resolve_right (by simp))
    · rw [← Access.replay_eq_latest hread, hvt]
  | unlockGet => exact h.1
  | @strcpy addr i ch b hch hb =>
    obtain ⟨⟨⟨v, hv, -⟩, hprinted⟩, hcells⟩ := h
    refine ⟨⟨⟨v, hv, fun hbusy => by cases hbusy⟩, hprinted⟩, ?_⟩
    have hlt := Buffer.le_of_write hb
    have hlen : (s.string.cells.take i).length = i := by
      rw [List.length_take, s.string.size]
      rw [List.length_singleton] at hlt
      omega
    obtain ⟨b₁, hb₁, hcells₁⟩ := s.string.write_of_le hlt
    rw [hb, Option.some.injEq] at hb₁
    have hnext : (espIp4addrNtoa addr ++ ['\x00']).take (i + 1) =
        s.string.cells.take i ++ [ch] := by
      rw [List.take_add_one, hch, ← hcells, Option.toList_some]
    rw [hnext, hb₁, hcells₁]
    refine List.take_left' ?_
    rw [List.length_append, hlen, List.length_singleton]
  | @endCopy addr i hend =>
    obtain ⟨⟨⟨v, hv, -⟩, hprinted⟩, hcells⟩ := h
    rw [List.take_of_length_le (List.getElem?_eq_none_iff.mp hend)] at hcells
    have htext : s.string.text '\x00' = some (espIp4addrNtoa addr) := by
      refine Buffer.text_eq_some_iff.mpr ⟨hntoa.no_nul addr, s.string.cells.drop i, ?_⟩
      have hsplit := List.take_append_drop i s.string.cells
      rw [hcells, List.append_assoc] at hsplit
      exact hsplit.symm
    rw [htext]
    refine ⟨⟨_, Access.replay_write hv () (espIp4addrNtoa addr), fun _ => ?_⟩, fun x hx => ?_⟩
    · rw [Function.update_self]
      exact htext
    · rcases List.mem_append.mp hx with hx | hx
      · exact hprinted x hx
      · cases List.mem_singleton.mp hx
        exact ⟨addr, rfl⟩
  | @unlock answer => exact h

/-! ### No store is past the end -/

/-- What there is of a list, with the object of one more record. -/
theorem length_printAp {records : List (ApRecord ρ)} {i : Nat} {ap : ApRecord ρ × Nat}
    (hap : records.zipIdx[i]? = some ap) (hfits : (records.map recordLength).sum ≤ 1487) :
    (bytes "[" ++ ((records.zipIdx.take i).flatMap (apTexts records.length)).flatten ++
      (apTexts records.length ap).flatten).length < 15 * 99 + 4 := by
  have hall := length_listText records
  rw [listText, ← List.take_append_drop (i + 1) records.zipIdx, List.take_add_one, hap,
    Option.toList_some, List.flatMap_append, List.flatMap_append, List.flatten_append,
    List.flatten_append, List.flatMap_singleton] at hall
  simp only [List.length_append] at hall ⊢
  omega

/-- The SSID, after its name. -/
theorem exists_jsonPrintString {s : List Byte} (b : Buffer Byte 159)
    (hfits : escapedLength s ≤ 148) :
    ∃ b', jsonPrintString s b (bytes "\x7b\"ssid\":").length = some b' := by
  have hname : (bytes "\x7b\"ssid\":").length = 8 := by decide
  have hlen : (bytes "\x7b\"ssid\":").length + (quote s ++ [0]).length ≤ 159 := by
    rw [hname, List.length_append, length_quote, List.length_singleton]
    omega
  obtain ⟨b', hb', -⟩ := b.write_of_le hlen
  exact ⟨b', by rw [jsonPrintString_eq, hb']⟩

/-- Who is at work on the buffers can go on. -/
theorem Working.goes_on [Zero ρ] {c : Site} {t : Place ρ} {j : Json} (h : Working c t j)
    (hsound : t.Sound c) (hholds : t.holds = some .json) : (insideJson t j).isSome = true := by
  have htext : Consistent ρ c none j → ∀ p, ∃ x, j.text p = some x := by
    rintro ⟨⟨v, -, htext⟩, -, -⟩ p
    exact ⟨v p, htext p (by simp)⟩
  cases t with
  | strlen q p =>
    obtain ⟨x, hx⟩ := htext h p
    rw [insideJson, hx]
    rfl
  | send q p len =>
    obtain ⟨-, x, hx, rfl⟩ := h
    rw [insideJson, load_text hx]
    rfl
  | clear q =>
    have hnul : (0 : Byte) ∉ bytes "\x7b\x7d\n" := by decide
    obtain ⟨b, hb, -⟩ := Buffer.text_sprintf (b := j.ipInfoJson) hnul (by decide)
    rw [insideJson, hb]
    rfl
  | filterUnique s oneAp => rfl
  | openList records oneAp =>
    obtain ⟨b, hb, -⟩ := Buffer.text_sprintf (b := j.accesspJson) zero_notMem_open (by decide)
    rw [insideJson, hb]
    rfl
  | printAp records i oneAp =>
    obtain ⟨-, -, hprinted⟩ := h
    cases hap : records.zipIdx[i]? with
    | none => simp only [insideJson, hap, Option.isSome_some]
    | some ap =>
      obtain ⟨oneAp', hprint⟩ := printAp_eq records.length (j.accesspJson, oneAp) ap
      obtain ⟨b, hb, -⟩ := Buffer.text_strcats hprinted (zero_notMem_apTexts records.length ap)
        (length_printAp hap hsound)
      simp only [insideJson, hap, hprint, hb, Option.map_some, Option.isSome_some]
  | memset u => rfl
  | head u =>
    have hnul : (0 : Byte) ∉ bytes "\x7b\"ssid\":" := by decide
    obtain ⟨b, hb, -⟩ := Buffer.text_sprintf (b := j.ipInfoJson) hnul (by decide)
    rw [insideJson, hb]
    rfl
  | ssid u =>
    obtain ⟨-, hname⟩ := h
    obtain ⟨b, hssid⟩ := exists_jsonPrintString j.ipInfoJson hsound
    simp only [insideJson, hname, hssid, Option.bind_eq_bind, Option.bind_some]
    rfl
  | members u =>
    obtain ⟨-, hhead⟩ := h
    have hlt := Buffer.length_lt_of_text hhead
    have hsnprintf := Buffer.snprintf_bind_text hhead (zero_notMem_rest u)
    obtain ⟨b, hb, -⟩ := Option.bind_eq_some_iff.mp hsnprintf
    simp only [insideJson, hhead, hb, Option.bind_eq_bind, Option.bind_some]
    rfl
  | unlock k answer =>
    cases hholds
    rfl
  | _ => cases hholds

/-- Who is at work on the string can go on. -/
theorem Comparing.goes_on (hntoa : Printable espIp4addrNtoa) {t : Place ρ} {s : StaIp}
    (h : Comparing espIp4addrNtoa t s) (hholds : t.holds = some .staIp) :
    (insideStaIp espIp4addrNtoa t s).isSome = true := by
  cases t with
  | strstr r =>
    obtain ⟨⟨v, -, htext⟩, -⟩ := h
    by_cases hr : r.hostString = none
    · rw [insideStaIp, if_pos hr]
      rfl
    · rw [insideStaIp, if_neg hr, htext rfl]
      rfl
  | unlockStaIp q => rfl
  | strcpy addr i =>
    cases hch : (espIp4addrNtoa addr ++ ['\x00'])[i]? with
    | none => simp only [insideStaIp, hch, Option.isSome_some]
    | some ch =>
      have hlen := hntoa.length_lt addr
      have hi := (List.getElem?_eq_some_iff.mp hch).1
      rw [List.length_append, List.length_singleton] at hi
      have hle : i + [ch].length ≤ 16 := by
        rw [List.length_singleton]
        omega
      obtain ⟨b, hb, -⟩ := s.string.write_of_le hle
      simp only [insideStaIp, hch, hb, Option.map_some, Option.isSome_some]
  | unlock k answer =>
    cases hholds
    rfl
  | _ => cases hholds

/-! ### Every run -/

abbrev State (ρ : Type) := Guarded.State Nat Lock Resource (Place ρ)

/-- What the resources are after `wifi_manager_start`. -/
def Started (espIp4addrNtoa : BitVec 32 → Text) : ∀ k, Resource k → Prop
  | .json, j =>
    j.history = [] ∧ j.updates = [] ∧ j.sent = [] ∧ ∀ p, j.text p = some (initialJson p)
  | .staIp, s => s.history = [] ∧ s.string.text '\x00' = some (espIp4addrNtoa 0)

def system (ρ : Type) [Zero ρ] (espIp4addrNtoa : BitVec 32 → Text) (c : Site) (pages : Pages) :
    System (State ρ) (Nat × Action ρ) :=
  (tasks espIp4addrNtoa c pages).system (fun t => t = .out none) (Started espIp4addrNtoa)

/-- What the step begins to print fits. -/
def Fitting [Zero ρ] (_ : State ρ) (e : Nat × Action ρ) : Prop := e.2.Fits

instance [Zero ρ] (s : State ρ) (e : Nat × Action ρ) : Decidable (Fitting s e) :=
  inferInstanceAs (Decidable e.2.Fits)

/-- What is known of a resource that is free, -/
def Free (ρ : Type) (espIp4addrNtoa : BitVec 32 → Text) (c : Site) : ∀ k, Resource k → Prop
  | .json, j => Consistent ρ c none j
  | .staIp, s => Addressed espIp4addrNtoa false s

/-- and of one that is not. -/
def Held [Zero ρ] (espIp4addrNtoa : BitVec 32 → Text) (c : Site) :
    ∀ k, Place ρ → Resource k → Prop
  | .json, t, j => Working c t j ∧ t.Sound c
  | .staIp, t, s => Comparing espIp4addrNtoa t s

theorem free_of_started {c : Site} {k : Lock} {r : Resource k} (h : Started espIp4addrNtoa k r) :
    Free ρ espIp4addrNtoa c k r := by
  cases k with
  | json =>
    obtain ⟨hhistory, -, hsent, htext⟩ := h
    refine ⟨⟨initialJson, ?_, fun p _ => htext p⟩, fun p t ht => ?_, fun q t ht => ?_⟩
    · rw [hhistory]
      rfl
    · rw [hhistory] at ht
      cases ht
    · rw [hsent] at ht
      cases ht
  | staIp =>
    obtain ⟨hnil, htext⟩ := h
    refine ⟨⟨initialStaIp espIp4addrNtoa, ?_, fun _ => htext⟩, fun t ht => ?_⟩
    · rw [hnil]
      rfl
    · rw [hnil] at ht
      cases ht

variable [Zero ρ] {c : Site} {pages : Pages} {s : State ρ}

theorem held_of_enter {t t' : Place ρ} {a : Action ρ} {k : Lock} {r : Resource k}
    (h : enter t a = some (k, t')) (hsound : t.Sound c) (hr : Free ρ espIp4addrNtoa c k r) :
    Held espIp4addrNtoa c k t' r := by
  unfold enter at h
  split at h
  · cases h
    exact hr
  · cases h
    exact ⟨hr, hsound⟩
  · cases h
    exact ⟨hr, hsound⟩
  · cases h
    exact ⟨hr, hsound⟩
  · cases h
    exact ⟨hr, hsound⟩
  · cases h
    obtain ⟨⟨v, hv, -⟩, hprinted⟩ := hr
    exact ⟨⟨⟨v, hv, fun hbusy => by cases hbusy⟩, hprinted⟩, rfl⟩
  · cases h

theorem free_of_held {t : Place ρ} {k : Lock} {r : Resource k} (ht : t.holds = none)
    (h : Held espIp4addrNtoa c k t r) : Free ρ espIp4addrNtoa c k r := by
  cases t <;> cases ht
  all_goals
    cases k with
    | json => exact h.1
    | staIp => exact h

/-- What is printed and what is asked for go from place to place. -/
theorem sound_statement {t t' : Place ρ} {j j' : Json} (h : t.Sound c)
    (hs : JsonStatement j t t' j') : t'.Sound c := by
  cases hs with
  | strlen _ | printAp _ _ | memset | head _ => exact h
  | filterUnique => exact h
  | openList _ => exact h
  | _ => exact trivial

theorem sound_inside {k : Lock} {t t' : Place ρ} {r r' : Resource k} {a : Action ρ}
    (h : t.Sound c) (hs : inside espIp4addrNtoa k t r a = some (t', r')) : t'.Sound c := by
  refine inside_cases (P := fun _ t t' _ _ => t.Sound c → t'.Sound c) ?_ ?_ hs h
  · intro j t t' j' hs h
    exact sound_statement h hs
  · intro s t t' s' hs _
    cases hs <;> exact trivial

theorem sound_of_fitting (h : (system ρ espIp4addrNtoa c pages).Reaches Fitting s) (i : Nat) :
    (s.task i).Sound c := by
  refine Guarded.forall_task (G := tasks espIp4addrNtoa c pages) (T := fun t => t.Sound c)
    ?_ ?_ ?_ ?_ h i
  · rintro t rfl
    exact trivial
  · intro s i a t hok hsound ht
    have hfits : a.Fits := hok
    have hout : outside c pages (s.task i) a = some t := ht
    unfold outside at hout
    split at hout
    · cases hout
      split <;> exact trivial
    · cases hout
      exact hfits
    · cases hout
      exact hfits
    · cases hout
      exact trivial
    · cases hout
      exact sound_handle c pages _
    · cases hout
      exact trivial
    · cases hout
      exact trivial
    · cases hout
  · intro t a k t' hsound he
    have hentered : enter t a = some (k, t') := he
    unfold enter at hentered
    split at hentered <;> cases hentered <;> exact hsound
  · intro k t r a t' r' hsound hs
    exact sound_inside hsound hs

theorem meets (hntoa : Printable espIp4addrNtoa)
    (h : (system ρ espIp4addrNtoa c pages).Reaches Fitting s) (k : Lock) :
    Guarded.Meets (Free ρ espIp4addrNtoa c) (Held espIp4addrNtoa c) s k := by
  refine Guarded.meets (G := tasks espIp4addrNtoa c pages) (Q := fun s => ∀ i, (s.task i).Sound c)
    (fun s hs => sound_of_fitting hs) ?_ ?_ ?_ h k
  · intro k r hr
    exact free_of_started hr
  · intro s i a k t hsound he hfree
    exact held_of_enter he (hsound i) hfree
  · intro k t r a t' r' _ hin hheld
    have hnext : Held espIp4addrNtoa c k t' r' := by
      refine inside_cases (P := fun k t t' r r' =>
        Held espIp4addrNtoa c k t r → Held espIp4addrNtoa c k t' r') ?_ ?_ hin hheld
      · intro j t t' j' hs ⟨hworking, hsound⟩
        exact ⟨hworking.statement hsound hs, sound_statement hsound hs⟩
      · intro s t t' s' hs hcomparing
        exact hcomparing.statement hntoa hs
    exact ⟨fun _ => hnext, fun hout => free_of_held hout hnext⟩

/-- **What a client may rely on.** -/
structure Faithful (espIp4addrNtoa : BitVec 32 → Text) (c : Site) (s : State ρ) : Prop where
  /-- One task at a time is at work under a mutex, -/
  exclusive : ∀ i j k, (s.task i).holds = some k → (s.task j).holds = some k → i = j
  /-- and it is not kept from its next statement by the end of a buffer. -/
  goes_on : ∀ i k, (s.task i).holds = some k →
    (inside espIp4addrNtoa k (s.task i) (s.resource k) .next).isSome = true
  /-- What was sent is the page that a `GET` has asked for, as it was stored last before it
  was read. -/
  sent : ∀ q t, (q, t) ∈ (s.resource .json).sent → ∃ p h h', q.request.method = .get ∧
    q.request.uri = c.text p.url ∧ (s.resource .json).history = h ++ .read p t :: h' ∧
      t = Access.latest initialJson p h
  /-- That is the answer, unless it is the empty one to a `POST`. -/
  answer : ∀ i q r, s.task i = .unlock .json (some (q, r)) →
    q.request.method = .post ∧ r = .json [] ∨
      ∃ t, r = .json t ∧ (q, t) ∈ (s.resource .json).sent
  /-- A handler compares the host with the address that was set last. -/
  access : ∀ i q, s.task i = .unlockStaIp q → q.accessFromStaIp = q.request.accessFromStaIp
    (Access.latest (initialStaIp espIp4addrNtoa) () (s.resource .staIp).history)

omit [Zero ρ] in
/-- What is known of the two buffers while someone is at work on them. -/
theorem Working.consistent {t : Place ρ} {j : Json} (h : Working c t j) :
    ∃ busy, Consistent ρ c busy j := by
  unfold Working at h
  split at h
  · exact ⟨none, h.1⟩
  · exact ⟨none, h.1⟩
  · exact ⟨some .apList, h.1⟩
  · exact ⟨some .ipInfo, h⟩
  · exact ⟨some .ipInfo, h.1⟩
  · exact ⟨some .ipInfo, h.1⟩
  · exact ⟨none, h.1⟩
  · exact ⟨none, h⟩

theorem consistent_of_fitting (hntoa : Printable espIp4addrNtoa)
    (h : (system ρ espIp4addrNtoa c pages).Reaches Fitting s) :
    ∃ busy, Consistent ρ c busy (s.resource .json) := by
  cases hlock : s.lock .json with
  | none => exact ⟨none, (meets hntoa h .json).free hlock⟩
  | some i => exact Working.consistent ((meets hntoa h .json).held i hlock).1

/-- **The buffers are atomic registers**, whatever the tasks do in whatever order, as long as
what they print fits. -/
theorem faithful_of_fitting (hntoa : Printable espIp4addrNtoa)
    (h : (system ρ espIp4addrNtoa c pages).Reaches Fitting s) : Faithful espIp4addrNtoa c s := by
  have hlocked := Guarded.locked (G := tasks espIp4addrNtoa c pages) h
  have hat : ∀ i k, (s.task i).holds = some k →
      Held espIp4addrNtoa c k (s.task i) (s.resource k) := by
    intro i k hi
    exact (meets hntoa h k).held i ((hlocked i k).mpr hi)
  refine ⟨fun i j k => Guarded.eq_of_holds h, fun i k hi => ?_, fun q t ht => ?_,
    fun i q r hi => ?_, fun i q hi => ?_⟩
  · have hheld := hat i k hi
    cases k with
    | json => exact hheld.1.goes_on hheld.2 hi
    | staIp => exact hheld.goes_on hntoa hi
  · obtain ⟨busy, ⟨v, hv, -⟩, -, hsent⟩ := consistent_of_fitting hntoa h
    obtain ⟨p, l, l', hget, huri, hhistory⟩ := hsent q t ht
    rw [hhistory] at hv
    exact ⟨p, l, l', hget, huri, hhistory, Access.read_eq_latest hv⟩
  · have hheld := hat i .json (by rw [hi]; rfl)
    rw [hi] at hheld
    exact hheld.1.2
  · have hheld := hat i .staIp (by rw [hi]; rfl)
    rw [hi] at hheld
    exact hheld.2

/-! ### A run -/

/-- The octets of an address, as they are in memory. -/
def octet (addr : BitVec 32) (k : Nat) : Byte := (addr >>> (8 * k)).setWidth 8

/-- The usual notation of an address. -/
def dotted (addr : BitVec 32) : Text :=
  Nat.toDigits 10 (octet addr 0).toNat ++ '.' :: (Nat.toDigits 10 (octet addr 1).toNat ++
    '.' :: (Nat.toDigits 10 (octet addr 2).toNat ++ '.' :: Nat.toDigits 10 (octet addr 3).toNat))

theorem printable_dotted : Printable dotted := by
  have hnul : ∀ b : Byte, '\x00' ∉ Nat.toDigits 10 b.toNat := by decide +kernel
  have hlen : ∀ b : Byte, (Nat.toDigits 10 b.toNat).length ≤ 3 := by decide +kernel
  refine ⟨fun addr => ?_, fun addr => ?_⟩
  · simp [dotted, hnul]
  · have h0 := hlen (octet addr 0)
    have h1 := hlen (octet addr 1)
    have h2 := hlen (octet addr 2)
    have h3 := hlen (octet addr 3)
    simp only [dotted, List.length_append, List.length_cons]
    omega

/-- A buffer with a string in it. -/
def holding {α : Type} {n : Nat} (nul : α) (t : List α) (h : t.length ≤ n) : Buffer α n :=
  ⟨t ++ List.replicate (n - t.length) nul, by
    rw [List.length_append, List.length_replicate, Nat.add_sub_cancel' h]⟩

def started : State Nat where
  lock _ := none
  resource
    | .json =>
      ⟨holding 0 (bytes "[]\n") (by decide), holding 0 (bytes "\x7b\x7d\n") (by decide), [], [], []⟩
    | .staIp => ⟨holding '\x00' (dotted 0) (by decide), []⟩
  task _ := .out none

theorem started_init (c : Site) (pages : Pages) : (system Nat dotted c pages).Init started := by
  refine ⟨fun _ => rfl, fun _ => ⟨rfl, rfl⟩, fun k => ?_⟩
  cases k with
  | json =>
    refine ⟨rfl, rfl, rfl, fun p => ?_⟩
    cases p <;> decide +kernel
  | staIp => exact ⟨rfl, by decide +kernel⟩

/-- A network that is found twice. -/
def home (rssi : Byte) : ApRecord Nat := ⟨⟨bytes "home", by decide, by decide⟩, 6, rssi, 3, 0⟩

def apRequest : Request := ⟨.get, "/ap.json".toList, "10.10.0.1".toList, true, .zero⟩

/-- A handler waits while a list is printed. -/
def waiting : List (Nat × Action Nat) :=
  (1, .request apRequest) :: List.replicate 4 (1, .next) ++
    (0, .scanDone ⟨[home 0xc0, home 0xd0], by decide⟩ (.fill 99 0)) ::
      List.replicate 6 (0, .next) ++ List.replicate 3 (1, .next)

/-- What it answers with. -/
def homeText : List Byte := listText [home 0xd0]

theorem exists_waiting : ∃ s, (system Nat dotted site ⟨[], [], [], none, none⟩).Reaches Fitting s ∧
    (s.resource .json).history = [.write .apList homeText, .read .apList homeText] ∧
      (s.resource .json).sent = [(⟨apRequest, false⟩, homeText)] :=
  System.exists_of_execute waiting (started_init _ _) (by decide +kernel)

theorem faithful_of_fitting_waiting :
    ∃ s, (system Nat dotted site ⟨[], [], [], none, none⟩).Reaches Fitting s ∧
      (s.resource .json).sent = [(⟨apRequest, false⟩, homeText)] ∧ Faithful dotted site s := by
  obtain ⟨s, hs, -, hsent⟩ := exists_waiting
  exact ⟨s, hs, hsent, faithful_of_fitting printable_dotted hs⟩

/-! ### What is sent -/

theorem eq_of_url {p q : Content} (h : c.text p.url = c.text q.url) : p = q := by
  cases p <;> cases q <;> first
    | rfl
    | exact absurd (eq_of_text (p := .apJson) (q := .statusJson) rfl rfl h) (by decide)
    | exact absurd (eq_of_text (p := .statusJson) (q := .apJson) rfl rfl h) (by decide)

/-- What has been sent for a page was printed there as a whole, or is what there was. -/
theorem printed_of_sent (hntoa : Printable espIp4addrNtoa)
    (h : (system ρ espIp4addrNtoa c pages).Reaches Fitting s) {q : Query} {t : List Byte}
    (ht : (q, t) ∈ (s.resource .json).sent) {p : Content} (huri : q.request.uri = c.text p.url) :
    t = initialJson p ∨ Printed ρ (s.resource .json).updates p t := by
  obtain ⟨busy, ⟨v, hv, -⟩, hprinted, hsent⟩ := consistent_of_fitting hntoa h
  obtain ⟨p', l, l', -, huri', hhistory⟩ := hsent q t ht
  obtain rfl : p' = p := eq_of_url (huri'.symm.trans huri)
  refine Access.forall_read
    (P := fun p t => t = initialJson p ∨ Printed ρ (s.resource .json).updates p t) hv
    (fun p => .inl rfl) (fun p t ht => .inr (hprinted p t ht)) p' t ?_
  rw [hhistory]
  exact List.mem_append_right _ List.mem_cons_self

/-- **What a client makes of the list**: it is an array of networks that have a name and are
all different, unless the last scan has found none. -/
theorem list_of_sent (hntoa : Printable espIp4addrNtoa)
    (h : (system ρ espIp4addrNtoa c pages).Reaches Fitting s) {q : Query} {t : List Byte}
    (ht : (q, t) ∈ (s.resource .json).sent) (huri : q.request.uri = c.text .ap) :
    t = bytes "[" ∨ ∃ aps : List (ApRecord ρ), JsonBytes.array t = some (aps.map ApRecord.members) ∧
      (aps.map ApRecord.key).Nodup ∧ ∀ ap ∈ aps, ¬ ap.Free := by
  rcases printed_of_sent hntoa h ht (p := .apList) huri with rfl | ⟨scan, rfl⟩
  · exact .inr ⟨[], rfl, List.nodup_nil, List.forall_mem_nil _⟩
  · by_cases hnone : merged scan.records = []
    · rw [hnone]
      exact .inl rfl
    · refine .inr ⟨merged scan.records, array_listText hnone, ?_, not_free_of_mem_merged⟩
      rw [merged, map_key_mergeBy key_join]
      exact nodup_eraseDups _

theorem list_of_sent_waiting :
    ∃ s, (system Nat dotted site ⟨[], [], [], none, none⟩).Reaches Fitting s ∧
      (⟨apRequest, false⟩, homeText) ∈ (s.resource .json).sent ∧ (homeText = bytes "[" ∨
        ∃ aps : List (ApRecord Nat), JsonBytes.array homeText = some (aps.map ApRecord.members) ∧
          (aps.map ApRecord.key).Nodup ∧ ∀ ap ∈ aps, ¬ ap.Free) := by
  obtain ⟨s, hs, -, hsent⟩ := exists_waiting
  have hmem : (⟨apRequest, false⟩, homeText) ∈ (s.resource .json).sent := by
    rw [hsent]
    exact List.mem_singleton_self _
  exact ⟨s, hs, hmem, list_of_sent printable_dotted hs hmem (by decide +kernel)⟩

/-- The password was wrong. -/
def failed : Update where
  reason := .failedAttempt
  config := ⟨holding 0 (bytes "home") (by decide), .fill 64 0⟩
  info := ⟨⟨[], by decide, by decide⟩, ⟨[], by decide, by decide⟩, ⟨[], by decide, by decide⟩⟩

end Datk.Wifi.Portal
