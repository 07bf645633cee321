import Datk.Basic
import Datk.Lib.Merge

/-!
# Filtering the access points that were found

A scan finds an access point once for each of its stations.  `wifi_manager_filter_unique`
of `common/wifi_manager/src/wifi_manager.c` keeps one record for each pair of an SSID and
an authentication mode, in place: it first clears the records that repeat an earlier one,
then moves the others together, and drops the hidden networks on the way, as it cannot
tell their empty SSIDs from those of cleared records.

The first loop is `foldl_markDuplicates`, the second one `foldl_moveUp`.  Together they
are `Lib.mergeBy` on the records with a name, which is what `unique_filterUnique` says.
-/

namespace Datk.Wifi

open Lib

/-- `uint8_t ssid[33]`, up to its terminator. -/
structure Ssid where
  bytes : List Byte
  ne_zero : ∀ c ∈ bytes, c ≠ 0
  length_le : bytes.length ≤ 32
  deriving DecidableEq

def Ssid.empty : Ssid := ⟨[], List.forall_mem_nil _, Nat.zero_le 32⟩

theorem Ssid.zero_notMem (s : Ssid) : 0 ∉ s.bytes := fun h => s.ne_zero 0 h rfl

/-- `wifi_ap_record_t`.  The fields that are only copied and cleared are `rest`, and so is
what follows the terminator of the SSID. -/
structure ApRecord (ρ : Type) where
  ssid : Ssid
  primary : Byte
  rssi : Byte
  authmode : BitVec 32
  rest : ρ
  deriving DecidableEq

section

variable {ρ : Type}

/-- `ssid[0] == 0`. -/
def ApRecord.Free (ap : ApRecord ρ) : Prop := ap.ssid = .empty

instance (ap : ApRecord ρ) : Decidable ap.Free := inferInstanceAs (Decidable (_ = _))

/-- The `rssi` that is kept, an `int8_t`. -/
def ApRecord.join (ap ap1 : ApRecord ρ) : ApRecord ρ :=
  if ap1.rssi.toInt > ap.rssi.toInt then { ap with rssi := ap1.rssi } else ap

def ApRecord.key (ap : ApRecord ρ) : Ssid × BitVec 32 := (ap.ssid, ap.authmode)

theorem key_join (ap b : ApRecord ρ) : (ap.join b).key = ap.key := by
  rw [ApRecord.join]
  split
  · rfl
  · rfl

theorem free_iff_of_key {ap b : ApRecord ρ} (h : ap.key = b.key) : ap.Free ↔ b.Free := by
  have hssid : ap.ssid = b.ssid := congrArg Prod.fst h
  rw [ApRecord.Free, ApRecord.Free, hssid]

theorem findIdx?_free {named l : List (ApRecord ρ)} {b : ApRecord ρ}
    (hnamed : ∀ b ∈ named, ¬ b.Free) (hb : b.Free) :
    (named ++ b :: l).findIdx? (fun b => b.Free) = some named.length := by
  have hnone : named.findIdx? (fun b => b.Free) = none :=
    List.findIdx?_eq_none_iff.mpr fun b hb => by simp [hnamed b hb]
  rw [List.findIdx?_append, hnone, Option.none_or, List.findIdx?_cons]
  simp [hb]

theorem join_spec (ap c : ApRecord ρ) : ap.join c = { ap with rssi := (ap.join c).rssi } ∧
    ((ap.join c).rssi = ap.rssi ∨ (ap.join c).rssi = c.rssi) ∧
    ap.rssi.toInt ≤ (ap.join c).rssi.toInt ∧ c.rssi.toInt ≤ (ap.join c).rssi.toInt := by
  rw [ApRecord.join]
  by_cases h : c.rssi.toInt > ap.rssi.toInt
  · rw [if_pos h]
    exact ⟨rfl, .inr rfl, Int.le_of_lt h, Int.le_refl _⟩
  · rw [if_neg h]
    exact ⟨rfl, .inl rfl, Int.le_refl _, Int.not_lt.mp h⟩

/-- Joined records keep all but the `rssi`, which is the best one. -/
theorem foldl_join (l : List (ApRecord ρ)) : ∀ ap : ApRecord ρ,
    l.foldl ApRecord.join ap = { ap with rssi := (l.foldl ApRecord.join ap).rssi } ∧
      (∃ b ∈ ap :: l, b.rssi = (l.foldl ApRecord.join ap).rssi) ∧
      ∀ b ∈ ap :: l, b.rssi.toInt ≤ (l.foldl ApRecord.join ap).rssi.toInt := by
  induction l with
  | nil =>
    intro ap
    exact ⟨rfl, ⟨ap, List.mem_cons_self, rfl⟩, by simp⟩
  | cons c l ih =>
    intro ap
    obtain ⟨hself, hone, hap, hc⟩ := join_spec ap c
    obtain ⟨heq, ⟨b, hb, hbest⟩, hle⟩ := ih (ap.join c)
    rw [List.foldl_cons]
    refine ⟨?_, ?_, ?_⟩
    · rw [hself] at heq
      rw [hself]
      exact heq
    · rcases List.mem_cons.mp hb with rfl | hb
      · rcases hone with hone | hone
        · exact ⟨ap, List.mem_cons_self, hone.symm.trans hbest⟩
        · exact ⟨c, List.mem_cons_of_mem ap List.mem_cons_self, hone.symm.trans hbest⟩
      · exact ⟨b, List.mem_cons_of_mem ap (List.mem_cons_of_mem c hb), hbest⟩
    · have hbest := hle (ap.join c) List.mem_cons_self
      rw [List.forall_mem_cons, List.forall_mem_cons]
      exact ⟨hap.trans hbest, hc.trans hbest, fun b hb => hle b (List.mem_cons_of_mem _ hb)⟩

/-- One record for each pair. -/
def merged (aplist : List (ApRecord ρ)) : List (ApRecord ρ) :=
  mergeBy ApRecord.key ApRecord.join (aplist.filter fun b => ¬ b.Free)

theorem not_free_of_mem_merged {aplist : List (ApRecord ρ)} :
    ∀ b ∈ merged aplist, ¬ b.Free := by
  intro b hb
  obtain ⟨first, rest, hfilter, -⟩ := exists_of_mem_mergeBy key_join hb
  have hmem : first ∈ (aplist.filter fun b => ¬ b.Free).filter fun c => c.key = b.key := by
    rw [hfilter]
    exact List.mem_cons_self
  simp only [List.mem_filter, decide_eq_true_eq] at hmem
  rw [← free_iff_of_key hmem.2]
  exact hmem.1.2

variable [Zero ρ]

/-- `memset(ap, 0, sizeof(wifi_ap_record_t))`. -/
def ApRecord.zero : ApRecord ρ := ⟨.empty, 0, 0, 0, 0⟩

/-- The body of the loop over `j`. -/
def removeIdentical (i : Nat) (aplist : List (ApRecord ρ)) (j : Nat) : List (ApRecord ρ) :=
  match aplist[i]?, aplist[j]? with
  | some ap, some ap1 =>
    if ap.ssid = ap1.ssid ∧ ap.authmode = ap1.authmode then
      (aplist.set i (ap.join ap1)).set j .zero
    else aplist
  | _, _ => aplist

/-- The body of the first loop over `i`. -/
def markDuplicates (aplist : List (ApRecord ρ)) (i : Nat) : List (ApRecord ρ) :=
  match aplist[i]? with
  | some ap =>
    if ap.Free then aplist
    else (List.range' (i + 1) (aplist.length - (i + 1))).foldl (removeIdentical i) aplist
  | none => aplist

structure Compaction (ρ : Type) where
  aplist : List (ApRecord ρ)
  firstFree : Option Nat
  totalUnique : Int

/-- The body of the second loop over `i`. -/
def moveUp (c : Compaction ρ) (i : Nat) : Compaction ρ :=
  match c.aplist[i]? with
  | some ap =>
    if ap.Free then
      { c with firstFree := c.firstFree.or (some i), totalUnique := c.totalUnique - 1 }
    else match c.firstFree with
      | some firstFree =>
        let aplist := (c.aplist.set firstFree ap).set i .zero
        { c with
          aplist := aplist
          firstFree := (aplist.findIdx? fun ap => ap.Free).or (some firstFree) }
      | none => c
  | none => c

/-- `wifi_manager_filter_unique`: the array of `*aps` records, and `*aps`. -/
def filterUnique (aplist : List (ApRecord ρ)) : List (ApRecord ρ) × Int :=
  let marked := (List.range (aplist.length - 1)).foldl markDuplicates aplist
  let c := (List.range aplist.length).foldl moveUp ⟨marked, none, aplist.length⟩
  (c.aplist, c.totalUnique)

/-! ### What it should do -/

/-- The pairs of the records that have a name. -/
def keys (aplist : List (ApRecord ρ)) : List (Ssid × BitVec 32) :=
  (aplist.filter fun ap => ¬ ap.Free).map ApRecord.key

/-- **One record for each pair.** -/
structure Unique (aplist out : List (ApRecord ρ)) (m : Nat) : Prop where
  length : out.length = aplist.length
  count : m = (keys aplist).toFinset.card
  /-- The pairs, in the order of their first occurrence. -/
  order : (out.take m).map ApRecord.key = (keys aplist).eraseDups
  /-- The first record of its pair, with the best `rssi` of all. -/
  record : ∀ ap ∈ out.take m, ∃ first, aplist.find? (fun b => b.key = ap.key) = some first ∧
    ap = { first with rssi := ap.rssi } ∧
    (∃ b ∈ aplist, b.key = ap.key ∧ b.rssi = ap.rssi) ∧
    ∀ b ∈ aplist, b.key = ap.key → b.rssi.toInt ≤ ap.rssi.toInt
  free : ∀ ap ∈ out.drop m, ap.Free
  idempotent : filterUnique (out.take m) = (out.take m, (m : Int))

/-! ### The first loop -/

/-- What is left of `b` by the loop over `j`. -/
def ApRecord.cleared (ap b : ApRecord ρ) : ApRecord ρ := if b.key = ap.key then .zero else b

theorem cleared_join (ap b : ApRecord ρ) : (ap.join b).cleared = ap.cleared := by
  funext c
  rw [ApRecord.cleared, ApRecord.cleared, key_join]

theorem free_zero : (ApRecord.zero : ApRecord ρ).Free := rfl

theorem removeIdentical_at (pre done l : List (ApRecord ρ)) (ap b : ApRecord ρ) :
    removeIdentical pre.length (pre ++ ap :: (done ++ b :: l)) (pre.length + 1 + done.length) =
      pre ++ (if b.key = ap.key then ap.join b else ap) :: (done ++ ap.cleared b :: l) := by
  have hi : (pre ++ ap :: (done ++ b :: l))[pre.length]? = some ap := by simp
  have hj : (pre ++ ap :: (done ++ b :: l))[pre.length + 1 + done.length]? = some b := by
    rw [List.getElem?_append_right (by omega)]
    simp [Nat.add_assoc, Nat.add_comm 1]
  have hkey : (ap.ssid = b.ssid ∧ ap.authmode = b.authmode) ↔ b.key = ap.key := by
    rw [ApRecord.key, ApRecord.key, Prod.mk.injEq]
    exact and_congr eq_comm eq_comm
  rw [removeIdentical, hi, hj]
  simp only [hkey, ApRecord.cleared]
  by_cases h : b.key = ap.key
  · rw [if_pos h, if_pos h, if_pos h, List.set_append_right _ _ (Nat.le_refl _), Nat.sub_self,
      List.set_cons_zero, List.set_append_right _ _ (by omega)]
    have hsub : pre.length + 1 + done.length - pre.length = done.length + 1 := by omega
    rw [hsub, List.set_cons_succ, List.set_append_right _ _ (Nat.le_refl _), Nat.sub_self,
      List.set_cons_zero]
  · rw [if_neg h, if_neg h, if_neg h]

/-- The loop over `j`, from `done` on. -/
theorem foldl_removeIdentical (pre l : List (ApRecord ρ)) :
    ∀ (done : List (ApRecord ρ)) (ap : ApRecord ρ),
      (List.range' (pre.length + 1 + done.length) l.length).foldl (removeIdentical pre.length)
          (pre ++ ap :: (done ++ l)) =
        pre ++ absorb ApRecord.key ApRecord.join ap l :: (done ++ l.map ap.cleared) := by
  induction l with
  | nil =>
    intro done ap
    simp [absorb]
  | cons b l ih =>
    intro done ap
    have hstep := ih (done ++ [ap.cleared b]) (if b.key = ap.key then ap.join b else ap)
    rw [List.length_append, List.length_singleton, List.append_assoc, List.singleton_append,
      ← Nat.add_assoc] at hstep
    rw [List.length_cons, List.range'_succ, List.foldl_cons, removeIdentical_at, hstep,
      List.map_cons, List.append_assoc, List.singleton_append]
    by_cases h : b.key = ap.key
    · rw [if_pos h, absorb_cons_of_eq key_join h, cleared_join]
    · rw [if_neg h, absorb_cons_of_ne h]

theorem markDuplicates_named {pre l : List (ApRecord ρ)} {ap : ApRecord ρ} (h : ¬ ap.Free) :
    markDuplicates (pre ++ ap :: l) pre.length =
      pre ++ absorb ApRecord.key ApRecord.join ap l :: l.map ap.cleared := by
  have hi : (pre ++ ap :: l)[pre.length]? = some ap := by simp
  have hlen : (pre ++ ap :: l).length - (pre.length + 1) = l.length := by
    rw [List.length_append, List.length_cons]
    omega
  rw [markDuplicates, hi]
  simp only [if_neg h, hlen]
  exact foldl_removeIdentical pre l [] ap

theorem markDuplicates_free {pre l : List (ApRecord ρ)} {ap : ApRecord ρ} (h : ap.Free) :
    markDuplicates (pre ++ ap :: l) pre.length = pre ++ ap :: l := by
  have hi : (pre ++ ap :: l)[pre.length]? = some ap := by simp
  rw [markDuplicates, hi]
  exact if_pos h

/-- What is cleared is dropped like what had no name. -/
theorem filter_map_cleared {ap : ApRecord ρ} (l : List (ApRecord ρ)) :
    (l.map ap.cleared).filter (fun b => ¬ b.Free) =
      (l.filter fun b => ¬ b.Free).filter fun b => b.key ≠ ap.key := by
  induction l with
  | nil => rfl
  | cons b l ih =>
    rw [List.map_cons]
    by_cases hkey : b.key = ap.key
    · have hzero : ap.cleared b = .zero := if_pos hkey
      rw [hzero, List.filter_cons_of_neg (by simp [free_zero]), ih]
      by_cases hfree : b.Free
      · rw [List.filter_cons_of_neg (l := l) (by simp [hfree])]
      · rw [List.filter_cons_of_pos (l := l) (by simp [hfree]),
          List.filter_cons_of_neg (by simp [hkey])]
    · have hself : ap.cleared b = b := if_neg hkey
      rw [hself]
      by_cases hfree : b.Free
      · rw [List.filter_cons_of_neg (by simp [hfree]), ih,
          List.filter_cons_of_neg (l := l) (by simp [hfree])]
      · rw [List.filter_cons_of_pos (by simp [hfree]), ih,
          List.filter_cons_of_pos (l := l) (by simp [hfree]),
          List.filter_cons_of_pos (by simp [hkey])]

/-- **The first loop**: the records that are left are one for each pair. -/
theorem foldl_markDuplicates (l : List (ApRecord ρ)) : ∀ pre : List (ApRecord ρ),
    ∃ out, (List.range' pre.length l.length).foldl markDuplicates (pre ++ l) = pre ++ out ∧
      out.length = l.length ∧
      out.filter (fun b => ¬ b.Free) =
        mergeBy ApRecord.key ApRecord.join (l.filter fun b => ¬ b.Free) := by
  induction hn : l.length generalizing l with
  | zero =>
    intro pre
    rw [List.length_eq_zero_iff.mp hn]
    exact ⟨[], rfl, rfl, mergeBy_nil.symm⟩
  | succ n ih =>
    intro pre
    cases l with
    | nil => cases hn
    | cons ap l =>
      have hlen : l.length = n := Nat.succ.inj hn
      by_cases hfree : ap.Free
      · obtain ⟨out, hfold, hout, hfilter⟩ := ih l hlen (pre ++ [ap])
        rw [List.length_append, List.length_singleton, List.append_assoc,
          List.singleton_append, List.append_assoc, List.singleton_append] at hfold
        refine ⟨ap :: out, ?_, by rw [List.length_cons, hout], ?_⟩
        · rw [List.range'_succ, List.foldl_cons, markDuplicates_free hfree, hfold]
        · rw [List.filter_cons_of_neg (by simp [hfree]), hfilter,
            List.filter_cons_of_neg (by simp [hfree])]
      · obtain ⟨out, hfold, hout, hfilter⟩ := ih (l.map ap.cleared)
          (by rw [List.length_map, hlen]) (pre ++ [absorb ApRecord.key ApRecord.join ap l])
        rw [List.length_append, List.length_singleton, List.append_assoc,
          List.singleton_append, List.append_assoc, List.singleton_append] at hfold
        have hnamed : ¬ (absorb ApRecord.key ApRecord.join ap l).Free := by
          rw [free_iff_of_key (key_absorb key_join ap l)]
          exact hfree
        have hgroup : ∀ b : ApRecord ρ, b.key = ap.key → decide (¬ b.Free) = true := by
          intro b hb
          rw [decide_eq_true_eq, free_iff_of_key hb]
          exact hfree
        refine ⟨absorb ApRecord.key ApRecord.join ap l :: out, ?_,
          by rw [List.length_cons, hout], ?_⟩
        · rw [List.range'_succ, List.foldl_cons, markDuplicates_named hfree, hfold]
        · rw [List.filter_cons_of_pos (by simp [hnamed]), hfilter,
            List.filter_cons_of_pos (by simp [hfree]), mergeBy_cons, filter_map_cleared,
            absorb_filter hgroup]

theorem length_foldl {α : Type} {f : List α → Nat → List α}
    (hf : ∀ as i, (f as i).length = as.length) (is : List Nat) :
    ∀ as, (is.foldl f as).length = as.length := by
  induction is with
  | nil =>
    intro as
    rfl
  | cons i is ih =>
    intro as
    rw [List.foldl_cons, ih, hf]

theorem length_removeIdentical (i : Nat) (aplist : List (ApRecord ρ)) (j : Nat) :
    (removeIdentical i aplist j).length = aplist.length := by
  rw [removeIdentical]
  split
  · split
    · rw [List.length_set, List.length_set]
    · rfl
  · rfl

theorem length_markDuplicates (aplist : List (ApRecord ρ)) (i : Nat) :
    (markDuplicates aplist i).length = aplist.length := by
  rw [markDuplicates]
  split
  · split
    · rfl
    · exact length_foldl (length_removeIdentical i) _ aplist
  · rfl

/-- The last record has none after it, so that the loop may as well include it. -/
theorem markDuplicates_last (aplist : List (ApRecord ρ)) :
    markDuplicates aplist (aplist.length - 1) = aplist := by
  rw [markDuplicates]
  cases haplist : aplist[aplist.length - 1]? with
  | none => rfl
  | some ap =>
    have hlen : aplist.length - (aplist.length - 1 + 1) = 0 := by omega
    simp only [hlen]
    split
    · rfl
    · rfl

/-- The records after the first loop. -/
def marked (aplist : List (ApRecord ρ)) : List (ApRecord ρ) :=
  (List.range (aplist.length - 1)).foldl markDuplicates aplist

theorem marked_spec (aplist : List (ApRecord ρ)) :
    (marked aplist).length = aplist.length ∧
      (marked aplist).filter (fun b => ¬ b.Free) = merged aplist := by
  obtain ⟨out, hfold, hout, hfilter⟩ := foldl_markDuplicates aplist []
  rw [List.nil_append, List.nil_append, List.length_nil, ← List.range_eq_range'] at hfold
  have hmarked : marked aplist = out := by
    cases hlen : aplist.length with
    | zero =>
      rw [hlen] at hfold
      rw [← hfold, marked, hlen]
    | succ n =>
      have hlast := length_foldl length_markDuplicates (List.range n) aplist
      rw [hlen, List.range_succ, List.foldl_append, List.foldl_cons, List.foldl_nil] at hfold
      have hsame := markDuplicates_last ((List.range n).foldl markDuplicates aplist)
      rw [hlast, hlen, Nat.add_sub_cancel, hfold] at hsame
      rw [hsame, marked, hlen, Nat.add_sub_cancel]
  rw [hmarked]
  exact ⟨hout, hfilter⟩

/-! ### The second loop -/

/-- The free records after `l`, if those before it are `free`. -/
def freed (free : List (ApRecord ρ)) : List (ApRecord ρ) → List (ApRecord ρ)
  | [] => free
  | ap :: l =>
    if ap.Free then freed (free ++ [ap]) l
    else freed (if free = [] then [] else free.tail ++ [.zero]) l

/-- The second loop between two records: those with a name, the free ones, the rest. -/
def Compaction.at (named free l : List (ApRecord ρ)) (n : Int) : Compaction ρ where
  aplist := named ++ (free ++ l)
  firstFree := if free = [] then none else some named.length
  totalUnique := n

theorem moveUp_free {named free l : List (ApRecord ρ)} {ap : ApRecord ρ} {n : Int}
    (h : ap.Free) : moveUp (.at named free (ap :: l) n) (named.length + free.length) =
      .at named (free ++ [ap]) l (n - 1) := by
  have hi : (named ++ (free ++ ap :: l))[named.length + free.length]? = some ap := by
    rw [List.getElem?_append_right (by omega)]
    simp
  rw [moveUp, Compaction.at, hi]
  simp only [if_pos h, Compaction.at, List.append_assoc, List.singleton_append]
  cases free with
  | nil => simp
  | cons f free => simp

theorem moveUp_named_nil {named l : List (ApRecord ρ)} {ap : ApRecord ρ} {n : Int}
    (h : ¬ ap.Free) : moveUp (.at named [] (ap :: l) n) named.length =
      .at (named ++ [ap]) [] l n := by
  have hi : (named ++ ([] ++ ap :: l))[named.length]? = some ap := by simp
  rw [moveUp, Compaction.at, hi]
  simp only [if_neg h, Compaction.at]
  simp

/-- A record is copied to the first free one and cleared: the next free one is behind it. -/
theorem moveUp_named_cons {named free l : List (ApRecord ρ)} {f ap : ApRecord ρ} {n : Int}
    (hnamed : ∀ b ∈ named, ¬ b.Free) (hfree : ∀ b ∈ free, b.Free) (h : ¬ ap.Free) :
    moveUp (.at named (f :: free) (ap :: l) n) (named.length + (f :: free).length) =
      .at (named ++ [ap]) (free ++ [.zero]) l n := by
  have hi : (named ++ (f :: free ++ ap :: l))[named.length + (f :: free).length]? = some ap := by
    rw [List.getElem?_append_right (by omega)]
    simp
  have hset : ((named ++ (f :: free ++ ap :: l)).set named.length ap).set
      (named.length + (f :: free).length) ApRecord.zero =
        named ++ [ap] ++ (free ++ [ApRecord.zero] ++ l) := by
    rw [List.set_append_right _ _ (Nat.le_refl _), Nat.sub_self, List.cons_append,
      List.set_cons_zero, List.set_append_right _ _ (by omega), Nat.add_sub_cancel_left,
      List.length_cons, List.set_cons_succ, List.set_append_right _ _ (Nat.le_refl _),
      Nat.sub_self, List.set_cons_zero]
    simp
  have hnamed' : ∀ b ∈ named ++ [ap], ¬ b.Free := by
    rw [List.forall_mem_append, List.forall_mem_singleton]
    exact ⟨hnamed, h⟩
  have hfind : (named ++ [ap] ++ (free ++ [ApRecord.zero] ++ l)).findIdx?
      (fun b : ApRecord ρ => b.Free) =
      some (named ++ [ap]).length := by
    cases free with
    | nil => exact findIdx?_free hnamed' free_zero
    | cons b free => exact findIdx?_free hnamed' (hfree b List.mem_cons_self)
  rw [moveUp, Compaction.at, hi]
  simp only [if_neg h, List.cons_ne_nil, if_false, hset, hfind, Option.some_or]
  simp [Compaction.at]

/-- **The second loop**, from a record on. -/
theorem foldl_moveUp (l : List (ApRecord ρ)) : ∀ (named free : List (ApRecord ρ)) (n : Int),
    (∀ b ∈ named, ¬ b.Free) → (∀ b ∈ free, b.Free) →
      (List.range' (named.length + free.length) l.length).foldl moveUp (.at named free l n) =
        .at (named ++ l.filter fun b => ¬ b.Free) (freed free l) []
          (n - (l.filter fun b => b.Free).length) := by
  induction l with
  | nil =>
    intro named free n _ _
    simp [freed]
  | cons ap l ih =>
    intro named free n hnamed hfree
    rw [List.length_cons, List.range'_succ, List.foldl_cons, freed]
    by_cases h : ap.Free
    · have hfree' : ∀ b ∈ free ++ [ap], b.Free := by
        rw [List.forall_mem_append, List.forall_mem_singleton]
        exact ⟨hfree, h⟩
      have hstep := ih named (free ++ [ap]) (n - 1) hnamed hfree'
      rw [List.length_append, List.length_singleton, ← Nat.add_assoc] at hstep
      rw [moveUp_free h, hstep, if_pos h, List.filter_cons_of_neg (by simp [h]),
        List.filter_cons_of_pos (by simp [h]), List.length_cons]
      congr 1
      omega
    · have hnamed' : ∀ b ∈ named ++ [ap], ¬ b.Free := by
        rw [List.forall_mem_append, List.forall_mem_singleton]
        exact ⟨hnamed, h⟩
      rw [if_neg h, List.filter_cons_of_pos (by simp [h]), List.filter_cons_of_neg (by simp [h])]
      cases free with
      | nil =>
        have hstep := ih (named ++ [ap]) [] n hnamed' hfree
        rw [List.length_append, List.length_singleton] at hstep
        rw [List.length_nil, Nat.add_zero, moveUp_named_nil h]
        rw [List.length_nil, Nat.add_zero] at hstep
        rw [hstep, List.append_assoc, List.singleton_append, if_pos rfl]
      | cons f free =>
        have hfree' : ∀ b ∈ free ++ [ApRecord.zero], b.Free := by
          rw [List.forall_mem_append, List.forall_mem_singleton]
          exact ⟨fun b hb => hfree b (List.mem_cons_of_mem f hb), free_zero⟩
        have hstep := ih (named ++ [ap]) (free ++ [.zero]) n hnamed' hfree'
        have hindex : (named ++ [ap]).length + (free ++ [ApRecord.zero]).length =
            named.length + (f :: free).length + 1 := by
          simp only [List.length_append, List.length_cons, List.length_nil]
          omega
        rw [hindex] at hstep
        rw [moveUp_named_cons hnamed (fun b hb => hfree b (List.mem_cons_of_mem f hb)) h, hstep,
          List.append_assoc, List.singleton_append, if_neg (List.cons_ne_nil f free),
          List.tail_cons]

theorem freed_spec (l : List (ApRecord ρ)) : ∀ free : List (ApRecord ρ), (∀ b ∈ free, b.Free) →
    (∀ b ∈ freed free l, b.Free) ∧
      (freed free l).length = free.length + (l.filter fun b => b.Free).length := by
  induction l with
  | nil =>
    intro free hfree
    exact ⟨hfree, rfl⟩
  | cons ap l ih =>
    intro free hfree
    rw [freed]
    by_cases h : ap.Free
    · rw [if_pos h, List.filter_cons_of_pos (by simp [h]), List.length_cons]
      obtain ⟨hall, hlen⟩ := ih (free ++ [ap]) (by
        rw [List.forall_mem_append, List.forall_mem_singleton]
        exact ⟨hfree, h⟩)
      refine ⟨hall, ?_⟩
      rw [hlen, List.length_append, List.length_singleton]
      omega
    · rw [if_neg h, List.filter_cons_of_neg (by simp [h])]
      cases free with
      | nil =>
        rw [if_pos rfl]
        exact ih [] hfree
      | cons f free =>
        rw [if_neg (List.cons_ne_nil f free), List.tail_cons]
        obtain ⟨hall, hlen⟩ := ih (free ++ [.zero]) (by
          rw [List.forall_mem_append, List.forall_mem_singleton]
          exact ⟨fun b hb => hfree b (List.mem_cons_of_mem f hb), free_zero⟩)
        refine ⟨hall, ?_⟩
        rw [hlen, List.length_append, List.length_singleton, List.length_cons]

/-! ### Both -/

theorem length_filter_free (aplist : List (ApRecord ρ)) :
    ((marked aplist).filter fun b => b.Free).length + (merged aplist).length =
      aplist.length := by
  obtain ⟨hlen, hfilter⟩ := marked_spec aplist
  have h := List.length_eq_length_filter_add (l := marked aplist) fun b => b.Free
  rw [← hfilter, ← hlen, h]
  simp only [decide_not]

/-- The records of the pairs come first, then free ones. -/
theorem filterUnique_eq (aplist : List (ApRecord ρ)) : filterUnique aplist =
    (merged aplist ++ freed [] (marked aplist), ((merged aplist).length : Int)) := by
  obtain ⟨hlen, hfilter⟩ := marked_spec aplist
  have hcount := length_filter_free aplist
  have hloop := foldl_moveUp (marked aplist) [] [] aplist.length (List.forall_mem_nil _)
    (List.forall_mem_nil _)
  rw [hlen, hfilter, List.nil_append, List.length_nil, Nat.add_zero,
    ← List.range_eq_range'] at hloop
  have hstart : (⟨marked aplist, none, aplist.length⟩ : Compaction ρ) =
      .at [] [] (marked aplist) aplist.length := rfl
  rw [filterUnique, show (List.range (aplist.length - 1)).foldl markDuplicates aplist =
    marked aplist from rfl, hstart]
  rw [hloop, Compaction.at, List.append_nil, Prod.mk.injEq]
  refine ⟨rfl, ?_⟩
  show (aplist.length : Int) - ((marked aplist).filter fun b => b.Free).length = _
  omega

theorem free_of_mem_freed (aplist : List (ApRecord ρ)) :
    ∀ b ∈ freed [] (marked aplist), b.Free :=
  (freed_spec (marked aplist) [] (List.forall_mem_nil _)).1

theorem length_merged_add (aplist : List (ApRecord ρ)) :
    (merged aplist).length + (freed [] (marked aplist)).length = aplist.length := by
  rw [(freed_spec (marked aplist) [] (List.forall_mem_nil _)).2, ← length_filter_free aplist,
    List.length_nil]
  omega

/-- Records with a name and no repetitions are left alone. -/
theorem filterUnique_of_nodup {aplist : List (ApRecord ρ)} (hnamed : ∀ b ∈ aplist, ¬ b.Free)
    (hnodup : (aplist.map ApRecord.key).Nodup) :
    filterUnique aplist = (aplist, (aplist.length : Int)) := by
  have hself : merged aplist = aplist := by
    rw [merged, List.filter_eq_self.mpr (by simpa using hnamed), mergeBy_of_nodup hnodup]
  have hlen := length_merged_add aplist
  rw [hself] at hlen
  have hnil : freed [] (marked aplist) = [] := List.length_eq_zero_iff.mp (by omega)
  rw [filterUnique_eq, hself, hnil, List.append_nil]

/-- **Duplicate filtering is exact.** -/
theorem unique_filterUnique (aplist : List (ApRecord ρ)) :
    ∃ m : Nat, (filterUnique aplist).2 = m ∧ Unique aplist (filterUnique aplist).1 m := by
  have htake : (merged aplist ++ freed [] (marked aplist)).take (merged aplist).length =
      merged aplist := List.take_left
  have horder : (merged aplist).map ApRecord.key = (keys aplist).eraseDups :=
    map_key_mergeBy key_join _
  rw [filterUnique_eq]
  refine ⟨(merged aplist).length, rfl, ?_, ?_, ?_, ?_, ?_, ?_⟩
  · rw [List.length_append, length_merged_add]
  · rw [← card_toFinset_eraseDups, ← horder, List.length_map]
  · rw [htake, horder]
  · rw [htake]
    intro ap hap
    have hnamed := not_free_of_mem_merged ap hap
    obtain ⟨first, rest, hfilter, hjoin⟩ := exists_of_mem_mergeBy key_join hap
    have hgroup : (aplist.filter fun b => b.key = ap.key) = first :: rest := by
      rw [← hfilter, List.filter_filter]
      apply List.filter_congr
      intro b _
      by_cases hb : b.key = ap.key
      · simp [hb, free_iff_of_key hb, hnamed]
      · simp [hb]
    have hmem : ∀ b, b ∈ first :: rest ↔ b ∈ aplist ∧ b.key = ap.key := by
      intro b
      rw [← hgroup, List.mem_filter, decide_eq_true_eq]
    obtain ⟨heq, ⟨b, hb, hbest⟩, hle⟩ := foldl_join rest first
    rw [← hjoin] at heq hbest hle
    refine ⟨first, ?_, heq, ?_, fun b hb hkey => hle b ((hmem b).mpr ⟨hb, hkey⟩)⟩
    · rw [← List.head?_filter, hgroup, List.head?_cons]
    · obtain ⟨hin, hkey⟩ := (hmem b).mp hb
      exact ⟨b, hin, hkey, hbest⟩
  · rw [List.drop_left]
    exact free_of_mem_freed aplist
  · rw [htake]
    refine filterUnique_of_nodup not_free_of_mem_merged ?_
    rw [horder]
    exact nodup_eraseDups _

end

end Datk.Wifi
