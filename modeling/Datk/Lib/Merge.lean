import Mathlib.Data.Finset.Dedup
import Mathlib.Data.Finset.Card
import Mathlib.Tactic.Common

/-!
# Merging the elements that have the same key

`mergeBy key join l` has one element for each key in `l`, where the key first occurs:
the first element that has it, joined with the other ones in their order
(`exists_of_mem_mergeBy`).  Its keys are those of `l` without repetitions
(`map_key_mergeBy`), and where no key is repeated it does nothing (`mergeBy_of_nodup`).
-/

namespace Lib

variable {α κ : Type*} {key : α → κ} {join : α → α → α}

theorem key_foldl (hkey : ∀ a b, key (join a b) = key a) (l : List α) (a : α) :
    key (l.foldl join a) = key a := by
  induction l generalizing a with
  | nil => rfl
  | cons b l ih => rw [List.foldl_cons, ih, hkey]

theorem nodup_eraseDups [BEq κ] [LawfulBEq κ] (ks : List κ) : ks.eraseDups.Nodup := by
  induction hn : ks.length using Nat.strong_induction_on generalizing ks with
  | _ n ih =>
    cases ks with
    | nil => exact List.nodup_nil
    | cons k ks =>
      have hlt : (ks.filter fun b => !b == k).length < n := by
        rw [← hn]
        exact Nat.lt_succ_of_le (List.length_filter_le _ ks)
      rw [List.eraseDups_cons, List.nodup_cons]
      refine ⟨?_, ih _ hlt _ rfl⟩
      rw [List.mem_eraseDups, List.mem_filter]
      simp

variable [DecidableEq κ]

/-- `a`, joined with the elements of `l` that have its key. -/
def absorb (key : α → κ) (join : α → α → α) (a : α) (l : List α) : α :=
  (l.filter fun b => key b = key a).foldl join a

def mergeBy (key : α → κ) (join : α → α → α) : List α → List α
  | [] => []
  | a :: l => absorb key join a l :: mergeBy key join (l.filter fun b => key b ≠ key a)
termination_by l => l.length
decreasing_by
  rw [List.length_unattach, List.length_cons]
  exact Nat.lt_succ_of_le ((List.length_filter_le _ _).trans List.length_attach.le)

theorem mergeBy_nil : mergeBy key join [] = [] := by rw [mergeBy]

theorem mergeBy_cons (a : α) (l : List α) : mergeBy key join (a :: l) =
    absorb key join a l :: mergeBy key join (l.filter fun b => key b ≠ key a) := by rw [mergeBy]

theorem key_absorb (hkey : ∀ a b, key (join a b) = key a) (a : α) (l : List α) :
    key (absorb key join a l) = key a := key_foldl hkey _ a

theorem absorb_cons_of_eq (hkey : ∀ a b, key (join a b) = key a) {a b : α} (h : key b = key a)
    (l : List α) : absorb key join a (b :: l) = absorb key join (join a b) l := by
  rw [absorb, absorb, List.filter_cons_of_pos (by simpa using h), List.foldl_cons, hkey]

theorem absorb_cons_of_ne {a b : α} (h : key b ≠ key a) (l : List α) :
    absorb key join a (b :: l) = absorb key join a l := by
  rw [absorb, absorb, List.filter_cons_of_neg (by simpa using h)]

/-- Only the elements that have the key count. -/
theorem absorb_filter {p : α → Bool} {a : α} (hp : ∀ b, key b = key a → p b = true)
    (l : List α) : absorb key join a (l.filter p) = absorb key join a l := by
  rw [absorb, absorb, List.filter_filter]
  congr 1
  apply List.filter_congr
  intro b _
  by_cases hb : key b = key a
  · simp [hb, hp b hb]
  · simp [hb]

theorem length_filter_key_lt (a : α) (l : List α) :
    (l.filter fun b => key b ≠ key a).length < (a :: l).length :=
  Nat.lt_succ_of_le (List.length_filter_le _ l)

/-- **The keys are those of the list, without repetitions.** -/
theorem map_key_mergeBy [BEq κ] [LawfulBEq κ] (hkey : ∀ a b, key (join a b) = key a)
    (l : List α) : (mergeBy key join l).map key = (l.map key).eraseDups := by
  induction hn : l.length using Nat.strong_induction_on generalizing l with
  | _ n ih =>
    cases l with
    | nil => rw [mergeBy_nil, List.map_nil, List.eraseDups_nil]
    | cons a l =>
      have htail : ((l.filter fun b => key b ≠ key a).map key) =
          (l.map key).filter fun k => !k == key a := by
        rw [List.filter_map]
        congr 1
        apply List.filter_congr
        intro b _
        by_cases hb : key b = key a
        · simp [hb]
        · simp [hb]
      rw [mergeBy_cons, List.map_cons, List.map_cons, List.eraseDups_cons, key_absorb hkey,
        ih _ (hn ▸ length_filter_key_lt a l) _ rfl, htail]

theorem card_toFinset_eraseDups [BEq κ] [LawfulBEq κ] (ks : List κ) :
    ks.eraseDups.length = ks.toFinset.card := by
  rw [← List.toFinset_card_of_nodup (nodup_eraseDups ks)]
  congr 1
  ext k
  rw [List.mem_toFinset, List.mem_toFinset, List.mem_eraseDups]

/-- **An element is the first one of its key, joined with the others.** -/
theorem exists_of_mem_mergeBy (hkey : ∀ a b, key (join a b) = key a) {l : List α} {a : α}
    (h : a ∈ mergeBy key join l) :
    ∃ b rest, (l.filter fun c => key c = key a) = b :: rest ∧ a = rest.foldl join b := by
  induction hn : l.length using Nat.strong_induction_on generalizing l with
  | _ n ih =>
    cases l with
    | nil =>
      rw [mergeBy_nil] at h
      cases h
    | cons x l =>
      rw [mergeBy_cons] at h
      rcases List.mem_cons.mp h with rfl | h
      · refine ⟨x, l.filter fun c => key c = key x, ?_, rfl⟩
        rw [key_absorb hkey, List.filter_cons_of_pos (by simp)]
      · obtain ⟨b, rest, hfilter, ha⟩ := ih _ (hn ▸ length_filter_key_lt x l) h rfl
        have hb : b ∈ (l.filter fun c => key c ≠ key x).filter fun c => key c = key a := by
          rw [hfilter]
          exact List.mem_cons_self
        simp only [List.mem_filter, decide_eq_true_eq] at hb
        have hne : key x ≠ key a := fun hx => hb.1.2 (hb.2.trans hx.symm)
        refine ⟨b, rest, ?_, ha⟩
        rw [List.filter_cons_of_neg (by simpa using hne), ← hfilter, List.filter_filter]
        apply List.filter_congr
        intro c _
        by_cases hc : key c = key a
        · simp [hc, hne.symm]
        · simp [hc]

theorem mergeBy_of_nodup {l : List α} (h : (l.map key).Nodup) : mergeBy key join l = l := by
  induction l with
  | nil => exact mergeBy_nil
  | cons a l ih =>
    rw [List.map_cons, List.nodup_cons] at h
    have hne : ∀ b ∈ l, key b ≠ key a := fun b hb heq =>
      h.1 (heq ▸ List.mem_map_of_mem hb)
    have hself : absorb key join a l = a := by
      rw [absorb, List.filter_eq_nil_iff.mpr (by simpa using hne), List.foldl_nil]
    rw [mergeBy_cons, hself, List.filter_eq_self.mpr (by simpa using hne), ih h.2]

end Lib
