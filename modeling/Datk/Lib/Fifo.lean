import Datk.Basic

/-!
# A first-in first-out queue fed from a stream

`Carries u i q` says that the queue `q` holds the stretch of the stream `u` that
begins at its element `i`.  Sending the element that comes next and receiving the
oldest one keep this, whatever the order of the two.
-/

namespace Lib

variable {α : Type*} {u : Nat → α} {i : Nat} {q : List α}

def Carries (u : Nat → α) (i : Nat) (q : List α) : Prop := q = (List.range' i q.length).map u

theorem carries_nil (u : Nat → α) (i : Nat) : Carries u i [] := rfl

namespace Carries

theorem send (h : Carries u i q) : Carries u i (q ++ [u (i + q.length)]) := by
  show q ++ [u (i + q.length)] = (List.range' i (q ++ [u (i + q.length)]).length).map u
  rw [List.length_append, List.length_singleton, List.range'_1_concat, List.map_append,
    ← show q = (List.range' i q.length).map u from h]
  rfl

theorem send_at {n : Nat} (h : Carries u i q) (hn : n = i + q.length) :
    Carries u i (q ++ [u n]) := by
  subst hn
  exact h.send

theorem receive {x : α} (h : Carries u i (x :: q)) : x = u i ∧ Carries u (i + 1) q := by
  have h' : x :: q = u i :: (List.range' (i + 1) q.length).map u := h
  exact ⟨(List.cons.inj h').1, (List.cons.inj h').2⟩

theorem eq_map_range (h : Carries u 0 q) : q = (List.range q.length).map u := by
  rw [List.range_eq_range']
  exact h

end Carries

end Lib
