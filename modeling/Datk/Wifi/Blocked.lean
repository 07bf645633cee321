import Datk.Wifi.Steps

/-!
# The manager does not wait on itself

The manager is the only receiver of its queue.  A handler of its own that sends a
message has to find a free slot then; one that stops the HTTP server has to find no
request there that waits for a slot.  The message that it handles has left a slot
free, and `Roomy` holds as long as the other tasks leave it so.
-/

namespace Datk.Wifi

/-- **The manager never waits on itself**: neither for a free slot in its queue, nor
for a handler of the HTTP server that waits for one. -/
structure Unblocked (s : State) : Prop where
  send : ∀ o, s.pc = .send o → s.queue.length < 3
  stop : ∀ k o, s.pc = .httpStop k → s.http = .send o → s.queue.length < 3

/-- The statements on the way to a message of the manager's own. -/
def ManagerPc.sends (s : State) : ManagerPc → Bool
  | .send _ | .fetch | .erase _ | .saveSsid .erased | .savePassword .erased => true
  | .disconnected _ => !s.requestStaConnect && (s.requestDisconnect || decide (3 ≤ s.retries))
  | .lost _ ap => !ap && decide (3 ≤ s.retries)
  | _ => false

/-- The statements on the way to `http_app_stop`. -/
def ManagerPc.stops : ManagerPc → Bool
  | .setRequest (.user _) | .httpStop _ | .startAp | .stopAp | .setModeSta => true
  | _ => false

/-- A slot stays free where one is filled. -/
def State.Spare (s : State) : Prop :=
  (s.pc.sends s = true → s.queue.length < 2) ∧
    (s.pc.stops = true → s.queue.length < 2 ∨ s.http = .idle)

def HttpPc.LeavesRoom (s : State) : HttpPc → Prop
  | .send _ => s.pc.sends s = true → s.queue.length < 2
  | .idle | .clear _ | .copySsid _ | .copyPassword _ => True

/-- While the manager is on the way to a message of its own, the others leave a slot
for it.  While it is on the way to `http_app_stop`, they leave one for the handler
that runs, and none starts when there is none. -/
def LeavesRoom (s : State) : Act → Prop
  | .eventTask => s.eventTask ≠ none → s.Spare
  | .timerTask _ | .buttonTask => s.Spare
  | .http => s.http.LeavesRoom s
  | .request _ => s.pc.stops = true → s.queue.length < 3
  | _ => True

instance (s : State) : Decidable s.Spare := inferInstanceAs (Decidable (_ ∧ _))

instance (s : State) : ∀ p : HttpPc, Decidable (p.LeavesRoom s)
  | .send _ => inferInstanceAs (Decidable (_ → _))
  | .idle | .clear _ | .copySsid _ | .copyPassword _ => .isTrue trivial

instance (s : State) : ∀ a, Decidable (LeavesRoom s a)
  | .eventTask => inferInstanceAs (Decidable (_ → _))
  | .timerTask _ | .buttonTask => inferInstanceAs (Decidable s.Spare)
  | .http => inferInstanceAs (Decidable (s.http.LeavesRoom s))
  | .request _ => inferInstanceAs (Decidable (_ → _))
  | .manager _ | .connectOk | .connectFail | .lost | .gotIp | .scanDone | .retryTimer
  | .shutdownTimer | .button => .isTrue trivial

structure Roomy (s : State) : Prop where
  capacity : s.queue.length ≤ 3
  sends : s.pc.sends s = true → s.queue.length < 3
  stops : s.pc.stops = true → s.queue.length < 3 ∨ s.http = .idle

theorem roomy_boot (nvs : Option Config) : Roomy (boot nvs) where
  capacity := Nat.zero_le 3
  sends := fun _ => Nat.succ_pos 2
  stops := by
    intro h
    cases h

variable {s s' : State}

namespace Roomy

theorem unblocked (h : Roomy s) : Unblocked s where
  send := by
    intro o hpc
    refine h.sends ?_
    rw [hpc]
    rfl
  stop := by
    intro k o hpc hh
    refine (h.stops ?_).resolve_right ?_
    · rw [hpc]
      rfl
    · rw [hh]
      simp

/-- The manager, between the messages that it takes and those that it sends. -/
theorem of_eq (h : Roomy s) (hq : s'.queue = s.queue) (hh : s'.http = s.http)
    (hsends : s'.pc.sends s' = true → s.pc.sends s = true)
    (hstops : s'.pc.stops = true → s.pc.stops = true) : Roomy s' where
  capacity := hq ▸ h.capacity
  sends := fun hs => hq ▸ h.sends (hsends hs)
  stops := fun hs => hq ▸ hh ▸ h.stops (hstops hs)

theorem manager {ok : Bool} (h : Roomy s) (hs : ManagerStep s ok s') : Roomy s' := by
  cases hs with
  | @receive m rest hpc hq =>
    have hlen := h.capacity
    rw [hq, List.length_cons] at hlen
    have hrest : rest.length < 3 := by omega
    exact ⟨Nat.le_of_lt hrest, fun _ => hrest, fun _ => .inl hrest⟩
  | send hpc hq =>
    refine ⟨?_, by simp [ManagerPc.sends], by simp [ManagerPc.stops]⟩
    rw [List.length_append, List.length_singleton]
    omega
  | branchErase hpc hr hd =>
    exact h.of_eq rfl rfl (by simp [ManagerPc.sends, hpc, hr, hd]) (by simp [ManagerPc.stops])
  | branchLost hpc hr hd =>
    exact h.of_eq rfl rfl (by simp [ManagerPc.sends, hpc, hr, hd]) (by simp [ManagerPc.stops])
  | lostStart hpc hn =>
    exact h.of_eq rfl rfl (by simp [ManagerPc.sends, hpc]; omega) (by simp [ManagerPc.stops])
  | @saveSsid k hpc =>
    cases k <;> exact h.of_eq rfl rfl (by simp [ManagerPc.sends, hpc]) (by simp [ManagerPc.stops])
  | _ hpc =>
    exact h.of_eq rfl rfl (by simp [ManagerPc.sends, hpc]) (by simp [ManagerPc.stops, hpc])

/-- A message of another task. -/
theorem append {m : Message} (hcap : s.queue.length < 3) (hpc : s'.pc = s.pc)
    (hsame : s'.pc.sends s' = s.pc.sends s) (hq : s'.queue = s.queue ++ [m])
    (hsends : s.pc.sends s = true → s.queue.length < 2)
    (hstops : s.pc.stops = true → s.queue.length < 2 ∨ s'.http = .idle) : Roomy s' := by
  have hlen : s'.queue.length = s.queue.length + 1 := by
    rw [hq, List.length_append, List.length_singleton]
  refine ⟨by omega, fun hs => ?_, fun hs => ?_⟩
  · have := hsends (hsame ▸ hs)
    omega
  · rcases hstops (hpc ▸ hs) with hlt | hidle
    · left
      omega
    · exact .inr hidle

theorem step {a : Act} (h : Roomy s) (hok : LeavesRoom s a) (hs : Step s a s') : Roomy s' := by
  cases hs with
  | manager hs => exact h.manager hs
  | eventSend he hq => exact append hq rfl rfl rfl (hok (by simp [he])).1 (hok (by simp [he])).2
  | timerTask ht hq => exact append hq rfl rfl rfl hok.1 hok.2
  | buttonTask hb hq => exact append hq rfl rfl rfl hok.1 hok.2
  | httpSend hh hq =>
    simp only [LeavesRoom, hh] at hok
    exact append hq rfl rfl rfl hok fun _ => .inr rfl
  | request hup hh hr => exact ⟨h.capacity, h.sends, fun hs => .inl (hok hs)⟩
  | httpClear hh | httpSsid hh | httpPassword hh =>
    refine ⟨h.capacity, h.sends, fun hs => .inl ((h.stops hs).resolve_right ?_)⟩
    rw [hh]
    simp
  | _ => exact ⟨h.capacity, h.sends, h.stops⟩

end Roomy

/-- **The manager never waits on itself**, in all runs where the other tasks leave room
for its own messages and for the handler it has to wait for. -/
theorem unblocked_of_leavesRoom {s : State} (h : system.Reaches LeavesRoom s) : Unblocked s := by
  refine Roomy.unblocked (h.invariant ?_ fun _ _ _ hroom hok hs => hroom.step hok (step_cases hs))
  rintro _ ⟨nvs, rfl⟩
  exact roomy_boot nvs

/-- Two messages come while the manager fetches the configuration. -/
theorem unblocked_after_two :
    ∃ s, system.Reaches LeavesRoom s ∧ s.pc = .send .startAp ∧ s.queue.length = 2 ∧
      Unblocked s := by
  have hrun : ∃ s, system.Reaches LeavesRoom s ∧ s.pc = .send .startAp ∧ s.queue.length = 2 :=
    Lib.System.exists_of_execute
      [.manager false, .manager false, .button, .buttonTask, .request .getAp, .http,
        .manager false]
      (s := boot none) ⟨_, rfl⟩ (by decide +kernel)
  obtain ⟨s, hs, hpc, hlen⟩ := hrun
  exact ⟨s, hs, hpc, hlen, unblocked_of_leavesRoom hs⟩

/-- Three messages come while the manager fetches the configuration. -/
theorem not_unblocked : ¬ ∀ s, system.Reachable s → Unblocked s := by
  intro h
  have hrun : ∃ s, system.Reachable s ∧ s.pc = .send .startAp ∧ s.queue.length = 3 :=
    Lib.System.exists_of_execute
      [.manager false, .manager false, .button, .buttonTask, .request .getAp, .http, .button,
        .buttonTask, .manager false]
      (s := boot none) ⟨_, rfl⟩ (by decide +kernel)
  obtain ⟨s, hs, hpc, hlen⟩ := hrun
  have hlt := (h s hs).send _ hpc
  omega

end Datk.Wifi
