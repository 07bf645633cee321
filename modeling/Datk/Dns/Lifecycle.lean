import Mathlib.Logic.Function.Basic
import Datk.Lib.System

/-!
# Starting and stopping the name server

`dns_server_start` of `common/wifi_manager/src/dns_server.c` creates a task that opens a
socket, keeps it in the global variable `socket_fd`, binds it and then answers queries.
`dns_server_stop` deletes that task, wherever it is, and then closes `socket_fd`.  The
manager calls both, and its priority is the higher one: the task that it has started need
not have come to its first statement when it is stopped.

Then `socket_fd` is still that of the last time, and may have been given to another task
since.  And if the task is deleted before it has stored what `socket` returned, nobody
knows the socket any more.  `reaches_patient_iff` says that these are the only runs that
do harm, and `sound_of_patient` what holds in all others.

A failure of `socket` or `bind` ends the run, with `exit`.
-/

namespace Datk.Dns.Lifecycle

open Lib

/-- Who has opened a socket. -/
inductive Owner
  | dnsServer
  | other
  deriving DecidableEq, Repr

/-- The next statement of `dns_server`. -/
inductive Pc
  | socket
  /-- `socket` has returned `fd`, which is not stored yet. -/
  | store (fd : Nat)
  | bind
  | serve
  /-- The task is deleted, and `dns_server_stop` has not closed `socket_fd` yet; `opened`
  says whether it was the task's. -/
  | deleted (opened : Bool)
  deriving DecidableEq, Repr

namespace Pc

/-- `socket_fd` is the socket of this task. -/
def opened : Pc → Bool
  | socket | store _ => false
  | bind | serve => true
  | deleted opened => opened

/-- The socket that only the stack of the task knows. -/
def unstored : Pc → List Nat
  | store fd => [fd]
  | _ => []

end Pc

structure State where
  /-- The open sockets. -/
  sockets : Nat → Option Owner
  socketFd : Nat
  /-- `task_dns_server`, and where the task is. -/
  taskDnsServer : Option Pc
  /-- History: the sockets of others that `dns_server_stop` has closed. -/
  misclosed : List Nat
  /-- History: the sockets that were open when their task was deleted, and that no variable
  held. -/
  leaked : List Nat

inductive Act
  | start
  /-- `dns_server_stop`, to the end of `vTaskDelete`. -/
  | stop
  /-- The rest of `dns_server_stop`. -/
  | stopClose
  /-- The next statement of `dns_server`; `socket` returns `fd`. -/
  | dnsServer (fd : Nat)
  /-- Another task opens a socket, or closes one of its own. -/
  | open (fd : Nat)
  | close (fd : Nat)
  deriving DecidableEq, Repr

def dnsServerStart (s : State) : Option State :=
  match s.taskDnsServer with
  | none => some { s with taskDnsServer := some .socket }
  -- The manager is in `dns_server_stop`.
  | some (.deleted _) => none
  | some _ => some s

def dnsServerStop (s : State) : Option State :=
  match s.taskDnsServer with
  | none => some s
  | some (.deleted _) => none
  | some pc => some { s with
      taskDnsServer := some (.deleted pc.opened)
      leaked := s.leaked ++ pc.unstored }

/-- `close(socket_fd)`, which fails if that is not open, and `task_dns_server = NULL`. -/
def dnsServerStopClose (s : State) : Option State :=
  match s.taskDnsServer with
  | some (.deleted _) => some { s with
      sockets := Function.update s.sockets s.socketFd none
      taskDnsServer := none
      misclosed := if s.sockets s.socketFd = some .other then s.misclosed ++ [s.socketFd]
        else s.misclosed }
  | _ => none

def dnsServer (s : State) (fd : Nat) : Option State :=
  match s.taskDnsServer with
  | none | some (.deleted _) => none
  | some .socket =>
    if s.sockets fd = none then
      some { s with
        sockets := Function.update s.sockets fd (some .dnsServer)
        taskDnsServer := some (.store fd) }
    else none
  | some (.store fd) => some { s with socketFd := fd, taskDnsServer := some .bind }
  | some .bind => some { s with taskDnsServer := some .serve }
  | some .serve => some s

def step (s : State) : Act → Option State
  | .start => dnsServerStart s
  | .stop => dnsServerStop s
  | .stopClose => dnsServerStopClose s
  | .dnsServer fd => dnsServer s fd
  | .open fd =>
    if s.sockets fd = none then
      some { s with sockets := Function.update s.sockets fd (some .other) }
    else none
  | .close fd =>
    if s.sockets fd = some .other then
      some { s with sockets := Function.update s.sockets fd none }
    else none

def boot : State where
  sockets _ := none
  socketFd := 0
  taskDnsServer := none
  misclosed := []
  leaked := []

def system : System State Act where
  Init s := s = boot
  step := step

/-- No socket of another task is closed, and no socket is lost. -/
structure Unharmed (s : State) : Prop where
  misclosed : s.misclosed = []
  leaked : s.leaked = []

/-- The task is not deleted while it has a socket that it has not stored; and if it is
deleted before, then another task does not have the old number when that is closed. -/
def patient (s : State) : Act → Bool
  | .stop =>
    match s.taskDnsServer with
    | some (.store _) => false
    | _ => true
  | .stopClose =>
    match s.taskDnsServer with
    | some (.deleted false) => s.sockets s.socketFd ≠ some .other
    | _ => true
  | .start | .dnsServer _ | .open _ | .close _ => true

def Patient (s : State) (a : Act) : Prop := patient s a = true

instance (s : State) (a : Act) : Decidable (Patient s a) := inferInstanceAs (Decidable (_ = _))

/-! ### What a step can do -/

inductive Step (s : State) : Act → State → Prop
  | start (ht : s.taskDnsServer = none) :
    Step s .start { s with taskDnsServer := some .socket }
  | startAgain : Step s .start s
  | stopNone (ht : s.taskDnsServer = none) : Step s .stop s
  | stop {pc : Pc} (ht : s.taskDnsServer = some pc) :
    Step s .stop { s with
      taskDnsServer := some (.deleted pc.opened)
      leaked := s.leaked ++ pc.unstored }
  | stopClose {opened : Bool} (ht : s.taskDnsServer = some (.deleted opened)) :
    Step s .stopClose { s with
      sockets := Function.update s.sockets s.socketFd none
      taskDnsServer := none
      misclosed := if s.sockets s.socketFd = some .other then s.misclosed ++ [s.socketFd]
        else s.misclosed }
  | socket {fd : Nat} (ht : s.taskDnsServer = some .socket) (hfree : s.sockets fd = none) :
    Step s (.dnsServer fd) { s with
      sockets := Function.update s.sockets fd (some .dnsServer)
      taskDnsServer := some (.store fd) }
  | store {fd fd' : Nat} (ht : s.taskDnsServer = some (.store fd)) :
    Step s (.dnsServer fd') { s with socketFd := fd, taskDnsServer := some .bind }
  | bind {fd : Nat} (ht : s.taskDnsServer = some .bind) :
    Step s (.dnsServer fd) { s with taskDnsServer := some .serve }
  | serve {fd : Nat} (ht : s.taskDnsServer = some .serve) : Step s (.dnsServer fd) s
  | open {fd : Nat} (hfree : s.sockets fd = none) :
    Step s (.open fd) { s with sockets := Function.update s.sockets fd (some .other) }
  | close {fd : Nat} (hother : s.sockets fd = some .other) :
    Step s (.close fd) { s with sockets := Function.update s.sockets fd none }

variable {s s' : State}

theorem step_cases {a : Act} (h : step s a = some s') : Step s a s' := by
  cases a with
  | start =>
    simp only [step, dnsServerStart] at h
    split at h
    · exact Option.some.inj h ▸ .start ‹_›
    · cases h
    · exact Option.some.inj h ▸ .startAgain
  | stop =>
    simp only [step, dnsServerStop] at h
    split at h
    · exact Option.some.inj h ▸ .stopNone ‹_›
    · cases h
    · exact Option.some.inj h ▸ .stop ‹_›
  | stopClose =>
    simp only [step, dnsServerStopClose] at h
    split at h
    · exact Option.some.inj h ▸ .stopClose ‹_›
    · cases h
  | dnsServer fd =>
    simp only [step, dnsServer] at h
    split at h
    · cases h
    · cases h
    · obtain ⟨hfree, h⟩ := Option.ite_none_right_eq_some.mp h
      exact Option.some.inj h ▸ .socket ‹_› hfree
    · exact Option.some.inj h ▸ .store ‹_›
    · exact Option.some.inj h ▸ .bind ‹_›
    · exact Option.some.inj h ▸ .serve ‹_›
  | «open» fd =>
    obtain ⟨hfree, h⟩ := Option.ite_none_right_eq_some.mp h
    exact Option.some.inj h ▸ .open hfree
  | close fd =>
    obtain ⟨hother, h⟩ := Option.ite_none_right_eq_some.mp h
    exact Option.some.inj h ▸ .close hother

/-! ### The sockets of the name server -/

/-- **Where the sockets of the name server are.** -/
structure Sound (s : State) : Prop where
  /-- One that is open is known, to the task or as `socket_fd`. -/
  owned : ∀ fd, s.sockets fd = some .dnsServer → s.taskDnsServer = some (.store fd) ∨
    fd = s.socketFd ∧ ∃ pc, s.taskDnsServer = some pc ∧ pc.opened = true
  /-- What is known is open, and the name server's. -/
  stored : ∀ fd, s.taskDnsServer = some (.store fd) → s.sockets fd = some .dnsServer
  known : ∀ pc, s.taskDnsServer = some pc → pc.opened = true →
    s.sockets s.socketFd = some .dnsServer

theorem sound_boot : Sound boot where
  owned fd h := by cases h
  stored fd h := by cases h
  known pc h := by cases h

/-- A socket that is not the name server's is opened or closed. -/
theorem Sound.other (h : Sound s) {fd : Nat} {o : Option Owner} (ho : o ≠ some .dnsServer)
    (hfd : s.sockets fd ≠ some .dnsServer) :
    Sound { s with sockets := Function.update s.sockets fd o } := by
  have hkeep : ∀ {x}, s.sockets x = some .dnsServer →
      Function.update s.sockets fd o x = some .dnsServer := by
    intro x hx
    rw [Function.update_of_ne, hx]
    rintro rfl
    exact hfd hx
  refine ⟨fun x hx => ?_, fun x hx => hkeep (h.stored x hx),
    fun pc hpc hopened => hkeep (h.known pc hpc hopened)⟩
  change Function.update s.sockets fd o x = some .dnsServer at hx
  by_cases hxfd : x = fd
  · subst hxfd
    rw [Function.update_self] at hx
    exact absurd hx ho
  · rw [Function.update_of_ne hxfd] at hx
    exact h.owned x hx

/-- A socket of the name server is `socket_fd`, unless it is not stored yet. -/
theorem Sound.owned_of_pc (h : Sound s) {pc : Pc} (ht : s.taskDnsServer = some pc)
    (hstore : pc.unstored = []) {fd : Nat} (hfd : s.sockets fd = some .dnsServer) :
    fd = s.socketFd ∧ pc.opened = true := by
  rcases h.owned fd hfd with howned | ⟨howned, pc', ht', hopened⟩
  · rw [ht] at howned
    cases howned
    cases hstore
  · rw [ht] at ht'
    cases ht'
    exact ⟨howned, hopened⟩

theorem Sound.step {a : Act} (h : Sound s) (hok : Patient s a) (hs : Step s a s') : Sound s' := by
  cases hs with
  | start ht =>
    refine ⟨fun x hx => ?_, fun x hx => (by cases hx), fun pc hpc hopened => ?_⟩
    · have howned := h.owned x hx
      rw [ht] at howned
      rcases howned with howned | ⟨-, pc, howned, -⟩ <;> cases howned
    · cases hpc
      cases hopened
  | startAgain => exact h
  | stopNone => exact h
  | @stop pc ht =>
    have hstore : pc.unstored = [] := by
      cases pc with
      | store fd =>
        rw [Patient, patient, ht] at hok
        cases hok
      | _ => rfl
    refine ⟨fun x hx => ?_, fun x hx => (by cases hx), fun pc' hpc' hopened => ?_⟩
    · obtain ⟨hfd, hopened⟩ := h.owned_of_pc ht hstore hx
      exact .inr ⟨hfd, _, rfl, hopened⟩
    · cases hpc'
      exact h.known pc ht hopened
  | stopClose ht =>
    refine ⟨fun x hx => ?_, fun x hx => (by cases hx), fun pc hpc => (by cases hpc)⟩
    change Function.update s.sockets s.socketFd none x = some .dnsServer at hx
    by_cases hxfd : x = s.socketFd
    · subst hxfd
      rw [Function.update_self] at hx
      cases hx
    · rw [Function.update_of_ne hxfd] at hx
      exact absurd (h.owned_of_pc ht rfl hx).1 hxfd
  | @socket fd ht hfree =>
    refine ⟨fun x hx => ?_, fun x hx => ?_, fun pc hpc hopened => ?_⟩
    · change Function.update s.sockets fd (some .dnsServer) x = some .dnsServer at hx
      by_cases hxfd : x = fd
      · subst hxfd
        exact .inl rfl
      · rw [Function.update_of_ne hxfd] at hx
        cases (h.owned_of_pc ht rfl hx).2
    · cases hx
      exact Function.update_self _ _ _
    · cases hpc
      cases hopened
  | @store fd fd' ht =>
    refine ⟨fun x hx => ?_, fun x hx => (by cases hx), fun _ _ _ => h.stored fd ht⟩
    rcases h.owned x hx with howned | ⟨-, pc, howned, hopened⟩
    · rw [ht] at howned
      cases howned
      exact .inr ⟨rfl, _, rfl, rfl⟩
    · rw [ht] at howned
      cases howned
      cases hopened
  | bind ht =>
    refine ⟨fun x hx => ?_, fun x hx => (by cases hx), fun _ _ _ => h.known _ ht rfl⟩
    exact .inr ⟨(h.owned_of_pc ht rfl hx).1, _, rfl, rfl⟩
  | serve => exact h
  | «open» hfree => exact h.other (by simp) (by simp [hfree])
  | close hother => exact h.other (by simp) (by simp [hother])

/-- **While nobody is impatient**, the name server has at most one socket: none while it is
stopped, and its own while it is at work. -/
theorem sound_of_patient (h : system.Reaches Patient s) : Sound s := by
  refine h.invariant ?_ fun s a s' hsound hok hs => hsound.step hok (step_cases hs)
  rintro _ rfl
  exact sound_boot

/-! ### The harm -/

theorem prefix_step {a : Act} (hs : Step s a s') :
    s.misclosed <+: s'.misclosed ∧ s.leaked <+: s'.leaked := by
  cases hs with
  | stop => exact ⟨List.prefix_rfl, List.prefix_append _ _⟩
  | stopClose =>
    refine ⟨?_, List.prefix_rfl⟩
    dsimp only
    split
    · exact List.prefix_append _ _
    · exact List.prefix_rfl
  | _ => exact ⟨List.prefix_rfl, List.prefix_rfl⟩

/-- A step does no harm exactly if it is patient. -/
theorem patient_iff {a : Act} (hsound : Sound s) (h : Unharmed s) (hs : Step s a s') :
    Patient s a ↔ Unharmed s' := by
  cases hs with
  | stopNone ht =>
    refine iff_of_true ?_ h
    rw [Patient, patient, ht]
  | @stop pc ht =>
    rw [Patient, patient, ht]
    cases pc with
    | store fd =>
      refine iff_of_false Bool.false_ne_true fun hs' => ?_
      exact List.append_ne_nil_of_right_ne_nil _ (List.cons_ne_nil _ _) hs'.leaked
    | _ => exact iff_of_true rfl ⟨h.misclosed, (List.append_nil _).trans h.leaked⟩
  | @stopClose opened ht =>
    have hpatient : Patient s .stopClose ↔ s.sockets s.socketFd ≠ some .other := by
      rw [Patient, patient, ht]
      cases opened with
      | false => simp
      | true =>
        refine iff_of_true rfl ?_
        rw [hsound.known _ ht rfl]
        simp
    rw [hpatient]
    by_cases hother : s.sockets s.socketFd = some .other
    · refine iff_of_false (not_not.mpr hother) fun hs' => ?_
      have hnil := hs'.misclosed
      dsimp only at hnil
      rw [if_pos hother] at hnil
      exact List.append_ne_nil_of_right_ne_nil _ (List.cons_ne_nil _ _) hnil
    · refine iff_of_true hother ⟨?_, h.leaked⟩
      dsimp only
      rw [if_neg hother]
      exact h.misclosed
  | _ => exact iff_of_true rfl ⟨h.misclosed, h.leaked⟩

/-- **The runs that do no harm** are those in which every stop is patient. -/
theorem reaches_patient_iff : system.Reaches Patient s ↔ system.Reachable s ∧ Unharmed s := by
  refine System.Reaches.iff_reachable_and ?_ ?_ ?_
  · rintro _ rfl
    exact ⟨rfl, rfl⟩
  · intro s a s' hs hunharmed
    obtain ⟨hmisclosed, hleaked⟩ := prefix_step (step_cases hs)
    rw [hunharmed.misclosed] at hmisclosed
    rw [hunharmed.leaked] at hleaked
    exact ⟨List.prefix_nil.mp hmisclosed, List.prefix_nil.mp hleaked⟩
  · intro s a s' hrun hunharmed hs
    exact patient_iff (sound_of_patient hrun) hunharmed (step_cases hs)

/-- The name server is started again, and stopped before it has come to its first statement,
after the HTTP server has got the old number. -/
theorem exists_misclosed :
    ∃ s, system.Reachable s ∧ s.misclosed = [3] ∧ s.taskDnsServer = none :=
  System.exists_of_execute
    [.start, .dnsServer 3, .dnsServer 0, .dnsServer 0, .stop, .stopClose, .open 3, .start, .stop,
      .stopClose]
    (s := boot) rfl (by decide +kernel)

theorem sound_of_patient_restarted : ∃ s, system.Reaches Patient s ∧ Sound s ∧
    s.sockets 3 = some .other ∧ s.sockets 4 = some .dnsServer ∧ s.taskDnsServer = some .serve := by
  have hrun : ∃ s, system.Reaches Patient s ∧ s.sockets 3 = some .other ∧
      s.sockets 4 = some .dnsServer ∧ s.taskDnsServer = some .serve :=
    System.exists_of_execute
      [.start, .dnsServer 3, .dnsServer 0, .dnsServer 0, .stop, .stopClose, .open 3, .start,
        .dnsServer 4, .dnsServer 0, .dnsServer 0]
      (s := boot) rfl (by decide +kernel)
  obtain ⟨s, hs, hsockets⟩ := hrun
  exact ⟨s, hs, sound_of_patient hs, hsockets⟩

end Datk.Dns.Lifecycle
