import Mathlib.Data.List.Basic
import Mathlib.Data.List.Induction
import Mathlib.Data.List.Perm.Subperm

/-!
# Mailboxes that are opened again

A sender writes a history.  A receiver opens a mailbox at some moment, takes the messages
sent from then on in their order, and may lose the mailbox and open another one later.
What it has received is then part of the history, in order and without repetition, and
since the last opening nothing is missing but what the mailbox still holds.
-/

namespace BinanceApi

/-- The messages that were sent since a mailbox was opened, and how many of them were
taken. -/
structure Mailbox (α : Type*) where
  sent : List α := []
  taken : Nat := 0
  deriving DecidableEq, Repr

namespace Mailbox

variable {α : Type*} {history received : List α} {message : α} {mailbox : Mailbox α}

/-- The oldest message that was not taken. -/
def head? (mailbox : Mailbox α) : Option α :=
  mailbox.sent[mailbox.taken]?

def push (mailbox : Mailbox α) (message : α) : Mailbox α :=
  { mailbox with sent := mailbox.sent ++ [message] }

def take (mailbox : Mailbox α) : Mailbox α :=
  { mailbox with taken := mailbox.taken + 1 }

/-- Messages that were not taken yet. -/
def waiting (mailbox : Mailbox α) : List α :=
  mailbox.sent.drop mailbox.taken

/-- The history up to the opening of the mailbox and since then, and what was received of
both parts. -/
def Resumes (mailbox : Mailbox α) (history received : List α) : Prop :=
  mailbox.taken ≤ mailbox.sent.length ∧
    ∃ old earlier, history = old ++ mailbox.sent ∧
      received = earlier ++ mailbox.sent.take mailbox.taken ∧ earlier.Sublist old

/-- A mailbox may be opened wherever the history was received in order. -/
theorem resumes_open (inOrder : received.Sublist history) :
    ({} : Mailbox α).Resumes history received :=
  ⟨Nat.le_refl 0, history, received, by simp, by simp, inOrder⟩

/-- What is written before anything is sent to the mailbox belongs to the old part. -/
theorem Resumes.miss (resumes : ({} : Mailbox α).Resumes history received)
    (message : α) : ({} : Mailbox α).Resumes (history ++ [message]) received := by
  rcases resumes with ⟨-, old, earlier, rfl, rfl, inOrder⟩
  apply resumes_open
  simpa using inOrder.trans (List.sublist_append_left old [message])

theorem Resumes.push (resumes : mailbox.Resumes history received) (message : α) :
    (mailbox.push message).Resumes (history ++ [message]) received := by
  rcases resumes with ⟨bound, old, earlier, rfl, rfl, inOrder⟩
  refine ⟨?_, old, earlier, ?_, ?_, inOrder⟩
  · simpa [Mailbox.push] using Nat.le_succ_of_le bound
  · simp [Mailbox.push]
  · simp [Mailbox.push, List.take_append_of_le_length bound]

theorem Resumes.take (resumes : mailbox.Resumes history received)
    (head : mailbox.head? = some message) :
    mailbox.take.Resumes history (received ++ [message]) := by
  rcases resumes with ⟨-, old, earlier, rfl, rfl, inOrder⟩
  rcases List.getElem?_eq_some_iff.mp head with ⟨inside, atHead⟩
  refine ⟨inside, old, earlier, rfl, ?_, inOrder⟩
  simp [Mailbox.take, List.take_add_one, List.getElem?_eq_getElem inside, atHead]

/-- Received messages are messages of the history, in its order. -/
theorem Resumes.inOrder (resumes : mailbox.Resumes history received) :
    received.Sublist history := by
  rcases resumes with ⟨-, old, earlier, rfl, rfl, inOrder⟩
  exact inOrder.append (List.take_sublist _ _)

/-- What was received since the opening and what is waiting are what was sent since
then. -/
theorem Resumes.complete (resumes : mailbox.Resumes history received) :
    ∃ old earlier recent, history = old ++ (recent ++ mailbox.waiting) ∧
      received = earlier ++ recent ∧ recent ++ mailbox.waiting = mailbox.sent ∧
      earlier.Sublist old := by
  rcases resumes with ⟨-, old, earlier, rfl, rfl, inOrder⟩
  have split := List.take_append_drop mailbox.taken mailbox.sent
  exact ⟨old, earlier, _, by rw [waiting, split], rfl, split, inOrder⟩

/-! ## Many receivers -/

variable {κ : Type*} [DecidableEq κ]

/-- The messages of a history that are addressed to a key. -/
def addressed (key : κ) (history : List (κ × α)) : List α :=
  (history.filter fun entry => entry.1 = key).map Prod.snd

theorem addressed_concat (key : κ) (history : List (κ × α)) (last : κ × α) :
    addressed key (history ++ [last]) =
      if last.1 = key then addressed key history ++ [last.2] else addressed key history := by
  simp only [addressed, List.filter_append, List.filter_singleton, List.map_append]
  split <;> simp_all

theorem count_addressed [DecidableEq α] (key : κ) (message : α)
    (history : List (κ × α)) :
    (addressed key history).count message = history.count (key, message) := by
  induction history using List.reverseRecOn with
  | nil => rfl
  | append_singleton history last ih =>
      rw [addressed_concat, List.count_append, List.count_singleton, ← ih]
      split
      next same => simp [List.count_append, List.count_singleton, ← same, Prod.ext_iff]
      next other => simp [Prod.ext_iff, other]

/-- What is received in order under every key is received once at most. -/
theorem subperm_of_addressed {received history : List (κ × α)}
    (inOrder : ∀ key, (addressed key received).Sublist (addressed key history)) :
    received.Subperm history := by
  classical
  apply List.subperm_ext_iff.mpr
  rintro ⟨key, message⟩ -
  rw [← count_addressed, ← count_addressed]
  exact (inOrder key).count_le message

end Mailbox

end BinanceApi
