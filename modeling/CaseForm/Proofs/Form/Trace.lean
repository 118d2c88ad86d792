import CaseForm.Proofs.Form.Keeping

/-!
Traces: the runs of a form, command by command.

A trace keeps for each command the situation before it, its result and the situation after it. What
every command keeps leads through the whole trace (`Command.pairwise_trace`), and commands that are
left out of a run without a trace leave the rest of it as it was (`Command.trace_filter`).
-/

namespace CaseForm

/-- A command of a run, with its result and the situations around it. -/
structure Event where
  before : Situation
  command : Command
  result : Except FormError Outcome
  after : Situation

namespace Command

/-- The events of commands one after another. -/
def trace : List Command → Situation → List Event
  | [], _ => []
  | command :: commands, s =>
    let (result, next) := command.step s
    ⟨s, command, result, next⟩ :: trace commands next

variable {command : Command} {commands : List Command} {s : Situation}

theorem trace_cons (command : Command) (commands : List Command) (s : Situation) :
    trace (command :: commands) s =
      ⟨s, command, (command.step s).1, (command.step s).2⟩ :: trace commands (command.step s).2 :=
  rfl

theorem step_snd (command : Command) (s : Situation) :
    (command.step s).2 = command.perform.after s := by
  rw [step, Run.after]
  cases command.perform s <;> rfl

/-- Each event of a run is a step. -/
theorem step_of_mem_trace {event : Event} (mem : event ∈ trace commands s) :
    event.command.step event.before = (event.result, event.after) := by
  induction commands generalizing s with
  | nil => cases mem
  | cons command commands ih =>
    rcases List.mem_cons.1 mem with rfl | mem
    · rfl
    · exact ih mem

theorem after_of_mem_trace {event : Event} (mem : event ∈ trace commands s) :
    event.after = event.command.perform.after event.before := by
  rw [← step_snd, step_of_mem_trace mem]

section Keeps

variable {R : Situation → Situation → Prop} (refl : ∀ s, R s s)
  (trans : ∀ {a b c}, R a b → R b c → R a c) (keeps : ∀ command : Command, command.perform.Keeps R)

include refl trans keeps

/-- What every command keeps leads to every event of a run. -/
theorem leads_to_event {event : Event} (mem : event ∈ trace commands s) : R s event.before := by
  induction commands generalizing s with
  | nil => cases mem
  | cons command commands ih =>
    rcases List.mem_cons.1 mem with rfl | mem
    · exact refl s
    · refine trans (keeps command s) ?_
      rw [← step_snd]
      exact ih mem

/-- What every command keeps leads to the end of a run. -/
theorem leads_runAll (commands : List Command) (s : Situation) : R s (runAll commands s).2 := by
  induction commands generalizing s with
  | nil => exact refl s
  | cons command commands ih =>
    refine trans (keeps command s) ?_
    rw [← step_snd]
    exact ih _

/-- What every command keeps leads from every event of a run to the later ones. -/
theorem pairwise_trace (commands : List Command) (s : Situation) :
    (trace commands s).Pairwise fun event later => R event.after later.before := by
  induction commands generalizing s with
  | nil => exact .nil
  | cons command commands ih =>
    refine .cons ?_ (ih _)
    intro later mem
    exact leads_to_event refl trans keeps mem

end Keeps

/-- Commands that change nothing may be left out of a run: the other events stay as they were, and
so does the situation at the end. -/
theorem trace_filter (keep : Event → Bool)
    (idle : ∀ event ∈ trace commands s, keep event = false → event.after = event.before) :
    let kept := (trace commands s).filter keep
    trace (kept.map Event.command) s = kept ∧
      (runAll (kept.map Event.command) s).2 = (runAll commands s).2 := by
  induction commands generalizing s with
  | nil => exact ⟨rfl, rfl⟩
  | cons command commands ih =>
    rw [trace_cons, List.forall_mem_cons] at idle
    obtain ⟨here, idle⟩ := idle
    obtain ⟨events, last⟩ := ih idle
    rw [trace_cons, List.filter_cons]
    cases keeps : keep ⟨s, command, (command.step s).1, (command.step s).2⟩ with
    | true =>
      simp only [if_true, List.map_cons, trace_cons, runAll, events, last, and_self]
    | false =>
      have same : (command.step s).2 = s := here keeps
      simp only [Bool.false_eq_true, if_false, runAll]
      rw [same] at events last ⊢
      exact ⟨events, last⟩

end Command

end CaseForm
