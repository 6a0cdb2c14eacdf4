/-
The ends that a program can come to. `p.Ends es a` says that, with some answers to its calls, the
program goes through the events `es` and ends with `a`. The ends of a program that goes on with another
one are put together from the ends of both.
-/
import RecordStore.Schedule.World

namespace RecordStore

variable {B : Boundary} {α β : Type}

namespace Program

/-- The program can go through these events and then end with this result. -/
def Ends : Program B α → List (Event B) → α → Prop
  | done b, es, a => es = [] ∧ b = a
  | call k next, es, a => ∃ r fs, es = .called k :: .answered k r :: fs ∧ (next r).Ends fs a
  | draw next, es, a => ∃ r fs, es = .drew r :: fs ∧ (next r).Ends fs a
  | log r next, es, a => ∃ fs, es = .logged r :: fs ∧ next.Ends fs a
  | connect _ next, es, a => ∃ fs, es = .became .connected :: fs ∧ next.Ends fs a
  | close next, es, a => ∃ fs, es = .became .closed :: fs ∧ next.Ends fs a

/-- Every program can come to an end: each of its calls may fail. -/
theorem exists_ends : ∀ p : Program B α, ∃ es a, p.Ends es a
  | done a => ⟨[], a, rfl, rfl⟩
  | call _ next =>
    have ⟨es, a, h⟩ := exists_ends (next (.error ⟨.iterationEnd, ""⟩))
    ⟨_, a, _, es, rfl, h⟩
  | draw next =>
    have ⟨es, a, h⟩ := exists_ends (next (.error ⟨.iterationEnd, ""⟩))
    ⟨_, a, _, es, rfl, h⟩
  | log _ next => have ⟨es, a, h⟩ := exists_ends next; ⟨_, a, es, rfl, h⟩
  | connect _ next => have ⟨es, a, h⟩ := exists_ends next; ⟨_, a, es, rfl, h⟩
  | close next => have ⟨es, a, h⟩ := exists_ends next; ⟨_, a, es, rfl, h⟩

/-- A program that goes on with another one ends where the other one does. -/
theorem Ends.of_bind {p : Program B α} {f : α → Program B β} {es : List (Event B)} {b : β}
    (h : (p.bind f).Ends es b) :
    ∃ es₁ a es₂, es = es₁ ++ es₂ ∧ p.Ends es₁ a ∧ (f a).Ends es₂ b := by
  induction p generalizing es with
  | done a => exact ⟨[], a, es, rfl, ⟨rfl, rfl⟩, h⟩
  | call k next ih =>
    obtain ⟨r, fs, rfl, h⟩ := h
    obtain ⟨es₁, a, es₂, rfl, h₁, h₂⟩ := ih r h
    exact ⟨_, a, es₂, rfl, ⟨r, es₁, rfl, h₁⟩, h₂⟩
  | draw next ih =>
    obtain ⟨r, fs, rfl, h⟩ := h
    obtain ⟨es₁, a, es₂, rfl, h₁, h₂⟩ := ih r h
    exact ⟨_, a, es₂, rfl, ⟨r, es₁, rfl, h₁⟩, h₂⟩
  | log _ next ih =>
    obtain ⟨fs, rfl, h⟩ := h
    obtain ⟨es₁, a, es₂, rfl, h₁, h₂⟩ := ih h
    exact ⟨_, a, es₂, rfl, ⟨es₁, rfl, h₁⟩, h₂⟩
  | connect _ next ih =>
    obtain ⟨fs, rfl, h⟩ := h
    obtain ⟨es₁, a, es₂, rfl, h₁, h₂⟩ := ih h
    exact ⟨_, a, es₂, rfl, ⟨es₁, rfl, h₁⟩, h₂⟩
  | close next ih =>
    obtain ⟨fs, rfl, h⟩ := h
    obtain ⟨es₁, a, es₂, rfl, h₁, h₂⟩ := ih h
    exact ⟨_, a, es₂, rfl, ⟨es₁, rfl, h₁⟩, h₂⟩

theorem Ends.of_andThen {p : Program B (Except Fault α)} {f : α → Program B (Except Fault β)}
    {es : List (Event B)} {b : Except Fault β} (h : (p.andThen f).Ends es b) :
    (∃ e, p.Ends es (.error e) ∧ b = .error e) ∨
      ∃ es₁ a es₂, es = es₁ ++ es₂ ∧ p.Ends es₁ (.ok a) ∧ (f a).Ends es₂ b := by
  obtain ⟨es₁, r, es₂, rfl, h₁, h₂⟩ := h.of_bind
  cases r with
  | ok a => exact .inr ⟨es₁, a, es₂, rfl, h₁, h₂⟩
  | error e =>
    obtain ⟨rfl, rfl⟩ := h₂
    exact .inl ⟨e, by rwa [List.append_nil], rfl⟩

end Program

end RecordStore
