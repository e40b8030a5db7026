import CleanRoom.Library.Interaction
import Mathlib.Logic.Relation

/-!
# Programs by their requests

A program of which every request is of a kind keeps what each request of that kind keeps.
-/

namespace CleanRoom.Interaction

variable {Request : Type} {Answer : Request → Type} {Error : Type}

section

variable {State Value Other : Type} {responds : Responds State Answer}

/-- Every request of the program is of a kind. -/
def Makes (allowed : Request → Prop) : Program Request Answer Error Value → Prop
  | .done _ => True
  | .fail _ => True
  | .perform request next => allowed request ∧ ∀ answer, Makes allowed (next answer)

section

variable {allowed : Request → Prop}

theorem makes_bind (program : Program Request Answer Error Value)
    (next : Value → Program Request Answer Error Other) (first : Makes allowed program)
    (second : ∀ value, Makes allowed (next value)) : Makes allowed (program >>= next) := by
  induction program with
  | done value => exact second value
  | fail error => trivial
  | perform request rest ih => exact ⟨first.1, fun answer => ih answer (first.2 answer)⟩

theorem correct_of_makes (discipline : Discipline State)
    (keeps : ∀ request before answer after, allowed request → discipline.invariant before →
      responds request before answer after →
        discipline.invariant after ∧ discipline.later before after)
    (program : Program Request Answer Error Value) (makes : Makes allowed program)
    (state : State) : Correct responds discipline (Returns fun _ _ => True) program state := by
  induction program generalizing state with
  | done value => trivial
  | fail error => trivial
  | perform request next ih =>
      intro before invariant _ answer after answered
      obtain ⟨kept, later⟩ := keeps request before answer after makes.1 invariant answered
      exact ⟨kept, later, ih answer (makes.2 answer) after⟩

theorem makes_ask (request : Request) (known : allowed request) :
    Makes allowed (Program.ask request : Program Request Answer Error (Answer request)) :=
  ⟨known, fun _ => trivial⟩

theorem makes_of_except (computation : Except Error Value) :
    Makes allowed (Program.ofExcept computation : Program Request Answer Error Value) := by
  cases computation with
  | ok value => trivial
  | error error => trivial

end

end

end CleanRoom.Interaction
