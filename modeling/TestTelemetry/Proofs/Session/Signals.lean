/-
What the handlers of a session do.

* `Session.handlerOf`, `Session.handle_eq` — each signal is answered by the handler of its kind;
* `Session.handle_moduleResult` — a worker's result is taken in;
* `Session.handle_ne_misrouted` — no handler ever complains of a signal of another kind.
-/
import TestTelemetry.Session.Basic

namespace TestTelemetry

namespace Session

variable (s : Session) (t : FileTree)

/-- The handler of a kind of signals. -/
def handlerOf (t : FileTree) : SignalKind → SignalHandler Session
  | .moduleResult => onResult
  | .moduleSettings => onSettingsRequest t
  | .repoIndex => onIndexRequest t

theorem find?_handlers (k : SignalKind) : (handlers t).find? k = some (handlerOf t k) := by
  cases k <;> rfl

/-- A signal is answered by the handler of its kind. -/
theorem handle_eq (signal : Signal) :
    handle (handlers t) signal s =
      (responseOf signal.kind (handlerOf t signal.kind signal s).1,
        (handlerOf t signal.kind signal s).2) := by
  rw [handle, find?_handlers]

theorem handle_moduleResult (r : ModuleResult) :
    handle (handlers t) (.moduleResult r) s =
      (.moduleAck (s.acceptResult r).1, (s.acceptResult r).2) := rfl

/-! ### Signals of another kind -/

/-- How a message begins that tells of a chain of causes. -/
theorem head?_causesMessage {context : String} {c : Char} (hc : context.toList.head? = some c)
    (causes : List String) : (causesMessage (context :: causes)).toList.head? = some c := by
  rw [causesMessage, String.toList_intercalate]
  cases causes <;> simp [List.intercalate, hc]

/-- How the message begins that tells of a signal of another kind. -/
theorem head?_misrouted (signal : Signal) (k : SignalKind) {message : String}
    (h : responseOf signal.kind (misrouted signal k) = .error message) :
    message.toList.head? = some 'm' ∨ message.toList.head? = some 'r' := by
  obtain rfl := Response.error.inj h
  cases signal with
  | moduleResult r =>
    exact .inl (head?_causesMessage (by simp [Signal.kind, SignalKind.name]) [])
  | repoIndex =>
    exact .inr (head?_causesMessage (by simp [Signal.kind, SignalKind.name]) [])
  | moduleSettings q =>
    exact .inl (head?_causesMessage (by simp [Signal.kind, SignalKind.name]) [])

/-- How the message begins that tells of a failure within a context. -/
theorem head?_within (context : String) {kind : SignalKind} {α : Type} {answer : Attempt α}
    {f : α → Response} (hcontext : context.toList.head? = some 'E')
    (hf : ∀ x message, f x ≠ .error message) {message : String}
    (h : responseOf kind ((answer.map f).within context) = .error message) :
    message.toList.head? = some 'E' ∨ message.toList.head? = some 'H' := by
  cases answer with
  | done x => exact absurd h (hf x message)
  | failed causes =>
    obtain rfl := Response.error.inj h
    exact .inl (head?_causesMessage hcontext causes)
  | brokeOff text =>
    obtain rfl := Response.error.inj h
    exact .inr (by simp [brokeOffMessage])

/-- **No handler complains of a signal of another kind.** -/
theorem handle_ne_misrouted (signal : Signal) (k : SignalKind) :
    (handle (handlers t) signal s).1 ≠ responseOf signal.kind (misrouted signal k) := by
  intro heq
  have hother := head?_misrouted signal k rfl
  have hown : ∀ message, (handle (handlers t) signal s).1 = .error message →
      message.toList.head? = some 'E' ∨ message.toList.head? = some 'H' := by
    intro message hmessage
    cases signal with
    | moduleResult r => cases hmessage
    | repoIndex =>
      exact head?_within indexContext (by simp [indexContext])
        (fun _ _ => Response.noConfusion) hmessage
    | moduleSettings q =>
      exact head?_within settingsContext (by simp [settingsContext])
        (fun _ _ => Response.noConfusion) hmessage
  rcases hother with h | h <;> rcases hown _ heq with h' | h' <;>
    exact absurd (h.symm.trans h') (by decide)

end Session

end TestTelemetry
