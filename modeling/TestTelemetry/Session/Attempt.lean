/-
Computations that can fail.

What a session asks of others either succeeds, fails with a chain of causes, the
outermost first, or breaks off with a text that may be missing.

* `Attempt` — how such a computation ends;
* `Attempt.within` — a failure seen from further outside.
-/

namespace TestTelemetry

/-- How a computation ended. -/
inductive Attempt (α : Type)
  | done (x : α)
  | failed (causes : List String)
  | brokeOff (text : Option String)
deriving DecidableEq, Repr

/-- A chain of causes as one message. -/
def causesMessage (causes : List String) : String := String.intercalate ": " causes

/-- What stands for the text of a computation that broke off without one. -/
def unknownBreak : String := "unknown panic"

namespace Attempt

variable {α β : Type}

def map (f : α → β) : Attempt α → Attempt β
  | done x => done (f x)
  | failed causes => failed causes
  | brokeOff text => brokeOff text

/-- Put what was being done in front of the causes of a failure. -/
def within (context : String) : Attempt α → Attempt α
  | failed causes => failed (context :: causes)
  | a => a

/-- The value, if there is one. -/
def value? : Attempt α → Option α
  | done x => some x
  | _ => none

@[simp]
theorem value?_map (f : α → β) (a : Attempt α) : (a.map f).value? = a.value?.map f := by
  cases a <;> rfl

end Attempt

end TestTelemetry
