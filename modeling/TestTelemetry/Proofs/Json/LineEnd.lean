/-
A line is read with or without the carriage return before its end.

* `State.ReturnFree` — what is left of a word has no carriage return in it;
* `State.finish_step_return` — what a carriage return does to the end of a text: nothing;
* `read_append_return` — a whole text.
-/
import Mathlib.Tactic.SplitIfs
import TestTelemetry.Json.Reader

namespace TestTelemetry.Json

namespace State

/-- What is left of a word that is being read holds no carriage return. -/
def ReturnFree : State → Prop
  | reading (.word left _) _ => '\r' ∉ left
  | _ => True

theorem returnFree_put (v : Node) (stack : List Frame) : (put v stack).ReturnFree := by
  match stack with
  | [] => trivial
  | .array _ :: _ => trivial
  | .member _ _ :: _ => trivial

theorem returnFree_begin? (c : Char) (stack : List Frame) : (begin? c stack).ReturnFree := by
  rw [begin?]
  split_ifs
  case neg => cases Decimal.Phase.first? c <;> trivial
  all_goals first | trivial | (show '\r' ∉ _; decide)

theorem returnFree_stepIn {mode : Mode} {stack : List Frame} (h : (reading mode stack).ReturnFree)
    (c : Char) : (stepIn mode stack c).ReturnFree := by
  cases mode with
  | word left node =>
    match left, h with
    | [], _ => trivial
    | [d], _ =>
      rw [stepIn]
      split
      · exact returnFree_put ..
      · trivial
    | d :: e :: left, h =>
      rw [stepIn]
      split
      · exact fun hmem => h (List.mem_cons_of_mem _ hmem)
      · trivial
      · simp
  | quoted raw e => rw [stepIn]; cases e.next c <;> first | trivial | exact returnFree_put ..
  | key members raw e => rw [stepIn]; cases e.next c <;> trivial
  | value => rw [stepIn]; split <;> first | trivial | exact returnFree_begin? ..
  | number => trivial
  | firstItem =>
    rw [stepIn]
    split_ifs
    · trivial
    · exact returnFree_put ..
    · exact returnFree_begin? ..
  | _ =>
    rw [stepIn]
    split_ifs <;> first | trivial | exact returnFree_put ..

theorem returnFree_resume {s : State} (h : s.ReturnFree) (c : Char) : (resume s c).ReturnFree := by
  match s, h with
  | finished doc, _ => trivial
  | reading mode stack, h => exact returnFree_stepIn h c

theorem returnFree_step {s : State} (h : s.ReturnFree) (c : Char) : (s.step c).ReturnFree := by
  match s, h with
  | finished doc, _ => trivial
  | reading mode stack, h =>
    cases mode with
    | number p raw =>
      rw [step]
      cases p.next c with
      | more q => trivial
      | stop => exact returnFree_resume (returnFree_put ..) c
      | bad => trivial
    | _ => exact returnFree_stepIn h c

/-- A text can end after a carriage return where it can end before it: between tokens the carriage
return is a blank, and in a token it stops the reader just as the end of the text does. -/
theorem finish_step_return {s : State} (h : s.ReturnFree) : (s.step '\r').finish = s.finish := by
  have hquoted : ∀ e : Escape, e.next '\r' = .bad := by rintro (_ | _ | _) <;> rfl
  match s, h with
  | finished doc, _ => simp [step, resume, finish, isSpace]
  | reading mode stack, h =>
    cases mode with
    | number p raw =>
      have hnext : p.next '\r' = p.otherwise := by cases p <;> rfl
      cases hcomplete : p.complete with
      | true =>
        rw [Decimal.Phase.otherwise, if_pos hcomplete] at hnext
        simp only [step, hnext, finish, hcomplete, if_true]
        match stack with
        | [] => rfl
        | .array _ :: _ => rfl
        | .member _ _ :: _ => rfl
      | false =>
        rw [Decimal.Phase.otherwise, if_neg (by simp [hcomplete])] at hnext
        simp only [step, hnext, finish, hcomplete]
        rfl
    | key members raw e =>
      simp only [step, resume, stepIn, hquoted]
      rfl
    | quoted raw e =>
      simp only [step, resume, stepIn, hquoted]
      rfl
    | word left node =>
      match left, h with
      | [], _ => rfl
      | [d], h =>
        have hd : '\r' ≠ d := fun hd => h (hd ▸ List.mem_cons_self ..)
        simp only [step, resume, stepIn, hd, if_false]
        rfl
      | d :: e :: left, h =>
        have hd : '\r' ≠ d := fun hd => h (hd ▸ List.mem_cons_self ..)
        simp only [step, resume, stepIn, hd, if_false]
        rfl
    | _ => rfl

theorem returnFree_foldl {s : State} (h : s.ReturnFree) (cs : List Char) :
    (cs.foldl step s).ReturnFree := by
  induction cs generalizing s with
  | nil => exact h
  | cons c cs ih => exact ih (returnFree_step h c)

end State

/-- A carriage return behind a text is not read. -/
theorem read_append_return (cs : List Char) :
    Document.read (cs ++ ['\r']) = Document.read cs := by
  rw [Document.read, List.foldl_append, Document.read]
  have hstart : State.start.ReturnFree := trivial
  exact State.finish_step_return (State.returnFree_foldl hstart cs)

end TestTelemetry.Json
