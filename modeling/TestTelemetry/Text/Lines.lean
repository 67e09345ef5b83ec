/-
Lines of a text.

A line ends at a newline; a carriage return right before the newline belongs to
the line end.  What follows the last newline is a line only if it is not empty.

* `lines` — the lines of a text.
-/
import TestTelemetry.Data.Pieces

namespace TestTelemetry.Text

/-- The line without the carriage return before its end. -/
def dropReturn (l : List Char) : List Char :=
  match l.reverse with
  | '\r' :: r => r.reverse
  | _ => l

/-- The lines of a text, without their line ends. -/
def lines (cs : List Char) : List (List Char) :=
  -- the last piece has no newline after it, so its carriage return stays
  match (pieces '\n' cs).reverse with
  | [] :: r => r.reverse.map dropReturn
  | last :: r => r.reverse.map dropReturn ++ [last]
  | [] => []

end TestTelemetry.Text
