/-
What the head of a file tells of its package.

Only the head of a file is looked at for its package.  The lines that end in the head are read as
they are in the whole file, but the last line of the head may go on behind it, and it is read as if
it ended there.  So a package that is found in a line that ends in the head is that of the file,
and one that is found in the last line may be a part of the name, or none at all.

* `packageOfContent?`, `packageOfByteLine?` — the package of a whole content and of one line;
* `endedLines`, `cutLine` — the lines of the head of a content;
* `packageOfContent?_eq` — a content is read line by line;
* `head_agrees_iff` — when the head never tells a package that the content does not have.
-/
import TestTelemetry.Proofs.Repository.Declaration
import TestTelemetry.Proofs.Text.Lossy

namespace TestTelemetry

/-- The package that a whole content declares. -/
def packageOfContent? (content : List UInt8) : Option (List Char) :=
  declaredPackage? (Text.decodeLossy content)

/-- The package that a line of bytes declares. -/
def packageOfByteLine? (line : List UInt8) : Option (List Char) :=
  packageOfLine? (Text.decodeLossy line)

theorem packageOfFile?_eq (content : List UInt8) :
    packageOfFile? content = packageOfContent? (content.take packageScanBytes) := rfl

/-! ### Line by line -/

theorem packageOfLine?_nil : packageOfLine? [] = none := rfl

theorem packageOfByteLine?_nil : packageOfByteLine? [] = none := rfl

/-- **The package of a content is that of its first line that declares one.**  Each line is read for
itself, also where its bytes are no text. -/
theorem packageOfContent?_eq (content : List UInt8) :
    packageOfContent? content = (pieces 10 content).findSome? packageOfByteLine? := by
  have hend : ∀ l, packageOfLine? (Text.dropReturn l) = packageOfLine? l :=
    fun l => packageOfLine?_congr (Text.trim_dropReturn l)
  rw [packageOfContent?, declaredPackage?, Text.findSome?_lines hend packageOfLine?_nil,
    Text.pieces_decodeLossy, List.findSome?_map]
  rfl

/-- Empty lines before a content do not matter. -/
theorem packageOfContent?_replicate (n : Nat) (content : List UInt8) :
    packageOfContent? (List.replicate n 10 ++ content) = packageOfContent? content := by
  induction n with
  | zero => rfl
  | succ n ih =>
    rw [List.replicate_succ, List.cons_append, packageOfContent?_eq, pieces_cons_self,
      List.findSome?_cons, packageOfByteLine?_nil, ← packageOfContent?_eq, ih]

/-! ### The end of the head -/

/-- The lines that end in the head of a content. -/
def endedLines (content : List UInt8) : List (List UInt8) :=
  (pieces 10 (content.take packageScanBytes)).dropLast

/-- What the head holds of the line that it ends in. -/
def cutLine (content : List UInt8) : List UInt8 :=
  ((pieces 10 (content.take packageScanBytes)).getLast?).getD []

theorem pieces_head (content : List UInt8) :
    pieces 10 (content.take packageScanBytes) = endedLines content ++ [cutLine content] := by
  obtain ⟨before, last, hhead, -⟩ := exists_last_piece 10 (content.take packageScanBytes)
  rw [endedLines, cutLine, hhead, List.dropLast_concat, List.getLast?_concat, Option.getD_some]

/-- The lines that end in the head are the first lines of the content, and the next one goes on with
what the head holds of it. -/
theorem pieces_content (content : List UInt8) : ∃ rest after,
    pieces 10 content = endedLines content ++ (cutLine content ++ rest) :: after := by
  obtain ⟨before, last, hhead, happend⟩ := exists_last_piece 10 (content.take packageScanBytes)
  obtain ⟨rest, after, hrest⟩ :=
    List.exists_cons_of_ne_nil (pieces_ne_nil 10 (content.drop packageScanBytes))
  obtain ⟨hended, hlast⟩ := List.append_inj' (hhead.symm.trans (pieces_head content)) rfl
  have hcut : last = cutLine content := List.singleton_inj.mp hlast
  have hwhole := happend _ _ _ hrest
  rw [List.take_append_drop, hended, hcut] at hwhole
  exact ⟨rest, after, hwhole⟩

/-- **When the head tells no package but that of the content**: exactly if a line that ends in the
head declares one, or what the head holds of its last line declares no package but the first one
that is declared from this line on, where the line goes on behind the head. -/
theorem head_agrees_iff (content : List UInt8) : ∃ rest after,
    pieces 10 content = endedLines content ++ (cutLine content ++ rest) :: after ∧
      ((∀ p, packageOfFile? content = some p → packageOfContent? content = some p) ↔
        (∃ l ∈ endedLines content, (packageOfByteLine? l).isSome) ∨
          ∀ p, packageOfByteLine? (cutLine content) = some p →
            ((cutLine content ++ rest) :: after).findSome? packageOfByteLine? = some p) := by
  obtain ⟨rest, after, hlines⟩ := pieces_content content
  refine ⟨rest, after, hlines, ?_⟩
  have hhead : packageOfFile? content =
      ((endedLines content).findSome? packageOfByteLine?).or (packageOfByteLine? (cutLine content)) := by
    rw [packageOfFile?_eq, packageOfContent?_eq, pieces_head, List.findSome?_append,
      List.findSome?_singleton]
  have hwhole : packageOfContent? content = ((endedLines content).findSome? packageOfByteLine?).or
      (((cutLine content ++ rest) :: after).findSome? packageOfByteLine?) := by
    rw [packageOfContent?_eq, hlines, List.findSome?_append]
  rw [hhead, hwhole]
  cases hended : (endedLines content).findSome? packageOfByteLine? with
  | none =>
    -- Only the line that the head ends in is left to tell of a package.
    have hnone : ¬ ∃ l ∈ endedLines content, (packageOfByteLine? l).isSome := by
      rintro ⟨l, hl, hsome⟩
      rw [List.findSome?_eq_none_iff.mp hended l hl] at hsome
      cases hsome
    rw [Option.none_or, Option.none_or, or_iff_right hnone]
  | some q =>
    have hsome : ∃ l ∈ endedLines content, (packageOfByteLine? l).isSome := by
      obtain ⟨l, hl, hq⟩ := List.exists_of_findSome?_eq_some hended
      exact ⟨l, hl, Option.isSome_of_eq_some hq⟩
    exact iff_of_true (fun p h => h) (.inl hsome)

/-- A name that the end of the head cuts is taken for the package. -/
theorem head_cuts_name :
    let content := List.replicate 8183 10 ++ Text.encode "package ab;"
    packageOfFile? content = some ['a'] ∧ packageOfContent? content = some ['a', 'b'] := by
  intro content
  have hhead : content.take packageScanBytes =
      List.replicate 8183 10 ++ Text.encode "package a" := by
    have hlength : min packageScanBytes 8183 = 8183 := by decide
    have hname : (Text.encode "package ab;").take (packageScanBytes - 8183) =
      Text.encode "package a" := by decide +kernel
    rw [List.take_append, List.length_replicate, List.take_replicate, hlength, hname]
  constructor
  · rw [packageOfFile?_eq, hhead, packageOfContent?_replicate]
    decide +kernel
  · rw [packageOfContent?_replicate]
    decide +kernel

end TestTelemetry
