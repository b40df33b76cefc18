import BindingGlue.Batch.Report
import BindingGlue.Proofs.Interpreter.Documented
import BindingGlue.Proofs.Text.LineEnds

/-!
# The layout of a batch

A batch is read by the lines that count and by nothing else of its text, so two texts with the same
lines have the same run, with the same fault if there is one, and the same report. How the lines end
is no part of them, nor are the blank lines among them and the blanks around them
(`Generator.run_layout`).
-/

namespace BindingGlue.Generator

open Text

variable {text other : String}

theorem run_eq_of_contentLines (generator : Generator)
    (h : contentLines text = contentLines other) :
    generator.run text = generator.run other := by
  rw [run, run, h]

theorem process_eq_of_contentLines (generator : Generator)
    (h : contentLines text = contentLines other) :
    generator.process text = generator.process other := by
  rw [process, process, generator.run_eq_of_contentLines h]

/-- **The layout of a text does not matter.** Texts with the same pieces between ends of lines, but
for blanks at the ends of pieces and for blank pieces, have the same run and the same report. So a
text may have other ends of lines in place of its line feeds, further blank lines anywhere, and
other blanks around its lines. -/
theorem run_layout (generator : Generator) :
    (∀ text other : String, content (pieces text) = content (pieces other) →
      generator.run text = generator.run other ∧
        generator.process text = generator.process other) ∧
    ∀ text : String,
      (∀ newline ∈ ["\r\n", "\r"],
        generator.run (withNewlines newline text) = generator.run text ∧
          generator.process (withNewlines newline text) = generator.process text) ∧
      ∀ other : String, Relaid (pieces text) (pieces other) →
        generator.run other = generator.run text ∧
          generator.process other = generator.process text := by
  have hsame : ∀ text other : String, content (pieces text) = content (pieces other) →
      generator.run text = generator.run other ∧
        generator.process text = generator.process other := by
    intro text other h
    rw [← contentLines_eq_content_pieces, ← contentLines_eq_content_pieces] at h
    exact ⟨generator.run_eq_of_contentLines h, generator.process_eq_of_contentLines h⟩
  refine ⟨hsame, fun text ↦ ⟨fun newline hnewline ↦ ?_, fun other h ↦ ?_⟩⟩
  · refine hsame _ _ (content_pieces_withNewlines ?_ ?_ text)
    all_goals
      simp only [List.mem_cons, List.not_mem_nil, or_false] at hnewline
      rcases hnewline with rfl | rfl
      all_goals simp [isLineEnd]
  · exact hsame _ _ (content_eq_of_relaid h)

/-- A batch of two methods, with a different end for each line. -/
def mixedText : String :=
  "// PROP: QLabel \n// TODO: void setIndent(int indent);\r// TODO: int indent() const;\r\n"

/-- The batch with blank lines in front of the header and between the methods, other ends of lines,
and other blanks around each line. -/
def relaidText : String :=
  "\r\n\t// PROP: QLabel\r  // TODO: void setIndent(int indent);\n \n" ++
    "// TODO: int indent() const;\t\r\r"

theorem pieces_mixedText : pieces mixedText =
    ["// PROP: QLabel".toList ++ [' '], "// TODO: void setIndent(int indent);".toList,
      "// TODO: int indent() const;".toList, [], []] := by
  decide

theorem pieces_relaidText : pieces relaidText =
    [[], [], ['\t'] ++ "// PROP: QLabel".toList,
      [' ', ' '] ++ "// TODO: void setIndent(int indent);".toList, [' '],
      "// TODO: int indent() const;".toList ++ ['\t'], [], []] := by
  decide

theorem relaid_mixedText : Relaid (pieces mixedText) (pieces relaidText) := by
  have hnone : ∀ c ∈ ([] : List Char), isBlank c := by simp
  have hspace : ∀ c ∈ [' '], isBlank c := List.forall_mem_singleton.2 (by decide)
  have hspaces : ∀ c ∈ [' ', ' '], isBlank c := by simpa using hspace
  have htab : ∀ c ∈ ['\t'], isBlank c := List.forall_mem_singleton.2 (by decide)
  have hend : Relaid [[], []] [[], []] :=
    .pad [] hnone hnone hnone hnone (.pad [] hnone hnone hnone hnone .nil)
  have hlines := Relaid.insert hnone (.insert hnone
    (.pad "// PROP: QLabel".toList hnone hspace htab hnone
    (.pad "// TODO: void setIndent(int indent);".toList hnone hnone hspaces hnone
    (.insert hspace (.pad "// TODO: int indent() const;".toList hnone hnone hnone htab hend)))))
  rw [pieces_mixedText, pieces_relaidText]
  simpa only [List.nil_append, List.append_nil] using hlines

/-- Three kinds of ends of lines, blank lines anywhere, and blanks moved from the end of a line to
its beginning. -/
theorem run_layout_blankLines :
    Relaid (pieces mixedText) (pieces relaidText) ∧
      process (standard Interpreter.documented) relaidText =
        process (standard Interpreter.documented) mixedText ∧
      content (pieces mixedText) = content (pieces relaidText) ∧
      run (standard Interpreter.documented) mixedText =
        run (standard Interpreter.documented) relaidText ∧
      run (standard Interpreter.documented) (withNewlines "\r\n" mixedText) =
        run (standard Interpreter.documented) mixedText := by
  have hcontent := (content_eq_of_relaid relaid_mixedText).symm
  exact ⟨relaid_mixedText, (((run_layout _).2 _).2 _ relaid_mixedText).2, hcontent,
    ((run_layout _).1 _ _ hcontent).1, (((run_layout _).2 _).1 "\r\n" (by simp)).1⟩

end BindingGlue.Generator
