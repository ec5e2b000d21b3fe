/-!
# `Introspect.Facet`: one form among several

A facet singles out one form that a value of a larger type can have: `wrap` makes a value of that
form, and `view` looks at a value of that form and at no other. `view_wrap` is the law between them.
-/

set_option autoImplicit false

namespace Introspect

/-- One of the forms that a value can have. -/
structure Facet (α β : Type) where
  wrap : β → α
  view : α → Option β
  view_wrap : ∀ b, view (wrap b) = some b

namespace Facet

/-- The only form there is. -/
def whole {α : Type} : Facet α α := ⟨id, some, fun _ => rfl⟩

end Facet

end Introspect
