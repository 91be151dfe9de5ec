/-!
Panics: how code may end that does not return.
-/

set_option autoImplicit false

namespace WebFetch

/-- What a panic carries: a text, or a value of which nothing is known. -/
inductive Panic where
  | text (message : String)
  | opaqueValue
  deriving DecidableEq

/-- The end of code that may panic. -/
inductive Attempt (α : Type) where
  | returned (value : α)
  | panicked (panic : Panic)

end WebFetch
