/-!
# Links between entities

A member of an entity names other entities; the link to them is established later, when every entity
is known.  Until then it is unresolved; afterwards it holds what was found or the reason why nothing
was.
-/

namespace Schemata

/-- The state of a link to an `α` that may fail for a reason `ε`. -/
inductive Resolution (α : Type) (ε : Type) where
  | unresolved
  | resolved (value : α)
  | invalid (reason : ε)
  deriving DecidableEq, Repr

namespace Resolution

variable {α ε : Type}

/-- What the link holds. -/
def value? : Resolution α ε → Option α
  | .resolved value => some value
  | _ => none

/-- Why the link could not be established. -/
def reason? : Resolution α ε → Option ε
  | .invalid reason => some reason
  | _ => none

/-- The link holds. -/
def isResolved (r : Resolution α ε) : Bool := r.value?.isSome

/-- Nobody has looked yet. -/
def isPending : Resolution α ε → Bool
  | .unresolved => true
  | _ => false

/-- The state after looking. -/
def ofExcept : Except ε α → Resolution α ε
  | .ok value => .resolved value
  | .error reason => .invalid reason

/-- After looking, the link is no longer pending. -/
theorem isPending_ofExcept (r : Except ε α) : (ofExcept r).isPending = false := by
  cases r <;> rfl

/-- A link holds exactly when looking succeeded. -/
theorem value?_ofExcept (r : Except ε α) : (ofExcept r).value? = r.toOption := by
  cases r <;> rfl

end Resolution

end Schemata
