import Mathlib.Algebra.Order.Ring.Int
import ModelAtlas.Foundations.PyText

/-!
# Records shared by the services

Identifiers, clocks, signer identities and the errors that service functions
raise.  A `uuid4()` is modelled by a counter in the store that draws it, so a
drawn identifier is new.  Clock values are seconds; nothing relates two
readings of the clock.
-/

namespace ModelAtlas

/-- A value drawn by `uuid.uuid4()`. -/
abbrev Uuid := Nat

/-- A UTC instant, in seconds. -/
abbrev Time := Int

inductive ServiceError where
  /-- `DomainValidationError`. -/
  | domainValidation (message : String)
  /-- `sqlalchemy.exc.IntegrityError` for a named constraint. -/
  | integrity (constraint : String)
  /-- Any other exception. -/
  | unexpected (message : String)
  deriving DecidableEq, Repr

namespace ServiceError

/-- `isinstance(exc, DomainValidationError)`. -/
def isDomainValidation : ServiceError → Bool
  | .domainValidation _ => true
  | .integrity _ => false
  | .unexpected _ => false

/-- `str(exc)`. -/
def text : ServiceError → String
  | .domainValidation message => message
  | .integrity constraint => constraint
  | .unexpected message => message

end ServiceError

/-- `SignerIdentity` of `operator_identity`. -/
structure SignerIdentity where
  (subjectId displayName : String)
  role : Option String
  (identityProvider authSource : String)
  identityVerified : Bool
  ticketReference : Option String
  deriving DecidableEq, Repr

end ModelAtlas
