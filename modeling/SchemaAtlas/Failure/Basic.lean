import SchemaAtlas.Value.Text

/-!
# Failures: their families, texts and causes

Failures come from three sides: a value was misused, the database layer reported something, or this
library raises a failure of its own. Only the last kind has a family, and only a failure of a family
knows what it was raised for.
-/

namespace SchemaAtlas.Failure

/-- The text of a failure that carries bare arguments. -/
def argumentsText : List Value → String
  | [] => ""
  | [v] => v.display
  | vs => tupleLiteral vs

/-- The text of a failure. -/
def message : Failure → String
  | .fault .missingKey [v] => v.literal
  | .fault _ arguments => argumentsText arguments
  | .refused _ => "<validation>"
  | .unreadable .yaml => "<yaml>"
  | .unreadable .json => "<json>"
  | .setting field => "error parsing value for field \"" ++ field ++ "\" from source \"EnvSettingsSource\""
  | .database _ text _ _ => text
  | .own _ text _ _ => text

/-- The failure that this one was explicitly raised for. -/
def cause : Failure → Option Failure
  | .own _ _ cause _ => cause
  | .setting _ => some (.unreadable .json)
  | _ => none

/-- The failure that was being handled when this one was raised. -/
def handling : Failure → Option Failure
  | .own _ _ _ handling => handling
  | _ => none

/-- The family of a failure of this library. -/
def family? : Failure → Option Family
  | .own family .. => some family
  | _ => none

/-- Whether this library raises failures of this kind itself. -/
def isOwn (f : Failure) : Bool :=
  f.family?.isSome

/-- Whether the database layer reported the failure. -/
def isDatabase : Failure → Bool
  | .database .. => true
  | _ => false

/-- Whether the failure belongs to metadata discovery. -/
def isDiscovery : Failure → Bool
  | .own .discovery .. => true
  | .own (.noSchema _) .. => true
  | .own .columnResolution .. => true
  | .own (.unknownNullable _) .. => true
  | _ => false

/-- What is known of a failed transaction, if the failure is one. -/
def transience? : Failure → Option Transience
  | .own (.transaction facts) .. => some facts
  | .own (.rollback facts) .. => some facts
  | _ => none

/-- The refused values that a failure, its cause or the failure behind it tells of. -/
def issues : Failure → Option (List Issue)
  | .refused issues => some issues
  | .own _ _ (some (.refused issues)) _ => some issues
  | .own _ _ _ (some (.refused issues)) => some issues
  | _ => none

/-! ## Faults -/

/-- A fault with a text. -/
def faultText (kind : FaultKind) (text : String) : Failure :=
  .fault kind [.text text]

/-- A record lacks a field. -/
def missingField (name : String) : Failure :=
  .fault .missingKey [.text name]

end Failure

/-! ## Failures of this library -/

namespace Failure

/-- A failure of a family with nothing behind it. -/
def plain (family : Family) (text : String) : Failure :=
  .own family text none none

/-- A failure of a family raised for another failure. -/
def becauseOf (family : Family) (text : String) (cause : Failure) : Failure :=
  .own family text (some cause) (some cause)

/-- A failure that takes the place of an earlier one. -/
def during (f earlier : Failure) : Failure :=
  match f with
  | .own family text cause none => .own family text cause (some earlier)
  | f => f

/-- A failure of a family raised while another one was handled. -/
def whileHandling (family : Family) (text : String) (handling : Failure) : Failure :=
  .own family text none (some handling)

end Failure

end SchemaAtlas
