import SchemaAtlas.Failure.Basic
import SchemaAtlas.Value.Access

/-!
# Transient failures

Some failures of a write are worth another attempt. Which ones is a matter of a table of status codes:
a failure is transient if it carries a code and the table knows the code.
-/

namespace SchemaAtlas

/-- The kinds of transient failures. -/
inductive TransientKind where
  | communicationLinkFailure
  | serializationFailure
deriving Repr, DecidableEq

namespace TransientKind

/-- The text that stands for the kind. -/
def text : TransientKind → String
  | .communicationLinkFailure => "communication_link_failure"
  | .serializationFailure => "serialization_failure"

/-- The kinds by their texts. -/
def byText : List (String × TransientKind) :=
  [("communication_link_failure", .communicationLinkFailure),
   ("serialization_failure", .serializationFailure)]

/-- The kind that a value stands for. -/
def ofValue (v : Value) : Except Failure TransientKind :=
  match v with
  | .text s =>
    match byText.lookup s with
    | some kind => .ok kind
    | none => .error (unknown v)
  | v => .error (unknown v)
where
  unknown (v : Value) : Failure :=
    Failure.faultText .wrongValue s!"{v.literal} is not a valid TransientErrorKind"

/-- A kind is found under its own text. -/
theorem lookup_text (kind : TransientKind) : byText.lookup kind.text = some kind := by
  cases kind <;> decide

end TransientKind

/-- The status codes of transient failures. -/
abbrev TransientTable := List (String × TransientKind)

namespace TransientTable

/-- A broken link and a serialization conflict. -/
def default : TransientTable :=
  [("08S01", .communicationLinkFailure), ("40001", .serializationFailure)]

/-- A table from the kinds' values; the first value that stands for no kind is refused. -/
def ofValues (entries : List (String × Value)) : Except Failure TransientTable :=
  entries.mapM fun (code, v) => (TransientKind.ofValue v).map fun kind => (code, kind)

end TransientTable

namespace Failure

/-- The code that leads the arguments of a failure, if it is an integer. -/
def leadingCode : List Value → Option String
  | .int n :: _ => some (toString n)
  | _ => none

/-- The status code of a failure: the first one it carries that is not empty, else the integer that leads
its arguments. -/
def sqlstate : Failure → Option String
  | .fault _ arguments => leadingCode arguments
  | .database _ _ codes arguments =>
    match codes.find? Value.isTrue with
    | some code => some code.display
    | none => leadingCode arguments
  | .own (.transaction facts) .. => facts.sqlstate.filter (!·.isEmpty)
  | .own (.rollback facts) .. => facts.sqlstate.filter (!·.isEmpty)
  | _ => none

/-- The kind of a transient failure, by a table. -/
def transientKind (table : TransientTable) (f : Failure) : Option TransientKind :=
  f.sqlstate.bind fun code => table.lookup code

/-- A failure is transient exactly if the table knows its status code. -/
theorem transientKind_isSome_iff (table : TransientTable) (f : Failure) :
    (f.transientKind table).isSome ↔ ∃ code kind, f.sqlstate = some code ∧ table.lookup code = some kind := by
  unfold transientKind
  cases h : f.sqlstate with
  | none => simp
  | some code => simp [Option.isSome_iff_exists]

end Failure

end SchemaAtlas
