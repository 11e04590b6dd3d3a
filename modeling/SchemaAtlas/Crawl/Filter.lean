import SchemaAtlas.Text.Glob
import SchemaAtlas.Value.Access

/-!
# Schema filters

A crawl can be told which schemas it should read. A filter made of name patterns lets a name pass if one
of the patterns matches it; without patterns every name passes.
-/

namespace SchemaAtlas

/-- Which schema names a crawl should read; asking may fail. -/
abbrev SchemaFilter := Value → Except Failure Bool

namespace SchemaFilter

/-- The filter that lets every name pass. -/
def all : SchemaFilter := fun _ => .ok true

/-- The filter of name patterns. -/
def ofPatterns (patterns : List String) : SchemaFilter := fun name =>
  if patterns.isEmpty then .ok true
  else
    match name with
    | .null => .ok false
    | .text s => .ok (patterns.any fun pattern => Text.globMatches pattern s)
    | .bytes _ => .error (Failure.faultText .wrongType "cannot use a string pattern on a bytes-like object")
    | v => .error (Failure.faultText .wrongType
        s!"expected string or bytes-like object, got '{v.kindName}'")

/-- The names that two filters both let pass. -/
def both (first second : SchemaFilter) : SchemaFilter := fun name => do
  if ← first name then second name else .ok false

end SchemaFilter

end SchemaAtlas
