import WikiQuery.Digest
import WikiQuery.Pattern.Library
import WikiQuery.Title

/-!
What a directive may ask of the wiki that it stands in, and what it is read with.
-/

set_option autoImplicit false

namespace WikiQuery

/-- The answers of a wiki to the questions that a directive may ask. -/
structure Host where
  /-- The title that a text names. -/
  resolveTitle : String → Option Title
  /-- The number of the namespace with a name. -/
  namespaceIndex : String → Option Int
  /-- The categories below one, down to a depth. -/
  subcategories : String → Nat → List String
  /-- The wiki's own form of a point in time. -/
  normalizeTimestamp : String → Option String
  /-- The value of a key of the request, or else the default. -/
  requestValue : String → String → String
  /-- Whether the caller has a capability. -/
  hasCapability : String → Bool
  /-- What patterns are matched with. -/
  patterns : PatternLibrary := .plain
  /-- The digest of a sequence of bytes. -/
  digest : List UInt8 → List UInt8 := Digest.sha256

end WikiQuery
