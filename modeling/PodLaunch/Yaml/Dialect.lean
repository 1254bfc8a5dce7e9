/-!
# Dialects of structured texts

Manifests and node profiles are written in two dialects of one language. A manifest follows the
second edition of the language unless a directive asks for another one; a profile always follows the
first edition. The dialects also differ in how lenient they are with anchors, keys and punctuation.
-/

namespace PodLaunch.Yaml

/-- An edition of the language. -/
structure Edition where
  /-- The number in front of the point. -/
  major : Nat
  /-- The number behind the point. -/
  minor : Nat
  deriving DecidableEq, Repr

namespace Edition

/-- The first edition. -/
def first : Edition := ⟨1, 1⟩

/-- The second edition. -/
def second : Edition := ⟨1, 2⟩

/-- Whether an edition is one of the two that exist. -/
def isKnown (edition : Edition) : Bool :=
  edition = first || edition = second

/-- Whether an edition is later than the first one. -/
def afterFirst (edition : Edition) : Bool :=
  1 < edition.major || (edition.major = 1 && 1 < edition.minor)

/-- An edition as a pair of numbers. -/
def text (edition : Edition) : String :=
  "(" ++ toString edition.major ++ ", " ++ toString edition.minor ++ ")"

end Edition

/-- A dialect. -/
inductive Dialect where
  /-- The dialect of manifests, in an edition. -/
  | manifest (edition : Edition)
  /-- The dialect of node profiles. -/
  | profile
  deriving DecidableEq, Repr

namespace Dialect

/-- The edition of a dialect. -/
def edition : Dialect → Edition
  | .manifest edition => edition
  | .profile => .first

/-- The dialect after a directive has named an edition: profiles take no notice. -/
def withEdition (edition : Edition) : Dialect → Dialect
  | .manifest _ => .manifest edition
  | .profile => .profile

/-- Whether the dialect is that of profiles. -/
def isProfile : Dialect → Bool
  | .profile => true
  | .manifest _ => false

/-- Whether the edition of a dialect is the first one. -/
def isFirst (dialect : Dialect) : Bool :=
  dialect.edition = .first

/-- Whether a key may be left out in front of its colon. Only the dialect of manifests is that
lenient, and only after the first edition. -/
def isLenient : Dialect → Bool
  | .manifest edition => edition.afterFirst
  | .profile => false

end Dialect

end PodLaunch.Yaml
