import PodLaunch.Document.Basic

/-!
# Equal documents

Whether two documents are equal can be decided: they are compared part by part. This is finer than
to be one key of a mapping, where numbers of different kinds may agree.
-/

namespace PodLaunch.Document

mutual

/-- Whether two documents are equal. -/
def isSame : Document → Document → Bool
  | .null, .null => true
  | .bool left, .bool right => left == right
  | .int left, .int right => left == right
  | .float left, .float right => left == right
  | .text left, .text right => left == right
  | .bytes left, .bytes right => left == right
  | .date left, .date right => left == right
  | .moment left, .moment right => left == right
  | .list left, .list right => areSame left right
  | .mapping left, .mapping right => areSameEntries left right
  | .tuple left, .tuple right => areSame left right
  | .set left, .set right => areSame left right
  | .ordered left, .ordered right => areSameEntries left right
  | .cyclic leftMark left, .cyclic rightMark right => leftMark == rightMark && isSame left right
  | .again leftMark left, .again rightMark right => leftMark == rightMark && left == right
  | _, _ => false

/-- Whether two lists of documents are equal. -/
def areSame : List Document → List Document → Bool
  | [], [] => true
  | left :: lefts, right :: rights => isSame left right && areSame lefts rights
  | _, _ => false

/-- Whether two lists of entries are equal. -/
def areSameEntries : List (Document × Document) → List (Document × Document) → Bool
  | [], [] => true
  | (leftKey, left) :: lefts, (rightKey, right) :: rights =>
    isSame leftKey rightKey && isSame left right && areSameEntries lefts rights
  | _, _ => false

end

mutual

/-- Documents are compared exactly. -/
theorem isSame_iff (left right : Document) : isSame left right = true ↔ left = right := by
  cases left <;> cases right <;> simp [isSame]
  case list.list lefts rights => exact areSame_iff lefts rights
  case mapping.mapping lefts rights => exact areSameEntries_iff lefts rights
  case tuple.tuple lefts rights => exact areSame_iff lefts rights
  case set.set lefts rights => exact areSame_iff lefts rights
  case ordered.ordered lefts rights => exact areSameEntries_iff lefts rights
  case cyclic.cyclic left _ right => exact fun _ => isSame_iff left right

/-- Lists of documents are compared exactly. -/
theorem areSame_iff (lefts rights : List Document) :
    areSame lefts rights = true ↔ lefts = rights := by
  cases lefts with
  | nil => cases rights <;> simp [areSame]
  | cons left lefts =>
    cases rights with
    | nil => simp [areSame]
    | cons right rights =>
      simp [areSame, isSame_iff left right, areSame_iff lefts rights]

/-- Lists of entries are compared exactly. -/
theorem areSameEntries_iff (lefts rights : List (Document × Document)) :
    areSameEntries lefts rights = true ↔ lefts = rights := by
  cases lefts with
  | nil => cases rights <;> simp [areSameEntries]
  | cons left lefts =>
    obtain ⟨leftKey, left⟩ := left
    cases rights with
    | nil => simp [areSameEntries]
    | cons right rights =>
      obtain ⟨rightKey, right⟩ := right
      simp [areSameEntries, isSame_iff leftKey rightKey, isSame_iff left right,
        areSameEntries_iff lefts rights, and_assoc]

end

instance : DecidableEq Document := fun left right =>
  decidable_of_iff _ (isSame_iff left right)

end PodLaunch.Document
