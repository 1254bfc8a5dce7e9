import Mathlib.Data.List.TakeWhile
import PodLaunch.Proofs.NodeProfile.Document
import PodLaunch.Proofs.Text.Ascii
import PodLaunch.Proofs.Yaml.BreakingOff

/-!
# What is read of a profile that is written

All characters of the text of a profile are of ASCII, so that the text comes out of a file as it is.
It denotes the document of the profile, or it is malformed if the key of a label does not fit.
-/

namespace PodLaunch.Yaml

open Text

/-- The characters of a text may be written if a check of each of them says so. -/
theorem isWritten_of_all {s : List Char} (all : s.all fun c => decide (IsShown c ∨ c = '\n')) :
    ∀ c ∈ s, IsWritten True c := by
  intro c member
  have checked := of_decide_eq_true (List.all_eq_true.1 all c member)
  exact checked.imp id fun lineFeed => ⟨lineFeed, trivial⟩

/-- All characters of an entry may be written. -/
theorem isWritten_writeEntry (column : Nat) (key : List Char) {value : WrittenValue}
    (writable : value.IsWritable) : ∀ c ∈ writeEntry column key value, IsWritten True c := by
  have values (place : Nat) : ∀ c ∈ value.write column place, IsWritten True c := by
    cases value with
    | text s => exact isWritten_writeText _ (fun _ => trivial) place s fun _ => trivial
    | word s => exact fun c member => Or.inl (writable.2.shown c member)
  have keys (folding : Folding) (place : Nat) :
      ∀ c ∈ writeText folding place key, IsWritten True c :=
    isWritten_writeText folding (fun _ => trivial) place key fun _ => trivial
  have mark (c : Char) (shown : IsShown c) : IsWritten True c := Or.inl shown
  have lineFeed : IsWritten True '\n' := Or.inr ⟨rfl, trivial⟩
  rw [writeEntry]
  split
  · simp only [List.forall_mem_append, List.forall_mem_cons]
    exact ⟨⟨keys _ _, mark _ (by decide), mark _ (by decide), values _⟩, lineFeed,
      List.forall_mem_nil _⟩
  · simp only [List.cons_append, List.forall_mem_append, List.forall_mem_cons]
    exact ⟨mark _ (by decide), mark _ (by decide),
      ⟨⟨keys _ _, lineFeed, isWritten_spaces _ _⟩, mark _ (by decide), mark _ (by decide),
        values _⟩, lineFeed, List.forall_mem_nil _⟩

/-- All characters of a mapping may be written. -/
theorem isWritten_writeMapping (column : Nat) {entries : List (List Char × WrittenValue)}
    (writable : ∀ entry ∈ entries, entry.2.IsWritable) :
    ∀ c ∈ NodeProfile.writeMapping column entries, IsWritten True c := by
  intro c member
  obtain ⟨entry, among, inside⟩ := List.mem_flatMap.1 member
  rcases List.mem_append.1 inside with space | text
  · exact isWritten_spaces True column c space
  · exact isWritten_writeEntry column entry.1 (writable entry among) c text

/-- A character that may be written is one of ASCII that may occur in a file, and it is no carriage
return. -/
theorem isAscii_of_isWritten {c : Char} (written : IsWritten True c) :
    IsAscii c ∧ isReadable c = true ∧ c ≠ '\r' := by
  rcases written with ⟨low, high⟩ | ⟨rfl, _⟩
  · have lower : 0x20 ≤ c.toNat := low
    have upper : c.toNat ≤ 0x7e := high
    refine ⟨by unfold IsAscii; omega, by simp [isReadable, lower, upper], ?_⟩
    rintro rfl
    exact absurd low (by decide)
  · decide

/-- A text of characters that may occur is read from its beginning to its end. -/
theorem tokensOf_readable {chars : List Char} (readable : ∀ c ∈ chars, isReadable c = true)
    (dialect : Dialect) : tokensOf dialect ⟨chars, none⟩ = lexemes dialect chars none := by
  have all : chars.takeWhile isReadable = chars := List.takeWhile_eq_self_iff.2 readable
  have noBarrier : barrierOf ⟨chars, none⟩ = none := by
    simp only [barrierOf, all, Nat.lt_irrefl, ↓reduceIte]
  rw [tokensOf, noBarrier]

end PodLaunch.Yaml

namespace PodLaunch.NodeProfile

open Yaml Text

/-- All characters of the taints of a profile may be written. -/
theorem isWritten_writeTaints (taints : List Taint) :
    ∀ c ∈ writeTaints taints, IsWritten True c := by
  have dash : IsWritten True '-' := Or.inl (by decide)
  cases taints with
  | nil => exact isWritten_of_all (by decide)
  | cons taint taints =>
    intro c member
    rcases List.mem_cons.1 member with rfl | later
    · exact Or.inr ⟨rfl, trivial⟩
    · obtain ⟨taint, _, inside⟩ := List.mem_flatMap.1 later
      rcases List.mem_cons.1 inside with rfl | entries
      · exact dash
      · exact isWritten_writeMapping 2 (isWritable_taintEntries taint) c
          (List.mem_of_mem_drop entries)

/-- All characters of the labels of a profile may be written. -/
theorem isWritten_writeLabels (labels : Labels) : ∀ c ∈ writeLabels labels, IsWritten True c := by
  rw [writeLabels]
  split
  · exact isWritten_of_all (by decide)
  · rw [List.forall_mem_cons]
    exact ⟨Or.inr ⟨rfl, trivial⟩, isWritten_writeMapping 2 (isWritable_labelEntries labels)⟩

/-- All characters of a profile may be written. -/
theorem isWritten_toText (profile : NodeProfile) : ∀ c ∈ profile.toText, IsWritten True c := by
  have taints : ∀ c ∈ "extra_taints".toList, IsWritten True c := isWritten_of_all (by decide)
  have labels : ∀ c ∈ "labels".toList, IsWritten True c := isWritten_of_all (by decide)
  have colon : IsWritten True ':' := Or.inl (by decide)
  rw [toText_eq]
  simp only [List.forall_mem_append, List.forall_mem_cons]
  exact ⟨isWritten_writeMapping 0 (isWritable_scalarEntries profile), taints, colon,
    isWritten_writeTaints _, labels, colon, isWritten_writeLabels _⟩

/-- The text of a profile comes out of a file as it is written. -/
theorem decodeFile_toText (profile : NodeProfile) :
    decodeFile (encodeUtf8 (String.ofList profile.toText)) = ⟨profile.toText, none⟩ :=
  decodeFile_encodeUtf8
    (fun c member => (isAscii_of_isWritten (isWritten_toText profile c member)).1)
    fun member => (isAscii_of_isWritten (isWritten_toText profile '\r' member)).2.2 rfl

/-- The tokens of the text of a profile are read from its beginning to its end. -/
theorem tokensOf_toText (profile : NodeProfile) :
    tokensOf .profile ⟨profile.toText, none⟩ = lexemes .profile profile.toText none :=
  tokensOf_readable
    (fun c member => (isAscii_of_isWritten (isWritten_toText profile c member)).2.1) .profile

/-- All keys of the labels of a profile fit. -/
def LabelsFit (profile : NodeProfile) : Prop :=
  ∀ label ∈ profile.labels.entries, KeyFits 2 label.1.toList

instance (profile : NodeProfile) : Decidable profile.LabelsFit :=
  inferInstanceAs (Decidable (∀ label ∈ profile.labels.entries, KeyFits 2 label.1.toList))

/-- With room for two levels, the text of a profile whose labels fit denotes its document. -/
theorem profileDocument_toText {profile : NodeProfile} (fits : profile.LabelsFit) (room : Nat) :
    profileDocument (room + 2) ⟨profile.toText, none⟩ = .ok profile.toDocument := by
  refine profileDocument_of_carries profile ?_
  rw [tokensOf_toText]
  exact carries_withinRoom fits room

/-- With room for two levels, the text of a profile whose labels do not fit is malformed. -/
theorem profileDocument_toText_malformed {profile : NodeProfile} (long : ¬ profile.LabelsFit)
    (room : Nat) : profileDocument (room + 2) ⟨profile.toText, none⟩ = .error .malformed := by
  refine profileDocument_of_cutOff ?_
  rw [tokensOf_toText]
  refine cutOff_withinRoom ?_ room
  simpa [LabelsFit] using long

end PodLaunch.NodeProfile
