import PodLaunch.Yaml.Stream

/-!
# Libraries for structured texts

What is done with the documents of a file does not depend on how they come out of its text. So the
readers of texts are kept together as a library that is given: the one of this development, or any
other one that may find other documents or other defects.
-/

namespace PodLaunch.Yaml

open Text

/-- The readers of the texts of profiles and of manifests. -/
structure Library where
  /-- The document in the text of a profile. -/
  profileDocument : Decoded → Except Defect Document
  /-- The documents in the text of a manifest. -/
  manifestDocuments : Decoded → Except Defect (List Document)

/-- The readers of this development, with room for so many lists and mappings within each other. -/
def library (room : Nat) : Library :=
  ⟨profileDocument room, manifestDocuments room⟩

/-- The usual room: two calls out of a thousand for each list or mapping, and some calls around and
within them. -/
def usualRoom : Nat := 480

end PodLaunch.Yaml
