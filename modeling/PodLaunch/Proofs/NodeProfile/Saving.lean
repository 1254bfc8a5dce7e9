import PodLaunch.Proofs.Files.Writing
import PodLaunch.Proofs.NodeProfile.Validation
import PodLaunch.Proofs.NodeProfile.Written

/-!
# Saving and loading profiles

A profile that has been saved is loaded as it is, if the keys of its labels fit. Without a mark, a
key is written whenever it is short enough and on one line, but with its escapes it may still be
longer than the reader looks back for a key; then the reader finds the file malformed.
-/

namespace PodLaunch.NodeProfile

open Files Text

variable {tree written : Files.Tree} {name : String} {profile : NodeProfile}

/-- A profile that can be saved is written, and the directories around its file are made. -/
theorem write_of_save (saved : (save tree name profile).result = (written, .ok ())) :
    ∃ made, tree.make (Files.Path.ofText name).parent = (made, .ok ()) ∧
      made.write (Files.Path.ofText name) (encodeUtf8 (String.ofList profile.toText)) =
        .ok written := by
  unfold save at saved
  dsimp only at saved
  split at saved
  · cases saved
  · rename_i made _ makes
    refine ⟨made, makes, ?_⟩
    split at saved
    · cases saved
    · rename_i found wrote
      rw [wrote]
      cases saved
      rfl

/-- A profile that cannot be saved is not written, once the directories around its file have been
made, as far as they can be. -/
theorem make_of_save {made : Files.Tree} {error : FileError}
    (fails : (save tree name profile).result = (made, .error error)) :
    ∃ result, tree.make (Files.Path.ofText name).parent = (made, result) ∧
      (result = .ok () → ∀ written, made.write (Files.Path.ofText name)
        (encodeUtf8 (String.ofList profile.toText)) ≠ .ok written) := by
  unfold save at fails
  dsimp only at fails
  split at fails
  · rename_i makes
    cases fails
    exact ⟨_, makes, nofun⟩
  · rename_i makes
    split at fails
    · rename_i refused
      cases fails
      refine ⟨_, makes, fun _ written wrote => ?_⟩
      rw [refused] at wrote
      cases wrote
    · cases fails

/-- Files to which no records are added are loaded as they are. -/
theorem load_ofTree (tree : Files.Tree) (name : String) :
    (load (.ofTree tree) name).result =
      loadAt (Yaml.library Yaml.usualRoom) tree (Files.Path.ofText name) := by
  have unchanged (records : List LogRecord) : (LoggedFiles.ofTree tree).treeAfter records = tree :=
    rfl
  simp only [load, Recorded.andThenWith, unchanged, pure, Recorded.silent]
  rfl

/-- A file that has been written is loaded from its text. -/
theorem load_of_write {made : Files.Tree} {text : List Char}
    (wrote : made.write (Files.Path.ofText name) (encodeUtf8 (String.ofList text)) = .ok written) :
    (load (.ofTree written) name).result =
      ofText (Yaml.library Yaml.usualRoom) (Files.Path.ofText name).toText
        (decodeFile (encodeUtf8 (String.ofList text))) := by
  obtain ⟨present, read⟩ := Files.Tree.read_of_write wrote
  rw [load_ofTree, loadAt, present, read]

/-- A profile is saved where its directories can be made and its text can be written. -/
theorem save_of_make {made : Files.Tree}
    (makes : tree.make (Files.Path.ofText name).parent = (made, .ok ()))
    (wrote : made.write (Files.Path.ofText name) (encodeUtf8 (String.ofList profile.toText)) =
      .ok written) : (save tree name profile).result = (written, .ok ()) := by
  unfold save
  dsimp only
  rw [makes]
  dsimp only
  rw [wrote]
  rfl

/-- A profile is saved where its directories are and its text can be written. -/
theorem save_of_write (makes : tree.make (Files.Path.ofText name).parent = (tree, .ok ()))
    (wrote : tree.write (Files.Path.ofText name) (encodeUtf8 (String.ofList profile.toText)) =
      .ok written) : (save tree name profile).result = (written, .ok ()) :=
  save_of_make makes wrote

/-- A profile whose labels fit is loaded from its text. -/
theorem load_of_write_of_labelsFit {made : Files.Tree} (fits : profile.LabelsFit)
    (wrote : made.write (Files.Path.ofText name) (encodeUtf8 (String.ofList profile.toText)) =
      .ok written) : (load (.ofTree written) name).result = .ok profile := by
  have denotes : (Yaml.library Yaml.usualRoom).profileDocument ⟨profile.toText, none⟩ =
      .ok profile.toDocument := profileDocument_toText fits (Yaml.usualRoom - 2)
  rw [load_of_write wrote, decodeFile_toText, ofText, denotes]
  exact ofDocument_toDocument _ profile

/-- A profile with a label that does not fit is not loaded: its text is malformed. -/
theorem load_of_write_malformed {made : Files.Tree} (long : ¬ profile.LabelsFit)
    (wrote : made.write (Files.Path.ofText name) (encodeUtf8 (String.ofList profile.toText)) =
      .ok written) :
    (load (.ofTree written) name).result = .error (.failure ⟨.configuration,
      "Failed to parse node profile " ++ (Files.Path.ofText name).toText,
      some Yaml.Defect.malformed.message⟩) := by
  have malformed : (Yaml.library Yaml.usualRoom).profileDocument ⟨profile.toText, none⟩ =
      .error .malformed := profileDocument_toText_malformed long (Yaml.usualRoom - 2)
  rw [load_of_write wrote, decodeFile_toText, ofText, malformed]

/-- A profile that has been saved is loaded as it is, describes the same node and is saved again as
the same files if the keys of its labels fit. If they do not, its file is reported as malformed. -/
theorem load_save (tree written : Files.Tree) (name : String) (profile : NodeProfile)
    (saved : (save tree name profile).result = (written, .ok ())) :
    (profile.LabelsFit →
      ∃ loaded, (load (.ofTree written) name).result = .ok loaded ∧ loaded = profile ∧
        loaded.toNode = profile.toNode ∧ (save written name loaded).result = (written, .ok ())) ∧
    (¬ profile.LabelsFit →
      (load (.ofTree written) name).result = .error (.failure ⟨.configuration,
        "Failed to parse node profile " ++ (Files.Path.ofText name).toText,
        some Yaml.Defect.malformed.message⟩)) := by
  obtain ⟨made, makes, wrote⟩ := write_of_save saved
  constructor
  · intro fits
    have again := save_of_write
      (Files.Tree.make_parent_of_write (Files.Tree.isPathText_of_make makes) wrote)
      (Files.Tree.write_of_write wrote)
    exact ⟨profile, load_of_write_of_labelsFit fits wrote, rfl, rfl, again⟩
  · intro long
    exact load_of_write_malformed long wrote

/-- A profile of texts that would be other values if they were not quoted. -/
def lookalikes : NodeProfile where
  nodeName := ⟨"yes", by decide⟩
  architecture := ⟨"--- # 1e3\n", by decide⟩
  taintArchitecture := false
  extraTaints := [⟨⟨"null", by decide⟩, some "", .noExecute⟩, ⟨⟨"~", by decide⟩, none, .noSchedule⟩]
  labels := ⟨[("<<", "010"), ("", "'\"")], by decide⟩

/-- A profile with a label whose key is short, but ten times as long with its escapes. -/
def longLabelled : NodeProfile where
  nodeName := ⟨"node", by decide⟩
  architecture := ⟨defaultArchitecture, by decide⟩
  taintArchitecture := true
  extraTaints := []
  labels := ⟨[(String.ofList (List.replicate 103 '😀'), "v")], by simp⟩

/-- The profile of lookalikes is loaded as it is. -/
theorem load_save_lookalikes :
    ∃ written, (save {} "p.yaml" lookalikes).result = (written, .ok ()) ∧ lookalikes.LabelsFit ∧
      ∃ loaded, (load (.ofTree written) "p.yaml").result = .ok loaded ∧ loaded = lookalikes := by
  -- The files are computed without the text that is written.
  have wrote (content : List UInt8) :
      ({} : Files.Tree).write (Files.Path.ofText "p.yaml") content = .ok _ := rfl
  have saved := save_of_write rfl (wrote (encodeUtf8 (String.ofList lookalikes.toText)))
  have fits : lookalikes.LabelsFit := by decide
  obtain ⟨loaded, loads, same, -, -⟩ := (load_save {} _ "p.yaml" lookalikes saved).1 fits
  exact ⟨_, saved, fits, loaded, loads, same⟩

/-- A profile can be saved without being loaded again. -/
theorem not_load_save_longLabelled :
    ∃ written, (save {} "p.yaml" longLabelled).result = (written, .ok ()) ∧
      ∀ loaded, (load (.ofTree written) "p.yaml").result ≠ .ok loaded := by
  have wrote (content : List UInt8) :
      ({} : Files.Tree).write (Files.Path.ofText "p.yaml") content = .ok _ := rfl
  have written := wrote (encodeUtf8 (String.ofList longLabelled.toText))
  have long : ¬ longLabelled.LabelsFit := by
    intro fits
    have fit := fits _ List.mem_cons_self
    rw [String.toList_ofList] at fit
    exact absurd fit (by decide +kernel)
  refine ⟨_, save_of_write rfl written, fun loaded loads => ?_⟩
  rw [load_of_write_malformed long written] at loads
  cases loads

end PodLaunch.NodeProfile
