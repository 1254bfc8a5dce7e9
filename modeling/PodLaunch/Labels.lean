import PodLaunch.Validated

/-!
# Labels

Labels map texts to texts. They keep the order in which their keys were set, and no key occurs
twice.
-/

namespace PodLaunch

/-- Labels in order. -/
structure Labels where
  /-- The keys with their values. -/
  entries : List (String × String) := []
  /-- No key occurs twice. -/
  distinct : (entries.map Prod.fst).Nodup := by simp
  deriving DecidableEq, Repr

namespace Labels

/-- No labels. -/
def empty : Labels := {}

/-- Set a key in entries: an old key keeps its place, a new one comes last. -/
def setIn (entries : List (String × String)) (key value : String) : List (String × String) :=
  match entries with
  | [] => [(key, value)]
  | (oldKey, oldValue) :: rest =>
    if oldKey = key then (oldKey, value) :: rest else (oldKey, oldValue) :: setIn rest key value

/-- Setting a key adds no other key and loses none. -/
theorem mem_keys_setIn (entries : List (String × String)) (key value other : String) :
    other ∈ (setIn entries key value).map Prod.fst ↔
      other = key ∨ other ∈ entries.map Prod.fst := by
  induction entries with
  | nil => simp [setIn]
  | cons entry rest ih =>
    obtain ⟨oldKey, oldValue⟩ := entry
    by_cases h : oldKey = key
    · subst h
      simp [setIn]
    · simp only [setIn, if_neg h, List.map_cons, List.mem_cons, ih]
      exact or_left_comm

/-- Setting a key keeps the keys distinct. -/
theorem nodup_setIn {entries : List (String × String)} (h : (entries.map Prod.fst).Nodup)
    (key value : String) : ((setIn entries key value).map Prod.fst).Nodup := by
  induction entries with
  | nil => simp [setIn]
  | cons entry rest ih =>
    obtain ⟨oldKey, oldValue⟩ := entry
    rw [List.map_cons, List.nodup_cons] at h
    by_cases same : oldKey = key
    · subst same
      simpa [setIn] using h
    · simp only [setIn, if_neg same, List.map_cons, List.nodup_cons, mem_keys_setIn]
      exact ⟨fun either => either.elim same h.1, ih h.2⟩

/-- Labels with a key set to a value. -/
def set (labels : Labels) (key value : String) : Labels :=
  ⟨setIn labels.entries key value, nodup_setIn labels.distinct key value⟩

/-- The value of a key. -/
def get? (labels : Labels) (key : String) : Option String :=
  labels.entries.lookup key

/-- The labels that a list of settings leaves behind. -/
def ofList (settings : List (String × String)) : Labels :=
  settings.foldl (fun labels setting => labels.set setting.1 setting.2) .empty

/-- Labels as a mapping. -/
def toDocument (labels : Labels) : Document :=
  .mapping (labels.entries.map fun entry => (.text entry.1, .text entry.2))

end Labels

/-- One entry of a mapping as a label. Both its key and its value have to be texts. -/
def checkLabel (entry : Document × Document) : Validated (String × String) :=
  (((checkText entry.1).atStep .keyItself).atStep (.under entry.1)).zip
    ((checkText entry.2).atStep (.under entry.1))

/-- The entries of a mapping as labels. -/
def checkLabelEntries : Entries → Validated (List (String × String))
  | [] => .valid []
  | entry :: entries =>
    ((checkLabel entry).zip (checkLabelEntries entries)).map fun pair => pair.1 :: pair.2

/-- A mapping from texts to texts. -/
def checkLabels (d : Document) : Validated Labels :=
  match d.entries? with
  | some entries => (checkLabelEntries entries).map Labels.ofList
  | none => .fault .notMapping

end PodLaunch
