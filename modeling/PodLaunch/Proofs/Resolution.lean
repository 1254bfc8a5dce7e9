import PodLaunch.Proofs.Binding
import PodLaunch.Proofs.Placeholders
import PodLaunch.Proofs.Sequence

/-!
# What resolving a container comes to

The mounts are bound first, and a fault among them counts whatever the command is. Behind that, the
only placeholder with a value is the root of the configuration, and it has one exactly if anything
is mounted.
-/

namespace PodLaunch

open Argument

/-- A placeholder has a value exactly if it names the root of the configuration and there is one. -/
theorem isSome_placeholderValue?_iff (root : Option String) (identifier : String) :
    (placeholderValue? root identifier).isSome ↔ identifier = configRootName ∧ root.isSome := by
  by_cases named : identifier = configRootName <;> simp [placeholderValue?, named]

/-- An argument is resolved to what it is filled in with. -/
theorem resolveArgument_eq_ok_iff (root : Option String) (argument resolved : String) :
    resolveArgument root argument = .ok resolved ↔
      fill (placeholderValue? root) argument = .ok resolved := by
  unfold resolveArgument
  cases fill (placeholderValue? root) argument <;> simp

/-- An argument is not resolved exactly if filling it in reports a placeholder. -/
theorem resolveArgument_eq_error_iff (root : Option String) (argument : String)
    (error : ResolutionError) :
    resolveArgument root argument = .error error ↔
      ∃ identifier, error = .unresolvedPlaceholder identifier (knownPlaceholders root) ∧
        fill (placeholderValue? root) argument = .error identifier := by
  unfold resolveArgument
  cases fill (placeholderValue? root) argument with
  | ok filled => simp
  | error identifier => simp [eq_comm]

/-- Some argument resolves exactly if every placeholder in it has a value. -/
theorem exists_resolveArgument_iff (root : Option String) (argument : String) :
    (∃ resolved, resolveArgument root argument = .ok resolved) ↔
      ∀ identifier ∈ placeholders argument, identifier = configRootName ∧ root.isSome := by
  simp only [resolveArgument_eq_ok_iff, fill_eq_ok_iff, isSome_placeholderValue?_iff]

/-- A placeholder that comes first among those without a value in one of several arguments, behind
arguments that have none, is the first in all of them. -/
theorem exists_first_of_mapM_error {root : Option String} {command : List String}
    {error : ResolutionError} (h : command.mapM (resolveArgument root) = .error error) :
    ∃ before identifier after,
      command.flatMap placeholders = before ++ identifier :: after ∧
      (∀ earlier ∈ before, earlier = configRootName ∧ root.isSome) ∧
      ¬ (identifier = configRootName ∧ root.isSome) ∧
      error = .unresolvedPlaceholder identifier (knownPlaceholders root) := by
  rw [mapM_eq_error_iff] at h
  obtain ⟨resolved, argument, others, rfl, failure, successes⟩ := h
  obtain ⟨identifier, rfl, report⟩ := (resolveArgument_eq_error_iff _ _ _).1 failure
  rw [fill_eq_error_iff, List.find?_eq_some_iff_append] at report
  obtain ⟨unvalued, before, after, split, valued⟩ := report
  refine ⟨resolved.flatMap placeholders ++ before, identifier,
    after ++ others.flatMap placeholders, ?_, ?_, ?_, rfl⟩
  · simp [List.flatMap_append, split]
  · intro earlier member
    rcases List.mem_append.1 member with inResolved | inSame
    · obtain ⟨other, isOther, inOther⟩ := List.mem_flatMap.1 inResolved
      exact (exists_resolveArgument_iff root other).1 (successes other isOther) earlier inOther
    · rw [← isSome_placeholderValue?_iff]
      simpa [Option.isSome_iff_ne_none] using valued earlier inSame
  · rw [← isSome_placeholderValue?_iff]
    simpa using unvalued

/-- All arguments resolve exactly if every placeholder in them has a value. -/
theorem exists_mapM_resolveArgument_iff (root : Option String) (command : List String) :
    (∃ resolved, command.mapM (resolveArgument root) = .ok resolved) ↔
      ∀ argument ∈ command, ∀ identifier ∈ placeholders argument,
        identifier = configRootName ∧ root.isSome := by
  simp only [mapM_eq_ok_iff, ← exists_resolveArgument_iff, exists_forall₂_iff]

/-- A fault of the mounts is the outcome, whatever the command is. -/
theorem resolve_of_bindMounts_error {volumes : List ConfigVolume} {mounts : List VolumeMount}
    {error : ResolutionError} (h : bindMounts volumes mounts = .error error)
    (command : List String) : resolve volumes mounts command = .error error := by
  simp [resolve, h, bind, Except.bind]

/-- Behind bindings, the outcome is that of the arguments. -/
theorem resolve_of_bindMounts {volumes : List ConfigVolume} {mounts : List VolumeMount}
    {bindings : List MountBinding} (h : bindMounts volumes mounts = .ok bindings)
    (command : List String) :
    resolve volumes mounts command =
      (command.mapM (resolveArgument (configRoot? volumes bindings))).map
        fun arguments => ⟨bindings, arguments⟩ := by
  simp only [resolve, h, bind, Except.bind, pure, Except.pure]
  cases command.mapM (resolveArgument (configRoot? volumes bindings)) <;> rfl

/-- A container comes out exactly if its plan is that of the mounts and each argument of its command
is what the argument at its place is resolved to. -/
theorem resolve_eq_ok_iff (volumes : List ConfigVolume) (mounts : List VolumeMount)
    (command : List String) (container : ResolvedContainer) :
    resolve volumes mounts command = .ok container ↔
      bindMounts volumes mounts = .ok container.mountPlan ∧
        List.Forall₂ (fun argument resolved =>
          resolveArgument (configRoot? volumes container.mountPlan) argument = .ok resolved)
          command container.command := by
  cases bound : bindMounts volumes mounts with
  | error error => simp [resolve_of_bindMounts_error bound]
  | ok bindings =>
    rw [resolve_of_bindMounts bound, map_eq_ok_iff]
    constructor
    · rintro ⟨arguments, steps, rfl⟩
      exact ⟨rfl, (mapM_eq_ok_iff _ _ _).1 steps⟩
    · rintro ⟨same, steps⟩
      cases same
      exact ⟨container.command, (mapM_eq_ok_iff _ _ _).2 steps, rfl⟩

/-- A container is resolved as follows. A fault of its mounts is the outcome. Else there is a root
of the configuration exactly if anything is mounted, and the command resolves exactly if each of its
placeholders names the root and there is one. Then the plan is that of the mounts and each argument
is filled in at its place; otherwise the first placeholder without a value is reported. -/
theorem resolve_outcome (volumes : List ConfigVolume) (mounts : List VolumeMount)
    (command : List String) :
    (∀ error, bindMounts volumes mounts = .error error →
      resolve volumes mounts command = .error error) ∧
    ∀ bindings, bindMounts volumes mounts = .ok bindings →
      ∃ root : Option String,
        (∀ path, root = some path ↔ IsConfigRoot volumes mounts path) ∧
        (root.isSome ↔ mounts ≠ []) ∧
        ((∃ container, resolve volumes mounts command = .ok container) ↔
          ∀ argument ∈ command, ∀ identifier ∈ placeholders argument,
            identifier = "configroot" ∧ mounts ≠ []) ∧
        (∀ container, resolve volumes mounts command = .ok container →
          container.mountPlan = bindings ∧ container.command.length = command.length ∧
          List.Forall₂ (fun argument resolved =>
            fill (placeholderValue? root) argument = .ok resolved ∧
              (placeholders argument = [] → resolved = argument)) command container.command) ∧
        ∀ error, resolve volumes mounts command = .error error →
          ∃ before identifier after,
            command.flatMap placeholders = before ++ identifier :: after ∧
            (∀ earlier ∈ before, earlier = "configroot" ∧ mounts ≠ []) ∧
            ¬ (identifier = "configroot" ∧ mounts ≠ []) ∧
            error = .unresolvedPlaceholder identifier (knownPlaceholders root) := by
  refine ⟨fun error failure => resolve_of_bindMounts_error failure command,
    fun bindings binding => ⟨configRoot? volumes bindings, ?_⟩⟩
  have bound := forall₂_binds_of_bindMounts binding
  have outcome := resolve_of_bindMounts binding command
  have present := isSome_configRoot?_iff bound
  refine ⟨configRoot?_eq_some_iff bound, present, ?_, ?_, ?_⟩
  · rw [outcome]
    have resolves := exists_mapM_resolveArgument_iff (configRoot? volumes bindings) command
    simp only [present, configRootName] at resolves
    rw [← resolves]
    cases command.mapM (resolveArgument (configRoot? volumes bindings)) <;> simp [Except.map]
  · intro container success
    rw [outcome] at success
    cases arguments : command.mapM (resolveArgument (configRoot? volumes bindings)) with
    | error error => simp [arguments, Except.map] at success
    | ok resolved =>
      rw [arguments] at success
      cases success
      have steps := (mapM_eq_ok_iff _ _ _).1 arguments
      refine ⟨rfl, steps.length_eq.symm, steps.imp fun argument result step => ?_⟩
      rw [resolveArgument_eq_ok_iff] at step
      refine ⟨step, fun none => ?_⟩
      rw [fill_of_no_placeholder _ _ none] at step
      exact (Except.ok.inj step).symm
  · intro error failure
    rw [outcome] at failure
    cases arguments : command.mapM (resolveArgument (configRoot? volumes bindings)) with
    | ok resolved => simp [arguments, Except.map] at failure
    | error cause =>
      rw [arguments] at failure
      cases failure
      simpa only [present, configRootName] using exists_first_of_mapM_error arguments

end PodLaunch
