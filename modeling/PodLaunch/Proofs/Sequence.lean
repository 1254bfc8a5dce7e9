import Mathlib.Data.List.Forall2
import PodLaunch.Log

/-!
# Steps one after the other

A list may be worked through by a step that can fail. The whole succeeds exactly if every step does,
and fails with the first failure. Records that steps leave behind do not change their results.
-/

namespace PodLaunch

universe u v w

variable {α : Type u} {β : Type v} {ε : Type w}

/-- Each value is related to some other one exactly if there is a list of related ones. -/
theorem exists_forall₂_iff (related : α → β → Prop) (values : List α) :
    (∃ results, List.Forall₂ related values results) ↔
      ∀ value ∈ values, ∃ result, related value result := by
  constructor
  · rintro ⟨results, all⟩ value member
    induction all with
    | nil => simp at member
    | @cons first result _ _ one _ ih =>
      rcases List.mem_cons.1 member with rfl | later
      · exact ⟨result, one⟩
      · exact ih later
  · intro each
    induction values with
    | nil => exact ⟨[], List.Forall₂.nil⟩
    | cons value values ih =>
      obtain ⟨first, one⟩ := each value List.mem_cons_self
      obtain ⟨rest, all⟩ := ih fun other member => each other (List.mem_cons_of_mem _ member)
      exact ⟨first :: rest, List.Forall₂.cons one all⟩

/-- Each of the results is related to one of the values. -/
theorem exists_mem_of_forall₂ {related : α → β → Prop} {values : List α} {results : List β}
    (all : List.Forall₂ related values results) {result : β} (member : result ∈ results) :
    ∃ value ∈ values, related value result := by
  induction all with
  | nil => simp at member
  | @cons first _ _ _ one _ ih =>
    rcases List.mem_cons.1 member with rfl | later
    · exact ⟨first, List.mem_cons_self, one⟩
    · obtain ⟨value, isValue, other⟩ := ih later
      exact ⟨value, List.mem_cons_of_mem _ isValue, other⟩

/-- Two relations that agree on the values relate them to the same lists. -/
theorem forall₂_congr_of_mem {related other : α → β → Prop} {values : List α}
    (same : ∀ value ∈ values, ∀ result, related value result ↔ other value result)
    (results : List β) :
    List.Forall₂ related values results ↔ List.Forall₂ other values results := by
  induction values generalizing results with
  | nil => cases results <;> simp
  | cons value values ih =>
    have first := same value List.mem_cons_self
    have rest := ih fun other member => same other (List.mem_cons_of_mem _ member)
    cases results <;> simp [first, rest]

/-- Values that are each the image of something related are the images of related ones. -/
theorem forall₂_image_iff {γ : Type v} (image : γ → α) (related : γ → β → Prop) (values : List α)
    (results : List β) :
    List.Forall₂ (fun value result => ∃ source, value = image source ∧ related source result)
        values results ↔
      ∃ sources, values = sources.map image ∧ List.Forall₂ related sources results := by
  induction values generalizing results with
  | nil => cases results <;> simp
  | cons value values ih =>
    constructor
    · rintro (_ | ⟨⟨source, rfl, one⟩, all⟩)
      obtain ⟨sources, rfl, rest⟩ := (ih _).1 all
      exact ⟨source :: sources, rfl, List.Forall₂.cons one rest⟩
    · rintro ⟨sources, same, all⟩
      cases all with
      | nil => cases same
      | cons one rest =>
        simp only [List.map_cons, List.cons.injEq] at same
        exact List.Forall₂.cons ⟨_, same.1, one⟩ ((ih _).2 ⟨_, same.2, rest⟩)

/-- Values related through values in between are related one by one. -/
theorem exists_forall₂_comp_iff {γ : Type w} (first : α → β → Prop) (second : β → γ → Prop)
    (values : List α) (results : List γ) :
    (∃ between, List.Forall₂ first values between ∧ List.Forall₂ second between results) ↔
      List.Forall₂ (fun value result => ∃ middle, first value middle ∧ second middle result)
        values results := by
  induction values generalizing results with
  | nil => cases results <;> simp
  | cons value values ih =>
    cases results with
    | nil => simp
    | cons result results =>
      rw [List.forall₂_cons, ← ih]
      constructor
      · rintro ⟨_, _ | ⟨one, all⟩, _ | ⟨other, others⟩⟩
        exact ⟨⟨_, one, other⟩, _, all, others⟩
      · rintro ⟨⟨middle, one, other⟩, between, all, others⟩
        exact ⟨middle :: between, List.Forall₂.cons one all, List.Forall₂.cons other others⟩

/-- Two steps succeed together exactly if the first does, and the second does with its result. -/
theorem bind_eq_ok_iff {α β : Type} {ε : Type} (first : Except ε α) (next : α → Except ε β)
    (result : β) :
    (first >>= next) = .ok result ↔
      ∃ value, first = .ok value ∧ next value = .ok result := by
  cases first <;> simp [bind, Except.bind]

/-- A mapped result is one of what it is mapped from. -/
theorem map_eq_ok_iff {α β : Type} {ε : Type} (f : α → β) (outcome : Except ε α) (result : β) :
    outcome.map f = .ok result ↔ ∃ value, outcome = .ok value ∧ f value = result := by
  cases outcome <;> simp [Except.map]

/-- A mapped outcome fails exactly as it does without being mapped. -/
theorem map_eq_error_iff {α β : Type} {ε : Type} (f : α → β) (outcome : Except ε α) (error : ε) :
    outcome.map f = .error error ↔ outcome = .error error := by
  cases outcome <;> simp [Except.map]

/-- What is told of a failure does not concern a success. -/
theorem mapError_eq_ok_iff {α ε δ : Type} (report : ε → δ) (outcome : Except ε α) (result : α) :
    outcome.mapError report = .ok result ↔ outcome = .ok result := by
  cases outcome <;> simp [Except.mapError]

/-- What is told of a failure is told of the one that there is. -/
theorem mapError_eq_error_iff {α ε δ : Type} (report : ε → δ) (outcome : Except ε α) (told : δ) :
    outcome.mapError report = .error told ↔
      ∃ error, outcome = .error error ∧ report error = told := by
  cases outcome <;> simp [Except.mapError]

/-- A success is mapped, and a failure told of, in either order. -/
theorem mapError_map {α β ε δ : Type} (f : α → β) (report : ε → δ) (outcome : Except ε α) :
    (outcome.map f).mapError report = (outcome.mapError report).map f := by
  cases outcome <;> rfl

/-- A failure that is told of as it is stays as it is. -/
theorem mapError_id {α ε : Type} (outcome : Except ε α) : outcome.mapError id = outcome := by
  cases outcome <;> rfl

/-- All steps succeed exactly if their results are those of the whole, in order. -/
theorem mapM_eq_ok_iff (step : α → Except ε β) (values : List α) (results : List β) :
    values.mapM step = .ok results ↔
      List.Forall₂ (fun value result => step value = .ok result) values results := by
  induction values generalizing results with
  | nil => cases results <;> simp [pure, Except.pure]
  | cons value values ih =>
    rw [List.mapM_cons]
    cases first : step value with
    | error error => cases results <;> simp [bind, Except.bind, first]
    | ok result =>
      cases rest : values.mapM step with
      | error error => cases results <;> simp [bind, Except.bind, first, ← ih, rest]
      | ok others =>
        cases results <;> simp [bind, Except.bind, pure, Except.pure, first, ← ih, rest]

/-- The whole fails exactly if some step does after others that succeed, with its failure. -/
theorem mapM_eq_error_iff (step : α → Except ε β) (values : List α) (error : ε) :
    values.mapM step = .error error ↔
      ∃ before value after, values = before ++ value :: after ∧ step value = .error error ∧
        ∀ earlier ∈ before, ∃ result, step earlier = .ok result := by
  induction values with
  | nil => simp [pure, Except.pure]
  | cons value values ih =>
    rw [List.mapM_cons]
    cases first : step value with
    | error other =>
      simp only [bind, Except.bind, Except.error.injEq]
      constructor
      · rintro rfl
        exact ⟨[], value, values, rfl, first, by simp⟩
      · rintro ⟨before, failing, after, split, failure, successes⟩
        cases before with
        | nil =>
          cases split
          rw [first] at failure
          exact Except.error.inj failure
        | cons earlier before =>
          cases split
          obtain ⟨result, success⟩ := successes value List.mem_cons_self
          rw [first] at success
          cases success
    | ok result =>
      have rest : (do let others ← values.mapM step; return result :: others) =
          (.error error : Except ε (List β)) ↔ values.mapM step = .error error := by
        cases values.mapM step <;> simp [bind, Except.bind, pure, Except.pure]
      refine rest.trans (ih.trans ?_)
      constructor
      · rintro ⟨before, failing, after, rfl, failure, successes⟩
        refine ⟨value :: before, failing, after, rfl, failure, ?_⟩
        simp only [List.mem_cons, forall_eq_or_imp]
        exact ⟨⟨result, first⟩, successes⟩
      · rintro ⟨before, failing, after, split, failure, successes⟩
        cases before with
        | nil =>
          cases split
          rw [first] at failure
          cases failure
        | cons earlier before =>
          cases split
          exact ⟨before, failing, after, rfl, failure,
            fun other member => successes other (List.mem_cons_of_mem _ member)⟩

/-! ## Steps with records -/

namespace Recorded

variable {α β : Type}

/-- A step that only gives a value gives that value. -/
@[simp] theorem result_pure (value : α) : (pure value : Recorded α).result = value :=
  rfl

/-- A step behind another one has the result that it has for the result of the first one. -/
@[simp] theorem result_bind (first : Recorded α) (next : α → Recorded β) :
    (first >>= next).result = (next first.result).result :=
  rfl

/-- A step that is given the records of the first one as well. -/
@[simp] theorem result_andThenWith (first : Recorded α) (next : List LogRecord → α → Recorded β) :
    (first.andThenWith next).result = (next first.records first.result).result :=
  rfl

end Recorded

end PodLaunch
