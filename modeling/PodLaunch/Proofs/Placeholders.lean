import PodLaunch.Argument

/-!
# Placeholders and their values

Filling an argument in succeeds exactly if each of its placeholders has a value, and otherwise
reports the first that has none. An argument without placeholders is left as it is.
-/

namespace PodLaunch.Argument

/-- The identifier of a piece, if it is a token. -/
def Piece.identifier? : Piece → Option String
  | .literal _ => none
  | .token text => some (identifier text)

/-- The placeholders of an argument are the identifiers of its pieces. -/
theorem placeholders_eq (argument : String) :
    placeholders argument = (pieces argument.toList).filterMap Piece.identifier? :=
  rfl

variable (value? : String → Option String)

/-- Pieces are filled in exactly if every identifier among them has a value. -/
theorem fillPieces_eq_ok_iff (parts : List Piece) :
    (∃ filled, fillPieces value? parts = .ok filled) ↔
      ∀ name ∈ parts.filterMap Piece.identifier?, (value? name).isSome := by
  induction parts with
  | nil => simp [fillPieces]
  | cons part parts ih =>
    cases part with
    | literal text =>
      simp only [List.filterMap_cons, Piece.identifier?, ← ih, fillPieces]
      cases fillPieces value? parts <;> simp [bind, Except.bind, pure, Except.pure]
    | token text =>
      simp only [List.filterMap_cons, Piece.identifier?, List.mem_cons, forall_eq_or_imp, ← ih,
        fillPieces]
      cases value? (identifier text) with
      | none => simp
      | some value => cases fillPieces value? parts <;> simp [bind, Except.bind, pure, Except.pure]

/-- What filling pieces in reports is the first identifier among them that has no value. -/
theorem fillPieces_eq_error_iff (parts : List Piece) (name : String) :
    fillPieces value? parts = .error name ↔
      (parts.filterMap Piece.identifier?).find? (fun name => (value? name).isNone) = some name := by
  induction parts with
  | nil => simp [fillPieces]
  | cons part parts ih =>
    cases part with
    | literal text =>
      simp only [List.filterMap_cons, Piece.identifier?, ← ih, fillPieces]
      cases fillPieces value? parts <;> simp [bind, Except.bind, pure, Except.pure]
    | token text =>
      simp only [List.filterMap_cons, Piece.identifier?, List.find?_cons, fillPieces]
      cases value? (identifier text) with
      | none => simp
      | some value =>
        simp only [Option.isNone_some, ← ih]
        cases fillPieces value? parts <;> simp [bind, Except.bind, pure, Except.pure]

/-- An argument is filled in exactly if every placeholder in it has a value. -/
theorem fill_eq_ok_iff (argument : String) :
    (∃ filled, fill value? argument = .ok filled) ↔
      ∀ name ∈ placeholders argument, (value? name).isSome := by
  rw [placeholders_eq, ← fillPieces_eq_ok_iff, fill]
  cases fillPieces value? (pieces argument.toList) <;> simp [Except.map]

/-- What filling an argument in reports is its first placeholder that has no value. -/
theorem fill_eq_error_iff (argument name : String) :
    fill value? argument = .error name ↔
      (placeholders argument).find? (fun name => (value? name).isNone) = some name := by
  rw [placeholders_eq, ← fillPieces_eq_error_iff, fill]
  cases fillPieces value? (pieces argument.toList) <;> simp [Except.map]

/-- An argument without tokens is a single literal. -/
theorem pieces_eq_literal_of_no_token (s : List Char)
    (h : (pieces s).filterMap Piece.identifier? = []) : pieces s = [.literal s] := by
  fun_cases pieces s with
  | case1 opening => rfl
  | case2 before rest opening closing => rfl
  | case3 before rest opening token after closing =>
    rw [pieces] at h
    split at h
    · simp_all
    · split at h
      · simp_all
      · simp [Piece.identifier?] at h

/-- An argument without placeholders is left as it is. -/
theorem fill_of_no_placeholder (argument : String) (h : placeholders argument = []) :
    fill value? argument = .ok argument := by
  rw [placeholders_eq] at h
  rw [fill, pieces_eq_literal_of_no_token _ h]
  simp [fillPieces, bind, Except.bind, pure, Except.pure, Except.map]

end PodLaunch.Argument
