import PodLaunch.Document.Equality
import PodLaunch.Proofs.Manifest.Tolerations

/-!
# How the validation of a toleration ends

Each field of a toleration has values that stand for its default, and texts that it may hold. If a
field holds anything else, this is one problem. A mapping without problems is a toleration if it
asks for existence, or for some value; otherwise it matches nothing. So neither other fields nor the
way in which a default is given have any bearing on the outcome.
-/

namespace PodLaunch

namespace Validated

variable {α β : Type}

/-- A validation has some problems: it ends with a value if there are none, and else with them. -/
def HasProblems (outcome : Validated α) : List Problem → Prop
  | [] => ∃ value, outcome = .valid value
  | problem :: problems => outcome = .invalid (problem :: problems)

/-- A validation that has a problem ends with its problems. -/
theorem HasProblems.eq_invalid {outcome : Validated α} {problems : List Problem}
    (h : outcome.HasProblems problems) (some : problems ≠ []) : outcome = .invalid problems := by
  cases problems with
  | nil => exact absurd rfl some
  | cons problem problems => exact h

/-- A validation ends with a value exactly if it has no problems. -/
theorem HasProblems.exists_valid_iff {outcome : Validated α} {problems : List Problem}
    (h : outcome.HasProblems problems) : (∃ value, outcome = .valid value) ↔ problems = [] := by
  cases problems with
  | nil => exact iff_of_true h rfl
  | cons problem problems =>
    have invalid : outcome = .invalid (problem :: problems) := h
    simp [invalid]

/-- Two parts have the problems of the first one and then those of the second one. -/
theorem HasProblems.zip {left : Validated α} {right : Validated β} {problems more : List Problem}
    (first : left.HasProblems problems) (second : right.HasProblems more) :
    (left.zip right).HasProblems (problems ++ more) := by
  cases problems with
  | nil =>
    obtain ⟨value, rfl⟩ := first
    cases more with
    | nil =>
      obtain ⟨other, rfl⟩ := second
      exact ⟨(value, other), rfl⟩
    | cons problem more =>
      have invalid : right = .invalid (problem :: more) := second
      subst invalid
      rfl
  | cons problem problems =>
    have invalid : left = .invalid (problem :: problems) := first
    subst invalid
    cases more with
    | nil =>
      obtain ⟨other, rfl⟩ := second
      rw [List.append_nil]
      rfl
    | cons another more =>
      have invalid : right = .invalid (another :: more) := second
      subst invalid
      rfl

/-- Problems of a part stand at its place in the whole. -/
theorem HasProblems.atStep {outcome : Validated α} {problems : List Problem}
    (h : outcome.HasProblems problems) (step : PlaceStep) :
    (outcome.atStep step).HasProblems
      (problems.map fun problem => ⟨step :: problem.place, problem.fault⟩) := by
  cases problems with
  | nil =>
    obtain ⟨value, rfl⟩ := h
    exact ⟨value, rfl⟩
  | cons problem problems =>
    have invalid : outcome = .invalid (problem :: problems) := h
    subst invalid
    rfl

end Validated

open Validated

/-! ## Rules for fields -/

/-- A rule for a field of a model: how it stands for its default, and which texts it may hold. -/
structure FieldRule where
  /-- The name of the field. -/
  name : String
  /-- The values that stand for its default. -/
  blanks : List (Option Document)
  /-- The texts to choose from; any text may be held, if there is no choice. -/
  choices : Option (List String)

namespace FieldRule

/-- What is wrong with any other value. -/
def fault (rule : FieldRule) : Fault :=
  (rule.choices.map Fault.notChoice).getD .notText

/-- Whether a field may hold a text. -/
def admitsText (rule : FieldRule) (text : String) : Bool :=
  (rule.choices.map fun choices => choices.contains text).getD true

/-- Whether a field may hold a value. -/
def admits (rule : FieldRule) (value : Option Document) : Bool :=
  rule.blanks.contains value ||
    match value with
    | some (.text text) => rule.admitsText text
    | _ => false

/-- The problem of a field that holds any other value. -/
def problem (rule : FieldRule) : Problem :=
  ⟨[.field rule.name], rule.fault⟩

/-- Two values of a field are the same, or both of them stand for its default. -/
def ReadsSame (rule : FieldRule) (left right : Option Document) : Prop :=
  left = right ∨ left ∈ rule.blanks ∧ right ∈ rule.blanks

instance (rule : FieldRule) (left right : Option Document) :
    Decidable (rule.ReadsSame left right) :=
  inferInstanceAs (Decidable (left = right ∨ left ∈ rule.blanks ∧ right ∈ rule.blanks))

/-- The fields of a mapping that do not hold what they may. -/
def violated (rules : List FieldRule) (entries : Entries) : List FieldRule :=
  rules.filter fun rule => !rule.admits (entries.get? rule.name)

/-- The problems of a mapping: one for each such field, in the order of the fields. -/
def problems (rules : List FieldRule) (entries : Entries) : List Problem :=
  (violated rules entries).map problem

/-- A field may hold what stands for its default, and texts to choose from. -/
theorem admits_eq_true_iff (rule : FieldRule) (value : Option Document) :
    rule.admits value = true ↔
      value ∈ rule.blanks ∨ ∃ text, value = some (.text text) ∧ rule.admitsText text = true := by
  unfold admits
  rw [Bool.or_eq_true, List.contains_iff_mem]
  refine or_congr_right ?_
  cases value with
  | none => simp
  | some d => cases d <;> simp

/-- The problems of two lists of fields follow each other. -/
theorem problems_append (first second : List FieldRule) (entries : Entries) :
    problems (first ++ second) entries = problems first entries ++ problems second entries := by
  simp only [problems, violated, List.filter_append, List.map_append]

/-- There are no problems exactly if every field holds what it may. -/
theorem problems_eq_nil_iff (rules : List FieldRule) (entries : Entries) :
    problems rules entries = [] ↔
      ∀ rule ∈ rules, rule.admits (entries.get? rule.name) = true := by
  simp only [problems, violated, List.map_eq_nil_iff, List.filter_eq_nil_iff,
    Bool.not_eq_true', Bool.not_eq_false]

section Fields

variable {α : Type} {rule : FieldRule} {check : Document → Validated α} {default : α}

/-- A check that fails in one way only has that problem exactly for the values that are not
admitted, if it is valid for the others. -/
theorem hasProblems_of_valid_iff {d : Document}
    (valid : (∃ value, check d = .valid value) ↔ rule.admits (some d) = true)
    (otherwise : (∃ value, check d = .valid value) ∨ check d = Validated.fault rule.fault) :
    (check d).HasProblems (if rule.admits (some d) then [] else [⟨[], rule.fault⟩]) := by
  cases admitted : rule.admits (some d) with
  | true => exact valid.2 admitted
  | false =>
    apply otherwise.resolve_left
    rw [valid, admitted]
    exact Bool.false_ne_true

variable (rule)

/-- A field with a default has one problem if it does not hold what it may, and none otherwise. -/
theorem hasProblems_optional {entries : Entries} (leftOut : none ∈ rule.blanks)
    (each : ∀ d, entries.get? rule.name = some d →
      (check d).HasProblems (if rule.admits (some d) then [] else [⟨[], rule.fault⟩])) :
    (optional entries rule.name default check).HasProblems (problems [rule] entries) := by
  rw [optional, optionalAs, Entries.field?_self]
  cases found : entries.get? rule.name with
  | none =>
    have admitted : rule.admits none = true := (rule.admits_eq_true_iff none).2 (Or.inl leftOut)
    simp only [problems, violated, List.filter_cons, found, admitted]
    exact ⟨default, rfl⟩
  | some d =>
    have field := (each d found).atStep (.field rule.name)
    cases admitted : rule.admits (some d) <;>
      simpa [problems, violated, found, admitted, problem] using field

/-- A field with a default does not tell apart the values that stand for the default. -/
theorem optional_congr {left right : Entries}
    (same : rule.ReadsSame (left.get? rule.name) (right.get? rule.name))
    (blank : ∀ d, some d ∈ rule.blanks → check d = .valid default) :
    optional left rule.name default check = optional right rule.name default check := by
  have default_of_blank (entries : Entries) (stands : entries.get? rule.name ∈ rule.blanks) :
      optional entries rule.name default check = .valid default := by
    rw [optional, optionalAs, Entries.field?_self]
    cases found : entries.get? rule.name with
    | none => rfl
    | some d =>
      rw [found] at stands
      simp only [blank d stands]
      rfl
  cases same with
  | inl equal => simp only [optional, optionalAs, Entries.field?_self, equal]
  | inr both => rw [default_of_blank left both.1, default_of_blank right both.2]

end Fields

end FieldRule

namespace Manifest

open FieldRule

/-! ## The fields of a toleration -/

/-- A field that holds a text, the empty one by default. -/
def textRule (name : String) : FieldRule :=
  ⟨name, [none, some .null, some (.text "")], none⟩

/-- The operator; a toleration asks for a value by default. -/
def operatorRule : FieldRule :=
  ⟨"operator", [none, some (.text "Equal")], some ["Exists", "Equal"]⟩

/-- The effect; a toleration is for every effect by default. -/
def effectRule : FieldRule :=
  ⟨"effect", [none, some .null, some (.text "")],
    some ["NoSchedule", "PreferNoSchedule", "NoExecute"]⟩

/-- The fields of a toleration, in order. -/
def tolerationRules : List FieldRule :=
  [textRule "key", operatorRule, textRule "value", effectRule]

/-- A text field may hold the absent value and any text. -/
theorem textRule_admits_iff (name : String) (d : Document) :
    (textRule name).admits (some d) = true ↔ d = .null ∨ ∃ text, d = .text text := by
  rw [admits_eq_true_iff]
  constructor
  · rintro (blank | ⟨text, same, _⟩)
    · simp only [textRule, List.mem_cons, reduceCtorEq, Option.some.injEq, List.not_mem_nil,
        or_false, false_or] at blank
      exact blank.imp_right fun same => ⟨"", same⟩
    · exact Or.inr ⟨text, Option.some.inj same⟩
  · rintro (rfl | ⟨text, rfl⟩)
    · exact Or.inl (by simp [textRule])
    · exact Or.inr ⟨text, rfl, rfl⟩

/-- The operator may hold the names of operators. -/
theorem operatorRule_admits_iff (d : Document) :
    operatorRule.admits (some d) = true ↔
      ∃ operator : TolerationOperator, d = .text operator.name := by
  rw [admits_eq_true_iff]
  constructor
  · rintro (blank | ⟨text, same, chosen⟩)
    · refine ⟨.equal, ?_⟩
      simpa [operatorRule, TolerationOperator.name] using blank
    · obtain rfl := Option.some.inj same
      have named : text = "Exists" ∨ text = "Equal" := by
        simpa [operatorRule, admitsText] using chosen
      obtain rfl | rfl := named
      · exact ⟨.exists, rfl⟩
      · exact ⟨.equal, rfl⟩
  · rintro ⟨operator, rfl⟩
    exact Or.inr ⟨operator.name, rfl, by cases operator <;> decide⟩

/-- The effect may hold the absent value, the empty text and the names of effects. -/
theorem effectRule_admits_iff (d : Document) :
    effectRule.admits (some d) = true ↔
      (d = .null ∨ d = .text "") ∨ ∃ effect : TaintEffect, d = .text effect.name := by
  rw [admits_eq_true_iff]
  refine or_congr (by simp [effectRule]) ?_
  constructor
  · rintro ⟨text, same, chosen⟩
    obtain rfl := Option.some.inj same
    have named : text = "NoSchedule" ∨ text = "PreferNoSchedule" ∨ text = "NoExecute" := by
      simpa [effectRule, admitsText] using chosen
    obtain rfl | rfl | rfl := named
    · exact ⟨.noSchedule, rfl⟩
    · exact ⟨.preferNoSchedule, rfl⟩
    · exact ⟨.noExecute, rfl⟩
  · rintro ⟨effect, rfl⟩
    exact ⟨effect.name, rfl, by cases effect <;> decide⟩

/-- A choice is valid, or it is the fault that no name has been chosen. -/
theorem checkChoice_valid_or_fault {α : Type} (choices : List (String × α)) (d : Document) :
    (∃ value, checkChoice choices d = .valid value) ∨
      checkChoice choices d = Validated.fault (.notChoice (choices.map Prod.fst)) := by
  unfold checkChoice
  dsimp only
  split
  · exact Or.inl ⟨_, rfl⟩
  · exact Or.inr rfl

variable {entry : Entries} (h : (Document.mapping entry).IsInterchange)

include h

/-- A text field of a toleration has the problem of its rule. -/
theorem hasProblems_textField (name : String) :
    (optional entry name "" Toleration.checkTextOrNull).HasProblems
      (problems [textRule name] entry) := by
  apply hasProblems_optional (textRule name) (by simp [textRule])
  intro d found
  have interchange := h.of_get? found
  apply hasProblems_of_valid_iff
  · rw [textRule_admits_iff]
    simp only [checkTextOrNull_eq_valid_iff interchange, exists_or, exists_and_left, exists_eq,
      and_true]
  · cases interchange <;> first | exact Or.inl ⟨_, rfl⟩ | exact Or.inr rfl

/-- The operator of a toleration has the problem of its rule. -/
theorem hasProblems_operator :
    (optional entry "operator" .equal (checkChoice TolerationOperator.choices)).HasProblems
      (problems [operatorRule] entry) := by
  apply hasProblems_optional operatorRule (by simp [operatorRule])
  intro d found
  apply hasProblems_of_valid_iff
  · simp only [operatorRule_admits_iff, checkOperator_eq_valid_iff (h.of_get? found)]
  · exact checkChoice_valid_or_fault TolerationOperator.choices d

/-- The effect of a toleration has the problem of its rule. -/
theorem hasProblems_effect :
    (optional entry "effect" none Toleration.checkEffect).HasProblems
      (problems [effectRule] entry) := by
  apply hasProblems_optional effectRule (by simp [effectRule])
  intro d found
  apply hasProblems_of_valid_iff
  · simp only [effectRule_admits_iff, checkEffect_eq_valid_iff (h.of_get? found)]
    constructor
    · rintro ⟨effect, ⟨blank, -⟩ | ⟨given, named, -⟩⟩
      · exact Or.inl blank
      · exact Or.inr ⟨given, named⟩
    · rintro (blank | ⟨given, named⟩)
      · exact ⟨none, Or.inl ⟨blank, rfl⟩⟩
      · exact ⟨some given, Or.inr ⟨given, named, rfl⟩⟩
  · unfold Toleration.checkEffect
    split
    · exact Or.inl ⟨none, rfl⟩
    · exact Or.inl ⟨none, rfl⟩
    · rcases checkChoice_valid_or_fault TaintEffect.choices d with ⟨effect, valid⟩ | invalid
      · exact Or.inl ⟨some effect, by rw [valid]; rfl⟩
      · exact Or.inr (by rw [invalid]; rfl)

/-- The parts of a toleration have one problem for each field that does not hold what it may. -/
theorem hasProblems_tolerationParts :
    (tolerationParts entry).HasProblems (problems tolerationRules entry) := by
  have rules : tolerationRules =
      (([textRule "key"] ++ [operatorRule]) ++ [textRule "value"]) ++ [effectRule] := rfl
  rw [rules, problems_append, problems_append, problems_append]
  have key := hasProblems_textField h "key"
  have value := hasProblems_textField h "value"
  exact ((key.zip (hasProblems_operator h)).zip value).zip (hasProblems_effect h)

/-- The fields of a toleration hold some parts exactly if they hold what they may. -/
theorem exists_tolerationFields_iff :
    (∃ key operator value effect, TolerationFields entry key operator value effect) ↔
      ∀ rule ∈ tolerationRules, rule.admits (entry.get? rule.name) = true := by
  rw [← problems_eq_nil_iff, ← (hasProblems_tolerationParts h).exists_valid_iff]
  simp only [Prod.exists, tolerationParts_eq_valid_iff h]

omit h

/-! ## Operators and values -/

/-- A field holds the operator that asks for existence exactly if it names it. -/
theorem IsOperator.eq_exists_iff {value : Option Document} {operator : TolerationOperator}
    (held : IsOperator value operator) :
    operator = .exists ↔ value = some (.text "Exists") := by
  rcases held with ⟨rfl, rfl⟩ | rfl
  · simp
  · cases operator <;> simp [TolerationOperator.name]

/-- A field holds the operator that asks for a value exactly if it names it or is left out. -/
theorem IsOperator.eq_equal_iff {value : Option Document} {operator : TolerationOperator}
    (held : IsOperator value operator) :
    operator = .equal ↔ value = none ∨ value = some (.text "Equal") := by
  rcases held with ⟨rfl, rfl⟩ | rfl
  · simp
  · cases operator <;> simp [TolerationOperator.name]

/-- A field holds the empty text exactly if it is absent or empty. -/
theorem IsTextOrEmpty.eq_empty_iff {value : Option Document} {text : String}
    (held : IsTextOrEmpty value text) :
    text = "" ↔ IsAbsent value ∨ value = some (.text "") := by
  rcases held with ⟨absent, rfl⟩ | rfl
  · exact iff_of_true rfl (Or.inl absent)
  · simp [IsAbsent]

/-- A field holds a text that is not empty exactly if it is given. -/
theorem IsTextOrEmpty.ne_empty_iff {value : Option Document} {text : String}
    (held : IsTextOrEmpty value text) :
    text ≠ "" ↔ ∃ given, given ≠ "" ∧ value = some (.text given) := by
  rcases held with ⟨rfl | rfl, rfl⟩ | rfl <;> simp

/-- The parts that fields hold match something exactly if existence or some value is asked for. -/
theorem TolerationFields.matchable_iff {key value : String} {operator : TolerationOperator}
    {effect : Option TaintEffect} (fields : TolerationFields entry key operator value effect) :
    (operator = .equal → value ≠ "") ↔
      entry.get? "operator" = some (.text "Exists") ∨
        ∃ given, given ≠ "" ∧ entry.get? "value" = some (.text given) := by
  rw [← fields.operator.eq_exists_iff, ← fields.value.ne_empty_iff]
  cases operator <;> simp

/-! ## Outcomes -/

/-- A toleration is validated in the same way for all fields that read the same. -/
theorem validate_toleration_congr {other : Entries}
    (same : ∀ rule ∈ tolerationRules,
      rule.ReadsSame (entry.get? rule.name) (other.get? rule.name)) :
    Toleration.validate (.mapping entry) = Toleration.validate (.mapping other) := by
  have text (name : String)
      (reads : (textRule name).ReadsSame (entry.get? name) (other.get? name)) :
      optional entry name "" Toleration.checkTextOrNull =
        optional other name "" Toleration.checkTextOrNull := by
    apply optional_congr (textRule name) reads
    intro d blank
    obtain rfl | rfl : d = .null ∨ d = .text "" := by simpa [textRule] using blank
    · rfl
    · rfl
  have operator : optional entry "operator" .equal (checkChoice TolerationOperator.choices) =
      optional other "operator" .equal (checkChoice TolerationOperator.choices) := by
    apply optional_congr operatorRule (same operatorRule (by simp [tolerationRules]))
    intro d blank
    obtain rfl : d = .text "Equal" := by simpa [operatorRule] using blank
    rfl
  have effect : optional entry "effect" none Toleration.checkEffect =
      optional other "effect" none Toleration.checkEffect := by
    apply optional_congr effectRule (same effectRule (by simp [tolerationRules]))
    intro d blank
    obtain rfl | rfl : d = .null ∨ d = .text "" := by simpa [effectRule] using blank
    · rfl
    · rfl
  have key := text "key" (same (textRule "key") (by simp [tolerationRules]))
  have value := text "value" (same (textRule "value") (by simp [tolerationRules]))
  rw [validate_toleration_eq, validate_toleration_eq, tolerationParts, tolerationParts, key,
    operator, value, effect]

/-- A mapping of an interchange document is a toleration, matches nothing, or has problems. It is a
toleration, with the parts that its fields hold, exactly if they hold what they may, and ask for
existence or for some value. It matches nothing exactly if they hold what they may, but ask for a
value and give none. Otherwise it has one problem for each field that does not hold what it may, in
the order of the fields. Another mapping whose fields are the same, or stand for the default as
well, has the same outcome. -/
theorem toleration_outcomes (h : (Document.mapping entry).IsInterchange) :
    (∀ toleration, Toleration.validate (.mapping entry) = .valid toleration ↔
      TolerationFields entry toleration.key toleration.operator toleration.value
        toleration.effect) ∧
    ((∃ toleration, Toleration.validate (.mapping entry) = .valid toleration) ↔
      (∀ rule ∈ tolerationRules, rule.admits (entry.get? rule.name) = true) ∧
        (entry.get? "operator" = some (.text "Exists") ∨
          ∃ given, given ≠ "" ∧ entry.get? "value" = some (.text given))) ∧
    ((∃ key, Toleration.validate (.mapping entry) = .unmatchable key) ↔
      (∀ rule ∈ tolerationRules, rule.admits (entry.get? rule.name) = true) ∧
        (entry.get? "operator" = none ∨ entry.get? "operator" = some (.text "Equal")) ∧
        (IsAbsent (entry.get? "value") ∨ entry.get? "value" = some (.text ""))) ∧
    (∀ found, Toleration.validate (.mapping entry) = .invalid found ↔
      violated tolerationRules entry ≠ [] ∧
        found = (violated tolerationRules entry).map FieldRule.problem) ∧
    ∀ other : Entries,
      (∀ rule ∈ tolerationRules,
        rule.ReadsSame (entry.get? rule.name) (other.get? rule.name)) →
      Toleration.validate (.mapping entry) = Toleration.validate (.mapping other) := by
  refine ⟨validate_toleration_eq_valid_iff h, ?_, ?_, ?_, fun other => validate_toleration_congr⟩
  · simp only [validate_toleration_eq_valid_iff h, ← exists_tolerationFields_iff h]
    constructor
    · rintro ⟨toleration, fields⟩
      exact ⟨⟨_, _, _, _, fields⟩, fields.matchable_iff.1 toleration.equal_value⟩
    · rintro ⟨⟨key, operator, value, effect, fields⟩, matchable⟩
      exact ⟨⟨key, operator, value, effect, fields.matchable_iff.2 matchable⟩, fields⟩
  · simp only [validate_eq_unmatchable_iff h, ← exists_tolerationFields_iff h, AsksForNoValue]
    constructor
    · rintro ⟨key, effect, fields⟩
      exact ⟨⟨_, _, _, _, fields⟩, fields.operator.eq_equal_iff.1 rfl,
        fields.value.eq_empty_iff.1 rfl⟩
    · rintro ⟨⟨key, operator, value, effect, fields⟩, asks, empty⟩
      obtain rfl := fields.operator.eq_equal_iff.2 asks
      obtain rfl := fields.value.eq_empty_iff.2 empty
      exact ⟨key, effect, fields⟩
  · intro found
    have parts := hasProblems_tolerationParts h
    rw [validate_toleration_eq]
    by_cases typed : violated tolerationRules entry = []
    · obtain ⟨⟨⟨⟨key, operator⟩, value⟩, effect⟩, valid⟩ :=
        parts.exists_valid_iff.2 (List.map_eq_nil_iff.2 typed)
      have whole : Toleration.ofParts key operator value effect ≠ .invalid found := by
        unfold Toleration.ofParts
        split <;> simp
      simpa [valid, andThen, typed] using whole
    · have invalid := parts.eq_invalid (List.map_eq_nil_iff.not.2 typed)
      rw [invalid, andThen]
      simp only [Validated.invalid.injEq, ne_eq, typed, not_false_eq_true, true_and]
      exact eq_comm

/-- A mapping with an ill-typed key and an unknown effect, listed before the key. -/
def illTypedToleration : Entries :=
  [(.text "effect", .text "Never"), (.text "key", .int 7), (.text "value", .text "arm")]

/-- A mapping that asks for no value, in which the defaults are spelled out. -/
def spelledToleration : Entries :=
  [(.text "key", .text "arch"), (.text "operator", .text "Equal"), (.text "value", .null),
    (.text "effect", .text "")]

/-- The problems of the first mapping are reported in the order of the fields. The other one matches
nothing, like the mapping that leaves the defaults out. -/
theorem toleration_outcomes_illTyped :
    (Document.mapping illTypedToleration).IsInterchange ∧
    Toleration.validate (.mapping illTypedToleration) =
      .invalid [(textRule "key").problem, effectRule.problem] ∧
    [(textRule "key").problem, effectRule.problem].map Problem.line =
      ["key: Input should be a valid string",
        "effect: Input should be 'NoSchedule', 'PreferNoSchedule' or 'NoExecute'"] ∧
    (Document.mapping spelledToleration).IsInterchange ∧
    (∃ key, Toleration.validate (.mapping spelledToleration) = .unmatchable key) ∧
    Toleration.validate (.mapping spelledToleration) =
      Toleration.validate (.mapping [(.text "note", .bool true), (.text "key", .text "arch")]) := by
  have first : (Document.mapping illTypedToleration).IsInterchange := by
    simp [illTypedToleration]
  have second : (Document.mapping spelledToleration).IsInterchange := by
    simp [spelledToleration]
  have ⟨_, _, _, reported, _⟩ := toleration_outcomes first
  have ⟨_, _, matchless, _, alike⟩ := toleration_outcomes second
  exact ⟨first, (reported _).2 ⟨by decide, by rfl⟩, by decide, second,
    matchless.2 ⟨by decide, Or.inr rfl, Or.inl (Or.inr rfl)⟩, alike _ (by decide)⟩

end Manifest

end PodLaunch
