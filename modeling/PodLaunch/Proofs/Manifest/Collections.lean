import PodLaunch.Document.Equality
import PodLaunch.Proofs.Manifest.Outcomes

/-!
# Pods and nodes of a file

The pods and the nodes of a file are collected each by itself, or both in one pass. Either way they
are what the documents of their kind declare, in order, and the first of these documents that
declares nothing is the one that is reported. Documents of the other kinds have no part in it, but
for one thing: in one pass they are described in a record, and if that cannot be done, then the pass
breaks off.
-/

namespace PodLaunch.Manifest

/-! ## What is collected -/

/-- The declarations of one kind are collected from documents. -/
structure Collects {α : Type} (kind : String) (parse : Entries → Except DocumentError α)
    (documents : List Entries) (collected : Except LoadError (List α)) : Prop where
  /-- They are those of all documents of the kind, each one once and in order. -/
  ok_iff : ∀ values, collected = .ok values ↔
    List.Forall₂ (fun document value => parse document = .ok value)
      (documents.filter (isKind kind)) values
  /-- What is reported is the first document of the kind that does not declare anything. -/
  error_iff : ∀ error, collected = .error error ↔
    ∃ before document after, documents = before ++ document :: after ∧
      isKind kind document = true ∧ ofDocuments (parse document) = .error error ∧
      ∀ earlier ∈ before, isKind kind earlier = true → ∃ value, parse earlier = .ok value

/-- A document of neither kind. -/
def IsForeign (document : Entries) : Prop :=
  isKind "Pod" document = false ∧ isKind "Node" document = false

instance (document : Entries) : Decidable (IsForeign document) :=
  inferInstanceAs (Decidable (_ ∧ _))

/-- Why a document keeps the pods and nodes of its file from being collected. -/
inductive IsObstacle (document : Entries) : LoadError → Prop where
  /-- It is of the kind of pods, and declares none. -/
  | pod {error : LoadError} (is : isKind "Pod" document = true)
    (fails : ofDocuments (parsePod document) = .error error) : IsObstacle document error
  /-- It is of the kind of nodes, and declares none. -/
  | node {error : LoadError} (is : isKind "Node" document = true)
    (fails : ofDocuments (parseNode document) = .error error) : IsObstacle document error
  /-- It is of neither kind, and cannot be described. -/
  | foreign (isForeign : IsForeign document) (undescribed : canDescribe document = false) :
    IsObstacle document (.accident .unshown)

/-- Pods and nodes are collected from documents in one pass. -/
structure CollectsBoth (documents : List Entries) (pods : Except LoadError (List Pod))
    (nodes : Except LoadError (List Node)) (both : Except LoadError (List Pod × List Node)) :
    Prop where
  /-- They are collected exactly if both kinds are by themselves and documents of other kinds can be
  described. -/
  ok_iff : ∀ found, both = .ok found ↔
    pods = .ok found.1 ∧ nodes = .ok found.2 ∧
      ∀ document ∈ documents, IsForeign document → canDescribe document = true
  /-- What is reported is the first document that stands in the way. -/
  error_iff : ∀ error, both = .error error ↔
    ∃ before document after, documents = before ++ document :: after ∧
      IsObstacle document error ∧ ∀ earlier ∈ before, ∀ other, ¬ IsObstacle earlier other
  /-- If documents of other kinds can be described, it is the first pod or node that does not
  declare one, and reported as its kind by itself is. -/
  eq_error : (∀ document ∈ documents, IsForeign document → canDescribe document = true) →
    ∀ error, both = .error error →
      ∃ before document after, documents = before ++ document :: after ∧
        (isKind "Pod" document = true ∧ ofDocuments (parsePod document) = .error error ∧
            pods = .error error ∨
          isKind "Node" document = true ∧ ofDocuments (parseNode document) = .error error ∧
            nodes = .error error) ∧
        ∀ earlier ∈ before,
          (isKind "Pod" earlier = true → ∃ pod, parsePod earlier = .ok pod) ∧
          (isKind "Node" earlier = true → ∃ node, parseNode earlier = .ok node)

/-- The first declaration of a kind stands for all of them. -/
structure TakesFirst {α : Type} (kind name : String) (collected : Except LoadError (List α))
    (first : Except LoadError α) : Prop where
  /-- It is the first one of those that are collected. -/
  found : ∀ value others, collected = .ok (value :: others) → first = .ok value
  /-- It is reported that there is none. -/
  missing : collected = .ok [] → first = .error (.failure (noneFound kind name))
  /-- It is not looked for if they cannot be collected. -/
  failed : ∀ error, collected = .error error → first = .error error

/-! ## Collecting one kind -/

variable {α : Type} {kind : String} {parse : Entries → Except DocumentError α}

/-- The error of a file for the cause why one of its documents is not read. -/
def errorOf (cause : DocumentError) : LoadError :=
  if cause.canReport then .failure cause.failure else .accident .unshown

/-- An outcome for documents succeeds as an outcome for their file. -/
theorem ofDocuments_eq_ok_iff (outcome : Except DocumentError α) (value : α) :
    ofDocuments outcome = .ok value ↔ outcome = .ok value := by
  cases outcome <;> simp [ofDocuments, Except.mapError]

/-- An outcome for documents fails for their file with the error for its cause. -/
theorem ofDocuments_eq_error_iff (outcome : Except DocumentError α) (error : LoadError) :
    ofDocuments outcome = .error error ↔
      ∃ cause, outcome = .error cause ∧ errorOf cause = error := by
  cases outcome <;> simp [ofDocuments, Except.mapError, errorOf]

/-- A split of the documents that are chosen is one of all documents. -/
theorem filter_eq_append_cons_iff (chosen : Entries → Bool) (documents before : List Entries)
    (document : Entries) (after : List Entries) :
    documents.filter chosen = before ++ document :: after ↔
      ∃ front back, documents = front ++ document :: back ∧ chosen document = true ∧
        front.filter chosen = before ∧ back.filter chosen = after := by
  constructor
  · intro split
    obtain ⟨front, rest, rfl, rfl, filtered⟩ := List.filter_eq_append_iff.1 split
    obtain ⟨skipped, back, rfl, none, is, rfl⟩ := List.filter_eq_cons_iff.1 filtered
    have empty : skipped.filter chosen = [] := List.filter_eq_nil_iff.2 none
    refine ⟨front ++ skipped, back, by simp, is, ?_, rfl⟩
    rw [List.filter_append, empty, List.append_nil]
  · rintro ⟨front, back, rfl, is, rfl, rfl⟩
    simp [is]

/-- The documents of a kind are worked through in order. -/
theorem collects_mapM (kind : String) (parse : Entries → Except DocumentError α)
    (documents : List Entries) :
    Collects kind parse documents
      (ofDocuments ((documents.filter (isKind kind)).mapM parse)) := by
  refine ⟨fun values => ?_, fun error => ?_⟩
  · rw [ofDocuments_eq_ok_iff, mapM_eq_ok_iff]
  · simp only [ofDocuments_eq_error_iff, mapM_eq_error_iff, filter_eq_append_cons_iff]
    constructor
    · rintro ⟨cause, ⟨_, document, _, ⟨before, after, rfl, is, rfl, rfl⟩, fails, succeed⟩, same⟩
      refine ⟨before, document, after, rfl, is, ⟨cause, fails, same⟩, ?_⟩
      intro earlier member isEarlier
      exact succeed earlier (List.mem_filter.2 ⟨member, isEarlier⟩)
    · rintro ⟨before, document, after, rfl, is, ⟨cause, fails, same⟩, succeed⟩
      refine ⟨cause, ⟨_, document, _, ⟨before, after, rfl, is, rfl, rfl⟩, fails, ?_⟩, same⟩
      intro earlier member
      have ⟨among, isEarlier⟩ := List.mem_filter.1 member
      exact succeed earlier among isEarlier

/-! ## Collecting both kinds -/

/-- A document that stands in no way declares what its kind says, and can be described if it is of
neither kind. -/
theorem forall_not_isObstacle_iff (document : Entries) :
    (∀ error, ¬ IsObstacle document error) ↔
      (isKind "Pod" document = true → ∃ pod, parsePod document = .ok pod) ∧
      (isKind "Node" document = true → ∃ node, parseNode document = .ok node) ∧
      (IsForeign document → canDescribe document = true) := by
  constructor
  · intro clear
    refine ⟨fun is => ?_, fun is => ?_, fun isForeign => ?_⟩
    · cases parsed : parsePod document with
      | ok pod => exact ⟨pod, rfl⟩
      | error cause =>
        exact absurd (.pod is ((ofDocuments_eq_error_iff _ _).2 ⟨cause, parsed, rfl⟩))
          (clear (errorOf cause))
    · cases parsed : parseNode document with
      | ok node => exact ⟨node, rfl⟩
      | error cause =>
        exact absurd (.node is ((ofDocuments_eq_error_iff _ _).2 ⟨cause, parsed, rfl⟩))
          (clear (errorOf cause))
    · by_contra undescribed
      exact clear _ (.foreign isForeign (Bool.eq_false_iff.2 undescribed))
  · rintro ⟨pods, nodes, foreign⟩ error obstacle
    cases obstacle with
    | pod is fails =>
      have ⟨pod, parsed⟩ := pods is
      rw [parsed] at fails
      cases fails
    | node is fails =>
      have ⟨node, parsed⟩ := nodes is
      rw [parsed] at fails
      cases fails
    | foreign isForeign undescribed =>
      rw [foreign isForeign] at undescribed
      cases undescribed

/-- A document of one kind is not of the other one. -/
theorem isKind_node_of_pod {document : Entries} (is : isKind "Pod" document = true) :
    isKind "Node" document = false := by
  rw [isKind_iff] at is
  rw [← Bool.not_eq_true, isKind_iff, is]
  decide

/-- The pass ends at a document that stands in the way. -/
theorem declarationsOf_of_isObstacle {document : Entries} {error : LoadError}
    (obstacle : IsObstacle document error) (documents : List Entries) :
    (declarationsOf (document :: documents)).result = .error error := by
  cases obstacle with
  | pod is fails => simp [declarationsOf, is, fails]
  | node is fails =>
    have other : isKind "Pod" document = false := by
      by_contra isPod
      rw [isKind_node_of_pod (by simpa using isPod)] at is
      cases is
    simp [declarationsOf, is, other, fails]
  | foreign isForeign undescribed =>
    simp [declarationsOf, isForeign.1, isForeign.2, undescribed]

/-- The pass goes on behind a document that stands in no way: if it declares a pod or a node, then
this is put in front of the others. -/
theorem declarationsOf_of_clear {document : Entries}
    (clear : ∀ error, ¬ IsObstacle document error) (documents : List Entries) :
    ∃ pods nodes,
      (declarationsOf (document :: documents)).result =
        (declarationsOf documents).result.map
          (fun found => (pods ++ found.1, nodes ++ found.2)) ∧
      podsOf (document :: documents) = (podsOf documents).map (pods ++ ·) ∧
      nodesOf (document :: documents) = (nodesOf documents).map (nodes ++ ·) := by
  obtain ⟨asPod, asNode, asForeign⟩ := (forall_not_isObstacle_iff document).1 clear
  have otherwise {α : Type} {kind : String} {parse : Entries → Except DocumentError α}
      (other : isKind kind document = false) :
      ((document :: documents).filter (isKind kind)).mapM parse =
        ((documents.filter (isKind kind)).mapM parse).map ([] ++ ·) := by
    rw [List.filter_cons_of_neg (by simp [other])]
    cases (documents.filter (isKind kind)).mapM parse <;> rfl
  have isOne {α : Type} {kind : String} {parse : Entries → Except DocumentError α} {value : α}
      (is : isKind kind document = true) (parsed : parse document = .ok value) :
      ((document :: documents).filter (isKind kind)).mapM parse =
        ((documents.filter (isKind kind)).mapM parse).map ([value] ++ ·) := by
    rw [List.filter_cons_of_pos is, List.mapM_cons, parsed]
    rfl
  cases isPod : isKind "Pod" document with
  | true =>
    obtain ⟨pod, parsed⟩ := asPod isPod
    refine ⟨[pod], [], ?_, isOne isPod parsed, otherwise (isKind_node_of_pod isPod)⟩
    simp [declarationsOf, isPod, parsed, ofDocuments, Except.mapError]
  | false =>
    cases isNode : isKind "Node" document with
    | true =>
      obtain ⟨node, parsed⟩ := asNode isNode
      refine ⟨[], [node], ?_, otherwise isPod, isOne isNode parsed⟩
      simp [declarationsOf, isPod, isNode, parsed, ofDocuments, Except.mapError]
    | false =>
      refine ⟨[], [], ?_, otherwise isPod, otherwise isNode⟩
      have described := asForeign ⟨isPod, isNode⟩
      simp only [declarationsOf, isPod, isNode, described, Bool.false_eq_true, ↓reduceIte,
        Recorded.result_bind, List.nil_append]
      cases (declarationsOf documents).result <;> rfl

/-- The pass over documents none of which stands in the way collects what is collected of each kind
by itself. -/
theorem exists_declarationsOf {documents : List Entries}
    (clear : ∀ document ∈ documents, ∀ error, ¬ IsObstacle document error) :
    ∃ pods nodes, (declarationsOf documents).result = .ok (pods, nodes) ∧
      podsOf documents = .ok pods ∧ nodesOf documents = .ok nodes := by
  induction documents with
  | nil => exact ⟨[], [], rfl, rfl, rfl⟩
  | cons document documents ih =>
    obtain ⟨first, rest⟩ := List.forall_mem_cons.1 clear
    obtain ⟨pods, nodes, both, ofPods, ofNodes⟩ := ih rest
    obtain ⟨pod, node, behind, behindPods, behindNodes⟩ := declarationsOf_of_clear first documents
    refine ⟨pod ++ pods, node ++ nodes, ?_, ?_, ?_⟩
    · rw [behind, both]
      rfl
    · rw [behindPods, ofPods]
      rfl
    · rw [behindNodes, ofNodes]
      rfl

/-- A pass that succeeds has met no document that stands in the way. -/
theorem clear_of_declarationsOf {documents : List Entries} {found : List Pod × List Node}
    (both : (declarationsOf documents).result = .ok found) :
    ∀ document ∈ documents, ∀ error, ¬ IsObstacle document error := by
  induction documents generalizing found with
  | nil => simp
  | cons document documents ih =>
    have clear : ∀ error, ¬ IsObstacle document error := by
      intro error obstacle
      rw [declarationsOf_of_isObstacle obstacle] at both
      cases both
    obtain ⟨pods, nodes, behind, -, -⟩ := declarationsOf_of_clear clear documents
    rw [behind] at both
    cases outcome : (declarationsOf documents).result with
    | error error => simp [outcome, Except.map] at both
    | ok rest => exact List.forall_mem_cons.2 ⟨clear, ih outcome⟩

/-- The pass fails exactly if some document stands in the way, with what the first of these is
reported as. -/
theorem declarationsOf_eq_error_iff (documents : List Entries) (error : LoadError) :
    (declarationsOf documents).result = .error error ↔
      ∃ before document after, documents = before ++ document :: after ∧
        IsObstacle document error ∧ ∀ earlier ∈ before, ∀ other, ¬ IsObstacle earlier other := by
  induction documents with
  | nil => simp [declarationsOf]
  | cons first documents ih =>
    constructor
    · intro fails
      by_cases clear : ∀ other, ¬ IsObstacle first other
      · obtain ⟨pods, nodes, behind, -, -⟩ := declarationsOf_of_clear clear documents
        have rest : (declarationsOf documents).result = .error error := by
          rw [behind] at fails
          cases outcome : (declarationsOf documents).result with
          | ok found => simp [outcome, Except.map] at fails
          | error other => simpa [outcome, Except.map] using fails
        obtain ⟨before, document, after, rfl, obstacle, clearBefore⟩ := ih.1 rest
        exact ⟨first :: before, document, after, rfl, obstacle,
          List.forall_mem_cons.2 ⟨clear, clearBefore⟩⟩
      · obtain ⟨other, obstacle⟩ := not_forall_not.1 clear
        rw [declarationsOf_of_isObstacle obstacle] at fails
        cases fails
        exact ⟨[], first, documents, rfl, obstacle, by simp⟩
    · rintro ⟨before, document, after, split, obstacle, clearBefore⟩
      cases before with
      | nil =>
        cases split
        exact declarationsOf_of_isObstacle obstacle documents
      | cons earlier before =>
        cases split
        obtain ⟨clear, clearBefore⟩ := List.forall_mem_cons.1 clearBefore
        have rest := ih.2 ⟨before, document, after, rfl, obstacle, clearBefore⟩
        obtain ⟨pods, nodes, behind, -, -⟩ := declarationsOf_of_clear clear _
        rw [behind, rest]
        rfl

/-- Declarations of a kind can be collected exactly if each document of that kind declares one. -/
theorem exists_mapM_filter_iff (kind : String) (parse : Entries → Except DocumentError α)
    (documents : List Entries) :
    (∃ values, (documents.filter (isKind kind)).mapM parse = .ok values) ↔
      ∀ document ∈ documents, isKind kind document = true →
        ∃ value, parse document = .ok value := by
  simp only [mapM_eq_ok_iff, exists_forall₂_iff, List.mem_filter, and_imp]

/-- No document stands in the way exactly if both kinds can be collected by themselves and the other
documents can be described. -/
theorem forall_clear_iff (documents : List Entries) :
    (∀ document ∈ documents, ∀ error, ¬ IsObstacle document error) ↔
      (∃ pods, podsOf documents = .ok pods) ∧ (∃ nodes, nodesOf documents = .ok nodes) ∧
        ∀ document ∈ documents, IsForeign document → canDescribe document = true := by
  simp only [podsOf, nodesOf, exists_mapM_filter_iff, forall_not_isObstacle_iff, imp_and,
    forall_and]

/-- Both kinds are collected in one pass exactly if each of them is by itself and the other
documents can be described. -/
theorem declarationsOf_eq_ok_iff (documents : List Entries) (pods : List Pod)
    (nodes : List Node) :
    (declarationsOf documents).result = .ok (pods, nodes) ↔
      podsOf documents = .ok pods ∧ nodesOf documents = .ok nodes ∧
        ∀ document ∈ documents, IsForeign document → canDescribe document = true := by
  have collected (clear : ∀ document ∈ documents, ∀ error, ¬ IsObstacle document error) :
      (declarationsOf documents).result = .ok (pods, nodes) ↔
        podsOf documents = .ok pods ∧ nodesOf documents = .ok nodes := by
    obtain ⟨foundPods, foundNodes, both, ofPods, ofNodes⟩ := exists_declarationsOf clear
    rw [both, ofPods, ofNodes]
    simp
  constructor
  · intro both
    have clear := clear_of_declarationsOf both
    have ⟨ofPods, ofNodes⟩ := (collected clear).1 both
    exact ⟨ofPods, ofNodes, ((forall_clear_iff documents).1 clear).2.2⟩
  · rintro ⟨ofPods, ofNodes, described⟩
    have clear := (forall_clear_iff documents).2 ⟨⟨_, ofPods⟩, ⟨_, ofNodes⟩, described⟩
    exact (collected clear).2 ⟨ofPods, ofNodes⟩

/-- Both kinds are collected from documents in one pass as each is by itself. -/
theorem collectsBoth_declarationsOf (documents : List Entries) :
    CollectsBoth documents (ofDocuments (podsOf documents)) (ofDocuments (nodesOf documents))
      (declarationsOf documents).result := by
  refine ⟨fun found => ?_, declarationsOf_eq_error_iff documents, fun described error fails => ?_⟩
  · rw [ofDocuments_eq_ok_iff, ofDocuments_eq_ok_iff]
    exact declarationsOf_eq_ok_iff documents found.1 found.2
  · obtain ⟨before, document, after, rfl, obstacle, clear⟩ :=
      (declarationsOf_eq_error_iff documents error).1 fails
    have earlier (other : Entries) (member : other ∈ before) :
        (isKind "Pod" other = true → ∃ pod, parsePod other = .ok pod) ∧
          (isKind "Node" other = true → ∃ node, parseNode other = .ok node) := by
      have ⟨asPod, asNode, _⟩ := (forall_not_isObstacle_iff other).1 (clear other member)
      exact ⟨asPod, asNode⟩
    refine ⟨before, document, after, rfl, ?_, earlier⟩
    cases obstacle with
    | pod is fails =>
      refine Or.inl ⟨is, fails, ((collects_mapM "Pod" parsePod _).error_iff error).2 ?_⟩
      exact ⟨before, document, after, rfl, is, fails, fun other member => (earlier other member).1⟩
    | node is fails =>
      refine Or.inr ⟨is, fails, ((collects_mapM "Node" parseNode _).error_iff error).2 ?_⟩
      exact ⟨before, document, after, rfl, is, fails, fun other member => (earlier other member).2⟩
    | foreign isForeign undescribed =>
      rw [described document (by simp) isForeign] at undescribed
      cases undescribed

/-! ## Files -/

section Files

variable {files : LoggedFiles} {name : String} {documents : List Entries}

/-- What is computed from a file that can be read is computed from its documents. -/
theorem result_load (readFile : (read files name).result = .ok documents)
    (collect : List Entries → Recorded (Except LoadError α)) :
    (load files name collect).result = (collect documents).result := by
  rw [load, Recorded.result_bind, readFile]

/-- The pod of a file is the first one of its pods. -/
theorem takesFirst_loadPod (files : LoggedFiles) (name : String) :
    TakesFirst "Pod" name (loadPods files name).result (loadPod files name).result := by
  refine ⟨fun pod others collected => ?_, fun collected => ?_, fun error collected => ?_⟩
  · rw [loadPod, Recorded.result_bind, collected]
    cases others <;> rfl
  · rw [loadPod, Recorded.result_bind, collected]
    rfl
  · rw [loadPod, Recorded.result_bind, collected]
    rfl

/-- The node of a file is the first one of its nodes. -/
theorem takesFirst_loadNode (files : LoggedFiles) (name : String) :
    TakesFirst "Node" name (loadNodes files name).result (loadNode files name).result := by
  refine ⟨fun node others collected => ?_, fun collected => ?_, fun error collected => ?_⟩
  · rw [loadNode, Recorded.result_bind, collected]
    rfl
  · rw [loadNode, Recorded.result_bind, collected]
    rfl
  · rw [loadNode, Recorded.result_bind, collected]
    rfl

/-- What stands for the declarations of a kind depends on these only. -/
theorem TakesFirst.eq {kind : String} {collected : Except LoadError (List α)}
    {first other : Except LoadError α} (takes : TakesFirst kind name collected first)
    (takesToo : TakesFirst kind name collected other) : first = other := by
  cases outcome : collected with
  | error error => rw [takes.failed error outcome, takesToo.failed error outcome]
  | ok values =>
    cases values with
    | nil => rw [takes.missing outcome, takesToo.missing outcome]
    | cons value rest => rw [takes.found value rest outcome, takesToo.found value rest outcome]

/-- The pod of a file depends on the documents of its kind only. -/
theorem loadPod_congr {others : LoggedFiles} {otherDocuments : List Entries}
    (readFile : (read files name).result = .ok documents)
    (readOther : (read others name).result = .ok otherDocuments)
    (same : documents.filter (isKind "Pod") = otherDocuments.filter (isKind "Pod")) :
    (loadPod files name).result = (loadPod others name).result := by
  have pods : (loadPods files name).result = (loadPods others name).result := by
    rw [loadPods, loadPods, result_load readFile, result_load readOther, podsOf, podsOf, same]
  have first := takesFirst_loadPod files name
  rw [pods] at first
  exact first.eq (takesFirst_loadPod others name)

/-- The node of a file depends on the documents of its kind only. -/
theorem loadNode_congr {others : LoggedFiles} {otherDocuments : List Entries}
    (readFile : (read files name).result = .ok documents)
    (readOther : (read others name).result = .ok otherDocuments)
    (same : documents.filter (isKind "Node") = otherDocuments.filter (isKind "Node")) :
    (loadNode files name).result = (loadNode others name).result := by
  have nodes : (loadNodes files name).result = (loadNodes others name).result := by
    rw [loadNodes, loadNodes, result_load readFile, result_load readOther, nodesOf, nodesOf, same]
  have first := takesFirst_loadNode files name
  rw [nodes] at first
  exact first.eq (takesFirst_loadNode others name)

/-- The pods and the nodes of a file that can be read are those that its documents declare. They are
collected in one pass as they are by themselves, as long as documents of other kinds can be
described. A single pod or node is the first one, and depends on the documents of its kind only. -/
theorem collections (files : LoggedFiles) (name : String) (documents : List Entries)
    (readFile : (read files name).result = .ok documents) :
    Collects "Pod" parsePod documents (loadPods files name).result ∧
    Collects "Node" parseNode documents (loadNodes files name).result ∧
    CollectsBoth documents (loadPods files name).result (loadNodes files name).result
      (loadAll files name).result ∧
    TakesFirst "Pod" name (loadPods files name).result (loadPod files name).result ∧
    TakesFirst "Node" name (loadNodes files name).result (loadNode files name).result ∧
    ∀ (others : LoggedFiles) (otherDocuments : List Entries),
      (read others name).result = .ok otherDocuments →
      (documents.filter (isKind "Pod") = otherDocuments.filter (isKind "Pod") →
        (loadPod files name).result = (loadPod others name).result) ∧
      (documents.filter (isKind "Node") = otherDocuments.filter (isKind "Node") →
        (loadNode files name).result = (loadNode others name).result) := by
  have pods : (loadPods files name).result = ofDocuments (podsOf documents) :=
    result_load readFile _
  have nodes : (loadNodes files name).result = ofDocuments (nodesOf documents) :=
    result_load readFile _
  have both : (loadAll files name).result = (declarationsOf documents).result :=
    result_load readFile _
  refine ⟨?_, ?_, ?_, takesFirst_loadPod files name, takesFirst_loadNode files name, ?_⟩
  · rw [pods]
    exact collects_mapM "Pod" parsePod documents
  · rw [nodes]
    exact collects_mapM "Node" parseNode documents
  · rw [pods, nodes, both]
    exact collectsBoth_declarationsOf documents
  · intro others otherDocuments readOther
    exact ⟨loadPod_congr readFile readOther, loadNode_congr readFile readOther⟩

end Files

/-- A file with a text, and no other. -/
def filesOf (text : String) : LoggedFiles :=
  .ofTree (({} : Files.Tree).put ["m.yaml"] (.file (Text.encodeUtf8 text)))

/-- A pod, a service, a node, and a pod without a container. -/
def mixedFiles : LoggedFiles :=
  filesOf ("kind: Pod\nspec:\n  containers:\n  - name: c\n---\nkind: Service\n---\n" ++
    "kind: Node\n---\nkind: Pod\n")

/-- The documents of that file. -/
def mixedDocuments : List Entries :=
  [[(.text "kind", .text "Pod"), (.text "spec", .mapping
      [(.text "containers", .list [.mapping [(.text "name", .text "c")]])])],
    [(.text "kind", .text "Service")], [(.text "kind", .text "Node")],
    [(.text "kind", .text "Pod")]]

/-- The second pod of the file is reported for every collection that it belongs to, although the
first one is sound. The node is loaded, and so it is from a file of its own. -/
theorem collections_mixedFiles :
    (read mixedFiles "m.yaml").result = .ok mixedDocuments ∧
    ∃ error, ofDocuments (parsePod [(.text "kind", .text "Pod")]) = .error error ∧
      (loadPods mixedFiles "m.yaml").result = .error error ∧
      (loadPod mixedFiles "m.yaml").result = .error error ∧
      (loadAll mixedFiles "m.yaml").result = .error error ∧
      ∃ node, (loadNode mixedFiles "m.yaml").result = .ok node ∧
        (loadNode (filesOf "kind: Node\n") "m.yaml").result = .ok node := by
  have readFile : (read mixedFiles "m.yaml").result = .ok mixedDocuments := by decide +kernel
  have readNode : (read (filesOf "kind: Node\n") "m.yaml").result =
      .ok [[(.text "kind", .text "Node")]] := by decide +kernel
  have ⟨pods, nodes, both, firstPod, firstNode, others⟩ :=
    collections mixedFiles "m.yaml" mixedDocuments readFile
  obtain ⟨error, fails⟩ : ∃ error,
      ofDocuments (parsePod [(.text "kind", .text "Pod")]) = .error error := ⟨_, rfl⟩
  have earlier : ∀ document ∈ mixedDocuments.take 3, ∀ other, ¬ IsObstacle document other := by
    rw [forall_clear_iff]
    refine ⟨⟨_, rfl⟩, ⟨_, rfl⟩, ?_⟩
    decide
  have failsPods : (loadPods mixedFiles "m.yaml").result = .error error := by
    rw [pods.error_iff]
    refine ⟨mixedDocuments.take 3, _, [], rfl, rfl, fails, fun document member => ?_⟩
    exact ((forall_not_isObstacle_iff document).1 (earlier document member)).1
  have failsBoth : (loadAll mixedFiles "m.yaml").result = .error error := by
    rw [both.error_iff]
    exact ⟨mixedDocuments.take 3, _, [], rfl, .pod rfl fails, earlier⟩
  obtain ⟨node, isNode⟩ : ∃ node, parseNode [(.text "kind", .text "Node")] = .ok node := ⟨_, rfl⟩
  have foundNode : (loadNodes mixedFiles "m.yaml").result = .ok [node] := by
    rw [nodes.ok_iff]
    exact List.Forall₂.cons isNode List.Forall₂.nil
  have loadedNode := firstNode.found node [] foundNode
  refine ⟨readFile, error, fails, failsPods, firstPod.failed error failsPods, failsBoth, node,
    loadedNode, ?_⟩
  exact ((others _ _ readNode).2 rfl).symm.trans loadedNode

/-- A document whose kind is an integer. -/
def integerKindDocument (n : Int) : Entries :=
  [(.text "kind", .int n)]

/-- Pods and nodes are not collected in one pass, although there are none, if a document of another
kind cannot be described. -/
theorem not_collected_integerKindDocument :
    ofDocuments (podsOf [integerKindDocument (Nat.pow 16 3572)]) = .ok [] ∧
    ofDocuments (nodesOf [integerKindDocument (Nat.pow 16 3572)]) = .ok [] ∧
    (declarationsOf [integerKindDocument (Nat.pow 16 3572)]).result =
      .error (.accident .unshown) := by
  decide +kernel

end PodLaunch.Manifest
