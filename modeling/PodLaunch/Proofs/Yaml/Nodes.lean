import PodLaunch.Proofs.Yaml.Entries
import PodLaunch.Yaml.Stream

/-!
# Nodes that are read from tokens

The tokens of a block mapping are read as a collection of its entries. What is read is said of the
tokens that come next and of those behind them, so that what is read of a mapping follows from what
is read of its entries.
-/

namespace PodLaunch.Yaml

/-- The first lexeme of some tokens is that of the first one. -/
theorem Carries.cons_inv {lexemes : List Lexeme} {token : Token} {tokens : List Token}
    (carries : Carries lexemes (token :: tokens)) :
    ∃ line rest, lexemes = ⟨token, line, .profile⟩ :: rest ∧ Carries rest tokens := by
  obtain ⟨⟨_, line, _⟩, rest, ⟨rfl, rfl⟩, carried, rfl⟩ := List.forall₂_cons_right_iff.1 carries
  exact ⟨line, rest, rfl, carried⟩

/-- A text as a node. -/
def textNode (s : List Char) : Node :=
  .scalar (.scalar .text) (String.ofList s)

/-- A value as a node. -/
def WrittenValue.node : WrittenValue → Node
  | .text s => textNode s
  | .word s => .scalar (.scalar (.ofPlain .profile (String.ofList s))) (String.ofList s)

/-- The nodes of an entry. -/
def entryNodes (entry : List Char × WrittenValue) : Node × Node :=
  (textNode entry.1, entry.2.node)

namespace Reading

/-- Where some tokens come next and others behind them, a reader takes the first ones for a value.
The lists and mappings are given before and after. -/
def Takes {α : Type} (read : Reading → Except Defect (α × Reading)) (before : Collections)
    (tokens others : List Token) (value : α) (after : Collections) : Prop :=
  ∀ lexemes, Carries lexemes (tokens ++ others) → ∃ rest, Carries rest others ∧
    read { lexemes, collections := before } = .ok (value, { lexemes := rest, collections := after })

variable {handles : Handles} {before between after : Collections} {others : List Token}

/-! ## Scalars -/

/-- A plain scalar is read as what its spelling suggests. -/
theorem takes_plain (steps : Nat) (position : Position) (text : String) :
    Takes (readNode handles (steps + 2) position) before [.scalar true text] others
      (.scalar (.scalar (.ofPlain .profile text)) text) before := by
  intro lexemes carries
  obtain ⟨line, rest, rfl, carried⟩ := carries.cons_inv
  obtain ⟨isBlock, dashes⟩ := position
  refine ⟨rest, carried, ?_⟩
  cases dashes <;> rfl

/-- A scalar between quotes is read as a text. -/
theorem takes_quoted (steps : Nat) (position : Position) (text : String) :
    Takes (readNode handles (steps + 2) position) before [.scalar false text] others
      (.scalar (.scalar .text) text) before := by
  intro lexemes carries
  obtain ⟨line, rest, rfl, carried⟩ := carries.cons_inv
  obtain ⟨isBlock, dashes⟩ := position
  refine ⟨rest, carried, ?_⟩
  cases dashes <;> rfl

/-- A text is read as itself, whatever its style. -/
theorem takes_text (steps : Nat) (position : Position) (s : List Char) :
    Takes (readNode handles (steps + 2) position) before [textToken s] others (textNode s)
      before := by
  rw [textToken]
  by_cases plain : Style.of s = .plain
  · have kind := ((Style.of_eq_plain_iff s).1 plain).2
    have taken := @takes_plain handles before others steps position (String.ofList s)
    rw [kind] at taken
    rwa [decide_eq_true plain]
  · rw [decide_eq_false plain]
    exact takes_quoted steps position (String.ofList s)

/-- A value is read as its node. -/
theorem takes_written (steps : Nat) (position : Position) (value : WrittenValue) :
    Takes (readNode handles (steps + 2) position) before [value.token] others value.node
      before := by
  cases value with
  | text s => exact takes_text steps position s
  | word s => exact takes_plain steps position (String.ofList s)

/-! ## Entries -/

/-- A node is read where it may be missing, unless its first token says that it is. -/
theorem Takes.optional {steps : Nat} {position : Position} {token : Token} {tokens : List Token}
    {node : Node}
    (taken : Takes (readNode handles steps position) before (token :: tokens) others node after)
    (ends : Token → Bool) (begins : ends token = false)
    (readable : ∀ cause, token ≠ .defect cause) :
    Takes (readOptional handles (steps + 1) ends position) before (token :: tokens) others node
      after := by
  intro lexemes carries
  obtain ⟨rest, carried, read⟩ := taken lexemes carries
  obtain ⟨line, behind, rfl, _⟩ := carries.cons_inv
  refine ⟨rest, carried, ?_⟩
  have next : Reading.next { lexemes := ⟨token, line, .profile⟩ :: behind, collections := before } =
      .ok ⟨token, line, .profile⟩ := by
    cases token <;> first | rfl | exact absurd rfl (readable _)
  rw [readOptional, next, ← read]
  change (if ends token = true then _ else _) = _
  rw [begins]
  rfl

/-- A value is read behind its mark. -/
theorem Takes.value {steps : Nat} {position : Position} {ends : Token → Bool}
    {tokens : List Token} {node : Node}
    (taken : Takes (readOptional handles steps ends position) before tokens others node after) :
    Takes (readValue handles (steps + 1) ends position) before (.value :: tokens) others node
      after := by
  intro lexemes carries
  obtain ⟨line, rest, rfl, carried⟩ := carries.cons_inv
  exact taken rest carried

/-- An entry of a block mapping is read in front of the others. -/
theorem Takes.entry {steps : Nat} {entries found : List (Node × Node)} {keyNode valueNode : Node}
    {keyTokens valueTokens tokens : List Token}
    (key : Takes (readOptional handles steps endsBlockNode .entry) before keyTokens
      (valueTokens ++ (tokens ++ others)) keyNode before)
    (value : Takes (readValue handles steps endsBlockNode .entry) before valueTokens
      (tokens ++ others) valueNode between)
    (rest : Takes (readBlockMapping handles steps ((keyNode, valueNode) :: entries)) between tokens
      others found after) :
    Takes (readBlockMapping handles (steps + 1) entries) before
      (.key :: keyTokens ++ valueTokens ++ tokens) others found after := by
  intro lexemes carries
  simp only [List.cons_append, List.append_assoc] at carries
  obtain ⟨line, behind, rfl, carried⟩ := carries.cons_inv
  obtain ⟨behindKey, carriedKey, readKey⟩ := key behind carried
  obtain ⟨behindValue, carriedValue, readValue⟩ := value behindKey carriedKey
  obtain ⟨last, carriedLast, readLast⟩ := rest behindValue carriedValue
  refine ⟨last, carriedLast, ?_⟩
  change (readOptional handles steps endsBlockNode .entry
      { lexemes := behind, collections := before } >>= fun key =>
    Reading.readValue handles steps endsBlockNode .entry key.2 >>= fun value =>
      readBlockMapping handles steps ((key.1, value.1) :: entries) value.2) = _
  rw [readKey]
  change (Reading.readValue handles steps endsBlockNode .entry
      { lexemes := behindKey, collections := before } >>= fun value =>
    readBlockMapping handles steps ((keyNode, value.1) :: entries) value.2) = _
  rw [readValue]
  exact readLast

/-- A key is read as its text. -/
theorem takes_key (steps : Nat) (key : List Char) :
    Takes (readOptional handles (steps + 3) endsBlockNode .entry) before [textToken key] others
      (textNode key) before :=
  (takes_text steps .entry key).optional endsBlockNode rfl (by simp [textToken])

/-- A value is read as its node behind its mark. -/
theorem takes_value (steps : Nat) (value : WrittenValue) :
    Takes (readValue handles (steps + 4) endsBlockNode .entry) before [.value, value.token] others
      value.node before := by
  have inner : endsBlockNode value.token = false ∧ ∀ cause, value.token ≠ .defect cause := by
    cases value <;> simp [WrittenValue.token, textToken, endsBlockNode]
  exact ((takes_written steps .entry value).optional endsBlockNode inner.1 inner.2).value

/-- Entries of a block mapping are read in front of the others. -/
theorem Takes.behindEntries {entries : List (List Char × WrittenValue)} {tokens : List Token}
    {found : List (Node × Node)} (steps : Nat) (earlier : List (Node × Node))
    (taken : Takes (readBlockMapping handles (steps + 4)
      ((entries.map entryNodes).reverse ++ earlier)) before tokens others found after) :
    Takes (readBlockMapping handles (entries.length + (steps + 4)) earlier) before
      (entriesTokens entries ++ tokens) others found after := by
  induction entries generalizing earlier with
  | nil =>
    rw [List.length_nil, Nat.zero_add]
    exact taken
  | cons entry entries ih =>
    rw [List.map_cons, List.reverse_cons, List.append_assoc] at taken
    have rest := ih (entryNodes entry :: earlier) taken
    have room : (entry :: entries).length + (steps + 4) = entries.length + steps + 4 + 1 := by
      simp only [List.length_cons]
      omega
    have split : entriesTokens (entry :: entries) ++ tokens =
        .key :: [textToken entry.1] ++ [.value, entry.2.token] ++
          (entriesTokens entries ++ tokens) := by
      simp [entriesTokens, entryTokens]
    rw [room, split]
    rw [← Nat.add_assoc] at rest
    exact Takes.entry (takes_key (entries.length + steps + 1) entry.1)
      (takes_value (entries.length + steps) entry.2) rest

/-! ## Lists and mappings -/

/-- A collection among others. -/
theorem modify_push (before : Collections) (old : Collection) (more : List Collection)
    (change : Collection → Collection) :
    (before.push old ++ more).modify before.size change = before.push (change old) ++ more := by
  apply Array.toList_inj.1
  simp [List.modify_eq_take_cons_drop, List.drop_append, ← Array.length_toList]

/-- The last collection. -/
theorem modify_push_last (before : Collections) (old : Collection)
    (change : Collection → Collection) :
    (before.push old).modify before.size change = before.push (change old) := by
  have modified := modify_push before old [] change
  rwa [Array.appendList_nil, Array.appendList_nil] at modified

/-- The end of a block mapping ends its entries. -/
theorem takes_blockEnd (steps : Nat) (entries : List (Node × Node)) :
    Takes (readBlockMapping handles (steps + 1) entries) before [.blockEnd] others entries.reverse
      before := by
  intro lexemes carries
  obtain ⟨line, rest, rfl, carried⟩ := carries.cons_inv
  exact ⟨rest, carried, rfl⟩

/-- A block mapping is read as a collection of its entries. -/
theorem Takes.mapping {steps : Nat} {tokens : List Token} {entries : List (Node × Node)}
    {more : List Collection} (position : Position) (isBlock : position.block = true)
    (taken : Takes (readBlockMapping handles steps []) (before.push ⟨.mapping, .items []⟩) tokens
      others entries (before.push ⟨.mapping, .items []⟩ ++ more)) :
    Takes (readNode handles (steps + 2) position) before (.blockMappingStart :: tokens) others
      (.collection before.size) (before.push ⟨.mapping, .entries entries false⟩ ++ more) := by
  intro lexemes carries
  obtain ⟨line, behind, rfl, carried⟩ := carries.cons_inv
  obtain ⟨rest, carriedRest, read⟩ := taken behind carried
  refine ⟨rest, carriedRest, ?_⟩
  obtain ⟨isBlock, dashes⟩ := position
  cases isBlock
  have opens : readNode handles (steps + 2) ⟨true, dashes⟩
      { lexemes := ⟨.blockMappingStart, line, .profile⟩ :: behind, collections := before } =
      (readBlockMapping handles steps []
        { lexemes := behind, collections := before.push ⟨.mapping, .items []⟩ } >>= fun found =>
        .ok (found.2.closeCollection before.size (.entries found.1 false))) := by
    cases dashes <;> rfl
  rw [opens, read]
  exact congrArg
    (fun collections : Collections =>
      Except.ok (Node.collection before.size, Reading.mk rest collections []))
    (modify_push before ⟨.mapping, .items []⟩ more _)

/-- A mapping of scalars as a collection. -/
def mappingOf (entries : List (List Char × WrittenValue)) : Collection :=
  ⟨.mapping, .entries (entries.map entryNodes) false⟩

/-- The entries of a block mapping of scalars are read up to its end. -/
theorem takes_entries {steps : Nat} (entries : List (List Char × WrittenValue))
    (room : entries.length + 4 ≤ steps) :
    Takes (readBlockMapping handles steps []) before (entriesTokens entries ++ [.blockEnd]) others
      (entries.map entryNodes) before := by
  obtain ⟨more, rfl⟩ := Nat.exists_eq_add_of_le room
  have ending := @takes_blockEnd handles before others (more + 3)
    ((entries.map entryNodes).reverse ++ [])
  rw [List.append_nil, List.reverse_reverse] at ending
  have taken := Takes.behindEntries more [] (by rwa [List.append_nil])
  rwa [Nat.add_comm more 4, ← Nat.add_assoc] at taken

/-- A block mapping of scalars is read as a collection. -/
theorem takes_mapping {steps : Nat} (entries : List (List Char × WrittenValue))
    (position : Position) (isBlock : position.block = true) (room : entries.length + 6 ≤ steps) :
    Takes (readNode handles steps position) before
      (.blockMappingStart :: (entriesTokens entries ++ [.blockEnd])) others
      (.collection before.size) (before.push (mappingOf entries)) := by
  obtain ⟨more, rfl⟩ := Nat.exists_eq_add_of_le room
  have taken := @takes_entries handles (before.push ⟨.mapping, .items []⟩) others
    (entries.length + 4 + more) entries (Nat.le_add_right _ _)
  have fewer : entries.length + 6 + more = entries.length + 4 + more + 2 := by omega
  have read := @Takes.mapping handles before others _ _ _ [] position isBlock
    (by rwa [Array.appendList_nil])
  rw [fewer]
  rwa [Array.appendList_nil] at read

/-- An empty mapping in braces is read as a collection. -/
theorem takes_emptyMapping (steps : Nat) (position : Position) :
    Takes (readNode handles (steps + 3) position) before [.flowMappingStart, .flowMappingEnd] others
      (.collection before.size) (before.push (mappingOf [])) := by
  intro lexemes carries
  obtain ⟨line, behind, rfl, carried⟩ := carries.cons_inv
  obtain ⟨lineBehind, rest, rfl, carriedRest⟩ := carried.cons_inv
  refine ⟨rest, carriedRest, ?_⟩
  have closed := modify_push_last before ⟨.mapping, .items []⟩ fun collection =>
    { collection with content := .entries [] false }
  rw [mappingOf, List.map_nil, ← closed]
  obtain ⟨isBlock, dashes⟩ := position
  cases dashes <;> rfl

/-! ## Lists of mappings -/

/-- An empty list in brackets is read as a collection. -/
theorem takes_emptyList (steps : Nat) (position : Position) :
    Takes (readNode handles (steps + 3) position) before [.flowListStart, .flowListEnd] others
      (.collection before.size) (before.push ⟨.list, .items []⟩) := by
  intro lexemes carries
  obtain ⟨line, behind, rfl, carried⟩ := carries.cons_inv
  obtain ⟨lineBehind, rest, rfl, carriedRest⟩ := carried.cons_inv
  refine ⟨rest, carriedRest, ?_⟩
  have closed := modify_push_last before ⟨.list, .items []⟩ fun collection =>
    { collection with content := .items [] }
  rw [← closed]
  obtain ⟨isBlock, dashes⟩ := position
  cases dashes <;> rfl

/-- The tokens of a mapping of scalars in a list. -/
def elementTokens (entries : List (List Char × WrittenValue)) : List Token :=
  .dash :: .blockMappingStart :: (entriesTokens entries ++ [.blockEnd])

/-- The nodes of collections that are numbered from one on. -/
def collectionsFrom (first count : Nat) : List Node :=
  (List.range' first count).map .collection

/-- A first collection and others behind it. -/
theorem collectionsFrom_succ (first count : Nat) :
    collectionsFrom first (count + 1) = .collection first :: collectionsFrom (first + 1) count := by
  rw [collectionsFrom, List.range'_succ, List.map_cons, collectionsFrom]

/-- Mappings of scalars are read as collections one after the other, in front of the next key. -/
theorem takes_dashes {elements : List (List (List Char × WrittenValue))} {steps room : Nat}
    (items : List Node) (roomEach : ∀ element ∈ elements, element.length + 7 ≤ room)
    (enough : elements.length + room + 1 ≤ steps) :
    Takes (readDashes handles steps endsDashed items) before (elements.flatMap elementTokens)
      (.key :: others) (items.reverse ++ collectionsFrom before.size elements.length)
      (before ++ elements.map mappingOf) := by
  induction elements generalizing items before steps with
  | nil =>
    intro lexemes carries
    obtain ⟨line, rest, rfl, carried⟩ := carries.cons_inv
    obtain ⟨more, rfl⟩ := Nat.exists_eq_add_of_le' enough
    refine ⟨_, carries, ?_⟩
    simp only [collectionsFrom, List.length_nil, List.range'_zero, List.map_nil, List.append_nil,
      Array.appendList_nil]
    rfl
  | cons element elements ih =>
    obtain ⟨more, rfl⟩ := Nat.exists_eq_add_of_le' enough
    have element_room := roomEach element List.mem_cons_self
    have item : Takes (readOptional handles (more + elements.length + room + 1) endsDashed .element)
        before (.blockMappingStart :: (entriesTokens element ++ [.blockEnd]))
        (elements.flatMap elementTokens ++ .key :: others) (.collection before.size)
        (before.push (mappingOf element)) :=
      (takes_mapping element .element rfl (by omega)).optional endsDashed rfl (by simp)
    have rest := @ih (before.push (mappingOf element)) (more + elements.length + room + 1)
      (.collection before.size :: items)
      (fun other member => roomEach other (List.mem_cons_of_mem _ member)) (by omega)
    intro lexemes carries
    rw [List.flatMap_cons, elementTokens] at carries
    simp only [List.cons_append, List.append_assoc] at carries
    obtain ⟨line, behind, rfl, carried⟩ := carries.cons_inv
    obtain ⟨between, carriedItem, readItem⟩ := item behind (by simpa using carried)
    obtain ⟨last, carriedLast, readRest⟩ := rest between carriedItem
    refine ⟨last, carriedLast, ?_⟩
    have fuel : more + ((element :: elements).length + room + 1) =
        more + elements.length + room + 1 + 1 := by
      simp only [List.length_cons]
      omega
    rw [fuel]
    change (readOptional handles (more + elements.length + room + 1) endsDashed .element
        { lexemes := behind, collections := before } >>= fun item =>
      readDashes handles (more + elements.length + room + 1) endsDashed (item.1 :: items)
        item.2) = _
    rw [readItem]
    rw [List.length_cons, collectionsFrom_succ, List.map_cons, Array.appendList_cons]
    rw [Array.size_push, List.reverse_cons, List.append_assoc] at readRest
    exact readRest

/-- A list of mappings of scalars is read as a collection in front of the next key. -/
theorem takes_list {elements : List (List (List Char × WrittenValue))} {steps room : Nat}
    (notEmpty : elements ≠ [])
    (roomEach : ∀ element ∈ elements, element.length + 7 ≤ room)
    (enough : elements.length + room + 3 ≤ steps) :
    Takes (readNode handles steps .entry) before (elements.flatMap elementTokens)
      (.key :: others) (.collection before.size)
      (before.push ⟨.list, .items (collectionsFrom (before.size + 1) elements.length)⟩ ++
        elements.map mappingOf) := by
  obtain ⟨more, rfl⟩ := Nat.exists_eq_add_of_le' enough
  have taken := @takes_dashes handles (before.push ⟨.list, .items []⟩) others elements
    (more + (elements.length + room + 1)) room [] roomEach (Nat.le_add_left _ _)
  intro lexemes carries
  obtain ⟨rest, carried, read⟩ := taken lexemes carries
  refine ⟨rest, carried, ?_⟩
  obtain ⟨line, behind, rfl⟩ : ∃ line behind, lexemes = ⟨.dash, line, .profile⟩ :: behind := by
    cases elements with
    | nil => exact absurd rfl notEmpty
    | cons element elements =>
      obtain ⟨line, behind, same, _⟩ := carries.cons_inv
      exact ⟨line, behind, same⟩
  have opens : readNode handles (more + (elements.length + room + 1) + 2) .entry
      { lexemes := ⟨.dash, line, .profile⟩ :: behind, collections := before } =
      (readDashes handles (more + (elements.length + room + 1)) endsDashed []
        { lexemes := ⟨.dash, line, .profile⟩ :: behind,
          collections := before.push ⟨.list, .items []⟩ } >>= fun found =>
        .ok (found.2.closeCollection before.size (.items found.1))) := rfl
  have fuel : more + (elements.length + room + 3) = more + (elements.length + room + 1) + 2 := rfl
  rw [fuel, opens, read, List.reverse_nil, List.nil_append, Array.size_push]
  exact congrArg
    (fun collections : Collections =>
      Except.ok (Node.collection before.size, Reading.mk rest collections []))
    (modify_push before ⟨.list, .items []⟩ _ _)

end Reading

end PodLaunch.Yaml
