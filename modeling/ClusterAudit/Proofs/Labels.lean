import ClusterAudit.Labels
import ClusterAudit.Proofs.Dictionary
import ClusterAudit.Proofs.Text.Blank
import ClusterAudit.Proofs.Text.Mark

/-!
Selectors ask for the labels that they are made of, if these have no blanks at their ends and none
of the characters that part a selector. Names of configurations have neither.
-/

namespace ClusterAudit

open Text

namespace Selector

/-! ## Texts in a selector -/

/-- A text that can be the value of a label in a selector: it holds no separator of terms, and none
of it is lost where blanks are. -/
def IsValue (text : String) : Prop :=
  ',' ∉ text.toList ∧ HasSolidEnds text.toList

/-- A text that can be the name of a label in a selector: it ends before the equals sign, too. -/
def IsName (text : String) : Prop :=
  '=' ∉ text.toList ∧ IsValue text

instance (text : String) : Decidable (IsValue text) :=
  inferInstanceAs (Decidable (_ ∧ _))

instance (text : String) : Decidable (IsName text) :=
  inferInstanceAs (Decidable (_ ∧ _))

/-- A text without blanks and without the characters that part a selector. -/
def isPlain (text : String) : Bool :=
  text.toList.all fun character => character != ',' && character != '=' && !isBlank character

theorem isPlain_iff {text : String} :
    isPlain text = true ↔
      ∀ character ∈ text.toList,
        character ≠ ',' ∧ character ≠ '=' ∧ isBlank character = false := by
  simp [isPlain, and_assoc]

theorem isValue_of_isPlain {text : String} (plain : isPlain text = true) : IsValue text := by
  have inside := isPlain_iff.mp plain
  exact ⟨fun member => (inside ',' member).1 rfl,
    hasSolidEnds_of_forall fun character member => (inside character member).2.2⟩

/-! ## Terms -/

theorem split_of_forall_ne {separator : Char} {part : List Char}
    (inside : ∀ character ∈ part, character ≠ separator) :
    split separator part = [part] := by
  induction part with
  | nil => rfl
  | cons first rest inductionHypothesis =>
      have firstInside := inside first List.mem_cons_self
      have restInside : ∀ character ∈ rest, character ≠ separator := by
        intro character member
        exact inside character (List.mem_cons_of_mem first member)
      rw [split, if_neg firstInside, inductionHypothesis restInside]

theorem split_append_cons {separator : Char} {part rest : List Char}
    (inside : ∀ character ∈ part, character ≠ separator) :
    split separator (part ++ separator :: rest) = part :: split separator rest := by
  induction part with
  | nil => simp [split]
  | cons first others inductionHypothesis =>
      have firstInside := inside first List.mem_cons_self
      have othersInside : ∀ character ∈ others, character ≠ separator := by
        intro character member
        exact inside character (List.mem_cons_of_mem first member)
      rw [List.cons_append, split, if_neg firstInside, inductionHypothesis othersInside]

theorem readTerm?_append_cons {name value : List Char} (inside : '=' ∉ name) :
    readTerm? (name ++ '=' :: value) =
      some (String.ofList (trimmed name), String.ofList (trimmed value)) := by
  rw [readTerm?, dropWhile_bne_append_cons inside, takeWhile_bne_append_cons inside]

theorem readTerm?_of_isName {entry : String × String} (isName : IsName entry.1)
    (isValue : IsValue entry.2) :
    readTerm? (entry.1 ++ "=" ++ entry.2).toList = some entry := by
  have written : (entry.1 ++ "=" ++ entry.2).toList = entry.1.toList ++ '=' :: entry.2.toList := by
    simp
  rw [written, readTerm?_append_cons isName.1, trimmed_of_hasSolidEnds isName.2.2,
    trimmed_of_hasSolidEnds isValue.2, String.ofList_toList, String.ofList_toList]

/-! ## Selectors of labels -/

theorem comma_notMem_term {entry : String × String} (isName : IsName entry.1)
    (isValue : IsValue entry.2) :
    ∀ character ∈ (entry.1 ++ "=" ++ entry.2).toList, character ≠ ',' := by
  rintro character member rfl
  rw [String.toList_append, String.toList_append, List.mem_append, List.mem_append] at member
  rcases member with (inName | isSeparator) | inValue
  · exact isName.2.1 inName
  · exact absurd isSeparator (by decide)
  · exact isValue.1 inValue

/-- A selector that is written for some labels is read as these labels. -/
theorem parse_intercalate {entries : List (String × String)}
    (askable : ∀ entry ∈ entries, IsName entry.1 ∧ IsValue entry.2) :
    parse (",".intercalate (entries.map fun entry => entry.1 ++ "=" ++ entry.2)) = entries := by
  induction entries with
  | nil => decide
  | cons entry rest inductionHypothesis =>
      obtain ⟨⟨isName, isValue⟩, restAskable⟩ := List.forall_mem_cons.mp askable
      have term := readTerm?_of_isName isName isValue
      have inside := comma_notMem_term isName isValue
      have later := inductionHypothesis restAskable
      cases rest with
      | nil =>
          simp only [parse, List.map_cons, List.map_nil, String.intercalate_singleton,
            split_of_forall_ne inside, List.filterMap_cons, term, List.filterMap_nil]
      | cons next others =>
          have written : ∀ text others : String,
              (text ++ "," ++ others).toList = text.toList ++ ',' :: others.toList := by
            intro text others
            simp
          rw [List.map_cons] at later
          rw [List.map_cons, List.map_cons, String.intercalate_cons_cons, parse, written,
            split_append_cons inside, List.filterMap_cons, term]
          exact congrArg (entry :: ·) later

theorem parse_ofLabels {labels : Texts}
    (askable : ∀ entry ∈ labels.entries, IsName entry.1 ∧ IsValue entry.2) :
    parse (ofLabels labels) = labels.entries :=
  parse_intercalate askable

end Selector

/-! ## Labels of a feature -/

namespace Labels

theorem entries_ofComponent (config : String) (component : Component) :
    (ofComponent config component).entries =
      [(managedByKey, managedBy), (componentKey, component.name), (configKey, config)] := by
  have managedFirst : compare configKey managedByKey = .gt := by decide
  have managedBefore : compare componentKey managedByKey = .gt := by decide
  have componentFirst : compare componentKey configKey = .lt := by decide
  simp [ofComponent, ofConfig, Dictionary.ofList, Dictionary.insert, Dictionary.empty,
    insertEntry, managedFirst, managedBefore, componentFirst]

/-- What carries the labels of a table has all the labels that the table asks for. -/
theorem isMatch_entries (labels : Texts) :
    Selector.isMatch labels.entries (some labels) = true := by
  rw [Selector.isMatch, List.all_eq_true]
  intro entry member
  rw [Option.bind_some, Dictionary.mem_entries_iff.mp member, beq_self_eq_true]

/-- The selector of a feature's objects asks for the labels of the feature. -/
theorem parse_ofComponent_of_isValue {config : String} (isValue : Selector.IsValue config)
    (component : Component) :
    Selector.parse (Selector.ofLabels (ofComponent config component)) =
      (ofComponent config component).entries := by
  apply Selector.parse_ofLabels
  rw [entries_ofComponent]
  have componentValue : Selector.IsValue component.name := by
    cases component <;> decide
  have fixedNames : Selector.IsName managedByKey ∧ Selector.IsName componentKey ∧
      Selector.IsName configKey := by
    decide
  have fixedValue : Selector.IsValue managedBy := by decide
  rw [List.forall_mem_cons, List.forall_mem_cons, List.forall_mem_singleton]
  exact ⟨⟨fixedNames.1, fixedValue⟩, ⟨fixedNames.2.1, componentValue⟩, fixedNames.2.2, isValue⟩

theorem parse_ofComponent {config : String} (plain : Selector.isPlain config = true)
    (component : Component) :
    Selector.parse (Selector.ofLabels (ofComponent config component)) =
      (ofComponent config component).entries :=
  parse_ofComponent_of_isValue (Selector.isValue_of_isPlain plain) component

end Labels

end ClusterAudit
