import ClusterAudit.Proofs.Image.Parameters
import ClusterAudit.Proofs.Labels

/-!
Challenges as registries write them: parameters between commas, each a key and a value that is
quoted or bare, with spaces around them. Reading one gives back the values of the keys that count,
whatever stands between the quotes, in which order the parameters come, and which others are there.
-/

namespace ClusterAudit

open Text

namespace TokenChallenge

/-! ## Written parameters -/

/-- A character that is visible, or a space. -/
def IsPrintable (character : Char) : Prop :=
  ' ' ≤ character ∧ character ≤ '~'

instance (character : Char) : Decidable (IsPrintable character) :=
  inferInstanceAs (Decidable (_ ∧ _))

/-- A visible character that neither ends a part nor starts or ends quotes. -/
structure IsToken (character : Char) : Prop where
  afterSpace : ' ' < character
  visible : character ≤ '~'
  notComma : character ≠ ','
  notQuote : character ≠ '"'

instance (character : Char) : Decidable (IsToken character) :=
  decidable_of_iff
    (' ' < character ∧ character ≤ '~' ∧ character ≠ ',' ∧ character ≠ '"')
    ⟨fun ⟨afterSpace, visible, notComma, notQuote⟩ => ⟨afterSpace, visible, notComma, notQuote⟩,
      fun token => ⟨token.afterSpace, token.visible, token.notComma, token.notQuote⟩⟩

/-- A space or a tab. -/
def IsSpace (character : Char) : Prop :=
  character = ' ' ∨ character = '\t'

instance (character : Char) : Decidable (IsSpace character) :=
  inferInstanceAs (Decidable (_ ∨ _))

def AreSpaces (text : List Char) : Prop :=
  ∀ character ∈ text, IsSpace character

instance (text : List Char) : Decidable (AreSpaces text) :=
  List.decidableBAll _ text

/-- The characters of a key, which ends at the first equals sign. -/
def AreKey (text : List Char) : Prop :=
  ∀ character ∈ text, IsToken character ∧ character ≠ '='

instance (text : List Char) : Decidable (AreKey text) :=
  List.decidableBAll _ text

/-- A value as it is written. -/
inductive WrittenValue where
  | quoted (text : String)
  | bare (text : String)

namespace WrittenValue

/-- What the value says. -/
def text : WrittenValue → String
  | quoted text | bare text => text

def written : WrittenValue → List Char
  | quoted text => '"' :: (text.toList ++ ['"'])
  | bare text => text.toList

/-- Between quotes anything printable may stand but quotes. -/
def IsFit : WrittenValue → Prop
  | quoted text => ∀ character ∈ text.toList, IsPrintable character ∧ character ≠ '"'
  | bare text => ∀ character ∈ text.toList, IsToken character

instance : (value : WrittenValue) → Decidable value.IsFit
  | quoted text => List.decidableBAll _ text.toList
  | bare text => List.decidableBAll _ text.toList

end WrittenValue

/-- A parameter as it is written, with the spaces around its key and its value. -/
structure WrittenParameter where
  key : String
  value : WrittenValue
  beforeKey : List Char := []
  afterKey : List Char := []
  beforeValue : List Char := []
  afterValue : List Char := []

namespace WrittenParameter

def written (parameter : WrittenParameter) : List Char :=
  (parameter.beforeKey ++ (parameter.key.toList ++ parameter.afterKey)) ++
    '=' :: (parameter.beforeValue ++ (parameter.value.written ++ parameter.afterValue))

structure IsFit (parameter : WrittenParameter) : Prop where
  key : AreKey parameter.key.toList
  value : parameter.value.IsFit
  beforeKey : AreSpaces parameter.beforeKey
  afterKey : AreSpaces parameter.afterKey
  beforeValue : AreSpaces parameter.beforeValue
  afterValue : AreSpaces parameter.afterValue

instance (parameter : WrittenParameter) : Decidable parameter.IsFit :=
  decidable_of_iff
    (AreKey parameter.key.toList ∧ parameter.value.IsFit ∧ AreSpaces parameter.beforeKey ∧
      AreSpaces parameter.afterKey ∧ AreSpaces parameter.beforeValue ∧
      AreSpaces parameter.afterValue)
    ⟨fun ⟨key, value, beforeKey, afterKey, beforeValue, afterValue⟩ =>
        ⟨key, value, beforeKey, afterKey, beforeValue, afterValue⟩,
      fun fit => ⟨fit.key, fit.value, fit.beforeKey, fit.afterKey, fit.beforeValue, fit.afterValue⟩⟩

/-- What the parameter says. -/
def entry (parameter : WrittenParameter) : String × String :=
  (parameter.key, parameter.value.text)

end WrittenParameter

/-- Parameters between commas. -/
def writtenParameters (parameters : List WrittenParameter) : List Char :=
  [','].intercalate (parameters.map WrittenParameter.written)

/-! ## Reading what is written -/

theorem AreSpaces.isBlank {text : List Char} (spaces : AreSpaces text) :
    ∀ character ∈ text, Text.isBlank character = true := by
  intro character member
  rcases spaces character member with rfl | rfl
  · decide
  · decide

theorem IsToken.isBlank {character : Char} (token : IsToken character) :
    Text.isBlank character = false :=
  isBlank_of_visible token.afterSpace token.visible

namespace WrittenValue

variable {value : WrittenValue}

theorem trimmed_written (fit : value.IsFit) : trimmed value.written = value.written := by
  cases value with
  | quoted text =>
      have solid : isBlank '"' = false := by decide
      have start : trimStart ('"' :: (text.toList ++ ['"'])) = '"' :: (text.toList ++ ['"']) :=
        List.dropWhile_cons_of_neg (by simp [solid])
      rw [written, trimmed, start, trimEnd_cons solid, trimEnd_append_cons solid]
      rfl
  | bare text => exact trimmed_eq_self fun character member => (fit character member).isBlank

theorem withoutQuotes_written (fit : value.IsFit) :
    withoutQuotes value.written = value.text.toList := by
  cases value with
  | quoted text => exact withoutQuotes_quoted fun member => (fit _ member).2 rfl
  | bare text => exact withoutQuotes_of_notMem fun member => (fit _ member).notQuote rfl

/-- Commas within quotes do not part a value. -/
theorem leads_written (fit : value.IsFit) : Leads false value.written false := by
  cases value with
  | quoted text =>
      have inside : Leads true text.toList true := leads_of_forall fun character member =>
        ⟨(fit character member).2, nofun⟩
      exact (leads_quote false).append (inside.append (leads_quote true))
  | bare text =>
      exact leads_of_forall fun character member =>
        ⟨(fit character member).notQuote, fun _ => (fit character member).notComma⟩

end WrittenValue

theorem leads_of_areSpaces {text : List Char} (spaces : AreSpaces text) :
    Leads false text false := by
  apply leads_of_forall
  intro character member
  rcases spaces character member with rfl | rfl
  · decide
  · decide

namespace WrittenParameter

variable {parameter : WrittenParameter}

theorem leads_written (fit : parameter.IsFit) : Leads false parameter.written false := by
  have key : Leads false parameter.key.toList false := leads_of_forall fun character member =>
    ⟨(fit.key character member).1.notQuote, fun _ => (fit.key character member).1.notComma⟩
  have before := (leads_of_areSpaces fit.beforeKey).append
    (key.append (leads_of_areSpaces fit.afterKey))
  have after := (leads_of_areSpaces fit.beforeValue).append
    ((WrittenValue.leads_written fit.value).append (leads_of_areSpaces fit.afterValue))
  have mark : Leads false ['='] false := leads_singleton (by decide) fun _ => by decide
  exact before.append (mark.append after)

theorem readParameter?_written (fit : parameter.IsFit) :
    readParameter? parameter.written = some parameter.entry := by
  have notSpace : ¬ IsSpace '=' := by
    rintro (mark | mark)
    · exact absurd mark (by decide)
    · exact absurd mark (by decide)
  have inside : '=' ∉ parameter.beforeKey ++ (parameter.key.toList ++ parameter.afterKey) := by
    rw [List.mem_append, List.mem_append]
    rintro (before | key | after)
    · exact notSpace (fit.beforeKey '=' before)
    · exact (fit.key '=' key).2 rfl
    · exact notSpace (fit.afterKey '=' after)
  have keySolid : trimmed parameter.key.toList = parameter.key.toList :=
    trimmed_eq_self fun character member => (fit.key character member).1.isBlank
  rw [written, readParameter?_append_cons inside, trimmed_of_blank_append fit.beforeKey.isBlank,
    trimmed_append_of_blank fit.afterKey.isBlank, trimmed_of_blank_append fit.beforeValue.isBlank,
    trimmed_append_of_blank fit.afterValue.isBlank, keySolid,
    WrittenValue.trimmed_written fit.value, WrittenValue.withoutQuotes_written fit.value,
    String.ofList_toList, String.ofList_toList, entry]

end WrittenParameter

theorem readParameters_written {parameters : List WrittenParameter}
    (fit : ∀ parameter ∈ parameters, parameter.IsFit) :
    readParameters (writtenParameters parameters) = parameters.map WrittenParameter.entry := by
  by_cases none : parameters = []
  · rw [none]
    rfl
  · have closed : ∀ text ∈ parameters.map WrittenParameter.written, Leads false text false := by
      intro text member
      obtain ⟨parameter, listed, rfl⟩ := List.mem_map.mp member
      exact WrittenParameter.leads_written (fit parameter listed)
    have filled : parameters.map WrittenParameter.written ≠ [] := by simpa using none
    rw [readParameters, writtenParameters, splitOutsideQuotes_intercalate filled closed,
      List.filterMap_map, ← List.filterMap_eq_map]
    apply List.filterMap_congr
    intro parameter member
    exact WrittenParameter.readParameter?_written (fit parameter member)

/-! ## Headers -/

/-- The header of a challenge with these parameters. -/
def writtenHeader (scheme : String) (parameters : List WrittenParameter) : String :=
  scheme ++ String.ofList (writtenParameters parameters)

/-- A character that the text of a header may have. -/
def IsHeaderCharacter (character : Char) : Prop :=
  character = '\t' ∨ IsPrintable character

instance (character : Char) : Decidable (IsHeaderCharacter character) :=
  inferInstanceAs (Decidable (_ ∨ _))

theorem isHeaderText_iff {header : String} :
    Http.isHeaderText header = true ↔ ∀ character ∈ header.toList, IsHeaderCharacter character := by
  simp [Http.isHeaderText, IsHeaderCharacter, IsPrintable]

theorem IsToken.isHeaderCharacter {character : Char} (token : IsToken character) :
    IsHeaderCharacter character :=
  .inr ⟨UInt32.le_of_lt token.afterSpace, token.visible⟩

theorem IsSpace.isHeaderCharacter {character : Char} (space : IsSpace character) :
    IsHeaderCharacter character := by
  rcases space with rfl | rfl
  · decide
  · decide

theorem WrittenValue.isHeaderCharacter {value : WrittenValue} (fit : value.IsFit) :
    ∀ character ∈ value.written, IsHeaderCharacter character := by
  intro character member
  cases value with
  | quoted text =>
      have quote : IsHeaderCharacter '"' := by decide
      rw [written, List.mem_cons, List.mem_append, List.mem_singleton] at member
      rcases member with rfl | inside | rfl
      · exact quote
      · exact .inr (fit character inside).1
      · exact quote
  | bare text => exact (fit character member).isHeaderCharacter

theorem WrittenParameter.isHeaderCharacter {parameter : WrittenParameter}
    (fit : parameter.IsFit) : ∀ character ∈ parameter.written, IsHeaderCharacter character := by
  intro character member
  rw [written, List.mem_append, List.mem_append, List.mem_append, List.mem_cons, List.mem_append,
    List.mem_append] at member
  rcases member with (before | key | after) | rfl | before | value | after
  · exact (fit.beforeKey character before).isHeaderCharacter
  · exact (fit.key character key).1.isHeaderCharacter
  · exact (fit.afterKey character after).isHeaderCharacter
  · decide
  · exact (fit.beforeValue character before).isHeaderCharacter
  · exact WrittenValue.isHeaderCharacter fit.value character value
  · exact (fit.afterValue character after).isHeaderCharacter

theorem mem_intercalate {character : Char} {texts : List (List Char)}
    (member : character ∈ [','].intercalate texts) :
    character = ',' ∨ ∃ text ∈ texts, character ∈ text := by
  induction texts with
  | nil => simp at member
  | cons first others inductionHypothesis =>
      cases others with
      | nil => exact .inr ⟨first, List.mem_cons_self, by simpa using member⟩
      | cons second more =>
          rw [List.intercalate_cons_cons, List.mem_append, List.mem_append,
            List.mem_singleton] at member
          rcases member with (inFirst | isComma) | later
          · exact .inr ⟨first, List.mem_cons_self, inFirst⟩
          · exact .inl isComma
          · refine (inductionHypothesis later).imp_right ?_
            rintro ⟨text, listed, inside⟩
            exact ⟨text, List.mem_cons_of_mem first listed, inside⟩

theorem isHeaderText_writtenHeader {scheme : String}
    (named : scheme = "Bearer " ∨ scheme = "bearer ") {parameters : List WrittenParameter}
    (fit : ∀ parameter ∈ parameters, parameter.IsFit) :
    Http.isHeaderText (writtenHeader scheme parameters) = true := by
  rw [isHeaderText_iff, writtenHeader, String.toList_append, String.toList_ofList]
  intro character member
  have schemeText : Http.isHeaderText scheme = true := by
    rcases named with rfl | rfl
    · decide
    · decide
  rcases List.mem_append.mp member with inScheme | inParameters
  · exact isHeaderText_iff.mp schemeText character inScheme
  · rcases mem_intercalate inParameters with rfl | ⟨text, listed, inside⟩
    · decide
    · obtain ⟨parameter, isListed, rfl⟩ := List.mem_map.mp listed
      exact WrittenParameter.isHeaderCharacter (fit parameter isListed) character inside

theorem parameters?_trimmed_writtenHeader {scheme : String}
    (named : scheme = "Bearer " ∨ scheme = "bearer ") {parameters : List WrittenParameter}
    (solid : ∃ character ∈ writtenParameters parameters, isBlank character = false) :
    parameters? (trimmed (writtenHeader scheme parameters).toList) =
      some (trimEnd (writtenParameters parameters)) := by
  have start : trimStart (scheme.toList ++ writtenParameters parameters) =
      scheme.toList ++ writtenParameters parameters := by
    rcases named with rfl | rfl
    · rfl
    · rfl
  rw [writtenHeader, String.toList_append, String.toList_ofList, trimmed, start,
    trimEnd_append_of_solid solid]
  rcases named with rfl | rfl
  · rfl
  · rfl

/-- A text of blanks alone would have no parameters. -/
theorem exists_solid_mem_written {parameters : List WrittenParameter}
    (filled : parameters ≠ []) (fit : ∀ parameter ∈ parameters, parameter.IsFit) :
    ∃ character ∈ writtenParameters parameters, isBlank character = false := by
  apply exists_solid_of_trimEnd_ne_nil
  intro nothing
  have read := readParameters_written fit
  rw [← readParameters_trimEnd, nothing] at read
  exact filled (List.map_eq_nil_iff.mp read.symm)

/-- A challenge that a registry writes is read back as it is: where its parameters name one place
that gives tokens, and at most one service and one scope, these are what the challenge says. -/
theorem parse?_writtenHeader {scheme : String}
    (named : scheme = "Bearer " ∨ scheme = "bearer ") {parameters : List WrittenParameter}
    (fit : ∀ parameter ∈ parameters, parameter.IsFit) {realm : String}
    {service scope : Option String}
    (oneRealm : valuesOf "realm" (parameters.map WrittenParameter.entry) = [realm])
    (filled : realm ≠ "")
    (oneService : valuesOf "service" (parameters.map WrittenParameter.entry) = service.toList)
    (oneScope : valuesOf "scope" (parameters.map WrittenParameter.entry) = scope.toList) :
    parse? (writtenHeader scheme parameters) = some { realm, service, scope } := by
  have listed : parameters ≠ [] := by
    rintro rfl
    exact absurd oneRealm (by simp [valuesOf])
  have solid := exists_solid_mem_written listed fit
  have challenge : (readParameters (trimEnd (writtenParameters parameters))).foldl extend {} =
      { realm, service, scope } := by
    rw [readParameters_trimEnd, readParameters_written fit, foldl_extend, oneRealm, oneService,
      oneScope]
    cases service <;> cases scope <;> rfl
  rw [parse?, if_pos (isHeaderText_writtenHeader named fit),
    parameters?_trimmed_writtenHeader named solid, Option.bind_some]
  rw [readParameters] at challenge
  simp only [challenge, if_neg filled]

/-- A challenge with spaces in many places, a key that does not count, and a scope with a comma. -/
def spacedParameters : List WrittenParameter := [
  { key := "error", afterKey := [' '], value := .bare "code=7" },
  { beforeKey := [' '], key := "scope", value := .quoted " a/b:pull,push" },
  { beforeKey := [' '], key := "realm", value := .quoted "https://a.io/t?x=y",
    afterValue := [' '] }]

theorem parse?_writtenHeader_spaced :
    (∀ parameter ∈ spacedParameters, parameter.IsFit) ∧
      writtenHeader "bearer " spacedParameters =
        "bearer error =code=7, scope=\" a/b:pull,push\", realm=\"https://a.io/t?x=y\" " ∧
      parse? (writtenHeader "bearer " spacedParameters) =
        some { realm := "https://a.io/t?x=y", scope := some " a/b:pull,push" } := by
  have fit : ∀ parameter ∈ spacedParameters, parameter.IsFit := by decide +kernel
  have oneRealm : valuesOf "realm" (spacedParameters.map WrittenParameter.entry) =
      ["https://a.io/t?x=y"] := by decide
  have noService : valuesOf "service" (spacedParameters.map WrittenParameter.entry) = [] := by
    decide
  have oneScope : valuesOf "scope" (spacedParameters.map WrittenParameter.entry) =
      [" a/b:pull,push"] := by decide
  refine ⟨fit, by decide, ?_⟩
  exact @parse?_writtenHeader "bearer " (.inr rfl) spacedParameters fit _ none (some _) oneRealm
    (by decide) noService oneScope

end TokenChallenge

end ClusterAudit
