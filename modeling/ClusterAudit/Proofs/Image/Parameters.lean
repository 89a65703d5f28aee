import ClusterAudit.Image.Challenge
import ClusterAudit.Proofs.Text.Blank
import ClusterAudit.Proofs.Text.Mark

/-!
How the parameters of a challenge are read. A text is split at the commas that are outside of
quotes, each part is a key and a value without what stands around them, and of the values of a key
the last one counts.
-/

namespace ClusterAudit

open Text

namespace TokenChallenge

/-! ## Splitting at commas -/

/-- Read from inside or outside of quotes, a text stays in one part, and leads inside or outside. -/
def Leads (inQuotes : Bool) (text : List Char) (after : Bool) : Prop :=
  ∀ rest part parts, splitOutsideQuotes after rest = part :: parts →
    splitOutsideQuotes inQuotes (text ++ rest) = (text ++ part) :: parts

theorem Leads.append {inQuotes middle after : Bool} {first second : List Char}
    (leads : Leads inQuotes first middle) (further : Leads middle second after) :
    Leads inQuotes (first ++ second) after := by
  intro rest part parts split
  rw [List.append_assoc, List.append_assoc]
  exact leads _ _ _ (further _ _ _ split)

theorem leads_nil (inQuotes : Bool) : Leads inQuotes [] inQuotes :=
  fun _ _ _ split => split

theorem leads_quote (inQuotes : Bool) : Leads inQuotes ['"'] (!inQuotes) := by
  intro rest part parts split
  simp [splitOutsideQuotes, split]

theorem leads_singleton {inQuotes : Bool} {character : Char} (notQuote : character ≠ '"')
    (kept : inQuotes = false → character ≠ ',') : Leads inQuotes [character] inQuotes := by
  intro rest part parts split
  have inside : ¬ (character = ',' ∧ inQuotes = false) := fun both => kept both.2 both.1
  simp [splitOutsideQuotes, inside, notQuote, split]

theorem leads_of_forall {inQuotes : Bool} {text : List Char}
    (plain : ∀ character ∈ text, character ≠ '"' ∧ (inQuotes = false → character ≠ ',')) :
    Leads inQuotes text inQuotes := by
  induction text with
  | nil => exact leads_nil inQuotes
  | cons first others inductionHypothesis =>
      obtain ⟨notQuote, kept⟩ := plain first List.mem_cons_self
      have further := inductionHypothesis fun character member =>
        plain character (List.mem_cons_of_mem first member)
      exact (leads_singleton notQuote kept).append further

theorem splitOutsideQuotes_of_leads {inQuotes after : Bool} {text : List Char}
    (leads : Leads inQuotes text after) : splitOutsideQuotes inQuotes text = [text] := by
  have whole := leads [] [] [] rfl
  rwa [List.append_nil] at whole

theorem splitOutsideQuotes_append_comma {text : List Char} (closed : Leads false text false)
    (rest : List Char) :
    splitOutsideQuotes false (text ++ ',' :: rest) = text :: splitOutsideQuotes false rest := by
  have whole := closed (',' :: rest) [] (splitOutsideQuotes false rest)
    (by simp [splitOutsideQuotes])
  rwa [List.append_nil] at whole

theorem splitOutsideQuotes_intercalate {texts : List (List Char)} (filled : texts ≠ [])
    (closed : ∀ text ∈ texts, Leads false text false) :
    splitOutsideQuotes false ([','].intercalate texts) = texts := by
  induction texts with
  | nil => exact absurd rfl filled
  | cons first others inductionHypothesis =>
      have firstClosed := closed first List.mem_cons_self
      cases others with
      | nil => simpa using splitOutsideQuotes_of_leads firstClosed
      | cons second more =>
          have later := inductionHypothesis (List.cons_ne_nil second more) fun text member =>
            closed text (List.mem_cons_of_mem first member)
          rw [List.intercalate_cons_cons, List.append_assoc]
          exact (splitOutsideQuotes_append_comma firstClosed _).trans (congrArg (first :: ·) later)

/-- What is appended to a text without commas and quotes is appended to its last part. -/
theorem exists_splitOutsideQuotes_append {more : List Char}
    (plain : ∀ character ∈ more, character ≠ '"' ∧ character ≠ ',') (text : List Char)
    (inQuotes : Bool) :
    ∃ initial last, splitOutsideQuotes inQuotes text = initial ++ [last] ∧
      splitOutsideQuotes inQuotes (text ++ more) = initial ++ [last ++ more] := by
  induction text generalizing inQuotes with
  | nil =>
      have leads : Leads inQuotes more inQuotes := leads_of_forall fun character member =>
        ⟨(plain character member).1, fun _ => (plain character member).2⟩
      exact ⟨[], [], rfl, splitOutsideQuotes_of_leads leads⟩
  | cons first others inductionHypothesis =>
      rw [List.cons_append, splitOutsideQuotes, splitOutsideQuotes]
      by_cases parts : first = ',' ∧ inQuotes = false
      · obtain ⟨initial, last, split, extended⟩ := inductionHypothesis inQuotes
        rw [if_pos parts, if_pos parts, split, extended]
        exact ⟨[] :: initial, last, rfl, rfl⟩
      · obtain ⟨initial, last, split, extended⟩ :=
          inductionHypothesis (if first = '"' then !inQuotes else inQuotes)
        rw [if_neg parts, if_neg parts, split, extended]
        cases initial with
        | nil => exact ⟨[], first :: last, rfl, rfl⟩
        | cons part more => exact ⟨(first :: part) :: more, last, rfl, rfl⟩

/-! ## Reading parameters -/

theorem readParameter?_append_cons {key value : List Char} (inside : '=' ∉ key) :
    readParameter? (key ++ '=' :: value) =
      some (String.ofList (trimmed key), String.ofList (withoutQuotes (trimmed value))) := by
  rw [readParameter?, dropWhile_bne_append_cons inside, takeWhile_bne_append_cons inside]

theorem readParameter?_of_notMem {part : List Char} (single : '=' ∉ part) :
    readParameter? part = none := by
  rw [readParameter?, dropWhile_bne_of_notMem single]

theorem readParameter?_append_of_blank {blanks : List Char}
    (blank : ∀ character ∈ blanks, isBlank character = true) (part : List Char) :
    readParameter? (part ++ blanks) = readParameter? part := by
  by_cases marked : '=' ∈ part
  · obtain ⟨key, value, rfl, inside⟩ := List.eq_append_cons_of_mem marked
    rw [List.append_assoc, List.cons_append, readParameter?_append_cons inside,
      readParameter?_append_cons inside, trimmed_append_of_blank blank]
  · have unmarked : '=' ∉ part ++ blanks := by
      rw [List.mem_append, not_or]
      exact ⟨marked, fun member => absurd (blank '=' member) (by decide)⟩
    rw [readParameter?_of_notMem marked, readParameter?_of_notMem unmarked]

/-- The parameters of a text. -/
def readParameters (text : List Char) : List (String × String) :=
  (splitOutsideQuotes false text).filterMap readParameter?

/-- Blanks at the end of a text are not part of its parameters. -/
theorem readParameters_trimEnd (text : List Char) :
    readParameters (trimEnd text) = readParameters text := by
  obtain ⟨blanks, whole, blank⟩ := exists_trimEnd_append text
  have plain : ∀ character ∈ blanks, character ≠ '"' ∧ character ≠ ',' := by
    intro character member
    have isBlankHere := blank character member
    constructor
    · rintro rfl
      exact absurd isBlankHere (by decide)
    · rintro rfl
      exact absurd isBlankHere (by decide)
  obtain ⟨initial, last, split, extended⟩ :=
    exists_splitOutsideQuotes_append plain (trimEnd text) false
  rw [whole] at extended
  simp only [readParameters, split, extended, List.filterMap_append, List.filterMap_cons,
    readParameter?_append_of_blank blank]

/-! ## Values -/

theorem dropWhile_quote_of_notMem {text : List Char} (inside : '"' ∉ text) :
    text.dropWhile (· == '"') = text := by
  cases text with
  | nil => rfl
  | cons first others =>
      have different : first ≠ '"' := fun same => inside (same ▸ List.mem_cons_self)
      exact List.dropWhile_cons_of_neg (by simp [different])

theorem withoutQuotes_of_notMem {text : List Char} (inside : '"' ∉ text) :
    withoutQuotes text = text := by
  have reversed : '"' ∉ text.reverse := by simpa using inside
  rw [withoutQuotes, dropWhile_quote_of_notMem inside, dropWhile_quote_of_notMem reversed,
    List.reverse_reverse]

theorem withoutQuotes_quoted {text : List Char} (inside : '"' ∉ text) :
    withoutQuotes ('"' :: (text ++ ['"'])) = text := by
  have reversed : '"' ∉ text.reverse := by simpa using inside
  cases text with
  | nil => rfl
  | cons first others =>
      have different : first ≠ '"' := fun same => inside (same ▸ List.mem_cons_self)
      have opened : ('"' :: (first :: others ++ ['"'])).dropWhile (· == '"') =
          first :: others ++ ['"'] := by
        simp [different]
      have closed : (first :: others ++ ['"']).reverse.dropWhile (· == '"') =
          (first :: others).reverse := by
        rw [List.reverse_append]
        exact dropWhile_quote_of_notMem reversed
      rw [withoutQuotes, opened, closed, List.reverse_reverse]

/-! ## The keys that count -/

/-- The values of a key, in their order. -/
def valuesOf (key : String) (entries : List (String × String)) : List String :=
  (entries.filter fun entry => entry.1 == key).map Prod.snd

theorem valuesOf_cons_self (key value : String) (entries : List (String × String)) :
    valuesOf key ((key, value) :: entries) = value :: valuesOf key entries := by
  simp [valuesOf]

theorem valuesOf_cons_of_ne {key other : String} (different : other ≠ key) (value : String)
    (entries : List (String × String)) :
    valuesOf key ((other, value) :: entries) = valuesOf key entries := by
  simp [valuesOf, different]

theorem extend_of_other {key : String} (notRealm : key ≠ "realm") (notService : key ≠ "service")
    (notScope : key ≠ "scope") (challenge : TokenChallenge) (value : String) :
    challenge.extend (key, value) = challenge := by
  rw [extend]
  split
  · next isRealm => exact absurd isRealm notRealm
  · next isService => exact absurd isService notService
  · next isScope => exact absurd isScope notScope
  · rfl

theorem or_getLast?_cons {Item : Type} (first : Item) (others : List Item)
    (default : Option Item) :
    (first :: others).getLast?.or default = others.getLast?.or (some first) := by
  rw [List.getLast?_cons]
  cases others.getLast? <;> rfl

theorem getD_getLast?_cons {Item : Type} (first default : Item) (others : List Item) :
    (first :: others).getLast?.getD default = others.getLast?.getD first := by
  rw [List.getLast?_cons, Option.getD_some]

/-- Of several values of a key the last one counts. -/
theorem foldl_extend (entries : List (String × String)) (challenge : TokenChallenge) :
    entries.foldl extend challenge = {
      realm := (valuesOf "realm" entries).getLast?.getD challenge.realm
      service := (valuesOf "service" entries).getLast?.or challenge.service
      scope := (valuesOf "scope" entries).getLast?.or challenge.scope } := by
  induction entries generalizing challenge with
  | nil => rfl
  | cons entry others inductionHypothesis =>
      obtain ⟨key, value⟩ := entry
      rw [List.foldl_cons, inductionHypothesis]
      by_cases isRealm : key = "realm"
      · subst isRealm
        rw [valuesOf_cons_self, valuesOf_cons_of_ne (by decide), valuesOf_cons_of_ne (by decide),
          getD_getLast?_cons]
        rfl
      · by_cases isService : key = "service"
        · subst isService
          rw [valuesOf_cons_self, valuesOf_cons_of_ne (by decide),
            valuesOf_cons_of_ne (by decide), or_getLast?_cons]
          rfl
        · by_cases isScope : key = "scope"
          · subst isScope
            rw [valuesOf_cons_self, valuesOf_cons_of_ne (by decide),
              valuesOf_cons_of_ne (by decide), or_getLast?_cons]
            rfl
          · rw [valuesOf_cons_of_ne isRealm, valuesOf_cons_of_ne isService,
              valuesOf_cons_of_ne isScope, extend_of_other isRealm isService isScope]

end TokenChallenge

end ClusterAudit
