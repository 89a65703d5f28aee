import ClusterAudit.Managed.Equality

/-!
Amounts of resources are compared by what they say: a quantity, or a text that is no quantity. To
ask for the same amount of every resource is therefore an equivalence, whatever the resources are
called and however their amounts are written.
-/

namespace ClusterAudit

/-! ## Comparisons through a view -/

section Kernel

variable {Item View : Type} {same : Item → Item → Bool} {view : Item → View}

/-- A comparison holds exactly of items that look the same in a view. -/
def IsKernel (same : Item → Item → Bool) (view : Item → View) : Prop :=
  ∀ left right, same left right = true ↔ view left = view right

theorem IsKernel.equivalence (kernel : IsKernel same view) :
    Equivalence fun left right => same left right = true where
  refl item := (kernel item item).mpr rfl
  symm agree := (kernel _ _).mpr ((kernel _ _).mp agree).symm
  trans first second := (kernel _ _).mpr (((kernel _ _).mp first).trans ((kernel _ _).mp second))

end Kernel

/-! ## Single amounts -/

namespace Quantity

open Text

/-- An amount that is given, or missing, is a quantity. A missing one is zero. -/
def Means : Option String → Quantity → Prop
  | none, quantity => quantity = zero
  | some text, quantity => parse text = .ok quantity

/-- Two amounts are one quantity, or texts that are no quantities and one text without the blanks at
their ends. -/
inductive SameWorth : Option String → Option String → Prop
  | quantity {left right : Option String} (worth : Quantity) :
      Means left worth → Means right worth → SameWorth left right
  | text {left right : String} :
      parse left = .error ⟨left⟩ → parse right = .error ⟨right⟩ → trim left = trim right →
        SameWorth (some left) (some right)

/-- What an amount says: a quantity, or a text without the blanks at its ends. -/
def reading (amount : Option String) : Quantity ⊕ String :=
  match ofOptional? amount with
  | some quantity => .inl quantity
  | none => .inr (trim (amount.getD ""))

variable {amount left right : Option String} {quantity : Quantity}

theorem ofOptional?_eq_some_iff : ofOptional? amount = some quantity ↔ Means amount quantity := by
  cases amount with
  | none => exact ⟨fun same => (Option.some.inj same).symm, fun same => congrArg some same.symm⟩
  | some text =>
      rw [ofOptional?, Means]
      cases parse text with
      | error error => simp [Except.toOption]
      | ok value => simp [Except.toOption]

/-- Only a text that is given can be no quantity. -/
theorem ofOptional?_eq_none_iff :
    ofOptional? amount = none ↔ ∃ text, amount = some text ∧ parse text = .error ⟨text⟩ := by
  cases amount with
  | none => simp [ofOptional?]
  | some text =>
      have either : (parse text).toOption = none ↔ parse text = .error ⟨text⟩ := by
        rw [parse]
        cases (Numeral.read? (trimmed text.toList)).bind Numeral.value? <;> simp [Except.toOption]
      simp only [ofOptional?, either, Option.some.injEq, exists_eq_left']

/-- Blanks at the ends of a text do not count when it is read. -/
theorem ofOptional?_congr (same : left.map trim = right.map trim) :
    ofOptional? left = ofOptional? right := by
  cases left with
  | none =>
      cases right with
      | none => rfl
      | some text => cases same
  | some leftText =>
      cases right with
      | none => cases same
      | some rightText =>
          have sameCharacters : trimmed leftText.toList = trimmed rightText.toList :=
            String.ofList_injective (Option.some.inj same)
          rw [ofOptional?, ofOptional?, parse, parse, sameCharacters]
          cases (Numeral.read? (trimmed rightText.toList)).bind Numeral.value? <;> rfl

theorem isKernel_sameAmount : IsKernel sameAmount reading := by
  intro left right
  rw [sameAmount, reading, reading]
  cases leftRead : ofOptional? left with
  | some leftQuantity =>
      cases rightRead : ofOptional? right with
      | some rightQuantity => simp
      | none =>
          have different : left.map trim ≠ right.map trim :=
            mt ofOptional?_congr (by simp [leftRead, rightRead])
          simp [different]
  | none =>
      cases rightRead : ofOptional? right with
      | some rightQuantity =>
          have different : left.map trim ≠ right.map trim :=
            mt ofOptional?_congr (by simp [leftRead, rightRead])
          simp [different]
      | none =>
          obtain ⟨leftText, rfl, _⟩ := ofOptional?_eq_none_iff.mp leftRead
          obtain ⟨rightText, rfl, _⟩ := ofOptional?_eq_none_iff.mp rightRead
          simp

theorem reading_of_means (means : Means amount quantity) : reading amount = .inl quantity := by
  rw [reading, ofOptional?_eq_some_iff.mpr means]

theorem reading_of_error {text : String} (fails : parse text = .error ⟨text⟩) :
    reading (some text) = .inr (trim text) := by
  rw [reading, ofOptional?_eq_none_iff.mpr ⟨text, rfl, fails⟩]
  rfl

theorem means_or_error (amount : Option String) :
    (∃ quantity, Means amount quantity) ∨
      ∃ text, amount = some text ∧ parse text = .error ⟨text⟩ := by
  cases read : ofOptional? amount with
  | some quantity => exact Or.inl ⟨quantity, ofOptional?_eq_some_iff.mp read⟩
  | none => exact Or.inr (ofOptional?_eq_none_iff.mp read)

/-- Two amounts say the same exactly if they are worth the same. -/
theorem reading_eq_iff : reading left = reading right ↔ SameWorth left right := by
  constructor
  · intro same
    rcases means_or_error left with ⟨leftWorth, leftMeans⟩ | ⟨leftText, rfl, leftFails⟩
    · rcases means_or_error right with ⟨rightWorth, rightMeans⟩ | ⟨rightText, rfl, rightFails⟩
      · rw [reading_of_means leftMeans, reading_of_means rightMeans] at same
        cases same
        exact .quantity leftWorth leftMeans rightMeans
      · rw [reading_of_means leftMeans, reading_of_error rightFails] at same
        cases same
    · rcases means_or_error right with ⟨rightWorth, rightMeans⟩ | ⟨rightText, rfl, rightFails⟩
      · rw [reading_of_error leftFails, reading_of_means rightMeans] at same
        cases same
      · rw [reading_of_error leftFails, reading_of_error rightFails] at same
        exact .text leftFails rightFails (Sum.inr.inj same)
  · intro sameWorth
    cases sameWorth with
    | quantity worth leftMeans rightMeans =>
        rw [reading_of_means leftMeans, reading_of_means rightMeans]
    | text leftFails rightFails same =>
        rw [reading_of_error leftFails, reading_of_error rightFails, same]

end Quantity

/-! ## Tables of amounts -/

namespace Managed

open Quantity (reading reading_eq_iff isKernel_sameAmount SameWorth)

/-- What a table says of the amount of each resource. -/
def amountsReading (amounts : Option Texts) (name : String) : Quantity ⊕ String :=
  reading (amount? amounts name)

/-- What is said of the limit and of the request for each resource. -/
def resourcesReading (resources : ResourceRequirements) (name : String) :
    (Quantity ⊕ String) × (Quantity ⊕ String) :=
  (amountsReading resources.limits name, amountsReading resources.requests name)

theorem amount?_eq_none {amounts : Option Texts} {name : String}
    (unnamed : name ∉ resourceNames amounts) : amount? amounts name = none := by
  cases amounts with
  | none => rfl
  | some table =>
      change table.entries.lookup name = none
      rw [List.lookup_eq_none_iff]
      intro entry member
      rw [bne_iff_ne]
      rintro rfl
      exact unnamed (List.mem_map_of_mem member)

/-- Only the resources that one of the tables names are compared, and all others are missing on both
sides. -/
theorem isKernel_sameAmounts : IsKernel sameAmounts amountsReading := by
  intro left right
  rw [sameAmounts, List.all_eq_true, funext_iff]
  constructor
  · intro agree name
    by_cases named : name ∈ resourceNames left ++ resourceNames right
    · exact (isKernel_sameAmount _ _).mp (agree name named)
    · rw [List.mem_append, not_or] at named
      rw [amountsReading, amountsReading, amount?_eq_none named.1, amount?_eq_none named.2]
  · intro same name _
    exact (isKernel_sameAmount _ _).mpr (same name)

theorem isKernel_sameResources : IsKernel sameResources resourcesReading := by
  intro left right
  rw [sameResources, Bool.and_eq_true, isKernel_sameAmounts, isKernel_sameAmounts, funext_iff,
    funext_iff, funext_iff, ← forall_and]
  simp only [resourcesReading, Prod.mk.injEq]

/-- Resources agree if the limits and the requests for every name that a resource may have are the
same amounts. That is an equivalence, and nothing else that is said of the resources counts. -/
theorem sameResources_by_worth :
    (∀ left right, sameResources left right = true ↔
      ∀ name,
        SameWorth (left.limits.bind (·.get? name)) (right.limits.bind (·.get? name)) ∧
          SameWorth (left.requests.bind (·.get? name)) (right.requests.bind (·.get? name))) ∧
    (Equivalence fun left right => sameResources left right = true) ∧
    ∀ left right leftRest rightRest,
      sameResources { left with rest := leftRest } { right with rest := rightRest } =
        sameResources left right := by
  refine ⟨?_, isKernel_sameResources.equivalence, fun _ _ _ _ => rfl⟩
  intro left right
  rw [isKernel_sameResources, funext_iff]
  simp only [resourcesReading, amountsReading, amount?, Prod.mk.injEq, reading_eq_iff]

end Managed

end ClusterAudit
