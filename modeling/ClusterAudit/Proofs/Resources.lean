import ClusterAudit.Proofs.Dictionary
import ClusterAudit.Proofs.Quantity.Value
import ClusterAudit.Template.Scanner

/-!
What containers ask for against what they are limited to. A cluster takes a container only if no
request exceeds the limit of the same resource. A side that a specification leaves empty is filled
with defaults, whatever the other side says, and so a specification of one side is taken exactly if
it leaves room for the defaults of the other.
-/

namespace ClusterAudit.Template

/-- A request that is at most the limit, both being quantities. -/
def IsAtMost (request limit : String) : Prop :=
  ∃ least most, Quantity.parse request = .ok least ∧ Quantity.parse limit = .ok most ∧
    least.nanos ≤ most.nanos

/-- The request of every resource that both tables name is at most its limit. -/
def AreWithin (requests limits : Texts) : Prop :=
  ∀ name request limit, requests.get? name = some request → limits.get? name = some limit →
    IsAtMost request limit

/-- The resources that a cluster takes. A side that is missing neither limits nor asks for
anything. -/
def IsTaken (resources : ResourceRequirements) : Prop :=
  ∀ requests limits, resources.requests = some requests → resources.limits = some limits →
    AreWithin requests limits

/-! ## Defaults -/

section Defaults

variable {cpu memory : String}

theorem get?_cpu_memory {name amount : String} :
    (Dictionary.ofList [("cpu", cpu), ("memory", memory)]).get? name = some amount ↔
      name = "cpu" ∧ cpu = amount ∨ name = "memory" ∧ memory = amount := by
  change ((Dictionary.empty.insert "cpu" cpu).insert "memory" memory).get? name = some amount ↔ _
  by_cases isMemory : name = "memory"
  · rw [isMemory, Dictionary.get?_insert_self]
    simp
  · rw [Dictionary.get?_insert_of_ne isMemory]
    by_cases isCpu : name = "cpu"
    · rw [isCpu, Dictionary.get?_insert_self]
      simp
    · rw [Dictionary.get?_insert_of_ne isCpu]
      simp [isMemory, isCpu, Dictionary.get?, Dictionary.empty]

/-- What holds of all amounts of a table with two of them. -/
theorem forall_cpu_memory_iff (holds : String → String → Prop) :
    (∀ name amount,
        (Dictionary.ofList [("cpu", cpu), ("memory", memory)]).get? name = some amount →
          holds name amount) ↔
      holds "cpu" cpu ∧ holds "memory" memory := by
  simp only [get?_cpu_memory]
  constructor
  · intro all
    exact ⟨all "cpu" cpu (.inl ⟨rfl, rfl⟩), all "memory" memory (.inr ⟨rfl, rfl⟩)⟩
  · rintro ⟨ofCpu, ofMemory⟩ name amount (⟨rfl, rfl⟩ | ⟨rfl, rfl⟩)
    · exact ofCpu
    · exact ofMemory

theorem areWithin_of_requests_iff {limits : Texts} :
    AreWithin (Dictionary.ofList [("cpu", cpu), ("memory", memory)]) limits ↔
      (∀ limit, limits.get? "cpu" = some limit → IsAtMost cpu limit) ∧
        ∀ limit, limits.get? "memory" = some limit → IsAtMost memory limit := by
  rw [← forall_cpu_memory_iff fun name request =>
    ∀ limit, limits.get? name = some limit → IsAtMost request limit]
  constructor
  · intro within name request asked limit given
    exact within name request limit asked given
  · intro within name request limit asked given
    exact within name request asked limit given

theorem areWithin_of_limits_iff {requests : Texts} :
    AreWithin requests (Dictionary.ofList [("cpu", cpu), ("memory", memory)]) ↔
      (∀ request, requests.get? "cpu" = some request → IsAtMost request cpu) ∧
        ∀ request, requests.get? "memory" = some request → IsAtMost request memory := by
  rw [← forall_cpu_memory_iff fun name limit =>
    ∀ request, requests.get? name = some request → IsAtMost request limit]
  constructor
  · intro within name limit given request asked
    exact within name request limit asked given
  · intro within name request limit asked given
    exact within name limit given request asked

end Defaults

theorem get?_of_isEmpty {amounts : Texts} (empty : amounts.isEmpty = true) (name : String) :
    amounts.get? name = none := by
  rw [Dictionary.get?, List.isEmpty_iff.mp empty]
  rfl

/-- The defaults of the two sides fit each other. -/
theorem areWithin_defaults :
    AreWithin (Dictionary.ofList [("cpu", "100m"), ("memory", "128Mi")])
      (Dictionary.ofList [("cpu", "500m"), ("memory", "512Mi")]) := by
  have cpu : IsAtMost "100m" "500m" :=
    ⟨⟨100000000⟩, ⟨500000000⟩, by decide +kernel, by decide +kernel, by decide⟩
  have memory : IsAtMost "128Mi" "512Mi" :=
    ⟨⟨134217728000000000⟩, ⟨536870912000000000⟩, by decide +kernel, by decide +kernel, by decide⟩
  rw [areWithin_of_requests_iff]
  constructor
  · intro limit given
    rcases get?_cpu_memory.mp given with ⟨_, rfl⟩ | ⟨other, _⟩
    · exact cpu
    · exact absurd other (by decide)
  · intro limit given
    rcases get?_cpu_memory.mp given with ⟨other, _⟩ | ⟨_, rfl⟩
    · exact absurd other (by decide)
    · exact memory

theorem isTaken_resources_iff_areWithin {spec : ResourceSpec} :
    IsTaken (resources spec) ↔
      AreWithin (amountsOr (Dictionary.ofList [("cpu", "100m"), ("memory", "128Mi")]) spec.requests)
        (amountsOr (Dictionary.ofList [("cpu", "500m"), ("memory", "512Mi")]) spec.limits) := by
  simp [IsTaken, resources]

/-! ## Filled resources -/

/-- Resources whose given requests are at most the given limits are taken, after the sides that are
empty have been filled, exactly if the limits leave room for the default requests where no requests
are given, and the requests stay within the default limits where no limits are given. -/
theorem resources_taken_iff_room {spec : ResourceSpec}
    (within : AreWithin spec.requests spec.limits) :
    IsTaken (resources spec) ↔
      (spec.requests.isEmpty = true →
        (∀ limit, spec.limits.get? "cpu" = some limit → IsAtMost "100m" limit) ∧
          ∀ limit, spec.limits.get? "memory" = some limit → IsAtMost "128Mi" limit) ∧
      (spec.limits.isEmpty = true →
        (∀ request, spec.requests.get? "cpu" = some request → IsAtMost request "500m") ∧
          ∀ request, spec.requests.get? "memory" = some request → IsAtMost request "512Mi") := by
  rw [isTaken_resources_iff_areWithin]
  cases noRequests : spec.requests.isEmpty with
  | true =>
      cases noLimits : spec.limits.isEmpty with
      | true =>
          simp [amountsOr, noRequests, noLimits, get?_of_isEmpty, areWithin_defaults]
      | false => simp [amountsOr, noRequests, noLimits, areWithin_of_requests_iff]
  | false =>
      cases noLimits : spec.limits.isEmpty with
      | true => simp [amountsOr, noRequests, noLimits, areWithin_of_limits_iff]
      | false => simp [amountsOr, noRequests, noLimits, within]

/-- Two processors leave room for the default request, and an amount of memory in another spelling
does so too. -/
theorem resources_taken_roomyLimits :
    IsTaken (resources { limits := Dictionary.ofList [("cpu", "2"), ("memory", "134217728")] }) := by
  have within : AreWithin Dictionary.empty
      (Dictionary.ofList [("cpu", "2"), ("memory", "134217728")]) := by
    intro name request limit given
    cases given
  refine (resources_taken_iff_room within).mpr ⟨fun _ => ⟨?_, ?_⟩, fun empty => by cases empty⟩
  · intro limit given
    cases given
    exact ⟨⟨100000000⟩, ⟨2000000000⟩, by decide +kernel, by decide +kernel, by decide⟩
  · intro limit given
    cases given
    exact ⟨⟨134217728000000000⟩, ⟨134217728000000000⟩, by decide +kernel, by decide +kernel,
      by decide⟩

/-- A small limit without requests is given a default request that exceeds it. -/
theorem exists_filled_not_taken :
    ∃ spec : ResourceSpec,
      (∀ name amount, spec.limits.get? name = some amount ∨ spec.requests.get? name = some amount →
        ∃ quantity, Quantity.parse amount = .ok quantity) ∧
      AreWithin spec.requests spec.limits ∧ ¬ IsTaken (resources spec) := by
  refine ⟨{ limits := Dictionary.ofList [("cpu", "50m")] }, ?_, ?_, ?_⟩
  · rintro name amount (given | given)
    · change (Dictionary.empty.insert "cpu" "50m").get? name = some amount at given
      by_cases isCpu : name = "cpu"
      · rw [isCpu, Dictionary.get?_insert_self] at given
        cases given
        exact ⟨⟨50000000⟩, by decide +kernel⟩
      · rw [Dictionary.get?_insert_of_ne isCpu] at given
        cases given
    · cases given
  · intro name request limit given
    cases given
  · intro taken
    have exceeds := taken _ _ rfl rfl "cpu" "100m" "50m" (by decide +kernel) (by decide +kernel)
    obtain ⟨least, most, requestRead, limitRead, fits⟩ := exceeds
    have request : Quantity.parse "100m" = .ok ⟨100000000⟩ := by decide +kernel
    have limit : Quantity.parse "50m" = .ok ⟨50000000⟩ := by decide +kernel
    rw [request] at requestRead
    rw [limit] at limitRead
    cases requestRead
    cases limitRead
    exact absurd fits (by decide)

end ClusterAudit.Template
