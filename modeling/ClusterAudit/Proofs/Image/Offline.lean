import ClusterAudit.Image.Catalog
import ClusterAudit.Image.Registry
import ClusterAudit.Proofs.Image.Reference

/-!
Images that are resolved without a registry. A request that cannot be read, or whose tag is trusted
or is a digest, is answered from its name and tag alone. The catalog then answers just as the
exchange with a registry does, which sends nothing; so it can stand for it.
-/

namespace ClusterAudit

open Text ImageReference

/-! ## Answers without a registry -/

/-- The request cannot be read, or its tag is trusted or is a digest. -/
def ImageRequest.IsOffline (request : ImageRequest) : Prop :=
  (∃ error, ImageReference.parse request.name request.tag = .error error) ∨
    request.trustTag = true ∨ digestMark <+: (trim request.tag).toList

/-- The image of a name and a tag without blanks at their ends, or the text that is wrong with
them. -/
def offlineAnswer (name tag : String) : Except ImageError String :=
  if name = "" ∨ tag = "" then .error (.invalidReference (name ++ ":" ++ tag))
  else if '@' ∈ name.toList ∨ name.toList.any isBlank = true then .error (.invalidReference name)
  else if digestMark <+: tag.toList then .ok (name ++ "@" ++ tag)
  else .ok (name ++ ":" ++ tag)

/-- The image of a reference whose tag is trusted or is a digest. -/
def ImageReference.offlineImage (reference : ImageReference) : String :=
  if reference.isDigest then reference.pinned reference.tag else reference.tagged

section Answers

variable {request : ImageRequest} {reference : ImageReference}

theorem isDigest_iff :
    reference.isDigest = true ↔ digestMark <+: reference.tag.toList :=
  List.isPrefixOf_iff_prefix

theorem offlineAnswer_of_error {name tag : String} {error : ImageError}
    (unread : ImageReference.parse name tag = .error error) :
    offlineAnswer (trim name) (trim tag) = .error error := by
  simp only [ImageReference.parse] at unread
  split at unread
  · next unfilled =>
      rw [offlineAnswer, if_pos unfilled]
      cases unread
      rfl
  · next filled =>
      split at unread
      · next unfit =>
          have inside : '@' ∈ (trim name).toList ∨ (trim name).toList.any isBlank = true := by
            obtain ⟨character, member, mark | blank⟩ : ∃ character ∈ (trim name).toList,
                character = '@' ∨ isBlank character = true := by simpa using unfit
            · exact .inl (mark ▸ member)
            · exact .inr (List.any_eq_true.mpr ⟨character, member, blank⟩)
          rw [offlineAnswer, if_neg filled, if_pos inside]
          cases unread
          rfl
      · cases unread

theorem offlineAnswer_of_ok {name tag : String}
    (read : ImageReference.parse name tag = .ok reference) :
    offlineAnswer (trim name) (trim tag) = .ok reference.offlineImage := by
  have accepted := isAccepted_of_parse read
  have filled : ¬ (trim name = "" ∨ trim tag = "") := by
    simp [accepted.named, accepted.tagged]
  have plain : ¬ ('@' ∈ (trim name).toList ∨ (trim name).toList.any isBlank = true) := by
    rintro (mark | blank)
    · exact (accepted.plain '@' mark).1 rfl
    · obtain ⟨character, member, isBlankInside⟩ := List.any_eq_true.mp blank
      exact absurd isBlankInside (by simp [(accepted.plain character member).2])
  have sameName : trim name = reference.name := by rw [eq_of_parse read]
  have sameTag : trim tag = reference.tag := by rw [eq_of_parse read]
  rw [offlineAnswer, if_neg filled, if_neg plain, sameName, sameTag, offlineImage]
  by_cases digest : reference.isDigest = true
  · rw [if_pos digest, if_pos (isDigest_iff.mp digest)]
    rfl
  · rw [if_neg digest, if_neg fun mark => digest (isDigest_iff.mpr mark)]
    rfl

theorem isOffline_iff_of_parse
    (read : ImageReference.parse request.name request.tag = .ok reference) :
    request.IsOffline ↔ request.trustTag = true ∨ reference.isDigest = true := by
  have sameTag : trim request.tag = reference.tag := by rw [eq_of_parse read]
  simp [ImageRequest.IsOffline, read, sameTag, isDigest_iff]

/-! ## The two resolvers -/

theorem lookUp_ne_done {answer : Except ImageError String} :
    Exchange.lookUp reference ≠ .done answer := by
  rw [Exchange.lookUp, Exchange.ask]
  nofun

/-- A registry is left out of it exactly if the tag is trusted or is a digest. -/
theorem settled?_eq :
    request.settled? reference =
      if request.trustTag = true ∨ reference.isDigest = true then some reference.offlineImage
      else none := by
  rw [ImageRequest.settled?, offlineImage]
  cases reference.isDigest <;> cases request.trustTag <;> rfl

/-- The catalog looks at the trust first and at the tag twice, with the same outcome. -/
theorem imageOf_eq :
    ImageCatalog.imageOf request reference =
      if request.trustTag = true ∨ reference.isDigest = true then reference.offlineImage
      else reference.pinned (ImageCatalog.digestOf reference.name reference.tag) := by
  rw [ImageCatalog.imageOf, offlineImage]
  cases reference.isDigest <;> cases request.trustTag <;> rfl

theorem exchange_of_isOffline (offline : request.IsOffline) :
    Exchange.resolve request = .done (offlineAnswer (trim request.name) (trim request.tag)) := by
  cases read : ImageReference.parse request.name request.tag with
  | error error =>
      rw [offlineAnswer_of_error read, Exchange.resolve, read]
  | ok reference =>
      have settled := (isOffline_iff_of_parse read).mp offline
      rw [offlineAnswer_of_ok read]
      simp only [Exchange.resolve, read, settled?_eq, if_pos settled]

/-- Only an offline request is answered before anything is sent. -/
theorem isOffline_of_exchange {answer : Except ImageError String}
    (done : Exchange.resolve request = .done answer) : request.IsOffline := by
  cases read : ImageReference.parse request.name request.tag with
  | error error => exact .inl ⟨error, read⟩
  | ok reference =>
      rw [isOffline_iff_of_parse read]
      by_contra unsettled
      simp only [Exchange.resolve, read, settled?_eq, if_neg unsettled] at done
      exact lookUp_ne_done done

theorem catalog_of_isOffline (offline : request.IsOffline) {catalog : ImageCatalog}
    (running : catalog.outage = none) :
    (catalog.resolve request).1 = offlineAnswer (trim request.name) (trim request.tag) := by
  cases read : ImageReference.parse request.name request.tag with
  | error error =>
      rw [offlineAnswer_of_error read, ImageCatalog.resolve, read]
  | ok reference =>
      have settled := (isOffline_iff_of_parse read).mp offline
      rw [offlineAnswer_of_ok read]
      simp only [ImageCatalog.resolve, read, running, imageOf_eq, if_pos settled]

end Answers

/-! ## Defaults -/

/-- What an image is asked for: just as it is named, for a scanner, or for the operator. -/
inductive ImagePurpose where
  | given
  | scanner
  | operator
deriving DecidableEq, Repr

namespace ImagePurpose

/-- The request for a name and a tag. -/
def request : ImagePurpose → String → String → Bool → ImageRequest
  | given, name, tag, trustTag => { name, tag, trustTag }
  | scanner, name, tag, trustTag => ImageRequest.scanner name tag trustTag
  | operator, name, tag, trustTag => ImageRequest.operator name tag trustTag

/-- The name that a blank one stands for. -/
def defaultName : ImagePurpose → String
  | given => ""
  | scanner => "ghcr.io/microscaler/audit-scanner"
  | operator => "ghcr.io/microscaler/audit-operator"

/-- The tag that a blank one stands for. -/
def defaultTag : ImagePurpose → String
  | given => ""
  | scanner | operator => "latest"

/-- The name that is asked for, without blanks at its ends. -/
def nameFor (purpose : ImagePurpose) (name : String) : String :=
  if trim name = "" then purpose.defaultName else trim name

/-- The tag that is asked for, without blanks at its ends. -/
def tagFor (purpose : ImagePurpose) (tag : String) : String :=
  if trim tag = "" then purpose.defaultTag else trim tag

variable (purpose : ImagePurpose) (name tag : String) (trustTag : Bool)

theorem trim_unlessBlank {default : String} (solid : trim default = default) (text : String) :
    trim (ImageRequest.unlessBlank default text) =
      if trim text = "" then default else trim text := by
  rw [ImageRequest.unlessBlank]
  split
  · exact solid
  · exact trim_trim text

theorem trim_eq_ite (text : String) : trim text = if trim text = "" then "" else trim text := by
  split
  · assumption
  · rfl

theorem trim_request_name :
    trim (purpose.request name tag trustTag).name = purpose.nameFor name := by
  cases purpose with
  | given => exact trim_eq_ite name
  | scanner =>
      simp only [request, ImageRequest.scanner, nameFor, defaultName]
      rw [trim_unlessBlank (by decide)]
  | operator =>
      simp only [request, ImageRequest.operator, nameFor, defaultName]
      rw [trim_unlessBlank (by decide)]

theorem trim_request_tag :
    trim (purpose.request name tag trustTag).tag = purpose.tagFor tag := by
  cases purpose with
  | given => exact trim_eq_ite tag
  | scanner =>
      simp only [request, ImageRequest.scanner, tagFor, defaultTag]
      rw [trim_unlessBlank (by decide)]
  | operator =>
      simp only [request, ImageRequest.operator, tagFor, defaultTag]
      rw [trim_unlessBlank (by decide)]

/-- The exchange with a registry and a running catalog answer an offline request alike: by the text
that cannot be read, by a digest if the tag is one, or else by the tag, where a blank name or tag is
replaced by what it stands for. The exchange sends nothing then, and only then. -/
theorem resolvers_agree_offline :
    let request := purpose.request name tag trustTag
    let answer := offlineAnswer (purpose.nameFor name) (purpose.tagFor tag)
    (request.IsOffline → Exchange.resolve request = .done answer ∧
      ∀ catalog : ImageCatalog, catalog.outage = none → (catalog.resolve request).1 = answer) ∧
    ((∃ result, Exchange.resolve request = .done result) → request.IsOffline) := by
  intro request answer
  have sameAnswer : offlineAnswer (trim request.name) (trim request.tag) = answer := by
    rw [trim_request_name, trim_request_tag]
  constructor
  · intro offline
    rw [← sameAnswer]
    exact ⟨exchange_of_isOffline offline, fun catalog => catalog_of_isOffline offline⟩
  · rintro ⟨result, done⟩
    exact isOffline_of_exchange done

/-- A blank name and tag stand for the operator's own image. -/
theorem resolvers_agree_blank :
    (operator.request "" " " true).IsOffline ∧
      Exchange.resolve (operator.request "" " " true) =
        .done (.ok "ghcr.io/microscaler/audit-operator:latest") ∧
      (({} : ImageCatalog).resolve (operator.request "" " " true)).1 =
        .ok "ghcr.io/microscaler/audit-operator:latest" := by
  have offline : (operator.request "" " " true).IsOffline := .inr (.inl rfl)
  have answer : offlineAnswer (operator.nameFor "") (operator.tagFor " ") =
      .ok "ghcr.io/microscaler/audit-operator:latest" := by decide +kernel
  obtain ⟨exchange, catalog⟩ := (resolvers_agree_offline operator "" " " true).1 offline
  exact ⟨offline, exchange.trans (congrArg Exchange.done answer), (catalog {} rfl).trans answer⟩

end ImagePurpose

end ClusterAudit
