import ClusterAudit.Pass.Workloads
import ClusterAudit.Proofs.AuditConfig.Status
import ClusterAudit.Proofs.Cluster.Store
import ClusterAudit.Template.ScanApi

/-!
What two runs that do the same may leave different: the versions and identifiers that the cluster
gives, a token, the time of a restart and the times of conditions. Calls that agree but for these
have the same effect on stores that agree but for these.
-/

namespace ClusterAudit

open Json
open Template.Workloads (annotate restartedAtKey revisionKey)

/-! ## What is left out -/

/-- A table with no text under a key that it has. -/
def Dictionary.blank (table : Texts) (key : String) : Texts :=
  if (table.get? key).isSome then table.insert key "" else table

/-- A deployment without the time at which its pods were last made to restart. -/
def DeploymentSpec.timeless (spec : DeploymentSpec) : DeploymentSpec :=
  { spec with
    template := {
      spec.template with
      metadata := spec.template.metadata.map fun metadata =>
        { metadata with
          annotations := metadata.annotations.map fun annotations =>
            annotations.blank restartedAtKey } } }

/-- A secret without the token in it. -/
def SecretData.tokenless (content : SecretData) : SecretData :=
  { content with
    stringData := content.stringData.map fun texts => texts.blank Template.ScanApi.tokenKey }

namespace Json

def untimedCondition : Json → Json
  | obj members => obj (without ["lastUpdateTime", "lastTransitionTime"] members)
  | json => json

def untimedConditions : Json → Json
  | arr items => arr (items.map untimedCondition)
  | json => json

def untimedMember (name : String) (value : Json) : Json :=
  if name = "conditions" then untimedConditions value else value

/-- The document of a status without the times of its conditions. -/
def untimed : Json → Json
  | obj members => obj (members.map fun member => (member.1, untimedMember member.1 member.2))
  | json => json

end Json

namespace Kind

def timeless : (kind : Kind) → kind.Content → kind.Content
  | deployment, spec => spec.map DeploymentSpec.timeless
  | secret, content => SecretData.tokenless content
  | _, content => content

def untimed : Kind → Json → Json
  | auditConfig, status => status.untimed
  | _, status => status

end Kind

namespace Stored

variable {kind : Kind}

/-- A stored object without what differs from one run to another. -/
def timeless (stored : Stored kind) : Stored kind where
  metadata := { stored.metadata with uid := none, resourceVersion := none }
  content := kind.timeless stored.content
  status := stored.status.map kind.untimed

/-- What two runs have left at a place is the same but for what differs from one run to another. An
object that was there before has kept its identifier in both. -/
structure Alike (before left right : Option (Stored kind)) : Prop where
  timeless : left.map Stored.timeless = right.map Stored.timeless
  uid : before.isSome = true →
    left.map (fun stored => stored.metadata.uid) = right.map fun stored => stored.metadata.uid

namespace Alike

variable {before left right : Option (Stored kind)}

theorem refl : Alike before left left where
  timeless := rfl
  uid _ := rfl

theorem isSome_eq (alike : Alike before left right) : left.isSome = right.isSome := by
  have same := congrArg Option.isSome alike.timeless
  rwa [Option.isSome_map, Option.isSome_map] at same

end Alike

end Stored

/-- Two objects that a call is made with are the same but for a token or a time. -/
structure Object.Alike {kind : Kind} (left right : Object kind) : Prop where
  metadata : left.metadata = right.metadata
  content : kind.timeless (kind.contentInSeconds left.content) =
    kind.timeless (kind.contentInSeconds right.content)
  status : left.status = right.status

theorem Object.Alike.refl {kind : Kind} {object : Object kind} : object.Alike object where
  metadata := rfl
  content := rfl
  status := rfl

/-! ## Tokens and restarts -/

theorem Dictionary.get?_blank (table : Texts) (key other : String) :
    (table.blank key).get? other =
      if other = key then (table.get? key).map fun _ => "" else table.get? other := by
  rw [blank]
  by_cases same : other = key
  · subst same
    cases found : table.get? other <;> simp [found]
  · rw [if_neg same]
    split
    · exact get?_insert_of_ne same
    · rfl

theorem Dictionary.blank_congr {left right : Texts} {key : String}
    (present : (left.get? key).isSome = (right.get? key).isSome)
    (elsewhere : ∀ other, other ≠ key → left.get? other = right.get? other) :
    left.blank key = right.blank key := by
  apply ext_get?
  intro other
  rw [get?_blank, get?_blank]
  split
  · cases found : left.get? key <;> cases foundRight : right.get? key <;> simp_all
  · rename_i different
    exact elsewhere other different

theorem alike_tokenSecret (owner : Owner) (token other : String) :
    (Template.ScanApi.tokenSecret owner token).Alike
      (Template.ScanApi.tokenSecret owner other) where
  metadata := rfl
  content := by
    have single : ∀ text : String,
        Dictionary.ofList [(Template.ScanApi.tokenKey, text)] =
          Dictionary.empty.insert Template.ScanApi.tokenKey text := fun _ => rfl
    have blanked : (Dictionary.empty.insert Template.ScanApi.tokenKey token).blank
          Template.ScanApi.tokenKey =
        (Dictionary.empty.insert Template.ScanApi.tokenKey other).blank
          Template.ScanApi.tokenKey := by
      apply Dictionary.blank_congr
      · simp only [Dictionary.get?_insert_self, Option.isSome_some]
      · intro place different
        rw [Dictionary.get?_insert_of_ne different, Dictionary.get?_insert_of_ne different]
    simp only [Kind.timeless, Kind.contentInSeconds, Template.ScanApi.tokenSecret,
      SecretData.tokenless, Option.map_some, single, blanked]
  status := rfl

theorem alike_restarted (live : Deployment) (now later : Instant) (revision : String) :
    (Pass.Workloads.restarted live now revision).Alike
      (Pass.Workloads.restarted live later revision) := by
  have metadata : ∀ time : Instant,
      (Pass.Workloads.restarted live time revision).metadata = live.metadata := fun _ => rfl
  have status : ∀ time : Instant,
      (Pass.Workloads.restarted live time revision).status = live.status := fun _ => rfl
  refine {
    metadata := (metadata now).trans (metadata later).symm
    content := ?_
    status := (status now).trans (status later).symm }
  have different : restartedAtKey ≠ revisionKey := by decide
  have blanked : ∀ table : Texts,
      ((table.insert restartedAtKey now.toOffsetText).insert revisionKey revision).blank
          restartedAtKey =
        ((table.insert restartedAtKey later.toOffsetText).insert revisionKey revision).blank
          restartedAtKey := by
    intro table
    apply Dictionary.blank_congr
    · simp only [Dictionary.get?_insert_of_ne different, Dictionary.get?_insert_self,
        Option.isSome_some]
    · intro place elsewhere
      by_cases isRevision : place = revisionKey
      · rw [isRevision, Dictionary.get?_insert_self, Dictionary.get?_insert_self]
      · rw [Dictionary.get?_insert_of_ne isRevision, Dictionary.get?_insert_of_ne isRevision,
          Dictionary.get?_insert_of_ne elsewhere, Dictionary.get?_insert_of_ne elsewhere]
  simp [Kind.timeless, Kind.contentInSeconds, Pass.Workloads.restarted, annotate,
    PodTemplate.annotate, DeploymentSpec.timeless, DeploymentSpec.inSeconds,
    PodTemplate.inSeconds, Metadata.inSeconds, blanked]

/-! ## Statuses -/

namespace Condition

/-- What a condition says, without its times. -/
def report (condition : Condition) : ConditionUpdate where
  type := condition.type
  status := condition.status
  reason := condition.reason
  message := condition.message

theorem toJson_eq (condition : Condition) :
    condition.toJson = obj [
      ("lastTransitionTime", str condition.lastTransition.toText),
      ("lastUpdateTime", str condition.lastUpdate.toText),
      ("message", str condition.message),
      ("reason", str condition.reason),
      ("status", str condition.status.name),
      ("type", str condition.type.name)] := by
  have status : compare "status" "type" = .lt := by decide
  have reason : compare "reason" "status" = .lt := by decide
  have message : compare "message" "reason" = .lt := by decide
  have update : compare "lastUpdateTime" "message" = .lt := by decide
  have transition : compare "lastTransitionTime" "lastUpdateTime" = .lt := by decide
  simp only [toJson, ofMembers, List.foldl_cons, List.foldl_nil, insertEntry, status, reason,
    message, update, transition]

/-- The document of a condition without its times is what it says. -/
theorem exists_untimedCondition_toJson :
    ∃ write : ConditionUpdate → Json, ∀ condition : Condition,
      untimedCondition condition.toJson = write condition.report := by
  refine ⟨fun update => obj [
    ("message", str update.message),
    ("reason", str update.reason),
    ("status", str update.status.name),
    ("type", str update.type.name)], ?_⟩
  intro condition
  rw [toJson_eq]
  rfl

theorem report_updated {left right : Condition} (same : left.report = right.report)
    (update : ConditionUpdate) (policy : UpdatePolicy) (now later : Instant) :
    (left.updated update policy now).report = (right.updated update policy later).report := by
  obtain ⟨type, status, reason, message, _, _⟩ := left
  cases same
  simp only [updated]
  split
  · rfl
  · have sameTakes : ∀ first second : Instant, takesUpdate
        { right with lastUpdate := first, lastTransition := second } update policy =
          right.takesUpdate update policy := by
      intro first second
      cases policy <;> rfl
    rw [sameTakes]
    split <;> rfl

/-- What conditions say once they are set depends on no time. -/
theorem map_report_set {left right : List Condition} (same : left.map report = right.map report)
    (update : ConditionUpdate) (policy : UpdatePolicy) (now later : Instant) :
    (set left update policy now).map report = (set right update policy later).map report := by
  induction left generalizing right with
  | nil =>
      obtain rfl := List.map_eq_nil_iff.mp same.symm
      rfl
  | cons head rest inductionHypothesis =>
      cases right with
      | nil => cases same
      | cons other others =>
          obtain ⟨sameHead, sameRest⟩ := List.cons.inj same
          have sameType : head.type = other.type := congrArg ConditionUpdate.type sameHead
          rw [set, set, sameType]
          split
          · rw [List.map_cons, List.map_cons, report_updated sameHead update policy now later,
              show rest.map report = others.map report from sameRest]
          · rw [List.map_cons, List.map_cons, inductionHypothesis sameRest, sameHead]

theorem map_report_applyUpdates {left right : List Condition}
    (same : left.map report = right.map report) (updates : List ConditionUpdate)
    (now later : Instant) :
    (applyUpdates left updates now).map report = (applyUpdates right updates later).map report := by
  induction updates generalizing left right with
  | nil => exact same
  | cons update rest inductionHypothesis =>
      exact inductionHypothesis (map_report_set same update _ now later)

end Condition

/-- Two statuses name the same pods, and their conditions say the same. -/
structure AuditConfigStatus.Alike (left right : AuditConfigStatus) : Prop where
  conditions : left.conditions.map Condition.report = right.conditions.map Condition.report
  pods : left.pods = right.pods

namespace Json

theorem map_insertEntry (change : String → Json → Json) (name : String) (value : Json)
    (members : Members) :
    (insertEntry name value members).map (fun member => (member.1, change member.1 member.2)) =
      insertEntry name (change name value)
        (members.map fun member => (member.1, change member.1 member.2)) := by
  induction members with
  | nil => rfl
  | cons head rest inductionHypothesis =>
      obtain ⟨other, present⟩ := head
      rw [List.map_cons, insertEntry, insertEntry]
      cases compare name other <;> simp [inductionHypothesis]

theorem untimedConditions_eq {left right : AuditConfigStatus} (alike : left.Alike right) :
    untimedConditions (arr (left.conditions.map Condition.toJson)) =
      untimedConditions (arr (right.conditions.map Condition.toJson)) := by
  obtain ⟨write, writes⟩ := Condition.exists_untimedCondition_toJson
  have written : ∀ conditions : List Condition,
      (conditions.map Condition.toJson).map untimedCondition =
        (conditions.map Condition.report).map write := by
    intro conditions
    rw [List.map_map, List.map_map]
    exact List.map_congr_left fun condition _ => writes condition
  rw [untimedConditions, untimedConditions, written, written, alike.conditions]

/-- Statuses that are patched in the same way stay the same but for the times. -/
theorem untimed_patchedStatus {current other : Option Json} {left right : AuditConfigStatus}
    (same : current.map untimed = other.map untimed) (alike : left.Alike right) :
    untimed (Store.patchedStatus current left.toJson) =
      untimed (Store.patchedStatus other right.toJson) := by
  have patched : ∀ (members : Members) (status : AuditConfigStatus),
      untimed (mergePatch (obj members) status.toJson) =
        obj (insertEntry "pods" (ofStrings status.pods)
          (insertEntry "conditions"
            (untimedConditions (arr (status.conditions.map Condition.toJson)))
            (members.map fun member => (member.1, untimedMember member.1 member.2)))) := by
    intro members status
    rw [AuditConfigStatus.mergePatch_toJson, untimed, map_insertEntry, map_insertEntry]
    rfl
  -- What is no object counts as an empty one, with and without the times.
  have members : ∀ status : Option Json, ∃ members : Members,
      (∀ patch, Store.patchedStatus status patch = mergePatch (obj members) patch) ∧
      members.map (fun member => (member.1, untimedMember member.1 member.2)) =
        ((status.map untimed).bind asMembers?).getD [] := by
    intro status
    cases status with
    | none => exact ⟨[], fun _ => rfl, rfl⟩
    | some json => cases json <;> exact ⟨_, fun _ => rfl, rfl⟩
  obtain ⟨leftMembers, leftPatched, leftSame⟩ := members current
  obtain ⟨rightMembers, rightPatched, rightSame⟩ := members other
  rw [leftPatched, rightPatched, patched, patched, untimedConditions_eq alike, alike.pods, leftSame,
    rightSame, same]

end Json

/-! ## Calls -/

namespace Store

/-- Two calls have both given something, or both found that it does not fit. -/
inductive Answers {Left Right : Type} :
    Except ClusterError Left → Except ClusterError Right → Prop
  | ok (left : Left) (right : Right) : Answers (.ok left) (.ok right)
  | unfit : Answers (.error .unfit) (.error .unfit)

theorem answers_fits {Left Right : Type} {left : Option Left} {right : Option Right}
    (same : left.isSome = right.isSome) : Answers (fits left) (fits right) := by
  cases left with
  | none =>
      have none := Option.isSome_eq_false_iff.mp same.symm
      obtain rfl := Option.isNone_iff_eq_none.mp none
      exact .unfit
  | some value =>
      obtain ⟨other, rfl⟩ := Option.isSome_iff_exists.mp same.symm
      exact .ok value other

/-- Two calls on two stores are refused in the same way, or both go through with answers that fit
together and leave what agrees. -/
inductive Pairs {Left Right : Type} (verb : Verb) (kind : Kind) (key : Key) (left right : Store)
    (answers : Except ClusterError Left → Except ClusterError Right → Prop)
    (agree : Option (Stored kind) → Option (Stored kind) → Prop) :
    Except ClusterError Left × Store → Except ClusterError Right × Store → Prop
  | refused (error : ClusterError) :
      Pairs verb kind key left right answers agree (.error error, left) (.error error, right)
  | enacted {answer : Except ClusterError Left} {other : Except ClusterError Right}
      {leftAfter rightAfter : Store} {leftChange rightChange : Option (Stored kind)} :
      answers answer other → Enacts left leftAfter verb kind key leftChange →
      Enacts right rightAfter verb kind key rightChange → agree leftChange rightChange →
      Pairs verb kind key left right answers agree (answer, leftAfter) (other, rightAfter)

/-- Two calls that give nothing have both gone through. -/
def BothOk (answer other : Except ClusterError Unit) : Prop :=
  answer = .ok () ∧ other = .ok ()

section

variable {kind : Kind} {left right : Store} {key : Key} {object other : Object kind}
  (quiet : left.faults = []) (quietRight : right.faults = [])

theorem isSome_read?_of_status {stored given : Stored kind} (same : stored.status = given.status) :
    stored.read?.isSome = given.read?.isSome := by
  rw [Stored.read?, Stored.read?, same, Option.isSome_map, Option.isSome_map]

theorem timeless_stampedAt {stored given : Stored kind} (same : stored.timeless = given.timeless)
    (key : Key) (version later : Nat) :
    (stampedAt key version stored).timeless = (stampedAt key later given).timeless := by
  have stamped : ∀ (version : Nat) (stored : Stored kind),
      (stampedAt key version stored).timeless =
        { stored.timeless with
          metadata := {
            stored.timeless.metadata with
            namespaceName := if kind.isNamespaced then some key.namespaceName
              else stored.timeless.metadata.namespaceName } } := fun _ _ => rfl
  rw [stamped, stamped, same]

theorem timeless_identified (alike : object.Alike other) (uid later : Option String) :
    (Stored.ofObject (identified object uid)).timeless =
      (Stored.ofObject (identified other later)).timeless := by
  obtain ⟨metadata, content, status⟩ := object
  obtain ⟨metadataRight, contentRight, statusRight⟩ := other
  obtain ⟨rfl, sameContent, rfl⟩ := alike
  simp only [Stored.timeless, Stored.ofObject, identified, Object.inSeconds, Metadata.inSeconds,
    sameContent]

include quiet in
theorem create_enacts {namespaceName name : String} (named : object.metadata.name.getD "" = name)
    (filled : name ≠ "") (free : left.find? kind { namespaceName, name } = none) :
    ∃ uid after,
      left.create kind namespaceName object =
        (fits (stampedAt { namespaceName, name } (left.version + 1)
          (Stored.ofObject (identified object uid))).read?, after) ∧
      Enacts left after .create kind { namespaceName, name }
        (some (stampedAt { namespaceName, name } (left.version + 1)
          (Stored.ofObject (identified object uid)))) := by
  obtain ⟨uid, identifiers, marked⟩ := identify_eq left object
  have alters := alters_putStamped { left with identifiers } kind { namespaceName, name }
    (Stored.ofObject (identified object uid)) .create
  refine ⟨uid, _, ?_, {
    here := alters.here
    elsewhere := alters.elsewhere
    faults := alters.faults
    log := rfl
    version := rfl }⟩
  have found := alters.here
  simp only [create, named, filled, if_false, fault?_eq_none quiet, free, marked]
  exact congrArg (fun stored => (fits (stored.bind Stored.read?), _)) found

include quiet quietRight in
/-- Two creations agree where both places are free or both are taken. -/
theorem create_pairs (alike : object.Alike other) {namespaceName name : String}
    (named : object.metadata.name.getD "" = name)
    (same : (left.find? kind { namespaceName, name }).isSome =
      (right.find? kind { namespaceName, name }).isSome) :
    Pairs .create kind { namespaceName, name } left right Answers
      (fun stored given => left.find? kind { namespaceName, name } = none ∧
        stored.map Stored.timeless = given.map Stored.timeless ∧
        ∀ put ∈ given, put.metadata.labels = other.metadata.labels)
      (left.create kind namespaceName object) (right.create kind namespaceName other) := by
  have namedRight : other.metadata.name.getD "" = name := by rwa [← alike.metadata]
  by_cases filled : name = ""
  · have unnamed : ∀ {store : Store} {object : Object kind}, object.metadata.name.getD "" = name →
        store.create kind namespaceName object =
          (.error (.api 422 (kind.name ++ ": metadata.name is required")), store) := by
      intro store object named
      simp only [create, named, filled, if_true]
    rw [unnamed named, unnamed namedRight]
    exact .refused _
  · cases place : left.find? kind { namespaceName, name } with
    | some taken =>
        rw [place] at same
        obtain ⟨takenRight, placeRight⟩ := Option.isSome_iff_exists.mp same.symm
        have refused : ∀ {store : Store} {object : Object kind} {stored : Stored kind},
            store.faults = [] → object.metadata.name.getD "" = name →
            store.find? kind { namespaceName, name } = some stored →
            store.create kind namespaceName object =
              (.error (.alreadyExists (describe kind name)), store) := by
          intro store object stored quiet named place
          simp only [create, named, filled, if_false, fault?_eq_none quiet, place]
        rw [refused quiet named place, refused quietRight namedRight placeRight]
        exact .refused _
    | none =>
        rw [place] at same
        have placeRight := Option.isSome_eq_false_iff.mp same.symm
        rw [Option.isNone_iff_eq_none] at placeRight
        obtain ⟨uid, after, created, enacts⟩ := create_enacts quiet named filled place
        obtain ⟨uidRight, afterRight, createdRight, enactsRight⟩ :=
          create_enacts quietRight namedRight filled placeRight
        rw [created, createdRight]
        have sameStatus : (stampedAt { namespaceName, name } (left.version + 1)
              (Stored.ofObject (identified object uid))).status =
            (stampedAt { namespaceName, name } (right.version + 1)
              (Stored.ofObject (identified other uidRight))).status := by
          simp only [stampedAt, Stored.ofObject, identified, Object.inSeconds, alike.status]
        refine .enacted (answers_fits (isSome_read?_of_status sameStatus)) enacts enactsRight
          ⟨rfl, ?_, ?_⟩
        · rw [Option.map_some, Option.map_some, Option.some_inj]
          exact timeless_stampedAt (timeless_identified alike uid uidRight) _ _ _
        · intro put isPut
          cases isPut
          rfl

include quiet in
theorem replace_enacts {current : Stored kind} (place : left.find? kind key = some current)
    (fresh : isStale current object = false) :
    ∃ after,
      left.replace kind key object =
        (fits (stampedAt key (left.version + 1) (succeed current object)).read?, after) ∧
      Enacts left after .replace kind key
        (some (stampedAt key (left.version + 1) (succeed current object))) := by
  have alters := alters_putStamped left kind key (succeed current object) .replace
  refine ⟨_, ?_, { toAlters := alters, log := rfl, version := rfl }⟩
  simp only [replace, fault?_eq_none quiet, place, fresh, Bool.false_eq_true, if_false]
  exact congrArg (fun stored => (fits (stored.bind Stored.read?), _)) alters.here

theorem timeless_succeed (alike : object.Alike other) (current : Stored kind) :
    (succeed current object).timeless = (succeed current other).timeless ∧
      (succeed current object).metadata.uid = (succeed current other).metadata.uid ∧
      (succeed current object).status = (succeed current other).status := by
  obtain ⟨metadata, content, status⟩ := object
  obtain ⟨metadataRight, contentRight, statusRight⟩ := other
  obtain ⟨rfl, sameContent, rfl⟩ := alike
  refine ⟨?_, rfl, rfl⟩
  simp only [Stored.timeless, Stored.ofObject, succeed, Object.inSeconds, sameContent]

include quiet quietRight in
/-- Two replacements of one object agree. -/
theorem replace_pairs (alike : object.Alike other)
    (same : left.find? kind key = right.find? kind key) :
    Pairs .replace kind key left right Answers
      (fun stored given => stored.map Stored.timeless = given.map Stored.timeless ∧
        stored.map (fun stored => stored.metadata.uid) =
          given.map (fun stored => stored.metadata.uid) ∧
        ∀ put ∈ given, put.metadata.labels = other.metadata.labels)
      (left.replace kind key object) (right.replace kind key other) := by
  cases place : left.find? kind key with
  | none =>
      have absent : ∀ {store : Store} {object : Object kind}, store.faults = [] →
          store.find? kind key = none →
          store.replace kind key object =
            (.error (.notFound (describe kind key.name)), store) := by
        intro store object quiet place
        simp only [replace, fault?_eq_none quiet, place]
      rw [absent quiet place, absent quietRight (same ▸ place)]
      exact .refused _
  | some current =>
      have placeRight : right.find? kind key = some current := same ▸ place
      have sameStale : isStale current other = isStale current object := by
        rw [isStale, isStale, alike.metadata]
      cases stale : isStale current object with
      | true =>
          have refused : ∀ {store : Store} {object : Object kind}, store.faults = [] →
              store.find? kind key = some current → isStale current object = true →
              store.replace kind key object =
                (.error (.conflict (describe kind key.name ++ modifiedText)), store) := by
            intro store object quiet place stale
            simp only [replace, fault?_eq_none quiet, place, stale, if_true]
          rw [refused quiet place stale, refused quietRight placeRight (sameStale.trans stale)]
          exact .refused _
      | false =>
          obtain ⟨after, replaced, enacts⟩ := replace_enacts quiet place stale
          obtain ⟨afterRight, replacedRight, enactsRight⟩ :=
            replace_enacts quietRight placeRight (sameStale.trans stale)
          obtain ⟨sameTimeless, sameUid, sameStatus⟩ := timeless_succeed alike current
          rw [replaced, replacedRight]
          refine .enacted (answers_fits (isSome_read?_of_status sameStatus)) enacts enactsRight
            ⟨?_, ?_, ?_⟩
          · rw [Option.map_some, Option.map_some, Option.some_inj]
            exact timeless_stampedAt sameTimeless _ _ _
          · exact congrArg some sameUid
          · intro put isPut
            cases isPut
            rfl

include quiet in
theorem delete_enacts {stored : Stored kind} (place : left.find? kind key = some stored) :
    ∃ after, left.delete kind key = (.ok (), after) ∧
      Enacts left after .delete kind key none := by
  obtain ⟨after, deleted, _⟩ := delete_of_taken quiet place
  rcases left.delete_cases kind key with ⟨_, error, refused⟩ | enacts
  · rw [answer, deleted] at refused
    cases refused
  · rw [deleted] at enacts
    exact ⟨after, deleted, enacts⟩

include quiet quietRight in
/-- Two deletions agree where there is something in both stores or in none. -/
theorem delete_pairs (same : (left.find? kind key).isSome = (right.find? kind key).isSome) :
    Pairs .delete kind key left right BothOk (fun stored given => stored = none ∧ given = none)
      (left.delete kind key) (right.delete kind key) := by
  cases place : left.find? kind key with
  | none =>
      rw [place] at same
      have none := Option.isSome_eq_false_iff.mp same.symm
      rw [delete_of_free quiet place,
        delete_of_free quietRight (Option.isNone_iff_eq_none.mp none)]
      exact .refused _
  | some stored =>
      rw [place] at same
      obtain ⟨given, placeRight⟩ := Option.isSome_iff_exists.mp same.symm
      obtain ⟨after, deleted, enacts⟩ := delete_enacts quiet place
      obtain ⟨afterRight, deletedRight, enactsRight⟩ := delete_enacts quietRight placeRight
      rw [deleted, deletedRight]
      exact .enacted ⟨rfl, rfl⟩ enacts enactsRight ⟨rfl, rfl⟩

include quiet in
theorem patchStatus_enacts {stored : Stored kind} (patch : Json)
    (place : left.find? kind key = some stored) :
    ∃ after, left.patchStatus kind key patch = (.ok (), after) ∧
      Enacts left after .patchStatus kind key
        (some { stored with status := some (patchedStatus stored.status patch) }) := by
  obtain ⟨after, patched, _⟩ := patchStatus_of_taken quiet patch place
  rcases left.patchStatus_cases kind key patch with ⟨_, error, refused⟩ | ⟨current, found, enacts⟩
  · rw [answer, patched] at refused
    cases refused
  · cases place.symm.trans found
    rw [patched] at enacts
    exact ⟨after, patched, enacts⟩

/-- Objects that are alike stay so under reports of the same. -/
theorem alike_patchedStatus {before : Option (Stored .auditConfig)}
    {status later : AuditConfigStatus} {stored given : Stored .auditConfig}
    (alike : status.Alike later) (same : Stored.Alike before (some stored) (some given)) :
    Stored.Alike before
      (some { stored with status := some (patchedStatus stored.status status.toJson) })
      (some { given with status := some (patchedStatus given.status later.toJson) }) := by
  refine { timeless := ?_, uid := same.uid }
  have sameTimeless := same.timeless
  rw [Option.map_some, Option.map_some, Option.some_inj] at sameTimeless
  have sameStatus := congrArg Stored.status sameTimeless
  have metadata := congrArg Stored.metadata sameTimeless
  have content := congrArg Stored.content sameTimeless
  simp only [Stored.timeless] at sameStatus metadata content
  simp only [Option.map_some, Stored.timeless, metadata, content, Kind.untimed]
  rw [Json.untimed_patchedStatus sameStatus alike]

include quiet quietRight in
/-- Two reports of the same agree where the objects that they are on are alike. -/
theorem patchStatus_pairs {before : Option (Stored .auditConfig)} {status later : AuditConfigStatus}
    (alike : status.Alike later)
    (same : Stored.Alike before (left.find? .auditConfig key) (right.find? .auditConfig key)) :
    Pairs .patchStatus .auditConfig key left right BothOk (Stored.Alike before)
      (left.patchStatus .auditConfig key status.toJson)
      (right.patchStatus .auditConfig key later.toJson) := by
  have present := same.isSome_eq
  cases place : left.find? .auditConfig key with
  | none =>
      have absent : ∀ {store : Store} (patch : Json), store.faults = [] →
          store.find? .auditConfig key = none →
          store.patchStatus .auditConfig key patch =
            (.error (.notFound (describe .auditConfig key.name)), store) := by
        intro store patch quiet place
        simp only [patchStatus, fault?_eq_none quiet, place]
      rw [place] at present
      have none := Option.isSome_eq_false_iff.mp present.symm
      rw [absent _ quiet place, absent _ quietRight (Option.isNone_iff_eq_none.mp none)]
      exact .refused _
  | some stored =>
      rw [place] at present
      obtain ⟨given, placeRight⟩ := Option.isSome_iff_exists.mp present.symm
      obtain ⟨after, patched, enacts⟩ := patchStatus_enacts quiet status.toJson place
      obtain ⟨afterRight, patchedRight, enactsRight⟩ :=
        patchStatus_enacts quietRight later.toJson placeRight
      rw [place, placeRight] at same
      rw [patched, patchedRight]
      exact .enacted ⟨rfl, rfl⟩ enacts enactsRight (alike_patchedStatus alike same)

end

end Store

end ClusterAudit
