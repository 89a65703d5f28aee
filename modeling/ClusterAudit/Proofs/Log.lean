import ClusterAudit.Proofs.Pass.Calls
import ClusterAudit.Proofs.Pass.Run

/-!
What the log tells of a pass that runs alone. Every call that changes the cluster is written into
the log, and what the log does not name has not changed. So what a pass may have done is told by the
calls that it makes in its run.
-/

namespace ClusterAudit

/-- What the log says of a call once it has gone through. Calls that read leave no entry. -/
def Call.entry? : Call → Option LogEntry
  | .get _ _ => none
  | .list _ _ _ => none
  | .create kind namespaceName object =>
      some { verb := .create, kind, key := { namespaceName, name := object.metadata.name.getD "" } }
  | .replace kind key _ => some { verb := .replace, kind, key }
  | .delete kind key => some { verb := .delete, kind, key }
  | .patchStatus kind key _ => some { verb := .patchStatus, kind, key }

namespace Store

variable {store before middle after : Store} {earlier later entries : List LogEntry}

/-- `after` has some entries more in its log than `before`, and differs from it at most at the
places that they name. -/
structure Logs (before after : Store) (entries : List LogEntry) : Prop where
  log : after.log = before.log ++ entries
  elsewhere : ∀ kind key, (∀ entry ∈ entries, ¬ (entry.kind = kind ∧ entry.key = key)) →
    after.find? kind key = before.find? kind key
  faults : after.faults = before.faults

namespace Logs

theorem refl : Logs store store [] where
  log := (List.append_nil _).symm
  elsewhere _ _ _ := rfl
  faults := rfl

theorem trans (first : Logs before middle earlier) (second : Logs middle after later) :
    Logs before after (earlier ++ later) where
  log := by rw [second.log, first.log, List.append_assoc]
  elsewhere := by
    intro kind key unnamed
    have unnamedFirst := fun entry member => unnamed entry (List.mem_append_left later member)
    have unnamedSecond := fun entry member => unnamed entry (List.mem_append_right earlier member)
    exact (second.elsewhere kind key unnamedSecond).trans (first.elsewhere kind key unnamedFirst)
  faults := second.faults.trans first.faults

theorem unique {others : List LogEntry} (logs : Logs before after entries)
    (logsOthers : Logs before after others) : entries = others :=
  List.append_cancel_left (logs.log.symm.trans logsOthers.log)

end Logs

theorem Enacts.logs {verb : Verb} {kind : Kind} {key : Key} {stored : Option (Stored kind)}
    (enacts : Enacts before after verb kind key stored) :
    Logs before after [{ verb, kind, key }] where
  log := enacts.log
  elsewhere := by
    intro other place unnamed
    apply enacts.elsewhere other place
    rintro ⟨rfl, rfl⟩
    exact unnamed _ List.mem_cons_self ⟨rfl, rfl⟩
  faults := enacts.faults

/-! ## Single calls -/

/-- A call that may change the cluster is refused, or goes through and is written into the log. -/
theorem refuses_or_logs (store : Store) {request : Call} {entry : LogEntry}
    (mutates : request.entry? = some entry) :
    store.Refuses request ∨ Logs store (store.answer request).2 [entry] := by
  cases request with
  | get kind key => cases mutates
  | list kind namespaceName selector => cases mutates
  | create kind namespaceName object =>
      cases mutates
      refine (store.create_cases kind namespaceName object).imp id ?_
      rintro ⟨_, _, enacts⟩
      exact enacts.logs
  | replace kind key object =>
      cases mutates
      refine (store.replace_cases kind key object).imp id ?_
      rintro ⟨_, _, enacts⟩
      exact enacts.logs
  | delete kind key =>
      cases mutates
      exact (store.delete_cases kind key).imp id Enacts.logs
  | patchStatus kind key patch =>
      cases mutates
      refine (store.patchStatus_cases kind key patch).imp id ?_
      rintro ⟨_, _, enacts⟩
      exact enacts.logs

theorem answer_of_reading (store : Store) {request : Call} (reads : request.entry? = none) :
    (store.answer request).2 = store := by
  cases request with
  | get kind key => rfl
  | list kind namespaceName selector => rfl
  | create kind namespaceName object => cases reads
  | replace kind key object => cases reads
  | delete kind key => cases reads
  | patchStatus kind key patch => cases reads

/-- A call leaves its own entry in the log, or none. -/
theorem exists_logs_answer (store : Store) (request : Call) :
    ∃ entries, Logs store (store.answer request).2 entries ∧
      ∀ entry ∈ entries, request.entry? = some entry := by
  cases mutates : request.entry? with
  | none =>
      rw [store.answer_of_reading mutates]
      exact ⟨[], .refl, nofun⟩
  | some entry =>
      rcases store.refuses_or_logs mutates with refused | logs
      · rw [refused.1]
        exact ⟨[], .refl, nofun⟩
      · refine ⟨[entry], logs, ?_⟩
        intro other member
        rw [List.mem_singleton.mp member]

theorem faults_answer (store : Store) (request : Call) :
    (store.answer request).2.faults = store.faults := by
  obtain ⟨_, logs, _⟩ := store.exists_logs_answer request
  exact logs.faults

/-- A call leaves all places but the one that it names. -/
theorem find?_answer_of_elsewhere {request : Call} {kind : Kind} {key : Key}
    (elsewhere : ¬ ∃ entry, request.entry? = some entry ∧ entry.kind = kind ∧ entry.key = key) :
    (store.answer request).2.find? kind key = store.find? kind key := by
  obtain ⟨_, logs, written⟩ := store.exists_logs_answer request
  apply logs.elsewhere
  rintro entry member ⟨sameKind, sameKey⟩
  exact elsewhere ⟨entry, written entry member, sameKind, sameKey⟩

/-- A call that goes through and may change the cluster is written into the log. -/
theorem logs_of_answer_ok {request : Call} {entry : LogEntry} {reply : request.Reply}
    (mutates : request.entry? = some entry) (answered : store.answer request = (.ok reply, after)) :
    Logs store after [entry] := by
  rcases store.refuses_or_logs mutates with refused | logs
  · exact absurd answered refused.not_ok
  · rw [answered] at logs
    exact logs

end Store

/-! ## Runs -/

namespace Pass

open Store

variable {First Second Result : Type} {images : ImageSource} {allowed : Call → Prop}
  {store after : Store} {ending : Ending Result}

/-- All calls that a pass makes when it runs alone are allowed. -/
def RunsOnly (images : ImageSource) (allowed : Call → Prop) : Pass Result → Store → Prop
  | .done _, _ => True
  | .fail _, _ => True
  | .crash, _ => True
  | .call request next, store =>
      allowed request ∧ RunsOnly images allowed (next (store.answer request).1)
        (store.answer request).2
  | .image request next, store => RunsOnly images allowed (next (images request)) store
  | .note _ next, store => RunsOnly images allowed next store

theorem CallsOnly.runsOnly {pass : Pass Result} (calls : pass.CallsOnly allowed) (store : Store) :
    pass.RunsOnly images allowed store := by
  induction pass generalizing store with
  | done result => trivial
  | fail error => trivial
  | crash => trivial
  | call request next inductionHypothesis =>
      exact ⟨calls.1, inductionHypothesis _ (calls.2 _) _⟩
  | image request next inductionHypothesis => exact inductionHypothesis _ (calls _) store
  | note feature next inductionHypothesis => exact inductionHypothesis calls store

/-- What follows a part of a pass has to keep to the allowed calls only where that part has led. -/
theorem runsOnly_bind {first : Pass First} {second : First → Pass Second}
    (firstOnly : first.RunsOnly images allowed store)
    (secondOnly : ∀ value middle, first.runOn images store = (.done value, middle) →
      (second value).RunsOnly images allowed middle) :
    (first >>= second).RunsOnly images allowed store := by
  change (first.andThen second).RunsOnly images allowed store
  induction first generalizing store with
  | done value => exact secondOnly value store rfl
  | fail error => trivial
  | crash => trivial
  | call request next inductionHypothesis =>
      exact ⟨firstOnly.1, inductionHypothesis _ firstOnly.2 secondOnly⟩
  | image request next inductionHypothesis => exact inductionHypothesis _ firstOnly secondOnly
  | note feature next inductionHypothesis => exact inductionHypothesis firstOnly secondOnly

/-- The log of a run has an entry at most for each call, and names all that has changed. -/
theorem RunsOnly.exists_logs {pass : Pass Result} (runs : pass.RunsOnly images allowed store) :
    ∃ entries, Logs store (pass.runOn images store).2 entries ∧
      ∀ entry ∈ entries, ∃ request, allowed request ∧ request.entry? = some entry := by
  induction pass generalizing store with
  | done result => exact ⟨[], .refl, nofun⟩
  | fail error => exact ⟨[], .refl, nofun⟩
  | crash => exact ⟨[], .refl, nofun⟩
  | call request next inductionHypothesis =>
      obtain ⟨first, logsFirst, ofRequest⟩ := store.exists_logs_answer request
      obtain ⟨rest, logsRest, ofRest⟩ := inductionHypothesis _ runs.2
      refine ⟨first ++ rest, logsFirst.trans logsRest, ?_⟩
      intro entry member
      rcases List.mem_append.mp member with now | later
      · exact ⟨request, runs.1, ofRequest entry now⟩
      · exact ofRest entry later
  | image request next inductionHypothesis => exact inductionHypothesis _ runs
  | note feature next inductionHypothesis => exact inductionHypothesis runs

theorem callsOnly_true (pass : Pass Result) : pass.CallsOnly fun _ => True := by
  induction pass with
  | done result => trivial
  | fail error => trivial
  | crash => trivial
  | call request next inductionHypothesis => exact ⟨trivial, inductionHypothesis⟩
  | image request next inductionHypothesis => exact inductionHypothesis
  | note feature next inductionHypothesis => exact inductionHypothesis

/-- A run only adds to the log. -/
theorem exists_log_runOn (images : ImageSource) (pass : Pass Result) (store : Store) :
    ∃ entries, (pass.runOn images store).2.log = store.log ++ entries := by
  obtain ⟨entries, logs, _⟩ := (pass.callsOnly_true.runsOnly store).exists_logs
  exact ⟨entries, logs.log⟩

end Pass

end ClusterAudit
