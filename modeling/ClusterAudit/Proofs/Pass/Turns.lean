import ClusterAudit.Proofs.Log
import ClusterAudit.Proofs.Pass.Lockstep
import Mathlib.Logic.Function.Iterate

/-!
Passes that take turns. A turn is one call, one request for an image or one note. Of two passes that
keep step one runs alone and the other one among passes over other configurations. When both take a
turn, they leave alike what their configuration reaches; when another pass does, it leaves all that
they look at as it was.
-/

namespace ClusterAudit

open Store

namespace Pass

variable {Result : Type}

/-- A pass and its store after one more turn. A pass that has ended stays as it is. -/
def turn (images : ImageSource) : Pass Result × Store → Pass Result × Store
  | (.call request next, store) => (next (store.answer request).1, (store.answer request).2)
  | (.image request next, store) => (next (images request), store)
  | (.note _ next, store) => (next, store)
  | (ended, store) => (ended, store)

def ending? : Pass Result → Option (Ending Result)
  | .done result => some (.done result)
  | .fail error => some (.failed error)
  | .crash => some .crashed
  | _ => none

/-- After some turns and from then on a pass has ended as if it had run at once. -/
def EndsAfter (images : ImageSource) (pass : Pass Result) (store : Store) (enough : Nat) : Prop :=
  ∀ turns, enough ≤ turns →
    ((turn images)^[turns] (pass, store)).1.ending? = some (pass.runOn images store).1 ∧
      ((turn images)^[turns] (pass, store)).2 = (pass.runOn images store).2

section

variable {images : ImageSource} {pass left : Pass Result} {store after : Store}

theorem endsAfter_zero (ended : turn images (pass, store) = (pass, store))
    (ending : pass.ending? = some (pass.runOn images store).1)
    (unchanged : store = (pass.runOn images store).2) : EndsAfter images pass store 0 := by
  intro turns _
  rw [Function.iterate_fixed ended]
  exact ⟨ending, unchanged⟩

theorem endsAfter_succ {enough : Nat} (turned : turn images (pass, store) = (left, after))
    (ran : pass.runOn images store = left.runOn images after)
    (ends : EndsAfter images left after enough) : EndsAfter images pass store (enough + 1) := by
  intro turns within
  obtain ⟨rest, rfl⟩ := Nat.exists_eq_add_of_le' within
  rw [← Nat.add_assoc, Function.iterate_succ_apply, turned, ran]
  exact ends _ (Nat.le_add_left enough rest)

end

theorem exists_endsAfter (images : ImageSource) (pass : Pass Result) (store : Store) :
    ∃ enough, EndsAfter images pass store enough := by
  induction pass generalizing store with
  | done result => exact ⟨0, endsAfter_zero rfl rfl rfl⟩
  | fail error => exact ⟨0, endsAfter_zero rfl rfl rfl⟩
  | crash => exact ⟨0, endsAfter_zero rfl rfl rfl⟩
  | call request next inductionHypothesis =>
      obtain ⟨enough, ends⟩ := inductionHypothesis (store.answer request).1
        (store.answer request).2
      exact ⟨enough + 1, endsAfter_succ rfl rfl ends⟩
  | image request next inductionHypothesis =>
      obtain ⟨enough, ends⟩ := inductionHypothesis (images request) store
      exact ⟨enough + 1, endsAfter_succ rfl rfl ends⟩
  | note feature next inductionHypothesis =>
      obtain ⟨enough, ends⟩ := inductionHypothesis store
      exact ⟨enough + 1, endsAfter_succ rfl rfl ends⟩

theorem InStep.ending?_eq {images : ImageSource} {owner : Owner} {before : Store}
    {written : List Kind} {pass other : Pass Result} {ending : Ending Result}
    (inStep : InStep images owner before (fun _ result same => same = result) written pass other)
    (ended : pass.ending? = some ending) : other.ending? = some ending := by
  cases inStep with
  | done same => rw [same, ended]
  | fail => exact ended
  | crash => exact ended
  | _ => cases ended

end Pass

/-! ## What a pass relies on -/

namespace Owner

variable {owner other : Owner} {before store after : Store} {written : List Kind} {kind : Kind}
  {key : Key}

/-- What a pass that has started on one store relies on in a later one: what it may look at and has
not written is as it was, and no scan carries its labels that it does not reach. -/
structure Since (owner : Owner) (before : Store) (written : List Kind) (store : Store) : Prop where
  faults : store.faults = []
  foreign : ∀ kind key, kind.isForeign = true → store.find? kind key = before.find? kind key
  unwritten : ∀ kind key, owner.Reaches before kind key → kind ∉ written →
    store.find? kind key = before.find? kind key
  unmarked : ∀ key stored, key.namespaceName = owner.namespaceName →
    ¬ owner.Reaches before .cronJob key → store.find? .cronJob key = some stored →
    owner.marks .nodes stored.metadata = false

/-- A pass over a configuration has changed only what it reaches. The scans that it has put there
carry its labels. -/
structure Touches (owner : Owner) (before store after : Store) : Prop where
  faults : after.faults = store.faults
  elsewhere : ∀ kind key, ¬ owner.Reaches before kind key →
    after.find? kind key = store.find? kind key
  marked : ∀ key stored, after.find? .cronJob key = some stored →
    store.find? .cronJob key = some stored ∨ owner.marks .nodes stored.metadata = true

theorem Touches.refl : owner.Touches before store store where
  faults := rfl
  elsewhere _ _ _ := rfl
  marked _ _ := Or.inl

theorem Touches.of_enacts {verb : Verb} {change : Option (Stored kind)}
    (reached : owner.Reaches before kind key) (enacts : Enacts store after verb kind key change)
    (marked : kind = .cronJob → ∀ put ∈ change, owner.marks .nodes put.metadata = true) :
    owner.Touches before store after where
  faults := enacts.faults
  elsewhere := by
    intro other place unreached
    apply enacts.elsewhere
    rintro ⟨rfl, rfl⟩
    exact unreached reached
  marked := by
    intro place stored found
    by_cases here : Kind.cronJob = kind ∧ place = key
    · obtain ⟨rfl, rfl⟩ := here
      exact Or.inr (marked rfl stored (enacts.here.symm.trans found))
    · rw [enacts.elsewhere _ _ here] at found
      exact Or.inl found

theorem Names.namespaceName_eq (named : owner.Names before kind key)
    (namespaced : kind.isNamespaced = true) : key.namespaceName = owner.namespaceName := by
  cases named with
  | scan _ _ inNamespace => exact inNamespace
  | registration => cases namespaced
  | config | legacy | part | node => rfl

theorem Reaches.namespaceName_eq (reaches : owner.Reaches before kind key)
    (namespaced : kind.isNamespaced = true) : key.namespaceName = owner.namespaceName := by
  cases reaches with
  | named _ named => exact named.namespaceName_eq namespaced
  | displayed => rfl

/-- Where everything is stored under the name that it displays, a pass reaches only what belongs to
its configuration. -/
theorem Reaches.names (homed : ∀ kind key stored, kind.isNamespaced = true →
    before.find? kind key = some stored → stored.metadata.displayName = key.name)
    (reaches : owner.Reaches before kind key) : owner.Names before kind key := by
  cases reaches with
  | named _ named => exact named
  | displayed place stored namespaced named found =>
      have same : owner.key stored.metadata.displayName = place := by
        rw [homed kind place stored namespaced found, Owner.key,
          ← named.namespaceName_eq namespaced]
      rw [same]
      exact named

/-- No object carries the labels of two configurations of a namespace. -/
theorem marks_of_ne {metadata : Metadata} (marked : other.marks .nodes metadata = true)
    (different : owner.name ≠ other.name) : owner.marks .nodes metadata = false := by
  rw [Bool.eq_false_iff]
  intro both
  have carries : ∀ {owner : Owner}, owner.marks .nodes metadata = true →
      (metadata.labels.bind fun labels => labels.get? Labels.configKey) = some owner.name := by
    intro owner marked
    rw [Owner.marks, Labels.entries_ofComponent, Selector.isMatch, List.all_eq_true] at marked
    have carried := marked (Labels.configKey, owner.name) (by simp)
    simpa using carried
  exact different (Option.some.inj ((carries both).symm.trans (carries marked)))

theorem labelled_congr {component : Component}
    (same : ∀ key stored, key.namespaceName = owner.namespaceName →
      owner.marks component stored.metadata = true →
      (store.find? kind key = some stored ↔ before.find? kind key = some stored)) :
    owner.labelled component kind store = owner.labelled component kind before := by
  have inTable : ∀ store : Store, owner.labelled component kind store =
      ((store.tables kind).filter fun key stored => owner.marks component stored.metadata &&
        key.namespaceName == owner.namespaceName).values := by
    intro store
    simp only [labelled, among, Dictionary.values, Dictionary.filter, List.filter_map,
      List.filter_filter, Function.comp_def]
  rw [inTable, inTable]
  refine congrArg (List.map Prod.snd) (eq_of_mem_iff (Dictionary.increase _)
    (Dictionary.increase _) ?_)
  rintro ⟨key, stored⟩
  simp only [Dictionary.filter, List.mem_filter, Bool.and_eq_true, beq_iff_eq,
    Dictionary.mem_entries_iff]
  constructor
  · rintro ⟨found, marked, inNamespace⟩
    exact ⟨(same key stored inNamespace marked).mp found, marked, inNamespace⟩
  · rintro ⟨found, marked, inNamespace⟩
    exact ⟨(same key stored inNamespace marked).mpr found, marked, inNamespace⟩

namespace Since

variable (since : owner.Since before written store)

theorem refl (quiet : before.faults = []) : owner.Since before written before where
  faults := quiet
  foreign _ _ _ := rfl
  unwritten _ _ _ _ := rfl
  unmarked := by
    intro key stored inNamespace unreached found
    rw [Bool.eq_false_iff]
    intro marked
    exact unreached (.named _ (.scan key stored inNamespace found marked))

theorem drawn (quiet : before.faults = []) : owner.Since before written before.drawn where
  faults := quiet
  foreign _ _ _ := rfl
  unwritten _ _ _ _ := rfl
  unmarked := (refl quiet : owner.Since before written before).unmarked

include since

theorem get_eq (quiet : before.faults = [])
    (clear : kind.isForeign = true ∨ owner.Reaches before kind key ∧ kind ∉ written) :
    store.get kind key = before.get kind key := by
  have same : store.find? kind key = before.find? kind key := by
    rcases clear with isForeign | ⟨reached, unwritten⟩
    · exact since.foreign kind key isForeign
    · exact since.unwritten kind key reached unwritten
  simp only [Store.get, fault?_eq_none quiet, fault?_eq_none since.faults, same]

theorem list_eq (quiet : before.faults = []) (plain : Selector.isPlain owner.name = true)
    {namespaceName selector : String}
    (clear : kind.isForeign = true ∨ kind = .cronJob ∧ namespaceName = owner.namespaceName ∧
      selector = owner.selector .nodes ∧ kind ∉ written) :
    store.list kind namespaceName selector = before.list kind namespaceName selector := by
  have same : store.selected kind namespaceName selector =
      before.selected kind namespaceName selector := by
    rcases clear with isForeign | ⟨rfl, rfl, rfl, unwritten⟩
    · exact selected_congr (fun key => since.foreign kind key isForeign) _ _
    · rw [Pass.Nodes.selected_eq_labelled plain, Pass.Nodes.selected_eq_labelled plain]
      apply labelled_congr
      intro key stored inNamespace marked
      by_cases reached : owner.Reaches before .cronJob key
      · rw [since.unwritten _ _ reached unwritten]
      · -- Neither store has a marked scan where the pass does not reach.
        constructor
        · intro found
          rw [since.unmarked key stored inNamespace reached found] at marked
          cases marked
        · intro found
          exact absurd (.named _ (.scan key stored inNamespace found marked)) reached
  simp only [list, fault?_eq_none quiet, fault?_eq_none since.faults]
  exact congrArg (fun found => List.mapM (fun stored => fits (Stored.read? stored)) found) same

/-- A write of the pass itself. -/
theorem enacts {verb : Verb} {change : Option (Stored kind)}
    (reached : owner.Reaches before kind key) (enacts : Enacts store after verb kind key change) :
    owner.Since before (kind :: written) after where
  faults := enacts.faults.trans since.faults
  foreign := by
    intro foreign place isForeign
    rw [enacts.elsewhere]
    · exact since.foreign foreign place isForeign
    · rintro ⟨rfl, _⟩
      rw [reached.not_isForeign] at isForeign
      cases isForeign
  unwritten := by
    intro unwritten place reachedToo clear
    rw [List.mem_cons, not_or] at clear
    rw [enacts.elsewhere _ _ fun same => clear.1 same.1]
    exact since.unwritten unwritten place reachedToo clear.2
  unmarked := by
    intro place stored inNamespace unreached found
    rw [enacts.elsewhere] at found
    · exact since.unmarked place stored inNamespace unreached found
    · rintro ⟨rfl, rfl⟩
      exact unreached reached

/-- What a pass over another configuration has done. -/
theorem others (touches : other.Touches before store after)
    (different : owner.configKey ≠ other.configKey)
    (apart : ∀ kind key, owner.Reaches before kind key → ¬ other.Reaches before kind key) :
    owner.Since before written after where
  faults := touches.faults.trans since.faults
  foreign := by
    intro kind key isForeign
    rw [touches.elsewhere]
    · exact since.foreign kind key isForeign
    · intro reached
      rw [reached.not_isForeign] at isForeign
      cases isForeign
  unwritten := by
    intro kind key reached clear
    rw [touches.elsewhere kind key (apart kind key reached)]
    exact since.unwritten kind key reached clear
  unmarked := by
    intro key stored inNamespace unreached found
    by_cases touched : other.Reaches before .cronJob key
    · rcases touches.marked key stored found with kept | marked
      · exact since.unmarked key stored inNamespace unreached kept
      · apply marks_of_ne marked
        intro sameName
        apply different
        rw [configKey, configKey, Owner.key, Owner.key, sameName, ← inNamespace,
          touched.namespaceName_eq rfl]
    · rw [touches.elsewhere _ _ touched] at found
      exact since.unmarked key stored inNamespace unreached found

end Since

end Owner

/-! ## Two passes at once -/

namespace Pass

variable {Result : Type} {images : ImageSource} {owner : Owner} {before : Store}
  {written : List Kind}

/-- A pass that runs alone and the same pass among others keep step, and what they reach is
alike. -/
structure Together (images : ImageSource) (owner : Owner) (before : Store) (written : List Kind)
    (alone shared : Pass Result × Store) : Prop where
  inStep : InStep images owner before (fun _ result other => other = result) written alone.1
    shared.1
  sinceAlone : owner.Since before written alone.2
  sinceShared : owner.Since before written shared.2
  alike : ∀ kind key, owner.Reaches before kind key →
    Stored.Alike (before.find? kind key) (alone.2.find? kind key) (shared.2.find? kind key)

/-- Both passes have gone on in the same way: they have made the same entries in the log, and the
one among others has changed nothing but what its configuration reaches. -/
structure Follows (images : ImageSource) (owner : Owner) (before : Store)
    (alone shared aloneAfter sharedAfter : Pass Result × Store) (entries : List LogEntry) :
    Prop where
  together : ∃ written, Together images owner before written aloneAfter sharedAfter
  logsAlone : Logs alone.2 aloneAfter.2 entries
  logsShared : Logs shared.2 sharedAfter.2 entries
  touches : owner.Touches before shared.2 sharedAfter.2

namespace Together

variable {alone shared : Pass Result × Store}
  (together : Together images owner before written alone shared)

include together

theorem still {next rest : Pass Result}
    (inStep : InStep images owner before (fun _ result other => other = result) written next rest) :
    Follows images owner before alone shared (next, alone.2) (rest, shared.2) [] where
  together := ⟨written, { together with inStep }⟩
  logsAlone := .refl
  logsShared := .refl
  touches := .refl

/-- Two calls that agree, with what follows their answers. -/
theorem of_pairs {Left Right : Type} {verb : Verb} {kind : Kind} {key : Key}
    {answers : Except ClusterError Left → Except ClusterError Right → Prop}
    {agree : Option (Stored kind) → Option (Stored kind) → Prop}
    {next : Except ClusterError Left → Pass Result} {rest : Except ClusterError Right → Pass Result}
    {left : Except ClusterError Left × Store} {right : Except ClusterError Right × Store}
    (reached : owner.Reaches before kind key)
    (pairs : Pairs verb kind key alone.2 shared.2 answers agree left right)
    (alike : ∀ change given, agree change given →
      Stored.Alike (before.find? kind key) change given)
    (marked : kind = .cronJob → ∀ change given, agree change given →
      ∀ put ∈ given, owner.marks .nodes put.metadata = true)
    (refused : ∀ error, InStep images owner before (fun _ result other => other = result) written
      (next (.error error)) (rest (.error error)))
    (answered : ∀ answer given, answers answer given →
      InStep images owner before (fun _ result other => other = result) (kind :: written)
        (next answer) (rest given)) :
    ∃ entries, Follows images owner before alone shared (next left.1, left.2)
      (rest right.1, right.2) entries := by
  cases pairs with
  | refused error => exact ⟨[], together.still (refused error)⟩
  | enacted answersAgree enacts enactsShared agreed =>
      refine ⟨_, {
        together := ⟨kind :: written, {
          inStep := answered _ _ answersAgree
          sinceAlone := together.sinceAlone.enacts reached enacts
          sinceShared := together.sinceShared.enacts reached enactsShared
          alike := ?_ }⟩
        logsAlone := enacts.logs
        logsShared := enactsShared.logs
        touches := .of_enacts reached enactsShared fun isScan => marked isScan _ _ agreed }⟩
      intro otherKind place reachedToo
      by_cases here : otherKind = kind ∧ place = key
      · obtain ⟨rfl, rfl⟩ := here
        rw [enacts.here, enactsShared.here]
        exact alike _ _ agreed
      · rw [enacts.elsewhere _ _ here, enactsShared.elsewhere _ _ here]
        exact together.alike _ _ reachedToo

/-- Two passes that keep step still do so when both have taken a turn. -/
theorem turn (quiet : before.faults = []) (plain : Selector.isPlain owner.name = true) :
    ∃ entries, Follows images owner before alone shared (Pass.turn images alone)
      (Pass.turn images shared) entries := by
  obtain ⟨pass, left⟩ := alone
  obtain ⟨other, right⟩ := shared
  have labelled : ∀ {metadata offered : Metadata}, metadata.labels = offered.labels →
      owner.marks .nodes offered = true → owner.marks .nodes metadata = true := by
    intro metadata offered same marked
    rwa [Owner.marks, same]
  have quietLeft : left.faults = [] := together.sinceAlone.faults
  have quietRight : right.faults = [] := together.sinceShared.faults
  cases together.inStep with
  | done same => exact ⟨[], together.still (.done same)⟩
  | fail => exact ⟨[], together.still .fail⟩
  | crash => exact ⟨[], together.still .crash⟩
  | image rest => exact ⟨[], together.still rest⟩
  | note rest => exact ⟨[], together.still rest⟩
  | get clear rest =>
      refine ⟨[], together.still ?_⟩
      simp only [answer]
      rw [together.sinceAlone.get_eq quiet clear, together.sinceShared.get_eq quiet clear]
      exact rest
  | list clear rest =>
      refine ⟨[], together.still ?_⟩
      simp only [answer]
      rw [together.sinceAlone.list_eq quiet plain clear,
        together.sinceShared.list_eq quiet plain clear]
      exact rest
  | create reached clear alike marked refused unfit made =>
      have same := together.alike _ _ reached
      refine together.of_pairs reached
        (create_pairs quietLeft quietRight alike rfl same.isSome_eq) ?_ ?_ refused ?_
      · rintro change given ⟨free, timeless, _⟩
        refine { timeless, uid := ?_ }
        intro was
        rw [← together.sinceAlone.unwritten _ _ reached clear, free] at was
        cases was
      · rintro isScan change given ⟨_, _, labels⟩ put isPut
        exact labelled (labels put isPut) (marked isScan)
      · rintro _ _ (⟨one, two⟩ | _)
        · exact made one two
        · exact unfit
  | replace reached clear alike marked refused unfit made =>
      have same := (together.sinceAlone.unwritten _ _ reached clear).trans
        (together.sinceShared.unwritten _ _ reached clear).symm
      refine together.of_pairs reached (replace_pairs quietLeft quietRight alike same) ?_ ?_
        refused ?_
      · rintro change given ⟨timeless, uid, _⟩
        exact { timeless, uid := fun _ => uid }
      · rintro isScan change given ⟨_, _, labels⟩ put isPut
        exact labelled (labels put isPut) (marked isScan)
      · rintro _ _ (⟨one, two⟩ | _)
        · exact made one two
        · exact unfit
  | delete reached refused deleted =>
      have same := together.alike _ _ reached
      refine together.of_pairs reached (delete_pairs quietLeft quietRight same.isSome_eq) ?_ ?_
        refused ?_
      · rintro change given ⟨rfl, rfl⟩
        exact .refl
      · rintro _ change given ⟨_, rfl⟩ put isPut
        cases isPut
      · rintro _ _ ⟨rfl, rfl⟩
        exact deleted
  | patchStatus reached alike refused patched =>
      refine together.of_pairs reached
        (patchStatus_pairs quietLeft quietRight alike (together.alike _ _ reached))
        (fun _ _ => id) (fun isScan => by cases isScan) refused ?_
      rintro _ _ ⟨rfl, rfl⟩
      exact patched

end Together

end Pass

end ClusterAudit
