import ClusterAudit.Proofs.Image.Reference

/-!
The addresses of manifests, segment by segment. What stands in front of a repository's path, and
between it and the tag, is always complete. The path itself is just as complete as the name that is
read: a name with an empty part is read like any other, and its address then has an empty segment.
-/

namespace ClusterAudit

open Text

/-! ## Segments -/

/-- The parts of a text between slashes. -/
def segments (text : String) : List String :=
  (text.toList.splitOn '/').map String.ofList

theorem segments_append (first rest : String) :
    segments (first ++ "/" ++ rest) = segments first ++ segments rest := by
  have slashed : (first ++ "/" ++ rest).toList = first.toList ++ '/' :: rest.toList := by simp
  simp only [segments, slashed, List.splitOn_eq_splitOnP]
  rw [List.splitOnP_append_cons first.toList rest.toList (by decide), List.map_append]

theorem segments_of_notMem {text : String} (inside : '/' ∉ text.toList) :
    segments text = [text] := by
  rw [segments, List.splitOn_eq_singleton inside, List.map_singleton, String.ofList_toList]

/-- A path with something between any two slashes, before the first and after the last one. -/
structure IsPath (text : String) : Prop where
  filled : text ≠ ""
  segmentsFilled : "" ∉ segments text
  starts : text.toList.head? ≠ some '/'
  ends : text.toList.getLast? ≠ some '/'

theorem eq_slash_append {text : String} {rest : List Char} (starts : text.toList = '/' :: rest) :
    text = "" ++ "/" ++ String.ofList rest := by
  apply String.toList_inj.mp
  simp [starts]

theorem eq_append_slash {text : String} {first : List Char}
    (ends : text.toList = first ++ ['/']) : text = String.ofList first ++ "/" ++ "" := by
  apply String.toList_inj.mp
  simp [ends]

/-- An empty text is an empty segment, and a slash at an end of a text has one beside it. -/
theorem isPath_iff {text : String} : IsPath text ↔ "" ∉ segments text := by
  have single : segments "" = [""] := by decide
  constructor
  · exact IsPath.segmentsFilled
  · intro complete
    refine ⟨?_, complete, ?_, ?_⟩
    · rintro rfl
      exact complete (single ▸ List.mem_singleton_self _)
    · intro slash
      obtain ⟨rest, starts⟩ := List.head?_eq_some_iff.mp slash
      rw [eq_slash_append starts, segments_append, single] at complete
      exact complete List.mem_cons_self
    · intro slash
      obtain ⟨first, ends⟩ := List.getLast?_eq_some_iff.mp slash
      rw [eq_append_slash ends, segments_append, single] at complete
      exact complete (List.mem_append_right _ List.mem_cons_self)

namespace ImageReference

variable {name tag : String} {reference : ImageReference}

/-! ## Registries -/

theorem slash_notMem_registryOf {host : String} (inside : '/' ∉ host.toList) :
    '/' ∉ (registryOf host).toList := by
  rw [registryOf]
  split
  · decide
  · exact inside

theorem slash_notMem_locate (name : String) : '/' ∉ (locate name).1.toList := by
  have hubInside : '/' ∉ hub.toList := by decide
  by_cases slashed : '/' ∈ name.toList
  · obtain ⟨first, rest, parts, inside⟩ := List.eq_append_cons_of_mem slashed
    rw [locate_of_parts parts inside]
    split
    · exact slash_notMem_registryOf (by rwa [String.toList_ofList])
    · exact hubInside
  · rw [locate_of_notMem slashed]
    exact hubInside

theorem slash_notMem_registry (read : parse name tag = .ok reference) :
    '/' ∉ reference.registry.toList := by
  rw [eq_of_parse read]
  dsimp only
  exact slash_notMem_locate (trim name)

theorem ne_empty_of_isHost {host : String} (isHostName : isHost host.toList = true) :
    host ≠ "" := by
  rintro rfl
  exact absurd isHostName (by decide)

/-! ## Paths -/

/-- A name is as complete as the path that it stands for: all that either of them has in front of
the other is a host, or the part that short names are completed by. -/
theorem isPath_locate_iff (name : String) : IsPath (locate name).2 ↔ IsPath name := by
  by_cases slashed : '/' ∈ name.toList
  · obtain ⟨first, rest, parts, inside⟩ := List.eq_append_cons_of_mem slashed
    rw [locate_of_parts parts inside]
    split
    · next isHostName =>
        have whole : name = String.ofList first ++ "/" ++ String.ofList rest := by
          apply String.toList_inj.mp
          simp [parts]
        have host : segments (String.ofList first) = [String.ofList first] :=
          segments_of_notMem (by rwa [String.toList_ofList])
        have hostFilled : String.ofList first ≠ "" :=
          ne_empty_of_isHost (by rwa [String.toList_ofList])
        rw [isPath_iff, isPath_iff, whole, segments_append, host]
        simp [hostFilled.symm]
    · exact Iff.rfl
  · have single : segments name = [name] := segments_of_notMem slashed
    have library : segments "library" = ["library"] := by decide
    have completed : segments ("library/" ++ name) = ["library", name] := by
      change segments ("library" ++ "/" ++ name) = _
      rw [segments_append, library, single]
      rfl
    rw [locate_of_notMem slashed, isPath_iff, isPath_iff, completed, single]
    simp

theorem isPath_repository_iff (read : parse name tag = .ok reference) :
    IsPath reference.repository ↔ IsPath reference.name := by
  rw [eq_of_parse read]
  dsimp only
  exact isPath_locate_iff (trim name)

/-! ## Addresses -/

theorem segments_scheme (reference : ImageReference) :
    segments (reference.scheme ++ ":") = [reference.scheme ++ ":"] := by
  rw [scheme]
  split
  · decide
  · decide

theorem segments_manifestUrl (inside : '/' ∉ reference.registry.toList) :
    segments reference.manifestUrl =
      [reference.scheme ++ ":", "", reference.registry, "v2"] ++ segments reference.repository ++
        "manifests" :: segments reference.tag := by
  have parted : reference.manifestUrl =
      reference.scheme ++ ":" ++ "/" ++ "" ++ "/" ++ reference.registry ++ "/" ++ "v2" ++ "/" ++
        reference.repository ++ "/" ++ "manifests" ++ "/" ++ reference.tag := by
    apply String.toList_inj.mp
    simp [manifestUrl]
  have fixed : segments "" = [""] ∧ segments "v2" = ["v2"] ∧
      segments "manifests" = ["manifests"] := by decide
  rw [parted]
  simp only [segments_append, segments_scheme, segments_of_notMem inside, fixed, List.append_assoc,
    List.cons_append, List.nil_append]

/-- What is read has a registry and a tag, and its path is complete exactly if its name is. The
address of its manifest consists of these, each in its place. So behind the scheme no segment of it
is empty exactly if the name is complete and no part of the tag is empty. -/
theorem manifestUrl_complete_iff (read : parse name tag = .ok reference) :
    reference.registry ≠ "" ∧ reference.tag ≠ "" ∧
      (IsPath reference.repository ↔ IsPath reference.name) ∧
      segments reference.manifestUrl =
        [reference.scheme ++ ":", "", reference.registry, "v2"] ++
          segments reference.repository ++ "manifests" :: segments reference.tag ∧
      ("" ∉ (segments reference.manifestUrl).drop 2 ↔
        IsPath reference.name ∧ "" ∉ segments reference.tag) := by
  have registryFilled : reference.registry ≠ "" := ne_empty_of_isHost (isHost_registry read)
  have tagFilled : reference.tag ≠ "" := by
    rw [eq_of_parse read]
    exact (isAccepted_of_parse read).tagged
  have address := segments_manifestUrl (slash_notMem_registry read)
  refine ⟨registryFilled, tagFilled, isPath_repository_iff read, address, ?_⟩
  rw [← isPath_repository_iff read, isPath_iff, address]
  simp [registryFilled.symm]

/-- A name with a host and a path. -/
theorem manifestUrl_complete_scanner :
    parse "ghcr.io/microscaler/audit-scanner" "latest" =
        .ok ⟨"ghcr.io/microscaler/audit-scanner", "ghcr.io", "microscaler/audit-scanner",
          "latest"⟩ ∧
      IsPath "microscaler/audit-scanner" := by
  have read : parse "ghcr.io/microscaler/audit-scanner" "latest" =
      .ok ⟨"ghcr.io/microscaler/audit-scanner", "ghcr.io", "microscaler/audit-scanner",
        "latest"⟩ := by decide
  obtain ⟨_, _, path, _, _⟩ := manifestUrl_complete_iff read
  exact ⟨read, path.mpr (isPath_iff.mpr (by decide))⟩

/-- A host without a path is read, and the path in the address is then empty. -/
theorem exists_pathless :
    ∃ reference, parse "ghcr.io/" "latest" = .ok reference ∧ reference.repository = "" ∧
      ¬ IsPath reference.repository ∧
      segments reference.manifestUrl =
        ["https:", "", "ghcr.io", "v2", "", "manifests", "latest"] := by
  have read : parse "ghcr.io/" "latest" = .ok ⟨"ghcr.io/", "ghcr.io", "", "latest"⟩ := by decide
  exact ⟨_, read, rfl, fun path => path.filled rfl, by decide⟩

end ImageReference

end ClusterAudit
