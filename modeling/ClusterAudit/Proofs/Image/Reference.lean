import ClusterAudit.Image.Reference
import ClusterAudit.Proofs.Text.Blank
import ClusterAudit.Proofs.Text.Mark

/-!
What references to images stand for. The names that the default registry goes by all lead to the
same registry, but only names with a slash keep their path when one of them is put in front. Of the
registries that can be read, exactly those whose host starts with that of the local machine are
reached without encryption, and this takes in hosts of other machines.
-/

namespace ClusterAudit

open Text

namespace ImageReference

/-! ## Reading -/

/-- A name and a tag that can be read. -/
structure IsAccepted (name tag : String) : Prop where
  named : trim name ≠ ""
  tagged : trim tag ≠ ""
  plain : ∀ character ∈ (trim name).toList, character ≠ '@' ∧ isBlank character = false

variable {name tag host : String} {reference short : ImageReference}

theorem parse_of_isAccepted (accepted : IsAccepted name tag) :
    parse name tag =
      .ok ⟨trim name, (locate (trim name)).1, (locate (trim name)).2, trim tag⟩ := by
  have plain : ((trim name).toList.any fun character =>
      character == '@' || isBlank character) = false := by
    simpa using accepted.plain
  simp [parse, accepted.named, accepted.tagged, plain]

/-- A blank inside a name makes it unreadable. -/
theorem parse_of_blank (named : trim name ≠ "") (tagged : trim tag ≠ "")
    (blank : ∃ character ∈ (trim name).toList, isBlank character = true) :
    parse name tag = .error (.invalidReference (trim name)) := by
  have unfit : ((trim name).toList.any fun character =>
      character == '@' || isBlank character) = true := by
    obtain ⟨character, member, isBlankInside⟩ := blank
    exact List.any_eq_true.mpr ⟨character, member, by simp [isBlankInside]⟩
  simp [parse, named, tagged, unfit]

theorem isAccepted_of_parse (read : parse name tag = .ok reference) : IsAccepted name tag := by
  simp only [parse] at read
  split at read
  · cases read
  · next filled =>
      split at read
      · cases read
      · next plain =>
          refine ⟨fun empty => filled (Or.inl empty), fun empty => filled (Or.inr empty), ?_⟩
          simpa using plain

theorem locate_of_notMem (single : '/' ∉ name.toList) :
    locate name = (hub, "library/" ++ name) := by
  simp only [locate, dropWhile_bne_of_notMem single]

theorem locate_of_parts {first rest : List Char} (parts : name.toList = first ++ '/' :: rest)
    (inside : '/' ∉ first) :
    locate name =
      if isHost first then (registryOf (String.ofList first), String.ofList rest)
      else (hub, name) := by
  simp only [locate, parts, takeWhile_bne_append_cons inside, dropWhile_bne_append_cons inside]

theorem eq_of_parse (read : parse name tag = .ok reference) :
    reference = ⟨trim name, (locate (trim name)).1, (locate (trim name)).2, trim tag⟩ :=
  (Except.ok.inj ((parse_of_isAccepted (isAccepted_of_parse read)).symm.trans read)).symm

/-! ## Names of the default registry -/

/-- No host stands in front of a name: it has no slash, or what stands before the first one is no
host. -/
def IsHostless (name : String) : Prop :=
  '/' ∈ name.toList → isHost (name.toList.takeWhile (· != '/')) = false

theorem locate_of_isHostless (hostless : IsHostless name) :
    locate name = (hub, if '/' ∈ name.toList then name else "library/" ++ name) := by
  by_cases slashed : '/' ∈ name.toList
  · obtain ⟨first, rest, parts, inside⟩ := List.eq_append_cons_of_mem slashed
    have noHost := hostless slashed
    rw [parts, takeWhile_bne_append_cons inside] at noHost
    rw [locate_of_parts parts inside, noHost, if_pos slashed]
    rfl
  · rw [locate_of_notMem slashed, if_neg slashed]

theorem plain_of_hubName :
    ∀ host ∈ hubNames, isHost host.toList = true ∧ registryOf host = hub ∧ '/' ∉ host.toList ∧
      (host.toList.all fun character => character != '@' && !isBlank character) = true := by
  decide

theorem locate_hubName (isHub : host ∈ hubNames) {rest : List Char}
    (parts : name.toList = host.toList ++ '/' :: rest) :
    locate name = (hub, String.ofList rest) := by
  obtain ⟨isHostName, isRegistry, inside, _⟩ := plain_of_hubName host isHub
  rw [locate_of_parts parts inside, if_pos isHostName, String.ofList_toList, isRegistry]

theorem toList_trim_hubName (isHub : host ∈ hubNames) :
    (trim (host ++ "/" ++ name)).toList = host.toList ++ '/' :: trimEnd name.toList := by
  have starts : trimStart (host ++ "/" ++ name).toList = host.toList ++ '/' :: name.toList := by
    rw [String.toList_append, String.toList_append]
    rcases List.mem_pair.mp isHub with rfl | rfl
    · rfl
    · rfl
  rw [trim, String.toList_ofList, trimmed, starts, trimEnd_append_cons (by decide)]

theorem ne_library_append (path : String) : path ≠ "library/" ++ path := by
  intro same
  have lengths := congrArg String.length same
  have library : "library/".length = 8 := by decide
  rw [String.length_append] at lengths
  omega

theorem trim_hubName_ne_empty (isHub : host ∈ hubNames) : trim (host ++ "/" ++ name) ≠ "" := by
  intro empty
  have texts : (trim (host ++ "/" ++ name)).toList = _ := toList_trim_hubName isHub
  rw [empty] at texts
  simp at texts

theorem isAccepted_hubName (isHub : host ∈ hubNames) (accepted : IsAccepted name tag)
    (solid : name.toList.head?.any isBlank = false) : IsAccepted (host ++ "/" ++ name) tag where
  named := trim_hubName_ne_empty isHub
  tagged := accepted.tagged
  plain := by
    obtain ⟨_, _, _, plain⟩ := plain_of_hubName host isHub
    intro character member
    rw [toList_trim_hubName isHub, ← toList_trim_of_solid solid] at member
    rcases List.mem_append.mp member with inHost | inRest
    · simpa using List.all_eq_true.mp plain character inHost
    · rcases List.mem_cons.mp inRest with rfl | inName
      · decide
      · exact accepted.plain character inName

/-- Reading a name with a name of the default registry in front of it, against reading it alone. A
blank in front of the name is then a blank inside. The registry is always the same; the path is the
same for a name with a slash, and one without is short of the part that its path has if it is read
alone. -/
theorem parse_hubName (named : host = "docker.io" ∨ host = "index.docker.io")
    (read : parse name tag = .ok short) (hostless : IsHostless short.name) :
    (name.toList.head?.any isBlank = true →
      parse (host ++ "/" ++ name) tag =
        .error (.invalidReference (trim (host ++ "/" ++ name)))) ∧
    (name.toList.head?.any isBlank = false →
      ∃ long, parse (host ++ "/" ++ name) tag = .ok long ∧
        long.registry = short.registry ∧ long.tag = short.tag ∧
        (long.repository = short.repository ↔ '/' ∈ short.name.toList) ∧
        ('/' ∉ short.name.toList → short.repository = "library/" ++ long.repository)) := by
  have isHub : host ∈ hubNames := List.mem_pair.mpr named
  have accepted := isAccepted_of_parse read
  have shortIs := eq_of_parse read
  subst shortIs
  constructor
  · intro blank
    refine parse_of_blank (trim_hubName_ne_empty isHub) accepted.tagged ?_
    rw [toList_trim_hubName isHub]
    obtain ⟨character, member, isBlankInside⟩ := exists_blank_mem_trimEnd accepted.named blank
    exact ⟨character, List.mem_append_right _ (List.mem_cons_of_mem _ member), isBlankInside⟩
  · intro solid
    have longRead := parse_of_isAccepted (isAccepted_hubName isHub accepted solid)
    rw [locate_hubName isHub (toList_trim_hubName isHub)] at longRead
    refine ⟨_, longRead, ?_⟩
    rw [← toList_trim_of_solid solid, String.ofList_toList, locate_of_isHostless hostless]
    by_cases slashed : '/' ∈ (trim name).toList
    · simp [slashed]
    · simp [slashed, ne_library_append]

/-- A name with a slash, with blanks after it. -/
theorem parse_hubName_slashed :
    parse "microscaler/scanner " "1.0" =
        .ok ⟨"microscaler/scanner", hub, "microscaler/scanner", "1.0"⟩ ∧
      IsHostless "microscaler/scanner" ∧
      ∃ long, parse ("index.docker.io" ++ "/" ++ "microscaler/scanner ") "1.0" = .ok long ∧
        long.registry = hub ∧ long.repository = "microscaler/scanner" := by
  have read : parse "microscaler/scanner " "1.0" =
      .ok ⟨"microscaler/scanner", hub, "microscaler/scanner", "1.0"⟩ := by decide
  have hostless : IsHostless "microscaler/scanner" := by
    intro _
    decide
  obtain ⟨long, longRead, registry, _, repository, _⟩ :=
    (parse_hubName (Or.inr rfl) read hostless).2 (by decide)
  exact ⟨read, hostless, long, longRead, registry, repository.mpr (by decide)⟩

/-- A name without a slash leads to another path if the default registry is named in front of it. -/
theorem exists_hubName_astray :
    IsHostless "alpine" ∧
      ∃ short long, parse "alpine" "3.20" = .ok short ∧
        parse ("docker.io" ++ "/" ++ "alpine") "3.20" = .ok long ∧
        short.repository = "library/alpine" ∧ long.repository = "alpine" := by
  refine ⟨?_, ⟨"alpine", hub, "library/alpine", "3.20"⟩,
    ⟨"docker.io/alpine", hub, "alpine", "3.20"⟩, by decide, by decide, rfl, rfl⟩
  intro slashed
  exact absurd slashed (by decide)

/-! ## Encryption -/

/-- The host of a registry, without its port. -/
def hostPart (reference : ImageReference) : List Char :=
  reference.registry.toList.takeWhile (· != ':')

/-- A host that is not the local machine, but is called like it at its start. -/
def LooksLocal (reference : ImageReference) : Prop :=
  ∃ more, more ≠ [] ∧ reference.hostPart = "localhost".toList ++ more ∧
    ('.' ∈ more ∨ ':' ∈ reference.registry.toList)

theorem isHost_hub : isHost hub.toList = true := by
  decide

theorem isHost_registryOf {first : List Char} (isHostName : isHost first = true) :
    isHost (registryOf (String.ofList first)).toList = true := by
  rw [registryOf]
  split
  · exact isHost_hub
  · rwa [String.toList_ofList]

theorem isHost_locate (name : String) : isHost (locate name).1.toList = true := by
  by_cases slashed : '/' ∈ name.toList
  · obtain ⟨first, rest, parts, inside⟩ := List.eq_append_cons_of_mem slashed
    rw [locate_of_parts parts inside]
    split
    · next isHostName => exact isHost_registryOf isHostName
    · exact isHost_hub
  · rw [locate_of_notMem slashed]
    exact isHost_hub

theorem isHost_registry (read : parse name tag = .ok reference) :
    isHost reference.registry.toList = true := by
  rw [eq_of_parse read]
  dsimp only
  exact isHost_locate (trim name)

/-- The registry is called like the local machine at its start. -/
def StartsLocal (reference : ImageReference) : Prop :=
  "localhost".toList <+: reference.registry.toList

theorem startsLocal_iff_hostPart :
    reference.StartsLocal ↔ "localhost".toList <+: reference.hostPart := by
  constructor
  · rintro ⟨rest, registry⟩
    have noPort : ("localhost".toList.all (· != ':')) = true := by decide
    rw [hostPart, ← registry, List.takeWhile_append_of_pos (List.all_eq_true.mp noPort)]
    exact List.prefix_append _ _
  · intro starts
    have host : reference.hostPart <+: reference.registry.toList := List.takeWhile_prefix _
    exact starts.trans host

theorem scheme_of_startsLocal (starts : reference.StartsLocal) : reference.scheme = "http" :=
  if_pos (List.isPrefixOf_iff_prefix.mpr starts)

theorem scheme_of_not_startsLocal (other : ¬ reference.StartsLocal) : reference.scheme = "https" :=
  if_neg fun starts => other (List.isPrefixOf_iff_prefix.mp starts)

theorem exists_toList_manifestUrl (reference : ImageReference) :
    ∃ rest, reference.manifestUrl.toList =
      reference.scheme.toList ++ (':' :: '/' :: '/' :: rest) := by
  refine ⟨(reference.registry ++ "/v2/" ++ reference.repository ++ "/manifests/" ++
    reference.tag).toList, ?_⟩
  simp [manifestUrl]

theorem startsWith_scheme_iff :
    ("http://".toList <+: reference.manifestUrl.toList ↔ reference.StartsLocal) ∧
      ("https://".toList <+: reference.manifestUrl.toList ↔ ¬ reference.StartsLocal) := by
  obtain ⟨rest, url⟩ := exists_toList_manifestUrl reference
  rw [url]
  by_cases starts : reference.StartsLocal
  · rw [scheme_of_startsLocal starts]
    have plain : "http://".toList <+: "http".toList ++ (':' :: '/' :: '/' :: rest) := by simp
    have other : ¬ "https://".toList <+: "http".toList ++ (':' :: '/' :: '/' :: rest) := by simp
    exact ⟨iff_of_true plain starts, iff_of_false other (not_not_intro starts)⟩
  · rw [scheme_of_not_startsLocal starts]
    have other : ¬ "http://".toList <+: "https".toList ++ (':' :: '/' :: '/' :: rest) := by simp
    have secured : "https://".toList <+: "https".toList ++ (':' :: '/' :: '/' :: rest) := by simp
    exact ⟨iff_of_false other starts, iff_of_true secured starts⟩

theorem startsLocal_iff_looksLocal (isRegistry : isHost reference.registry.toList = true) :
    reference.StartsLocal ↔
      reference.hostPart = "localhost".toList ∨ reference.LooksLocal := by
  rw [startsLocal_iff_hostPart]
  constructor
  · rintro ⟨more, hostIs⟩
    by_cases ended : more = []
    · rw [ended, List.append_nil] at hostIs
      exact Or.inl hostIs.symm
    · refine Or.inr ⟨more, ended, hostIs.symm, ?_⟩
      -- Without a port the host is the whole registry, and what makes that a host is a point.
      by_cases port : ':' ∈ reference.registry.toList
      · exact Or.inr port
      · have whole : reference.hostPart = reference.registry.toList :=
          takeWhile_bne_of_notMem port
        rw [← whole, ← hostIs] at isRegistry port
        have noPort : ':' ∉ more := fun member => port (List.mem_append_right _ member)
        left
        simpa [isHost, ended, noPort] using isRegistry
  · rintro (isLocal | ⟨more, _, hostIs, _⟩)
    · exact isLocal ▸ List.prefix_rfl
    · exact hostIs ▸ List.prefix_append _ more

/-- Encryption is left out exactly for the registries whose host is the local machine or is called
like it at its start. -/
theorem manifestUrl_scheme_iff (read : parse name tag = .ok reference) :
    ("http://".toList <+: reference.manifestUrl.toList ↔
      reference.hostPart = "localhost".toList ∨ reference.LooksLocal) ∧
    ("https://".toList <+: reference.manifestUrl.toList ↔
      ¬ (reference.hostPart = "localhost".toList ∨ reference.LooksLocal)) := by
  rw [← startsLocal_iff_looksLocal (isHost_registry read)]
  exact startsWith_scheme_iff

/-- A port of the local machine. -/
theorem manifestUrl_scheme_localPort :
    parse "localhost:5000/scanner" "dev" =
        .ok ⟨"localhost:5000/scanner", "localhost:5000", "scanner", "dev"⟩ ∧
      "http://".toList <+: (manifestUrl
        ⟨"localhost:5000/scanner", "localhost:5000", "scanner", "dev"⟩).toList := by
  have read : parse "localhost:5000/scanner" "dev" =
      .ok ⟨"localhost:5000/scanner", "localhost:5000", "scanner", "dev"⟩ := by decide
  exact ⟨read, (manifestUrl_scheme_iff read).1.mpr (Or.inl (by decide))⟩

/-- Another machine whose name starts with that of the local one is reached without encryption. -/
theorem exists_remote_unencrypted :
    ∃ reference, parse "localhost.example.com/app" "1" = .ok reference ∧
      reference.hostPart = "localhost.example.com".toList ∧
      "http://".toList <+: reference.manifestUrl.toList := by
  have read : parse "localhost.example.com/app" "1" =
      .ok ⟨"localhost.example.com/app", "localhost.example.com", "app", "1"⟩ := by decide
  exact ⟨_, read, by decide, by decide⟩

end ImageReference

end ClusterAudit
