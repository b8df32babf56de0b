import RoboticsRuntime.Harness.WheelBinding
import RoboticsRuntime.Theory.Loops

/-!
# An accepted installation holds the wheel and nothing else

The captured files are the members of the wheel, and in the namespaces of its sources there is no
other file and no link.
-/

namespace RoboticsRuntime.Harness
open Theory Python

variable {tools : BindingTools} {fs : FileSystem} {files : List (String × Bytes)}
  {distInfo : String} {limits : BindingLimits}

/-! ## Names -/

/-- What `_name` admits: a relative path that does not go back, in its canonical text. -/
structure CanonicalName (name : String) : Prop where
  relative : (purePosixPath name).absolute = false
  forward : ".." ∉ (purePosixPath name).parts
  text : (purePosixPath name).asPosix = name

theorem checkName_canonical {name : String} (h : checkName tools name = .ok ()) :
    CanonicalName name := by
  obtain ⟨-, -, -, -, habsolute, hforward, htext⟩ := require_eq_ok.1 h
  exact ⟨habsolute, hforward, htext⟩

namespace CanonicalName

variable {name name' : String} {root : Path}

theorem joinName_eq (h : CanonicalName name) : joinName root name = root ++ (purePosixPath name).parts := by
  rw [joinName, h.relative]
  rfl

/-- Different names are different paths. -/
theorem joinName_injective (h : CanonicalName name) (h' : CanonicalName name')
    (he : joinName root name = joinName root name') : name = name' := by
  rw [h.joinName_eq, h'.joinName_eq, List.append_cancel_left_eq] at he
  have hpath : purePosixPath name = purePosixPath name' := by
    cases hpath : purePosixPath name with
    | mk absolute parts =>
      cases hpath' : purePosixPath name' with
      | mk absolute' parts' =>
        have hrelative := h.relative
        have hrelative' := h'.relative
        rw [hpath, hpath'] at he
        rw [hpath] at hrelative
        rw [hpath'] at hrelative'
        cases he
        cases hrelative
        cases hrelative'
        rfl
  rw [← h.text, ← h'.text, hpath]

end CanonicalName

/-- The members of a wheel have canonical names, each of its own. -/
structure NamedFiles (files : List (String × Bytes)) : Prop where
  canonical : ∀ file ∈ files, CanonicalName file.1
  nodup : (files.map (·.1)).Nodup

theorem readMember_named {seen seen' : ℕ × List (String × Bytes)} {info : ZipInfo}
    (h : readMember tools limits seen info = .ok seen') (hseen : NamedFiles seen.2) :
    NamedFiles seen'.2 := by
  obtain ⟨hname, h⟩ := seq_eq_ok.1 h
  obtain ⟨-, h⟩ := seq_eq_ok.1 h
  obtain ⟨-, h⟩ := seq_eq_ok.1 h
  split at h
  · cases h
    exact hseen
  · next hfile =>
    rw [if_neg hfile] at hname
    obtain ⟨content, -, h⟩ := bind_eq_ok.1 h
    cases h
    refine ⟨fun file hfile => ?_, nodup_assign hseen.nodup _ _⟩
    rcases mem_assign.1 hfile with rfl | ⟨hfile, -⟩
    · exact checkName_canonical hname
    · exact hseen.canonical file hfile

theorem wheelMembers_named {wheel : AuthenticatedWheel} (h : wheelMembers tools wheel = .ok files) :
    NamedFiles files := by
  obtain ⟨infos, -, h⟩ := bind_eq_ok.1 h
  obtain ⟨-, h⟩ := seq_eq_ok.1 h
  obtain ⟨-, h⟩ := seq_eq_ok.1 h
  obtain ⟨seen, hloop, h⟩ := bind_eq_ok.1 h
  cases h
  have hempty : NamedFiles ((0, []) : ℕ × List (String × Bytes)).2 :=
    ⟨List.forall_mem_nil _, List.nodup_nil⟩
  exact foldlM_invariant (I := fun seen : ℕ × List (String × Bytes) => NamedFiles seen.2)
    (fun _ _ _ hs hstep => readMember_named hstep hs) hempty hloop

theorem readRecord_canonical {raw : Bytes} {maxRows : ℕ} {records : List (String × String × String)}
    (h : readRecord tools raw maxRows = .ok records) :
    ∀ record ∈ records, CanonicalName record.1 := by
  obtain ⟨rows, -, hloop⟩ := bind_eq_ok.1 h
  refine foldlM_invariant (I := fun records : List (String × String × String) =>
    ∀ record ∈ records, CanonicalName record.1) (fun records row records' hs hstep => ?_)
    (List.forall_mem_nil _) hloop
  unfold readRow at hstep
  split at hstep
  · obtain ⟨-, hstep⟩ := seq_eq_ok.1 hstep
    obtain ⟨hname, hstep⟩ := seq_eq_ok.1 hstep
    obtain ⟨-, hstep⟩ := seq_eq_ok.1 hstep
    cases hstep
    intro record hrecord
    rcases List.mem_append.1 hrecord with hrecord | hrecord
    · exact hs record hrecord
    · cases List.mem_singleton.1 hrecord
      exact checkName_canonical hname
  · cases hstep

/-- No member of an accepted wheel is a bytecode cache. -/
theorem wheelLayout_suffix {wheel : AuthenticatedWheel} {layout : String × String × String}
    (h : wheelLayout tools wheel files = .ok layout) :
    ∀ file ∈ files, nameSuffix file.1 ≠ ".pyc" := by
  obtain ⟨candidate, -, h⟩ := bind_eq_ok.1 h
  obtain ⟨-, h⟩ := seq_eq_ok.1 h
  obtain ⟨metadata, -, h⟩ := bind_eq_ok.1 h
  obtain ⟨-, h⟩ := seq_eq_ok.1 h
  obtain ⟨identity, -, h⟩ := bind_eq_ok.1 h
  obtain ⟨-, h⟩ := seq_eq_ok.1 h
  obtain ⟨parsed, -, h⟩ := bind_eq_ok.1 h
  obtain ⟨-, h⟩ := seq_eq_ok.1 h
  obtain ⟨configuration, -, h⟩ := bind_eq_ok.1 h
  obtain ⟨-, h⟩ := seq_eq_ok.1 h
  obtain ⟨-, h⟩ := seq_eq_ok.1 h
  obtain ⟨hsuffix, -⟩ := seq_eq_ok.1 h
  intro file hfile he
  have hnative := ((require_eq_ok.1 hsuffix) file hfile).2
  rw [he] at hnative
  exact hnative (by decide)

/-! ## Captured files -/

theorem readOnce_eq_ok {path : Path} {limit : ℕ} {payload : Bytes}
    (h : readOnce fs path limit = .ok payload) : fs.locate path = .found (.file payload) := by
  unfold readOnce at h
  split at h
  · next content hlocate =>
    split at h
    · cases h
      exact hlocate
    · cases h
  · cases h
  · cases h
  · cases h
  · cases h

theorem length_cacheDirectory {head directory : Path} (h : cacheDirectory tools head = some directory) :
    directory.length ≤ head.length := by
  have hown (h : (if head.getLast? = some "__pycache__" then some head.dropLast else none) =
      some directory) : directory.length ≤ head.length := by
    split at h
    · cases h
      rw [List.length_dropLast]
      exact Nat.sub_le _ _
    · cases h
  simp only [cacheDirectory] at h
  split at h
  · exact hown h
  · split at h
    · cases h
      rw [List.length_drop]
      exact Nat.sub_le _ _
    · exact hown h

/-- A source is no deeper than its cache. -/
theorem length_sourceFromCache {path source : Path} (h : sourceFromCache tools path = some source) :
    source.length ≤ path.length := by
  obtain ⟨directory, hdirectory, h⟩ := Option.bind_eq_some_iff.1 h
  obtain ⟨name, hname, h⟩ := Option.bind_eq_some_iff.1 h
  obtain ⟨filename, hfilename, -⟩ := Option.bind_eq_some_iff.1 hname
  cases h
  have hpos : 0 < path.length := List.length_pos_of_mem (List.mem_of_getLast? hfilename)
  have hle := length_cacheDirectory hdirectory
  rw [List.length_dropLast] at hle
  rw [List.length_append, List.length_singleton]
  omega

theorem derivedCache_eq_true {path : Path} {sources : Finset Path}
    (h : derivedCache tools fs path sources = .ok true) :
    pathSuffix path = ".pyc" ∧ ∃ source ∈ sources, sourceFromCache tools path = some source := by
  unfold derivedCache at h
  split at h
  · cases h
  · next hsuffix =>
    obtain ⟨-, h⟩ := seq_eq_ok.1 h
    split at h
    · cases h
    · next source hsource =>
      have hmem := Except.ok.inj h
      simp only [Bool.decide_and, Bool.and_eq_true, decide_eq_true_eq] at hmem
      exact ⟨not_not.1 hsuffix, source, hmem.1, hsource⟩

/-- A captured file is a member of the wheel, and it is there. -/
def CapturedFile (fs : FileSystem) (files : List (String × Bytes)) (file : Path × Bytes) : Prop :=
  ∃ name, (name, file.2) ∈ files ∧ CanonicalName name ∧
    file.1 = fs.root ++ (purePosixPath name).parts ∧ fs.locate file.1 = .found (.file file.2)

variable {sources : Finset Path} {captured captured' : List (Path × Bytes)}
  {record : String × String × String}

/-- What a record adds: nothing, or the member of its name. -/
theorem captureRecord_cases
    (h : captureRecord tools fs distInfo files limits sources captured record = .ok captured') :
    captured' = captured ∧ (record.1 = distInfo ++ "/RECORD" ∨
        derivedCache tools fs (joinName fs.root record.1) sources = .ok true ∨
        files.lookup record.1 = none) ∨
      ∃ content, files.lookup record.1 = some content ∧
        fs.locate (joinName fs.root record.1) = .found (.file content) ∧
        captured' = assign captured (joinName fs.root record.1) content := by
  simp only [captureRecord] at h
  split at h
  · next hname =>
    cases h
    exact .inl ⟨rfl, .inl hname⟩
  · obtain ⟨derived, hderived, h⟩ := bind_eq_ok.1 h
    split at h
    · next htrue =>
      cases h
      exact .inl ⟨rfl, .inr (.inl (htrue ▸ hderived))⟩
    · obtain ⟨payload, hpayload, h⟩ := bind_eq_ok.1 h
      split at h
      · next content hlookup =>
        obtain ⟨hcontent, h⟩ := seq_eq_ok.1 h
        obtain ⟨-, h⟩ := seq_eq_ok.1 h
        obtain ⟨-, h⟩ := seq_eq_ok.1 h
        cases h
        obtain rfl := require_eq_ok.1 hcontent
        exact .inr ⟨payload, hlookup, readOnce_eq_ok hpayload, rfl⟩
      · next hlookup =>
        obtain ⟨-, h⟩ := seq_eq_ok.1 h
        have hsame : captured' = captured := by
          split at h
          · obtain ⟨-, h⟩ := seq_eq_ok.1 h
            cases h
            rfl
          · cases h
            rfl
        exact .inl ⟨hsame, .inr (.inr hlookup)⟩

/-- The captured files are members, and a file that is captured stays. -/
def Captures (fs : FileSystem) (files : List (String × Bytes))
    (captured captured' : List (Path × Bytes)) : Prop :=
  (∀ file ∈ captured, CapturedFile fs files file) →
    (∀ file ∈ captured', CapturedFile fs files file) ∧ captured ⊆ captured'

theorem captureRecord_captures (hfiles : NamedFiles files) (hrecord : CanonicalName record.1)
    (h : captureRecord tools fs distInfo files limits sources captured record = .ok captured') :
    Captures fs files captured captured' := by
  intro hcaptured
  obtain ⟨rfl, -⟩ | ⟨content, hlookup, hlocate, rfl⟩ := captureRecord_cases h
  · exact ⟨hcaptured, List.Subset.refl _⟩
  · have hmember := mem_of_lookup hlookup
    have hnew : CapturedFile fs files (joinName fs.root record.1, content) :=
      ⟨record.1, hmember, hrecord, hrecord.joinName_eq, hlocate⟩
    constructor
    · intro file hfile
      rcases mem_assign.1 hfile with rfl | ⟨hfile, -⟩
      · exact hnew
      · exact hcaptured file hfile
    · intro file hfile
      rw [mem_assign]
      by_cases he : file.1 = joinName fs.root record.1
      · -- The same path is the same member, so nothing is replaced.
        obtain ⟨name, hname, hcanonical, hpath, -⟩ := hcaptured file hfile
        rw [← hcanonical.joinName_eq] at hpath
        obtain rfl := hcanonical.joinName_injective hrecord (hpath.symm.trans he)
        have hcontent := lookup_of_mem hfiles.nodup hname
        rw [hlookup] at hcontent
        exact .inl (Prod.ext he (Option.some.inj hcontent).symm)
      · exact .inr ⟨hfile, he⟩

theorem pathSuffix_append {root parts : Path} (h : parts ≠ []) :
    pathSuffix (root ++ parts) = suffix (parts.getLast?.getD "") := by
  rw [pathSuffix, List.getLast?_append, List.getLast?_eq_some_getLast h]
  rfl

/-- No member of an accepted wheel is taken for a bytecode cache: its name is none, or the path is
the root itself, which is less deep than every source. -/
theorem derivedCache_ne_true {name : String} (hname : CanonicalName name)
    (hsuffix : nameSuffix name ≠ ".pyc")
    (hsources : ∀ source ∈ sources, fs.root.length < source.length) :
    derivedCache tools fs (joinName fs.root name) sources ≠ .ok true := by
  intro h
  obtain ⟨hpyc, source, hsource, hcache⟩ := derivedCache_eq_true h
  rw [hname.joinName_eq] at hpyc hcache
  by_cases hparts : (purePosixPath name).parts = []
  · have hdeep := hsources source hsource
    have hle := length_sourceFromCache hcache
    rw [hparts, List.append_nil] at hle
    omega
  · rw [pathSuffix_append hparts] at hpyc
    exact hsuffix hpyc

theorem root_lt_source {name : String} (hname : CanonicalName name) (hsuffix : nameSuffix name = ".py")
    (root : Path) : root.length < (joinName root name).length := by
  have hparts : (purePosixPath name).parts ≠ [] := by
    intro hnil
    rw [nameSuffix, PurePosixPath.name, hnil] at hsuffix
    exact absurd hsuffix (by decide)
  rw [hname.joinName_eq, List.length_append]
  exact Nat.lt_add_of_pos_right (List.length_pos_of_ne_nil hparts)

/-- The captured files are the members of the wheel, all but its RECORD. -/
theorem installationFiles_spec (hfiles : NamedFiles files)
    (hsuffix : ∀ file ∈ files, nameSuffix file.1 ≠ ".pyc")
    (h : installationFiles tools fs distInfo files limits = .ok captured) :
    (∀ file ∈ captured, CapturedFile fs files file) ∧
      ∀ name content, (name, content) ∈ files → name ≠ distInfo ++ "/RECORD" →
        (joinName fs.root name, content) ∈ captured := by
  obtain ⟨raw, -, h⟩ := bind_eq_ok.1 h
  obtain ⟨records, hrecords, h⟩ := bind_eq_ok.1 h
  obtain ⟨hcovers, hloop⟩ := seq_eq_ok.1 h
  have hcanonical := readRecord_canonical hrecords
  obtain ⟨hcaptures, hsteps⟩ := foldlM_steps (R := Captures fs files)
    (fun _ hc => ⟨hc, List.Subset.refl _⟩)
    (fun hab hbc hc => ⟨(hbc (hab hc).1).1,
      List.Subset.trans (hab hc).2 (hbc (hab hc).1).2⟩)
    (fun _ record hrecord _ hstep => captureRecord_captures hfiles (hcanonical record hrecord) hstep)
    hloop
  refine ⟨(hcaptures (List.forall_mem_nil _)).1, fun name content hmember hname => ?_⟩
  have hexpected : name ∈ (files.map (·.1)).filter (· ≠ distInfo ++ "/RECORD") :=
    List.mem_filter.2 ⟨List.mem_map_of_mem hmember, by simpa using hname⟩
  obtain ⟨record, hrecord, rfl⟩ := List.mem_map.1 ((require_eq_ok.1 hcovers).1 name hexpected)
  obtain ⟨s₁, s₂, hbefore, hstep, hafter⟩ := hsteps record hrecord
  obtain ⟨hs₁, -⟩ := hbefore (List.forall_mem_nil _)
  obtain ⟨hs₂, -⟩ := captureRecord_captures hfiles (hcanonical record hrecord) hstep hs₁
  have hlookup := lookup_of_mem hfiles.nodup hmember
  have hown : CanonicalName record.1 := hfiles.canonical (record.1, content) hmember
  have hpyc : nameSuffix record.1 ≠ ".pyc" := hsuffix (record.1, content) hmember
  obtain ⟨-, he | hderived | hnone⟩ | ⟨content', hlookup', -, rfl⟩ := captureRecord_cases hstep
  · exact absurd he hname
  · refine absurd hderived (derivedCache_ne_true hown hpyc fun source hsource => ?_)
    obtain ⟨other, hother, rfl⟩ := List.mem_map.1 (List.mem_toFinset.1 hsource)
    obtain ⟨hother, hpy⟩ := List.mem_filter.1 hother
    obtain ⟨file, hfile, rfl⟩ := List.mem_map.1 (List.mem_filter.1 hother).1
    exact root_lt_source (hfiles.canonical file hfile) (by simpa using hpy) fs.root
  · rw [hlookup] at hnone
    cases hnone
  · rw [hlookup] at hlookup'
    cases hlookup'
    exact (hafter hs₂).2 (mem_assign.2 (.inl rfl))

/-! ## Checked files -/

variable {context : ClosureContext} {checked checked' : Finset Path} {path candidate : Path}

/-- A file that a namespace may hold. -/
def Admitted (tools : BindingTools) (fs : FileSystem) (context : ClosureContext) (path : Path) :
    Prop :=
  fs.isSymlink path = false ∧
    (path ∈ context.captured ∨ derivedCache tools fs path context.sources = .ok true)

theorem checkNamespaceFile_admitted (hchecked : ∀ path ∈ checked, Admitted tools fs context path)
    (h : checkNamespaceFile tools fs context checked path = .ok checked') :
    (∀ path ∈ checked', Admitted tools fs context path) ∧ Admitted tools fs context path := by
  simp only [checkNamespaceFile] at h
  split at h
  · next hm =>
    cases h
    exact ⟨hchecked, hchecked path hm⟩
  · obtain ⟨-, h⟩ := seq_eq_ok.1 h
    obtain ⟨hlink, h⟩ := seq_eq_ok.1 h
    suffices hnew : checked' = insert path checked ∧ Admitted tools fs context path by
      obtain ⟨rfl, hpath⟩ := hnew
      exact ⟨fun other hother => (Finset.mem_insert.1 hother).elim (· ▸ hpath) (hchecked other),
        hpath⟩
    split at h
    · next hcaptured =>
      cases h
      exact ⟨rfl, require_eq_ok.1 hlink, .inl hcaptured⟩
    · obtain ⟨derived, hderived, h⟩ := bind_eq_ok.1 h
      obtain ⟨htrue, h⟩ := seq_eq_ok.1 h
      cases h
      exact ⟨rfl, require_eq_ok.1 hlink, .inr (require_eq_ok.1 htrue ▸ hderived)⟩

/-- What a checked step of a walk holds: no links to directories, and admitted files. -/
def CheckedEntry (tools : BindingTools) (fs : FileSystem) (context : ClosureContext)
    (entry : WalkEntry) : Prop :=
  (∀ name ∈ entry.children, fs.isSymlink (entry.directory ++ [name]) = false) ∧
    ∀ name ∈ entry.names, Admitted tools fs context (entry.directory ++ [name])

theorem checkWalkEntry_checked {entry : WalkEntry}
    (hchecked : ∀ path ∈ checked, Admitted tools fs context path)
    (h : checkWalkEntry tools fs context checked entry = .ok checked') :
    (∀ path ∈ checked', Admitted tools fs context path) ∧ CheckedEntry tools fs context entry := by
  obtain ⟨hdirectories, hnames⟩ := seq_eq_ok.1 h
  obtain ⟨-, hdirectories⟩ := seq_eq_ok.1 hdirectories
  obtain ⟨hchecked', hadmitted⟩ :=
    foldlM_forall (fun _ _ _ hs hstep => checkNamespaceFile_admitted hs hstep) hchecked hnames
  refine ⟨hchecked', fun name hname => ?_, fun name hname => ?_⟩
  · exact (require_eq_ok.1 (forM_eq_ok.1 hdirectories name hname)).1
  · exact hadmitted _ (List.mem_map_of_mem hname)

/-- What a checked candidate is: nothing, an admitted file, or a directory whose walk is checked. -/
def CheckedCandidate (tools : BindingTools) (fs : FileSystem) (context : ClosureContext)
    (candidate : Path) : Prop :=
  fs.exists? candidate = false ∧ fs.isSymlink candidate = false ∨
    fs.isFile candidate = true ∧ Admitted tools fs context candidate ∨
    fs.isSymlink candidate = false ∧ fs.isFile candidate = false ∧
      ∀ entry ∈ fs.walk candidate, CheckedEntry tools fs context entry

theorem checkCandidate_checked (hchecked : ∀ path ∈ checked, Admitted tools fs context path)
    (h : checkCandidate tools fs context checked candidate = .ok checked') :
    (∀ path ∈ checked', Admitted tools fs context path) ∧
      CheckedCandidate tools fs context candidate := by
  unfold checkCandidate at h
  split at h
  · next hmissing =>
    cases h
    exact ⟨hchecked, .inl hmissing⟩
  · split at h
    · cases h
    · next hlink =>
      split at h
      · next hfile =>
        obtain ⟨hchecked', hadmitted⟩ := checkNamespaceFile_admitted hchecked h
        exact ⟨hchecked', .inr (.inl ⟨hfile, hadmitted⟩)⟩
      · next hfile =>
        obtain ⟨hchecked', hwalk⟩ :=
          foldlM_forall (fun _ _ _ hs hstep => checkWalkEntry_checked hs hstep) hchecked h
        exact ⟨hchecked', .inr (.inr ⟨by simpa using hlink, by simpa using hfile, hwalk⟩)⟩

/-- Every candidate of every namespace is checked. -/
theorem namespaceClosure_checked (h : namespaceClosure tools fs captured limits = .ok ()) :
    ∀ namespaceName ∈ namespacesOf fs captured,
      ∀ candidate ∈ namespaceCandidates tools fs namespaceName,
        CheckedCandidate tools fs
          (closureContext fs captured limits (namespacesOf fs captured).dedup.toFinset) candidate := by
  obtain ⟨checked, hloop, -⟩ := bind_eq_ok.1 h
  obtain ⟨-, hcandidates⟩ := foldlM_forall
    (fun _ _ _ hs hstep => checkCandidate_checked hs hstep)
    (fun path hpath => absurd hpath (Finset.notMem_empty path)) hloop
  intro namespaceName hnamespace candidate hcandidate
  exact hcandidates candidate (List.mem_flatMap.2
    ⟨namespaceName, List.mem_dedup.2 hnamespace, hcandidate⟩)

/-! ## Namespaces -/

variable {namespaceName name : String} {rest : Path}

/-- What holds of every Python identifier: it is a part of a path, it has no suffix, and its
characters stand for themselves in a pattern. -/
structure ImportableName (name : String) : Prop where
  ne_empty : name ≠ ""
  plain : ∀ c ∈ name.toList, c ∉ ['*', '?', '[', '/', '.']

/-- The paths of a namespace: those under its directory, and those of its modules and of their
caches. -/
inductive InNamespace (root : Path) (namespaceName : String) : Path → Prop where
  | under (rest : Path) : ".." ∉ rest → InNamespace root namespaceName (root ++ namespaceName :: rest)
  | module (name : String) : (namespaceName ++ ".").toList <+: name.toList →
      InNamespace root namespaceName (root ++ [name])
  | cache (name : String) : (namespaceName ++ ".").toList <+: name.toList →
      InNamespace root namespaceName (root ++ ["__pycache__"] ++ [name])

namespace ImportableName

variable (h : ImportableName namespaceName)
include h

theorem toList_ne_nil : namespaceName.toList ≠ [] :=
  fun he => h.ne_empty (String.toList_eq_nil_iff.1 he)

theorem ne_dots (dots : String) (hdots : '.' ∈ dots.toList) : namespaceName ≠ dots := by
  rintro rfl
  exact h.plain '.' hdots (by decide)

theorem joinName_eq (root : Path) : joinName root namespaceName = root ++ [namespaceName] := by
  have hslash : '/' ∉ namespaceName.toList := fun hm => h.plain '/' hm (by decide)
  have hsplit : splitSlash namespaceName = [namespaceName] := by
    rw [splitSlash, List.splitOn_eq_singleton hslash, List.map_singleton, String.ofList_toList]
  have hrelative : (purePosixPath namespaceName).absolute = false := by
    simp only [purePosixPath, decide_eq_false_iff_not]
    exact fun hhead => hslash (List.mem_of_head? hhead)
  have hparts : (purePosixPath namespaceName).parts = [namespaceName] := by
    have hdot := h.ne_dots "." (by decide)
    simp [purePosixPath, hsplit, h.ne_empty, hdot]
  rw [joinName, hrelative, hparts]
  rfl

theorem matchesNamespace_of_prefix (hleads : (namespaceName ++ ".").toList <+: name.toList) :
    matchesNamespace tools namespaceName name = true := by
  have hliteral : literalPattern namespaceName = true := by
    rw [literalPattern, List.all_eq_true]
    intro c hc
    have hplain := h.plain c hc
    simp only [List.mem_cons, List.not_mem_nil, or_false, not_or] at hplain ⊢
    simp [hplain.1, hplain.2.1, hplain.2.2.1]
  rw [matchesNamespace, if_pos hliteral, List.isPrefixOf_iff_prefix]
  exact hleads

/-- A module of the namespace is no step back. -/
theorem ne_back (hleads : (namespaceName ++ ".").toList <+: name.toList) : name ≠ ".." := by
  rintro rfl
  cases hlist : namespaceName.toList with
  | nil => exact h.toList_ne_nil hlist
  | cons c cs =>
    rw [String.toList_append, hlist, List.cons_append] at hleads
    obtain rfl : c = '.' := (List.cons_prefix_cons.1 hleads).1
    exact h.plain '.' (hlist ▸ List.mem_cons_self) (by decide)

end ImportableName

theorem Admitted.not_link (h : Admitted tools fs context path) : fs.lstat path ≠ some .link :=
  FileSystem.isSymlink_eq_false.1 h.1

/-- A candidate that is a file or a link is admitted. -/
theorem CheckedCandidate.admitted (h : CheckedCandidate tools fs context candidate)
    (hkind : fs.lstat candidate = some .file ∨ fs.lstat candidate = some .link) :
    Admitted tools fs context candidate := by
  obtain ⟨hmissing, hlink⟩ | ⟨-, hadmitted⟩ | ⟨hlink, hfile, -⟩ := h
  · rcases hkind with hkind | hkind
    · rw [FileSystem.exists?, FileSystem.stat_of_lstat hkind (by decide)] at hmissing
      cases hmissing
    · exact absurd hkind (FileSystem.isSymlink_eq_false.1 hlink)
  · exact hadmitted
  · rcases hkind with hkind | hkind
    · rw [FileSystem.isFile, FileSystem.stat_of_lstat hkind (by decide)] at hfile
      exact absurd hfile (by decide)
    · exact absurd hkind (FileSystem.isSymlink_eq_false.1 hlink)

/-- What is found under the directory of a namespace, file or link, is admitted. -/
theorem CheckedCandidate.admitted_under {leaf : FileTree}
    (h : CheckedCandidate tools fs context (fs.root ++ [namespaceName]))
    (hforward : ".." ∉ namespaceName :: rest)
    (hfound : fs.locate (fs.root ++ namespaceName :: rest) = .found leaf)
    (hleaf : leaf.kind = .file ∨ leaf.kind = .link) :
    Admitted tools fs context (fs.root ++ namespaceName :: rest) := by
  have hkind := FileSystem.lstat_of_found hfound
  rcases List.eq_nil_or_concat' rest with rfl | ⟨parents, last, rfl⟩
  · exact h.admitted (hleaf.imp (fun he => hkind.trans (congrArg some he))
      fun he => hkind.trans (congrArg some he))
  · rw [FileSystem.locate_root_append hforward] at hfound
    obtain ⟨entries, hdirectory, hbelow⟩ := FileTree.locate_cons_eq_found (by simp) hfound
    rw [← FileSystem.locate_root_append fun hm =>
      hforward (List.mem_cons.2 (.inl (List.mem_singleton.1 hm)))] at hdirectory
    have hstat : fs.stat (fs.root ++ [namespaceName]) = some .directory := by
      rw [FileSystem.stat, hdirectory]
      rfl
    obtain ⟨hmissing, -⟩ | ⟨hfile, -⟩ | ⟨-, -, hwalk⟩ := h
    · rw [FileSystem.exists?, hstat] at hmissing
      cases hmissing
    · rw [FileSystem.isFile, hstat] at hfile
      exact absurd hfile (by decide)
    · rw [FileSystem.walk, hdirectory] at hwalk
      obtain ⟨entry, hentry, hparent, hlisted⟩ := FileTree.exists_walk_of_locate
        fs.outside (fs.root ++ [namespaceName]) hbelow
      obtain ⟨hchildren, hnames⟩ := hwalk entry hentry
      have hpath : entry.directory ++ [last] = fs.root ++ namespaceName :: (parents ++ [last]) := by
        rw [hparent]
        simp
      split at hlisted
      · next hchild =>
        have hnolink := FileSystem.isSymlink_eq_false.1 (hchildren last hlisted)
        rw [hpath, hkind] at hnolink
        rcases hleaf with hleaf | hleaf
        · cases leaf with
          | file _ => cases hchild
          | link | other | directory _ => cases hleaf
        · exact absurd (congrArg some hleaf) hnolink
      · have hadmitted := hnames last hlisted
        rwa [hpath] at hadmitted

/-- A path of a namespace that is a file or a link is admitted, once every candidate is checked. -/
theorem admitted_of_inNamespace (hname : ImportableName namespaceName)
    (hcandidates : ∀ candidate ∈ namespaceCandidates tools fs namespaceName,
      CheckedCandidate tools fs context candidate)
    (hpath : InNamespace fs.root namespaceName path)
    (hkind : fs.lstat path = some .file ∨ fs.lstat path = some .link) :
    Admitted tools fs context path := by
  have hglob (directory : Path) (hdirectory : directory = fs.root ∨ directory = fs.root ++ ["__pycache__"])
      (module : String) (hmodule : module ∈ fs.listing directory)
      (hleads : (namespaceName ++ ".").toList <+: module.toList) :
      CheckedCandidate tools fs context (directory ++ [module]) := by
    refine hcandidates _ ?_
    have hmatches : matchesNamespace tools namespaceName module = true :=
      hname.matchesNamespace_of_prefix hleads
    have hmem := List.mem_map_of_mem (f := fun name => directory ++ [name])
      (List.mem_filter.2 ⟨hmodule, hmatches⟩)
    rcases hdirectory with rfl | rfl
    · exact List.mem_append_left _ (List.mem_cons_of_mem _ hmem)
    · exact List.mem_append_right _ hmem
  obtain ⟨kind, hsome⟩ : ∃ kind, fs.lstat path = some kind := by
    rcases hkind with hkind | hkind <;> exact ⟨_, hkind⟩
  cases hpath with
  | module module hleads =>
    have hlisted := @FileSystem.mem_listing fs [] module _ List.not_mem_nil
      (hname.ne_back hleads) (by rwa [List.append_nil])
    rw [List.append_nil] at hlisted
    exact (hglob _ (.inl rfl) module hlisted hleads).admitted hkind
  | cache module hleads =>
    have hlisted := FileSystem.mem_listing (by decide) (hname.ne_back hleads) hsome
    exact (hglob _ (.inr rfl) module hlisted hleads).admitted hkind
  | under rest hforward =>
    have hcandidate : CheckedCandidate tools fs context (fs.root ++ [namespaceName]) :=
      hcandidates _ (List.mem_append_left _ (List.mem_cons.2 (.inl (hname.joinName_eq fs.root).symm)))
    have hforward : ".." ∉ namespaceName :: rest := by
      rw [List.mem_cons, not_or]
      exact ⟨(hname.ne_dots ".." (by decide)).symm, hforward⟩
    cases hlocate : fs.locate (fs.root ++ namespaceName :: rest) with
    | found leaf =>
      rw [FileSystem.lstat_of_found hlocate, Option.some.injEq, Option.some.injEq] at hkind
      exact hcandidate.admitted_under hforward hlocate hkind
    | missing =>
      rw [FileSystem.lstat, hlocate] at hsome
      cases hsome
    | beyond =>
      -- The first link on the path is itself under the directory, so the check has refused it.
      rw [FileSystem.locate_root_append hforward] at hlocate
      obtain ⟨before, after, hsplit, hbefore, -, hlink⟩ :=
        FileTree.exists_link_of_beyond hlocate (by simp [FileTree.kind])
      cases before with
      | nil => exact absurd rfl hbefore
      | cons first before =>
        obtain ⟨rfl, rfl⟩ := List.cons.inj hsplit
        have hforward' : ".." ∉ namespaceName :: before := fun hm =>
          hforward (List.mem_append_left after hm)
        rw [← FileSystem.locate_root_append hforward'] at hlink
        have hadmitted := hcandidate.admitted_under hforward' hlink (.inr rfl)
        exact absurd (FileSystem.lstat_of_found hlink) hadmitted.not_link

/-! ## The accepted installation -/

/-- The bytecode cache of a captured source. -/
def CachesSource (tools : BindingTools) (installation : AuthenticatedInstallation) (path : Path) :
    Prop :=
  pathSuffix path = ".pyc" ∧
    ∃ source ∈ installation.sources, sourceFromCache tools path = some source.1

/-- The installation has the members of the wheel below its root, with their bytes, and in the
namespaces of its sources there is no other file and no link. -/
structure OnlyTheWheel (tools : BindingTools) (fs : FileSystem) (files : List (String × Bytes))
    (distInfo : String) (installation : AuthenticatedInstallation) : Prop where
  members : ∀ path content, (path, content) ∈ installation.files →
    ∃ name, (name, content) ∈ files ∧ path = fs.root ++ (purePosixPath name).parts ∧
      ".." ∉ (purePosixPath name).parts ∧ fs.locate path = .found (.file content)
  complete : ∀ name content, (name, content) ∈ files → name ≠ distInfo ++ "/RECORD" →
    (joinName fs.root name, content) ∈ installation.files
  paths : ∀ path, path ∈ installation.paths ↔ ∃ content, (path, content) ∈ installation.files
  closed : ∀ source ∈ installation.sources, ∀ namespaceName,
    namespaceName = removePySuffix (topLevel fs.root source.1) → ImportableName namespaceName →
    ∀ path, InNamespace fs.root namespaceName path →
      fs.lstat path = some .file ∨ fs.lstat path = some .link →
      fs.lstat path = some .file ∧
        (path ∈ installation.paths ∨ CachesSource tools installation path)

/-- An accepted evaluator installation holds nothing but the wheel. -/
theorem bindInstallation_onlyTheWheel {wheel : AuthenticatedWheel} {distribution : Distribution}
    {installation : AuthenticatedInstallation}
    (h : bindInstallation tools wheel distribution = .ok installation) :
    ∃ files layout, wheelMembers tools wheel = .ok files ∧
      wheelLayout tools wheel files = .ok layout ∧
      OnlyTheWheel tools distribution.fs files layout.1 installation := by
  obtain ⟨files, hfiles, h⟩ := bind_eq_ok.1 h
  obtain ⟨layout, hlayout, h⟩ := bind_eq_ok.1 h
  obtain ⟨-, h⟩ := seq_eq_ok.1 h
  obtain ⟨-, h⟩ := seq_eq_ok.1 h
  obtain ⟨captured, hcaptured, h⟩ := bind_eq_ok.1 h
  obtain ⟨hclosure, h⟩ := seq_eq_ok.1 h
  obtain ⟨-, h⟩ := seq_eq_ok.1 h
  obtain ⟨entryPoints, -, h⟩ := bind_eq_ok.1 h
  cases h
  obtain ⟨hmembers, hcomplete⟩ :=
    installationFiles_spec (wheelMembers_named hfiles) (wheelLayout_suffix hlayout) hcaptured
  have hpaths (path : Path) : path ∈ (captured.map (·.1)).toFinset ↔
      ∃ content, (path, content) ∈ captured := by
    rw [List.mem_toFinset, List.mem_map]
    exact ⟨fun ⟨file, hfile, he⟩ => ⟨file.2, he ▸ hfile⟩, fun ⟨content, hfile⟩ => ⟨_, hfile, rfl⟩⟩
  refine ⟨files, layout, hfiles, hlayout, ?_, hcomplete, hpaths, ?_⟩
  · intro path content hfile
    obtain ⟨name, hmember, hname, hpath, hlocate⟩ := hmembers _ hfile
    exact ⟨name, hmember, hpath, hname.forward, hlocate⟩
  · rintro source hsource namespaceName rfl hname path hpath hkind
    obtain ⟨hcapturedSource, hpy⟩ := List.mem_filter.1 hsource
    have hnamespace : removePySuffix (topLevel distribution.fs.root source.1) ∈
        namespacesOf distribution.fs captured :=
      List.mem_map.2 ⟨source.1, List.mem_filter.2 ⟨List.mem_map_of_mem hcapturedSource, hpy⟩, rfl⟩
    have hadmitted := admitted_of_inNamespace hname
      (namespaceClosure_checked hclosure _ hnamespace) hpath hkind
    refine ⟨hkind.resolve_right hadmitted.not_link, ?_⟩
    obtain ⟨-, hin | hderived⟩ := hadmitted
    · exact .inl hin
    · obtain ⟨hpyc, sourcePath, hsourcePath, hcache⟩ := derivedCache_eq_true hderived
      obtain ⟨hsourcePath, hsuffix⟩ := Finset.mem_filter.1 hsourcePath
      obtain ⟨content, hcontent⟩ := (hpaths sourcePath).1 hsourcePath
      exact .inr ⟨hpyc, (sourcePath, content),
        List.mem_filter.2 ⟨hcontent, decide_eq_true hsuffix⟩, hcache⟩

/-! ## A wheel of one module -/

/-- The bytes of an ASCII text. -/
def asciiBytes (text : String) : Bytes := text.toList.map fun c => UInt8.ofNat c.toNat

/-- The text of ASCII bytes. -/
def asciiText (bytes : Bytes) : List Char := bytes.map fun b => Char.ofNat b.toNat

def moduleSource : Bytes := asciiBytes "x = 1\n"

def moduleWheel : Bytes := asciiBytes "Wheel-Version: 1.0\nRoot-Is-Purelib: true\n"

def moduleMetadata : Bytes := asciiBytes "Name: ev\nVersion: 1\n"

/-- The rows of the RECORD. -/
def moduleRows : List (List String) :=
  [["ev.py", "sha256=nia_NpkRxFwkPGhBR7I_yeHc_PJX0pmhxjIBam_NM_Q", "6"],
    ["ev-1.dist-info/WHEEL", "sha256=pOC2U1k6hCf_vkZe7h2snGRWx-C20Xjuc3a02KQn2OY", "41"],
    ["ev-1.dist-info/METADATA", "sha256=et6Hsv8URLGvNTfcPMWh2gDRNvPwJKjkWfFtOMH3uPc", "20"],
    ["ev-1.dist-info/RECORD", "", ""]]

/-- The RECORD: the fields of a row between commas, and a line feed after each row. -/
def moduleRecord : Bytes :=
  moduleRows.flatMap fun row =>
    List.intercalate (asciiBytes ",") (row.map asciiBytes) ++ asciiBytes "\n"

/-- What the libraries compute of the texts of this wheel. -/
def plainTools : BindingTools where
  csvRows raw := if raw.length = moduleRecord.length then some moduleRows else none
  encodedDigest _ payload :=
    if payload.length = moduleSource.length then "nia_NpkRxFwkPGhBR7I_yeHc_PJX0pmhxjIBam_NM_Q"
    else if payload.length = moduleWheel.length then "pOC2U1k6hCf_vkZe7h2snGRWx-C20Xjuc3a02KQn2OY"
    else "et6Hsv8URLGvNTfcPMWh2gDRNvPwJKjkWfFtOMH3uPc"
  header raw field :=
    (((asciiText raw).splitOn '\n').find? fun line => (field ++ ": ").toList.isPrefixOf line).map
      fun line => String.ofList (line.drop (field ++ ": ").toList.length)
  parseWheelFilename filename := if filename = "ev-1-py3-none-any.whl" then some ("ev", "1") else none
  canonicalizeName name := name
  parseVersion version := some version
  entryPoints _ := .ok []
  decodeText raw := some (String.ofList (asciiText raw))
  repr value := "'" ++ value ++ "'"
  isAlnum := Char.isAlphanum
  pycachePrefix := none
  fnmatch _ _ := false

def moduleMembers : List (String × Bytes) :=
  [("ev.py", moduleSource), ("ev-1.dist-info/WHEEL", moduleWheel),
    ("ev-1.dist-info/METADATA", moduleMetadata), ("ev-1.dist-info/RECORD", moduleRecord)]

def moduleArchive : AuthenticatedWheel where
  filename := "ev-1-py3-none-any.whl"
  sha256 := ""
  archive := .ok (moduleMembers.map fun file =>
    ⟨file.1, 0o100644 <<< 16, 0, file.2.length, .ok file.2⟩)
  limits := ⟨1000, 1000, 10, 10⟩

/-- The module, its metadata and its bytecode cache. -/
def moduleDistribution : Distribution where
  fs := {
    root := ["site-packages"]
    entries := [("ev.py", .file moduleSource),
      ("ev-1.dist-info", .directory [("WHEEL", .file moduleWheel),
        ("METADATA", .file moduleMetadata), ("RECORD", .file moduleRecord)]),
      ("__pycache__", .directory [("ev.cpython-312.pyc", .file [])])]
    outside := {
      lstat := fun _ => none
      stat := fun _ => none
      listing := fun _ => []
      walk := fun _ => []
      stat_of_lstat := fun _ _ h => by cases h
      mem_listing := fun _ _ _ h => by cases h } }
  canonicalRoot := true
  readText filename := (moduleMembers.lookup ("ev-1.dist-info/" ++ filename)).map fun raw =>
    String.ofList (asciiText raw)

theorem bindInstallation_onlyTheWheel_module : ∃ installation files, ∃ layout : String × String × String,
    bindInstallation plainTools moduleArchive moduleDistribution = .ok installation ∧
      OnlyTheWheel plainTools moduleDistribution.fs files layout.1 installation := by
  obtain ⟨installation, hbind, -⟩ := exists_ok_of_any
    (x := bindInstallation plainTools moduleArchive moduleDistribution) (p := fun _ => true)
    (by decide +kernel)
  obtain ⟨files, layout, -, -, honly⟩ := bindInstallation_onlyTheWheel hbind
  exact ⟨installation, files, layout, hbind, honly⟩

end RoboticsRuntime.Harness
