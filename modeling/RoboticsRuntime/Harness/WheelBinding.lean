import Mathlib.Data.Finset.Card
import Mathlib.Data.Finset.Lattice.Basic
import Mathlib.Data.Finset.Union
import Mathlib.Data.List.Infix
import RoboticsRuntime.Python.FileTree
import RoboticsRuntime.Python.Paths
import RoboticsRuntime.Theory.Checks

/-!
# The binding of an installation to its wheel

`_wheel_binding.py`. What it uses of the standard library for formats of its own, and of packaging,
is an argument: the archive as `zipfile` opens it, CSV, mail headers, digests, versions, the sections
of entry points, and the wildcards of a name that is no identifier.
-/

namespace RoboticsRuntime.Harness
open Theory Python

abbrev Bytes := List UInt8

/-- `EvaluatorTrustError`, or an exception of the system or of a library. -/
inductive BindingError where
  | evaluatorTrust (message : String)
  | system (exception : String)
  deriving DecidableEq, Repr

/-- The limits that the binding reads. -/
structure BindingLimits where
  maxMemberBytes : ℕ
  maxExpandedBytes : ℕ
  maxMembers : ℕ
  maxCacheEntries : ℕ

/-- `ZipInfo`, with what `archive.read` gives. -/
structure ZipInfo where
  filename : String
  externalAttr : ℕ
  flagBits : ℕ
  fileSize : ℕ
  content : Except BindingError Bytes

/-- `AuthenticatedWheel`, with the members of its archive. -/
structure AuthenticatedWheel where
  filename : String
  sha256 : String
  archive : Except BindingError (List ZipInfo)
  limits : BindingLimits

/-- What the libraries compute. -/
structure BindingTools where
  csvRows : Bytes → Option (List (List String))
  encodedDigest : String → Bytes → String
  header : Bytes → String → Option String
  parseWheelFilename : String → Option (String × String)
  canonicalizeName : String → String
  parseVersion : String → Option String
  entryPoints : Bytes → Except BindingError (List (String × String × String))
  decodeText : Bytes → Option String
  repr : String → String
  isAlnum : Char → Bool
  pycachePrefix : Option Path
  fnmatch : String → String → Bool

/-- `Distribution`: its files, and whether its root is a canonical directory. -/
structure Distribution where
  fs : FileSystem
  canonicalRoot : Bool
  readText : String → Option String

/-! ## The wheel -/

/-- `_name`. -/
def checkName (tools : BindingTools) (value : String) : Except BindingError Unit :=
  let path := purePosixPath value
  require (value ≠ "" ∧ value.utf8ByteSize ≤ 4096 ∧ '\\' ∉ value.toList ∧ '\x00' ∉ value.toList ∧
    path.absolute = false ∧ ".." ∉ path.parts ∧ path.asPosix = value)
    (.evaluatorTrust ("noncanonical wheel/RECORD path: " ++ tools.repr value))

/-- `info.is_dir()`. -/
def ZipInfo.isDir (info : ZipInfo) : Bool := info.filename.toList.getLast? = some '/'

/-- `value.rstrip("/")`. -/
def stripSlashes (value : String) : String :=
  String.ofList (value.toList.reverse.dropWhile (· = '/')).reverse

/-- The body of the loop over the members, with the bytes and the files so far. -/
def readMember (tools : BindingTools) (limits : BindingLimits)
    (seen : ℕ × List (String × Bytes)) (info : ZipInfo) :
    Except BindingError (ℕ × List (String × Bytes)) := do
  checkName tools (if info.isDir then stripSlashes info.filename else info.filename)
  let format := (info.externalAttr >>> 16) &&& 0o170000
  require (format ∈ [0, 0o100000, 0o040000] ∧ info.flagBits &&& 1 = 0)
    (.evaluatorTrust "wheel links and encrypted members are unsupported")
  let total := seen.1 + info.fileSize
  require (info.fileSize ≤ limits.maxMemberBytes ∧ total ≤ limits.maxExpandedBytes)
    (.evaluatorTrust "wheel exceeds its expanded byte limits")
  if info.isDir then return (total, seen.2)
  else
    let content ← info.content
    return (total, assign seen.2 info.filename content)

/-- `_members`. -/
def wheelMembers (tools : BindingTools) (wheel : AuthenticatedWheel) :
    Except BindingError (List (String × Bytes)) := do
  let infos ← wheel.archive
  require (infos.length ≤ wheel.limits.maxMembers) (.evaluatorTrust "wheel has too many members")
  require (Distinct (·.filename) infos) (.evaluatorTrust "wheel has duplicate member names")
  let seen ← infos.foldlM (readMember tools wheel.limits) (0, [])
  return seen.2

/-- The body of the loop over the rows of a RECORD. -/
def readRow (tools : BindingTools) (maxRows : ℕ) (rows : List (String × String × String))
    (row : List String) : Except BindingError (List (String × String × String)) :=
  match row with
  | [path, hash, size] => do
    require (rows.length < maxRows) (.evaluatorTrust "RECORD has too many rows")
    checkName tools path
    require (path ∉ rows.map (·.1)) (.evaluatorTrust s!"duplicate RECORD path: {path}")
    return rows ++ [(path, hash, size)]
  | _ => .error (.evaluatorTrust "RECORD rows must have path, hash and size")

/-- `_record`. -/
def readRecord (tools : BindingTools) (raw : Bytes) (maxRows : ℕ) :
    Except BindingError (List (String × String × String)) := do
  let rows ← demand (tools.csvRows raw) (.evaluatorTrust "invalid UTF-8 CSV RECORD")
  rows.foldlM (readRow tools maxRows) []

/-- `_record_digest`. -/
def checkRecordDigest (tools : BindingTools) (payload : Bytes) (fields : String × String)
    (name : String) : Except BindingError Unit := do
  let algorithm := fields.1.toList.takeWhile (· ≠ '=')
  let expected := fields.1.toList.drop (algorithm.length + 1)
  require ('=' ∈ fields.1.toList ∧ String.ofList algorithm ∈ ["sha256", "sha384", "sha512"])
    (.evaluatorTrust s!"unsupported or absent RECORD digest: {name}")
  require (tools.encodedDigest (String.ofList algorithm) payload = String.ofList expected ∧
    toString payload.length = fields.2) (.evaluatorTrust s!"file bytes disagree with RECORD: {name}")

/-- `_verify_wheel_record`. -/
def verifyWheelRecord (tools : BindingTools) (files : List (String × Bytes)) (directory : String)
    (maxMembers : ℕ) : Except BindingError Unit := do
  let recordName := directory ++ "/RECORD"
  let raw ← demand (files.lookup recordName) (.system "KeyError")
  let records ← readRecord tools raw maxMembers
  require ((∀ entry ∈ records, entry.1 ∈ files.map (·.1)) ∧
    (∀ entry ∈ files, entry.1 ∈ records.map (·.1)) ∧ records.lookup recordName = some ("", ""))
    (.evaluatorTrust "wheel RECORD must cover exactly its original files")
  files.forM fun file =>
    if file.1 ≠ recordName then do
      let fields ← demand (records.lookup file.1) (.system "KeyError")
      checkRecordDigest tools file.2 fields file.1
    else return ()

/-- `_NATIVE_SUFFIXES`. -/
def nativeSuffixes : List String := [".so", ".pyd", ".dll", ".dylib", ".pyc", ".pyo"]

/-- `PurePosixPath(name).suffix`. -/
def nameSuffix (name : String) : String := suffix (purePosixPath name).name

/-- `_reject_startup`. -/
def rejectStartup (files : List (String × Bytes)) : Except BindingError Unit :=
  require (∀ file ∈ files, ¬ ('/' ∉ file.1.toList ∧ ".pth".toList <:+ file.1.toList) ∧
    file.1 ∉ ["sitecustomize.py", "usercustomize.py"])
    (.evaluatorTrust "evaluator profile rejects Python startup hooks")

/-- `_wheel_layout`: the directory of the metadata, the name and the version. -/
def wheelLayout (tools : BindingTools) (wheel : AuthenticatedWheel) (files : List (String × Bytes)) :
    Except BindingError (String × String × String) := do
  let candidates := (files.map (·.1)).filter fun name =>
    ".dist-info/WHEEL".toList.isSuffixOf name.toList
  let candidate ← demand (if candidates.length = 1 then candidates.head? else none)
    (.evaluatorTrust "wheel must have exactly one .dist-info/WHEEL")
  let directory := (purePosixPath candidate).parent.asPosix
  require ('/' ∉ directory.toList) (.evaluatorTrust "wheel dist-info must be at the archive root")
  let metadata ← demand (files.lookup (directory ++ "/METADATA"))
    (.evaluatorTrust "wheel lacks METADATA")
  require (directory ++ "/RECORD" ∈ files.map (·.1)) (.evaluatorTrust "wheel lacks RECORD")
  let name := (tools.header metadata "Name").getD ""
  let version := (tools.header metadata "Version").getD ""
  let identity ← demand (tools.parseWheelFilename wheel.filename) (.system "InvalidWheelFilename")
  let disagree : BindingError := .evaluatorTrust "wheel filename and metadata identities disagree"
  require (tools.canonicalizeName name = identity.1) disagree
  let parsed ← demand (tools.parseVersion version) (.system "InvalidVersion")
  require (parsed = identity.2) disagree
  let configuration ← demand (files.lookup candidate) (.system "KeyError")
  require (tools.header configuration "Wheel-Version" = some "1.0")
    (.evaluatorTrust "only Wheel-Version 1.0 is admitted")
  require (tools.header configuration "Root-Is-Purelib" = some "true")
    (.evaluatorTrust "only self-contained purelib evaluator wheels are admitted")
  require (∀ file ∈ files, ¬ ".data/".toList <:+: file.1.toList ∧
    nameSuffix file.1 ∉ nativeSuffixes)
    (.evaluatorTrust "wheel requires unsupported installation/code transformations")
  rejectStartup files
  verifyWheelRecord tools files directory wheel.limits.maxMembers
  return (directory, name, version)

/-! ## The installation -/

/-- `read_once` of a path that is looked up in the files of the installation. -/
def readOnce (fs : FileSystem) (path : Path) (limit : ℕ) : Except BindingError Bytes :=
  let text := "/" ++ String.intercalate "/" path
  match fs.locate path with
  | .found (.file content) =>
    if content.length ≤ limit then .ok content
    else .error (.evaluatorTrust ("input is not a bounded regular file: " ++ text))
  | .found .link | .beyond => .error (.evaluatorTrust ("input path contains a symlink: " ++ text))
  | .found _ => .error (.evaluatorTrust ("input is not a bounded regular file: " ++ text))
  | .missing => .error (.system "FileNotFoundError")

/-- `path.suffix`. -/
def pathSuffix (path : Path) : String := suffix (path.getLast?.getD "")

/-- `root / name`. -/
def joinName (root : Path) (name : String) : Path :=
  let path := purePosixPath name
  if path.absolute then path.parts else root ++ path.parts

/-- The directory of the sources whose caches are in a directory. -/
def cacheDirectory (tools : BindingTools) (head : Path) : Option Path :=
  let own := if head.getLast? = some "__pycache__" then some head.dropLast else none
  match tools.pycachePrefix with
  | none => own
  | some pycachePrefix =>
    if pycachePrefix <+: head ∧ pycachePrefix.length < head.length then
      some (head.drop pycachePrefix.length)
    else own

/-- The name of the source of a cache: its fields are the name, the tag, an optimization and the
suffix. -/
def cacheSourceName (tools : BindingTools) (filename : String) : Option String :=
  let fields := filename.toList.splitOn '.'
  let optimization := fields.getD 2 []
  if fields.length = 3 ∨ fields.length = 4 ∧ "opt-".toList <+: optimization ∧
      optimization.drop 4 ≠ [] ∧ (optimization.drop 4).all tools.isAlnum then
    some (String.ofList (fields.headD [] ++ ".py".toList))
  else none

/-- `importlib.util.source_from_cache`, nothing where it raises `ValueError`. -/
def sourceFromCache (tools : BindingTools) (path : Path) : Option Path := do
  let directory ← cacheDirectory tools path.dropLast
  let name ← path.getLast? >>= cacheSourceName tools
  return directory ++ [name]

/-- `_derived_cache`. -/
def derivedCache (tools : BindingTools) (fs : FileSystem) (path : Path) (sources : Finset Path) :
    Except BindingError Bool := do
  if pathSuffix path ≠ ".pyc" then return false
  else
    require (fs.isSymlink path = false) (.evaluatorTrust "derived cache must not be a symlink")
    match sourceFromCache tools path with
    | none => return false
    | some source => return source ∈ sources ∧ pathSuffix source = ".py" ∧ fs.isFile source

/-- `_INSTALLER_FILES`. -/
def installerFiles : List String := ["INSTALLER", "REQUESTED", "direct_url.json"]

/-- The body of the loop over the records, with the captured files so far. -/
def captureRecord (tools : BindingTools) (fs : FileSystem) (distInfo : String)
    (files : List (String × Bytes)) (limits : BindingLimits) (sources : Finset Path)
    (captured : List (Path × Bytes)) (record : String × String × String) :
    Except BindingError (List (Path × Bytes)) := do
  let name := record.1
  let fields := record.2
  let recordName := distInfo ++ "/RECORD"
  let path := joinName fs.root name
  if name = recordName then return captured
  else
    let derived ← derivedCache tools fs path sources
    if derived then return captured
    else
      let payload ← readOnce fs path limits.maxMemberBytes
      match files.lookup name with
      | some content =>
        require (payload = content)
          (.evaluatorTrust s!"installed bytes differ from authenticated wheel: {name}")
        require (fields ≠ ("", ""))
          (.evaluatorTrust s!"installed wheel member lacks a digest: {name}")
        checkRecordDigest tools payload fields name
        return assign captured path payload
      | none =>
        require ((purePosixPath name).parent.asPosix = distInfo ∧
          (purePosixPath name).name ∈ installerFiles)
          (.evaluatorTrust s!"installed RECORD contains unadmitted file: {name}")
        if fields ≠ ("", "") then checkRecordDigest tools payload fields name
        return captured

/-- `_installation_files`. -/
def installationFiles (tools : BindingTools) (fs : FileSystem) (distInfo : String)
    (files : List (String × Bytes)) (limits : BindingLimits) :
    Except BindingError (List (Path × Bytes)) := do
  let recordName := distInfo ++ "/RECORD"
  let raw ← readOnce fs (joinName fs.root recordName) limits.maxMemberBytes
  let records ← readRecord tools raw (limits.maxMembers + limits.maxCacheEntries + 3)
  let expected := (files.map (·.1)).filter (· ≠ recordName)
  require ((∀ name ∈ expected, name ∈ records.map (·.1)) ∧
    records.lookup recordName = some ("", ""))
    (.evaluatorTrust "installed RECORD omits original wheel members or rewrites itself")
  let sources := ((expected.filter fun name => nameSuffix name = ".py").map
    (joinName fs.root)).toFinset
  records.foldlM (captureRecord tools fs distInfo files limits sources) []

/-! ## The namespaces -/

/-- `name.removesuffix(".py")`. -/
def removePySuffix (name : String) : String :=
  if ".py".toList <:+ name.toList then String.ofList (name.toList.dropLast.dropLast.dropLast)
  else name

/-- `path.relative_to(root).parts[0]`. -/
def topLevel (root path : Path) : String := (path.drop root.length).headD ""

/-- A name in a pattern that stands for itself. -/
def literalPattern (name : String) : Bool := name.toList.all fun c => c ∉ ['*', '?', '[']

/-- A name matches `namespace.*`. -/
def matchesNamespace (tools : BindingTools) (namespaceName name : String) : Bool :=
  if literalPattern namespaceName then (namespaceName ++ ".").toList.isPrefixOf name.toList
  else tools.fnmatch (namespaceName ++ ".*") name

/-- The candidates of a namespace. -/
def namespaceCandidates (tools : BindingTools) (fs : FileSystem) (namespaceName : String) : List Path :=
  let glob (directory : Path) :=
    ((fs.listing directory).filter (matchesNamespace tools namespaceName)).map
      fun name => directory ++ [name]
  joinName fs.root namespaceName :: glob fs.root ++ glob (fs.root ++ ["__pycache__"])

/-- What the closure of the namespaces compares with. -/
structure ClosureContext where
  captured : Finset Path
  sources : Finset Path
  allowed : Finset Path
  budget : ℕ

/-- `_check_namespace_directories`. -/
def checkNamespaceDirectories (fs : FileSystem) (parent : Path) (children : List String)
    (allowed : Finset Path) : Except BindingError Unit := do
  require (children.length ≤ allowed.card)
    (.evaluatorTrust "installed namespace exceeds its directory entry budget")
  children.forM fun name =>
    require (fs.isSymlink (parent ++ [name]) = false ∧ parent ++ [name] ∈ allowed)
      (.evaluatorTrust "installed namespace contains an extra directory or link")

/-- `_check_namespace_file`, with the paths that are checked so far. -/
def checkNamespaceFile (tools : BindingTools) (fs : FileSystem) (context : ClosureContext)
    (checked : Finset Path) (path : Path) : Except BindingError (Finset Path) := do
  if path ∈ checked then return checked
  else
    require (checked.card < context.budget)
      (.evaluatorTrust "installed namespace exceeds its file/cache entry budget")
    require (fs.isSymlink path = false) (.evaluatorTrust "installed namespace contains a link")
    if path ∈ context.captured then return insert path checked
    else
      let derived ← derivedCache tools fs path context.sources
      require (derived = true) (.evaluatorTrust
        ("installed namespace contains an extra file: /" ++ String.intercalate "/" path))
      return insert path checked

/-- One step of the walk of a candidate. -/
def checkWalkEntry (tools : BindingTools) (fs : FileSystem) (context : ClosureContext)
    (checked : Finset Path) (entry : WalkEntry) : Except BindingError (Finset Path) := do
  checkNamespaceDirectories fs entry.directory entry.children context.allowed
  (entry.names.map fun name => entry.directory ++ [name]).foldlM
    (checkNamespaceFile tools fs context) checked

/-- The body of the loop over the candidates of a namespace. -/
def checkCandidate (tools : BindingTools) (fs : FileSystem) (context : ClosureContext)
    (checked : Finset Path) (candidate : Path) : Except BindingError (Finset Path) :=
  if fs.exists? candidate = false ∧ fs.isSymlink candidate = false then .ok checked
  else if fs.isSymlink candidate then
    .error (.evaluatorTrust "installed namespace contains a link")
  else if fs.isFile candidate then checkNamespaceFile tools fs context checked candidate
  else (fs.walk candidate).foldlM (checkWalkEntry tools fs context) checked

/-- The sets that `_namespace_closure` computes. -/
def closureContext (fs : FileSystem) (captured : List (Path × Bytes)) (limits : BindingLimits)
    (namespaces : Finset String) : ClosureContext :=
  let paths := (captured.map (·.1)).toFinset
  let sources := paths.filter fun path => pathSuffix path = ".py"
  let covered := paths.filter fun path => topLevel fs.root path ∈ namespaces ∨
    path.dropLast = fs.root ∧ stem (path.getLast?.getD "") ∈ namespaces
  let directories := covered.biUnion fun path =>
    (path.inits.filter fun parent => fs.root <+: parent ∧ parent ≠ fs.root ∧ parent ≠ path).toFinset
  { captured := paths
    sources
    allowed := directories ∪ sources.image fun path => path.dropLast ++ ["__pycache__"]
    budget := covered.card + limits.maxCacheEntries }

/-- `namespaces`. -/
def namespacesOf (fs : FileSystem) (captured : List (Path × Bytes)) : List String :=
  ((captured.map (·.1)).filter fun path => pathSuffix path = ".py").map
    fun path => removePySuffix (topLevel fs.root path)

/-- `_namespace_closure`. -/
def namespaceClosure (tools : BindingTools) (fs : FileSystem) (captured : List (Path × Bytes))
    (limits : BindingLimits) : Except BindingError Unit := do
  let namespaces := (namespacesOf fs captured).dedup
  let context := closureContext fs captured limits namespaces.toFinset
  let _ ← (namespaces.flatMap (namespaceCandidates tools fs)).foldlM (checkCandidate tools fs context) ∅

/-! ## The binding -/

/-- `raw.decode("utf-8").replace("\r\n", "\n")`. -/
def replaceCrLf : List Char → List Char
  | '\r' :: '\n' :: rest => '\n' :: replaceCrLf rest
  | c :: rest => c :: replaceCrLf rest
  | [] => []

/-- `expected` of a member of the wheel. -/
def expectedText (tools : BindingTools) : Option Bytes → Except BindingError (Option String)
  | none => .ok none
  | some raw => do
    let text ← demand (tools.decodeText raw) (.system "UnicodeDecodeError")
    return some (String.ofList (replaceCrLf text.toList))

/-- `_metadata_binding`. -/
def metadataBinding (tools : BindingTools) (distribution : Distribution) (distInfo : String)
    (files : List (String × Bytes)) : Except BindingError Unit :=
  ["METADATA", "WHEEL", "entry_points.txt"].forM fun filename => do
    let expected ← expectedText tools (files.lookup (distInfo ++ "/" ++ filename))
    require (distribution.readText filename = expected)
      (.evaluatorTrust s!"supplied distribution metadata differs from wheel: {filename}")

/-- `AuthenticatedInstallation`. -/
structure AuthenticatedInstallation where
  wheelSha256 : String
  distribution : String
  version : String
  paths : Finset Path
  files : List (Path × Bytes)
  sources : List (Path × Bytes)
  entryPoints : List (String × String × String)

/-- `_entry_points`. -/
def entryPointsOf (tools : BindingTools) :
    Option Bytes → Except BindingError (List (String × String × String))
  | none => .ok []
  | some raw => tools.entryPoints raw

/-- `bind_installation`. -/
def bindInstallation (tools : BindingTools) (wheel : AuthenticatedWheel)
    (distribution : Distribution) : Except BindingError AuthenticatedInstallation := do
  let files ← wheelMembers tools wheel
  let layout ← wheelLayout tools wheel files
  let distInfo := layout.1
  require (distribution.canonicalRoot = true)
    (.evaluatorTrust "installed distribution root must be a canonical directory")
  metadataBinding tools distribution distInfo files
  let captured ← installationFiles tools distribution.fs distInfo files wheel.limits
  namespaceClosure tools distribution.fs captured wheel.limits
  let sources := captured.filter fun file => pathSuffix file.1 = ".py"
  require (sources ≠ []) (.evaluatorTrust "evaluator wheel contains no authenticated Python source")
  let entryPoints ← entryPointsOf tools (files.lookup (distInfo ++ "/entry_points.txt"))
  return {
    wheelSha256 := wheel.sha256
    distribution := tools.canonicalizeName layout.2.1
    version := layout.2.2
    paths := (captured.map (·.1)).toFinset
    files := captured
    sources
    entryPoints }

end RoboticsRuntime.Harness
