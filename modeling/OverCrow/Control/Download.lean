import OverCrow.Base.Machine
import OverCrow.Base.Task
import OverCrow.Control.Model
import OverCrow.Control.Release

/-!
# The package downloader

`crates/overcrow-control/src/update_download.rs` over the cache directory, its parents, and the
answers of the network. Which operation of the file system fails is told by its number among all
that the call makes. The URL parser and SHA-256 are given.
-/

namespace OverCrow.Control
open OverCrow.Base

/-! ### Names of packages -/

/-- `crates/overcrow-control/src/update_release.rs:300`. -/
def archAssetName (version : Version) : String :=
  let normalized := version.base ++ String.ofList (version.pre.toList.filter isAsciiAlphanumeric)
  "overcrow-bin-" ++ normalized ++ "-1-x86_64.pkg.tar.zst"

/-- The part of a name after the base of a version. -/
def preWith (mark : Char) (hyphen : Char) (version : Version) : String :=
  if version.pre.isEmpty then ""
  else String.ofList (mark :: version.pre.toList.map fun c => if c = '-' then hyphen else c)

/-- `update_release.rs:313`. -/
def rpmAssetName (version : Version) (fedoraMajor : UInt16) : String :=
  let normalized := version.base ++ preWith '.' '_' version
  "overcrow-" ++ normalized ++ s!"-1.fc{fedoraMajor.toNat}.x86_64.rpm"

/-- `update_release.rs:322`. -/
def debAssetName (version : Version) : String :=
  let normalized := version.base ++ preWith '~' '.' version
  "overcrow_" ++ normalized ++ "-1_amd64.deb"

/-- `update_release.rs:289`: the name of every
asset that `select_release` returns. -/
def expectedAssetName (version : Version) : PackageTarget → Option String
  | .arch => some (archAssetName version)
  | .rpm fedoraMajor => some (rpmAssetName version fedoraMajor)
  | .rpmOstree fedoraMajor => some (rpmAssetName version fedoraMajor)
  | .deb => some (debAssetName version)
  | .manual => none

/-! ### The network -/

/-- What the downloader reads of a URL. -/
structure Url where
  scheme : String
  host : Option String
  username : String
  password : Option String
  deriving DecidableEq

/-- `update_download.rs:87`. -/
structure DownloadTrust where
  httpsOnly : Bool
  approvedHosts : List String

/-- `update_download.rs:29`. -/
def approvedAssetHosts : List String :=
  ["api.github.com", "github.com", "release-assets.githubusercontent.com",
    "objects.githubusercontent.com"]

/-- The schemes that are allowed, `update_download.rs:257-261`. -/
def DownloadTrust.schemeAllowed (trust : DownloadTrust) (scheme : String) : Bool :=
  if trust.httpsOnly then scheme = "https" else scheme = "http" || scheme = "https"

/-- `update_download.rs:256`. -/
def DownloadTrust.validate (trust : DownloadTrust) (url : Url) : Except UpdateError Unit :=
  if !trust.schemeAllowed url.scheme || !trust.approvedHosts.contains (url.host.getD "") ||
      url.username ≠ "" || url.password.isSome then .error .untrustedRedirect
  else .ok ()

/-- A read of the body: the bytes that it returns, none at the end, or an error. -/
inductive BodyRead where
  | data (bytes : List UInt8)
  | failed (timedOut : Bool)

/-- What comes of a request. -/
inductive Response where
  | failed (timedOut : Bool)
  | answer (status : Nat) (location : Option String) (body : List BodyRead)

/-- The answers to the requests of a call in order, and whether the time is up before each. -/
structure Network where
  timeUp : Nat → Bool
  response : Nat → Response

/-- The errors of `map_network_error` and `map_read_error`,
`update_download.rs:399-412`. -/
def transferError (timedOut : Bool) : UpdateError := if timedOut then .timeout else .download

/-! ### The file system -/

/-- What `symlink_metadata` tells of a directory on the way to the cache. -/
structure Node where
  isDirectory : Bool
  /-- The user is the owner. -/
  owned : Bool
  mode : Nat

/-- A file of the cache directory. -/
structure CacheEntry where
  name : String
  isFile : Bool
  /-- The user is the owner. -/
  owned : Bool
  mode : Nat
  contents : List UInt8

/-- The file system during a call, and what the call has done. -/
structure DownloadState where
  nodes : List (List Char) → Option Node
  entries : List CacheEntry
  /-- The operations of the file system that were made. -/
  operations : Nat := 0
  requested : List Url := []
  /-- The bytes that were written, those of a failed write among them. -/
  written : Nat := 0
  /-- The temporary file could not be removed. -/
  removalFailed : Bool := false

/-- What a downloader is made for, and what a call meets. -/
structure Downloader where
  cacheRoot : PathBuf
  trust : DownloadTrust
  requireManagedLayout : Bool
  parseUrl : String → Option Url
  sha256 : List UInt8 → Digest
  network : Network
  /-- The operations that fail; of a write, how many bytes were written before. -/
  faults : Nat → Option Nat
  /-- `Uuid::new_v4`. -/
  uuid : String

/-- `update_download.rs:23`. -/
def maxRedirects : Nat := 2

/-- `update_download.rs:36`. -/
def maxCacheEntries : Nat := 32

/-- `update_release.rs:12`. -/
def maxPackageBytes : Nat := 128 * 1024 * 1024

/-- A part of a call. -/
abbrev Downloading := Task DownloadState UpdateError

namespace Downloader

variable (d : Downloader)

/-- The name of the temporary file, `update_download.rs:197`. -/
def temporary : String := ".download-" ++ d.uuid

/-- Go on if the condition holds. -/
def require (condition : Bool) (error : UpdateError) : Downloading PUnit :=
  if condition then pure ⟨⟩ else throw error

/-- An operation of the file system, with the error that its failure is mapped to. -/
def operation (error : UpdateError) : Downloading PUnit := do
  let s ← get
  modify fun s => { s with operations := s.operations + 1 }
  require (d.faults s.operations).isNone error

/-- `symlink_metadata` of a path; there may be nothing. -/
def symlinkMetadata (path : List (List Char)) : Downloading (Option Node) := do
  d.operation .unsafeCache
  let s ← get
  pure (s.nodes path)

/-- Put a node in place; a new cache directory is empty. -/
def putNode (path : List (List Char)) (node : Node) (s : DownloadState) : DownloadState :=
  { s with
    nodes := fun other => if other = path then some node else s.nodes other
    entries :=
      if path = d.cacheRoot.components ∧ (s.nodes path).isNone then [] else s.entries }

/-- The directory that is there, or a new one, `update_download.rs:318-331`. -/
def requireOrCreate (path : List (List Char)) : Option Node → Downloading PUnit
  | some node => require (node.isDirectory && node.owned) .unsafeCache
  | none => do
    d.operation .unsafeCache
    modify (d.putNode path ⟨true, true, 0o700⟩)

def withMode (path : List (List Char)) (mode : Nat) (s : DownloadState) : DownloadState :=
  { s with nodes := fun other => (s.nodes other).map fun node =>
      if other = path then { node with mode := mode } else node }

/-- `set_permissions`. -/
def setPermissions (path : List (List Char)) (mode : Nat) : Downloading PUnit := do
  d.operation .unsafeCache
  let s ← get
  require (s.nodes path).isSome .unsafeCache
  modify (withMode path mode)

/-- `update_download.rs:317`. -/
def ensurePrivateDirectory (path : List (List Char)) : Downloading PUnit := do
  let node ← d.symlinkMetadata path
  d.requireOrCreate path node
  d.setPermissions path 0o700
  let node ← d.symlinkMetadata path
  require (node.any fun node => node.isDirectory && node.owned && node.mode &&& 0o077 = 0)
    .unsafeCache

/-- `update_download.rs:304`: each
beginning of the path is a directory. -/
def validateExistingDirectoryPath : List (List (List Char)) → Downloading PUnit
  | [] => pure ⟨⟩
  | path :: rest => do
    let node ← d.symlinkMetadata path
    require (node.any Node.isDirectory) .unsafeCache
    validateExistingDirectoryPath rest

/-- `Path::parent` of an absolute path. -/
def parentOf (path : List (List Char)) : Option (List (List Char)) :=
  if path.length ≤ 1 then none else some path.dropLast

/-- A cache directory that is not there yet, `update_download.rs:285-301`. -/
def createCache (path : List (List Char)) : Downloading PUnit :=
  match parentOf path with
  | none => throw .unsafeCache
  | some applicationRoot =>
    match parentOf applicationRoot with
    -- The layout is checked before; the error is the same.
    | none => throw .unsafeCache
    | some cacheBase => do
      require (!d.requireManagedLayout || (path.getLast? = some "updates".toList &&
        applicationRoot.getLast? = some "overcrow".toList)) .unsafeCache
      d.validateExistingDirectoryPath (cacheBase.inits.drop 1)
      let node ← d.symlinkMetadata cacheBase
      require (node.any Node.owned) .unsafeCache
      d.ensurePrivateDirectory applicationRoot
      d.ensurePrivateDirectory path

/-- `update_download.rs:276`. -/
def ensurePrivateCache : Downloading PUnit := do
  require d.cacheRoot.isAbsolute .unsafeCache
  let node ← d.symlinkMetadata d.cacheRoot.components
  match node with
  | some _ => d.ensurePrivateDirectory d.cacheRoot.components
  | none => d.createCache d.cacheRoot.components

/-- An entry that the cache may hold, `update_download.rs:357-361`. -/
def CacheEntry.removable (entry : CacheEntry) : Bool :=
  entry.isFile && entry.owned &&
    (".download-".toList.isPrefixOf entry.name.toList || "overcrow".toList.isPrefixOf entry.name.toList)

/-- The first loop of `clear_cache`, `update_download.rs:344-364`. -/
def inspectEntries : Nat → List CacheEntry → Downloading PUnit
  | _, [] => pure ⟨⟩
  | index, entry :: rest => do
    require (index < maxCacheEntries) .unsafeCache
    d.operation .unsafeCache
    d.operation .unsafeCache
    require (CacheEntry.removable entry) .unsafeCache
    inspectEntries (index + 1) rest

/-- `fs::remove_file` of a file of the cache. -/
def withoutEntry (name : String) (s : DownloadState) : DownloadState :=
  { s with entries := s.entries.filter (·.name ≠ name) }

/-- The second loop of `clear_cache`, `update_download.rs:365-367`. -/
def removeEntries : List CacheEntry → Downloading PUnit
  | [] => pure ⟨⟩
  | entry :: rest => do
    d.operation .unsafeCache
    modify (withoutEntry entry.name)
    removeEntries rest

/-- `update_download.rs:342`. -/
def clearCache : Downloading PUnit := do
  d.operation .unsafeCache
  let s ← get
  d.inspectEntries 0 s.entries
  d.removeEntries s.entries

/-- `update_download.rs:371`. -/
def validateAssetName (name : String) : Except UpdateError Unit :=
  if name.isEmpty || 256 < name.utf8ByteSize || name.toList.contains '/' ||
      fileName ⟨name⟩ ≠ some name.toList then .error .unsafeCache
  else .ok ()

/-- Bytes at the end of the temporary file. -/
def appendBytes (bytes : List UInt8) (s : DownloadState) : DownloadState :=
  { s with
    operations := s.operations + 1
    written := s.written + bytes.length
    entries := s.entries.map fun entry =>
      if entry.name = d.temporary then { entry with contents := entry.contents ++ bytes }
      else entry }

/-- `write_all` to the temporary file. -/
def writeAll (bytes : List UInt8) : Downloading PUnit := do
  let s ← get
  match d.faults s.operations with
  | none => modify (d.appendBytes bytes)
  | some count => do
    modify (d.appendBytes (bytes.take count))
    throw .download

/-- The loop of `write_verified`, `update_download.rs:210-222`, with the
bytes that the hasher was given. -/
def copyBody (asset : UpdateAsset) : List BodyRead → Nat → List UInt8 → Downloading (Nat × List UInt8)
  | [], written, hashed => pure (written, hashed)
  | .failed timedOut :: _, _, _ => throw (transferError timedOut)
  | .data [] :: _, written, hashed => pure (written, hashed)
  | .data bytes :: rest, written, hashed =>
    match (checkedAdd u64Max written bytes.length).filter fun value =>
      value ≤ asset.size && value ≤ maxPackageBytes with
    | none => throw .downloadTooLarge
    | some written => do
      d.writeAll bytes
      copyBody asset rest written (hashed ++ bytes)

/-- `OpenOptions::open` with `create_new`, `update_download.rs:200-206`. -/
def createTemporary : Downloading PUnit := do
  d.operation .unsafeCache
  let s ← get
  require (s.entries.all (·.name ≠ d.temporary)) .unsafeCache
  modify fun s => { s with entries := s.entries ++ [⟨d.temporary, true, true, 0o600, []⟩] }

/-- `fs::rename`, `update_download.rs:234`. -/
def renameTemporary (name : String) (s : DownloadState) : DownloadState :=
  { s with entries :=
      (s.entries.filter fun entry => entry.name = d.temporary ∨ entry.name ≠ name).map fun entry =>
        if entry.name = d.temporary then { entry with name := name } else entry }

/-- `VerifiedPackage::validate` of a file of the cache,
`update_download.rs:52,382`. -/
def validatePackage (name : String) (size : Nat) (digest : Digest) : Downloading PUnit := do
  d.operation .unsafeCache
  let s ← get
  match s.entries.find? (·.name = name) with
  | none => throw .unsafeCache
  | some entry => do
    require (entry.isFile && entry.owned && entry.contents.length = size &&
      entry.mode &&& 0o077 = 0) .unsafeCache
    d.operation .unsafeCache
    d.operation .unsafeCache
    require (d.sha256 entry.contents = digest) .digestMismatch

/-- `fs::remove_file` of the temporary file, whose failure is ignored. -/
def removeTemporary (s : DownloadState) : DownloadState :=
  if (d.faults s.operations).isSome then { s with removalFailed := true }
  else withoutEntry d.temporary s

/-- `Path::join` with the name of a file. -/
def joinPath (path : PathBuf) (name : String) : PathBuf :=
  if path.raw.isEmpty || path.raw.toList.getLast? = some '/' then ⟨path.raw ++ name⟩
  else ⟨path.raw ++ "/" ++ name⟩

/-- The closure of `write_verified`, `update_download.rs:199-244`. -/
def writePackage (asset : UpdateAsset) (body : List BodyRead) : Downloading VerifiedPackage := do
  d.createTemporary
  let copied ← d.copyBody asset body 0 []
  require (copied.1 = asset.size) .download
  require (d.sha256 copied.2 = asset.sha256) .digestMismatch
  d.operation .download
  d.operation .unsafeCache
  modify (d.renameTemporary asset.name)
  d.operation .unsafeCache
  d.operation .unsafeCache
  d.validatePackage asset.name asset.size asset.sha256
  pure ⟨joinPath d.cacheRoot asset.name, asset.size, asset.sha256⟩

/-- `update_download.rs:191`. -/
def writeVerified (asset : UpdateAsset) (body : List BodyRead) : Downloading VerifiedPackage :=
  (d.writePackage asset body).onError d.removeTemporary

def liftUpdate : Except UpdateError Unit → Downloading PUnit
  | .ok _ => pure ⟨⟩
  | .error error => throw error

/-- A request, `update_download.rs:152-167`. -/
def send (index : Nat) (url : Url) : Downloading PUnit := do
  liftUpdate (d.trust.validate url)
  require (!d.network.timeUp index) .timeout
  modify fun s => { s with requested := s.requested ++ [url] }

/-- What follows a request, `update_download.rs:168-186`, with what is
done about a redirect. -/
def receive (asset : UpdateAsset) (redirect : Url → Downloading VerifiedPackage) :
    Response → Downloading VerifiedPackage
  | .failed timedOut => throw (transferError timedOut)
  | .answer status location body =>
    if 300 ≤ status && status < 400 then
      match location.bind d.parseUrl with
      | none => throw .untrustedRedirect
      | some url => redirect url
    else if status ≠ 200 then throw .download
    else d.writeVerified asset body

/-- The loop of `download_inner`, `update_download.rs:151-188`, with the
redirects that are left. -/
def request (asset : UpdateAsset) : Nat → Nat → Url → Downloading VerifiedPackage
  | 0, index, url => do
    d.send index url
    d.receive asset (fun _ => throw .untrustedRedirect) (d.network.response index)
  | left + 1, index, url => do
    d.send index url
    d.receive asset (fun url => request asset left (index + 1) url) (d.network.response index)

/-- `update_download.rs:141`. -/
def downloadInner (asset : UpdateAsset) : Downloading VerifiedPackage := do
  liftUpdate (validateAssetName asset.name)
  require (0 < asset.size && asset.size ≤ maxPackageBytes) .downloadTooLarge
  d.ensurePrivateCache
  d.clearCache
  match d.parseUrl asset.apiUrl with
  | none => throw .untrustedRedirect
  | some url => d.request asset maxRedirects 0 url

end Downloader

end OverCrow.Control
