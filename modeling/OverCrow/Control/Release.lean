import OverCrow.Base.Text

/-!
# Releases and packages

The values that the update controller, the release source, the downloader and the installer pass to
each other, `crates/overcrow-control/src/updates.rs:34-194`, and the names of the packages,
`crates/overcrow-control/src/update_release.rs:289-333`.
-/

namespace OverCrow.Control
open OverCrow.Base

/-- `semver::Version`; the identifiers after `-` and `+` are texts. -/
structure Version where
  major : Nat
  minor : Nat
  patch : Nat
  pre : String := ""
  build : String := ""
  deriving DecidableEq, Inhabited

/-- `base_version`, `update_release.rs:331`. -/
def Version.base (version : Version) : String :=
  s!"{version.major}.{version.minor}.{version.patch}"

/-- `Display` of `semver::Version`. -/
def Version.text (version : Version) : String :=
  version.base ++ (if version.pre.isEmpty then "" else "-" ++ version.pre) ++
    (if version.build.isEmpty then "" else "+" ++ version.build)

/-- `updates.rs:87`. -/
inductive ReleaseChannel where
  | stable
  | preRelease
  deriving DecidableEq

/-- `updates.rs:93`. -/
def ReleaseChannel.fromCurrent (version : Version) : ReleaseChannel :=
  if version.pre.isEmpty then .stable else .preRelease

/-- `updates.rs:51`. -/
inductive UpdateInstallKind where
  | arch
  | rpm
  | deb
  | rpmOstree
  | manual
  deriving DecidableEq

/-- `updates.rs:103`. -/
inductive PackageTarget where
  | arch
  | rpm (fedoraMajor : UInt16)
  | deb
  | rpmOstree (fedoraMajor : UInt16)
  | manual
  deriving DecidableEq

/-- `updates.rs:112`. -/
def PackageTarget.installKind : PackageTarget → UpdateInstallKind
  | arch => .arch
  | rpm _ => .rpm
  | deb => .deb
  | rpmOstree _ => .rpmOstree
  | manual => .manual

/-- The 32 bytes of a SHA-256 digest. -/
abbrev Digest := Vector UInt8 32

/-- `updates.rs:124`. -/
structure UpdateAsset where
  name : String
  apiUrl : String
  size : Nat
  sha256 : Digest
  deriving DecidableEq

/-- `updates.rs:132`. -/
structure UpdateCandidate where
  version : Version
  releasePage : String
  asset : Option UpdateAsset
  deriving DecidableEq

/-- `crates/overcrow-control/src/update_download.rs:41`. -/
structure VerifiedPackage where
  path : PathBuf
  size : Nat
  sha256 : Digest
  deriving DecidableEq

/-- `update_release.rs:47`. -/
structure ReleaseQuery where
  current : Version
  channel : ReleaseChannel
  target : PackageTarget
  deriving DecidableEq

/-- `crates/overcrow-control/src/update_install.rs:256`. -/
inductive InstallOutcome where
  | installed
  | restartRequired
  deriving DecidableEq

/-- `updates.rs:61`. -/
inductive UpdateErrorCode where
  | busy
  | unavailable
  | network
  | invalidResponse
  | download
  | verification
  | runtimeStop
  | authorizationCancelled
  | installation
  | timeout
  | openPage
  deriving DecidableEq

/-- `updates.rs:139`. -/
inductive UpdateError where
  | invalidResponse
  | operationBusy
  | unavailable
  | network
  | timeout
  | untrustedRedirect
  | downloadTooLarge
  | digestMismatch
  | unsafeCache
  | download
  | runtimeStop
  | authorizationCancelled
  | installation
  | openPage
  deriving DecidableEq

/-- `updates.rs:157`. -/
def UpdateError.code : UpdateError → UpdateErrorCode
  | operationBusy => .busy
  | unavailable => .unavailable
  | network | untrustedRedirect => .network
  | invalidResponse => .invalidResponse
  | downloadTooLarge | download => .download
  | digestMismatch | unsafeCache => .verification
  | runtimeStop => .runtimeStop
  | authorizationCancelled => .authorizationCancelled
  | installation => .installation
  | timeout => .timeout
  | openPage => .openPage

end OverCrow.Control
