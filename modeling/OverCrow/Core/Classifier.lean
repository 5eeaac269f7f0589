import OverCrow.Base.Machine
import OverCrow.Config.Lifecycle

/-!
# Process classification

`crates/overcrow-core/src/classifier.rs`. The identity of a process is read from its
chain of ancestors: at most 64 processes, each visited once, stopping at the first pid
that is not in the process map.
-/

namespace OverCrow.Core
open OverCrow.Base OverCrow.Config

/-- `classifier.rs:9`. -/
def maxAncestors : Nat := 64

/-- `classifier.rs:13`. -/
structure ProcessTiming where
  elapsedAtObservation : Duration
  observedAt : Instant
  deriving DecidableEq, Inhabited

/-- `classifier.rs:26`. -/
def ProcessTiming.elapsedAt (timing : ProcessTiming) (now : Instant) : Duration :=
  addDuration timing.elapsedAtObservation (durationSince now timing.observedAt)

/-- `classifier.rs:46`. -/
structure ProcessResources where
  totalCpuTicks : Nat := 0
  residentBytes : Nat := 0
  deriving DecidableEq, Inhabited

/-- `classifier.rs:33`. -/
structure ProcessInfo where
  pid : UInt32 := 0
  parentPid : UInt32 := 0
  startTicks : UInt64 := 0
  timing : Option ProcessTiming := none
  resources : ProcessResources := {}
  name : String := ""
  environment : Std.ExtTreeMap String String := ∅
  commandLine : List String := []
  executable : Option PathBuf := none

/-- The process map of the runtime: a `HashMap` whose iteration order is never observed. -/
abbrev ProcessMap := Std.ExtTreeMap UInt32 ProcessInfo

/-- `classifier.rs:52`. -/
structure ProcessClassification where
  steamAppId : Option UInt32 := none
  isGameCandidate : Bool := false
  deriving DecidableEq, Inhabited

/-- `classifier.rs:104`: the first of the two
environment keys that holds a positive 32-bit number. -/
def steamAppId (process : ProcessInfo) : Option UInt32 :=
  ["SteamAppId", "SteamGameId"].findSome? fun key => do
    let value ← process.environment[key]?
    let id ← parseUnsigned u32Max value
    if id ≠ 0 then some (UInt32.ofNat id) else none

/-- `classifier.rs:124`. -/
def relatedText (value : String) : Bool :=
  let value := toAsciiLowercase value
  containsText value "wine".toList || containsText value "proton".toList ||
    ".exe".toList.isSuffixOf value

/-- `classifier.rs:115`. -/
def looksGameRelated (process : ProcessInfo) : Bool :=
  relatedText process.name || process.commandLine.any relatedText ||
    process.executable.any fun path => relatedText path.raw

/-- One visited process extends the identity, `classifier.rs:88`.
The chain holds each executable once, so it is also the set of those already seen. -/
def visit (identity : ProcessIdentity) (process : ProcessInfo) : ProcessIdentity where
  steamAppId := identity.steamAppId.or (steamAppId process)
  executableChain := match process.executable with
    | some executable =>
      if identity.executableChain.any (· == executable) then identity.executableChain
      else identity.executableChain ++ [executable]
    | none => identity.executableChain
  gameCandidate := identity.gameCandidate || looksGameRelated process

/-- The loop of `classify_process_identity`, `classifier.rs:79`. -/
def classifyLoop (processes : ProcessMap) :
    Nat → UInt32 → List UInt32 → ProcessIdentity → ProcessIdentity
  | 0, _, _, identity => identity
  | fuel + 1, nextPid, seenPids, identity =>
    if seenPids.contains nextPid then identity
    else match processes[nextPid]? with
      | none => identity
      | some process =>
        classifyLoop processes fuel process.parentPid (nextPid :: seenPids)
          (visit identity process)

/-- `classifier.rs:70`. -/
def classifyProcessIdentity (pid : UInt32) (processes : ProcessMap) : ProcessIdentity :=
  let identity := classifyLoop processes maxAncestors pid [] {}
  { identity with gameCandidate := identity.gameCandidate || identity.steamAppId.isSome }

/-- A pid outside the map has the empty identity. -/
theorem classifyProcessIdentity_of_absent {pid : UInt32} {processes : ProcessMap}
    (h : processes[pid]? = none) : classifyProcessIdentity pid processes = {} := by
  simp [classifyProcessIdentity, maxAncestors, classifyLoop, h]

/-- An authorised identity belongs to a process of the map. -/
theorem present_of_allowsIdentity {pid : UInt32} {processes : ProcessMap}
    {allowlist : GameAllowlist}
    (h : allowlist.allowsIdentity (classifyProcessIdentity pid processes) = true) :
    ∃ process, processes[pid]? = some process := by
  cases hp : processes[pid]? with
  | some process => exact ⟨process, rfl⟩
  | none =>
    rw [classifyProcessIdentity_of_absent hp, GameAllowlist.allowsIdentity_default] at h
    cases h

end OverCrow.Core
