import OverCrow.Core.Classifier
import OverCrow.Protocol.State

/-!
# Process telemetry and the manual stopwatch

`crates/overcrow-core/src/telemetry.rs` and `crates/overcrow-core/src/manual_stopwatch.rs`.
A sample sums the resources of one process group; the sampler compares it with the
previous sample of the same group.
-/

namespace OverCrow.Core
open OverCrow.Base OverCrow.Protocol

/-- `telemetry.rs:13`. -/
inductive ProcessGroupIdentity where
  | steam (id : UInt32)
  | native
  deriving DecidableEq

/-- `telemetry.rs:19`. -/
structure ProcessGroupKey where
  activePid : UInt32
  activeStartTicks : UInt64
  identity : ProcessGroupIdentity
  deriving DecidableEq

/-- `telemetry.rs:26`. -/
structure ProcessSample where
  key : ProcessGroupKey
  resources : ProcessResources
  observedAt : Instant
  deriving DecidableEq

/-- `telemetry.rs:58`. -/
structure TelemetrySampler where
  previous : Option ProcessSample := none
  deriving DecidableEq

/-- `telemetry.rs:149`. -/
def cpuPercentHundredths (previous current : ProcessSample) (ticksPerSecond : Nat) :
    Option Nat := do
  let elapsedNanos ← checkedDurationSince current.observedAt previous.observedAt
  let elapsedTicks ← checkedMul u128Max elapsedNanos ticksPerSecond
  if elapsedTicks = 0 then none
  let tickDelta ← checkedSub current.resources.totalCpuTicks previous.resources.totalCpuTicks
  let hundredths := saturatingMul u128Max (saturatingMul u128Max tickDelta 10000) 1000000000 /
    elapsedTicks
  some (clampTo u32Max hundredths)

/-- `telemetry.rs:63`. -/
def TelemetrySampler.observe (sampler : TelemetrySampler) (sample : ProcessSample)
    (ticksPerSecond : Nat) : TelemetrySampler × GameTelemetry :=
  (⟨some sample⟩,
    { cpuPercentHundredths := sampler.previous.bind fun previous =>
        if previous.key = sample.key then cpuPercentHundredths previous sample ticksPerSecond
        else none
      residentBytes := some sample.resources.residentBytes })

/-- `telemetry.rs:113`. -/
def aggregateResources (processes : List ProcessInfo) : ProcessResources :=
  processes.foldl (fun total process =>
    { totalCpuTicks := saturatingAdd u64Max total.totalCpuTicks process.resources.totalCpuTicks
      residentBytes := saturatingAdd u64Max total.residentBytes process.resources.residentBytes })
    {}

/-- The loop of `is_descendant_or_self`, `telemetry.rs:126`. -/
def isDescendantOrSelf (processes : ProcessMap) (activePid : UInt32) :
    Nat → UInt32 → List UInt32 → Bool
  | 0, _, _ => false
  | fuel + 1, nextPid, seen =>
    if seen.contains nextPid then false
    else if nextPid = activePid then true
    else match processes[nextPid]? with
      | none => false
      | some process =>
        isDescendantOrSelf processes activePid fuel process.parentPid (nextPid :: seen)

/-- `telemetry.rs:82`. -/
def collectProcessSample (activePid : UInt32) (steamAppId : Option UInt32)
    (processes : ProcessMap) (observedAt : Instant) : Option ProcessSample := do
  let active ← processes[activePid]?
  let resources ← match steamAppId with
    | some id =>
      if (classifyProcessIdentity activePid processes).steamAppId = some id then
        some (aggregateResources (processes.values.filter fun process =>
          (classifyProcessIdentity process.pid processes).steamAppId = some id))
      else none
    | none =>
      some (aggregateResources (processes.values.filter fun process =>
        isDescendantOrSelf processes activePid maxAncestors process.pid []))
  some
    { key :=
        { activePid
          activeStartTicks := active.startTicks
          identity := steamAppId.elim .native .steam }
      resources, observedAt }

/-- `manual_stopwatch.rs:6`. -/
structure ManualStopwatch where
  accumulated : Duration := 0
  startedAt : Option Instant := none
  deriving DecidableEq

namespace ManualStopwatch

/-- `manual_stopwatch.rs:12`. -/
def toggle (watch : ManualStopwatch) (now : Instant) : ManualStopwatch :=
  match watch.startedAt with
  | some startedAt =>
    { accumulated := addDuration watch.accumulated (durationSince now startedAt)
      startedAt := none }
  | none => { watch with startedAt := some now }

/-- `manual_stopwatch.rs:23`. -/
def reset (_watch : ManualStopwatch) : ManualStopwatch := {}

/-- `manual_stopwatch.rs:28`. -/
def snapshotAt (watch : ManualStopwatch) (now : Instant) : ManualStopwatchSnapshot where
  elapsedMs := millisU64 (match watch.startedAt with
    | some startedAt => addDuration watch.accumulated (durationSince now startedAt)
    | none => watch.accumulated)
  running := watch.startedAt.isSome

end ManualStopwatch

end OverCrow.Core
