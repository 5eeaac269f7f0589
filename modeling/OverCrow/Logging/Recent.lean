import Mathlib.Data.List.Sort
import Mathlib.Data.Prod.Lex
import Mathlib.Data.String.Basic
import OverCrow.Base.Text

/-!
# Recent log lines

What the workers of `crates/overcrow-logging/src/lib.rs` write and `read_recent_logs_in` reads back. The
text that `chrono` gives for a millisecond is a parameter.
-/

namespace OverCrow.Logging
open OverCrow.Base List

/-- `lib.rs:34`. -/
inductive Component where
  | control
  | core
  | overlay
  | hyprland
  deriving DecidableEq

def Component.all : List Component := [.control, .core, .overlay, .hyprland]

def Component.name : Component → String
  | .control => "control"
  | .core => "core"
  | .overlay => "overlay"
  | .hyprland => "hyprland"

/-- `lib.rs:64`. -/
inductive Level where
  | info
  | warn
  | error

def Level.name : Level → String
  | .info => "INFO"
  | .warn => "WARN"
  | .error => "ERROR"

/-- `lib.rs:80`, with the millisecond of the timestamp. -/
structure QueuedEvent where
  timestamp : Nat
  level : Level
  event : String
  details : String

def maxLineBytes : Nat := 1024

/-- `lib.rs:428`. -/
def appendBounded (output value : String) (maximum : Nat) : String :=
  output ++ .ofList (utf8Prefix value.toList (maximum - output.utf8ByteSize))

/-- A line as it is sorted: by its millisecond, then by its text. -/
abbrev Line := Nat ×ₗ String

/-- `lib.rs:344`, without the line feed. -/
def formatLine (timestampAt : Nat → String) (component : Component) (event : QueuedEvent) : Line :=
  let line := timestampAt event.timestamp ++ " " ++ event.level.name ++ " " ++ component.name ++ " " ++
    event.event
  let line := if event.details.isEmpty then line
    else appendBounded (line ++ " ") event.details (maxLineBytes - 1)
  toLex (event.timestamp,
    if maxLineBytes ≤ line.utf8ByteSize then .ofList (utf8Prefix line.toList (maxLineBytes - 1))
    else line)

/-- `lib.rs:318`, when so many events were dropped. -/
def writeEvent (timestampAt : Nat → String) (component : Component) (dropped : Nat)
    (event : QueuedEvent) : List Line :=
  (if dropped = 0 then [] else [formatLine timestampAt component
    { event with level := .warn, event := "events_dropped", details := "count=" ++ toString dropped }]) ++
    [formatLine timestampAt component event]

/-- The lines that `read_safe_lines` keeps of those of the archives and the file, `lib.rs:664-667`. -/
def readSafeLines (limit : Nat) (lines : List Line) : List Line :=
  lines.foldl (fun kept line => (if kept.length = limit then kept.tail else kept) ++ [line]) []

/-- `lib.rs:573`. The component of a line is kept with it. -/
def readRecentLogsIn (files : Component → List Line) (limit : Nat) : List (Component × Line) :=
  if limit = 0 then []
  else
    let entries := Component.all.flatMap fun component =>
      (readSafeLines limit (files component)).map (component, ·)
    let entries := entries.mergeSort fun left right => left.2 ≤ right.2
    entries.drop (entries.length - limit)

/-- The lines of one component. -/
def linesOf (component : Component) (entries : List (Component × Line)) : List Line :=
  entries.filterMap fun entry => if entry.1 = component then some entry.2 else none

theorem foldl_keep_sublist (limit : Nat) (lines kept : List Line) :
    lines.foldl (fun kept line => (if kept.length = limit then kept.tail else kept) ++ [line]) kept <+
      kept ++ lines := by
  induction lines generalizing kept with
  | nil => simp
  | cons line lines ih =>
    refine (ih _).trans ?_
    rw [append_assoc]
    refine Sublist.append ?_ (.refl _)
    split_ifs
    · exact kept.tail_sublist
    · exact .refl _

theorem readSafeLines_sublist (limit : Nat) (lines : List Line) : readSafeLines limit lines <+ lines :=
  foldl_keep_sublist limit lines []

theorem foldl_keep_of_le {limit : Nat} (lines kept : List Line) (h : kept.length + lines.length ≤ limit) :
    lines.foldl (fun kept line => (if kept.length = limit then kept.tail else kept) ++ [line]) kept =
      kept ++ lines := by
  induction lines generalizing kept with
  | nil => simp
  | cons line lines ih =>
    rw [length_cons] at h
    rw [foldl_cons, if_neg (by omega), ih _ (by simp; omega)]
    simp

variable (files : Component → List Line) (component : Component)

theorem linesOf_flatMap :
    linesOf component (Component.all.flatMap fun component => (files component).map (component, ·)) =
      files component := by
  cases component <;> simp [linesOf, Component.all, filterMap_map]

theorem linesOf_mergeSort (entries : List (Component × Line)) :
    let sorted := entries.mergeSort fun left right => left.2 ≤ right.2
    linesOf component sorted ~ linesOf component entries ∧
      (linesOf component sorted).Pairwise (· ≤ ·) := by
  refine ⟨(mergeSort_perm _ _).filterMap _,
    Pairwise.filterMap _ ?_ (pairwise_mergeSort ?_ ?_ entries)⟩
  · grind
  · intro left middle right
    simpa using le_trans
  · intro left right
    simpa using le_total left.2 right.2

/-- The order of every component is kept exactly if its lines were written in the order of the sort. -/
theorem recent_order_iff :
    (∀ limit component, linesOf component (readRecentLogsIn files limit) <+ files component) ↔
      ∀ component, (files component).Pairwise (· ≤ ·) := by
  constructor
  · intro hkept component
    let all := Component.all.flatMap fun component => (files component).map (component, ·)
    -- a limit that drops nothing
    have hall (component : Component) :
        readSafeLines (all.length + 1) (files component) = files component := by
      refine foldl_keep_of_le _ [] ?_
      have := length_filterMap_le (fun entry => if entry.1 = component then some entry.2 else none) all
      rw [show filterMap _ all = files component from linesOf_flatMap files component] at this
      simpa using this.trans (Nat.le_succ _)
    obtain ⟨hperm, hsorted⟩ := linesOf_mergeSort component all
    rw [linesOf_flatMap] at hperm
    have hsub := hkept (all.length + 1) component
    simp only [readRecentLogsIn, hall] at hsub
    rw [if_neg (Nat.succ_ne_zero _), length_mergeSort, Nat.sub_eq_zero_of_le (Nat.le_succ _),
      drop_zero] at hsub
    exact hsub.eq_of_length hperm.length_eq ▸ hsorted
  · intro hwritten limit component
    unfold readRecentLogsIn
    split_ifs
    · exact nil_sublist _
    have hlines := linesOf_flatMap (fun component => readSafeLines limit (files component)) component
    generalize (Component.all.flatMap _) = entries at hlines ⊢
    obtain ⟨hperm, hsorted⟩ := linesOf_mergeSort component entries
    rw [hlines] at hperm
    have hsub := readSafeLines_sublist limit (files component)
    have heq := hperm.eq_of_pairwise' hsorted ((hwritten component).sublist hsub)
    exact ((drop_sublist _ _).filterMap _).trans (heq.symm ▸ hsub :)

theorem dropped_after_event :
    let timestampAt (_ : Nat) := "2026-01-01T00:00:00.000Z"
    let files (component : Component) := if component = .core then
      writeEvent timestampAt .core 3 ⟨0, .info, "game_detected", ""⟩ else []
    ((readRecentLogsIn files 10).map fun entry => (ofLex entry.2).2) =
      ["2026-01-01T00:00:00.000Z INFO core game_detected",
        "2026-01-01T00:00:00.000Z WARN core events_dropped count=3"] := by
  intro timestampAt files
  have hentries : (Component.all.flatMap fun component =>
      (readSafeLines 10 (files component)).map (component, ·)) =
      [(.core, toLex (0, "2026-01-01T00:00:00.000Z WARN core events_dropped count=3")),
        (.core, toLex (0, "2026-01-01T00:00:00.000Z INFO core game_detected"))] := by
    decide +kernel
  have horder : ¬"2026-01-01T00:00:00.000Z WARN core events_dropped count=3" ≤
      "2026-01-01T00:00:00.000Z INFO core game_detected" := by
    rw [String.le_iff_toList_le]
    decide +kernel
  simp [readRecentLogsIn, hentries, mergeSort, merge, Prod.Lex.le_iff, horder]

end OverCrow.Logging
