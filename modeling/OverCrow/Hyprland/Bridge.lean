import OverCrow.Base.Run
import OverCrow.Hyprland.EventLine
import OverCrow.Hyprland.Shortcut
import OverCrow.Protocol.State

/-!
# The bridge loop and the event lines it reads

The loop of `run_bridge`, `crates/overcrow-hyprland/src/bridge.rs:778`, over the byte stream of
the event socket. Every iteration makes a new `read_event_line` future and drops it, with the
bytes it has consumed, when a timer fires. The results of the queries that the timers make are
given with them.
-/

namespace OverCrow.Hyprland
open OverCrow.Base OverCrow.Protocol List

/-- Why `run_bridge` returns: a bad event line, "Hyprland event socket closed", or the error of a
query. -/
inductive BridgeError where
  | event (error : EventError)
  | closed
  | failed
  deriving DecidableEq

/-- The loop and its stream. `unsent` has not arrived yet; `handed` are the lines given to
`is_reconciliation_event`. -/
structure BridgeLoop where
  shortcuts : List ShortcutReconciler
  latestSnapshot : CoreSnapshot := {}
  reconciliationPending : Bool := false
  line : LineBuffer := .empty
  incoming : List UInt8 := []
  eof : Bool := false
  unsent : List UInt8
  handed : List String := []
  returned : Option BridgeError := none

namespace BridgeLoop

/-- The compositor is about to send the lines. -/
def start (shortcuts : List ShortcutReconciler) (sent : List EventLine) : BridgeLoop where
  shortcuts
  unsent := sent.flatMap EventLine.bytes

/-- The event branch on a line, `bridge.rs:806-816`. -/
def onLine (b : BridgeLoop) (line : String) : BridgeLoop :=
  let b := { b with handed := b.handed ++ [line], line := .empty }
  if isReconciliationEvent line then
    { b with
      shortcuts :=
        if isConfigReloaded line then b.shortcuts.map ShortcutReconciler.invalidate
        else b.shortcuts
      reconciliationPending := true }
  else b

/-- `read_event_line` goes on with the bytes that `fill_buf` returns, at most `count` and one of
those that have arrived, `bridge.rs:804-827`. -/
def read (b : BridgeLoop) (count : Nat) : BridgeLoop :=
  let available := b.incoming.take (count + 1)
  match readEventLine b.line available with
  | (.pending line, consumed) =>
    { b with line, incoming := available.drop consumed ++ b.incoming.drop (count + 1) }
  | (.ready (.ok (some line)), consumed) =>
    { b with incoming := available.drop consumed ++ b.incoming.drop (count + 1) }.onLine line
  | (.ready (.ok none), _) => { b with returned := some .closed }
  | (.ready (.error error), _) => { b with returned := some (.event error) }

/-- The end of a timer's branch: the new snapshot, if there is one, and `sync_shortcuts_once`. The
future that was reading is dropped. -/
def synced (b : BridgeLoop) (snapshot : Option CoreSnapshot) (desktop : Option Desktop)
    (shortcuts : List ShortcutReconciler) : BridgeLoop :=
  match snapshot with
  | none => { b with line := .empty, returned := some .failed }
  | some snapshot =>
    match syncShortcutsOnce snapshot.activeGame.isSome desktop shortcuts with
    | none => { b with line := .empty, latestSnapshot := snapshot, returned := some .failed }
    | some shortcuts => { b with line := .empty, latestSnapshot := snapshot, shortcuts }

/-- What can happen: bytes arrive, the socket is closed, or a branch of the loop runs. -/
inductive Action where
  | arrive (count : Nat)
  | hangUp
  | read (count : Nat)
  | keepalive (snapshot : Option CoreSnapshot) (desktop : Option Desktop)
  | focusSync (snapshot : Option CoreSnapshot) (desktop : Option Desktop)
  | geometrySync (succeeds : Bool)
  | debounce (snapshot : Option CoreSnapshot) (desktop : Option Desktop)

/-- One step of a loop that has not returned. A future that waits for bytes makes no step. -/
def step (b : BridgeLoop) (a : Action) : Option BridgeLoop :=
  if b.returned.isSome then none
  else
    match a with
    | .arrive count =>
      if b.eof then none
      else some { b with
        incoming := b.incoming ++ b.unsent.take count, unsent := b.unsent.drop count }
    | .hangUp => some { b with eof := true }
    | .read count => if b.incoming = [] ∧ b.eof = false then none else some (b.read count)
    | .keepalive snapshot desktop =>
      some (b.synced snapshot desktop (b.shortcuts.map ShortcutReconciler.invalidate))
    | .focusSync snapshot desktop => some (b.synced snapshot desktop b.shortcuts)
    | .geometrySync succeeds =>
      some { b with line := .empty, returned := if succeeds then none else some .failed }
    | .debounce snapshot desktop =>
      if b.reconciliationPending then
        some ({ b with reconciliationPending := false }.synced snapshot desktop b.shortcuts)
      else none

/-- A timer fires when the future it drops holds no bytes of an unfinished line. -/
def AtBoundary (b : BridgeLoop) : Action → Prop
  | .keepalive _ _ | .focusSync _ _ | .geometrySync _ | .debounce _ _ => b.line.bytes = []
  | .arrive _ | .hangUp | .read _ => True

instance : ∀ b a, Decidable (AtBoundary b a)
  | b, .keepalive _ _ | b, .focusSync _ _ | b, .geometrySync _ | b, .debounce _ _ =>
    inferInstanceAs (Decidable (b.line.bytes = []))
  | _, .arrive _ | _, .hangUp | _, .read _ => isTrue trivial

/-! ### What is read -/

/-- The stream as its reader sees it. -/
def reader (b : BridgeLoop) : Reader UInt8 (Except EventError String) where
  pending := b.line.bytes
  incoming := b.incoming
  unsent := b.unsent
  items := b.handed.map .ok

/-- The lines handed over are those sent so far, and a loop that goes on will hand over the
others. -/
structure Intact (sent : List EventLine) (b : BridgeLoop) : Prop where
  handed : b.handed <+: sent.map EventLine.text
  delivers : b.returned = none →
    b.reader.Delivers lineFraming ((sent.map EventLine.text).map .ok)

variable {sent : List EventLine} {b t : BridgeLoop}
  {line : String}

theorem intact_start (shortcuts : List ShortcutReconciler) (sent : List EventLine) :
    (start shortcuts sent).Intact sent where
  handed := nil_prefix
  delivers _ := by
    rw [map_map]
    exact Reader.delivers_start fun line _ => line.encodes

theorem onLine_stream (b : BridgeLoop) (line : String) :
    (b.onLine line).handed = b.handed ++ [line] ∧ (b.onLine line).line = .empty ∧
      (b.onLine line).incoming = b.incoming ∧ (b.onLine line).unsent = b.unsent ∧
      (b.onLine line).returned = b.returned := by
  unfold onLine
  split <;> exact ⟨rfl, rfl, rfl, rfl, rfl⟩

/-- A line was read to its end. -/
theorem Intact.onLine (h : Reader.Delivers lineFraming
      ⟨[], b.incoming, b.unsent, b.handed.map .ok ++ [.ok line]⟩
      ((sent.map EventLine.text).map .ok)) : (b.onLine line).Intact sent := by
  obtain ⟨hhanded, hline, hincoming, hunsent, -⟩ := b.onLine_stream line
  have hitems : (b.onLine line).handed.map Except.ok =
      b.handed.map .ok ++ [(.ok line : Except EventError String)] := by
    rw [hhanded, map_append, map_singleton]
  rw [← hitems] at h
  constructor
  · exact (prefix_map_iff_of_injective fun _ _ => Except.ok.inj).mp h.isPrefix
  · intro _
    unfold reader
    rw [hline, hincoming, hunsent]
    exact h

/-- What `fill_buf` leaves and what it returns. -/
theorem incoming_split (incoming : List UInt8) (count consumed : Nat) :
    incoming = (incoming.take (count + 1)).take consumed ++
      ((incoming.take (count + 1)).drop consumed ++ incoming.drop (count + 1)) := by
  rw [← append_assoc, take_append_drop, take_append_drop]

section

variable (h : b.Intact sent)

include h

theorem Intact.read (hrunning : b.returned = none) (count : Nat) : (b.read count).Intact sent := by
  have hdelivers := h.delivers hrunning
  have hreads := reads_readEventLine b.line (b.incoming.take (count + 1))
  unfold BridgeLoop.read
  dsimp only
  split
  · next line consumed hpoll =>
    rw [hpoll] at hreads
    have hnext := hdelivers.read (incoming_split _ count consumed) hreads.2
    rw [append_nil] at hnext
    exact ⟨h.handed, fun _ => hnext⟩
  · next line consumed hpoll =>
    rw [hpoll] at hreads
    exact Intact.onLine (hdelivers.read (incoming_split _ count consumed) hreads.2)
  · exact ⟨h.handed, nofun⟩
  · exact ⟨h.handed, nofun⟩

/-- Whatever a timer does, it loses no byte when the dropped future holds none. -/
theorem Intact.dropped (hrunning : b.returned = none)
    (hboundary : b.line.bytes = []) (hline : t.line = .empty) (hincoming : t.incoming = b.incoming)
    (hunsent : t.unsent = b.unsent) (hhanded : t.handed = b.handed) : t.Intact sent := by
  constructor
  · rw [hhanded]
    exact h.handed
  · intro _
    unfold reader
    rw [hline, hincoming, hunsent, hhanded]
    exact (h.delivers hrunning).drop hboundary

theorem Intact.synced (hrunning : b.returned = none)
    (hboundary : b.line.bytes = []) (snapshot : Option CoreSnapshot) (desktop : Option Desktop)
    (shortcuts : List ShortcutReconciler) : (b.synced snapshot desktop shortcuts).Intact sent := by
  unfold BridgeLoop.synced
  split
  · exact h.dropped hrunning hboundary rfl rfl rfl rfl
  · split <;> exact h.dropped hrunning hboundary rfl rfl rfl rfl

/-- One step of a loop that meets the condition. -/
theorem Intact.step {a : Action} (hboundary : b.AtBoundary a)
    (hstep : step b a = some t) : t.Intact sent := by
  unfold BridgeLoop.step at hstep
  rw [Option.ite_none_left_eq_some] at hstep
  obtain ⟨hsome, hstep⟩ := hstep
  have hrunning : b.returned = none := by
    rw [Option.not_isSome_iff_eq_none] at hsome
    exact hsome
  cases a with
  | arrive count =>
    rw [Option.ite_none_left_eq_some] at hstep
    obtain ⟨-, hstep⟩ := hstep
    cases hstep
    exact ⟨h.handed, fun _ => (h.delivers hrunning).arrive count⟩
  | hangUp =>
    cases hstep
    exact ⟨h.handed, fun _ => h.delivers hrunning⟩
  | read count =>
    rw [Option.ite_none_left_eq_some] at hstep
    obtain ⟨-, hstep⟩ := hstep
    cases hstep
    exact h.read hrunning count
  | keepalive snapshot desktop | focusSync snapshot desktop =>
    cases hstep
    exact h.synced hrunning hboundary snapshot desktop _
  | geometrySync succeeds =>
    cases hstep
    exact h.dropped hrunning hboundary rfl rfl rfl rfl
  | debounce snapshot desktop =>
    rw [Option.ite_none_right_eq_some] at hstep
    obtain ⟨-, hstep⟩ := hstep
    cases hstep
    have hpending : Intact sent { b with reconciliationPending := false } :=
      ⟨h.handed, h.delivers⟩
    exact hpending.synced hrunning hboundary snapshot desktop _

/-! ### Progress -/

/-- Bytes that were sent as lines are not rejected. -/
theorem Intact.not_error {used : List UInt8} {error : EventError}
    (hrunning : b.returned = none) (hused : used <+: b.incoming)
    (hdecode : lineFraming.decode b.line.bytes used = ([.error error], [])) : False := by
  obtain ⟨left, hleft⟩ := hused
  have hpart := ((h.delivers hrunning).read hleft.symm hdecode).isPrefix
  have hmem : Except.error error ∈ (sent.map EventLine.text).map Except.ok :=
    hpart.subset (mem_append_right _ (mem_singleton_self _))
  obtain ⟨text, -, heq⟩ := mem_map.mp hmem
  cases heq

/-- A read of bytes that have arrived consumes some of them, and the loop goes on. -/
theorem Intact.read_progress (hrunning : b.returned = none) (hincoming : b.incoming ≠ []) (count : Nat) :
    (b.read count).returned = none ∧ (b.read count).unsent = b.unsent ∧
      (b.read count).incoming.length < b.incoming.length := by
  have havailable : b.incoming.take (count + 1) ≠ [] := by
    intro hnil
    rw [take_eq_nil_iff] at hnil
    rcases hnil with hzero | hnil
    · cases hzero
    · exact hincoming hnil
  have hless (consumed : Nat) (hpos : 0 < consumed) :
      ((b.incoming.take (count + 1)).drop consumed ++ b.incoming.drop (count + 1)).length <
        b.incoming.length := by
    have hlength := length_pos_iff.mpr hincoming
    rw [length_append, length_drop, length_take, length_drop]
    omega
  have hreads := reads_readEventLine b.line (b.incoming.take (count + 1))
  unfold BridgeLoop.read
  dsimp only
  split
  · next line consumed hpoll =>
    rw [hpoll] at hreads
    exact ⟨hrunning, rfl, hless consumed hreads.1⟩
  · next line consumed hpoll =>
    rw [hpoll] at hreads
    have hleft := hless consumed hreads.1
    generalize (b.incoming.take (count + 1)).drop consumed ++ b.incoming.drop (count + 1) = left
      at hleft ⊢
    obtain ⟨-, -, hsame, hunsent, hreturned⟩ := onLine_stream { b with incoming := left } line
    rw [hsame, hunsent, hreturned]
    exact ⟨hrunning, rfl, hleft⟩
  · next consumed hpoll =>
    rw [hpoll] at hreads
    exact absurd hreads havailable
  · next error consumed hpoll =>
    rw [hpoll] at hreads
    rcases hreads with hempty | ⟨used, hused, hdecode⟩
    · exact absurd hempty havailable
    · exact (h.not_error hrunning (hused.trans (List.take_prefix _ _)) hdecode).elim

/-- Reading often enough takes everything that has arrived. -/
theorem Intact.drains (hrunning : b.returned = none) (count : Nat) :
    ∃ reads t, run BridgeLoop.step b (replicate reads (.read count)) = some t ∧
      t.Intact sent ∧ t.returned = none ∧ t.unsent = b.unsent ∧ t.incoming = [] := by
  induction hlength : b.incoming.length using Nat.strongRecOn generalizing b with
  | ind length ih =>
    by_cases hincoming : b.incoming = []
    · exact ⟨0, b, run_nil _ _, h, hrunning, rfl, hincoming⟩
    · obtain ⟨hreturned, hunsent, hless⟩ := h.read_progress hrunning hincoming count
      have hstep : BridgeLoop.step b (.read count) = some (b.read count) := by
        rw [BridgeLoop.step, if_neg (by rw [hrunning]; nofun),
          if_neg fun hwaits => hincoming hwaits.1]
      rw [hlength] at hless
      obtain ⟨reads, t, hrun, ht, hnone, hsame, hempty⟩ :=
        ih _ hless (h.read hrunning count) hreturned rfl
      exact ⟨reads + 1, t, run_cons_eq_some.mpr ⟨_, hstep, hrun⟩, ht, hnone,
        hsame.trans hunsent, hempty⟩

end

/-! ### Runs -/

/-- A line that reports a reloaded configuration invalidates every reconciler. -/
theorem onLine_configReloaded (b : BridgeLoop) (h : isConfigReloaded line = true) :
    ∀ shortcut ∈ (b.onLine line).shortcuts, shortcut.state = .unknown := by
  intro shortcut hmem
  unfold onLine at hmem
  rw [if_pos (isReconciliationEvent_of_isConfigReloaded h)] at hmem
  rw [if_pos h, mem_map] at hmem
  obtain ⟨before, -, rfl⟩ := hmem
  rfl

theorem read_configReloaded {count : Nat}
    (hhanded : (b.read count).handed = b.handed ++ [line]) (h : isConfigReloaded line = true) :
    ∀ shortcut ∈ (b.read count).shortcuts, shortcut.state = .unknown := by
  have hsame : b.handed ≠ b.handed ++ [line] := by
    intro heq
    have hlength := congrArg length heq
    rw [length_append, length_singleton] at hlength
    omega
  unfold BridgeLoop.read at hhanded ⊢
  dsimp only at hhanded ⊢
  split at hhanded
  · exact absurd hhanded hsame
  · next handed consumed hpoll =>
    rw [(onLine_stream _ handed).1, append_cancel_left_eq] at hhanded
    cases hhanded
    exact onLine_configReloaded _ h
  · exact absurd hhanded hsame
  · exact absurd hhanded hsame

theorem Intact.handed_eq (h : b.Intact sent) (hrunning : b.returned = none)
    (hincoming : b.incoming = []) (hunsent : b.unsent = []) : b.handed = sent.map EventLine.text :=
  (map_inj_right fun _ _ => Except.ok.inj).mp
    ((h.delivers hrunning).items_eq hincoming hunsent)

/-- In a run whose timers drop no bytes of an unfinished line, the lines handed over are those
sent, in order, no bytes that have arrived are rejected, reading what has arrived hands over all
lines, and a line that reports a reloaded configuration invalidates the reconcilers. -/
theorem lines_survive_cancellation {shortcuts : List ShortcutReconciler} {actions : List Action}
    (hboundary : Along step AtBoundary (start shortcuts sent) actions)
    (hrun : run step (start shortcuts sent) actions = some b) :
    b.handed <+: sent.map EventLine.text ∧
      (b.returned = none →
        (b.incoming ≠ [] → ∀ count, (b.read count).returned = none) ∧
        (b.unsent = [] →
          (b.incoming = [] → b.handed = sent.map EventLine.text) ∧
          ∀ count, ∃ reads t, run step b (replicate reads (.read count)) = some t ∧
            t.handed = sent.map EventLine.text)) ∧
      ∀ count t line, step b (.read count) = some t → t.handed = b.handed ++ [line] →
        isConfigReloaded line = true → ∀ shortcut ∈ t.shortcuts, shortcut.state = .unknown := by
  have hintact : b.Intact sent :=
    run_invariant_along (fun _ _ _ h hb hstep => h.step hb hstep) (intact_start shortcuts sent)
      hboundary hrun
  refine ⟨hintact.handed, fun hrunning => ⟨fun hincoming count => ?_, fun hunsent =>
    ⟨fun hincoming => hintact.handed_eq hrunning hincoming hunsent, fun count => ?_⟩⟩, ?_⟩
  · exact (hintact.read_progress hrunning hincoming count).1
  · obtain ⟨reads, t, hreads, ht, hnone, hsame, hempty⟩ := hintact.drains hrunning count
    exact ⟨reads, t, hreads, ht.handed_eq hnone hempty (hsame.trans hunsent)⟩
  · intro count t line hstep hhanded hline
    unfold step at hstep
    rw [Option.ite_none_left_eq_some] at hstep
    obtain ⟨-, hstep⟩ := hstep
    rw [Option.ite_none_left_eq_some] at hstep
    obtain ⟨-, hstep⟩ := hstep
    cases hstep
    exact read_configReloaded hhanded hline

def sampleSpec : ShortcutSpec := ⟨"SUPER + ALT + O", "O", 72, portalShortcutName, bindDescription⟩

/-- A reconciler that has bound its shortcut. -/
def sampleShortcut : ShortcutReconciler := ⟨sampleSpec, .lua, .owned, some true, false⟩

def configReloadedLine : EventLine :=
  ⟨"configreloaded>>", false, by decide +kernel, by decide +kernel, by decide +kernel⟩

theorem lines_survive_cancellation_between_lines :
    ∃ b, run step (start [sampleShortcut] [configReloadedLine, configReloadedLine])
        [.arrive 7, .read 10, .arrive 10, .read 20, .geometrySync true, .arrive 20] = some b ∧
      b.returned = none ∧ ∃ reads t, run step b (replicate reads (.read 3)) = some t ∧
        t.handed = ["configreloaded>>", "configreloaded>>"] := by
  have hrun : ((run step (start [sampleShortcut] [configReloadedLine, configReloadedLine])
      [.arrive 7, .read 10, .arrive 10, .read 20, .geometrySync true, .arrive 20]).map
      fun b => (b.returned, b.unsent)) = some (none, []) := by
    decide +kernel
  obtain ⟨b, hb, heq⟩ := Option.map_eq_some_iff.mp hrun
  obtain ⟨hrunning, hunsent⟩ := Prod.mk.inj heq
  have h := lines_survive_cancellation (by decide +kernel) hb
  exact ⟨b, hb, hrunning, ((h.2.1 hrunning).2 hunsent).2 3⟩

/-- The geometry timer fires between two parts of a `configreloaded>>` line: the rest is taken
for the line, and the reconciler stays as it was. -/
theorem cancelled_read_cuts_line :
    ∃ b, run step (start [sampleShortcut] [configReloadedLine])
        [.arrive 7, .read 10, .geometrySync true, .arrive 10, .read 20] = some b ∧
      b.returned = none ∧ b.incoming = [] ∧ b.unsent = [] ∧ b.line.bytes = [] ∧
      b.handed = ["eloaded>>"] ∧ b.shortcuts = [sampleShortcut] := by
  have hrun : ((run step (start [sampleShortcut] [configReloadedLine])
      [.arrive 7, .read 10, .geometrySync true, .arrive 10, .read 20]).map
      fun b => ((b.returned, b.incoming, b.unsent), b.line.bytes, b.handed, b.shortcuts)) =
        some ((none, [], []), [], ["eloaded>>"], [sampleShortcut]) := by
    decide +kernel
  obtain ⟨b, hb, heq⟩ := Option.map_eq_some_iff.mp hrun
  simp only [Prod.mk.injEq] at heq
  obtain ⟨⟨hrunning, hincoming, hunsent⟩, hrest⟩ := heq
  exact ⟨b, hb, hrunning, hincoming, hunsent, hrest⟩

end BridgeLoop

end OverCrow.Hyprland
