import OverCrow.Gnome.Handlers

/-!
# Window intents

A window request is a call and the snapshot that is read after it. `Serial n` says what holds while
the present callback has taken `n` requests off the list of calls: all handlers keep it, an answer
takes the request of its call, and the end of a request gives it back.
-/

namespace OverCrow.Gnome
open OverCrow.Base OverCrow.Protocol List

/-- A call of a window request is for an intent that was raised. -/
def CallKind.From (raised : List WindowRequest) : CallKind → Prop
  | .window request _ => request ∈ raised
  | .snapshot intentSerial (.finish request _) => request ∈ raised ∧ intentSerial = request.serial
  | _ => True

variable {raised : List WindowRequest}

theorem CallKind.From.append {kind : CallKind} (h : kind.From raised)
    (request : WindowRequest) : kind.From (raised ++ [request]) := by
  match kind, h with
  | .window _ _, h => exact mem_append_left _ h
  | .snapshot _ (.finish _ _), h => exact ⟨mem_append_left _ h.1, h.2⟩
  | .snapshot _ .nothing, _ => trivial
  | .snapshot _ .handleFocus, _ => trivial
  | .definitions _, _ => trivial
  | .availability _, _ => trivial
  | .accelerator, _ => trivial

theorem CallKind.from_of_not_belongs {kind : CallKind}
    (h : kind.belongs = false) : kind.From raised := by
  match kind, h with
  | .snapshot _ .nothing, _ => trivial
  | .snapshot _ .handleFocus, _ => trivial
  | .definitions _, _ => trivial
  | .availability _, _ => trivial
  | .accelerator, _ => trivial

theorem countP_eraseIdx {α : Type} {l : List α} {i : Nat} {a : α} (p : α → Bool)
    (h : l[i]? = some a) : (l.eraseIdx i).countP p + (p a).toNat = l.countP p := by
  induction l generalizing i with
  | nil => cases h
  | cons b l ih =>
    cases i with
    | zero =>
      cases h
      rw [eraseIdx_cons_zero, countP_cons]
      cases p a <;> rfl
    | succ i =>
      have hrest := ih (i := i) h
      rw [eraseIdx_cons_succ, countP_cons, countP_cons]
      omega

namespace Bridge

variable {e : Desktop} {s t : Bridge} {n : Nat}
  {calls : List Call} {kind : CallKind} {next : Continuation}

/-- A call of the present owner that belongs to a window request. -/
def owns (s : Bridge) (call : Call) : Bool := call.generation = s.generation && call.kind.belongs

/-- A callback that has the end of a window request before it. -/
def unfinished : Option Continuation → Nat
  | some (.finish _ _) => 1
  | _ => 0

/-- The window calls and the snapshots read after them that were not finished. -/
def outstanding (s : Bridge) : Nat := s.calls.countP s.owns + unfinished s.rest

/-- The intents that were sent, and the one that waits. -/
def handled (s : Bridge) : List WindowRequest :=
  s.sent.map Prod.fst ++ s.pendingWindowRequest.toList

/-- The state of the window requests, with `n` of them taken by the present callback. -/
structure Serial (n : Nat) (s : Bridge) : Prop where
  attached : s.attached = true
  outstanding : s.outstanding + n = s.windowRequestInFlight.toNat
  pending : s.pendingWindowRequest ≠ none → s.windowRequestInFlight = true
  ordered : s.raised.Pairwise (·.serial < ·.serial)
  bounded : ∀ request ∈ s.raised, request.serial ≤ s.windowIntentSerial
  newest : ∀ request, s.raised.getLast? = some request → request.serial = s.windowIntentSerial
  handled : s.handled.Sublist s.raised
  last : s.handled.getLast? = s.raised.getLast?
  calls : ∀ call ∈ s.calls, call.generation = s.generation → call.kind.From s.raised
  reads : ∀ read ∈ s.reads, read.2 = some read.1
  dated : ∀ call ∈ s.calls, call.generation ≤ s.generation

/-- After a clear there is no game, and the fence keeps it so. -/
def Fenced (s : Bridge) : Prop :=
  ∀ request, s.raised.getLast? = some request → request.intent = .clear →
    s.clearAuthorityFence = true ∧ s.gameWindow = none

/-- What `Serial` reads besides the calls. -/
def view (s : Bridge) :=
  (s.attached, s.generation, s.windowRequestInFlight, s.pendingWindowRequest, s.windowIntentSerial,
    s.raised, s.sent, s.reads, s.rest)

/-- New calls that do not belong to a window request. -/
def Foreign (s : Bridge) (calls : List Call) : Prop :=
  ∀ call ∈ calls, call.generation = s.generation ∧ call.kind.belongs = false

theorem foreign_nil : Foreign s [] := fun _ hmem => absurd hmem List.not_mem_nil

theorem Reporting.foreign (h : Reporting s calls) : Foreign s calls := by
  intro call hcall
  obtain ⟨hgeneration, state, hkind⟩ := h call hcall
  exact ⟨hgeneration, hkind ▸ rfl⟩

theorem foreign_attached (h : kind.belongs = false) :
    Foreign s (if s.attached then [⟨s.generation, kind⟩] else []) := by
  split
  · exact fun call hcall => mem_singleton.mp hcall ▸ ⟨rfl, h⟩
  · exact foreign_nil

theorem countP_owns_append (hcalls : Foreign s calls) :
    (s.calls ++ calls).countP s.owns = s.calls.countP s.owns := by
  have hnone : calls.countP s.owns = 0 := by
    refine countP_eq_zero.mpr fun call hcall howned => ?_
    rw [owns, (hcalls call hcall).2, Bool.and_false] at howned
    cases howned
  rw [countP_append, hnone, Nat.add_zero]

/-- What no window request is part of. -/
theorem Serial.quiet (h : Serial n s) (hview : t.view = s.view)
    (hcalls : Foreign s calls) (ht : t.calls = s.calls ++ calls) : Serial n t := by
  obtain ⟨⟩ := t
  simp only [view, Prod.mk.injEq] at hview
  obtain ⟨rfl, rfl, rfl, rfl, rfl, rfl, rfl, rfl, rfl⟩ := hview
  cases ht
  refine { h with outstanding := ?_, calls := ?_, dated := ?_ }
  · have houtstanding := h.outstanding
    rw [Bridge.outstanding, ← countP_owns_append hcalls] at houtstanding
    exact houtstanding
  · intro call hcall hcurrent
    rcases mem_append.mp hcall with hcall | hcall
    · exact h.calls call hcall hcurrent
    · exact CallKind.from_of_not_belongs (hcalls call hcall).2
  · intro call hcall
    rcases mem_append.mp hcall with hcall | hcall
    · exact h.dated call hcall
    · exact Nat.le_of_eq (hcalls call hcall).1

/-- A call of a window request for the one that was taken. -/
theorem Serial.call (h : Serial 1 s) (hbelongs : kind.belongs = true)
    (hkind : kind.From s.raised) : Serial 0 { s with calls := s.calls ++ [⟨s.generation, kind⟩] } := by
  have howned : s.owns ⟨s.generation, kind⟩ = true := by
    rw [owns, hbelongs, decide_eq_true rfl]
    rfl
  refine { h with outstanding := ?_, calls := ?_, dated := ?_ }
  · have houtstanding := h.outstanding
    unfold Bridge.outstanding at houtstanding ⊢
    change (s.calls ++ [_]).countP s.owns + unfinished s.rest + 0 = s.windowRequestInFlight.toNat
    rw [countP_append, countP_singleton, if_pos howned]
    omega
  · intro call hcall hcurrent
    rcases mem_append.mp hcall with hcall | hcall
    · exact h.calls call hcall hcurrent
    · rw [mem_singleton.mp hcall]
      exact hkind
  · intro call hcall
    rcases mem_append.mp hcall with hcall | hcall
    · exact h.dated call hcall
    · rw [mem_singleton.mp hcall]

/-! ### Intents -/

theorem pairwise_serial_append {raised : List WindowRequest} {intent : Intent} {serial : Nat}
    (hordered : raised.Pairwise (·.serial < ·.serial))
    (hbounded : ∀ request ∈ raised, request.serial ≤ serial) :
    List.Pairwise (fun a b : WindowRequest => a.serial < b.serial)
      (raised ++ [⟨intent, serial + 1⟩]) := by
  refine pairwise_append.mpr ⟨hordered, pairwise_singleton _ _, fun a ha b hb => ?_⟩
  rw [mem_singleton.mp hb]
  exact Nat.lt_succ_of_le (hbounded a ha)

/-- An intent is raised that waits. -/
theorem Serial.wait (h : Serial n s) (hflight : s.windowRequestInFlight = true) (intent : Intent) :
    Serial n { s with
      windowIntentSerial := s.windowIntentSerial + 1
      raised := s.raised ++ [⟨intent, s.windowIntentSerial + 1⟩]
      pendingWindowRequest := some ⟨intent, s.windowIntentSerial + 1⟩ } := by
  refine { h with
    pending := fun _ => hflight, ordered := pairwise_serial_append h.ordered h.bounded
    bounded := ?_, newest := ?_, handled := ?_, last := ?_
    calls := fun call hcall hcurrent => (h.calls call hcall hcurrent).append _ }
  · intro request hrequest
    rcases mem_append.mp hrequest with hrequest | hrequest
    · exact Nat.le_succ_of_le (h.bounded request hrequest)
    · rw [mem_singleton.mp hrequest]
  · intro request hrequest
    rw [getLast?_concat] at hrequest
    cases hrequest
    rfl
  · have hsent : (s.sent.map Prod.fst).Sublist s.raised :=
      (sublist_append_left _ _).trans h.handled
    exact hsent.append (List.Sublist.refl _)
  · unfold Bridge.handled
    rw [Option.toList_some, getLast?_concat, getLast?_concat]

/-- The request that waits is sent for the one that was taken. -/
theorem Serial.dispatch (h : Serial 1 s) {pending : WindowRequest}
    (hpending : s.pendingWindowRequest = some pending) (signature report : Option Report)
    (canRetry : Bool) :
    Serial 0 { s with
      pendingWindowRequest := none, windowRequestInFlight := true, lastReportSignature := signature
      sent := s.sent ++ [(pending, report)]
      calls := s.calls ++ if s.attached then [⟨s.generation, .window pending canRetry⟩] else [] } := by
  have hhandled : (s.sent ++ [(pending, report)]).map Prod.fst ++ [] = s.handled := by
    unfold Bridge.handled
    rw [hpending, map_append, append_nil]
    rfl
  have hraised : pending ∈ s.raised := by
    refine h.handled.subset ?_
    rw [← hhandled]
    simp
  have hflight := h.pending (hpending ▸ nofun)
  have hcall : Serial 0 { s with
      calls := s.calls ++ [⟨s.generation, .window pending canRetry⟩] } := h.call rfl hraised
  have hsublist := h.handled
  have hlast := h.last
  rw [← hhandled] at hsublist hlast
  rw [if_pos h.attached]
  exact { hcall with
    outstanding := hcall.outstanding.trans (congrArg Bool.toNat hflight)
    pending := nofun, handled := hsublist, last := hlast }

/-- A request is sent when none is outstanding: it is taken, waits and is sent. -/
theorem Serial.send (h : Serial 0 s) (hflight : s.windowRequestInFlight = false) (intent : Intent)
    (signature report : Option Report) (canRetry : Bool) :
    Serial 0 { s with
      windowIntentSerial := s.windowIntentSerial + 1
      raised := s.raised ++ [⟨intent, s.windowIntentSerial + 1⟩]
      windowRequestInFlight := true, lastReportSignature := signature
      sent := s.sent ++ [(⟨intent, s.windowIntentSerial + 1⟩, report)]
      calls := s.calls ++ if s.attached then
        [⟨s.generation, .window ⟨intent, s.windowIntentSerial + 1⟩ canRetry⟩] else [] } := by
  have hpending : s.pendingWindowRequest = none := by
    by_contra hsome
    exact Bool.false_ne_true (hflight.symm.trans (h.pending hsome))
  have houtstanding := h.outstanding
  rw [hflight] at houtstanding
  have htaken : Serial 1 { s with windowRequestInFlight := true } :=
    { h with outstanding := congrArg (· + 1) houtstanding, pending := fun _ => rfl }
  have hsent := (htaken.wait rfl intent).dispatch rfl signature report canRetry
  obtain ⟨⟩ := s
  cases hpending
  exact hsent

theorem Serial.raiseIntent (h : Serial n s) (intent : Intent) : Serial n (s.raiseIntent e intent) := by
  rcases raiseIntent_cases e s intent with ⟨hflight, ht⟩ | ⟨hflight, signature, report, canRetry, ht⟩
  · rw [ht]
    exact h.wait hflight intent
  · rw [ht]
    obtain rfl : n = 0 := by
      have houtstanding := h.outstanding
      rw [hflight] at houtstanding
      exact (Nat.add_eq_zero_iff.mp houtstanding).2
    exact h.send hflight intent signature report canRetry

/-- The end of a request: the one that waits is sent. -/
theorem Serial.finishWindowRequest (h : Serial 1 s) : Serial 0 (s.finishWindowRequest e) := by
  have houtstanding := h.outstanding
  have hflight : s.windowRequestInFlight = true := by
    by_contra hidle
    rw [Bool.eq_false_iff.mpr hidle] at houtstanding
    exact absurd houtstanding (Nat.succ_ne_zero _)
  rw [hflight] at houtstanding
  have hzero : s.outstanding = 0 := Nat.succ.inj houtstanding
  unfold Bridge.finishWindowRequest
  split
  · next hnone =>
    obtain ⟨⟩ := s
    cases hnone
    exact { h with outstanding := hzero, pending := nofun }
  · next pending hpending =>
    obtain ⟨signature, report, canRetry, ht⟩ := dispatchWindowRequest_eq e
      { s with windowRequestInFlight := false, pendingWindowRequest := none } pending
    rw [ht]
    exact h.dispatch hpending signature report canRetry

/-! ### Acts -/

/-- The state of the window requests and the fence. -/
structure Ok (n : Nat) (s : Bridge) : Prop where
  serial : Serial n s
  fenced : Fenced s

theorem Ok.quiet (h : Ok n s) (hview : t.view = s.view)
    (hcalls : Foreign s calls) (ht : t.calls = s.calls ++ calls)
    (hfence : t.clearAuthorityFence = s.clearAuthorityFence)
    (hgame : t.gameWindow = s.gameWindow ∨ t.gameWindow = none) : Ok n t := by
  refine ⟨h.serial.quiet hview hcalls ht, fun request hlast hclear => ?_⟩
  simp only [view, Prod.mk.injEq] at hview
  rw [hview.2.2.2.2.2.1] at hlast
  obtain ⟨hfenced, hnone⟩ := h.fenced request hlast hclear
  refine ⟨hfence.trans hfenced, ?_⟩
  rcases hgame with hgame | hgame
  · exact hgame.trans hnone
  · exact hgame

theorem Ok.raiseIntent (h : Serial n s) {intent : Intent}
    (hclear : intent = .clear → s.clearAuthorityFence = true ∧ s.gameWindow = none) :
    Ok n (s.raiseIntent e intent) := by
  refine ⟨h.raiseIntent intent, fun request hlast hintent => ?_⟩
  rcases raiseIntent_cases e s intent with ⟨-, ht⟩ | ⟨-, signature, report, canRetry, ht⟩
  all_goals
    rw [ht] at hlast ⊢
    rw [getLast?_concat] at hlast
    cases hlast
    exact hclear hintent

theorem Ok.applyPassiveState (h : Ok n s) : Ok n s.applyPassiveState := by
  obtain ⟨reported, calls, hcalls, ht⟩ := applyPassiveState_eq s
  rw [ht]
  exact h.quiet rfl hcalls.foreign rfl rfl (.inr rfl)

theorem Ok.requestClear (h : Ok n s) : Ok n (s.requestClear e) := by
  obtain ⟨reported, calls, hcalls, ht⟩ := applyPassiveState_eq
    { s.cancelCandidateRetry with lastReportSignature := none, clearAuthorityFence := true }
  unfold Bridge.requestClear
  rw [ht]
  refine .raiseIntent ?_ fun _ => ⟨rfl, rfl⟩
  exact h.serial.quiet rfl hcalls.foreign rfl

theorem Ok.callCore (h : Ok n s) (hkind : kind.belongs = false) :
    Ok n (s.callCore kind) := by
  rw [callCore_eq]
  exact h.quiet rfl (foreign_attached hkind) rfl rfl (.inl rfl)

theorem Ok.of_same_calls (h : Ok n s) (hview : t.view = s.view) (ht : t.calls = s.calls)
    (hfence : t.clearAuthorityFence = s.clearAuthorityFence) (hgame : t.gameWindow = s.gameWindow) :
    Ok n t :=
  h.quiet hview foreign_nil (ht.trans (append_nil _).symm) hfence (.inl hgame)

theorem Ok.act (h : Ok n s) (hact : Act e s t) : Ok n t := by
  cases hact with
  | note => exact h.of_same_calls rfl rfl rfl rfl
  | call kind hkind => exact h.callCore hkind
  | refresh =>
    exact Ok.callCore (s := { s with shortcutRequestSerial := s.shortcutRequestSerial + 1 })
      (h.of_same_calls rfl rfl rfl rfl) rfl
  | passive => exact h.applyPassiveState
  | clear => exact h.requestClear
  | report window retries =>
    refine .raiseIntent ?_ nofun
    exact h.serial.quiet rfl foreign_nil (append_nil _).symm
  | game game hfence =>
    refine ⟨h.serial.quiet rfl foreign_nil (append_nil _).symm, fun request hlast hclear => ?_⟩
    exact absurd ((h.fenced request hlast hclear).1.symm.trans hfence) Bool.true_eq_false_eq_False

theorem Ok.acts (h : Ok n s) (hacts : Acts e s t) : Ok n t := by
  induction hacts with
  | refl => exact h
  | tail _ hact ih => exact ih.act hact

theorem Ok.finishWindowRequest (h : Ok 1 s) : Ok 0 (s.finishWindowRequest e) := by
  refine ⟨h.serial.finishWindowRequest, ?_⟩
  unfold Bridge.finishWindowRequest
  split
  · exact h.fenced
  · next pending _ =>
    obtain ⟨signature, report, canRetry, ht⟩ := dispatchWindowRequest_eq e
      { s with windowRequestInFlight := false, pendingWindowRequest := none } pending
    rw [ht]
    exact h.fenced

theorem Ok.finishRequest (h : Ok 1 s) (request : WindowRequest) (canRetry : Bool) :
    Ok 0 (s.finishRequest e request canRetry) :=
  h.finishWindowRequest.acts (acts_finishRequest request canRetry)

theorem Ok.failRequest (h : Ok 1 s) (request : WindowRequest) (canRetry : Bool) :
    Ok 0 (s.failRequest e request canRetry) := by
  obtain ⟨t, hfailed, hended⟩ := acts_failRequest (e := e) (s := s) request canRetry
  exact (h.acts hfailed).finishWindowRequest.acts hended

/-! ### Answers -/

/-- The answer to a call takes the request that the call belongs to. -/
theorem Ok.erase (h : Ok 0 s) {index : Nat} {call : Call} (hcall : s.calls[index]? = some call) :
    Ok (s.owns call).toNat { s with calls := s.calls.eraseIdx index } := by
  have hcount := countP_eraseIdx s.owns hcall
  refine ⟨{ h.serial with
    outstanding := ?_
    calls := fun other hother => h.serial.calls other (mem_of_mem_eraseIdx hother)
    dated := fun other hother => h.serial.dated other (mem_of_mem_eraseIdx hother) }, h.fenced⟩
  · have houtstanding := h.serial.outstanding
    unfold Bridge.outstanding at houtstanding ⊢
    change (s.calls.eraseIdx index).countP s.owns + unfinished s.rest + (s.owns call).toNat
      = s.windowRequestInFlight.toNat
    omega

theorem Ok.reportShortcutAvailability (h : Ok n s) (state : Availability) :
    Ok n (s.reportShortcutAvailability state) := by
  obtain ⟨reported, calls, hcalls, ht⟩ := reportShortcutAvailability_eq s state
  rw [ht]
  exact h.quiet rfl hcalls.foreign rfl rfl (.inl rfl)

/-- Which accelerators are grabbed does not matter. -/
theorem Ok.shortcuts (h : Ok n s) (actions : List (Nat × String))
    (signature : Option (List ShortcutDefinition)) :
    Ok n { s with actionToShortcut := actions, shortcutSignature := signature } :=
  h.of_same_calls rfl rfl rfl rfl

theorem Ok.applyShortcuts (h : Ok n s) (definitions : List ShortcutDefinition) :
    Ok n (s.applyShortcuts e definitions) := by
  unfold Bridge.applyShortcuts
  split
  · exact h.reportShortcutAvailability _
  split
  · exact (h.shortcuts [] _).reportShortcutAvailability _
  split
  · exact (h.shortcuts [] none).reportShortcutAvailability _
  · exact (h.shortcuts _ _).reportShortcutAvailability _

theorem Ok.receiveDefinitions (h : Ok n s) (serial : Nat) (parsed : Option (List ShortcutDefinition)) :
    Ok n (s.receiveDefinitions e serial parsed) := by
  unfold Bridge.receiveDefinitions
  split
  · exact h
  split
  · exact (h.shortcuts [] none).reportShortcutAvailability _
  · exact h.applyShortcuts _

/-- What is left of a callback takes over the request. -/
theorem Ok.setRest (h : Ok (unfinished (some next)) s) (hrest : s.rest = none) :
    Ok 0 { s with rest := some next } := by
  obtain ⟨⟩ := s
  cases hrest
  exact ⟨{ h.serial with }, h.fenced⟩

/-- The rest of a callback has the request. -/
theorem Ok.takeRest (h : Ok 0 s) (hrest : s.rest = some next) :
    Ok (unfinished (some next)) { s with rest := none } := by
  obtain ⟨⟩ := s
  cases hrest
  exact ⟨{ h.serial with }, h.fenced⟩

/-- A snapshot that belongs to an intent is read when that intent is the last. -/
theorem Ok.read (h : Ok n s) {reads : List (WindowRequest × Option WindowRequest)}
    (hreads : ∀ read ∈ reads, read.2 = some read.1) : Ok n { s with reads := s.reads ++ reads } := by
  refine ⟨{ h.serial with reads := fun read hread => ?_ }, h.fenced⟩
  rcases mem_append.mp hread with hread | hread
  · exact h.serial.reads read hread
  · exact hreads read hread

/-- The intent with the present serial is the last one. -/
theorem Serial.getLast?_eq (h : Serial n s) {request : WindowRequest} (hraised : request ∈ s.raised)
    (hserial : request.serial = s.windowIntentSerial) : s.raised.getLast? = some request := by
  obtain ⟨before, after, hsplit⟩ := append_of_mem hraised
  cases hafter : after.getLast? with
  | none =>
    rw [hsplit, getLast?_eq_none_iff.mp hafter, getLast?_concat]
  | some last =>
    -- A later intent would have a greater serial.
    have hmem : last ∈ after := mem_of_getLast? hafter
    have hordered := h.ordered
    have hbounded := h.bounded last
    rw [hsplit] at hordered hbounded
    have hlt := (pairwise_cons.mp (pairwise_append.mp hordered).2.1).1 last hmem
    have hle := hbounded (mem_append_right _ (mem_cons_of_mem _ hmem))
    omega

theorem Ok.receiveSnapshot {intentSerial : Nat}
    (h : Ok (unfinished (some next)) s) (hrest : s.rest = none)
    (hfrom : (CallKind.snapshot intentSerial next).From s.raised) (text : SnapshotText) :
    Ok 0 (s.receiveSnapshot e intentSerial next text) := by
  unfold Bridge.receiveSnapshot
  split
  · next hcurrent =>
    refine Ok.setRest ((Ok.read h ?_).acts (acts_applySnapshotJson text)) ?_
    · intro read hread
      match next, hfrom with
      | .finish request canRetry, hfrom =>
        rw [mem_singleton.mp hread]
        exact h.serial.getLast?_eq hfrom.1 (hfrom.2.symm.trans hcurrent)
      | .nothing, _ => cases hread
      | .handleFocus, _ => cases hread
    · exact (rest_eq_of_acts (acts_applySnapshotJson text)).trans hrest
  · exact h.setRest hrest

/-- A call of the request that was taken. -/
theorem Ok.requestSnapshot (h : Ok 1 s) {request : WindowRequest} (hraised : request ∈ s.raised)
    (canRetry : Bool) : Ok 0 (s.requestSnapshot (.finish request canRetry) request.serial) := by
  unfold Bridge.requestSnapshot Bridge.callCore
  rw [if_pos h.serial.attached]
  exact ⟨h.serial.call rfl ⟨hraised, rfl⟩, h.fenced⟩

theorem toNat_belongs_snapshot (intentSerial : Nat) (next : Continuation) :
    (CallKind.snapshot intentSerial next).belongs.toNat = unfinished (some next) := by
  cases next <;> rfl

theorem Ok.receive (h : Ok kind.belongs.toNat s) (hrest : s.rest = none)
    (hfrom : kind.From s.raised) (answer : Answer) : Ok 0 (s.receive e kind answer) := by
  cases kind with
  | window request canRetry =>
    cases answer with
    | failed => exact h.failRequest request canRetry
    | _ => exact h.requestSnapshot hfrom canRetry
  | snapshot intentSerial next =>
    cases answer with
    | snapshot text =>
      rw [toNat_belongs_snapshot] at h
      exact h.receiveSnapshot hrest hfrom text
    | _ =>
      cases next with
      | finish request canRetry => exact h.failRequest request canRetry
      | _ => exact h
  | definitions serial =>
    cases answer with
    | definitions parsed => exact h.receiveDefinitions serial parsed
    | _ => exact h.receiveDefinitions (e := e) serial none
  | availability state =>
    cases answer with
    | failed =>
      change Ok 0 (if _ then _ else _)
      split
      · exact h.of_same_calls rfl rfl rfl rfl
      · exact h
    | _ => exact h
  | accelerator =>
    cases answer with
    | failed => exact h
    | _ => exact h.callCore rfl

/-! ### Runs -/

/-- What holds in every state. -/
structure Inv (s : Bridge) : Prop where
  ok : s.attached = true → Ok 0 s
  detached : s.attached = false → s.rest = none
  dated : ∀ call ∈ s.calls, call.generation ≤ s.generation

theorem Ok.inv (h : Ok 0 s) : Inv s :=
  ⟨fun _ => h, fun hdetached => absurd (hdetached.symm.trans h.serial.attached) Bool.false_ne_true,
    h.serial.dated⟩

theorem inv_start : Inv start := ⟨nofun, fun _ => rfl, nofun⟩

theorem Inv.detachCore (h : Inv s) (hrest : s.rest = none) : Inv s.detachCore :=
  ⟨nofun, fun _ => hrest, fun call hcall => Nat.le_succ_of_le (h.dated call hcall)⟩

/-- No intent was raised, and all calls are of earlier owners. -/
theorem Ok.fresh (hattached : s.attached = true) (hrest : s.rest = none)
    (hflight : s.windowRequestInFlight = false) (hpending : s.pendingWindowRequest = none)
    (hraised : s.raised = []) (hsent : s.sent = []) (hreads : s.reads = [])
    (hold : ∀ call ∈ s.calls, call.generation < s.generation) : Ok 0 s := by
  have hnone : s.calls.countP s.owns = 0 := by
    refine countP_eq_zero.mpr fun call hcall howned => ?_
    rw [owns, Bool.and_eq_true, decide_eq_true_eq] at howned
    exact absurd howned.1 (Nat.ne_of_lt (hold call hcall))
  have houtstanding : s.outstanding = 0 := by
    unfold Bridge.outstanding
    rw [hnone, hrest]
    rfl
  obtain ⟨⟩ := s
  cases hflight
  cases hpending
  cases hraised
  cases hsent
  cases hreads
  exact ⟨⟨hattached, houtstanding, nofun, .nil, nofun, nofun, nil_sublist _, rfl,
    fun call hcall hcurrent => absurd hcurrent (Nat.ne_of_lt (hold call hcall)), nofun,
    fun call hcall => Nat.le_of_lt (hold call hcall)⟩, nofun⟩

/-- A new owner of Core: no call is of its generation. -/
theorem Inv.onCoreAppeared (h : Inv s) (hrest : s.rest = none) : Inv (s.onCoreAppeared e) := by
  unfold Bridge.onCoreAppeared
  split
  · exact h
  · obtain ⟨windows, overlay, ht⟩ := attachCompositor_eq e
      { s.detachCore with
        attached := true, generation := s.detachCore.generation + 1
        raised := [], sent := [], reads := [] }
    dsimp only at ht ⊢
    rw [ht]
    refine Ok.inv (Ok.callCore ?_ rfl)
    refine Ok.fresh rfl hrest rfl rfl rfl rfl rfl fun call hcall => ?_
    exact Nat.lt_succ_of_le (Nat.le_succ_of_le (h.dated call hcall))

theorem Inv.continue_ (h : Inv s) (hrest : s.rest = some next) :
    Inv ({ s with rest := none }.continue_ e next) := by
  have hattached : s.attached = true := by
    by_contra hdetached
    exact Option.some_ne_none _ (hrest.symm.trans (h.detached (Bool.eq_false_iff.mpr hdetached)))
  have hok := (h.ok hattached).takeRest hrest
  cases next with
  | nothing => exact hok.inv
  | handleFocus => exact (hok.acts (acts_handleFocusWindow _)).inv
  | finish request canRetry => exact (hok.finishRequest request canRetry).inv

theorem inv_step {callback : Desktop × Event} (h : Inv s) (hstep : s.step callback = some t) : Inv t := by
  obtain ⟨e, event⟩ := callback
  cases steps_of_step hstep with
  | signal signal hattached => exact ((h.ok hattached).acts (acts_signal signal)).inv
  | rest next hrest => exact h.continue_ hrest
  | coreAppeared hrest => exact h.onCoreAppeared hrest
  | coreVanished hrest =>
    unfold onCoreVanished
    split
    · exact h.detachCore hrest
    · exact h
  | stop hrest =>
    unfold Bridge.stop
    split
    · exact ⟨nofun, fun _ => hrest, (h.detachCore hrest).dated⟩
    · exact h
  | snapshotChanged text _ hattached => exact ((h.ok hattached).acts (acts_applySnapshotJson text)).inv
  | settleFocus _ hattached => exact ((h.ok hattached).acts acts_settleFocus).inv
  | retryCandidate window retries _ hattached =>
    exact ((h.ok hattached).acts (acts_retryCandidate window retries)).inv
  | keepalive _ hattached => exact ((h.ok hattached).acts acts_keepalive).inv
  | stale index answer call hrest hcall hstale =>
    refine ⟨fun hattached => ?_, h.detached,
      fun other hother => h.dated other (mem_of_mem_eraseIdx hother)⟩
    have hne : call.generation ≠ s.generation :=
      hstale.resolve_right fun hdetached => Bool.false_ne_true (hdetached.symm.trans hattached)
    have hok := (h.ok hattached).erase hcall
    rw [owns, decide_eq_false hne] at hok
    exact hok
  | answer index answer call hrest hcall hgeneration hattached =>
    have hok := (h.ok hattached).erase hcall
    rw [owns, decide_eq_true hgeneration, Bool.true_and] at hok
    have hfrom := (h.ok hattached).serial.calls call (mem_of_getElem? hcall) hgeneration
    exact (Ok.receive hok hrest hfrom answer).inv

end Bridge

/-- While an owner of Core is attached, at most one window call or the snapshot after it is
outstanding; what was sent is a part of what was raised, in order; with nothing outstanding the last
intent was sent; a snapshot of an intent was read while that intent was the last; and after a clear
there is no game until a report is raised. -/
theorem Bridge.window_intents_serialized (callbacks : List (Desktop × Event)) (s : Bridge)
    (hs : run step start callbacks = some s) (hattached : s.attached = true) :
    s.outstanding ≤ 1 ∧
    s.raised.Pairwise (·.serial < ·.serial) ∧
    (s.sent.map Prod.fst).Sublist s.raised ∧
    (s.outstanding = 0 → (s.sent.map Prod.fst).getLast? = s.raised.getLast?) ∧
    (∀ read ∈ s.reads, read.2 = some read.1) ∧
    (∀ request, s.raised.getLast? = some request → request.intent = .clear →
      s.gameWindow = none) := by
  have hinv : Inv s := reaches_invariant (fun _ _ _ h hstep => inv_step h hstep) inv_start ⟨callbacks, hs⟩
  obtain ⟨hserial, hfenced⟩ := hinv.ok hattached
  have houtstanding := hserial.outstanding
  refine ⟨?_, hserial.ordered, (sublist_append_left _ _).trans hserial.handled, ?_,
    hserial.reads, fun request hlast hclear => (hfenced request hlast hclear).2⟩
  · have hle := Bool.toNat_le s.windowRequestInFlight
    omega
  · intro hzero
    have hidle : s.windowRequestInFlight = false := by
      cases hflight : s.windowRequestInFlight with
      | false => rfl
      | true =>
        rw [hzero, hflight] at houtstanding
        cases houtstanding
    have hpending : s.pendingWindowRequest = none := by
      by_contra hsome
      exact Bool.false_ne_true (hidle.symm.trans (hserial.pending hsome))
    have hlast := hserial.last
    unfold handled at hlast
    rw [hpending, Option.toList_none, append_nil] at hlast
    exact hlast

/-- The game closes while its report is on the way. -/
def Bridge.closing : List (Desktop × Event) :=
  [(gameDesktop, .coreAppeared),
    (gameDesktop, .answer 0 (.snapshot (.envelope 1 (some .passive) .null))),
    (gameDesktop, .rest),
    (gameDesktop, .signal (.unmanaged 1)),
    (gameDesktop, .answer 1 .text)]

/-- The clear waits for the report. -/
theorem Bridge.window_intents_serialized_closing :
    ∃ s, run step start closing = some s ∧ s.attached = true ∧
      s.raised.map (·.intent) = [.report 1 6, .clear] ∧ s.outstanding ≤ 1 ∧ s.gameWindow = none := by
  refine ⟨_, rfl, rfl, rfl, ?_, ?_⟩
  · exact (Bridge.window_intents_serialized closing _ rfl rfl).1
  · exact (Bridge.window_intents_serialized closing _ rfl rfl).2.2.2.2.2 _ rfl rfl

end OverCrow.Gnome
