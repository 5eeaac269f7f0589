import OverCrow.Base.Text
import OverCrow.Base.Trim
import OverCrow.Overlay.Latest

/-!
# The market client

`crates/overcrow-overlay/src/warframe/market/client.rs`: the client on the thread of the interface, and
its worker. Every access to what they share is a step of its own; the publication gate is held where
a thread stands inside of it. The client is used by one thread, one call after the other. The
generation counts the toggles, of which there are not `2 ^ 64`.
-/

namespace OverCrow.Warframe
open OverCrow.Base OverCrow.Overlay

/-! ### Snapshots -/

/-- `crates/overcrow-overlay/src/warframe/market/model.rs:10`. -/
inductive TradeSide where
  | sell
  | buy
  deriving DecidableEq

/-- `crates/overcrow-overlay/src/warframe/market/model.rs:18`. -/
inductive TraderPresence where
  | online
  | ingame
  | offline
  | unknown
  deriving DecidableEq

/-- `crates/overcrow-overlay/src/warframe/market/model.rs:61`. -/
structure MarketItemSummary where
  name : String
  slug : String
  deriving DecidableEq

/-- `crates/overcrow-overlay/src/warframe/market/model.rs:67`. -/
structure MarketOrder where
  side : TradeSide
  platinum : Nat
  trader : String
  presence : TraderPresence
  deriving DecidableEq

/-- `crates/overcrow-overlay/src/warframe/market/model.rs:75`. -/
structure MarketItemDetail where
  name : String
  slug : String
  lowestSell : Option Nat := none
  highestBuy : Option Nat := none
  orderCount : Nat := 0
  topSells : List MarketOrder := []
  topBuys : List MarketOrder := []
  deriving DecidableEq

/-- `crates/overcrow-overlay/src/warframe/market/model.rs:48`. -/
structure MarketSnapshot where
  query : String := ""
  results : List MarketItemSummary := []
  selected : Option MarketItemDetail := none
  status : Option String := none
  error : Option String := none
  selectedFetchedAtSecs : Nat := 0
  nextRefreshAtSecs : Nat := 0
  deriving DecidableEq

/-- `crates/overcrow-overlay/src/warframe/model.rs:138`. -/
def boundChars (input : String) (maxChars : Nat) : String :=
  if input.length ≤ maxChars then input
  else String.ofList (input.toList.take (maxChars - 1) ++ ['…'])

/-- `crates/overcrow-overlay/src/warframe/model.rs:3`. -/
def stringMaxChars : Nat := 96

/-- `crates/overcrow-overlay/src/warframe/model.rs:8`. -/
def errorMaxChars : Nat := 160

/-- `crates/overcrow-overlay/src/warframe/http.rs:176`. -/
def isSafeMarketSlug (slug : String) : Bool :=
  1 ≤ slug.utf8ByteSize && slug.utf8ByteSize ≤ 96 &&
    slug.toList.all fun c => ('a' ≤ c && c ≤ 'z') || isAsciiDigit c || c = '_' || c = '-'

/-! ### Errors -/

/-- `http.rs:30`. -/
inductive HttpError where
  | invalidUrl
  | timeout
  | transport (message : String)
  | status (code : Nat) (retryAfter : Option Duration)
  | bodyTooLarge (maximum : Nat)
  | read (message : String)
  | parse (message : String)
  deriving DecidableEq

/-- The text of an error, `http.rs:45`. -/
def HttpError.text : HttpError → String
  | .invalidUrl => "invalid or disallowed URL"
  | .timeout => "HTTP request timed out"
  | .transport message => "HTTP transport failed: " ++ message
  | .status code _ => "HTTP status " ++ toString code
  | .bodyTooLarge maximum => "response too large (maximum " ++ toString maximum ++ " bytes)"
  | .read message => "response read failed: " ++ message
  | .parse message => "response parse failed: " ++ message

/-- `crates/overcrow-overlay/src/warframe/market/model.rs:116`. -/
def boundError (message : String) : String := boundChars message errorMaxChars

/-- `client.rs:36`. -/
def errorBackoffInitial : Duration := fromSecs 5

/-- `client.rs:37`. -/
def errorBackoffMax : Duration := fromSecs 120

/-- `client.rs:38`. -/
def retryAfterMax : Duration := fromSecs 300

/-- `client.rs:63`. -/
structure RetryPolicy where
  delay : Duration
  nextBackoff : Duration
  deriving DecidableEq

/-- `client.rs:68`. -/
def retryPolicy (error : HttpError) (backoff : Duration) : RetryPolicy :=
  match error with
  | .status 429 (some retryAfter) => ⟨min retryAfter retryAfterMax, backoff⟩
  | _ => ⟨backoff, min (backoff * 2) errorBackoffMax⟩

/-! ### Commands -/

/-- `client.rs:41`. -/
inductive MarketCommand where
  | search (query : String)
  | select (slug : String)
  | refreshSelected
  | clear
  deriving DecidableEq

/-- `client.rs:49`. -/
structure WorkerCommand where
  generation : Nat
  command : MarketCommand
  deriving DecidableEq

/-- `client.rs:34`. -/
def commandCapacity : Nat := 8

/-- `client.rs:86`. -/
def normalizeCommand : MarketCommand → Option MarketCommand
  | .search query => some (.search (boundChars (trim query) stringMaxChars))
  | .select slug => if isSafeMarketSlug slug then some (.select slug) else none
  | command => some command

/-- `is_refresh`. -/
def WorkerCommand.isRefresh (request : WorkerCommand) : Bool := request.command = .refreshSelected

/-- What the backend returns. -/
inductive Answer where
  | search (result : Except HttpError (List MarketItemSummary))
  | orders (result : Except HttpError MarketItemDetail)

/-- `crates/overcrow-overlay/src/warframe/market/model.rs:45`. -/
def marketOrdersRefreshSecs : Nat := 30

namespace MarketSnapshot

/-- The end of a search, `client.rs:512-527`. -/
def searched (snapshot : MarketSnapshot) (backoff : Duration) :
    Except HttpError (List MarketItemSummary) → MarketSnapshot × Duration
  | .ok results =>
    ({ snapshot with
        results := results, selected := none, selectedFetchedAtSecs := 0, nextRefreshAtSecs := 0
        status := none }, errorBackoffInitial)
  | .error error => ({ snapshot with error := some (boundError error.text), status := none }, backoff)

/-- Orders have arrived, `client.rs:556-564,589-598`. -/
def ordered (snapshot : MarketSnapshot) (detail : MarketItemDetail) (now : Nat) : MarketSnapshot :=
  { snapshot with
    selected := some detail, selectedFetchedAtSecs := now
    nextRefreshAtSecs := saturatingAdd u64Max now marketOrdersRefreshSecs
    error := none, status := none }

/-- The end of a selection, `client.rs:554-574`. -/
def chosen (snapshot : MarketSnapshot) (backoff : Duration) (now : Nat) :
    Except HttpError MarketItemDetail → MarketSnapshot × Duration
  | .ok detail => (snapshot.ordered detail now, errorBackoffInitial)
  | .error error =>
    let policy := retryPolicy error backoff
    ({ snapshot with
        error := some (boundError error.text), status := none
        nextRefreshAtSecs := saturatingAdd u64Max now (policy.delay / 1000000000) },
      policy.nextBackoff)

/-- The end of a refresh, `client.rs:587-609`: the status
stays where it fails. -/
def refreshed (snapshot : MarketSnapshot) (backoff : Duration) (now : Nat) :
    Except HttpError MarketItemDetail → MarketSnapshot × Duration
  | .ok detail => (snapshot.ordered detail now, errorBackoffInitial)
  | .error error =>
    let policy := retryPolicy error backoff
    ({ snapshot with
        error := some (boundError error.text)
        nextRefreshAtSecs := saturatingAdd u64Max now (policy.delay / 1000000000) },
      policy.nextBackoff)

/-- What a command makes of an answer at a time of the clock. -/
def settle (snapshot : MarketSnapshot) (backoff : Duration) (now : Nat) :
    MarketCommand → Answer → Option (MarketSnapshot × Duration)
  | .search _, .search result => some (snapshot.searched backoff result)
  | .select _, .orders result => some (snapshot.chosen backoff now result)
  | .refreshSelected, .orders result => some (snapshot.refreshed backoff now result)
  | _, _ => none

end MarketSnapshot

/-- What the client changes in the snapshot itself. -/
inductive Change where
  /-- The market was disabled, `client.rs:219-223`. -/
  | disabled
  /-- The queue is full, `client.rs:264-268`. -/
  | busy
  /-- The worker is gone, `client.rs:276-280`. -/
  | unavailable
  deriving DecidableEq

namespace Change

def needed : Change → MarketSnapshot → Bool
  | .disabled, snapshot => snapshot.status.isSome || snapshot.nextRefreshAtSecs ≠ 0
  | .busy, snapshot => snapshot.status ≠ some "Market busy…"
  | .unavailable, snapshot => snapshot.error ≠ some "Market client unavailable"

def apply : Change → MarketSnapshot → MarketSnapshot
  | .disabled, snapshot => { snapshot with status := none, nextRefreshAtSecs := 0 }
  | .busy, snapshot => { snapshot with status := some "Market busy…" }
  | .unavailable, snapshot => { snapshot with error := some "Market client unavailable" }

end Change

/-! ### Threads -/

/-- Where the thread of the interface stands in a call of the client. -/
inductive UiPlace where
  | idle
  /-- `set_enabled` waits for the gate. -/
  | enabling (enabled : Bool)
  /-- The gate is held. -/
  | gated (enabled : Bool)
  /-- The gate is held, and `enabled` has changed. -/
  | swapped (enabled : Bool)
  /-- The present snapshot is to be read. -/
  | checking (change : Change)
  | updating (change : Change)
  /-- The update has been stored; the receiver is told. -/
  | announcing (change : Change)
  /-- `send` has a command. -/
  | sending (command : MarketCommand)
  /-- `refresh_pending` is to be swapped. -/
  | claiming
  /-- The generation is to be read. -/
  | loading (command : MarketCommand)
  | trySending (request : WorkerCommand)
  /-- The queue did not take the command: it is full, or the worker is gone. -/
  | failed (isRefresh full : Bool)
  /-- `drop`, after so many of its writes. -/
  | dropping (writes : Nat)
  deriving DecidableEq

/-- The gate is held by `set_enabled`. -/
def UiPlace.holdsGate : UiPlace → Bool
  | .gated _ => true
  | .swapped _ => true
  | .checking .disabled => true
  | .updating .disabled => true
  | .announcing .disabled => true
  | _ => false

/-- What follows a publication of the worker. -/
inductive AfterPublish where
  | call
  | finish
  | skip
  deriving DecidableEq

/-- What follows the release of `refresh_pending`. -/
inductive AfterRelease where
  | resume
  /-- Whether to stop is looked up. -/
  | check
  | stop
  deriving DecidableEq

/-- Where the worker stands in its loop. -/
inductive WorkerPlace where
  | idle
  | received (request : WorkerCommand)
  /-- `enabled` is to be read. -/
  | checking (request : WorkerCommand)
  /-- The generation is to be read. -/
  | comparing (request : WorkerCommand)
  /-- The snapshot is to be cloned. -/
  | cloning (request : WorkerCommand)
  /-- `publish_worker_if_current` waits for the gate. -/
  | publishing (request : WorkerCommand) (snapshot : MarketSnapshot) (next : AfterPublish)
  /-- The gate is held, and all checks are passed. -/
  | gated (request : WorkerCommand) (snapshot : MarketSnapshot) (next : AfterPublish)
  /-- The gate is held, and the snapshot is stored. -/
  | announcing (request : WorkerCommand) (snapshot : MarketSnapshot) (next : AfterPublish)
  /-- The backend is called. -/
  | calling (request : WorkerCommand) (snapshot : MarketSnapshot)
  /-- `refresh_pending` is to be released, if the command is a refresh. -/
  | releasing (request : WorkerCommand) (next : AfterRelease)
  | finished
  | stopping
  | stopped
  deriving DecidableEq

def WorkerPlace.holdsGate : WorkerPlace → Bool
  | .gated _ _ _ => true
  | .announcing _ _ _ => true
  | _ => false

def AfterPublish.place (request : WorkerCommand) (snapshot : MarketSnapshot) :
    AfterPublish → WorkerPlace
  | .call => .calling request snapshot
  | .finish => .releasing request .check
  | .skip => .releasing request .resume

def AfterRelease.place : AfterRelease → WorkerPlace
  | .resume => .idle
  | .check => .finished
  | .stop => .stopping

/-- What has happened, for the record. -/
inductive Entry where
  | toggled (enabled : Bool)
  | sent (request : WorkerCommand)
  | published (request : WorkerCommand) (snapshot : MarketSnapshot)
  deriving DecidableEq

/-- The client and its worker. -/
structure Market where
  enabled : Bool := false
  generation : Nat := 0
  refreshPending : Bool := false
  shutdown : Bool := false
  commands : List WorkerCommand := []
  /-- The sender of the queue was dropped. -/
  closed : Bool := false
  /-- The latest snapshot; the interface is publisher 0 and the worker publisher 1. -/
  channel : LatestSystem MarketSnapshot := .start {}
  errorBackoff : Duration := errorBackoffInitial
  ui : UiPlace := .idle
  worker : WorkerPlace := .idle
  log : List Entry := []

namespace Market

variable (s : Market)

/-- The present snapshot. -/
def current : MarketSnapshot := s.channel.state.current

/-- `client.rs:631`. -/
def requestIsCurrent (request : WorkerCommand) : Bool :=
  s.enabled && s.generation = request.generation

/-- A publication. At the last revision the thread panics, which ends the run. -/
def store (event : LatestSystem.Event MarketSnapshot) : Option (LatestSystem MarketSnapshot) :=
  if s.channel.state.revision < u64Max then s.channel.step .market event else none

/-- The next step of the thread of the interface inside a call,
`client.rs:207-298`. -/
def uiStep : Option Market :=
  match s.ui with
  | .idle => none
  | .enabling enabled => if s.worker.holdsGate then none else some { s with ui := .gated enabled }
  | .gated enabled =>
    some { s with
      enabled := enabled, ui := if s.enabled = enabled then .idle else .swapped enabled }
  | .swapped enabled =>
    some { s with
      generation := s.generation + 1, log := s.log ++ [.toggled enabled]
      ui := if enabled then .idle else .checking .disabled }
  | .checking change =>
    some { s with ui := if change.needed s.current then .updating change else .idle }
  | .updating change =>
    (s.store (.update 0 change.apply)).map fun channel =>
      { s with channel := channel, ui := .announcing change }
  | .announcing _ => if s.channel.publishers 0 = .idle then some { s with ui := .idle } else none
  | .sending command =>
    some { s with
      ui :=
        if !s.enabled then .idle
        else if command = .refreshSelected then .claiming
        else .loading command }
  | .claiming =>
    some { s with
      refreshPending := true
      ui := if s.refreshPending then .idle else .loading .refreshSelected }
  | .loading command => some { s with ui := .trySending ⟨s.generation, command⟩ }
  | .trySending request =>
    if s.worker = .stopped then some { s with ui := .failed request.isRefresh false }
    else if s.commands.length < commandCapacity then
      some { s with
        commands := s.commands ++ [request], log := s.log ++ [.sent request], ui := .idle }
    else some { s with ui := .failed request.isRefresh true }
  | .failed isRefresh full =>
    some { s with
      refreshPending := if isRefresh then false else s.refreshPending
      ui := .checking (if full then .busy else .unavailable) }
  | .dropping 0 => some { s with shutdown := true, ui := .dropping 1 }
  | .dropping 1 => some { s with enabled := false, ui := .dropping 2 }
  | .dropping 2 => some { s with generation := s.generation + 1, ui := .dropping 3 }
  | .dropping 3 => some { s with closed := true, ui := .dropping 4 }
  | .dropping _ => none

/-- The snapshot is cloned, and the command begins,
`client.rs:495-586`. -/
def begin (request : WorkerCommand) : Market :=
  match request.command with
  | .clear =>
    { s with errorBackoff := errorBackoffInitial, worker := .publishing request {} .finish }
  | .search query =>
    { s with
      worker := .publishing request
        { s.current with query := query, status := some "Recherche…", error := none } .call }
  | .select slug =>
    { s with
      worker :=
        if isSafeMarketSlug slug then
          .publishing request
            { s.current with
              status := some "Loading orders…", error := none, nextRefreshAtSecs := u64Max } .call
        else
          .publishing request
            { s.current with error := some "invalid item id", status := none } .skip }
  | .refreshSelected =>
    { s with
      worker :=
        match s.current.selected with
        | none => .releasing request .resume
        | some detail =>
          if isSafeMarketSlug detail.slug then .calling request s.current
          else .releasing request .resume }

/-- The next step of the worker outside the backend,
`client.rs:480-677`. -/
def workerStep : Option Market :=
  match s.worker with
  | .idle =>
    match s.commands with
    | request :: rest => some { s with commands := rest, worker := .received request }
    | [] => if s.closed then some { s with worker := .stopping } else none
  | .received request =>
    some { s with worker := if s.shutdown then .releasing request .stop else .checking request }
  | .checking request =>
    some { s with worker := if s.enabled then .comparing request else .releasing request .resume }
  | .comparing request =>
    some { s with
      worker :=
        if s.generation = request.generation then .cloning request else .releasing request .resume }
  | .cloning request => some (s.begin request)
  | .publishing request snapshot next =>
    if s.ui.holdsGate then none
    else
      some { s with
        worker :=
          if s.shutdown || !s.requestIsCurrent request || s.current = snapshot then
            next.place request snapshot
          else .gated request snapshot next }
  | .gated request snapshot next =>
    (s.store (.publish 1 snapshot)).map fun channel =>
      { s with
        channel := channel, worker := .announcing request snapshot next
        log := s.log ++ [.published request snapshot] }
  | .announcing request snapshot next =>
    if s.channel.publishers 1 = .idle then some { s with worker := next.place request snapshot }
    else none
  | .calling _ _ => none
  | .releasing request next =>
    some { s with
      refreshPending := if request.isRefresh then false else s.refreshPending
      worker := next.place }
  | .finished => some { s with worker := if s.shutdown then .stopping else .idle }
  | .stopping => some { s with refreshPending := false, commands := [], worker := .stopped }
  | .stopped => none

/-- The backend has answered, at a time of the clock. -/
def answer (result : Answer) (now : Nat) : Option Market :=
  match s.worker with
  | .calling request snapshot =>
    (snapshot.settle s.errorBackoff now request.command result).map fun settled =>
      { s with
        errorBackoff := settled.2, worker := .publishing request settled.1 .finish }
  | _ => none

/-- A step. -/
inductive Event where
  /-- `set_enabled` is called. -/
  | setEnabled (enabled : Bool)
  /-- `send` is called. -/
  | send (command : MarketCommand)
  /-- The client is dropped. -/
  | drop
  | ui
  | worker
  | answer (result : Answer) (now : Nat)
  /-- A step of the channel that stores nothing: the receiver is told, or it takes a value. -/
  | channel (event : LatestSystem.Event MarketSnapshot)

/-- What is stored is stored by the steps of the client and the worker. -/
def stores : LatestSystem.Event MarketSnapshot → Bool
  | .publish _ _ => true
  | .update _ _ => true
  | _ => false

def step (s : Market) : Event → Option Market
  | .setEnabled enabled => if s.ui = .idle then some { s with ui := .enabling enabled } else none
  | .send command =>
    if s.ui = .idle then
      some { s with
        ui := match normalizeCommand command with
          | none => .idle
          | some command => .sending command }
    else none
  | .drop => if s.ui = .idle then some { s with ui := .dropping 0 } else none
  | .ui => s.uiStep
  | .worker => s.workerStep
  | .answer result now => s.answer result now
  | .channel event =>
    if stores event then none
    else (s.channel.step .market event).map fun channel => { s with channel := channel }

/-- A new client, `client.rs:147`. -/
def start : Market := {}

end Market

end OverCrow.Warframe
