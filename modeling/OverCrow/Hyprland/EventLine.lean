import OverCrow.Base.Framing
import OverCrow.Base.Text

/-!
# Hyprland event lines

`read_event_line` and `is_reconciliation_event` of `crates/overcrow-hyprland/src/bridge.rs`. The
future collects the bytes of a line in a vector of its own; `LineBuffer` is that vector between
two reads. A line ends with a newline, and a carriage return before it is not part of the line.
-/

namespace OverCrow.Hyprland
open OverCrow.Base List

/-- `crates/overcrow-hyprland/src/ipc.rs:17`. -/
def maxEventLineBytes : Nat := 64 * 1024

def newline : UInt8 := 0x0a

def carriageReturn : UInt8 := 0x0d

/-- How `read_event_line` fails on what it has read. -/
inductive EventError where
  | partialLine
  | lineTooLong
  | notUtf8
  deriving DecidableEq

/-- The texts of the errors, `bridge.rs:714,719,730`. -/
def EventError.message : EventError → String
  | .partialLine => "Hyprland event socket ended with a partial line"
  | .lineTooLong => s!"Hyprland event line exceeds {maxEventLineBytes} bytes"
  | .notUtf8 => "Hyprland event is not UTF-8"

/-- The bytes of an unfinished line. -/
structure LineBuffer where
  bytes : List UInt8
  unfinished : newline ∉ bytes
  bounded : bytes.length ≤ maxEventLineBytes
  deriving DecidableEq

/-- `Vec::new()`. -/
def LineBuffer.empty : LineBuffer := ⟨[], List.not_mem_nil, Nat.zero_le _⟩

theorem LineBuffer.unfinished_append (line : LineBuffer) {bytes : List UInt8}
    (h : newline ∉ bytes) : newline ∉ line.bytes ++ bytes := by
  rw [mem_append]
  rintro (hline | hbytes)
  · exact line.unfinished hline
  · exact h hbytes

theorem unfinished_of_findIdx? {bytes : List UInt8}
    (h : bytes.findIdx? (· = newline) = none) : newline ∉ bytes := by
  rw [findIdx?_eq_none_iff] at h
  intro hmem
  exact absurd rfl (of_decide_eq_false (h newline hmem))

/-- A line without its newline, `bridge.rs:725-730`. -/
def finishLine (line : List UInt8) : Except EventError String :=
  let line := if line.getLast? = some carriageReturn then line.dropLast else line
  match String.fromUTF8? ⟨line.toArray⟩ with
  | some text => .ok text
  | none => .error .notUtf8

/-- What a poll of `read_event_line` comes to. -/
inductive LinePoll where
  | pending (line : LineBuffer)
  | ready (result : Except EventError (Option String))

/-- One round of the loop of `read_event_line`, `bridge.rs:706-731`,
on what `fill_buf` returned, with the number of bytes consumed. Nothing is available at the end
of the stream only. -/
def readEventLine (line : LineBuffer) (available : List UInt8) : LinePoll × Nat :=
  if available = [] then
    if line.bytes = [] then (.ready (.ok none), 0) else (.ready (.error .partialLine), 0)
  else
    match hposition : available.findIdx? (· = newline) with
    | some position =>
      if line.bytes.length + position > maxEventLineBytes then (.ready (.error .lineTooLong), 0)
      else
        (.ready ((finishLine (line.bytes ++ available.take position)).map some), position + 1)
    | none =>
      if hfits : line.bytes.length + available.length > maxEventLineBytes then
        (.ready (.error .lineTooLong), 0)
      else
        let next : LineBuffer :=
          { bytes := line.bytes ++ available
            unfinished := line.unfinished_append (unfinished_of_findIdx? hposition)
            bounded := by
              rw [length_append]
              omega }
        (.pending next, available.length)

/-! ### The format -/

/-- Lines as a stream format. -/
def lineFraming : Framing UInt8 (Except EventError String) where
  complete bytes :=
    let line := if bytes.getLast? = some newline then bytes.dropLast else bytes
    if line.length > maxEventLineBytes then some (.error .lineTooLong)
    else if bytes.getLast? = some newline then some (finishLine line)
    else none

section Format

variable {c xs line : List UInt8}

theorem getLast?_of_unfinished (h : newline ∉ line) : line.getLast? ≠ some newline :=
  fun hlast => h (mem_of_getLast? hlast)

theorem complete_of_unfinished (h : newline ∉ line) (hfits : line.length ≤ maxEventLineBytes) :
    lineFraming.complete line = none := by
  unfold lineFraming
  dsimp only
  rw [if_neg (getLast?_of_unfinished h), if_neg (Nat.not_lt.mpr hfits),
    if_neg (getLast?_of_unfinished h)]

theorem complete_newline (hfits : line.length ≤ maxEventLineBytes) :
    lineFraming.complete (line ++ [newline]) = some (finishLine line) := by
  have hlast : (line ++ [newline]).getLast? = some newline := getLast?_concat
  unfold lineFraming
  dsimp only
  rw [if_pos hlast, dropLast_concat, if_neg (Nat.not_lt.mpr hfits), if_pos hlast]

theorem complete_of_tooLong (h : newline ∉ line) (hlong : line.length > maxEventLineBytes) :
    lineFraming.complete line = some (.error .lineTooLong) := by
  unfold lineFraming
  dsimp only
  rw [if_neg (getLast?_of_unfinished h), if_pos hlong]

/-- Part of a line. -/
theorem decode_part (h : newline ∉ c ++ xs) (hfits : (c ++ xs).length ≤ maxEventLineBytes) :
    lineFraming.decode c xs = ([], c ++ xs) := by
  refine lineFraming.decode_eq_pending fun ys hys _ => ?_
  have hpart : c ++ ys <+: c ++ xs := (prefix_append_right_inj c).mpr hys
  exact complete_of_unfinished (fun hmem => h (hpart.subset hmem))
    (Nat.le_trans hpart.length_le hfits)

/-- The rest of a line and its newline. -/
theorem decode_line (h : newline ∉ c ++ xs) (hfits : (c ++ xs).length ≤ maxEventLineBytes) :
    lineFraming.decode c (xs ++ [newline]) = ([finishLine (c ++ xs)], []) := by
  rw [Framing.decode_append, decode_part h hfits, Framing.decode, complete_newline hfits]
  rfl

/-- The first bytes of a line that are too many. -/
theorem decode_tooLong (hc : c.length ≤ maxEventLineBytes) (h : newline ∉ c ++ xs)
    (hlong : (c ++ xs).length > maxEventLineBytes) :
    ∃ used, used <+: xs ∧ lineFraming.decode c used = ([.error .lineTooLong], []) := by
  have hpart : xs.take (maxEventLineBytes + 1 - c.length) <+: xs := take_prefix _ _
  have hlength : (xs.take (maxEventLineBytes + 1 - c.length)).length =
      maxEventLineBytes + 1 - c.length := by
    rw [length_append] at hlong
    rw [length_take]
    omega
  have hsubset (ys : List UInt8) (hys : ys <+: xs) : newline ∉ c ++ ys := fun hmem =>
    h (((prefix_append_right_inj c).mpr hys).subset hmem)
  refine ⟨_, hpart, lineFraming.decode_eq_item ?_ (complete_of_tooLong (hsubset _ hpart) ?_)
    fun ys hys _ hne => complete_of_unfinished (hsubset _ (hys.trans hpart)) ?_⟩
  · intro hnil
    rw [hnil, length_nil] at hlength
    omega
  · rw [length_append]
    omega
  · have hproper := Nat.lt_of_le_of_ne hys.length_le fun heq => hne (hys.eq_of_length heq)
    rw [length_append]
    omega

end Format

/-- A line as it is sent: its text, and whether it ends with a carriage return and a newline or
with a newline alone. -/
structure EventLine where
  text : String
  crlf : Bool
  single : newline ∉ text.toUTF8.data.toList
  ended : crlf = false → text.toUTF8.data.toList.getLast? ≠ some carriageReturn
  fits : text.toUTF8.data.toList.length + crlf.toNat ≤ maxEventLineBytes

namespace EventLine

/-- The line without its newline. -/
def content (line : EventLine) : List UInt8 :=
  line.text.toUTF8.data.toList ++ if line.crlf then [carriageReturn] else []

/-- The line on the wire. -/
def bytes (line : EventLine) : List UInt8 := line.content ++ [newline]

theorem unfinished_content (line : EventLine) : newline ∉ line.content := by
  unfold content
  rw [mem_append]
  rintro (htext | hend)
  · exact line.single htext
  · split at hend
    · cases mem_singleton.mp hend
    · cases hend

theorem length_content (line : EventLine) : line.content.length ≤ maxEventLineBytes := by
  have hfits := line.fits
  unfold content
  rw [length_append]
  cases hcrlf : line.crlf with
  | false | true =>
    rw [hcrlf] at hfits
    exact hfits

/-- The text is valid UTF-8, with the carriage return and without. -/
theorem finishLine_content (line : EventLine) : finishLine line.content = .ok line.text := by
  have hline : (if line.content.getLast? = some carriageReturn then line.content.dropLast
      else line.content) = line.text.toUTF8.data.toList := by
    unfold content
    cases hcrlf : line.crlf with
    | false =>
      rw [if_neg Bool.false_ne_true, append_nil, if_neg (line.ended hcrlf)]
    | true =>
      rw [if_pos rfl, getLast?_concat, if_pos rfl, dropLast_concat]
  have htext : String.fromUTF8? line.text.toUTF8 = some line.text := dif_pos line.text.isValidUTF8
  unfold finishLine
  dsimp only
  rw [hline, Array.toArray_toList]
  change (match String.fromUTF8? line.text.toUTF8 with
    | some text => Except.ok text
    | none => .error EventError.notUtf8) = _
  rw [htext]

theorem encodes (line : EventLine) : lineFraming.Encodes line.bytes (.ok line.text) where
  nonempty := append_ne_nil_of_right_ne_nil _ (cons_ne_nil _ _)
  complete := by
    rw [bytes, complete_newline line.length_content, line.finishLine_content]
  incomplete := by
    intro ys hys _ hne
    have hcontent : ys <+: line.content := by
      rcases prefix_concat_iff.mp hys with heq | hpart
      · exact absurd heq hne
      · exact hpart
    exact complete_of_unfinished (fun hmem => line.unfinished_content (hcontent.subset hmem))
      (Nat.le_trans hcontent.length_le line.length_content)

end EventLine

/-! ### Polls -/

/-- What a poll does to the stream. -/
def LinePoll.Reads (line available : List UInt8) : LinePoll × Nat → Prop
  | (.pending next, consumed) =>
    0 < consumed ∧ lineFraming.decode line (available.take consumed) = ([], next.bytes)
  | (.ready (.ok (some text)), consumed) =>
    0 < consumed ∧ lineFraming.decode line (available.take consumed) = ([.ok text], [])
  | (.ready (.ok none), _) => available = []
  | (.ready (.error error), _) => available = [] ∨
    ∃ used, used <+: available ∧ lineFraming.decode line used = ([.error error], [])

/-- Where the newline is. -/
theorem findIdx?_newline {available : List UInt8} {position : Nat}
    (h : available.findIdx? (· = newline) = some position) :
    newline ∉ available.take position ∧
      available.take (position + 1) = available.take position ++ [newline] := by
  obtain ⟨hlt, hbyte, hbefore⟩ := findIdx?_eq_some_iff_getElem.mp h
  constructor
  · intro hmem
    obtain ⟨i, hi, hget⟩ := mem_take_iff_getElem.mp hmem
    refine hbefore i (by omega) ?_
    rw [hget]
    exact decide_eq_true rfl
  · rw [take_succ_eq_append_getElem hlt, of_decide_eq_true hbyte]

/-- A poll decodes the bytes it consumes. -/
theorem reads_readEventLine (line : LineBuffer) (available : List UInt8) :
    LinePoll.Reads line.bytes available (readEventLine line available) := by
  unfold readEventLine
  split
  · next hempty =>
    split
    · exact hempty
    · exact .inl hempty
  · next hempty =>
    split
    · next position hposition =>
      obtain ⟨hdata, htake⟩ := findIdx?_newline hposition
      have hunfinished := line.unfinished_append hdata
      have hlength : (line.bytes ++ available.take position).length =
          line.bytes.length + position := by
        obtain ⟨hlt, -⟩ := findIdx?_eq_some_iff_getElem.mp hposition
        rw [length_append, length_take]
        omega
      split
      · next hlong =>
        obtain ⟨used, hused, hdecode⟩ := decode_tooLong line.bounded hunfinished (by omega)
        exact .inr ⟨used, hused.trans (List.take_prefix _ _), hdecode⟩
      · next hfits =>
        have hdecode := decode_line hunfinished (by omega)
        rw [← htake] at hdecode
        cases hfinish : finishLine (line.bytes ++ available.take position) with
        | ok text =>
          rw [hfinish] at hdecode
          exact ⟨Nat.succ_pos _, hdecode⟩
        | error error =>
          rw [hfinish] at hdecode
          exact .inr ⟨_, take_prefix _ _, hdecode⟩
    · next hposition =>
      have hunfinished := line.unfinished_append (unfinished_of_findIdx? hposition)
      split
      · next hlong =>
        rw [← length_append] at hlong
        exact .inr (decode_tooLong line.bounded hunfinished hlong)
      · next hfits =>
        rw [← length_append, Nat.not_lt] at hfits
        refine ⟨length_pos_iff.mpr hempty, ?_⟩
        rw [take_length]
        exact decode_part hunfinished hfits

/-! ### The events -/

/-- The names of `is_reconciliation_event`, `bridge.rs:676-697`. -/
def reconciliationEvents : List String :=
  ["workspace", "workspacev2", "focusedmon", "focusedmonv2", "activewindow", "activewindowv2",
    "fullscreen", "monitorremoved", "monitorremovedv2", "monitoradded", "monitoraddedv2",
    "openwindow", "closewindow", "kill", "movewindow", "movewindowv2", "changefloatingmode",
    "windowtitle", "windowtitlev2", "configreloaded", "pin", "minimized"]

/-- `bridge.rs:670`. -/
def isReconciliationEvent (line : String) : Bool :=
  match splitOnce ">>".toList line.toList with
  | none => false
  | some (name, _) => reconciliationEvents.contains (String.ofList name)

/-- `line.starts_with("configreloaded>>")`. -/
def isConfigReloaded (line : String) : Bool :=
  "configreloaded>>".toList.isPrefixOf line.toList

/-- The branch for a reloaded configuration is reached by every such line. -/
theorem isReconciliationEvent_of_isConfigReloaded {line : String}
    (h : isConfigReloaded line = true) : isReconciliationEvent line = true := by
  obtain ⟨rest, hrest⟩ := isPrefixOf_iff_prefix.mp h
  unfold isReconciliationEvent
  rw [← hrest]
  rfl

end OverCrow.Hyprland
