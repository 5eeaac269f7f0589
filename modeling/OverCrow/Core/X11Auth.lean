import OverCrow.Base.Task

/-!
# The X11 authority file

`parse_xauthority` of `crates/overcrow-core/src/x11_shortcut.rs`. The offset is where the bytes that are left
begin: a slice is there exactly if that many of them are.
-/

namespace OverCrow.Core.X11
open OverCrow.Base

def malformed : String := "native X11 authentication file is malformed"

/-- `x11_shortcut.rs:255`. -/
def readXauthorityU16 : List UInt8 → Except String (UInt16 × List UInt8)
  | high :: low :: rest => .ok (.ofNat (256 * high.toNat + low.toNat), rest)
  | _ => .error malformed

/-- `x11_shortcut.rs:264`. -/
def readXauthorityField (bytes : List UInt8) : Except String (List UInt8 × List UInt8) := do
  let (length, bytes) ← readXauthorityU16 bytes
  let length := length.toNat
  if length ≤ bytes.length then .ok (bytes.take length, bytes.drop length) else .error malformed

structure XauthorityEntry where
  family : UInt16
  address : List UInt8
  display : List UInt8
  name : List UInt8
  data : List UInt8

/-- One round of the loop, `x11_shortcut.rs:235-239`. -/
def readEntry (bytes : List UInt8) : Except String (XauthorityEntry × List UInt8) := do
  let (family, bytes) ← readXauthorityU16 bytes
  let (address, bytes) ← readXauthorityField bytes
  let (display, bytes) ← readXauthorityField bytes
  let (name, bytes) ← readXauthorityField bytes
  let (data, bytes) ← readXauthorityField bytes
  return (⟨family, address, display, name, data⟩, bytes)

def wild : UInt16 := 65535

def mitMagicCookie : List UInt8 := "MIT-MAGIC-COOKIE-1".toUTF8.data.toList

/-- `x11_shortcut.rs:240-245`. -/
def XauthorityEntry.fits (entry : XauthorityEntry) (family : UInt16) (address : List UInt8) (display : UInt16) :
    Bool :=
  (family == wild || entry.family == wild || family == entry.family) &&
    (family == wild || entry.family == wild || entry.address == address) &&
    (entry.display.isEmpty || entry.display == (toString display.toNat).toUTF8.data.toList) &&
    entry.name == mitMagicCookie

/-! ### The format -/

def encodeU16 (value : UInt16) : List UInt8 := [.ofNat (value.toNat / 256), .ofNat value.toNat]

def encodeField (field : List UInt8) : List UInt8 := encodeU16 (.ofNat field.length) ++ field

namespace XauthorityEntry

/-- The length of a field is two bytes. -/
def Valid (entry : XauthorityEntry) : Prop :=
  entry.address.length < 2 ^ 16 ∧ entry.display.length < 2 ^ 16 ∧ entry.name.length < 2 ^ 16 ∧
    entry.data.length < 2 ^ 16

def encode (entry : XauthorityEntry) : List UInt8 :=
  encodeU16 entry.family ++ encodeField entry.address ++ encodeField entry.display ++ encodeField entry.name ++
    encodeField entry.data

end XauthorityEntry

theorem readXauthorityU16_eq_ok {bytes rest : List UInt8} {value : UInt16} :
    readXauthorityU16 bytes = .ok (value, rest) ↔ bytes = encodeU16 value ++ rest := by
  unfold readXauthorityU16 encodeU16
  split
  · next high low left =>
    have hhigh := high.toNat_lt
    have hlow := low.toNat_lt
    have hvalue := value.toNat_lt
    simp only [Except.ok.injEq, Prod.mk.injEq, List.cons_append, List.nil_append, List.cons.injEq,
      ← UInt8.toNat_inj, ← UInt16.toNat_inj, UInt8.toNat_ofNat', UInt16.toNat_ofNat']
    rw [← and_assoc]
    refine and_congr_left' ⟨fun h => ?_, fun h => ?_⟩ <;> omega
  · next hshort => exact iff_of_false nofun (hshort _ _ rest)

theorem readXauthorityField_eq_ok {bytes field rest : List UInt8} :
    readXauthorityField bytes = .ok (field, rest) ↔ field.length < 2 ^ 16 ∧ bytes = encodeField field ++ rest := by
  unfold readXauthorityField encodeField
  constructor
  · intro h
    obtain ⟨⟨length, left⟩, hlength, h⟩ := bind_eq_ok.mp h
    rw [readXauthorityU16_eq_ok] at hlength
    dsimp only at h
    split_ifs at h with hfits
    cases h
    have := length.toNat_lt
    simp [hlength, hfits, this]
  · rintro ⟨hfield, rfl⟩
    rw [List.append_assoc, readXauthorityU16_eq_ok.mpr rfl]
    have hlength : (UInt16.ofNat field.length).toNat = field.length := Nat.mod_eq_of_lt hfield
    simp [hlength, bind, Except.bind]

theorem readEntry_eq_ok {bytes rest : List UInt8} {entry : XauthorityEntry} :
    readEntry bytes = .ok (entry, rest) ↔ entry.Valid ∧ bytes = entry.encode ++ rest := by
  simp only [readEntry, bind_eq_ok, readXauthorityU16_eq_ok, readXauthorityField_eq_ok, Prod.exists]
  constructor
  · rintro ⟨family, _, rfl, address, _, ⟨ha, rfl⟩, display, _, ⟨hd, rfl⟩, name, _, ⟨hn, rfl⟩, data, _, ⟨ht, rfl⟩, h⟩
    cases h
    exact ⟨⟨ha, hd, hn, ht⟩, by simp [XauthorityEntry.encode]⟩
  · rintro ⟨⟨ha, hd, hn, ht⟩, rfl⟩
    simp only [XauthorityEntry.encode, List.append_assoc]
    exact ⟨_, _, rfl, _, _, ⟨ha, rfl⟩, _, _, ⟨hd, rfl⟩, _, _, ⟨hn, rfl⟩, _, _, ⟨ht, rfl⟩, rfl⟩

/-- `x11_shortcut.rs:226`. -/
def parseXauthority (family : UInt16) (address : List UInt8) (display : UInt16) (bytes : List UInt8) :
    Except String (List UInt8 × List UInt8) :=
  if bytes.isEmpty then .ok ([], []) else
    match h : readEntry bytes with
    | .error text => .error text
    | .ok (entry, rest) =>
      if entry.fits family address display then .ok (entry.name, entry.data)
      else parseXauthority family address display rest
termination_by bytes.length
decreasing_by
  rw [(readEntry_eq_ok.mp h).2]
  simp only [XauthorityEntry.encode, encodeU16, List.length_append, List.length_cons]
  omega

variable (family : UInt16) (address : List UInt8) (display : UInt16)

theorem parseXauthority_encode {entry : XauthorityEntry} (h : entry.Valid) (rest : List UInt8) :
    parseXauthority family address display (entry.encode ++ rest) =
      if entry.fits family address display then .ok (entry.name, entry.data)
      else parseXauthority family address display rest := by
  have hsome : (entry.encode ++ rest).isEmpty = false := rfl
  rw [parseXauthority, hsome, readEntry_eq_ok.mpr ⟨h, rfl⟩]
  rfl

/-- The first entry that fits is found; the file is refused exactly if it does not consist of entries up to one that
fits. -/
theorem parseXauthority_exact (bytes : List UInt8) :
    (∀ entries : List { entry : XauthorityEntry // entry.Valid },
      parseXauthority family address display (entries.flatMap (·.1.encode)) =
        .ok (match entries.find? (·.1.fits family address display) with
          | some entry => (entry.1.name, entry.1.data)
          | none => ([], []))) ∧
    ((∃ text, parseXauthority family address display bytes = .error text) ↔
      ¬∃ entries : List { entry : XauthorityEntry // entry.Valid }, entries.flatMap (·.1.encode) = bytes ∨
        entries.flatMap (·.1.encode) <+: bytes ∧ ∃ entry ∈ entries, entry.1.fits family address display) := by
  refine ⟨fun entries => ?_, ?_⟩
  · induction entries with
    | nil => simp [parseXauthority]
    | cons entry entries ih =>
      rw [List.flatMap_cons, parseXauthority_encode _ _ _ entry.2, List.find?_cons, ih]
      cases entry.1.fits family address display <;> rfl
  constructor
  · rintro ⟨text, htext⟩ ⟨entries, hbytes⟩
    induction entries generalizing bytes with
    | nil =>
      obtain rfl : [] = bytes := by simpa using hbytes
      simp [parseXauthority] at htext
    | cons entry entries ih =>
      obtain ⟨rest, rfl⟩ : entry.1.encode <+: bytes := by
        exact hbytes.elim (fun h => ⟨_, h⟩) fun h => (List.prefix_append _ _).trans h.1
      rw [parseXauthority_encode _ _ _ entry.2] at htext
      split_ifs at htext with hfits
      refine ih rest htext ?_
      simpa [hfits] using hbytes
  · intro hnone
    by_contra htext
    apply hnone
    clear hnone
    fun_induction parseXauthority with
    | case1 => exact ⟨[], .inl (by simp_all)⟩
    | case2 => simp_all
    | case3 bytes _ entry rest hread hfits =>
      obtain ⟨hvalid, rfl⟩ := readEntry_eq_ok.mp hread
      exact ⟨[⟨entry, hvalid⟩], .inr ⟨by simp, by simpa using hfits⟩⟩
    | case4 bytes _ entry rest hread hfits ih =>
      obtain ⟨hvalid, rfl⟩ := readEntry_eq_ok.mp hread
      obtain ⟨entries, hentries⟩ := ih htext
      exact ⟨⟨entry, hvalid⟩ :: entries, by simpa [hfits] using hentries⟩

end OverCrow.Core.X11
