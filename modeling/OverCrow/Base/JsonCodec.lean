import OverCrow.Base.JsonRoundTrip

/-!
# Values read from JSON

What `serde` makes of a JSON value at the types that are read here, and the bytes of a value. A
struct is read from an object or from an array of its fields in order.
-/

namespace OverCrow.Base.Json
open List

section Read

variable {α : Type*}

def asBool : Json → Option Bool
  | bool b => some b
  | _ => none

def asString : Json → Option String
  | string s => some s
  | _ => none

/-- An unsigned integer with the given largest value. -/
def asUnsigned (bound : Nat) : Json → Option Nat
  | number n => if 0 ≤ n ∧ n.toNat ≤ bound then some n.toNat else none
  | _ => none

def asList (read : Json → Option α) : Json → Option (List α)
  | array elements => elements.mapM read
  | _ => none

def asOption (read : Json → Option α) : Json → Option (Option α)
  | null => some none
  | v => (read v).map some

/-- A variant without data: its name, or an object of its name with `null`. -/
def asVariant (variants : List (String × α)) : Json → Option α
  | string name => variants.lookup name
  | object [(name, null)] => variants.lookup name
  | _ => none

/-- The fields of a struct that refuses unknown fields. -/
def asFields (names : List String) : Json → Option (List (String × Json))
  | object members =>
    if (members.map Prod.fst).Nodup ∧ ∀ name ∈ members.map Prod.fst, name ∈ names then some members
    else none
  | array elements => if elements.length ≤ names.length then some (names.zip elements) else none
  | _ => none

/-- A field that must be there. -/
def field (fields : List (String × Json)) (name : String) (read : Json → Option α) : Option α :=
  (fields.lookup name).bind read

/-- A field with a default. -/
def fieldOr (default : α) (fields : List (String × Json)) (name : String)
    (read : Json → Option α) : Option α :=
  match fields.lookup name with
  | none => some default
  | some v => read v

@[simp] theorem asBool_bool (b : Bool) : asBool (bool b) = some b := rfl

@[simp] theorem asString_string (s : String) : asString (string s) = some s := rfl

theorem asUnsigned_number {bound n : Nat} (h : n ≤ bound) :
    asUnsigned bound (number n) = some n :=
  if_pos ⟨Int.natCast_nonneg n, h⟩

/-- A list reads back if its elements do. -/
theorem asList_array {read : Json → Option α} {write : α → Json} {as : List α}
    (h : ∀ a ∈ as, read (write a) = some a) : asList read (array (as.map write)) = some as := by
  change (as.map write).mapM read = some as
  induction as with
  | nil => rfl
  | cons a as ih =>
    rw [forall_mem_cons] at h
    rw [map_cons, mapM_cons, h.1, ih h.2]
    rfl

theorem asFields_object {names : List String} {members : List (String × Json)}
    (hnodup : (members.map Prod.fst).Nodup) (hnames : ∀ name ∈ members.map Prod.fst, name ∈ names) :
    asFields names (object members) = some members :=
  if_pos ⟨hnodup, hnames⟩

section Fields

variable {fields : List (String × Json)} {name : String} {v : Json}

theorem lookup_getElem? (hnodup : (fields.map Prod.fst).Nodup) {i : Nat}
    (h : fields[i]? = some (name, v)) : fields.lookup name = some v := by
  induction fields generalizing i with
  | nil => cases h
  | cons first fields ih =>
    rw [map_cons, nodup_cons] at hnodup
    cases i with
    | zero =>
      cases h
      exact lookup_cons_self
    | succ i =>
      have hmem : name ∈ fields.map Prod.fst :=
        mem_map.mpr ⟨(name, v), mem_of_getElem? h, rfl⟩
      have hne : (name == first.1) = false := beq_false_of_ne fun heq => hnodup.1 (heq ▸ hmem)
      rw [lookup_cons, hne]
      exact ih hnodup.2 h

/-- A field of a struct is the one at its position. -/
theorem field_getElem? (hnodup : (fields.map Prod.fst).Nodup) (i : Nat)
    (h : fields[i]? = some (name, v)) (read : Json → Option α) :
    field fields name read = read v := by
  rw [field, lookup_getElem? hnodup h]
  rfl

theorem fieldOr_getElem? (hnodup : (fields.map Prod.fst).Nodup) (i : Nat)
    (h : fields[i]? = some (name, v)) (default : α) (read : Json → Option α) :
    fieldOr default fields name read = read v := by
  rw [fieldOr, lookup_getElem? hnodup h]

/-- A field that is not there has its default. -/
theorem fieldOr_of_notMem (h : name ∉ fields.map Prod.fst) (default : α) (read : Json → Option α) :
    fieldOr default fields name read = some default := by
  have hnone : fields.lookup name = none := by
    rw [lookup_eq_none_iff]
    intro member hmember
    rw [bne_iff_ne]
    exact fun heq => h (heq ▸ mem_map_of_mem hmember)
  rw [fieldOr, hnone]

end Fields

end Read

/-! ### Bytes -/

/-- The bytes of `to_vec_pretty`, with a line break after them. -/
def prettyLine (v : Json) : ByteArray :=
  (String.ofList (print prettyFormatter 0 v ++ ['\n'])).toUTF8

/-- The value of `from_slice`. -/
def fromSlice (bytes : ByteArray) : Option Json :=
  (String.fromUTF8? bytes).bind fun text => parse text.toList

theorem fromUTF8?_toUTF8 (text : String) : String.fromUTF8? text.toUTF8 = some text := by
  unfold String.fromUTF8?
  rw [String.toUTF8_eq_toByteArray, dif_pos text.isValidUTF8]
  rfl

/-- What was printed reads back. -/
theorem fromSlice_prettyLine (v : Json) : fromSlice (prettyLine v) = some v := by
  rw [fromSlice, prettyLine, fromUTF8?_toUTF8]
  change parse (String.ofList (print prettyFormatter 0 v ++ ['\n'])).toList = some v
  rw [String.toList_ofList]
  exact parse_print prettyFormatter v (by simp [isSpace])

/-- The bytes that a text takes. -/
def weight (text : List Char) : Nat := (text.map Char.utf8Size).sum

theorem weight_append (a b : List Char) : weight (a ++ b) = weight a + weight b := by
  simp [weight]

theorem weight_cons (c : Char) (text : List Char) :
    weight (c :: text) = c.utf8Size + weight text := rfl

theorem size_prettyLine (v : Json) :
    (prettyLine v).size = weight (print prettyFormatter 0 v) + 1 := by
  unfold prettyLine
  rw [String.toUTF8_eq_toByteArray, String.size_toByteArray, utf8ByteSize_ofList]
  exact weight_append _ _

/-- A string of letters takes a byte for each and one for each quote. -/
theorem weight_quote_replicate (count : Nat) :
    weight (quote (String.ofList (replicate count 'a'))) = count + 2 := by
  have hescape : (replicate count 'a').flatMap escapeChar = replicate count 'a' := by
    induction count with
    | zero => rfl
    | succ count ih =>
      rw [replicate_succ, flatMap_cons, ih]
      rfl
  have hletter : Char.utf8Size 'a' = 1 := by decide
  have hquote : Char.utf8Size '"' = 1 := by decide
  rw [quote, String.toList_ofList, hescape, weight_cons, weight_append]
  simp only [weight, map_replicate, sum_replicate_nat, map_cons, map_nil,
    sum_cons, sum_nil, hletter, hquote]
  omega

end OverCrow.Base.Json
