import OverCrow.Base.Json

/-!
# Reading what was printed

A printed value is read back, whatever the formatter. The reader's bound is the length of the text,
and that is never exhausted: every value and every separator takes a character.
-/

namespace OverCrow.Base.Json
open List Option

/-! ### Tokens -/

section Tokens

variable {space text rest : List Char}

theorem skipSpace_append (h : ∀ c ∈ space, isSpace c = true) :
    skipSpace (space ++ text) = skipSpace text := by
  rw [skipSpace, dropWhile_append_of_pos h, skipSpace]

variable {c : Char}

theorem skipSpace_cons (h : isSpace c = false) : skipSpace (c :: rest) = c :: rest := by
  rw [skipSpace, dropWhile_cons_of_neg (by simp [h])]

/-- No number goes on with what follows it. -/
def Delimited (text : List Char) : Prop :=
  ∀ c ∈ text.head?, isAsciiDigit c = false ∧ c ≠ '.' ∧ c ≠ 'e' ∧ c ≠ 'E'

theorem delimited_nil : Delimited [] := nofun

theorem delimited_space_append (hspace : ∀ c ∈ space, isSpace c = true) (h : Delimited text) :
    Delimited (space ++ text) := by
  cases space with
  | nil => exact h
  | cons c space =>
    rintro _ ⟨⟩
    have hc := hspace c mem_cons_self
    unfold isSpace at hc
    simp only [Bool.or_eq_true, decide_eq_true_eq] at hc
    rcases hc with ((rfl | rfl) | rfl) | rfl <;> decide

theorem hexValue4_control {n : Nat} (h : n < 32) :
    hexValue4 '0' '0' (Nat.digitChar (n / 16)) (Nat.digitChar (n % 16)) = some n := by
  have hall : ∀ n : Fin 32, hexValue4 '0' '0' (Nat.digitChar (n / 16)) (Nat.digitChar (n % 16)) =
      some n.val := by decide
  exact hall ⟨n, h⟩

/-- An escape of one letter. -/
theorem readString_letter {e : Char} (h : unescape e = some c) :
    readString ('\\' :: e :: text) = consChar c (readString text) := by
  have hu : e ≠ 'u' := by
    rintro rfl
    cases h
  rw [readString, if_neg (by decide), if_pos rfl, readEscape.eq_3, h]
  intro _ _ _ _ _ he
  exact absurd he hu

theorem readString_control (h : c.toNat < 32) :
    readString ('\\' :: 'u' :: '0' :: '0' :: Nat.digitChar (c.toNat / 16) ::
      Nat.digitChar (c.toNat % 16) :: text) = consChar c (readString text) := by
  have hsurrogate : isSurrogate c.toNat = false := by
    unfold isSurrogate
    simp only [Bool.and_eq_false_iff, decide_eq_false_iff_not]
    omega
  rw [readString, if_neg (by decide), if_pos rfl, readEscape, hexValue4_control h]
  dsimp only
  rw [hsurrogate, Char.ofNat_toNat]
  rfl

theorem readString_escapeChar (c : Char) (text : List Char) :
    readString (escapeChar c ++ text) = consChar c (readString text) := by
  have hcode {n : Nat} (h : c.toNat = n) : Char.ofNat n = c := h ▸ Char.ofNat_toNat c
  unfold escapeChar
  split_ifs with hquote hbackslash hb hf hn hr ht hcontrol
  · exact readString_letter (congrArg some hquote.symm)
  · exact readString_letter (congrArg some hbackslash.symm)
  · exact readString_letter (congrArg some (hcode hb))
  · exact readString_letter (congrArg some (hcode hf))
  · exact readString_letter (hn ▸ rfl)
  · exact readString_letter (hr ▸ rfl)
  · exact readString_letter (ht ▸ rfl)
  · exact readString_control hcontrol
  · rw [singleton_append, readString, if_neg hquote, if_neg hbackslash, if_neg hcontrol]

theorem readString_quote (s : String) (rest : List Char) :
    readString (s.toList.flatMap escapeChar ++ '"' :: rest) = some (s.toList, rest) := by
  induction s.toList with
  | nil => simp [readString]
  | cons c s ih =>
    rw [flatMap_cons, append_assoc, readString_escapeChar, ih]
    rfl

/-- A number has no leading zero. -/
theorem eq_zero_of_head?_toDigits {n : Nat} (h : (Nat.toDigits 10 n).head? = some '0') : n = 0 := by
  induction n using Nat.strongRecOn with
  | ind n ih =>
    rcases Nat.lt_or_ge n 10 with hlt | hge
    · rw [Nat.toDigits_of_lt_base hlt] at h
      exact Nat.digitChar_eq_zero.mp (some.inj h)
    · rw [Nat.toDigits_of_base_le (by decide) hge, head?_append,
        or_of_isSome (isSome_head?.mpr Nat.toDigits_ne_nil)] at h
      have hzero := ih (n / 10) (by omega) h
      omega

theorem readNat_toDigits (n : Nat) (h : Delimited rest) :
    readNat (Nat.toDigits 10 n ++ rest) = some (n, rest) := by
  have hdigits : ∀ c ∈ Nat.toDigits 10 n, isAsciiDigit c = true := fun c hc =>
    Nat.isDigit_of_mem_toDigits (by decide) (by decide) hc
  have hrest : rest.takeWhile isAsciiDigit = [] ∧ rest.dropWhile isAsciiDigit = rest := by
    cases rest with
    | nil => exact ⟨rfl, rfl⟩
    | cons c rest =>
      have hc : ¬isAsciiDigit c = true := by simp [(h c rfl).1]
      exact ⟨takeWhile_cons_of_neg hc, dropWhile_cons_of_neg hc⟩
  rw [readNat, takeWhile_append_of_pos hdigits, dropWhile_append_of_pos hdigits, hrest.1,
    hrest.2, append_nil, digitsValue_toDigits]
  refine if_neg ?_
  rintro (hnil | ⟨hzero, hlength⟩ | hfraction)
  · exact Nat.toDigits_ne_nil hnil
  · rw [eq_zero_of_head?_toDigits hzero] at hlength
    exact hlength rfl
  · obtain ⟨c, hc, hfraction⟩ := (any_eq_true _ _).mp hfraction
    obtain ⟨-, hpoint, he, hE⟩ := h c hc
    simp [hpoint, he, hE] at hfraction

theorem readScalar_of_isAsciiDigit (h : isAsciiDigit c = true) :
    readScalar (c :: text) = (readNat (c :: text)).map fun (n, rest) => (number n, rest) := by
  rw [readScalar]
  all_goals
    intro _ htext
    rw [(cons.inj htext).1] at h
    exact absurd h (by decide)

theorem readScalar_toDigits (n : Nat) (h : Delimited rest) :
    readScalar (Nat.toDigits 10 n ++ rest) = some (number n, rest) := by
  obtain ⟨c, digits, hdigits⟩ := exists_cons_of_ne_nil (Nat.toDigits_ne_nil (b := 10) (n := n))
  have hread := readNat_toDigits n h
  have hc : isAsciiDigit c = true :=
    Nat.isDigit_of_mem_toDigits (by decide) (by decide) (hdigits ▸ mem_cons_self)
  rw [hdigits, cons_append] at hread ⊢
  rw [readScalar_of_isAsciiDigit hc, hread]
  rfl

theorem readScalar_printNumber (n : Int) (h : Delimited rest) :
    readScalar (printNumber n ++ rest) = some (number n, rest) := by
  unfold printNumber
  split
  · next hneg =>
    rw [cons_append, readScalar, readNat_toDigits _ h]
    dsimp only
    rw [if_neg (by omega)]
    congr
    omega
  · next hneg =>
    rw [readScalar_toDigits _ h]
    congr
    omega

end Tokens

/-! ### What the reader does at a character -/

section Reader

variable {space text rest : List Char} {fuel : Nat} {c d : Char}
  {v : Json}

theorem expect_self (hspace : ∀ c ∈ space, isSpace c = true) (hc : isSpace c = false) :
    expect c (space ++ c :: rest) = some rest := by
  rw [expect, skipSpace_append hspace, skipSpace_cons hc]
  exact if_pos rfl

theorem expect_ne (hspace : ∀ c ∈ space, isSpace c = true) (hd : isSpace d = false) (h : d ≠ c) :
    expect c (space ++ d :: rest) = none := by
  rw [expect, skipSpace_append hspace, skipSpace_cons hd]
  exact if_neg h

section

variable (h : ∀ c ∈ space, isSpace c = true)

include h

theorem expect_space : expect c (space ++ text) = expect c text := by
  rw [expect, skipSpace_append h, expect]

theorem readValue_space : readValue fuel (space ++ text) = readValue fuel text := by
  cases fuel with
  | zero => rw [readValue, readValue]
  | succ fuel => rw [readValue, readValue, skipSpace_append h]

theorem readElements_space : readElements fuel (space ++ text) = readElements fuel text := by
  cases fuel with
  | zero => rw [readElements, readElements]
  | succ fuel => rw [readElements, readElements, readValue_space h]

theorem readMembers_space : readMembers fuel (space ++ text) = readMembers fuel text := by
  cases fuel with
  | zero => rw [readMembers, readMembers]
  | succ fuel => rw [readMembers, readMembers, expect_space h]

end

theorem readValue_quote (s : String) : readValue (fuel + 1) (quote s ++ rest) = some (string s, rest) := by
  rw [quote, cons_append, append_assoc, singleton_append, readValue,
    skipSpace_cons rfl]
  dsimp only
  rw [if_pos rfl, readString_quote, map_some]
  rw [String.ofList_toList]

theorem readValue_scalar (hspace : isSpace c = false) (hc : c ≠ '"' ∧ c ≠ '[' ∧ c ≠ '{') :
    readValue (fuel + 1) (c :: rest) = readScalar (c :: rest) := by
  rw [readValue, skipSpace_cons hspace]
  dsimp only
  rw [if_neg hc.1, if_neg hc.2.1, if_neg hc.2.2]

section

variable (hspace : ∀ c ∈ space, isSpace c = true)

include hspace

/-- An array that is not empty. -/
theorem readValue_array (hc : isSpace c = false) (hclose : c ≠ ']') :
    readValue (fuel + 1) ('[' :: (space ++ c :: text)) =
      (readElements fuel (c :: text)).map fun (vs, rest) => (array vs, rest) := by
  rw [readValue, skipSpace_cons rfl]
  dsimp only
  rw [if_neg (by decide), if_pos rfl, expect_ne hspace hc hclose, readElements_space hspace]

/-- An object that is not empty. -/
theorem readValue_object :
    readValue (fuel + 1) ('{' :: (space ++ '"' :: text)) =
      (readMembers fuel ('"' :: text)).map fun (members, rest) => (object members, rest) := by
  rw [readValue, skipSpace_cons rfl]
  dsimp only
  rw [if_neg (by decide), if_neg (by decide), if_pos rfl, expect_ne hspace rfl (by decide),
    readMembers_space hspace]

/-- An element that is the last one, or one with others after it. -/
theorem readElements_close (h : readValue fuel text = some (v, space ++ ']' :: rest)) :
    readElements (fuel + 1) text = some ([v], rest) := by
  rw [readElements, h, bind_eq_bind, bind_some]
  dsimp only
  rw [expect_ne hspace rfl (by decide), expect_self hspace rfl, map_some]

end

theorem readElements_comma (h : readValue fuel text = some (v, ',' :: rest)) :
    readElements (fuel + 1) text =
      (readElements fuel rest).map fun (vs, rest) => (v :: vs, rest) := by
  rw [readElements, h, bind_eq_bind, bind_some]
  dsimp only
  rw [← nil_append (',' :: rest), expect_self (by simp) rfl]

/-- The key of a member. -/
theorem readMembers_key (key : String) :
    ((expect '"' (quote key ++ ':' :: text)).bind readString) = some (key.toList, ':' :: text) := by
  rw [quote, cons_append, append_assoc, singleton_append,
    ← nil_append ('"' :: _), expect_self (by simp) rfl, bind_some, readString_quote]

/-- A member that is the last one, or one with others after it. -/
theorem readMembers_close {key : String} (hspace : ∀ c ∈ space, isSpace c = true)
    (h : readValue fuel text = some (v, space ++ '}' :: rest)) :
    readMembers (fuel + 1) (quote key ++ ':' :: text) = some ([(key, v)], rest) := by
  rw [readMembers, readMembers_key, bind_eq_bind, bind_some]
  dsimp only
  rw [← nil_append (':' :: text), expect_self (by simp) rfl, bind_some, h,
    bind_eq_bind, bind_some]
  rw [expect_ne hspace rfl (by decide), expect_self hspace rfl, map_some,
    String.ofList_toList]

theorem readMembers_comma {key : String} (h : readValue fuel text = some (v, ',' :: rest)) :
    readMembers (fuel + 1) (quote key ++ ':' :: text) =
      (readMembers fuel rest).map fun (members, rest) => ((key, v) :: members, rest) := by
  rw [readMembers, readMembers_key, bind_eq_bind, bind_some]
  dsimp only
  rw [← nil_append (':' :: text), expect_self (by simp) rfl, bind_some, h,
    bind_eq_bind, bind_some]
  rw [← nil_append (',' :: rest), expect_self (by simp) rfl, String.ofList_toList]

end Reader

/-! ### Values -/

section Values

variable {f : Formatter}

theorem ne_of_isAsciiDigit {c d : Char} (h : isAsciiDigit c = true) (hd : isAsciiDigit d = false) :
    c ≠ d := by
  rintro rfl
  rw [h] at hd
  cases hd

theorem isSpace_of_isAsciiDigit {c : Char} (h : isAsciiDigit c = true) : isSpace c = false := by
  unfold isSpace
  simp only [Bool.or_eq_false_iff, decide_eq_false_iff_not]
  exact ⟨⟨⟨ne_of_isAsciiDigit h rfl, ne_of_isAsciiDigit h rfl⟩, ne_of_isAsciiDigit h rfl⟩,
    ne_of_isAsciiDigit h rfl⟩

theorem exists_printNumber_eq_cons (n : Int) :
    ∃ c rest, printNumber n = c :: rest ∧ (c = '-' ∨ isAsciiDigit c = true) := by
  unfold printNumber
  split
  · exact ⟨'-', _, rfl, .inl rfl⟩
  · obtain ⟨c, digits, hdigits⟩ :=
      exists_cons_of_ne_nil (Nat.toDigits_ne_nil (b := 10) (n := n.natAbs))
    exact ⟨c, digits, hdigits, .inr
      (Nat.isDigit_of_mem_toDigits (by decide) (by decide) (hdigits ▸ mem_cons_self))⟩

/-- A printed value begins with a character that is no space and closes nothing. -/
theorem exists_print_eq_cons (depth : Nat) (v : Json) :
    ∃ c rest, print f depth v = c :: rest ∧ isSpace c = false ∧ c ≠ ']' := by
  match v with
  | null => exact ⟨'n', _, rfl, rfl, by decide⟩
  | bool true => exact ⟨'t', _, rfl, rfl, by decide⟩
  | bool false => exact ⟨'f', _, rfl, rfl, by decide⟩
  | string s => exact ⟨'"', _, rfl, rfl, by decide⟩
  | array [] => exact ⟨'[', _, rfl, rfl, by decide⟩
  | array (v :: vs) => exact ⟨'[', _, by rw [print], rfl, by decide⟩
  | object [] => exact ⟨'{', _, rfl, rfl, by decide⟩
  | object ((key, v) :: members) => exact ⟨'{', _, by rw [print], rfl, by decide⟩
  | number n =>
    obtain ⟨c, rest, hprint, hc⟩ := exists_printNumber_eq_cons n
    refine ⟨c, rest, by rw [print, hprint], ?_⟩
    rcases hc with rfl | hc
    · exact ⟨rfl, by decide⟩
    · exact ⟨isSpace_of_isAsciiDigit hc, ne_of_isAsciiDigit hc rfl⟩

theorem delimited_cons {c : Char} (rest : List Char)
    (h : isAsciiDigit c = false ∧ c ≠ '.' ∧ c ≠ 'e' ∧ c ≠ 'E') : Delimited (c :: rest) := by
  rintro _ ⟨⟩
  exact h

/-- The text after an element or a member of a list that goes on or is closed. -/
theorem delimited_printElements (depth outer : Nat) (vs : List Json) (rest : List Char) :
    Delimited (printElements f depth vs ++ (f.gap outer ++ ']' :: rest)) := by
  cases vs with
  | nil =>
    rw [printElements, nil_append]
    exact delimited_space_append (f.isSpace_gap outer) (delimited_cons rest (by decide))
  | cons v vs =>
    exact delimited_cons _ (by decide)

theorem delimited_printMembers (depth outer : Nat) (members : List (String × Json)) (rest : List Char) :
    Delimited (printMembers f depth members ++ (f.gap outer ++ '}' :: rest)) := by
  cases members with
  | nil =>
    rw [printMembers, nil_append]
    exact delimited_space_append (f.isSpace_gap outer) (delimited_cons rest (by decide))
  | cons member members =>
    exact delimited_cons _ (by decide)

/-- A number is no string, array or object. -/
theorem readValue_printNumber (n : Int) {fuel : Nat} {rest : List Char} (h : Delimited rest) :
    readValue (fuel + 1) (printNumber n ++ rest) = some (number n, rest) := by
  rw [← readScalar_printNumber n h]
  obtain ⟨c, digits, hprint, hc⟩ := exists_printNumber_eq_cons n
  rw [hprint, cons_append]
  rcases hc with rfl | hc
  · exact readValue_scalar rfl (by decide)
  · exact readValue_scalar (isSpace_of_isAsciiDigit hc)
      ⟨ne_of_isAsciiDigit hc rfl, ne_of_isAsciiDigit hc rfl, ne_of_isAsciiDigit hc rfl⟩

variable (f) in
/-- What the reader does with a bound: for values, and for the elements and members after an opening
bracket, which stand before a closing one. -/
structure Reads (fuel : Nat) : Prop where
  value : ∀ v depth rest, (print f depth v).length ≤ fuel → Delimited rest →
    readValue fuel (print f depth v ++ rest) = some (v, rest)
  elements : ∀ v vs depth outer rest,
    (print f depth v).length + (printElements f depth vs).length < fuel →
    readElements fuel (print f depth v ++
      (printElements f depth vs ++ (f.gap outer ++ ']' :: rest))) = some (v :: vs, rest)
  members : ∀ key v members depth outer rest,
    (print f depth v).length + (printMembers f depth members).length < fuel →
    readMembers fuel (quote key ++ (':' :: (f.afterColon ++ (print f depth v ++
      (printMembers f depth members ++ (f.gap outer ++ '}' :: rest)))))) =
        some ((key, v) :: members, rest)

namespace Reads

variable {fuel : Nat}

theorem value_succ (h : Reads f fuel) (v : Json) (depth : Nat) (rest : List Char)
    (hfuel : (print f depth v).length ≤ fuel + 1) (hrest : Delimited rest) :
    readValue (fuel + 1) (print f depth v ++ rest) = some (v, rest) := by
  match v with
  | null => exact readValue_scalar rfl (by decide)
  | bool true => exact readValue_scalar rfl (by decide)
  | bool false => exact readValue_scalar rfl (by decide)
  | number n => exact readValue_printNumber n hrest
  | string s => exact readValue_quote s
  | array [] => rfl
  | array (v :: vs) =>
    rw [print] at hfuel ⊢
    simp only [length_cons, length_append] at hfuel
    have helements := h.elements v vs (depth + 1) depth rest (by omega)
    obtain ⟨c, tail, hprint, hspace, hclose⟩ := exists_print_eq_cons (f := f) (depth + 1) v
    rw [hprint] at helements ⊢
    simp only [append_assoc, cons_append, nil_append] at helements ⊢
    rw [readValue_array (f.isSpace_gap _) hspace hclose, helements]
    rfl
  | object [] => rfl
  | object ((key, v) :: members) =>
    rw [print] at hfuel ⊢
    simp only [length_cons, length_append] at hfuel
    have hmembers := h.members key v members (depth + 1) depth rest (by omega)
    rw [quote] at hmembers ⊢
    simp only [append_assoc, cons_append, nil_append] at hmembers ⊢
    rw [readValue_object (f.isSpace_gap _), hmembers]
    rfl

theorem elements_succ (h : Reads f fuel) (v : Json) (vs : List Json) (depth outer : Nat) (rest : List Char)
    (hfuel : (print f depth v).length + (printElements f depth vs).length < fuel + 1) :
    readElements (fuel + 1) (print f depth v ++
      (printElements f depth vs ++ (f.gap outer ++ ']' :: rest))) = some (v :: vs, rest) := by
  have hvalue := h.value v depth (printElements f depth vs ++ (f.gap outer ++ ']' :: rest))
    (by omega) (delimited_printElements depth outer vs rest)
  cases vs with
  | nil => exact readElements_close (f.isSpace_gap outer) hvalue
  | cons v' vs =>
    rw [printElements] at hfuel hvalue ⊢
    simp only [length_cons, length_append] at hfuel
    have helements := h.elements v' vs depth outer rest (by omega)
    simp only [append_assoc, cons_append] at hvalue ⊢
    rw [readElements_comma hvalue, readElements_space (f.isSpace_gap depth), helements]
    rfl

theorem members_succ (h : Reads f fuel) (key : String) (v : Json) (members : List (String × Json))
    (depth outer : Nat) (rest : List Char)
    (hfuel : (print f depth v).length + (printMembers f depth members).length < fuel + 1) :
    readMembers (fuel + 1) (quote key ++ (':' :: (f.afterColon ++ (print f depth v ++
      (printMembers f depth members ++ (f.gap outer ++ '}' :: rest)))))) =
        some ((key, v) :: members, rest) := by
  have hvalue := h.value v depth (printMembers f depth members ++ (f.gap outer ++ '}' :: rest))
    (by omega) (delimited_printMembers depth outer members rest)
  rw [← readValue_space f.isSpace_afterColon] at hvalue
  cases members with
  | nil => exact readMembers_close (f.isSpace_gap outer) hvalue
  | cons member members =>
    obtain ⟨key', v'⟩ := member
    rw [printMembers] at hfuel hvalue ⊢
    simp only [length_cons, length_append] at hfuel
    have hmembers := h.members key' v' members depth outer rest (by omega)
    simp only [append_assoc, cons_append] at hvalue ⊢
    rw [readMembers_comma hvalue, readMembers_space (f.isSpace_gap depth), hmembers]
    rfl

variable (f) in
theorem all (fuel : Nat) : Reads f fuel := by
  induction fuel with
  | zero =>
    refine ⟨fun v depth rest hfuel _ => ?_, fun _ _ _ _ _ hfuel => ?_, fun _ _ _ _ _ _ hfuel => ?_⟩
    · obtain ⟨c, tail, hprint, -⟩ := exists_print_eq_cons (f := f) depth v
      rw [hprint] at hfuel
      cases hfuel
    · exact absurd hfuel (Nat.not_lt_zero _)
    · exact absurd hfuel (Nat.not_lt_zero _)
  | succ fuel ih => exact ⟨ih.value_succ, ih.elements_succ, ih.members_succ⟩

end Reads

/-- What was printed is read back, with a line end after it or without. -/
theorem parse_print (f : Formatter) (v : Json) {space : List Char}
    (hspace : ∀ c ∈ space, isSpace c = true) : parse (print f 0 v ++ space) = some v := by
  have hrest : Delimited space := by
    rw [← append_nil space]
    exact delimited_space_append hspace delimited_nil
  have hread := (Reads.all f ((print f 0 v ++ space).length + 1)).value v 0 space
    (by rw [length_append]; omega) hrest
  have hskip : skipSpace space = [] := by
    rw [← append_nil space, skipSpace_append hspace]
    rfl
  rw [parse, hread]
  dsimp only
  rw [if_pos hskip]

end Values

end OverCrow.Base.Json
