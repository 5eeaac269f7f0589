import OverCrow.Config.Lifecycle

/-!
# The language of accelerators

An accelerator is a nonempty list of modifiers in the order Meta, Ctrl, Alt, Shift and an
alphanumeric key, joined by plus signs. `reading` is what a text denotes; `scanModifiers` is the
loop that the readers of the language share, with what each of them collects.
-/

namespace OverCrow.Config
open OverCrow.Base List Option

/-- A modifier of an accelerator. -/
inductive Modifier where
  | logo
  | ctrl
  | alt
  | shift
  deriving DecidableEq

namespace Modifier

def rank : Modifier → Nat
  | logo => 0
  | ctrl => 1
  | alt => 2
  | shift => 3

/-- The modifier as it is written. -/
def name : Modifier → List Char
  | logo => "Meta".toList
  | ctrl => "Ctrl".toList
  | alt => "Alt".toList
  | shift => "Shift".toList

def ofName (part : List Char) : Option Modifier :=
  if part = "Meta".toList then some logo
  else if part = "Ctrl".toList then some ctrl
  else if part = "Alt".toList then some alt
  else if part = "Shift".toList then some shift
  else none

theorem ofName_eq_some {part : List Char} {m : Modifier} :
    ofName part = some m ↔ part = m.name := by
  unfold ofName
  constructor
  · intro h
    split at h
    · next hpart =>
      cases h
      exact hpart
    split at h
    · next hpart =>
      cases h
      exact hpart
    split at h
    · next hpart =>
      cases h
      exact hpart
    split at h
    · next hpart =>
      cases h
      exact hpart
    · cases h
  · rintro rfl
    cases m <;> rfl

theorem plus_notMem_name (m : Modifier) : '+' ∉ m.name := by
  cases m <;> decide

end Modifier

/-- An accelerator. -/
@[ext]
structure Accelerator where
  modifiers : List Modifier
  key : Char
  nonempty : modifiers ≠ []
  ordered : modifiers.Pairwise fun a b => a.rank < b.rank
  alphanumeric : isAsciiAlphanumeric key = true
  deriving DecidableEq

namespace Accelerator

def parts (a : Accelerator) : List (List Char) := a.modifiers.map Modifier.name ++ [[a.key]]

/-- The accelerator as it is written. -/
def text (a : Accelerator) : String := String.ofList (['+'].intercalate a.parts)

end Accelerator

/-! ### Reading -/

/-- The loop over the modifiers: each is looked up, must have a larger rank than the one before it,
and is collected. -/
def scanModifiers {β γ : Type} (entry : List Char → Option (Nat × γ)) (push : β → γ → β) :
    Option Nat → β → List (List Char) → Option β
  | _, collected, [] => some collected
  | previousRank, collected, part :: rest =>
    match entry part with
    | none => none
    | some (rank, value) =>
      if previousRank.any (rank ≤ ·) then none
      else scanModifiers entry push (some rank) (push collected value) rest

/-- The table of a reader: the ranks of the modifiers, with what the reader has for each. -/
def modifierEntry {γ : Type} (logo ctrl alt shift : γ) (part : List Char) : Option (Nat × γ) :=
  if part = "Meta".toList then some (0, logo)
  else if part = "Ctrl".toList then some (1, ctrl)
  else if part = "Alt".toList then some (2, alt)
  else if part = "Shift".toList then some (3, shift)
  else none

/-- The modifiers that the parts denote, all of larger rank than the previous one. -/
def readModifiers : Option Nat → List (List Char) → Option (List Modifier)
  | _, [] => some []
  | previousRank, part :: rest =>
    (Modifier.ofName part).bind fun m =>
      if previousRank.any (m.rank ≤ ·) then none
      else (readModifiers (some m.rank) rest).map (m :: ·)

/-- The key that a part denotes. -/
def readKey : List Char → Option Char
  | [c] => if isAsciiAlphanumeric c then some c else none
  | _ => none

/-- What the parts before the last one and the last one denote. -/
def readParts (init : List (List Char)) (last : List Char) : Option (List Modifier × Char) :=
  (readModifiers none init).bind fun modifiers =>
    (readKey last).bind fun key => if modifiers = [] then none else some (modifiers, key)

/-- The parts of a text before the last one, and the last one. -/
theorem exists_parts (s : String) :
    ∃ init last, s.toList.splitOn '+' = init ++ [last] :=
  ⟨_, _, (dropLast_concat_getLast (splitOn_ne_nil _ _)).symm⟩

/-- What a text denotes. -/
def reading (s : String) : Option (List Modifier × Char) :=
  readParts (s.toList.splitOn '+').dropLast ((s.toList.splitOn '+').getLastD [])

theorem reading_eq {s : String} {init : List (List Char)} {last : List Char}
    (h : s.toList.splitOn '+' = init ++ [last]) : reading s = readParts init last := by
  unfold reading
  rw [h, dropLast_concat, getLastD_concat]

theorem modifierEntry_eq {γ : Type} (value : Modifier → γ) (part : List Char) :
    modifierEntry (value .logo) (value .ctrl) (value .alt) (value .shift) part =
      (Modifier.ofName part).map fun m => (m.rank, value m) := by
  unfold modifierEntry Modifier.ofName
  split
  · rfl
  split
  · rfl
  split
  · rfl
  split <;> rfl

section Scan

variable {β γ : Type} {entry : List Char → Option (Nat × γ)} {push : β → γ → β}

/-- A loop whose table has the ranks of the modifiers collects what belongs to the modifiers
read. -/
theorem scanModifiers_eq {value : Modifier → γ}
    (hentry : ∀ part, entry part = (Modifier.ofName part).map fun m => (m.rank, value m))
    (previousRank : Option Nat) (collected : β) (parts : List (List Char)) :
    scanModifiers entry push previousRank collected parts =
      (readModifiers previousRank parts).map
        (·.foldl (fun collected m => push collected (value m)) collected) := by
  induction parts generalizing previousRank collected with
  | nil => rfl
  | cons part parts ih =>
    rw [scanModifiers, readModifiers, hentry]
    cases Modifier.ofName part with
    | none => rfl
    | some m =>
      rw [map_some, bind_some]
      dsimp only
      split
      · rfl
      · rw [ih, Option.map_map]
        rfl

end Scan

/-! ### Texts and accelerators -/

variable {modifiers : List Modifier}

/-- Ranks that grow from the previous one. -/
theorem readModifiers_eq_some {previousRank : Option Nat} {parts : List (List Char)} :
    readModifiers previousRank parts = some modifiers ↔
      parts = modifiers.map Modifier.name ∧ modifiers.Pairwise (fun a b => a.rank < b.rank) ∧
        ∀ m ∈ modifiers, ∀ previous ∈ previousRank, previous < m.rank := by
  induction parts generalizing previousRank modifiers with
  | nil =>
    rw [readModifiers, some_inj]
    constructor
    · rintro rfl
      exact ⟨rfl, .nil, nofun⟩
    · rintro ⟨hparts, -⟩
      exact (map_eq_nil_iff.mp hparts.symm).symm
  | cons part parts ih =>
    rw [readModifiers]
    simp only [bind_eq_some_iff, ite_none_left_eq_some, map_eq_some_iff,
      Modifier.ofName_eq_some, ih]
    constructor
    · rintro ⟨m, rfl, hprevious, rest, ⟨rfl, hordered, habove⟩, rfl⟩
      have hm : ∀ previous ∈ previousRank, previous < m.rank := by
        rintro previous rfl
        simpa using hprevious
      refine ⟨rfl, .cons (fun n hn => habove n hn _ rfl) hordered, ?_⟩
      intro n hn previous hmem
      rcases mem_cons.mp hn with rfl | hn
      · exact hm previous hmem
      · exact Nat.lt_trans (hm previous hmem) (habove n hn _ rfl)
    · rintro ⟨hparts, hordered, habove⟩
      cases modifiers with
      | nil => cases hparts
      | cons m rest =>
        obtain ⟨rfl, rfl⟩ := cons.inj hparts
        obtain ⟨hrest, hordered⟩ := pairwise_cons.mp hordered
        refine ⟨m, rfl, ?_, rest, ⟨rfl, hordered, ?_⟩, rfl⟩
        · cases previousRank with
          | none => exact Bool.false_ne_true
          | some previous =>
            have hlt := habove m mem_cons_self previous rfl
            simpa using hlt
        · rintro n hn previous hmem
          cases hmem
          exact hrest n hn

/-- There are only four ranks. -/
theorem length_add_le_of_pairwise {k : Nat} (hk : k ≤ 4)
    (h : modifiers.Pairwise fun a b => a.rank < b.rank) (habove : ∀ m ∈ modifiers, k ≤ m.rank) :
    modifiers.length + k ≤ 4 := by
  induction modifiers generalizing k with
  | nil => rwa [length_nil, Nat.zero_add]
  | cons m modifiers ih =>
    obtain ⟨hrest, hordered⟩ := pairwise_cons.mp h
    have hrank : m.rank + 1 ≤ 4 := by cases m <;> decide
    have hlength := ih hrank hordered fun n hn => hrest n hn
    have hkm := habove m mem_cons_self
    rw [length_cons]
    omega

theorem readKey_eq_some {part : List Char} {c : Char} :
    readKey part = some c ↔ part = [c] ∧ isAsciiAlphanumeric c = true := by
  unfold readKey
  split
  · next d =>
    rw [ite_none_right_eq_some, some_inj, cons.injEq, and_iff_left rfl]
    constructor
    · rintro ⟨hd, rfl⟩
      exact ⟨rfl, hd⟩
    · rintro ⟨rfl, hd⟩
      exact ⟨hd, rfl⟩
  · next hne =>
    constructor
    · nofun
    · rintro ⟨hpart, -⟩
      exact absurd hpart (hne c)

theorem readParts_eq_some {init : List (List Char)} {last : List Char} {key : Char} :
    readParts init last = some (modifiers, key) ↔
      ∃ a : Accelerator, a.modifiers = modifiers ∧ a.key = key ∧ init ++ [last] = a.parts := by
  unfold readParts
  simp only [bind_eq_some_iff, ite_none_left_eq_some, readModifiers_eq_some,
    readKey_eq_some]
  constructor
  · rintro ⟨_, ⟨rfl, hordered, -⟩, _, ⟨rfl, hkey⟩, hne, hsame⟩
    cases hsame
    exact ⟨⟨modifiers, key, hne, hordered, hkey⟩, rfl, rfl, rfl⟩
  · rintro ⟨a, rfl, rfl, hparts⟩
    obtain ⟨hinit, hlast⟩ := append_inj' hparts rfl
    exact ⟨a.modifiers, ⟨hinit, a.ordered, nofun⟩, a.key,
      ⟨(cons.inj hlast).1, a.alphanumeric⟩, a.nonempty, rfl⟩

theorem plus_ne_of_isAsciiAlphanumeric {c : Char} (h : isAsciiAlphanumeric c = true) :
    '+' ≠ c := by
  rintro rfl
  exact absurd h (by decide)

namespace Accelerator

theorem plus_notMem_parts (a : Accelerator) : ∀ part ∈ a.parts, '+' ∉ part := by
  intro part hpart
  rcases mem_append.mp hpart with hmem | hmem
  · obtain ⟨m, -, rfl⟩ := mem_map.mp hmem
    exact m.plus_notMem_name
  · rw [mem_singleton.mp hmem, mem_singleton]
    exact plus_ne_of_isAsciiAlphanumeric a.alphanumeric

theorem splitOn_text (a : Accelerator) : a.text.toList.splitOn '+' = a.parts := by
  rw [text, String.toList_ofList]
  exact splitOn_intercalate '+' a.plus_notMem_parts (by simp [parts])

/-- A text denotes an accelerator exactly when it is the text of one. -/
theorem reading_eq_some {s : String} {modifiers : List Modifier} {key : Char} :
    reading s = some (modifiers, key) ↔
      ∃ a : Accelerator, a.modifiers = modifiers ∧ a.key = key ∧ s = a.text := by
  obtain ⟨init, last, hparts⟩ := exists_parts s
  rw [reading_eq hparts, readParts_eq_some, ← hparts]
  refine exists_congr fun a => and_congr_right fun _ => and_congr_right fun _ => ?_
  constructor
  · intro hsame
    rw [text, ← hsame, intercalate_splitOn, String.ofList_toList]
  · rintro rfl
    exact a.splitOn_text

theorem reading_text (a : Accelerator) : reading a.text = some (a.modifiers, a.key) :=
  reading_eq_some.mpr ⟨a, rfl, rfl, rfl⟩

end Accelerator

/-! ### Validation -/

theorem modifierRank_eq (part : List Char) :
    modifierRank part = (Modifier.ofName part).map Modifier.rank := by
  have hentry : modifierRank part = (modifierEntry () () () () part).map Prod.fst := by
    simp only [modifierRank, modifierEntry, apply_ite (Option.map Prod.fst), Option.map_some,
      Option.map_none]
  rw [hentry, modifierEntry_eq fun _ => (), Option.map_map]
  rfl

theorem acceleratorParts_singleton (seen : List (List Char)) (previousRank : Option Nat)
    (last : List Char) :
    acceleratorParts seen previousRank [last] = ((readKey last).isSome && !seen.isEmpty) := by
  rw [Bool.and_comm]
  match last with
  | [] => rfl
  | [c] =>
    rw [acceleratorParts, readKey]
    cases isAsciiAlphanumeric c <;> rfl
  | _ :: _ :: _ => rfl

/-- The loop of `accelerator_is_valid`. A modifier that was seen has a rank that is not larger, so
the second check never decides. -/
theorem acceleratorParts_eq {seen : List (List Char)} {previousRank : Option Nat}
    (hseen : ∀ part ∈ seen, ∀ m, part = Modifier.name m → previousRank.any (m.rank ≤ ·) = true)
    (init : List (List Char)) (last : List Char) :
    acceleratorParts seen previousRank (init ++ [last]) =
      (readModifiers previousRank init).any fun modifiers =>
        (readKey last).isSome && !(seen.isEmpty && modifiers.isEmpty) := by
  induction init generalizing seen previousRank with
  | nil =>
    rw [nil_append, acceleratorParts_singleton, readModifiers, any_some,
      isEmpty_nil, Bool.and_true]
  | cons part init ih =>
    obtain ⟨next, rest, hrest⟩ := exists_cons_of_ne_nil (concat_ne_nil last init)
    rw [cons_append, hrest, acceleratorParts, ← hrest, modifierRank_eq, readModifiers]
    · cases hname : Modifier.ofName part with
      | none => rfl
      | some m =>
        have hpart := Modifier.ofName_eq_some.mp hname
        rw [map_some, bind_some]
        dsimp only
        by_cases hrank : previousRank.any (m.rank ≤ ·) = true
        · rw [hrank, Bool.true_or, if_pos rfl, if_pos rfl]
          rfl
        · have hfresh : seen.contains part = false := by
            rw [← Bool.not_eq_true, contains_iff_mem]
            exact fun hmem => hrank (hseen part hmem m hpart)
          rw [hfresh, Bool.or_false, if_neg hrank, if_neg hrank, ih, Option.any_map]
          · congr 1
            funext modifiers
            simp
          · -- What was seen before has a smaller rank than `m`.
            intro other hother n hn
            rw [any_some, decide_eq_true_eq]
            rcases mem_cons.mp hother with rfl | hmem
            · have hsame : n = m := by
                have hn' := Modifier.ofName_eq_some.mpr hn
                exact some.inj (hn'.symm.trans hname)
              exact Nat.le_of_eq (congrArg Modifier.rank hsame)
            · have hle := hseen other hmem n hn
              cases previousRank with
              | none => cases hle
              | some previous =>
                rw [any_some, decide_eq_true_eq] at hle hrank
                omega
    · nofun

/-- `accelerator_is_valid` accepts what denotes an accelerator. -/
theorem acceleratorIsValid_eq (s : String) : acceleratorIsValid s = (reading s).isSome := by
  obtain ⟨init, last, hparts⟩ := exists_parts s
  rw [acceleratorIsValid, reading_eq hparts, hparts, acceleratorParts_eq fun _ h => absurd h not_mem_nil,
    readParts]
  cases readModifiers none init with
  | none => rfl
  | some modifiers =>
    cases readKey last with
    | none => rfl
    | some key =>
      cases modifiers with
      | nil => rfl
      | cons m rest => rfl

/-- A text is that of an accelerator or denotes nothing. -/
theorem exists_accelerator (s : String) : (∃ a : Accelerator, s = a.text) ∨ reading s = none := by
  cases h : reading s with
  | none => exact .inr rfl
  | some denoted =>
    obtain ⟨a, -, -, ha⟩ := Accelerator.reading_eq_some.mp h
    exact .inl ⟨a, ha⟩

end OverCrow.Config
