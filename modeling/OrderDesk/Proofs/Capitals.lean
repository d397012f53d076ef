import Mathlib
import OrderDesk.Text.AsciiCase
import OrderDesk.Text.UpperCase

/-!
# `OrderDesk.Proofs.Capitals` — upper case is reached in one step

The upper case of a letter consists of capitals, characters that are their own upper case. The tables
are large, so this is checked on their stretches and not letter by letter: the capitals of one stretch
lie outside every other, or between its letters.

## Contents
- `Capital`: a character that is its own upper case; `capital_of_mem`: an upper case has no other.
- `dash_mem_ofChar`: no letter turns into a dash, and a dash stays.
- `ofString_ofString`: the upper case of an upper case; `same_ofString`: two of them that are the same
  but for ASCII case are equal.
- `Plain`, `same_ofString_self`: the texts that have their own upper case but for ASCII case;
  `plain_of_ascii`.
-/

namespace OrderDesk.UpperCase

/-- A character that is its own upper case. -/
def Capital (c : Char) : Prop := ofChar c = [c]

/-! ### The tables -/

namespace Run

/-- The code of the first capital. -/
def low (r : Run) : Nat := (r.first + r.shift).toNat

/-- The code of the last capital. -/
def high (r : Run) : Nat := (r.last + r.shift).toNat

/-- The capitals of a run and the letters of another are apart, or have codes of different parity. -/
def misses (r other : Run) : Bool :=
  r.high.blt other.first || other.last.blt r.low ||
    ((r.step.beq 2 || r.first.beq r.last) && other.step.beq 2 &&
      ((r.low + other.first) % 2).beq 1)

variable {r other : Run} {code : Nat}

theorem covers_iff :
    r.covers code = true ↔ r.first ≤ code ∧ code ≤ r.last ∧ (code - r.first) % r.step = 0 := by
  simp [covers, and_assoc]

/-- The capitals stand between the first and the last. -/
theorem capital_between (letter : r.covers code = true) :
    r.low ≤ (code + r.shift).toNat ∧ (code + r.shift).toNat ≤ r.high := by
  obtain ⟨from_first, to_last, -⟩ := covers_iff.1 letter
  unfold low high
  omega

/-- A capital is no letter of a run that is missed. -/
theorem not_covers_capital (miss : r.misses other = true) (place : 0 < r.low)
    (letter : r.covers code = true) : other.covers (code + r.shift).toNat = false := by
  obtain ⟨from_low, to_high⟩ := capital_between letter
  obtain ⟨from_first, to_last, on_step⟩ := covers_iff.1 letter
  rw [Bool.eq_false_iff]
  intro covered
  obtain ⟨from_other, to_other, on_other⟩ := covers_iff.1 covered
  simp only [misses, Bool.or_eq_true, Bool.and_eq_true, Nat.blt_eq, Nat.beq_eq] at miss
  -- Where the stretches overlap, the letters of the other run have codes of the other parity.
  obtain (below | above) | ⟨⟨steps | single, other_steps⟩, odd⟩ := miss
  next => omega
  next => omega
  next =>
    rw [steps] at on_step
    rw [other_steps] at on_other
    unfold low at odd place
    omega
  next =>
    rw [other_steps] at on_other
    unfold low at odd place
    omega

end Run

/-- No letter of a run has a capital in a run. -/
theorem runs_miss : (runs.all fun r => runs.all fun other => r.misses other) = true := by
  decide +kernel

/-- No letter of a run has a capital with an expansion. -/
theorem runs_miss_expansions :
    (runs.all fun r => expansions.all fun e => r.high.blt e.1 || e.1.blt r.low) = true := by
  decide +kernel

/-- The capitals of a run are characters, and those in ASCII are capital letters there. -/
theorem runs_valid : ∀ r ∈ runs, 45 < r.low ∧ r.high < 97 ∨ 127 < r.low ∧ r.high < 0xD800 ∨
    0xDFFF < r.low ∧ r.high < 0x110000 := by
  decide +kernel

/-- Letters expand to capitals, none of them a dash. -/
theorem expansions_capital :
    ∀ e ∈ expansions, e.2 ≠ [] ∧
      ∀ n ∈ e.2, ofChar (Char.ofNat n) = [Char.ofNat n] ∧ Char.ofNat n ≠ '-' := by
  decide +kernel

/-! ### Letters -/

variable {c d : Char}

theorem toNat_of_isLower (small : c.isLower) : 97 ≤ c.toNat ∧ c.toNat ≤ 122 := by
  simpa [Char.isLower, UInt32.le_iff_toNat_le] using small

theorem toNat_of_isUpper (big : c.isUpper) : 65 ≤ c.toNat ∧ c.toNat ≤ 90 := by
  simpa [Char.isUpper, UInt32.le_iff_toNat_le] using big

theorem ofChar_of_ascii (ascii : c.toNat < 128) : ofChar c = [c.toUpper] := by
  simp only [ofChar, if_pos ascii]

/-- A character beyond ASCII in neither table is a capital. -/
theorem capital_of_find (beyond : 128 ≤ c.toNat)
    (whole : expansions.find? (·.1 == c.toNat) = none)
    (single : runs.find? (·.covers c.toNat) = none) : Capital c := by
  simp only [Capital, ofChar, if_neg (Nat.not_lt.2 beyond), whole, single]

/-- What the upper case of a character may be. -/
theorem ofChar_cases (c : Char) :
    (c.toNat < 128 ∧ ofChar c = [c.toUpper]) ∨ Capital c ∨
      (∃ e ∈ expansions, ofChar c = e.2.map Char.ofNat) ∨
      ∃ r ∈ runs, r.covers c.toNat = true ∧ ofChar c = [Char.ofNat (c.toNat + r.shift).toNat] := by
  rcases Nat.lt_or_ge c.toNat 128 with ascii | beyond
  next => exact .inl ⟨ascii, ofChar_of_ascii ascii⟩
  next =>
    rcases whole : expansions.find? (·.1 == c.toNat) with - | e
    next =>
      rcases single : runs.find? (·.covers c.toNat) with - | r
      next => exact .inr (.inl (capital_of_find beyond whole single))
      next =>
        have covered : r.covers c.toNat = true := by simpa using List.find?_some single
        refine .inr (.inr (.inr ⟨r, List.mem_of_find?_eq_some single, covered, ?_⟩))
        simp only [ofChar, if_neg (Nat.not_lt.2 beyond), whole, single]
    next =>
      refine .inr (.inr (.inl ⟨e, List.mem_of_find?_eq_some whole, ?_⟩))
      simp only [ofChar, if_neg (Nat.not_lt.2 beyond), whole]

/-- In ASCII, a character that is no small letter is a capital. -/
theorem capital_of_ascii (ascii : c.toNat < 128) (big : ¬ c.isLower) : Capital c := by
  rw [Capital, ofChar_of_ascii ascii, Char.toUpper_eq_of_not_isLower big]

/-- A capital is no small letter of ASCII. -/
theorem Capital.not_isLower (capital : Capital c) : ¬ c.isLower := by
  intro small
  have to_z := (toNat_of_isLower small).2
  rw [Capital, ofChar_of_ascii (by omega)] at capital
  have kept : c.toUpper = c := List.singleton_inj.1 capital
  rw [← kept, Char.isLower_toUpper_eq_false] at small
  exact Bool.false_ne_true small

section Listed

variable {r : Run} {code : Nat}

/-- The capital of a letter in a run has no expansion. -/
theorem expansions_find_capital (listed : r ∈ runs) (letter : r.covers code = true) :
    expansions.find? (·.1 == (code + r.shift).toNat) = none := by
  have between := Run.capital_between letter
  rw [List.find?_eq_none]
  intro e known
  have apart := List.all_eq_true.1 (List.all_eq_true.1 runs_miss_expansions r listed) e known
  simp only [Bool.or_eq_true, Nat.blt_eq] at apart
  simp only [beq_iff_eq]
  omega

/-- The capital of a letter in a run is in no run. -/
theorem runs_find_capital (listed : r ∈ runs) (letter : r.covers code = true) :
    runs.find? (·.covers (code + r.shift).toNat) = none := by
  have place : 0 < r.low := by
    have := runs_valid r listed
    omega
  rw [List.find?_eq_none]
  intro other known
  have miss := List.all_eq_true.1 (List.all_eq_true.1 runs_miss r listed) other known
  simp [Run.not_covers_capital miss place letter]

/-- The capital of a letter in a run is a capital, and no dash. -/
theorem capital_of_run (listed : r ∈ runs) (letter : r.covers code = true) :
    Capital (Char.ofNat (code + r.shift).toNat) ∧ Char.ofNat (code + r.shift).toNat ≠ '-' := by
  have between := Run.capital_between letter
  have place := runs_valid r listed
  have whole := expansions_find_capital listed letter
  have single := runs_find_capital listed letter
  generalize (code + r.shift).toNat = n at between whole single
  have same : (Char.ofNat n).toNat = n := by
    rw [Char.toNat_ofNat, if_pos]
    unfold Nat.isValidChar
    omega
  refine ⟨?_, fun dash => ?_⟩
  next =>
    rcases Nat.lt_or_ge n 128 with ascii | beyond
    next =>
      refine capital_of_ascii (by rwa [same]) fun small => ?_
      have from_a := (toNat_of_isLower small).1
      omega
    next => exact capital_of_find (by rwa [same]) (by rwa [same]) (by rwa [same])
  next =>
    have code_of_dash : n = 45 := by rw [← same, dash]; rfl
    omega

end Listed

/-- An ASCII character has its upper case in ASCII. -/
theorem toUpper_ascii (ascii : c.toNat < 128) : c.toUpper.toNat < 128 := by
  by_cases small : c.isLower
  next =>
    rw [Char.toUpper_eq_of_isLower small, Char.toNat_ofNat]
    split <;> omega
  next => rwa [Char.toUpper_eq_of_not_isLower small]

/-- **The upper case of a letter is made of capitals.** -/
theorem capital_of_mem (part : d ∈ ofChar c) : Capital d := by
  rcases ofChar_cases c with ⟨ascii, single⟩ | capital | ⟨e, listed, expanded⟩ |
    ⟨r, listed, letter, single⟩
  next =>
    obtain rfl := List.mem_singleton.1 (single ▸ part)
    exact capital_of_ascii (toUpper_ascii ascii) (by simp)
  next =>
    obtain rfl := List.mem_singleton.1 (capital ▸ part)
    exact capital
  next =>
    obtain ⟨n, place, rfl⟩ := List.mem_map.1 (expanded ▸ part)
    exact ((expansions_capital e listed).2 n place).1
  next =>
    obtain rfl := List.mem_singleton.1 (single ▸ part)
    exact (capital_of_run listed letter).1

/-- Only a dash has a dash in its upper case. -/
theorem dash_mem_ofChar : '-' ∈ ofChar c ↔ c = '-' := by
  constructor
  next =>
    intro part
    rcases ofChar_cases c with ⟨-, single⟩ | capital | ⟨e, listed, expanded⟩ |
      ⟨r, listed, letter, single⟩
    next =>
      have dash := List.mem_singleton.1 (single ▸ part)
      by_cases small : c.isLower
      next =>
        have letter : c.toUpper.isUpper = true := by simp [Char.isAlpha, small]
        rw [← dash] at letter
        exact absurd letter (by decide)
      next => rw [dash, Char.toUpper_eq_of_not_isLower small]
    next => exact (List.mem_singleton.1 (capital ▸ part)).symm
    next =>
      obtain ⟨n, place, dash⟩ := List.mem_map.1 (expanded ▸ part)
      exact absurd dash ((expansions_capital e listed).2 n place).2
    next => exact absurd (List.mem_singleton.1 (single ▸ part)).symm (capital_of_run listed letter).2
  next =>
    rintro rfl
    decide

theorem ofChar_ne_nil (c : Char) : ofChar c ≠ [] := by
  rcases ofChar_cases c with ⟨-, single⟩ | capital | ⟨e, listed, expanded⟩ | ⟨r, -, -, single⟩
  next => simp [single]
  next => simp [show ofChar c = [c] from capital]
  next => simp [expanded, (expansions_capital e listed).1]
  next => simp [single]

/-! ### Texts -/

variable {s t : String}

@[simp] theorem toList_ofString (s : String) : (ofString s).toList = s.toList.flatMap ofChar :=
  String.toList_ofList

theorem capital_of_mem_ofString (part : d ∈ (ofString s).toList) : Capital d := by
  rw [toList_ofString] at part
  obtain ⟨c, -, part⟩ := List.mem_flatMap.1 part
  exact capital_of_mem part

/-- A text of capitals is its own upper case. -/
theorem ofString_of_capitals (capitals : ∀ c ∈ s.toList, Capital c) : ofString s = s := by
  have kept : s.toList.flatMap ofChar = s.toList.flatMap fun c => [c] :=
    List.flatMap_congr capitals
  rw [ofString, kept, List.flatMap_singleton', String.ofList_toList]

/-- **Upper case is reached in one step.** -/
theorem ofString_ofString (s : String) : ofString (ofString s) = ofString s :=
  ofString_of_capitals fun _ => capital_of_mem_ofString

theorem ofString_eq_empty : ofString s = "" ↔ s = "" := by
  rw [← String.toList_eq_nil_iff, ← String.toList_eq_nil_iff, toList_ofString, List.flatMap_eq_nil_iff]
  constructor
  next =>
    intro bare
    exact List.eq_nil_iff_forall_not_mem.2 fun c part => ofChar_ne_nil c (bare c part)
  next => simp +contextual

theorem dash_mem_ofString : '-' ∈ (ofString s).toList ↔ '-' ∈ s.toList := by
  simp [dash_mem_ofChar]

/-- Capitals that are the same but for ASCII case are equal. -/
theorem toLower_inj_of_capital (left : Capital c) (right : Capital d) (same : c.toLower = d.toLower) :
    c = d := by
  rw [← Char.toUpper_eq_of_not_isLower left.not_isLower,
    ← Char.toUpper_eq_of_not_isLower right.not_isLower, ← Char.toUpper_toLower_eq_toUpper c, same,
    Char.toUpper_toLower_eq_toUpper]

theorem map_toLower_inj {l m : List Char} (left : ∀ c ∈ l, Capital c) (right : ∀ c ∈ m, Capital c)
    (same : l.map Char.toLower = m.map Char.toLower) : l = m := by
  induction l generalizing m with
  | nil => exact (List.map_eq_nil_iff.1 same.symm).symm
  | cons c l ih =>
    obtain ⟨d, m, rfl, first, rest⟩ := List.map_eq_cons_iff.1 same.symm
    simp only [List.forall_mem_cons] at left right
    rw [toLower_inj_of_capital left.1 right.1 first.symm, ih left.2 right.2 rest.symm]

/-- Upper cases are told apart by a comparison without regard to ASCII case. -/
theorem same_ofString :
    AsciiCase.same (ofString s) (ofString t) = true ↔ ofString s = ofString t := by
  constructor
  next =>
    intro same
    have folded := String.ofList_injective (AsciiCase.same_iff.1 same)
    exact String.toList_injective (map_toLower_inj (fun _ => capital_of_mem_ofString)
      (fun _ => capital_of_mem_ofString) folded)
  next =>
    intro eq
    rw [eq]
    exact AsciiCase.same_refl _

/-- Every character beyond ASCII is a capital. -/
def Plain (s : String) : Prop := ∀ c ∈ s.toList, 128 ≤ c.toNat → Capital c

/-- Texts in ASCII are plain. -/
theorem plain_of_ascii (ascii : ∀ c ∈ s.toList, c.toNat < 128) : Plain s :=
  fun c part beyond => absurd (ascii c part) (Nat.not_lt.2 beyond)

theorem length_le_flatMap (l : List Char) : l.length ≤ (l.flatMap ofChar).length := by
  induction l with
  | nil => simp
  | cons c l ih =>
    have some := List.length_pos_iff.2 (ofChar_ne_nil c)
    rw [List.flatMap_cons, List.length_append, List.length_cons]
    omega

/-- Beyond ASCII, only the character itself is the same but for ASCII case. -/
theorem eq_of_toLower (beyond : 128 ≤ c.toNat) (same : d.toLower = c.toLower) : d = c := by
  have other : ¬ c.isUpper := fun big => by
    have to_z := (toNat_of_isUpper big).2
    omega
  rw [Char.toLower_eq_of_not_isUpper other] at same
  by_cases big : d.isUpper
  next =>
    have to_z := (toNat_of_isUpper big).2
    rw [← same, Char.toLower_eq_of_isUpper big, Char.toNat_ofNat] at beyond
    split at beyond <;> omega
  next => rwa [Char.toLower_eq_of_not_isUpper big] at same

/-- The upper case keeps the characters but for ASCII case only if it leaves all others. -/
theorem capital_of_map_toLower {l : List Char}
    (same : (l.flatMap ofChar).map Char.toLower = l.map Char.toLower) :
    ∀ c ∈ l, 128 ≤ c.toNat → Capital c := by
  induction l with
  | nil => simp
  | cons c l ih =>
    -- No upper case is empty, so with equal lengths there is one character for each.
    obtain ⟨d, ds, upper⟩ := List.exists_cons_of_ne_nil (ofChar_ne_nil c)
    have lengths := congrArg List.length same
    have shorter := length_le_flatMap l
    simp only [List.flatMap_cons, upper, List.length_map, List.length_append,
      List.length_cons] at lengths
    obtain rfl : ds = [] := List.length_eq_zero_iff.1 (by omega)
    simp only [List.flatMap_cons, upper, List.singleton_append, List.map_cons,
      List.cons.injEq] at same
    intro e part beyond
    rcases List.mem_cons.1 part with rfl | later
    next => rw [Capital, upper, eq_of_toLower beyond same.1]
    next => exact ih same.2 e later beyond

/-- **The upper case of a text differs in ASCII case only just if the text is plain.** -/
theorem same_ofString_self : AsciiCase.same (ofString s) s = true ↔ Plain s := by
  rw [AsciiCase.same_iff, AsciiCase.fold, AsciiCase.fold, String.ofList_inj, toList_ofString]
  constructor
  next => exact capital_of_map_toLower
  next =>
    intro plain
    have letters : ∀ c ∈ s.toList, (ofChar c).map Char.toLower = [c.toLower] := by
      intro c part
      rcases Nat.lt_or_ge c.toNat 128 with ascii | beyond
      next => rw [ofChar_of_ascii ascii, List.map_singleton, Char.toLower_toUpper_eq_toLower]
      next => rw [show ofChar c = [c] from plain c part beyond, List.map_singleton]
    rw [List.map_flatMap, List.flatMap_congr letters, ← List.map_eq_flatMap]

end OrderDesk.UpperCase
