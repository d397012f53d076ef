import OrderDesk.Market.Deployment
import OrderDesk.Market.Pair
import OrderDesk.Proofs.Capitals

/-!
# `OrderDesk.Proofs.PairReading` — what becomes of a pair's symbols

A text is read as a pair by dividing it at its first dash and taking both sides to upper case. Which
texts are refused is decided on the sides, without regard to ASCII case; tokens are looked up the same
way. The upper case goes further than ASCII, so it can make two sides one, and lead away from a token.

## Contents
- `SameSymbol`: two symbols that no deployment tells apart; `sameSymbol_iff`.
- `Pair.Divides`: a text is divided at its first dash; `Pair.split?_eq_some_iff`,
  `Pair.split?_eq_none_iff`.
- `Pair.ofText?_eq_some_iff`, `Pair.ofText?_eq_none_iff`: which texts are pairs, and which pairs.
- `Pair.ofText?_text`: the text of a pair that was read, read again.
- `Pair.reading_stable_iff`: the result.
-/

namespace OrderDesk

open UpperCase (Capital Plain)

/-! ### Looking up symbols -/

/-- Every deployment has the same token for both symbols, with an address or without, or none. -/
def SameSymbol (a b : String) : Prop :=
  ∀ d : Deployment, d.token? a = d.token? b ∧ d.resolve? a = d.resolve? b

/-- Symbols are told apart without regard to ASCII case. -/
theorem sameSymbol_iff {a b : String} : SameSymbol a b ↔ AsciiCase.same a b = true := by
  constructor
  next =>
    intro agree
    -- A deployment with one token, of the first symbol.
    let token : Token := { symbol := a, address := Address.zero, decimals := 0 }
    let d : Deployment := { chainId := 0, exchange := Address.zero, tokens := [token] }
    have found : d.token? a = some token := by simp [Deployment.token?, d, token]
    rw [(agree d).1] at found
    simpa using List.find?_some found
  next =>
    intro same d
    have tokens : d.token? a = d.token? b := by
      simp only [Deployment.token?, AsciiCase.same, AsciiCase.same_iff.1 same]
    exact ⟨tokens, by rw [Deployment.resolve?, Deployment.resolve?, tokens]⟩

namespace Pair

/-! ### Dividing a text -/

/-- The first dash of a text stands between two sides. -/
structure Divides (text base quote : String) : Prop where
  text_eq : text = base ++ "-" ++ quote
  first : '-' ∉ base.toList

variable {text base quote : String} {p : Pair}

theorem split?_of_divides (sides : Divides text base quote) : split? text = some (base, quote) := by
  have letters : ∀ c ∈ base.toList, (c != '-') = true := by
    intro c part
    rw [bne_iff_ne]
    rintro rfl
    exact sides.first part
  have whole : text.toList = base.toList ++ '-' :: quote.toList := by
    rw [sides.text_eq]
    simp
  unfold split?
  rw [whole, List.dropWhile_append_of_pos letters, List.takeWhile_append_of_pos letters]
  simp

theorem split?_eq_none_iff : split? text = none ↔ '-' ∉ text.toList := by
  unfold split?
  split
  next none_left =>
    simp only [List.dropWhile_eq_nil_iff, bne_iff_ne] at none_left
    simp only [true_iff]
    exact fun dash => none_left '-' dash rfl
  next c after rest =>
    simp only [reduceCtorEq, false_iff, not_not]
    have head := List.head_dropWhile_not (· != '-') (l := text.toList) (by simp [rest])
    simp only [rest, List.head_cons, bne_eq_false_iff_eq] at head
    rw [← head]
    exact (List.dropWhile_sublist _).subset (rest ▸ List.mem_cons_self)

theorem split?_eq_some_iff : split? text = some (base, quote) ↔ Divides text base quote := by
  refine ⟨fun found => ?_, split?_of_divides⟩
  -- The text is divided at its first dash, and a text is divided in one way only.
  have dash : '-' ∈ text.toList := by
    by_contra absent
    rw [split?_eq_none_iff.2 absent] at found
    cases found
  obtain ⟨before, after, whole, first⟩ := List.eq_append_cons_of_mem dash
  have sides : Divides text (String.ofList before) (String.ofList after) := by
    refine ⟨String.toList_injective ?_, by simpa using first⟩
    rw [whole]
    simp
  rw [split?_of_divides sides] at found
  cases found
  exact sides

/-! ### Reading a pair -/

theorem ofText?_of_divides (sides : Divides text base quote) :
    ofText? text =
      if base = "" ∨ quote = "" ∨ AsciiCase.same base quote = true then none
      else some ⟨UpperCase.ofString base, UpperCase.ofString quote⟩ := by
  simp only [ofText?, split?_of_divides sides, Bool.or_eq_true, String.isEmpty_iff, or_assoc]

/-- Which pair a text is. -/
theorem ofText?_eq_some_iff :
    ofText? text = some p ↔ ∃ base quote, Divides text base quote ∧
      ¬ (base = "" ∨ quote = "" ∨ AsciiCase.same base quote = true) ∧
      p = ⟨UpperCase.ofString base, UpperCase.ofString quote⟩ := by
  constructor
  next =>
    intro read
    rcases found : split? text with - | ⟨base, quote⟩
    next => simp [ofText?, found] at read
    next =>
      have sides := split?_eq_some_iff.1 found
      rw [ofText?_of_divides sides] at read
      split at read
      next => cases read
      next good => exact ⟨base, quote, sides, good, (Option.some.inj read).symm⟩
  next =>
    rintro ⟨base, quote, sides, good, rfl⟩
    rw [ofText?_of_divides sides, if_neg good]

/-- Which texts are no pair. -/
theorem ofText?_eq_none_iff :
    ofText? text = none ↔ '-' ∉ text.toList ∨ ∃ base quote, Divides text base quote ∧
      (base = "" ∨ quote = "" ∨ AsciiCase.same base quote = true) := by
  rcases found : split? text with - | ⟨base, quote⟩
  next => simp [ofText?, found, split?_eq_none_iff.1 found]
  next =>
    have sides := split?_eq_some_iff.1 found
    have dash : '-' ∈ text.toList := by simp [sides.text_eq]
    rw [ofText?_of_divides sides]
    constructor
    next =>
      intro refused
      split at refused
      next bad => exact .inr ⟨base, quote, sides, bad⟩
      next => cases refused
    next =>
      rintro (absent | ⟨base', quote', sides', bad⟩)
      next => exact absurd dash absent
      next =>
        obtain ⟨rfl, rfl⟩ : base' = base ∧ quote' = quote := by
          simpa [split?_of_divides sides'] using found
        rw [if_pos bad]

/-- The text of a pair that was read is read as that pair again, unless its symbols are one. -/
theorem ofText?_text (first : '-' ∉ base.toList) (some_base : base ≠ "") (some_quote : quote ≠ "") :
    ofText? (Pair.text ⟨UpperCase.ofString base, UpperCase.ofString quote⟩) =
      if UpperCase.ofString base = UpperCase.ofString quote then none
      else some ⟨UpperCase.ofString base, UpperCase.ofString quote⟩ := by
  have sides : Divides (Pair.text ⟨UpperCase.ofString base, UpperCase.ofString quote⟩)
      (UpperCase.ofString base) (UpperCase.ofString quote) :=
    ⟨rfl, mt UpperCase.dash_mem_ofString.1 first⟩
  rw [ofText?_of_divides sides, UpperCase.ofString_ofString, UpperCase.ofString_ofString]
  simp only [UpperCase.ofString_eq_empty, some_base, some_quote, UpperCase.same_ofString, false_or]

/-- **What reading a pair keeps.** A text is refused just if it has no dash, or its first dash leaves a
side empty or two sides that are the same but for ASCII case. The symbols of a pair that is read are
not empty. They differ without regard to ASCII case, and the text of the pair reads back as the pair,
just if the sides do not have one upper case. A symbol is looked up like the side it stems from just if
that side is plain; and the upper cases of plain sides differ. -/
theorem reading_stable_iff (text : String) :
    (ofText? text = none ↔ '-' ∉ text.toList ∨ ∃ base quote, Divides text base quote ∧
      (base = "" ∨ quote = "" ∨ AsciiCase.same base quote = true)) ∧
    ∀ p, ofText? text = some p → ∃ base quote, Divides text base quote ∧
      p.base ≠ "" ∧ p.quote ≠ "" ∧
      (AsciiCase.same p.base p.quote = false ↔
        UpperCase.ofString base ≠ UpperCase.ofString quote) ∧
      (ofText? p.text = some p ↔ UpperCase.ofString base ≠ UpperCase.ofString quote) ∧
      (SameSymbol p.base base ↔ Plain base) ∧ (SameSymbol p.quote quote ↔ Plain quote) ∧
      (Plain base → Plain quote → UpperCase.ofString base ≠ UpperCase.ofString quote) := by
  refine ⟨ofText?_eq_none_iff, fun p read => ?_⟩
  obtain ⟨base, quote, sides, good, rfl⟩ := ofText?_eq_some_iff.1 read
  obtain ⟨some_base, some_quote, differ⟩ : base ≠ "" ∧ quote ≠ "" ∧
      ¬ AsciiCase.same base quote = true := by simpa only [not_or] using good
  have told : AsciiCase.same (UpperCase.ofString base) (UpperCase.ofString quote) = false ↔
      UpperCase.ofString base ≠ UpperCase.ofString quote := by
    rw [Bool.eq_false_iff, ne_eq, UpperCase.same_ofString]
  refine ⟨base, quote, sides, mt UpperCase.ofString_eq_empty.1 some_base,
    mt UpperCase.ofString_eq_empty.1 some_quote, told, ?_, ?_, ?_, ?_⟩
  next =>
    rw [ofText?_text sides.first some_base some_quote]
    simp
  next => rw [sameSymbol_iff, UpperCase.same_ofString_self]
  next => rw [sameSymbol_iff, UpperCase.same_ofString_self]
  next =>
    -- Plain sides with one upper case would be the same but for ASCII case already.
    intro plain_base plain_quote one
    have to_base := UpperCase.same_ofString_self.2 plain_base
    have to_quote := UpperCase.same_ofString_self.2 plain_quote
    rw [← one] at to_quote
    exact differ (AsciiCase.same_trans (AsciiCase.same_symm to_base) to_quote)

namespace Sample

/-- A pair that is read from small letters and capitals: its own text is read as the same pair, and
its symbols are looked up like the sides. -/
theorem reading_of_small_letters :
    ofText? "stt-USDC" = some ⟨"STT", "USDC"⟩ ∧ ofText? "STT-USDC" = some ⟨"STT", "USDC"⟩ ∧
      SameSymbol "STT" "stt" ∧ SameSymbol "USDC" "USDC" := by
  have read : ofText? "stt-USDC" = some ⟨"STT", "USDC"⟩ := by decide +kernel
  obtain ⟨base, quote, sides, -, -, -, again, base_found, quote_found, differ⟩ :=
    (reading_stable_iff "stt-USDC").2 _ read
  have divided : split? "stt-USDC" = some ("stt", "USDC") := by decide +kernel
  obtain ⟨rfl, rfl⟩ : base = "stt" ∧ quote = "USDC" := by
    simpa [split?_of_divides sides] using divided
  have plain_base : Plain "stt" := UpperCase.plain_of_ascii (by simp)
  have plain_quote : Plain "USDC" := UpperCase.plain_of_ascii (by simp)
  exact ⟨read, again.2 (differ plain_base plain_quote), base_found.2 plain_base,
    quote_found.2 plain_quote⟩

/-- A letter whose upper case is two letters: the sides become one symbol, the text of the pair is no
pair, and a token with the symbol as it was given is not found any more. -/
theorem sides_become_one :
    ∃ p, ofText? "ß-SS" = some p ∧ AsciiCase.same p.base p.quote = true ∧ ofText? p.text = none ∧
      ¬ SameSymbol p.base "ß" := by
  refine ⟨⟨"SS", "SS"⟩, by decide +kernel, by decide +kernel, by decide +kernel, ?_⟩
  rw [sameSymbol_iff]
  decide +kernel

end Sample
end Pair
end OrderDesk
