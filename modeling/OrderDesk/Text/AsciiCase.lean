/-!
# `OrderDesk.Text.AsciiCase` — comparison without regard to ASCII case

Symbols and keywords are compared with `A` to `Z` and `a` to `z` taken as equal; every other
character must match exactly.
-/

namespace OrderDesk.AsciiCase

/-- The text with ASCII capitals made small. -/
def fold (text : String) : String := String.ofList (text.toList.map Char.toLower)

/-- The texts differ in ASCII case at most. -/
def same (a b : String) : Bool := fold a == fold b

@[simp] theorem same_iff {a b : String} : same a b = true ↔ fold a = fold b := by simp [same]

theorem same_refl (a : String) : same a a = true := by simp

theorem same_symm {a b : String} (h : same a b = true) : same b a = true := by
  simp_all

theorem same_trans {a b c : String} (h : same a b = true) (k : same b c = true) :
    same a c = true := by
  simp_all

/-- `part` occurs in `whole`. -/
def occursIn (part whole : List Char) : Bool :=
  match whole with
  | [] => part.isEmpty
  | c :: rest => part.isPrefixOf (c :: rest) || occursIn part rest

/-- A text holds a lower-case ASCII phrase, whatever the case of its letters. No phrase looked for
holds a `k`, the one ASCII letter that is also the small form of a character outside ASCII. -/
def mentions (text phrase : String) : Bool := occursIn phrase.toList (fold text).toList

end OrderDesk.AsciiCase
