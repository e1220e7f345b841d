import Mathlib
import MessageEngine.Config.Load

/-!
# The texts of settings

A setting of the environment is a text.  It stands for a number if it is a
numeral, and switches something on if it is one of a few words; which texts
these are is told here without a reader.
-/

namespace MessageEngine

/-! ## Numerals -/

/-- Decimal digits, perhaps behind a plus sign, and the number that they stand for. -/
def Numeral (text : String) (n : Nat) : Prop :=
  ∃ digits : List Char, (text.toList = digits ∨ text.toList = '+' :: digits) ∧ digits ≠ [] ∧
    (∀ c ∈ digits, c.isDigit = true) ∧ Nat.ofDigitChars 10 digits 0 = n

/-- The next digit of a number, unless the number has reached the bound already. -/
def digitBelow (bound n : Nat) (c : Char) : Nat :=
  if n < bound then 10 * n + (c.toNat - 48) else n

theorem foldl_digitBelow_of_le {bound n : Nat} (h : bound ≤ n) (digits : List Char) :
    digits.foldl (digitBelow bound) n = n := by
  induction digits with
  | nil => rfl
  | cons c rest ih =>
      have hstop : digitBelow bound n c = n := if_neg (Nat.not_lt.2 h)
      rw [List.foldl_cons, hstop, ih]

theorem le_ofDigitChars (digits : List Char) (n : Nat) : n ≤ Nat.ofDigitChars 10 digits n := by
  induction digits generalizing n with
  | nil => exact Nat.le_refl n
  | cons c rest ih =>
      have hrest := ih (10 * n + (c.toNat - '0'.toNat))
      rw [Nat.ofDigitChars_cons]
      omega

/-- Below the bound, digits are read as the number that they stand for. -/
theorem foldl_digitBelow (bound n : Nat) (digits : List Char) :
    digits.foldl (digitBelow bound) n = Nat.ofDigitChars 10 digits n ∨
      bound ≤ digits.foldl (digitBelow bound) n ∧ bound ≤ Nat.ofDigitChars 10 digits n := by
  induction digits generalizing n with
  | nil => exact .inl rfl
  | cons c rest ih =>
      by_cases hn : n < bound
      · have hnext : digitBelow bound n c = 10 * n + (c.toNat - '0'.toNat) := if_pos hn
        rw [List.foldl_cons, hnext, Nat.ofDigitChars_cons]
        exact ih _
      · right
        rw [foldl_digitBelow_of_le (Nat.le_of_not_lt hn)]
        have hall := le_ofDigitChars (c :: rest) n
        omega

theorem foldl_digitBelow_lt_iff {bound n : Nat} (digits : List Char) :
    (digits.foldl (digitBelow bound) 0 = n ∧ n < bound) ↔
      Nat.ofDigitChars 10 digits 0 = n ∧ n < bound := by
  have hread := foldl_digitBelow bound 0 digits
  constructor <;> rintro ⟨rfl, hlt⟩ <;> refine ⟨?_, ?_⟩ <;> omega

/-- What of a text is read as digits. -/
def unsigned (text : String) : List Char :=
  match text.toList with
  | '+' :: rest => rest
  | cs => cs

theorem toList_eq_unsigned (text : String) :
    text.toList = unsigned text ∨ text.toList = '+' :: unsigned text := by
  rw [unsigned]
  split
  · next rest heq => exact .inr heq
  · exact .inl rfl

/-- Digits are not taken for a sign. -/
theorem unsigned_eq {text : String} {digits : List Char} (hdigits : ∀ c ∈ digits, c.isDigit = true)
    (htext : text.toList = digits ∨ text.toList = '+' :: digits) : unsigned text = digits := by
  rcases htext with htext | htext
  · rw [unsigned]
    split
    · next rest heq =>
      have hplus : '+' ∈ digits := by simp [← htext, heq]
      exact absurd (hdigits '+' hplus) (by decide)
    · exact htext
  · simp [unsigned, htext]

theorem countBelow?_eq (bound : Nat) (text : String) :
    countBelow? bound text =
      if unsigned text ≠ [] ∧ (unsigned text).all Char.isDigit then
        if (unsigned text).foldl (digitBelow bound) 0 < bound then
          some ((unsigned text).foldl (digitBelow bound) 0)
        else none
      else none :=
  rfl

theorem countBelow?_eq_some_iff {bound n : Nat} {text : String} :
    countBelow? bound text = some n ↔ Numeral text n ∧ n < bound := by
  have hall : (unsigned text).all Char.isDigit = true ↔ ∀ c ∈ unsigned text, c.isDigit = true :=
    List.all_eq_true
  have hvalue : (∃ x, (unsigned text).foldl (digitBelow bound) 0 = x ∧ x < bound ∧ x = n) ↔
      Nat.ofDigitChars 10 (unsigned text) 0 = n ∧ n < bound := by
    rw [← foldl_digitBelow_lt_iff]
    constructor
    · rintro ⟨_, hread, hlt, rfl⟩
      exact ⟨hread, hlt⟩
    · rintro ⟨hread, hlt⟩
      exact ⟨n, hread, hlt, rfl⟩
  constructor
  · intro h
    rw [countBelow?_eq, Option.ite_none_right_eq_some, Option.ite_none_right_eq_some,
      Option.some.injEq] at h
    obtain ⟨⟨hsome, hdigits⟩, hlt, hn⟩ := h
    obtain ⟨hnumber, hbound⟩ := hvalue.1 ⟨_, rfl, hlt, hn⟩
    exact ⟨⟨unsigned text, toList_eq_unsigned text, hsome, hall.1 hdigits, hnumber⟩, hbound⟩
  · rintro ⟨⟨digits, htext, hsome, hdigits, hnumber⟩, hbound⟩
    obtain rfl := unsigned_eq hdigits htext
    obtain ⟨_, rfl, hlt, rfl⟩ := hvalue.2 ⟨hnumber, hbound⟩
    rw [countBelow?_eq, if_pos ⟨hsome, hall.2 hdigits⟩, if_pos hlt]

/-- A number that fits is read as a word. -/
theorem map_countBelow?_eq_some_iff {bound : Nat} {word : Type} {ofNat : Nat → word}
    {toNat : word → Nat} (hlt : ∀ w, toNat w < bound) (hword : ∀ w, ofNat (toNat w) = w)
    (hnat : ∀ n < bound, toNat (ofNat n) = n) {text : String} {w : word} :
    (countBelow? bound text).map ofNat = some w ↔ Numeral text (toNat w) := by
  rw [Option.map_eq_some_iff]
  constructor
  · rintro ⟨n, hcount, rfl⟩
    obtain ⟨hn, hbound⟩ := countBelow?_eq_some_iff.1 hcount
    rwa [hnat n hbound]
  · intro hn
    exact ⟨toNat w, countBelow?_eq_some_iff.2 ⟨hn, hlt w⟩, hword w⟩

theorem portOf?_eq_some_iff {text : String} {port : UInt16} :
    portOf? text = some port ↔ Numeral text port.toNat := by
  apply map_countBelow?_eq_some_iff
  · exact UInt16.toNat_lt
  · exact fun _ ↦ UInt16.ofNat_toNat
  · exact fun _ ↦ Nat.mod_eq_of_lt

theorem rateOf?_eq_some_iff {text : String} {rate : UInt32} :
    (countBelow? UInt32.size text).map UInt32.ofNat = some rate ↔ Numeral text rate.toNat := by
  apply map_countBelow?_eq_some_iff
  · exact UInt32.toNat_lt
  · exact fun _ ↦ UInt32.ofNat_toNat
  · exact fun _ ↦ Nat.mod_eq_of_lt

/-! ## Switches -/

/-- The word `1`, and the word `true` in small letters, capitals or both. -/
def SwitchesOn (text : String) : Prop :=
  text = "1" ∨ List.Forall₂ (fun c letter ↦ c = letter.1 ∨ c = letter.2) text.toList
    [('t', 'T'), ('r', 'R'), ('u', 'U'), ('e', 'E')]

theorem toNat_toLower (c : Char) :
    c.toLower.toNat = if 65 ≤ c.toNat ∧ c.toNat ≤ 90 then c.toNat + 32 else c.toNat := by
  rw [Char.toLower]
  split
  · next h =>
    have hcapital : 65 ≤ c.toNat ∧ c.toNat ≤ 90 := by simpa [UInt32.le_iff_toNat_le] using h
    have hsum : (c.val + 32).toNat = c.toNat + 32 := by
      apply Nat.mod_eq_of_lt
      show c.toNat + 32 < 4294967296
      omega
    rw [if_pos hcapital]
    exact hsum
  · next h =>
    have hother : ¬ (65 ≤ c.toNat ∧ c.toNat ≤ 90) := by simpa [UInt32.le_iff_toNat_le] using h
    rw [if_neg hother]

/-- A small letter, with the capital that belongs to it. -/
def IsLetter (letter : Char × Char) : Prop :=
  97 ≤ letter.1.toNat ∧ letter.1.toNat ≤ 122 ∧ letter.2.toNat + 32 = letter.1.toNat

theorem toLower_eq_iff {letter : Char × Char} (h : IsLetter letter) {c : Char} :
    c.toLower = letter.1 ↔ c = letter.1 ∨ c = letter.2 := by
  obtain ⟨hfirst, hlast, hcapital⟩ := h
  simp only [← Char.toNat_inj, toNat_toLower]
  split <;> omega

theorem map_toLower_eq_iff {letters : List (Char × Char)} (h : ∀ letter ∈ letters, IsLetter letter)
    {cs : List Char} : cs.map Char.toLower = letters.map Prod.fst ↔
      List.Forall₂ (fun c letter ↦ c = letter.1 ∨ c = letter.2) cs letters := by
  induction letters generalizing cs with
  | nil => simp
  | cons letter letters ih =>
      have hletter := h letter List.mem_cons_self
      have hrest := fun l hl ↦ h l (List.mem_cons_of_mem letter hl)
      cases cs with
      | nil => simp
      | cons c cs => simp [toLower_eq_iff hletter, ih hrest]

theorem switch_eq_true_iff {text : String} : switch text = true ↔ SwitchesOn text := by
  have hletters : ∀ letter ∈ [('t', 'T'), ('r', 'R'), ('u', 'U'), ('e', 'E')], IsLetter letter := by
    simp [IsLetter]
  have hword : text.toLower = "true" ↔ text.toList.map Char.toLower =
      [('t', 'T'), ('r', 'R'), ('u', 'U'), ('e', 'E')].map Prod.fst := by
    rw [← String.toList_inj, String.toLower, String.toList_map]
    rfl
  rw [switch, SwitchesOn, ← map_toLower_eq_iff hletters, ← hword, Bool.or_eq_true,
    decide_eq_true_iff, decide_eq_true_iff, or_comm]

end MessageEngine
