import Mathlib.Data.List.Induction
import Mathlib.Data.List.TakeDrop
import Mathlib.Data.List.TakeWhile
import RetailApi.Base.JsString

/-! Texts that were trimmed and brought to one letter case stay as they are under the same again. -/

namespace JsString

open List Char String

theorem trim_eq_self {letters} (first : ∀ letter ∈ letters.head?, isSpace letter = false)
    (last : ∀ letter ∈ letters.getLast?, isSpace letter = false) : trim letters = letters := by
  have kept : ∀ {text : List Char}, (∀ letter ∈ text.head?, isSpace letter = false) → text.dropWhile isSpace = text := by
    intro text front
    cases text with
    | nil => rfl
    | cons letter rest => rw [dropWhile_cons_of_neg (by simp [front letter rfl])]
  unfold trim
  rw [kept first, kept (by simpa [head?_reverse] using last), reverse_reverse]

/-- No space at either end. -/
def Bare (letters : List Char) : Prop :=
  (∀ letter ∈ letters.head?, isSpace letter = false) ∧ ∀ letter ∈ letters.getLast?, isSpace letter = false

theorem Bare.trim {letters} (bare : Bare letters) : trim letters = letters := trim_eq_self bare.1 bare.2

theorem head_dropWhile (letters : List Char) : ∀ letter ∈ (letters.dropWhile isSpace).head?, isSpace letter = false := by
  intro letter front
  have found := head?_dropWhile_not isSpace letters
  rw [front] at found
  exact by simpa using found

theorem bare_trim (letters : List Char) : Bare (JsString.trim letters) := by
  constructor
  · intro letter front
    -- Trimming the end leaves a beginning of what is trimmed at the front.
    have part : JsString.trim letters <+: letters.dropWhile isSpace := by
      have suffix_ := dropWhile_suffix isSpace (l := (letters.dropWhile isSpace).reverse)
      rw [← reverse_prefix, reverse_reverse] at suffix_
      exact suffix_
    obtain ⟨rest, whole⟩ := part
    apply head_dropWhile letters letter
    rw [← whole, head?_append, Option.mem_def.mp front]
    rfl
  · intro letter back
    rw [JsString.trim, getLast?_reverse] at back
    exact head_dropWhile _ letter back

/-- A way to replace letters that, done again, changes nothing, and that makes no space. -/
structure Folds (fold : Char → List Char) : Prop where
  again : ∀ letter, (fold letter).flatMap fold = fold letter
  plain : ∀ letter, isSpace letter = false → fold letter ≠ [] ∧ ∀ other ∈ fold letter, isSpace other = false

section Folds

variable {fold : Char → List Char}

theorem Folds.flatMap (folds : Folds fold) (letters : List Char) :
    (letters.flatMap fold).flatMap fold = letters.flatMap fold := by
  rw [flatMap_assoc]
  congr 1
  funext letter
  exact folds.again letter

theorem Folds.keeps_bare (folds : Folds fold) {letters} (bare : Bare letters) : Bare (letters.flatMap fold) := by
  constructor
  · intro letter front
    cases letters with
    | nil => cases front
    | cons first rest =>
      obtain ⟨filled, plain⟩ := folds.plain first (bare.1 first rfl)
      apply plain
      obtain ⟨head, tail, shape⟩ := exists_cons_of_ne_nil filled
      rw [flatMap_cons, shape, cons_append, head?_cons, Option.mem_some_iff] at front
      simp [shape, front]
  · intro letter back
    induction letters using reverseRecOn with
    | nil => cases back
    | append_singleton rest final =>
      obtain ⟨filled, plain⟩ := folds.plain final (bare.2 final (by simp))
      apply plain
      rw [flatMap_append, flatMap_singleton, getLast?_append, getLast?_eq_some_getLast filled] at back
      cases back
      exact getLast_mem filled

theorem Folds.trimmed_again (folds : Folds fold) (letters : List Char) :
    (trim ((trim letters).flatMap fold)).flatMap fold = (trim letters).flatMap fold := by
  rw [(folds.keeps_bare (bare_trim letters)).trim, folds.flatMap]

end Folds

theorem of_ascii {P : Char → Prop} (each : ∀ code < 128, P (ofNat code)) {letter}
    (small : letter.toNat < 128) : P letter := by
  rw [← ofNat_toNat letter]
  exact each _ small

theorem Folds.of_words {fold} (words : List (List Char))
    (ascii : ∀ code < 128, (fold (ofNat code)).flatMap fold = fold (ofNat code) ∧
      (isSpace (ofNat code) = false →
        fold (ofNat code) ≠ [] ∧ (fold (ofNat code)).any isSpace = false))
    (listed : ∀ word ∈ words, word.flatMap fold = word ∧ word ≠ [] ∧ word.any isSpace = false)
    (beyond : ∀ letter : Char, 128 ≤ letter.toNat → fold letter ∈ words ∨ fold letter = [letter]) : Folds fold := by
  have each : ∀ letter, (fold letter).flatMap fold = fold letter ∧
      (isSpace letter = false → fold letter ≠ [] ∧ (fold letter).any isSpace = false) := by
    intro letter
    by_cases small : letter.toNat < 128
    · exact of_ascii (P := fun letter => (fold letter).flatMap fold = fold letter ∧ (isSpace letter = false →
        fold letter ≠ [] ∧ (fold letter).any isSpace = false)) ascii small
    rcases beyond letter (Nat.le_of_not_lt small) with word | same
    · exact ⟨(listed _ word).1, fun _ => (listed _ word).2⟩
    · rw [same, flatMap_singleton]
      refine ⟨same, fun plain => ⟨cons_ne_nil _ _, ?_⟩⟩
      rw [any_cons, plain, any_nil, Bool.or_false]
  refine ⟨fun letter => (each letter).1, fun letter plain => ?_⟩
  obtain ⟨filled, spaceless⟩ := (each letter).2 plain
  exact ⟨filled, fun other member => Bool.eq_false_iff.mpr (any_eq_false.mp spaceless other member)⟩

theorem folds_upperLetter : Folds upperLetter := by
  apply Folds.of_words [['S', 'S'], ['I'], [ofNat 0x2BC, 'N'], ['S'], ['J', ofNat 0x30C],
    ['H', ofNat 0x331], ['T', ofNat 0x308], ['W', ofNat 0x30A], ['Y', ofNat 0x30A],
    ['A', ofNat 0x2BE], ['F', 'F'], ['F', 'I'], ['F', 'L'], ['F', 'F', 'I'], ['F', 'F', 'L'], ['S', 'T']]
  · decide
  · decide
  · intro letter large
    have above : ¬('a' ≤ letter ∧ letter ≤ 'z') := by
      rintro ⟨_, below⟩
      have code : letter.toNat ≤ 122 := below
      omega
    rw [upperLetter, if_neg above]
    split <;> simp

theorem toUpperCase_trimmed_again (text : String) :
    toUpperCase (trimmed (toUpperCase (trimmed text))) = toUpperCase (trimmed text) := by
  simp only [toUpperCase, trimmed, toList_ofList, folds_upperLetter.trimmed_again]

theorem trimmed_ne_empty {text} {letter} (member : letter ∈ text.toList) (plain : isSpace letter = false) :
    trimmed text ≠ "" := by
  intro empty
  have all := congrArg toList empty
  rw [trimmed, toList_ofList, trim, toList_empty, reverse_eq_nil_iff, dropWhile_eq_nil_iff] at all
  have front : text.toList.dropWhile isSpace = [] := by
    cases rest : text.toList.dropWhile isSpace with
    | nil => rfl
    | cons first later =>
      have space := all first (by rw [rest]; simp)
      rw [head_dropWhile text.toList first (by rw [rest]; rfl)] at space
      cases space
  have space := dropWhile_eq_nil_iff.mp front letter member
  cases plain.symm.trans space

theorem toList_toString (number : Nat) : (toString number).toList = Nat.toDigits 10 number := by simp

theorem toString_injective {first second : Nat} (same : toString first = toString second) : first = second := by
  have digits := congrArg toList same
  rw [toList_toString, toList_toString] at digits
  rw [← Nat.ofDigitChars_ten_toDigits (n := first), ← Nat.ofDigitChars_ten_toDigits (n := second), digits]

theorem digit_not_space {letter} (digit : letter.isDigit = true) : isSpace letter = false := by
  have small : letter.toNat < 128 := by
    obtain ⟨_, most⟩ := isDigit_iff_toNat.mp digit
    exact Nat.lt_of_le_of_lt most (by decide)
  refine of_ascii (P := fun letter => letter.isDigit = true → isSpace letter = false) ?_ small digit
  decide +kernel

theorem trim_of_plain {letters} (plain : ∀ letter ∈ letters, isSpace letter = false) : trim letters = letters :=
  trim_eq_self (fun letter front => plain letter (mem_of_head? front))
    fun letter back => plain letter (mem_of_getLast? back)

theorem trimmed_toString (number : Nat) : trimmed (toString number) = toString number := by
  have plain : ∀ letter ∈ Nat.toDigits 10 number, isSpace letter = false :=
    fun letter member => digit_not_space (Nat.isDigit_of_mem_toDigits (by decide) (by decide) member)
  rw [trimmed, toList_toString, trim_of_plain plain, ← toList_toString, ofList_toList]

end JsString
