import Mathlib.Logic.ExistsUnique
import RetailApi.Catalog.Formats

/-! The check digit of a barcode catches a wrong digit and two digits in the wrong order. Read from the
right with the check digit in front, an accepted barcode has a weighted sum that ten divides. -/

namespace Catalog

open List Char

variable {letters before after : List Char} {digit other first second : Char} {sum posFromRight : Nat}

theorem code_eq (numeric : digit.isDigit = true) : digit.toNat = 48 + digitNumber digit ∧ digitNumber digit < 10 := by
  obtain ⟨least, most⟩ := isDigit_iff_toNat.mp numeric
  change 48 ≤ digit.toNat at least
  change digit.toNat ≤ 57 at most
  change digit.toNat = 48 + (digit.toNat - 48) ∧ digit.toNat - 48 < 10
  omega

theorem digitNumber_injective (numeric : digit.isDigit = true) (numericToo : other.isDigit = true)
    (same : digitNumber digit = digitNumber other) : digit = other := by
  apply toNat_inj.mp
  rw [(code_eq numeric).1, (code_eq numericToo).1, same]

theorem weight_cases (posFromRight : Nat) : weight posFromRight = 1 ∧ weight (posFromRight + 1) = 3 ∨
    weight posFromRight = 3 ∧ weight (posFromRight + 1) = 1 := by
  unfold weight
  rcases Nat.mod_two_eq_zero_or_one posFromRight with even | odd
  · left; constructor <;> simp <;> omega
  · right; constructor <;> simp <;> omega

theorem weightedSum_eq : weightedSum sum posFromRight letters = sum + weightedSum 0 posFromRight letters := by
  induction letters generalizing sum posFromRight with
  | nil => rfl
  | cons digit rest ih => rw [weightedSum, ih, weightedSum, @ih (0 + _), Nat.zero_add, Nat.add_assoc]

theorem weightedSum_cons : weightedSum 0 posFromRight (digit :: letters) =
    digitNumber digit * weight posFromRight + weightedSum 0 (posFromRight + 1) letters := by
  rw [weightedSum, weightedSum_eq, Nat.zero_add]

theorem weightedSum_append : weightedSum 0 posFromRight (before ++ after) =
    weightedSum 0 posFromRight before + weightedSum 0 (posFromRight + before.length) after := by
  induction before generalizing posFromRight with
  | nil => simp [weightedSum]
  | cons digit rest ih =>
    rw [cons_append, weightedSum_cons, weightedSum_cons, ih, length_cons, Nat.add_assoc, Nat.add_assoc,
      Nat.add_comm rest.length]

/-- The check digit weighs one, and with it the sum is a multiple of ten. -/
theorem verifyGs1Checksum_iff : verifyGs1Checksum (String.ofList letters) = true ↔
    letters.all isDigit = true ∧ 8 ≤ letters.length ∧ weightedSum 0 0 letters.reverse % 10 = 0 := by
  rw [verifyGs1Checksum, String.toList_ofList]
  cases numeric : letters.all isDigit with
  | false => simp
  | true =>
    cases shape : letters.reverse with
    | nil => simp [reverse_eq_nil_iff.mp shape]
    | cons expectedCheck rest =>
      have inside : expectedCheck ∈ letters := mem_reverse.mp (shape ▸ mem_cons_self)
      have bound := (code_eq (all_eq_true.mp numeric _ inside)).2
      rw [weightedSum_cons, show weight 0 = 1 from rfl]
      simp
      omega

/-- The sum as one digit contributes to it. -/
theorem weightedSum_digit : weightedSum 0 0 (before ++ digit :: after).reverse = weightedSum 0 0 after.reverse +
    (digitNumber digit * weight after.length + weightedSum 0 (after.length + 1) before.reverse) := by
  simp [weightedSum_append, weightedSum_cons]

/-- One wrong digit is noticed, two neighbours in the wrong order are unless they differ by five, and every
string of seven digits or more has one check digit. -/
theorem check_digit_guards :
    (∀ before digit after other, other ≠ digit → verifyGs1Checksum (String.ofList (before ++ digit :: after)) = true →
      verifyGs1Checksum (String.ofList (before ++ other :: after)) = false) ∧
    (∀ before first second after, first ≠ second →
      verifyGs1Checksum (String.ofList (before ++ first :: second :: after)) = true →
      (verifyGs1Checksum (String.ofList (before ++ second :: first :: after)) = true ↔
        digitNumber first = digitNumber second + 5 ∨ digitNumber second = digitNumber first + 5)) ∧
    ∀ letters : List Char, letters.all isDigit = true → 7 ≤ letters.length →
      ∃! check : Char, verifyGs1Checksum (String.ofList (letters ++ [check])) = true := by
  refine ⟨?_, ?_, ?_⟩
  · intro before digit after other changed accepted
    obtain ⟨numeric, -, multiple⟩ := verifyGs1Checksum_iff.mp accepted
    rw [Bool.eq_false_iff]
    intro again
    obtain ⟨numericToo, -, multipleToo⟩ := verifyGs1Checksum_iff.mp again
    rw [weightedSum_digit] at multiple multipleToo
    simp only [all_append, all_cons, Bool.and_eq_true] at numeric numericToo
    apply changed
    apply digitNumber_injective numericToo.2.1 numeric.2.1
    have bound := (code_eq numeric.2.1).2
    have boundToo := (code_eq numericToo.2.1).2
    rcases weight_cases after.length with ⟨one, -⟩ | ⟨three, -⟩
    · rw [one] at multiple multipleToo
      omega
    · rw [three] at multiple multipleToo
      omega
  · intro before first second after distinct accepted
    obtain ⟨numeric, long, multiple⟩ := verifyGs1Checksum_iff.mp accepted
    rw [verifyGs1Checksum_iff]
    simp only [all_append, all_cons, Bool.and_eq_true, length_append, length_cons] at numeric long ⊢
    have bound := (code_eq numeric.2.1).2
    have boundToo := (code_eq numeric.2.2.1).2
    have differ : digitNumber first ≠ digitNumber second := fun same =>
      distinct (digitNumber_injective numeric.2.1 numeric.2.2.1 same)
    have multipleIff : (digitNumber first = digitNumber second + 5 ∨ digitNumber second = digitNumber first + 5) ↔
        weightedSum 0 0 (before ++ second :: first :: after).reverse % 10 = 0 := by
      rw [weightedSum_digit, reverse_cons, weightedSum_append, weightedSum_cons] at multiple ⊢
      simp only [length_reverse, length_cons, Nat.zero_add, weightedSum] at multiple ⊢
      rcases weight_cases after.length with ⟨here, there⟩ | ⟨here, there⟩
      all_goals
        rw [here, there] at multiple ⊢
        omega
    rw [multipleIff]
    exact ⟨fun all => all.2.2, fun whole => ⟨⟨numeric.1, numeric.2.2.1, numeric.2.1, numeric.2.2.2⟩, long, whole⟩⟩
  · intro letters numeric long
    have accepted : ∀ check : Char, verifyGs1Checksum (String.ofList (letters ++ [check])) = true ↔
        check.isDigit = true ∧ (digitNumber check + weightedSum 0 1 letters.reverse) % 10 = 0 := by
      intro check
      rw [verifyGs1Checksum_iff, weightedSum_digit]
      simp [numeric, long, weightedSum, weight]
    generalize weightedSum 0 1 letters.reverse = total at accepted
    refine ⟨ofNat ('0'.toNat + (10 - total % 10) % 10), (accepted _).mpr ?_, ?_⟩
    · have small : (10 - total % 10) % 10 < 10 := Nat.mod_lt _ (by decide)
      have value : ∀ number < 10, (ofNat ('0'.toNat + number)).isDigit = true ∧
          digitNumber (ofNat ('0'.toNat + number)) = number := by decide
      obtain ⟨digit, same⟩ := value _ small
      refine ⟨digit, ?_⟩
      rw [same]
      omega
    · intro check fits
      obtain ⟨digit, whole⟩ := (accepted check).mp fits
      obtain ⟨code, bound⟩ := code_eq digit
      rw [← ofNat_toNat check, code]
      congr 2
      omega

theorem check_digit_guards_ean13 : verifyGs1Checksum "8934563123451" = true ∧ verifyGs1Checksum "8934563123452" = false ∧
    verifyGs1Checksum "9834563123451" = false ∧
    ∃! check : Char, verifyGs1Checksum (String.ofList ("893456312345".toList ++ [check])) = true := by
  refine ⟨by decide, check_digit_guards.1 "893456312345".toList '1' [] '2' (by decide) (by decide), ?_,
    check_digit_guards.2.2 _ (by decide) (by decide)⟩
  have swapped := check_digit_guards.2.1 [] '8' '9' "34563123451".toList (by decide) (by decide)
  exact Bool.eq_false_iff.mpr fun accepted => absurd (swapped.mp accepted) (by decide)

end Catalog
