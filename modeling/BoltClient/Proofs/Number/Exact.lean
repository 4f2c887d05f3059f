import Mathlib.Data.Rat.Cast.Order
import Mathlib.Algebra.Order.Field.Power
import Mathlib.Tactic.FieldSimp
import Mathlib.Tactic.Ring
import BoltClient.Number.Binary

/-!
Rounding where nothing has to be rounded. The word nearest to what a finite word is worth is that
word, in the same format or in another that has one of the same worth. Every finite single is
worth what some double is, so a single that is widened and narrowed again is the same number, the
sign of its zero and the infinities included.
-/

namespace BoltClient

namespace BinaryFormat

variable {format source target : BinaryFormat} {numerator denominator magnitude : Nat}

/-- What a significand is worth at a power of two. -/
def worth (parts : Nat × Int) : ℚ := parts.1 * 2 ^ parts.2

section Ratio

/-- A power of two is a quotient of two whole ones, of which one is 1. -/
theorem two_zpow_mul (exponent : Int) :
    (2 : ℚ) ^ exponent * 2 ^ (-exponent).toNat = 2 ^ exponent.toNat := by
  rw [← zpow_natCast, ← zpow_natCast, ← zpow_add₀ two_ne_zero]
  congr 1
  omega

theorem two_zpow_eq_div (exponent : Int) :
    (2 : ℚ) ^ exponent = 2 ^ exponent.toNat / 2 ^ (-exponent).toNat :=
  eq_div_of_mul_eq (pow_ne_zero _ two_ne_zero) (two_zpow_mul exponent)

/-- Whole numbers shifted to one exponent are in the order of the ratio and the power. -/
theorem shifted_lt_iff (proper : denominator ≠ 0) (exponent : Int) :
    numerator <<< (-exponent).toNat < denominator <<< exponent.toNat ↔
      (numerator : ℚ) / denominator < 2 ^ exponent := by
  have positive : (0 : ℚ) < denominator := by exact_mod_cast Nat.pos_of_ne_zero proper
  have whole : (0 : ℚ) < 2 ^ (-exponent).toNat := pow_pos two_pos _
  rw [two_zpow_eq_div, div_lt_div_iff₀ positive whole, Nat.shiftLeft_eq, Nat.shiftLeft_eq,
    mul_comm denominator]
  norm_cast

theorem shifted_eq_of_worth (proper : denominator ≠ 0) {significand : Nat} {exponent : Int}
    (value : (numerator : ℚ) / denominator = worth (significand, exponent)) :
    numerator <<< (-exponent).toNat = significand * denominator <<< exponent.toNat := by
  have nonzero : (denominator : ℚ) ≠ 0 := by exact_mod_cast proper
  rw [div_eq_iff nonzero, worth] at value
  have scaled : (numerator : ℚ) * 2 ^ (-exponent).toNat =
      significand * (denominator * 2 ^ exponent.toNat) := by
    rw [value, ← two_zpow_mul exponent]
    ring
  rw [Nat.shiftLeft_eq, Nat.shiftLeft_eq]
  exact_mod_cast scaled

theorem two_zpow_log2_le {number : Nat} (positive : number ≠ 0) :
    (2 : ℚ) ^ (number.log2 : Int) ≤ number := by
  exact_mod_cast Nat.log2_self_le positive

theorem lt_two_zpow_log2 (number : Nat) : (number : ℚ) < 2 ^ (number.log2 + 1 : Int) := by
  exact_mod_cast Nat.lt_log2_self

/-- The guess from the lengths of both numbers is at most one too large. -/
theorem ratioExponent_eq (positive : numerator ≠ 0) (proper : denominator ≠ 0) {exponent : Int}
    (lower : (2 : ℚ) ^ exponent ≤ numerator / denominator)
    (upper : (numerator : ℚ) / denominator < 2 ^ (exponent + 1)) :
    ratioExponent numerator denominator = exponent := by
  have bottom : (0 : ℚ) < denominator := by exact_mod_cast Nat.pos_of_ne_zero proper
  have above : (2 : ℚ) ^ exponent <
      2 ^ ((numerator.log2 : Int) - denominator.log2 + 1) := by
    refine lower.trans_lt ((div_lt_iff₀ bottom).2 ((lt_two_zpow_log2 numerator).trans_le ?_))
    calc (2 : ℚ) ^ (numerator.log2 + 1 : Int)
      _ = 2 ^ ((numerator.log2 : Int) - denominator.log2 + 1) * 2 ^ (denominator.log2 : Int) := by
        rw [← zpow_add₀ two_ne_zero]
        congr 1
        ring
      _ ≤ _ := mul_le_mul_of_nonneg_left (two_zpow_log2_le proper) (by positivity)
  have below : (2 : ℚ) ^ ((numerator.log2 : Int) - denominator.log2 - 1) < 2 ^ (exponent + 1) := by
    refine ((lt_div_iff₀ bottom).2 ?_).trans upper
    calc (2 : ℚ) ^ ((numerator.log2 : Int) - denominator.log2 - 1) * denominator
      _ < 2 ^ ((numerator.log2 : Int) - denominator.log2 - 1) *
          2 ^ (denominator.log2 + 1 : Int) :=
        mul_lt_mul_of_pos_left (lt_two_zpow_log2 denominator) (by positivity)
      _ = 2 ^ (numerator.log2 : Int) := by
        rw [← zpow_add₀ two_ne_zero]
        congr 1
        ring
      _ ≤ numerator := two_zpow_log2_le positive
  rw [zpow_lt_zpow_iff_right₀ one_lt_two] at above below
  rw [ratioExponent]
  simp only [shifted_lt_iff proper]
  split
  case isTrue short =>
    have under := (zpow_lt_zpow_iff_right₀ one_lt_two).1 (lower.trans_lt short)
    omega
  case isFalse long =>
    have exceeds := (zpow_lt_zpow_iff_right₀ one_lt_two).1 ((not_lt.1 long).trans_lt upper)
    omega

/-- A ratio that is a significand at a power of two has the exponent of its top bit. -/
theorem ratioExponent_of_worth (proper : denominator ≠ 0) {significand : Nat} {exponent : Int}
    (positive : significand ≠ 0)
    (value : (numerator : ℚ) / denominator = worth (significand, exponent)) :
    ratioExponent numerator denominator = significand.log2 + exponent := by
  have scale : (0 : ℚ) < 2 ^ exponent := by positivity
  have nonzero : numerator ≠ 0 := by
    rintro rfl
    rw [Nat.cast_zero, zero_div, worth] at value
    exact mul_ne_zero (Nat.cast_ne_zero.2 positive) scale.ne' value.symm
  rw [worth] at value
  apply ratioExponent_eq nonzero proper
  · rw [value, zpow_add₀ two_ne_zero]
    exact mul_le_mul_of_nonneg_right (two_zpow_log2_le positive) scale.le
  · rw [value, add_right_comm, zpow_add₀ two_ne_zero]
    exact mul_lt_mul_of_pos_right (lt_two_zpow_log2 significand) scale

end Ratio

/-- What divides evenly needs no rounding. -/
theorem roundedQuotient_mul {divisor : Nat} (positive : 0 < divisor) (quotient : Nat) :
    roundedQuotient (quotient * divisor) divisor = quotient := by
  rw [roundedQuotient, Nat.mul_div_cancel quotient positive, Nat.mul_mod_left]
  exact if_pos positive

/-- A significand and an exponent in the one form that a format writes: the significand is as
long as it may be, unless the exponent is the least. -/
structure Canonical (format : BinaryFormat) (significand : Nat) (exponent : Int) : Prop where
  least : format.leastExponent ≤ exponent
  short : significand < 2 * Nat.pow 2 format.fractionBits
  long : exponent = format.leastExponent ∨ Nat.pow 2 format.fractionBits ≤ significand

/-- The magnitude word of a canonical form. -/
def word (format : BinaryFormat) (significand : Nat) (exponent : Int) : Nat :=
  (exponent - format.leastExponent).toNat <<< format.fractionBits + significand

/-- A word is read as a canonical form, of which it is the word. -/
theorem word_of_parts {significand : Nat} {exponent : Int}
    (parts : format.parts magnitude = (significand, exponent)) :
    format.Canonical significand exponent ∧ format.word significand exponent = magnitude := by
  have whole : 0 < 2 ^ format.fractionBits := Nat.two_pow_pos _
  have split := Nat.div_add_mod' magnitude (2 ^ format.fractionBits)
  have under := Nat.mod_lt magnitude whole
  simp only [BinaryFormat.parts, Nat.one_shiftLeft, Nat.shiftRight_eq_div_pow] at parts
  by_cases small : magnitude / 2 ^ format.fractionBits = 0
  · rw [if_pos small] at parts
    cases parts
    rw [small, Nat.zero_mul, Nat.zero_add] at split
    refine ⟨⟨le_rfl, ?_, .inl rfl⟩, ?_⟩
    · exact under.trans_le (Nat.le_mul_of_pos_left _ Nat.two_pos)
    · rw [word, Int.sub_self, Int.toNat_zero, Nat.zero_shiftLeft, Nat.zero_add, split]
  · rw [if_neg small] at parts
    cases parts
    obtain ⟨steps, field⟩ := Nat.exists_eq_succ_of_ne_zero small
    rw [field] at split ⊢
    have above : (format.leastExponent + (steps.succ : Nat) - 1 - format.leastExponent).toNat =
        steps := by omega
    refine ⟨⟨by omega, ?_, .inr (Nat.le_add_right _ _)⟩, ?_⟩
    · rw [two_mul]
      exact Nat.add_lt_add_left under _
    · rw [word, above, Nat.shiftLeft_eq, ← Nat.add_assoc, ← Nat.succ_mul, split]

/-- Behind the least exponent, a canonical form is what its word is read as. -/
theorem parts_of_word {significand : Nat} {exponent : Int}
    (least : format.leastExponent ≤ exponent)
    (long : Nat.pow 2 format.fractionBits ≤ significand)
    (short : significand < 2 * Nat.pow 2 format.fractionBits) :
    format.parts (format.word significand exponent) = (significand, exponent) := by
  have whole : 0 < 2 ^ format.fractionBits := Nat.two_pow_pos _
  obtain ⟨steps, rfl⟩ := Int.le.dest least
  obtain ⟨fraction, rfl⟩ := Nat.exists_eq_add_of_le long
  have under : fraction < 2 ^ format.fractionBits := by
    rw [two_mul] at short
    exact Nat.lt_of_add_lt_add_left short
  have written : format.word (Nat.pow 2 format.fractionBits + fraction)
      (format.leastExponent + steps) = fraction + 2 ^ format.fractionBits * (steps + 1) := by
    rw [word, add_sub_cancel_left, Int.toNat_natCast, Nat.shiftLeft_eq]
    change _ + (2 ^ format.fractionBits + fraction) = _
    ring
  rw [written, BinaryFormat.parts, Nat.one_shiftLeft, Nat.shiftRight_eq_div_pow,
    Nat.add_mul_div_left _ _ whole, Nat.add_mul_mod_self_left, Nat.div_eq_of_lt under,
    Nat.mod_eq_of_lt under, Nat.zero_add]
  change (if steps + 1 = 0 then _ else (_, _)) = _
  rw [if_neg steps.succ_ne_zero]
  congr 1
  omega

/-- A number is shifted to any length above its own. -/
theorem exists_full_length {number bits : Nat} (positive : number ≠ 0)
    (short : number.log2 ≤ bits) :
    ∃ shift ≤ bits, Nat.pow 2 bits ≤ number * 2 ^ shift ∧
      number * 2 ^ shift < 2 * Nat.pow 2 bits := by
  obtain ⟨shift, rfl⟩ := Nat.exists_eq_add_of_le short
  have upper : number < 2 * 2 ^ number.log2 := by
    rw [← Nat.pow_succ']
    exact Nat.lt_log2_self
  refine ⟨shift, Nat.le_add_left _ _, ?_, ?_⟩
  · change 2 ^ (number.log2 + shift) ≤ _
    rw [Nat.pow_add]
    exact Nat.mul_le_mul_right _ (Nat.log2_self_le positive)
  · change _ < 2 * 2 ^ (number.log2 + shift)
    rw [Nat.pow_add, ← Nat.mul_assoc]
    exact Nat.mul_lt_mul_of_pos_right upper (Nat.two_pow_pos _)

theorem log2_eq_of_bounds {number bits : Nat} (long : Nat.pow 2 bits ≤ number)
    (short : number < 2 * Nat.pow 2 bits) : number.log2 = bits := by
  have positive : number ≠ 0 := (Nat.lt_of_lt_of_le (Nat.two_pow_pos bits) long).ne'
  rw [Nat.log2_eq_iff positive]
  exact ⟨long, by rwa [Nat.pow_succ']⟩

/-- Of all words, the one nearest to what a finite word is worth is that word. -/
theorem nearest_of_worth (finite : magnitude < format.infinity) (proper : denominator ≠ 0)
    (value : (numerator : ℚ) / denominator = worth (format.parts magnitude)) :
    format.nearest numerator denominator = magnitude := by
  obtain ⟨⟨significand, exponent⟩, parts⟩ : ∃ form, format.parts magnitude = form := ⟨_, rfl⟩
  obtain ⟨canonical, written⟩ := word_of_parts parts
  have nonzero : (denominator : ℚ) ≠ 0 := Nat.cast_ne_zero.2 proper
  have scale : (2 : ℚ) ^ exponent ≠ 0 := zpow_ne_zero _ two_ne_zero
  rw [parts] at value
  by_cases zero : significand = 0
  case pos =>
    subst zero
    have least : exponent = format.leastExponent :=
      canonical.long.resolve_right (Nat.not_le.2 (Nat.two_pow_pos _))
    rw [worth, Nat.cast_zero, zero_mul, div_eq_zero_iff] at value
    have nothing : numerator = 0 := Nat.cast_eq_zero.1 (value.resolve_right nonzero)
    rw [word, least, Int.sub_self, Int.toNat_zero, Nat.zero_shiftLeft] at written
    rw [nearest, if_pos nothing]
    exact written
  case neg =>
    have top := ratioExponent_of_worth proper zero value
    have shifted := shifted_eq_of_worth proper value
    have something : numerator ≠ 0 := by
      rintro rfl
      rw [Nat.cast_zero, zero_div, worth] at value
      exact mul_ne_zero (Nat.cast_ne_zero.2 zero) scale value.symm
    have chosen : max format.leastExponent
        (ratioExponent numerator denominator - format.fractionBits) = exponent := by
      have bounded := (Nat.log2_lt zero).2 (canonical.short.trans_eq (Nat.pow_succ' ..).symm)
      have least := canonical.least
      rw [top]
      rcases canonical.long with here | long
      · omega
      · have full := log2_eq_of_bounds long canonical.short
        omega
    have divisor : 0 < denominator <<< exponent.toNat := by
      rw [Nat.shiftLeft_eq]
      exact Nat.mul_pos (Nat.pos_of_ne_zero proper) (Nat.two_pow_pos _)
    rw [nearest, if_neg something]
    simp only [chosen, shifted, roundedQuotient_mul divisor]
    change min (format.word significand exponent) _ = _
    rw [written]
    exact Nat.min_eq_left finite.le

section Conversion

theorem infinity_lt_signWeight (format : BinaryFormat) : format.infinity < format.signWeight := by
  rw [infinity, signWeight, Nat.one_shiftLeft, Nat.one_shiftLeft, Nat.shiftLeft_eq, Nat.pow_add]
  refine Nat.mul_lt_mul_of_pos_right ?_ (Nat.two_pow_pos _)
  exact Nat.sub_lt (Nat.two_pow_pos _) Nat.one_pos

/-- A word is its sign with its magnitude. -/
theorem withSign_of_lt {word : Nat} (small : word < 2 * format.signWeight) :
    format.withSign (format.signWeight ≤ word) (word % format.signWeight) = word := by
  have split := Nat.mod_add_div word format.signWeight
  by_cases negative : format.signWeight ≤ word
  · have rest : word % format.signWeight = word - format.signWeight := by
      rw [Nat.mod_eq_sub_mod negative, Nat.mod_eq_of_lt (by omega)]
    simp only [withSign, negative, decide_true, if_true]
    omega
  · simp [withSign, negative, Nat.mod_eq_of_lt (Nat.lt_of_not_le negative)]

/-- The sign is carried along and has no part in the magnitude. -/
theorem convert_withSign (small : magnitude < source.signWeight) (negative : Bool) :
    source.convert target (source.withSign negative magnitude) =
      target.withSign negative (source.convert target magnitude) := by
  have above : ¬source.signWeight ≤ magnitude := Nat.not_le.2 small
  cases negative <;> simp [convert, withSign, above, Nat.mod_eq_of_lt small]

/-- A finite magnitude becomes the one of the same worth, if there is one. -/
theorem convert_of_worth {result : Nat} (finite : magnitude < source.infinity)
    (fits : result < target.infinity)
    (value : worth (source.parts magnitude) = worth (target.parts result)) :
    source.convert target magnitude = result := by
  have small : magnitude < source.signWeight := finite.trans (infinity_lt_signWeight source)
  obtain ⟨⟨significand, exponent⟩, parts⟩ : ∃ form, source.parts magnitude = form := ⟨_, rfl⟩
  have proper : 1 <<< (-exponent).toNat ≠ 0 := by
    rw [Nat.one_shiftLeft]
    exact (Nat.two_pow_pos _).ne'
  have ratio : ((significand <<< exponent.toNat : Nat) : ℚ) / (1 <<< (-exponent).toNat : Nat) =
      worth (target.parts result) := by
    rw [← value, parts, worth, two_zpow_eq_div, Nat.one_shiftLeft, Nat.shiftLeft_eq]
    push_cast
    exact mul_div_assoc ..
  rw [convert, Nat.mod_eq_of_lt small, decide_eq_false (Nat.not_le.2 small), if_pos finite, parts]
  exact nearest_of_worth fits proper ratio

theorem convert_infinity : source.convert target source.infinity = target.infinity := by
  have small := infinity_lt_signWeight source
  rw [convert, Nat.mod_eq_of_lt small, decide_eq_false (Nat.not_le.2 small),
    if_neg (Nat.lt_irrefl _), if_pos rfl]
  rfl

/-- The significand of a finite single is brought to full length, and the exponent is lowered
by as much. -/
theorem exists_double_of_single (finite : magnitude < single.infinity) :
    ∃ result < double.infinity, worth (single.parts magnitude) = worth (double.parts result) := by
  have widest : single.infinity = 255 * 2 ^ 23 := rfl
  have leastSingle : single.leastExponent = -149 := rfl
  have leastDouble : double.leastExponent = -1074 := rfl
  obtain ⟨⟨significand, exponent⟩, parts⟩ : ∃ form, single.parts magnitude = form := ⟨_, rfl⟩
  obtain ⟨canonical, written⟩ := word_of_parts parts
  have least : -149 ≤ exponent := canonical.least
  have short : significand < 2 ^ 24 := canonical.short
  rw [parts]
  by_cases zero : significand = 0
  case pos =>
    subst zero
    have nothing : double.parts 0 = (0, -1074) := rfl
    refine ⟨0, by decide, ?_⟩
    rw [nothing, worth, worth, Nat.cast_zero, zero_mul, zero_mul]
  case neg =>
    have bounded : significand.log2 < 24 := (Nat.log2_lt zero).2 short
    obtain ⟨shift, fits, long, fitting⟩ :=
      exists_full_length zero (show significand.log2 ≤ 52 by omega)
    have most : exponent ≤ 104 := by
      rw [word, leastSingle, Nat.shiftLeft_eq] at written
      change _ * 2 ^ 23 + _ = _ at written
      rcases canonical.long with here | normal
      · omega
      · change 2 ^ 23 ≤ significand at normal
        omega
    have read : double.parts (double.word (significand * 2 ^ shift) (exponent - shift)) =
        (significand * 2 ^ shift, exponent - shift) :=
      parts_of_word (by omega) long fitting
    refine ⟨double.word (significand * 2 ^ shift) (exponent - shift), ?_, ?_⟩
    · rw [word, leastDouble, Nat.shiftLeft_eq]
      change _ * 2 ^ 52 + _ < 2047 * 2 ^ 52
      change _ < 2 * 2 ^ 52 at fitting
      omega
    · rw [read, worth, worth, zpow_sub₀ two_ne_zero, zpow_natCast]
      push_cast
      field_simp

/-- A single that is no NaN has the same magnitude after it was widened and narrowed. -/
theorem convert_convert (number : magnitude ≤ single.infinity) :
    single.convert double magnitude ≤ double.infinity ∧
      double.convert single (single.convert double magnitude) = magnitude := by
  rcases Nat.lt_or_eq_of_le number with finite | rfl
  · obtain ⟨result, fits, value⟩ := exists_double_of_single finite
    rw [convert_of_worth finite fits value]
    exact ⟨fits.le, convert_of_worth fits finite value.symm⟩
  · rw [convert_infinity]
    exact ⟨le_rfl, convert_infinity⟩

end Conversion

end BinaryFormat

/-- Whether the exponent is full and the fraction is not empty. -/
def Single.isNaN (number : Single) : Bool :=
  BinaryFormat.single.infinity < number.bits.toNat % BinaryFormat.single.signWeight

open BinaryFormat in
theorem Double.toSingle_ofSingle {number : Single} (proper : number.isNaN = false) :
    (ofSingle number).toSingle = number := by
  have wide : double.infinity < 2 ^ 63 := infinity_lt_signWeight double
  have weight : double.signWeight = 2 ^ 63 := rfl
  have whole : number.bits.toNat < 2 * single.signWeight := number.bits.toNat_lt
  have word := withSign_of_lt whole
  set negative := decide (single.signWeight ≤ number.bits.toNat)
  set magnitude := number.bits.toNat % single.signWeight
  have below : magnitude < single.signWeight := Nat.mod_lt _ (by decide)
  have bounded : magnitude ≤ single.infinity := Nat.not_lt.1 (of_decide_eq_false proper)
  obtain ⟨fits, back⟩ := convert_convert bounded
  have under : single.convert double magnitude < double.signWeight := by omega
  have widened : single.convert double number.bits.toNat =
      double.withSign negative (single.convert double magnitude) := by
    rw [← convert_withSign below, word]
  have stored : (UInt64.ofNat (single.convert double number.bits.toNat)).toNat =
      single.convert double number.bits.toNat := by
    rw [UInt64.toNat_ofNat']
    refine Nat.mod_eq_of_lt ?_
    rw [widened, withSign]
    split <;> omega
  rw [toSingle, ofSingle, ofWord, stored, widened, convert_withSign under, back, word,
    UInt32.ofNat_toNat]

end BoltClient
