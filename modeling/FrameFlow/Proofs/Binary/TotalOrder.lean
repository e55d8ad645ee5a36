import FrameFlow.Binary.Single
import Mathlib.Order.Monotone.Basic

/-!
The total order of single-precision bit patterns, stated by their signs and by what they stand
for. The key of a pattern sorts in this order, because codes grow with their magnitudes.
-/

namespace FrameFlow

namespace Binary

/-- Magnitudes in ascending order: the finite ones by their amounts, then the infinite one, and
at the end what is not a number. -/
inductive Magnitude.Less : Magnitude → Magnitude → Prop where
  | finite {significand exponent otherSignificand otherExponent : Nat}
      (amounts : significand * 2 ^ exponent < otherSignificand * 2 ^ otherExponent) :
      Less (.finite significand exponent) (.finite otherSignificand otherExponent)
  | infinite (significand exponent : Nat) : Less (.finite significand exponent) .infinite
  | notANumber {magnitude : Magnitude} (number : magnitude ≠ .notANumber) :
      Less magnitude .notANumber

namespace Magnitude.Less

variable {magnitude other : Magnitude}

/-- Nothing comes after what is not a number. -/
theorem isNumber (less : magnitude.Less other) : magnitude ≠ .notANumber := by
  cases less with
  | finite => nofun
  | infinite => nofun
  | notANumber number => exact number

theorem asymm (less : magnitude.Less other) : ¬ other.Less magnitude := by
  intro greater
  cases less with
  | finite amounts =>
      cases greater with
      | finite reversed => omega
  | infinite => cases greater
  | notANumber => exact greater.isNumber rfl

end Magnitude.Less

namespace Format

variable (format : Format) {code other : Nat}

/-- What a finite code amounts to, in units of the format's least positive number. -/
def amount (code : Nat) : Nat :=
  if code < format.binade then code
  else (format.binade + code % format.binade) * 2 ^ (code / format.binade - 1)

theorem binade_pos : 0 < format.binade := Nat.two_pow_pos _

theorem amount_normal (exponent : Nat) {fraction : Nat} (inside : fraction < format.binade) :
    format.amount ((exponent + 1) * format.binade + fraction) =
      (format.binade + fraction) * 2 ^ exponent := by
  have normal : ¬ (exponent + 1) * format.binade + fraction < format.binade := by
    rw [Nat.succ_mul]
    omega
  have quotient : ((exponent + 1) * format.binade + fraction) / format.binade = exponent + 1 := by
    rw [Nat.add_comm, Nat.add_mul_div_right _ _ format.binade_pos, Nat.div_eq_of_lt inside,
      Nat.zero_add]
  have rest : ((exponent + 1) * format.binade + fraction) % format.binade = fraction := by
    rw [Nat.add_comm, Nat.add_mul_mod_self_right, Nat.mod_eq_of_lt inside]
  rw [amount, if_neg normal, quotient, rest, Nat.add_sub_cancel]

theorem exists_normal (normal : format.binade ≤ code) :
    ∃ exponent fraction, fraction < format.binade ∧
      code = (exponent + 1) * format.binade + fraction := by
  have positive : 1 ≤ code / format.binade := (Nat.one_le_div_iff format.binade_pos).mpr normal
  refine ⟨code / format.binade - 1, code % format.binade, Nat.mod_lt _ format.binade_pos, ?_⟩
  rw [Nat.sub_add_cancel positive, Nat.mul_comm, Nat.div_add_mod]

theorem amount_lt_succ (code : Nat) : format.amount code < format.amount (code + 1) := by
  by_cases small : code < format.binade
  · by_cases last : code + 1 < format.binade
    · rw [amount, amount, if_pos small, if_pos last]
      exact Nat.lt_succ_self code
    · have first : code + 1 = (0 + 1) * format.binade + 0 := by omega
      rw [first, format.amount_normal 0 format.binade_pos, amount, if_pos small]
      omega
  · obtain ⟨exponent, fraction, inside, rfl⟩ := format.exists_normal (Nat.le_of_not_lt small)
    by_cases last : fraction + 1 < format.binade
    · rw [Nat.add_assoc, format.amount_normal exponent inside, format.amount_normal exponent last]
      exact Nat.mul_lt_mul_of_pos_right (by omega) (Nat.two_pow_pos exponent)
    · -- The fraction is full, so the next code starts the next binade.
      have next : (exponent + 1) * format.binade + fraction + 1 =
          (exponent + 1 + 1) * format.binade + 0 := by
        rw [Nat.succ_mul (exponent + 1)]
        omega
      rw [next, format.amount_normal exponent inside,
        format.amount_normal (exponent + 1) format.binade_pos, Nat.pow_succ', ← Nat.mul_assoc]
      exact Nat.mul_lt_mul_of_pos_right (by omega) (Nat.two_pow_pos exponent)

theorem strictMono_amount : StrictMono format.amount :=
  strictMono_nat_of_lt_succ format.amount_lt_succ

theorem magnitude_of_lt_infinity (small : code < format.infinityCode) :
    ∃ significand exponent, format.magnitude code = .finite significand exponent ∧
      significand * 2 ^ exponent = format.amount code := by
  rw [magnitude, if_neg (by omega), if_neg (by omega), amount]
  split
  · exact ⟨code, 0, rfl, by rw [Nat.pow_zero, Nat.mul_one]⟩
  · exact ⟨_, _, rfl, rfl⟩

theorem magnitude_infinity : format.magnitude format.infinityCode = .infinite := by
  rw [magnitude, if_neg (Nat.lt_irrefl _), if_pos rfl]

theorem magnitude_of_infinity_lt (great : format.infinityCode < code) :
    format.magnitude code = .notANumber := by
  rw [magnitude, if_pos great]

/-- Codes grow with their magnitudes. Past the infinity no code stands for a number any more. -/
theorem magnitude_less (codes : code < other) :
    (format.magnitude code).Less (format.magnitude other) ∨
      format.magnitude code = .notANumber ∧ format.magnitude other = .notANumber := by
  rcases Nat.lt_trichotomy code format.infinityCode with small | rfl | great
  · obtain ⟨significand, exponent, finite, amounts⟩ := format.magnitude_of_lt_infinity small
    rw [finite]
    rcases Nat.lt_trichotomy other format.infinityCode with less | rfl | beyond
    · obtain ⟨_, _, also, others⟩ := format.magnitude_of_lt_infinity less
      rw [also]
      exact .inl (.finite (by rw [amounts, others]; exact format.strictMono_amount codes))
    · rw [magnitude_infinity]
      exact .inl (.infinite significand exponent)
    · rw [format.magnitude_of_infinity_lt beyond]
      exact .inl (.notANumber nofun)
  · rw [magnitude_infinity, format.magnitude_of_infinity_lt codes]
    exact .inl (.notANumber nofun)
  · exact .inr ⟨format.magnitude_of_infinity_lt great,
      format.magnitude_of_infinity_lt (Nat.lt_trans great codes)⟩

end Format

end Binary

namespace Single

variable {number other : Single}

/-- One pattern before another when signs are left out. Where neither is a number, what else
their bits hold decides. -/
inductive Smaller (number other : Single) : Prop where
  | magnitude (less : number.magnitude.Less other.magnitude)
  | payload (first : number.magnitude = .notANumber) (second : other.magnitude = .notANumber)
      (codes : number.code < other.code)

/-- One pattern before another in the total order: negative patterns, minus zero with them,
before positive ones, positive patterns ascending and negative ones descending. -/
inductive Below (number other : Single) : Prop where
  | signs (first : number.isNegative = true) (second : other.isNegative = false)
  | positive (first : number.isNegative = false) (second : other.isNegative = false)
      (smaller : number.Smaller other)
  | negative (first : number.isNegative = true) (second : other.isNegative = true)
      (smaller : other.Smaller number)

/-- The total order itself: one pattern is the other or before it. -/
def AtMost (number other : Single) : Prop := number = other ∨ number.Below other

theorem smaller_iff : number.Smaller other ↔ number.code < other.code := by
  constructor
  · rintro (less | ⟨-, -, codes⟩)
    · by_contra reversed
      rcases Nat.eq_or_lt_of_le (Nat.le_of_not_lt reversed) with same | greater
      · have equal : other.magnitude = number.magnitude := by rw [magnitude, same, magnitude]
        rw [equal] at less
        exact less.asymm less
      · rcases Binary.single.magnitude_less greater with back | ⟨-, notANumber⟩
        · exact less.asymm back
        · exact less.isNumber notANumber
    · exact codes
  · intro codes
    rcases Binary.single.magnitude_less codes with less | ⟨first, second⟩
    · exact .magnitude less
    · exact .payload first second codes

/-- The key of a pattern is its place in the total order. -/
theorem below_iff : number.Below other ↔ number.orderKey < other.orderKey := by
  constructor
  · rintro (⟨first, second⟩ | ⟨first, second, smaller⟩ | ⟨first, second, smaller⟩)
    · simp only [orderKey, first, second, if_true, Bool.false_eq_true, if_false]
      omega
    · have codes := smaller_iff.mp smaller
      simp only [orderKey, first, second, Bool.false_eq_true, if_false]
      omega
    · have codes := smaller_iff.mp smaller
      simp only [orderKey, first, second, if_true]
      omega
  · intro keys
    cases first : number.isNegative <;> cases second : other.isNegative <;>
      simp only [orderKey, first, second, if_true, Bool.false_eq_true, if_false] at keys
    · exact .positive first second (smaller_iff.mpr (by omega))
    · omega
    · exact .signs first second
    · exact .negative first second (smaller_iff.mpr (by omega))

instance : DecidableRel Below := fun _ _ => decidable_of_iff _ below_iff.symm

-- From what is not a number through infinity, one and zero to the same with the other sign.
example : ([0xffc00000, 0xff800000, 0xbf800000, 0x80000000, 0, 0x3f800000, 0x7f800000,
    0x7fc00000].map Single.mk).Pairwise Below := by
  decide

theorem orderKey_injective : Function.Injective orderKey := by
  intro number other keys
  have sign (number : Single) : number.isNegative = true ↔ 2 ^ 31 ≤ number.bits.toNat :=
    decide_eq_true_iff
  have code (number : Single) : number.code = number.bits.toNat % 2 ^ 31 := rfl
  have width (number : Single) : number.bits.toNat < 2 ^ 32 := number.bits.toNat_lt
  have bits : number.bits.toNat = other.bits.toNat := by
    grind [orderKey]
  cases number
  cases other
  congr 1
  exact UInt32.toNat_inj.mp bits

theorem atMost_iff : number.AtMost other ↔ number.orderKey ≤ other.orderKey := by
  rw [AtMost, below_iff, ← orderKey_injective.eq_iff]
  omega

end Single

end FrameFlow
