import Mathlib.Tactic

/-!
# The order of bytes

Strings are ordered by their characters. Their encodings have the same order as rows of bytes
(`bytes_lt_iff`): a byte that begins a longer encoding is greater than one that begins a shorter one, and
encodings of the same size are numbers in digits, the highest first (`Ascending.extend`).
-/

set_option autoImplicit false

namespace Intake.Text

/-- The bytes of a text in UTF-8. -/
def bytes (s : String) : List UInt8 :=
  s.toUTF8.data.toList

/-- The bytes of a string are those of its characters. -/
theorem bytes_eq_flatMap (s : String) : bytes s = s.toList.flatMap String.utf8EncodeChar := by
  rw [bytes, String.toUTF8, ← String.utf8Encode_toList, List.utf8Encode, List.data_toByteArray]

/-! ## Numbers as bytes -/

/-- Of two numbers below a bound, what is written for the smaller one comes first, whatever is written
after the two. -/
def Ascending (write : ℕ → List UInt8) (bound : ℕ) : Prop :=
  ∀ ⦃m n : ℕ⦄, m < n → n < bound → ∀ u v, write m ++ u < write n ++ v

/-- Lists of bytes are in order if their first bytes are. -/
theorem cons_ofNat_lt {a b : ℕ} (less : a < b) (fits : b < 256) (u v : List UInt8) :
    UInt8.ofNat a :: u < UInt8.ofNat b :: v := by
  refine List.cons_lt_cons_iff.mpr (Or.inl ?_)
  rwa [UInt8.lt_iff_toNat_lt, UInt8.toNat_ofNat_of_lt' (less.trans fits), UInt8.toNat_ofNat_of_lt' fits]

/-- One byte, from a least one on. -/
theorem ascending_ofNat {size least : ℕ} (fits : size + least ≤ 256) :
    Ascending (fun n => [UInt8.ofNat (n % size + least)]) size := by
  intro m n less below u v
  have first : m % size + least < n % size + least := by
    rw [Nat.mod_eq_of_lt below, Nat.mod_eq_of_lt (less.trans below)]
    exact Nat.add_lt_add_right less least
  have last : n % size < size := Nat.mod_lt n (Nat.zero_lt_of_lt below)
  exact cons_ofNat_lt first (by omega) u v

/-- One more byte, for the last six bits. -/
theorem Ascending.extend {write : ℕ → List UInt8} {bound : ℕ} (ascending : Ascending write bound) :
    Ascending (fun n => write (n / 64) ++ [UInt8.ofNat (n % 64 + 128)]) (bound * 64) := by
  intro m n less below u v
  have others : n / 64 < bound := Nat.div_lt_of_lt_mul (by omega)
  rw [List.append_assoc, List.append_assoc]
  rcases Nat.lt_or_ge (m / 64) (n / 64) with first | last
  · exact ascending first others _ _
  · have same : m / 64 = n / 64 := by omega
    rw [same]
    exact List.append_left_lt (cons_ofNat_lt (by omega) (by omega) u v)

/-! ## Characters as bytes -/

/-- **Encodings have the order of the characters**, whatever comes after them. -/
theorem utf8EncodeChar_append_lt {c d : Char} (less : c < d) (u v : List UInt8) :
    String.utf8EncodeChar c ++ u < String.utf8EncodeChar d ++ v := by
  have below : d.val.toNat < 0x110000 := by
    have valid := d.valid
    simp only [UInt32.isValidChar, Nat.isValidChar] at valid
    omega
  replace less : c.val.toNat < d.val.toNat := UInt32.lt_iff_toNat_lt.mp less
  have lead (size least : ℕ) (fits : size + least ≤ 256) := ascending_ofNat fits
  have two := (lead 32 192 (by decide)).extend less
  have three := (lead 16 224 (by decide)).extend.extend less
  have four := (lead 8 240 (by decide)).extend.extend.extend less
  simp only [Nat.div_div_eq_div_mul] at two three four
  unfold String.utf8EncodeChar
  dsimp only
  -- The second encoding is not the shorter one. If it is longer, it begins with a greater byte.
  split_ifs
  all_goals
    first
    | omega
    | exact cons_ofNat_lt (by omega) (by omega) _ _
    | exact two (by omega) u v
    | exact three (by omega) u v
    | exact four (by omega) u v

/-- Texts in the order of their characters are in the order of their bytes. -/
theorem flatMap_utf8EncodeChar_lt {cs ds : List Char} (less : cs < ds) :
    cs.flatMap String.utf8EncodeChar < ds.flatMap String.utf8EncodeChar := by
  induction cs generalizing ds with
  | nil =>
    cases ds with
    | nil => cases less
    | cons d ds =>
      have some : String.utf8EncodeChar d ++ ds.flatMap String.utf8EncodeChar ≠ [] := by simp
      obtain ⟨byte, others, encoded⟩ := List.exists_cons_of_ne_nil some
      rw [List.flatMap_nil, List.flatMap_cons, encoded]
      exact List.nil_lt_cons byte others
  | cons c cs ih =>
    cases ds with
    | nil => cases less
    | cons d ds =>
      rw [List.flatMap_cons, List.flatMap_cons]
      rcases List.cons_lt_cons_iff.mp less with first | ⟨rfl, later⟩
      · exact utf8EncodeChar_append_lt first _ _
      · exact List.append_left_lt (ih later)

/-- **Texts have the order of their bytes.** -/
theorem bytes_lt_iff {s t : String} : bytes s < bytes t ↔ s < t := by
  have rises {s t : String} (less : s < t) : bytes s < bytes t := by
    rw [bytes_eq_flatMap, bytes_eq_flatMap]
    exact flatMap_utf8EncodeChar_lt (String.lt_iff.mp less)
  refine ⟨fun less => ?_, rises⟩
  by_contra notBefore
  by_cases after : t < s
  · exact List.lt_asymm less (rises after)
  · rw [String.le_antisymm after notBefore] at less
    exact List.lt_irrefl _ less

end Intake.Text
