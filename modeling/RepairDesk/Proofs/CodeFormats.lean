import Mathlib
import RepairDesk.Proofs.Trimming
import RepairDesk.Coupon.Catalogue
import RepairDesk.Payment.Catalogue

namespace RepairDesk

namespace Text

def IsCodeChar (c : Char) : Prop :=
  ('A' ≤ c ∧ c ≤ 'Z') ∨ ('0' ≤ c ∧ c ≤ '9')

def IsAsciiDigit (c : Char) : Prop :=
  '0' ≤ c ∧ c ≤ '9'

/-- `cs` is `lo` to `hi` characters of the class `p`: the pattern `[p]{lo,hi}`. -/
def RunOf (p : Char → Prop) (lo hi : Nat) (cs : List Char) : Prop :=
  lo ≤ cs.length ∧ cs.length ≤ hi ∧ ∀ c ∈ cs, p c

instance : DecidablePred IsCodeChar := fun _ => inferInstanceAs (Decidable (_ ∨ _))

instance : DecidablePred IsAsciiDigit := fun _ => inferInstanceAs (Decidable (_ ∧ _))

instance {p : Char → Prop} [DecidablePred p] {lo hi : Nat} : DecidablePred (RunOf p lo hi) :=
  fun _ => inferInstanceAs (Decidable (_ ∧ _ ∧ _))

theorem isCodeChar_iff (c : Char) : (c.isUpper || c.isDigit) = true ↔ IsCodeChar c := by
  simp [IsCodeChar, Char.isUpper, Char.isDigit, Char.le_def]

theorem isAsciiDigit_iff (c : Char) : c.isDigit = true ↔ IsAsciiDigit c := by
  simp [IsAsciiDigit, Char.isDigit, Char.le_def]

theorem isCodeChar_iff_toNat {c : Char} :
    IsCodeChar c ↔
      (65 ≤ c.toNat ∧ c.toNat ≤ 90) ∨ (48 ≤ c.toNat ∧ c.toNat ≤ 57) := by
  simp [IsCodeChar, Char.le_def, UInt32.le_iff_toNat_le]

theorem IsCodeChar.toNat_lt {c : Char} (h : IsCodeChar c) : c.toNat < 128 := by
  have hrange := isCodeChar_iff_toNat.1 h
  omega

theorem IsCodeChar.isBlank_eq_false {c : Char} (h : IsCodeChar c) : isBlank c = false := by
  have hrange := isCodeChar_iff_toNat.1 h
  exact isBlank_eq_false_of_graphicAscii c (by omega) (by omega)

theorem IsAsciiDigit.isCodeChar {c : Char} (h : IsAsciiDigit c) : IsCodeChar c :=
  Or.inr h

/-! ### Bytes and characters -/

theorem utf8ByteSize_ofList_of_ascii {cs : List Char} (h : ∀ c ∈ cs, c.toNat < 128) :
    (String.ofList cs).utf8ByteSize = cs.length := by
  induction cs with
  | nil => simp
  | cons c cs ih =>
    have hc : c.utf8Size = 1 := by
      rw [Char.utf8Size_eq_one_iff, UInt32.le_iff_toNat_le]
      exact Nat.le_of_lt_succ (h c (by simp))
    have hcs := ih fun d hd => h d (by simp [hd])
    rw [← List.singleton_append, String.ofList_append, String.utf8ByteSize_append, hcs]
    show (String.singleton c).utf8ByteSize + cs.length = cs.length + 1
    rw [String.utf8ByteSize_singleton, hc, Nat.add_comm]

theorem utf8ByteSize_eq_length_of_ascii {s : String} (h : ∀ c ∈ s.toList, c.toNat < 128) :
    s.utf8ByteSize = s.length := by
  have hsize := utf8ByteSize_ofList_of_ascii h
  rwa [String.ofList_toList, String.length_toList] at hsize

theorem runOf_iff_utf8ByteSize {p : Char → Prop} (hp : ∀ c, p c → c.toNat < 128)
    {lo hi : Nat} {s : String} :
    RunOf p lo hi s.toList ↔
      lo ≤ s.utf8ByteSize ∧ s.utf8ByteSize ≤ hi ∧ ∀ c ∈ s.toList, p c := by
  by_cases hall : ∀ c ∈ s.toList, p c
  · have hsize : s.utf8ByteSize = s.toList.length := by
      rw [String.length_toList]
      exact utf8ByteSize_eq_length_of_ascii fun c hc => hp c (hall c hc)
    simp only [RunOf, hsize]
  · simp only [RunOf, hall, and_false]

theorem runOf_trimBlankList_iff {p : Char → Prop} (hp : ∀ c, p c → isBlank c = false)
    {lo hi : Nat} {cs : List Char} :
    RunOf p lo hi (trimBlankList cs) ↔ ∃ core, Padded core cs ∧ RunOf p lo hi core := by
  constructor
  · intro hrun
    exact ⟨trimBlankList cs, padded_trimBlankList cs, hrun⟩
  · rintro ⟨core, hpad, hrun⟩
    have hcore : Unpadded core := unpadded_of_forall fun c hc => hp c (hrun.2.2 c hc)
    rw [trimBlankList_of_padded hpad hcore]
    exact hrun

end Text

/-! ### Coupon codes -/

theorem isCouponCode_eq_true_iff {code : String} :
    isCouponCode code = true ↔ Text.RunOf Text.IsCodeChar 6 12 code.toList := by
  simp only [isCouponCode, Bool.and_eq_true, decide_eq_true_eq, List.all_eq_true,
    Text.isCodeChar_iff, Text.RunOf, String.length_toList, and_assoc]

/-! ### Account numbers -/

namespace PaymentKind

theorem isAccountNumber_eq_true_iff {kind : PaymentKind} {number : String} :
    kind.isAccountNumber number = true ↔
      Text.RunOf Text.IsAsciiDigit kind.accountDigits.1 kind.accountDigits.2
        (Text.trimBlank number).toList := by
  simp only [isAccountNumber, Bool.and_eq_true, decide_eq_true_eq, List.all_eq_true,
    Text.isAsciiDigit_iff, Text.RunOf, String.length_toList, and_assoc]

theorem isAccountNumber_eq_true_iff_utf8ByteSize {kind : PaymentKind} {number : String} :
    kind.isAccountNumber number = true ↔
      kind.accountDigits.1 ≤ (Text.trimBlank number).utf8ByteSize ∧
        (Text.trimBlank number).utf8ByteSize ≤ kind.accountDigits.2 ∧
        ∀ c ∈ (Text.trimBlank number).toList, Text.IsAsciiDigit c := by
  rw [isAccountNumber_eq_true_iff,
    Text.runOf_iff_utf8ByteSize fun _ hc => hc.isCodeChar.toNat_lt]

theorem isAccountNumber_eq_true_iff_padded {kind : PaymentKind} {number : String} :
    kind.isAccountNumber number = true ↔
      ∃ digits, Text.Padded digits number.toList ∧
        Text.RunOf Text.IsAsciiDigit kind.accountDigits.1 kind.accountDigits.2 digits := by
  rw [isAccountNumber_eq_true_iff, Text.trimBlank, String.toList_ofList,
    Text.runOf_trimBlankList_iff fun _ hc => hc.isCodeChar.isBlank_eq_false]

end PaymentKind

/-! ### The checks -/

/-- A coupon code is accepted exactly when it matches `[A-Z0-9]{6,12}`, and an account number
exactly when, trimmed, it matches `[0-9]{10,16}` for a bank account and `[0-9]{10,23}` for an
electronic wallet; each length is counted in characters or in bytes alike. -/
theorem code_checks_accept_exactly_their_patterns :
    (∀ s : String, isCouponCode s = true ↔ Text.RunOf Text.IsCodeChar 6 12 s.toList) ∧
    (∀ s : String, isCouponCode s = true ↔
      6 ≤ s.utf8ByteSize ∧ s.utf8ByteSize ≤ 12 ∧ ∀ c ∈ s.toList, Text.IsCodeChar c) ∧
    (∀ n : String, PaymentKind.bankTransfer.isAccountNumber n = true ↔
      Text.RunOf Text.IsAsciiDigit 10 16 (Text.trimBlank n).toList) ∧
    (∀ n : String, PaymentKind.bankTransfer.isAccountNumber n = true ↔
      10 ≤ (Text.trimBlank n).utf8ByteSize ∧ (Text.trimBlank n).utf8ByteSize ≤ 16 ∧
        ∀ c ∈ (Text.trimBlank n).toList, Text.IsAsciiDigit c) ∧
    (∀ n : String, PaymentKind.eWallet.isAccountNumber n = true ↔
      Text.RunOf Text.IsAsciiDigit 10 23 (Text.trimBlank n).toList) ∧
    (∀ n : String, PaymentKind.eWallet.isAccountNumber n = true ↔
      10 ≤ (Text.trimBlank n).utf8ByteSize ∧ (Text.trimBlank n).utf8ByteSize ≤ 23 ∧
        ∀ c ∈ (Text.trimBlank n).toList, Text.IsAsciiDigit c) := by
  refine ⟨fun _ => isCouponCode_eq_true_iff, fun _ => ?_,
    fun _ => PaymentKind.isAccountNumber_eq_true_iff,
    fun _ => PaymentKind.isAccountNumber_eq_true_iff_utf8ByteSize,
    fun _ => PaymentKind.isAccountNumber_eq_true_iff,
    fun _ => PaymentKind.isAccountNumber_eq_true_iff_utf8ByteSize⟩
  rw [isCouponCode_eq_true_iff]
  exact Text.runOf_iff_utf8ByteSize fun _ hc => Text.IsCodeChar.toNat_lt hc

end RepairDesk
