import SelectionSql.Auth.Base64Url
import SelectionSql.Proofs.Text.Letters
import SelectionSql.Text.Basic

/-!
# Base64 for URLs is canonical

* `Base64Url.decode?_eq_some_iff`: a text is read as the bytes that are written so, and no other
  text is read.
* `Base64Url.solid_encode`: no point and no blank is written.
-/
set_option autoImplicit false

namespace SelectionSql
namespace Base64Url

theorem value?_eq_some {c : Char} {n : Nat} (h : value? c = some n) : n < 64 ∧ digit n = c := by
  unfold value? at h
  simp only [le_iff_toNat_le] at h
  split at h
  · next hc =>
    obtain ⟨hlow, hhigh⟩ : 65 ≤ c.toNat ∧ c.toNat ≤ 90 := hc
    cases h
    refine ⟨by omega, ?_⟩
    rw [digit, if_pos (by omega), Nat.add_sub_cancel' hlow, Char.ofNat_toNat]
  split at h
  · next hc =>
    obtain ⟨hlow, hhigh⟩ : 97 ≤ c.toNat ∧ c.toNat ≤ 122 := hc
    cases h
    refine ⟨by omega, ?_⟩
    rw [digit, if_neg (by omega), if_pos (by omega), Nat.add_sub_cancel' (by omega),
      Char.ofNat_toNat]
  split at h
  · next hc =>
    obtain ⟨hlow, hhigh⟩ : 48 ≤ c.toNat ∧ c.toNat ≤ 57 := hc
    cases h
    refine ⟨by omega, ?_⟩
    rw [digit, if_neg (by omega), if_neg (by omega), if_pos (by omega), Nat.add_sub_cancel,
      Char.ofNat_toNat]
  split at h
  · next hc =>
    cases h
    exact ⟨by omega, hc.symm⟩
  split at h
  · next hc =>
    cases h
    exact ⟨by omega, hc.symm⟩
  · cases h

theorem toNat_byte {n : Nat} (h : n < 256) : (UInt8.ofNat n).toNat = n :=
  UInt8.toNat_ofNat_of_lt' h

/-- A text that is read is what is written for the bytes it is read as. -/
theorem encode_of_decode? {cs : List Char} {bytes : List UInt8} (h : decode? cs = some bytes) :
    encode bytes = cs := by
  induction cs using decode?.induct generalizing bytes with
  | case1 =>
    cases h
    rfl
  | case2 => cases h
  | case3 p q =>
    simp only [decode?, Option.bind_eq_bind, Option.bind_eq_some_iff] at h
    obtain ⟨a, ha, b, hb, h⟩ := h
    obtain ⟨ha, rfl⟩ := value?_eq_some ha
    obtain ⟨hb, rfl⟩ := value?_eq_some hb
    split at h
    · next hrest =>
      cases h
      rw [encode, toNat_byte (by omega)]
      have hfirst : (a * 4 + b / 16) / 4 = a := by omega
      have hsecond : (a * 4 + b / 16) % 4 * 16 = b := by omega
      rw [hfirst, hsecond]
    · cases h
  | case4 p q r =>
    simp only [decode?, Option.bind_eq_bind, Option.bind_eq_some_iff] at h
    obtain ⟨a, ha, b, hb, c, hc, h⟩ := h
    obtain ⟨ha, rfl⟩ := value?_eq_some ha
    obtain ⟨hb, rfl⟩ := value?_eq_some hb
    obtain ⟨hc, rfl⟩ := value?_eq_some hc
    split at h
    · next hrest =>
      cases h
      rw [encode, toNat_byte (by omega), toNat_byte (by omega)]
      have hfirst : (a * 4 + b / 16) / 4 = a := by omega
      have hsecond : (a * 4 + b / 16) % 4 * 16 + (b % 16 * 16 + c / 4) / 16 = b := by omega
      have hthird : (b % 16 * 16 + c / 4) % 16 * 4 = c := by omega
      rw [hfirst, hsecond, hthird]
    · cases h
  | case5 p q r s rest ih =>
    simp only [decode?, Option.bind_eq_bind, Option.bind_eq_some_iff] at h
    obtain ⟨a, ha, b, hb, c, hc, d, hd, others, hothers, h⟩ := h
    obtain ⟨ha, rfl⟩ := value?_eq_some ha
    obtain ⟨hb, rfl⟩ := value?_eq_some hb
    obtain ⟨hc, rfl⟩ := value?_eq_some hc
    obtain ⟨hd, rfl⟩ := value?_eq_some hd
    cases h
    rw [encode, toNat_byte (by omega), toNat_byte (by omega), toNat_byte (by omega), ih hothers]
    have hfirst : (a * 4 + b / 16) / 4 = a := by omega
    have hsecond : (a * 4 + b / 16) % 4 * 16 + (b % 16 * 16 + c / 4) / 16 = b := by omega
    have hthird : (b % 16 * 16 + c / 4) % 16 * 4 + (c % 4 * 64 + d) / 64 = c := by omega
    have hfourth : (c % 4 * 64 + d) % 64 = d := by omega
    rw [hfirst, hsecond, hthird, hfourth]

theorem decode?_eq_some_iff {cs : List Char} {bytes : List UInt8} :
    decode? cs = some bytes ↔ encode bytes = cs :=
  ⟨encode_of_decode?, fun h => h ▸ decode?_encode bytes⟩

/-! ## Characters -/

theorem solid_digit : ∀ n < 64, digit n ≠ '.' ∧ isBlank (digit n) = false := by decide

theorem solid_encode (bytes : List UInt8) : ∀ c ∈ encode bytes, c ≠ '.' ∧ isBlank c = false := by
  have hdigit := solid_digit
  fun_induction encode bytes with
  | case1 => simp
  | case2 a =>
    have ha := a.toNat_lt
    simp only [List.forall_mem_cons, List.not_mem_nil, false_imp_iff, implies_true, and_true]
    exact ⟨hdigit _ (by omega), hdigit _ (by omega)⟩
  | case3 a b =>
    have ha := a.toNat_lt
    have hb := b.toNat_lt
    simp only [List.forall_mem_cons, List.not_mem_nil, false_imp_iff, implies_true, and_true]
    exact ⟨hdigit _ (by omega), hdigit _ (by omega), hdigit _ (by omega)⟩
  | case4 a b c rest ih =>
    have ha := a.toNat_lt
    have hb := b.toNat_lt
    have hc := c.toNat_lt
    simp only [List.forall_mem_cons]
    exact ⟨hdigit _ (by omega), hdigit _ (by omega), hdigit _ (by omega), hdigit _ (by omega), ih⟩

end Base64Url
end SelectionSql
