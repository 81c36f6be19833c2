import WifiDisplay.RtspFields
import Mathlib.Data.List.Flatten

/-! The body of a printed message: its lines, cut out by the length field. -/

namespace WifiDisplay

open TextSplit

theorem length_ended_split {α : Type*} [DecidableEq α] (d : List α) (n : Nat) (s : List α) :
    (ended d (splitFrom d n s)).length ≤ s.length + d.length := by
  induction n generalizing s with
  | zero => simp [splitFrom]
  | succ n ih =>
    simp only [splitFrom]
    split
    · simp
    · rename_i p r hb
      have hlen := congrArg List.length (breakOn_eq_some hb)
      simp only [List.length_append] at hlen
      split
      · simp
        omega
      · have hr := ih r
        simp only [ended_cons, List.length_append]
        omega

theorem length_ended_filter {α : Type*} (d : List α) (P : List α → Bool) (pieces : List (List α)) :
    (ended d (pieces.filter P)).length ≤ (ended d pieces).length :=
  (List.filter_sublist.flatMap (· ++ d)).length_le

/-- The body text has a length that the parser reads as it is or as a negative
number, which counts as the whole text. -/
def LengthKept (n : Nat) : Prop := int32 n = n ∨ int32 n < 0

instance (n : Nat) : Decidable (LengthKept n) := inferInstanceAs (Decidable (_ ∨ _))

theorem lengthKept_of_lt {n : Nat} (h : n < 2 ^ 31) : LengthKept n :=
  Or.inl (int32_of_bounds (by omega) (by omega))

theorem int32_le (n : Nat) : int32 n ≤ n := by
  rw [int32, BitVec.toInt_ofInt]
  simp only [Int.bmod]
  split <;> omega

theorem int32_lost {n : Nat} (h : ¬ LengthKept n) : int32 n + 2 ^ 32 ≤ n ∧ 0 ≤ int32 n := by
  simp only [LengthKept, not_or, int32, BitVec.toInt_ofInt, Int.bmod] at h ⊢
  split at h <;> omega

namespace RtspCommon

theorem split_bodyLines {body : List Text} (hne : body ≠ []) (hlines : ∀ l ∈ body, LineText l) :
    split (bodyLines body) rtspCrlf = body :=
  split_ended hne fun l hl => (hlines l hl).1

theorem split_endOfHeader_bodyLines {body : List Text} (hne : body ≠ [])
    (hlines : ∀ l ∈ body, LineText l ∧ l ≠ []) :
    TextSplit.split endOfHeader (bodyLines body) = [bodyLines body] := by
  apply split_of_none
  apply breakOn_eq_none_of_append (t := rtspCrlf) (p := join rtspCrlf body) (by decide)
  have hheaded := headed_join hne hlines
  rw [Headed, endOfHeader, ← List.append_assoc, join_append_delimiter hne] at hheaded
  exact hheaded

/-- With a length that wraps around some of the body is missing. -/
theorem cut_ne_body {body : List Text} (h : ¬ LengthKept (bodyLines body).length) :
    (split ((bodyLines body).take (int32 (bodyLines body).length).toNat) rtspCrlf).filter (· ≠ []) ≠
      body := by
  intro heq
  obtain ⟨hlost, hpos⟩ := int32_lost h
  have hsplit := length_ended_split rtspCrlf
    ((bodyLines body).take (int32 (bodyLines body).length).toNat).length
    ((bodyLines body).take (int32 (bodyLines body).length).toNat)
  have hfilter := length_ended_filter rtspCrlf (· ≠ [])
    (split ((bodyLines body).take (int32 (bodyLines body).length).toNat) rtspCrlf)
  rw [heq] at hfilter
  have hcut : (ended rtspCrlf body).length ≤
      ((bodyLines body).take (int32 (bodyLines body).length).toNat).length + rtspCrlf.length :=
    Nat.le_trans hfilter hsplit
  have hcrlf : rtspCrlf.length = 2 := rfl
  have hbody : (ended rtspCrlf body).length = (bodyLines body).length := rfl
  rw [List.length_take, hcrlf, hbody] at hcut
  omega

theorem parseBody_bodyLines {body : List Text} (hne : body ≠ [])
    (hlines : ∀ l ∈ body, LineText l ∧ l ≠ []) (hmax : (bodyLines body).length < 2 ^ 63)
    {header : Tokens} {contentType : Text}
    (htype : Tokens.find? header rtspTokenContentType = some contentType)
    (hkind : "text/".toList.isPrefixOf contentType ∨ contentType = "application/sdp".toList)
    (hlength : Tokens.find? header rtspTokenContentLength =
      some (decimal (bodyLines body).length)) :
    (parseBody [bodyLines body] header []).1 = {} ∧
      ((parseBody [bodyLines body] header []).2 = body ↔ LengthKept (bodyLines body).length) := by
  have hdecimal : decimal (bodyLines body).length = Nat.toDigits 10 (bodyLines body).length := by
    rw [decimal, if_neg (by omega), Int.natAbs_natCast]
  have hatoi : atoi (decimal (bodyLines body).length) = int32 (bodyLines body).length := by
    rw [hdecimal, atoi_toDigits, min_eq_left (by omega)]
  have hfields : hasBodyFields header := by simp [hasBodyFields, htype, hlength]
  have hsupported : ¬ (¬ "text/".toList.isPrefixOf contentType ∧
      contentType ≠ "application/sdp".toList) := by
    rintro ⟨hno, hno'⟩
    rcases hkind with hk | hk
    · exact hno hk
    · exact hno' hk
  have hle := int32_le (bodyLines body).length
  have hcomplete : ¬ int32 (bodyLines body).length > (bodyLines body).length := by omega
  have hfilter : body.filter (· ≠ []) = body := by
    rw [List.filter_eq_self]
    intro l hl
    simpa using (hlines l hl).2
  have hpositive : 0 < (bodyLines body).length := by
    rw [List.length_pos_iff]
    intro h0
    exact hne ((ended_eq_nil crlf_ne_nil).mp h0)
  simp only [parseBody, htype, hlength, Option.getD_some, hatoi, List.length_singleton, hfields,
    and_self, if_true, List.headD_cons]
  by_cases hzero : int32 (bodyLines body).length = 0
  · rw [if_pos hzero]
    refine ⟨rfl, ?_⟩
    constructor
    · intro h
      exact absurd h.symm hne
    · rintro (h | h) <;> omega
  rw [if_neg hzero, if_neg hcomplete, if_neg hsupported]
  refine ⟨rfl, ?_⟩
  rw [List.nil_append]
  by_cases hkept : LengthKept (bodyLines body).length
  · have hwhole : bodyText (bodyLines body) (int32 (bodyLines body).length) = bodyLines body := by
      rw [bodyText]
      rcases hkept with h | h
      · rw [if_neg (by omega), h, Int.toNat_natCast, List.take_length]
      · rw [if_pos h]
    rw [hwhole, split_bodyLines hne fun l hl => (hlines l hl).1, hfilter]
    exact ⟨fun _ => hkept, fun _ => rfl⟩
  · have hcut : bodyText (bodyLines body) (int32 (bodyLines body).length) =
        (bodyLines body).take (int32 (bodyLines body).length).toNat := by
      rw [bodyText, if_neg (Int.not_lt.mpr (int32_lost hkept).2)]
    rw [hcut]
    exact ⟨fun h => absurd h (cut_ne_body hkept), fun h => absurd h hkept⟩

end RtspCommon

end WifiDisplay
