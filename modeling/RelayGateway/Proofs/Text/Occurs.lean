import Mathlib.Data.List.Infix
import RelayGateway.Text.Occurs

/-! # Phrases in texts put together

A phrase that occurs in two texts one after the other occurs in one of them, or it lies across the seam:
it begins with an end of the first text, and the rest of it is a beginning of the second. Where enough of
the two texts is fixed, the letters at the seam rule this out, whatever the rest of them is.
-/
namespace RelayGateway.Text

variable {phrase before after : List Char}

theorem occurs_iff_isInfix (phrase text : List Char) : occurs phrase text = true ↔ phrase <:+: text := by
  rw [occurs_iff]
  exact exists₂_congr fun _ _ => eq_comm

theorem mentions_of_isInfix {text text' : List Char} {phrase : String} (h : text <:+: text')
    (hmentions : mentions text phrase = true) : mentions text' phrase = true :=
  (occurs_iff_isInfix ..).2 (((occurs_iff_isInfix ..).1 hmentions).trans h)

theorem lower_append (s t : String) : lower (s ++ t) = lower s ++ lower t := by
  unfold lower
  rw [String.toList_append, List.map_append]

/-! ## Seams -/

/-- Whether a phrase may lie across the seam of two texts of which one ends, and the other begins, like
this: a part of the phrase agrees with the end, and the rest with the beginning. -/
def crosses (before after phrase : List Char) : Bool :=
  (List.range phrase.length).any fun n => n ≠ 0 &&
    ((phrase.take n).isSuffixOf before || before.isSuffixOf (phrase.take n)) &&
    ((phrase.drop n).isPrefixOf after || after.isPrefixOf (phrase.drop n))

/-- The two parts of a phrase across a seam agree with what the texts are known to end and begin with. -/
theorem crosses_of_parts {first second xs ys : List Char} (hfirst : first ≠ []) (hsecond : second ≠ [])
    (hbefore : first <:+ xs ++ before) (hafter : second <+: after ++ ys) :
    crosses before after (first ++ second) = true := by
  have hbound : first.length < (first ++ second).length := by
    rw [List.length_append]
    exact Nat.lt_add_of_pos_right (List.length_pos_of_ne_nil hsecond)
  unfold crosses
  refine List.any_eq_true.2 ⟨first.length, List.mem_range.2 hbound, ?_⟩
  rw [List.take_left, List.drop_left]
  simp only [Bool.and_eq_true, Bool.or_eq_true, decide_eq_true_eq, List.isSuffixOf_iff_suffix,
    List.isPrefixOf_iff_prefix]
  refine ⟨⟨fun hzero => hfirst (List.length_eq_zero_iff.1 hzero), ?_⟩, ?_⟩
  · exact List.suffix_or_suffix_of_suffix hbefore (List.suffix_append xs before)
  · exact List.prefix_or_prefix_of_prefix hafter (List.prefix_append after ys)

/-- A phrase that does not fit across the seam occurs in one of the texts. -/
theorem occurs_append (h : crosses before after phrase = false) (xs ys : List Char) :
    occurs phrase ((xs ++ before) ++ (after ++ ys)) =
      (occurs phrase (xs ++ before) || occurs phrase (after ++ ys)) := by
  rw [Bool.eq_iff_iff, Bool.or_eq_true]
  simp only [occurs_iff_isInfix]
  rw [List.infix_append_iff, ← or_assoc]
  refine or_iff_left_of_imp ?_
  rintro ⟨first, second, rfl, hbefore, hafter⟩
  by_cases hfirst : first = []
  · subst hfirst
    exact .inr hafter.isInfix
  by_cases hsecond : second = []
  · subst hsecond
    rw [List.append_nil]
    exact .inl hbefore.isInfix
  rw [crosses_of_parts hfirst hsecond hbefore hafter] at h
  cases h

/-- Whether no occurrence of the phrase can begin in the text, whatever follows it. -/
def inert (text phrase : List Char) : Bool := !occurs phrase text && !crosses text [] phrase

/-- What follows an inert text decides alone. -/
theorem occurs_append_of_inert {text : List Char} (h : inert text phrase = true) (ys : List Char) :
    occurs phrase (text ++ ys) = occurs phrase ys := by
  unfold inert at h
  simp only [Bool.and_eq_true, Bool.not_eq_true'] at h
  have happend := occurs_append h.2 [] ys
  rw [List.nil_append, List.nil_append, h.1, Bool.false_or] at happend
  exact happend

end RelayGateway.Text
