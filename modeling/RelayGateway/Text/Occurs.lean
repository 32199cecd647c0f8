/-! # Searching text

Whether a phrase occurs in a text, without regard to the case of letters. Phrases are written in
lower-case ASCII.
-/
namespace RelayGateway.Text

/-- The lower case of a letter as far as ASCII is concerned: beyond the capitals of ASCII only the
Kelvin sign has a lower case there. -/
def lowerChar (c : Char) : Char := if c = '\u212a' then 'k' else c.toLower

def lower (s : String) : List Char := s.toList.map lowerChar

def occurs (phrase : List Char) : List Char → Bool
  | [] => phrase.isEmpty
  | c :: cs => phrase.isPrefixOf (c :: cs) || occurs phrase cs

def mentions (text : List Char) (phrase : String) : Bool := occurs phrase.toList text

theorem occurs_iff (phrase text : List Char) :
    occurs phrase text = true ↔ ∃ before after, text = before ++ phrase ++ after := by
  induction text with
  | nil => cases phrase <;> simp [occurs]
  | cons c cs ih =>
    simp only [occurs, Bool.or_eq_true, List.isPrefixOf_iff_prefix, ih]
    constructor
    · rintro (⟨after, h⟩ | ⟨before, after, h⟩)
      · exact ⟨[], after, by simpa using h.symm⟩
      · exact ⟨c :: before, after, by simp [h]⟩
    · rintro ⟨before, after, h⟩
      cases before with
      | nil => exact .inl ⟨after, by simpa using h.symm⟩
      | cons b before =>
        simp only [List.cons_append, List.cons.injEq] at h
        exact .inr ⟨before, after, h.2⟩

end RelayGateway.Text
