import RelayGateway.Proofs.Text.Occurs

/-! # Lower case

The lower case of a text is not that of its characters one by one: some characters become several, and how
a sigma comes out depends on its neighbours. A search for a phrase of ASCII sees nothing of this. Beyond the
capitals of ASCII only the Kelvin sign and the dotted capital I have a lower case with ASCII in it, and the
i of the latter has a dot of its own after it, so no phrase goes on from there.
-/
namespace RelayGateway.Text

def isAscii (c : Char) : Bool := c.toNat < 128

/-- What the lower case of a character may be, whatever stands beside it. It is left open for characters
beyond ASCII, except for the two with ASCII in theirs. -/
inductive LowerCase : Char → List Char → Prop
  | ascii {c : Char} (plain : isAscii c = true) : LowerCase c [c.toLower]
  | kelvin : LowerCase '\u212a' ['k']
  | dotted : LowerCase '\u0130' ['i', '\u0307']
  | foreign {c x : Char} {image : List Char} (beyond : isAscii c = false) (other : c ≠ '\u212a')
      (image_beyond : ∀ y ∈ x :: image, isAscii y = false) : LowerCase c (x :: image)

inductive Lowered : List Char → List Char → Prop
  | nil : Lowered [] []
  | cons {c : Char} {image text lowered : List Char} (head : LowerCase c image)
      (tail : Lowered text lowered) : Lowered (c :: text) (image ++ lowered)

/-- A phrase of ASCII that does not end in an i. -/
def isPlainPhrase (phrase : List Char) : Bool :=
  phrase.all isAscii && phrase.getLast? != some 'i'

variable {c a : Char} {phrase text lowered : List Char}

theorem toLower_of_beyond (h : isAscii c = false) : c.toLower = c := by
  unfold Char.toLower
  refine dif_neg ?_
  rintro ⟨-, hz⟩
  have hle : c.toNat ≤ 90 := hz
  have hlt : ¬ c.toNat < 128 := of_decide_eq_false h
  omega

theorem lowerChar_of_ascii (h : isAscii c = true) : lowerChar c = c.toLower := by
  refine if_neg ?_
  rintro rfl
  cases h

theorem lowerChar_of_beyond (h : isAscii c = false) (hkelvin : c ≠ '\u212a') : lowerChar c = c :=
  (if_neg hkelvin).trans (toLower_of_beyond h)

theorem isAscii_toLower (h : isAscii c = true) : isAscii c.toLower = true := by
  unfold Char.toLower
  split
  · next hcapital =>
    have hle : c.val.toNat ≤ 90 := hcapital.2
    have hsum : (c.val + 32).toNat = c.val.toNat + 32 := by
      have h32 : (32 : UInt32).toNat = 32 := rfl
      rw [UInt32.toNat_add]
      exact Nat.mod_eq_of_lt (by omega)
    exact decide_eq_true (show (c.val + 32).toNat < 128 by omega)
  · exact h

theorem lowerChar_eq (c : Char) : lowerChar c = if c.toLower = '\u212a' then 'k' else c.toLower := by
  by_cases hc : isAscii c = true
  · rw [lowerChar_of_ascii hc, if_neg]
    intro hkelvin
    have hlower := isAscii_toLower hc
    rw [hkelvin] at hlower
    cases hlower
  · unfold lowerChar
    rw [toLower_of_beyond (Bool.eq_false_iff.2 hc)]

/-- The case of the letters of ASCII is lost. -/
theorem lower_congr {s t : String} (h : s.toLower = t.toLower) : lower s = lower t := by
  have hmap : s.toList.map Char.toLower = t.toList.map Char.toLower := by
    rw [← String.toList_map, ← String.toList_map]
    exact congrArg String.toList h
  have hlower : ∀ u : String, lower u =
      (u.toList.map Char.toLower).map fun c => if c = '\u212a' then 'k' else c := by
    intro u
    rw [List.map_map]
    exact List.map_congr_left fun c _ => lowerChar_eq c
  rw [hlower, hlower, hmap]

theorem LowerCase.exists_cons {image : List Char} (h : LowerCase c image) :
    ∃ x rest, image = x :: rest ∧ ∀ y ∈ rest, isAscii y = false := by
  cases h with
  | ascii plain => exact ⟨_, [], rfl, nofun⟩
  | kelvin => exact ⟨_, [], rfl, nofun⟩
  | dotted => exact ⟨_, ['\u0307'], rfl, fun y hy => List.mem_singleton.1 hy ▸ rfl⟩
  | foreign beyond other image_beyond =>
    exact ⟨_, _, rfl, fun y hy => image_beyond y (List.mem_cons_of_mem _ hy)⟩

/-! ## Phrases -/

theorem isPlainPhrase_tail (h : isPlainPhrase (a :: phrase) = true) : isPlainPhrase phrase = true := by
  unfold isPlainPhrase at h ⊢
  cases phrase with
  | nil => rfl
  | cons b rest =>
    simp only [List.all_cons, Bool.and_eq_true, List.getLast?_cons_cons] at h ⊢
    exact ⟨h.1.2, h.2⟩

theorem isAscii_of_isPlainPhrase (h : isPlainPhrase (a :: phrase) = true) : isAscii a = true := by
  unfold isPlainPhrase at h
  simp only [List.all_cons, Bool.and_eq_true] at h
  exact h.1.1

/-- A phrase does not begin where a character beyond ASCII stands. -/
theorem not_prefix_of_beyond (h : isPlainPhrase (a :: phrase) = true) (hc : isAscii c = false) :
    ¬ (a :: phrase) <+: c :: text := by
  intro hprefix
  obtain ⟨rfl, -⟩ := List.cons_prefix_cons.1 hprefix
  cases (isAscii_of_isPlainPhrase h).symm.trans hc

/-- What a text begins with is not changed for phrases by its lower case. -/
theorem prefix_lowered_iff (h : isPlainPhrase phrase = true) (low : Lowered text lowered) :
    phrase <+: lowered ↔ phrase <+: text.map lowerChar := by
  induction low generalizing phrase with
  | nil => rfl
  | cons head tail ih =>
    cases phrase with
    | nil => exact iff_of_true List.nil_prefix List.nil_prefix
    | cons a phrase =>
      have hrest := ih (isPlainPhrase_tail h)
      rw [List.map_cons]
      cases head with
      | ascii plain =>
        rw [lowerChar_of_ascii plain, List.singleton_append, List.cons_prefix_cons,
          List.cons_prefix_cons, hrest]
      | kelvin =>
        have hk : lowerChar '\u212a' = 'k' := rfl
        rw [hk, List.singleton_append, List.cons_prefix_cons, List.cons_prefix_cons, hrest]
      | dotted =>
        refine iff_of_false ?_ (not_prefix_of_beyond h rfl)
        intro hprefix
        obtain ⟨rfl, hnext⟩ := List.cons_prefix_cons.1 hprefix
        cases phrase with
        | nil => cases h
        | cons b phrase => exact not_prefix_of_beyond (isPlainPhrase_tail h) rfl hnext
      | foreign beyond other image_beyond =>
        rw [lowerChar_of_beyond beyond other]
        exact iff_of_false (not_prefix_of_beyond h (image_beyond _ List.mem_cons_self))
          (not_prefix_of_beyond h beyond)

/-- Nor does it begin further on in what such a character has become. -/
theorem infix_append_of_beyond {rest : List Char} (h : isPlainPhrase phrase = true)
    (beyond : ∀ y ∈ rest, isAscii y = false) : phrase <:+: rest ++ text ↔ phrase <:+: text := by
  cases phrase with
  | nil => exact iff_of_true List.nil_infix List.nil_infix
  | cons a phrase =>
    induction rest with
    | nil => rfl
    | cons y rest ih =>
      have hy := beyond y List.mem_cons_self
      rw [List.cons_append, List.infix_cons_iff, or_iff_right (not_prefix_of_beyond h hy)]
      exact ih fun z hz => beyond z (List.mem_cons_of_mem y hz)

theorem infix_lowered_iff (h : isPlainPhrase phrase = true) (low : Lowered text lowered) :
    phrase <:+: lowered ↔ phrase <:+: text.map lowerChar := by
  induction low with
  | nil => rfl
  | @cons c image text lowered head tail ih =>
    have hprefix := prefix_lowered_iff h (.cons head tail)
    obtain ⟨x, rest, rfl, beyond⟩ := head.exists_cons
    rw [List.cons_append] at hprefix ⊢
    rw [List.infix_cons_iff, hprefix, infix_append_of_beyond h beyond, ih, List.map_cons,
      List.infix_cons_iff]

/-- Such a phrase occurs in a lower case of a text if it occurs where only letters of ASCII and the Kelvin
sign have been changed. -/
theorem occurs_lowered (h : isPlainPhrase phrase = true) (low : Lowered text lowered) :
    occurs phrase lowered = occurs phrase (text.map lowerChar) := by
  rw [Bool.eq_iff_iff, occurs_iff_isInfix, occurs_iff_isInfix]
  exact infix_lowered_iff h low

end RelayGateway.Text
