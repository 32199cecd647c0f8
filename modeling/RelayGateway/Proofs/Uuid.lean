import RelayGateway.Proofs.Bytes
import RelayGateway.Uuid

/-! # Identifiers that are read and written

Every spelling gives sixteen bytes, and sixteen bytes are read back from the digits with hyphens.
-/
namespace RelayGateway.Uuid

variable {cs : List Char} {bs : Bytes} {u : Uuid}

theorem length_of_hyphenated? (h : hyphenated? cs = some bs) : bs.length = 16 := by
  unfold hyphenated? at h
  obtain ⟨⟨hlength, -⟩, h⟩ := Option.ite_none_right_eq_some.1 h
  have hdigits := Bytes.length_of_ofHexChars? h
  simp only [List.length_append, List.length_take, List.length_drop] at hdigits
  omega

theorem length_of_bytesOf? (h : bytesOf? cs = some bs) : bs.length = 16 := by
  unfold bytesOf? at h
  split at h
  · next hlength =>
    have hdigits := Bytes.length_of_ofHexChars? h
    omega
  · exact length_of_hyphenated? h
  · exact length_of_hyphenated? (Option.ite_none_right_eq_some.1 h).2
  · exact length_of_hyphenated? (Option.ite_none_right_eq_some.1 h).2
  · cases h

theorem length_of_parse? {text : String} (h : parse? text = some u) : u.bytes.length = 16 := by
  obtain ⟨bs, hbs, rfl⟩ := Option.map_eq_some_iff.1 h
  exact length_of_bytesOf? hbs

/-- Five groups of digits with hyphens between them. -/
theorem bytesOf?_groups {a b c d e : List Char} (ha : a.length = 8) (hb : b.length = 4) (hc : c.length = 4)
    (hd : d.length = 4) (he : e.length = 12) :
    bytesOf? (a ++ '-' :: (b ++ '-' :: (c ++ '-' :: (d ++ '-' :: e)))) =
      Bytes.ofHexChars? (a ++ (b ++ (c ++ (d ++ e)))) := by
  have hlength : (a ++ '-' :: (b ++ '-' :: (c ++ '-' :: (d ++ '-' :: e)))).length = 36 := by
    simp only [List.length_append, List.length_cons]
    omega
  unfold bytesOf?
  rw [hlength]
  unfold hyphenated?
  rw [if_pos]
  · simp (disch := omega) [List.drop_append, List.drop_of_length_le, ha, hb, hc, hd]
  · refine ⟨hlength, ?_, ?_, ?_, ?_⟩
    all_goals simp [List.getElem?_append, ha, hb, hc, hd]

theorem parse?_render (h : u.bytes.length = 16) : parse? u.render = some u := by
  have hlength := Bytes.length_hexChars u.bytes
  have hgroup : ∀ n, (u.bytes.hexChars.drop n).take 4 ++ u.bytes.hexChars.drop (n + 4) =
      u.bytes.hexChars.drop n := fun n => by
    rw [← List.drop_drop, List.take_append_drop]
  unfold parse? render
  dsimp only
  rw [String.toList_ofList, bytesOf?_groups]
  · rw [hgroup 16, hgroup 12, hgroup 8, List.take_append_drop, Bytes.ofHexChars?_hexChars]
    rfl
  all_goals
    simp only [List.length_take, List.length_drop]
    omega

/-- What was read is read again from what is written for it. -/
theorem reread {text : String} (h : parse? text = some u) : parse? u.render = some u :=
  parse?_render (length_of_parse? h)

end RelayGateway.Uuid
