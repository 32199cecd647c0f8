import RelayGateway.Json.Record
import RelayGateway.Proofs.Json.Render

/-! # Reading and writing types

A type that is read from values and written to them keeps what it reads if what was read is read again from
what is written for it. This holds of texts, numbers and names, and is handed on by options, lists and
records. From there it comes to texts.
-/
namespace RelayGateway.Json

variable {α : Type} {read : Json → Option α} {write : α → Json} {a fallback : α} {name : String}

/-- What was read is written so that it is read again. -/
structure RoundTrip (read : Json → Option α) (write : α → Json) : Prop where
  exact : ∀ a, (write a).Exact
  back : ∀ j a, read j = some a → read (write a) = some a

namespace RoundTrip

/-- What was read from a text is read again from the text that is written for it, and that text is written
again. -/
theorem stable (h : RoundTrip read write) {text : String} (given : (parse? text).bind read = some a) :
    (parse? (write a).render).bind read = some a ∧
      ∀ a', (parse? (write a).render).bind read = some a' → (write a').render = (write a).render := by
  obtain ⟨j, -, hj⟩ := Option.bind_eq_some_iff.1 given
  have hagain : (parse? (write a).render).bind read = some a := by
    rw [parse?_render (h.exact a)]
    exact h.back j a hj
  refine ⟨hagain, fun a' ha' => ?_⟩
  rw [Option.some.inj (hagain.symm.trans ha')]

/-! ## Single values -/

theorem string : RoundTrip string? .string where
  exact := .string
  back _ _ _ := rfl

theorem bool : RoundTrip bool? .bool where
  exact := .bool
  back _ _ _ := rfl

theorem natural (bound : Nat) : RoundTrip (natural? bound) .natural where
  exact := .natural
  back j n h := by
    cases j with
    | natural m =>
      obtain ⟨hlt, hm⟩ := Option.ite_none_right_eq_some.1 (show (if m < bound then some m else none) = _ from h)
      cases hm
      exact if_pos hlt
    | _ => cases h

/-- Values that are spelled by a text. -/
theorem spelled {parse : String → Option α} {spell : α → String}
    (h : ∀ s a, parse s = some a → parse (spell a) = some a) :
    RoundTrip (fun j => j.string?.bind parse) (fun a => .string (spell a)) where
  exact a := .string (spell a)
  back j a hread := by
    obtain ⟨s, -, hs⟩ := Option.bind_eq_some_iff.1 hread
    exact h s a hs

/-- Variants that are named. -/
theorem named {ofName : String → Option α} {nameOf : α → String}
    (h : ∀ a, ofName (nameOf a) = some a) :
    RoundTrip (fun j => j.variant?.bind ofName) (fun a => .string (nameOf a)) where
  exact a := .string (nameOf a)
  back _ a _ := h a

/-! ## Options and lists -/

theorem nullable (h : RoundTrip read write) (some_value : ∀ a, write a ≠ null) :
    RoundTrip (nullable? read) (ofOption write) where
  exact o := by
    cases o with
    | none => exact .null
    | some a => exact h.exact a
  back j o hread := by
    cases o with
    | none => rfl
    | some a =>
      have hj : ∃ j, read j = some a := by
        unfold nullable? at hread
        split at hread
        · cases hread
        · obtain ⟨a', ha', heq⟩ := Option.map_eq_some_iff.1 hread
          exact ⟨j, Option.some.inj heq ▸ ha'⟩
      obtain ⟨j, hj⟩ := hj
      have hback := h.back j a hj
      unfold nullable? ofOption
      split
      · exact absurd ‹_› (some_value a)
      · rw [hback]
        rfl

theorem listOf (h : RoundTrip read write) :
    RoundTrip (listOf? read) (fun as => .array (as.map write)) where
  exact as := .array fun j hj => by
    obtain ⟨a, -, rfl⟩ := List.mem_map.1 hj
    exact h.exact a
  back j as hread := by
    cases j with
    | array items =>
      have hitems : items.mapM read = some as := hread
      show (as.map write).mapM read = some as
      induction items generalizing as with
      | nil =>
        cases hitems
        rfl
      | cons j items ih =>
        rw [List.mapM_cons] at hitems
        obtain ⟨a, ha, hrest⟩ := Option.bind_eq_some_iff.1 hitems
        obtain ⟨as', has', heq⟩ := Option.bind_eq_some_iff.1 hrest
        cases heq
        rw [List.map_cons, List.mapM_cons, h.back j a ha, ih as' has' has']
        rfl
    | _ => cases hread

/-! ## Fields of records -/

variable {r : Record} {members : List (String × Json)}

theorem required (h : RoundTrip read write) (given : r.required name read = some a)
    (written : members.lookup name = some (write a)) :
    (⟨false, members⟩ : Record).required name read = some a := by
  obtain ⟨j, -, hj⟩ := Option.bind_eq_some_iff.1 given
  exact Option.bind_eq_some_iff.2 ⟨write a, written, h.back j a hj⟩

theorem defaulted (h : RoundTrip read write) (given : r.defaulted name fallback read = some a)
    (fallback_read : read (write fallback) = some fallback)
    (written : members.lookup name = some (write a)) :
    (⟨false, members⟩ : Record).defaulted name fallback read = some a := by
  unfold Record.defaulted Fields.defaulted at given ⊢
  rw [written]
  split at given
  · exact h.back _ a given
  · cases given
    exact fallback_read

end RoundTrip

/-- An object with exactly the fields of a record gives them all. -/
theorem Record.of?_object {names : List String} {members : List (String × Json)}
    (fields : members.map Prod.fst = names) (distinct : names.Nodup) :
    Record.of? names (object members) = some ⟨false, members⟩ := by
  have hknown : members.filter (fun m => names.contains m.1) = members := by
    refine List.filter_eq_self.2 fun m hm => List.contains_iff_mem.2 ?_
    rw [← fields]
    exact List.mem_map_of_mem hm
  unfold Record.of?
  dsimp only
  rw [hknown, fields, if_pos distinct]

/-- A record that is written gives all of its fields when it is read. -/
theorem Record.reading {β : Type} {names : List String} {members : List (String × Json)}
    {f : Record → Option β} {b : β} (fields : members.map Prod.fst = names) (distinct : names.Nodup)
    (h : f ⟨false, members⟩ = some b) : (Record.of? names (object members) >>= f) = some b := by
  rw [Record.of?_object fields distinct]
  exact h

end RelayGateway.Json
