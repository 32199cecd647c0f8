import RelayGateway.Json.Parser
import RelayGateway.Json.Printer
import RelayGateway.Proofs.Text.Digit

/-! # What is written is read back

A value whose numbers are natural and whose strings denote texts is read back from what is written for it,
whatever characters the strings hold. So no two such values are written alike.
-/
namespace RelayGateway.Json
open Text (hexDigit hexValue? hexValue?_hexDigit isDigit digitsValue)

variable {c : Char} {cs rest : List Char} {n fuel : Nat} {j : Json}

/-! ## Strings -/

/-- A character is spelled with one piece, which stands for it. -/
theorem readPieces_escapeChar (c : Char) (cs : List Char) :
    ∃ p, readPieces (escapeChar c ++ cs) = (readPieces cs).map (fun r => (p :: r.1, r.2)) ∧
      ∀ ps, joinPieces (p :: ps) = (joinPieces ps).map (c :: ·) := by
  have hchar : ∀ ps, joinPieces (.char c :: ps) = (joinPieces ps).map (c :: ·) := fun _ => rfl
  unfold escapeChar
  split_ifs with hquote hslash hb ht hn hf hr hcontrol
  · exact ⟨.char c, by rw [hquote]; rfl, hchar⟩
  · exact ⟨.char c, by rw [hslash]; rfl, hchar⟩
  · exact ⟨.char c, by rw [hb]; rfl, hchar⟩
  · exact ⟨.char c, by rw [ht]; rfl, hchar⟩
  · exact ⟨.char c, by rw [hn]; rfl, hchar⟩
  · exact ⟨.char c, by rw [hf]; rfl, hchar⟩
  · exact ⟨.char c, by rw [hr]; rfl, hchar⟩
  · refine ⟨.unit c.toNat, ?_, fun ps => ?_⟩
    · have hhigh := hexValue?_hexDigit (c.toNat / 16) (by omega)
      have hlow := hexValue?_hexDigit (c.toNat % 16) (by omega)
      have hzero : hexValue? '0' = some 0 := rfl
      have hcode : ((0 * 16 + 0) * 16 + c.toNat / 16) * 16 + c.toNat % 16 = c.toNat := by omega
      show readPieces ('\\' :: 'u' :: '0' :: '0' :: hexDigit (c.toNat / 16) ::
        hexDigit (c.toNat % 16) :: cs) = _
      rw [readPieces, if_neg (by decide), if_pos rfl]
      simp only [hzero, hhigh, hlow, hcode]
    · rw [joinPieces.eq_def]
      dsimp only
      rw [if_neg (by omega), if_neg (by omega), Char.ofNat_toNat]
  · refine ⟨.char c, ?_, hchar⟩
    show readPieces (c :: cs) = _
    rw [readPieces.eq_def]
    dsimp only
    rw [if_neg hquote, if_neg hslash, if_neg hcontrol]

theorem readPieces_escaped (cs rest : List Char) :
    ∃ ps, readPieces (cs.flatMap escapeChar ++ '"' :: rest) = some (ps, rest) ∧
      joinPieces ps = some cs := by
  induction cs with
  | nil =>
    refine ⟨[], ?_, rfl⟩
    show readPieces ('"' :: rest) = _
    rw [readPieces.eq_def]
    exact if_pos rfl
  | cons c cs ih =>
    obtain ⟨ps, hps, hjoin⟩ := ih
    obtain ⟨p, hp, hjoins⟩ := readPieces_escapeChar c (cs.flatMap escapeChar ++ '"' :: rest)
    refine ⟨p :: ps, ?_, ?_⟩
    · rw [List.flatMap_cons, List.append_assoc, hp, hps]
      rfl
    · rw [hjoins, hjoin]
      rfl

theorem readText_quote (s : String) (rest : List Char) :
    readText (s.toList.flatMap escapeChar ++ '"' :: rest) = some (some s, rest) := by
  obtain ⟨ps, hps, hjoin⟩ := readPieces_escaped s.toList rest
  unfold readText
  rw [hps, Option.map_some]
  dsimp only
  rw [hjoin, Option.map_some, String.ofList_toList]

theorem quote_append (s : String) (rest : List Char) :
    quote s ++ rest = '"' :: (s.toList.flatMap escapeChar ++ '"' :: rest) := by
  unfold quote
  rw [List.cons_append, List.append_assoc]
  rfl

/-! ## Numbers -/

inductive Ends : List Char → Prop
  | text : Ends []
  | comma (cs : List Char) : Ends (',' :: cs)
  | bracket (cs : List Char) : Ends (']' :: cs)
  | brace (cs : List Char) : Ends ('\x7d' :: cs)

namespace Ends

theorem isDigit_eq_false (h : Ends rest) : ∀ c, rest.head? = some c → isDigit c = false := by
  cases h with
  | text => exact nofun
  | _ =>
    rintro c hc
    cases hc
    rfl

theorem readFraction_eq (h : Ends rest) : readFraction rest = some ([], rest) := by cases h <;> rfl

theorem readExponent_eq (h : Ends rest) : readExponent rest = some ([], rest) := by cases h <;> rfl

end Ends

theorem readWhole_toDigits (n : Nat) (ends : Ends rest) :
    readWhole (Nat.toDigits 10 n ++ rest) = some (Nat.toDigits 10 n, rest) := by
  obtain ⟨htake, hdrop⟩ :=
    Text.digits_append (fun _ => Text.isDigit_of_mem_toDigits) ends.isDigit_eq_false
  unfold readWhole
  rw [htake, hdrop]
  split
  · exact absurd ‹_› Nat.toDigits_ne_nil
  · next hzero =>
    -- Zero has one digit, and no other number begins with the digit zero.
    rcases Nat.eq_zero_or_pos n with rfl | hpos
    · cases hzero
    · exact absurd (congrArg List.head? hzero) (Text.head?_toDigits_ne hpos)
  · rfl

theorem readUnsigned_toDigits (n : Nat) (ends : Ends rest) :
    readUnsigned [] (Nat.toDigits 10 n ++ rest) = some (natural n, rest) := by
  unfold readUnsigned
  rw [readWhole_toDigits n ends]
  dsimp only
  rw [ends.readFraction_eq]
  dsimp only
  rw [ends.readExponent_eq]
  exact congrArg (fun n => some (natural n, rest)) (Text.digitsValue_toDigits n)

theorem readScalar_of_isDigit (h : isDigit c = true) :
    readScalar (c :: cs) = readUnsigned [] (c :: cs) := by
  have hne : ∀ d, isDigit d = false → c ≠ d := fun d hd hc => by cases h.symm.trans (hc ▸ hd)
  unfold readScalar readNumber
  split
  · next heq => exact absurd (List.cons.inj heq).1 (hne 'n' rfl)
  · next heq => exact absurd (List.cons.inj heq).1 (hne 't' rfl)
  · next heq => exact absurd (List.cons.inj heq).1 (hne 'f' rfl)
  · split
    · next heq => exact absurd (List.cons.inj heq).1 (hne '-' rfl)
    · rfl

theorem readValue_of_isDigit (h : isDigit c = true) :
    readValue (fuel + 1) (c :: cs) = readScalar (c :: cs) := by
  have hne : ∀ d, isDigit d = false → c ≠ d := fun d hd hc => by cases h.symm.trans (hc ▸ hd)
  have hblank : skipBlanks (c :: cs) = c :: cs := by
    refine List.dropWhile_cons_of_neg ?_
    unfold isBlank
    simp [hne ' ' rfl, hne '\t' rfl, hne '\n' rfl, hne '\r' rfl]
  rw [readValue, hblank]
  split
  · next heq => exact absurd (List.cons.inj heq).1 (hne '"' rfl)
  · next heq => exact absurd (List.cons.inj heq).1 (hne '[' rfl)
  · next heq => exact absurd (List.cons.inj heq).1 (hne '\x7b' rfl)
  · rfl

theorem readValue_toDigits (n : Nat) (ends : Ends rest) :
    readValue (fuel + 1) (Nat.toDigits 10 n ++ rest) = some (natural n, rest) := by
  have hread := readUnsigned_toDigits n ends
  cases hds : Nat.toDigits 10 n with
  | nil => exact absurd hds Nat.toDigits_ne_nil
  | cons d ds =>
    have hd : isDigit d = true := Text.isDigit_of_mem_toDigits (n := n) (hds ▸ List.mem_cons_self)
    rw [hds] at hread
    exact (readValue_of_isDigit hd).trans ((readScalar_of_isDigit hd).trans hread)

/-! ## Values -/

theorem skipBlanks_cons (h : isBlank c = false) : skipBlanks (c :: cs) = c :: cs :=
  List.dropWhile_cons_of_neg (Bool.eq_false_iff.1 h)

/-- No number of the value is kept by its spelling only, and all of its strings denote a text. -/
inductive Exact : Json → Prop
  | null : Exact null
  | bool (b : Bool) : Exact (bool b)
  | natural (n : Nat) : Exact (natural n)
  | string (s : String) : Exact (string s)
  | array {items : List Json} (items_exact : ∀ j ∈ items, Exact j) : Exact (array items)
  | object {members : List (String × Json)} (members_exact : ∀ m ∈ members, Exact m.2) :
      Exact (object members)

/-- A value begins with no blank and with no closing bracket. -/
theorem chars_begin (h : j.Exact) : ∃ c cs, chars j = c :: cs ∧ isBlank c = false ∧ c ≠ ']' := by
  cases h with
  | null => exact ⟨'n', _, rfl, rfl, by decide⟩
  | bool b => cases b <;> exact ⟨_, _, rfl, rfl, by decide⟩
  | natural n =>
    cases hds : Nat.toDigits 10 n with
    | nil => exact absurd hds Nat.toDigits_ne_nil
    | cons d ds =>
      have hd : isDigit d = true := Text.isDigit_of_mem_toDigits (n := n) (hds ▸ List.mem_cons_self)
      have hne : ∀ c, isDigit c = false → d ≠ c := fun c hc h => by cases hd.symm.trans (h ▸ hc)
      refine ⟨d, ds, hds, ?_, hne ']' rfl⟩
      unfold isBlank
      simp [hne ' ' rfl, hne '\t' rfl, hne '\n' rfl, hne '\r' rfl]
  | string s => exact ⟨'"', _, rfl, rfl, by decide⟩
  | array => exact ⟨'[', _, rfl, rfl, by decide⟩
  | object => exact ⟨'\x7b', _, rfl, rfl, by decide⟩

theorem readValue_quote (s : String) (rest : List Char) :
    readValue (fuel + 1) (quote s ++ rest) = some (string s, rest) := by
  have htext := readText_quote s rest
  rw [quote_append, readValue, skipBlanks_cons rfl]
  simp only [htext]

theorem length_chars_pos (h : j.Exact) : 0 < (chars j).length := by
  obtain ⟨c, cs, hchars, -⟩ := chars_begin h
  rw [hchars]
  exact Nat.succ_pos _

theorem ofMembers_named (members : List (String × Json)) :
    ofMembers (members.map fun m => (some m.1, m.2)) = object members := by
  have hnames : (members.map fun m => (some m.1, m.2)).mapM
      (fun m : Option String × Json => m.1.map fun name => (name, m.2)) = some members := by
    induction members with
    | nil => rfl
    | cons m rest ih => rw [List.map_cons, List.mapM_cons, ih]; rfl
  unfold ofMembers
  rw [hnames]

/-! ### Items and members -/

section Items
variable {items : List Json} {members : List (String × Json)}

theorem itemChars_cons (j : Json) (h : items ≠ []) :
    itemChars (j :: items) = chars j ++ ',' :: itemChars items := by
  rw [itemChars]
  exact h

theorem memberChars_cons (name : String) (j : Json) (h : members ≠ []) :
    memberChars ((name, j) :: members) = quote name ++ ':' :: (chars j ++ ',' :: memberChars members) := by
  rw [memberChars]
  exact h

theorem itemChars_begin (j : Json) (items : List Json) : ∃ cs, itemChars (j :: items) = chars j ++ cs := by
  cases items with
  | nil => exact ⟨_, rfl⟩
  | cons k items => exact ⟨_, itemChars_cons j (List.cons_ne_nil k items)⟩

theorem memberChars_begin (m : String × Json) (members : List (String × Json)) :
    ∃ cs, memberChars (m :: members) = '"' :: cs := by
  cases members with
  | nil => exact ⟨_, rfl⟩
  | cons k members => exact ⟨_, memberChars_cons m.1 m.2 (List.cons_ne_nil k members)⟩

theorem readValue_items (some_item : items ≠ []) (h : ∀ j ∈ items, j.Exact) :
    readValue (fuel + 1) ('[' :: (itemChars items ++ rest)) =
      (readItems fuel (itemChars items ++ rest)).map fun r => (array r.1, r.2) := by
  obtain ⟨j, items, rfl⟩ := List.exists_cons_of_ne_nil some_item
  obtain ⟨cs, hcs⟩ := itemChars_begin j items
  obtain ⟨c, cs', hj, hblank, hbracket⟩ := chars_begin (h j List.mem_cons_self)
  rw [hcs, hj, readValue, skipBlanks_cons rfl]
  simp only [List.cons_append, skipBlanks_cons hblank]
  split
  · next heq => exact absurd (List.cons.inj heq).1 hbracket
  · rfl

theorem readValue_members (some_member : members ≠ []) :
    readValue (fuel + 1) ('\x7b' :: (memberChars members ++ rest)) =
      (readMembers fuel (memberChars members ++ rest)).map fun r => (ofMembers r.1, r.2) := by
  obtain ⟨m, members, rfl⟩ := List.exists_cons_of_ne_nil some_member
  obtain ⟨cs, hcs⟩ := memberChars_begin m members
  rw [hcs]
  rfl

theorem readItems_last (h : readValue fuel cs = some (j, ']' :: rest)) :
    readItems (fuel + 1) cs = some ([j], rest) := by
  rw [readItems, h]
  rfl

theorem readItems_more (h : readValue fuel cs = some (j, ',' :: rest)) :
    readItems (fuel + 1) cs = (readItems fuel rest).map fun r => (j :: r.1, r.2) := by
  rw [readItems, h]
  rfl

theorem readMembers_last (name : String) (h : readValue fuel cs = some (j, '\x7d' :: rest)) :
    readMembers (fuel + 1) (quote name ++ ':' :: cs) = some ([(some name, j)], rest) := by
  rw [quote_append, readMembers, skipBlanks_cons rfl]
  simp only [readText_quote name (':' :: cs), skipBlanks_cons (c := ':') rfl, h,
    skipBlanks_cons (c := '\x7d') rfl]

theorem readMembers_more (name : String) (h : readValue fuel cs = some (j, ',' :: rest)) :
    readMembers (fuel + 1) (quote name ++ ':' :: cs) =
      (readMembers fuel rest).map fun r => ((some name, j) :: r.1, r.2) := by
  rw [quote_append, readMembers, skipBlanks_cons rfl]
  simp only [readText_quote name (':' :: cs), skipBlanks_cons (c := ':') rfl, h,
    skipBlanks_cons (c := ',') rfl]

end Items

mutual

/-- A value is read back before whatever may stand after it, given as much fuel as it has characters. -/
theorem readValue_chars (j : Json) (h : j.Exact) {fuel : Nat} {rest : List Char}
    (enough : (chars j).length ≤ fuel) (ends : Ends rest) :
    readValue fuel (chars j ++ rest) = some (j, rest) := by
  obtain ⟨fuel, rfl⟩ := Nat.exists_eq_add_one.2 (Nat.lt_of_lt_of_le (length_chars_pos h) enough)
  match j, h with
  | null, _ => rfl
  | bool true, _ => rfl
  | bool false, _ => rfl
  | natural n, _ => exact readValue_toDigits n ends
  | string s, _ => exact readValue_quote s rest
  | array [], _ => rfl
  | array (k :: items), .array hitems =>
    have hread := readItems_itemChars (k :: items) (List.cons_ne_nil k items) hitems
      (Nat.le_of_succ_le_succ enough) rest
    exact (readValue_items (List.cons_ne_nil k items) hitems).trans (by rw [hread]; rfl)
  | object [], _ => rfl
  | object (m :: members), .object hmembers =>
    have hread := readMembers_memberChars (m :: members) (List.cons_ne_nil m members) hmembers
      (Nat.le_of_succ_le_succ enough) rest
    refine (readValue_members (List.cons_ne_nil m members)).trans ?_
    rw [hread, Option.map_some, ofMembers_named]

theorem readItems_itemChars (items : List Json) (some_item : items ≠ []) (h : ∀ j ∈ items, j.Exact)
    {fuel : Nat} (enough : (itemChars items).length ≤ fuel) (rest : List Char) :
    readItems fuel (itemChars items ++ rest) = some (items, rest) := by
  match items with
  | [j] =>
    have hchars : itemChars [j] ++ rest = chars j ++ ']' :: rest := List.append_assoc _ _ _
    have hlength : (itemChars [j]).length = (chars j).length + 1 := List.length_append
    obtain ⟨fuel, rfl⟩ := Nat.exists_eq_add_one.2 (show 0 < fuel by omega)
    rw [hchars]
    exact readItems_last (readValue_chars j (h j List.mem_cons_self) (by omega) (.bracket rest))
  | j :: k :: items =>
    have hcons := itemChars_cons j (List.cons_ne_nil k items)
    have hlength := congrArg List.length hcons
    rw [List.length_append, List.length_cons] at hlength
    obtain ⟨fuel, rfl⟩ := Nat.exists_eq_add_one.2 (show 0 < fuel by omega)
    have hfits : (chars j).length ≤ fuel := by omega
    have hvalue := readValue_chars j (h j List.mem_cons_self) hfits
      (.comma (itemChars (k :: items) ++ rest))
    have hlast : (itemChars (k :: items)).length ≤ fuel := by omega
    have hread := readItems_itemChars (k :: items) (List.cons_ne_nil k items)
      (fun i hi => h i (List.mem_cons_of_mem j hi)) hlast rest
    rw [hcons, List.append_assoc]
    exact (readItems_more hvalue).trans (by rw [hread]; rfl)

theorem readMembers_memberChars (members : List (String × Json)) (some_member : members ≠ [])
    (h : ∀ m ∈ members, m.2.Exact) {fuel : Nat} (enough : (memberChars members).length ≤ fuel)
    (rest : List Char) :
    readMembers fuel (memberChars members ++ rest) =
      some (members.map (fun m => (some m.1, m.2)), rest) := by
  match members with
  | [(name, j)] =>
    have hchars : memberChars [(name, j)] ++ rest = quote name ++ ':' :: (chars j ++ '\x7d' :: rest) := by
      rw [memberChars, List.append_assoc, List.cons_append, List.append_assoc]
      rfl
    have hlength : (memberChars [(name, j)]).length = (quote name).length + ((chars j).length + 2) := by
      rw [memberChars, List.length_append, List.length_cons, List.length_append]
      rfl
    obtain ⟨fuel, rfl⟩ := Nat.exists_eq_add_one.2 (show 0 < fuel by omega)
    rw [hchars]
    exact readMembers_last name
      (readValue_chars j (h _ List.mem_cons_self) (by omega) (.brace rest))
  | (name, j) :: m :: members =>
    have hcons := memberChars_cons name j (List.cons_ne_nil m members)
    have hlength := congrArg List.length hcons
    simp only [List.length_append, List.length_cons] at hlength
    obtain ⟨fuel, rfl⟩ := Nat.exists_eq_add_one.2 (show 0 < fuel by omega)
    have hfits : (chars j).length ≤ fuel := by omega
    have hvalue := readValue_chars j (h _ List.mem_cons_self) hfits
      (.comma (memberChars (m :: members) ++ rest))
    have hlast : (memberChars (m :: members)).length ≤ fuel := by omega
    have hread := readMembers_memberChars (m :: members) (List.cons_ne_nil m members)
      (fun i hi => h i (List.mem_cons_of_mem _ hi)) hlast rest
    rw [hcons]
    simp only [List.append_assoc, List.cons_append]
    exact (readMembers_more name hvalue).trans (by rw [hread]; rfl)

end

/-- What is written for an exact value is the text of that value. -/
theorem parse?_render (h : j.Exact) : parse? j.render = some j := by
  have hread := readValue_chars j h (Nat.le_succ _) .text
  rw [List.append_nil] at hread
  unfold parse? render parseChars?
  rw [String.toList_ofList, hread]
  rfl

theorem render_injective {k : Json} (hj : j.Exact) (hk : k.Exact) (h : j.render = k.render) : j = k :=
  Option.some.inj ((parse?_render hj).symm.trans (h ▸ parse?_render hk))

end RelayGateway.Json
