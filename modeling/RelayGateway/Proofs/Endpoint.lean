import RelayGateway.Endpoint
import RelayGateway.Proofs.Table

/-! # Maps of endpoints -/
namespace RelayGateway
variable {m : EndpointMap} {e e' : Endpoint} {addr : EndpointAddr}

namespace EndpointAddr

theorem le_trans {a b c : EndpointAddr} (hab : le a b = true) (hbc : le b c = true) :
    le a c = true := by
  simp only [le, decide_eq_true_eq] at hab hbc ⊢
  exact String.le_trans hab hbc

theorem le_total (a b : EndpointAddr) : (le a b || le b a) = true := by
  simp only [le, Bool.or_eq_true, decide_eq_true_eq]
  exact String.le_total a.text b.text

theorem of_inj {supplier url url' : String} (h : of supplier url = of supplier url') :
    url = url' :=
  String.append_right_inj _ |>.1 (EndpointAddr.mk.inj h)

end EndpointAddr

namespace EndpointMap

/-- Of endpoints with one address the last is kept. -/
theorem find?_ofEndpoints (es : List Endpoint) (addr : EndpointAddr) :
    (ofEndpoints es).find? addr = es.reverse.find? fun e => e.addr = addr := by
  unfold ofEndpoints
  rw [Table.find?_ofList, ← List.map_reverse, Table.lookup_map, Option.map_id']

/-- The least entry is an entry, and no other has a smaller address. -/
theorem least?_spec (h : m.least? = some e) :
    ∃ addr, m.find? addr = some e ∧
      ∀ addr' e', m.find? addr' = some e' → EndpointAddr.le addr addr' = true := by
  unfold least? sorted at h
  rw [List.head?_map] at h
  obtain ⟨⟨addr, e'⟩, hhead, rfl⟩ := Option.map_eq_some_iff.1 h
  have hsorted : (m.sortedEntries EndpointAddr.le).Pairwise
      fun x y => EndpointAddr.le x.1 y.1 = true := by
    refine List.pairwise_mergeSort ?_ ?_ m.entries
    · exact fun _ _ _ hab hbc => EndpointAddr.le_trans hab hbc
    · exact fun x y => EndpointAddr.le_total x.1 y.1
  have hmem : ∀ x, x ∈ m.sortedEntries EndpointAddr.le ↔ x ∈ m.entries :=
    fun x => List.mem_mergeSort
  cases hentries : m.sortedEntries EndpointAddr.le with
  | nil =>
    rw [hentries] at hhead
    cases hhead
  | cons x rest =>
    rw [hentries] at hhead hsorted
    cases hhead
    refine ⟨addr, (Table.find?_eq_some_iff ..).2 ((hmem _).1 (hentries ▸ List.mem_cons_self)), ?_⟩
    intro addr' e'' hf
    have hm : (addr', e'') ∈ (addr, e') :: rest :=
      hentries ▸ (hmem _).2 ((Table.find?_eq_some_iff ..).1 hf)
    rcases List.mem_cons.1 hm with heq | hm
    · cases heq
      have hself := EndpointAddr.le_total addr addr
      rwa [Bool.or_self] at hself
    · exact List.rel_of_pairwise_cons hsorted hm

theorem exists_least? (h : m.isEmpty = false) : ∃ e, m.least? = some e := by
  unfold least? sorted
  cases hsorted : m.sortedEntries EndpointAddr.le with
  | cons x rest => exact ⟨x.2, rfl⟩
  | nil =>
    have hlength : m.entries.length = 0 := by
      exact (List.length_mergeSort m.entries).symm.trans (congrArg List.length hsorted)
    unfold Table.isEmpty at h
    rw [List.eq_nil_of_length_eq_zero hlength] at h
    cases h

/-- An address that is in the map keeps its endpoint; any other gets the first one for it. -/
theorem find?_mergeFirstSeen (m : EndpointMap) (es : List Endpoint) (addr : EndpointAddr) :
    (mergeFirstSeen m es).1.find? addr = (m.find? addr).or (es.find? fun e => e.addr = addr) := by
  induction es generalizing m with
  | nil => exact (Option.or_none ..).symm
  | cons e rest ih =>
    unfold mergeFirstSeen
    by_cases haddr : e.addr = addr
    · have hfirst : (e :: rest).find? (fun e => e.addr = addr) = some e :=
        List.find?_cons_of_pos (decide_eq_true haddr)
      rw [hfirst]
      split
      · rename_i hknown
        obtain ⟨e', hfind⟩ := Option.isSome_iff_exists.1 hknown
        rw [haddr] at hfind
        rw [ih, hfind]
        rfl
      · rename_i hnew
        rw [Table.contains, Bool.not_eq_true, Option.isSome_eq_false_iff, Option.isNone_iff_eq_none,
          haddr] at hnew
        rw [ih, haddr, Table.find?_insert_self, hnew]
        rfl
    · rw [List.find?_cons_of_neg (by simpa using haddr)]
      split
      · exact ih m
      · rw [ih, Table.find?_insert_of_ne m (Ne.symm haddr)]

/-- Every endpoint is either added or counted. -/
theorem size_mergeFirstSeen (m : EndpointMap) (es : List Endpoint) :
    (mergeFirstSeen m es).1.size + (mergeFirstSeen m es).2 = m.size + es.length := by
  induction es generalizing m with
  | nil => rfl
  | cons e rest ih =>
    unfold mergeFirstSeen
    rw [List.length_cons]
    split
    · have hrest := ih m
      dsimp only
      omega
    · rename_i hnew
      have hsize : (m.insert e.addr e).size = m.size + 1 := by
        have hn : e.addr ∉ m.keys := by
          rw [← Table.find?_eq_none_iff]
          simpa [Table.contains] using hnew
        rw [Table.size, Table.entries_insert_of_not_mem m e hn, List.length_append]
        rfl
      rw [ih, hsize]
      omega

end EndpointMap

namespace Session
variable {s : Session} {allowed : Option String}

/-- The endpoint is what the session makes of one of its suppliers. -/
structure Derives (s : Session) (allowed : Option String) (entry : SupplierEndpoints) (e : Endpoint) :
    Prop where
  listed : entry ∈ s.suppliers
  allowed : allows allowed entry = true
  derived : s.endpointOf? entry = some e

theorem derives_iff : (∃ entry, s.Derives allowed entry e) ↔
    e ∈ (s.suppliers.filter (allows allowed)).filterMap s.endpointOf? := by
  simp only [List.mem_filterMap, List.mem_filter]
  exact exists_congr fun entry =>
    ⟨fun h => ⟨⟨h.listed, h.allowed⟩, h.derived⟩, fun h => ⟨h.1.1, h.1.2, h.2⟩⟩

/-- The endpoint has the supplier of the entry and its last plain URL, and the address is made of them. -/
theorem Derives.eq_of {entry : SupplierEndpoints} (h : s.Derives allowed entry e) :
    e.supplier = entry.supplier ∧ entry.plainUrl? = some e.url ∧
      e.addr = EndpointAddr.of e.supplier e.url := by
  obtain ⟨url, hurl, rfl⟩ := Option.map_eq_some_iff.1 h.derived
  exact ⟨rfl, hurl, rfl⟩

theorem exists_derives {entry : SupplierEndpoints} {url : String} (listed : entry ∈ s.suppliers)
    (allowed' : allows allowed entry = true) (hurl : entry.plainUrl? = some url) :
    ∃ e, s.Derives allowed entry e ∧ e.addr = EndpointAddr.of entry.supplier url := by
  refine ⟨.ofSession entry.supplier url entry.streamingUrl? s, ⟨listed, allowed', ?_⟩, rfl⟩
  unfold endpointOf?
  rw [hurl]
  rfl

/-- The endpoints of a session are made of its suppliers, and kept under their own addresses. -/
theorem derives_of_find? (h : (s.endpoints allowed).find? addr = some e) :
    (∃ entry, s.Derives allowed entry e) ∧ e.addr = addr := by
  unfold endpoints EndpointMap.ofEndpoints at h
  rw [Table.find?_ofList] at h
  obtain ⟨e', hmem, heq⟩ := List.mem_map.1 (List.mem_reverse.1 (Table.mem_of_lookup h))
  cases heq
  exact ⟨derives_iff.2 hmem, rfl⟩

theorem Derives.contains {entry : SupplierEndpoints} (h : s.Derives allowed entry e) :
    (s.endpoints allowed).contains e.addr = true := by
  rw [Table.contains, Option.isSome_iff_ne_none]
  unfold endpoints EndpointMap.ofEndpoints
  rw [Table.find?_ofList, ne_eq, Table.lookup_eq_none_iff, Decidable.not_not, List.map_reverse,
    List.mem_reverse, List.map_map]
  exact List.mem_map.2 ⟨e, derives_iff.1 ⟨entry, h⟩, rfl⟩

theorem Derives.session {entry : SupplierEndpoints} (h : s.Derives allowed entry e) :
    e.session = some s := by
  obtain ⟨url, -, rfl⟩ := Option.map_eq_some_iff.1 h.derived
  rfl

/-- The endpoints of one supplier are made of those that the session makes of all its suppliers. -/
theorem filterMap_endpointOf? (s : Session) (supplier : String) :
    (s.suppliers.filter (allows (some supplier))).filterMap s.endpointOf? =
      (s.suppliers.filterMap s.endpointOf?).filter fun e => e.supplier = supplier := by
  rw [List.filterMap_filter, List.filter_filterMap]
  congr 1
  funext entry
  unfold endpointOf? allows
  cases entry.plainUrl? with
  | none => simp
  | some url => simp [Option.filter, Endpoint.ofSession, eq_comm]

/-- Leaving out the other suppliers first or last makes no difference where no two suppliers have one
address. -/
theorem find?_endpoints_supplier (supplier : String)
    (alike : ∀ entry entry' e e', s.Derives none entry e → s.Derives none entry' e' →
      e.addr = e'.addr → e.supplier = e'.supplier) :
    (s.endpoints (some supplier)).find? addr =
      ((s.endpoints none).find? addr).filter fun e => e.supplier = supplier := by
  have hall : (s.suppliers.filter (allows none)).filterMap s.endpointOf? =
      s.suppliers.filterMap s.endpointOf? :=
    congrArg _ (List.filter_eq_self.2 fun _ _ => rfl)
  unfold endpoints
  rw [EndpointMap.find?_ofEndpoints, EndpointMap.find?_ofEndpoints, filterMap_endpointOf?, hall,
    ← List.filter_reverse]
  refine find?_filter_of_alike ?_
  intro e he e' he' haddr haddr'
  rw [List.mem_reverse, ← hall] at he he'
  obtain ⟨entry, hentry⟩ := derives_iff.2 he
  obtain ⟨entry', hentry'⟩ := derives_iff.2 he'
  have hsame := (of_decide_eq_true haddr).trans (of_decide_eq_true haddr').symm
  rw [alike entry entry' e e' hentry hentry' hsame]

theorem addr_of_mem_endpoints {x : EndpointAddr × Endpoint} (h : x ∈ (s.endpoints allowed).entries) :
    x.2.addr = x.1 :=
  (derives_of_find? ((Table.find?_eq_some_iff ..).2 h)).2

theorem find?_values_endpoints (s : Session) (allowed : Option String) (addr : EndpointAddr) :
    (s.endpoints allowed).values.find? (fun e => e.addr = addr) = (s.endpoints allowed).find? addr :=
  Table.find?_values _ Endpoint.addr (fun _ => addr_of_mem_endpoints) addr

end Session

/-- The fallback endpoints are those of the URLs, under their own addresses. -/
theorem find?_fallbackEndpoints (urls : List String) :
    (fallbackEndpoints urls).find? addr = some e ↔
      ∃ url ∈ urls, e = Endpoint.fallback url [] ∧ e.addr = addr := by
  unfold fallbackEndpoints EndpointMap.ofEndpoints
  rw [Table.find?_ofList]
  generalize hl : ((urls.map fun url => Endpoint.fallback url []).map fun e => (e.addr, e)).reverse = l
  have hmem : ∀ x, x ∈ l ↔ ∃ url ∈ urls, x = (Endpoint.addr (.fallback url []), .fallback url []) := by
    intro x
    rw [← hl]
    simp only [List.mem_reverse, List.map_map, List.mem_map, Function.comp_apply]
    exact ⟨fun ⟨url, hm, heq⟩ => ⟨url, hm, heq.symm⟩, fun ⟨url, hm, heq⟩ => ⟨url, hm, heq.symm⟩⟩
  clear hl
  constructor
  · intro h
    have hm := Table.mem_of_lookup h
    obtain ⟨url, hu, heq⟩ := (hmem _).1 hm
    cases heq
    exact ⟨url, hu, rfl, rfl⟩
  · rintro ⟨url, hu, rfl, rfl⟩
    have hm := (hmem _).2 ⟨url, hu, rfl⟩
    cases hf : Table.lookup (Endpoint.addr (.fallback url [])) l with
    | none => exact absurd (List.mem_map.2 ⟨_, hm, rfl⟩) (Table.lookup_eq_none_iff.1 hf)
    | some e =>
      obtain ⟨url', -, heq⟩ := (hmem _).1 (Table.mem_of_lookup hf)
      obtain ⟨haddr, rfl⟩ := Prod.mk.inj heq
      cases EndpointAddr.of_inj haddr
      rfl

end RelayGateway
