import ComponentLog.Input.Json
import Mathlib.Data.List.Nodup

/-!
# The entries of a map

Entries put into a map one by one end up under distinct keys, and entries whose keys are
distinct stay as they are, in their order (`foldl_insertEntry_of_nodup`). A look-up then finds
an entry wherever it stands (`entry?_eq_some_iff`), so it does not depend on the order.
-/

namespace ComponentLog.Value

/-- The keys of entries, in order. -/
abbrev keys (entries : List (String × Value)) : List String := entries.map (·.1)

/-! ## Putting entries in -/

theorem insertEntry_of_not_mem {entries : List (String × Value)} {key : String}
    (h : key ∉ keys entries) (v : Value) :
    insertEntry entries key v = entries ++ [(key, v)] := by
  have hany : ¬ entries.any (·.1 = key) = true := by
    rw [List.any_eq_true]
    rintro ⟨e, he, hkey⟩
    exact h (List.mem_map.2 ⟨e, he, by simpa using hkey⟩)
  exact if_neg hany

theorem keys_insertEntry_of_mem {entries : List (String × Value)} {key : String}
    (h : key ∈ keys entries) (v : Value) :
    keys (insertEntry entries key v) = keys entries := by
  obtain ⟨e, he, hkey⟩ := List.mem_map.1 h
  have hany : entries.any (·.1 = key) = true := List.any_eq_true.2 ⟨e, he, by simpa using hkey⟩
  unfold insertEntry
  rw [if_pos hany, keys, List.map_map]
  refine List.map_congr_left fun d _ => ?_
  by_cases hd : d.1 = key
  · simp [hd]
  · simp [hd]

theorem nodup_keys_insertEntry {entries : List (String × Value)} (h : (keys entries).Nodup)
    (key : String) (v : Value) : (keys (insertEntry entries key v)).Nodup := by
  by_cases hkey : key ∈ keys entries
  · rwa [keys_insertEntry_of_mem hkey]
  · rw [insertEntry_of_not_mem hkey, keys, List.map_append]
    exact List.nodup_append_comm.1 (List.nodup_cons.2 ⟨hkey, h⟩)

theorem nodup_keys_foldl_insertEntry {acc : List (String × Value)} (h : (keys acc).Nodup)
    (entries : List (String × Value)) :
    (keys (entries.foldl (fun acc e => insertEntry acc e.1 e.2) acc)).Nodup := by
  induction entries generalizing acc with
  | nil => exact h
  | cons e entries ih => exact ih (nodup_keys_insertEntry h e.1 e.2)

theorem foldl_insertEntry_of_nodup {acc entries : List (String × Value)}
    (h : (keys (acc ++ entries)).Nodup) :
    entries.foldl (fun acc e => insertEntry acc e.1 e.2) acc = acc ++ entries := by
  induction entries generalizing acc with
  | nil => simp
  | cons e entries ih =>
    have hkey : e.1 ∉ keys acc := by
      rw [keys, List.map_append, List.map_cons] at h
      exact fun hmem => (List.nodup_append.1 h).2.2 _ hmem _ List.mem_cons_self rfl
    rw [List.foldl_cons, insertEntry_of_not_mem hkey]
    rw [List.append_cons] at h
    exact (ih h).trans (List.append_cons acc e entries).symm

/-! ## Looking entries up -/

theorem entry?_cons (e : String × Value) (entries : List (String × Value)) (key : String) :
    entry? (e :: entries) key = if e.1 = key then some e.2 else entry? entries key := by
  unfold entry?
  by_cases h : e.1 = key
  · simp [h]
  · simp [h]

theorem mem_of_entry?_eq_some {entries : List (String × Value)} {key : String} {v : Value}
    (h : entry? entries key = some v) : (key, v) ∈ entries := by
  obtain ⟨e, he, rfl⟩ := Option.map_eq_some_iff.1 h
  have hkey : e.1 = key := by simpa using List.find?_some he
  exact hkey ▸ List.mem_of_find?_eq_some he

theorem entry?_eq_some_iff {entries : List (String × Value)} (hnd : (keys entries).Nodup)
    {key : String} {v : Value} : entry? entries key = some v ↔ (key, v) ∈ entries := by
  refine ⟨mem_of_entry?_eq_some, fun hmem => ?_⟩
  induction entries with
  | nil => cases hmem
  | cons e entries ih =>
    rw [keys, List.map_cons, List.nodup_cons] at hnd
    rw [entry?_cons]
    rcases List.mem_cons.1 hmem with rfl | hmem
    · rw [if_pos rfl]
    · have hne : e.1 ≠ key := fun hkey => hnd.1 (hkey ▸ List.mem_map_of_mem hmem)
      rw [if_neg hne]
      exact ih hnd.2 hmem

theorem entry?_eq_of_perm {entries entries' : List (String × Value)} (h : entries.Perm entries')
    (hnd : (keys entries).Nodup) (key : String) :
    entry? entries key = entry? entries' key := by
  have hnd' : (keys entries').Nodup := (h.map (·.1)).nodup_iff.1 hnd
  refine Option.ext fun v => ?_
  rw [entry?_eq_some_iff hnd, entry?_eq_some_iff hnd', h.mem_iff]

/-! ## Reading maps -/

theorem keys_of_ofJsonMembers? {members : List (Option String × Json)}
    {entries : List (String × Value)} (h : ofJsonMembers? members = some entries) :
    (keys entries).map some = members.map (·.1) := by
  induction members generalizing entries with
  | nil =>
    simp only [ofJsonMembers?, Option.some.injEq] at h
    rw [← h]
    rfl
  | cons m members ih =>
    obtain ⟨key?, v⟩ := m
    simp only [ofJsonMembers?, Option.bind_eq_bind, Option.bind_eq_some_iff, Option.pure_def,
      Option.some.injEq] at h
    obtain ⟨key, rfl, w, -, rest, hrest, rfl⟩ := h
    rw [keys, List.map_cons, List.map_cons, List.map_cons, ih hrest]

theorem ne_map_of_value? {n : NumberToken} {entries : List (String × Value)} :
    n.value? ≠ some (map entries) := by
  intro h
  unfold NumberToken.value? at h
  dsimp only at h
  split at h
  · cases h
  · split at h
    · cases h
    · cases h

/-- Only documents of members are read as maps. -/
theorem exists_members_of_ofJson? {document : Json} {entries : List (String × Value)}
    (h : ofJson? document = some (map entries)) :
    ∃ members es, document = .map members ∧ ofJsonMembers? members = some es ∧
      es.foldl (fun acc e => insertEntry acc e.1 e.2) [] = entries := by
  cases document with
  | map members =>
    simp only [ofJson?, Option.bind_eq_bind, Option.bind_eq_some_iff, Option.pure_def,
      Option.some.injEq] at h
    obtain ⟨es, hes, hentries⟩ := h
    exact ⟨members, es, rfl, hes, Value.map.inj hentries⟩
  | number n => exact absurd (by simpa only [ofJson?] using h) ne_map_of_value?
  | null => simp [ofJson?] at h
  | bool b => simp [ofJson?] at h
  | str text? => simp [ofJson?] at h
  | list items =>
    simp only [ofJson?, Option.bind_eq_bind, Option.bind_eq_some_iff, Option.pure_def,
      Option.some.injEq] at h
    obtain ⟨vs, -, hlist⟩ := h
    cases hlist

/-- A text that is read as a map is a document of members, whose keys the map keeps apart; where
they are distinct, the map has the members read one by one in the order of the document. -/
theorem exists_members_of_fromJson? {text : String} {entries : List (String × Value)}
    (h : fromJson? text = some (map entries)) :
    (keys entries).Nodup ∧ ∃ members, Json.parse? text = some (.map members) ∧
      ((members.map (·.1)).Nodup → ofJsonMembers? members = some entries) := by
  obtain ⟨document, hparse, hread⟩ := Option.bind_eq_some_iff.1 h
  split at hread
  · obtain ⟨members, es, rfl, hes, rfl⟩ := exists_members_of_ofJson? hread
    have hempty : (keys []).Nodup := List.nodup_nil
    refine ⟨nodup_keys_foldl_insertEntry hempty es, members, hparse, fun hnd => ?_⟩
    have hkeys : (keys ([] ++ es)).Nodup := by
      rw [← keys_of_ofJsonMembers? hes] at hnd
      exact hnd.of_map some
    rw [hes, foldl_insertEntry_of_nodup hkeys, List.nil_append]
  · cases hread

end ComponentLog.Value
