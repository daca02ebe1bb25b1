/-
  The groups of an index, told without a fold.

  1. **One more entry** — it joins the group of its name, if there is one (`add_of_mem`), and else it makes
     a group at the end (`add_of_not_mem`).
  2. **All entries** — the groups are those of the names, in the order of their first occurrences
     (`ofEntries_eq`).  The group of a name holds all entries of that name, in their order, and its header
     comes from the first of them (`ofName`).  No two groups share a name (`nodup_names`).
  3. **The stub of a group** — the functions of the entries that did not fail, one after the other, below
     the header; what failed is kept beside them (`GroupStub.ofGroup_eq`).
-/
import DocStub.Site.Group
import Mathlib.Data.List.Induction
import Mathlib.Data.List.Nodup

namespace DocStub

/-! ## First occurrences -/

/-- A last item is kept if it is new. -/
theorem eraseDups_concat {α : Type*} [DecidableEq α] (l : List α) (a : α) :
    (l ++ [a]).eraseDups = if a ∈ l then l.eraseDups else l.eraseDups ++ [a] := by
  rw [List.eraseDups_append]
  by_cases ha : a ∈ l
  · rw [if_pos ha, show [a].removeAll l = [] by simp [List.removeAll, ha], List.eraseDups_nil,
      List.append_nil]
  · rw [if_neg ha, show [a].removeAll l = [a] by simp [List.removeAll, ha]]
    rfl

theorem nodup_eraseDups {α : Type*} [DecidableEq α] (l : List α) : l.eraseDups.Nodup := by
  induction l using List.reverseRecOn with
  | nil => exact List.nodup_nil
  | append_singleton l a ih =>
    rw [eraseDups_concat]
    split
    · exact ih
    · next ha =>
      refine List.nodup_append.2 ⟨ih, List.nodup_singleton a, ?_⟩
      intro x hx y hy he
      rw [List.mem_singleton.1 hy] at he
      exact ha (List.mem_eraseDups.1 (he ▸ hx))

namespace ClassGroup

/-! ## One more entry -/

/-- The group with the entry at its end, if it is the group of its name. -/
def grow (e : ClassEntry) (g : ClassGroup) : ClassGroup :=
  if g.header.name = e.name then { g with entries := g.entries ++ [e] } else g

/-- The first entry of a class opens a group behind the others. -/
theorem add_of_not_mem {e : ClassEntry} {gs : List ClassGroup}
    (h : e.name ∉ gs.map (·.header.name)) : add e gs = gs ++ [single e] := by
  induction gs with
  | nil => rfl
  | cons g gs ih =>
    obtain ⟨hg, hgs⟩ := not_or.1 (mt List.mem_cons.2 h)
    rw [add, if_neg (Ne.symm hg), ih hgs, List.cons_append]

/-- A further entry of a class goes into the group of this class and leaves the others alone. -/
theorem add_of_mem {e : ClassEntry} {gs : List ClassGroup} (hnodup : (gs.map (·.header.name)).Nodup)
    (h : e.name ∈ gs.map (·.header.name)) : add e gs = gs.map (grow e) := by
  induction gs with
  | nil => cases h
  | cons g gs ih =>
    obtain ⟨hnew, hnodup⟩ := List.nodup_cons.1 hnodup
    rw [add, List.map_cons]
    by_cases hg : g.header.name = e.name
    · have hrest : gs.map (grow e) = gs := by
        rw [← List.map_id gs, List.map_map]
        refine List.map_congr_left fun k hk => if_neg fun hke => hnew ?_
        exact List.mem_map.2 ⟨k, hk, hke.trans hg.symm⟩
      rw [if_pos hg, hrest, grow, if_pos hg]
    · rw [if_neg hg, grow, if_neg hg, ih hnodup]
      exact (List.mem_cons.1 h).resolve_left (Ne.symm hg)

/-! ## All entries -/

/-- The entries of a name, under the header that the first one gives. -/
def ofName (es : List ClassEntry) (n : Identifier) : ClassGroup :=
  ⟨⟨n, ((es.find? (·.name = n)).map (·.summary)).getD []⟩, es.filter (·.name = n)⟩

/-- An entry does not belong to the group of another name. -/
theorem ofName_concat_of_ne {e : ClassEntry} {n : Identifier} (es : List ClassEntry) (h : e.name ≠ n) :
    ofName (es ++ [e]) n = ofName es n := by
  simp [ofName, h]

/-- The summary of a name does not change once there is one. -/
theorem ofName_concat_of_mem {e : ClassEntry} {es : List ClassEntry} (h : e.name ∈ es.map (·.name)) :
    ofName (es ++ [e]) e.name = grow e (ofName es e.name) := by
  obtain ⟨k, hk, hke⟩ := List.mem_map.1 h
  obtain ⟨f, hf⟩ := Option.isSome_iff_exists.1
    (List.find?_isSome.2 ⟨k, hk, by simpa using hke⟩ : (es.find? (·.name = e.name)).isSome)
  simp [ofName, grow, hf]

/-- The first entry of a class is its whole group, and gives the header. -/
theorem ofName_concat_of_not_mem {e : ClassEntry} {es : List ClassEntry}
    (h : e.name ∉ es.map (·.name)) : ofName (es ++ [e]) e.name = single e := by
  have hnone : ∀ k ∈ es, ¬ k.name = e.name := fun k hk hke => h (List.mem_map.2 ⟨k, hk, hke⟩)
  have hfind : es.find? (·.name = e.name) = none := by simpa using hnone
  have hfilter : es.filter (·.name = e.name) = [] := by simpa using hnone
  simp [ofName, single, hfind, hfilter]

/-- Entries are added one by one, the last one last. -/
theorem ofEntries_concat (es : List ClassEntry) (e : ClassEntry) :
    ofEntries (es ++ [e]) = add e (ofEntries es) :=
  List.foldl_concat ..

theorem map_name_ofName (es : List ClassEntry) (ns : List Identifier) :
    (ns.map (ofName es)).map (·.header.name) = ns := by
  rw [List.map_map]
  exact List.map_id ns

/-- The groups of an index, in the order of the first occurrences of their names. -/
theorem ofEntries_eq (es : List ClassEntry) :
    ofEntries es = (es.map (·.name)).eraseDups.map (ofName es) := by
  -- by the last entry, which is the one that the fold adds last
  induction es using List.reverseRecOn with
  | nil => rfl
  | append_singleton es e ih =>
    rw [ofEntries_concat, ih, List.map_append, List.map_cons, List.map_nil, eraseDups_concat]
    by_cases he : e.name ∈ es.map (·.name)
    · -- only the group of this name changes
      rw [if_pos he, add_of_mem, List.map_map]
      · refine List.map_congr_left fun n hn => ?_
        by_cases hne : e.name = n
        · subst hne
          exact (ofName_concat_of_mem he).symm
        · rw [ofName_concat_of_ne es hne]
          exact if_neg (Ne.symm hne)
      · rw [map_name_ofName]
        exact nodup_eraseDups _
      · rw [map_name_ofName]
        exact List.mem_eraseDups.2 he
    · rw [if_neg he, add_of_not_mem, List.map_append, List.map_cons, List.map_nil,
        ofName_concat_of_not_mem he]
      · congr 1
        refine List.map_congr_left fun n hn => (ofName_concat_of_ne es ?_).symm
        rintro rfl
        exact he (List.mem_eraseDups.1 hn)
      · rw [map_name_ofName]
        exact fun hmem => he (List.mem_eraseDups.1 hmem)

/-- The groups are named like the classes, in the order of their first entries. -/
theorem names_ofEntries (es : List ClassEntry) :
    (ofEntries es).map (·.header.name) = (es.map (·.name)).eraseDups := by
  rw [ofEntries_eq, map_name_ofName]

/-- No two groups have the same name. -/
theorem nodup_names (es : List ClassEntry) : ((ofEntries es).map (·.header.name)).Nodup := by
  rw [names_ofEntries]
  exact nodup_eraseDups _

/-- A group holds all entries of its name. -/
theorem eq_ofName {es : List ClassEntry} {g : ClassGroup} (h : g ∈ ofEntries es) :
    g = ofName es g.header.name := by
  rw [ofEntries_eq] at h
  obtain ⟨n, -, rfl⟩ := List.mem_map.1 h
  rfl

/-- The first of the entries of a name gives the summary. -/
theorem ofName_eq_of_filter {es rest : List ClassEntry} {e : ClassEntry} {n : Identifier}
    (h : es.filter (·.name = n) = e :: rest) : ofName es n = ⟨⟨n, e.summary⟩, e :: rest⟩ := by
  have hfirst : es.find? (·.name = n) = some e := by
    rw [← List.head?_filter, h]
    rfl
  rw [ofName, hfirst, h]
  rfl

/-- A group has a first entry, and its header is taken from it. -/
theorem exists_entries_eq_cons {es : List ClassEntry} {g : ClassGroup} (h : g ∈ ofEntries es) :
    ∃ e rest, g.entries = e :: rest ∧ g.header = ⟨e.name, e.summary⟩ := by
  have hname : g.header.name ∈ (ofEntries es).map (·.header.name) := List.mem_map.2 ⟨g, h, rfl⟩
  rw [names_ofEntries, List.mem_eraseDups] at hname
  obtain ⟨k, hk, hkn⟩ := List.mem_map.1 hname
  have hmem : k ∈ es.filter (·.name = g.header.name) := List.mem_filter.2 ⟨hk, by simpa using hkn⟩
  obtain ⟨e, rest, hcons⟩ := List.exists_cons_of_ne_nil (List.ne_nil_of_mem hmem)
  have hen : e.name = g.header.name := by
    have he : e ∈ es.filter (·.name = g.header.name) := hcons ▸ List.mem_cons_self
    simpa using (List.mem_filter.1 he).2
  have hg : g = ⟨⟨g.header.name, e.summary⟩, e :: rest⟩ := (eq_ofName h).trans (ofName_eq_of_filter hcons)
  refine ⟨e, rest, by rw [hg], ?_⟩
  rw [hg, hen]

/-- The entries of a group are entries of the index. -/
theorem mem_of_mem_entries {es : List ClassEntry} {g : ClassGroup} {e : ClassEntry}
    (h : g ∈ ofEntries es) (he : e ∈ g.entries) : e ∈ es := by
  rw [eq_ofName h] at he
  exact (List.mem_filter.1 he).1

/-- The header of a group comes from an entry of the index, the first one of its class. -/
theorem exists_first {es : List ClassEntry} {g : ClassGroup} (h : g ∈ ofEntries es) :
    ∃ e ∈ es, g.header = ⟨e.name, e.summary⟩ := by
  obtain ⟨e, rest, hcons, hheader⟩ := exists_entries_eq_cons h
  exact ⟨e, mem_of_mem_entries h (hcons ▸ List.mem_cons_self), hheader⟩

end ClassGroup

/-! ## The stub of a group -/

namespace GroupStub

/-- The functions that an entry gave, if it did not fail. -/
def found : Except Failure (List FunctionDoc) → List FunctionDoc
  | .ok fs => fs
  | .error _ => []

/-- How an entry failed, if it did. -/
def failed? : Except Failure (List FunctionDoc) → Option Failure
  | .ok _ => none
  | .error failure => some failure

/-- The functions of a group: those of its entries that did not fail, one after the other. -/
def functionsIn (fetch : Text → Except Failure Text) (g : ClassGroup) : List FunctionDoc :=
  g.entries.flatMap fun e => found (functionsOf fetch g.header.name e)

/-- The failures of a group, in the order of its entries. -/
def failuresIn (fetch : Text → Except Failure Text) (g : ClassGroup) : List Failure :=
  g.entries.filterMap fun e => failed? (functionsOf fetch g.header.name e)

theorem functions_append (owner : Identifier) (fs gs : List FunctionDoc) :
    Stub.functions owner (fs ++ gs) = Stub.functions owner fs ++ Stub.functions owner gs :=
  List.flatMap_append

/-- What the answers add to a stub: their functions and their failures, each in order. -/
theorem foldl_add (owner : Identifier) (s : GroupStub) (rs : List (Except Failure (List FunctionDoc))) :
    rs.foldl (add owner) s =
      ⟨s.text ++ Stub.functions owner (rs.flatMap found), s.count + (rs.flatMap found).length,
        s.failures ++ rs.filterMap failed?⟩ := by
  induction rs generalizing s with
  | nil => simp [Stub.functions]
  | cons r rs ih =>
    rw [List.foldl_cons, ih]
    cases r with
    | ok fs => simp [add, found, failed?, functions_append, Nat.add_assoc, List.filterMap_cons]
    | error failure => simp [add, found, failed?]

/-- The stub of a group, made at once: the program makes it answer by answer. -/
theorem ofGroup_eq (fetch : Text → Except Failure Text) (g : ClassGroup) :
    ofGroup fetch g =
      ⟨Stub.ofClass g.header (functionsIn fetch g), (functionsIn fetch g).length,
        failuresIn fetch g⟩ := by
  rw [ofGroup, foldl_add, List.flatMap_map, List.filterMap_map, Nat.zero_add, List.nil_append]
  rfl

end GroupStub

end DocStub
