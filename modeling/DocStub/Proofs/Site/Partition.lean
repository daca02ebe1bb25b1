/-
  Grouping is a stable partition.

  1. **The specification** — `IsPartition es gs` says what the groups of the entries `es` are, not how they are
     found: the names are those of the entries, in the order in which they first occur; a group holds all
     entries of its name, in their order; its header tells the name and the summary of the first of them.
  2. **Grouping meets it** — the groups of `ofEntries` are such a partition, and there is no other
     (`IsPartition.eq_ofEntries`): two lists with the same members in the same order are one list.
  3. **Nothing is lost** — one more entry is one more entry in one group (`perm_add`), so all entries stand in the
     groups exactly as often as in the index.
  4. **Grouping again** — the crux is `foldl_add_entries`: the entries of a new group, added one after the
     other, build that group again.  So any groups with different names and fitting headers are the groups
     of their own entries (`ofEntries_entries`).
-/
import DocStub.Proofs.Site.Grouping

namespace DocStub

/-! ## Order of first occurrences -/

/-- Without repetitions, a list is in the order of first occurrences. -/
theorem pairwise_idxOf_eraseDups {α : Type*} [DecidableEq α] (l : List α) :
    l.eraseDups.Pairwise fun a b => l.idxOf a < l.idxOf b := by
  -- by the last element, which comes behind all others if it is new
  induction l using List.reverseRecOn with
  | nil => exact List.Pairwise.nil
  | append_singleton l a ih =>
    have hl : l.eraseDups.Pairwise fun x y => (l ++ [a]).idxOf x < (l ++ [a]).idxOf y := by
      refine ih.imp_of_mem ?_
      intro x y hx hy hxy
      rw [List.idxOf_append_of_mem (List.mem_eraseDups.1 hx),
        List.idxOf_append_of_mem (List.mem_eraseDups.1 hy)]
      exact hxy
    rw [eraseDups_concat]
    split
    · exact hl
    · next ha =>
      refine List.pairwise_append.2 ⟨hl, List.pairwise_singleton _ a, ?_⟩
      intro x hx y hy
      have hx : x ∈ l := List.mem_eraseDups.1 hx
      rw [List.mem_singleton.1 hy, List.idxOf_append_of_mem hx, List.idxOf_append_of_notMem ha]
      exact Nat.lt_add_right _ (List.idxOf_lt_length_of_mem hx)

namespace ClassGroup

/-! ## The specification -/

/-- The groups are those of the entries. -/
structure IsPartition (es : List ClassEntry) (gs : List ClassGroup) : Prop where
  /-- There is a group for every name, and for no other. -/
  names : ∀ n, n ∈ gs.map (·.header.name) ↔ n ∈ es.map (·.name)
  /-- The groups come in the order in which their names first occur. -/
  order : (gs.map (·.header.name)).Pairwise fun m n =>
    (es.map (·.name)).idxOf m < (es.map (·.name)).idxOf n
  /-- A group holds the entries of its name, in their order. -/
  entries : ∀ g ∈ gs, g.entries = es.filter (·.name = g.header.name)
  /-- A group has a first entry, which gives the header. -/
  header : ∀ g ∈ gs, ∃ e rest, g.entries = e :: rest ∧ g.header = ⟨e.name, e.summary⟩

/-- In a partition no name comes twice. -/
theorem IsPartition.nodup {es : List ClassEntry} {gs : List ClassGroup} (h : IsPartition es gs) :
    (gs.map (·.header.name)).Nodup := by
  refine h.order.imp ?_
  rintro m n hlt rfl
  exact Nat.lt_irrefl _ hlt

/-- The groups of the program are a partition of the entries. -/
theorem isPartition_ofEntries (es : List ClassEntry) : IsPartition es (ofEntries es) where
  names n := by rw [names_ofEntries, List.mem_eraseDups]
  order := by
    rw [names_ofEntries]
    exact pairwise_idxOf_eraseDups _
  entries g hg := by
    rw [eq_ofName hg]
    rfl
  header g hg := exists_entries_eq_cons hg

/-- A group is known from its name. -/
theorem IsPartition.eq_ofName {es : List ClassEntry} {gs : List ClassGroup} (h : IsPartition es gs)
    {g : ClassGroup} (hg : g ∈ gs) : g = ofName es g.header.name := by
  obtain ⟨e, rest, hcons, hheader⟩ := h.header g hg
  have hfilter : es.filter (·.name = g.header.name) = e :: rest := by rw [← h.entries g hg, hcons]
  rw [ofName_eq_of_filter hfilter, ← hcons]
  show g = ⟨⟨g.header.name, e.summary⟩, g.entries⟩
  rw [hheader, ← hheader]

/-- There is one partition only. -/
theorem IsPartition.eq_ofEntries {es : List ClassEntry} {gs : List ClassGroup} (h : IsPartition es gs) :
    gs = ofEntries es := by
  have hnames : gs.map (·.header.name) = (es.map (·.name)).eraseDups := by
    have hmem : (gs.map (·.header.name)).Perm (es.map (·.name)).eraseDups := by
      refine (List.perm_ext_iff_of_nodup h.nodup (nodup_eraseDups _)).2 fun n => ?_
      rw [h.names n, List.mem_eraseDups]
    refine hmem.eq_of_pairwise ?_ h.order (pairwise_idxOf_eraseDups _)
    intro m n _ _ hmn hnm
    omega
  have hgs : gs = (gs.map (·.header.name)).map (ofName es) := by
    rw [List.map_map]
    conv_lhs => rw [← List.map_id gs]
    exact List.map_congr_left fun g hg => h.eq_ofName hg
  rw [hgs, hnames, ofEntries_eq]

/-! ## Nothing is lost -/

/-- An entry goes into one group, and the entries that were there stay. -/
theorem perm_add (e : ClassEntry) (gs : List ClassGroup) :
    ((add e gs).flatMap (·.entries)).Perm (e :: gs.flatMap (·.entries)) := by
  induction gs with
  | nil => exact List.Perm.refl _
  | cons g gs ih =>
    rw [add]
    split
    · -- the entry comes to stand between its group and the others
      show (g.entries ++ [e] ++ gs.flatMap (·.entries)).Perm _
      rw [List.append_assoc]
      exact List.perm_middle
    · show (g.entries ++ (add e gs).flatMap (·.entries)).Perm _
      exact (ih.append_left g.entries).trans List.perm_middle

/-- The groups have the entries of the index, each as often as it is there. -/
theorem perm_entries_ofEntries (es : List ClassEntry) :
    ((ofEntries es).flatMap (·.entries)).Perm es := by
  induction es using List.reverseRecOn with
  | nil => exact List.Perm.refl _
  | append_singleton es e ih =>
    rw [ofEntries_concat]
    exact ((perm_add e _).trans (ih.cons e)).trans (List.perm_append_singleton e es).symm

/-! ## Grouping again -/

/-- An entry passes the groups of other names. -/
theorem add_append {e : ClassEntry} {gs : List ClassGroup} (h : e.name ∉ gs.map (·.header.name))
    (ks : List ClassGroup) : add e (gs ++ ks) = gs ++ add e ks := by
  induction gs with
  | nil => rfl
  | cons g gs ih =>
    obtain ⟨hg, hgs⟩ := not_or.1 (mt List.mem_cons.2 h)
    rw [List.cons_append, add, if_neg (Ne.symm hg), ih hgs, List.cons_append]

/-- Entries of the last group join it. -/
theorem foldl_add_last {gs : List ClassGroup} {g : ClassGroup} (hnew : g.header.name ∉ gs.map (·.header.name))
    {es : List ClassEntry} (hes : ∀ e ∈ es, e.name = g.header.name) :
    es.foldl (fun groups e => add e groups) (gs ++ [g]) = gs ++ [{ g with entries := g.entries ++ es }] := by
  induction es generalizing g with
  | nil => simp
  | cons e es ih =>
    obtain ⟨he, hes⟩ := List.forall_mem_cons.1 hes
    have hadd : add e (gs ++ [g]) = gs ++ [{ g with entries := g.entries ++ [e] }] := by
      rw [add_append (he ▸ hnew), add, if_pos he.symm]
    have ih := ih (g := { g with entries := g.entries ++ [e] }) hnew hes
    rw [List.foldl_cons, hadd, ih, List.append_assoc]
    rfl

/-- A group as one finds it by its entries. -/
structure IsSound (g : ClassGroup) : Prop where
  header : ∃ e rest, g.entries = e :: rest ∧ g.header = ⟨e.name, e.summary⟩
  name : ∀ e ∈ g.entries, e.name = g.header.name

/-- In a partition each group is one that its own entries would make. -/
theorem IsPartition.isSound {es : List ClassEntry} {gs : List ClassGroup} (h : IsPartition es gs)
    {g : ClassGroup} (hg : g ∈ gs) : g.IsSound where
  header := h.header g hg
  name e he := by
    rw [h.entries g hg] at he
    simpa using (List.mem_filter.1 he).2

/-- The entries of a new group, one after the other, make that group. -/
theorem foldl_add_entries {gs : List ClassGroup} {g : ClassGroup} (hg : g.IsSound)
    (hnew : g.header.name ∉ gs.map (·.header.name)) :
    g.entries.foldl (fun groups e => add e groups) gs = gs ++ [g] := by
  obtain ⟨e, rest, hcons, hheader⟩ := hg.header
  have hname : e.name = g.header.name := by rw [hheader]
  have hrest : ∀ k ∈ rest, k.name = (single e).header.name := by
    intro k hk
    rw [show (single e).header.name = g.header.name from hname]
    exact hg.name k (by rw [hcons]; exact List.mem_cons_of_mem e hk)
  have hsingle : (single e).header.name ∉ gs.map (·.header.name) := by
    show e.name ∉ _
    rwa [hname]
  -- the first entry makes the group, and the others join it
  rw [hcons, List.foldl_cons, add_of_not_mem hsingle, foldl_add_last hsingle hrest]
  show gs ++ [⟨⟨e.name, e.summary⟩, e :: rest⟩] = gs ++ [g]
  rw [← hheader, ← hcons]

/-- Different groups are the groups of their entries. -/
theorem ofEntries_entries {gs : List ClassGroup} (hgs : ∀ g ∈ gs, g.IsSound)
    (hnodup : (gs.map (·.header.name)).Nodup) : ofEntries (gs.flatMap (·.entries)) = gs := by
  induction gs using List.reverseRecOn with
  | nil => rfl
  | append_singleton gs g ih =>
    obtain ⟨hgs, hg⟩ := List.forall_mem_append.1 hgs
    rw [List.map_append, List.nodup_append] at hnodup
    obtain ⟨hnodup, -, hapart⟩ := hnodup
    have hnew : g.header.name ∉ gs.map (·.header.name) :=
      fun hmem => hapart _ hmem g.header.name List.mem_cons_self rfl
    have ih : (gs.flatMap (·.entries)).foldl (fun groups e => add e groups) [] = gs := ih hgs hnodup
    rw [ofEntries, List.flatMap_append, List.foldl_append, ih, List.flatMap_singleton]
    exact foldl_add_entries (hg g List.mem_cons_self) hnew

/-! ## The groups of an index -/

/-- **Grouping is a stable partition.**  The groups are the one partition of the entries; their names differ, and every
    entry stands in them as often as it was given; and the entries, group by group, give the same groups. -/
theorem isPartition_iff_eq_ofEntries (es : List ClassEntry) :
    (∀ gs, IsPartition es gs ↔ gs = ofEntries es)
    ∧ ((ofEntries es).map (·.header.name)).Nodup
    ∧ ((ofEntries es).flatMap (·.entries)).Perm es
    ∧ ofEntries ((ofEntries es).flatMap (·.entries)) = ofEntries es := by
  have hes : IsPartition es (ofEntries es) := isPartition_ofEntries es
  refine ⟨fun gs => ?_, hes.nodup, perm_entries_ofEntries es, ?_⟩
  · constructor
    · intro h
      exact h.eq_ofEntries
    · intro h
      rw [h]
      exact hes
  · exact ofEntries_entries (fun g hg => hes.isSound hg) hes.nodup

end ClassGroup

end DocStub
