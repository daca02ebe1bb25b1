/-
  The sections of a text, found by a search for each keyword on its own.

  1. **The other way** — `Text.offset?` searches the whole text for one word.  `Sections.bySearch` asks it
     for each of the three keywords, and cuts the text at the answers: a section goes from behind its
     keyword to the next offset of another one.
  2. **Where a scan finds a keyword** — `place?` is the place of a keyword among the parts of a scan.  It is
     the offset of the first occurrence in the whole text (`offset?_eq_place?`), although the scan
     goes on behind each keyword it has found: no keyword begins inside another one, so none is missed
     there.
  3. **What stands between** — the parts stand in the order of their places (`place?_append`,
     `lt_or_place?_eq_of_place?_append`).  So the next offset of another keyword is the end of the part, and
     both ways agree (`split_eq_bySearch`).
-/
import DocStub.Proofs.Doc.Sections

namespace DocStub

namespace Text

/-! ## Searching for a word -/

/-- The offset of the first occurrence of `w` in `s`. -/
def offset? (w s : Text) : Option Nat :=
  (List.range (s.length + 1)).find? fun i => w.isPrefixOf (s.drop i)

variable {w : Text}

theorem offset?_nil (hw : w ≠ []) : offset? w [] = none := by
  cases w with
  | nil => exact absurd rfl hw
  | cons c w => rfl

/-- A word at the front is found at once. -/
theorem offset?_of_prefix {s : Text} (h : w <+: s) : offset? w s = some 0 := by
  have hzero : w.isPrefixOf (s.drop 0) = true := List.isPrefixOf_iff_prefix.2 h
  rw [offset?, List.range_succ_eq_map]
  exact List.find?_cons_of_pos (p := fun i => w.isPrefixOf (s.drop i)) hzero

/-- A word that is not at the front is searched for behind the first character. -/
theorem offset?_cons {c : Char} {s : Text} (h : ¬ w <+: c :: s) :
    offset? w (c :: s) = (offset? w s).map (· + 1) := by
  let begins := fun i => w.isPrefixOf ((c :: s).drop i)
  have hzero : ¬ begins 0 = true := fun hp => h (List.isPrefixOf_iff_prefix.1 hp)
  show (List.range ((s.length + 1) + 1)).find? begins = _
  rw [List.range_succ_eq_map, List.find?_cons_of_neg hzero, List.find?_map]
  rfl

/-- A word that does not begin in the front part is found behind it. -/
theorem offset?_append {t s : Text} (h : ∀ a b, t = a ++ b → b ≠ [] → ¬ w <+: b ++ s) :
    offset? w (t ++ s) = (offset? w s).map (· + t.length) := by
  induction t with
  | nil => simp
  | cons c t ih =>
    have htail : ∀ a b, t = a ++ b → b ≠ [] → ¬ w <+: b ++ s := fun a b ht hb =>
      h (c :: a) b (by rw [ht, List.cons_append]) hb
    have hhere : ¬ w <+: c :: (t ++ s) := h [] (c :: t) rfl (List.cons_ne_nil c t)
    rw [List.cons_append, offset?_cons hhere, ih htail, Option.map_map]
    rfl

end Text

namespace Keyword

/-- No keyword begins behind the first character of another one. -/
theorem not_prefix_of_append {j k : Keyword} {a b s : Text} (hk : k.text = a ++ b) (ha : a ≠ [])
    (hb : b ≠ []) : ¬ j.text <+: b ++ s := by
  intro hp
  obtain ⟨x, w, hj⟩ : ∃ x w, j.text = x :: w := by cases j <;> exact ⟨_, _, rfl⟩
  have hcut := isCut_keyword j []
  obtain ⟨y, a, rfl⟩ := List.exists_cons_of_ne_nil ha
  obtain ⟨z, b, rfl⟩ := List.exists_cons_of_ne_nil hb
  obtain ⟨rfl, -⟩ := List.cons_prefix_cons.1 (hj ▸ hp)
  refine hcut x (by rw [hj]; rfl) k ?_
  rw [hk]
  exact List.mem_append_right a List.mem_cons_self

/-- Of two keywords at the front of a text one is the other. -/
theorem eq_of_prefix_of_text {j k : Keyword} {s : Text} (h : j.text <+: k.text ++ s) : j = k := by
  obtain ⟨r, hr⟩ := h
  have hcut := cut?_keyword k s
  rw [← hr, cut?_keyword] at hcut
  exact congrArg Prod.fst (Option.some.inj hcut)

/-- If a keyword stands at the front, the text can be cut there: no two keywords begin alike. -/
theorem cut?_of_prefix {k : Keyword} {s : Text} (h : k.text <+: s) : ∃ r, cut? s = some (k, r) := by
  obtain ⟨r, rfl⟩ := h
  exact ⟨r, cut?_keyword k r⟩

/-- Behind the keyword `k` another one is where it is in the text that follows. -/
theorem offset?_append {j k : Keyword} (h : j ≠ k) (s : Text) :
    Text.offset? j.text (k.text ++ s) = (Text.offset? j.text s).map (· + k.text.length) := by
  refine Text.offset?_append fun a b hk hb hp => ?_
  cases a with
  | nil => exact h (eq_of_prefix_of_text (by rw [hk]; exact hp))
  | cons c a => exact not_prefix_of_append hk (List.cons_ne_nil c a) hb hp

end Keyword

namespace Sections

/-! ## The sections by three searches -/

/-- The offsets of those of the keywords that occur. -/
def offsets (ks : List Keyword) (blob : Text) : List Nat := ks.filterMap fun k => Text.offset? k.text blob

/-- The smallest of some offsets, or the end of the text if there are none. -/
def firstOf (offsets : List Nat) (blob : Text) : Nat := offsets.min?.getD blob.length

/-- The section of a keyword: from behind its first occurrence to the next first occurrence of another
    keyword, or to the end. -/
def sectionBySearch (blob : Text) (k : Keyword) : Option Text :=
  (Text.offset? k.text blob).map fun start =>
    let others := (offsets (Keyword.all.filter (· ≠ k)) blob).filter (start < ·)
    (blob.take (firstOf others blob)).drop (start + k.text.length)

/-- A documentation text in its parts, each keyword searched for on its own. -/
def bySearch (blob : Text) : Sections :=
  { description := blob.take (firstOf (offsets Keyword.all blob) blob)
    usage := sectionBySearch blob .usage
    returns := sectionBySearch blob .returns
    parameters := sectionBySearch blob .parameters }

/-! ## Where a scan finds a keyword -/

/-- The sections as they are written one after the other. -/
def body (parts : List (Keyword × Text)) : Text := parts.flatMap fun p => p.1.text ++ p.2

/-- The place of the section of `k` among parts that begin at the offset `n`. -/
def place? (k : Keyword) : Nat → List (Keyword × Text) → Option Nat
  | _, [] => none
  | n, (j, b) :: parts => if j = k then some n else place? k (n + j.text.length + b.length) parts

/-- The places move with the place where the parts begin. -/
theorem place?_add (k : Keyword) (m n : Nat) (parts : List (Keyword × Text)) :
    place? k (n + m) parts = (place? k n parts).map (· + m) := by
  induction parts generalizing n with
  | nil => rfl
  | cons p parts ih =>
    obtain ⟨j, b⟩ := p
    rw [place?, place?]
    split
    · rfl
    · rw [← ih]
      congr 1
      omega

/-- A keyword that was not seen before occurs first where its section begins. -/
theorem offset?_eq_place? {seen : List Keyword} {k : Keyword} (s : Text) (hk : k ∉ seen) :
    Text.offset? k.text s = place? k (scan seen s).1.length (scan seen s).2 := by
  -- a character that belongs to the text in front of the first section
  have hstep {seen : List Keyword} {c : Char} {r : Text} (hnot : ¬ k.text <+: c :: r)
      (ih : Text.offset? k.text r = place? k (scan seen r).1.length (scan seen r).2) :
      Text.offset? k.text (c :: r)
        = place? k (c :: (scan seen r).1).length (scan seen r).2 := by
    rw [Text.offset?_cons hnot, ih, List.length_cons, place?_add]
  fun_induction scan seen s with
  | case1 => exact Text.offset?_nil k.text_ne_nil
  | case2 seen c r j b hcut hj ih =>
    refine hstep (fun hp => ?_) (ih hk)
    obtain ⟨t, ht⟩ := Keyword.cut?_of_prefix hp
    obtain ⟨rfl, -⟩ := Prod.mk.inj (Option.some.inj (ht.symm.trans hcut))
    exact hk hj
  | case3 seen c r j b hcut hj ih =>
    have htext : c :: r = j.text ++ b := Keyword.eq_of_cut? hcut
    rw [htext, place?]
    by_cases h : j = k
    · subst h
      rw [if_pos rfl]
      exact Text.offset?_of_prefix (List.prefix_append _ _)
    · have hnew : k ∉ j :: seen := by
        intro hmem
        rcases List.mem_cons.1 hmem with he | hmem
        · exact h he.symm
        · exact hk hmem
      rw [if_neg h, Keyword.offset?_append (Ne.symm h), ih hnew, ← place?_add]
      congr 1
      simp only [List.length_nil]
      omega
  | case4 seen c r hcut ih =>
    refine hstep (fun hp => ?_) (ih hk)
    obtain ⟨t, ht⟩ := Keyword.cut?_of_prefix hp
    exact absurd (ht.symm.trans hcut) (by simp)

/-! ## The order of the parts -/

/-- No section stands in front of the place where the parts begin. -/
theorem le_of_place? {k : Keyword} {m n : Nat} {parts : List (Keyword × Text)}
    (h : place? k n parts = some m) : n ≤ m := by
  induction parts generalizing n with
  | nil => exact absurd h (by simp [place?])
  | cons p parts ih =>
    rw [place?] at h
    split at h
    · exact Nat.le_of_eq (Option.some.inj h)
    · have := ih h
      omega

/-- Parts with other keywords take room, and nothing more. -/
theorem place?_append {k : Keyword} {front : List (Keyword × Text)} (h : k ∉ front.map (·.1)) (n : Nat)
    (parts : List (Keyword × Text)) :
    place? k n (front ++ parts) = place? k (n + (body front).length) parts := by
  induction front generalizing n with
  | nil => rfl
  | cons p front ih =>
    obtain ⟨j, b⟩ := p
    rw [List.map_cons, List.mem_cons, not_or] at h
    rw [List.cons_append, place?, if_neg (Ne.symm h.1), ih h.2]
    congr 1
    simp only [body, List.flatMap_cons, List.length_append]
    omega

/-- What is found among the parts is found in front of a section, or behind it. -/
theorem lt_or_place?_eq_of_place?_append {j k : Keyword} (hj : j ≠ k) {m n : Nat} {b : Text}
    {front back : List (Keyword × Text)} (h : place? j n (front ++ (k, b) :: back) = some m) :
    m < n + (body front).length
      ∨ place? j (n + (body front).length + k.text.length + b.length) back = some m := by
  -- by the sections in front of that of `k`
  induction front generalizing n with
  | nil =>
    rw [List.nil_append, place?, if_neg (Ne.symm hj)] at h
    exact Or.inr h
  | cons p front ih =>
    obtain ⟨i, a⟩ := p
    have hlength : (body ((i, a) :: front)).length
        = i.text.length + a.length + (body front).length := by
      simp only [body, List.flatMap_cons, List.length_append]
    have hpos : 0 < i.text.length := List.length_pos_iff.2 i.text_ne_nil
    rw [List.cons_append, place?] at h
    rw [hlength]
    split at h
    · have := Option.some.inj h
      exact Or.inl (by omega)
    · rcases ih h with hlt | hback
      · exact Or.inl (by omega)
      · refine Or.inr ?_
        rw [← hback]
        congr 1
        omega

/-- A scan opens no section twice, and none that was seen before. -/
theorem nodup_scan (seen : List Keyword) (s : Text) :
    ((scan seen s).2.map (·.1)).Nodup ∧ ∀ k ∈ (scan seen s).2.map (·.1), k ∉ seen := by
  fun_induction scan seen s with
  | case1 => exact ⟨List.nodup_nil, fun _ h => absurd h List.not_mem_nil⟩
  | case2 seen c r k b hcut hk ih => exact ih
  | case3 seen c r k b hcut hk ih =>
    obtain ⟨hnodup, hnew⟩ := ih
    refine ⟨List.nodup_cons.2 ⟨fun hmem => hnew k hmem List.mem_cons_self, hnodup⟩, fun j hj => ?_⟩
    rcases List.mem_cons.1 hj with rfl | hj
    · exact hk
    · exact fun hmem => hnew j hj (List.mem_cons_of_mem k hmem)
  | case4 seen c r hcut ih => exact ih

/-! ## Both ways agree -/

/-- An offset that is not behind any other is the first of them. -/
theorem firstOf_eq {offsets : List Nat} {blob : Text} {n : Nat} (hmem : n ∈ offsets)
    (hle : ∀ m ∈ offsets, n ≤ m) : firstOf offsets blob = n := by
  rw [firstOf, List.min?_eq_some_iff.2 ⟨hmem, hle⟩]
  rfl

/-- The offsets are those of the keywords that occur. -/
theorem mem_offsets {ks : List Keyword} {blob : Text} {n : Nat} :
    n ∈ offsets ks blob ↔ ∃ k ∈ ks, Text.offset? k.text blob = some n := List.mem_filterMap

section

variable {blob t : Text} {parts : List (Keyword × Text)}

/-- The parts of a scan, put together, are the text. -/
theorem eq_append_of_scan (h : scan [] blob = (t, parts)) : t ++ body parts = blob := by
  have hwrite := write_scan [] blob
  rwa [h] at hwrite

/-- A search for a keyword ends where the scan has its section. -/
theorem offset?_eq_place?_of_scan (h : scan [] blob = (t, parts)) (k : Keyword) :
    Text.offset? k.text blob = place? k t.length parts := by
  have hnew : k ∉ ([] : List Keyword) := List.not_mem_nil
  have hplace := offset?_eq_place? blob hnew
  rwa [h] at hplace

/-- A scan opens each section once. -/
theorem nodup_of_scan (h : scan [] blob = (t, parts)) : (parts.map (·.1)).Nodup := by
  have hnodup := (nodup_scan [] blob).1
  rwa [h] at hnodup

/-- The smallest offset of all ends the description. -/
theorem description_eq (h : scan [] blob = (t, parts)) :
    t = blob.take (firstOf (offsets Keyword.all blob) blob) := by
  have hplace := offset?_eq_place?_of_scan h
  have hblob := eq_append_of_scan h
  cases parts with
  -- no keyword at all: the description is the whole text
  | nil =>
    have hnone : offsets Keyword.all blob = [] := by
      refine List.filterMap_eq_nil_iff.2 fun k _ => ?_
      rw [hplace]
      rfl
    rw [hnone, ← hblob]
    simp [firstOf, body]
  | cons p parts =>
    -- the first section stands directly behind the description, and no other one in front of it
    obtain ⟨k, b⟩ := p
    have hfirst : firstOf (offsets Keyword.all blob) blob = t.length := by
      refine firstOf_eq (mem_offsets.2 ⟨k, k.mem_all, ?_⟩) fun m hm => ?_
      · rw [hplace, place?, if_pos rfl]
      · obtain ⟨j, -, hj⟩ := mem_offsets.1 hm
        exact le_of_place? ((hplace j).symm.trans hj)
    rw [hfirst, ← hblob, List.take_left]

/-- The next offset of another keyword is the end of the section of `k`. -/
theorem firstOf_others {n : Nat} {k : Keyword} {b : Text} {front back : List (Keyword × Text)}
    (hplace : ∀ j : Keyword, Text.offset? j.text blob = place? j n (front ++ (k, b) :: back))
    (hnodup : ((front ++ (k, b) :: back).map (·.1)).Nodup) {start stop : Nat}
    (hstart : start = n + (body front).length) (hstop : stop = start + k.text.length + b.length)
    (hlength : blob.length = stop + (body back).length) :
    firstOf ((offsets (Keyword.all.filter (· ≠ k)) blob).filter (start < ·)) blob = stop := by
  subst hstart
  -- the offsets behind the start are those of the sections behind this one
  have hbehind : ∀ m ∈ (offsets (Keyword.all.filter (· ≠ k)) blob).filter
      (n + (body front).length < ·), ∃ j, place? j stop back = some m := by
    intro m hm
    obtain ⟨hm, hlt⟩ := List.mem_filter.1 hm
    obtain ⟨j, hj, hoffset⟩ := mem_offsets.1 hm
    have hne : j ≠ k := by simpa using (List.mem_filter.1 hj).2
    have hlt : n + (body front).length < m := by simpa using hlt
    rcases lt_or_place?_eq_of_place?_append hne ((hplace j).symm.trans hoffset) with hbefore | hback
    · omega
    · exact ⟨j, hstop ▸ hback⟩
  cases back with
  | nil =>
    have hnone : (offsets (Keyword.all.filter (· ≠ k)) blob).filter
        (n + (body front).length < ·) = [] := by
      refine List.eq_nil_iff_forall_not_mem.2 fun m hm => ?_
      obtain ⟨j, hj⟩ := hbehind m hm
      exact absurd hj (by simp [place?])
    rw [hnone, firstOf, List.min?_nil, Option.getD_none]
    exact hlength
  | cons p back =>
    obtain ⟨j, a⟩ := p
    rw [List.map_append, List.map_cons, List.map_cons] at hnodup
    obtain ⟨-, hrest, hapart⟩ := List.nodup_append.1 hnodup
    have hne : j ≠ k := fun he => (List.nodup_cons.1 hrest).1 (he ▸ List.mem_cons_self)
    have hnot : j ∉ front.map (·.1) := fun hmem =>
      hapart j hmem j (List.mem_cons_of_mem k List.mem_cons_self) rfl
    have hnext : Text.offset? j.text blob = some stop := by
      rw [hplace, place?_append hnot, place?, if_neg (Ne.symm hne), place?, if_pos rfl, hstop]
    have hpos : 0 < k.text.length := List.length_pos_iff.2 k.text_ne_nil
    have hmem : j ∈ Keyword.all.filter (· ≠ k) := List.mem_filter.2 ⟨j.mem_all, by simpa using hne⟩
    refine firstOf_eq (List.mem_filter.2 ⟨mem_offsets.2 ⟨j, hmem, hnext⟩, ?_⟩) fun m hm => ?_
    · rw [decide_eq_true_eq]
      omega
    · obtain ⟨i, hi⟩ := hbehind m hm
      exact le_of_place? hi

/-- The text between the two offsets is the section. -/
theorem section_eq (h : scan [] blob = (t, parts)) (k : Keyword) :
    parts.lookup k = sectionBySearch blob k := by
  have hplace := offset?_eq_place?_of_scan h
  cases hlookup : parts.lookup k with
  | none =>
    -- what the scan does not open does not occur
    have hnot : k ∉ parts.map (·.1) := by
      intro hmem
      obtain ⟨p, hp, rfl⟩ := List.mem_map.1 hmem
      simpa using List.lookup_eq_none_iff.1 hlookup p hp
    have hnone := place?_append hnot t.length []
    rw [List.append_nil] at hnone
    rw [sectionBySearch, hplace, hnone]
    rfl
  | some b =>
    -- the parts in front of the section, and those behind it
    obtain ⟨front, back, rfl, hfront⟩ := List.lookup_eq_some_iff.1 hlookup
    have hnot : k ∉ front.map (·.1) := by
      intro hmem
      obtain ⟨p, hp, rfl⟩ := List.mem_map.1 hmem
      simpa using hfront p hp
    have hstart : Text.offset? k.text blob = some (t.length + (body front).length) := by
      rw [hplace, place?_append hnot, place?, if_pos rfl]
    have hblob : (t ++ body front ++ k.text) ++ b ++ body back = blob := by
      rw [← eq_append_of_scan h]
      simp only [body, List.flatMap_append, List.flatMap_cons, List.append_assoc]
    have hbefore : (t ++ body front ++ k.text).length
        = t.length + (body front).length + k.text.length := by
      simp only [List.length_append]
    have hupto : ((t ++ body front ++ k.text) ++ b).length
        = t.length + (body front).length + k.text.length + b.length := by
      rw [List.length_append, hbefore]
    have hstop := firstOf_others hplace (nodup_of_scan h) rfl rfl
      (by rw [← hblob, List.length_append, hupto])
    rw [sectionBySearch, hstart]
    show some b = some ((blob.take (firstOf _ blob)).drop _)
    rw [hstop, ← hblob, ← hupto, List.take_left, ← hbefore, List.drop_left]

end

/-- One scan finds what three searches find. -/
theorem split_eq_bySearch (blob : Text) : split blob = bySearch blob := by
  have hscan : scan [] blob = ((scan [] blob).1, (scan [] blob).2) := rfl
  have hdescription := description_eq hscan
  have hsection := section_eq hscan
  rw [split, ofFound, bySearch, ← hdescription, hsection, hsection, hsection]

/-- The second occurrence of a keyword ends no section, for the scan and for the searches. -/
example :
    let blob := "Returns: a Usage: b Returns: c".toList
    let found : Sections := ⟨[], some " b Returns: c".toList, some " a ".toList, none⟩
    split blob = found ∧ bySearch blob = found := by
  decide +kernel

end Sections

end DocStub
