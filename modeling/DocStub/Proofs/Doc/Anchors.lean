/-
  Cutting a text into its sections, and joining them again.

  1. **Parts** — a description and sections behind it can be joined if no part holds a keyword that is still to
     come (`Keyword.Free`, `Sections.Apart`).  The scan of any text gives such parts (`apart_scan`), so
     cutting and joining undo each other.  `HasParts` says that a text in its parts has these and no others.
  2. **Places** — the same cut, made by numbers of bytes.  `anchorsFrom` lists all keywords of a text with their
     places, `firsts` keeps the first one of each kind, and `bySlices?` takes the slice from behind each
     anchor to the next one.  A slice might not exist (`Text.slice?`).
  3. **The anchors are those of the scan** — a keyword that was seen already is passed in one step by
     `anchorsFrom`, and one character at a time by the scan.  No keyword begins inside another one, so
     both go on in the same way behind it (`scan_seen_keyword`), and the first anchors stand where the
     parts of the scan begin (`firsts_anchorsFrom`).
  4. **Every slice exists** — the slices of anchors that stand in front of parts are these parts
     (`mapM_slice?_ranges`), and the places are in order and boundaries of the text (`boundaries_ranges`).
-/
import DocStub.Proofs.Doc.IndependentSearch
import DocStub.Proofs.Text.Slices
import Mathlib.Data.List.Infix

namespace DocStub

open Text (byteLength slice? Boundaries IsBoundary)

namespace Keyword

instance (seen : List Keyword) (t : Text) : Decidable (Free seen t) :=
  decidable_of_iff (∀ k ∈ all, k ∉ seen → ¬ k.text <:+: t) ⟨fun h k => h k k.mem_all, fun h k _ => h k⟩

end Keyword

namespace Sections

open Keyword (Free)

/-! ## Parts -/

instance decidableApart : ∀ (seen : List Keyword) (parts : List (Keyword × Text)), Decidable (Apart seen parts)
  | _, [] => isTrue trivial
  | seen, (k, body) :: parts =>
    have : Decidable (Apart (k :: seen) parts) := decidableApart (k :: seen) parts
    inferInstanceAs (Decidable (k ∉ seen ∧ Free (k :: seen) body ∧ Apart (k :: seen) parts))

/-- The body of the section of a keyword. -/
def body? (s : Sections) : Keyword → Option Text
  | .usage => s.usage
  | .returns => s.returns
  | .parameters => s.parameters

/-- The text was cut into this description and these sections. -/
structure HasParts (s : Sections) (description : Text) (parts : List (Keyword × Text)) : Prop where
  description : s.description = description
  bodies : ∀ k b, s.body? k = some b ↔ (k, b) ∈ parts

/-- The section of a keyword is the first part that has this keyword. -/
theorem body?_ofFound (found : Text × List (Keyword × Text)) (k : Keyword) :
    (ofFound found).body? k = found.2.lookup k := by
  cases k <;> rfl

/-- A keyword that was seen before does not open a section again. -/
theorem not_mem_of_apart {seen : List Keyword} {parts : List (Keyword × Text)} (h : Apart seen parts)
    {k : Keyword} (hk : k ∈ seen) (b : Text) : (k, b) ∉ parts := by
  induction parts generalizing seen with
  | nil => exact List.not_mem_nil
  | cons p parts ih =>
    obtain ⟨hnew, -, hparts⟩ := h
    intro hmem
    rcases List.mem_cons.1 hmem with rfl | hmem
    · exact hnew hk
    · exact ih hparts (List.mem_cons_of_mem p.1 hk) hmem

/-- Each keyword opens one section at most, so the first one is the only one. -/
theorem lookup_eq_some_iff_mem {seen : List Keyword} {parts : List (Keyword × Text)} (h : Apart seen parts)
    (k : Keyword) (b : Text) : parts.lookup k = some b ↔ (k, b) ∈ parts := by
  induction parts generalizing seen with
  | nil => simp
  | cons p parts ih =>
    obtain ⟨j, a⟩ := p
    obtain ⟨-, -, hparts⟩ := h
    rw [List.lookup_cons, List.mem_cons]
    by_cases hj : k = j
    · subst hj
      have hnot : (k, b) ∉ parts := not_mem_of_apart hparts List.mem_cons_self b
      simp [hnot, eq_comm]
    · have hb : (k == j) = false := by simpa using hj
      simp [hb, hj, ih hparts]

/-- Sections made of parts have these parts and no others. -/
theorem hasParts_ofFound {description : Text} {parts : List (Keyword × Text)} (h : Apart [] parts) :
    (ofFound (description, parts)).HasParts description parts where
  description := rfl
  bodies k b := by rw [body?_ofFound, lookup_eq_some_iff_mem h]

/-- The parts of a scan can be joined: none holds a keyword that opens a later one. -/
theorem apart_scan (seen : List Keyword) (s : Text) :
    Free seen (scan seen s).1 ∧ Apart seen (scan seen s).2 := by
  -- a character in front of which no new keyword begins
  have hstep {seen : List Keyword} {c : Char} {r : Text}
      (hseen : ∀ k b, Keyword.cut? (c :: r) = some (k, b) → k ∈ seen) (ih : Free seen (scan seen r).1) :
      Free seen (c :: (scan seen r).1) := by
    intro k hk hin
    rcases List.infix_cons_iff.1 hin with hpre | hin
    · have hfront : c :: (scan seen r).1 <+: c :: r :=
        List.cons_prefix_cons.2 ⟨rfl, _, write_scan seen r⟩
      obtain ⟨b, hb⟩ := Keyword.cut?_of_prefix (hpre.trans hfront)
      exact hk (hseen k b hb)
    · exact ih k hk hin
  fun_induction scan seen s with
  | case1 => exact ⟨fun k _ hin => k.text_ne_nil (List.infix_nil.1 hin), trivial⟩
  | case2 seen c r k body hcut hk ih =>
    refine ⟨hstep (fun j b hj => ?_) ih.1, ih.2⟩
    obtain ⟨rfl, -⟩ := Prod.mk.inj (Option.some.inj (hcut.symm.trans hj))
    exact hk
  | case3 seen c r k body hcut hk ih =>
    exact ⟨fun k _ hin => k.text_ne_nil (List.infix_nil.1 hin), hk, ih⟩
  | case4 seen c r hcut ih =>
    refine ⟨hstep (fun j b hj => ?_) ih.1, ih.2⟩
    exact absurd (hcut.symm.trans hj) (by simp)

/-! ## Places -/

/-- A keyword in a text, the place where it begins, and the place behind it. -/
structure Anchor where
  keyword : Keyword
  start : Nat
  stop : Nat

/-- All keywords of a text that begins at the place `n`, one behind the other. -/
def anchorsFrom (n : Nat) : Text → List Anchor
  | [] => []
  | c :: r =>
    match _h : Keyword.cut? (c :: r) with
    | some (k, behind) =>
      ⟨k, n, n + byteLength k.text⟩ :: anchorsFrom (n + byteLength k.text) behind
    | none => anchorsFrom (n + c.utf8Size) r
  termination_by s => s.length
  decreasing_by
  · exact Keyword.length_lt_of_cut? _h
  · simp

/-- The first anchor of each keyword that is not among `seen`. -/
def firsts (seen : List Keyword) : List Anchor → List Anchor
  | [] => []
  | a :: as => if a.keyword ∈ seen then firsts seen as else a :: firsts (a.keyword :: seen) as

/-- The first anchor of each keyword, in the order of their places. -/
def anchors (blob : Text) : List Anchor :=
  (firsts [] (anchorsFrom 0 blob)).mergeSort fun a b => a.start ≤ b.start

/-- The two places of every slice: from `n` to the first anchor, from behind each anchor to the next one, and
    from behind the last one to the end. -/
def ranges (length n : Nat) : List Anchor → List (Nat × Nat)
  | [] => [(n, length)]
  | a :: as => (n, a.start) :: ranges length a.stop as

/-- The slices into which a documentation text is cut. -/
def cuts (blob : Text) : List (Nat × Nat) := ranges (byteLength blob) 0 (anchors blob)

/-- The places that slices use, in the order in which they are used. -/
def places (slices : List (Nat × Nat)) : List Nat := slices.flatMap fun r => [r.1, r.2]

/-- A documentation text in its parts, each part a slice; nothing, if a slice does not exist. -/
def bySlices? (blob : Text) : Option Sections :=
  match (cuts blob).mapM fun r => slice? r.1 r.2 blob with
  | some (description :: bodies) => some (ofFound (description, ((anchors blob).map (·.keyword)).zip bodies))
  | _ => none

/-! ## The anchors of a scan -/

/-- The anchors of sections that are written one after the other from the place `n` on. -/
def placed (n : Nat) : List (Keyword × Text) → List Anchor
  | [] => []
  | (k, b) :: parts =>
    ⟨k, n, n + byteLength k.text⟩ :: placed (n + byteLength k.text + byteLength b) parts

/-- Behind the first character of a keyword no other one begins. -/
theorem scan_behind {seen : List Keyword} {k : Keyword} {a b : Text} (hk : k.text = a ++ b) (ha : a ≠ [])
    (s : Text) : scan seen (b ++ s) = (b ++ (scan seen s).1, (scan seen s).2) := by
  induction b generalizing a with
  | nil => rfl
  | cons c b ih =>
    have hnone : ∀ j r, Keyword.cut? (c :: (b ++ s)) = some (j, r) → j ∈ seen := by
      intro j r hj
      have hpre : j.text <+: c :: b ++ s := ⟨r, (Keyword.eq_of_cut? hj).symm⟩
      exact absurd hpre (Keyword.not_prefix_of_append hk ha (List.cons_ne_nil c b))
    have hrest : k.text = (a ++ [c]) ++ b := by rw [hk, List.append_assoc, List.singleton_append]
    rw [List.cons_append, scan_of_seen hnone, ih hrest (by simp)]
    rfl

/-- A scan passes a keyword that it has seen. -/
theorem scan_seen_keyword {seen : List Keyword} {k : Keyword} (hk : k ∈ seen) (s : Text) :
    scan seen (k.text ++ s) = (k.text ++ (scan seen s).1, (scan seen s).2) := by
  obtain ⟨c, w, hw⟩ : ∃ c w, k.text = c :: w := by cases k <;> exact ⟨_, _, rfl⟩
  have hcut := Keyword.cut?_keyword k s
  rw [hw, List.cons_append] at hcut ⊢
  have hseen : ∀ j r, Keyword.cut? (c :: (w ++ s)) = some (j, r) → j ∈ seen := by
    intro j r hj
    obtain ⟨rfl, -⟩ := Prod.mk.inj (Option.some.inj (hcut.symm.trans hj))
    exact hk
  rw [scan_of_seen hseen, scan_behind (a := [c]) hw (by simp)]
  rfl

/-- The first anchors of a text are where the parts of its scan begin. -/
theorem firsts_anchorsFrom (seen : List Keyword) (n : Nat) (s : Text) :
    firsts seen (anchorsFrom n s) = placed (n + byteLength (scan seen s).1) (scan seen s).2 := by
  -- by the search for keywords, which is the one that goes in larger steps
  fun_induction anchorsFrom n s generalizing seen with
  | case1 n => rw [firsts, scan, placed]
  | case2 n c r k behind hcut ih =>
    have htext : c :: r = k.text ++ behind := Keyword.eq_of_cut? hcut
    rw [firsts, htext]
    by_cases hk : k ∈ seen
    · rw [if_pos hk, ih, scan_seen_keyword hk, Text.byteLength_append, Nat.add_assoc]
    · rw [if_neg hk, ih, scan_keyword hk, placed, Text.byteLength_nil, Nat.add_zero]
  | case3 n c r hcut ih =>
    have hnone : ∀ k b, Keyword.cut? (c :: r) = some (k, b) → k ∈ seen := by
      intro k b hk
      exact absurd (hcut.symm.trans hk) (by simp)
    rw [ih, scan_of_seen hnone, Text.byteLength_cons, Nat.add_assoc]

/-- Sections that are written from a place on do not begin in front of it. -/
theorem le_start_of_mem_placed {n : Nat} {parts : List (Keyword × Text)} {a : Anchor}
    (h : a ∈ placed n parts) : n ≤ a.start := by
  induction parts generalizing n with
  | nil => cases h
  | cons p parts ih =>
    rcases List.mem_cons.1 h with rfl | h
    · exact Nat.le_refl n
    · have hle := ih h
      omega

/-- Sections that are written one after the other begin one after the other. -/
theorem pairwise_placed (n : Nat) (parts : List (Keyword × Text)) :
    (placed n parts).Pairwise fun a b => decide (a.start ≤ b.start) = true := by
  induction parts generalizing n with
  | nil => exact List.Pairwise.nil
  | cons p parts ih =>
    refine List.pairwise_cons.2 ⟨fun a ha => ?_, ih _⟩
    have hle := le_start_of_mem_placed ha
    show decide (n ≤ a.start) = true
    rw [decide_eq_true_eq]
    omega

/-- The first anchors come in order, so sorting them changes nothing. -/
theorem anchors_eq (blob : Text) : anchors blob = placed (byteLength (scan [] blob).1) (scan [] blob).2 := by
  rw [anchors, firsts_anchorsFrom, Nat.zero_add, List.mergeSort_of_pairwise (pairwise_placed _ _)]

/-- The anchors have the keywords of the sections, in order. -/
theorem map_keyword_placed (n : Nat) (parts : List (Keyword × Text)) :
    (placed n parts).map (·.keyword) = parts.map (·.1) := by
  induction parts generalizing n with
  | nil => rfl
  | cons p parts ih => rw [placed, List.map_cons, List.map_cons, ih]

/-! ## Every slice exists -/

/-- What is in front of the first section, its keyword included, can be moved to the front of the rest. -/
theorem append_write_cons (front t b : Text) (k : Keyword) (parts : List (Keyword × Text)) :
    front ++ write t ((k, b) :: parts) = (front ++ t ++ k.text) ++ write b parts := by
  simp only [write, List.flatMap_cons, List.append_assoc]

section

variable {blob front t : Text} {parts : List (Keyword × Text)}

/-- The slices from behind `front` on are the parts that stand there. -/
theorem mapM_slice?_ranges (h : blob = front ++ write t parts) :
    (ranges (byteLength blob) (byteLength front) (placed (byteLength front + byteLength t) parts)).mapM
      (fun r => slice? r.1 r.2 blob) = some (t :: parts.map (·.2)) := by
  induction parts generalizing front t with
  | nil =>
    have hblob : blob = front ++ t ++ [] := by rw [h, write, List.flatMap_nil, List.append_assoc]
    have hlength : byteLength blob = byteLength front + byteLength t := by rw [hblob]; simp
    have hslice := Text.slice?_append front t []
    rw [← hblob, ← hlength] at hslice
    rw [placed, ranges, List.mapM_cons, hslice]
    rfl
  | cons p parts ih =>
    obtain ⟨k, b⟩ := p
    rw [append_write_cons] at h
    have hslice : slice? (byteLength front) (byteLength front + byteLength t) blob = some t := by
      rw [h, List.append_assoc (front ++ t)]
      exact Text.slice?_append front t _
    -- the next slice begins behind the part `t` and the keyword
    have ih := ih h
    simp only [Text.byteLength_append] at ih
    rw [placed, ranges, List.mapM_cons, hslice, ih]
    rfl

/-- No character lies across a place of these slices. -/
theorem boundaries_ranges (h : blob = front ++ write t parts) :
    Boundaries blob (byteLength front) (places (ranges (byteLength blob) (byteLength front)
      (placed (byteLength front + byteLength t) parts))) := by
  induction parts generalizing front t with
  -- the last slice goes to the end of the text
  | nil =>
    have hblob : blob = front ++ t := by rw [h, write, List.flatMap_nil, List.append_nil]
    have hlength : byteLength blob = byteLength front + byteLength t := by rw [hblob, Text.byteLength_append]
    have hfront : IsBoundary blob (byteLength front) := ⟨front, t, hblob, rfl⟩
    have hend : IsBoundary blob (byteLength front + byteLength t) := ⟨blob, [], by simp, hlength⟩
    rw [placed, ranges, hlength]
    exact .cons hfront (Nat.le_add_right _ _) (.cons hend (Nat.le_refl _) (.nil _ _))
  | cons p parts ih =>
    -- the slice in front of a keyword; the keyword then belongs to what is in front of the others
    obtain ⟨k, b⟩ := p
    rw [append_write_cons] at h
    have hfront : IsBoundary blob (byteLength front) := ⟨front, t ++ k.text ++ write b parts, by simp [h], rfl⟩
    have ht : IsBoundary blob (byteLength front + byteLength t) :=
      ⟨front ++ t, k.text ++ write b parts, by simp [h], Text.byteLength_append front t⟩
    have ih := ih h
    simp only [Text.byteLength_append] at ih
    rw [placed, ranges]
    exact .cons hfront (Nat.le_add_right _ _) (.cons ht (Nat.le_add_right _ _) ih)

end

/-- The slices of a text are its parts. -/
theorem bySlices?_eq (blob : Text) : bySlices? blob = some (split blob) := by
  have hblob : blob = [] ++ write (scan [] blob).1 (scan [] blob).2 := (write_scan [] blob).symm
  have hslices := mapM_slice?_ranges hblob
  rw [Text.byteLength_nil, Nat.zero_add, ← anchors_eq] at hslices
  rw [bySlices?, cuts, hslices]
  show some (ofFound (_, _)) = _
  rw [anchors_eq, map_keyword_placed, List.zip_map', split]
  simp

/-- The places of the cuts come in order, and none of them is inside a character. -/
theorem boundaries_cuts (blob : Text) : Boundaries blob 0 (places (cuts blob)) := by
  have hblob : blob = [] ++ write (scan [] blob).1 (scan [] blob).2 := (write_scan [] blob).symm
  have hranges := boundaries_ranges hblob
  rw [Text.byteLength_nil, Nat.zero_add, ← anchors_eq] at hranges
  exact hranges

/-- The first character takes two bytes, and the second keyword is text. -/
example : cuts "é Usage: f Usage:".toList = [(0, 3), (9, 18)] := by decide +kernel

/-- **Cutting and joining.**  The parts of a text, joined, are the text, and parts that can be joined are found
    again.  The places where a text is cut come in order and lie on the boundaries of its characters, so the
    cut by slices succeeds, and gives the same parts. -/
theorem split_write :
    (∀ blob, ∃ description parts, Free [] description ∧ Apart [] parts
      ∧ (split blob).HasParts description parts ∧ blob = write description parts)
    ∧ (∀ description parts, Free [] description → Apart [] parts →
      (split (write description parts)).HasParts description parts)
    ∧ ∀ blob, (places (cuts blob)).Pairwise (· ≤ ·)
      ∧ (∀ n ∈ places (cuts blob), n ≤ byteLength blob ∧ IsBoundary blob n)
      ∧ bySlices? blob = some (split blob) := by
  refine ⟨?_, ?_, ?_⟩
  · intro blob
    obtain ⟨hd, hp⟩ := apart_scan [] blob
    exact ⟨(scan [] blob).1, (scan [] blob).2, hd, hp, hasParts_ofFound hp, (write_scan [] blob).symm⟩
  · intro description parts hd hp
    rw [split, scan_write hd hp]
    exact hasParts_ofFound hp
  · intro blob
    have hplaces : Boundaries blob 0 (places (cuts blob)) := boundaries_cuts blob
    refine ⟨hplaces.sorted, ?_, bySlices?_eq blob⟩
    intro n hn
    have hboundary : IsBoundary blob n := hplaces.boundary n hn
    exact ⟨Text.le_byteLength_of_isBoundary hboundary, hboundary⟩

/-- Keywords that were seen already stand in later sections, next to characters of several bytes. -/
theorem split_write_sample :
    let parts : List (Keyword × Text) :=
      [(.returns, " é\n".toList), (.usage, "Returns:Usage:\n".toList), (.parameters, "x Usage: y".toList)]
    Free [] "Zählt: Usage\n".toList ∧ Apart [] parts
      ∧ (split "Zählt: Usage\nReturns: é\nUsage:Returns:Usage:\nParameters:x Usage: y".toList).HasParts
        "Zählt: Usage\n".toList parts := by
  intro parts
  have hd : Free [] "Zählt: Usage\n".toList := by decide +kernel
  have hp : Apart [] parts := by decide +kernel
  have hparts := split_write.2.1 "Zählt: Usage\n".toList parts hd hp
  have htext : write "Zählt: Usage\n".toList parts
      = "Zählt: Usage\nReturns: é\nUsage:Returns:Usage:\nParameters:x Usage: y".toList := by decide +kernel
  rw [htext] at hparts
  exact ⟨hd, hp, hparts⟩

end Sections

end DocStub
