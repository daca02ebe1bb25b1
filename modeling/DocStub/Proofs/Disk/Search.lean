/-
  Finding the files of a directory by the end of their names.

  1. **Plain characters** — a text without a star, a question mark or an opening bracket is a pattern that
     means itself (`ofText_of_isPlain`).
  2. **Plain pieces** — the search follows them like a walk follows the pieces of a path, and the empty
     pieces between two slashes ask for directories, which are there (`search_plain`).
  3. **A star** — may stand for the front of a name (`fits_anyText`).  So the last piece of the pattern
     `base/*ending` allows exactly the names with this ending, whatever `base` means
     (`suffix_of_mem_filesMatching`).
  4. **A directory** — if `base` means itself, the pattern finds exactly the files in the directory whose names
     have the ending (`mem_filesMatching`).
-/
import DocStub.Disk.Search
import DocStub.Proofs.Disk.Walk

namespace DocStub

namespace Pattern

/-! ## Plain characters -/

/-- A character that means itself in a pattern. -/
def IsPlain (c : Char) : Prop := c ≠ '*' ∧ c ≠ '?' ∧ c ≠ '['

/-- Plain characters are read one by one, whatever stood in front of them. -/
theorem read_of_isPlain (total : Nat) (before : Option Char) {s : Text} (h : ∀ c ∈ s, IsPlain c) :
    Token.read total before s = .ok (s.map .char) := by
  induction s generalizing before with
  | nil =>
    rw [Token.read]
    rfl
  | cons c r ih =>
    obtain ⟨hstar, hmark, hbracket⟩ := h c List.mem_cons_self
    have ih := ih (some c) fun x hx => h x (List.mem_cons_of_mem c hx)
    rw [Token.read.eq_9 total before c r hmark (fun _ hc _ => hstar hc) (fun _ hc _ => hstar hc) hstar
      hbracket, ih]
    rfl

/-- A single star in front of plain characters. -/
theorem ofText_star {s : Text} (h : ∀ c ∈ s, IsPlain c) :
    Piece.ofText ('*' :: s) = .ok (.wild (.anyText :: s.map .char)) := by
  have hread : Token.ofText ('*' :: s) = .ok (.anyText :: s.map .char) := by
    -- a second star would make the first one mean any depth
    have hstar : ∀ r, s ≠ '*' :: r := by
      rintro r rfl
      exact (h '*' List.mem_cons_self).1 rfl
    rw [Token.ofText, Token.read.eq_7 _ none s (fun r he => hstar _ he) (fun r he => hstar _ he),
      read_of_isPlain _ _ h]
    rfl
  have hdepth : (Token.anyText :: s.map Token.char).contains .anyDepth = false := by
    simp [List.contains_eq_mem]
  rw [Piece.ofText, hread]
  show Except.ok (Piece.ofTokens (.anyText :: s.map .char)) = _
  rw [Piece.ofTokens]
  show Except.ok (if (Token.anyText :: s.map Token.char).contains .anyDepth then _ else _) = _
  rw [hdepth]
  rfl

/-- Tokens that are all characters spell a text. -/
theorem spelled?_map_char (s : Text) : Token.spelled? (s.map .char) = some s := by
  induction s with
  | nil => rfl
  | cons c r ih =>
    rw [List.map_cons, Token.spelled?, ih]
    rfl

/-- A plain text is a pattern that means itself. -/
theorem ofText_of_isPlain {s : Text} (h : ∀ c ∈ s, IsPlain c) : Piece.ofText s = .ok (.plain s) := by
  rw [Piece.ofText, Token.ofText, read_of_isPlain _ _ h]
  show Except.ok (Piece.ofTokens (s.map .char)) = _
  rw [Piece.ofTokens, spelled?_map_char]

/-! ## A star -/

/-- A pattern of characters fits the name that is spelled like it. -/
theorem fits_map_char {s name : Text} : Token.fits (s.map .char) name = true ↔ s = name := by
  induction s generalizing name with
  | nil =>
    rw [List.map_nil, Token.fits, List.isEmpty_iff]
    exact eq_comm
  | cons c r ih =>
    cases name with
    | nil => simp [Token.fits]
    | cons x name =>
      rw [List.map_cons, Token.fits]
      · rw [Bool.and_eq_true, ih, List.cons.injEq, Token.accepts, beq_iff_eq]
      all_goals simp

/-- The star stands for whatever is in front. -/
theorem fits_anyText {s name : Text} : Token.fits (.anyText :: s.map .char) name = true ↔ s <:+ name := by
  induction name with
  | nil => rw [Token.fits, fits_map_char, List.suffix_nil]
  | cons c r ih => rw [Token.fits, Bool.or_eq_true, fits_map_char, ih, List.suffix_cons_iff]

/-! ## The pattern of a directory -/

/-- What is joined to a path is the last piece of the pattern. -/
theorem pieces_of_ofText_join {base name : Text} {piece : Piece} {pattern : Pattern} (hname : '/' ∉ name)
    (hpiece : Piece.ofText name = .ok piece) (h : ofText (Path.join base name) = .ok pattern) :
    ∃ (names : List Text) (ps : List Piece), names.mapM Piece.ofText = .ok ps ∧
      pattern = ⟨Path.isRooted base, ps ++ [piece]⟩ ∧ names.filter (· != []) = Path.pieces base ∧
      (base = [] → names = []) ∧ ∀ n ∈ names, ∀ c ∈ n, c ∈ base := by
  obtain ⟨names, hsplit, hpieces, hempty, hmem⟩ := Path.exists_splitAt_join base hname
  obtain ⟨ts, -, h⟩ := bind_eq_ok.1 h
  obtain ⟨all, hall, h⟩ := bind_eq_ok.1 h
  rw [hsplit, List.mapM_append] at hall
  obtain ⟨ps, hps, hall⟩ := bind_eq_ok.1 hall
  rw [List.mapM_cons, hpiece] at hall
  refine ⟨names, ps, hps, ?_, hpieces, hempty, hmem⟩
  rw [← Except.ok.inj h, ← Except.ok.inj hall, Path.isRooted_join base hname]
  rfl

/-- The pieces of a plain path are plain pieces. -/
theorem mapM_ofText_of_isPlain {names : List Text} (h : ∀ n ∈ names, ∀ c ∈ n, IsPlain c) :
    names.mapM Piece.ofText = .ok (names.map .plain) := by
  induction names with
  | nil => rfl
  | cons n names ih =>
    rw [List.mapM_cons, ofText_of_isPlain (h n List.mem_cons_self),
      ih fun m hm => h m (List.mem_cons_of_mem n hm)]
    rfl

/-- The pieces of a pattern in a directory whose path means itself. -/
theorem eq_of_ofText_join {base name : Text} {piece : Piece} {pattern : Pattern}
    (hplain : ∀ c ∈ base, IsPlain c) (hname : '/' ∉ name) (hpiece : Piece.ofText name = .ok piece)
    (h : ofText (Path.join base name) = .ok pattern) :
    ∃ names : List Text, pattern = ⟨Path.isRooted base, names.map .plain ++ [piece]⟩ ∧
      names.filter (· != []) = Path.pieces base ∧ (base = [] → names = []) := by
  obtain ⟨names, ps, hps, rfl, hpieces, hempty, hmem⟩ := pieces_of_ofText_join hname hpiece h
  rw [mapM_ofText_of_isPlain fun n hn c hc => hplain c (hmem n hn c hc)] at hps
  rw [← Except.ok.inj hps]
  exact ⟨names, rfl, hpieces, hempty⟩

end Pattern

namespace Disk

open Pattern (IsPlain Piece Token)

/-! ## Following the pieces -/

/-- The empty pieces of a pattern are no pieces of the path, but they ask for a directory. -/
theorem search_plain {d : Disk} {p q : Location} {names : List Text} (rest : List Piece)
    (hwalk : d.walk q (names.filter (· != [])) = .ok p) (hdir : d.isDirectory p = true ∨ names = []) :
    d.search (names.map .plain ++ rest) q = d.search rest p := by
  induction names generalizing q with
  | nil =>
    obtain rfl : q = p := Except.ok.inj hwalk
    rfl
  | cons n names ih =>
    have hp : d.isDirectory p = true := hdir.resolve_right (List.cons_ne_nil n names)
    rw [List.map_cons, List.cons_append, search]
    by_cases hn : n = []
    · -- an empty piece: the walk leaves it out, and the search stays where it is
      subst hn
      rw [List.filter_cons_of_neg (by simp)] at hwalk
      have hq : d.isDirectory q = true := by
        cases hps : names.filter (· != []) with
        | nil =>
          rw [hps] at hwalk
          rw [Except.ok.inj hwalk]
          exact hp
        | cons x xs =>
          rw [hps] at hwalk
          exact isDirectory_of_walk_cons hwalk
      have hstep : d.step q Path.dot = .ok q := by
        rw [step, hq]
        rfl
      rw [follow, if_pos rfl, hstep]
      show [q].flatMap _ = _
      rw [List.flatMap_singleton]
      exact ih hwalk (Or.inl hp)
    · rw [List.filter_cons_of_pos (by simpa using hn), walk] at hwalk
      split at hwalk
      · next m hm =>
        rw [follow, if_neg hn, hm]
        show [m].flatMap _ = _
        rw [List.flatMap_singleton]
        exact ih hwalk (Or.inl hp)
      · cases hwalk

/-- What stands directly below a location is listed there. -/
theorem mem_children {d : Disk} {p : Location} {name : Text}
    (h : (d.find? (name :: p)).isSome = true) : name :: p ∈ d.children p := by
  refine List.mem_filter.2 ⟨?_, by simp [nameIn?]⟩
  obtain ⟨x, hx⟩ := Option.isSome_iff_exists.1 h
  obtain ⟨l₁, l₂, hitems, -⟩ := List.lookup_eq_some_iff.1 hx
  rw [hitems]
  simp

/-- What is listed at a location has one name more. -/
theorem exists_of_mem_children {d : Disk} {p q : Location} (h : q ∈ d.children p) : ∃ name, q = name :: p := by
  have hname := (List.mem_filter.1 h).2
  cases q with
  | nil => cases hname
  | cons name r =>
    rw [nameIn?] at hname
    split at hname
    · next hr => exact ⟨name, by rw [hr]⟩
    · cases hname

/-! ## The last piece -/

/-- A piece that begins with a star does not mean the directory itself. -/
theorem dotLocations_anyText (d : Disk) (p : Location) (ts : List Token) : d.dotLocations p (.anyText :: ts) = [] := by
  rw [dotLocations]
  simp

/-- What is found behind a first piece is found by the rest, or the first piece is the last one. -/
theorem mem_flatMap_search {d : Disk} {x w : Piece} {r : List Piece} {ms : List Location} {q : Location}
    (hlast : (x :: r).getLast? = some w) (hq : q ∈ ms.flatMap (d.search r)) :
    (r.getLast? = some w ∧ ∃ m, q ∈ d.search r m) ∨ x = w ∧ q ∈ ms := by
  obtain ⟨m, hm, hq⟩ := List.mem_flatMap.1 hq
  cases r with
  | nil =>
    obtain rfl : q = m := List.mem_singleton.1 hq
    exact Or.inr ⟨Option.some.inj hlast, hm⟩
  | cons y r => exact Or.inl ⟨by rwa [List.getLast?_cons_cons] at hlast, m, hq⟩

/-- Whatever stands in front of it, the last piece of a pattern allows the names of the locations found. -/
theorem named_of_mem_search {d : Disk} {ts : List Token} {q : Location} :
    ∀ {pieces : List Piece} {p : Location}, pieces.getLast? = some (.wild (.anyText :: ts)) →
      q ∈ d.search pieces p → named (.wild (.anyText :: ts)) q = true
  | [], _, hlast, _ => nomatch hlast
  | .plain name :: r, p, hlast, hq => by
    -- the recursion is that of the search; only a wild piece can be the last one
    rcases mem_flatMap_search hlast hq with ⟨hlast, m, hq⟩ | ⟨hx, -⟩
    · exact named_of_mem_search hlast hq
    · cases hx
  | .wild us :: r, p, hlast, hq => by
    rcases mem_flatMap_search hlast hq with ⟨hlast, m, hq⟩ | ⟨hx, hq⟩
    · exact named_of_mem_search hlast hq
    · obtain rfl := Piece.wild.inj hx
      rw [dotLocations_anyText, List.append_nil] at hq
      exact (List.mem_filter.1 hq).2
  | [.anyDepth], _, hlast, _ => nomatch hlast
  | .anyDepth :: .anyDepth :: r, p, hlast, hq => by
    rw [List.getLast?_cons_cons] at hlast
    exact named_of_mem_search hlast hq
  | .anyDepth :: .plain name :: r, p, hlast, hq => by
    rw [List.getLast?_cons_cons] at hlast
    rcases mem_flatMap_search hlast hq with ⟨hlast, m, hq⟩ | ⟨hx, -⟩
    · exact named_of_mem_search hlast hq
    · cases hx
  | .anyDepth :: .wild us :: r, p, hlast, hq => by
    rw [List.getLast?_cons_cons] at hlast
    rcases mem_flatMap_search hlast hq with ⟨hlast, m, hq⟩ | ⟨hx, hq⟩
    · exact named_of_mem_search hlast hq
    · rw [← hx]
      exact (List.mem_filter.1 hq).2

section

variable {d : Disk} {base ending : Text} {p q : Location} {pattern : Pattern}
  (hending : (∀ c ∈ ending, IsPlain c) ∧ '/' ∉ ending)
  (hpattern : Pattern.ofText (Path.join base ('*' :: ending)) = .ok pattern)
include hending hpattern

/-- Only files with this ending are found, wherever they stand. -/
theorem suffix_of_mem_filesMatching (h : q ∈ d.filesMatching pattern) : ∃ name r, q = name :: r ∧ ending <:+ name := by
  have hslash : '/' ∉ '*' :: ending := List.not_mem_cons_of_ne_of_not_mem (by decide) hending.2
  obtain ⟨-, ps, -, rfl, -⟩ := Pattern.pieces_of_ofText_join hslash (Pattern.ofText_star hending.1) hpattern
  have hnamed := named_of_mem_search (List.getLast?_concat ..) (List.mem_filter.1 h).1
  cases q with
  | nil => cases hnamed
  | cons name r => exact ⟨name, r, rfl, Pattern.fits_anyText.1 hnamed⟩

/-- The files that are found in a directory are those whose names end like this. -/
theorem mem_filesMatching (hbase : d.LeadsTo base p) (hplain : ∀ c ∈ base, IsPlain c) :
    q ∈ d.filesMatching pattern ↔ d.isFile q = true ∧ ∃ name, q = name :: p ∧ ending <:+ name := by
  have hslash : '/' ∉ '*' :: ending := List.not_mem_cons_of_ne_of_not_mem (by decide) hending.2
  obtain ⟨names, rfl, hpieces, hempty⟩ := Pattern.eq_of_ofText_join hplain hslash
    (Pattern.ofText_star hending.1) hpattern
  -- the plain pieces lead where the path leads, and there the last one is compared with the names
  have hwalk : d.walk (if Path.isRooted base then [] else d.here) (names.filter (· != [])) = .ok p := by
    rw [hpieces]
    exact hbase.walk
  have hsearch : d.search (names.map .plain ++ [.wild (.anyText :: ending.map .char)])
        (if Path.isRooted base then [] else d.here)
      = (d.children p).filter (named (.wild (.anyText :: ending.map .char))) := by
    rw [search_plain _ hwalk (hbase.directory.imp_right hempty), search, dotLocations_anyText, List.append_nil]
    exact List.flatMap_singleton' _
  rw [filesMatching, hsearch, List.mem_filter, List.mem_filter, and_comm]
  refine and_congr_right fun hfile => ⟨?_, ?_⟩
  · rintro ⟨hchild, hnamed⟩
    obtain ⟨name, rfl⟩ := exists_of_mem_children hchild
    exact ⟨name, rfl, Pattern.fits_anyText.1 hnamed⟩
  · rintro ⟨name, rfl, hname⟩
    obtain ⟨content, hfind⟩ := isFile_iff.1 hfile
    exact ⟨mem_children (by rw [hfind]; rfl), Pattern.fits_anyText.2 hname⟩

end

end Disk

end DocStub
