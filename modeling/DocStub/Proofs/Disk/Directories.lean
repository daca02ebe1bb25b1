/-
  Making directories, and removing files.

  1. **Growth** — a disk that only gains items (`Grows`) keeps every walk that succeeded (`walk_of_grows`).
     A new directory stands where nothing stood, so it is such a gain.
  2. **Making** — when `makeDirectories` succeeds, the path leads to a directory
     (`exists_leadsTo_of_makeDirectories`): either the last piece was made just now, or it was there.
  3. **Nothing but directories** — whether it succeeds or not, `makeDirectories` changes nothing but that
     directories stand where nothing stood (`gainsDirectories_makeDirectories`).
  4. **Removing** — `eraseAll` empties the locations it is given (`find?_eraseAll`); if these hold files only,
     no directory is lost (`sameDirectories_eraseAll`).
-/
import DocStub.Disk.Search
import DocStub.Proofs.Disk.Walk

namespace DocStub.Disk

/-! ## Growth -/

/-- Everything that stands on the first disk stands on the second. -/
structure Grows (d d' : Disk) : Prop where
  here : d'.here = d.here
  kept : ∀ p x, d.find? p = some x → d'.find? p = some x

/-- What is put at a free location is a gain. -/
theorem grows_put {d : Disk} {p : Location} (h : d.find? p = none) (x : Item) : Grows d (d.put p x) where
  here := rfl
  kept q y hq := by
    have hne : q ≠ p := by
      rintro rfl
      rw [h] at hq
      cases hq
    rw [find?_put, if_neg hne, hq]

/-- A directory is not lost. -/
theorem Grows.isDirectory {d d' : Disk} (hg : Grows d d') {p : Location} (h : d.isDirectory p = true) :
    d'.isDirectory p = true := by
  rw [Disk.isDirectory, beq_iff_eq] at h ⊢
  exact hg.kept p _ h

/-- A step that succeeded leads to the same place when the disk has grown. -/
theorem step_of_grows {d d' : Disk} (hg : Grows d d') {p q : Location} {piece : Text}
    (h : d.step p piece = .ok q) : d'.step p piece = .ok q := by
  obtain ⟨hdir, hcases⟩ := step_eq_ok h
  have hdir' : d'.isDirectory p = true := hg.isDirectory hdir
  rcases hcases with ⟨rfl, rfl⟩ | ⟨rfl, rfl⟩ | ⟨hdots, rfl, hlimit, hfind⟩
  · rw [step, hdir']
    rfl
  · rw [step, hdir']
    rfl
  · obtain ⟨x, hx⟩ := Option.isSome_iff_exists.1 hfind
    exact step_of_isSome hdir' hdots hlimit (by rw [hg.kept _ x hx]; rfl)

/-- A walk that succeeded leads to the same place when the disk has grown. -/
theorem walk_of_grows {d d' : Disk} (hg : Grows d d') {p q : Location} {ps : List Text}
    (h : d.walk p ps = .ok q) : d'.walk p ps = .ok q := by
  induction ps generalizing p with
  | nil => exact h
  | cons piece ps ih =>
    rw [walk] at h ⊢
    split at h
    · next m hm =>
      rw [step_of_grows hg hm]
      exact ih h
    · cases h

/-! ## Making -/

/-- A directory that may be made has a new name, and stands in a directory. -/
theorem exists_of_directoryTarget {d : Disk} {path : Text} {q : Location}
    (h : d.directoryTarget path = .ok q) :
    ∃ r p name, Route.ofPath path = .ok r ∧ r.pieces.getLast?.getD Path.dot = name ∧
      d.walk (d.start r) r.pieces.dropLast = .ok p ∧ d.isDirectory p = true ∧ isDots name = false ∧
      Text.byteLength name ≤ Route.nameLimit ∧ d.find? q = none ∧ q = name :: p := by
  obtain ⟨r, hr, h⟩ := bind_eq_ok.1 h
  obtain ⟨⟨p, name⟩, happroach, h⟩ := bind_eq_ok.1 h
  obtain ⟨hlast, hwalk, hdir⟩ := approach_eq_ok happroach
  -- each test that is not passed is an error
  simp only at h
  split at h
  · cases h
  · next hdots =>
    split at h
    · cases h
    · next hlimit =>
      split at h
      · cases h
      · next hfind =>
        obtain rfl := Except.ok.inj h
        exact ⟨r, p, name, hr, hlast, hwalk, hdir, by simpa using hdots, Nat.le_of_not_lt hlimit,
          by simpa using hfind, rfl⟩

/-- The path leads to the directory that was made. -/
theorem leadsTo_put {d : Disk} {path : Text} {q : Location} (h : d.directoryTarget path = .ok q) :
    (d.put q .directory).LeadsTo path q := by
  obtain ⟨r, p, name, hr, hlast, hwalk, hdir, hdots, hlimit, hfind, rfl⟩ := exists_of_directoryTarget h
  have hg : Grows d (d.put (name :: p) .directory) := grows_put hfind .directory
  have hput : (d.put (name :: p) .directory).find? (name :: p) = some .directory := by
    rw [find?_put, if_pos rfl]
  have hpieces : Path.pieces path = (Path.pieces path).dropLast ++ [name] := by
    rw [eq_of_ofPath hr] at hlast
    exact pieces_eq_concat hlast hdots
  -- the way up to the last piece is as before; the last step finds what was made
  have hfront : (d.put (name :: p) .directory).walk (if Path.isRooted path then [] else d.here)
      (Path.pieces path).dropLast = .ok p := by
    rw [eq_of_ofPath hr] at hwalk
    exact walk_of_grows hg hwalk
  refine ⟨?_, Or.inl (by rw [isDirectory, hput]; rfl)⟩
  show (d.put (name :: p) .directory).walk (if Path.isRooted path then [] else d.here) _ = _
  rw [hpieces, walk_append, hfront]
  show (d.put (name :: p) .directory).walk p [name] = _
  rw [walk_singleton]
  exact step_of_isSome (hg.isDirectory hdir) hdots hlimit (by rw [hput]; rfl)

/-- A path to an existing directory, with or without a slash at its end. -/
theorem exists_leadsTo_of_leadsToDirectory {d : Disk} {path : Text}
    (h : d.leadsToDirectory path = true) : ∃ p, d.LeadsTo path p := by
  rw [leadsToDirectory] at h
  split at h
  · next p hp =>
    obtain ⟨r, hr, hwalk⟩ := bind_eq_ok.1 hp
    obtain rfl := eq_of_ofPath hr
    refine ⟨p, ?_, Or.inl h⟩
    cases hslash : Path.endsInSlash path with
    | false =>
      rw [hslash, if_neg (by simp), List.append_nil] at hwalk
      exact hwalk
    | true =>
      rw [hslash, if_pos rfl, walk_append] at hwalk
      split at hwalk
      · next m hm =>
        rw [walk_singleton] at hwalk
        -- the dot at the end stays where it is
        have hmp : m = p := by
          rcases (step_eq_ok hwalk).2 with ⟨-, hq⟩ | ⟨hdot, -⟩ | ⟨hdot, -⟩
          · exact hq.symm
          · exact absurd hdot (by decide)
          · exact absurd hdot (by decide)
        rw [← hmp]
        exact hm
      · cases hwalk
  · cases h

/-- If one directory was made without an error, its path leads to it, be it new or old. -/
theorem exists_leadsTo_of_makeDirectory {d d' : Disk} {path : Text}
    (h : d.makeDirectory path = (d', .ok ())) : ∃ p, d'.LeadsTo path p := by
  rw [makeDirectory] at h
  split at h
  · next q hq =>
    obtain ⟨rfl, -⟩ := Prod.mk.inj h
    exact ⟨q, leadsTo_put hq⟩
  · obtain ⟨rfl, hok⟩ := Prod.mk.inj h
    split at hok
    · next hleads => exact exists_leadsTo_of_leadsToDirectory hleads
    · cases hok

/-- The last thing that happens is that the directory itself is made. -/
theorem exists_of_makeChain {d d' : Disk} {path : Text} {ways : List Text}
    (h : d.makeChain (path :: ways) = (d', .ok ())) : ∃ m : Disk, m.makeDirectory path = (d', .ok ()) := by
  rw [makeChain] at h
  split at h
  · split at h
    · next m hm => exact ⟨m, h⟩
    · next hfailed => exact absurd h (hfailed d')
  · exact ⟨d, h⟩

/-- If `makeDirectories` succeeds, the path leads to a directory. -/
theorem exists_leadsTo_of_makeDirectories {d d' : Disk} {path : Text}
    (h : d.makeDirectories path = (d', .ok ())) : ∃ p, d'.LeadsTo path p := by
  rw [makeDirectories] at h
  split at h
  · next hpath =>
    obtain ⟨rfl, -⟩ := Prod.mk.inj h
    subst hpath
    exact ⟨d.here, rfl, Or.inr rfl⟩
  · obtain ⟨m, hm⟩ := exists_of_makeChain h
    exact exists_leadsTo_of_makeDirectory hm

/-! ## Nothing but directories -/

/-- The second disk has all that stands on the first one, and besides that only directories. -/
structure GainsDirectories (d d' : Disk) : Prop extends Grows d d' where
  gained : ∀ p, d'.find? p = d.find? p ∨ d'.find? p = some .directory

theorem GainsDirectories.refl (d : Disk) : GainsDirectories d d := ⟨⟨rfl, fun _ _ h => h⟩, fun _ => Or.inl rfl⟩

/-- Gains add up. -/
theorem GainsDirectories.trans {d m d' : Disk} (h : GainsDirectories d m) (h' : GainsDirectories m d') :
    GainsDirectories d d' where
  here := h'.here.trans h.here
  kept p x hx := h'.kept p x (h.kept p x hx)
  gained p := by
    rcases h'.gained p with he | hdir
    · rw [he]
      exact h.gained p
    · exact Or.inr hdir

/-- Making one directory adds one directory at most, also if it fails. -/
theorem gainsDirectories_makeDirectory (d : Disk) (path : Text) : GainsDirectories d (d.makeDirectory path).1 := by
  rw [makeDirectory]
  split
  · next q hq =>
    obtain ⟨-, -, -, -, -, -, -, -, -, hnone, -⟩ := exists_of_directoryTarget hq
    refine ⟨grows_put hnone .directory, fun p => ?_⟩
    rw [find?_put]
    by_cases hp : p = q
    · exact Or.inr (if_pos hp)
    · exact Or.inl (if_neg hp)
  · exact .refl d

/-- By induction on the ways: each directory is made on the disk that the ways before it left. -/
theorem gainsDirectories_makeChain (d : Disk) (ways : List Text) : GainsDirectories d (d.makeChain ways).1 := by
  induction ways with
  | nil => exact .refl d
  | cons path ways ih =>
    rw [makeChain]
    split
    · split
      · next m hm =>
        rw [hm] at ih
        exact ih.trans (gainsDirectories_makeDirectory m path)
      · exact ih
    · exact gainsDirectories_makeDirectory d path

/-- Making directories adds directories and nothing else, also if it fails on the way. -/
theorem gainsDirectories_makeDirectories (d : Disk) (path : Text) : GainsDirectories d (d.makeDirectories path).1 := by
  rw [makeDirectories]
  split
  · exact .refl d
  · exact gainsDirectories_makeChain d _

/-- The files are the same. -/
theorem GainsDirectories.isFile {d d' : Disk} (h : GainsDirectories d d') (p : Location) :
    d'.isFile p = d.isFile p := by
  rw [Bool.eq_iff_iff, isFile_iff, isFile_iff]
  constructor
  · rintro ⟨content, hfind⟩
    rcases h.gained p with he | hdir
    · exact ⟨content, he ▸ hfind⟩
    · rw [hdir] at hfind
      cases hfind
  · rintro ⟨content, hfind⟩
    exact ⟨content, h.kept p _ hfind⟩

/-! ## Removing -/

/-- The given locations are emptied, and every other location is as before. -/
theorem find?_eraseAll (d : Disk) (ps : List Location) (q : Location) :
    (d.eraseAll ps).find? q = if q ∈ ps then none else d.find? q := by
  induction ps generalizing d with
  | nil => rfl
  | cons p ps ih =>
    rw [show d.eraseAll (p :: ps) = (d.erase p).eraseAll ps from rfl, ih, find?_erase]
    by_cases hps : q ∈ ps
    · simp [hps]
    · by_cases hp : q = p <;> simp [hp, hps]

theorem here_eraseAll (d : Disk) (ps : List Location) : (d.eraseAll ps).here = d.here := by
  induction ps generalizing d with
  | nil => rfl
  | cons p ps ih => exact ih (d.erase p)

/-- Removing files takes no directory away. -/
theorem sameDirectories_eraseAll {d : Disk} {ps : List Location} (h : ∀ p ∈ ps, d.isFile p = true) :
    SameDirectories d (d.eraseAll ps) where
  here := here_eraseAll d ps
  directory q := by
    rw [isDirectory, find?_eraseAll, isDirectory]
    split
    · next hq =>
      obtain ⟨content, hfind⟩ := isFile_iff.1 (h q hq)
      rw [hfind]
      rfl
    · rfl

/-- A pattern finds files only, so no directory is removed on its account. -/
theorem isFile_of_mem_filesMatching {d : Disk} {pattern : Pattern} {p : Location}
    (h : p ∈ d.filesMatching pattern) : d.isFile p = true :=
  (List.mem_filter.1 h).2

end DocStub.Disk
