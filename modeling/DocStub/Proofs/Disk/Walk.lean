/-
  What a walk depends on.

  1. **Steps** — `step_eq_ok` says all that a step can do.  A walk through pieces put together is one walk
     after the other (`walk_append`).
  2. **Directories decide** — a walk that ends at a directory goes through directories only.  So a disk with
     the same directories (`SameDirectories`) lets the same walk succeed (`walk_of_same`).
  3. **Files in a directory** — where a file of a directory would be written depends on its name and on the
     directories alone (`fileTarget_join`, `fileTarget_join_of_same`).
  4. **Reading what was written** — a file that stands where it would be written is the one that is read
     (`readBytes_of_fileTarget`, `readText_of_fileTarget`).
-/
import DocStub.Disk.Basic
import DocStub.Proofs.Disk.Path
import DocStub.Proofs.Text.Utf8

namespace DocStub

/-- A run of two steps succeeds when both do. -/
theorem bind_eq_ok {ε α β : Type} {x : Except ε α} {f : α → Except ε β} {b : β} :
    (x >>= f) = .ok b ↔ ∃ a, x = .ok a ∧ f a = .ok b := by
  cases x <;> simp [bind, Except.bind]

namespace Disk

/-! ## Steps -/

/-- All that a step can do. -/
theorem step_eq_ok {d : Disk} {p q : Location} {piece : Text} (h : d.step p piece = .ok q) :
    d.isDirectory p = true ∧
      (piece = Path.dot ∧ q = p
        ∨ piece = Path.dotDot ∧ q = p.tail
        ∨ isDots piece = false ∧ q = piece :: p ∧ Text.byteLength piece ≤ Route.nameLimit
            ∧ (d.find? q).isSome = true) := by
  -- the tests come in the order in which they decide the error
  rw [step] at h
  split at h
  · cases h
  · next hdir =>
    refine ⟨by simpa using hdir, ?_⟩
    split at h
    · next hdot => exact Or.inl ⟨hdot, (Except.ok.inj h).symm⟩
    · next hdot =>
      split at h
      · next hdots => exact Or.inr (Or.inl ⟨hdots, (Except.ok.inj h).symm⟩)
      · next hdots =>
        split at h
        · cases h
        · next hlimit =>
          split at h
          · cases h
          · next hfind =>
            obtain rfl := Except.ok.inj h
            refine Or.inr (Or.inr ⟨by simp [isDots, hdot, hdots], rfl, Nat.le_of_not_lt hlimit, ?_⟩)
            simpa [Option.isSome_iff_ne_none] using hfind

/-- A name that stands in a directory is found there. -/
theorem step_of_isSome {d : Disk} {p : Location} {piece : Text} (hdir : d.isDirectory p = true)
    (hdots : isDots piece = false) (hlimit : Text.byteLength piece ≤ Route.nameLimit)
    (hfind : (d.find? (piece :: p)).isSome = true) : d.step p piece = .ok (piece :: p) := by
  simp only [isDots, Bool.or_eq_false_iff, beq_eq_false_iff_ne, ne_eq] at hdots
  have hnone : (d.find? (piece :: p)).isNone = false := by
    rw [← Option.not_isSome, hfind]
    rfl
  rw [step, hdir, if_neg (by simp), if_neg hdots.1, if_neg hdots.2, if_neg (Nat.not_lt.2 hlimit), hnone]
  rfl

/-- A walk along pieces put together is one walk after the other. -/
theorem walk_append (d : Disk) (p : Location) (ps rs : List Text) :
    d.walk p (ps ++ rs) =
      match d.walk p ps with
      | .ok q => d.walk q rs
      | .error e => .error e := by
  induction ps generalizing p with
  | nil => rfl
  | cons piece ps ih =>
    rw [List.cons_append, walk, walk]
    cases d.step p piece with
    | ok q => exact ih q
    | error e => rfl

theorem walk_singleton (d : Disk) (p : Location) (piece : Text) : d.walk p [piece] = d.step p piece := by
  rw [walk]
  cases d.step p piece <;> rfl

/-! ## Directories decide -/

/-- The working directory is the same, and directories stand at the same locations. -/
structure SameDirectories (d d' : Disk) : Prop where
  here : d'.here = d.here
  directory : ∀ p, d'.isDirectory p = d.isDirectory p

/-- A directory is an item of the disk. -/
theorem isSome_of_isDirectory {d : Disk} {p : Location} (h : d.isDirectory p = true) :
    (d.find? p).isSome = true := by
  rw [isDirectory, beq_iff_eq] at h
  rw [h]
  rfl

/-- A step to a directory can be made on every disk with the same directories. -/
theorem step_of_same {d d' : Disk} (hs : SameDirectories d d') {p q : Location} {piece : Text}
    (h : d.step p piece = .ok q) (hq : d.isDirectory q = true) : d'.step p piece = .ok q := by
  obtain ⟨hdir, hcases⟩ := step_eq_ok h
  have hdir' : d'.isDirectory p = true := by rw [hs.directory, hdir]
  rcases hcases with ⟨rfl, rfl⟩ | ⟨rfl, rfl⟩ | ⟨hdots, rfl, hlimit, -⟩
  · rw [step, hdir']
    rfl
  · rw [step, hdir']
    rfl
  · exact step_of_isSome hdir' hdots hlimit (isSome_of_isDirectory (by rw [hs.directory, hq]))

/-- A walk that succeeds and has a step to make begins at a directory. -/
theorem isDirectory_of_walk_cons {d : Disk} {p q : Location} {piece : Text} {ps : List Text}
    (h : d.walk p (piece :: ps) = .ok q) : d.isDirectory p = true := by
  rw [walk] at h
  split at h
  · next m hm => exact (step_eq_ok hm).1
  · cases h

/-- Every location on the way to a directory is a directory. -/
theorem walk_of_same {d d' : Disk} (hs : SameDirectories d d') {p q : Location} {ps : List Text}
    (h : d.walk p ps = .ok q) (hq : d.isDirectory q = true ∨ ps = []) : d'.walk p ps = .ok q := by
  induction ps generalizing p with
  | nil => exact h
  | cons piece ps ih =>
    have hdir : d.isDirectory q = true := hq.resolve_right (List.cons_ne_nil piece ps)
    rw [walk] at h
    split at h
    · next m hm =>
      -- either this was the last step, or the next one starts there
      have hmid : d.isDirectory m = true := by
        cases ps with
        | nil =>
          obtain rfl : m = q := Except.ok.inj h
          exact hdir
        | cons x xs => exact isDirectory_of_walk_cons h
      rw [walk, step_of_same hs hm hmid]
      exact ih h (Or.inl hdir)
    · cases h

/-! ## Files in a directory -/

/-- The path leads to a directory, at this location.  The empty path leads to the working directory. -/
structure LeadsTo (d : Disk) (path : Text) (p : Location) : Prop where
  walk : d.walk (if Path.isRooted path then [] else d.here) (Path.pieces path) = .ok p
  directory : d.isDirectory p = true ∨ path = []

/-- A path leads to one location. -/
theorem LeadsTo.unique {d : Disk} {path : Text} {p q : Location} (hp : d.LeadsTo path p)
    (hq : d.LeadsTo path q) : p = q :=
  Except.ok.inj (hp.walk.symm.trans hq.walk)

/-- Where a path leads is the same on disks with the same directories. -/
theorem LeadsTo.of_same {d d' : Disk} (hs : SameDirectories d d') {path : Text} {p : Location}
    (h : d.LeadsTo path p) : d'.LeadsTo path p where
  walk := by
    rw [hs.here]
    refine walk_of_same hs h.walk (h.directory.imp_right fun he => ?_)
    rw [he]
    rfl
  directory := by
    rw [hs.directory]
    exact h.directory

/-- A route that is followed has the pieces of its path. -/
theorem eq_of_ofPath {path : Text} {r : Route} (h : Route.ofPath path = .ok r) :
    r = ⟨Path.isRooted path, Path.pieces path, Path.endsInSlash path⟩ := by
  rw [Route.ofPath] at h
  split at h
  · cases h
  · split at h
    · cases h
    · split at h
      · cases h
      · exact (Except.ok.inj h).symm

/-- Where a file of a directory would be written. -/
theorem fileTarget_join {d : Disk} {base name : Text} {p : Location} (hbase : d.LeadsTo base p)
    (hne : name ≠ []) (hname : '/' ∉ name) :
    d.fileTarget (Path.join base name) =
      match Route.ofPath (Path.join base name) with
      | .error e => .error e
      | .ok _ =>
        if !d.isDirectory p then .error .notDirectory
        else if isDots name then .error .isDirectory
        else if Route.nameLimit < Text.byteLength name then .error .nameTooLong
        else if d.isDirectory (name :: p) then .error .isDirectory
        else .ok (name :: p) := by
  cases hr : Route.ofPath (Path.join base name) with
  | error e =>
    show (Route.ofPath (Path.join base name) >>= _) = _
    rw [hr]
    rfl
  | ok r =>
    -- the last piece is the name, and the ones in front of it are those of `base`
    have hroute : r = ⟨Path.isRooted base, Path.pieces base ++ [name], false⟩ := by
      rw [eq_of_ofPath hr, Path.isRooted_join base hname, Path.pieces_join base hne hname,
        Path.endsInSlash_join base hne hname]
    have happroach : d.approach r = if d.isDirectory p then .ok (p, name) else .error .notDirectory := by
      have hwalk : d.walk (d.start r) r.pieces.dropLast = .ok p := by
        rw [hroute, List.dropLast_concat]
        exact hbase.walk
      have hlast : r.pieces.getLast?.getD Path.dot = name := by
        rw [hroute, List.getLast?_concat]
        rfl
      show (d.walk (d.start r) r.pieces.dropLast >>= _) = _
      rw [hwalk, hlast]
      rfl
    show (Route.ofPath (Path.join base name) >>= _) = _
    rw [hr]
    show (d.approach r >>= _) = _
    rw [happroach]
    cases d.isDirectory p with
    | false => rfl
    | true =>
      show (if (r.slash || isDots name) = true then _ else _) = _
      rw [hroute]
      rfl

/-- A file that may be written in a directory. -/
theorem fileTarget_join_eq_ok {d : Disk} {base name : Text} {p q : Location} (hbase : d.LeadsTo base p)
    (hne : name ≠ []) (hname : '/' ∉ name) (h : d.fileTarget (Path.join base name) = .ok q) :
    q = name :: p ∧ d.isDirectory q = false := by
  rw [fileTarget_join hbase hne hname] at h
  split at h
  · cases h
  · split at h
    · cases h
    · split at h
      · cases h
      · split at h
        · cases h
        · split at h
          · cases h
          · next hdir =>
            rw [← Except.ok.inj h]
            exact ⟨rfl, by simpa using hdir⟩

/-- Files that come and go do not change where a file of a directory would be written. -/
theorem fileTarget_join_of_same {d d' : Disk} (hs : SameDirectories d d') {base name : Text}
    {p : Location} (hbase : d.LeadsTo base p) (hne : name ≠ []) (hname : '/' ∉ name) :
    d'.fileTarget (Path.join base name) = d.fileTarget (Path.join base name) := by
  rw [fileTarget_join hbase hne hname, fileTarget_join (hbase.of_same hs) hne hname, hs.directory,
    hs.directory]

/-! ## Reading what was written -/

/-- All that follows when the way to the last piece of a path is found. -/
theorem approach_eq_ok {d : Disk} {r : Route} {p : Location} {name : Text}
    (h : d.approach r = .ok (p, name)) :
    r.pieces.getLast?.getD Path.dot = name ∧ d.walk (d.start r) r.pieces.dropLast = .ok p ∧
      d.isDirectory p = true := by
  obtain ⟨m, hwalk, h⟩ := bind_eq_ok.1 h
  split at h
  · next hdir =>
    obtain ⟨rfl, hlast⟩ := Prod.mk.inj (Except.ok.inj h)
    exact ⟨hlast, hwalk, hdir⟩
  · cases h

/-- A route that ends at a name has a last piece. -/
theorem pieces_eq_concat {ps : List Text} {name : Text} (hlast : ps.getLast?.getD Path.dot = name)
    (hdots : isDots name = false) : ps = ps.dropLast ++ [name] := by
  cases hget : ps.getLast? with
  | none =>
    -- a route without pieces would end at a dot
    rw [hget] at hlast
    rw [← hlast] at hdots
    cases hdots
  | some x =>
    rw [hget] at hlast
    obtain rfl : x = name := hlast
    exact (List.dropLast_append_getLast? x hget).symm

/-- A file that may be written has a name, and stands in a directory. -/
theorem exists_of_fileTarget {d : Disk} {path : Text} {q : Location} (h : d.fileTarget path = .ok q) :
    ∃ r p name, Route.ofPath path = .ok r ∧ r.slash = false ∧ r.pieces.getLast?.getD Path.dot = name ∧
      d.walk (d.start r) r.pieces.dropLast = .ok p ∧ d.isDirectory p = true ∧ isDots name = false ∧
      Text.byteLength name ≤ Route.nameLimit ∧ q = name :: p := by
  obtain ⟨r, hr, h⟩ := bind_eq_ok.1 h
  obtain ⟨⟨p, name⟩, happroach, h⟩ := bind_eq_ok.1 h
  obtain ⟨hlast, hwalk, hdir⟩ := approach_eq_ok happroach
  -- each test that is not passed is an error
  simp only at h
  split at h
  · cases h
  · next hplain =>
    obtain ⟨hslash, hdots⟩ := not_or.1 (mt Bool.or_eq_true_iff.2 hplain)
    split at h
    · cases h
    · next hlimit =>
      split at h
      · cases h
      · obtain rfl := Except.ok.inj h
        exact ⟨r, p, name, hr, by simpa using hslash, hlast, hwalk, hdir, by simpa using hdots,
          Nat.le_of_not_lt hlimit, rfl⟩

/-- A file that stands where it would be written is the one that is read. -/
theorem readBytes_of_fileTarget {d : Disk} {path : Text} {q : Location} {content : List UInt8}
    (h : d.fileTarget path = .ok q) (hfind : d.find? q = some (.file content)) :
    d.readBytes path = .ok content := by
  obtain ⟨r, p, name, hr, hslash, hlast, hwalk, hdir, hdots, hlimit, rfl⟩ := exists_of_fileTarget h
  have hpieces := pieces_eq_concat hlast hdots
  have hstep : d.step p name = .ok (name :: p) := step_of_isSome hdir hdots hlimit (by rw [hfind]; rfl)
  -- writing stops in front of the last piece, and reading makes this one step more
  have hlocate : d.locate path = .ok (name :: p) := by
    show (Route.ofPath path >>= _) = _
    rw [hr]
    show d.walk (d.start r) (r.pieces ++ if r.slash then [Path.dot] else []) = _
    rw [hslash, hpieces, if_neg (by simp), List.append_nil, walk_append, hwalk]
    show d.walk p [name] = _
    rw [walk_singleton, hstep]
  unfold readBytes
  rw [hlocate]
  simp only [bind, Except.bind, hfind]

/-- A text that was written to a file is read back from it. -/
theorem readText_of_fileTarget {d : Disk} {path text : Text} {q : Location}
    (h : d.fileTarget path = .ok q) (hfind : d.find? q = some (.file (Text.encodeUtf8 text))) :
    d.readText path = .ok text := by
  unfold readText
  rw [readBytes_of_fileTarget h hfind]
  simp only [bind, Except.bind, Text.decodeUtf8?_encodeUtf8]

end Disk

end DocStub
