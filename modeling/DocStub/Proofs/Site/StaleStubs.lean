/-
  What the preparation of an output directory changes.

  1. **Any path** — even if it fails, it only makes directories where nothing stood, and removes files that are
     named like stubs (`find?_prepare`).
  2. **A path that means itself** — the files that it removes are exactly the stubs directly in the directory
     (`removed_iff_of_prepare`).
  3. **Other paths** — the path is read as a part of the pattern of the stubs.  So a path with brackets in it
     keeps the stubs of its own directory, and loses those of another one
     (`prepare_of_brackets`).
-/
import DocStub.Proofs.Site.OutputDirectory

namespace DocStub.OutputDirectory

/-- The location is that of a file named like a stub. -/
def IsStub (d : Disk) (q : Location) : Prop := d.isFile q = true ∧ ∃ name p, q = name :: p ∧ ending <:+ name

/-! ## Any path -/

/-- The disk that preparation leaves: directories are made, and some files named like stubs are removed. -/
theorem exists_of_prepare (d : Disk) (path : Text) :
    ∃ m ps, d.GainsDirectories m ∧ (∀ q ∈ ps, IsStub m q) ∧ (prepare d path).1 = m.eraseAll ps := by
  have hgains := Disk.gainsDirectories_makeDirectories d path
  rw [prepare]
  -- if a directory cannot be made, or the pattern is bad, nothing is removed
  split
  · next m e hm =>
    rw [hm] at hgains
    exact ⟨m, [], hgains, fun _ h => absurd h List.not_mem_nil, rfl⟩
  · next m hm =>
    rw [hm] at hgains
    split
    · exact ⟨m, [], hgains, fun _ h => absurd h List.not_mem_nil, rfl⟩
    · next pattern hpattern =>
      refine ⟨m, m.filesMatching pattern, hgains, fun q hq => ⟨?_, ?_⟩, rfl⟩
      · exact Disk.isFile_of_mem_filesMatching hq
      · exact Disk.suffix_of_mem_filesMatching isPlain_ending hpattern hq

/-- Whatever the path is, and whether preparation succeeds or not, what stands at a location is as before, or
    it is a new directory, or it was a file named like a stub. -/
theorem find?_prepare (d : Disk) (path : Text) (q : Location) :
    (prepare d path).1.find? q = d.find? q
      ∨ d.find? q = none ∧ (prepare d path).1.find? q = some .directory
      ∨ IsStub d q ∧ (prepare d path).1.find? q = none := by
  obtain ⟨m, ps, hgains, hstubs, hd⟩ := exists_of_prepare d path
  rw [hd, Disk.find?_eraseAll]
  -- removed files stood there before, for the directories that were made are no files
  split
  · next hq =>
    obtain ⟨hfile, hname⟩ := hstubs q hq
    rw [hgains.isFile] at hfile
    exact Or.inr (Or.inr ⟨⟨hfile, hname⟩, rfl⟩)
  · cases hfind : d.find? q with
    | some x => exact Or.inl (hgains.kept q x hfind)
    | none =>
      rcases hgains.gained q with he | hdir
      · exact Or.inl (he.trans hfind)
      · exact Or.inr (Or.inl ⟨rfl, hdir⟩)

/-! ## A path that means itself -/

/-- What stood there before and is gone now are the stubs directly in the directory; every other file is as it
    was. -/
theorem removed_iff_of_prepare {d d' : Disk} {path : Text} {o : OutputDirectory}
    (h : prepare d path = (d', .ok o)) (hplain : ∀ c ∈ path, Pattern.IsPlain c) :
    ∃ p, d'.LeadsTo path p ∧
      (∀ q, (d.find? q).isSome = true ∧ d'.find? q = none
        ↔ d.isFile q = true ∧ ∃ name, q = name :: p ∧ ending <:+ name) ∧
      ∀ q content, d.find? q = some (.file content) → (¬ ∃ name, q = name :: p ∧ ending <:+ name) →
        d'.find? q = some (.file content) := by
  obtain ⟨-, m, pattern, hm, hpattern, rfl⟩ := prepare_eq_ok h
  obtain ⟨p, hp⟩ := Disk.exists_leadsTo_of_makeDirectories hm
  have hgains : d.GainsDirectories m := by
    have hgains := Disk.gainsDirectories_makeDirectories d path
    rwa [hm] at hgains
  -- the search is made when the directories are there, but the files are still those from before
  have hfound : ∀ q, q ∈ m.filesMatching pattern ↔ d.isFile q = true ∧ ∃ name, q = name :: p ∧ ending <:+ name := by
    intro q
    rw [Disk.mem_filesMatching isPlain_ending hpattern hp hplain, hgains.isFile]
  refine ⟨p, hp.of_same (sameDirectories_filesMatching m pattern), fun q => ?_, fun q content hfind hstub => ?_⟩
  · rw [Disk.find?_eraseAll, ← hfound]
    constructor
    · rintro ⟨hsome, hnone⟩
      by_contra hq
      obtain ⟨x, hx⟩ := Option.isSome_iff_exists.1 hsome
      rw [if_neg hq, hgains.kept q x hx] at hnone
      cases hnone
    · intro hq
      obtain ⟨content, hfind⟩ := Disk.isFile_iff.1 ((hfound q).1 hq).1
      exact ⟨by rw [hfind]; rfl, if_pos hq⟩
  · rw [Disk.find?_eraseAll, if_neg fun hq => hstub ((hfound q).1 hq).2]
    exact hgains.kept q _ hfind

/-- A disk with a stub and a note in `out`, and a stub below it. -/
def sampleOutput : Disk :=
  let base : Location := "out".toList :: Disk.empty.here
  let below : Location := "old".toList :: base
  ((((Disk.empty.put base .directory).put below .directory).put ("Old.lua".toList :: base) (.file [1])).put
    ("notes.txt".toList :: base) (.file [2])).put ("Old.lua".toList :: below) (.file [3])

theorem removed_iff_of_prepare_sample :
    prepare sampleOutput "out".toList = ((prepare sampleOutput "out".toList).1, .ok ⟨"out".toList⟩)
      ∧ (∀ c ∈ "out".toList, Pattern.IsPlain c)
      ∧ ∃ p, (prepare sampleOutput "out".toList).1.LeadsTo "out".toList p ∧
        (∀ q, (sampleOutput.find? q).isSome = true ∧ (prepare sampleOutput "out".toList).1.find? q = none
          ↔ sampleOutput.isFile q = true ∧ ∃ name, q = name :: p ∧ ending <:+ name) ∧
        ∀ q content, sampleOutput.find? q = some (.file content) →
          (¬ ∃ name, q = name :: p ∧ ending <:+ name) →
          (prepare sampleOutput "out".toList).1.find? q = some (.file content) := by
  have hok : (prepare sampleOutput "out".toList).2 = .ok ⟨"out".toList⟩ := by decide +kernel
  have h : prepare sampleOutput "out".toList = ((prepare sampleOutput "out".toList).1, .ok ⟨"out".toList⟩) := by
    rw [← hok]
  have hplain : ∀ c ∈ "out".toList, Pattern.IsPlain c := by simp [Pattern.IsPlain]
  exact ⟨h, hplain, removed_iff_of_prepare h hplain⟩

/-! ## Other paths -/

/-- A disk with a stub in `o[ab]`, and one in `oa`. -/
def bracketDisk : Disk :=
  let own : Location := "o[ab]".toList :: Disk.empty.here
  let other : Location := "oa".toList :: Disk.empty.here
  (((Disk.empty.put own .directory).put other .directory).put ("x.lua".toList :: own) (.file [49])).put
    ("y.lua".toList :: other) (.file [50])

/-- The stub in the directory stays, and the one in another directory is gone. -/
theorem prepare_of_brackets :
    let path := "o[ab]".toList
    let own : Location := path :: Disk.empty.here
    let other : Location := "oa".toList :: Disk.empty.here
    let d' := (prepare bracketDisk path).1
    (prepare bracketDisk path).2 = .ok ⟨path⟩ ∧ d'.locate path = .ok own
      ∧ bracketDisk.isFile ("x.lua".toList :: own) = true ∧ d'.isFile ("x.lua".toList :: own) = true
      ∧ bracketDisk.isFile ("y.lua".toList :: other) = true ∧ d'.find? ("y.lua".toList :: other) = none := by
  decide +kernel

end DocStub.OutputDirectory
