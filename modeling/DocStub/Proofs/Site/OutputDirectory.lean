/-
  A prepared directory and the stubs in it.

  1. **Preparation** — if it succeeds, the path leads to a directory (`exists_leadsTo_of_prepare`), and no file
     in it is named like a stub any more, if the path has no character with a meaning in patterns
     (`isFile_of_prepare`).
  2. **The stub of a class** — the name of a class without a slash gives a file that stands directly in the
     directory, and different names give different files (`eq_of_stubLocation`).  Whether it can be
     written depends on the directories alone (`fileTarget_pathOf_of_same`).
-/
import DocStub.Proofs.Disk.Directories
import DocStub.Proofs.Disk.Search
import DocStub.Proofs.Identifier
import DocStub.Site.OutputDirectory

namespace DocStub.OutputDirectory

/-! ## Preparation -/

/-- All that a preparation which succeeds has done: it made the directory, and removed what the pattern means. -/
theorem prepare_eq_ok {d d' : Disk} {path : Text} {o : OutputDirectory}
    (h : prepare d path = (d', .ok o)) :
    o = ⟨path⟩ ∧ ∃ m pattern, d.makeDirectories path = (m, .ok ()) ∧
      Pattern.ofText (stubPattern path) = .ok pattern ∧ d' = m.eraseAll (m.filesMatching pattern) := by
  rw [prepare] at h
  split at h
  · obtain ⟨-, he⟩ := Prod.mk.inj h
    cases he
  · next m hm =>
    split at h
    · obtain ⟨-, he⟩ := Prod.mk.inj h
      cases he
    · next pattern hpattern =>
      obtain ⟨rfl, ho⟩ := Prod.mk.inj h
      exact ⟨(Except.ok.inj ho).symm, m, pattern, hm, hpattern, rfl⟩

/-- Removing stubs takes no directory away. -/
theorem sameDirectories_filesMatching (m : Disk) (pattern : Pattern) :
    m.SameDirectories (m.eraseAll (m.filesMatching pattern)) :=
  Disk.sameDirectories_eraseAll fun _ hp => Disk.isFile_of_mem_filesMatching hp

/-- A prepared directory is there. -/
theorem exists_leadsTo_of_prepare {d d' : Disk} {path : Text} {o : OutputDirectory}
    (h : prepare d path = (d', .ok o)) : ∃ p, d'.LeadsTo path p := by
  obtain ⟨-, m, pattern, hm, -, rfl⟩ := prepare_eq_ok h
  obtain ⟨p, hp⟩ := Disk.exists_leadsTo_of_makeDirectories hm
  exact ⟨p, hp.of_same (sameDirectories_filesMatching m pattern)⟩

/-- The ending of a stub means itself in a pattern. -/
theorem isPlain_ending : (∀ c ∈ ending, Pattern.IsPlain c) ∧ '/' ∉ ending := by simp [ending, Pattern.IsPlain]

/-- The stubs of an earlier run are gone. -/
theorem isFile_of_prepare {d d' : Disk} {path name : Text} {o : OutputDirectory} {p : Location}
    (h : prepare d path = (d', .ok o)) (hplain : ∀ c ∈ path, Pattern.IsPlain c)
    (hp : d'.LeadsTo path p) (hname : ending <:+ name) : d'.isFile (name :: p) = false := by
  obtain ⟨-, m, pattern, hm, hpattern, rfl⟩ := prepare_eq_ok h
  have hmp : m.LeadsTo path p := by
    obtain ⟨q, hq⟩ := Disk.exists_leadsTo_of_makeDirectories hm
    rwa [hp.unique (hq.of_same (sameDirectories_filesMatching m pattern))]
  rw [Disk.isFile, Disk.find?_eraseAll]
  by_cases hmem : name :: p ∈ m.filesMatching pattern
  · rw [if_pos hmem]
  · rw [if_neg hmem, ← Disk.isFile, ← Bool.not_eq_true]
    exact fun hfile => hmem ((Disk.mem_filesMatching isPlain_ending hpattern hmp hplain).2 ⟨hfile, name, rfl, hname⟩)

/-! ## The stub of a class -/

/-- Where the stub of a class stands, seen from the location of the directory. -/
def stubLocation (p : Location) (name : Identifier) : Location := (name.text ++ ending) :: p

/-- Classes with different names have different files. -/
theorem eq_of_stubLocation {p : Location} {n m : Identifier} (h : stubLocation p n = stubLocation p m) :
    n = m := by
  obtain ⟨htext, -⟩ := List.cons.inj h
  exact Identifier.eq_of_text (List.append_cancel_right htext)

theorem stubName_ne_nil (name : Identifier) : name.text ++ ending ≠ [] := by simp [ending]

theorem slash_not_mem_stubName {name : Identifier} (h : '/' ∉ name.text) : '/' ∉ name.text ++ ending := by
  rw [List.mem_append, not_or]
  exact ⟨h, by decide⟩

/-- A stub is written where a file of its path would be, or not at all. -/
theorem write_eq (o : OutputDirectory) (d : Disk) (name : Identifier) (text : Text) :
    o.write d name text =
      match d.fileTarget (o.pathOf name) with
      | .ok q => .ok (d.put q (.file (Text.encodeUtf8 text)))
      | .error e => .error (.write (o.pathOf name) e) := by
  show (d.fileTarget (o.pathOf name) >>= _).mapError _ = _
  cases d.fileTarget (o.pathOf name) <;> rfl

/-- Whether a stub can be written does not depend on the files on the disk. -/
theorem fileTarget_pathOf_of_same {o : OutputDirectory} {d d' : Disk} (hs : d.SameDirectories d')
    {p : Location} (hp : d.LeadsTo o.path p) {name : Identifier} (hname : '/' ∉ name.text) :
    d'.fileTarget (o.pathOf name) = d.fileTarget (o.pathOf name) :=
  Disk.fileTarget_join_of_same hs hp (stubName_ne_nil name) (slash_not_mem_stubName hname)

/-- A stub that can be written stands in the directory, under the name of its class, and takes no directory's place.
    -/
theorem fileTarget_pathOf_eq_ok {o : OutputDirectory} {d : Disk} {p q : Location}
    (hp : d.LeadsTo o.path p) {name : Identifier} (hname : '/' ∉ name.text)
    (h : d.fileTarget (o.pathOf name) = .ok q) : q = stubLocation p name ∧ d.isDirectory q = false :=
  Disk.fileTarget_join_eq_ok hp (stubName_ne_nil name) (slash_not_mem_stubName hname) h

end DocStub.OutputDirectory
