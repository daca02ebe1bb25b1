/-
  What a group leaves behind, whatever the other groups do.

  1. **Workshops** — a `Workshop` is what all groups of a run share: a way to get pages, which may look at the
     disk, paths that cannot be written to, and the output directory.  `outcomeOf` and `stubOf` say what
     comes of a group by itself, on a given disk.
  2. **The disks of a run** — differ from the prepared one at most in files of the output directory
     (`Disk.SameBut`).  `Suits` says what the groups need: distinct names without a slash, and pages that
     do not depend on those files.
  3. **The invariant** — on a disk that is `Filled` by some groups, the stub of each of them stands where it
     was written, and everything else is as it was.  Such a disk is one of those above
     (`Filled.sameBut`), so the next group finds its pages and its path as on the prepared disk
     (`stubOf_eq`, `target_eq`), and it keeps the invariant (`Filled.put`, `Filled.refuse`).
  4. **One group after the other** — the run of the program keeps it, too (`ofGroups_filled`).

  The disk is the ideal one of `Disk.Basic`.  What a real one adds to it, a place without permission or a medium
  without space, comes in through `refuses`: a path is refused for the whole run or not at all, and a write
  replaces the whole file or changes nothing.
-/
import DocStub.Proofs.Site.Grouping
import DocStub.Proofs.Site.OutputDirectory
import DocStub.Site.Run

namespace DocStub

/-- The disks differ at most in files directly in the directory. -/
structure Disk.SameBut (d : Disk) (directory : Text) (d' : Disk) : Prop where
  here : d'.here = d.here
  kept : ∀ q, d'.find? q = d.find? q ∨
    ∃ p name, d.LeadsTo directory p ∧ q = name :: p ∧ d.isDirectory q = false ∧ d'.isDirectory q = false

theorem Disk.SameBut.sameDirectories {d d' : Disk} {directory : Text} (h : d.SameBut directory d') :
    d.SameDirectories d' where
  here := h.here
  directory q := by
    rcases h.kept q with hq | ⟨p, name, -, -, hd, hd'⟩
    · rw [isDirectory, hq, isDirectory]
    · rw [hd, hd']

/-! ## Workshops -/

/-- What the groups of a run share. -/
structure Workshop where
  /-- The page of that name, as the source gives it while the disk is like this. -/
  fetch : Disk → Text → Except Failure Text
  /-- Why the path cannot be written to, for a reason that is not on the disk. -/
  refuses : Text → Option FileError
  output : OutputDirectory

namespace Workshop

/-- The workshop of a run of the program. -/
def ofRun (w : Web) (s : Source) (o : OutputDirectory) : Workshop := ⟨s.fetch w, fun _ => none, o⟩

/-- Where the stub of a class goes. -/
def target (σ : Workshop) (d : Disk) (name : Identifier) : Except FileError Location :=
  match σ.refuses (σ.output.pathOf name) with
  | some e => .error e
  | none => d.fileTarget (σ.output.pathOf name)

/-- Writes the stub of a class: replaces its file, or fails and changes nothing. -/
def write (σ : Workshop) (d : Disk) (name : Identifier) (text : Text) : Except Failure Disk :=
  match σ.target d name with
  | .ok q => .ok (d.put q (.file (Text.encodeUtf8 text)))
  | .error e => .error (.write (σ.output.pathOf name) e)

/-- The stub of a group by itself. -/
def stubOf (σ : Workshop) (d : Disk) (g : ClassGroup) : GroupStub := GroupStub.ofGroup (σ.fetch d) g

/-- What keeps the stub of a class from being written. -/
def refusal (σ : Workshop) (d : Disk) (name : Identifier) : List Failure :=
  match σ.target d name with
  | .ok _ => []
  | .error e => [.write (σ.output.pathOf name) e]

/-- What becomes of a group by itself. -/
def outcomeOf (σ : Workshop) (d : Disk) (g : ClassGroup) : Outcome :=
  ⟨g.header.name, (σ.stubOf d g).count, (σ.stubOf d g).failures ++ σ.refusal d g.header.name⟩

/-- In the workshop of a run no path is refused, so it writes like the program. -/
theorem write_ofRun (w : Web) (s : Source) (o : OutputDirectory) (d : Disk) (name : Identifier)
    (text : Text) : (ofRun w s o).write d name text = o.write d name text := by
  rw [write, show (ofRun w s o).target d name = d.fileTarget (o.pathOf name) from rfl, OutputDirectory.write_eq]
  rfl

/-- The workshop, the prepared disk and the groups fit together. -/
structure Suits (σ : Workshop) (d : Disk) (gs : List ClassGroup) : Prop where
  leads : ∃ p, d.LeadsTo σ.output.path p
  names : ∀ g ∈ gs, '/' ∉ g.header.name.text
  distinct : (gs.map (·.header.name)).Nodup
  pages : ∀ g ∈ gs, ∀ e ∈ g.entries, ∀ d', d.SameBut σ.output.path d' → σ.fetch d' e.url = σ.fetch d e.url

/-- The pages of the classes do not depend on files in the output directory. -/
def PagesFixed (σ : Workshop) (d : Disk) (classes : List ClassEntry) : Prop :=
  ∀ e ∈ classes, ∀ d', d.SameBut σ.output.path d' → σ.fetch d' e.url = σ.fetch d e.url

/-- The groups of an index have distinct names, and the pages of their entries are pages of the index. -/
theorem suits_ofEntries {σ : Workshop} {d₀ d : Disk} {classes : List ClassEntry}
    (hprepare : OutputDirectory.prepare d₀ σ.output.path = (d, .ok σ.output))
    (hnames : ∀ e ∈ classes, '/' ∉ e.name.text) (hpages : σ.PagesFixed d classes) :
    σ.Suits d (ClassGroup.ofEntries classes) where
  leads := OutputDirectory.exists_leadsTo_of_prepare hprepare
  names g hg := by
    obtain ⟨e, he, hheader⟩ := ClassGroup.exists_first hg
    rw [hheader]
    exact hnames e he
  distinct := ClassGroup.nodup_names classes
  pages g hg e he := hpages e (ClassGroup.mem_of_mem_entries hg he)

/-! ## The disks of a run -/

/-- The stub of a group depends on the pages of its own entries. -/
theorem ofGroup_congr {fetch fetch' : Text → Except Failure Text} {g : ClassGroup}
    (h : ∀ e ∈ g.entries, fetch' e.url = fetch e.url) :
    GroupStub.ofGroup fetch' g = GroupStub.ofGroup fetch g := by
  have hmap : g.entries.map (GroupStub.functionsOf fetch' g.header.name)
      = g.entries.map (GroupStub.functionsOf fetch g.header.name) := by
    refine List.map_congr_left fun e he => ?_
    rw [GroupStub.functionsOf, h e he]
    rfl
  rw [GroupStub.ofGroup, hmap]
  rfl

section

variable {σ : Workshop} {d d' : Disk} {gs : List ClassGroup} {g : ClassGroup}

/-- On every disk of the run a group has the stub that it has on the prepared one. -/
theorem stubOf_eq (hσ : σ.Suits d gs) (hd : d.SameBut σ.output.path d') (hg : g ∈ gs) :
    σ.stubOf d' g = σ.stubOf d g :=
  ofGroup_congr fun e he => hσ.pages g hg e he d' hd

/-- On every disk of the run a stub goes where it goes on the prepared one. -/
theorem target_eq (hσ : σ.Suits d gs) (hd : d.SameBut σ.output.path d') (hg : g ∈ gs) :
    σ.target d' g.header.name = σ.target d g.header.name := by
  obtain ⟨p, hp⟩ := hσ.leads
  rw [target, target]
  cases σ.refuses (σ.output.pathOf g.header.name) with
  | some e => rfl
  | none => exact OutputDirectory.fileTarget_pathOf_of_same hd.sameDirectories hp (hσ.names g hg)

/-- A stub that is not refused goes into the directory, under the name of its class. -/
theorem target_eq_ok {q p : Location} (hσ : σ.Suits d gs) (hp : d.LeadsTo σ.output.path p)
    (hg : g ∈ gs) (h : σ.target d g.header.name = .ok q) :
    d.fileTarget (σ.output.pathOf g.header.name) = .ok q ∧
      q = OutputDirectory.stubLocation p g.header.name ∧ d.isDirectory q = false := by
  rw [target] at h
  split at h
  · cases h
  · exact ⟨h, OutputDirectory.fileTarget_pathOf_eq_ok hp (hσ.names g hg) h⟩

/-- Two groups of a run never write to the same place. -/
theorem eq_of_target {q : Location} {k : ClassGroup} (hσ : σ.Suits d gs) (hg : g ∈ gs) (hk : k ∈ gs)
    (hgq : σ.target d g.header.name = .ok q) (hkq : σ.target d k.header.name = .ok q) : k = g := by
  obtain ⟨p, hp⟩ := hσ.leads
  obtain ⟨-, hgp, -⟩ := target_eq_ok hσ hp hg hgq
  obtain ⟨-, hkp, -⟩ := target_eq_ok hσ hp hk hkq
  have hname := OutputDirectory.eq_of_stubLocation (hkp.symm.trans hgp)
  exact List.inj_on_of_nodup_map hσ.distinct hk hg hname

/-! ## The invariant -/

/-- The groups in `done` have written their stubs, and nothing else has changed. -/
structure Filled (σ : Workshop) (d : Disk) (done : ClassGroup → Prop) (d' : Disk) : Prop where
  here : d'.here = d.here
  written : ∀ g, done g → ∀ q, σ.target d g.header.name = .ok q →
    d'.find? q = some (.file (Text.encodeUtf8 (σ.stubOf d g).text))
  kept : ∀ q, (∀ g, done g → σ.target d g.header.name ≠ .ok q) → d'.find? q = d.find? q

variable {done : ClassGroup → Prop}

/-- The prepared disk is filled by no group. -/
theorem filled_start (σ : Workshop) (d : Disk) : σ.Filled d (fun _ => False) d where
  here := rfl
  written _ h := h.elim
  kept _ _ := rfl

/-- What groups fill are files directly in the output directory. -/
theorem Filled.sameBut (hσ : σ.Suits d gs) (hdone : ∀ g, done g → g ∈ gs) (hf : σ.Filled d done d') :
    d.SameBut σ.output.path d' where
  here := hf.here
  kept q := by
    by_cases hq : ∃ g, done g ∧ σ.target d g.header.name = .ok q
    · obtain ⟨g, hg, htarget⟩ := hq
      obtain ⟨p, hp⟩ := hσ.leads
      obtain ⟨-, hqp, hdir⟩ := target_eq_ok hσ hp (hdone g hg) htarget
      refine Or.inr ⟨p, _, hp, hqp, hdir, ?_⟩
      rw [Disk.isDirectory, hf.written g hg q htarget]
      rfl
    · exact Or.inl (hf.kept q fun g hg htarget => hq ⟨g, hg, htarget⟩)

/-- One more group writes its stub. -/
theorem Filled.put {q : Location} (hσ : σ.Suits d gs) (hdone : ∀ g, done g → g ∈ gs)
    (hf : σ.Filled d done d') (hg : g ∈ gs) (hq : σ.target d g.header.name = .ok q) :
    σ.Filled d (fun k => k = g ∨ done k)
      (d'.put q (.file (Text.encodeUtf8 (σ.stubOf d g).text))) where
  here := hf.here
  written k hk r hr := by
    rw [Disk.find?_put]
    split
    · next hrq =>
      -- this is the file of `g`, so the group is `g`
      subst hrq
      have hkg : k ∈ gs := hk.elim (fun he => he ▸ hg) (hdone k)
      rw [eq_of_target hσ hg hkg hq hr]
    · next hrq =>
      rcases hk with rfl | hk
      · exact absurd (Except.ok.inj (hr.symm.trans hq)) hrq
      · exact hf.written k hk r hr
  kept r hr := by
    have hrq : r ≠ q := by
      rintro rfl
      exact hr g (Or.inl rfl) hq
    rw [Disk.find?_put, if_neg hrq]
    exact hf.kept r fun k hk => hr k (Or.inr hk)

/-- One more group cannot write its stub. -/
theorem Filled.refuse {e : FileError} (hf : σ.Filled d done d') (he : σ.target d g.header.name = .error e) :
    σ.Filled d (fun k => k = g ∨ done k) d' where
  here := hf.here
  written k hk q hq := by
    rcases hk with rfl | hk
    · rw [he] at hq
      cases hq
    · exact hf.written k hk q hq
  kept q hq := hf.kept q fun k hk => hq k (Or.inr hk)

/-- It matters which groups are done, not how they are told. -/
theorem Filled.congr {done' : ClassGroup → Prop} (hf : σ.Filled d done d') (h : ∀ g, done' g ↔ done g) :
    σ.Filled d done' d' := by
  rwa [show done' = done from funext fun g => propext (h g)]

/-- The stub of a group that has written it is read back. -/
theorem Filled.readText {q : Location} (hσ : σ.Suits d gs) (hdone : ∀ g, done g → g ∈ gs)
    (hf : σ.Filled d done d') (hg : done g) (hq : σ.target d g.header.name = .ok q) :
    d'.readText (σ.output.pathOf g.header.name) = .ok (σ.stubOf d g).text := by
  obtain ⟨p, hp⟩ := hσ.leads
  have hsame := (hf.sameBut hσ hdone).sameDirectories
  obtain ⟨hfile, -, -⟩ := target_eq_ok hσ hp (hdone g hg) hq
  refine Disk.readText_of_fileTarget ?_ (hf.written g hg q hq)
  rw [OutputDirectory.fileTarget_pathOf_of_same hsame hp (hσ.names g (hdone g hg)), hfile]

/-- Whether the stub is written or not, the invariant is kept, and the outcome says which it was. -/
theorem Filled.write (hσ : σ.Suits d gs) (hdone : ∀ g, done g → g ∈ gs) (hf : σ.Filled d done d')
    (hg : g ∈ gs) :
    (∃ d'', σ.write d' g.header.name (σ.stubOf d g).text = .ok d'' ∧ σ.refusal d g.header.name = [] ∧
        σ.Filled d (fun k => k = g ∨ done k) d'') ∨
      ∃ failure, σ.write d' g.header.name (σ.stubOf d g).text = .error failure ∧
        σ.refusal d g.header.name = [failure] ∧ σ.Filled d (fun k => k = g ∨ done k) d' := by
  rw [Workshop.write, target_eq hσ (hf.sameBut hσ hdone) hg, refusal]
  cases hq : σ.target d g.header.name with
  | ok q => exact Or.inl ⟨_, rfl, rfl, hf.put hσ hdone hg hq⟩
  | error e => exact Or.inr ⟨_, rfl, rfl, hf.refuse hq⟩

end

/-! ## One group after the other -/

theorem Suits.of_append {σ : Workshop} {d : Disk} {gs ks : List ClassGroup} (h : σ.Suits d (gs ++ ks)) :
    σ.Suits d gs where
  leads := h.leads
  names g hg := h.names g (List.mem_append_left ks hg)
  distinct := by
    have hdistinct := h.distinct
    rw [List.map_append] at hdistinct
    exact hdistinct.of_append_left
  pages g hg := h.pages g (List.mem_append_left ks hg)

/-- The run of the program leaves the outcomes of the groups by themselves, and a disk that they have filled. -/
theorem ofGroups_filled {w : Web} {s : Source} {o : OutputDirectory} {d : Disk} {gs : List ClassGroup}
    (hσ : (ofRun w s o).Suits d gs) :
    (Run.ofGroups w s o d gs).outcomes = gs.map ((ofRun w s o).outcomeOf d) ∧
      (ofRun w s o).Filled d (· ∈ gs) (Run.ofGroups w s o d gs).disk := by
  induction gs using List.reverseRecOn with
  | nil => exact ⟨rfl, (filled_start _ d).congr fun _ => by simp⟩
  | append_singleton gs g ih =>
    obtain ⟨houtcomes, hf⟩ := ih hσ.of_append
    let r := Run.ofGroups w s o d gs
    have hg : g ∈ gs ++ [g] := List.mem_append_right gs (List.mem_singleton_self g)
    have hdone : ∀ k, k ∈ gs → k ∈ gs ++ [g] := fun k hk => List.mem_append_left [g] hk
    -- the files that were written so far are none of the pages
    have hstub : GroupStub.ofGroup (s.fetch w r.disk) g = (ofRun w s o).stubOf d g :=
      stubOf_eq hσ (hf.sameBut hσ hdone) hg
    have hmem : ∀ k, k ∈ gs ++ [g] ↔ k = g ∨ k ∈ gs := fun k => by simp [or_comm]
    rw [show Run.ofGroups w s o d (gs ++ [g]) = Run.add w s o r g from List.foldl_concat .., Run.add,
      List.map_append]
    simp only [hstub]
    rcases hf.write hσ hdone hg with ⟨d'', hwrite, hrefusal, hf'⟩ | ⟨failure, hwrite, hrefusal, hf'⟩
    · rw [write_ofRun] at hwrite
      rw [show o.write r.disk g.header.name _ = _ from hwrite]
      refine ⟨?_, hf'.congr hmem⟩
      simp [houtcomes, r, outcomeOf, hrefusal]
    · rw [write_ofRun] at hwrite
      rw [show o.write r.disk g.header.name _ = _ from hwrite]
      refine ⟨?_, hf'.congr hmem⟩
      simp [houtcomes, r, outcomeOf, hrefusal]

end Workshop

end DocStub
