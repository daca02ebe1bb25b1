/-
  Where the stubs of a run are written.

  1. **Resolving** — `Path.resolve` says what location a path denotes: a dot stays, two dots go up, and a rooted
     path begins at the root.  A file is written at the location that its path denotes, or not at all
     (`Disk.eq_resolve_of_fileTarget`).
  2. **Stub paths** — the stub of a class lies directly in the output directory, under the name of the class,
     exactly if that name has no slash (`resolve_pathOf_iff`).  Such classes never share a file.
  3. **Runs** — one group changes the disk at most where its stub path leads (`disk_add`), so a whole run changes
     it at most where the stub paths of its groups lead (`find?_ofGroups`).
  4. **Classes of an index** — what holds of all of them (`stubs_in_directory`), and what a slash in the name of
     a class breaks: the name is joined as a path, and that may lead anywhere
     (`stubs_outside_directory`).
-/
import DocStub.Proofs.Site.Grouping
import DocStub.Proofs.Site.OutputDirectory
import DocStub.Site.Run
import Mathlib.Data.List.Induction

namespace DocStub

/-! ## Resolving -/

namespace Path

/-- Where one piece of a path leads. -/
def enter (p : Location) (piece : Text) : Location :=
  if piece = dot then p else if piece = dotDot then p.tail else piece :: p

/-- The location that a path denotes, seen from the working directory. -/
def resolve (here : Location) (path : Text) : Location :=
  (pieces path).foldl enter (if isRooted path then [] else here)

/-- A name leads one step down. -/
theorem enter_of_isDots {piece : Text} (h : Disk.isDots piece = false) (p : Location) : enter p piece = piece :: p := by
  simp only [Disk.isDots, Bool.or_eq_false_iff, beq_eq_false_iff_ne, ne_eq] at h
  rw [enter, if_neg h.1, if_neg h.2]

/-- A name that is joined to a path denotes a location directly in the directory. -/
theorem resolve_join (here : Location) (base : Text) {name : Text} (hne : name ≠ []) (hname : '/' ∉ name)
    (hdots : Disk.isDots name = false) : resolve here (join base name) = name :: resolve here base := by
  rw [resolve, pieces_join base hne hname, isRooted_join base hname, List.foldl_concat, enter_of_isDots hdots]
  rfl

/-- No name on the way has a slash, if the piece has none. -/
theorem slash_not_mem_enter {p : Location} {piece : Text} (hp : ∀ n ∈ p, '/' ∉ n) (hpiece : '/' ∉ piece) :
    ∀ n ∈ enter p piece, '/' ∉ n := by
  intro n hn
  rw [enter] at hn
  split at hn
  · exact hp n hn
  · split at hn
    · exact hp n (List.mem_of_mem_tail hn)
    · rcases List.mem_cons.1 hn with rfl | hn
      · exact hpiece
      · exact hp n hn

theorem slash_not_mem_foldl_enter {p : Location} {ps : List Text} (hp : ∀ n ∈ p, '/' ∉ n)
    (hps : ∀ piece ∈ ps, '/' ∉ piece) : ∀ n ∈ ps.foldl enter p, '/' ∉ n := by
  induction ps generalizing p with
  | nil => exact hp
  | cons piece ps ih =>
    exact ih (slash_not_mem_enter hp (hps piece List.mem_cons_self)) fun n hn => hps n (List.mem_cons_of_mem piece hn)

/-- No name on the way to a location has a slash, unless it was there before. -/
theorem slash_not_mem_resolve {here : Location} (hhere : ∀ n ∈ here, '/' ∉ n) (path : Text) :
    ∀ n ∈ resolve here path, '/' ∉ n := by
  have hpieces : ∀ piece ∈ pieces path, '/' ∉ piece :=
    fun piece hp => Text.not_mem_of_mem_splitAt (List.mem_filter.1 hp).1
  refine slash_not_mem_foldl_enter ?_ hpieces
  split
  · exact fun n hn => nomatch hn
  · exact hhere

end Path

namespace Disk

/-- If a step succeeds, it leads where the piece denotes. -/
theorem eq_enter_of_step {d : Disk} {p q : Location} {piece : Text} (h : d.step p piece = .ok q) :
    q = Path.enter p piece := by
  rcases (step_eq_ok h).2 with ⟨rfl, rfl⟩ | ⟨rfl, rfl⟩ | ⟨hdots, rfl, -, -⟩
  · rfl
  · rfl
  · exact (Path.enter_of_isDots hdots p).symm

/-- If a walk succeeds, it leads where its pieces denote. -/
theorem eq_foldl_of_walk {d : Disk} {p q : Location} {ps : List Text} (h : d.walk p ps = .ok q) :
    q = ps.foldl Path.enter p := by
  induction ps generalizing p with
  | nil => exact (Except.ok.inj h).symm
  | cons piece ps ih =>
    rw [walk] at h
    split at h
    · next m hm =>
      rw [List.foldl_cons, ← eq_enter_of_step hm]
      exact ih h
    · cases h

/-- A file is written at the location that its path denotes. -/
theorem eq_resolve_of_fileTarget {d : Disk} {path : Text} {q : Location} (h : d.fileTarget path = .ok q) :
    q = Path.resolve d.here path := by
  obtain ⟨r, p, name, hr, -, hlast, hwalk, -, hdots, -, rfl⟩ := exists_of_fileTarget h
  obtain rfl := eq_of_ofPath hr
  have hp : p = (Path.pieces path).dropLast.foldl Path.enter (if Path.isRooted path then [] else d.here) :=
    eq_foldl_of_walk hwalk
  have hpieces : Path.pieces path = (Path.pieces path).dropLast ++ [name] := pieces_eq_concat hlast hdots
  rw [Path.resolve, hpieces, List.foldl_concat, ← hp, Path.enter_of_isDots hdots]

end Disk

/-! ## Stub paths -/

namespace OutputDirectory

/-- With its ending, no name is read as a dot or two dots. -/
theorem isDots_stubName (name : Identifier) : Disk.isDots (name.text ++ ending) = false := by
  have hlast : (name.text ++ ending).getLast? = some 'a' := by
    rw [List.getLast?_append]
    rfl
  simp only [Disk.isDots, Bool.or_eq_false_iff, beq_eq_false_iff_ne, ne_eq]
  constructor
  · intro hdot
    rw [hdot] at hlast
    cases hlast
  · intro hdots
    rw [hdots] at hlast
    cases hlast

/-- The stub path of a name without a slash denotes a file in the directory. -/
theorem resolve_pathOf (here : Location) (o : OutputDirectory) {name : Identifier} (h : '/' ∉ name.text) :
    Path.resolve here (o.pathOf name) = stubLocation (Path.resolve here o.path) name :=
  Path.resolve_join here o.path (stubName_ne_nil name) (slash_not_mem_stubName h) (isDots_stubName name)

/-- The stub of a class is the file of that name directly in the directory, exactly if the name has no slash. -/
theorem resolve_pathOf_iff {here : Location} (hhere : ∀ n ∈ here, '/' ∉ n) (o : OutputDirectory) (name : Identifier) :
    Path.resolve here (o.pathOf name) = stubLocation (Path.resolve here o.path) name ↔ '/' ∉ name.text := by
  refine ⟨fun h hslash => ?_, resolve_pathOf here o⟩
  have hnone := Path.slash_not_mem_resolve hhere (o.pathOf name)
  rw [h] at hnone
  exact hnone _ List.mem_cons_self (List.mem_append_left ending hslash)

end OutputDirectory

/-! ## Runs -/

namespace Run

open OutputDirectory (stubLocation)

/-- One group writes its stub where its path leads, or it leaves the disk as it is. -/
theorem disk_add (w : Web) (s : Source) (o : OutputDirectory) (r : Run) (g : ClassGroup) :
    (add w s o r g).disk = r.disk
      ∨ ∃ content, (add w s o r g).disk
          = r.disk.put (Path.resolve r.disk.here (o.pathOf g.header.name)) (.file content) := by
  rw [add]
  simp only [OutputDirectory.write_eq]
  cases htarget : r.disk.fileTarget (o.pathOf g.header.name) with
  | error e => exact Or.inl rfl
  | ok q =>
    rw [← Disk.eq_resolve_of_fileTarget htarget]
    exact Or.inr ⟨_, rfl⟩

/-- A run changes the disk at most where the stub paths of its groups lead. -/
theorem find?_ofGroups (w : Web) (s : Source) (o : OutputDirectory) (d : Disk) (gs : List ClassGroup) :
    (ofGroups w s o d gs).disk.here = d.here ∧
      ∀ q, (ofGroups w s o d gs).disk.find? q = d.find? q
        ∨ ∃ g ∈ gs, q = Path.resolve d.here (o.pathOf g.header.name) := by
  induction gs using List.reverseRecOn with
  | nil => exact ⟨rfl, fun _ => Or.inl rfl⟩
  | append_singleton gs g ih =>
    obtain ⟨hhere, hkept⟩ := ih
    have hmem : ∀ k ∈ gs, k ∈ gs ++ [g] := fun k hk => List.mem_append_left [g] hk
    have hkept : ∀ q, (ofGroups w s o d gs).disk.find? q = d.find? q
        ∨ ∃ k ∈ gs ++ [g], q = Path.resolve d.here (o.pathOf k.header.name) :=
      fun q => (hkept q).imp_right fun ⟨k, hk, hq⟩ => ⟨k, hmem k hk, hq⟩
    rw [show ofGroups w s o d (gs ++ [g]) = add w s o (ofGroups w s o d gs) g from List.foldl_concat ..]
    -- the last group wrote its stub, or it left the disk as it was
    rcases disk_add w s o (ofGroups w s o d gs) g with hsame | ⟨content, hput⟩
    · rw [hsame]
      exact ⟨hhere, hkept⟩
    · rw [hput, hhere]
      refine ⟨hhere, fun q => ?_⟩
      rw [Disk.find?_put]
      split
      · next hq => exact Or.inr ⟨g, List.mem_append_right gs (List.mem_singleton_self g), hq⟩
      · exact hkept q

/-! ## Classes of an index -/

/-- The classes of an index whose names have no slash: the stub of each is a file directly in the output
    directory, two of them never share one, and a run writes nowhere else. -/
theorem stubs_in_directory (index : Text) (o : OutputDirectory)
    (hnames : ∀ g ∈ ClassGroup.ofEntries (Index.entries index), '/' ∉ g.header.name.text) :
    (∀ here, ∀ g ∈ ClassGroup.ofEntries (Index.entries index),
        Path.resolve here (o.pathOf g.header.name) = stubLocation (Path.resolve here o.path) g.header.name) ∧
      (∀ here, ∀ g ∈ ClassGroup.ofEntries (Index.entries index),
        ∀ k ∈ ClassGroup.ofEntries (Index.entries index), g.header.name ≠ k.header.name →
          Path.resolve here (o.pathOf g.header.name) ≠ Path.resolve here (o.pathOf k.header.name)) ∧
      ∀ (w : Web) (s : Source) (d : Disk) (q : Location),
        (ofGroups w s o d (ClassGroup.ofEntries (Index.entries index))).disk.find? q ≠ d.find? q →
          ∃ g ∈ ClassGroup.ofEntries (Index.entries index),
            q = stubLocation (Path.resolve d.here o.path) g.header.name := by
  have hinside (here : Location) : ∀ g ∈ ClassGroup.ofEntries (Index.entries index),
      Path.resolve here (o.pathOf g.header.name) = stubLocation (Path.resolve here o.path) g.header.name :=
    fun g hg => OutputDirectory.resolve_pathOf here o (hnames g hg)
  refine ⟨hinside, fun here g hg k hk hne hsame => ?_, fun w s d q hq => ?_⟩
  · rw [hinside here g hg, hinside here k hk] at hsame
    exact hne (OutputDirectory.eq_of_stubLocation hsame)
  · obtain ⟨g, hg, hresolve⟩ := ((find?_ofGroups w s o d _).2 q).resolve_left hq
    exact ⟨g, hg, by rw [hresolve, hinside d.here g hg]⟩

/-- An index of two classes. -/
def sampleIndex : Text :=
  "<table><tr><td class=name><a href=x>a</a><tr><td class=name><a href=y>..b</a></table>".toList

theorem stubs_in_directory_sample :
    (ClassGroup.ofEntries (Index.entries sampleIndex)).map (·.header.name.text) = ["A".toList, "..b".toList]
      ∧ (∀ g ∈ ClassGroup.ofEntries (Index.entries sampleIndex), '/' ∉ g.header.name.text)
      ∧ ∀ g ∈ ClassGroup.ofEntries (Index.entries sampleIndex),
          Path.resolve [] ((⟨"a/../out/".toList⟩ : OutputDirectory).pathOf g.header.name)
            = stubLocation ["out".toList] g.header.name := by
  have hnames : ∀ g ∈ ClassGroup.ofEntries (Index.entries sampleIndex), '/' ∉ g.header.name.text := by
    decide +kernel
  exact ⟨by decide +kernel, hnames, (stubs_in_directory sampleIndex ⟨"a/../out/".toList⟩ hnames).1 []⟩

/-- An index with slashes in the names of its classes. -/
def slashIndex : Text :=
  "<table><tr><td class=name><a href=x>../x</a><tr><td class=name><a href=y>a</a>".toList
    ++ "<tr><td class=name><a href=z>./A</a></table>".toList

/-- The stub of the first class is written beside the output directory, and the other two share a file. -/
theorem stubs_outside_directory :
    let o : OutputDirectory := ⟨"out".toList⟩
    let d := (OutputDirectory.prepare .empty "out".toList).1
    let gs := ClassGroup.ofEntries (Index.entries slashIndex)
    let r := ofGroups (fun _ => .ok []) (.web []) o d gs
    gs.map (·.header.name.text) = ["../x".toList, "A".toList, "./A".toList]
      ∧ Path.resolve d.here (o.pathOf ⟨"../x".toList⟩) = "x.lua".toList :: d.here
      ∧ (∀ file, Path.resolve d.here (o.pathOf ⟨"../x".toList⟩) ≠ file :: Path.resolve d.here o.path)
      ∧ Path.resolve d.here (o.pathOf ⟨"A".toList⟩) = Path.resolve d.here (o.pathOf ⟨"./A".toList⟩)
      ∧ d.find? ("x.lua".toList :: d.here) = none ∧ r.disk.isFile ("x.lua".toList :: d.here) = true := by
  intro o d gs r
  have hstub : Path.resolve d.here (o.pathOf ⟨"../x".toList⟩) = "x.lua".toList :: d.here := by decide +kernel
  have houtput : Path.resolve d.here o.path = "out".toList :: d.here := by decide +kernel
  refine ⟨by decide +kernel, hstub, fun file h => ?_, by decide +kernel, by decide +kernel, by decide +kernel⟩
  rw [hstub, houtput] at h
  exact absurd (congrArg List.length h) (by simp)

end Run

end DocStub
