/-
  A site is written completely, or the program says what is missing.

  1. **What is promised** — `stubText` is the text of a class, entry by entry and function by function, and
     `failuresOf` are the failures of a class: the pages that cannot be had or are not aligned, and the
     stub that cannot be written.  Both are about the prepared disk and about this class alone.
  2. **What happens** — when there is something to write and the directory is prepared (`Begun`), the outcomes
     of the run are the failures of the classes (`outcomes_of_begun`), and the disk holds their stubs
     (`readText_of_begun`).
  3. **What is said** — the program fails exactly if a class has a failure, it counts these classes, and it
     reports each failure as an error; nothing else is an error (`error_events_of_begun`).
     In every other case it fails at once, and without an index it leaves the disk alone.
-/
import DocStub.Command.Program
import DocStub.Proofs.Site.FailedPages
import DocStub.Proofs.Site.Workshop

namespace DocStub.Command

/-! ## What is promised -/

/-- The names of the classes, in the order of their first entries. -/
def classNames (classes : List ClassEntry) : List Identifier := (classes.map (·.name)).eraseDups

/-- The text of a class: the header from its first entry, and the functions of all its entries. -/
def stubText (fetch : Text → Except Failure Text) (classes : List ClassEntry) (name : Identifier) : Text :=
  Stub.header ⟨name, ((classes.find? (·.name = name)).map (·.summary)).getD []⟩
    ++ (classes.filter (·.name = name)).flatMap fun e =>
      Stub.functions name (GroupStub.functionsAt fetch name e.url)

/-- What is missing of a class: pages, and its file. -/
def failuresOf (fetch : Text → Except Failure Text) (o : OutputDirectory) (d : Disk)
    (classes : List ClassEntry) (name : Identifier) : List Failure :=
  (classes.filter (·.name = name)).filterMap (fun e => GroupStub.failureAt? fetch name e.url)
    ++ match o.write d name (stubText fetch classes name) with
      | .ok _ => []
      | .error failure => [failure]

/-- The index lists classes, and the output directory is prepared. -/
structure Begun (w : Web) (o : Options) (d : Disk) (classes : List ClassEntry) (d₁ : Disk)
    (out : OutputDirectory) : Prop where
  index : ∃ page, (Source.ofText o.source).fetch w d [] = .ok page ∧ Index.entries page = classes
  listed : classes ≠ []
  prepared : OutputDirectory.prepare d o.output = (d₁, .ok out)

/-! ## What happens -/

section

variable (fetch : Text → Except Failure Text) (classes : List ClassEntry) (name : Identifier)

/-- The group of a class is written as its text. -/
theorem text_ofName :
    (GroupStub.ofGroup fetch (ClassGroup.ofName classes name)).text = stubText fetch classes name :=
  GroupStub.text_ofGroup fetch (ClassGroup.ofName classes name)

/-- The failures that a group reports are those of the pages of its class. -/
theorem failures_ofName :
    (GroupStub.ofGroup fetch (ClassGroup.ofName classes name)).failures
      = (classes.filter (·.name = name)).filterMap fun e => GroupStub.failureAt? fetch name e.url := by
  rw [GroupStub.ofGroup_eq, GroupStub.failuresIn_eq]
  rfl

/-- The outcome of a group holds the failures of its class: those of the pages, and the refused file. -/
theorem outcomeOf_ofName (w : Web) (s : Source) (out : OutputDirectory) (d : Disk) :
    ((Workshop.ofRun w s out).outcomeOf d (ClassGroup.ofName classes name)).failures
      = failuresOf (s.fetch w d) out d classes name := by
  have hrefusal : (Workshop.ofRun w s out).refusal d name =
      match out.write d name (stubText (s.fetch w d) classes name) with
      | .ok _ => []
      | .error failure => [failure] := by
    rw [← Workshop.write_ofRun w s, Workshop.write, Workshop.refusal]
    cases (Workshop.ofRun w s out).target d name <;> rfl
  rw [Workshop.outcomeOf]
  show (GroupStub.ofGroup (s.fetch w d) (ClassGroup.ofName classes name)).failures
    ++ (Workshop.ofRun w s out).refusal d name = _
  rw [failures_ofName, hrefusal, failuresOf]

end

section

variable {w : Web} {o : Options} {d d₁ : Disk} {classes : List ClassEntry} {out : OutputDirectory}

/-- The run of the program on the classes of the index. -/
def runOf (w : Web) (o : Options) (d₁ : Disk) (classes : List ClassEntry) (out : OutputDirectory) : Run :=
  Run.ofGroups w (Source.ofText o.source) out d₁ (ClassGroup.ofEntries classes)

/-- Once the directory is prepared, the program is its run, with reports in front of it and behind it. -/
theorem site_of_begun (h : Begun w o d classes d₁ out) :
    let r := runOf w o d₁ classes out
    site w o d =
      ⟨r.disk, [(Source.ofText o.source).event [], indexEvent o.source classes]
        ++ (r.events ++ [totalEvent o.output r.outcomes] ++ r.outcomes.flatMap failureEvents),
        verdict r.outcomes⟩ := by
  obtain ⟨⟨page, hpage, hclasses⟩, hlisted, hprepared⟩ := h
  have hempty : classes.isEmpty = false := by simpa using hlisted
  rw [site]
  simp only [hpage, hclasses, hempty, writeStubs, Run.ofClasses, hprepared, runOf, Bool.false_eq_true,
    if_false]

/-- The workshop of the run. -/
def workshopOf (w : Web) (o : Options) (out : OutputDirectory) : Workshop :=
  Workshop.ofRun w (Source.ofText o.source) out

/-- The prepared directory and the groups of the index fit together. -/
theorem suits_of_begun (h : Begun w o d classes d₁ out) (hnames : ∀ e ∈ classes, '/' ∉ e.name.text)
    (hpages : (workshopOf w o out).PagesFixed d₁ classes) :
    (workshopOf w o out).Suits d₁ (ClassGroup.ofEntries classes) := by
  have hprepared : OutputDirectory.prepare d (workshopOf w o out).output.path
      = (d₁, .ok (workshopOf w o out).output) := by
    obtain ⟨hout, -⟩ := OutputDirectory.prepare_eq_ok h.prepared
    have hprepared := h.prepared
    rw [hout] at hprepared ⊢
    exact hprepared
  exact Workshop.suits_ofEntries hprepared hnames hpages

/-- The outcomes of the run, by the names of the classes. -/
theorem outcomes_of_begun
    (hσ : (workshopOf w o out).Suits d₁ (ClassGroup.ofEntries classes)) :
    (runOf w o d₁ classes out).outcomes = (classNames classes).map fun n =>
      (workshopOf w o out).outcomeOf d₁ (ClassGroup.ofName classes n) := by
  rw [runOf, (Workshop.ofGroups_filled hσ).1, ClassGroup.ofEntries_eq, List.map_map]
  rfl

/-- The file of a class that could be written holds its text. -/
theorem readText_of_begun (hσ : (workshopOf w o out).Suits d₁ (ClassGroup.ofEntries classes))
    {name : Identifier} (hname : name ∈ classNames classes) {text : Text} {d' : Disk}
    (hwrite : out.write d₁ name text = .ok d') :
    (runOf w o d₁ classes out).disk.readText (out.pathOf name)
      = .ok (stubText ((Source.ofText o.source).fetch w d₁) classes name) := by
  have hg : ClassGroup.ofName classes name ∈ ClassGroup.ofEntries classes := by
    rw [ClassGroup.ofEntries_eq]
    exact List.mem_map_of_mem hname
  -- that the file can be written does not depend on its text, but on its place alone
  obtain ⟨q, hq⟩ : ∃ q, (workshopOf w o out).target d₁ name = .ok q := by
    rw [← Workshop.write_ofRun w (Source.ofText o.source), Workshop.write] at hwrite
    split at hwrite
    · next q hq => exact ⟨q, hq⟩
    · cases hwrite
  have hread := (Workshop.ofGroups_filled hσ).2.readText hσ (fun _ hk => hk) hg hq
  rw [← text_ofName]
  exact hread

/-! ## What is said -/

/-- The report of a failure. -/
def errorEvent (name : Identifier) (failure : Failure) : Log.Event :=
  ⟨.error, .command, name.text ++ ": ".toList ++ failure.message⟩

/-- While a group is worked on, not even a failed page is reported as an error. -/
theorem level_ne_error_of_mem_groupEvents {s : Source} {fetch : Text → Except Failure Text}
    {g : ClassGroup} {e : Log.Event} (h : e ∈ Run.groupEvents s fetch g) : e.level ≠ .error := by
  obtain ⟨entry, -, he⟩ := List.mem_flatMap.1 h
  -- the request and the reading of a page, and then what came of it
  rcases List.mem_append.1 he with he | he
  · rcases List.mem_cons.1 he with rfl | he
    · exact (nomatch ·)
    · rw [List.mem_singleton.1 he]
      exact (nomatch ·)
  · cases hr : GroupStub.functionsOf fetch g.header.name entry with
    | ok fs =>
      rw [hr] at he
      obtain ⟨f, -, rfl⟩ := List.mem_map.1 he
      exact (nomatch ·)
    | error failure =>
      rw [hr] at he
      rw [List.mem_singleton.1 he]
      exact (nomatch ·)

/-- A run reports no errors while it works. -/
theorem level_ne_error_of_mem_ofGroups {s : Source} {gs : List ClassGroup} {e : Log.Event}
    (h : e ∈ (Run.ofGroups w s out d gs).events) : e.level ≠ .error := by
  -- by the groups, the last one last; whether its stub was written or not, it is reported with a level of its own
  induction gs using List.reverseRecOn with
  | nil => cases h
  | append_singleton gs g ih =>
    rw [show Run.ofGroups w s out d (gs ++ [g]) = Run.add w s out (Run.ofGroups w s out d gs) g from
      List.foldl_concat .., Run.add] at h
    split at h
    all_goals
      rcases List.mem_append.1 h with h | h
      · rcases List.mem_append.1 h with h | h
        · exact ih h
        · exact level_ne_error_of_mem_groupEvents h
      · rw [List.mem_singleton.1 h]
        intro hlevel
        cases hlevel

/-- The errors that are reported are the failures of the outcomes, in order. -/
theorem filter_events_of_begun (h : Begun w o d classes d₁ out) :
    (site w o d).events.filter (·.level = .error)
      = (runOf w o d₁ classes out).outcomes.flatMap failureEvents := by
  have hfirst : ∀ e ∈ [(Source.ofText o.source).event [], indexEvent o.source classes],
      ¬ decide (e.level = .error) = true := by
    simp only [List.forall_mem_cons]
    exact ⟨by simp [Source.event], by simp [indexEvent], by simp⟩
  have hrun : ∀ e ∈ (runOf w o d₁ classes out).events, ¬ decide (e.level = .error) = true :=
    fun e he => by simpa using level_ne_error_of_mem_ofGroups he
  have hlast : ∀ e ∈ (runOf w o d₁ classes out).outcomes.flatMap failureEvents,
      decide (e.level = .error) = true := by
    intro e he
    obtain ⟨outcome, -, he⟩ := List.mem_flatMap.1 he
    obtain ⟨failure, -, rfl⟩ := List.mem_map.1 he
    rfl
  -- so of all events only the reports at the end are left
  rw [site_of_begun h]
  simp only [List.filter_append, List.filter_eq_nil_iff.2 hfirst, List.filter_eq_nil_iff.2 hrun,
    List.filter_eq_self.2 hlast, List.nil_append]
  rfl

/-- Each failure of each class is reported as an error, and nothing else is. -/
theorem error_events_of_begun (h : Begun w o d classes d₁ out)
    (hσ : (workshopOf w o out).Suits d₁ (ClassGroup.ofEntries classes)) :
    (site w o d).events.filter (·.level = .error) = (classNames classes).flatMap fun n =>
      (failuresOf ((Source.ofText o.source).fetch w d₁) out d₁ classes n).map (errorEvent n) := by
  rw [filter_events_of_begun h, outcomes_of_begun hσ, List.flatMap_map]
  refine List.flatMap_congr fun n _ => ?_
  rw [← outcomeOf_ofName]
  rfl

/-- The classes that have failures. -/
def failing (w : Web) (o : Options) (out : OutputDirectory) (d₁ : Disk) (classes : List ClassEntry) :
    List Identifier :=
  (classNames classes).filter fun n =>
    failuresOf ((Source.ofText o.source).fetch w d₁) out d₁ classes n ≠ []

/-- The program fails exactly if a class has a failure, and it counts the classes that have one. -/
theorem failed?_of_begun (h : Begun w o d classes d₁ out)
    (hσ : (workshopOf w o out).Suits d₁ (ClassGroup.ofEntries classes)) :
    (site w o d).failed? =
      if failing w o out d₁ classes = [] then none
      else some (.someClasses (failing w o out d₁ classes).length (classNames classes).length) := by
  -- an outcome has failures exactly if its class has some
  have hfilter : (runOf w o d₁ classes out).outcomes.filter (!·.failures.isEmpty)
      = (failing w o out d₁ classes).map fun n =>
        (workshopOf w o out).outcomeOf d₁ (ClassGroup.ofName classes n) := by
    rw [outcomes_of_begun hσ, List.filter_map, failing]
    congr 1
    refine List.filter_congr fun n _ => ?_
    rw [← outcomeOf_ofName]
    show (!(((workshopOf w o out).outcomeOf d₁ (ClassGroup.ofName classes n)).failures).isEmpty) =
      decide (((workshopOf w o out).outcomeOf d₁ (ClassGroup.ofName classes n)).failures ≠ [])
    cases ((workshopOf w o out).outcomeOf d₁ (ClassGroup.ofName classes n)).failures <;> rfl
  rw [site_of_begun h]
  show verdict _ = _
  rw [verdict, hfilter, outcomes_of_begun hσ]
  simp only [List.isEmpty_map, List.length_map, List.isEmpty_iff]

/-! ## All cases -/

/-- A class has no failure if all its pages are good and its file can be written. -/
theorem failuresOf_eq_nil_iff {fetch : Text → Except Failure Text} {name : Identifier} :
    failuresOf fetch out d classes name = [] ↔
      (∀ e ∈ classes, e.name = name → GroupStub.failureAt? fetch name e.url = none) ∧
        ∃ d', out.write d name (stubText fetch classes name) = .ok d' := by
  rw [failuresOf, List.append_eq_nil_iff, List.filterMap_eq_nil_iff]
  refine and_congr ?_ ?_
  · simp
  · cases out.write d name (stubText fetch classes name) <;> simp

/-- No class has a failure if all pages are good and all files can be written. -/
theorem failing_eq_nil_iff :
    failing w o out d₁ classes = [] ↔
      (∀ e ∈ classes, GroupStub.failureAt? ((Source.ofText o.source).fetch w d₁) e.name e.url = none) ∧
        ∀ e ∈ classes, ∃ d',
          out.write d₁ e.name (stubText ((Source.ofText o.source).fetch w d₁) classes e.name) = .ok d' := by
  -- the classes of entries and the names of classes are the same
  have hmem : ∀ e ∈ classes, e.name ∈ classNames classes :=
    fun e he => List.mem_eraseDups.2 (List.mem_map_of_mem he)
  rw [failing, List.filter_eq_nil_iff]
  constructor
  · intro h
    have hnone (e : ClassEntry) (he : e ∈ classes) :
        failuresOf ((Source.ofText o.source).fetch w d₁) out d₁ classes e.name = [] := by
      simpa using h e.name (hmem e he)
    exact ⟨fun e he => (failuresOf_eq_nil_iff.1 (hnone e he)).1 e he rfl,
      fun e he => (failuresOf_eq_nil_iff.1 (hnone e he)).2⟩
  · rintro ⟨hpages, hwrites⟩ n hn
    obtain ⟨e, he, rfl⟩ := List.mem_map.1 (List.mem_eraseDups.1 hn)
    have hnone := failuresOf_eq_nil_iff.2 ⟨fun k hk hke => hke ▸ hpages k hk, hwrites e he⟩
    simpa using hnone

/-- The program cannot succeed without an index, classes and a directory. -/
theorem exists_begun_of_failed?_eq_none (h : (site w o d).failed? = none) :
    ∃ classes d₁ out, Begun w o d classes d₁ out := by
  -- each of the ways out in front of the run is a failure
  rw [site] at h
  cases hpage : (Source.ofText o.source).fetch w d [] with
  | error failure =>
    simp [hpage] at h
  | ok page =>
    simp only [hpage] at h
    split at h
    · cases h
    · next hlisted =>
      cases hprepared : OutputDirectory.prepare d o.output with
      | mk d₁ result =>
        cases result with
        | error e => simp [writeStubs, Run.ofClasses, hprepared] at h
        | ok out => exact ⟨_, d₁, out, ⟨page, hpage, rfl⟩, by simpa using hlisted, hprepared⟩

/-- Without classes the output directory is not even made. -/
theorem disk_of_no_classes
    (h : ∀ page, (Source.ofText o.source).fetch w d [] = .ok page → Index.entries page = []) :
    (site w o d).disk = d := by
  rw [site]
  cases hpage : (Source.ofText o.source).fetch w d [] with
  | error failure => rfl
  | ok page =>
    simp only [h page hpage, List.isEmpty_nil, if_true]

/-- The names of the classes have no slash, and their pages do not depend on files in the output
    directory. -/
def Independent (w : Web) (o : Options) (d : Disk) : Prop :=
  ∀ classes d₁ out, Begun w o d classes d₁ out →
    (∀ e ∈ classes, '/' ∉ e.name.text) ∧ (workshopOf w o out).PagesFixed d₁ classes

/-- Pages from the web do not depend on files at all. -/
theorem independent_of_web {base : Text} (hsource : Source.ofText o.source = .web base)
    (hnames : ∀ page, (Source.ofText o.source).fetch w d [] = .ok page →
      ∀ e ∈ Index.entries page, '/' ∉ e.name.text) :
    Independent w o d := by
  intro classes d₁ out hbegun
  obtain ⟨page, hpage, rfl⟩ := hbegun.index
  refine ⟨hnames page hpage, fun e _ d' _ => ?_⟩
  show (Source.ofText o.source).fetch w d' e.url = (Source.ofText o.source).fetch w d₁ e.url
  rw [hsource]
  rfl

/-- A site is written completely, or the program says what is missing. -/
theorem site_faithful (h : Independent w o d) :
    let s := Source.ofText o.source
    let r := site w o d
    -- when it succeeds
    (r.failed? = none ↔ ∃ classes d₁ out, Begun w o d classes d₁ out ∧
      (∀ e ∈ classes, ∃ page, s.fetch w d₁ e.url = .ok page ∧
        (ClassPage.ofText page).summaries.length = (ClassPage.ofText page).details.length) ∧
      ∀ e ∈ classes, ∃ d', out.write d₁ e.name (stubText (s.fetch w d₁) classes e.name) = .ok d') ∧
    -- what it leaves then
    (∀ classes d₁ out, Begun w o d classes d₁ out → r.failed? = none →
      ∀ e ∈ classes, r.disk.readText (out.pathOf e.name)
        = .ok (stubText (s.fetch w d₁) classes e.name)) ∧
    -- without an index, or with an empty one
    ((∀ page, s.fetch w d [] = .ok page → Index.entries page = []) → r.disk = d) ∧
    -- how it fails
    ∀ classes d₁ out, Begun w o d classes d₁ out →
      (r.failed? = if failing w o out d₁ classes = [] then none
        else some (.someClasses (failing w o out d₁ classes).length (classNames classes).length)) ∧
      r.events.filter (·.level = .error) = (classNames classes).flatMap fun n =>
        (failuresOf (s.fetch w d₁) out d₁ classes n).map (errorEvent n) := by
  intro s r
  have hσ {classes : List ClassEntry} {d₁ : Disk} {out : OutputDirectory}
      (hbegun : Begun w o d classes d₁ out) :
      (workshopOf w o out).Suits d₁ (ClassGroup.ofEntries classes) :=
    suits_of_begun hbegun (h classes d₁ out hbegun).1 (h classes d₁ out hbegun).2
  have hnone {classes : List ClassEntry} {d₁ : Disk} {out : OutputDirectory}
      (hbegun : Begun w o d classes d₁ out) :
      r.failed? = none ↔ failing w o out d₁ classes = [] := by
    rw [failed?_of_begun hbegun (hσ hbegun)]
    split <;> simp_all
  refine ⟨⟨fun hr => ?_, ?_⟩, ?_, disk_of_no_classes, ?_⟩
  · obtain ⟨classes, d₁, out, hbegun⟩ := exists_begun_of_failed?_eq_none hr
    obtain ⟨hpages, hwrites⟩ := failing_eq_nil_iff.1 ((hnone hbegun).1 hr)
    exact ⟨classes, d₁, out, hbegun, fun e he => (GroupStub.failureAt?_eq_none_iff _ _).1 (hpages e he), hwrites⟩
  · rintro ⟨classes, d₁, out, hbegun, hpages, hwrites⟩
    refine (hnone hbegun).2 (failing_eq_nil_iff.2 ⟨fun e he => ?_, hwrites⟩)
    exact (GroupStub.failureAt?_eq_none_iff _ _).2 (hpages e he)
  · intro classes d₁ out hbegun hr e he
    obtain ⟨d', hwrite⟩ := (failing_eq_nil_iff.1 ((hnone hbegun).1 hr)).2 e he
    have hread := readText_of_begun (hσ hbegun) (List.mem_eraseDups.2 (List.mem_map_of_mem he)) hwrite
    rw [show r.disk = (runOf w o d₁ classes out).disk from congrArg SiteResult.disk (site_of_begun hbegun)]
    exact hread
  · intro classes d₁ out hbegun
    exact ⟨failed?_of_begun hbegun (hσ hbegun), error_events_of_begun hbegun (hσ hbegun)⟩

end

/-- Asks for a site of two classes. -/
def sampleOptions : Options :=
  { Options.default with source := "http://x/".toList, output := "out".toList }

def sampleIndex : Text :=
  "<table><tr><td class=name><a href=a>a</a><td class=summary>first".toList
    ++ "<tr><td class=name><a href=b>b</a><td class=summary>second</table>".toList

def sampleClasses : List ClassEntry :=
  [⟨"a".toList, ⟨"A".toList⟩, "first".toList⟩, ⟨"b".toList, ⟨"B".toList⟩, "second".toList⟩]

/-- A site whose first class has a function; the page of the second class is up to the caller. -/
def sampleWeb (second : Except Text Text) : Web := fun place =>
  if place = "http://x/".toList then .ok sampleIndex
  else if place = "http://x/a".toList then .ok GroupStub.sampleText
  else if place = "http://x/b".toList then second
  else .error "gone".toList

/-- The disk with an empty output directory. -/
def sampleDisk : Disk := (OutputDirectory.prepare .empty "out".toList).1

/-- The disk with a stub that an earlier run left. -/
def staleDisk : Disk := sampleDisk.put ["A.lua".toList, "out".toList] (.file [])

theorem source_sampleOptions : Source.ofText sampleOptions.source = .web "http://x/".toList := by
  decide +kernel

/-- The program starts on the two classes, whatever the second page is. -/
theorem begun_sample (second : Except Text Text) :
    Begun (sampleWeb second) sampleOptions .empty sampleClasses sampleDisk ⟨"out".toList⟩ where
  index := by
    refine ⟨sampleIndex, ?_, by decide +kernel⟩
    rw [source_sampleOptions]
    have hanswer : sampleWeb second "http://x/".toList = .ok sampleIndex := if_pos rfl
    rw [Source.fetch]
    exact congrArg (Except.mapError _) hanswer
  listed := by decide
  prepared := by
    have hok : (OutputDirectory.prepare .empty "out".toList).2 = .ok ⟨"out".toList⟩ := by decide +kernel
    exact Prod.ext rfl hok

/-- The sample suits the theorem, whatever the second page is. -/
theorem independent_sample (second : Except Text Text) :
    Independent (sampleWeb second) sampleOptions .empty := by
  obtain ⟨page, hpage, hentries⟩ := (begun_sample second).index
  refine independent_of_web source_sampleOptions fun page' hpage' => ?_
  obtain rfl : page = page' := Except.ok.inj (hpage.symm.trans hpage')
  rw [hentries]
  decide +kernel

/-- With both pages the run succeeds and the function is in its file; without the second page one of two classes
    fails, and this is reported; and without an index an old stub stays. -/
theorem site_faithful_sample :
    (Independent (sampleWeb (.ok [])) sampleOptions .empty ∧
      (site (sampleWeb (.ok [])) sampleOptions .empty).failed? = none ∧
      (site (sampleWeb (.ok [])) sampleOptions .empty).disk.readText "out/A.lua".toList
        = .ok (Stub.ofClass ⟨⟨"A".toList⟩, "first".toList⟩ GroupStub.sampleListing.listed)) ∧
    (Independent (sampleWeb (.error "gone".toList)) sampleOptions .empty ∧
      (site (sampleWeb (.error "gone".toList)) sampleOptions .empty).failed? = some (.someClasses 1 2) ∧
      (site (sampleWeb (.error "gone".toList)) sampleOptions .empty).events.filter (·.level = .error)
        = [errorEvent ⟨"B".toList⟩ (.fetch "http://x/b".toList "gone".toList)]) ∧
    Independent (fun _ => .error "gone".toList) sampleOptions staleDisk ∧
      (site (fun _ => .error "gone".toList) sampleOptions staleDisk).disk = staleDisk := by
  have hnoIndex (page : Text) :
      (Source.ofText sampleOptions.source).fetch (fun _ => .error "gone".toList) staleDisk [] ≠ .ok page := by
    rw [source_sampleOptions]
    exact (nomatch ·)
  have hindependent : Independent (fun _ => .error "gone".toList) sampleOptions staleDisk :=
    independent_of_web source_sampleOptions fun page hpage => absurd hpage (hnoIndex page)
  refine ⟨⟨independent_sample _, ?_⟩, ⟨independent_sample _, ?_⟩, hindependent, ?_⟩
  · obtain ⟨-, hfiles, -, hfailing⟩ := site_faithful (independent_sample (.ok []))
    have hfailed : (site (sampleWeb (.ok [])) sampleOptions .empty).failed? = none := by
      rw [(hfailing _ _ _ (begun_sample _)).1]
      decide +kernel
    have hread := hfiles _ _ _ (begun_sample _) hfailed _ (.head _)
    exact ⟨hfailed, hread.trans (by decide +kernel)⟩
  · obtain ⟨-, -, -, hfailing⟩ := site_faithful (independent_sample (.error "gone".toList))
    obtain ⟨hfailed, hevents⟩ := hfailing _ _ _ (begun_sample _)
    rw [hfailed, hevents]
    exact ⟨by decide +kernel, by decide +kernel⟩
  · obtain ⟨-, -, hdisk, -⟩ := site_faithful hindependent
    exact hdisk fun page hpage => absurd hpage (hnoIndex page)

end DocStub.Command
