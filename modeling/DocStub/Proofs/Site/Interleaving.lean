/-
  Groups that are worked on at the same time.

  1. **The system** — a `Task` is a group and how far it is: it gets the pages of its entries one by one, and
     then writes its stub.  `Workshop.act` does its next action on the disk as it is at that moment.
  2. **Schedules** — a schedule is a list of positions; `play` lets the tasks there take their turns, in this
     order.  Every order in which any number of workers can do the actions of the groups is a schedule.
     It is `Complete` if no task is left unfinished.
  3. **The invariant** (`Sound`) — what a task has read so far is what it reads by itself, what is done
     is what comes of the group by itself, and the disk is filled by the groups that are done
     (`Workshop.Filled`).  A turn keeps it (`Sound.turn`), whether it reads a page (`Sound.turn_page`) or writes a
     stub (`Sound.turn_stub`), so a schedule does (`Sound.play`).
  4. **Every complete schedule** ends with the same outcomes and the same disk (`Workshop.play_ofEntries`).

  An action is one step: it asks for one page, or it writes one stub.  No action sees a stub half written.
-/
import DocStub.Proofs.Site.Workshop

namespace DocStub

/-! ## The system -/

/-- How far a group is. -/
inductive Progress where
  /-- These entries are left, and these are the answers so far. -/
  | reading (left : List ClassEntry) (answers : List (Except Failure (List FunctionDoc)))
  | done (outcome : Outcome)

/-- The outcome of a group that is done. -/
def Progress.outcome? : Progress → Option Outcome
  | reading _ _ => none
  | done o => some o

/-- A group at work. -/
structure Task where
  group : ClassGroup
  progress : Progress

/-- The disk and all groups at work. -/
structure Floor where
  disk : Disk
  tasks : List Task

namespace Floor

/-- Nothing is done yet. -/
def start (d : Disk) (gs : List ClassGroup) : Floor := ⟨d, gs.map fun g => ⟨g, .reading g.entries []⟩⟩

/-- What is known of the groups, in their order. -/
def outcomes (f : Floor) : List (Option Outcome) := f.tasks.map (·.progress.outcome?)

end Floor

namespace Workshop

/-- The group writes its stub, and is done. -/
def finish (σ : Workshop) (d : Disk) (g : ClassGroup) (stub : GroupStub) : Disk × Task :=
  match σ.write d g.header.name stub.text with
  | .ok d' => (d', ⟨g, .done ⟨g.header.name, stub.count, stub.failures⟩⟩)
  | .error failure => (d, ⟨g, .done ⟨g.header.name, stub.count, stub.failures ++ [failure]⟩⟩)

/-- The next action of a task, and the disk after it. -/
def act (σ : Workshop) (d : Disk) : Task → Disk × Task
  | ⟨g, .reading (e :: left) answers⟩ =>
    (d, ⟨g, .reading left (answers ++ [GroupStub.functionsOf (σ.fetch d) g.header.name e])⟩)
  | ⟨g, .reading [] answers⟩ =>
    σ.finish d g (answers.foldl (GroupStub.add g.header.name) ⟨Stub.header g.header, 0, []⟩)
  | ⟨g, .done o⟩ => (d, ⟨g, .done o⟩)

/-- The task at a position takes its turn. -/
def turn (σ : Workshop) (f : Floor) (i : Nat) : Floor :=
  match f.tasks[i]? with
  | none => f
  | some t => ⟨(σ.act f.disk t).1, f.tasks.set i (σ.act f.disk t).2⟩

theorem turn_of_getElem? {σ : Workshop} {f : Floor} {i : Nat} {t : Task} (h : f.tasks[i]? = some t) :
    σ.turn f i = ⟨(σ.act f.disk t).1, f.tasks.set i (σ.act f.disk t).2⟩ := by
  rw [turn, h]

/-- The tasks take their turns in the order of the schedule. -/
def play (σ : Workshop) (schedule : List Nat) (f : Floor) : Floor := schedule.foldl σ.turn f

end Workshop

/-! ## Schedules -/

/-- Every group has a turn for each of its entries, and one to write its stub. -/
def Complete (gs : List ClassGroup) (schedule : List Nat) : Prop :=
  ∀ i g, gs[i]? = some g → g.entries.length + 1 ≤ schedule.count i

/-- How many turns a task still needs. -/
def Task.turns (t : Task) : Nat :=
  match t.progress with
  | .reading left _ => left.length + 1
  | .done _ => 0

/-- How many turns the task at a position still needs. -/
def Floor.remaining (f : Floor) (i : Nat) : Nat := (f.tasks[i]?.map Task.turns).getD 0

/-- An action takes one turn, and a task that is done needs none. -/
theorem turns_act (σ : Workshop) (d : Disk) (t : Task) : (σ.act d t).2.turns = t.turns - 1 := by
  obtain ⟨g, progress⟩ := t
  cases progress with
  | done o => rfl
  | reading left answers =>
    cases left with
    | cons e left => rfl
    | nil =>
      show (σ.finish d g _).2.turns = 0
      rw [Workshop.finish]
      split <;> rfl

/-- A turn counts for the task that takes it. -/
theorem remaining_turn (σ : Workshop) (f : Floor) (i j : Nat) :
    (σ.turn f j).remaining i = f.remaining i - if i = j then 1 else 0 := by
  -- a position without a task takes no turn, and then there is none to count
  cases hj : f.tasks[j]? with
  | none =>
    rw [Workshop.turn, hj]
    by_cases hij : i = j
    · subst hij
      simp [Floor.remaining, hj]
    · simp [hij]
  | some t =>
    rw [Workshop.turn_of_getElem? hj]
    show ((f.tasks.set j (σ.act f.disk t).2)[i]?.map Task.turns).getD 0 = _
    by_cases hij : i = j
    · subst hij
      obtain ⟨hlt, -⟩ := List.getElem?_eq_some_iff.1 hj
      rw [List.getElem?_set_self hlt, if_pos rfl, Floor.remaining, hj]
      exact turns_act σ f.disk t
    · rw [List.getElem?_set_ne (Ne.symm hij), if_neg hij]
      rfl

/-- A schedule takes from each task as many turns as it holds its position. -/
theorem remaining_play (σ : Workshop) (schedule : List Nat) (f : Floor) (i : Nat) :
    (σ.play schedule f).remaining i = f.remaining i - schedule.count i := by
  induction schedule generalizing f with
  | nil => rfl
  | cons j schedule ih =>
    rw [Workshop.play, List.foldl_cons, ← Workshop.play, ih, remaining_turn, List.count_cons]
    by_cases hij : i = j
    · subst hij
      simp
      omega
    · have hji : j ≠ i := Ne.symm hij
      simp [hij, hji]

/-- In the beginning a task needs a turn for each entry, and one more to write. -/
theorem remaining_start (d : Disk) (gs : List ClassGroup) (i : Nat) :
    (Floor.start d gs).remaining i = (gs[i]?.map (·.entries.length + 1)).getD 0 := by
  rw [Floor.remaining, Floor.start, List.getElem?_map, Option.map_map]
  rfl

/-- A complete schedule leaves no task unfinished. -/
theorem remaining_play_start {σ : Workshop} {d : Disk} {gs : List ClassGroup} {schedule : List Nat}
    (h : Complete gs schedule) (i : Nat) : (σ.play schedule (Floor.start d gs)).remaining i = 0 := by
  rw [remaining_play, remaining_start]
  cases hg : gs[i]? with
  | none => exact Nat.zero_sub _
  | some g => exact Nat.sub_eq_zero_of_le (h i g hg)

/-! ## The invariant -/

/-- A group that has read what it reads by itself ends with the outcome it has by itself. -/
theorem Workshop.Filled.finish {σ : Workshop} {d d' : Disk} {gs : List ClassGroup} {g : ClassGroup}
    {done : ClassGroup → Prop} (hσ : σ.Suits d gs) (hdone : ∀ g, done g → g ∈ gs)
    (hf : σ.Filled d done d') (hg : g ∈ gs) :
    ∃ d'', σ.finish d' g (σ.stubOf d g) = (d'', ⟨g, .done (σ.outcomeOf d g)⟩) ∧
      σ.Filled d (fun k => k = g ∨ done k) d'' := by
  rw [Workshop.finish, outcomeOf]
  rcases hf.write hσ hdone hg with ⟨d'', hwrite, hrefusal, hf'⟩ | ⟨failure, hwrite, hrefusal, hf'⟩
  · rw [hwrite, hrefusal, List.append_nil]
    exact ⟨d'', rfl, hf'⟩
  · rw [hwrite, hrefusal]
    exact ⟨d', rfl, hf'⟩

/-- What a task knows is what it would know by itself. -/
def Task.Sound (σ : Workshop) (d : Disk) (t : Task) : Prop :=
  match t.progress with
  | .reading left answers => ∃ read, t.group.entries = read ++ left ∧
      answers = read.map (GroupStub.functionsOf (σ.fetch d) t.group.header.name)
  | .done o => o = σ.outcomeOf d t.group

namespace Floor

/-- The group has been finished. -/
def IsDone (f : Floor) (g : ClassGroup) : Prop := ∃ o, ⟨g, .done o⟩ ∈ f.tasks

/-- What is true of the groups at work and of the disk after any number of turns. -/
structure Sound (σ : Workshop) (d : Disk) (gs : List ClassGroup) (f : Floor) : Prop where
  groups : f.tasks.map (·.group) = gs
  task : ∀ t ∈ f.tasks, t.Sound σ d
  filled : σ.Filled d f.IsDone f.disk

variable {σ : Workshop} {d : Disk} {gs : List ClassGroup} {f : Floor}

/-- In the beginning nothing has been read and nothing is done. -/
theorem sound_start (σ : Workshop) (d : Disk) (gs : List ClassGroup) : (start d gs).Sound σ d gs where
  groups := by
    rw [start, List.map_map]
    exact List.map_id gs
  task t ht := by
    obtain ⟨g, -, rfl⟩ := List.mem_map.1 ht
    exact ⟨[], rfl, rfl⟩
  filled := by
    refine (Workshop.filled_start σ d).congr fun g => ⟨fun ⟨o, ho⟩ => ?_, False.elim⟩
    obtain ⟨k, -, hk⟩ := List.mem_map.1 ho
    cases hk

/-- Tasks work on groups of the run. -/
theorem Sound.mem_of_task (h : f.Sound σ d gs) {t : Task} (ht : t ∈ f.tasks) : t.group ∈ gs := by
  rw [← h.groups]
  exact List.mem_map.2 ⟨t, ht, rfl⟩

theorem Sound.mem_of_isDone (h : f.Sound σ d gs) (g : ClassGroup) (hg : f.IsDone g) : g ∈ gs := by
  obtain ⟨o, ho⟩ := hg
  exact h.mem_of_task ho

/-- However far the tasks are, only files of the output directory have changed. -/
theorem Sound.sameBut (hσ : σ.Suits d gs) (h : f.Sound σ d gs) : d.SameBut σ.output.path f.disk :=
  h.filled.sameBut hσ h.mem_of_isDone

/-- A task that was not done is replaced by its next state; nothing else is done by that. -/
theorem isDone_set {i : Nat} {t : Task} (hi : f.tasks[i]? = some t) (ht : t.progress.outcome? = none)
    (d' : Disk) (t' : Task) (k : ClassGroup) :
    IsDone ⟨d', f.tasks.set i t'⟩ k ↔ (∃ o, t' = ⟨k, .done o⟩) ∨ f.IsDone k := by
  obtain ⟨hlt, hget⟩ := List.getElem?_eq_some_iff.1 hi
  constructor
  · rintro ⟨o, ho⟩
    rcases List.mem_or_eq_of_mem_set ho with ho | ho
    · exact Or.inr ⟨o, ho⟩
    · exact Or.inl ⟨o, ho.symm⟩
  · rintro (⟨o, rfl⟩ | ⟨o, ho⟩)
    · exact ⟨o, List.mem_set hlt _⟩
    · obtain ⟨j, hj⟩ := List.getElem?_of_mem ho
      -- the task that was replaced was not done
      have hij : i ≠ j := by
        rintro rfl
        obtain rfl := Option.some.inj (hi.symm.trans hj)
        cases ht
      refine ⟨o, List.mem_of_getElem? (i := j) ?_⟩
      rw [List.getElem?_set_ne hij, hj]

/-- A turn that leaves the disk as it is, or fills it by the group whose turn it was. -/
theorem Sound.set (h : f.Sound σ d gs) {i : Nat} {t t' : Task} {d' : Disk} (hi : f.tasks[i]? = some t)
    (hgroup : t'.group = t.group) (ht' : t'.Sound σ d)
    (hfilled : σ.Filled d (IsDone ⟨d', f.tasks.set i t'⟩) d') : Sound σ d gs ⟨d', f.tasks.set i t'⟩ where
  groups := by
    obtain ⟨hlt, rfl⟩ := List.getElem?_eq_some_iff.1 hi
    rw [List.map_set, hgroup, ← List.map_set, List.set_getElem_self, h.groups]
  task k hk := by
    rcases List.mem_or_eq_of_mem_set hk with hk | rfl
    · exact h.task k hk
    · exact ht'
  filled := hfilled

/-- A turn that reads a page keeps the invariant: the page is the same on the prepared disk, for the disk differs
    in stubs only. -/
theorem Sound.turn_page (hσ : σ.Suits d gs) (h : f.Sound σ d gs) {i : Nat} {g : ClassGroup} {e : ClassEntry}
    {left : List ClassEntry} {answers : List (Except Failure (List FunctionDoc))}
    (hi : f.tasks[i]? = some ⟨g, .reading (e :: left) answers⟩) : (σ.turn f i).Sound σ d gs := by
  have ht := List.mem_of_getElem? hi
  obtain ⟨read, hentries, hanswers⟩ : ∃ read, g.entries = read ++ e :: left ∧
    answers = read.map (GroupStub.functionsOf (σ.fetch d) g.header.name) := h.task _ ht
  have he : e ∈ g.entries := by
    rw [hentries]
    exact List.mem_append_right read List.mem_cons_self
  have hanswer : GroupStub.functionsOf (σ.fetch f.disk) g.header.name e
      = GroupStub.functionsOf (σ.fetch d) g.header.name e := by
    rw [GroupStub.functionsOf, hσ.pages g (h.mem_of_task ht) e he f.disk (h.sameBut hσ)]
    rfl
  rw [Workshop.turn_of_getElem? hi]
  refine h.set hi rfl ⟨read ++ [e], ?_, ?_⟩ (h.filled.congr fun k => ?_)
  · show g.entries = read ++ [e] ++ left
    rw [hentries, List.append_assoc]
    rfl
  · show answers ++ [_] = (read ++ [e]).map (GroupStub.functionsOf (σ.fetch d) g.header.name)
    rw [List.map_append, ← hanswers, hanswer]
    rfl
  · rw [isDone_set hi rfl]
    simp [Workshop.act]

/-- A turn that writes a stub keeps the invariant: all pages of the group are there, and no other group writes
    where its stub goes. -/
theorem Sound.turn_stub (hσ : σ.Suits d gs) (h : f.Sound σ d gs) {i : Nat} {g : ClassGroup}
    {answers : List (Except Failure (List FunctionDoc))}
    (hi : f.tasks[i]? = some ⟨g, .reading [] answers⟩) : (σ.turn f i).Sound σ d gs := by
  have ht := List.mem_of_getElem? hi
  obtain ⟨read, hentries, hanswers⟩ : ∃ read : List ClassEntry, g.entries = read ++ [] ∧
    answers = read.map (GroupStub.functionsOf (σ.fetch d) g.header.name) := h.task _ ht
  rw [List.append_nil] at hentries
  have hstub : answers.foldl (GroupStub.add g.header.name) ⟨Stub.header g.header, 0, []⟩ = σ.stubOf d g := by
    rw [hanswers, ← hentries]
    rfl
  obtain ⟨d', hfinish, hf⟩ := Workshop.Filled.finish hσ h.mem_of_isDone h.filled (h.mem_of_task ht)
  have hact : σ.act f.disk ⟨g, .reading [] answers⟩ = (d', ⟨g, .done (σ.outcomeOf d g)⟩) := by
    show σ.finish f.disk g _ = _
    rw [hstub]
    exact hfinish
  rw [Workshop.turn_of_getElem? hi, hact]
  refine h.set hi rfl rfl (hf.congr fun k => ?_)
  rw [isDone_set hi rfl]
  simp [eq_comm]

/-- A turn of a group that is done changes nothing. -/
theorem turn_of_done {i : Nat} {g : ClassGroup} {o : Outcome} (hi : f.tasks[i]? = some ⟨g, .done o⟩) :
    σ.turn f i = f := by
  obtain ⟨hlt, hget⟩ := List.getElem?_eq_some_iff.1 hi
  have hset : f.tasks.set i ⟨g, .done o⟩ = f.tasks := by rw [← hget, List.set_getElem_self]
  rw [Workshop.turn_of_getElem? hi]
  show (⟨f.disk, f.tasks.set i ⟨g, .done o⟩⟩ : Floor) = f
  rw [hset]

/-- A turn keeps the invariant. -/
theorem Sound.turn (hσ : σ.Suits d gs) (h : f.Sound σ d gs) (i : Nat) : (σ.turn f i).Sound σ d gs := by
  cases hi : f.tasks[i]? with
  | none =>
    rw [Workshop.turn, hi]
    exact h
  | some t =>
    obtain ⟨g, progress⟩ := t
    cases progress with
    | reading left answers =>
      cases left with
      | cons e left => exact h.turn_page hσ hi
      | nil => exact h.turn_stub hσ hi
    | done o =>
      rw [turn_of_done hi]
      exact h

/-- A schedule keeps the invariant, turn by turn. -/
theorem Sound.play (hσ : σ.Suits d gs) (h : f.Sound σ d gs) (schedule : List Nat) :
    (σ.play schedule f).Sound σ d gs := by
  induction schedule generalizing f with
  | nil => exact h
  | cons i schedule ih => exact ih (h.turn hσ i)

/-! ## Complete schedules -/

/-- A task without turns left has the outcome of its group by itself. -/
theorem Sound.eq_done (h : f.Sound σ d gs) (hdone : ∀ i, f.remaining i = 0) {t : Task}
    (ht : t ∈ f.tasks) : t = ⟨t.group, .done (σ.outcomeOf d t.group)⟩ := by
  obtain ⟨i, hi⟩ := List.getElem?_of_mem ht
  have hturns : t.turns = 0 := by
    have hzero := hdone i
    rwa [remaining, hi] at hzero
  have hsound := h.task t ht
  obtain ⟨g, progress⟩ := t
  cases progress with
  | reading left answers => cases hturns
  | done o =>
    obtain rfl : o = σ.outcomeOf d g := hsound
    rfl

/-- When no turn is left, the outcomes are those of the groups by themselves. -/
theorem Sound.outcomes_eq (h : f.Sound σ d gs) (hdone : ∀ i, f.remaining i = 0) :
    f.outcomes = gs.map fun g => some (σ.outcomeOf d g) := by
  rw [outcomes, ← h.groups, List.map_map]
  refine List.map_congr_left fun t ht => ?_
  rw [h.eq_done hdone ht]
  rfl

/-- When no turn is left, every group is done. -/
theorem Sound.isDone_iff (h : f.Sound σ d gs) (hdone : ∀ i, f.remaining i = 0) (g : ClassGroup) :
    g ∈ gs ↔ f.IsDone g := by
  constructor
  · intro hg
    rw [← h.groups] at hg
    obtain ⟨t, ht, rfl⟩ := List.mem_map.1 hg
    exact ⟨_, h.eq_done hdone ht ▸ ht⟩
  · exact h.mem_of_isDone g

end Floor

namespace Workshop

/-- What a run leaves: the outcome of every group, and the disk. -/
structure IsResult (σ : Workshop) (d : Disk) (gs : List ClassGroup) (f : Floor) : Prop where
  /-- The outcomes come in the order of the groups, and each is the one of the group by itself. -/
  outcomes : f.outcomes = gs.map fun g => some (σ.outcomeOf d g)
  /-- The file of a class whose stub could be written holds the stub of its group. -/
  written : ∀ g ∈ gs, ∀ q, σ.target d g.header.name = .ok q →
    (∀ p, d.LeadsTo σ.output.path p → q = OutputDirectory.stubLocation p g.header.name) ∧
    f.disk.find? q = some (.file (Text.encodeUtf8 (σ.stubOf d g).text)) ∧
    f.disk.readText (σ.output.pathOf g.header.name) = .ok (σ.stubOf d g).text
  /-- All else is as it was. -/
  kept : ∀ q, (∀ g ∈ gs, σ.target d g.header.name ≠ .ok q) → f.disk.find? q = d.find? q
  /-- No other file in the directory is named like a stub. -/
  swept : ∀ p name, d.LeadsTo σ.output.path p → OutputDirectory.ending <:+ name →
    f.disk.isFile (name :: p) = true → ∃ g ∈ gs, σ.target d g.header.name = .ok (name :: p)

variable {σ : Workshop} {d₀ d : Disk} {gs : List ClassGroup} {schedule : List Nat}

/-- A complete schedule leaves the outcomes of the groups by themselves, and a disk that they have filled. -/
theorem filled_play (hσ : σ.Suits d gs) (h : Complete gs schedule) :
    (σ.play schedule (Floor.start d gs)).outcomes = gs.map (fun g => some (σ.outcomeOf d g)) ∧
      σ.Filled d (· ∈ gs) (σ.play schedule (Floor.start d gs)).disk := by
  have hsound := (Floor.sound_start σ d gs).play hσ schedule
  have hdone := remaining_play_start (σ := σ) (d := d) h
  exact ⟨hsound.outcomes_eq hdone, hsound.filled.congr (hsound.isDone_iff hdone)⟩

/-- A disk that is filled by all groups is determined by them. -/
theorem Filled.find?_eq {d' d'' : Disk} (h : σ.Filled d (· ∈ gs) d') (k : σ.Filled d (· ∈ gs) d'')
    (q : Location) : d'.find? q = d''.find? q := by
  by_cases hq : ∃ g ∈ gs, σ.target d g.header.name = .ok q
  · obtain ⟨g, hg, htarget⟩ := hq
    rw [h.written g hg q htarget, k.written g hg q htarget]
  · have hnot : ∀ g ∈ gs, σ.target d g.header.name ≠ .ok q := fun g hg htarget => hq ⟨g, hg, htarget⟩
    rw [h.kept q hnot, k.kept q hnot]

/-- Every complete schedule leaves the result of the groups by themselves: their outcomes, their stubs, no other stub,
    and nothing else changed. -/
theorem isResult_play (hσ : σ.Suits d gs)
    (hprepare : OutputDirectory.prepare d₀ σ.output.path = (d, .ok σ.output))
    (hplain : ∀ c ∈ σ.output.path, Pattern.IsPlain c) (h : Complete gs schedule) :
    σ.IsResult d gs (σ.play schedule (Floor.start d gs)) := by
  obtain ⟨houtcomes, hf⟩ := filled_play hσ h
  refine ⟨houtcomes, fun g hg q hq => ⟨fun p hp => ?_, hf.written g hg q hq, ?_⟩, hf.kept, ?_⟩
  · exact (target_eq_ok hσ hp hg hq).2.1
  · exact hf.readText hσ (fun _ hk => hk) hg hq
  · intro p name hp hname hfile
    apply Classical.byContradiction
    -- a file that no group wrote was swept away by the preparation
    intro hnone
    have hkept := hf.kept (name :: p) fun g hg hq => hnone ⟨g, hg, hq⟩
    have hswept := OutputDirectory.isFile_of_prepare hprepare hplain hp hname
    rw [Disk.isFile, hkept, ← Disk.isFile, hswept] at hfile
    cases hfile

/-- What a group leaves at its place depends on its own pages and on whether its own path is refused. -/
theorem Filled.find?_stubLocation {σ' : Workshop} {d' d'' : Disk} {g : ClassGroup} {p : Location}
    (hσ : σ.Suits d gs) (hσ' : σ'.Suits d gs) (houtput : σ'.output = σ.output)
    (h : σ.Filled d (· ∈ gs) d') (k : σ'.Filled d (· ∈ gs) d'') (hg : g ∈ gs)
    (hstub : σ'.stubOf d g = σ.stubOf d g)
    (htarget : σ'.target d g.header.name = σ.target d g.header.name)
    (hp : d.LeadsTo σ.output.path p) :
    d''.find? (OutputDirectory.stubLocation p g.header.name)
      = d'.find? (OutputDirectory.stubLocation p g.header.name) := by
  have hp' : d.LeadsTo σ'.output.path p := by rw [houtput]; exact hp
  cases hq : σ.target d g.header.name with
  | ok q =>
    obtain ⟨-, rfl, -⟩ := target_eq_ok hσ hp hg hq
    rw [h.written g hg _ hq, k.written g hg _ (htarget.trans hq), hstub]
  | error e =>
    -- no other group writes there, for its name would be the same
    have hnot {τ : Workshop} (hτ : τ.Suits d gs) (hpτ : d.LeadsTo τ.output.path p)
        (he : τ.target d g.header.name = .error e) :
        ∀ k ∈ gs, τ.target d k.header.name ≠ .ok (OutputDirectory.stubLocation p g.header.name) := by
      intro k hk hkq
      have hname := OutputDirectory.eq_of_stubLocation (target_eq_ok hτ hpτ hk hkq).2.1
      rw [hname, hkq] at he
      cases he
    rw [h.kept _ (hnot hσ hp hq), k.kept _ (hnot hσ' hp' (htarget.trans hq))]

/-- Two workshops give the group the same pages, and treat its path alike. -/
structure SameFor (σ σ' : Workshop) (d : Disk) (g : ClassGroup) : Prop where
  pages : ∀ e ∈ g.entries, σ'.fetch d e.url = σ.fetch d e.url
  refusal : σ'.refuses (σ.output.pathOf g.header.name) = σ.refuses (σ.output.pathOf g.header.name)

/-- The outcome of such a group and its file are the same, whatever comes of the other groups. -/
theorem SameFor.play {σ' : Workshop} {schedule' : List Nat} {i : Nat} {g : ClassGroup}
    (hsame : σ.SameFor σ' d g) (houtput : σ'.output = σ.output) (hσ : σ.Suits d gs) (hσ' : σ'.Suits d gs)
    (h : Complete gs schedule) (h' : Complete gs schedule') (hi : gs[i]? = some g) :
    (σ'.play schedule' (Floor.start d gs)).outcomes[i]?
        = (σ.play schedule (Floor.start d gs)).outcomes[i]? ∧
      ∀ p, d.LeadsTo σ.output.path p →
        (σ'.play schedule' (Floor.start d gs)).disk.find? (OutputDirectory.stubLocation p g.header.name)
          = (σ.play schedule (Floor.start d gs)).disk.find?
              (OutputDirectory.stubLocation p g.header.name) := by
  have hg : g ∈ gs := List.mem_of_getElem? hi
  obtain ⟨houtcomes, hf⟩ := filled_play hσ h
  obtain ⟨houtcomes', hf'⟩ := filled_play hσ' h'
  have hstub : σ'.stubOf d g = σ.stubOf d g := ofGroup_congr hsame.pages
  have htarget : σ'.target d g.header.name = σ.target d g.header.name := by
    rw [target, target, houtput, hsame.refusal]
  -- all that the outcome of a group is made of is the same in both workshops
  have houtcome : σ'.outcomeOf d g = σ.outcomeOf d g := by
    rw [outcomeOf, outcomeOf, hstub, Workshop.refusal, Workshop.refusal, htarget, houtput]
  refine ⟨?_, fun p hp => hf.find?_stubLocation hσ hσ' houtput hf' hg hstub htarget hp⟩
  rw [houtcomes', houtcomes, List.getElem?_map, List.getElem?_map, hi]
  exact congrArg (fun o => some (some o)) houtcome

/-- Every complete schedule leaves what the program leaves that works on one group after the other. -/
theorem ofGroups_play {w : Web} {s : Source} {o : OutputDirectory} (hσ : (ofRun w s o).Suits d gs)
    (h : Complete gs schedule) :
    ((ofRun w s o).play schedule (Floor.start d gs)).outcomes
        = (Run.ofGroups w s o d gs).outcomes.map some ∧
      ∀ q, ((ofRun w s o).play schedule (Floor.start d gs)).disk.find? q
        = (Run.ofGroups w s o d gs).disk.find? q := by
  obtain ⟨houtcomes, hf⟩ := filled_play hσ h
  obtain ⟨hrun, hf'⟩ := ofGroups_filled hσ
  refine ⟨?_, hf.find?_eq hf'⟩
  rw [houtcomes, hrun, List.map_map]
  rfl

/-- Whatever the order in which the groups of an index do their work, the outcomes and the disk are the
    same, and they are those of a run of the program.  What comes of a group depends on nothing that
    belongs to other groups. -/
theorem play_ofEntries {classes : List ClassEntry}
    (hprepare : OutputDirectory.prepare d₀ σ.output.path = (d, .ok σ.output))
    (hplain : ∀ c ∈ σ.output.path, Pattern.IsPlain c) (hnames : ∀ e ∈ classes, '/' ∉ e.name.text)
    (hpages : σ.PagesFixed d classes) (hschedule : Complete (ClassGroup.ofEntries classes) schedule) :
    let gs := ClassGroup.ofEntries classes
    let f := σ.play schedule (Floor.start d gs)
    -- the result of the run
    σ.IsResult d gs f ∧
    -- any other order of the work
    (∀ schedule', Complete gs schedule' →
      let f' := σ.play schedule' (Floor.start d gs)
      f'.outcomes = f.outcomes ∧ ∀ q, f'.disk.find? q = f.disk.find? q) ∧
    -- the run of the program
    (∀ w s, σ = ofRun w s σ.output →
      let r := Run.ofGroups w s σ.output d gs
      f.outcomes = r.outcomes.map some ∧ ∀ q, f.disk.find? q = r.disk.find? q) ∧
    -- other pages and other refusals for other groups
    ∀ (σ' : Workshop) (schedule' : List Nat), σ'.output = σ.output → σ'.PagesFixed d classes →
      Complete gs schedule' → ∀ (i : Nat) (g : ClassGroup), gs[i]? = some g → σ.SameFor σ' d g →
        let f' := σ'.play schedule' (Floor.start d gs)
        f'.outcomes[i]? = f.outcomes[i]? ∧
        ∀ p, d.LeadsTo σ.output.path p →
          f'.disk.find? (OutputDirectory.stubLocation p g.header.name)
            = f.disk.find? (OutputDirectory.stubLocation p g.header.name) := by
  intro gs f
  have hσ : σ.Suits d gs := suits_ofEntries hprepare hnames hpages
  obtain ⟨houtcomes, hf⟩ := filled_play hσ hschedule
  refine ⟨isResult_play hσ hprepare hplain hschedule, ?_, ?_, ?_⟩
  · intro schedule' hschedule'
    obtain ⟨houtcomes', hf'⟩ := filled_play hσ hschedule'
    exact ⟨houtcomes'.trans houtcomes.symm, hf'.find?_eq hf⟩
  · intro w s hrun
    have hplay := ofGroups_play (w := w) (s := s) (o := σ.output) (by rw [← hrun]; exact hσ) hschedule
    rw [← hrun] at hplay
    exact hplay
  · intro σ' schedule' houtput hpages' hschedule' i g hi hsame
    have hprepare' : OutputDirectory.prepare d₀ σ'.output.path = (d, .ok σ'.output) := by
      rw [houtput]
      exact hprepare
    have hσ' : σ'.Suits d gs := suits_ofEntries hprepare' hnames hpages'
    exact hsame.play houtput hσ hσ' hschedule hschedule' hi

/-- A site of two classes; the page of the second one is missing. -/
def sampleWorkshop : Workshop :=
  ofRun (fun place => if place = "http://x/a".toList then .ok [] else .error "gone".toList)
    (.web "http://x/".toList) ⟨"out".toList⟩

def sampleClasses : List ClassEntry :=
  [⟨"a".toList, ⟨"A".toList⟩, "first".toList⟩, ⟨"b".toList, ⟨"B".toList⟩, "second".toList⟩]

/-- The disk with the new directory. -/
def sampleDisk : Disk := (OutputDirectory.prepare .empty "out".toList).1

/-- The same site with the page that is missing; the stub of its class is refused instead. -/
def mendedWorkshop : Workshop :=
  { ofRun (fun _ => .ok []) (.web "http://x/".toList) ⟨"out".toList⟩ with
    refuses := fun path => if path = "out/B.lua".toList then some .isDirectory else none }

/-- Both pages are asked for before the second class is written first.  Its failure is another one in the
    mended site, where the classes are written the other way round, and the first class does not notice. -/
theorem play_ofEntries_sample :
    let gs := ClassGroup.ofEntries sampleClasses
    let f := sampleWorkshop.play [0, 1, 1, 0] (Floor.start sampleDisk gs)
    let f' := mendedWorkshop.play [1, 0, 0, 1] (Floor.start sampleDisk gs)
    sampleWorkshop.IsResult sampleDisk gs f ∧
      f.outcomes = [some ⟨⟨"A".toList⟩, 0, []⟩,
        some ⟨⟨"B".toList⟩, 0, [.fetch "http://x/b".toList "gone".toList]⟩] ∧
      f'.outcomes[0]? = f.outcomes[0]? := by
  have hprepare : OutputDirectory.prepare .empty "out".toList = (sampleDisk, .ok ⟨"out".toList⟩) := by
    have hok : (OutputDirectory.prepare .empty "out".toList).2 = .ok ⟨"out".toList⟩ := by decide +kernel
    rw [← hok]
    rfl
  have hplain : ∀ c ∈ "out".toList, Pattern.IsPlain c := by simp [Pattern.IsPlain]
  have hnames : ∀ e ∈ sampleClasses, '/' ∉ e.name.text := by decide +kernel
  have hpages : sampleWorkshop.PagesFixed sampleDisk sampleClasses := fun _ _ _ _ => rfl
  have hpages' : mendedWorkshop.PagesFixed sampleDisk sampleClasses := fun _ _ _ _ => rfl
  have hcomplete (schedule : List Nat) (h₀ : 2 ≤ schedule.count 0) (h₁ : 2 ≤ schedule.count 1) :
      Complete (ClassGroup.ofEntries sampleClasses) schedule := by
    intro i g hi
    match i with
    | 0 =>
      obtain rfl := Option.some.inj hi
      exact h₀
    | 1 =>
      obtain rfl := Option.some.inj hi
      exact h₁
    | n + 2 => cases hi
  obtain ⟨hresult, -, -, hother⟩ := play_ofEntries (σ := sampleWorkshop) hprepare hplain hnames hpages
    (hcomplete [0, 1, 1, 0] (by decide) (by decide))
  have hsame : sampleWorkshop.SameFor mendedWorkshop sampleDisk
      ⟨⟨⟨"A".toList⟩, "first".toList⟩, [⟨"a".toList, ⟨"A".toList⟩, "first".toList⟩]⟩ := by
    constructor
    · intro e he
      rw [List.mem_singleton.1 he]
      decide +kernel
    · decide +kernel
  have hfirst := hother mendedWorkshop [1, 0, 0, 1] rfl hpages'
    (hcomplete [1, 0, 0, 1] (by decide) (by decide)) 0 _ rfl hsame
  exact ⟨hresult, by decide +kernel, hfirst.1⟩

end Workshop

end DocStub
