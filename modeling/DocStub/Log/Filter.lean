/-
  Which events are shown.

  1. **Thresholds** — the most that is shown, by name or by number.
  2. **Directives** — a threshold alone, a part with an optional threshold, as in
     `luastub::pipeline=debug`, or a span in square brackets, which may name a field.  Without a
     threshold everything is shown.  A directive for a named span, or for the value of a field, concerns
     no event.
  3. **Reading** — blanks around a directive are left out when its marks are looked for, but not when it
     is cut: so in `info ` nothing is a threshold, and the part is the whole text.
  4. **The closest directive decides** — of the directives whose part is at the front of the name of the
     event's part, the one with the longest part, then the one with a field; of equals the last.
  5. **Choice** — `Filter.choose` picks the directives of a run.
-/
import DocStub.Log.Event
import DocStub.Log.ValuePattern
import DocStub.Text.Bytes

namespace DocStub

namespace Log

/-! ## Thresholds -/

/-- The most that is shown; nothing at all if there is none. -/
abbrev Threshold := Option Level

namespace Threshold

/-- The names of the thresholds, least first, each also known by its place in this list. -/
def names : List (String × Threshold) :=
  [("off", none), ("error", some .error), ("warn", some .warn), ("info", some .info),
    ("debug", some .debug), ("trace", some .trace)]

/-- Reads a threshold: a number, or a name in any case. -/
def ofText? (s : Text) : Option Threshold :=
  match Text.number s with
  | .ok n => names[n]?.map (·.2)
  | .error _ => (names.find? fun entry => Text.sameIgnoringCase s entry.1.toList).map (·.2)

/-- Is an event of this level shown? -/
def shows (t : Threshold) (level : Level) : Bool := t.any fun most => level.rank ≤ most.rank

end Threshold

/-! ## Cutting -/

/-- A text that is cut at marks.  The marks are found in `marked`, and what stands between them is taken
    from as many bytes of `written`. -/
structure Cutting where
  marked : Text
  written : Text
  deriving DecidableEq, Repr

namespace Cutting

/-- Goes on behind one mark. -/
def drop? (c : Cutting) : Option Cutting :=
  (Text.dropBytes? 1 c.written).map fun written => ⟨c.marked.tail, written⟩

/-- What is written before the first of the `marks`, that mark, and what follows it. -/
def cutAt? (marks : List Char) (c : Cutting) : Option (Text × Char × Cutting) :=
  let isMark (x : Char) : Bool := marks.contains x
  match c.marked.dropWhile (!isMark ·) with
  | [] => none
  | mark :: rest =>
    (Text.splitBytes? (Text.byteLength (c.marked.takeWhile (!isMark ·))) c.written).bind
      fun (part, written) =>
        (drop? ⟨mark :: rest, written⟩).map fun rest => (part, mark, rest)

end Cutting

/-! ## Directives -/

/-- What is shown of a part. -/
structure Directive where
  /-- The beginning of the names of the parts it is about; about all of them if there is none. -/
  part : Option Text
  /-- The field that an event must have. -/
  field : Option Text
  threshold : Threshold
  /-- Is it about spans or values, and so about no event? -/
  spans : Bool
  deriving DecidableEq, Repr

namespace Directive

/-! ### Reading -/

/-- May a part begin with this character? -/
def beginsPart (c : Char) : Bool := isAlphanumeric c || c == '-' || c == ':' || c == '_'

/-- Reads a threshold that may be left out. -/
def threshold? (s : Text) : Option Threshold :=
  if s = [] then some (some .trace) else Threshold.ofText? s

/-- Reads what stands behind a span: nothing, or an equals sign and a threshold. -/
def behindSpan? (c : Cutting) : Option Threshold :=
  match c.marked with
  | [] => some (some .trace)
  | '=' :: _ => c.drop?.bind fun c => threshold? c.written
  | _ => none

/-- Reads a field: its name, and whether a value is asked for. -/
def field? (s : Text) : Option (Text × Bool) :=
  match s, Text.splitAt '=' s with
  | [], _ | _, [] => none
  | _, [name] => some (name, false)
  | _, name :: value :: _ => if ValuePattern.isValid value then some (name, true) else none

/-- Reads a span behind its opening bracket: a name, a field in braces, or both. -/
def span? (part : Option Text) (c : Cutting) : Option Directive :=
  (c.cutAt? [']', '\x7b']).bind fun (name, mark, c) =>
    if mark == ']' then (behindSpan? c).map fun t => ⟨part, none, t, true⟩
    else
      (c.cutAt? ['\x7d']).bind fun (field, _, c) =>
        if c.marked.head? == some ']' then
          (field? field).bind fun (field, hasValue) =>
            (c.drop?.bind behindSpan?).map fun t => ⟨part, some field, t, name != [] || hasValue⟩
        else none

/-- Reads a directive. -/
def ofText? (s : Text) : Option Directive :=
  let c : Cutting := ⟨Text.trim s, s⟩
  match c.marked with
  | [] => none
  | '[' :: _ => c.drop?.bind (span? none)
  | first :: _ =>
    if !beginsPart first then none
    else
      match c.cutAt? ['=', '['] with
      | none =>
        match Threshold.ofText? s with
        | some t => some ⟨none, none, t, false⟩
        | none => some ⟨some s, none, some .trace, false⟩
      | some (part, mark, c) =>
        if mark == '=' then (threshold? c.written).map fun t => ⟨some part, none, t, false⟩
        else span? (some part) c

/-! ### Meaning -/

/-- The only field that events have. -/
def eventField : Text := "message".toList

/-- Is the directive about this event? -/
def concerns (x : Directive) (e : Event) : Bool :=
  !x.spans && (x.part.getD []).isPrefixOf e.part.path && x.field.all (· == eventField)

/-- How close a directive comes to what it is about: first by the length of its part, then by its
    field. -/
def closeness (x : Directive) : Nat :=
  2 * (x.part.map List.length).getD 0 + if x.field.isSome then 1 else 0

/-- The closer one of two directives, the second if they are equal. -/
def closer (x : Option Directive) (y : Directive) : Option Directive :=
  match x with
  | some x => if y.closeness < x.closeness then some x else some y
  | none => some y

end Directive

/-- The directives of a run. -/
abbrev Filter := List Directive

namespace Filter

/-- Reads directives that are separated by commas; empty ones are skipped. -/
def ofText? (s : Text) : Option Filter :=
  ((Text.splitAt ',' s).filter (· != [])).mapM Directive.ofText?

/-- The directive that decides about an event. -/
def decisive? (f : Filter) (e : Event) : Option Directive :=
  (f.filter (·.concerns e)).foldl Directive.closer none

/-- Is the event shown? -/
def shows (f : Filter) (e : Event) : Bool :=
  (f.decisive? e).any fun x => Threshold.shows x.threshold e.level

/-- Shows the whole program up to a level. -/
def upTo (level : Level) : Filter := [⟨some Part.command.path, none, some level, false⟩]

/-- The filter of a run: wordy or quiet if that is asked for, else as the environment says, if it says
something readable. -/
def choose (verbose quiet : Bool) (environment : Option Text) : Filter :=
  if verbose then upTo .debug
  else if quiet then upTo .error
  else (environment.bind ofText?).getD (upTo .info)

end Filter

end Log

end DocStub
