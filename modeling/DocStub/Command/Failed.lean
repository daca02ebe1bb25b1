/-
  Why the program fails.

  A failure has a summary and may have a cause; the report shows the cause below the summary, indented.
-/
import DocStub.Site.OutputDirectory

namespace DocStub

namespace Command

/-- Why the program fails. -/
inductive Failed where
  /-- The standard input is no text. -/
  | badInput
  /-- The page on the standard input is not in order. -/
  | badPage (failure : Failure)
  | noIndex (source : Text) (failure : Failure)
  | noClasses (source : Text)
  | notPrepared (error : PrepareError)
  /-- Some of the classes had failures. -/
  | someClasses (failed total : Nat)
  deriving DecidableEq, Repr

namespace Failed

/-- What failed. -/
def summary : Failed → Text
  | badInput => "failed to read stdin".toList
  | badPage failure => failure.message
  | noIndex source _ => "failed to load class index from ".toList ++ source
  | noClasses source => "no classes found in index of ".toList ++ source
  | notPrepared e => e.summary
  | someClasses failed total =>
    Text.ofNat failed ++ " of ".toList ++ Text.ofNat total ++ " classes had errors".toList

/-- Why it failed, if there is more to say. -/
def cause? : Failed → Option Text
  | badInput => some FileError.notUtf8.message.toList
  | noIndex _ failure => some failure.message
  | notPrepared e => some e.cause
  | badPage _ | noClasses _ | someClasses _ _ => none

/-- Every line of the text, indented. -/
def indented (s : Text) : Text :=
  Text.joinWith ['\n'] ((Text.splitAt '\n' s).map ("    ".toList ++ ·))

/-- The report of a failure. -/
def report (f : Failed) : Text :=
  "Error: ".toList ++ f.summary
    ++ match f.cause? with
      | some cause => "\n\nCaused by:\n".toList ++ indented cause
      | none => []

end Failed

end Command

end DocStub
