/-
  What can go wrong with one class.

  None of these failures stops the work on other classes.  Each names its cause; the wording is in
  `message` alone.
-/
import DocStub.Disk.FileError
import DocStub.Identifier

namespace DocStub

/-- A failure of one class. -/
inductive Failure where
  /-- A page could not be had. -/
  | fetch (url reason : Text)
  /-- The list of functions and the list of their texts differ in length. -/
  | misaligned (owner : Identifier) (summaries details : Nat)
  /-- A stub could not be written. -/
  | write (path : Text) (error : FileError)
  deriving DecidableEq, Repr

namespace Failure

/-- The wording of a failure. -/
def message : Failure → Text
  | fetch url reason => "failed to fetch ".toList ++ url ++ ": ".toList ++ reason
  | misaligned owner summaries details =>
    owner.text ++ ": ".toList ++ Text.ofNat summaries ++ " summary entries but ".toList
      ++ Text.ofNat details ++ " detailed entries".toList
  | write path error => "failed to write ".toList ++ path ++ ": ".toList ++ error.message.toList

end Failure

end DocStub
