import SyntaxWatch.Text.Basic

/-!
# Refusals of the operating system

Why the operating system does not do what it is asked for, and how it says so.
-/

namespace SyntaxWatch

/-- A refusal of the operating system. -/
inductive SystemFault where
  | notFound
  | denied
  | notDirectory
  /-- A name or a path is longer than the system takes. -/
  | nameTooLong
  /-- The device has no room for what is to be written. -/
  | noSpace
  /-- What is written cannot be brought to the device. -/
  | inputOutput
  | nul
  deriving DecidableEq, Repr

/-- The wording of a refusal, with its number where it has one. -/
def SystemFault.message : SystemFault → Text
  | .notFound => "No such file or directory (os error 2)".toList
  | .denied => "Permission denied (os error 13)".toList
  | .notDirectory => "Not a directory (os error 20)".toList
  | .nameTooLong => "File name too long (os error 36)".toList
  | .noSpace => "No space left on device (os error 28)".toList
  | .inputOutput => "Input/output error (os error 5)".toList
  | .nul => "nul byte found in provided data".toList

end SyntaxWatch
