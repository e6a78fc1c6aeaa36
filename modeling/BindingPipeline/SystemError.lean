/-
BindingPipeline/SystemError.lean

Why an operation on the file tree, or the start of a program, was refused.
-/
namespace BindingPipeline

/-- A refusal. -/
inductive SystemError
  | notFound
  | permissionDenied
  | alreadyThere
  | notDirectory
  | isDirectory
  | nameTooLong
  | invalidText
  | zeroInName
  | zeroInText
  | noFileName
  | notRegular
  deriving DecidableEq, Repr

/-- The wording of a refusal. -/
def SystemError.message : SystemError → String
  | notFound => "No such file or directory (os error 2)"
  | permissionDenied => "Permission denied (os error 13)"
  | alreadyThere => "File exists (os error 17)"
  | notDirectory => "Not a directory (os error 20)"
  | isDirectory => "Is a directory (os error 21)"
  | nameTooLong => "File name too long (os error 36)"
  | invalidText => "stream did not contain valid UTF-8"
  | zeroInName => "file name contained an unexpected NUL byte"
  | zeroInText => "nul byte found in provided data"
  | noFileName => "not a file path"
  | notRegular => "the source path is neither a regular file nor a symlink to a regular file"

end BindingPipeline
