/-!
# Faults

The reasons for which the machine refuses a call, with their numbers and the words for them.
-/

namespace PlainTerminal

/-- Why a call was refused. -/
inductive Fault where
  | notPermitted
  | notFound
  | noSuchTask
  | badDescriptor
  | accessDenied
  | alreadyThere
  | notDirectory
  | isDirectory
  | invalid
  | noSpace
  | brokenPipe
  | nameTooLong
  | notEmpty
deriving DecidableEq, Repr

namespace Fault

/-- The number of a fault. -/
def code : Fault → Nat
  | notPermitted => 1
  | notFound => 2
  | noSuchTask => 3
  | badDescriptor => 9
  | accessDenied => 13
  | alreadyThere => 17
  | notDirectory => 20
  | isDirectory => 21
  | invalid => 22
  | noSpace => 28
  | brokenPipe => 32
  | nameTooLong => 36
  | notEmpty => 39

/-- The words for a fault. -/
def message : Fault → String
  | notPermitted => "Operation not permitted"
  | notFound => "No such file or directory"
  | noSuchTask => "No such process"
  | badDescriptor => "Bad file descriptor"
  | accessDenied => "Permission denied"
  | alreadyThere => "File exists"
  | notDirectory => "Not a directory"
  | isDirectory => "Is a directory"
  | invalid => "Invalid argument"
  | noSpace => "No space left on device"
  | brokenPipe => "Broken pipe"
  | nameTooLong => "File name too long"
  | notEmpty => "Directory not empty"

/-- The words for a fault, followed by its number. -/
def report (f : Fault) : String := f.message ++ " (os error " ++ toString f.code ++ ")"

end Fault

end PlainTerminal
