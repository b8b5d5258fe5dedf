namespace TagMenu.Disk

inductive Failure where
  | notFound
  | permissionDenied
  | alreadyExists
  | notADirectory
  | isADirectory
  | invalidArgument
  | nameTooLong
  | directoryNotEmpty
  | tooManyLinks
  | nulInPath
  | nulInArgument
  | notText
deriving DecidableEq, Repr, Inhabited

def Failure.reason : Failure → String
  | notFound => "No such file or directory"
  | permissionDenied => "Permission denied"
  | alreadyExists => "File exists"
  | notADirectory => "Not a directory"
  | isADirectory => "Is a directory"
  | invalidArgument => "Invalid argument"
  | nameTooLong => "File name too long"
  | directoryNotEmpty => "Directory not empty"
  | tooManyLinks => "Too many levels of symbolic links"
  | nulInPath => "file name contained an unexpected NUL byte"
  | nulInArgument => "nul byte found in provided data"
  | notText => "stream did not contain valid UTF-8"

def Failure.number? : Failure → Option Nat
  | notFound => some 2
  | permissionDenied => some 13
  | alreadyExists => some 17
  | notADirectory => some 20
  | isADirectory => some 21
  | invalidArgument => some 22
  | nameTooLong => some 36
  | directoryNotEmpty => some 39
  | tooManyLinks => some 40
  | nulInPath | nulInArgument | notText => none

def Failure.message (failure : Failure) : String :=
  match failure.number? with
  | some number => failure.reason ++ " (os error " ++ toString number ++ ")"
  | none => failure.reason

end TagMenu.Disk
