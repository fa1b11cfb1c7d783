namespace AccessControl

inductive FileError
  | notFound
  | notDirectory
  | isDirectory
  | nameTooLong
  | nulInPath
  -- Any other refusal, in the words of the system.
  | other (text : String)
deriving DecidableEq, Repr

def FileError.message : FileError → String
  | .notFound => "No such file or directory (os error 2)"
  | .notDirectory => "Not a directory (os error 20)"
  | .isDirectory => "Is a directory (os error 21)"
  | .nameTooLong => "File name too long (os error 36)"
  | .nulInPath => "file name contained an unexpected NUL byte"
  | .other text => text

end AccessControl
