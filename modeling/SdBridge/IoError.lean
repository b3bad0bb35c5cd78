/-! Failures of files and mappings, as the system words them. -/
namespace SdBridge

inductive IoError where
  | notFound
  | badDescriptor
  | outOfMemory
  | notDirectory
  | isDirectory
  | invalidArgument
  | nameTooLong
  /-- A mapping would reach past the largest file. -/
  | valueTooLarge
  /-- A path has a character that no file name has. -/
  | nulInName
  /-- A file ended before a buffer was full. -/
  | unexpectedEnd
  | notText
  | emptyMapping
  | mappingOffset
  deriving DecidableEq

namespace IoError

def message : IoError → String
  | .notFound => "No such file or directory (os error 2)"
  | .badDescriptor => "Bad file descriptor (os error 9)"
  | .outOfMemory => "Cannot allocate memory (os error 12)"
  | .notDirectory => "Not a directory (os error 20)"
  | .isDirectory => "Is a directory (os error 21)"
  | .invalidArgument => "Invalid argument (os error 22)"
  | .nameTooLong => "File name too long (os error 36)"
  | .valueTooLarge => "Value too large for defined data type (os error 75)"
  | .nulInName => "file name contained an unexpected NUL byte"
  | .unexpectedEnd => "failed to fill whole buffer"
  | .notText => "stream did not contain valid UTF-8"
  | .emptyMapping => "zero-length mapping"
  | .mappingOffset => "mapping offset overflow"

end IoError
end SdBridge
