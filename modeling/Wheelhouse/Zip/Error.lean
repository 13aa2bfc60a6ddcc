set_option autoImplicit false

namespace Wheelhouse.Zip

inductive InflateError where
  | damaged
  | cutOff
  | tooLarge
  deriving DecidableEq

namespace InflateError

def code : InflateError → String
  | .damaged => "Z_DATA_ERROR"
  | .cutOff => "Z_BUF_ERROR"
  | .tooLarge => "ERR_BUFFER_TOO_LARGE"

end InflateError

inductive ArchiveError where
  | absent
  | malformed
  /-- Less than a signature is left where a record should start. -/
  | noRecord
  | cutRecord
  | descriptor
  | inflate (error : InflateError)
  | checksum
  | unsupported
  deriving DecidableEq

namespace ArchiveError

def kindName : ArchiveError → String
  | .noRecord | .cutRecord | .inflate .tooLarge => "RangeError"
  | _ => "Error"

def code? : ArchiveError → Option String
  | .noRecord => some "ERR_BUFFER_OUT_OF_BOUNDS"
  | .cutRecord => some "ERR_OUT_OF_RANGE"
  | .inflate e => some e.code
  | _ => none

def message : ArchiveError → String
  | .absent => "Invalid filename"
  | .malformed => "Invalid or unsupported zip format"
  | .noRecord => "Attempt to access memory outside buffer bounds"
  | .cutRecord => "The value is out of range"
  | .descriptor => "Descriptor data is malformed"
  | .inflate .tooLarge => "Cannot create a larger buffer"
  | .inflate _ => "invalid compressed data"
  | .checksum => "CRC32 checksum failed"
  | .unsupported => "Invalid/unsupported compression method"

end ArchiveError

end Wheelhouse.Zip
