import Chip8.Fault

namespace Chip8

/-- What successive reads of a program give. A read that is interrupted is no failure; the next one
goes on where it would have. -/
inductive Source where
  | finished
  | failing (error : DeviceError)
  | interrupted (rest : Source)
  | chunk (bytes : List UInt8) (rest : Source)

/-- Everything up to the first read that gives nothing, or the failure met on the way. -/
def Source.readAll : Source → Except DeviceError (List UInt8)
  | finished => .ok []
  | failing error => .error error
  | interrupted rest => rest.readAll
  | chunk bytes rest =>
    if bytes.isEmpty then .ok []
    else
      match rest.readAll with
      | .ok tail => .ok (bytes ++ tail)
      | .error error => .error error

end Chip8
