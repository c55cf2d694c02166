import BtPlatform.Obex.Common

/-!
# The client: what a response code means
-/

namespace Obex.Client

open Support

/-- `MapResponse`: the final response codes and what they mean; any other code means the
given status. -/
def mapResponse (rspCode : UInt8) (status : Status) : Status :=
  match rspCode with
  | 0xA0 => .ok
  | 0x90 => .obexContinue
  | 0xC0 => .obexBadRequest
  | 0xC3 => .obexAccessDenied
  | 0xC4 => .obexNotFound
  | 0xD1 => .obexNotImplemented
  | 0xCB => .obexLengthRequired
  | 0xD3 => .obexServiceUnavailable
  | 0xC6 => .obexValueNotAcceptable
  | 0xCC => .obexPreconditionFailed
  | 0xE0 => .obexDatabaseFull
  | 0xC9 => .obexConflict
  | 0xB4 => .obexNotModified
  | 0xE1 => .obexDatabaseLocked
  | 0xD0 => .obexInternalServerError
  | 0xCF => .obexUnsupportedMediaType
  | 0xC1 => .obexUnauthorized
  | 0xA6 => .obexPartialContent
  | 0xC5 => .obexMethodNotAllowed
  | _ => status

/-- The status that `SetpathResponse` reports; a CREATED response counts as OK. -/
def setpathStatus (rspCode : UInt8) : Status :=
  let rspCode := if rspCode = 0xA1 then obexFinal rspOk else rspCode
  let status := mapResponse rspCode .obexError
  if status = .obexNotFound then .obexNoSuchFolder else status

end Obex.Client
