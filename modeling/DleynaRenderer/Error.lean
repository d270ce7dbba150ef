/-!
# Errors

The codes of the error domain that the service answers its clients with, and
an error as it travels from the failing function to the D-Bus reply.
-/

namespace DleynaRenderer

inductive ErrorCode where
  | badMime
  | badQuery
  | badResult
  | cancelled
  | died
  | hostFailed
  | notSupported
  | objectNotFound
  | operationFailed
  | unknownInterface
  | unknownProperty
  deriving DecidableEq, Repr

structure GError where
  code : ErrorCode
  message : String
  deriving DecidableEq, Repr

end DleynaRenderer
