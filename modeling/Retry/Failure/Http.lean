import Retry.Failure.Basic
import Retry.Text.Outline

/-!
# Which HTTP failures are worth another attempt

The options decide by the outermost HTTP failure in a chain of causes. A timeout goes before a
failed connection, and both before the status.
-/

namespace Retry

/-- Which kinds of HTTP failure are worth another attempt. -/
structure HttpOptions where
  retryOnClientError : Bool := false
  retryOnServerError : Bool := true
  retryOnTimeout : Bool := true
  retryOnConnect : Bool := true
deriving DecidableEq

namespace HttpOptions

/-- Whether a response status is worth another attempt. Too many requests (429) always is. -/
def allowsStatus (options : HttpOptions) (status : Nat) : Bool :=
  if status = 429 then true
  else if 400 ≤ status ∧ status < 500 then options.retryOnClientError
  else if 500 ≤ status ∧ status < 600 then options.retryOnServerError
  else false

/-- Whether an HTTP failure is transient under the options. -/
def allowsHttp (options : HttpOptions) (failure : HttpFailure) : Bool :=
  if failure.isTimeout then options.retryOnTimeout
  else if failure.isConnect then options.retryOnConnect
  else failure.status.any options.allowsStatus

/-- Whether a failure of any kind is worth another attempt: only if an HTTP failure is found among
its causes and is transient. It serves as a predicate of policies. -/
def allows (options : HttpOptions) (failure : Failure) : Bool :=
  failure.http?.any options.allowsHttp

def outline (options : HttpOptions) : Outline :=
  .record "HttpRetryOptions"
    [("retry_on_client_error", .ofBool options.retryOnClientError),
     ("retry_on_server_error", .ofBool options.retryOnServerError),
     ("retry_on_timeout", .ofBool options.retryOnTimeout),
     ("retry_on_connect", .ofBool options.retryOnConnect)]

end HttpOptions

end Retry
