/-!
# Failures and what caused them

A failure is the outermost link of a chain of causes. A link may be what an HTTP client reported;
`Failure.http?` finds the outermost such link.
-/

namespace Retry

/-- What an HTTP client reports of a request that failed. -/
structure HttpFailure where
  isTimeout : Bool
  isConnect : Bool
  status : Option Nat
deriving DecidableEq

structure Link where
  kind : String
  message : String
  http : Option HttpFailure
deriving DecidableEq

/-- A failure, with the causes below it from the nearest to the deepest. -/
structure Failure where
  link : Link
  causes : List Link
deriving DecidableEq

namespace Failure

def chain (failure : Failure) : List Link := failure.link :: failure.causes

def kind (failure : Failure) : String := failure.link.kind

/-- The message of the failure itself. Those of its causes are not part of it. -/
def message (failure : Failure) : String := failure.link.message

/-- The same failure as the nearest cause of another link. -/
def wrap (link : Link) (failure : Failure) : Failure := ⟨link, failure.chain⟩

/-- What an HTTP client reported, from the outermost link of the chain that holds such a report. -/
def http? (failure : Failure) : Option HttpFailure := failure.chain.findSome? Link.http

@[simp]
theorem chain_wrap (link : Link) (failure : Failure) :
    (failure.wrap link).chain = link :: failure.chain := rfl

end Failure

end Retry
