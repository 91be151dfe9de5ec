import WebFetch.Text.Blank

/-!
The settings of the ready-made host and what they may be.
-/

set_option autoImplicit false

namespace WebFetch

structure HostConfig where
  userAgent : String
  timeoutNanos : Option Nat
  maxRedirects : Nat
  gzip : Bool
  deriving DecidableEq

inductive ConfigError where
  | emptyUserAgent
  | zeroTimeout
  | tooManyRedirects (given : Nat)
  deriving DecidableEq

namespace HostConfig

def default : HostConfig := ⟨"fetch-compat/0.1", none, 10, true⟩

def redirectLimit : Nat := 50

/-- The first setting that may not be. -/
def validate (c : HostConfig) : Except ConfigError HostConfig :=
  if Text.isBlankText c.userAgent then .error .emptyUserAgent
  else if c.timeoutNanos = some 0 then .error .zeroTimeout
  else if c.maxRedirects > redirectLimit then .error (.tooManyRedirects c.maxRedirects)
  else .ok c

end HostConfig

def ConfigError.message : ConfigError → String
  | .emptyUserAgent => "user_agent must not be empty"
  | .zeroTimeout => "timeout must be greater than zero"
  | .tooManyRedirects given =>
    "max_redirects " ++ toString given ++ " is out of range (expected 0..=" ++
      toString HostConfig.redirectLimit ++ ")"

end WebFetch
