import WebFetch.Error
import WebFetch.Host

/-!
Text encoders and decoders. There is one encoding; a decoder remembers the label and the options it
was made with, but they change nothing about how it decodes.
-/

set_option autoImplicit false

namespace WebFetch

def encodingName : String := "utf-8"

structure TextDecoder where
  label : String
  fatal : Bool
  ignoreBom : Bool
  deriving DecidableEq

namespace TextDecoder

def create (label : Option String) (fatal ignoreBom : Bool) : TextDecoder :=
  ⟨label.getD encodingName, fatal, ignoreBom⟩

def decode (host : Host) (_ : TextDecoder) (bytes : Bytes) : Run (Except FetchError String) :=
  return (← host.decodeText bytes).mapError FetchError.host

end TextDecoder

end WebFetch
