/-!
# Builds of the program

What the words of a run depend on besides its arguments, its environment and the service: what the
program was told when it was built, and how the libraries that it was built with put things.
-/

namespace PubSubProvisioning

/-- A build: the system and processor that it is for, the revision and the commit that it was made
from, and two texts that libraries make.  One refuses arguments, which follow the name by which the
program was called.  The other says why a body, that came back for a resource, does not describe
one. -/
structure Build where
  platform : String
  revision : Option String := none
  commit : Option String := none
  refusal : String → List String → String := fun _ _ => ""
  undecodable : String → List UInt8 → String := fun _ _ => ""

end PubSubProvisioning
