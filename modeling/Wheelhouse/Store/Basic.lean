import Wheelhouse.Workspace

set_option autoImplicit false

namespace Wheelhouse

structure ObjectStore where
  description : String
  contains : String → Job Bool
  /-- Stores a file; the content type may be left to be guessed. -/
  putFile : String → Path → Option String → Job Unit
  putText : String → String → Option String → Job Unit
  getFile : String → Path → Job Unit
  getText : String → Job String

structure Remote where
  store : ObjectStore
  scope : String

namespace ObjectStore

/-- A store that refuses to put some objects. Every attempt is recorded. -/
def refusing (refuses : String → Bool) (inner : ObjectStore) : ObjectStore :=
  { inner with
    putFile := fun key file contentType => do
      Job.record (.attempt key)
      if refuses key then throw (.other ("simulated failure: " ++ key))
      inner.putFile key file contentType
    putText := fun key text contentType => do
      Job.record (.attempt key)
      if refuses key then throw (.other ("simulated failure: " ++ key))
      inner.putText key text contentType }

end ObjectStore

end Wheelhouse
