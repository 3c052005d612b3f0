import Retrace.Artifact
import Retrace.Dictionary
import Retrace.Text.Utf8
/-!
# The object store

Artifacts that outlive a run, under the texts of their keys.
-/

namespace Retrace

/-- The contents of artifacts by the texts of their keys. -/
structure Store where
  objects : Dictionary Bytes
deriving Repr, DecidableEq

namespace Store

/-- Why a store does not do what it is asked. -/
inductive Error
  | unavailable (reason : String)
deriving Repr, DecidableEq

/-- The wording of an error. -/
def Error.message : Error → String
  | .unavailable reason => "object storage error: " ++ reason

/-- The store without objects. -/
def empty : Store := ⟨[]⟩

/-- The content of an artifact. -/
def get? (store : Store) (key : ArtifactKey) : Option Bytes :=
  store.objects.get? key.text

/-- Puts the content of an artifact in, in the place of the one that is there. -/
def put (store : Store) (key : ArtifactKey) (data : Bytes) : Store :=
  ⟨store.objects.put key.text data⟩

/-- Whether an artifact is there. -/
def has (store : Store) (key : ArtifactKey) : Bool :=
  store.objects.has key.text

/-- The number of objects. -/
def size (store : Store) : Nat := store.objects.length

/-- Whether there are no objects. -/
def isEmpty (store : Store) : Bool := store.objects.isEmpty

end Store

end Retrace
