import Retrace.Fetch
import Retrace.Store
/-!
# Services

What a tracer asks of the world around it: the content of locations, a store that may be there or
not and may fail at any time, and the time.  The world is a value of any type, which each answer may
change.
-/

namespace Retrace

/-- How a store in a world of type `σ` is reached. -/
structure StoreAccess (σ : Type) where
  get : ArtifactKey → σ → Except Store.Error (Option Bytes) × σ
  put : ArtifactKey → Bytes → σ → Except Store.Error Unit × σ

/-- What a world of type `σ` answers. -/
structure Services (σ : Type) where
  /-- The content of a location. -/
  fetch : String → σ → Except Fetch.Error Bytes × σ
  store : Option (StoreAccess σ)
  /-- The time, which never runs backwards. -/
  now : σ → Nat × σ

namespace Services

variable {σ : Type}

/-- What the store has for a key.  A store that fails has nothing. -/
def stored (services : Services σ) (key : ArtifactKey) (w : σ) : Option Bytes × σ :=
  match services.store with
  | none => (none, w)
  | some store =>
    match store.get key w with
    | (.ok found, w) => (found, w)
    | (.error _, w) => (none, w)

/-- Puts content into the store if there is one.  It does not matter whether the store fails. -/
def keep (services : Services σ) (key : ArtifactKey) (data : Bytes) (w : σ) : σ :=
  match services.store with
  | none => w
  | some store => (store.put key data w).2

/-- The content of an artifact of a release, from the store or else fetched.  What is fetched goes
into the store. -/
def load (services : Services σ) (release : Release) (location : String) (w : σ) :
    Except Fetch.Error Bytes × σ :=
  match services.stored (release.key location) w with
  | (some data, w) => (.ok data, w)
  | (none, w) =>
    match services.fetch location w with
    | (.error e, w) => (.error e, w)
    | (.ok data, w) => (.ok data, services.keep (release.key location) data w)

end Services

end Retrace
