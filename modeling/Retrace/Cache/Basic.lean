import Retrace.Cache.ExpiringMap
import Retrace.Settings.Basic
import Retrace.SourceMap.Basic
/-!
# The cache

What was loaded before: the content of generated files and the source maps that were read, each kind
in a map of its own, by location.
-/

namespace Retrace

/-- Generated files and source maps that were loaded before. -/
structure Cache where
  sources : ExpiringMap Bytes
  maps : ExpiringMap SourceMap
deriving Repr, DecidableEq

namespace Cache

/-- How many units of time, which are nanoseconds, a second has. -/
def unitsPerSecond : Nat := 1000000000

/-- The cache with room for so many entries of each kind, which expire after so many seconds. -/
def make (capacity ttlSecs : Nat) : Cache where
  sources := .empty capacity (ttlSecs * unitsPerSecond)
  maps := .empty capacity (ttlSecs * unitsPerSecond)

/-- The cache that settings ask for. -/
def ofSettings (settings : Settings) : Cache :=
  make settings.cacheCapacity settings.cacheTtlSecs

/-- The content of a generated file. -/
def source? (cache : Cache) (now : Nat) (location : String) : Option Bytes × Cache :=
  let (found, sources) := cache.sources.get? now location
  (found, { cache with sources })

/-- Keeps the content of a generated file, for which room is made at the time `roomAt`. -/
def keepSource (cache : Cache) (now : Nat) (location : String) (data : Bytes)
    (roomAt : Nat := now) : Cache :=
  { cache with sources := cache.sources.insert roomAt now location data }

/-- A source map. -/
def map? (cache : Cache) (now : Nat) (key : String) : Option SourceMap × Cache :=
  let (found, maps) := cache.maps.get? now key
  (found, { cache with maps })

/-- Keeps a source map, for which room is made at the time `roomAt`. -/
def keepMap (cache : Cache) (now : Nat) (key : String) (map : SourceMap)
    (roomAt : Nat := now) : Cache :=
  { cache with maps := cache.maps.insert roomAt now key map }

/-- Whether the clock has no time for something that was kept to expire at. -/
def overran (cache : Cache) : Bool :=
  cache.sources.overran || cache.maps.overran

/-- The numbers of generated files and of source maps. -/
def counts (cache : Cache) : Nat × Nat :=
  (cache.sources.size, cache.maps.size)

end Cache

end Retrace
