import TemplateSite.Data.Record
import TemplateSite.Path

/-!
# The registry of dependencies

For every resource the registry keeps the paths recorded for it, in order and with repetitions, and
whether its output may be cached. Beginning a build of a resource forgets what earlier builds
recorded. Builds record through a host, which marks its resource as cacheable once only.
-/
namespace TemplateSite

/-- What builds have recorded, by resource, each resource once and in ascending order. -/
structure Registry where
  paths : Record (List Path)
  cacheable : Record Unit
  pathsOrdered : paths.Ordered
  cacheableOrdered : cacheable.Ordered

/-- The part of a build that records for its resource. -/
structure Host where
  resource : String
  /-- Whether the resource has been marked as cacheable through this host. -/
  marked : Bool
deriving DecidableEq, Repr, Inhabited

namespace Registry

def empty : Registry :=
  ⟨[], [], Record.ordered_nil, Record.ordered_nil⟩

def begin (registry : Registry) (resource : String) : Registry × Host :=
  (⟨registry.paths.insert resource [], registry.cacheable.erase resource,
      registry.pathsOrdered.insert resource [], registry.cacheableOrdered.erase resource⟩,
    ⟨resource, false⟩)

def dependencies (registry : Registry) (resource : String) : List Path :=
  (registry.paths.get? resource).getD []

def add (registry : Registry) (resource : String) (path : Path) : Registry :=
  { registry with
    paths := registry.paths.insert resource (registry.dependencies resource ++ [path])
    pathsOrdered := registry.pathsOrdered.insert resource _ }

def addAll (registry : Registry) (resource : String) (paths : List Path) : Registry :=
  paths.foldl (fun registry path => registry.add resource path) registry

/-- Marks the resource of a host as cacheable, the first time the host asks for it. -/
def mark (registry : Registry) (host : Host) : Registry × Host :=
  if host.marked then (registry, host)
  else
    ({ registry with
        cacheable := registry.cacheable.insert host.resource ()
        cacheableOrdered := registry.cacheableOrdered.insert host.resource () },
      { host with marked := true })

def isCacheable (registry : Registry) (resource : String) : Bool :=
  (registry.cacheable.get? resource).isSome

def resources (registry : Registry) : List String :=
  registry.paths.keys

/-- The resources for which a path to the same place is recorded, in ascending order. -/
def dependents (registry : Registry) (path : Path) : List String :=
  (registry.paths.filter fun entry => entry.2.any fun p => p.same path).map Prod.fst

end Registry
end TemplateSite
