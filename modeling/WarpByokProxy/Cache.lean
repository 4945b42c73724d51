import WarpByokProxy.Library.Json
import WarpByokProxy.Library.LastMatches

/-
  Cache-point injection, translated from `cache.rs`: a marker
  is appended to the system array and to the last two user
  messages when caching is enabled.

  The hash set of the source is the list that it is collected
  from. `m["content"]` is `Json.indexMut`; it is only applied
  to objects, since other values have no role.

  Key definitions include:
    * `CacheInputs`
    * `CacheResult`
    * `cachePointBlock`
    * `applyCachePoints`
-/

------------------------------------------------------------
-- Cache Points
------------------------------------------------------------

namespace WarpByokProxy

variable {F : Type}

structure CacheInputs (F : Type) where
  enabled : Bool
  messages : List (Json F)
  system : Option (Json F)

structure CacheResult (F : Type) where
  messages : List (Json F)
  system : Option (Json F)

/- The marker block. -/
def cachePointBlock : Json F :=
  .object [("cachePoint", .ofStrings [("type", "default")])]

/- The message has the given role. -/
def hasRole
    (role : String)
    (message : Json F) : Bool :=
  message.getStr "role" = some role

/- The message with a marker at the end of its content. -/
def tagMessage
    (message : Json F) : Json F :=
  message.indexMut "content" (Json.push cachePointBlock)

/- The messages, with the last two of the user tagged. -/
def tagLastTwo
    (messages : List (Json F)) : List (Json F) :=
  let userIdxs :=
    LastMatches.positions (hasRole "user") messages
  let lastTwo := userIdxs.reverse.take 2
  messages.mapIdx (fun i message =>
    if i ∈ lastTwo then tagMessage message else message)

/- Inject the markers. -/
def applyCachePoints
    (inp : CacheInputs F) : CacheResult F :=
  if !inp.enabled then
    { messages := inp.messages, system := inp.system }
  else
    { messages := tagLastTwo inp.messages
      system := inp.system.map (Json.push cachePointBlock) }

end WarpByokProxy
