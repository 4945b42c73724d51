import WarpByokProxy.Library.Json

/-
  The frames that the stream accumulator hands to the UI
  adapter, translated from `frame.rs`.

  Key definitions include:
    * `OzResponseFrame`
-/

------------------------------------------------------------
-- Response Frames
------------------------------------------------------------

namespace WarpByokProxy

/- One internal frame of a model's response. -/
inductive OzResponseFrame (F : Type) where
  | textDelta (blockIndex : UInt32) (text : String)
  | thinkingDelta
      (blockIndex : UInt32)
      (text : String)
      (signature : Option String)
  | toolUse
      (blockIndex : UInt32)
      (id name : String)
      (input : Json F)
  | toolUseInputDelta
      (blockIndex : UInt32)
      (id partialJson : String)
  | blockStop (blockIndex : UInt32)
  | usageUpdate
      (inputTokens outputTokens cacheRead cacheWrite :
        UInt64)
  | done (stopReason : String)

end WarpByokProxy
