/-!
A frame host driven by hand. A callback is requested for the next frame and gets a handle by which
the request can be withdrawn. A frame takes all requests that are waiting; what is requested while
it runs waits for the next one.
-/
namespace ScriptedStage

/-- The waiting requests with their handles, oldest first, and how many frames have run. -/
structure FrameHost (C : Type) where
  pending : List (Nat × C) := []
  nextHandle : Nat := 1
  framesRun : Nat := 0
  deriving Repr, Inhabited

namespace FrameHost

variable {C : Type}

/-- Asks for a callback in the next frame. -/
def request (h : FrameHost C) (callback : C) : FrameHost C × Nat :=
  ({ h with pending := h.pending ++ [(h.nextHandle, callback)], nextHandle := h.nextHandle + 1 },
    h.nextHandle)

/-- Withdraws a waiting request; a handle that is not waiting is ignored. -/
def cancel (h : FrameHost C) (handle : Int) : FrameHost C :=
  { h with pending := h.pending.filter fun p => (p.1 : Int) ≠ handle }

/-- Takes the callbacks of the next frame. -/
def takeBatch (h : FrameHost C) : FrameHost C × List C := ({ h with pending := [] }, h.pending.map (·.2))

/-- Counts a frame that ran to its end. -/
def finishFrame (h : FrameHost C) : FrameHost C := { h with framesRun := h.framesRun + 1 }

end FrameHost

end ScriptedStage
