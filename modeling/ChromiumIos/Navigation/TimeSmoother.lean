import ChromiumIos.Web.Types

/-!
# `TimeSmoother`

`time_smoother.cc`: moves the timestamps of a run of items that are committed
within the clock's resolution apart by a microsecond each.
-/

namespace ChromiumIos

structure TimeSmoother where
  lowWaterMark : Time
  highWaterMark : Time
deriving DecidableEq, Repr

namespace TimeSmoother

/-- Both water marks start at the null time. -/
def new : TimeSmoother := ⟨.null, .null⟩

/-- `GetSmoothedTime`. -/
def getSmoothedTime (smoother : TimeSmoother) (t : Time) : Time × TimeSmoother :=
  if smoother.lowWaterMark ≤ t ∧ t ≤ smoother.highWaterMark then
    let highWaterMark := smoother.highWaterMark.addMicrosecond
    (highWaterMark, { smoother with highWaterMark })
  else (t, ⟨t, t⟩)

end TimeSmoother

end ChromiumIos
