namespace Stageflow

structure Duration where
  seconds : Nat
  nanoseconds : Nat
  deriving DecidableEq, Repr

/-- The longest time that reports can name, in milliseconds. -/
def Duration.limit : Nat :=
  Nat.pow 2 64 - 1

/-- The whole milliseconds of a length of time, or the limit if there are more. -/
def Duration.milliseconds (duration : Duration) : Nat :=
  min (duration.seconds * 1000 + duration.nanoseconds / 1000000) limit

end Stageflow
