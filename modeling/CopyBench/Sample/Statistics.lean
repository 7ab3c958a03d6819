import CopyBench.Console
import CopyBench.Sample.Decimal
/-!
# Statistics of measured figures

Samples are throughputs, in the order they were measured, under one tag that
says their unit and the clock behind them. A summary tells their number,
extremes, mean and median. It sorts a copy of them, so that it depends on what
was measured and not on when.
-/

namespace CopyBench

/-- The unit of a sample. -/
inductive Measure where
  | gigabytesPerSecond
deriving DecidableEq, Repr

/-- Where the time of a sample comes from: the host's clock or device events. -/
inductive Clock where
  | cpu
  | gpu
deriving DecidableEq, Repr

/-- What a set of samples says. -/
structure Tag where
  measure : Measure
  clock : Clock
deriving DecidableEq, Repr

/-- The text of a tag. -/
def Tag.text (tag : Tag) : String :=
  (match tag.measure with
    | .gigabytesPerSecond => "GB/s") ++
  (match tag.clock with
    | .cpu => " [cpu]"
    | .gpu => " [gpu]")

/-- A span of time. -/
structure Duration where
  seconds : UInt64
  nanoseconds : UInt32
deriving DecidableEq, Repr

namespace Duration

/-- No time. -/
def zero : Duration := ⟨0, 0⟩

/-- A span of seconds and nanoseconds, whole seconds of nanoseconds carried over. -/
def ofParts (seconds : UInt64) (nanoseconds : UInt32) : Duration :=
  ⟨seconds + (nanoseconds / 1000000000).toUInt64, nanoseconds % 1000000000⟩

/-- The span in seconds. -/
def inSeconds (d : Duration) : Binary64 :=
  (Binary64.ofUInt64 d.seconds).add
    ((Binary64.ofUInt64 d.nanoseconds.toUInt64).div Binary64.billion)

end Duration

/-- The throughput of `bytes` moved in `elapsed`; nothing is moved in no time. -/
def Measure.sample (measure : Measure) (elapsed : Duration) (bytes : UInt64) : Binary64 :=
  match measure with
  | .gigabytesPerSecond =>
    let seconds := elapsed.inSeconds
    if seconds.isPositive then
      ((Binary64.ofUInt64 bytes).div seconds).div Binary64.billion
    else Binary64.zero

/-- Samples under a tag. -/
structure Statistics where
  tag : Option Tag := none
  samples : List Binary64 := []
deriving DecidableEq, Repr

/-- What a set of samples amounts to. -/
structure Summary where
  count : Nat
  min : Binary64
  max : Binary64
  mean : Binary64
  median : Binary64
deriving DecidableEq, Repr

/-- The text of a summary, with three decimals for every figure. -/
def Summary.text (s : Summary) : String :=
  "n=" ++ toString s.count ++ " min=" ++ Decimal.text s.min ++ " max=" ++ Decimal.text s.max ++
    " mean=" ++ Decimal.text s.mean ++ " median=" ++ Decimal.text s.median

namespace Statistics

/-- Tags the samples, whatever they were tagged before. -/
def retag (s : Statistics) (tag : Tag) : Statistics := { s with tag := some tag }

/-- Adds a sample. The first one tags samples that have no tag. -/
def push (s : Statistics) (elapsed : Duration) (bytes : UInt64) (tag : Tag) : Statistics where
  tag := some (s.tag.getD tag)
  samples := s.samples ++ [tag.measure.sample elapsed bytes]

/-- The sum of samples, from the first on. -/
def total (samples : List Binary64) : Binary64 := samples.foldl Binary64.add Binary64.negativeZero

/-- The middle of sorted samples: the middle one, or the mean of the middle two. -/
def middle (sorted : List Binary64) : Binary64 :=
  let half := sorted.length / 2
  if sorted.length % 2 = 0 then
    ((sorted.getD (half - 1) .zero).add (sorted.getD half .zero)).div .two
  else sorted.getD half .zero

/-- What samples in ascending order amount to. -/
def summaryOfSorted (sorted : List Binary64) : Option Summary :=
  match sorted with
  | [] => none
  | least :: _ => some {
      count := sorted.length
      min := least
      max := sorted.getLastD .zero
      mean := (total sorted).div (Binary64.ofUInt64 sorted.length.toUInt64)
      median := middle sorted }

/-- What the samples amount to, if there are any. -/
def summary (s : Statistics) : Option Summary := summaryOfSorted (s.samples.mergeSort Binary64.le)

/-- Adds a sample, with a warning if its tag is not that of the others. -/
def pushSample {σ : Type} [Console σ] (elapsed : Duration) (bytes : UInt64) (tag : Tag) :
    Action (σ × Statistics) Unit := do
  let (_, s) ← get
  match s.tag with
  | some existing =>
    if existing ≠ tag then
      log .warn ("sample tagged " ++ tag.text ++ " pushed into statistics tagged " ++ existing.text)
  | none => pure ()
  modify fun (env, s) => (env, s.push elapsed bytes tag)

end Statistics

end CopyBench
