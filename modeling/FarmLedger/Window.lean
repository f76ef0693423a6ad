/-
# FarmLedger.Window — a moving average, window by window

A window collects samples from its start to its end, both included, and keeps their mean together
with the mean of the window before it. A sample that comes later is refused (`observe`), or it
closes the window and becomes the first sample of the next one (`observeOrRollOver`).

An operation may fail halfway: the mean of the samples may not exist, or the next window may end
outside the calendar. `Step` therefore holds the window as the operation leaves it beside its
result. A sample stays in the list even if the mean then fails, and rolling over sets the start
and the last mean before it computes the end.
-/
import FarmLedger.Failure
import FarmLedger.Journal

namespace FarmLedger

open FarmLedger.Number FarmLedger.Time

/-- The samples since `start` and their mean. -/
structure Window where
  start : Moment
  finish : Moment
  samples : List Float
  average : Float
  /-- The mean of the window before, or zero. -/
  lastAverage : Float

/-- An operation on a window: its result, and the window that it leaves. -/
structure Window.Step (α : Type) where
  result : Except Failure α
  window : Window

/-- What an accepted sample did. -/
structure Window.Update where
  average : Float
  rolledOver : Bool

namespace Window

def defaultLength : Duration := ⟨600 * microsPerSecond⟩

def utc (now : Timestamp) : Except Failure Moment :=
  now.toUtc.mapError .timestamp

def finishOf (start : Moment) (length : Duration) : Except Failure Moment :=
  (start.add length).mapError .timestamp

def ofParts (start finish : Timestamp) (samples : List Float) (average lastAverage : Float) :
    Except Failure Window := do
  let start ← utc start
  let finish ← utc finish
  pure ⟨start, finish, samples, average, lastAverage⟩

/-- A new window, with its first sample if there is one already. -/
def begin (now : Timestamp) (length : Duration) (first : Option Float) : Except Failure Window := do
  let start ← utc now
  let finish ← finishOf start length
  pure ⟨start, finish, first.toList, first.getD 0.0, 0.0⟩

def isExpired (w : Window) (now : Timestamp) : Except Failure Bool :=
  (utc now).map fun moment => w.finish < moment

def lastSample (w : Window) : Option Float :=
  w.samples.getLast?

/-- Brings the mean up to date with the samples. Without samples the mean stays; a mean that
equals the old one does not replace it, so a zero keeps its sign. -/
def refresh (w : Window) : Step Float :=
  if w.samples.isEmpty then ⟨.ok w.average, w⟩
  else
    match mean w.samples with
    | .error fault => ⟨.error (.sum fault), w⟩
    | .ok average => ⟨.ok average, if average == w.average then w else { w with average }⟩

/-- Adds a sample to a window that is not over. -/
def observe (w : Window) (now : Timestamp) (sample : Float) : Step Float :=
  match w.isExpired now with
  | .error failure => ⟨.error failure, w⟩
  | .ok true => ⟨.error (.refused (.periodFinished "moving_average" none)), w⟩
  | .ok false => refresh { w with samples := w.samples ++ [sample] }

/-- Closes the window and begins the next one with a sample. -/
def rollOver (w : Window) (now : Timestamp) (sample : Float) (length : Duration) : Step Float :=
  match utc now with
  | .error failure => ⟨.error failure, w⟩
  | .ok start =>
    let begun := { w with lastAverage := w.average, start }
    match finishOf start length with
    | .error failure => ⟨.error failure, begun⟩
    | .ok finish => ⟨.ok sample, { begun with finish, samples := [sample], average := sample }⟩

/-- Adds a sample, to the next window if this one is over. -/
def observeOrRollOver (w : Window) (now : Timestamp) (sample : Float) (length : Duration) :
    Step Update :=
  match w.isExpired now with
  | .ok true =>
    let step := w.rollOver now sample length
    ⟨step.result.map fun average => ⟨average, true⟩, step.window⟩
  | _ =>
    let step := w.observe now sample
    ⟨step.result.map fun average => ⟨average, false⟩, step.window⟩

/-- The line that announces a roll over at a moment, if there is to be one. -/
def expiryLines (w : Window) (now : Timestamp) : Journal :=
  match utc now with
  | .ok moment =>
    if w.finish < moment then
      [⟨.debug, .window, "Window ending " ++ w.finish.iso ++ " expired at " ++ moment.iso
        ++ "; rolling over (last average " ++ showReal w.average ++ ")."⟩]
    else []
  | .error _ => []

end Window

end FarmLedger
