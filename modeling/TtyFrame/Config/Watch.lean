import TtyFrame.Config.Load

/-!
# Watching a configuration file

A watch remembers the settings it last saw and reports those that differ from them.
-/

set_option autoImplicit false

namespace TtyFrame.Config

structure Watch where
  /-- The settings last loaded. -/
  current : Config

/-- What the file system reports in one go. -/
inductive Watch.Batch where
  | failed
  /-- Some paths have changed; the configuration file is one of them or not. -/
  | changed (configured : Bool)
deriving DecidableEq, Repr

namespace Watch

def start (source : Source) : Watch := ⟨(load source).1⟩

/-- Takes a batch and the source at that moment; gives the settings to report, if any. -/
def observe (watch : Watch) (batch : Batch) (source : Source) : Watch × Option Config :=
  match batch with
  | .failed => (watch, none)
  | .changed false => (watch, none)
  | .changed true =>
    let config := (load source).1
    if config = watch.current then (watch, none) else (⟨config⟩, some config)

def observeAll (watch : Watch) : List (Batch × Source) → Watch × List Config
  | [] => (watch, [])
  | (batch, source) :: rest =>
    let (next, report) := watch.observe batch source
    let (last, reports) := next.observeAll rest
    (last, report.toList ++ reports)

end Watch

end TtyFrame.Config
