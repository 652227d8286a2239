import Switchboard.SetupError
import Switchboard.Json.Decode

/-!
# Settings of a bus

How long its queue is and how many workers serve it.  A bus is only made of settings that
`DispatcherConfig.validate` accepts.
-/

namespace Switchboard

/-- Length of the queue and number of workers of a bus. -/
structure DispatcherConfig where
  bufferSize : Nat
  workers : Nat
  deriving DecidableEq

namespace DispatcherConfig

/-- The settings of a bus for which nothing is said. -/
def standard : DispatcherConfig := ⟨100, 8⟩

/-- Accept settings with a queue of possible length and at least one worker; the first fault in
this order is given. -/
def validate (c : DispatcherConfig) : Except SetupError Unit :=
  if c.bufferSize = 0 then .error (.invalidConfig .noBuffer)
  else if maxCapacity < c.bufferSize then .error (.invalidConfig .bufferTooLarge)
  else if c.workers = 0 then .error (.invalidConfig .noWorkers)
  else .ok ()

/-- The fields of the settings. -/
def form : RecordForm Json Json.Fault DispatcherConfig :=
  ⟨"InMemoryDispatcherConfig",
    [Json.field "buffer_size" Json.asNat fun c n => ⟨n, c.workers⟩,
      Json.field "workers" Json.asNat fun c n => ⟨c.bufferSize, n⟩]⟩

/-- Read settings; what is not said is standard. -/
def ofJson (v : Json) : Except Json.Fault DispatcherConfig :=
  Json.asPartialRecord form standard v

/-- The data that stands for settings. -/
def toJson (c : DispatcherConfig) : Json :=
  .object [("buffer_size", .int c.bufferSize), ("workers", .int c.workers)]

/-- Exactly the settings within these bounds are accepted. -/
theorem validate_eq_ok_iff {c : DispatcherConfig} :
    c.validate = .ok () ↔ 1 ≤ c.bufferSize ∧ c.bufferSize ≤ maxCapacity ∧ 1 ≤ c.workers := by
  unfold validate
  repeat' split
  all_goals simp_all
  all_goals omega

end DispatcherConfig
end Switchboard
