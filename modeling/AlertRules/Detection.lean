import AlertRules.Double
import AlertRules.Message.Event

/-!
# Detection of anomalies

A stand-in for a model: an event is an anomaly when its type is `error`.
-/

namespace AlertRules

/-- What is found out about an event. -/
structure Finding where
  eventId : String
  isAnomaly : Bool
  score : Double
  explanation : String

/-- A number of tenths. -/
def tenths (n : Nat) : Double := (Double.ofRatio? false n 10).getD (.zero false)

/-- What is found out about an event. -/
def EventMessage.detect (e : EventMessage) : Finding :=
  if e.eventType = "error" then ⟨e.id, true, tenths 9, "Placeholder detection"⟩
  else ⟨e.id, false, tenths 1, ""⟩

end AlertRules
