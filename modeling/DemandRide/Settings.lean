import DemandRide.Number.Style
import DemandRide.Text.Blank

/-! The constants of the service and of walks, fixed for a whole run, and the ranges they have
to lie in. -/
namespace DemandRide

/-- How travellers get on and off. -/
inductive OperatingScheme where
  /-- At any link. -/
  | doorToDoor
  /-- At designated stops. -/
  | stopBased
  /-- At stops derived from every link inside the service area. -/
  | serviceAreaBased
deriving DecidableEq, Repr

namespace OperatingScheme

def usesStops : OperatingScheme → Bool
  | .doorToDoor => false
  | .stopBased => true
  | .serviceAreaBased => true

/-- The name of the scheme in messages and log entries. -/
def label : OperatingScheme → String
  | .doorToDoor => "DoorToDoor"
  | .stopBased => "StopBased"
  | .serviceAreaBased => "ServiceAreaBased"

end OperatingScheme

/-- Which constant is out of range, with its value, or what the scheme lacks. -/
inductive SettingsError (α : Type) where
  | emptyMode
  | alphaBelowOne (value : α)
  | negativeBeta (value : α)
  | negativeWaitTime (value : α)
  | nonPositiveWalkDistance (value : α)
  | nonPositiveWalkSpeed (value : α)
  | beelineFactorBelowOne (value : α)
  | missingStopFinder (scheme : OperatingScheme)
deriving DecidableEq, Repr

def SettingsError.message : SettingsError Float → String
  | .emptyMode => "service mode must not be empty"
  | .alphaBelowOne value =>
    "maxTravelTimeAlpha must be at least 1, got " ++ NumberStyle.message.text value
  | .negativeBeta value =>
    "maxTravelTimeBeta must be non-negative, got " ++ NumberStyle.message.text value
  | .negativeWaitTime value =>
    "maxWaitTime must be non-negative, got " ++ NumberStyle.message.text value
  | .nonPositiveWalkDistance value =>
    "maxWalkDistance must be positive, got " ++ NumberStyle.message.text value
  | .nonPositiveWalkSpeed value =>
    "walk speed must be positive, got " ++ NumberStyle.message.text value
  | .beelineFactorBelowOne value =>
    "beelineDistanceFactor must be at least 1, got " ++ NumberStyle.message.text value
  | .missingStopFinder scheme =>
    "operating scheme " ++ scheme.label ++ " requires a stop finder"

/-- The constants of the service. -/
structure ServiceSettings (α : Type) where
  /-- The mode of ride legs; the names of stages and fallback walks derive from it. -/
  mode : String
  scheme : OperatingScheme
  /-- The factor of the direct time in the bound on a ride. -/
  alpha : α
  /-- The seconds added to it. -/
  beta : α
  maxWaitTime : α
  /-- Whether door-to-door trips walk to the pickup link and from the drop-off link. -/
  walksToRide : Bool
  /-- Whether every trip that falls back to walking is reported. -/
  reportsFallbacks : Bool
  /-- How far away a stop may lie, in metres. -/
  maxWalkDistance : α
deriving DecidableEq, Repr

namespace ServiceSettings

variable {α : Type} [Scalar α]

/-- The settings of a service nobody has said anything about. -/
def default : ServiceSettings α where
  mode := "drt"
  scheme := .doorToDoor
  alpha := Scalar.ofDecimal 17 1
  beta := 120
  maxWaitTime := 600
  walksToRide := false
  reportsFallbacks := true
  maxWalkDistance := 500

/-- The default settings but for the mode, the scheme and the bound on rides. -/
def ofBound (mode : String) (scheme : OperatingScheme) (alpha beta : α) : ServiceSettings α :=
  { default with mode := mode, scheme := scheme, alpha := alpha, beta := beta }

/-- The longest a ride may take whose direct path takes `unsharedRideTime`. -/
def maxTravelTime (settings : ServiceSettings α) (unsharedRideTime : α) : α :=
  settings.alpha * unsharedRideTime + settings.beta

/-- The type of boarding and alighting activities. -/
def stageType (settings : ServiceSettings α) : String := settings.mode ++ " interaction"

/-- The mode of walks that stand in for the service. -/
def fallbackMode (settings : ServiceSettings α) : String := settings.mode ++ "_walk"

/-- Check every constant, in order. -/
def validate (settings : ServiceSettings α) : Except (SettingsError α) Unit :=
  if Text.isBlank settings.mode then .error .emptyMode
  else if Scalar.isNaN settings.alpha || Scalar.lt settings.alpha 1 then
    .error (.alphaBelowOne settings.alpha)
  else if Scalar.isNaN settings.beta || Scalar.lt settings.beta 0 then
    .error (.negativeBeta settings.beta)
  else if Scalar.isNaN settings.maxWaitTime || Scalar.lt settings.maxWaitTime 0 then
    .error (.negativeWaitTime settings.maxWaitTime)
  else if Scalar.isNaN settings.maxWalkDistance || Scalar.le settings.maxWalkDistance 0 then
    .error (.nonPositiveWalkDistance settings.maxWalkDistance)
  else .ok ()

end ServiceSettings

/-- The constants of walks. -/
structure WalkSettings (α : Type) where
  /-- Metres per second. -/
  speed : α
  /-- The walked distance over the beeline. -/
  beelineFactor : α
  /-- Whether walks lead off the network between a place and its link. -/
  accessEgress : Bool
deriving DecidableEq, Repr

namespace WalkSettings

variable {α : Type} [Scalar α]

def default : WalkSettings α where
  speed := Scalar.ofDecimal 83333 5
  beelineFactor := Scalar.ofDecimal 13 1
  accessEgress := false

/-- Check that walks take a finite time that is not negative. -/
def validate (settings : WalkSettings α) : Except (SettingsError α) Unit :=
  if !Scalar.isFinite settings.speed || Scalar.le settings.speed 0 then
    .error (.nonPositiveWalkSpeed settings.speed)
  else if !Scalar.isFinite settings.beelineFactor || Scalar.lt settings.beelineFactor 1 then
    .error (.beelineFactorBelowOne settings.beelineFactor)
  else .ok ()

end WalkSettings

end DemandRide
