import VoiceEngine.Decimal
import VoiceEngine.Rack

/-!
# Effects as text

For people who look for a fault, every effect can be written out with all it knows: the
name of a record, then its fields by name in their order, with lists, optional values and
nested records written the same way throughout.
-/

namespace VoiceEngine.Inspect

/-- A record: its name and its fields. -/
def record (name : String) (fields : List (String × String)) : String :=
  name ++ " \x7b " ++ String.intercalate ", " (fields.map fun field => field.1 ++ ": " ++ field.2)
    ++ " \x7d"

/-- A list. -/
def sequence {α : Type} (text : α → String) (items : List α) : String :=
  "[" ++ String.intercalate ", " (items.map text) ++ "]"

/-- A value that may be missing. -/
def optional {α : Type} (text : α → String) : Option α → String
  | none => "None"
  | some value => "Some(" ++ text value ++ ")"

/-- A truth value. -/
def flag (value : Bool) : String := if value then "true" else "false"

/-- A count. -/
def count (value : Nat) : String := toString value

/-- An integer. -/
def integer (value : Int) : String := toString value

/-- A scalar. -/
def scalar (value : Scalar) : String := (Decimal.ofScalar value).text

/-- A sum of scalars. -/
def sum (value : Float) : String := (Decimal.ofSum value).text

/-- A list of scalars. -/
def scalars (values : List Scalar) : String := sequence scalar values

/-- A word of a filter. -/
def word (value : Int16) : String := integer value.toInt

/-- The record name of an effect. -/
def recordName : EffectKind → String
  | .echoCanceller => "EchoCancellation"
  | .mobileEchoControl => "EchoControlMobile"
  | .gainControl => "GainControl"
  | .highPass => "HighPassFilter"
  | .levelMeter => "LevelEstimator"
  | .noiseSuppressor => "NoiseSuppression"
  | .voiceDetector => "VoiceDetection"

/-- The name of an echo suppression. -/
def suppression : EchoCanceller.Suppression → String
  | .low => "Low"
  | .moderate => "Moderate"
  | .high => "High"

/-- The name of an acoustic routing. -/
def routing : MobileEchoControl.Routing → String
  | .quietEarpieceOrHeadset => "QuietEarpieceOrHeadset"
  | .earpiece => "Earpiece"
  | .loudEarpiece => "LoudEarpiece"
  | .speakerphone => "Speakerphone"
  | .loudSpeakerphone => "LoudSpeakerphone"

/-- The name of a gain mode. -/
def gainMode : GainControl.Mode → String
  | .adaptiveAnalog => "AdaptiveAnalog"
  | .adaptiveDigital => "AdaptiveDigital"
  | .fixedDigital => "FixedDigital"

/-- The name of a noise suppression. -/
def strength : NoiseSuppressor.Strength → String
  | .low => "Low"
  | .moderate => "Moderate"
  | .high => "High"
  | .veryHigh => "VeryHigh"

/-- The name of a voice likelihood. -/
def likelihood : VoiceDetector.Likelihood → String
  | .veryLow => "VeryLow"
  | .low => "Low"
  | .moderate => "Moderate"
  | .high => "High"

/-- A metric. -/
def metric (metric : Metric) : String :=
  record "StatisticTracker"
    [("sum", sum metric.sum), ("count", count metric.count), ("instant", scalar metric.instant),
      ("maximum", scalar metric.maximum), ("minimum", scalar metric.minimum)]

/-- The metrics of an echo canceller. -/
def metrics (metrics : EchoCanceller.Metrics) : String :=
  record "MetricsTrackers"
    [("erl", metric metrics.echoReturnLoss), ("erle", metric metrics.enhancement),
      ("rerl", metric metrics.residualReturnLoss), ("a_nlp", metric metrics.suppressorLoss)]

/-- One channel of an echo canceller. -/
def cancellerChannel (channel : EchoCanceller.Channel) : String :=
  record "ChannelCanceller"
    [("weights", scalars channel.weights), ("suppression_gain", scalar channel.gain),
      ("linear_output", scalars channel.left), ("echo_estimate", scalars channel.echo)]

/-- An echo canceller. -/
def echoCanceller (effect : EchoCanceller) : String :=
  record (recordName .echoCanceller)
    [("enabled", flag effect.enabled),
      ("suppression_level", suppression effect.suppression),
      ("drift_compensation_enabled", flag effect.compensatesDrift),
      ("metrics_enabled", flag effect.measures),
      ("device_sample_rate_hz", count effect.deviceHz),
      ("stream_drift_samples", integer effect.drift),
      ("was_stream_drift_set", flag effect.driftIsSet),
      ("stream_has_echo", flag effect.hasEcho),
      ("taps", count effect.farEnd.taps),
      ("max_delay_samples", count effect.farEnd.maxDelay),
      ("samples_per_ms", count effect.farEnd.samplesPerMs),
      ("far_end", scalars effect.farEnd.history),
      ("channels", sequence cancellerChannel effect.channels),
      ("metrics", metrics effect.metrics)]

/-- One channel of a mobile echo control. -/
def mobileChannel (channel : MobileEchoControl.Channel) : String :=
  record "MobileChannel"
    [("echo_path_gain", scalar channel.pathGain), ("suppression_gain", scalar channel.gain),
      ("noise_floor", optional scalar channel.noiseFloor)]

/-- A mobile echo control. -/
def mobileEchoControl (effect : MobileEchoControl) : String :=
  record (recordName .mobileEchoControl)
    [("enabled", flag effect.enabled),
      ("routing_mode", routing effect.routing),
      ("comfort_noise_enabled", flag effect.comfortNoise),
      ("samples_per_ms", count effect.farEnd.samplesPerMs),
      ("max_delay_samples", count effect.farEnd.maxDelay),
      ("far_end", scalars effect.farEnd.history),
      ("channels", sequence mobileChannel effect.channels),
      ("seed", count effect.seed.toNat)]

/-- A gain control. -/
def gainControl (effect : GainControl) : String :=
  record (recordName .gainControl)
    [("enabled", flag effect.enabled),
      ("mode", gainMode effect.mode),
      ("analog_level_minimum", integer effect.minVolume),
      ("analog_level_maximum", integer effect.maxVolume),
      ("target_level_dbfs", integer effect.target),
      ("compression_gain_db", integer effect.compression),
      ("limiter_enabled", flag effect.limits),
      ("analog_capture_level", integer effect.volume),
      ("was_analog_level_set", flag effect.volumeIsSet),
      ("recommended_analog_level", integer effect.recommended),
      ("stream_is_saturated", flag effect.isSaturated),
      ("capture_level_dbfs", scalar effect.level),
      ("far_end_active", flag effect.farEndIsActive),
      ("gain_db", scalar effect.gain)]

/-- One filter of a high-pass filter. -/
def filter (filter : HighPass.Filter) : String :=
  let c := filter.coefficients
  record "FilterState"
    [("x", sequence word [filter.input1, filter.input2]),
      ("y", sequence word [filter.high1, filter.fraction1, filter.high2, filter.fraction2]),
      ("ba", sequence integer [c.b0, c.b1, c.b2, c.a1, c.a2])]

/-- A high-pass filter. -/
def highPass (effect : HighPass) : String :=
  record (recordName .highPass)
    [("enabled", flag effect.enabled), ("filters", sequence filter effect.filters)]

/-- One measurement of a level meter. -/
def measurement (measurement : LevelMeter.Measurement) : String :=
  record "RmsLevel"
    [("sum_square", sum (Float.ofNat measurement.sumOfSquares)),
      ("sample_count", count measurement.sampleCount)]

/-- A level meter. -/
def levelMeter (meter : LevelMeter) : String :=
  record (recordName .levelMeter)
    [("enabled", flag meter.enabled), ("capture", measurement meter.captured),
      ("render", measurement meter.rendered)]

/-- One channel of a noise suppressor. -/
def suppressorChannel (channel : NoiseSuppressor.Channel) : String :=
  record "ChannelState"
    [("noise_floor", optional scalar channel.noiseFloor), ("gain", scalar channel.gain)]

/-- A noise suppressor. -/
def noiseSuppressor (effect : NoiseSuppressor) : String :=
  record (recordName .noiseSuppressor)
    [("enabled", flag effect.enabled), ("level", strength effect.strength),
      ("channels", sequence suppressorChannel effect.channels)]

/-- A voice detector. -/
def voiceDetector (effect : VoiceDetector) : String :=
  record (recordName .voiceDetector)
    [("enabled", flag effect.enabled),
      ("likelihood", likelihood effect.likelihood),
      ("frame_size_ms", count effect.windowMs),
      ("stream_has_voice", flag effect.hasVoice),
      ("using_external_vad", flag effect.decidedOutside),
      ("noise_floor_dbfs", optional scalar effect.noiseFloor),
      ("hangover", count effect.hangover),
      ("window_energy", scalar effect.windowPower),
      ("window_frames", count effect.windowFrames)]

/-- The effect of a given kind. -/
def effect (rack : Rack) : EffectKind → String
  | .echoCanceller => echoCanceller rack.echoCanceller
  | .mobileEchoControl => mobileEchoControl rack.mobileEchoControl
  | .gainControl => gainControl rack.gainControl
  | .highPass => highPass rack.highPass
  | .levelMeter => levelMeter rack.levelMeter
  | .noiseSuppressor => noiseSuppressor rack.noiseSuppressor
  | .voiceDetector => voiceDetector rack.voiceDetector

/-- A handle on the effect of a given kind; a handle knows more than it shows. -/
def handle (rack : Rack) (kind : EffectKind) : String :=
  "ComponentGuard \x7b kind: " ++ recordName kind ++ ", component: " ++ effect rack kind ++
    ", .. \x7d"

end VoiceEngine.Inspect
