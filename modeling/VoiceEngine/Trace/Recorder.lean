import VoiceEngine.Outcome

/-!
# Recording a trace

A recorder writes to one sink or to none. Starting a recording ends the one at hand, writes
the magic line and the record of a start. A sink that does not take the magic line is let
go; one that takes it is held from then on, also when the first record fails. Ending a
recording lets go of the sink whether or not it could be flushed.

A record that could not be written completely leaves its first bytes in the sink.
-/

namespace VoiceEngine.Trace

/-- A recorder and the sink it writes to. -/
structure Recorder where
  sink : Option Sink := none

namespace Recorder

/-- Whether a recording is going on. -/
def isOpen (recorder : Recorder) : Bool := recorder.sink.isSome

/-- Ends the recording at hand, if there is one. -/
def stop : Act Recorder Unit := fun recorder =>
  match recorder.sink with
  | none => Act.answer () recorder
  | some sink =>
    match sink.flushFailure with
    | none =>
      { result := .ok (), state := {}, notices := [.recordingStopped], released := [sink] }
    | some cause =>
      { result := .error .file, state := {}, notices := [.recordingNotFlushed cause],
        released := [sink] }

/-- Writes one record, if a recording is going on. -/
def write (record : Bytes) : Act Recorder Unit := fun recorder =>
  match recorder.sink with
  | none => Act.answer () recorder
  | some sink =>
    match sink.writeAll record with
    | (none, written) => Act.answer () { sink := some written }
    | (some cause, written) =>
      { result := .error .file, state := { sink := some written },
        notices := [.recordNotWritten cause] }

/-- Begins a recording with a sink, when none is going on. -/
def begin (sink : Sink) (rate : UInt32) : Act Recorder Unit := fun recorder =>
  match sink.writeAll magic with
  | (some cause, written) =>
    { result := .error .file, state := recorder, notices := [.headerNotWritten cause],
      released := [written] }
  | (none, written) => write (Event.started rate.toInt32).bytes { sink := some written }

/-- Ends the recording at hand and begins one with a sink. -/
def start (sink : Sink) (rate : UInt32) : Act Recorder Unit := do
  stop
  begin sink rate

/-- Ends the recording at hand and begins one with a file. Opening the file gives a sink or
says why it gives none; it is not tried when the recording at hand did not end well. -/
def startFile (path : String) (opened : Except String Sink) (rate : UInt32) :
    Act Recorder Unit := do
  stop
  match opened with
  | .error cause =>
    Act.notify (.recordingNotOpened path cause)
    Act.refuse .file
  | .ok sink =>
    Act.notify (.recordingOpened path)
    start sink rate

/-- Records a frame as an event, if a recording is going on and the frame has a record. -/
def recordFrame (event : Frame → Event) (frame : Frame) : Act Recorder Unit := fun recorder =>
  if recorder.isOpen then
    match recordFault frame with
    | some fault => Act.refuse fault recorder
    | none => write (event frame).bytes recorder
  else Act.answer () recorder

end Recorder

end VoiceEngine.Trace
