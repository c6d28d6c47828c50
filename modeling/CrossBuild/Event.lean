/-!
Messages for the user and lines for the log.  A restartable computation collects its events in a
buffer, and they reach a listener only when the computation has come to an end.
-/

namespace CrossBuild

inductive Event where
  | info (message : String)
  | warning (message : String)
  | error (message : String)
deriving DecidableEq, Inhabited

inductive LogLevel where
  | debug
  | info
  | warn
  | error
deriving DecidableEq, Inhabited

structure LogLine where
  level : LogLevel
  message : String
deriving DecidableEq, Inhabited

instance : ToString LogLevel where
  toString
    | .debug => "DEBUG"
    | .info => "INFO"
    | .warn => "WARN"
    | .error => "ERROR"

instance : ToString LogLine := ⟨fun line => toString line.level ++ " " ++ line.message⟩

namespace Event

def message : Event → String
  | info message | warning message | error message => message

instance : ToString Event where
  toString
    | .info message => "INFO: " ++ message
    | .warning message => "WARNING: " ++ message
    | .error message => "ERROR: " ++ message

def logLine : Event → LogLine
  | info message => { level := .info, message := message }
  | warning message => { level := .warn, message := message }
  | error message => { level := .error, message := message }

end Event

inductive Notice where
  | log (line : LogLine)
  | event (event : Event)
deriving DecidableEq

namespace Notice

def debug (message : String) : Notice := .log { level := .debug, message := message }

def logLine? : Notice → Option LogLine
  | .log line => some line
  | .event _ => none

def event? : Notice → Option Event
  | .log _ => none
  | .event received => some received

end Notice

inductive Listener where
  | collecting
  | logging
deriving DecidableEq, Inhabited

def Listener.handle : Listener → Event → Notice
  | collecting, event => .event event
  | logging, event => .log event.logLine

structure EventBuffer where
  events : List Event := []
deriving DecidableEq, Inhabited

namespace EventBuffer

def record (buffer : EventBuffer) (event : Event) : EventBuffer :=
  { events := buffer.events ++ [event] }

def info (buffer : EventBuffer) (message : String) : EventBuffer := buffer.record (.info message)

def warn (buffer : EventBuffer) (message : String) : EventBuffer :=
  buffer.record (.warning message)

def size (buffer : EventBuffer) : Nat := buffer.events.length

def isEmpty (buffer : EventBuffer) : Bool := buffer.events.isEmpty

def flush (buffer : EventBuffer) (listener : Listener) : List Notice :=
  buffer.events.map listener.handle

end EventBuffer

structure EventCollection where
  events : List Event := []
deriving DecidableEq, Inhabited

namespace EventCollection

def receive (collection : EventCollection) (notices : List Notice) : EventCollection :=
  { events := collection.events ++ notices.filterMap Notice.event? }

def take (collection : EventCollection) : List Event × EventCollection :=
  (collection.events, {})

end EventCollection

end CrossBuild
