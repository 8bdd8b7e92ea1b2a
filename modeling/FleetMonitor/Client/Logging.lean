namespace FleetMonitor.Logging

inductive Level where
  | error
  | warn
  | info
  | debug
  | trace
  deriving DecidableEq, Repr

def Level.name : Level → String
  | error => "ERROR"
  | warn  => "WARN"
  | info  => "INFO"
  | debug => "DEBUG"
  | trace => "TRACE"

inductive Call where
  | panicHook
  -- Whether the logger could be installed.
  | console (level : Level) (installed : Bool)
  deriving DecidableEq

-- What one set-up asks of the browser. The first logger stays.
def setUp (present : Bool) (level : Level) : List Call :=
  [.panicHook, .console level (!present)]

-- What set-ups ask of the browser one after the other.
def setUpAll : List Level → List Call
  | []      => []
  | l :: ls => setUp false l ++ ls.flatMap (setUp true)

end FleetMonitor.Logging
