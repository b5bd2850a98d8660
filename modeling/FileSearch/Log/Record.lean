/-!
# Log records

A record is a message and its level, a number; five levels have names of their own.
-/

set_option autoImplicit false

namespace FileSearch.Log

abbrev Level := Int

def debug : Level := 10
def info : Level := 20
def warning : Level := 30
def error : Level := 40
def critical : Level := 50

structure Record where
  level : Level
  message : String
  deriving DecidableEq, Repr

def levelName (level : Level) : String :=
  if level = critical then "CRITICAL"
  else if level = error then "ERROR"
  else if level = warning then "WARNING"
  else if level = info then "INFO"
  else if level = debug then "DEBUG"
  else if level = 0 then "NOTSET"
  else s!"Level {level}"

def levelMark (level : Level) : String :=
  if level = debug then "DEBG"
  else String.ofList ((levelName level).toList.take 4)

end FileSearch.Log
