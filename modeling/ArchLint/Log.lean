import ArchLint.Disk
import ArchLint.LogLevel

namespace ArchLint

structure Log where
  path : String
  /-- The least level of messages that are written. -/
  threshold : Int := LogLevel.info
  deriving DecidableEq, Repr

namespace Log

def levelWord (level : Int) : String :=
  if level < LogLevel.info then "DEBUG"
  else if level < LogLevel.warn then "INFO"
  else if level < LogLevel.error then "WARN"
  else "ERROR"

def line (level : Int) (message : String) : String :=
  "level=" ++ levelWord level ++ " msg=" ++ message ++ "\n"

/-- The disk after a message is written. -/
def write (log : Log) (disk : Disk) (level : Int) (message : String) : Disk :=
  if level < log.threshold then disk
  else
    let previous := (disk.read log.path).toOption.getD ByteArray.empty
    let made := disk.afterMaking (SlashPath.dir log.path)
    let content := previous ++ Text.toBytes (line level message)
    (made.write log.path content).toOption.getD made

end Log

end ArchLint
