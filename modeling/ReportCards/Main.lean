import ReportCards.CommandLine.Run

namespace ReportCards

def FileFault.ofError : IO.Error → FileFault
  | .noFileOrDirectory .. => .notFound
  | .inappropriateType _ 20 _ => .notADirectory
  | .inappropriateType _ 21 _ => .isADirectory
  | error => .other (toString error)

def readTextFile (path : String) : IO (Except FileFault String) := do
  try
    let bytes ← IO.FS.readBinFile path
    match Text.Utf8.decode? bytes.toList with
    | some text => return .ok text
    | none => return .error .notUtf8
  catch error => return .error (.ofError error)

def settingsDirectory : IO (Option String) := do
  match ← IO.getEnv "XDG_CONFIG_HOME", ← IO.getEnv "HOME" with
  | some directory, home =>
      if directory.toList.head? = some '/' then return some directory
      else return home.map (· ++ "/.config")
  | none, home => return home.map (· ++ "/.config")

def readPlatformSettings : IO (Option String) := do
  match ← settingsDirectory with
  | none => return none
  | some directory => return (← readTextFile (directory ++ "/dashboard/config.toml")).toOption

def RunEvent.line : RunEvent → String
  | readingSettings path => "DEBUG reading settings from " ++ path
  | requesting url => "DEBUG requesting " ++ url
  | rendering id => "DEBUG rendering " ++ id

def processEnvironment (log : IO.Ref (Option IO.FS.Handle)) : Environment IO where
  textAt := readTextFile
  platformSettings := readPlatformSettings
  transport _ _ := return .error (.failed "there is no transport")
  openLog path := do
    try
      log.set (some (← IO.FS.Handle.mk path .append))
      return .ok ()
    catch error => return .error (.ofError error)
  note event := do
    match ← log.get with
    | some handle => handle.putStrLn event.line
    | none => pure ()

def printFailure (failure : RunFailure) : IO Unit := do
  IO.eprintln ("Error: " ++ failure.message)
  match failure.cause? with
  | some cause => IO.eprintln ("\nCaused by:\n    " ++ cause)
  | none => pure ()

end ReportCards

open ReportCards in
def main (arguments : List String) : IO UInt32 := do
  let log ← IO.mkRef none
  let given : Variables :=
    { settings := ← IO.getEnv "DASHBOARD_CONFIG"
      debugLog := ← IO.getEnv "DASHBOARD_DEBUG_LOG" }
  let outcome : RunOutcome ← ((processEnvironment log).run given arguments).run
  IO.print outcome.output
  match outcome with
  | .ok _ => pure ()
  | .error failure => printFailure failure
  return outcome.exitCode
