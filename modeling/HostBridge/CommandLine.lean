import HostBridge.Evaluation
import HostBridge.Host.Config
import HostBridge.Host.Hosting
import HostBridge.Host.Plugins
import HostBridge.SelfTest.Scenarios

/-!
# The command line

The program loads its configuration, binds the members of the self-test and of
the plugins it finds, runs the self-test and, if asked, writes a report. It
succeeds if every step could be done; failed scenarios count only if the
configuration says so.
-/

namespace HostBridge.CommandLine

/-- **The value that follows a flag.** -/
def argument? (flag : String) : List String → Option String
  | [] => none
  | arg :: rest => if arg = flag then rest.head? else argument? flag rest

/-- Where the configuration is. -/
def configPath (args : List String) : String := (argument? "--config" args).getD "bridge_d.json"

/-- Where the report goes, if one is asked for. -/
def reportPath? (args : List String) : Option String := argument? "--report" args

/-- **What the program runs** once everything is bound: the self-test, and the
collection at shutdown. -/
def session (c : Config) (run : Runner) : Run (Except ScriptError Report) := do
  match SelfTest.assembly c.host.assembly with
  | .error e => return .error e
  | .ok image =>
    Run.changeDomain (·.provide image)
    match ← SelfTest.runAll run mainThread c.host.assembly with
    | .error e => return .error e
    | .ok report =>
      if c.runtime.collectOnShutdown then
        let collected ← Run.collect run mainThread
        return .ok { report with collected := UInt64.ofNat collected }
      else return .ok report

/-- **The report of a session** on a registry, with its journal. -/
def report? (c : Config) (r : Registry) : Option Report :=
  let world := World.start r .empty c.runtime.domain c.runtime.maxCallDepth.toNat
  match (session c .standard).advance world with
  | (.done (.ok report), w) => some { report with journal := (Event.journal w.history).reverse }
  | _ => none

/-- The registry of the program: its own bindings and those of the modules. -/
def registry? (modules : List LoadedModule) : Option Registry := do
  let own ← match Registry.empty.addAll SelfTest.additions with
    | (.ok (), r) => some r
    | _ => none
  match Plugins.registerAll (Plugins.equip modules) own with
  | (.ok (), r, _) => (({} : Host).install r).1.toOption
  | _ => none

/-- The end of the program: the report is written, and the scenarios count. -/
def finish (c : Config) (path : Option String) (report : Report) : FileProgram Bool := do
  let written : Bool ← match path with
    | some path => FileProgram.op (.write path report.write)
    | none => pure true
  return written && (report.passed || !c.host.abortOnManagedFault)

/-- **The program.** The answer tells whether it succeeded. -/
def program (args : List String) : FileProgram Bool := do
  let loaded ← Config.load? (configPath args)
  let c := loaded.getD {}
  let dir ← Plugins.directory c.host.pluginsDir
  match ← Plugins.load? dir with
  | none => return false
  | some modules =>
    match registry? modules with
    | none => return false
    | some r =>
      match report? c r with
      | none => return false
      | some report => finish c (reportPath? args) report

end HostBridge.CommandLine
