import RoadRegistry.CommandLine.Arguments
import RoadRegistry.CommandLine.Listing
import RoadRegistry.CommandLine.Work
import RoadRegistry.Config.Reader
import RoadRegistry.Config.Writer
import RoadRegistry.Service.Supervision

namespace RoadRegistry.CommandLine

def defaultConfigPath : String := "config/roadworks.toml"

/-- The report on a call to the operating system that failed; its reason is not repeated. -/
def systemFailure (attempt : String) : Report := (Report.ofMessage "<io>").context attempt

namespace Commands

open Text.Quoted (quotePath)

def withConfig (path : String) (explain : Report → Report) (next : Config → Work) : Work :=
  .read path fun content =>
    match content with
    | none => .fail (explain (systemFailure ("failed to read config file: " ++ path)))
    | some text =>
      match Config.ofText "failed to parse config file" text with
      | .error report => .fail (explain report)
      | .ok config => next config

def loading (path : String) (report : Report) : Report :=
  report.context ("failed to load config from " ++ quotePath path)

def serve (service : Service) : Work :=
  match service.supervise [.tick, .interrupt] with
  | some (.error report, _) => .fail report
  | _ => .done {}

def start (path : String) (overrides : Overrides) (brokers : Brokers) : Work :=
  withConfig path (loading path) fun config =>
    match Service.create (config.override overrides) brokers with
    | .error report => .fail report
    | .ok service =>
      match service.start with
      | (.error report, _) => .fail report
      | (.ok (), service) => .wait (serve service)

def following : Following Road Unit Unit :=
  ⟨Road.codec, fun _ => 0, fun _ _ _ observer shared => ⟨observer, shared, false⟩⟩

def replay (log : Log) (timeout : Duration) : Except Report (Replica Road Unit) :=
  let stores : Cluster Road Unit Unit := { rehearsal := { log }, shared := () }
  let stores := stores.start following log.topic [] {}
  match stores.waitUntilCaughtUp log.topic timeout, stores.node? log.topic with
  | .ok (), some node => .ok node.replica
  | .ok (), none => .error (.ofStoreError .closed)
  | .error error, _ => .error ((Report.ofStoreError error).context "road topic replay failed")

def inspection (config : Config) (road : Option String) (json : Bool) (brokers : Brokers) :
    Except Report String := do
  let log ← Transport.openLog config config.log.roadTopic brokers
  let replica ← replay log config.store.catchUpTimeout
  Listing.render road json replica

def inspect (path : String) (road : Option String) (json : Bool) (brokers : Brokers) : Work :=
  withConfig path (loading path) fun config =>
    match inspection config road json brokers with
    | .ok text => .print (text ++ "\n")
    | .error report => .fail report

def validationSummary (config : Config) : String :=
  "✓ Configuration is valid\n" ++
    "  mode:        " ++ config.log.mode.name ++ "\n" ++
    "  road topic:  " ++ config.log.roadTopic ++ "\n" ++
    "  patch topic: " ++ config.log.patchTopic ++ "\n" ++
    (if config.agent.enabled then ""
      else "  ⚠ Agent disabled: this process will only replicate the registry\n") ++
    (if config.log.mode = .memory then
      "  ⚠ Memory changelog: registry state is lost on exit\n" else "")

def validateConfig (path : String) : Work :=
  .probe path fun found =>
    if found then withConfig path id fun config => .print (validationSummary config)
    else .fail (.ofMessage ("Config file not found: " ++ quotePath path))

def rendered (config : Config) (format : String) : Except Report String :=
  if format = "json" then .ok config.toJson.wideText
  else if format = "toml" then .ok config.toToml
  else .error (.ofMessage ("unknown format '" ++ format ++ "', expected toml or json"))

def showConfig (path format : String) : Work :=
  withConfig path id fun config =>
    match rendered config format with
    | .ok text => .print (text ++ "\n")
    | .error report => .fail report

def generateConfig (output : Option String) (environment : String) : Work :=
  let template := Config.template (.ofName environment)
  match output with
  | none => .print (template ++ "\n")
  | some path =>
    .write path template fun written =>
      if written then
        .print ("Generated " ++ environment ++ " config template: " ++ quotePath path ++ "\n")
      else .fail (systemFailure ("failed to write " ++ quotePath path))

end Commands

def Arguments.work (arguments : Arguments) (brokers : Brokers := .unreachable) : Work :=
  let path := arguments.config.getD defaultConfigPath
  match arguments.command with
  | .start mode bootstrapServers passive =>
    Commands.start path { logLevel := arguments.logLevel, mode, bootstrapServers, passive } brokers
  | .inspect road json => Commands.inspect path road json brokers
  | .validateConfig => Commands.validateConfig path
  | .showConfig format => Commands.showConfig path format
  | .generateConfig output environment => Commands.generateConfig output environment

end RoadRegistry.CommandLine
