import HttpsServerSim.Lib.Interleaving
import HttpsServerSim.MsgCenter.ListenCenter
import HttpsServerSim.Server.Sockets

/-!
# The server

`Server` with one thread that calls `init`, `start`, `stop` and `cleanup` in any order. What
the environment decides is an argument of the call: how the configuration file loads, which
system calls fail and which descriptors `socket` gives, and whether `MsgCenter::start` gets
its threads. A call that would follow a null pointer, or read a vector behind its end, has no
result.

Of `MsgCenter` and its IO threads the model has what the server's thread changes: whether they
run, and their tables of listening descriptors. The waits of `graceful_shutdown` change
nothing here.
-/

namespace HttpsServerSim

/-! ## The server -/

structure ListenConfig where
  ip : Bytes
  port : UInt16
  enabled : Bool
  backlog : UInt32
deriving DecidableEq

/-- `Config::validate`. -/
def validate (listens : List ListenConfig) : Bool :=
  !listens.isEmpty && listens.all fun listen => listen.port ≠ 0

inductive ServerError where
  | success
  | invalidState
  | configLoad
  | configValidate
  | socketCreate
  | socketBind
  | socketListen
  | msgCenterStart
  | invalidArgument
  | internal
deriving DecidableEq, Repr

inductive ServerStatusEnum where
  | stopped
  | initializing
  | running
  | shuttingDown
  | error
deriving DecidableEq, Repr

structure Server where
  config : Option (List ListenConfig)
  msgCenter : Option ListenCenter
  listenFds : List ℤ
  listenPorts : List UInt16
  listenIps : List Bytes
  status : ServerStatusEnum
  running : Bool
  gracefulShutdown : Bool
  resourcesCleaned : Bool
  sockets : Sockets

/-- How `load_from_file` ends. -/
inductive ConfigLoad where
  | throws
  | fails
  | loaded (listens : List ListenConfig)

/-- The results of the system calls for one entry; `socket` has the descriptor that the kernel would
give. -/
structure ListenOutcome where
  socket : Option ℕ
  reuseAddr : Bool
  inetPton : Bool
  bind : Bool
  listen : Bool

inductive ServerCall where
  | init (load : ConfigLoad) (outcomes : ℕ → ListenOutcome)
  | start (gotThreads : Bool)
  | stop
  | cleanup

/-- What `get_status` reports of the state and the listeners. -/
structure ServerStatus where
  status : ServerStatusEnum
  listenPort : UInt16
  listenIp : Bytes
deriving DecidableEq

def defaultBacklog : UInt32 := 128

namespace Server

def construct : Server where
  config := none
  msgCenter := none
  listenFds := []
  listenPorts := []
  listenIps := []
  status := .stopped
  running := false
  gracefulShutdown := false
  resourcesCleaned := false
  sockets := .initial

/-- The loop over `listen_fds_` with `::close`. -/
def closeListenFds (server : Server) : Server :=
  { server with
    sockets :=
      server.listenFds.foldl (fun sockets fd => if fd ≥ 0 then sockets.close fd else sockets)
        server.sockets }

def rollbackListenSockets (server : Server) : Server :=
  { server.closeListenFds with listenFds := [], listenPorts := [], listenIps := [] }

def cleanupResources (server : Server) : Server :=
  if server.resourcesCleaned then server
  else
    { server with
      resourcesCleaned := true
      msgCenter := server.msgCenter.map ListenCenter.stop
      running := false
      gracefulShutdown := false }

/-- `cleanup()`, and the destructor. It begins as `rollback_listen_sockets` does. -/
def cleanup (server : Server) : Server :=
  { server.rollbackListenSockets.cleanupResources with
    msgCenter := none
    config := none
    status := .stopped
    resourcesCleaned := false }

def handleInitError (server : Server) : Server := { server with status := .error }.cleanup

/-- One enabled entry in `init_listen_sockets`. -/
def initListenSocket (server : Server) (listenCfg : ListenConfig) (outcome : ListenOutcome) :
    ServerError × Server :=
  match outcome.socket with
  | none => (.socketCreate, server.rollbackListenSockets)
  | some wanted =>
      let fd := server.sockets.fresh wanted
      let created := { server with sockets := server.sockets.socket fd }
      let closed := { created with sockets := created.sockets.close fd }
      if !outcome.reuseAddr then (.internal, closed.rollbackListenSockets)
      else if !outcome.inetPton then (.internal, closed.rollbackListenSockets)
      else
        match inetPton (cString listenCfg.ip) with
        | none => (.invalidArgument, closed.rollbackListenSockets)
        | some address =>
            if !outcome.bind then (.socketBind, closed.rollbackListenSockets)
            else
              let bound := created.sockets.bind fd address listenCfg.port
              if !outcome.listen then
                (.socketListen,
                  { created with sockets := bound.close fd }.rollbackListenSockets)
              else
                let backlog := if listenCfg.backlog > 0 then listenCfg.backlog else defaultBacklog
                (.success,
                  { created with
                    sockets := bound.listen fd backlog.toInt32
                    listenFds := server.listenFds ++ [fd]
                    listenPorts := server.listenPorts ++ [listenCfg.port]
                    listenIps := server.listenIps ++ [listenCfg.ip] })

def initListenSockets (server : Server) (outcomes : ℕ → ListenOutcome) :
    List ListenConfig → ServerError × Server
  | [] => (.success, server)
  | listenCfg :: rest =>
      if !listenCfg.enabled then server.initListenSockets (fun n => outcomes (n + 1)) rest
      else
        match server.initListenSocket listenCfg (outcomes 0) with
        | (.success, server) => server.initListenSockets (fun n => outcomes (n + 1)) rest
        | (error, server) => (error, server)

def init (server : Server) (load : ConfigLoad) (outcomes : ℕ → ListenOutcome) :
    ServerError × Server :=
  if server.status ≠ .stopped then (.invalidState, server)
  else
    let server := { server with status := .initializing }
    match load with
    | .throws => (.internal, server.handleInitError)
    | .fails => (.configLoad, server.handleInitError)
    | .loaded listens =>
        let server := { server with config := some listens }
        if !validate listens then (.configValidate, server.handleInitError)
        else
          match server.initListenSockets outcomes listens with
          | (.success, server) =>
              (.success, { server with msgCenter := some .construct, status := .stopped })
          | (error, server) => (error, server.handleInitError)

/-- The loop of `start` that registers the listeners. -/
def register (center : ListenCenter) (registeredFds : List ℤ) :
    List ℤ → List UInt16 → Option (MsgCenterError × ListenCenter)
  | [], _ => some (.success, center)
  | fd :: fds, port :: ports =>
      match center.addListenFd fd port with
      | (.success, center) => register center (registeredFds ++ [fd]) fds ports
      | (error, center) =>
          some (error, registeredFds.foldl (fun center fd => (center.removeListenFd fd).2) center)
  | _ :: _, [] => none

def start (server : Server) (gotThreads : Bool) : Option (ServerError × Server) :=
  if server.config.isNone ∨ server.status ≠ .stopped then some (.invalidState, server)
  else
    let server := { server with status := .running, running := true }
    match server.msgCenter with
    | none => none
    | some center =>
        match center.start gotThreads with
        | (.success, center) =>
            match register center [] server.listenFds server.listenPorts with
            | none => none
            | some (.success, center) => some (.success, { server with msgCenter := some center })
            | some (_, center) =>
                some
                  (.internal,
                    { { server with msgCenter := some center.stop }.cleanupResources with
                      msgCenter := none
                      config := none
                      status := .stopped
                      running := false
                      resourcesCleaned := false })
        | (_, center) =>
            some
              (.msgCenterStart,
                { server with
                  msgCenter := some center
                  status := .error
                  running := false }.cleanup)

def stopAccepting (server : Server) : Server :=
  match server.msgCenter with
  | none => server
  | some center =>
      { server.closeListenFds with
        msgCenter :=
          some
            (server.listenFds.foldl
              (fun center fd => if fd ≥ 0 then (center.removeListenFd fd).2 else center) center)
        listenFds := [] }

def gracefulShutdownSteps (server : Server) : Server :=
  { { server with gracefulShutdown := true, status := .shuttingDown }.stopAccepting.cleanupResources
    with status := .stopped }

def stop (server : Server) : ServerError × Server :=
  if server.status ≠ .running then (.invalidState, server)
  else (.success, server.gracefulShutdownSteps)

def getStatus (server : Server) : ServerStatus where
  status := server.status
  listenPort := server.listenPorts.head?.getD 0
  listenIp := (cString (server.listenIps.head?.getD [])).take 63

def perform (server : Server) : ServerCall → Option (ServerError × Server)
  | .init load outcomes => some (server.init load outcomes)
  | .start gotThreads => server.start gotThreads
  | .stop => some server.stop
  | .cleanup => some (.success, server.cleanup)

/-- The server after a call. -/
def step (server : Server) (call : ServerCall) : Option Server :=
  (server.perform call).map Prod.snd

/-- The server after a number of calls. -/
def run (server : Server) (calls : List ServerCall) : Option Server :=
  Interleaving.run step server calls

/-- An entry for 127.0.0.1. -/
def localEntry (port : UInt16) : ListenConfig where
  ip := [49, 50, 55, 46, 48, 46, 48, 46, 49]
  port := port
  enabled := true
  backlog := 0

/-- All system calls succeed, and the descriptors are taken in order. -/
def allSucceed (n : ℕ) : ListenOutcome where
  socket := some n
  reuseAddr := true
  inetPton := true
  bind := true
  listen := true

end Server

end HttpsServerSim
