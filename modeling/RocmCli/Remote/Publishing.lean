import RocmCli.Support.Text

namespace RocmCli
namespace Remote

/-!
# Publishing a port of a remote machine

The machine's own Tailscale daemon holds the forwards.  A publish reads what
the daemon says about the port, declares the forward, and reads again; a
withdrawal does the same to remove it.  Each of the three is one remote call,
so each is one stage.
-/

abbrev Line := List Char

/-- A command that is run from this machine. -/
abbrev RunId := Nat

/-- How a remote call came back. -/
inductive Contact where
  /-- The machine was never reached, or its reply was lost. -/
  | lost
  /-- The command exited with a failure. -/
  | refused
  /-- The command succeeded, and its output cannot be read. -/
  | garbled
  /-- The command succeeded. -/
  | answered
  deriving DecidableEq, Repr

/-! ## The serve config -/

/-- A handler on a port.  Which run declared it is not in the config. -/
structure TcpHandler where
  tcpForward : Option Line
  https : Bool
  http : Bool
  terminateTls : Option Line
  declaredBy : Option RunId
  deriving DecidableEq, Repr

def TcpHandler.describeHolder (handler : TcpHandler) : Line :=
  if handler.https then "an existing Tailscale HTTPS handler".toList
  else if handler.http then "an existing Tailscale HTTP handler".toList
  else if handler.terminateTls.isSome then
    "an existing Tailscale TLS-terminating handler".toList
  else "an existing Tailscale handler this CLI does not recognise".toList

structure NestedConfig where
  tcp : List (Nat × TcpHandler)
  allowFunnel : List (Nat × Bool)
  deriving DecidableEq, Repr

/-- What the daemon reports, with its keys read as ports. -/
structure ServeConfig where
  tcp : List (Nat × TcpHandler)
  foreground : List NestedConfig
  services : List NestedConfig
  allowFunnel : List (Nat × Bool)
  deriving DecidableEq, Repr

def handlerAt (handlers : List (Nat × TcpHandler)) (port : Nat) : Option TcpHandler :=
  (handlers.find? fun entry => entry.1 == port).map Prod.snd

def funnelAllowedForPort (allowFunnel : List (Nat × Bool)) (port : Nat) : Bool :=
  allowFunnel.any fun entry => entry.2 && entry.1 == port

/-- What the machine says about one port. -/
inductive PublishState where
  | published
  | absent
  | foreign (forwardsTo : Line)
  | funnelAllowed
  | unreadable
  deriving DecidableEq, Repr

def forwardTarget (remotePort : Nat) : Line := "127.0.0.1:".toList ++ Nat.toDigits 10 remotePort

def classify (config : ServeConfig) (tailnetPort remotePort : Nat) : PublishState :=
  let funnelAnywhere := funnelAllowedForPort config.allowFunnel tailnetPort ||
    (config.foreground ++ config.services).any fun nested =>
      funnelAllowedForPort nested.allowFunnel tailnetPort
  if funnelAnywhere then .funnelAllowed
  else
    let handler := (handlerAt config.tcp tailnetPort).or
      ((config.foreground ++ config.services).findSome? fun nested =>
        handlerAt nested.tcp tailnetPort)
    match handler with
    | none => .absent
    | some handler =>
      match handler.tcpForward with
      | none => .foreign handler.describeHolder
      | some forward =>
          if forward = forwardTarget remotePort then .published else .foreign forward

/-- The machine's Tailscale daemon, which is asked to declare a forward of a
port for a run, and to turn one off. -/
structure TailscaleDaemon where
  declare : ServeConfig -> (tailnetPort remotePort : Nat) -> RunId -> ServeConfig
  turnOff : ServeConfig -> (tailnetPort : Nat) -> ServeConfig

/-! ## Publishing and withdrawing -/

inductive PublishFailure where
  | unreachable
  | stateNotRead
  | forwardsElsewhere (holder : Line)
  | funnelAllowed
  | notChecked
  | refused
  | notActive
  | notConfirmed
  | stillPublished
  deriving DecidableEq, Repr

/-- The three remote calls of a publish or a withdrawal. -/
inductive Stage where
  | check
  | act
  | confirm
  deriving DecidableEq, Repr

/-- Where one call leads. -/
inductive StageResult where
  | next (stage : Stage)
  | done
  | failed (failure : PublishFailure)
  deriving DecidableEq, Repr

/-- What a read of the state comes back with. -/
def publishState (config : ServeConfig) (tailnetPort remotePort : Nat) :
    Contact -> Except PublishFailure PublishState
  | .lost => .error .unreachable
  | .refused => .error .stateNotRead
  | .garbled => .ok .unreadable
  | .answered => .ok (classify config tailnetPort remotePort)

/-- One call of a publish.  A call that declares the forward acts or not,
whatever comes back. -/
def publishStep (daemon : TailscaleDaemon) (config : ServeConfig) (tailnetPort remotePort : Nat)
    (run : RunId) (contact : Contact) (acts : Bool) : Stage -> ServeConfig × StageResult
  | .check =>
    (config, match publishState config tailnetPort remotePort contact with
      | .error failure => .failed failure
      | .ok .absent | .ok .published => .next .act
      | .ok (.foreign holder) => .failed (.forwardsElsewhere holder)
      | .ok .funnelAllowed => .failed .funnelAllowed
      | .ok .unreadable => .failed .notChecked)
  | .act =>
    (if acts then daemon.declare config tailnetPort remotePort run else config,
      match contact with
      | .lost => .failed .unreachable
      | .refused => .failed .refused
      | .garbled | .answered => .next .confirm)
  | .confirm =>
    (config, match publishState config tailnetPort remotePort contact with
      | .error failure => .failed failure
      | .ok .published => .done
      | .ok .absent => .failed .notActive
      | .ok (.foreign holder) => .failed (.forwardsElsewhere holder)
      | .ok .funnelAllowed => .failed .funnelAllowed
      | .ok .unreadable => .failed .notConfirmed)

/-- One call of a withdrawal. -/
def withdrawStep (daemon : TailscaleDaemon) (config : ServeConfig) (tailnetPort remotePort : Nat)
    (contact : Contact) (acts : Bool) : Stage -> ServeConfig × StageResult
  | .check =>
    (config, match publishState config tailnetPort remotePort contact with
      | .error failure => .failed failure
      | .ok .published => .next .act
      | .ok .absent => .done
      | .ok (.foreign holder) => .failed (.forwardsElsewhere holder)
      | .ok .funnelAllowed => .failed .funnelAllowed
      | .ok .unreadable => .failed .notChecked)
  | .act =>
    (if acts then daemon.turnOff config tailnetPort else config,
      match contact with
      | .lost => .failed .unreachable
      | .refused => .failed .refused
      | .garbled | .answered => .next .confirm)
  | .confirm =>
    (config, match publishState config tailnetPort remotePort contact with
      | .error failure => .failed failure
      | .ok .absent | .ok (.foreign _) => .done
      | .ok .published => .failed .stillPublished
      | .ok .funnelAllowed => .failed .funnelAllowed
      | .ok .unreadable => .failed .notConfirmed)

end Remote
end RocmCli
